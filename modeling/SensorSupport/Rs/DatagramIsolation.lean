/-
# Datagrams in recycled buffers (`rs_driver/driver/input/*.hpp`, `driver/lidar_driver_impl.hpp`)

The inputs receive a datagram into a buffer that they get from `packetGet`, which
recycles buffers without clearing them, and set a window on it: `setData` skips the
bytes of a user layer and leaves those of a tail. `internalProcessPacket` tells the
kind of a packet by its first bytes, and the decoder then checks its length and id.

The input by `epoll` computes the length of its window with a subtraction that wraps,
the one by `select` checks it before, and the one of a file takes the length that the
packet had on the wire, not the one that was captured. And the first bytes are looked
at before any length: behind a datagram of one byte they are those of an earlier one
(`stale_header`). Where the windows are inside their datagrams, and their bytes decide
their kind, nothing else matters (`datagrams_isolated`).

A decoder is its lengths, its ids, and what it makes of the bytes of its structures,
whose sizes are these lengths; those of the numbered lidars are an instance.

Key definitions: `Buffer`, `PacketDecoder`, `InputDriver`, `Decided`, `Fits`.
Key theorems: `recvEpoll_inside_iff`, `internalProcessPacket_same`, `datagrams_isolated`,
`stale_header`.
-/
import Mathlib.Data.List.Forall2
import SensorSupport.Lib.Memory
import SensorSupport.Lib.Run
import SensorSupport.Rs.FramePartition

namespace SensorSupport
namespace Rs

/-! ### Buffers -/

/-- `ETH_LEN`, the size of the buffers. -/
def ethLen : ℕ := 1546

/-- `Buffer`: its memory, and the window on it. Of the bytes from its start on,
`received` are of the datagram. -/
structure Buffer where
  mem : Mem
  dataOff : ℕ
  dataSize : UInt64
  received : ℕ

namespace Buffer

/-- A buffer that was used, or is new. -/
def recycled (mem : Mem) : Buffer := ⟨mem, 0, 0, 0⟩

def data (pkt : Buffer) : Mem := fun i => pkt.mem (pkt.dataOff + i)

/-- The first bytes of the window, of which there may be fewer. -/
def bytes (pkt : Buffer) (n : ℕ) : List UInt8 := pkt.mem.bytes pkt.dataOff n

def window (pkt : Buffer) : List UInt8 := pkt.bytes pkt.dataSize.toNat

def setData (dataOff : ℕ) (dataSize : UInt64) (pkt : Buffer) : Buffer :=
  { pkt with dataOff := dataOff, dataSize := dataSize }

/-- The window is inside the datagram. -/
def Inside (pkt : Buffer) : Prop := pkt.dataOff + pkt.dataSize.toNat ≤ pkt.received

end Buffer

/-- `packetGet`: a recycled buffer, or a new one. -/
def packetGet : List Buffer → Buffer × List Buffer
  | [] => (.recycled fun _ => 0, [])
  | pkt :: free => (pkt, free)

/-! ### Inputs -/

inductive InputType
  | epoll
  | select
  | pcap
deriving DecidableEq

/-- `RSInputParam`, and whether a packet callback is registered. -/
structure InputParam where
  inputType : InputType
  userLayerBytes : UInt16
  tailLayerBytes : UInt16
  useVlan : Bool
  putsPackets : Bool

namespace InputParam

/-- `sock_offset_` -/
def sockOffset (param : InputParam) : ℕ := param.userLayerBytes.toNat

/-- `sock_tail_` -/
def sockTail (param : InputParam) : ℕ := param.tailLayerBytes.toNat

/-- `pcap_offset_`: the headers of Ethernet, IP and UDP, and of a VLAN. -/
def pcapOffset (param : InputParam) : ℕ :=
  42 + (if param.useVlan then 4 else 0) + param.userLayerBytes.toNat

/-- `pcap_tail_` -/
def pcapTail (param : InputParam) : ℕ := param.tailLayerBytes.toNat

/-- `dataLen` of a packet in a file: the difference as `int`. -/
def dataLen (param : InputParam) (len : UInt32) : ℤ :=
  Int.bmod ((len.toNat : ℤ) - param.pcapOffset - param.pcapTail) (2 ^ 32)

end InputParam

/-- A datagram in a buffer; what does not fit is cut off. -/
def Buffer.recv (datagram : List UInt8) (pkt : Buffer) : Buffer :=
  { pkt with mem := pkt.mem.set 0 (datagram.take ethLen), received := min datagram.length ethLen }

/-- `ret - sock_offset_ - sock_tail_` as `size_t`. -/
def InputParam.windowSize (param : InputParam) (ret : ℕ) : UInt64 :=
  UInt64.ofNat ret - UInt64.ofNat param.sockOffset - UInt64.ofNat param.sockTail

/-- `recvPacket` by `epoll`: an empty datagram is left out. -/
def recvEpoll (param : InputParam) (datagram : List UInt8) (pkt : Buffer) : Option Buffer :=
  let pkt := pkt.recv datagram
  if 0 < pkt.received then
    some (pkt.setData param.sockOffset (param.windowSize pkt.received))
  else none

/-- A message of `recvPacket` by `select`: one without a window is left out. -/
def recvSelect (param : InputParam) (datagram : List UInt8) (pkt : Buffer) : Option Buffer :=
  let pkt := pkt.recv datagram
  if param.sockOffset + param.sockTail < pkt.received then
    some (pkt.setData param.sockOffset (param.windowSize pkt.received))
  else none

/-- `memcpy` of a packet in a file into a buffer, and its window. -/
def recvPcap (param : InputParam) (pcapMem : Mem) (captured : ℕ) (dataLen : ℕ) (pkt : Buffer) :
    Buffer :=
  { mem := pkt.mem.set pkt.dataOff (pcapMem.bytes param.pcapOffset dataLen)
    dataOff := 0
    dataSize := UInt64.ofNat dataLen
    received := min dataLen (captured - param.pcapOffset) }

/-- The pool of `select` is filled. -/
def fillPool : List (Option Buffer) → List Buffer → List Buffer × List Buffer
  | [], free => ([], free)
  | some pkt :: pool, free =>
    let r := fillPool pool free
    (pkt :: r.1, r.2)
  | none :: pool, free =>
    let r := fillPool pool (packetGet free).2
    ((packetGet free).1 :: r.1, r.2)

/-- `recvmmsg` and the loop over its messages: the pool behind it, and the buffers that
are handed on. -/
def recvMsgs (param : InputParam) : List (List UInt8) → List Buffer →
    List (Option Buffer) × List Buffer
  | datagram :: datagrams, pkt :: pool =>
    let r := recvMsgs param datagrams pool
    match recvSelect param datagram pkt with
    | some pkt => (none :: r.1, pkt :: r.2)
    | none => (some (pkt.recv datagram) :: r.1, r.2)
  | _, pool => (pool.map some, [])

/-! ### Packets -/

inductive PktKind
  | msop
  | difop
  | imu
deriving DecidableEq

/-- The comparisons of `internalProcessPacket`. -/
def pktKind (id : Mem) : Option PktKind :=
  if (id 0 = 0x55 ∧ id 1 = 0xAA) ∨ ((id 0 = 0x5A ∧ id 1 = 0xFF) ∧ id 5 = 0x01) then some .msop
  else if (id 0 = 0xA5 ∧ id 1 = 0xFF) ∨ ((id 0 = 0x5A ∧ id 1 = 0xFF) ∧ id 5 = 0x03) then
    some .difop
  else if (id 0 = 0xAA ∧ id 1 = 0x55) ∨ ((id 0 = 0x5A ∧ id 1 = 0xFF) ∧ id 5 = 0x02) then some .imu
  else none

/-- `Decoder`: what it compares, and what it makes of its structures; `Call` is what it
gives to its callbacks, and a packet is given back as its time is written into it. -/
structure PacketDecoder where
  State : Type
  PreState : Type
  Call : Type
  Time : Type
  msopLen : ℕ
  difopLen : ℕ
  imuLen : ℕ
  msopId : List UInt8
  difopId : List UInt8
  imuId : List UInt8
  checksDifopLen : Bool
  msopId_le : msopId.length ≤ msopLen
  difopId_le : checksDifopLen = true → difopId.length ≤ difopLen
  imuId_le : imuId.length ≤ imuLen
  overflows : State → Bool
  clearCloud : State → State
  ready : State → Bool
  decodeMsopPkt : ℕ → List UInt8 → State → (State × List UInt8) × List Call × Bool
  decodeDifopPkt : ℕ → List UInt8 → State → State × List Call
  decodeImuPkt : ℕ → List UInt8 → State → State × List Call
  prevPktTs : State → Time
  isNewFrame : Mem → PreState → PreState × Bool

/-- The exceptions of the packet checks, which come once in a while only. -/
inductive ErrCode
  | cloudOverflow
  | noDifopRecv
  | wrongMsopLen
  | wrongMsopId
  | wrongDifopLen
  | wrongDifopId
  | wrongImuLen
  | wrongImuId
deriving DecidableEq

/-- `Packet`, given to `cb_put_pkt_`; a DIFOP packet has no time. -/
structure Packet (Time : Type) where
  timestamp : Option Time
  isDifop : Bool
  isFrameBegin : Bool
  seq : UInt32
  buf : List UInt8

/-- What the driver gives to its callbacks. -/
inductive Output (D : PacketDecoder)
  | exception (code : ErrCode)
  | call (c : D.Call)
  | packet (pkt : Packet D.Time)

/-- The decoder, `pkt_seq_`, and the times of the calls that are limited. -/
structure PacketDriver (D : PacketDecoder) where
  decoder : D.State
  pktSeq : UInt32
  prevTm : ErrCode → Option ℕ

namespace PacketDriver

variable {D : PacketDecoder}

/-- `LIMIT_CALL` -/
def limitCall (code : ErrCode) (now : ℕ) (d : PacketDriver D) :
    PacketDriver D × List (Output D) :=
  if 1 < now - (d.prevTm code).getD 0 then
    ({ d with prevTm := fun c => if c = code then some now else d.prevTm c }, [.exception code])
  else (d, [])

/-- `DELAY_LIMIT_CALL` -/
def delayLimitCall (code : ErrCode) (now : ℕ) (d : PacketDriver D) :
    PacketDriver D × List (Output D) :=
  let prevTm := (d.prevTm code).getD now
  if 1 < now - prevTm then
    ({ d with prevTm := fun c => if c = code then some now else d.prevTm c }, [.exception code])
  else ({ d with prevTm := fun c => if c = code then some prevTm else d.prevTm c }, [])

/-- `processMsopPkt`, with the memory behind it. -/
def processMsopPkt (now : ℕ) (pkt : Buffer) (d : PacketDriver D) :
    (PacketDriver D × Mem) × List (Output D) × Bool :=
  let r := if D.overflows d.decoder then
      limitCall .cloudOverflow now { d with decoder := D.clearCloud d.decoder }
    else (d, [])
  if !D.ready r.1.decoder then
    let e := r.1.delayLimitCall .noDifopRecv now
    ((e.1, pkt.mem), r.2 ++ e.2, false)
  else if pkt.dataSize.toNat ≠ D.msopLen then
    let e := r.1.limitCall .wrongMsopLen now
    ((e.1, pkt.mem), r.2 ++ e.2, false)
  else if pkt.bytes D.msopId.length ≠ D.msopId then
    let e := r.1.limitCall .wrongMsopId now
    ((e.1, pkt.mem), r.2 ++ e.2, false)
  else
    let m := D.decodeMsopPkt now (pkt.bytes D.msopLen) r.1.decoder
    (({ r.1 with decoder := m.1.1 }, pkt.mem.set pkt.dataOff m.1.2),
      r.2 ++ m.2.1.map .call, m.2.2)

/-- `processDifopPkt` -/
def processDifopPkt (now : ℕ) (pkt : Buffer) (d : PacketDriver D) :
    PacketDriver D × List (Output D) :=
  if pkt.dataSize.toNat ≠ D.difopLen ∧ D.checksDifopLen = true then
    d.limitCall .wrongDifopLen now
  else if pkt.bytes D.difopId.length ≠ D.difopId then d.limitCall .wrongDifopId now
  else
    let r := D.decodeDifopPkt now
      (pkt.bytes (if D.checksDifopLen then D.difopLen else pkt.dataSize.toNat)) d.decoder
    ({ d with decoder := r.1 }, r.2.map .call)

/-- `processImuPkt` -/
def processImuPkt (now : ℕ) (pkt : Buffer) (d : PacketDriver D) :
    PacketDriver D × List (Output D) :=
  if pkt.dataSize.toNat ≠ D.imuLen then d.limitCall .wrongImuLen now
  else if pkt.bytes D.imuId.length ≠ D.imuId then d.limitCall .wrongImuId now
  else
    let r := D.decodeImuPkt now (pkt.bytes D.imuLen) d.decoder
    ({ d with decoder := r.1 }, r.2.map .call)

/-- `runPacketCallBack`; a vector cannot be resized to a window that wrapped. -/
def runPacketCallBack (param : InputParam) (pkt : Buffer) (timestamp : Option D.Time)
    (isDifop isFrameBegin : Bool) (d : PacketDriver D) :
    Option (PacketDriver D × List (Output D)) :=
  if !param.putsPackets then some (d, [])
  else if 2 ^ 63 ≤ pkt.dataSize.toNat then none
  else some ({ d with pktSeq := d.pktSeq + 1 },
    [.packet ⟨timestamp, isDifop, isFrameBegin, d.pktSeq, pkt.window⟩])

/-- `internalProcessPacket`, with the memory behind it. -/
def internalProcessPacket (param : InputParam) (now : ℕ) (pkt : Buffer) (d : PacketDriver D) :
    Option (PacketDriver D × List (Output D) × Mem) :=
  match pktKind pkt.data with
  | some .msop =>
    let r := d.processMsopPkt now pkt
    (r.1.1.runPacketCallBack param { pkt with mem := r.1.2 } (some (D.prevPktTs r.1.1.decoder))
      false r.2.2).map fun c => (c.1, r.2.1 ++ c.2, r.1.2)
  | some .difop =>
    let r := d.processDifopPkt now pkt
    (r.1.runPacketCallBack param pkt none true false).map fun c => (c.1, r.2 ++ c.2, pkt.mem)
  | some .imu =>
    let r := d.processImuPkt now pkt
    some (r.1, r.2, pkt.mem)
  | none => some (d, [], pkt.mem)

end PacketDriver

/-! ### The driver with its input -/

/-- The filter that a packet of a file passes. -/
inductive PcapFilter
  | msop
  | difop
  | imu
deriving DecidableEq

inductive InputError
  | pktBufOverflow
  | pcapParse (filter : PcapFilter)
deriving DecidableEq

/-- `LidarDriverImpl` with its input. `pcapMem` is the memory that packets of a file
are read into, and `handed` all buffers that were handed to `packetPut`. -/
structure InputDriver (D : PacketDecoder) where
  freePktQueue : List Buffer
  pktQueue : List Buffer
  batch : List Buffer
  pktPool : List (Option Buffer)
  pcapMem : Mem
  overflowTm : ℕ
  inputErrors : List InputError
  pre : D.PreState
  driver : PacketDriver D
  outputs : List (Output D)
  handed : List Buffer

/-- A datagram arrives, several do, a packet of a file is read with the bytes of it that
were captured, the handling thread takes a batch, and it handles a packet. -/
inductive InputEvent
  | epoll (now : ℕ) (datagram : List UInt8)
  | select (now : ℕ) (datagrams : List (List UInt8))
  | pcap (now : ℕ) (filter : PcapFilter) (len : UInt32) (captured : List UInt8)
  | popBatch
  | handle (now : ℕ)

namespace InputDriver

variable {D : PacketDecoder}

/-- The buffers that are recycled have these memories. -/
def start (D : PacketDecoder) (decoder : D.State) (pre : D.PreState) (mems : List Mem)
    (pcapMem : Mem) : InputDriver D where
  freePktQueue := mems.map .recycled
  pktQueue := []
  batch := []
  pktPool := List.replicate 16 none
  pcapMem := pcapMem
  overflowTm := 0
  inputErrors := []
  pre := pre
  driver := ⟨decoder, 0, fun _ => none⟩
  outputs := []
  handed := []

/-- `packetPut`: a full queue is cleared. -/
def packetPut (now : ℕ) (s : InputDriver D) (pkt : Buffer) : InputDriver D :=
  if s.pktQueue.length + 1 < 102400 then
    { s with pktQueue := s.pktQueue ++ [pkt], handed := s.handed ++ [pkt] }
  else if 1 < now - s.overflowTm then
    { s with
      pktQueue := []
      overflowTm := now
      inputErrors := s.inputErrors ++ [.pktBufOverflow]
      handed := s.handed ++ [pkt] }
  else { s with pktQueue := [], handed := s.handed ++ [pkt] }

/-- The push of a used buffer to `free_pkt_queue_`. -/
def packetFree (pkt : Buffer) (s : InputDriver D) : InputDriver D :=
  if s.freePktQueue.length + 1 < 102400 then
    { s with freePktQueue := s.freePktQueue ++ [pkt] }
  else s

/-- `isNewFrame` of the driver, asked for the speed of a file. -/
def isNewFrame (pkt : Buffer) (s : InputDriver D) : InputDriver D :=
  if pktKind pkt.data = some .msop then { s with pre := (D.isNewFrame pkt.data s.pre).1 } else s

/-- A packet of a file that passed a filter. -/
def recvPacket (param : InputParam) (now : ℕ) (filter : PcapFilter) (len : UInt32)
    (captured : List UInt8) (s : InputDriver D) : InputDriver D :=
  let s := { s with pcapMem := s.pcapMem.set 0 captured }
  let dataLen := param.dataLen len
  if dataLen < 0 then { s with inputErrors := s.inputErrors ++ [.pcapParse filter] }
  else
    let g := packetGet s.freePktQueue
    let s := { s with freePktQueue := g.2 }
    if ethLen < dataLen.toNat then { s with inputErrors := s.inputErrors ++ [.pcapParse filter] }
    else
      let pkt := recvPcap param s.pcapMem captured.length dataLen.toNat g.1
      let s := if filter = .msop then s.isNewFrame pkt else s
      s.packetPut now pkt

/-- One step; none when no packet is there, or the driver ends with an exception that
nothing catches. -/
def step (param : InputParam) (s : InputDriver D) : InputEvent → Option (InputDriver D)
  | .epoll now datagram =>
    if param.inputType = .epoll then
      let g := packetGet s.freePktQueue
      let s := { s with freePktQueue := g.2 }
      match recvEpoll param datagram g.1 with
      | some pkt => some (s.packetPut now pkt)
      | none => some s
    else none
  | .select now datagrams =>
    if param.inputType = .select ∧ datagrams.length ≤ 16 then
      let f := fillPool s.pktPool s.freePktQueue
      let r := recvMsgs param datagrams f.1
      some (r.2.foldl (packetPut now) { s with freePktQueue := f.2, pktPool := r.1 })
    else none
  | .pcap now filter len captured =>
    if param.inputType = .pcap then some (s.recvPacket param now filter len captured) else none
  | .popBatch =>
    if s.batch = [] then
      some { s with batch := s.pktQueue.take 50, pktQueue := s.pktQueue.drop 50 }
    else none
  | .handle now =>
    match s.batch with
    | [] => none
    | pkt :: batch =>
      (s.driver.internalProcessPacket param now pkt).map fun r =>
        packetFree { pkt with mem := r.2.2 }
          { s with batch := batch, driver := r.1, outputs := s.outputs ++ r.2.1 }

end InputDriver

/-! ### Windows inside their datagrams -/

section Windows

variable {param : InputParam}

theorem windowSize_eq {ret : ℕ} (hret : ret ≤ ethLen)
    (h : param.sockOffset + param.sockTail ≤ ret) :
    (param.windowSize ret).toNat = ret - param.sockOffset - param.sockTail := by
  have hoff := param.userLayerBytes.toNat_lt
  have htail := param.tailLayerBytes.toNat_lt
  unfold InputParam.sockOffset InputParam.sockTail ethLen at *
  unfold InputParam.windowSize InputParam.sockOffset InputParam.sockTail
  simp only [UInt64.toNat_sub, UInt64.toNat_ofNat']
  omega

theorem windowSize_wraps {ret : ℕ} (hret : ret ≤ ethLen)
    (h : ret < param.sockOffset + param.sockTail) :
    (param.windowSize ret).toNat = 2 ^ 64 + ret - param.sockOffset - param.sockTail := by
  have hoff := param.userLayerBytes.toNat_lt
  have htail := param.tailLayerBytes.toNat_lt
  unfold InputParam.sockOffset InputParam.sockTail ethLen at *
  unfold InputParam.windowSize InputParam.sockOffset InputParam.sockTail
  simp only [UInt64.toNat_sub, UInt64.toNat_ofNat']
  omega

theorem recvEpoll_some (param : InputParam) {datagram : List UInt8} (pkt : Buffer)
    (h : 0 < min datagram.length ethLen) :
    recvEpoll param datagram pkt = some ((pkt.recv datagram).setData param.sockOffset
      (param.windowSize (min datagram.length ethLen))) := if_pos h

theorem recvEpoll_none (param : InputParam) {datagram : List UInt8} (pkt : Buffer)
    (h : ¬ 0 < min datagram.length ethLen) : recvEpoll param datagram pkt = none := if_neg h

/-- **The window of an epoll input is inside the datagram exactly when the datagram has
the bytes of both layers.** -/
theorem recvEpoll_inside_iff {datagram : List UInt8} {pkt pkt' : Buffer}
    (h : recvEpoll param datagram pkt = some pkt') :
    pkt'.Inside ↔ param.sockOffset + param.sockTail ≤ min datagram.length ethLen := by
  have hret : min datagram.length ethLen ≤ ethLen := Nat.min_le_right _ _
  have hoff := param.userLayerBytes.toNat_lt
  have htail := param.tailLayerBytes.toNat_lt
  unfold recvEpoll at h
  dsimp only at h
  split at h
  · cases h
    change param.sockOffset + (param.windowSize (min datagram.length ethLen)).toNat ≤
      min datagram.length ethLen ↔ _
    constructor
    · intro hinside
      by_contra hshort
      rw [windowSize_wraps hret (Nat.lt_of_not_le hshort)] at hinside
      unfold InputParam.sockOffset InputParam.sockTail ethLen at *
      omega
    · intro hlayers
      rw [windowSize_eq hret hlayers]
      omega
  · cases h

theorem recvSelect_some {datagram : List UInt8} (pkt : Buffer)
    (h : param.sockOffset + param.sockTail < min datagram.length ethLen) :
    recvSelect param datagram pkt = some ((pkt.recv datagram).setData param.sockOffset
      (param.windowSize (min datagram.length ethLen))) := if_pos h

theorem recvSelect_none {datagram : List UInt8} {pkt : Buffer}
    (h : ¬ param.sockOffset + param.sockTail < min datagram.length ethLen) :
    recvSelect param datagram pkt = none := if_neg h

/-- The windows of a select input are inside their datagrams. -/
theorem recvSelect_inside {datagram : List UInt8} {pkt pkt' : Buffer}
    (h : recvSelect param datagram pkt = some pkt') : pkt'.Inside := by
  have hret : min datagram.length ethLen ≤ ethLen := Nat.min_le_right _ _
  unfold recvSelect at h
  dsimp only at h
  split at h
  · rename_i hlayers
    cases h
    have hle : param.sockOffset + param.sockTail ≤ min datagram.length ethLen :=
      Nat.le_of_lt hlayers
    change param.sockOffset + (param.windowSize (min datagram.length ethLen)).toNat ≤
      min datagram.length ethLen
    rw [windowSize_eq hret hle]
    omega
  · cases h

/-- **The window of a packet in a file is inside what was captured exactly when all of
it was captured.** -/
theorem recvPcap_inside_iff {pcapMem : Mem} {captured dataLen : ℕ} {pkt : Buffer}
    (hsize : dataLen ≤ ethLen) :
    (recvPcap param pcapMem captured dataLen pkt).Inside ↔
      dataLen ≤ captured - param.pcapOffset := by
  have hnat : (UInt64.ofNat dataLen).toNat = dataLen := by
    rw [UInt64.toNat_ofNat']
    unfold ethLen at hsize
    omega
  change 0 + (UInt64.ofNat dataLen).toNat ≤ min dataLen (captured - param.pcapOffset) ↔ _
  rw [hnat]
  omega

end Windows

/-! ### What decides the kind of a packet -/

/-- The bytes of a window decide its kind: a first byte that begins no header, or a
header and, behind that of RSAIRYLITE, the byte that tells the kind. -/
def KindDecided (window : List UInt8) : Prop :=
  ∃ b ∈ window.head?, b ∉ [0x55, 0x5A, 0xA5, 0xAA] ∨
    2 ≤ window.length ∧ (window.take 2 = [0x5A, 0xFF] → 6 ≤ window.length)

/-- The bytes of a window decide what the driver makes of it: RSEMX does not check the
length of a DIFOP packet before its id. -/
structure Decided (D : PacketDecoder) (window : List UInt8) : Prop where
  kind : KindDecided window
  difopId : D.checksDifopLen = false → pktKind (memOf window) = some .difop →
    D.difopId.length ≤ window.length

theorem pktKind_eq {window : List UInt8} (h : KindDecided window) {id : Mem}
    (hid : ∀ i < window.length, id i = memOf window i) : pktKind id = pktKind (memOf window) := by
  obtain ⟨b, hb, hdecided⟩ := h
  match window, hb with
  | [b], rfl =>
    have hb : memOf [b] 0 = b := rfl
    have hzero : id 0 = b := hid 0 (by simp)
    rcases hdecided with hnone | ⟨hlength, -⟩
    · simp only [List.mem_cons, List.not_mem_nil, or_false, not_or] at hnone
      unfold pktKind
      simp [hzero, hb, hnone]
    · exact absurd hlength (by simp)
  | b :: c :: rest, rfl =>
    have hb : memOf (b :: c :: rest) 0 = b := rfl
    have hc : memOf (b :: c :: rest) 1 = c := rfl
    have hzero : id 0 = b := hid 0 (by simp)
    have hone : id 1 = c := hid 1 (by simp)
    by_cases hlite : b = 0x5A ∧ c = 0xFF
    · -- the sixth byte is in the window, too
      have hfive : id 5 = memOf (b :: c :: rest) 5 := by
        apply hid 5
        rcases hdecided with hnone | ⟨-, hlong⟩
        · simp [hlite.1] at hnone
        · have hsix := hlong (by simp [hlite.1, hlite.2])
          omega
      unfold pktKind
      rw [hzero, hone, hfive, hb, hc]
    · unfold pktKind
      simp [hzero, hone, hb, hc, hlite]

/-! ### Packets with the same window -/

section Same

variable {D : PacketDecoder} {pkt pkt' : Buffer} {now : ℕ}

theorem window_length (pkt : Buffer) : pkt.window.length = pkt.dataSize.toNat :=
  Mem.bytes_length _ _ _

theorem bytes_eq_take {n : ℕ} (h : n ≤ pkt.dataSize.toNat) : pkt.bytes n = pkt.window.take n :=
  Mem.bytes_take _ _ h

theorem dataSize_same (h : pkt.window = pkt'.window) :
    pkt.dataSize.toNat = pkt'.dataSize.toNat := by
  rw [← window_length, ← window_length, h]

theorem bytes_same (h : pkt.window = pkt'.window) {n : ℕ} (hn : n ≤ pkt.dataSize.toNat) :
    pkt.bytes n = pkt'.bytes n := by
  rw [bytes_eq_take hn, bytes_eq_take (dataSize_same h ▸ hn), h]

theorem data_memOf (pkt : Buffer) : ∀ i < pkt.window.length, pkt.data i = memOf pkt.window i := by
  intro i hi
  rw [window_length] at hi
  simp [memOf, Buffer.window, Buffer.bytes, Mem.bytes, Buffer.data, hi]

theorem pktKind_window (h : KindDecided pkt.window) :
    pktKind pkt.data = pktKind (memOf pkt.window) := pktKind_eq h (data_memOf pkt)

/-- The first bytes of a window that has enough of them, or a check that fails before. -/
theorem checkedBytes_same (h : pkt.window = pkt'.window) {n k : ℕ} (hk : k ≤ n)
    (hn : pkt.dataSize.toNat = n) : pkt.bytes k = pkt'.bytes k :=
  bytes_same h (by omega)

theorem processMsopPkt_same (now : ℕ) (h : pkt.window = pkt'.window) (d : PacketDriver D) :
    (d.processMsopPkt now pkt).1.1 = (d.processMsopPkt now pkt').1.1 ∧
      (d.processMsopPkt now pkt).2 = (d.processMsopPkt now pkt').2 ∧
      Buffer.window { pkt with mem := (d.processMsopPkt now pkt).1.2 } =
        Buffer.window { pkt' with mem := (d.processMsopPkt now pkt').1.2 } := by
  have hsize := dataSize_same h
  unfold PacketDriver.processMsopPkt
  dsimp only
  generalize (if D.overflows d.decoder then
    PacketDriver.limitCall .cloudOverflow now { d with decoder := D.clearCloud d.decoder }
    else (d, [])) = r
  rw [← hsize]
  by_cases hready : (!D.ready r.1.decoder) = true
  · rw [if_pos hready, if_pos hready]
    exact ⟨rfl, rfl, h⟩
  rw [if_neg hready, if_neg hready]
  by_cases hlen : pkt.dataSize.toNat = D.msopLen
  · have hid := checkedBytes_same h D.msopId_le hlen
    have hbytes := checkedBytes_same h (Nat.le_refl D.msopLen) hlen
    rw [if_neg (not_not.mpr hlen), if_neg (not_not.mpr hlen), ← hid, ← hbytes]
    split
    · exact ⟨rfl, rfl, h⟩
    · refine ⟨rfl, rfl, ?_⟩
      unfold Buffer.window Buffer.bytes at h ⊢
      dsimp only
      rw [← hsize] at h ⊢
      exact Mem.bytes_set_congr _ h
  · rw [if_pos hlen, if_pos hlen]
    exact ⟨rfl, rfl, h⟩

theorem processDifopPkt_same (h : pkt.window = pkt'.window) (hdecided : Decided D pkt.window)
    (hkind : pktKind pkt.data = some .difop) (d : PacketDriver D) :
    d.processDifopPkt now pkt = d.processDifopPkt now pkt' := by
  have hsize := dataSize_same h
  have hid : ¬ (pkt.dataSize.toNat ≠ D.difopLen ∧ D.checksDifopLen = true) →
      pkt.bytes D.difopId.length = pkt'.bytes D.difopId.length := by
    intro hlen
    apply bytes_same h
    cases hchecks : D.checksDifopLen with
    | true =>
      have hlength : pkt.dataSize.toNat = D.difopLen := by
        by_contra hne
        exact hlen ⟨hne, hchecks⟩
      rw [hlength]
      exact D.difopId_le hchecks
    | false =>
      rw [← window_length]
      exact hdecided.difopId hchecks ((pktKind_window hdecided.kind).symm.trans hkind)
  have hbytes : ¬ (pkt.dataSize.toNat ≠ D.difopLen ∧ D.checksDifopLen = true) →
      pkt.bytes (if D.checksDifopLen then D.difopLen else pkt.dataSize.toNat) =
        pkt'.bytes (if D.checksDifopLen then D.difopLen else pkt.dataSize.toNat) := by
    intro hlen
    apply bytes_same h
    split
    · rename_i hchecks
      by_contra hlt
      exact hlen ⟨fun heq => hlt (Nat.le_of_eq heq.symm), hchecks⟩
    · exact Nat.le_refl _
  unfold PacketDriver.processDifopPkt
  rw [← hsize]
  split
  · rfl
  · rename_i hlen
    rw [hid hlen, hbytes hlen]

theorem processImuPkt_same (h : pkt.window = pkt'.window) (d : PacketDriver D) :
    d.processImuPkt now pkt = d.processImuPkt now pkt' := by
  unfold PacketDriver.processImuPkt
  rw [← dataSize_same h]
  split
  · rfl
  · rename_i hlen
    rw [checkedBytes_same h D.imuId_le (not_not.mp hlen),
      checkedBytes_same h (Nat.le_refl D.imuLen) (not_not.mp hlen)]

theorem runPacketCallBack_same (h : pkt.window = pkt'.window) (param : InputParam)
    (timestamp : Option D.Time) (isDifop isFrameBegin : Bool) (d : PacketDriver D) :
    d.runPacketCallBack param pkt timestamp isDifop isFrameBegin =
      d.runPacketCallBack param pkt' timestamp isDifop isFrameBegin := by
  unfold PacketDriver.runPacketCallBack
  rw [← dataSize_same h, h]

/-- **Packets with the same window are handled the same way**, if it decides their kind. -/
theorem internalProcessPacket_same (now : ℕ) (h : pkt.window = pkt'.window)
    (hdecided : Decided D pkt.window) (param : InputParam) (d : PacketDriver D) :
    (d.internalProcessPacket param now pkt).map (fun r => (r.1, r.2.1)) =
      (d.internalProcessPacket param now pkt').map (fun r => (r.1, r.2.1)) := by
  have hkind : pktKind pkt.data = pktKind pkt'.data := by
    rw [pktKind_window hdecided.kind, pktKind_window (h ▸ hdecided.kind), h]
  unfold PacketDriver.internalProcessPacket
  rw [← hkind]
  cases hk : pktKind pkt.data with
  | none => rfl
  | some kind =>
    cases kind with
    | msop =>
      obtain ⟨hdriver, hout, hwindow⟩ := processMsopPkt_same now h d
      dsimp only
      rw [runPacketCallBack_same hwindow, hdriver, hout, Option.map_map, Option.map_map]
      rfl
    | difop =>
      dsimp only
      rw [processDifopPkt_same h hdecided hk, runPacketCallBack_same h, Option.map_map,
        Option.map_map]
      rfl
    | imu =>
      dsimp only
      rw [processImuPkt_same h]
      rfl

end Same

/-! ### Runs -/

/-- The bytes of a datagram between the layers. -/
def InputParam.payload (param : InputParam) (datagram : List UInt8) : List UInt8 :=
  ((datagram.take ethLen).drop param.sockOffset).take
    (min datagram.length ethLen - param.sockOffset - param.sockTail)

/-- What arrives fits: a datagram has the bytes of both layers, a packet of a file was
captured, and their bytes decide what the driver makes of them. -/
def Fits (D : PacketDecoder) (param : InputParam) : InputEvent → Prop
  | .epoll _ datagram => datagram ≠ [] →
      param.sockOffset + param.sockTail ≤ min datagram.length ethLen ∧
        Decided D (param.payload datagram)
  | .select _ datagrams => ∀ datagram ∈ datagrams,
      param.sockOffset + param.sockTail < min datagram.length ethLen →
        Decided D (param.payload datagram)
  | .pcap _ _ len captured => 0 ≤ param.dataLen len → (param.dataLen len).toNat ≤ ethLen →
      param.pcapOffset + (param.dataLen len).toNat ≤ captured.length ∧
        Decided D ((captured.drop param.pcapOffset).take (param.dataLen len).toNat)
  | _ => True

section Runs

variable {D : PacketDecoder} {param : InputParam} {s s' t t' : InputDriver D} {now : ℕ}
  {pkt pkt' : Buffer} {window datagram : List UInt8}

/-- A buffer is handed on with a window. -/
structure Arrives (D : PacketDecoder) (param : InputParam) (bytes : List UInt8) (pkt : Buffer) :
    Prop where
  window : pkt.window = bytes
  decided : Decided D bytes
  inside : pkt.Inside
  start : param.inputType = .pcap → pkt.dataOff = 0

theorem recv_window (pkt : Buffer)
    (hlayers : param.sockOffset + param.sockTail ≤ min datagram.length ethLen) :
    ((pkt.recv datagram).setData param.sockOffset
      (param.windowSize (min datagram.length ethLen))).window = param.payload datagram := by
  unfold Buffer.window Buffer.bytes
  change (pkt.mem.set 0 (datagram.take ethLen)).bytes param.sockOffset
    (param.windowSize (min datagram.length ethLen)).toNat = _
  rw [windowSize_eq (Nat.min_le_right _ _) hlayers]
  apply Mem.bytes_set_within
  rw [List.length_take]
  omega

theorem recvEpoll_arrives (htype : param.inputType = .epoll)
    (hfits : Fits D param (.epoll now datagram)) (h : recvEpoll param datagram pkt = some pkt') :
    Arrives D param (param.payload datagram) pkt' := by
  have hinside := recvEpoll_inside_iff h
  unfold recvEpoll at h
  dsimp only at h
  split at h
  · rename_i hsome
    cases h
    have hne : datagram ≠ [] := by
      intro hnil
      rw [hnil] at hsome
      exact absurd hsome (Nat.lt_irrefl 0)
    obtain ⟨hlayers, hdecided⟩ := hfits hne
    refine ⟨recv_window pkt hlayers, hdecided, hinside.mpr hlayers, ?_⟩
    intro hpcap
    rw [htype] at hpcap
    cases hpcap
  · cases h

theorem recvSelect_arrives (htype : param.inputType = .select)
    (hfits : param.sockOffset + param.sockTail < min datagram.length ethLen →
      Decided D (param.payload datagram)) (h : recvSelect param datagram pkt = some pkt') :
    Arrives D param (param.payload datagram) pkt' := by
  have hinside := recvSelect_inside h
  unfold recvSelect at h
  dsimp only at h
  split at h
  · rename_i hlayers
    cases h
    refine ⟨recv_window pkt (Nat.le_of_lt hlayers), hfits hlayers, hinside, ?_⟩
    intro hpcap
    rw [htype] at hpcap
    cases hpcap
  · cases h

theorem fillPool_length : ∀ (pool : List (Option Buffer)) (free : List Buffer),
    (fillPool pool free).1.length = pool.length
  | [], _ => rfl
  | some _ :: pool, free => congrArg Nat.succ (fillPool_length pool free)
  | none :: pool, free => congrArg Nat.succ (fillPool_length pool (packetGet free).2)

theorem recvMsgs_length (param : InputParam) : ∀ (datagrams : List (List UInt8))
    (pool : List Buffer), (recvMsgs param datagrams pool).1.length = pool.length
  | [], pool => by
    unfold recvMsgs
    exact List.length_map _
  | _ :: _, [] => rfl
  | datagram :: datagrams, pkt :: pool => by
    unfold recvMsgs
    dsimp only
    split
    · exact congrArg Nat.succ (recvMsgs_length param datagrams pool)
    · exact congrArg Nat.succ (recvMsgs_length param datagrams pool)

/-- The messages with a window are handed on, whatever buffers are in the pool. -/
theorem recvMsgs_arrive (htype : param.inputType = .select) :
    ∀ (datagrams : List (List UInt8)) (pool : List Buffer), datagrams.length ≤ pool.length →
      Fits D param (.select now datagrams) →
      List.Forall₂ (Arrives D param)
        ((datagrams.filter fun datagram =>
          param.sockOffset + param.sockTail < min datagram.length ethLen).map param.payload)
        (recvMsgs param datagrams pool).2
  | [], pool, _, _ => by
    unfold recvMsgs
    exact .nil
  | _ :: _, [], hlength, _ => absurd hlength (Nat.not_succ_le_zero _)
  | datagram :: datagrams, pkt :: pool, hlength, hfits => by
    have hrest := recvMsgs_arrive htype datagrams pool (Nat.le_of_succ_le_succ hlength)
      fun d hd => hfits d (List.mem_cons_of_mem _ hd)
    unfold recvMsgs
    dsimp only
    by_cases hlayers : param.sockOffset + param.sockTail < min datagram.length ethLen
    · have hrecv := recvSelect_some pkt hlayers
      have harrives := recvSelect_arrives htype (hfits datagram List.mem_cons_self) hrecv
      rw [hrecv, List.filter_cons_of_pos (by simpa using hlayers), List.map_cons]
      exact .cons harrives hrest
    · rw [recvSelect_none hlayers, List.filter_cons_of_neg (by simpa using hlayers)]
      exact hrest

theorem recvPcap_arrives (pcapMem : Mem) {len : UInt32} {captured : List UInt8}
    {filter : PcapFilter} (hfits : Fits D param (.pcap now filter len captured))
    (hpos : 0 ≤ param.dataLen len) (hsize : (param.dataLen len).toNat ≤ ethLen)
    (hoff : pkt.dataOff = 0) :
    Arrives D param ((captured.drop param.pcapOffset).take (param.dataLen len).toNat)
      (recvPcap param (pcapMem.set 0 captured) captured.length (param.dataLen len).toNat pkt) := by
  obtain ⟨hcaptured, hdecided⟩ := hfits hpos hsize
  have hnat : (UInt64.ofNat (param.dataLen len).toNat).toNat = (param.dataLen len).toNat := by
    rw [UInt64.toNat_ofNat']
    unfold ethLen at hsize
    omega
  refine ⟨?_, hdecided, (recvPcap_inside_iff hsize).mpr (by omega), fun _ => rfl⟩
  have hbytes := Mem.bytes_set_within pcapMem param.pcapOffset (param.dataLen len).toNat captured
    hcaptured
  have hself := Mem.bytes_set_self pkt.mem pkt.dataOff
    ((pcapMem.set 0 captured).bytes param.pcapOffset (param.dataLen len).toNat)
  rw [Mem.bytes_length, hoff] at hself
  unfold Buffer.window Buffer.bytes recvPcap
  dsimp only
  rw [hnat, hoff, hself, hbytes]

/-- What a run keeps: what waits is decided, what was handed on is inside its datagram,
and the windows on buffers of a file begin at their start. -/
structure Settled (param : InputParam) (s : InputDriver D) : Prop where
  decided : ∀ pkt ∈ s.pktQueue ++ s.batch, Decided D pkt.window
  inside : ∀ pkt ∈ s.handed, pkt.Inside
  starts : param.inputType = .pcap →
    ∀ pkt ∈ s.freePktQueue ++ (s.pktQueue ++ s.batch), pkt.dataOff = 0
  pool : s.pktPool.length = 16

/-- Two runs agree on everything but the bytes outside the windows. -/
structure WindowsAgree (s t : InputDriver D) : Prop where
  queue : s.pktQueue.map Buffer.window = t.pktQueue.map Buffer.window
  batch : s.batch.map Buffer.window = t.batch.map Buffer.window
  overflowTm : s.overflowTm = t.overflowTm
  inputErrors : s.inputErrors = t.inputErrors
  driver : s.driver = t.driver
  outputs : s.outputs = t.outputs

/-- Two runs from buffers with different bytes. -/
structure Related (param : InputParam) (s t : InputDriver D) : Prop where
  left : Settled param s
  right : Settled param t
  agree : WindowsAgree s t

theorem WindowsAgree.queue_length (h : WindowsAgree s t) : s.pktQueue.length = t.pktQueue.length := by
  rw [← List.length_map (f := Buffer.window), h.queue, List.length_map]

theorem packetGet_start {free : List Buffer} (h : ∀ pkt ∈ free, pkt.dataOff = 0) :
    (packetGet free).1.dataOff = 0 ∧ ∀ pkt ∈ (packetGet free).2, pkt.dataOff = 0 := by
  cases free with
  | nil => exact ⟨rfl, fun _ hnone => (nomatch hnone)⟩
  | cons pkt free =>
    exact ⟨h pkt List.mem_cons_self, fun pkt' hpkt' => h pkt' (List.mem_cons_of_mem _ hpkt')⟩

/-- A buffer is taken from the recycled ones. -/
theorem Settled.get (h : Settled param s) :
    Settled param { s with freePktQueue := (packetGet s.freePktQueue).2 } where
  decided := h.decided
  inside := h.inside
  starts := by
    intro hpcap pkt hpkt
    have hstarts := h.starts hpcap
    rcases List.mem_append.mp hpkt with hfree | hrest
    · exact (packetGet_start fun pkt hpkt => hstarts pkt (List.mem_append_left _ hpkt)).2 pkt hfree
    · exact hstarts pkt (List.mem_append_right _ hrest)
  pool := h.pool

/-- A buffer is put, or the queue is cleared. -/
theorem Settled.put (h : Settled param s) (ha : Arrives D param window pkt) :
    Settled param (s.packetPut now pkt) := by
  have hinside : ∀ pkt' ∈ s.handed ++ [pkt], pkt'.Inside := by
    intro pkt' hpkt'
    rcases List.mem_append.mp hpkt' with hold | hnew
    · exact h.inside pkt' hold
    · rw [List.mem_singleton.mp hnew]
      exact ha.inside
  have hcleared : ∀ pkt' ∈ ([] : List Buffer) ++ s.batch, pkt' ∈ s.pktQueue ++ s.batch :=
    fun pkt' hpkt' => List.mem_append_right _ hpkt'
  have hbatch : Settled param { s with pktQueue := [], handed := s.handed ++ [pkt] } := by
    refine ⟨fun pkt' hpkt' => h.decided pkt' (hcleared pkt' hpkt'), hinside, ?_, h.pool⟩
    intro hpcap pkt' hpkt'
    apply h.starts hpcap pkt'
    rcases List.mem_append.mp hpkt' with hfree | hrest
    · exact List.mem_append_left _ hfree
    · exact List.mem_append_right _ (hcleared pkt' hrest)
  unfold InputDriver.packetPut
  split
  · have hmem : ∀ pkt' ∈ s.pktQueue ++ [pkt] ++ s.batch,
        pkt' = pkt ∨ pkt' ∈ s.pktQueue ++ s.batch := by
      intro pkt' hpkt'
      simp only [List.mem_append, List.mem_singleton] at hpkt' ⊢
      tauto
    refine ⟨?_, hinside, ?_, h.pool⟩
    · intro pkt' hpkt'
      rcases hmem pkt' hpkt' with rfl | hold
      · rw [ha.window]
        exact ha.decided
      · exact h.decided pkt' hold
    · intro hpcap pkt' hpkt'
      rcases List.mem_append.mp hpkt' with hfree | hrest
      · exact h.starts hpcap pkt' (List.mem_append_left _ hfree)
      · rcases hmem pkt' hrest with rfl | hold
        · exact ha.start hpcap
        · exact h.starts hpcap pkt' (List.mem_append_right _ hold)
  · split
    · exact ⟨hbatch.decided, hbatch.inside, hbatch.starts, hbatch.pool⟩
    · exact hbatch

theorem WindowsAgree.put (h : WindowsAgree s t) (hwindow : pkt.window = pkt'.window) :
    WindowsAgree (s.packetPut now pkt) (t.packetPut now pkt') := by
  unfold InputDriver.packetPut
  rw [← h.queue_length, ← h.overflowTm, ← h.inputErrors]
  split
  · refine ⟨?_, h.batch, rfl, rfl, h.driver, h.outputs⟩
    dsimp only
    rw [List.map_append, List.map_append, h.queue, List.map_singleton, List.map_singleton, hwindow]
  · split
    · exact ⟨rfl, h.batch, rfl, rfl, h.driver, h.outputs⟩
    · exact ⟨rfl, h.batch, rfl, rfl, h.driver, h.outputs⟩

theorem Related.put (h : Related param s t) (ha : Arrives D param window pkt)
    (ha' : Arrives D param window pkt') :
    Related param (s.packetPut now pkt) (t.packetPut now pkt') :=
  ⟨h.left.put ha, h.right.put ha', h.agree.put (ha.window.trans ha'.window.symm)⟩

/-- Several buffers are put. -/
theorem Related.puts {windows : List (List UInt8)} {pkts pkts' : List Buffer}
    (h : Related param s t) (ha : List.Forall₂ (Arrives D param) windows pkts)
    (ha' : List.Forall₂ (Arrives D param) windows pkts') :
    Related param (pkts.foldl (InputDriver.packetPut now) s)
      (pkts'.foldl (InputDriver.packetPut now) t) := by
  induction ha generalizing s t pkts' with
  | nil =>
    cases ha'
    exact h
  | cons hpkt _ ih =>
    cases ha' with
    | cons hpkt' hrest' =>
      have hput : Related param (s.packetPut now _) (t.packetPut now _) := h.put hpkt hpkt'
      have hrelated := ih hput hrest'
      exact hrelated

/-- A datagram arrives at an epoll input. -/
theorem Related.epoll (h : Related param s t) (hfits : Fits D param (.epoll now datagram))
    (hs : s.step param (.epoll now datagram) = some s')
    (ht : t.step param (.epoll now datagram) = some t') : Related param s' t' := by
  have hget : Related param { s with freePktQueue := (packetGet s.freePktQueue).2 }
      { t with freePktQueue := (packetGet t.freePktQueue).2 } :=
    ⟨h.left.get, h.right.get, ⟨h.agree.1, h.agree.2, h.agree.3, h.agree.4, h.agree.5, h.agree.6⟩⟩
  unfold InputDriver.step at hs ht
  dsimp only at hs ht
  split at hs
  · rename_i htype
    rw [if_pos htype] at ht
    by_cases hsome : 0 < min datagram.length ethLen
    · have hrecv := fun pkt => recvEpoll_some param pkt hsome
      rw [hrecv] at hs ht
      cases hs
      cases ht
      exact hget.put (recvEpoll_arrives htype hfits (hrecv _))
        (recvEpoll_arrives htype hfits (hrecv _))
    · have hrecv := fun pkt => recvEpoll_none param pkt hsome
      rw [hrecv] at hs ht
      cases hs
      cases ht
      exact hget
  · cases hs

/-- Datagrams arrive at a select input. -/
theorem Related.select {datagrams : List (List UInt8)} (h : Related param s t)
    (hfits : Fits D param (.select now datagrams))
    (hs : s.step param (.select now datagrams) = some s')
    (ht : t.step param (.select now datagrams) = some t') : Related param s' t' := by
  have hsettled : ∀ {s : InputDriver D} (free : List Buffer) (pool : List (Option Buffer)),
      param.inputType = .select → Settled param s → pool.length = 16 →
      Settled param { s with freePktQueue := free, pktPool := pool } := by
    intro s free pool htype hsettled hpool
    refine ⟨hsettled.decided, hsettled.inside, fun hpcap => ?_, hpool⟩
    rw [htype] at hpcap
    cases hpcap
  have hlength : ∀ {s : InputDriver D}, Settled param s →
      (fillPool s.pktPool s.freePktQueue).1.length = 16 := fun hsettled =>
    (fillPool_length _ _).trans hsettled.pool
  unfold InputDriver.step at hs ht
  dsimp only at hs ht
  split at hs
  · rename_i hselect
    obtain ⟨htype, hcount⟩ := hselect
    rw [if_pos ⟨htype, hcount⟩] at ht
    cases hs
    cases ht
    have harrive := fun (s : InputDriver D) (hsettled : Settled param s) =>
      recvMsgs_arrive htype datagrams (fillPool s.pktPool s.freePktQueue).1
        ((hlength hsettled).symm ▸ hcount) hfits
    apply Related.puts _ (harrive s h.left) (harrive t h.right)
    refine ⟨hsettled _ _ htype h.left ?_, hsettled _ _ htype h.right ?_,
      ⟨h.agree.1, h.agree.2, h.agree.3, h.agree.4, h.agree.5, h.agree.6⟩⟩
    · rw [recvMsgs_length, hlength h.left]
    · rw [recvMsgs_length, hlength h.right]
  · cases hs

theorem isNewFrame_related (h : Related param s t) (pkt pkt' : Buffer) :
    Related param (s.isNewFrame pkt) (t.isNewFrame pkt') := by
  have hsettled : ∀ (s : InputDriver D) (pkt : Buffer), Settled param s →
      Settled param (s.isNewFrame pkt) := by
    intro s pkt hs
    unfold InputDriver.isNewFrame
    split
    · exact ⟨hs.decided, hs.inside, hs.starts, hs.pool⟩
    · exact hs
  have hagree : WindowsAgree (s.isNewFrame pkt) (t.isNewFrame pkt') := by
    obtain ⟨h₁, h₂, h₃, h₄, h₅, h₆⟩ := h.agree
    unfold InputDriver.isNewFrame
    split <;> split <;> exact ⟨h₁, h₂, h₃, h₄, h₅, h₆⟩
  exact ⟨hsettled s pkt h.left, hsettled t pkt' h.right, hagree⟩

/-- A packet of a file is read. -/
theorem Related.pcap {filter : PcapFilter} {len : UInt32} {captured : List UInt8}
    (h : Related param s t) (htype : param.inputType = .pcap)
    (hfits : Fits D param (.pcap now filter len captured)) :
    Related param (s.recvPacket param now filter len captured)
      (t.recvPacket param now filter len captured) := by
  have herror : ∀ {s t : InputDriver D}, Related param s t → Related param
      { s with inputErrors := s.inputErrors ++ [.pcapParse filter] }
      { t with inputErrors := t.inputErrors ++ [.pcapParse filter] } := by
    intro s t h
    obtain ⟨h₁, h₂, h₃, h₄, h₅, h₆⟩ := h.agree
    exact ⟨⟨h.left.1, h.left.2, h.left.3, h.left.4⟩, ⟨h.right.1, h.right.2, h.right.3, h.right.4⟩,
      ⟨h₁, h₂, h₃, congrArg (· ++ _) h₄, h₅, h₆⟩⟩
  have hmem : Related param { s with pcapMem := s.pcapMem.set 0 captured }
      { t with pcapMem := t.pcapMem.set 0 captured } :=
    ⟨⟨h.left.1, h.left.2, h.left.3, h.left.4⟩, ⟨h.right.1, h.right.2, h.right.3, h.right.4⟩,
      ⟨h.agree.1, h.agree.2, h.agree.3, h.agree.4, h.agree.5, h.agree.6⟩⟩
  have hget : Related param
      { s with
        pcapMem := s.pcapMem.set 0 captured
        freePktQueue := (packetGet s.freePktQueue).2 }
      { t with
        pcapMem := t.pcapMem.set 0 captured
        freePktQueue := (packetGet t.freePktQueue).2 } :=
    ⟨hmem.left.get, hmem.right.get,
      ⟨h.agree.1, h.agree.2, h.agree.3, h.agree.4, h.agree.5, h.agree.6⟩⟩
  have hstart : ∀ {s : InputDriver D}, Settled param s →
      (packetGet s.freePktQueue).1.dataOff = 0 := fun hsettled =>
    (packetGet_start fun pkt hpkt => hsettled.starts htype pkt (List.mem_append_left _ hpkt)).1
  unfold InputDriver.recvPacket
  dsimp only
  split
  · exact herror hmem
  · rename_i hpos
    split
    · exact herror hget
    · rename_i hsize
      have harrive := fun (s : InputDriver D) (hsettled : Settled param s) =>
        recvPcap_arrives s.pcapMem hfits (Int.not_lt.mp hpos) (Nat.not_lt.mp hsize)
          (hstart hsettled)
      apply Related.put _ (harrive s h.left) (harrive t h.right)
      split
      · exact isNewFrame_related hget _ _
      · exact hget

/-- The handling thread takes a batch. -/
theorem Related.popBatch (h : Related param s t) (hs : s.step param .popBatch = some s')
    (ht : t.step param .popBatch = some t') : Related param s' t' := by
  have hsettled : ∀ {s : InputDriver D}, Settled param s → Settled param
      { s with batch := s.pktQueue.take 50, pktQueue := s.pktQueue.drop 50 } := by
    intro s hs
    have hmem : ∀ pkt ∈ s.pktQueue.drop 50 ++ s.pktQueue.take 50, pkt ∈ s.pktQueue ++ s.batch := by
      intro pkt hpkt
      rcases List.mem_append.mp hpkt with hdrop | htake
      · exact List.mem_append_left _ (List.mem_of_mem_drop hdrop)
      · exact List.mem_append_left _ (List.mem_of_mem_take htake)
    refine ⟨fun pkt hpkt => hs.decided pkt (hmem pkt hpkt), hs.inside, ?_, hs.pool⟩
    intro hpcap pkt hpkt
    apply hs.starts hpcap pkt
    rcases List.mem_append.mp hpkt with hfree | hrest
    · exact List.mem_append_left _ hfree
    · exact List.mem_append_right _ (hmem pkt hrest)
  obtain ⟨hqueue, -, h₃, h₄, h₅, h₆⟩ := h.agree
  unfold InputDriver.step at hs ht
  dsimp only at hs ht
  split at hs
  · split at ht
    · cases hs
      cases ht
      refine ⟨hsettled h.left, hsettled h.right, ⟨?_, ?_, h₃, h₄, h₅, h₆⟩⟩
      · dsimp only
        rw [List.map_drop, List.map_drop, hqueue]
      · dsimp only
        rw [List.map_take, List.map_take, hqueue]
    · cases ht
  · cases hs

/-- A packet was handled, and its buffer can be used again. -/
theorem Settled.free {batch : List Buffer} {mem : Mem} {driver : PacketDriver D}
    {outputs : List (Output D)} (h : Settled param s) (hbatch : s.batch = pkt :: batch) :
    Settled param (InputDriver.packetFree { pkt with mem := mem }
      { s with batch := batch, driver := driver, outputs := outputs }) := by
  have hmem : ∀ pkt' ∈ s.pktQueue ++ batch, pkt' ∈ s.pktQueue ++ s.batch := by
    intro pkt' hpkt'
    rw [hbatch]
    rcases List.mem_append.mp hpkt' with hqueue | hrest
    · exact List.mem_append_left _ hqueue
    · exact List.mem_append_right _ (List.mem_cons_of_mem _ hrest)
  have hdecided : ∀ pkt' ∈ s.pktQueue ++ batch, Decided D pkt'.window := fun pkt' hpkt' =>
    h.decided pkt' (hmem pkt' hpkt')
  have hstarts : param.inputType = .pcap →
      ∀ pkt' ∈ s.freePktQueue ++ (s.pktQueue ++ batch), pkt'.dataOff = 0 := by
    intro hpcap pkt' hpkt'
    apply h.starts hpcap pkt'
    rcases List.mem_append.mp hpkt' with hfree | hrest
    · exact List.mem_append_left _ hfree
    · exact List.mem_append_right _ (hmem pkt' hrest)
  unfold InputDriver.packetFree
  split
  · refine ⟨hdecided, h.inside, ?_, h.pool⟩
    intro hpcap pkt' hpkt'
    dsimp only at hpkt'
    rw [List.append_assoc] at hpkt'
    rcases List.mem_append.mp hpkt' with hfree | hrest
    · exact hstarts hpcap pkt' (List.mem_append_left _ hfree)
    · rcases List.mem_append.mp hrest with hnew | hold
      · rw [List.mem_singleton.mp hnew]
        apply h.starts hpcap pkt
        rw [hbatch]
        exact List.mem_append_right _ (List.mem_append_right _ List.mem_cons_self)
      · exact hstarts hpcap pkt' (List.mem_append_right _ hold)
  · exact ⟨hdecided, h.inside, hstarts, h.pool⟩

theorem packetFree_agree (h : WindowsAgree s t) (pkt pkt' : Buffer) :
    WindowsAgree (s.packetFree pkt) (t.packetFree pkt') := by
  obtain ⟨h₁, h₂, h₃, h₄, h₅, h₆⟩ := h
  unfold InputDriver.packetFree
  split <;> split <;> exact ⟨h₁, h₂, h₃, h₄, h₅, h₆⟩

/-- A packet is handled. -/
theorem Related.handle (h : Related param s t) (hs : s.step param (.handle now) = some s')
    (ht : t.step param (.handle now) = some t') : Related param s' t' := by
  unfold InputDriver.step at hs ht
  dsimp only at hs ht
  have hbatches := h.agree.batch
  cases hbatch : s.batch with
  | nil =>
    rw [hbatch] at hs
    cases hs
  | cons pkt batch =>
    cases hbatch' : t.batch with
    | nil =>
      rw [hbatch'] at ht
      cases ht
    | cons pkt' batch' =>
      rw [hbatch] at hs
      rw [hbatch'] at ht
      rw [hbatch, hbatch', List.map_cons, List.map_cons] at hbatches
      obtain ⟨hwindow, hrest⟩ := List.cons.inj hbatches
      have hdecided : Decided D pkt.window := by
        apply h.left.decided pkt
        rw [hbatch]
        exact List.mem_append_right _ List.mem_cons_self
      obtain ⟨r, hr, rfl⟩ := Option.map_eq_some_iff.mp hs
      obtain ⟨r', hr', rfl⟩ := Option.map_eq_some_iff.mp ht
      have hsame := internalProcessPacket_same now hwindow hdecided param s.driver
      rw [h.agree.driver] at hr hsame
      rw [hr, hr', Option.map_some, Option.map_some, Option.some.injEq, Prod.mk.injEq] at hsame
      refine ⟨h.left.free hbatch, h.right.free hbatch', packetFree_agree ?_ _ _⟩
      refine ⟨h.agree.queue, hrest, h.agree.overflowTm, h.agree.inputErrors, hsame.1, ?_⟩
      dsimp only
      rw [h.agree.outputs, hsame.2]

theorem Related.step {e : InputEvent} (h : Related param s t) (hfits : Fits D param e)
    (hs : s.step param e = some s') (ht : t.step param e = some t') : Related param s' t' := by
  cases e with
  | epoll now datagram => exact h.epoll hfits hs ht
  | select now datagrams => exact h.select hfits hs ht
  | pcap now filter len captured =>
    unfold InputDriver.step at hs ht
    dsimp only at hs ht
    split at hs
    · rename_i htype
      rw [if_pos htype] at ht
      cases hs
      cases ht
      exact h.pcap htype hfits
    · cases hs
  | popBatch => exact h.popBatch hs ht
  | handle now => exact h.handle hs ht

theorem start_related (param : InputParam) (decoder : D.State) (pre : D.PreState)
    (mems mems' : List Mem) (pcapMem pcapMem' : Mem) :
    Related param (InputDriver.start D decoder pre mems pcapMem)
      (InputDriver.start D decoder pre mems' pcapMem') := by
  have hsettled : ∀ (mems : List Mem) (pcapMem : Mem),
      Settled param (InputDriver.start D decoder pre mems pcapMem) := by
    intro mems pcapMem
    refine ⟨fun _ hnone => (nomatch hnone), fun _ hnone => (nomatch hnone), ?_, rfl⟩
    intro _ pkt hpkt
    rcases List.mem_append.mp hpkt with hfree | hnone
    · obtain ⟨mem, -, rfl⟩ := List.mem_map.mp hfree
      rfl
    · cases hnone
  exact ⟨hsettled mems pcapMem, hsettled mems' pcapMem', ⟨rfl, rfl, rfl, rfl, rfl, rfl⟩⟩

/-- **Datagrams are isolated from each other.** When all that arrives fits, the windows
on the buffers that are handed on are inside their datagrams; and two runs in which the
same arrives give the same to their callbacks, whatever bytes the recycled buffers, and
the memory behind a packet of a file, had before. -/
theorem datagrams_isolated (D : PacketDecoder) (param : InputParam) (decoder : D.State)
    (pre : D.PreState) (mems mems' : List Mem) (pcapMem pcapMem' : Mem) {es : List InputEvent}
    {s t : InputDriver D} (hfits : ∀ e ∈ es, Fits D param e)
    (hs : exec (InputDriver.step param) (.start D decoder pre mems pcapMem) es = some s)
    (ht : exec (InputDriver.step param) (.start D decoder pre mems' pcapMem') es = some t) :
    (∀ pkt ∈ s.handed, pkt.Inside) ∧ s.outputs = t.outputs ∧ s.inputErrors = t.inputErrors := by
  have hrelated : Related param s t :=
    exec_related (fun e he _ _ _ _ h hs ht => h.step (hfits e he) hs ht)
      (start_related param decoder pre mems mems' pcapMem pcapMem') hs ht
  exact ⟨hrelated.left.inside, hrelated.agree.outputs, hrelated.agree.inputErrors⟩

end Runs

/-! ### The numbered lidars -/

/-- The length of a DIFOP packet; RSEMX has several, which it does not check before. -/
def SeqType.difopLen : SeqType → ℕ
  | .rsm3 => 512
  | .rsemx => 654
  | _ => 256

/-- The id of a DIFOP packet. -/
def SeqType.difopId : SeqType → List UInt8
  | .rsemx => [0xA5, 0xFF, 0x00]
  | _ => [0xA5, 0xFF, 0x00, 0x5A, 0x11, 0x11, 0x55, 0x55]

/-- `EMX_PIXELS_PER_COLUMN` -/
def emxPixelsPerColumn : ℕ := 192

/-- Where a DIFOP packet of RSEMX has its angles, by its length. -/
def emxPitchOffset : ℕ → Option ℕ
  | 654 => some 140
  | 500 => some 94
  | 740 => some 334
  | 756 => some 350
  | _ => none

/-- A numbered decoder with the cloud of its driver; only RSEMX has angles in its DIFOP packets,
and uses them for its points. -/
structure SeqState (P : Type) where
  seq : SeqDecoder
  anglesReady : Bool
  pitchAngle : List ℤ
  cloud : DriverCloud P

/-- `decodeDifopPkt`, as far as the points depend on it. -/
def SeqType.decodeDifopPkt {P : Type} (t : SeqType) (packet : List UInt8) (s : SeqState P) :
    SeqState P :=
  match t, emxPitchOffset packet.length with
  | .rsemx, some offset =>
    { s with
      pitchAngle := (List.range emxPixelsPerColumn).map fun i =>
        ((u16At (memOf packet) (offset + 2 * i)).toInt16.toInt * 10).tdiv 2
      anglesReady := true }
  | _, _ => s

/-- The angle -2416 of a packet of 500 bytes is kept as -12080. -/
example : (SeqType.rsemx.decodeDifopPkt (List.replicate 94 0 ++ 0xF6 :: 0x90 :: List.replicate 404 0)
    (⟨.init, false, [], .init⟩ : SeqState Unit)).pitchAngle.head? = some (-12080) := by
  decide +kernel

/-- The decoder of a numbered lidar that runs by its own clock; `channel` is what
distance, angle and time make of the channels of a packet. -/
def SeqType.packetDecoder {P : Type} (t : SeqType) (param : RSDecoderParam)
    (channel : List ℤ → List UInt8 → ℕ → ℕ → ℕ → ℕ → RSChannel P) : PacketDecoder where
  State := SeqState P
  PreState := SeqDecoder
  Call := CloudMsg P
  Time := Unit
  msopLen := t.constParam.msopLen
  difopLen := t.difopLen
  imuLen := 0
  msopId := t.constParam.msopId
  difopId := t.difopId
  imuId := []
  checksDifopLen := match t with
    | .rsemx => false
    | _ => true
  msopId_le := by cases t <;> decide
  difopId_le := by cases t <;> decide
  imuId_le := Nat.le_refl 0
  overflows s := decide (5000000 < s.cloud.pointCloud.length)
  clearCloud s := { s with cloud := { s.cloud with pointCloud := [] } }
  ready s := !(param.waitForDifop && !s.anglesReady)
  decodeMsopPkt _ bytes s :=
    let pkt : SeqMsopPkt P := ⟨⟨memOf bytes, bytes.length⟩, channel s.pitchAngle bytes⟩
    let r := t.decodeMsopPkt pkt.toSeqPkt s.seq
    let cloud := s.cloud.calls param (t.msopCalls param pkt s.seq)
    (({ s with seq := r.1, cloud := cloud }, bytes),
      cloud.putClouds.drop s.cloud.putClouds.length, r.2)
  decodeDifopPkt _ bytes s := (t.decodeDifopPkt bytes s, [])
  decodeImuPkt _ _ s := (s, [])
  prevPktTs _ := ()
  isNewFrame data pre := pre.isNewFrameCommon data

/-- The decoder of an RSM1 that sees nothing. -/
def rsm1PacketDecoder : PacketDecoder :=
  SeqType.rsm1.packetDecoder (P := Unit) fiveBlksParam fun _ _ _ _ _ _ => ⟨none, ()⟩

/-- An epoll input without layers, and a packet callback. -/
def epollParam : InputParam := ⟨.epoll, 0, 0, false, true⟩

/-- A packet of RSM1. -/
def rsm1Datagram : List UInt8 := rsm1.msopId ++ [0, 1] ++ List.replicate 1204 0

/-- One datagram is received and handled. -/
def oneDatagram (datagram : List UInt8) : List InputEvent :=
  [.epoll 100 datagram, .popBatch, .handle 100]

/-- The driver with a new buffer, and with one full of 0xAA. -/
def rsm1Start (mems : List Mem) : InputDriver rsm1PacketDecoder :=
  .start rsm1PacketDecoder (⟨.init, true, [], .init⟩ : SeqState Unit) SeqDecoder.init mems fun _ => 0

/-- A packet of RSM1 gives the same in both. -/
theorem datagrams_isolated_rsm1 : ∃ s t : InputDriver rsm1PacketDecoder,
    exec (InputDriver.step epollParam) (rsm1Start []) (oneDatagram rsm1Datagram) = some s ∧
    exec (InputDriver.step epollParam) (rsm1Start [fun _ => 0xAA]) (oneDatagram rsm1Datagram) =
      some t ∧ s.outputs.length = 1 ∧
    (∀ pkt ∈ s.handed, pkt.Inside) ∧ s.outputs = t.outputs ∧ s.inputErrors = t.inputErrors := by
  have hs : (exec (InputDriver.step epollParam) (rsm1Start []) (oneDatagram rsm1Datagram)).map
      (fun s => decide (s.outputs.length = 1)) = some true := by decide +kernel
  have ht : (exec (InputDriver.step epollParam) (rsm1Start [fun _ => 0xAA])
      (oneDatagram rsm1Datagram)).map (fun _ => true) = some true := by decide +kernel
  obtain ⟨s, hs, hone⟩ := Option.map_eq_some_iff.mp hs
  obtain ⟨t, ht, -⟩ := Option.map_eq_some_iff.mp ht
  have hfits : ∀ e ∈ oneDatagram rsm1Datagram, Fits rsm1PacketDecoder epollParam e := by
    intro e he
    simp only [oneDatagram, List.mem_cons, List.not_mem_nil, or_false] at he
    rcases he with rfl | rfl | rfl
    · have hlite : (epollParam.payload rsm1Datagram).take 2 ≠ [0x5A, 0xFF] := by decide +kernel
      have hhead : (epollParam.payload rsm1Datagram).head? = some 0x55 := by decide +kernel
      have hkind : KindDecided (epollParam.payload rsm1Datagram) :=
        ⟨0x55, hhead, .inr ⟨by decide +kernel, fun h => absurd h hlite⟩⟩
      exact fun _ => ⟨by decide +kernel, hkind, fun hunchecked => absurd hunchecked (by decide)⟩
    · trivial
    · trivial
  exact ⟨s, t, hs, ht, of_decide_eq_true hone,
    datagrams_isolated _ _ _ _ [] [fun _ => 0xAA] _ _ hfits hs ht⟩

/-- **A byte of an earlier datagram.** A datagram of one byte, the first of the header of
an MSOP packet: with a new buffer it is none, with a buffer that held 0xAA behind it is
one, gives an exception for its length, and is handed to the packet callback. -/
theorem stale_header : ∃ s t : InputDriver rsm1PacketDecoder,
    exec (InputDriver.step epollParam) (rsm1Start []) (oneDatagram [0x55]) = some s ∧
    exec (InputDriver.step epollParam) (rsm1Start [fun _ => 0xAA]) (oneDatagram [0x55]) = some t ∧
    s.outputs.length = 0 ∧ t.outputs.length = 2 ∧ s.outputs ≠ t.outputs := by
  have hs : (exec (InputDriver.step epollParam) (rsm1Start []) (oneDatagram [0x55])).map
      (fun s => decide (s.outputs.length = 0)) = some true := by decide +kernel
  have ht : (exec (InputDriver.step epollParam) (rsm1Start [fun _ => 0xAA])
      (oneDatagram [0x55])).map (fun s => decide (s.outputs.length = 2)) = some true := by
    decide +kernel
  obtain ⟨s, hs, hnone⟩ := Option.map_eq_some_iff.mp hs
  obtain ⟨t, ht, htwo⟩ := Option.map_eq_some_iff.mp ht
  refine ⟨s, t, hs, ht, of_decide_eq_true hnone, of_decide_eq_true htwo, ?_⟩
  intro hsame
  have hlength := of_decide_eq_true hnone
  rw [hsame, of_decide_eq_true htwo] at hlength
  cases hlength

end Rs
end SensorSupport
