/-
# Recorded packets (`rslidar_sdk/src/source/source_packet_ros.hpp`, `driver/input/input_raw.hpp`)

A driver with a packet callback gives it every MSOP and DIFOP packet that it handled, with the
bytes that the decoder left: when the lidar does not keep the time, the host's is written into
them. They become messages, and `SourcePacketRos` feeds the messages to a driver without a
socket. That one makes the same clouds of them (`recording_replayed`): packets of other kinds
leave no message, and none of them moves the decoder; what was no valid packet is none again.
The angles that an RSEMX takes from its DIFOP packets are the same, as these are recorded too.

Of a message only its bytes are looked at. The layers that the first driver has cut off are cut
off once more when the second one is configured for them, too (`feedPacket_cuts`).

Key definitions: `RslidarPacket`, `feedPacket`, `ReplayEvent`, `Handled`, `Redecodes`,
`SeqType.clockDecoder`.
Key theorems: `Redecodes.replays`, `replay_shows`, `recording_replayed`.
-/
import SensorSupport.Lib.Recording
import SensorSupport.Rs.DatagramIsolation
import SensorSupport.Rs.Timestamp

namespace SensorSupport
namespace Rs

/-! ### Messages -/

/-- `RslidarPacket`, the message. -/
structure RslidarPacket (Stamp : Type) where
  stamp : Stamp
  seq : UInt32
  frameId : List Char
  isDifop : Bool
  isFrameBegin : Bool
  data : List UInt8

/-- `toRosMsg` -/
def Packet.toRosMsg {Time Stamp : Type} (fromSec : Option Time → Stamp) (frameId : List Char)
    (rsMsg : Packet Time) : RslidarPacket Stamp where
  stamp := fromSec rsMsg.timestamp
  seq := rsMsg.seq
  frameId := frameId
  isDifop := rsMsg.isDifop
  isFrameBegin := rsMsg.isFrameBegin
  data := rsMsg.buf

/-- `toRsMsg` -/
def RslidarPacket.toRsMsg {Time Stamp : Type} (toSec : Stamp → Time)
    (rosMsg : RslidarPacket Stamp) : Packet Time where
  timestamp := some (toSec rosMsg.stamp)
  isDifop := rosMsg.isDifop
  isFrameBegin := rosMsg.isFrameBegin
  seq := rosMsg.seq
  buf := rosMsg.data

/-! ### The raw input -/

/-- `feedPacket` of `InputRaw`, into the buffer it gets; none when it copies from behind the
packet or to behind the buffer. -/
def feedPacket (param : InputParam) (data : List UInt8) (pkt : Buffer) : Option Buffer :=
  let size := param.windowSize data.length
  if param.sockOffset + size.toNat ≤ data.length ∧ pkt.dataOff + size.toNat ≤ ethLen then
    some
      { mem := pkt.mem.set pkt.dataOff ((data.drop param.sockOffset).take size.toNat)
        dataOff := 0
        dataSize := size
        received := size.toNat }
  else none

/-- A message comes, the handling thread takes a batch, and it handles a packet. -/
inductive ReplayEvent (Stamp : Type)
  | putPacket (now : ℕ) (msg : RslidarPacket Stamp)
  | popBatch
  | handle (now : ℕ)

namespace InputDriver

variable {D : PacketDecoder} {Stamp : Type}

/-- `decodePacket`: of the packet only its bytes are fed. -/
def decodePacket (param : InputParam) (now : ℕ) (pkt : Packet D.Time) (s : InputDriver D) :
    Option (InputDriver D) :=
  let g := packetGet s.freePktQueue
  (feedPacket param pkt.buf g.1).map fun fed => packetPut now { s with freePktQueue := g.2 } fed

/-- A step of a driver with a raw input. -/
def replayStep (param : InputParam) (toSec : Stamp → D.Time) (s : InputDriver D) :
    ReplayEvent Stamp → Option (InputDriver D)
  | .putPacket now msg => s.decodePacket param now (msg.toRsMsg toSec)
  | .popBatch => s.step param .popBatch
  | .handle now => s.step param (.handle now)

end InputDriver

def ReplayEvent.msg? {Stamp : Type} : ReplayEvent Stamp → Option (RslidarPacket Stamp)
  | .putPacket _ msg => some msg
  | _ => none

/-- The messages of a run. -/
def fed {D : PacketDecoder} {Stamp : Type} (tr : List (InputDriver D × ReplayEvent Stamp)) :
    List (RslidarPacket Stamp) := tr.filterMap fun x => x.2.msg?

/-- The queue has room for a packet that comes. -/
def QueueHasRoom {D : PacketDecoder} {Stamp : Type} (s : InputDriver D) :
    ReplayEvent Stamp → Prop
  | .putPacket _ _ => s.pktQueue.length + 1 < 102400
  | _ => True

/-! ### What is handled -/

section Handled

variable {D : PacketDecoder} {V : Type}

def Output.packet? : Output D → Option (Packet D.Time)
  | .packet pkt => some pkt
  | _ => none

/-- What can be seen of the calls of the decoder. -/
def Output.see (view : D.Call → Option V) : Output D → Option V
  | .call c => view c
  | _ => none

/-- The bytes of the packets that were given to the callback. -/
def Output.tape (o : Output D) : Option (List UInt8) := o.packet?.map (·.buf)

/-- The packets that were given to the callback. -/
def InputDriver.packets (s : InputDriver D) : List (Packet D.Time) :=
  s.outputs.filterMap Output.packet?

/-- What can be seen of all calls. -/
def InputDriver.shown (view : D.Call → Option V) (s : InputDriver D) : List V :=
  s.outputs.filterMap (Output.see view)

/-- A packet is handled: a window that decides what becomes of it. -/
def Handled (param : InputParam) (d : PacketDriver D) (window : List UInt8) (d' : PacketDriver D)
    (out : List (Output D)) : Prop :=
  Decided D window ∧ ∃ now pkt mem, pkt.window = window ∧
    d.internalProcessPacket param now pkt = some (d', out, mem)

end Handled

/-! ### What a window makes of a decoder -/

namespace PacketDecoder

variable (D : PacketDecoder)

/-- The decoder behind the check of its cloud. -/
def settled (s : D.State) : D.State := if D.overflows s then D.clearCloud s else s

/-- A window passes the checks of `processMsopPkt`. -/
def checksMsop (s : D.State) (window : List UInt8) : Bool :=
  D.ready s && window.length == D.msopLen && window.take D.msopId.length == D.msopId

/-- A window passes the checks of `processDifopPkt`. -/
def checksDifop (window : List UInt8) : Bool :=
  (window.length == D.difopLen || !D.checksDifopLen) && window.take D.difopId.length == D.difopId

/-- A window passes the checks of `processImuPkt`. -/
def checksImu (window : List UInt8) : Bool :=
  window.length == D.imuLen && window.take D.imuId.length == D.imuId

/-- What a window makes of the decoder: its calls, and what is given to a packet callback. -/
def decodeWindow (now : ℕ) (window : List UInt8) (s : D.State) :
    D.State × List D.Call × Option (List UInt8) :=
  match pktKind (memOf window) with
  | some .msop =>
    if D.checksMsop (D.settled s) window then
      let r := D.decodeMsopPkt now window (D.settled s)
      (r.1.1, r.2.1, some r.1.2)
    else (D.settled s, [], some window)
  | some .difop =>
    if D.checksDifop window then
      let r := D.decodeDifopPkt now window s
      (r.1, r.2, some window)
    else (s, [], some window)
  | some .imu =>
    if D.checksImu window then
      let r := D.decodeImuPkt now window s
      (r.1, r.2, none)
    else (s, [], none)
  | none => (s, [], none)

end PacketDecoder

section Windows

variable {D : PacketDecoder} {V : Type} {view : D.Call → Option V} {d d' : PacketDriver D}
  {pkt : Buffer} {now : ℕ} {window : List UInt8} {out : List (Output D)} {param : InputParam}

/-- There are exceptions only. -/
def Quiet (out : List (Output D)) : Prop := ∀ o ∈ out, ∃ code, o = .exception code

theorem Quiet.append {out' : List (Output D)} (h : Quiet out) (h' : Quiet out') :
    Quiet (out ++ out') := fun o ho => (List.mem_append.mp ho).elim (h o) (h' o)

theorem Quiet.see (h : Quiet out) : out.filterMap (Output.see view) = [] := by
  rw [List.filterMap_eq_nil_iff]
  intro o ho
  obtain ⟨code, rfl⟩ := h o ho
  rfl

theorem Quiet.tape (h : Quiet out) : out.filterMap Output.tape = [] := by
  rw [List.filterMap_eq_nil_iff]
  intro o ho
  obtain ⟨code, rfl⟩ := h o ho
  rfl

theorem see_calls (calls : List D.Call) :
    (calls.map Output.call).filterMap (Output.see view) = calls.filterMap view := by
  rw [List.filterMap_map]
  rfl

theorem tape_calls (calls : List D.Call) :
    (calls.map Output.call).filterMap Output.tape = [] := by
  simp [Output.tape, Output.packet?, List.filterMap_map, Function.comp_def]

/-- A limited call leaves the decoder alone, and is an exception. -/
theorem limitCall_quiet (code : ErrCode) (now : ℕ) (d : PacketDriver D) :
    (d.limitCall code now).1.decoder = d.decoder ∧ Quiet (d.limitCall code now).2 := by
  unfold PacketDriver.limitCall
  split
  · exact ⟨rfl, fun o ho => ⟨code, List.mem_singleton.mp ho⟩⟩
  · exact ⟨rfl, fun o ho => absurd ho List.not_mem_nil⟩

theorem delayLimitCall_quiet (code : ErrCode) (now : ℕ) (d : PacketDriver D) :
    (d.delayLimitCall code now).1.decoder = d.decoder ∧ Quiet (d.delayLimitCall code now).2 := by
  unfold PacketDriver.delayLimitCall
  dsimp only
  split
  · exact ⟨rfl, fun o ho => ⟨code, List.mem_singleton.mp ho⟩⟩
  · exact ⟨rfl, fun o ho => absurd ho List.not_mem_nil⟩

/-- The check of the cloud. -/
theorem settled_quiet (now : ℕ) (d : PacketDriver D) :
    let r := if D.overflows d.decoder then
        PacketDriver.limitCall .cloudOverflow now { d with decoder := D.clearCloud d.decoder }
      else (d, [])
    r.1.decoder = D.settled d.decoder ∧ Quiet r.2 := by
  intro r
  simp only [r, PacketDecoder.settled]
  split
  · exact limitCall_quiet _ _ _
  · exact ⟨rfl, fun o ho => absurd ho List.not_mem_nil⟩

theorem processMsopPkt_refused (h : D.checksMsop (D.settled d.decoder) pkt.window = false) :
    (d.processMsopPkt now pkt).1.1.decoder = D.settled d.decoder ∧
      (d.processMsopPkt now pkt).1.2 = pkt.mem ∧ Quiet (d.processMsopPkt now pkt).2.1 := by
  obtain ⟨hdecoder, hquiet⟩ := settled_quiet now d
  unfold PacketDriver.processMsopPkt
  dsimp only
  generalize (if D.overflows d.decoder then
    PacketDriver.limitCall .cloudOverflow now { d with decoder := D.clearCloud d.decoder }
    else (d, [])) = r at hdecoder hquiet ⊢
  have hlimited : ∀ code, ((r.1.limitCall code now).1.decoder = D.settled d.decoder ∧
      pkt.mem = pkt.mem ∧ Quiet (r.2 ++ (r.1.limitCall code now).2)) := by
    intro code
    obtain ⟨hsame, hcall⟩ := limitCall_quiet code now r.1
    exact ⟨hsame.trans hdecoder, rfl, hquiet.append hcall⟩
  split
  · obtain ⟨hsame, hcall⟩ := delayLimitCall_quiet .noDifopRecv now r.1
    exact ⟨hsame.trans hdecoder, rfl, hquiet.append hcall⟩
  · rename_i hready
    split
    · exact hlimited _
    · rename_i hlen
      split
      · exact hlimited _
      · rename_i hid
        rw [not_not] at hlen hid
        have hready : D.ready (D.settled d.decoder) = true := by simpa [hdecoder] using hready
        rw [bytes_eq_take (hlen ▸ D.msopId_le)] at hid
        simp [PacketDecoder.checksMsop, hready, window_length, hlen, hid] at h

theorem processMsopPkt_decoded (h : D.checksMsop (D.settled d.decoder) pkt.window = true) :
    let r := D.decodeMsopPkt now pkt.window (D.settled d.decoder)
    (d.processMsopPkt now pkt).1.1.decoder = r.1.1 ∧
      (d.processMsopPkt now pkt).1.2 = pkt.mem.set pkt.dataOff r.1.2 ∧
      ∃ quiet, Quiet quiet ∧ (d.processMsopPkt now pkt).2.1 = quiet ++ r.2.1.map .call := by
  simp only [PacketDecoder.checksMsop, Bool.and_eq_true, beq_iff_eq, window_length] at h
  obtain ⟨⟨hready, hlen⟩, hid⟩ := h
  obtain ⟨hdecoder, hquiet⟩ := settled_quiet now d
  have hbytes : pkt.bytes D.msopLen = pkt.window := by rw [Buffer.window, hlen]
  rw [← bytes_eq_take (hlen ▸ D.msopId_le)] at hid
  unfold PacketDriver.processMsopPkt
  dsimp only
  generalize (if D.overflows d.decoder then
    PacketDriver.limitCall .cloudOverflow now { d with decoder := D.clearCloud d.decoder }
    else (d, [])) = r at hdecoder hquiet ⊢
  rw [hdecoder, hready, if_neg (by simp), if_neg (not_not.mpr hlen), if_neg (not_not.mpr hid),
    hbytes]
  exact ⟨rfl, rfl, r.2, hquiet, rfl⟩

/-- The window that an MSOP packet leaves is what is written over it. -/
theorem window_set (written : List UInt8) (h : written.length = pkt.window.length) :
    Buffer.window { pkt with mem := pkt.mem.set pkt.dataOff written } = written := by
  rw [window_length] at h
  unfold Buffer.window Buffer.bytes
  dsimp only
  rw [← h]
  exact Mem.bytes_set_self _ _ _

/-- A packet that is refused makes no call. -/
theorem limitCall_calls (code : ErrCode) (now : ℕ) (d : PacketDriver D) :
    (d.limitCall code now).1.decoder = d.decoder ∧
      ∃ quiet, Quiet quiet ∧ (d.limitCall code now).2 = quiet ++ ([] : List D.Call).map .call := by
  obtain ⟨hsame, hcall⟩ := limitCall_quiet code now d
  exact ⟨hsame, _, hcall, (List.append_nil _).symm⟩

theorem processDifopPkt_window (hdecided : Decided D pkt.window)
    (hkind : pktKind pkt.data = some .difop) :
    let r := if D.checksDifop pkt.window then D.decodeDifopPkt now pkt.window d.decoder
      else (d.decoder, [])
    (d.processDifopPkt now pkt).1.decoder = r.1 ∧
      ∃ quiet, Quiet quiet ∧ (d.processDifopPkt now pkt).2 = quiet ++ r.2.map .call := by
  unfold PacketDriver.processDifopPkt
  by_cases hlen : pkt.dataSize.toNat ≠ D.difopLen ∧ D.checksDifopLen = true
  · have hfails : D.checksDifop pkt.window = false := by
      simp [PacketDecoder.checksDifop, window_length, hlen.1, hlen.2]
    rw [if_pos hlen, hfails]
    exact limitCall_calls _ _ _
  · rw [if_neg hlen]
    have hlength : pkt.dataSize.toNat = D.difopLen ∨ D.checksDifopLen = false := by
      cases hchecks : D.checksDifopLen with
      | true => exact .inl (not_not.mp fun hne => hlen ⟨hne, hchecks⟩)
      | false => exact .inr rfl
    have hid : pkt.bytes D.difopId.length = pkt.window.take D.difopId.length := by
      apply bytes_eq_take
      rcases hlength with hlength | hunchecked
      · by_cases hchecks : D.checksDifopLen = true
        · exact hlength ▸ D.difopId_le hchecks
        · rw [← window_length]
          exact hdecided.difopId (by simpa using hchecks)
            ((pktKind_window hdecided.kind).symm.trans hkind)
      · rw [← window_length]
        exact hdecided.difopId hunchecked ((pktKind_window hdecided.kind).symm.trans hkind)
    have hbytes : pkt.bytes (if D.checksDifopLen then D.difopLen else pkt.dataSize.toNat) =
        pkt.window := by
      rcases hlength with hlength | hunchecked
      · rw [← hlength, ite_self]
        rfl
      · rw [hunchecked]
        rfl
    have hchecks : D.checksDifop pkt.window = (pkt.window.take D.difopId.length == D.difopId) := by
      rcases hlength with hlength | hunchecked
      · simp [PacketDecoder.checksDifop, window_length, hlength]
      · simp [PacketDecoder.checksDifop, hunchecked]
    rw [hid, hbytes, hchecks]
    by_cases hmatch : pkt.window.take D.difopId.length = D.difopId
    · rw [if_neg (not_not.mpr hmatch), hmatch, beq_self_eq_true, if_pos rfl]
      exact ⟨rfl, [], fun o ho => absurd ho List.not_mem_nil, rfl⟩
    · rw [if_pos hmatch, beq_false_of_ne hmatch]
      exact limitCall_calls _ _ _

theorem processImuPkt_window :
    let r := if D.checksImu pkt.window then D.decodeImuPkt now pkt.window d.decoder
      else (d.decoder, [])
    (d.processImuPkt now pkt).1.decoder = r.1 ∧
      ∃ quiet, Quiet quiet ∧ (d.processImuPkt now pkt).2 = quiet ++ r.2.map .call := by
  unfold PacketDriver.processImuPkt
  by_cases hlen : pkt.dataSize.toNat = D.imuLen
  · rw [if_neg (not_not.mpr hlen), bytes_eq_take (hlen ▸ D.imuId_le)]
    have hbytes : pkt.bytes D.imuLen = pkt.window := by rw [Buffer.window, hlen]
    have hchecks : D.checksImu pkt.window = (pkt.window.take D.imuId.length == D.imuId) := by
      simp [PacketDecoder.checksImu, window_length, hlen]
    rw [hbytes, hchecks]
    by_cases hmatch : pkt.window.take D.imuId.length = D.imuId
    · rw [if_neg (not_not.mpr hmatch), hmatch, beq_self_eq_true, if_pos rfl]
      exact ⟨rfl, [], fun o ho => absurd ho List.not_mem_nil, rfl⟩
    · rw [if_pos hmatch, beq_false_of_ne hmatch]
      exact limitCall_calls _ _ _
  · have hfails : D.checksImu pkt.window = false := by
      simp [PacketDecoder.checksImu, window_length, hlen]
    rw [if_pos hlen, hfails]
    exact limitCall_calls _ _ _

theorem runPacketCallBack_tape {timestamp : Option D.Time} {isDifop isFrameBegin : Bool}
    (h : d.runPacketCallBack param pkt timestamp isDifop isFrameBegin = some (d', out)) :
    d'.decoder = d.decoder ∧ out.filterMap (Output.see view) = [] ∧
      (param.putsPackets = true → out.filterMap Output.tape = [pkt.window]) := by
  unfold PacketDriver.runPacketCallBack at h
  split at h
  · rename_i hputs
    cases h
    refine ⟨rfl, rfl, fun hyes => ?_⟩
    rw [hyes] at hputs
    cases hputs
  · split at h
    · cases h
    · cases h
      exact ⟨rfl, rfl, fun _ => rfl⟩

/-- What a decoder writes into an MSOP packet leaves its length, its id, and what tells its
kind. -/
def KeepsHeader (D : PacketDecoder) : Prop :=
  ∀ {s window} now, D.checksMsop s window = true →
    let written := (D.decodeMsopPkt now window s).1.2
    written.length = window.length ∧ written.take 6 = window.take 6 ∧
      written.take D.msopId.length = window.take D.msopId.length

/-- **What is handled is what its window makes of the decoder**, whatever is behind it in its
buffer. -/
theorem Handled.decodeWindow (view : D.Call → Option V) (h : Handled param d window d' out) :
    ∃ now, d'.decoder = (D.decodeWindow now window d.decoder).1 ∧
      out.filterMap (Output.see view) =
        (D.decodeWindow now window d.decoder).2.1.filterMap view ∧
      (param.putsPackets = true → KeepsHeader D →
        out.filterMap Output.tape = (D.decodeWindow now window d.decoder).2.2.toList) := by
  obtain ⟨hdecided, now, pkt, mem, rfl, hpkt⟩ := h
  have hkind := pktKind_window hdecided.kind
  refine ⟨now, ?_⟩
  unfold PacketDriver.internalProcessPacket at hpkt
  unfold PacketDecoder.decodeWindow
  rw [← hkind]
  match hk : pktKind pkt.data with
  | some .msop =>
    rw [hk] at hpkt
    obtain ⟨⟨d₁, out₁⟩, hrun, heq⟩ := Option.map_eq_some_iff.mp hpkt
    cases heq
    obtain ⟨hdecoder, hsee, htape⟩ := runPacketCallBack_tape hrun
    dsimp only
    cases hchecks : D.checksMsop (D.settled d.decoder) pkt.window with
    | false =>
      obtain ⟨hsettled, hmem, hquiet⟩ := processMsopPkt_refused hchecks
      rw [hmem] at htape
      rw [if_neg (by simp), List.filterMap_append, List.filterMap_append, hsee, hquiet.see,
        hquiet.tape]
      exact ⟨hdecoder.trans hsettled, rfl, fun hputs _ => htape hputs⟩
    | true =>
      obtain ⟨hdecoded, hmem, quiet, hquiet, hout⟩ := processMsopPkt_decoded hchecks
      rw [hmem] at htape
      rw [if_pos rfl, List.filterMap_append, List.filterMap_append, hsee, hout,
        List.filterMap_append, List.filterMap_append, hquiet.see, hquiet.tape, see_calls,
        tape_calls]
      refine ⟨hdecoder.trans hdecoded, List.append_nil _, fun hputs hkeeps => ?_⟩
      rw [htape hputs, window_set _ (hkeeps now hchecks).1]
      rfl
  | some .difop =>
    rw [hk] at hpkt
    obtain ⟨⟨d₁, out₁⟩, hrun, heq⟩ := Option.map_eq_some_iff.mp hpkt
    cases heq
    obtain ⟨hdecoder, hsee, htape⟩ := runPacketCallBack_tape hrun
    obtain ⟨hdecoded, quiet, hquiet, hout⟩ :=
      processDifopPkt_window hdecided hk
    rw [hout, List.filterMap_append, List.filterMap_append, hsee, List.filterMap_append,
      List.filterMap_append, hquiet.see, hquiet.tape, see_calls, tape_calls]
    dsimp only
    split
    · rename_i hchecks
      rw [if_pos hchecks] at hdecoded
      exact ⟨hdecoder.trans hdecoded, List.append_nil _, fun hputs _ => htape hputs⟩
    · rename_i hchecks
      rw [if_neg hchecks] at hdecoded
      exact ⟨hdecoder.trans hdecoded, rfl, fun hputs _ => htape hputs⟩
  | some .imu =>
    rw [hk] at hpkt
    cases hpkt
    obtain ⟨hdecoded, quiet, hquiet, hout⟩ := processImuPkt_window
    rw [hout, List.filterMap_append, List.filterMap_append, hquiet.see, hquiet.tape, see_calls,
      tape_calls]
    dsimp only
    split
    · rename_i hchecks
      rw [if_pos hchecks] at hdecoded
      exact ⟨hdecoded, rfl, fun _ _ => rfl⟩
    · rename_i hchecks
      rw [if_neg hchecks] at hdecoded
      exact ⟨hdecoded, rfl, fun _ _ => rfl⟩
  | none =>
    rw [hk] at hpkt
    cases hpkt
    exact ⟨rfl, rfl, fun _ _ => rfl⟩

end Windows

/-! ### Decoders that make the same of a recording -/

/-- The second decoder makes of the packets that the first one leaves what that made of them;
`R` is how they compare meanwhile. An IMU packet shows nothing, and is not recorded. -/
structure Redecodes (D D' : PacketDecoder) {V : Type} (view : D.Call → Option V)
    (view' : D'.Call → Option V) (R : D.State → D'.State → Prop) : Prop where
  msopLen : D'.msopLen = D.msopLen
  msopId : D'.msopId = D.msopId
  difopLen : D'.difopLen = D.difopLen
  difopId : D'.difopId = D.difopId
  checksDifopLen : D'.checksDifopLen = D.checksDifopLen
  keeps : KeepsHeader D
  settled : ∀ {s s'}, R s s' → R (D.settled s) (D'.settled s')
  ready : ∀ {s s'}, R s s' → D'.ready s' = D.ready s
  msop : ∀ {s s' window} now now', R s s' → D.checksMsop s window = true →
    let r := D.decodeMsopPkt now window s
    let r' := D'.decodeMsopPkt now' r.1.2 s'
    R r.1.1 r'.1.1 ∧ r'.2.1.filterMap view' = r.2.1.filterMap view
  difop : ∀ {s s'} now now' window, R s s' →
    let r := D.decodeDifopPkt now window s
    let r' := D'.decodeDifopPkt now' window s'
    R r.1 r'.1 ∧ r'.2.filterMap view' = r.2.filterMap view
  imu : ∀ {s s'} now window, R s s' →
    let r := D.decodeImuPkt now window s
    R r.1 s' ∧ r.2.filterMap view = []

section Redecodes

variable {D D' : PacketDecoder} {V : Type} {view : D.Call → Option V}
  {view' : D'.Call → Option V} {R : D.State → D'.State → Prop} {s : D.State} {s' : D'.State}
  {window written : List UInt8}

theorem pktKind_header (h : written.take 6 = window.take 6) :
    pktKind (memOf written) = pktKind (memOf window) := by
  have hbyte : ∀ i < 6, memOf written i = memOf window i := by
    intro i hi
    rw [← memOf_take written hi, h, memOf_take window hi]
  unfold pktKind
  rw [hbyte 0 (by omega), hbyte 1 (by omega), hbyte 5 (by omega)]

theorem kindDecided_header (hlength : written.length = window.length)
    (h : written.take 6 = window.take 6) (hdecided : KindDecided window) : KindDecided written := by
  have htwo : written.take 2 = window.take 2 := by
    have htake := congrArg (List.take 2) h
    rwa [List.take_take, List.take_take] at htake
  have hhead := congrArg List.head? h
  rw [List.head?_take, List.head?_take, if_neg (by omega), if_neg (by omega)] at hhead
  unfold KindDecided
  rw [hhead, htwo, hlength]
  exact hdecided

namespace Redecodes

theorem checksMsop (h : Redecodes D D' view view' R) (hR : R s s')
    (hlength : written.length = window.length)
    (hid : written.take D.msopId.length = window.take D.msopId.length) :
    D'.checksMsop s' written = D.checksMsop s window := by
  unfold PacketDecoder.checksMsop
  rw [h.ready hR, h.msopLen, h.msopId, hlength, hid]

theorem checksDifop (h : Redecodes D D' view view' R) (window : List UInt8) :
    D'.checksDifop window = D.checksDifop window := by
  unfold PacketDecoder.checksDifop
  rw [h.difopLen, h.difopId, h.checksDifopLen]

/-- A packet that is not recorded. -/
theorem quiet (h : Redecodes D D' view view' R) (hR : R s s') {now : ℕ}
    (hnone : (D.decodeWindow now window s).2.2 = none) :
    R (D.decodeWindow now window s).1 s' ∧
      (D.decodeWindow now window s).2.1.filterMap view = [] := by
  unfold PacketDecoder.decodeWindow at hnone ⊢
  match hk : pktKind (memOf window) with
  | some .msop =>
    rw [hk] at hnone
    dsimp only at hnone
    split at hnone <;> cases hnone
  | some .difop =>
    rw [hk] at hnone
    dsimp only at hnone
    split at hnone <;> cases hnone
  | some .imu =>
    dsimp only
    split
    · exact h.imu now window hR
    · exact ⟨hR, rfl⟩
  | none => exact ⟨hR, rfl⟩

/-- A packet that is recorded, and what was left of it. -/
theorem taped (h : Redecodes D D' view view' R) (hR : R s s') {now now' : ℕ}
    (hsome : (D.decodeWindow now window s).2.2 = some written) :
    R (D.decodeWindow now window s).1 (D'.decodeWindow now' written s').1 ∧
      (D'.decodeWindow now' written s').2.1.filterMap view' =
        (D.decodeWindow now window s).2.1.filterMap view := by
  unfold PacketDecoder.decodeWindow at hsome ⊢
  match hk : pktKind (memOf window) with
  | some .msop =>
    rw [hk] at hsome
    dsimp only at hsome ⊢
    have hsettled := h.settled hR
    cases hchecks : D.checksMsop (D.settled s) window with
    | false =>
      rw [hchecks] at hsome
      obtain rfl := Option.some.inj hsome
      rw [hk]
      dsimp only
      rw [h.checksMsop hsettled rfl rfl, hchecks]
      exact ⟨hsettled, rfl⟩
    | true =>
      rw [hchecks] at hsome
      obtain rfl := Option.some.inj hsome
      obtain ⟨hlength, hheader, hid⟩ := h.keeps now hchecks
      rw [pktKind_header hheader, hk]
      dsimp only
      rw [h.checksMsop hsettled hlength hid, hchecks]
      exact h.msop now now' hsettled hchecks
  | some .difop =>
    rw [hk] at hsome
    dsimp only at hsome ⊢
    split at hsome
    · rename_i hchecks
      obtain rfl := Option.some.inj hsome
      rw [hk]
      dsimp only
      rw [h.checksDifop, hchecks]
      exact h.difop now now' window hR
    · rename_i hchecks
      obtain rfl := Option.some.inj hsome
      rw [hk]
      dsimp only
      rw [h.checksDifop, if_neg hchecks, if_neg hchecks]
      exact ⟨hR, rfl⟩
  | some .imu =>
    rw [hk] at hsome
    dsimp only at hsome
    split at hsome <;> cases hsome
  | none =>
    rw [hk] at hsome
    cases hsome

/-- **A driver with such a decoder replays what another one recorded.** -/
theorem replays (h : Redecodes D D' view view' R) {param param' : InputParam}
    (hputs : param.putsPackets = true) :
    Replays (Handled param) (Handled param') Output.tape (Output.see view) (Output.see view')
      fun d d' => R d.decoder d'.decoder where
  quiet := by
    intro d window t out d' hlive hnone hR
    obtain ⟨now, hdecoder, hsee, htape⟩ := hlive.decodeWindow view
    have hwritten : (D.decodeWindow now window d.decoder).2.2 = none :=
      Option.toList_eq_nil_iff.mp ((htape hputs h.keeps).symm.trans hnone)
    rw [hdecoder, hsee]
    exact h.quiet hR hwritten
  taped := by
    intro d window t out written d' t' out' hlive hone hR hreplay
    obtain ⟨now, hdecoder, hsee, htape⟩ := hlive.decodeWindow view
    obtain ⟨now', hdecoder', hsee', -⟩ := hreplay.decodeWindow view'
    have hwritten : (D.decodeWindow now window d.decoder).2.2 = some written :=
      Option.toList_eq_singleton_iff.mp ((htape hputs h.keeps).symm.trans hone)
    rw [hdecoder, hdecoder', hsee, hsee']
    exact h.taped hR hwritten
  once := by
    intro d window t out hlive
    obtain ⟨now, -, -, htape⟩ := hlive.decodeWindow view
    rw [htape hputs h.keeps]
    exact Option.length_toList_le

end Redecodes

end Redecodes

/-! ### Runs -/

section Runs

variable {D : PacketDecoder} {param : InputParam} {s s' : InputDriver D} {now : ℕ} {pkt : Buffer}
  {decoder : D.State} {pre : D.PreState} {mems : List Mem} {pcapMem : Mem}

/-- The decoder was not called. -/
structure NotCalled (s s' : InputDriver D) : Prop where
  driver : s'.driver = s.driver
  outputs : s'.outputs = s.outputs

theorem NotCalled.put (h : NotCalled s s') (now : ℕ) (pkt : Buffer) :
    NotCalled s (s'.packetPut now pkt) := by
  unfold InputDriver.packetPut
  split
  · exact ⟨h.driver, h.outputs⟩
  · split <;> exact ⟨h.driver, h.outputs⟩

theorem NotCalled.puts {now : ℕ} (pkts : List Buffer) (h : NotCalled s s') :
    NotCalled s (pkts.foldl (InputDriver.packetPut now) s') := by
  induction pkts generalizing s' with
  | nil => exact h
  | cons pkt pkts ih => exact ih (h.put now pkt)

theorem NotCalled.free (h : NotCalled s s') (pkt : Buffer) : NotCalled s (s'.packetFree pkt) := by
  unfold InputDriver.packetFree
  split <;> exact ⟨h.driver, h.outputs⟩

theorem recvPacket_notCalled (param : InputParam) (now : ℕ) (filter : PcapFilter) (len : UInt32)
    (captured : List UInt8) (s : InputDriver D) :
    NotCalled s (s.recvPacket param now filter len captured) := by
  unfold InputDriver.recvPacket
  dsimp only
  split
  · exact ⟨rfl, rfl⟩
  · split
    · exact ⟨rfl, rfl⟩
    · apply NotCalled.put
      unfold InputDriver.isNewFrame
      split
      · split <;> exact ⟨rfl, rfl⟩
      · exact ⟨rfl, rfl⟩

/-- Only `handle` calls the decoder. -/
theorem step_notCalled {e : InputEvent} (hne : ∀ now, e ≠ .handle now)
    (hs : s.step param e = some s') : NotCalled s s' := by
  unfold InputDriver.step at hs
  cases e with
  | epoll now datagram =>
    dsimp only at hs
    split at hs
    · split at hs
      · cases hs
        apply NotCalled.put
        exact ⟨rfl, rfl⟩
      · cases hs
        exact ⟨rfl, rfl⟩
    · cases hs
  | select now datagrams =>
    dsimp only at hs
    split at hs
    · cases hs
      exact NotCalled.puts _ ⟨rfl, rfl⟩
    · cases hs
  | pcap now filter len captured =>
    dsimp only at hs
    split at hs
    · cases hs
      exact recvPacket_notCalled _ _ _ _ _ _
    · cases hs
  | popBatch =>
    dsimp only at hs
    split at hs
    · cases hs
      exact ⟨rfl, rfl⟩
    · cases hs
  | handle now => exact absurd rfl (hne now)

theorem handle_eq_some (hs : s.step param (.handle now) = some s') :
    ∃ pkt batch r, s.batch = pkt :: batch ∧
      s.driver.internalProcessPacket param now pkt = some r ∧
        s' = InputDriver.packetFree { pkt with mem := r.2.2 }
          { s with batch := batch, driver := r.1, outputs := s.outputs ++ r.2.1 } := by
  unfold InputDriver.step at hs
  dsimp only at hs
  split at hs
  · cases hs
  · rename_i pkt batch hbatch
    obtain ⟨r, hr, rfl⟩ := Option.map_eq_some_iff.mp hs
    exact ⟨pkt, batch, r, hbatch, hr, rfl⟩

theorem popBatch_eq_some (hs : s.step param .popBatch = some s') :
    s.batch = [] ∧ s' = { s with batch := s.pktQueue.take 50, pktQueue := s.pktQueue.drop 50 } := by
  unfold InputDriver.step at hs
  dsimp only at hs
  split at hs
  · rename_i hbatch
    cases hs
    exact ⟨hbatch, rfl⟩
  · cases hs

/-- A handled packet is one more that was worked off. -/
theorem Works.handle {windows : List (List UInt8)} {d : PacketDriver D}
    {r : PacketDriver D × List (Output D) × Mem}
    (h : Works (Handled param) d windows s.driver s.outputs)
    (hr : s.driver.internalProcessPacket param now pkt = some r) (hdecided : Decided D pkt.window)
    {buf : Buffer} {batch : List Buffer} :
    Works (Handled param) d (windows ++ [pkt.window])
      (InputDriver.packetFree buf
        { s with batch := batch, driver := r.1, outputs := s.outputs ++ r.2.1 }).driver
      (InputDriver.packetFree buf
        { s with batch := batch, driver := r.1, outputs := s.outputs ++ r.2.1 }).outputs := by
  have hsame : NotCalled
      { s with batch := batch, driver := r.1, outputs := s.outputs ++ r.2.1 }
      (InputDriver.packetFree buf
        { s with batch := batch, driver := r.1, outputs := s.outputs ++ r.2.1 }) :=
    NotCalled.free ⟨rfl, rfl⟩ buf
  rw [hsame.driver, hsame.outputs]
  exact h.concat ⟨hdecided, now, pkt, r.2.2, rfl, hr⟩

/-- What a driver did is that it worked off some windows. -/
theorem run_works {tr : List (InputDriver D × InputEvent)}
    (h : Run (InputDriver.step param) (fun _ e => Fits D param e)
      (.start D decoder pre mems pcapMem) tr s) :
    ∃ windows, Works (Handled param) ⟨decoder, 0, fun _ => none⟩ windows s.driver s.outputs := by
  suffices hall : Settled param s ∧
      ∃ windows, Works (Handled param) ⟨decoder, 0, fun _ => none⟩ windows s.driver s.outputs from
    hall.2
  refine h.invariant (P := fun _ s => Settled param s ∧ ∃ windows, Works (Handled param)
    ⟨decoder, 0, fun _ => none⟩ windows s.driver s.outputs) ?_ fun tr s e s' ih hfits hs => ?_
  · exact ⟨(start_related param decoder pre mems mems pcapMem pcapMem).left, [], .nil⟩
  · obtain ⟨hsettled, windows, hworks⟩ := ih
    have hrelated : Related param s s := ⟨hsettled, hsettled, ⟨rfl, rfl, rfl, rfl, rfl, rfl⟩⟩
    refine ⟨(hrelated.step hfits hs hs).left, ?_⟩
    by_cases hhandle : ∃ now, e = .handle now
    · obtain ⟨now, rfl⟩ := hhandle
      obtain ⟨pkt, batch, r, hbatch, hr, rfl⟩ := handle_eq_some hs
      have hdecided := hsettled.decided pkt
        (hbatch ▸ List.mem_append_right _ List.mem_cons_self)
      exact ⟨_, Works.handle hworks hr hdecided⟩
    · have hsame := step_notCalled (fun now he => hhandle ⟨now, he⟩) hs
      rw [hsame.driver, hsame.outputs]
      exact ⟨windows, hworks⟩

end Runs

/-! ### Replays -/

section ReplayRuns

variable {D : PacketDecoder} {param : InputParam} {Stamp : Type} {toSec : Stamp → D.Time}
  {s s' : InputDriver D} {now : ℕ} {pkt pkt' : Buffer} {decoder : D.State} {pre : D.PreState}
  {mems : List Mem} {pcapMem : Mem}

/-- No layers are configured. -/
structure InputParam.Bare (param : InputParam) : Prop where
  userLayerBytes : param.userLayerBytes = 0
  tailLayerBytes : param.tailLayerBytes = 0

/-- What is fed is the packet without its layers, whether it still has them or not. -/
theorem feedPacket_cuts {data : List UInt8} (hdata : data.length < 2 ^ 64) (hoff : pkt.dataOff = 0)
    (h : feedPacket param data pkt = some pkt') :
    param.sockOffset + param.sockTail ≤ data.length ∧ pkt'.dataOff = 0 ∧
      pkt'.window = (data.drop param.sockOffset).take
        (data.length - param.sockOffset - param.sockTail) := by
  have huser := param.userLayerBytes.toNat_lt
  have htail := param.tailLayerBytes.toNat_lt
  unfold feedPacket at h
  dsimp only at h
  split at h
  · rename_i hfits
    cases h
    have hsize : param.sockOffset + param.sockTail ≤ data.length ∧
        (param.windowSize data.length).toNat =
          data.length - param.sockOffset - param.sockTail := by
      have hinside := hfits.1
      unfold InputParam.windowSize InputParam.sockOffset InputParam.sockTail at hinside ⊢
      simp only [UInt64.toNat_sub, UInt64.toNat_ofNat'] at hinside ⊢
      omega
    have hlength : ((data.drop param.sockOffset).take
        (data.length - param.sockOffset - param.sockTail)).length =
          data.length - param.sockOffset - param.sockTail := by
      rw [List.length_take, List.length_drop]
      omega
    have hself := Mem.bytes_set_self pkt.mem 0 ((data.drop param.sockOffset).take
      (data.length - param.sockOffset - param.sockTail))
    rw [hlength] at hself
    refine ⟨hsize.1, rfl, ?_⟩
    unfold Buffer.window Buffer.bytes
    dsimp only
    rw [hsize.2, hoff]
    exact hself
  · cases h

/-- Without layers a packet is fed as it is. -/
theorem feedPacket_window (hbare : param.Bare) {data : List UInt8} (hdata : data.length < 2 ^ 64)
    (hoff : pkt.dataOff = 0) (h : feedPacket param data pkt = some pkt') : pkt'.window = data := by
  have hoffset : param.sockOffset = 0 := by
    rw [InputParam.sockOffset, hbare.userLayerBytes]
    rfl
  have htail : param.sockTail = 0 := by
    rw [InputParam.sockTail, hbare.tailLayerBytes]
    rfl
  rw [(feedPacket_cuts hdata hoff h).2.2, hoffset, htail, List.drop_zero]
  exact List.take_length

/-- What a replay keeps: the windows on its buffers begin at their start, and when the bytes of
each message decide what becomes of it, the messages were worked off or wait. -/
structure ReplayInv (param : InputParam) (d : PacketDriver D)
    (tr : List (InputDriver D × ReplayEvent Stamp)) (s : InputDriver D) : Prop where
  starts : ∀ pkt ∈ s.freePktQueue ++ (s.batch ++ s.pktQueue), pkt.dataOff = 0
  works : (∀ msg ∈ fed tr, Decided D msg.data ∧ msg.data.length < 2 ^ 64) →
    ∃ windows, Works (Handled param) d windows s.driver s.outputs ∧
      (fed tr).map (·.data) = windows ++ (s.batch ++ s.pktQueue).map Buffer.window

theorem fed_concat (tr : List (InputDriver D × ReplayEvent Stamp)) (s : InputDriver D)
    (e : ReplayEvent Stamp) : fed (tr ++ [(s, e)]) = fed tr ++ fed [(s, e)] :=
  List.filterMap_append

namespace ReplayInv

variable {d : PacketDriver D} {tr : List (InputDriver D × ReplayEvent Stamp)}

theorem putPacket (h : ReplayInv param d tr s) (hbare : param.Bare) {msg : RslidarPacket Stamp}
    (hroom : s.pktQueue.length + 1 < 102400)
    (hs : s.replayStep param toSec (.putPacket now msg) = some s') :
    ReplayInv param d (tr ++ [(s, .putPacket now msg)]) s' := by
  obtain ⟨pkt, hfeed, rfl⟩ := Option.map_eq_some_iff.mp hs
  have hget := packetGet_start fun pkt hpkt => h.starts pkt (List.mem_append_left _ hpkt)
  unfold InputDriver.packetPut
  rw [if_pos hroom]
  constructor
  · intro pkt' hpkt'
    dsimp only at hpkt'
    rw [← List.append_assoc s.batch, ← List.append_assoc] at hpkt'
    rcases List.mem_append.mp hpkt' with hold | hnew
    · rcases List.mem_append.mp hold with hfree | hrest
      · exact hget.2 pkt' hfree
      · exact h.starts pkt' (List.mem_append_right _ hrest)
    · unfold feedPacket at hfeed
      dsimp only at hfeed
      split at hfeed
      · cases hfeed
        rw [List.mem_singleton.mp hnew]
      · cases hfeed
  · intro hmsgs
    rw [fed_concat] at hmsgs ⊢
    obtain ⟨windows, hworks, hflow⟩ := h.works fun msg hmsg => hmsgs msg
      (List.mem_append_left _ hmsg)
    obtain ⟨-, hlength⟩ := hmsgs msg (List.mem_append_right _ List.mem_cons_self)
    have hwindow := feedPacket_window hbare hlength hget.1 hfeed
    refine ⟨windows, hworks, ?_⟩
    have hone : (fed [(s, ReplayEvent.putPacket now msg)]).map (·.data) = [pkt].map Buffer.window :=
      congrArg (· :: []) hwindow.symm
    rw [List.map_append, hflow, hone, List.append_assoc, ← List.map_append, List.append_assoc]

theorem popBatch (h : ReplayInv param d tr s)
    (hs : s.replayStep param toSec .popBatch = some s') :
    ReplayInv param d (tr ++ [(s, .popBatch)]) s' := by
  have hpop : s.step param .popBatch = some s' := hs
  obtain ⟨hbatch, rfl⟩ := popBatch_eq_some hpop
  have hqueue : s.pktQueue.take 50 ++ s.pktQueue.drop 50 = s.batch ++ s.pktQueue := by
    rw [List.take_append_drop, hbatch, List.nil_append]
  constructor
  · dsimp only
    rw [hqueue]
    exact h.starts
  · have hfed : fed (tr ++ [(s, ReplayEvent.popBatch)]) = fed tr :=
      (fed_concat _ _ _).trans (List.append_nil _)
    dsimp only
    rw [hfed, hqueue]
    exact h.works

theorem handle (h : ReplayInv param d tr s)
    (hs : s.replayStep param toSec (.handle now) = some s') :
    ReplayInv param d (tr ++ [(s, .handle now)]) s' := by
  obtain ⟨pkt, batch, r, hbatch, hr, rfl⟩ := handle_eq_some hs
  have hstarts := h.starts
  rw [hbatch] at hstarts
  have hrest : ∀ pkt' ∈ s.freePktQueue ++ (batch ++ s.pktQueue), pkt'.dataOff = 0 := by
    intro pkt' hpkt'
    rcases List.mem_append.mp hpkt' with hfree | hwaits
    · exact hstarts pkt' (List.mem_append_left _ hfree)
    · exact hstarts pkt' (List.mem_append_right _ (List.mem_cons_of_mem _ hwaits))
  constructor
  · unfold InputDriver.packetFree
    split
    · intro pkt' hpkt'
      dsimp only at hpkt'
      rw [List.append_assoc] at hpkt'
      rcases List.mem_append.mp hpkt' with hfree | hwaits
      · exact hstarts pkt' (List.mem_append_left _ hfree)
      · rcases List.mem_append.mp hwaits with hused | hwaits
        · rw [List.mem_singleton.mp hused]
          exact hstarts pkt (List.mem_append_right _ List.mem_cons_self)
        · exact hrest pkt' (List.mem_append_right _ hwaits)
    · exact hrest
  · have hfed : fed (tr ++ [(s, ReplayEvent.handle now)]) = fed tr :=
      (fed_concat _ _ _).trans (List.append_nil _)
    rw [hfed]
    intro hmsgs
    obtain ⟨windows, hworks, hflow⟩ := h.works hmsgs
    rw [hbatch, List.cons_append, List.map_cons] at hflow
    have hdecided : Decided D pkt.window := by
      have hmem : pkt.window ∈ (fed tr).map (·.data) :=
        hflow ▸ List.mem_append_right _ List.mem_cons_self
      obtain ⟨msg, hmsg, hdata⟩ := List.mem_map.mp hmem
      exact hdata ▸ (hmsgs msg hmsg).1
    refine ⟨_, Works.handle hworks hr hdecided, ?_⟩
    rw [hflow, List.append_assoc, List.singleton_append]
    unfold InputDriver.packetFree
    split <;> rfl

end ReplayInv

/-- A replay works off its messages. -/
theorem run_replayInv (hbare : param.Bare) {tr : List (InputDriver D × ReplayEvent Stamp)}
    (h : Run (InputDriver.replayStep param toSec) QueueHasRoom (.start D decoder pre mems pcapMem)
      tr s) : ReplayInv param ⟨decoder, 0, fun _ => none⟩ tr s := by
  refine h.invariant (P := fun tr s => ReplayInv param ⟨decoder, 0, fun _ => none⟩ tr s) ?_
    fun tr s e s' ih hroom hs => ?_
  · refine ⟨fun pkt hpkt => ?_, fun _ => ⟨[], .nil, rfl⟩⟩
    rcases List.mem_append.mp hpkt with hfree | hnone
    · obtain ⟨mem, -, rfl⟩ := List.mem_map.mp hfree
      rfl
    · cases hnone
  · cases e with
    | putPacket now msg => exact ih.putPacket hbare hroom hs
    | popBatch => exact ih.popBatch hs
    | handle now => exact ih.handle hs

end ReplayRuns

/-! ### A replay shows what was recorded -/

section Shows

variable {D D' : PacketDecoder} {V Stamp : Type} {view : D.Call → Option V}
  {view' : D'.Call → Option V} {R : D.State → D'.State → Prop} {param param' : InputParam}

/-- What is recorded decides what a replay makes of it. -/
theorem tape_decided (h : Redecodes D D' view view' R) (hputs : param.putsPackets = true)
    {d d' : PacketDriver D} {windows : List (List UInt8)} {out : List (Output D)}
    (hlive : Works (Handled param) d windows d' out) :
    ∀ bytes ∈ out.filterMap Output.tape, Decided D' bytes ∧ bytes.length < 2 ^ 64 := by
  induction hlive with
  | nil => exact fun _ hnone => absurd hnone List.not_mem_nil
  | @concat _ d₁ d₂ _ out window _ hhandled ih =>
    intro bytes hbytes
    rw [List.filterMap_append] at hbytes
    rcases List.mem_append.mp hbytes with hbefore | hlast
    · exact ih bytes hbefore
    obtain ⟨now, -, -, htape⟩ := hhandled.decodeWindow view
    obtain ⟨hdecided, -, pkt, -, hwindow, -⟩ := hhandled
    have hlength : window.length < 2 ^ 64 := by
      rw [← hwindow, window_length]
      exact pkt.dataSize.toNat_lt
    have hsame : Decided D' window ∧ window.length < 2 ^ 64 := by
      refine ⟨⟨hdecided.kind, fun hunchecked hkind => ?_⟩, hlength⟩
      rw [h.checksDifopLen] at hunchecked
      rw [h.difopId]
      exact hdecided.difopId hunchecked hkind
    rw [htape hputs h.keeps, Option.mem_toList] at hlast
    unfold PacketDecoder.decodeWindow at hlast
    match hk : pktKind (memOf window) with
    | some .msop =>
      rw [hk] at hlast
      dsimp only at hlast
      split at hlast
      · rename_i hchecks
        obtain rfl := Option.some.inj hlast
        obtain ⟨hwritten, hheader, -⟩ := h.keeps now hchecks
        refine ⟨⟨kindDecided_header hwritten hheader hdecided.kind, fun _ hdifop => ?_⟩,
          hwritten ▸ hlength⟩
        rw [pktKind_header hheader, hk] at hdifop
        cases hdifop
      · obtain rfl := Option.some.inj hlast
        exact hsame
    | some .difop =>
      rw [hk] at hlast
      dsimp only at hlast
      split at hlast <;>
      · obtain rfl := Option.some.inj hlast
        exact hsame
    | some .imu =>
      rw [hk] at hlast
      dsimp only at hlast
      split at hlast <;> cases hlast
    | none =>
      rw [hk] at hlast
      cases hlast

/-- **A replay shows what was recorded**, as far as it has got: a driver without layers that is
fed the messages of another one, and does not lose any. -/
theorem replay_shows (h : Redecodes D D' view view' R) (hputs : param.putsPackets = true)
    (hbare : param'.Bare) {decoder : D.State} {decoder' : D'.State} (hR : R decoder decoder')
    {pre : D.PreState} {pre' : D'.PreState} {mems mems' : List Mem} {pcapMem pcapMem' : Mem}
    {fromSec : Option D.Time → Stamp} {toSec : Stamp → D'.Time} {frameId : List Char}
    {tr : List (InputDriver D × InputEvent)} {s : InputDriver D}
    {tr' : List (InputDriver D' × ReplayEvent Stamp)} {s' : InputDriver D'}
    (hlive : Run (InputDriver.step param) (fun _ e => Fits D param e)
      (.start D decoder pre mems pcapMem) tr s)
    (hreplay : Run (InputDriver.replayStep param' toSec) QueueHasRoom
      (.start D' decoder' pre' mems' pcapMem') tr' s')
    (hfed : fed tr' <+: s.packets.map (Packet.toRosMsg fromSec frameId)) :
    s'.shown view' <+: s.shown view ∧
      ((fed tr').length = s.packets.length → s'.batch = [] → s'.pktQueue = [] →
        s'.shown view' = s.shown view) := by
  obtain ⟨windows, hworks⟩ := run_works hlive
  have htape : s.outputs.filterMap Output.tape =
      (s.packets.map (Packet.toRosMsg fromSec frameId)).map (·.data) := by
    rw [InputDriver.packets, List.map_map, List.map_filterMap]
    rfl
  have hdata : (fed tr').map (·.data) <+: s.outputs.filterMap Output.tape :=
    htape ▸ hfed.map _
  obtain ⟨windows', hworks', hflow⟩ := (run_replayInv hbare hreplay).works fun msg hmsg =>
    tape_decided h hputs hworks msg.data (hdata.subset (List.mem_map_of_mem hmsg))
  have hprefix : windows' <+: s.outputs.filterMap Output.tape :=
    (hflow ▸ List.prefix_append _ _ : windows' <+: (fed tr').map (·.data)).trans hdata
  obtain ⟨hshown, hall⟩ := (h.replays hputs).works hR hworks hworks' hprefix
  refine ⟨hshown, fun hcount hbatch hqueue => (hall ?_).2⟩
  rw [hbatch, hqueue, List.append_nil, List.map_nil, List.append_nil] at hflow
  rw [← hflow]
  refine hdata.eq_of_length ?_
  rw [htape, List.length_map, List.length_map, List.length_map]
  exact hcount

end Shows

/-! ### Clouds without some of their points' data -/

section Map

variable {P V : Type} (f : P → V)

def RSChannel.map (channel : RSChannel P) : RSChannel V := ⟨channel.measured.map f, f channel.blank⟩

def CloudMsg.map (msg : CloudMsg P) : CloudMsg V where
  points := msg.points.map f
  height := msg.height
  width := msg.width
  isDense := msg.isDense
  seq := msg.seq

def CloudCall.map : CloudCall P → CloudCall V
  | .point p => .point (f p)
  | .splitFrame height => .splitFrame height

def DriverCloud.map (d : DriverCloud P) : DriverCloud V where
  pointCloud := d.pointCloud.map f
  pointCloudSeq := d.pointCloudSeq
  putClouds := d.putClouds.map (CloudMsg.map f)

def SeqMsopPkt.map (pkt : SeqMsopPkt P) : SeqMsopPkt V where
  toSeqPkt := pkt.toSeqPkt
  channel inner blk chan i := (pkt.channel inner blk chan i).map f

variable {f} {param : RSDecoderParam}

theorem splitFrame_map (height : ℕ) (d : DriverCloud P) :
    (d.splitFrame param height).map f = (d.map f).splitFrame param height := by
  unfold DriverCloud.splitFrame
  have hlength : (d.map f).pointCloud.length = d.pointCloud.length := List.length_map f
  rw [hlength]
  split
  · simp only [DriverCloud.map, List.map_nil, List.map_append, List.map_singleton, CloudMsg.map,
      DecoderMech.setPointCloudHeader, List.length_map]
    split <;> rfl
  · rfl

theorem calls_map (cs : List (CloudCall P)) (d : DriverCloud P) :
    (d.calls param cs).map f = (d.map f).calls param (cs.map (CloudCall.map f)) := by
  induction cs generalizing d with
  | nil => rfl
  | cons c cs ih =>
    change ((d.call param c).calls param cs).map f =
      ((d.map f).call param (c.map f)).calls param (cs.map (CloudCall.map f))
    rw [ih]
    congr 1
    cases c with
    | point p => simp [DriverCloud.call, CloudCall.map, DriverCloud.map]
    | splitFrame height => exact splitFrame_map height d

theorem channelPoint_map (channel : RSChannel P) :
    (DecoderMech.channelPoint param channel).map f =
      DecoderMech.channelPoint param (channel.map f) := by
  unfold DecoderMech.channelPoint RSChannel.map
  cases channel.measured with
  | some p => rfl
  | none =>
    dsimp only [Option.map_none]
    split <;> rfl

theorem points_map (c : RSDecoderConstParam) (returns : ℕ) (pkt : SeqMsopPkt P) (inner : ℕ) :
    (pkt.points c param returns inner).map f = (pkt.map f).points c param returns inner := by
  simp only [SeqMsopPkt.points, List.map_flatMap, channelPoint_map]
  rfl

theorem splitCalls_map (height : ℕ) (points : List P) (seq : UInt16) (s : SeqDecoder) :
    (s.splitCalls height points seq).map (CloudCall.map f) =
      s.splitCalls height (points.map f) seq := by
  simp only [SeqDecoder.splitCalls, List.map_append, List.map_map]
  congr 1
  split <;> rfl

/-- The points of a packet go through the calls for it. -/
theorem msopCalls_map (t : SeqType) (ht : t ≠ .rsm1Jumbo) (pkt : SeqMsopPkt P) (s : SeqDecoder) :
    (t.msopCalls param pkt s).map (CloudCall.map f) = t.msopCalls param (pkt.map f) s := by
  unfold SeqType.msopCalls
  cases t with
  | rsm1 =>
    simp only [SeqDecoder.rsm1Calls, List.map_append, splitCalls_map, points_map,
      apply_ite (List.map (CloudCall.map f))]
    rfl
  | rsemx =>
    simp only [SeqDecoder.rsemxCalls, splitCalls_map, points_map,
      apply_ite (List.map (CloudCall.map f))]
    rfl
  | rsm1Jumbo => exact absurd rfl ht
  | _ =>
    dsimp only
    rw [splitCalls_map, points_map]
    rfl

/-- Of the header only the number, the mode and the surface are looked at. -/
structure SameHeader (data data' : Mem) : Prop where
  seq : u16At data 4 = u16At data' 4
  mode : data 8 = data' 8
  surface : data 27 = data' 27

variable {t : SeqType} {pkt pkt' : SeqMsopPkt P}

theorem decodeMsopPkt_header (ht : t ≠ .rsm1Jumbo) (h : SameHeader pkt.data pkt'.data)
    (s : SeqDecoder) : t.decodeMsopPkt pkt.toSeqPkt s = t.decodeMsopPkt pkt'.toSeqPkt s := by
  unfold SeqType.decodeMsopPkt
  cases t with
  | rsm1 => simp only [SeqDecoder.decodeRsm1, h.seq]
  | rsemx => simp only [SeqDecoder.decodeRsemx, h.seq, h.surface]
  | rsm1Jumbo => exact absurd rfl ht
  | _ => simp only [h.seq]

theorem msopCalls_header (ht : t ≠ .rsm1Jumbo) (h : SameHeader pkt.data pkt'.data)
    (hchannel : pkt.channel = pkt'.channel) (s : SeqDecoder) :
    t.msopCalls param pkt s = t.msopCalls param pkt' s := by
  have hreturns : t.returns pkt.toSeqPkt = t.returns pkt'.toSeqPkt := by
    unfold SeqType.returns
    cases t with
    | rsmx => dsimp only; rw [h.mode]
    | _ => rfl
  have hpoints : pkt.points t.constParam param (t.returns pkt.toSeqPkt) =
      pkt'.points t.constParam param (t.returns pkt'.toSeqPkt) := by
    funext inner
    rw [hreturns]
    unfold SeqMsopPkt.points
    rw [hchannel]
  unfold SeqType.msopCalls
  dsimp only
  rw [hpoints]
  cases t with
  | rsm1 => simp only [SeqDecoder.rsm1Calls, h.seq]
  | rsemx => simp only [SeqDecoder.rsemxCalls, h.seq, h.surface]
  | rsm1Jumbo => exact absurd rfl ht
  | _ => simp only [h.seq]

end Map

/-! ### The numbered lidars and their clocks -/

/-- What a packet says: the seconds of a timestamp, rolled back for a host's one, and of the
bytes around the timestamp, with the angles of the last DIFOP packet, the channels and the times
of their points. -/
structure PointReading (Q Time : Type) where
  seconds : UInt64 → Time
  rollBack : Time → Time
  channel : List ℤ → List UInt8 → ℕ → ℕ → ℕ → ℕ → RSChannel Q
  pointTime : Time → List UInt8 → ℕ → ℕ → ℕ → ℕ → Time

/-- `use_lidar_clock`, `write_pkt_ts_`, and `getTimeHost`, which is called twice. -/
structure PacketClock where
  useLidarClock : Bool
  writePktTs : Bool
  getTimeHost : ℕ → UInt64 × UInt64

/-- A numbered decoder whose points have times, and `prev_pkt_ts_`. -/
structure ClockState (Q Time : Type) extends SeqState (Q × Time) where
  prevPktTs : Time

/-- The bytes around the timestamp of a numbered packet. -/
def aroundTime (bytes : List UInt8) : List UInt8 := bytes.take 10 ++ bytes.drop 20

/-- RSEMX has DIFOP packets of several lengths. -/
def SeqType.checksDifopLen : SeqType → Bool
  | .rsemx => false
  | _ => true

section Clocks

variable {Q Time : Type}

/-- A packet with its time, which may have been written into it. -/
def SeqType.clockPkt (t : SeqType) (clock : PacketClock) (reading : PointReading Q Time)
    (pitchAngle : List ℤ) (now : ℕ) (bytes : List UInt8) : SeqMsopPkt (Q × Time) × Time :=
  let ts := t.pktTs reading.seconds reading.rollBack clock.useLidarClock clock.writePktTs
    (clock.getTimeHost now).1 (clock.getTimeHost now).2 (memOf bytes)
  let around := aroundTime bytes
  (⟨⟨ts.2, bytes.length⟩, fun inner blk chan i =>
    (reading.channel pitchAngle around inner blk chan i).map
      fun q => (q, reading.pointTime ts.1 around inner blk chan i)⟩, ts.1)

theorem SeqType.msopId_length_le (t : SeqType) : t.constParam.msopId.length ≤ 10 := by
  cases t <;> decide

theorem SeqType.msopId_le (t : SeqType) :
    t.constParam.msopId.length ≤ t.constParam.msopLen := by
  cases t <;> decide

theorem SeqType.difopId_le (t : SeqType) :
    t.checksDifopLen = true → t.difopId.length ≤ t.difopLen := by
  cases t <;> decide

theorem SeqType.imuId_le : ([] : List UInt8).length ≤ 0 := Nat.le_refl 0

/-- The decoder of a numbered lidar, but for the one whose packets are several. -/
def SeqType.clockDecoder (t : SeqType) (_ : t ≠ .rsm1Jumbo) (param : RSDecoderParam)
    (clock : PacketClock) (reading : PointReading Q Time) : PacketDecoder where
  State := ClockState Q Time
  PreState := SeqDecoder
  Call := CloudMsg (Q × Time)
  Time := Time
  msopLen := t.constParam.msopLen
  difopLen := t.difopLen
  imuLen := 0
  msopId := t.constParam.msopId
  difopId := t.difopId
  imuId := []
  checksDifopLen := t.checksDifopLen
  msopId_le := t.msopId_le
  difopId_le := t.difopId_le
  imuId_le := SeqType.imuId_le
  overflows s := decide (5000000 < s.cloud.pointCloud.length)
  clearCloud s := { s with cloud := { s.cloud with pointCloud := [] } }
  ready s := !(param.waitForDifop && !s.anglesReady)
  decodeMsopPkt now bytes s :=
    let p := t.clockPkt clock reading s.pitchAngle now bytes
    let r := t.decodeMsopPkt p.1.toSeqPkt s.seq
    let cloud := s.cloud.calls param (t.msopCalls param p.1 s.seq)
    (({ s with seq := r.1, cloud := cloud, prevPktTs := p.2 }, Mem.bytes p.1.data 0 bytes.length),
      cloud.putClouds.drop s.cloud.putClouds.length, r.2)
  decodeDifopPkt _ bytes s := ({ s with toSeqState := t.decodeDifopPkt bytes s.toSeqState }, [])
  decodeImuPkt _ _ s := (s, [])
  prevPktTs s := s.prevPktTs
  isNewFrame data pre := pre.isNewFrameCommon data

/-- A point, with its time or without. -/
def showPoint (timed : Bool) (p : Q × Time) : Q × Option Time :=
  (p.1, if timed then some p.2 else none)

/-- The clouds, with the times of their points or without. -/
def showCloud (timed : Bool) (msg : CloudMsg (Q × Time)) : Option (CloudMsg (Q × Option Time)) :=
  some (msg.map (showPoint timed))

/-- Two decoders that are where the other is, but perhaps for times. -/
structure SameFrames (timed : Bool) (s s' : ClockState Q Time) : Prop where
  seq : s.seq = s'.seq
  anglesReady : s.anglesReady = s'.anglesReady
  pitchAngle : s.pitchAngle = s'.pitchAngle
  cloud : s.cloud.map (showPoint timed) = s'.cloud.map (showPoint timed)

variable {t : SeqType} {clock clock' : PacketClock} {reading : PointReading Q Time} {now now' : ℕ}
  {bytes : List UInt8} {pitchAngle : List ℤ}

theorem clockPkt_outside {i : ℕ} (hi : i < 10 ∨ 20 ≤ i) :
    (t.clockPkt clock reading pitchAngle now bytes).1.data i = memOf bytes i := by
  simp only [SeqType.clockPkt, SeqType.pktTs, pktTsAt]
  split
  · rfl
  · split
    · apply Mem.set_apply_of_disjoint
      rw [RSTimestampUTC.bytes_length]
      omega
    · rfl

/-- The bytes of a packet with its time; they are the same for all angles. -/
def SeqType.written (t : SeqType) (clock : PacketClock) (reading : PointReading Q Time) (now : ℕ)
    (bytes : List UInt8) : List UInt8 :=
  Mem.bytes (t.clockPkt clock reading [] now bytes).1.data 0 bytes.length

theorem written_length : (t.written clock reading now bytes).length = bytes.length :=
  Mem.bytes_length _ _ _

theorem written_outside {i : ℕ} (hi : i < 10 ∨ 20 ≤ i) :
    (t.written clock reading now bytes)[i]? = bytes[i]? := by
  by_cases hlt : i < bytes.length
  · have hbyte : (t.clockPkt clock reading [] now bytes).1.data i = memOf bytes i :=
      clockPkt_outside hi
    simp [SeqType.written, Mem.bytes, hlt, hbyte, memOf]
  · have hlength : (t.written clock reading now bytes).length = bytes.length := written_length
    rw [List.getElem?_eq_none (by omega), List.getElem?_eq_none (by omega)]

theorem written_take {n : ℕ} (hn : n ≤ 10) :
    (t.written clock reading now bytes).take n = bytes.take n := by
  apply List.ext_getElem?
  intro i
  rw [List.getElem?_take, List.getElem?_take]
  split
  · exact written_outside (.inl (by omega))
  · rfl

theorem aroundTime_written : aroundTime (t.written clock reading now bytes) = aroundTime bytes := by
  have hdrop : (t.written clock reading now bytes).drop 20 = bytes.drop 20 := by
    apply List.ext_getElem?
    intro i
    rw [List.getElem?_drop, List.getElem?_drop]
    exact written_outside (.inr (by omega))
  unfold aroundTime
  rw [written_take (Nat.le_refl 10), hdrop]

theorem memOf_written {i : ℕ} (hi : i < 10 ∨ 20 ≤ i) :
    memOf (t.written clock reading now bytes) i = memOf bytes i := by
  unfold memOf
  rw [List.getD_eq_getElem?_getD, List.getD_eq_getElem?_getD, written_outside hi]

/-- By the clock of the lidar nothing is written. -/
theorem written_lidarClock (h : clock.useLidarClock = true) :
    t.written clock reading now bytes = bytes := by
  simp only [SeqType.written, SeqType.clockPkt, SeqType.pktTs, pktTsAt, h, if_true]
  exact (Mem.bytes_memOf bytes (Nat.le_refl _)).trans List.take_length

theorem replayed_header :
    SameHeader (t.clockPkt clock reading pitchAngle now bytes).1.data
      (t.clockPkt clock' reading pitchAngle now' (t.written clock reading now bytes)).1.data := by
  -- none of them is a byte of the timestamp
  have hbyte : ∀ i, i < 10 ∨ 20 ≤ i → (t.clockPkt clock reading pitchAngle now bytes).1.data i =
      (t.clockPkt clock' reading pitchAngle now' (t.written clock reading now bytes)).1.data i := by
    intro i hi
    rw [clockPkt_outside hi, clockPkt_outside hi, memOf_written hi]
  refine ⟨?_, hbyte 8 (by omega), hbyte 27 (by omega)⟩
  unfold u16At
  rw [hbyte 4 (by omega), hbyte 5 (by omega)]

/-- The channels of a packet that is replayed, with the times of their points when both go by the
clock of the lidar. -/
theorem replayed_channel (timed : Bool)
    (htimed : timed = true → clock.useLidarClock = true ∧ clock'.useLidarClock = true) :
    ((t.clockPkt clock reading pitchAngle now bytes).1.map (showPoint timed)).channel =
      ((t.clockPkt clock' reading pitchAngle now' (t.written clock reading now bytes)).1.map
        (showPoint timed)).channel := by
  funext inner blk chan i
  simp only [SeqMsopPkt.map, SeqType.clockPkt, aroundTime_written]
  cases timed with
  | false => simp [RSChannel.map, showPoint, Function.comp_def]
  | true =>
    obtain ⟨hlidar, hlidar'⟩ := htimed rfl
    rw [written_lidarClock hlidar]
    simp only [SeqType.pktTs, pktTsAt, hlidar, hlidar', if_true]

/-- The check of the cloud keeps the decoders together. -/
theorem SameFrames.afterCheck {timed : Bool} {s s' : ClockState Q Time} (h : SameFrames timed s s') :
    SameFrames timed
      (if decide (5000000 < s.cloud.pointCloud.length) = true then
        { s with cloud := { s.cloud with pointCloud := [] } } else s)
      (if decide (5000000 < s'.cloud.pointCloud.length) = true then
        { s' with cloud := { s'.cloud with pointCloud := [] } } else s') := by
  have hlength : s.cloud.pointCloud.length = s'.cloud.pointCloud.length := by
    have hsame := congrArg (fun d => d.pointCloud.length) h.cloud
    simpa [DriverCloud.map] using hsame
  rw [hlength]
  split
  · have hseq := congrArg DriverCloud.pointCloudSeq h.cloud
    have hputs := congrArg DriverCloud.putClouds h.cloud
    refine ⟨h.seq, h.anglesReady, h.pitchAngle, ?_⟩
    change (⟨[], s.cloud.pointCloudSeq, s.cloud.putClouds.map _⟩ : DriverCloud _) =
      ⟨[], s'.cloud.pointCloudSeq, s'.cloud.putClouds.map _⟩
    rw [DriverCloud.mk.injEq]
    exact ⟨rfl, hseq, hputs⟩
  · exact h

/-- The clouds that two decoders put, when they were together before. -/
theorem putClouds_shown {timed : Bool} {before before' after after' : DriverCloud (Q × Time)}
    (hbefore : before.map (showPoint timed) = before'.map (showPoint timed))
    (hafter : after.map (showPoint timed) = after'.map (showPoint timed)) :
    (after'.putClouds.drop before'.putClouds.length).filterMap (showCloud timed) =
      (after.putClouds.drop before.putClouds.length).filterMap (showCloud timed) := by
  have hclouds : after.putClouds.map (CloudMsg.map (showPoint timed)) =
      after'.putClouds.map (CloudMsg.map (showPoint timed)) := congrArg DriverCloud.putClouds hafter
  have hlength : before.putClouds.length = before'.putClouds.length := by
    have hsame := congrArg (fun d => d.putClouds.length) hbefore
    simpa [DriverCloud.map] using hsame
  have hshow : ∀ clouds : List (CloudMsg (Q × Time)), clouds.filterMap (showCloud timed) =
      clouds.map (CloudMsg.map (showPoint timed)) := fun clouds =>
    congrFun List.filterMap_eq_map clouds
  rw [hshow, hshow, List.map_drop, List.map_drop, hclouds, hlength]

/-- **What a numbered decoder left of its packets, another one decodes to the same.** -/
theorem clockDecoder_redecodes (ht : t ≠ .rsm1Jumbo) (param : RSDecoderParam) (timed : Bool)
    (htimed : timed = true → clock.useLidarClock = true ∧ clock'.useLidarClock = true) :
    Redecodes (t.clockDecoder ht param clock reading) (t.clockDecoder ht param clock' reading)
      (showCloud timed) (showCloud timed) (SameFrames timed) where
  msopLen := rfl
  msopId := rfl
  difopLen := rfl
  difopId := rfl
  checksDifopLen := rfl
  keeps := by
    intro s window now hchecks
    exact ⟨written_length, written_take (by omega), written_take t.msopId_length_le⟩
  settled := SameFrames.afterCheck
  ready := by
    intro s s' h
    change (!(param.waitForDifop && !s'.anglesReady)) = !(param.waitForDifop && !s.anglesReady)
    rw [h.anglesReady]
  msop := by
    intro s s' window now now' h _ r r'
    obtain ⟨pitchAngle, hpitch⟩ : ∃ pitchAngle, s.pitchAngle = pitchAngle := ⟨_, rfl⟩
    have hpitch' : s'.pitchAngle = pitchAngle := h.pitchAngle.symm.trans hpitch
    let pkt := (t.clockPkt clock reading pitchAngle now window).1
    let pkt' := (t.clockPkt clock' reading pitchAngle now' (t.written clock reading now window)).1
    have hheader : SameHeader pkt.data pkt'.data := replayed_header
    have hchannel : (pkt.map (showPoint timed)).channel = (pkt'.map (showPoint timed)).channel :=
      replayed_channel timed htimed
    have hcalls : (t.msopCalls param pkt s.seq).map (CloudCall.map (showPoint timed)) =
        (t.msopCalls param pkt' s'.seq).map (CloudCall.map (showPoint timed)) := by
      rw [msopCalls_map t ht, msopCalls_map t ht, h.seq]
      have hmapped : SameHeader (pkt.map (showPoint timed)).data (pkt'.map (showPoint timed)).data :=
        hheader
      exact msopCalls_header ht hmapped hchannel _
    have hcloud : r.1.1.cloud.map (showPoint timed) = r'.1.1.cloud.map (showPoint timed) := by
      subst hpitch
      simp only [r, r', SeqType.clockDecoder, hpitch']
      change (s.cloud.calls param (t.msopCalls param pkt s.seq)).map _ =
        (s'.cloud.calls param (t.msopCalls param pkt' s'.seq)).map _
      rw [calls_map, calls_map, h.cloud, hcalls]
    have hseq : r.1.1.seq = r'.1.1.seq := by
      subst hpitch
      simp only [r, r', SeqType.clockDecoder, hpitch']
      change (t.decodeMsopPkt pkt.toSeqPkt s.seq).1 = (t.decodeMsopPkt pkt'.toSeqPkt s'.seq).1
      rw [h.seq, decodeMsopPkt_header ht hheader]
    exact ⟨⟨hseq, h.anglesReady, h.pitchAngle, hcloud⟩, putClouds_shown h.cloud hcloud⟩
  difop := by
    intro s s' now now' window h r r'
    refine ⟨?_, rfl⟩
    simp only [r, r', SeqType.clockDecoder, SeqType.decodeDifopPkt]
    split
    · exact ⟨h.seq, rfl, rfl, h.cloud⟩
    · exact h
  imu := fun _ _ h => ⟨h, rfl⟩

end Clocks

/-- **A recording is replayed to the same clouds**, by a driver for the same lidar, without
layers, that starts as the first one did, is fed the messages in their order and does not lose
any: to a prefix of the clouds on the way, and to all of them in the end. What the first one was
given fits its buffers, and tells its kind. The points have the same times when both drivers go
by the clock of the lidar. -/
theorem recording_replayed {Q Time Stamp : Type} {t : SeqType} (ht : t ≠ .rsm1Jumbo)
    {dparam : RSDecoderParam} {clock clock' : PacketClock} {reading : PointReading Q Time}
    {timed : Bool}
    (htimed : timed = true → clock.useLidarClock = true ∧ clock'.useLidarClock = true)
    {param param' : InputParam} (hputs : param.putsPackets = true) (hbare : param'.Bare)
    {init : ClockState Q Time} {pre pre' : SeqDecoder} {mems mems' : List Mem}
    {pcapMem pcapMem' : Mem} {fromSec : Option Time → Stamp} {toSec : Stamp → Time}
    {frameId : List Char}
    {tr : List (InputDriver (t.clockDecoder ht dparam clock reading) × InputEvent)}
    {s : InputDriver (t.clockDecoder ht dparam clock reading)}
    {tr' : List (InputDriver (t.clockDecoder ht dparam clock' reading) × ReplayEvent Stamp)}
    {s' : InputDriver (t.clockDecoder ht dparam clock' reading)}
    (hlive : Run (InputDriver.step param)
      (fun _ e => Fits (t.clockDecoder ht dparam clock reading) param e)
      (.start (t.clockDecoder ht dparam clock reading) init pre mems pcapMem) tr s)
    (hreplay : Run (InputDriver.replayStep param' toSec) QueueHasRoom
      (.start (t.clockDecoder ht dparam clock' reading) init pre' mems' pcapMem') tr' s')
    (hfed : fed tr' <+: s.packets.map (Packet.toRosMsg fromSec frameId)) :
    s'.shown (showCloud timed) <+: s.shown (showCloud timed) ∧
      ((fed tr').length = s.packets.length → s'.batch = [] → s'.pktQueue = [] →
        s'.shown (showCloud timed) = s.shown (showCloud timed)) :=
  replay_shows (clockDecoder_redecodes ht dparam timed htimed) hputs hbare
    (⟨rfl, rfl, rfl, rfl⟩ : SameFrames timed init init) hlive hreplay hfed

/-- The points of an RSM1 are their blocks, at the time of the packet. -/
def blockReading : PointReading ℕ UInt64 where
  seconds us := us
  rollBack ts := ts - 1
  channel _ _ _ blk _ _ := ⟨some blk, 0⟩
  pointTime ts _ _ _ _ _ := ts

/-- The host's clock, which is written into the packets. -/
def hostClock : PacketClock := ⟨false, true, fun now => (.ofNat now, .ofNat now)⟩

/-- The clock of the lidar. -/
def lidarClock : PacketClock := ⟨true, false, fun _ => (0, 0)⟩

/-- A numbered packet of RSM1. -/
def rsm1Packet (seq : UInt8) : List UInt8 := rsm1.msopId ++ [0, seq] ++ List.replicate 1204 0

/-- Two packets are received and handled; with the second one a new frame begins. -/
def twoPackets : List InputEvent :=
  [.epoll 100 (rsm1Packet 100), .epoll 100 (rsm1Packet 1), .popBatch, .handle 100, .handle 101]

def rsm1Clock (clock : PacketClock) : PacketDecoder :=
  SeqType.rsm1.clockDecoder (by simp) fiveBlksParam clock blockReading

def rsm1ClockStart (clock : PacketClock) : InputDriver (rsm1Clock clock) :=
  .start (rsm1Clock clock) (⟨⟨.init, true, [], .init⟩, 0⟩ : ClockState ℕ UInt64) SeqDecoder.init []
    fun _ => 0

/-- The messages come, and are handled. -/
def replayAll {D : PacketDecoder} (pkts : List (Packet D.Time)) : List (ReplayEvent Unit) :=
  (pkts.map (Packet.toRosMsg (fun _ => ()) [])).map (.putPacket 7) ++
    .popBatch :: pkts.map fun _ => .handle 8

theorem replayAll_msgs {D : PacketDecoder} (pkts : List (Packet D.Time)) :
    (replayAll pkts).filterMap ReplayEvent.msg? = pkts.map (Packet.toRosMsg (fun _ => ()) []) := by
  have hmsg : ReplayEvent.msg? ∘ (ReplayEvent.putPacket 7 : RslidarPacket Unit → _) = some := rfl
  simp only [replayAll, List.filterMap_append, List.filterMap_map, hmsg]
  simp [ReplayEvent.msg?, List.filterMap_cons]

/-- A recording by the host's clock, replayed by the clock of the lidar. -/
theorem recording_replayed_rsm1 :
    ∃ (s : InputDriver (rsm1Clock hostClock)) (s' : InputDriver (rsm1Clock lidarClock)),
      exec (InputDriver.step epollParam) (rsm1ClockStart hostClock) twoPackets = some s ∧
      s.packets.length = 2 ∧ (s.shown (showCloud false)).length = 1 ∧
      s'.shown (showCloud false) = s.shown (showCloud false) := by
  let toSec : Unit → (rsm1Clock lidarClock).Time := fun _ => (0 : UInt64)
  let step := InputDriver.replayStep { epollParam with putsPackets := false } toSec
  let room : InputDriver (rsm1Clock lidarClock) → ReplayEvent Unit → Bool := fun s e =>
    match e with
    | .putPacket _ _ => decide (s.pktQueue.length + 1 < 102400)
    | _ => true
  have hboth : ((exec (InputDriver.step epollParam) (rsm1ClockStart hostClock) twoPackets).any
      fun s => s.packets.length == 2 && (s.shown (showCloud false)).length == 1 &&
        (exec (fun s e => if room s e then step s e else none) (rsm1ClockStart lidarClock)
          (replayAll s.packets)).any fun s' => s'.batch.isEmpty && s'.pktQueue.isEmpty) = true := by
    decide +kernel
  obtain ⟨s, hs, htest⟩ := (Option.any_eq_true _ _).mp hboth
  simp only [Bool.and_eq_true, beq_iff_eq] at htest
  obtain ⟨⟨hcount, hcloud⟩, hreplayed⟩ := htest
  obtain ⟨s', hs', hdone⟩ := (Option.any_eq_true _ _).mp hreplayed
  simp only [Bool.and_eq_true, List.isEmpty_iff] at hdone
  have hfits : ∀ e ∈ twoPackets, Fits (rsm1Clock hostClock) epollParam e := by
    intro e he
    have hpacket : ∀ seq, Decided (rsm1Clock hostClock) (epollParam.payload (rsm1Packet seq)) := by
      intro seq
      have hlength : (rsm1Packet seq).length = 1210 := by
        simp only [rsm1Packet, List.length_append, List.length_replicate]
        rfl
      have hpayload : epollParam.payload (rsm1Packet seq) = rsm1Packet seq := by
        change (((rsm1Packet seq).take 1546).drop 0).take (min _ 1546 - 0 - 0) = _
        rw [List.drop_zero, List.take_take, hlength]
        exact List.take_of_length_le (Nat.le_of_eq hlength)
      rw [hpayload]
      have hlite : (rsm1Packet seq).take 2 ≠ [0x5A, 0xFF] := by
        change [(0x55 : UInt8), 0xAA] ≠ _
        decide
      have hkind : KindDecided (rsm1Packet seq) :=
        ⟨0x55, rfl, .inr ⟨by omega, fun h => absurd h hlite⟩⟩
      exact ⟨hkind, fun hunchecked => absurd hunchecked (by decide)⟩
    simp only [twoPackets, List.mem_cons, List.not_mem_nil, or_false] at he
    rcases he with rfl | rfl | rfl | rfl | rfl
    · exact fun _ => ⟨Nat.zero_le _, hpacket 100⟩
    · exact fun _ => ⟨Nat.zero_le _, hpacket 1⟩
    · trivial
    · trivial
    · trivial
  have hroom : ∀ s e, room s e = true → QueueHasRoom s e := by
    intro s e hok
    cases e with
    | putPacket now msg =>
      have hlt : s.pktQueue.length + 1 < 102400 := of_decide_eq_true hok
      exact hlt
    | popBatch => trivial
    | handle now => trivial
  obtain ⟨tr, htr, hlive⟩ := Run.of_exec hs
  have hlive : Run (InputDriver.step epollParam)
      (fun _ e => Fits (rsm1Clock hostClock) epollParam e) (rsm1ClockStart hostClock) tr s :=
    hlive.of_forall fun x hx => hfits x.2 (htr ▸ List.mem_map_of_mem hx)
  obtain ⟨tr', htr', hreplay⟩ := Run.of_exec_test hroom hs'
  have hfed : fed tr' = s.packets.map (Packet.toRosMsg (fun _ => ()) []) := by
    rw [← replayAll_msgs, ← htr', List.filterMap_map]
    rfl
  have hlength : (fed tr').length = s.packets.length := by rw [hfed, List.length_map]
  have hprefix : fed tr' <+: s.packets.map (Packet.toRosMsg (fun _ => ()) []) :=
    ⟨[], by rw [hfed, List.append_nil]⟩
  have hclocks : false = true → hostClock.useLidarClock = true ∧ lidarClock.useLidarClock = true :=
    fun hfalse => by cases hfalse
  have hall := (recording_replayed _ hclocks rfl ⟨rfl, rfl⟩ hlive hreplay hprefix).2 hlength
    hdone.1 hdone.2
  exact ⟨s, s', hs, hcount, hcloud, hall⟩

end Rs
end SensorSupport
