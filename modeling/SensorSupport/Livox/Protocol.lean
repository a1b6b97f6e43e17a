/-
# The command frame (`sdk_core/comm/sdk_protocol.cpp`, `comm_port.cpp`)

A frame is a header of 24 bytes (start byte, version, frame length, sequence
number, command, CRC-16 of the first 18 bytes, CRC-32 of the data) with the
data behind it. The parser takes the length from the header and compares it
with the size of the buffer nowhere, so a header that lies about it makes the
parser leave the buffer (`parseBounds_iff`). `Pack` and the parser agree on
frames whose length fits the field (`pack_parse`).

Key definitions: `CommPacket`, `SdkProtocol.pack`, `SdkProtocol.checkPreamble`,
`SdkProtocol.parsePacket`, `CommPort.parseCommStream`.
Key theorems: `CommPort.parseBounds_iff`, `CommPort.pack_parse`.
-/
import SensorSupport.Lib.Memory
import SensorSupport.Livox.FastCRC

namespace SensorSupport
namespace Livox

/-- `kSdkProtocolSof`. -/
def kSdkProtocolSof : UInt8 := 0xAA

/-- `kSdkVer`. -/
def kSdkVer : UInt8 := 0

/-- `kLidarSdk` of `ProtocolType`. -/
def kLidarSdk : UInt8 := 0

/-- `CommPacket`. A null `data` is `none`. -/
structure CommPacket where
  protocol : UInt8
  version : UInt8
  seqNum : UInt32
  cmdId : UInt16
  cmdType : UInt8
  senderType : UInt8
  data : Option Ptr
  dataLen : UInt16

/-- The data of a packet. -/
def CommPacket.payload (p : CommPacket) : List UInt8 :=
  match p.data with
  | none => []
  | some data => data.bytes p.dataLen.toNat

namespace SdkProtocol

/-- `GetPreambleLen`: `sizeof(SdkPreamble)`. -/
def getPreambleLen : UInt32 := 24

/-- `GetPacketWrapperLen`: `sizeof(SdkPacket) - 1`. -/
def getPacketWrapperLen : UInt32 := 24

/-- `Pack`, writing to `o_buf`: the buffer, and `*o_len` unless the result is
-1. The fields of `SdkPacket` lie at 0, 1, 2, 4, 8, 10, 11, 18 and 20, its data
at 24; the six reserved bytes at 12 are left as they are. -/
def pack (crc : FastCRC) (oBuf : Mem) (oBufSize : UInt32) (iPacket : CommPacket) :
    Traced ℕ (Mem × Option UInt32) :=
  if kLidarSdk ≠ iPacket.protocol then pure (oBuf, none)
  else do
    let oBuf ← oBuf.write 0 [kSdkProtocolSof]
    let oBuf ← oBuf.write 1 [kSdkVer]
    let length := (iPacket.dataLen.toUInt32 + getPacketWrapperLen).toUInt16
    let oBuf ← oBuf.write 2 (leBytes 2 length.toNat)
    if length.toUInt32 > oBufSize then pure (oBuf, none)
    else do
      let oBuf ← oBuf.write 4 (leBytes 4 (iPacket.seqNum &&& 0xFFFF).toNat)
      let oBuf ← oBuf.write 8 (leBytes 2 iPacket.cmdId.toNat)
      let oBuf ← oBuf.write 10 [iPacket.cmdType]
      let oBuf ← oBuf.write 11 [iPacket.senderType]
      let oBuf ← oBuf.write 18 (leBytes 2 (crc.ccitt (oBuf.bytes 0 18)).toNat)
      let crc32_d := if iPacket.dataLen = 0 then 0 else crc.crc32 iPacket.payload
      let oBuf ← oBuf.write 20 (leBytes 4 crc32_d.toNat)
      let oBuf ← oBuf.write 24 iPacket.payload
      pure (oBuf, some length.toUInt32)

/-- `ParsePacket`: the packet, unless it returns false. -/
def parsePacket (iBuf : Mem) (bufSize : UInt32) : Traced ℕ (Option CommPacket) :=
  if bufSize < getPacketWrapperLen then pure none
  else do
    let version ← iBuf.read8 1
    let seqNum ← iBuf.read32 4
    let cmdId ← iBuf.read16 8
    let cmdType ← iBuf.read8 10
    let senderType ← iBuf.read8 11
    let length ← iBuf.read16 2
    pure (some
      { protocol := kLidarSdk
        version, seqNum, cmdId, cmdType, senderType
        data := some ⟨iBuf, 24⟩
        dataLen := (length.toUInt32 - getPacketWrapperLen).toUInt16 })

/-- `crc_32_.crc32(packet->data, length - GetPacketWrapperLen())`, or 0 for
no data. -/
def dataCrc (crc : FastCRC) (buf : Mem) (length : UInt16) : Traced ℕ UInt32 :=
  let dataLen := length.toUInt32 - getPacketWrapperLen
  if dataLen = 0 then pure 0
  else do
    let data ← buf.readBytes 24 dataLen.toNat
    pure (crc.crc32 data)

/-- `CheckPreamble`. -/
def checkPreamble (crc : FastCRC) (buf : Mem) (bufSize : UInt32) : Traced ℕ Bool :=
  if bufSize < getPreambleLen then pure false
  else do
    let sof ← buf.read8 0
    if sof ≠ kSdkProtocolSof then pure false
    else do
      let version ← buf.read8 1
      if version ≠ kSdkVer then pure false
      else do
        let length ← buf.read16 2
        if length.toUInt32 < getPreambleLen then pure false
        else do
          let header ← buf.readBytes 0 18
          let crc16_h ← buf.read16 18
          if crc16_h ≠ crc.ccitt header then pure false
          else do
            let crc32 ← dataCrc crc buf length
            let crc32_d ← buf.read32 20
            if crc32_d ≠ crc32 then pure false else pure true

end SdkProtocol

namespace CommPort

open SdkProtocol

/-- `ParseCommStream`. -/
def parseCommStream (crc : FastCRC) (buf : Mem) (bufSize : UInt32) :
    Traced ℕ (Option CommPacket) := do
  if !(← checkPreamble crc buf bufSize) then pure none
  else parsePacket buf bufSize

end CommPort

/-! ### Accepted frames -/

section Frame

open SdkProtocol

variable {crc : FastCRC} {buf : Mem} {bufSize : UInt32}

/-- The length field of a frame. -/
def frameLen (buf : Mem) : ℕ := (buf.u16 2).toNat

/-- The header passes the checks made before the data is covered. -/
structure HeaderOk (crc : FastCRC) (buf : Mem) (bufSize : UInt32) : Prop where
  size : 24 ≤ bufSize.toNat
  sof : buf 0 = kSdkProtocolSof
  version : buf 1 = kSdkVer
  length : 24 ≤ frameLen buf
  crc16 : buf.u16 18 = crc.ccitt (buf.bytes 0 18)

/-- The data passes its checksum. -/
def DataOk (crc : FastCRC) (buf : Mem) : Prop :=
  buf.u32 20 = if frameLen buf = 24 then 0 else crc.crc32 (buf.bytes 24 (frameLen buf - 24))

instance : Decidable (DataOk crc buf) := inferInstanceAs (Decidable (_ = _))

/-- The packet a frame holds. -/
def framePacket (buf : Mem) : CommPacket where
  protocol := kLidarSdk
  version := buf 1
  seqNum := buf.u32 4
  cmdId := buf.u16 8
  cmdType := buf 10
  senderType := buf 11
  data := some ⟨buf, 24⟩
  dataLen := UInt16.ofNat (frameLen buf - 24)

theorem toNat_getPreambleLen : getPreambleLen.toNat = 24 := rfl

/-- The data length of a frame, computed without wrap-around. -/
theorem toNat_dataLen {length : UInt16} (h : 24 ≤ length.toNat) :
    (length.toUInt32 - getPacketWrapperLen).toNat = length.toNat - 24 := by
  have hlt := length.toNat_lt
  rw [UInt32.toNat_sub_of_le, UInt16.toNat_toUInt32]
  · rfl
  · rw [UInt32.le_iff_toNat_le, UInt16.toNat_toUInt32]
    exact h

theorem dataCrc_val (h : 24 ≤ frameLen buf) : (dataCrc crc buf (buf.u16 2)).val =
    if frameLen buf = 24 then 0 else crc.crc32 (buf.bytes 24 (frameLen buf - 24)) := by
  have hlen := toNat_dataLen h
  have hzero : (buf.u16 2).toUInt32 - getPacketWrapperLen = 0 ↔ frameLen buf = 24 := by
    rw [← UInt32.toNat_inj, hlen]
    simp only [frameLen, UInt32.toNat_zero] at h ⊢
    omega
  unfold dataCrc
  by_cases h0 : frameLen buf = 24
  · rw [if_pos (hzero.mpr h0), if_pos h0]
    rfl
  · rw [if_neg fun e => h0 (hzero.mp e), if_neg h0]
    simp only [Traced.val_bind, Mem.val_readBytes, Traced.val_pure, hlen, frameLen]

theorem dataCrc_below (h : 24 ≤ frameLen buf) (hsize : 24 ≤ bufSize.toNat) :
    (dataCrc crc buf (buf.u16 2)).All (· < bufSize.toNat) ↔ frameLen buf ≤ bufSize.toNat := by
  have hlen := toNat_dataLen h
  rw [dataCrc]
  split
  · rename_i h0
    rw [h0, UInt32.toNat_zero] at hlen
    simp only [Traced.all_pure, true_iff, frameLen] at h ⊢
    omega
  · simp only [Traced.all_bind, Mem.all_readBytes, Traced.all_pure, and_true, hlen, frameLen] at h ⊢
    omega

theorem lt_getPreambleLen {n : UInt32} : n < getPreambleLen ↔ n.toNat < 24 := by
  rw [UInt32.lt_iff_toNat_lt, toNat_getPreambleLen]

/-- A header that does not pass is rejected from inside the buffer. -/
theorem checkPreamble_of_not (h : ¬ HeaderOk crc buf bufSize) :
    (checkPreamble crc buf bufSize).val = false ∧
      (checkPreamble crc buf bufSize).All (· < bufSize.toNat) := by
  by_cases hsize : bufSize.toNat < 24
  · simp [checkPreamble, lt_getPreambleLen, hsize]
  have hin : 0 < bufSize.toNat ∧ 1 < bufSize.toNat ∧ 4 ≤ bufSize.toNat ∧ 18 ≤ bufSize.toNat ∧
      20 ≤ bufSize.toNat := by omega
  by_cases hsof : buf 0 = kSdkProtocolSof
  swap
  · simp [checkPreamble, lt_getPreambleLen, hsize, hsof, hin]
  by_cases hversion : buf 1 = kSdkVer
  swap
  · simp [checkPreamble, lt_getPreambleLen, hsize, hsof, hversion, hin]
  by_cases hlength : (buf.u16 2).toNat < 24
  · simp [checkPreamble, lt_getPreambleLen, hsize, hsof, hversion, hlength, hin]
  by_cases hcrc : buf.u16 18 = crc.ccitt (buf.bytes 0 18)
  · exact absurd ⟨Nat.not_lt.mp hsize, hsof, hversion, Nat.not_lt.mp hlength, hcrc⟩ h
  · simp [checkPreamble, lt_getPreambleLen, hsize, hsof, hversion, hlength, hcrc, hin]

/-- Behind a header that passes the data decides, and is covered as far as
the length field says. -/
theorem checkPreamble_of_headerOk (h : HeaderOk crc buf bufSize) :
    ((checkPreamble crc buf bufSize).val = true ↔ DataOk crc buf) ∧
      ((checkPreamble crc buf bufSize).All (· < bufSize.toNat) ↔
        frameLen buf ≤ bufSize.toNat) := by
  obtain ⟨hsize, hsof, hversion, hlength, hcrc⟩ := h
  have hsize' := Nat.not_lt.mpr hsize
  have hlength' : ¬ (buf.u16 2).toNat < 24 := Nat.not_lt.mpr hlength
  constructor
  · simp only [checkPreamble, lt_getPreambleLen, hsize', hsof, hversion, hlength', hcrc, ne_eq,
      not_true_eq_false, ↓reduceIte, Traced.val_bind, Mem.val_read8, Mem.val_readBytes,
      Mem.val_read16, UInt16.toNat_toUInt32]
    unfold DataOk
    rw [← dataCrc_val hlength]
    split <;> rename_i hd <;> simpa using hd
  · simp only [checkPreamble, lt_getPreambleLen, hsize', hsof, hversion, hlength', hcrc, ne_eq,
      not_true_eq_false, ↓reduceIte, Traced.all_bind, Mem.val_read8, Mem.all_read8, Mem.val_readBytes,
      Mem.all_readBytes, Mem.val_read16, Mem.all_read16, Mem.all_read32, UInt16.toNat_toUInt32,
      dataCrc_below hlength hsize, Traced.all_ite, Traced.all_pure, ite_self,
      and_true]
    omega

theorem parsePacket_of_size (h : 24 ≤ bufSize.toNat) (hlength : 24 ≤ frameLen buf) :
    (parsePacket buf bufSize).val = some (framePacket buf) ∧
      (parsePacket buf bufSize).All (· < bufSize.toNat) := by
  have hsize : ¬ bufSize < getPacketWrapperLen := fun hlt =>
    absurd (lt_getPreambleLen.mp hlt) (Nat.not_lt.mpr h)
  have hlen : ((buf.u16 2).toUInt32 - getPacketWrapperLen).toUInt16 =
      UInt16.ofNat (frameLen buf - 24) := by
    refine UInt16.toNat_inj.mp ?_
    rw [UInt32.toNat_toUInt16, toNat_dataLen hlength, UInt16.toNat_ofNat', frameLen]
  unfold parsePacket
  rw [if_neg hsize]
  simp only [Traced.val_bind, Traced.all_bind, Mem.val_read8, Mem.all_read8, Mem.val_read16,
    Mem.all_read16, Mem.val_read32, Mem.all_read32, Traced.val_pure, Traced.all_pure, hlen,
    framePacket, true_and, and_true]
  omega

end Frame

namespace CommPort

variable (crc : FastCRC) (buf : Mem) (bufSize : UInt32)

/-- The accepted buffers, and the packets they give. -/
theorem parseCommStream_eq_some {p : CommPacket} :
    (parseCommStream crc buf bufSize).val = some p ↔
      HeaderOk crc buf bufSize ∧ DataOk crc buf ∧ p = framePacket buf := by
  by_cases h : HeaderOk crc buf bufSize
  · have hcheck := (checkPreamble_of_headerOk h).1
    have hparse := (parsePacket_of_size h.size h.length).1
    by_cases hd : DataOk crc buf
    · simp only [parseCommStream, Traced.val_bind, hcheck.mpr hd, h, hd, true_and]
      show (SdkProtocol.parsePacket buf bufSize).val = some p ↔ _
      rw [hparse, Option.some_inj, eq_comm]
    · have hfalse := Bool.eq_false_iff.mpr fun e => hd (hcheck.mp e)
      simp [parseCommStream, hfalse, h, hd]
  · simp [parseCommStream, (checkPreamble_of_not h).1, h]

/-- What the parser reads. -/
theorem parseCommStream_below :
    (parseCommStream crc buf bufSize).All (· < bufSize.toNat) ↔
      (HeaderOk crc buf bufSize → frameLen buf ≤ bufSize.toNat) := by
  by_cases h : HeaderOk crc buf bufSize
  · have hcheck := (checkPreamble_of_headerOk h).2
    have hparse := (parsePacket_of_size h.size h.length).2
    unfold parseCommStream
    rw [Traced.all_bind, hcheck]
    simp only [h, forall_const, and_iff_left_iff_imp]
    intro _
    split
    · exact Traced.all_pure _
    · exact hparse
  · obtain ⟨hval, hall⟩ := checkPreamble_of_not h
    simp [parseCommStream, hval, hall, h]

/-- Parsing reads nothing outside the buffer, and an accepted frame lies in it
with the payload that is reported. -/
structure ParseBounds : Prop where
  reads : (parseCommStream crc buf bufSize).All (· < bufSize.toNat)
  payload : ∀ p, (parseCommStream crc buf bufSize).val = some p →
    24 ≤ frameLen buf ∧ frameLen buf ≤ bufSize.toNat ∧ p.dataLen.toNat = frameLen buf - 24 ∧
      ∃ data, p.data = some data ∧ data.off + p.dataLen.toNat ≤ bufSize.toNat

/-- **The parser stays in the buffer exactly when no header that passes its
checks has a length field beyond the buffer's size.** -/
theorem parseBounds_iff :
    ParseBounds crc buf bufSize ↔ (HeaderOk crc buf bufSize → frameLen buf ≤ bufSize.toNat) := by
  refine ⟨fun h => (parseCommStream_below crc buf bufSize).mp h.reads, fun h =>
    ⟨(parseCommStream_below crc buf bufSize).mpr h, fun p hp => ?_⟩⟩
  obtain ⟨hok, -, rfl⟩ := (parseCommStream_eq_some crc buf bufSize).mp hp
  have hle := h hok
  have hlength := hok.length
  have hlen : (framePacket buf).dataLen.toNat = frameLen buf - 24 := by
    have hlt : frameLen buf < 2 ^ 16 := (buf.u16 2).toNat_lt
    unfold framePacket
    rw [UInt16.toNat_ofNat']
    omega
  refine ⟨hlength, hle, hlen, ⟨buf, 24⟩, rfl, ?_⟩
  rw [hlen]
  show 24 + (frameLen buf - 24) ≤ _
  omega

/-- A header with nothing behind it whose length field says 25 bytes. -/
def lyingHeader : Mem :=
  memOf [0xAA, 0, 25, 0, 1, 0, 0, 0, 0, 1, 0, 0, 0, 0, 0, 0, 0, 0, 0xAE, 0x5C, 0, 0, 0, 0]

/-- A datagram of 24 bytes makes the parser read the byte behind it. -/
theorem parseBounds_lyingHeader : ¬ ParseBounds FastCRC.standard lyingHeader 24 := by
  have hok : HeaderOk FastCRC.standard lyingHeader 24 :=
    ⟨by decide, by decide, by decide, by decide, by decide +kernel⟩
  intro h
  exact absurd ((parseCommStream_below _ _ _).mp h.reads hok) (by decide)

end CommPort

/-! ### Packed frames -/

section Packed

open SdkProtocol

variable (crc : FastCRC) (oBuf : Mem) (iPacket : CommPacket)

/-- The length field `Pack` writes. -/
def wireLen (iPacket : CommPacket) : UInt16 :=
  (iPacket.dataLen.toUInt32 + getPacketWrapperLen).toUInt16

theorem toNat_wireLen : (wireLen iPacket).toNat = (iPacket.dataLen.toNat + 24) % 2 ^ 16 := by
  have hlt := iPacket.dataLen.toNat_lt
  have hadd : (iPacket.dataLen.toUInt32 + getPacketWrapperLen).toNat = iPacket.dataLen.toNat + 24 := by
    rw [UInt32.toNat_add, UInt16.toNat_toUInt32, show getPacketWrapperLen.toNat = 24 from rfl]
    omega
  unfold wireLen
  rw [UInt32.toNat_toUInt16, hadd]

/-- The buffer when `Pack` compares the length with its size. -/
def packedLength : Mem :=
  ((oBuf.set 0 [kSdkProtocolSof]).set 1 [kSdkVer]).set 2 (leBytes 2 (wireLen iPacket).toNat)

/-- The buffer when `Pack` computes the checksum of the header. -/
def packedHeader : Mem :=
  ((((packedLength oBuf iPacket).set 4 (leBytes 4 (iPacket.seqNum &&& 0xFFFF).toNat)).set 8
    (leBytes 2 iPacket.cmdId.toNat)).set 10 [iPacket.cmdType]).set 11 [iPacket.senderType]

/-- The checksum of the data that `Pack` writes. -/
def packedCrc32 : UInt32 := if iPacket.dataLen = 0 then 0 else crc.crc32 iPacket.payload

/-- The buffer when `Pack` returns 0. -/
def packed : Mem :=
  (((packedHeader oBuf iPacket).set 18
    (leBytes 2 (crc.ccitt ((packedHeader oBuf iPacket).bytes 0 18)).toNat)).set 20
    (leBytes 4 (packedCrc32 crc iPacket).toNat)).set 24 iPacket.payload

theorem set_apply_self (m : Mem) (i : ℕ) (b : UInt8) : m.set i [b] i = b := by
  simp [Mem.set]

/-- The fields in front of the checksum, in every buffer with the same header
bytes. -/
structure HasFields (frame : Mem) : Prop where
  sof : frame 0 = kSdkProtocolSof
  version : frame 1 = kSdkVer
  length : frame.u16 2 = wireLen iPacket
  seqNum : frame.u32 4 = iPacket.seqNum &&& 0xFFFF
  cmdId : frame.u16 8 = iPacket.cmdId
  cmdType : frame 10 = iPacket.cmdType
  senderType : frame 11 = iPacket.senderType
  rsvd : frame.bytes 12 6 = oBuf.bytes 12 6

theorem packedHeader_hasFields : HasFields oBuf iPacket (packedHeader oBuf iPacket) := by
  constructor <;>
    simp (disch := simp) only [packedHeader, packedLength, Mem.set_apply_of_disjoint,
      Mem.bytes_set_of_disjoint, Mem.u16_set_of_disjoint, Mem.u32_set_of_disjoint, set_apply_self,
      Mem.u16_set_self, Mem.u32_set_self]

/-- The fields are the header's bytes. -/
theorem HasFields.bytes_eq {oBuf : Mem} {iPacket : CommPacket} {m m' : Mem}
    (h : HasFields oBuf iPacket m) (h' : HasFields oBuf iPacket m') :
    m.bytes 0 18 = m'.bytes 0 18 := by
  have hsplit : ∀ m : Mem, m.bytes 0 18 = [m 0, m 1] ++ leBytes 2 (m.u16 2).toNat ++
      leBytes 4 (m.u32 4).toNat ++ leBytes 2 (m.u16 8).toNat ++ [m 10, m 11] ++ m.bytes 12 6 := by
    intro m
    rw [← m.bytes_eq_u16, ← m.bytes_eq_u32, ← m.bytes_eq_u16]
    rfl
  rw [hsplit, hsplit, h.sof, h'.sof, h.version, h'.version, h.length, h'.length, h.seqNum,
    h'.seqNum, h.cmdId, h'.cmdId, h.cmdType, h'.cmdType, h.senderType, h'.senderType, h.rsvd,
    h'.rsvd]

theorem packed_bytes_header : (packed crc oBuf iPacket).bytes 0 18 =
    (packedHeader oBuf iPacket).bytes 0 18 := by
  simp (disch := simp) only [packed, Mem.bytes_set_of_disjoint]

theorem packed_hasFields : HasFields oBuf iPacket (packed crc oBuf iPacket) := by
  have h := packedHeader_hasFields oBuf iPacket
  constructor <;>
    simp (disch := simp) only [packed, Mem.set_apply_of_disjoint, Mem.bytes_set_of_disjoint,
      Mem.u16_set_of_disjoint, Mem.u32_set_of_disjoint, h.sof, h.version, h.length, h.seqNum,
      h.cmdId, h.cmdType, h.senderType, h.rsvd]

theorem packed_crc16 : (packed crc oBuf iPacket).u16 18 =
    crc.ccitt ((packed crc oBuf iPacket).bytes 0 18) := by
  rw [packed_bytes_header]
  simp (disch := simp) only [packed, Mem.u16_set_of_disjoint, Mem.u16_set_self]

theorem packed_crc32 : (packed crc oBuf iPacket).u32 20 = packedCrc32 crc iPacket := by
  simp (disch := simp) only [packed, Mem.u32_set_of_disjoint, Mem.u32_set_self]

theorem packed_payload :
    (packed crc oBuf iPacket).bytes 24 iPacket.payload.length = iPacket.payload :=
  Mem.bytes_set_self _ 24 iPacket.payload

/-- A packet that can be packed: of the SDK's protocol, with data if it
announces some. -/
structure Packable : Prop where
  protocol : iPacket.protocol = kLidarSdk
  data : iPacket.dataLen ≠ 0 → iPacket.data.isSome

variable {iPacket}

theorem Packable.payload_length (h : Packable iPacket) :
    iPacket.payload.length = iPacket.dataLen.toNat := by
  unfold CommPacket.payload
  cases hd : iPacket.data with
  | some p => simp [Ptr.bytes]
  | none =>
    by_cases h0 : iPacket.dataLen = 0
    · simp [h0]
    · have := h.data h0
      simp [hd] at this

/-- The outcome of `Pack`. -/
theorem pack_val (h : Packable iPacket) (oBufSize : UInt32) :
    (pack crc oBuf oBufSize iPacket).val =
      if oBufSize < (wireLen iPacket).toUInt32 then (packedLength oBuf iPacket, none)
      else (packed crc oBuf iPacket, some (wireLen iPacket).toUInt32) := by
  unfold pack
  rw [if_neg (not_not.mpr h.protocol.symm)]
  simp only [Traced.val_bind, Mem.val_write]
  rw [Traced.val_ite]
  rfl

/-- When `Pack` writes nothing outside the buffer: the length and its own
fields precede the comparison, and the data follows it unchecked. -/
theorem pack_below_iff (h : Packable iPacket) (oBufSize : UInt32) :
    (pack crc oBuf oBufSize iPacket).All (· < oBufSize.toNat) ↔
      4 ≤ oBufSize.toNat ∧ ((wireLen iPacket).toNat ≤ oBufSize.toNat →
        24 + iPacket.dataLen.toNat ≤ oBufSize.toNat) := by
  have hle : oBufSize < (wireLen iPacket).toUInt32 ↔ ¬ (wireLen iPacket).toNat ≤ oBufSize.toNat := by
    rw [UInt32.lt_iff_toNat_lt, UInt16.toNat_toUInt32, Nat.not_le]
  unfold pack
  rw [if_neg (not_not.mpr h.protocol.symm)]
  simp only [Traced.all_bind, Mem.all_write, Mem.val_write, Traced.all_ite, Traced.all_pure,
    and_true, leBytes_length, List.length_cons, List.length_nil, h.payload_length]
  rw [← wireLen]
  split
  · rename_i hlt
    have := hle.mp hlt
    simp only [and_true]
    omega
  · rename_i hge
    have := not_not.mp fun h => hge (hle.mpr h)
    omega

end Packed

namespace CommPort

open SdkProtocol

/-- What packing promises: nothing is written outside the buffer, and it fails
or gives a frame that parses to the packet, with `seqNum` as its sequence
number. -/
structure PackSpec (crc : FastCRC) (oBuf : Mem) (oBufSize : UInt32) (iPacket : CommPacket)
    (seqNum : UInt32) : Prop where
  writes : (pack crc oBuf oBufSize iPacket).All (· < oBufSize.toNat)
  result : ∀ oLen, (pack crc oBuf oBufSize iPacket).val.2 = some oLen →
    oLen.toNat = 24 + iPacket.dataLen.toNat ∧ oLen ≤ oBufSize ∧
      ∃ p, (parseCommStream crc (pack crc oBuf oBufSize iPacket).val.1 oLen).val = some p ∧
        p.seqNum = seqNum ∧ p.cmdId = iPacket.cmdId ∧ p.cmdType = iPacket.cmdType ∧
        p.senderType = iPacket.senderType ∧ p.dataLen = iPacket.dataLen ∧
        p.payload = iPacket.payload

/-- Packing the packet of a frame gives the frame. -/
def RepackSpec (crc : FastCRC) (frame oBuf : Mem) (oBufSize : UInt32) (p : CommPacket) : Prop :=
  (pack crc oBuf oBufSize p).val.2 = some (frame.u16 2).toUInt32 ∧
    (pack crc oBuf oBufSize p).val.1.bytes 0 (frameLen frame) = frame.bytes 0 (frameLen frame)

variable {crc : FastCRC} {oBuf : Mem} {oBufSize : UInt32} {iPacket : CommPacket}

/-- A packed frame parses. -/
theorem parse_packed (crc : FastCRC) (oBuf : Mem) (h : Packable iPacket)
    (hlen : iPacket.dataLen.toNat + 24 < 2 ^ 16) :
    (parseCommStream crc (packed crc oBuf iPacket) (wireLen iPacket).toUInt32).val =
        some (framePacket (packed crc oBuf iPacket)) ∧
      (framePacket (packed crc oBuf iPacket)).dataLen = iPacket.dataLen ∧
      (framePacket (packed crc oBuf iPacket)).payload = iPacket.payload := by
  have hf := packed_hasFields crc oBuf iPacket
  have hwire : (wireLen iPacket).toNat = iPacket.dataLen.toNat + 24 := by
    rw [toNat_wireLen, Nat.mod_eq_of_lt hlen]
  have hframe : frameLen (packed crc oBuf iPacket) = iPacket.dataLen.toNat + 24 := by
    unfold frameLen
    rw [hf.length, hwire]
  have hdata : (framePacket (packed crc oBuf iPacket)).dataLen = iPacket.dataLen := by
    unfold framePacket
    rw [hframe, Nat.add_sub_cancel, UInt16.ofNat_toNat]
  have hbytes : (packed crc oBuf iPacket).bytes 24 iPacket.dataLen.toNat = iPacket.payload := by
    rw [← h.payload_length, packed_payload]
  refine ⟨(parseCommStream_eq_some _ _ _).mpr ⟨?_, ?_, rfl⟩, hdata, ?_⟩
  · refine ⟨?_, hf.sof, hf.version, by omega, packed_crc16 crc oBuf iPacket⟩
    rw [UInt16.toNat_toUInt32, hwire]
    omega
  · unfold DataOk
    rw [packed_crc32, packedCrc32, hframe, Nat.add_sub_cancel, hbytes]
    refine if_congr ?_ rfl rfl
    rw [← UInt16.toNat_inj, UInt16.toNat_zero]
    omega
  · unfold CommPacket.payload
    rw [hdata]
    exact hbytes

theorem pack_spec (h : Packable iPacket) (hsize : 4 ≤ oBufSize.toNat)
    (hlen : iPacket.dataLen.toNat + 24 < 2 ^ 16) :
    PackSpec crc oBuf oBufSize iPacket (iPacket.seqNum &&& 0xFFFF) := by
  have hwire : (wireLen iPacket).toNat = iPacket.dataLen.toNat + 24 := by
    rw [toNat_wireLen, Nat.mod_eq_of_lt hlen]
  refine ⟨(pack_below_iff crc oBuf h oBufSize).mpr ⟨hsize, by omega⟩, fun oLen ho => ?_⟩
  rw [pack_val crc oBuf h oBufSize] at ho ⊢
  split at ho
  · cases ho
  rename_i hle
  obtain rfl : (wireLen iPacket).toUInt32 = oLen := by simpa using ho
  obtain ⟨hparse, hdata, hpayload⟩ := parse_packed crc oBuf h hlen
  have hf := packed_hasFields crc oBuf iPacket
  rw [if_neg hle]
  refine ⟨?_, UInt32.not_lt.mp hle, _, hparse, hf.seqNum, hf.cmdId, hf.cmdType, hf.senderType,
    hdata, hpayload⟩
  rw [UInt16.toNat_toUInt32, toNat_wireLen, Nat.mod_eq_of_lt hlen, Nat.add_comm]

/-- The fields of an accepted frame are those `Pack` writes for its packet. -/
theorem framePacket_hasFields {frame : Mem} {bufSize : UInt32} (h : HeaderOk crc frame bufSize)
    (hseq : (frame.u32 4).toNat < 2 ^ 16) (hrsvd : oBuf.bytes 12 6 = frame.bytes 12 6) :
    HasFields oBuf (framePacket frame) frame := by
  have hlength := h.length
  have hlt : frameLen frame < 2 ^ 16 := (frame.u16 2).toNat_lt
  refine ⟨h.sof, h.version, ?_, ?_, rfl, rfl, rfl, hrsvd.symm⟩
  · refine UInt16.toNat_inj.mp ?_
    rw [toNat_wireLen, framePacket, UInt16.toNat_ofNat']
    simp only [frameLen] at hlength hlt ⊢
    omega
  · refine UInt32.toNat_inj.mp ?_
    have hmod : (0xFFFF : UInt32).toNat = 2 ^ 16 - 1 := rfl
    unfold framePacket
    rw [UInt32.toNat_and, hmod, Nat.and_two_pow_sub_one_eq_mod, Nat.mod_eq_of_lt hseq]

theorem framePacket_packable (frame : Mem) : Packable (framePacket frame) := ⟨rfl, fun _ => rfl⟩

theorem repack_spec {frame : Mem} {bufSize : UInt32} (h : HeaderOk crc frame bufSize)
    (hd : DataOk crc frame) (hseq : (frame.u32 4).toNat < 2 ^ 16)
    (hrsvd : oBuf.bytes 12 6 = frame.bytes 12 6) (hsize : frameLen frame ≤ oBufSize.toNat) :
    RepackSpec crc frame oBuf oBufSize (framePacket frame) := by
  have hf := framePacket_hasFields h hseq hrsvd
  have hf' := packed_hasFields crc oBuf (framePacket frame)
  have hheader := hf'.bytes_eq hf
  have hlength := h.length
  have hlt : frameLen frame < 2 ^ 16 := (frame.u16 2).toNat_lt
  have hlen : (framePacket frame).dataLen.toNat = frameLen frame - 24 := by
    unfold framePacket
    rw [UInt16.toNat_ofNat']
    omega
  have hpayload : (framePacket frame).payload = frame.bytes 24 (frameLen frame - 24) := by
    unfold CommPacket.payload
    rw [hlen]
    rfl
  have hpacked := packed_payload crc oBuf (framePacket frame)
  have hcrc32 : packedCrc32 crc (framePacket frame) = frame.u32 20 := by
    rw [hd, packedCrc32, hpayload]
    refine if_congr ?_ rfl rfl
    rw [← UInt16.toNat_inj, hlen, UInt16.toNat_zero]
    omega
  unfold RepackSpec
  rw [pack_val crc oBuf (framePacket_packable frame), if_neg, ← hf.length]
  · refine ⟨rfl, ?_⟩
    -- The frame is its header, the two checksums and the data.
    have hsplit : ∀ m : Mem, m.bytes 0 (frameLen frame) = m.bytes 0 18 ++ leBytes 2 (m.u16 18).toNat ++
        leBytes 4 (m.u32 20).toNat ++ m.bytes 24 (frameLen frame - 24) := by
      intro m
      rw [← m.bytes_eq_u16, ← m.bytes_eq_u32, ← m.bytes_add, ← m.bytes_add, ← m.bytes_add]
      congr 1
      omega
    rw [hsplit, hsplit, packed_crc16, packed_crc32, hheader, hcrc32, ← h.crc16]
    rw [hpayload, Mem.bytes_length] at hpacked
    rw [hpacked]
  · rw [UInt32.not_lt, UInt32.le_iff_toNat_le, UInt16.toNat_toUInt32, ← hf.length]
    exact hsize

/-- **Packing and parsing are inverse to each other** on packets whose length
fits the length field and, back from a frame, whose sequence number has 16
bits. -/
theorem pack_parse (crc : FastCRC) (oBuf : Mem) (oBufSize : UInt32) :
    (∀ iPacket : CommPacket, Packable iPacket → 4 ≤ oBufSize.toNat →
      iPacket.dataLen.toNat + 24 < 2 ^ 16 →
        PackSpec crc oBuf oBufSize iPacket (iPacket.seqNum &&& 0xFFFF)) ∧
    (∀ (frame : Mem) (bufSize : UInt32) (p : CommPacket),
      (parseCommStream crc frame bufSize).val = some p → p.seqNum.toNat < 2 ^ 16 →
        oBuf.bytes 12 6 = frame.bytes 12 6 → frameLen frame ≤ oBufSize.toNat →
          RepackSpec crc frame oBuf oBufSize p) := by
  refine ⟨fun iPacket h hsize hlen => pack_spec h hsize hlen, ?_⟩
  intro frame bufSize p hp hseq hrsvd hsize
  obtain ⟨h, hd, rfl⟩ := (parseCommStream_eq_some crc frame bufSize).mp hp
  exact repack_spec h hd hseq hrsvd hsize

/-- A packet of one data byte. -/
def ping : CommPacket := ⟨kLidarSdk, 0, 7, 0x0100, 0, 0, some ⟨memOf [0x2A], 0⟩, 1⟩

theorem pack_parse_ping :
    PackSpec FastCRC.standard (memOf []) 1400 ping 7 ∧
      RepackSpec FastCRC.standard (packed FastCRC.standard (memOf []) ping) (memOf []) 1400
        (framePacket (packed FastCRC.standard (memOf []) ping)) := by
  have hping : Packable ping := ⟨rfl, fun _ => rfl⟩
  have hf := packed_hasFields FastCRC.standard (memOf []) ping
  refine ⟨(pack_parse FastCRC.standard (memOf []) 1400).1 ping hping (by decide) (by decide),
    (pack_parse FastCRC.standard (memOf []) 1400).2 _ _ _
      (parse_packed _ _ hping (by decide)).1 ?_ hf.rsvd.symm ?_⟩
  · unfold framePacket
    rw [hf.seqNum]
    decide
  · unfold frameLen
    rw [hf.length]
    decide

/-- A frame whose sequence number takes 17 bits. -/
def wideFrame : Mem :=
  memOf [0xAA, 0, 24, 0, 0, 0, 1, 0, 0, 1, 0, 0, 0, 0, 0, 0, 0, 0, 0x9E, 0x8C, 0, 0, 0, 0]

/-- Packing drops the high half of a sequence number, in both directions; it
writes the first four bytes before it looks at the size of the buffer, and the
data without a check when the length wraps. -/
theorem pack_fails :
    ¬ PackSpec FastCRC.standard (memOf []) 1400 { ping with seqNum := 65536 } 65536 ∧
    ((parseCommStream FastCRC.standard wideFrame 24).val = some (framePacket wideFrame) ∧
      ¬ RepackSpec FastCRC.standard wideFrame (memOf []) 1400 (framePacket wideFrame)) ∧
    ¬ PackSpec FastCRC.standard (memOf []) 0 ping 7 ∧
    ¬ PackSpec FastCRC.standard (memOf []) 24 { ping with dataLen := 65512 } 7 := by
  refine ⟨fun h => ?_, ⟨?_, fun h => ?_⟩, fun h => ?_, fun h => ?_⟩
  · have hpkt : Packable { ping with seqNum := 65536 } := ⟨rfl, fun _ => rfl⟩
    have hf := packed_hasFields FastCRC.standard (memOf []) { ping with seqNum := 65536 }
    have hparse := (parse_packed FastCRC.standard (memOf []) hpkt (by decide)).1
    have hresult := h.result 25
    rw [pack_val _ _ hpkt, if_neg (by decide)] at hresult
    obtain ⟨-, -, p, hp, hseq, -⟩ := hresult rfl
    obtain rfl := Option.some.inj (hparse.symm.trans hp)
    unfold framePacket at hseq
    rw [hf.seqNum] at hseq
    exact absurd hseq (by decide)
  · refine (parseCommStream_eq_some _ _ _).mpr ⟨⟨?_, ?_, ?_, ?_, ?_⟩, ?_, rfl⟩ <;> decide +kernel
  · have hf := packed_hasFields FastCRC.standard (memOf []) (framePacket wideFrame)
    have hbytes := h.2
    have hlen : frameLen wideFrame = 24 := by decide
    rw [pack_val _ _ (framePacket_packable _), if_neg (by decide), hlen] at hbytes
    have hseq : (packed FastCRC.standard (memOf []) (framePacket wideFrame)).u32 4 =
        wideFrame.u32 4 :=
      congrArg (fun bs : List UInt8 => UInt32.ofNat (leValue ((bs.drop 4).take 4))) hbytes
    rw [hf.seqNum] at hseq
    exact absurd hseq (by decide)
  · exact absurd ((pack_below_iff _ _ ⟨rfl, fun _ => rfl⟩ 0).mp h.writes).1 (by decide)
  · have hall := ((pack_below_iff _ _ ⟨rfl, fun _ => rfl⟩ 24).mp h.writes).2
    exact absurd (hall (by decide)) (by decide)

end CommPort

end Livox
end SensorSupport
