/-
# Sequence-number decoders (`rs_driver/driver/decoder/decoder_RSM*.hpp`, `decoder_RSE*.hpp`)

The MSOP packets of these lidars are numbered, and the number goes back where a
frame begins. `decodeMsopPkt` gives it to `split_strategy_`, `isNewFrame` to
`pre_split_strategy_comm_`. RSEMX counts from 1 and has two surfaces, and the packet
of RSM1_Jumbo is 63 packets one behind the other.

Of decoding only the ends of frames are modelled.

Key definitions: `SeqDecoder`, `SeqType.decodeMsopPkt`, `SeqType.isNewFrame`.
Key theorems: `splitPacket_gives`, `decodeRsm1_gives`, `isNewFrameCommon_eq`.
-/
import SensorSupport.Rs.SplitStrategy

namespace SensorSupport
namespace Rs

open Detector

/-- A packet: the bytes at its pointer, and its length. -/
structure SeqPkt where
  data : ℕ → UInt8
  size : ℕ

/-- A number in network byte order. -/
def u16At (data : ℕ → UInt8) (i : ℕ) : UInt16 := (data i).toUInt16 <<< 8 ||| (data (i + 1)).toUInt16

/-- The splitters of a decoder, and how often it called `cb_split_frame_`. -/
structure SeqDecoder where
  splitStrategy : SplitStrategyBySeq
  preSplitStrategyComm : SplitStrategyBySeq
  splitFrames : ℕ

/-- The constructor. -/
def SeqDecoder.init : SeqDecoder := ⟨.init, .init, 0⟩

namespace SeqDecoder

/-- `isNewFrameCommon`. -/
def isNewFrameCommon (packet : ℕ → UInt8) (s : SeqDecoder) : SeqDecoder × Bool :=
  let r := s.preSplitStrategyComm.newPacket (u16At packet 4)
  ({ s with preSplitStrategyComm := r.1 }, r.2)

/-- A numbered packet, before which the frame may end. -/
def splitPacket (seq : UInt16) (s : SeqDecoder) : SeqDecoder × Bool :=
  let r := s.splitStrategy.newPacket seq
  ({ s with
    splitStrategy := r.1
    splitFrames := if r.2 then s.splitFrames + 1 else s.splitFrames }, r.2)

/-- `decodeMsopPkt` of RSM1, where the frame also ends behind its last packet. -/
def decodeRsm1 (packet : ℕ → UInt8) (s : SeqDecoder) : SeqDecoder × Bool :=
  let pktSeq := u16At packet 4
  let r := s.splitPacket pktSeq
  if r.1.splitStrategy.highest = pktSeq then
    ({ r.1 with splitFrames := r.1.splitFrames + 1 }, r.2)
  else r

/-- `decodeMsopPkt` of RSEMX. -/
def decodeRsemx (packet : ℕ → UInt8) (s : SeqDecoder) : SeqDecoder × Bool :=
  let pktSeq := u16At packet 4 - 1
  let surfaceIndex := packet 27
  if 2 ≤ surfaceIndex then (s, false) else s.splitPacket pktSeq

/-- The bytes of an inner packet of RSM1_Jumbo. -/
def innerPkt (packet : ℕ → UInt8) (i : ℕ) : ℕ → UInt8 := fun k => packet (984 * i + k)

/-- Does a packet begin with the `MSOP_ID` of RSM1_Jumbo? -/
def hasMsopId (packet : ℕ → UInt8) : Bool :=
  [packet 0, packet 1, packet 2, packet 3] == [0x55, 0xAA, 0x5A, 0xA5]

/-- `internDecodeMsopPkt` of RSM1_Jumbo. -/
def decodeInner (packet : ℕ → UInt8) (s : SeqDecoder) : SeqDecoder × Bool :=
  if hasMsopId packet then s.splitPacket (u16At packet 4) else (s, false)

/-- `decodeMsopPkt` of RSM1_Jumbo. -/
def decodeJumbo (pkt : SeqPkt) (s : SeqDecoder) : SeqDecoder × Bool :=
  if pkt.size ≠ 62152 then (s, false)
  else feed (fun s i => s.decodeInner (innerPkt pkt.data i)) (List.range 63) s

end SeqDecoder

/-- The lidars whose packets are numbered. -/
inductive SeqType
  | rsm1
  | rsm2
  | rsm3
  | rsmx
  | rse1
  | rsemx
  | rsm1Jumbo

namespace SeqType

open SeqDecoder

def decodeMsopPkt : SeqType → SeqPkt → SeqDecoder → SeqDecoder × Bool
  | .rsm1, pkt => decodeRsm1 pkt.data
  | .rsm2, pkt => splitPacket (u16At pkt.data 4)
  | .rsm3, pkt => splitPacket (u16At pkt.data 4)
  | .rsmx, pkt => splitPacket (u16At pkt.data 4)
  | .rse1, pkt => splitPacket (u16At pkt.data 4)
  | .rsemx, pkt => decodeRsemx pkt.data
  | .rsm1Jumbo, pkt => decodeJumbo pkt

/-- None of them overrides `isNewFrame`. -/
def isNewFrame (_ : SeqType) (pkt : SeqPkt) : SeqDecoder → SeqDecoder × Bool :=
  isNewFrameCommon pkt.data

end SeqType

/-! ### What the splitters do -/

section Splitters

variable {s : SeqDecoder}

/-- The safe ranges belong to the previous numbers. -/
structure SeqDecoder.InRange (s : SeqDecoder) : Prop where
  split : s.splitStrategy.InRange
  preSplit : s.preSplitStrategyComm.InRange

theorem SeqDecoder.inRange_init : SeqDecoder.init.InRange := ⟨init_inRange, init_inRange⟩

/-- The number that the splitter of the decoder waits behind. -/
def SeqDecoder.prevSeq (s : SeqDecoder) : UInt16 := s.splitStrategy.prevSeq

/-- The number that the splitter of `isNewFrame` waits behind. -/
def SeqDecoder.preSeq (s : SeqDecoder) : UInt16 := s.preSplitStrategyComm.prevSeq

/-- A function gives a number to the splitter of the decoder, and says what it says. -/
def SeqDecoder.Gives (seq : UInt16) (f : SeqDecoder → SeqDecoder × Bool) : Prop :=
  ∀ s : SeqDecoder, s.InRange → (f s).1.InRange ∧ (f s).1.prevSeq = nextSeq s.prevSeq seq ∧
    (f s).1.preSeq = s.preSeq ∧ (f s).2 = decide (seq < safeMin s.prevSeq)

theorem splitPacket_gives (seq : UInt16) : SeqDecoder.Gives seq (SeqDecoder.splitPacket seq) := by
  intro s h
  obtain ⟨hverdict, hnext⟩ := newPacket_eq h.split seq
  exact ⟨⟨newPacket_inRange _ seq, h.preSplit⟩, hnext, rfl, hverdict⟩

/-- The second end of a frame says nothing, and moves no splitter. -/
theorem decodeRsm1_gives (packet : ℕ → UInt8) :
    SeqDecoder.Gives (u16At packet 4) (SeqDecoder.decodeRsm1 packet) := by
  intro s h
  obtain ⟨hrange, hprev, hpre, hverdict⟩ := splitPacket_gives (u16At packet 4) s h
  unfold SeqDecoder.decodeRsm1
  dsimp only
  split
  · exact ⟨⟨hrange.split, hrange.preSplit⟩, hprev, hpre, hverdict⟩
  · exact ⟨hrange, hprev, hpre, hverdict⟩

theorem isNewFrameCommon_eq (h : s.InRange) (packet : ℕ → UInt8) :
    (s.isNewFrameCommon packet).1.InRange ∧
      (s.isNewFrameCommon packet).1.preSeq = nextSeq s.preSeq (u16At packet 4) ∧
      (s.isNewFrameCommon packet).1.prevSeq = s.prevSeq ∧
      (s.isNewFrameCommon packet).2 = decide (u16At packet 4 < safeMin s.preSeq) := by
  obtain ⟨hverdict, hnext⟩ := newPacket_eq h.preSplit (u16At packet 4)
  exact ⟨⟨h.split, newPacket_inRange _ _⟩, hnext, rfl, hverdict⟩

end Splitters

end Rs
end SensorSupport
