/-
# Clouds partition the points (`rs_driver/driver/lidar_driver_impl.hpp`, `decoder/decoder.hpp`)

A decoder adds points to the cloud that its driver gave it, and calls
`cb_split_frame_` where a frame ends, also in the middle of a packet. `splitFrame`
of the driver numbers a cloud that has points, hands it to `cb_put_cloud_` and gives
the decoder a cleared one. Here a decoder is what it calls for a packet: its points
and the ends of its frames, in their order. `processMsopPkt` checks the packet
first, and clears a cloud that grew beyond its limit.

The calls of the mechanical decoders make the clouds of `decodeMsopPkt`, and those
of the others split frames as often as theirs does.

Key definitions: `CloudCall`, `DriverCloud`, `MechType.msopCalls`, `SeqType.msopCalls`, `Decoder`,
`LidarDriver`.
Key theorems: `msopCalls_shows`, `seqCalls_splits`, `blocksCalls_produced`, `clouds_partition`.
-/
import SensorSupport.Lib.Batches
import SensorSupport.Lib.Run
import SensorSupport.Rs.MechDecoder
import SensorSupport.Rs.SeqDecoder

namespace SensorSupport
namespace Rs

variable {P : Type}

/-! ### The clouds of the driver -/

/-- What a decoder does to its cloud: it adds a point, or calls `cb_split_frame_`. -/
inductive CloudCall (P : Type)
  | point (p : P)
  | splitFrame (height : ℕ)

/-- A point cloud with its number. -/
structure CloudMsg (P : Type) extends PointCloud P where
  seq : UInt32

/-- `point_cloud_` of the decoder, `point_cloud_seq_`, and the clouds that were
handed to `cb_put_cloud_`. -/
structure DriverCloud (P : Type) where
  pointCloud : List P
  pointCloudSeq : UInt32
  putClouds : List (CloudMsg P)

namespace DriverCloud

/-- The constructor: `getPointCloud` clears the cloud. -/
def init : DriverCloud P := ⟨[], 0, []⟩

/-- `splitFrame`, with `setPointCloudHeader`. -/
def splitFrame (param : RSDecoderParam) (height : ℕ) (d : DriverCloud P) : DriverCloud P :=
  if 0 < d.pointCloud.length then
    { pointCloud := []
      pointCloudSeq := d.pointCloudSeq + 1
      putClouds := d.putClouds ++
        [⟨DecoderMech.setPointCloudHeader param height d.pointCloud, d.pointCloudSeq⟩] }
  else d

/-- A cloud beyond its limit is cleared. -/
def clearOver (d : DriverCloud P) : DriverCloud P :=
  if 5000000 < d.pointCloud.length then { d with pointCloud := [] } else d

def call (param : RSDecoderParam) (d : DriverCloud P) : CloudCall P → DriverCloud P
  | .point p => { d with pointCloud := d.pointCloud ++ [p] }
  | .splitFrame height => d.splitFrame param height

def calls (param : RSDecoderParam) (d : DriverCloud P) (cs : List (CloudCall P)) :
    DriverCloud P := cs.foldl (call param) d

end DriverCloud

/-! ### The calls of the mechanical decoders -/

namespace DecoderMech

/-- The calls for a block whose id is right. -/
def blockCalls (param : RSDecoderParam) (height : ℕ) (block : MsopBlock P) (s : DecoderMech P) :
    List (CloudCall P) :=
  (if (s.splitStrategy.newBlock (s.deref param) block.az).2 then [.splitFrame height] else []) ++
    (block.channels.flatMap (channelPoint param)).map .point

/-- The calls of the loop over the blocks. -/
def blocksCalls (c : RSDecoderConstParam) (idLen : ℕ) (param : RSDecoderParam) (height : ℕ) :
    List (MsopBlock P) → DecoderMech P → List (CloudCall P)
  | [], _ => []
  | block :: blocks, s =>
    if block.hasId c idLen then
      s.blockCalls param height block ++
        blocksCalls c idLen param height blocks (s.decodeBlock param height block).1
    else []

/-- The calls of the decoders that know their channels. -/
def fixedCalls (c : RSDecoderConstParam) (idLen height : ℕ) (param : RSDecoderParam)
    (pkt : MsopPkt P c) (s : DecoderMech P) : List (CloudCall P) :=
  s.blocksCalls c idLen param height pkt.blocks

/-- The calls of RSAIRY and RSFAIRY. -/
def byModelCalls (c : RSDecoderConstParam) (getLidarModel : UInt8 → LidarModel × ℕ)
    (initialized : LidarModel → DifopSetting → Bool) (param : RSDecoderParam) (pkt : MsopPkt P c)
    (s : DecoderMech P) : List (CloudCall P) :=
  if pkt.dataType0 ≠ 0 then []
  else
    let s := s.initModel getLidarModel initialized pkt
    if s.lidarModel = .channel192 then []
    else s.blocksCalls c 2 param s.channelNum pkt.blocks

/-- The decoder without clouds: they are with the driver. -/
def withoutClouds (s : DecoderMech P) : DecoderMech P :=
  { s with pointCloud := [], putClouds := [] }

end DecoderMech

open DecoderMech in
/-- The calls of `decodeMsopPkt`. -/
def MechType.msopCalls : (t : MechType) → RSDecoderParam → MsopPkt P t.constParam →
    DecoderMech P → List (CloudCall P)
  | .rs16 => fixedCalls Rs.rs16 2 Rs.rs16.laserNum
  | .rs32 => fixedCalls Rs.rs32 2 Rs.rs32.laserNum
  | .rsbp => fixedCalls Rs.rsbp 2 Rs.rsbp.laserNum
  | .rshelios => fixedCalls Rs.rshelios 2 Rs.rshelios.laserNum
  | .rshelios16p => fixedCalls Rs.rshelios16p 2 Rs.rshelios16p.laserNum
  | .rs48 => fixedCalls Rs.rs48 1 Rs.rs48.laserNum
  | .rs80 => fixedCalls Rs.rs80 1 Rs.rs80.laserNum
  | .rs128 => fixedCalls Rs.rs128 1 Rs.rs128.laserNum
  | .rsp48 => fixedCalls Rs.rsp48 1 Rs.rsp48.laserNum
  | .rsp80 => fixedCalls Rs.rsp80 1 Rs.rsp80.laserNum
  | .rsp128 => fixedCalls Rs.rsp128 1 Rs.rsp128.laserNum
  | .rsairy => byModelCalls Rs.rsairy getRsairyModel rsairyInitialized
  | .rsfairy => byModelCalls Rs.rsfairy getRsfairyModel rsfairyInitialized
  | .rsairyliteEth => fixedCalls Rs.rsairyliteEth 0 24

/-! ### The calls of the numbered decoders -/

def rsm1 : RSDecoderConstParam where
  msopLen := 1210
  msopId := [0x55, 0xAA, 0x5A, 0xA5]
  blockId := [0x00, 0x00]
  laserNum := 5
  blocksPerPkt := 25
  channelsPerBlock := 5

def rsm2 : RSDecoderConstParam := { rsm1 with msopLen := 1342 }

def rsm3 : RSDecoderConstParam :=
  { rsm1 with msopLen := 1448, laserNum := 28, blocksPerPkt := 5, channelsPerBlock := 28 }

def rsmx : RSDecoderConstParam :=
  { rsm1 with msopLen := 1404, laserNum := 2, blocksPerPkt := 50, channelsPerBlock := 2 }

def rse1 : RSDecoderConstParam :=
  { rsm1 with msopLen := 1200, laserNum := 1, blocksPerPkt := 96, channelsPerBlock := 1 }

def rsemx : RSDecoderConstParam :=
  { rsm1 with msopLen := 812, laserNum := 1, blocksPerPkt := 192, channelsPerBlock := 1 }

def rsm1Jumbo : RSDecoderConstParam := { rsm1 with msopLen := 62152 }

/-- `getConstParam`. -/
def SeqType.constParam : SeqType → RSDecoderConstParam
  | .rsm1 => Rs.rsm1
  | .rsm2 => Rs.rsm2
  | .rsm3 => Rs.rsm3
  | .rsmx => Rs.rsmx
  | .rse1 => Rs.rse1
  | .rsemx => Rs.rsemx
  | .rsm1Jumbo => Rs.rsm1Jumbo

/-- A numbered packet: its bytes, and what distance, angle and time make of a channel,
by the packet in a jumbo, block, channel and return. -/
structure SeqMsopPkt (P : Type) extends SeqPkt where
  channel : ℕ → ℕ → ℕ → ℕ → RSChannel P

/-- The points of a packet, by the loops of `decodeMsopPkt`. -/
def SeqMsopPkt.points (c : RSDecoderConstParam) (param : RSDecoderParam) (returns : ℕ)
    (pkt : SeqMsopPkt P) (inner : ℕ) : List P :=
  (List.range c.blocksPerPkt).flatMap fun blk =>
    (List.range c.channelsPerBlock).flatMap fun chan =>
      (List.range returns).flatMap fun i =>
        DecoderMech.channelPoint param (pkt.channel inner blk chan i)

namespace SeqDecoder

/-- The calls for a numbered packet. -/
def splitCalls (height : ℕ) (points : List P) (seq : UInt16) (s : SeqDecoder) :
    List (CloudCall P) :=
  (if (s.splitPacket seq).2 then [.splitFrame height] else []) ++ points.map .point

/-- The calls of RSM1. -/
def rsm1Calls (height : ℕ) (points : List P) (packet : ℕ → UInt8) (s : SeqDecoder) :
    List (CloudCall P) :=
  let pktSeq := u16At packet 4
  s.splitCalls height points pktSeq ++
    if (s.splitPacket pktSeq).1.splitStrategy.highest = pktSeq then [.splitFrame height] else []

/-- The calls of RSEMX. -/
def rsemxCalls (height : ℕ) (points : List P) (packet : ℕ → UInt8) (s : SeqDecoder) :
    List (CloudCall P) :=
  if 2 ≤ packet 27 then [] else s.splitCalls height points (u16At packet 4 - 1)

/-- The calls for the packets of a jumbo. -/
def innerCalls (height : ℕ) (points : ℕ → List P) (data : ℕ → UInt8) :
    List ℕ → SeqDecoder → List (CloudCall P)
  | [], _ => []
  | i :: is, s =>
    (if hasMsopId (innerPkt data i) then
        s.splitCalls height (points i) (u16At (innerPkt data i) 4) else []) ++
      innerCalls height points data is (s.decodeInner (innerPkt data i)).1

/-- The calls of RSM1_Jumbo. -/
def jumboCalls (height : ℕ) (points : ℕ → List P) (pkt : SeqPkt) (s : SeqDecoder) :
    List (CloudCall P) :=
  if pkt.size ≠ 62152 then [] else innerCalls height points pkt.data (List.range 63) s

end SeqDecoder

/-- The returns of a channel: RSMX has two in the mode for them. -/
def SeqType.returns : SeqType → SeqPkt → ℕ
  | .rsmx, pkt => if pkt.data 8 = 0 then 2 else 1
  | _, _ => 1

open SeqDecoder in
/-- The calls of `decodeMsopPkt`. -/
def SeqType.msopCalls (t : SeqType) (param : RSDecoderParam) (pkt : SeqMsopPkt P)
    (s : SeqDecoder) : List (CloudCall P) :=
  let height := t.constParam.laserNum
  let points := pkt.points t.constParam param (t.returns pkt.toSeqPkt)
  match t with
  | .rsm1 => s.rsm1Calls height (points 0) pkt.data
  | .rsemx => s.rsemxCalls height (points 0) pkt.data
  | .rsm1Jumbo => s.jumboCalls height points pkt.toSeqPkt
  | _ => s.splitCalls height (points 0) (u16At pkt.data 4)

/-! ### The driver -/

/-- `Decoder`: what the driver calls. -/
structure Decoder (P : Type) where
  State : Type
  Pkt : Type
  Difop : Type
  checkMsopPkt : Pkt → State → Bool
  decodeMsopPkt : Pkt → State → State × List (CloudCall P)
  decodeDifopPkt : Difop → State → State

/-- A mechanical decoder. -/
def MechType.decoder (t : MechType) (param : RSDecoderParam) : Decoder P where
  State := DecoderMech P
  Pkt := MsopPkt P t.constParam
  Difop := DifopSetting
  checkMsopPkt := Rs.checkMsopPkt t param
  decodeMsopPkt pkt s :=
    ((Rs.decodeMsopPkt t param pkt s).1.withoutClouds, t.msopCalls param pkt s)
  decodeDifopPkt setting s := { s with setting := setting }

/-- A numbered decoder; a DIFOP packet may bring the angles. -/
def SeqType.decoder (t : SeqType) (param : RSDecoderParam) : Decoder P where
  State := SeqDecoder × Bool
  Pkt := SeqMsopPkt P
  Difop := Bool
  checkMsopPkt pkt s :=
    if param.waitForDifop && !s.2 then false
    else if pkt.size ≠ t.constParam.msopLen then false
    else (List.range 4).map pkt.data == t.constParam.msopId
  decodeMsopPkt pkt s :=
    (((t.decodeMsopPkt pkt.toSeqPkt s.1).1, s.2), t.msopCalls param pkt s.1)
  decodeDifopPkt anglesReady s := (s.1, anglesReady)

/-- The lidars, by `DecoderFactory`. -/
inductive LidarType
  | mech (t : MechType)
  | seq (t : SeqType)

def LidarType.decoder : LidarType → RSDecoderParam → Decoder P
  | .mech t, param => t.decoder param
  | .seq t, param => t.decoder param

/-- `LidarDriverImpl` with its decoder. -/
structure LidarDriver (D : Decoder P) where
  decoder : D.State
  cloud : DriverCloud P

/-- An MSOP packet, or what a DIFOP packet sets. -/
inductive LidarEvent (D : Decoder P)
  | msop (pkt : D.Pkt)
  | difop (setting : D.Difop)

namespace LidarDriver

variable {D : Decoder P}

/-- The calls that a packet leads to. -/
def msopCalls (pkt : D.Pkt) (s : LidarDriver D) : List (CloudCall P) :=
  if D.checkMsopPkt pkt s.decoder then (D.decodeMsopPkt pkt s.decoder).2 else []

/-- `processMsopPkt`. -/
def processMsopPkt (param : RSDecoderParam) (pkt : D.Pkt) (s : LidarDriver D) : LidarDriver D :=
  let cloud := s.cloud.clearOver
  if D.checkMsopPkt pkt s.decoder then
    let r := D.decodeMsopPkt pkt s.decoder
    ⟨r.1, cloud.calls param r.2⟩
  else { s with cloud := cloud }

def step (param : RSDecoderParam) (s : LidarDriver D) : LidarEvent D → Option (LidarDriver D)
  | .msop pkt => some (s.processMsopPkt param pkt)
  | .difop setting => some { s with decoder := D.decodeDifopPkt setting s.decoder }

end LidarDriver

/-! ### The calls make the clouds of the decoders -/

section Shows

variable {param : RSDecoderParam} {height : ℕ}

theorem calls_append (d : DriverCloud P) (cs cs' : List (CloudCall P)) :
    d.calls param (cs ++ cs') = (d.calls param cs).calls param cs' := List.foldl_append

theorem calls_points (d : DriverCloud P) (points : List P) :
    d.calls param (points.map .point) = { d with pointCloud := d.pointCloud ++ points } := by
  induction points generalizing d with
  | nil =>
    rw [List.append_nil]
    rfl
  | cons p points ih =>
    have hcons : d.calls param ((p :: points).map .point) =
        (d.call param (.point p)).calls param (points.map .point) := rfl
    rw [hcons, ih]
    simp [DriverCloud.call]

/-- The clouds of the driver are those of the decoder, and numbered. -/
structure Shows (d : DriverCloud P) (s : DecoderMech P) : Prop where
  pointCloud : d.pointCloud = s.pointCloud
  putClouds : d.putClouds.map (·.toPointCloud) = s.putClouds

variable {d : DriverCloud P} {s : DecoderMech P}

theorem splitFrame_shows (param : RSDecoderParam) (height : ℕ) (h : Shows d s) :
    Shows (d.splitFrame param height) (s.splitFrame param height) := by
  unfold DriverCloud.splitFrame DecoderMech.splitFrame
  rw [h.pointCloud]
  split
  · refine ⟨rfl, ?_⟩
    rw [List.map_append, h.putClouds]
    rfl
  · exact h

theorem blockCalls_shows (h : Shows d s) (block : MsopBlock P) :
    Shows (d.calls param (s.blockCalls param height block)) (s.decodeBlock param height block).1 := by
  unfold DecoderMech.blockCalls DecoderMech.decodeBlock
  rw [calls_append, calls_points]
  cases hsplit : (s.splitStrategy.newBlock (s.deref param) block.az).2 with
  | true =>
    have hs : Shows d { s with
        splitStrategy := (s.splitStrategy.newBlock (s.deref param) block.az).1 } :=
      ⟨h.pointCloud, h.putClouds⟩
    obtain ⟨hcloud, hput⟩ := splitFrame_shows param height hs
    simp only [hsplit, if_true]
    exact ⟨congrArg (· ++ _) hcloud, hput⟩
  | false =>
    simp only [hsplit, Bool.false_eq_true, if_false]
    exact ⟨congrArg (· ++ _) h.pointCloud, h.putClouds⟩

theorem blocksCalls_shows {c : RSDecoderConstParam} {idLen : ℕ} (blocks : List (MsopBlock P))
    (h : Shows d s) :
    Shows (d.calls param (s.blocksCalls c idLen param height blocks))
      (s.decodeBlocks c idLen param height blocks).1 := by
  induction blocks generalizing d s with
  | nil => exact h
  | cons block blocks ih =>
    unfold DecoderMech.blocksCalls
    cases hid : block.hasId c idLen with
    | true =>
      rw [if_pos rfl, calls_append, decodeBlocks_right hid]
      exact ih (blockCalls_shows h block)
    | false =>
      rw [decodeBlocks_wrong hid]
      exact h

theorem initModel_shows (h : Shows d s) {c : RSDecoderConstParam}
    (getLidarModel : UInt8 → LidarModel × ℕ) (initialized : LidarModel → DifopSetting → Bool)
    (pkt : MsopPkt P c) : Shows d (s.initModel getLidarModel initialized pkt) := by
  unfold DecoderMech.initModel
  split
  · exact h
  · exact ⟨h.pointCloud, h.putClouds⟩

theorem byModelCalls_shows (h : Shows d s) {c : RSDecoderConstParam}
    (getLidarModel : UInt8 → LidarModel × ℕ) (initialized : LidarModel → DifopSetting → Bool)
    (pkt : MsopPkt P c) :
    Shows (d.calls param (s.byModelCalls c getLidarModel initialized param pkt))
      (s.decodeByModel c getLidarModel initialized param pkt).1 := by
  have hinit := initModel_shows h getLidarModel initialized pkt
  unfold DecoderMech.byModelCalls DecoderMech.decodeByModel
  split
  · exact h
  · dsimp only
    split
    · exact hinit
    · exact blocksCalls_shows pkt.blocks hinit

/-- **The calls for a packet make the clouds of `decodeMsopPkt`.** -/
theorem msopCalls_shows (h : Shows d s) (t : MechType) (pkt : MsopPkt P t.constParam) :
    Shows (d.calls param (t.msopCalls param pkt s)) (decodeMsopPkt t param pkt s).1 := by
  cases t with
  | rsairy => exact byModelCalls_shows h _ _ pkt
  | rsfairy => exact byModelCalls_shows h _ _ pkt
  | _ => exact blocksCalls_shows pkt.blocks h

end Shows

section Splits

variable {height : ℕ}

/-- How often a list of calls splits the frame. -/
def splitCount (cs : List (CloudCall P)) : ℕ :=
  cs.countP fun
    | .point _ => false
    | .splitFrame _ => true

theorem splitCount_append (cs cs' : List (CloudCall P)) :
    splitCount (cs ++ cs') = splitCount cs + splitCount cs' := List.countP_append

theorem splitCount_points (points : List P) :
    splitCount (points.map CloudCall.point) = 0 := by
  unfold splitCount
  rw [List.countP_eq_zero]
  intro call hcall
  obtain ⟨p, -, rfl⟩ := List.mem_map.mp hcall
  exact Bool.false_ne_true

theorem splitCalls_splits (height : ℕ) (points : List P) (seq : UInt16) (s : SeqDecoder) :
    (s.splitPacket seq).1.splitFrames =
      s.splitFrames + splitCount (s.splitCalls height points seq) := by
  unfold SeqDecoder.splitCalls
  rw [splitCount_append, splitCount_points, Nat.add_zero]
  unfold SeqDecoder.splitPacket
  dsimp only
  split <;> rfl

theorem innerCalls_splits (points : ℕ → List P) (data : ℕ → UInt8) (is : List ℕ)
    (s : SeqDecoder) :
    (Detector.feed (fun s i => s.decodeInner (SeqDecoder.innerPkt data i)) is s).1.splitFrames =
      s.splitFrames + splitCount (SeqDecoder.innerCalls height points data is s) := by
  induction is generalizing s with
  | nil => rfl
  | cons i is ih =>
    unfold SeqDecoder.innerCalls
    rw [Detector.feed_cons, ih, splitCount_append, ← Nat.add_assoc]
    congr 1
    unfold SeqDecoder.decodeInner
    split
    · exact splitCalls_splits _ (points i) _ s
    · rfl

/-- **The calls for a packet split the frame as often as `decodeMsopPkt`.** -/
theorem seqCalls_splits (t : SeqType) (param : RSDecoderParam) (pkt : SeqMsopPkt P)
    (s : SeqDecoder) :
    (t.decodeMsopPkt pkt.toSeqPkt s).1.splitFrames =
      s.splitFrames + splitCount (t.msopCalls param pkt s) := by
  cases t with
  | rsm1 =>
    have hsplit := splitCalls_splits rsm1.laserNum (pkt.points rsm1 param 1 0) (u16At pkt.data 4) s
    change (s.decodeRsm1 pkt.data).1.splitFrames =
      s.splitFrames + splitCount (s.rsm1Calls rsm1.laserNum (pkt.points rsm1 param 1 0) pkt.data)
    unfold SeqDecoder.decodeRsm1 SeqDecoder.rsm1Calls
    dsimp only
    rw [splitCount_append, ← Nat.add_assoc, ← hsplit]
    split <;> rfl
  | rsemx =>
    change (s.decodeRsemx pkt.data).1.splitFrames =
      s.splitFrames + splitCount (s.rsemxCalls rsemx.laserNum (pkt.points rsemx param 1 0) pkt.data)
    unfold SeqDecoder.decodeRsemx SeqDecoder.rsemxCalls
    dsimp only
    split
    · rfl
    · exact splitCalls_splits _ _ _ s
  | rsm1Jumbo =>
    change (s.decodeJumbo pkt.toSeqPkt).1.splitFrames = s.splitFrames +
      splitCount (s.jumboCalls rsm1Jumbo.laserNum (pkt.points rsm1Jumbo param 1) pkt.toSeqPkt)
    unfold SeqDecoder.decodeJumbo SeqDecoder.jumboCalls
    split
    · rfl
    · exact innerCalls_splits _ _ _ s
  | _ => exact splitCalls_splits _ _ _ s

end Splits

/-! ### The clouds of a run -/

/-- The driver's clouds are batches of points. -/
def CloudCall.op : CloudCall P → BatchOp P
  | .point p => .add p
  | .splitFrame _ => .cut

/-- The points that a list of calls adds. -/
def produced (cs : List (CloudCall P)) : List P := BatchOp.added (cs.map CloudCall.op)

theorem produced_append (cs cs' : List (CloudCall P)) :
    produced (cs ++ cs') = produced cs ++ produced cs' := by
  unfold produced
  rw [List.map_append, BatchOp.added_append]

theorem produced_points (points : List P) : produced (points.map .point) = points := by
  unfold produced
  rw [List.map_map]
  exact BatchOp.added_map points

theorem blockCalls_produced (param : RSDecoderParam) (height : ℕ) (block : MsopBlock P)
    (s : DecoderMech P) : produced (s.blockCalls param height block) =
      block.channels.flatMap (DecoderMech.channelPoint param) := by
  unfold DecoderMech.blockCalls
  rw [produced_append, produced_points]
  split <;> rfl

/-- Where frames end does not matter for the points of a packet. -/
theorem blocksCalls_produced (c : RSDecoderConstParam) (idLen : ℕ) (param : RSDecoderParam)
    (height : ℕ) (blocks : List (MsopBlock P)) (s : DecoderMech P) :
    produced (s.blocksCalls c idLen param height blocks) =
      (blocks.takeWhile (·.hasId c idLen)).flatMap fun block =>
        block.channels.flatMap (DecoderMech.channelPoint param) := by
  induction blocks generalizing s with
  | nil => rfl
  | cons block blocks ih =>
    unfold DecoderMech.blocksCalls
    cases hid : block.hasId c idLen with
    | true =>
      rw [if_pos rfl, produced_append, blockCalls_produced, ih,
        List.takeWhile_cons_of_pos (p := fun b : MsopBlock P => b.hasId c idLen) hid,
        List.flatMap_cons]
    | false =>
      rw [List.takeWhile_cons_of_neg (by rw [hid]; decide)]
      rfl

def DriverCloud.batches (d : DriverCloud P) : Batches P :=
  ⟨d.putClouds.map (·.points), d.pointCloud⟩

section Partition

variable {D : Decoder P} {param : RSDecoderParam} {d : DriverCloud P} {s s' : LidarDriver D}

theorem setPointCloudHeader_points (height : ℕ) (points : List P) :
    (DecoderMech.setPointCloudHeader param height points).points = points := by
  unfold DecoderMech.setPointCloudHeader
  split <;> rfl

theorem call_batches (param : RSDecoderParam) (d : DriverCloud P) (c : CloudCall P) :
    (d.call param c).batches = d.batches.apply c.op := by
  cases c with
  | point p => rfl
  | splitFrame height =>
    change (d.splitFrame param height).batches =
      if 0 < d.pointCloud.length then ⟨d.batches.done ++ [d.pointCloud], []⟩ else d.batches
    unfold DriverCloud.splitFrame
    split
    · simp [DriverCloud.batches, setPointCloudHeader_points]
    · rfl

/-- The calls of a packet are operations on the batches. -/
theorem calls_batches (d : DriverCloud P) (cs : List (CloudCall P)) :
    (d.calls param cs).batches = d.batches.run (cs.map CloudCall.op) := by
  induction cs generalizing d with
  | nil => rfl
  | cons c cs ih =>
    rw [List.map_cons, Batches.run_cons, ← call_batches param d]
    exact ih (d.call param c)

/-- The clouds are numbered one by one. -/
structure Numbered (d : DriverCloud P) : Prop where
  next : d.pointCloudSeq = UInt32.ofNat d.putClouds.length
  put : d.putClouds.map (·.seq) = (List.range d.putClouds.length).map UInt32.ofNat

theorem call_numbered (h : Numbered d) (c : CloudCall P) : Numbered (d.call param c) := by
  cases c with
  | point p => exact ⟨h.next, h.put⟩
  | splitFrame height =>
    change Numbered (d.splitFrame param height)
    unfold DriverCloud.splitFrame
    split
    · refine ⟨?_, ?_⟩
      · change d.pointCloudSeq + 1 = UInt32.ofNat (d.putClouds ++ [_]).length
        rw [h.next, List.length_append, List.length_singleton, UInt32.ofNat_add]
        rfl
      · dsimp only
        rw [List.map_append, h.put, List.length_append, List.length_singleton, List.range_succ,
          List.map_append, List.map_singleton, List.map_singleton, h.next]
    · exact h

theorem calls_numbered (h : Numbered d) (cs : List (CloudCall P)) :
    Numbered (d.calls param cs) := by
  induction cs generalizing d with
  | nil => exact h
  | cons c cs ih => exact ih (call_numbered h c)

/-- The points that the decoder produced in a step. -/
def LidarDriver.stepPoints : LidarDriver D × LidarEvent D → List P
  | (s, .msop pkt) => produced (s.msopCalls pkt)
  | (_, .difop _) => []

/-- The clouds behind a packet are those of its calls. -/
theorem processMsopPkt_cloud (pkt : D.Pkt) :
    (s.processMsopPkt param pkt).cloud = s.cloud.clearOver.calls param (s.msopCalls pkt) := by
  unfold LidarDriver.processMsopPkt LidarDriver.msopCalls
  dsimp only
  split <;> rfl

/-- A cloud within its limit is not cleared. -/
theorem clearOver_eq (h : d.pointCloud.length ≤ 5000000) : d.clearOver = d :=
  if_neg (Nat.not_lt.mpr h)

/-- What a run keeps: the points in their order, no empty cloud, and the numbers. -/
structure Partitions (points : List P) (d : DriverCloud P) : Prop where
  stream : d.batches.stream = points
  nonempty : ∀ batch ∈ d.batches.done, batch ≠ []
  numbered : Numbered d

theorem step_partitions {points : List P} {e : LidarEvent D} (h : Partitions points s.cloud)
    (hlimit : s.cloud.pointCloud.length ≤ 5000000) (hstep : s.step param e = some s') :
    Partitions (points ++ LidarDriver.stepPoints (s, e)) s'.cloud := by
  cases e with
  | msop pkt =>
    cases hstep
    rw [processMsopPkt_cloud, clearOver_eq hlimit]
    refine ⟨?_, ?_, calls_numbered h.numbered _⟩
    · rw [calls_batches, Batches.run_stream, h.stream]
      rfl
    · rw [calls_batches]
      exact Batches.run_nonempty h.nonempty _
  | difop setting =>
    cases hstep
    change Partitions (points ++ []) s.cloud
    rw [List.append_nil]
    exact h

theorem run_partitions {decoder : D.State} {tr : List (LidarDriver D × LidarEvent D)}
    (h : Run (LidarDriver.step param) (fun s _ => s.cloud.pointCloud.length ≤ 5000000)
      ⟨decoder, .init⟩ tr s) :
    Partitions (tr.flatMap LidarDriver.stepPoints) s.cloud := by
  apply h.invariant
  · exact ⟨rfl, fun _ hnone => (nomatch hnone), ⟨rfl, rfl⟩⟩
  · intro tr s e s' hinv hlimit hstep
    rw [List.flatMap_append, List.flatMap_singleton]
    exact step_partitions hinv hlimit hstep

end Partition

/-- **The clouds partition the points.** Whatever the lidar, the mode of splitting and
the packets: the points of the published clouds and then those of the current one are
the points that the decoder produced, in their order; no published cloud is empty, and
their numbers count up from 0. -/
theorem clouds_partition (t : LidarType) (param : RSDecoderParam)
    {decoder : (LidarType.decoder (P := P) t param).State}
    {tr : List (LidarDriver (t.decoder param) × LidarEvent (P := P) (t.decoder param))}
    {s : LidarDriver (P := P) (t.decoder param)}
    (h : Run (LidarDriver.step param) (fun s _ => s.cloud.pointCloud.length ≤ 5000000)
      ⟨decoder, .init⟩ tr s) :
    s.cloud.putClouds.flatMap (·.points) ++ s.cloud.pointCloud =
        tr.flatMap LidarDriver.stepPoints ∧
      (∀ cloud ∈ s.cloud.putClouds, cloud.points ≠ []) ∧
      s.cloud.putClouds.map (·.seq) =
        (List.range s.cloud.putClouds.length).map UInt32.ofNat := by
  obtain ⟨hstream, hnonempty, hnumbered⟩ := run_partitions h
  refine ⟨hstream, ?_, hnumbered.put⟩
  intro cloud hcloud
  exact hnonempty cloud.points (List.mem_map_of_mem hcloud)

/-- Frames of five blocks. -/
def fiveBlksParam : RSDecoderParam := ⟨false, false, .splitByCustomBlks, 0, 5⟩

/-- A lidar before its first DIFOP packet. -/
def noAngles : DifopSetting := ⟨900, 900, false, false, 0⟩

/-- A packet of RS16 whose points are numbered. -/
def numberedRs16Pkt : MsopPkt ℕ rs16 where
  size := 1248
  id := rs16.msopId
  dataType0 := 0
  dataType1 := 0
  lidarMode := 0
  blocks := (List.range 12).map fun i =>
    ⟨rs16.blockId, 0, (List.range 32).map fun chan => ⟨some (32 * i + chan), 0⟩⟩
  blocks_length := List.length_map _
  channels_length := by
    intro block hblock
    obtain ⟨i, -, rfl⟩ := List.mem_map.mp hblock
    exact List.length_map _

/-- Two frames end inside a packet. -/
theorem clouds_partition_rs16 :
    ∃ (tr : List (LidarDriver ((LidarType.mech .rs16).decoder fiveBlksParam) ×
          LidarEvent (P := ℕ) ((LidarType.mech .rs16).decoder fiveBlksParam)))
      (s : LidarDriver (P := ℕ) ((LidarType.mech .rs16).decoder fiveBlksParam)),
      Run (LidarDriver.step fiveBlksParam) (fun s _ => s.cloud.pointCloud.length ≤ 5000000)
        ⟨DecoderMech.init fiveBlksParam noAngles, .init⟩ tr s ∧
      (s.cloud.putClouds.map (fun cloud => cloud.points.length) = [128, 160] ∧
        s.cloud.pointCloud.length = 96) ∧
      s.cloud.putClouds.flatMap (·.points) ++ s.cloud.pointCloud =
          tr.flatMap LidarDriver.stepPoints ∧
        (∀ cloud ∈ s.cloud.putClouds, cloud.points ≠ []) ∧
        s.cloud.putClouds.map (·.seq) =
          (List.range s.cloud.putClouds.length).map UInt32.ofNat := by
  have hend : (exec (fun (s : LidarDriver (P := ℕ) (MechType.rs16.decoder fiveBlksParam)) e =>
      if decide (s.cloud.pointCloud.length ≤ 5000000) then
        LidarDriver.step fiveBlksParam s e else none)
      ⟨DecoderMech.init fiveBlksParam noAngles, .init⟩ [.msop numberedRs16Pkt]).map
      (fun s => decide (s.cloud.putClouds.map (fun cloud => cloud.points.length) = [128, 160] ∧
        s.cloud.pointCloud.length = 96)) = some true := by
    decide +kernel
  obtain ⟨s, hs, hstate⟩ := Option.map_eq_some_iff.mp hend
  obtain ⟨tr, -, hrun⟩ := Run.of_exec_test (fun _ _ => of_decide_eq_true) hs
  exact ⟨tr, s, hrun, of_decide_eq_true hstate,
    clouds_partition (.mech .rs16) fiveBlksParam hrun⟩

end Rs
end SensorSupport
