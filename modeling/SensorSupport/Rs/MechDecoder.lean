/-
# Mechanical decoders (`rs_driver/driver/decoder/decoder_mech.hpp`, `decoder_RS*.hpp`)

An MSOP packet is a row of blocks, each with an id, an azimuth and a row of
channels. `decodeMsopPkt` goes through the blocks up to one with a wrong id: the
splitter may end the frame at a block, then each channel adds its point to the
cloud. `isNewFrame` goes through them with a splitter of its own and stops where a
frame ends. The decoders differ in the layout of their packets, in how much of the
id they compare, and RSAIRY and RSFAIRY in that the packet says how many channels
the lidar has.

What distance, angle and time make of a channel is not modelled: a channel is the
point of its measurement, if it is in the sections, and the point with NAN.

Key definitions: `DecoderMech`, `decodeMsopPkt`, `isNewFrame`, `splitFrame`, `processMsopPkt`.
Key theorems: `decodeBlocks_eq`, `isNewFrameBlocks_eq`.
-/
import Mathlib.Algebra.Group.Nat.Defs
import SensorSupport.Rs.SplitStrategy

namespace SensorSupport
namespace Rs

open Detector

variable {P : Type}

/-! ### Packets -/

/-- `RSDecoderConstParam`: the ids of a packet and its layout. -/
structure RSDecoderConstParam where
  msopLen : ℕ
  msopId : List UInt8
  blockId : List UInt8
  laserNum : ℕ
  blocksPerPkt : ℕ
  channelsPerBlock : ℕ

/-- A channel: the point of its measurement, if distance and angle are in their
sections, and its point with NAN. -/
structure RSChannel (P : Type) where
  measured : Option P
  blank : P

/-- A block; `azimuth` is in host byte order. -/
structure MsopBlock (P : Type) where
  id : List UInt8
  azimuth : UInt16
  channels : List (RSChannel P)

/-- An MSOP packet. RSAIRY and RSFAIRY have `data_type` and `lidar_mode` in their
header. -/
structure MsopPkt (P : Type) (c : RSDecoderConstParam) where
  size : ℕ
  id : List UInt8
  dataType0 : UInt8
  dataType1 : UInt8
  lidarMode : UInt8
  blocks : List (MsopBlock P)
  blocks_length : blocks.length = c.blocksPerPkt
  channels_length : ∀ block ∈ blocks, block.channels.length = c.channelsPerBlock

/-- Do the first bytes of the id of a block agree with `BLOCK_ID`? -/
def MsopBlock.hasId (c : RSDecoderConstParam) (idLen : ℕ) (block : MsopBlock P) : Bool :=
  block.id.take idLen == c.blockId.take idLen

/-- The azimuth as `int32_t`. -/
def MsopBlock.az (block : MsopBlock P) : ℤ := block.azimuth.toNat

/-- The azimuths of the blocks up to the first one with a wrong id. -/
def accepted (c : RSDecoderConstParam) (idLen : ℕ) (blocks : List (MsopBlock P)) : List ℤ :=
  (blocks.takeWhile (·.hasId c idLen)).map MsopBlock.az

/-! ### The decoder -/

/-- `SplitFrameMode`. -/
inductive SplitFrameMode
  | splitByAngle
  | splitByFixedBlks
  | splitByCustomBlks
deriving DecidableEq

/-- `RSDecoderParam`; `splitAngle` is `(uint16_t)(split_angle * 100)`. -/
structure RSDecoderParam where
  densePoints : Bool
  waitForDifop : Bool
  splitFrameMode : SplitFrameMode
  splitAngle : UInt16
  numBlksSplit : UInt16

/-- How many channels an RSAIRY or RSFAIRY has. -/
inductive LidarModel
  | channel48
  | channel96
  | channel192
deriving DecidableEq

/-- The members that the constructor computes and DIFOP packets set. -/
structure DifopSetting where
  blksPerFrame : UInt16
  splitBlksPerFrame : UInt16
  anglesReady : Bool
  loadedInstallInfo : Bool
  installMode : UInt8

/-- A point cloud message. -/
structure PointCloud (P : Type) where
  points : List P
  height : ℕ
  width : ℕ
  isDense : Bool

/-- `DecoderMech`, with the clouds that its driver handed to `cb_put_cloud_`. -/
structure DecoderMech (P : Type) where
  splitStrategy : SplitStrategy
  preSplitStrategy : SplitStrategy
  setting : DifopSetting
  lidarModel : LidarModel
  channelNum : ℕ
  bInit : Bool
  pointCloud : List P
  putClouds : List (PointCloud P)

/-- The splitter that the constructor makes, twice. -/
def RSDecoderParam.makeStrategy (param : RSDecoderParam) : SplitStrategy :=
  match param.splitFrameMode with
  | .splitByFixedBlks => .byNum ⟨.splitBlksPerFrame, 0⟩
  | .splitByCustomBlks => .byNum ⟨.numBlksSplit, 0⟩
  | .splitByAngle => .byAngle ⟨param.splitAngle.toNat, param.splitAngle.toNat⟩

/-- The constructor. -/
def DecoderMech.init (param : RSDecoderParam) (setting : DifopSetting) : DecoderMech P where
  splitStrategy := param.makeStrategy
  preSplitStrategy := param.makeStrategy
  setting := setting
  lidarModel := .channel96
  channelNum := 96
  bInit := false
  pointCloud := []
  putClouds := []

namespace DecoderMech

/-- The numbers of blocks that the splitters point to. -/
def deref (param : RSDecoderParam) (s : DecoderMech P) : MaxBlks → UInt16
  | .splitBlksPerFrame => s.setting.splitBlksPerFrame
  | .numBlksSplit => param.numBlksSplit

/-- `setPointCloudHeader`. -/
def setPointCloudHeader (param : RSDecoderParam) (height : ℕ) (points : List P) : PointCloud P :=
  if param.densePoints then ⟨points, 1, points.length % 2 ^ 32, true⟩
  else ⟨points, height, points.length % 2 ^ 32 / height, false⟩

/-- `splitFrame`: a cloud that has points is put, and a cleared one takes its place. -/
def splitFrame (param : RSDecoderParam) (height : ℕ) (s : DecoderMech P) : DecoderMech P :=
  if 0 < s.pointCloud.length then
    { s with
      putClouds := s.putClouds ++ [setPointCloudHeader param height s.pointCloud], pointCloud := [] }
  else s

/-- The point that a channel adds to the cloud. -/
def channelPoint (param : RSDecoderParam) (channel : RSChannel P) : List P :=
  match channel.measured with
  | some point => [point]
  | none => if param.densePoints then [] else [channel.blank]

/-- A block whose id is right. -/
def decodeBlock (param : RSDecoderParam) (height : ℕ) (block : MsopBlock P) (s : DecoderMech P) :
    DecoderMech P × Bool :=
  let r := s.splitStrategy.newBlock (s.deref param) block.az
  let s := { s with splitStrategy := r.1 }
  let s := if r.2 then s.splitFrame param height else s
  let points := block.channels.flatMap (channelPoint param)
  ({ s with pointCloud := s.pointCloud ++ points }, r.2)

/-- The loop of `internDecodeMsopPkt` over the blocks. -/
def decodeBlocks (c : RSDecoderConstParam) (idLen : ℕ) (param : RSDecoderParam) (height : ℕ) :
    List (MsopBlock P) → DecoderMech P → DecoderMech P × Bool
  | [], s => (s, false)
  | block :: blocks, s =>
    if block.hasId c idLen then
      let r := s.decodeBlock param height block
      let rest := decodeBlocks c idLen param height blocks r.1
      (rest.1, r.2 || rest.2)
    else (s, false)

/-- The loop of `isNewFrame` over the blocks. -/
def isNewFrameBlocks (c : RSDecoderConstParam) (idLen : ℕ) (deref : MaxBlks → UInt16) :
    List (MsopBlock P) → SplitStrategy → SplitStrategy × Bool
  | [], strategy => (strategy, false)
  | block :: blocks, strategy =>
    if block.hasId c idLen then
      let r := strategy.newBlock deref block.az
      if r.2 then (r.1, true) else isNewFrameBlocks c idLen deref blocks r.1
    else (strategy, false)

/-- `decodeMsopPkt` of the decoders that know their channels. -/
def decodeFixed (c : RSDecoderConstParam) (idLen height : ℕ) (param : RSDecoderParam)
    (pkt : MsopPkt P c) (s : DecoderMech P) : DecoderMech P × Bool :=
  s.decodeBlocks c idLen param height pkt.blocks

/-- `isNewFrame` of the decoders that know their channels. -/
def isNewFrameFixed (c : RSDecoderConstParam) (idLen : ℕ) (param : RSDecoderParam)
    (pkt : MsopPkt P c) (s : DecoderMech P) : DecoderMech P × Bool :=
  let r := isNewFrameBlocks c idLen (s.deref param) pkt.blocks s.preSplitStrategy
  ({ s with preSplitStrategy := r.1 }, r.2)

/-- What RSAIRY and RSFAIRY read from a packet until they are initialized. -/
def initModel {c : RSDecoderConstParam} (getLidarModel : UInt8 → LidarModel × ℕ)
    (initialized : LidarModel → DifopSetting → Bool) (pkt : MsopPkt P c) (s : DecoderMech P) :
    DecoderMech P :=
  if s.bInit then s
  else
    let splitBlksPerFrame :=
      if pkt.dataType1 = 0x03 then s.setting.blksPerFrame <<< 1 else s.setting.blksPerFrame
    let model := getLidarModel pkt.lidarMode
    { s with
      setting := { s.setting with splitBlksPerFrame := splitBlksPerFrame }
      lidarModel := model.1
      channelNum := model.2
      bInit := initialized model.1 s.setting }

/-- `decodeMsopPkt` of RSAIRY and RSFAIRY. -/
def decodeByModel (c : RSDecoderConstParam) (getLidarModel : UInt8 → LidarModel × ℕ)
    (initialized : LidarModel → DifopSetting → Bool) (param : RSDecoderParam) (pkt : MsopPkt P c)
    (s : DecoderMech P) : DecoderMech P × Bool :=
  if pkt.dataType0 ≠ 0 then (s, false)
  else
    let s := s.initModel getLidarModel initialized pkt
    if s.lidarModel = .channel192 then (s, false)
    else s.decodeBlocks c 2 param s.channelNum pkt.blocks

/-- `isNewFrame` of RSAIRY and RSFAIRY. -/
def isNewFrameByModel (c : RSDecoderConstParam) (param : RSDecoderParam) (pkt : MsopPkt P c)
    (s : DecoderMech P) : DecoderMech P × Bool :=
  if 0 < pkt.dataType0 then (s, false) else s.isNewFrameFixed c 1 param pkt

end DecoderMech

/-! ### The decoders -/

def rs16 : RSDecoderConstParam where
  msopLen := 1248
  msopId := [0x55, 0xAA, 0x05, 0x0A, 0x5A, 0xA5, 0x50, 0xA0]
  blockId := [0xFF, 0xEE]
  laserNum := 16
  blocksPerPkt := 12
  channelsPerBlock := 32

def rs32 : RSDecoderConstParam := { rs16 with laserNum := 32 }

def rsbp : RSDecoderConstParam := { rs16 with laserNum := 32 }

def rshelios : RSDecoderConstParam := { rs16 with msopId := [0x55, 0xAA, 0x05, 0x5A], laserNum := 32 }

def rshelios16p : RSDecoderConstParam := { rshelios with laserNum := 16 }

def rs48 : RSDecoderConstParam where
  msopLen := 1268
  msopId := [0x55, 0xAA, 0x05, 0x5A]
  blockId := [0xFE, 0x00]
  laserNum := 48
  blocksPerPkt := 8
  channelsPerBlock := 48

def rsp48 : RSDecoderConstParam := rs48

def rs80 : RSDecoderConstParam :=
  { rs48 with msopLen := 1248, laserNum := 80, blocksPerPkt := 4, channelsPerBlock := 80 }

def rsp80 : RSDecoderConstParam := rs80

def rs128 : RSDecoderConstParam :=
  { rs48 with msopLen := 1248, laserNum := 128, blocksPerPkt := 3, channelsPerBlock := 128 }

def rsp128 : RSDecoderConstParam := rs128

def rsairy : RSDecoderConstParam where
  msopLen := 1248
  msopId := [0x55, 0xAA, 0x05, 0x5A]
  blockId := [0xFF, 0xEE]
  laserNum := 96
  blocksPerPkt := 8
  channelsPerBlock := 48

def rsfairy : RSDecoderConstParam := rsairy

def rsairyliteEth : RSDecoderConstParam where
  msopLen := 1280
  msopId := [0x5A, 0xFF, 0x55, 0xAA]
  blockId := [0xFF, 0xEE]
  laserNum := 24
  blocksPerPkt := 16
  channelsPerBlock := 24

/-- `getLidarModel` of RSAIRY, with `u16ChannelNum_`. -/
def getRsairyModel (mode : UInt8) : LidarModel × ℕ :=
  if mode = 0x01 then (.channel48, 48)
  else if mode = 0x02 then (.channel96, 96)
  else if mode = 0x03 then (.channel192, 192)
  else (.channel96, 96)

/-- `bInit_` of RSAIRY behind a packet: with 96 channels it waits for the
installation in a DIFOP packet. -/
def rsairyInitialized : LidarModel → DifopSetting → Bool
  | .channel48, _ => true
  | .channel96, setting => setting.loadedInstallInfo &&
      (setting.installMode == 0x1 || setting.installMode == 0x0 || setting.installMode == 0x2)
  | .channel192, _ => false

/-- `getLidarModel` of RSFAIRY, with `u16ChannelNum_`. -/
def getRsfairyModel (mode : UInt8) : LidarModel × ℕ :=
  if mode = 0x01 then (.channel48, 48)
  else if mode = 0x02 then (.channel96, 96)
  else (.channel96, 96)

/-- `bInit_` of RSFAIRY behind a packet. -/
def rsfairyInitialized : LidarModel → DifopSetting → Bool := fun _ _ => true

/-- The mechanical lidars. -/
inductive MechType
  | rs16
  | rs32
  | rsbp
  | rshelios
  | rshelios16p
  | rs48
  | rs80
  | rs128
  | rsp48
  | rsp80
  | rsp128
  | rsairy
  | rsfairy
  | rsairyliteEth

/-- `getConstParam`. -/
def MechType.constParam : MechType → RSDecoderConstParam
  | .rs16 => Rs.rs16
  | .rs32 => Rs.rs32
  | .rsbp => Rs.rsbp
  | .rshelios => Rs.rshelios
  | .rshelios16p => Rs.rshelios16p
  | .rs48 => Rs.rs48
  | .rs80 => Rs.rs80
  | .rs128 => Rs.rs128
  | .rsp48 => Rs.rsp48
  | .rsp80 => Rs.rsp80
  | .rsp128 => Rs.rsp128
  | .rsairy => Rs.rsairy
  | .rsfairy => Rs.rsfairy
  | .rsairyliteEth => Rs.rsairyliteEth

open DecoderMech in
/-- `decodeMsopPkt`: RS48 and those below compare one byte of the block id, and the
blocks of RSAIRYLITE_ETH have none. -/
def decodeMsopPkt : (t : MechType) → RSDecoderParam → MsopPkt P t.constParam →
    DecoderMech P → DecoderMech P × Bool
  | .rs16 => decodeFixed rs16 2 rs16.laserNum
  | .rs32 => decodeFixed rs32 2 rs32.laserNum
  | .rsbp => decodeFixed rsbp 2 rsbp.laserNum
  | .rshelios => decodeFixed rshelios 2 rshelios.laserNum
  | .rshelios16p => decodeFixed rshelios16p 2 rshelios16p.laserNum
  | .rs48 => decodeFixed rs48 1 rs48.laserNum
  | .rs80 => decodeFixed rs80 1 rs80.laserNum
  | .rs128 => decodeFixed rs128 1 rs128.laserNum
  | .rsp48 => decodeFixed rsp48 1 rsp48.laserNum
  | .rsp80 => decodeFixed rsp80 1 rsp80.laserNum
  | .rsp128 => decodeFixed rsp128 1 rsp128.laserNum
  | .rsairy => decodeByModel rsairy getRsairyModel rsairyInitialized
  | .rsfairy => decodeByModel rsfairy getRsfairyModel rsfairyInitialized
  | .rsairyliteEth => decodeFixed rsairyliteEth 0 24

open DecoderMech in
/-- `isNewFrame`. -/
def isNewFrame : (t : MechType) → RSDecoderParam → MsopPkt P t.constParam →
    DecoderMech P → DecoderMech P × Bool
  | .rs16 => isNewFrameFixed rs16 2
  | .rs32 => isNewFrameFixed rs32 2
  | .rsbp => isNewFrameFixed rsbp 2
  | .rshelios => isNewFrameFixed rshelios 2
  | .rshelios16p => isNewFrameFixed rshelios16p 2
  | .rs48 => isNewFrameFixed rs48 1
  | .rs80 => isNewFrameFixed rs80 1
  | .rs128 => isNewFrameFixed rs128 1
  | .rsp48 => isNewFrameFixed rsp48 1
  | .rsp80 => isNewFrameFixed rsp80 1
  | .rsp128 => isNewFrameFixed rsp128 1
  | .rsairy => isNewFrameByModel rsairy
  | .rsfairy => isNewFrameByModel rsfairy
  | .rsairyliteEth => isNewFrameFixed rsairyliteEth 0

/-- The checks of `processMsopPkt`: the angles are there if it waits for them, and
the length and the id of the packet are right. -/
def checkMsopPkt (t : MechType) (param : RSDecoderParam) (pkt : MsopPkt P t.constParam)
    (s : DecoderMech P) : Bool :=
  if param.waitForDifop && !s.setting.anglesReady then false
  else if pkt.size ≠ t.constParam.msopLen then false
  else if pkt.id ≠ t.constParam.msopId then false
  else true

/-- `processMsopPkt`: a cloud that grew beyond its limit is cleared. -/
def processMsopPkt (t : MechType) (param : RSDecoderParam) (pkt : MsopPkt P t.constParam)
    (s : DecoderMech P) : DecoderMech P × Bool :=
  let s := if 5000000 < s.pointCloud.length then { s with pointCloud := [] } else s
  if checkMsopPkt t param pkt s then decodeMsopPkt t param pkt s else (s, false)

/-- An MSOP packet, or what a DIFOP packet sets. -/
inductive DriverEvent (P : Type) (c : RSDecoderConstParam)
  | msop (pkt : MsopPkt P c)
  | difop (setting : DifopSetting)

/-! ### The loops over the blocks -/

section Blocks

variable {c : RSDecoderConstParam} {idLen : ℕ} {param : RSDecoderParam} {height : ℕ}
  {s : DecoderMech P} {block : MsopBlock P}

theorem accepted_cons (h : block.hasId c idLen = true) (blocks : List (MsopBlock P)) :
    accepted c idLen (block :: blocks) = block.az :: accepted c idLen blocks := by
  unfold accepted
  rw [List.takeWhile_cons_of_pos h, List.map_cons]

theorem accepted_wrong (h : block.hasId c idLen = false) (blocks : List (MsopBlock P)) :
    accepted c idLen (block :: blocks) = [] := by
  unfold accepted
  rw [List.takeWhile_cons_of_neg (by rw [h]; decide), List.map_nil]

/-- What decoding blocks leaves alone. -/
structure SameModel (s s' : DecoderMech P) : Prop where
  preSplitStrategy : s'.preSplitStrategy = s.preSplitStrategy
  setting : s'.setting = s.setting
  lidarModel : s'.lidarModel = s.lidarModel
  channelNum : s'.channelNum = s.channelNum
  bInit : s'.bInit = s.bInit

theorem SameModel.rfl : SameModel s s := ⟨.refl _, .refl _, .refl _, .refl _, .refl _⟩

theorem SameModel.trans {s' s'' : DecoderMech P} (h : SameModel s s') (h' : SameModel s' s'') :
    SameModel s s'' where
  preSplitStrategy := h'.preSplitStrategy.trans h.preSplitStrategy
  setting := h'.setting.trans h.setting
  lidarModel := h'.lidarModel.trans h.lidarModel
  channelNum := h'.channelNum.trans h.channelNum
  bInit := h'.bInit.trans h.bInit

theorem SameModel.deref {s' : DecoderMech P} (h : SameModel s s') (param : RSDecoderParam) :
    s'.deref param = s.deref param := by
  funext v
  cases v with
  | splitBlksPerFrame => exact congrArg DifopSetting.splitBlksPerFrame h.setting
  | numBlksSplit => exact Eq.refl _

theorem splitFrame_same (param : RSDecoderParam) (height : ℕ) (s : DecoderMech P) :
    SameModel s (s.splitFrame param height) ∧
      (s.splitFrame param height).splitStrategy = s.splitStrategy := by
  unfold DecoderMech.splitFrame
  split
  · exact ⟨⟨rfl, rfl, rfl, rfl, rfl⟩, rfl⟩
  · exact ⟨.rfl, rfl⟩

/-- A block: its verdict is that of the splitter. -/
theorem decodeBlock_eq (param : RSDecoderParam) (height : ℕ) (s : DecoderMech P)
    (block : MsopBlock P) :
    SameModel s (s.decodeBlock param height block).1 ∧
      (s.decodeBlock param height block).1.splitStrategy =
        (s.splitStrategy.newBlock (s.deref param) block.az).1 ∧
      (s.decodeBlock param height block).2 =
        (s.splitStrategy.newBlock (s.deref param) block.az).2 := by
  unfold DecoderMech.decodeBlock
  cases hsplit : (s.splitStrategy.newBlock (s.deref param) block.az).2 with
  | true =>
    obtain ⟨hsame, hstrategy⟩ := splitFrame_same param height
      { s with splitStrategy := (s.splitStrategy.newBlock (s.deref param) block.az).1 }
    simp only [hsplit, if_true]
    exact ⟨⟨hsame.1, hsame.2, hsame.3, hsame.4, hsame.5⟩, hstrategy, trivial⟩
  | false =>
    simp only [hsplit, Bool.false_eq_true, if_false]
    exact ⟨⟨rfl, rfl, rfl, rfl, rfl⟩, trivial, trivial⟩

theorem decodeBlocks_right (h : block.hasId c idLen = true) (blocks : List (MsopBlock P)) :
    (s.decodeBlocks c idLen param height (block :: blocks)).1 =
      ((s.decodeBlock param height block).1.decodeBlocks c idLen param height blocks).1 := by
  rw [DecoderMech.decodeBlocks, if_pos h]

theorem decodeBlocks_wrong (h : block.hasId c idLen = false) (blocks : List (MsopBlock P)) :
    s.decodeBlocks c idLen param height (block :: blocks) = (s, false) := by
  rw [DecoderMech.decodeBlocks, if_neg (by rw [h]; decide)]

/-- Decoding feeds the splitter with all accepted blocks. -/
theorem decodeBlocks_eq (blocks : List (MsopBlock P)) (s : DecoderMech P) :
    SameModel s (s.decodeBlocks c idLen param height blocks).1 ∧
      ((s.decodeBlocks c idLen param height blocks).1.splitStrategy,
        (s.decodeBlocks c idLen param height blocks).2) =
      feed (SplitStrategy.newBlock (s.deref param)) (accepted c idLen blocks) s.splitStrategy := by
  induction blocks generalizing s with
  | nil => exact ⟨.rfl, rfl⟩
  | cons block blocks ih =>
    unfold DecoderMech.decodeBlocks
    cases hid : block.hasId c idLen with
    | true =>
      obtain ⟨hsame, hstrategy, hverdict⟩ := decodeBlock_eq param height s block
      obtain ⟨hsame', hrest⟩ := ih (s.decodeBlock param height block).1
      rw [hsame.deref, hstrategy] at hrest
      refine ⟨hsame.trans hsame', ?_⟩
      rw [accepted_cons hid, feed_cons, ← hrest, ← hverdict]
      rfl
    | false =>
      rw [accepted_wrong hid]
      exact ⟨.rfl, rfl⟩

/-- `isNewFrame` feeds its splitter up to the first split. -/
theorem isNewFrameBlocks_eq (deref : MaxBlks → UInt16) (blocks : List (MsopBlock P))
    (strategy : SplitStrategy) :
    DecoderMech.isNewFrameBlocks c idLen deref blocks strategy =
      feedFirst (SplitStrategy.newBlock deref) (accepted c idLen blocks) strategy := by
  induction blocks generalizing strategy with
  | nil => rfl
  | cons block blocks ih =>
    unfold DecoderMech.isNewFrameBlocks
    cases hid : block.hasId c idLen with
    | true =>
      rw [accepted_cons hid, if_pos rfl]
      cases hsplit : (strategy.newBlock deref block.az).2 with
      | true =>
        rw [feedFirst_fire hsplit]
        exact (if_pos hsplit).trans (Prod.ext rfl hsplit.symm)
      | false =>
        rw [feedFirst_quiet hsplit, ← ih]
        exact if_neg (by rw [hsplit]; decide)
    | false =>
      rw [accepted_wrong hid]
      rfl

end Blocks

end Rs
end SensorSupport
