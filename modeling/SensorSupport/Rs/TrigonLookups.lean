/-
# Angles that are looked up (`decoder/trigon.hpp`, `decoder/block_iterator.hpp`,
`decoder/decoder_RS*.hpp`)

`Trigon` has sines and cosines for the angles from -90 to below 450 degrees, and takes another
angle for 0. A mechanical decoder looks up three angles for a channel: its vertical one, and the
horizontal one without and with the calibration of the channel. The horizontal one is the azimuth
of the block with the part of the way to the next block that passed when the channel was fired.

Azimuth and way stay within the table, and so does the vertical calibration. With the horizontal
calibration, which may be nearly 180 degrees, the angle may be beyond 450 degrees
(`lookups_inTable`). RSBP may count its angles backwards.

Key definitions: `InTable`, `azDiffTo`, `MechType.azDiffs`, `MechType.firings`,
`MechType.lookups`, `CalibrationFits`.
Key theorems: `azDiffs_bounds`, `run_angled`, `passed_bounds`, `lookups_inTable`.
-/
import SensorSupport.Rs.AzimuthCircle
import SensorSupport.Rs.FrameSplit
import SensorSupport.Rs.MechSetting

namespace SensorSupport
namespace Rs

open FloatRounding ChanAngles

/-- `ANGLE_MIN` and `ANGLE_MAX` of `Trigon`. -/
def InTable (angle : ℤ) : Prop := -9000 ≤ angle ∧ angle < 45000

instance (angle : ℤ) : Decidable (InTable angle) := inferInstanceAs (Decidable (_ ∧ _))

/-- A block, in host byte order. -/
structure AngleBlock where
  id : List UInt8
  azimuth : UInt16
  distances : List UInt16

/-- An MSOP packet. -/
structure AnglePkt (c : RSDecoderConstParam) where
  header : MsopHeader
  blocks : List AngleBlock
  blocks_length : blocks.length = c.blocksPerPkt
  distances_length : ∀ block ∈ blocks, block.distances.length = c.channelsPerBlock

/-! ### The way to the next block -/

/-- The way from one azimuth to the next; one over the blind zone is replaced. -/
def azDiffTo (blockAzDuration : ℕ) (az next : UInt16) : ℤ :=
  let azDiff : ℤ := next.toNat - az.toNat
  let azDiff := if azDiff < 0 then azDiff + 36000 else azDiff
  if 100 < azDiff then blockAzDuration else azDiff

/-- The iterators that take `k` blocks together: `SingleReturnBlockIterator` and those of RS16
one, `DualReturnBlockIterator` and `TwoInOneBlockIterator` two, `FourInOneBlockIterator` four. -/
def groupAzDiffs (k blockAzDuration : ℕ) (azs : List UInt16) (blk : ℕ) : ℤ :=
  let first := blk / k * k
  if first + k < azs.length then
    azDiffTo blockAzDuration (azs.getD first 0) (azs.getD (first + k) 0)
  else blockAzDuration

/-- `ABDualReturnBlockIterator` -/
def abAzDiffs (blockAzDuration : ℕ) (azs : List UInt16) (blk : ℕ) : ℤ :=
  let azDiff := azDiffTo blockAzDuration (azs.getD 0 0) (azs.getD 2 0)
  if azs.getD 0 0 = azs.getD 1 0 then if blk < 2 then azDiff else blockAzDuration
  else if blk < 1 then azDiff else blockAzDuration

namespace MechType

/-- The iterator of a decoder: `block_az_diff` of a block. -/
def azDiffs (t : MechType) (s : MechSetting) (azs : List UInt16) (blk : ℕ) : ℤ :=
  let duration := s.blockAzDiff.toNat
  match t, s.echoMode with
  | .rs16, .echoSingle => groupAzDiffs 1 (duration * 2) azs blk
  | .rs16, .echoDual => groupAzDiffs 1 duration azs blk
  | .rshelios16p, .echoSingle => groupAzDiffs 1 (duration * 2) azs blk
  | .rshelios16p, .echoDual => groupAzDiffs 1 duration azs blk
  | .rs128, .echoDual => abAzDiffs duration azs blk
  | .rsp128, .echoDual => abAzDiffs duration azs blk
  | .rsairy, .echoSingle =>
    groupAzDiffs (if s.lidarModel = .channel48 then 1 else 2) duration azs blk
  | .rsairy, .echoDual =>
    groupAzDiffs (if s.lidarModel = .channel48 then 2 else 4) duration azs blk
  | .rsfairy, .echoSingle =>
    groupAzDiffs (if s.lidarModel = .channel48 then 1 else 2) duration azs blk
  | .rsfairy, .echoDual =>
    groupAzDiffs (if s.lidarModel = .channel48 then 2 else 4) duration azs blk
  | .rsairyliteEth, _ => groupAzDiffs 1 duration azs blk
  | _, .echoSingle => groupAzDiffs 1 duration azs blk
  | _, .echoDual => groupAzDiffs 2 duration azs blk

/-! ### The angles of a channel -/

/-- The channel in `CHAN_AZIS`. -/
def chanId (t : MechType) (s : MechSetting) (blk chan : ℕ) : ℕ :=
  match t with
  | .rsairy => if s.lidarModel = .channel96 ∧ blk % 2 = 1 then chan + 48 else chan
  | .rsfairy => if s.lidarModel = .channel96 ∧ blk % 2 = 1 then chan + 48 else chan
  | _ => chan

/-- The channel in the calibration. -/
def laser (t : MechType) (s : MechSetting) (blk chan : ℕ) : ℕ :=
  match t with
  | .rs16 => chan % 16
  | .rshelios16p => chan % 16
  | _ => t.chanId s blk chan

/-- The bits of `distance` that are one. -/
def rawDistance (t : MechType) (distance : UInt16) : UInt16 :=
  match t with
  | .rsairy => distance &&& 0x3FFF
  | .rsfairy => distance &&& 0x7FFF
  | .rsairyliteEth => distance &&& 0x3FFF
  | _ => distance

/-- Does the decoder count horizontal angles backwards? -/
def turns (t : MechType) (s : MechSetting) : Bool :=
  match t with
  | .rsbp => s.reversal
  | _ => false

/-- The angle that is looked up for a horizontal one. -/
def turned (t : MechType) (s : MechSetting) (angle : ℤ) : ℤ :=
  if t.turns s then 36000 - angle else angle

end MechType

/-- A channel that is fired, with the azimuth of its block and the way to the next one. -/
structure Firing where
  azimuth : UInt16
  azDiff : ℤ
  blk : ℕ
  chan : ℕ

/-- What `distance_section_` makes of a distance, and `scan_section_`. -/
structure PointFilter where
  distanceIn : UInt16 → Bool
  scanSection : AzimuthSection

namespace MechType

/-- The part of the way that passed when the channel is fired. -/
def passed (t : MechType) (s : MechSetting) (firing : Firing) : ℤ :=
  truncate (single (single firing.azDiff *
    s.chanAzis.getD (t.chanId s firing.blk firing.chan) 0))

/-- `angle_vert` -/
def angleVert (t : MechType) (s : MechSetting) (firing : Firing) : ℤ :=
  s.chanAngles.vertAdjust (t.laser s firing.blk firing.chan)

/-- `angle_horiz` -/
def angleHoriz (t : MechType) (s : MechSetting) (firing : Firing) : ℤ :=
  firing.azimuth.toNat + t.passed s firing

/-- `angle_horiz_final` -/
def angleHorizFinal (t : MechType) (s : MechSetting) (firing : Firing) : ℤ :=
  s.chanAngles.horizAdjust (t.laser s firing.blk firing.chan) (t.angleHoriz s firing)

/-- The channels of a block whose points are computed. -/
def blockFirings (t : MechType) (filter : PointFilter) (s : MechSetting) (azs : List UInt16)
    (block : AngleBlock) (blk : ℕ) : List Firing :=
  block.distances.zipIdx.filterMap fun (distance, chan) =>
    let firing := ⟨block.azimuth, t.azDiffs s azs blk, blk, chan⟩
    if filter.distanceIn (t.rawDistance distance) &&
        filter.scanSection.contains (t.turned s (t.angleHorizFinal s firing)) then some firing
    else none

/-- Does `decodeMsopPkt` go through the blocks? -/
def decodes (t : MechType) (header : MsopHeader) (s : MechSetting) : Bool :=
  match t with
  | .rsairy => header.dataType0 = 0 ∧ s.lidarModel ≠ .channel192
  | .rsfairy => header.dataType0 = 0
  | _ => true

/-- The channels whose points are computed by the loops of `decodeMsopPkt`. -/
def firings (t : MechType) (filter : PointFilter) (s : MechSetting) (pkt : AnglePkt t.constParam) :
    List Firing :=
  if t.decodes pkt.header s then
    let accepted := pkt.blocks.takeWhile fun block =>
      block.id.take t.idLen == t.constParam.blockId.take t.idLen
    accepted.zipIdx.flatMap fun (block, blk) =>
      t.blockFirings filter s (pkt.blocks.map AngleBlock.azimuth) block blk
  else []

/-- The angles that `SIN` and `COS` are called with, when the header of the packet has been
read. -/
def lookups (t : MechType) (filter : PointFilter) (s : MechSetting) (pkt : AnglePkt t.constParam) :
    List ℤ :=
  (t.firings filter s pkt).flatMap fun firing =>
    [t.angleVert s firing, t.turned s (t.angleHorizFinal s firing),
      t.turned s (t.angleHoriz s firing)]

end MechType

/-- A calibration that leaves the angle of a channel below 450 degrees, or, where angles are
counted backwards, between -90 and 450 degrees. -/
def CalibrationFits (t : MechType) (s : MechSetting) (firing : Firing) : Prop :=
  let calibration := s.chanAngles.horizAngles.getD (t.laser s firing.blk firing.chan) 0
  if t.turns s then
    -9000 < firing.azimuth.toNat + t.passed s firing + calibration ∧
      firing.azimuth.toNat + t.passed s firing + calibration ≤ 45000
  else firing.azimuth.toNat + t.passed s firing + calibration < 45000

/-- How far the azimuths of two blocks are apart at most, at the highest speed. -/
def MechType.azDiffMax : MechType → ℕ
  | .rsairy => 4800
  | .rsfairy => 4800
  | _ => 2400

/-- The exponent of a power of two above the duration of a block. -/
def MechType.durationExp : MechType → ℤ
  | .rsairy => -13
  | .rsfairy => -13
  | .rsairyliteEth => -12
  | _ => -14

/-- What angles depend on has its bounds. -/
structure Angled (t : MechType) (s : MechSetting) : Prop where
  azis : ∀ a ∈ s.chanAzis, 0 ≤ a ∧ a ≤ 1
  duration : 0 ≤ s.blockDuration ∧ s.blockDuration ≤ 2 ^ t.durationExp
  azDiff : s.blockAzDiff.toNat ≤ t.azDiffMax
  checked : Checked s.chanAngles.vertAngles s.chanAngles.horizAngles

section Steps

variable {t : MechType} {s : MechSetting} {header : MsopHeader}

/-! ### Firing times -/

theorem calcParam16_bounds {blkTs : ℕ} {firingTss : List ℕ} (hblk : 55000 ≤ blkTs)
    (htwo : ∀ t ∈ firingTss, t ≤ 110000)
    (hone : ∀ t ∈ (List.range 32).map fun chan => firingTss.getD (chan % 16) 0, t ≤ blkTs)
    (echoMode : RSEchoMode) :
    ∀ a ∈ calcParam16 blkTs firingTss echoMode, 0 ≤ a ∧ a ≤ 1 := by
  cases echoMode with
  | echoSingle =>
    exact singleChanAzis_bounds (n := 55) (by norm_num) (by norm_num) (by omega)
      (fun t ht => (htwo t ht).trans (by norm_num))
  | echoDual => exact chanAzis_bounds (by omega) hone

theorem calcParam80_bounds (lidarModel : UInt8) :
    ∀ a ∈ calcParam80 lidarModel, 0 ≤ a ∧ a ≤ 1 := by
  unfold calcParam80
  apply chanAzis_bounds (by decide)
  split <;> decide +kernel

theorem rs16Azis_bounds (echoMode : RSEchoMode) :
    ∀ a ∈ calcParam16 MechType.rs16.blkTs rs16Tss echoMode, 0 ≤ a ∧ a ≤ 1 :=
  calcParam16_bounds (by decide) (by decide +kernel) (by decide +kernel) echoMode

theorem rshelios16pAzis_bounds (echoMode : RSEchoMode) :
    ∀ a ∈ calcParam16 MechType.rshelios16p.blkTs rsheliosTss echoMode, 0 ≤ a ∧ a ≤ 1 :=
  calcParam16_bounds (by decide) (by decide +kernel) (by decide +kernel) echoMode

theorem initAzis_bounds (t : MechType) : ∀ a ∈ t.initAzis, 0 ≤ a ∧ a ≤ 1 := by
  cases t with
  | rs16 => exact rs16Azis_bounds .echoSingle
  | rshelios16p => exact rshelios16pAzis_bounds .echoSingle
  | rsp80 =>
    intro a ha
    rw [List.eq_of_mem_replicate ha]
    norm_num
  | _ => exact chanAzis_bounds (by decide) (by decide +kernel)

theorem overwrite_bounds {new old : List ℚ} (hnew : ∀ a ∈ new, 0 ≤ a ∧ a ≤ 1)
    (hold : ∀ a ∈ old, 0 ≤ a ∧ a ≤ 1) : ∀ a ∈ overwrite new old, 0 ≤ a ∧ a ≤ 1 := by
  intro a ha
  rcases List.mem_append.mp ha with ha | ha
  · exact hnew a ha
  · exact hold a (List.mem_of_mem_drop ha)

/-- The duration of a block is below its power of two. -/
theorem blkTs_duration (t : MechType) :
    0 ≤ blockDuration t.blkTs ∧ blockDuration t.blkTs ≤ 2 ^ t.durationExp := by
  have hwhole : ∀ {n : ℕ}, n < 2 ^ 24 → t.blkTs ≤ 1000 * n →
      (n : ℚ) / 1000000 ≤ 2 ^ t.durationExp →
      0 ≤ blockDuration t.blkTs ∧ blockDuration t.blkTs ≤ 2 ^ t.durationExp :=
    fun hn hblk h => blockDuration_le hn hblk h
  cases t with
  | rsairy => exact hwhole (n := 112) (by norm_num) (by decide) (by norm_num [MechType.durationExp])
  | rsfairy => exact hwhole (n := 70) (by norm_num) (by decide) (by norm_num [MechType.durationExp])
  | rsairyliteEth =>
    exact hwhole (n := 167) (by norm_num) (by decide) (by norm_num [MechType.durationExp])
  | _ => exact hwhole (n := 56) (by norm_num) (by decide) (by norm_num [MechType.durationExp])

/-! ### DIFOP packets -/

theorem initSetting_angled (t : MechType) : Angled t t.initSetting where
  azis := initAzis_bounds t
  duration := blkTs_duration t
  azDiff := by cases t <;> decide
  checked := init_checked _

theorem rpsOf_le {rps : UInt16} {n : ℕ} (hn : 10 ≤ n) (h : rps.toNat ≤ n) :
    (rpsOf rps).toNat ≤ n := by
  unfold rpsOf
  split
  · exact hn
  · exact h

/-- The way of a block is below its bound when that is so at a higher speed. -/
theorem azDiff_le (h : Angled t s) {rps : UInt16} {n : ℕ} (hrps : rps.toNat ≤ n)
    (hn : 36000 * (n : ℚ) * 2 ^ t.durationExp ≤ t.azDiffMax) :
    (azDiffOf rps s.blockDuration).toNat ≤ t.azDiffMax ∧
      (azDiffLiteOf rps s.blockDuration).toNat ≤ t.azDiffMax := by
  obtain ⟨hnonneg, hle⟩ := h.duration
  have hcast : (rps.toNat : ℚ) ≤ n := by exact_mod_cast hrps
  have hmax : t.azDiffMax < 65536 := by cases t <;> decide
  have hway : 36000 * (rps.toNat : ℚ) * s.blockDuration ≤ 36000 * n * 2 ^ t.durationExp := by
    apply mul_le_mul _ hle hnonneg (by positivity)
    linarith
  exact azDiffOf_le hmax hnonneg (hway.trans hn)

theorem setAngles_angled (h : Angled t s) {r : ChanAngles × Outcome}
    (hr : Checked r.1.vertAngles r.1.horizAngles) : Angled t (s.setAngles r) :=
  ⟨h.azis, h.duration, h.azDiff, hr⟩

theorem decodeDifopCommon_angled (h : Angled t s) (ht : t ≠ .rsairyliteEth) (pkt : DifopPkt) :
    Angled t (decodeDifopCommon pkt s) := by
  have hquot : (pkt.rpm / 60).toNat ≤ 1092 := by
    have hlt := pkt.rpm.toNat_lt
    rw [UInt16.toNat_div]
    show pkt.rpm.toNat / 60 ≤ 1092
    omega
  have hway : 36000 * ((1092 : ℕ) : ℚ) * 2 ^ t.durationExp ≤ t.azDiffMax := by
    cases t with
    | rsairyliteEth => exact absurd rfl ht
    | _ => norm_num [MechType.durationExp, MechType.azDiffMax]
  have hdiff := (azDiff_le h (rpsOf_le (by norm_num) hquot) hway).1
  have hspeed : Angled t { s with
      rps := rpsOf (pkt.rpm / 60)
      blksPerFrame := blksOf (rpsOf (pkt.rpm / 60)) s.blockDuration
      blockAzDiff := azDiffOf (rpsOf (pkt.rpm / 60)) s.blockDuration } :=
    ⟨h.azis, h.duration, hdiff, h.checked⟩
  unfold decodeDifopCommon
  dsimp only
  split
  · exact hspeed
  · exact setAngles_angled hspeed (loadFromDifop_checked h.checked _ _)

theorem decodeDifopAngles_angled (h : Angled .rsairyliteEth s) (pkt : DifopPkt) :
    Angled .rsairyliteEth (decodeDifopAngles pkt s) := by
  have hquot : (pkt.rpm / 600).toNat ≤ 109 := by
    have hlt := pkt.rpm.toNat_lt
    rw [UInt16.toNat_div]
    show pkt.rpm.toNat / 600 ≤ 109
    omega
  have hway : 36000 * ((109 : ℕ) : ℚ) * 2 ^ MechType.rsairyliteEth.durationExp ≤
      MechType.rsairyliteEth.azDiffMax := by
    norm_num [MechType.durationExp, MechType.azDiffMax]
  have hdiff := (azDiff_le h (rpsOf_le (by norm_num) hquot) hway).2
  unfold decodeDifopAngles
  dsimp only
  split
  · exact ⟨h.azis, h.duration, hdiff, loadFromDifopAIRYLITE_checked h.checked _⟩
  · exact ⟨h.azis, h.duration, hdiff, h.checked⟩

theorem setEcho_angled (h : Angled t s) (echoMode : RSEchoMode) : Angled t (s.setEcho echoMode) :=
  ⟨h.azis, h.duration, h.azDiff, h.checked⟩

theorem decodeDifop16_angled {blkTs : ℕ} {firingTss : List ℕ} (h : Angled t s)
    (ht : t ≠ .rsairyliteEth)
    (hazis : ∀ echoMode, ∀ a ∈ calcParam16 blkTs firingTss echoMode, 0 ≤ a ∧ a ≤ 1)
    (pkt : DifopPkt) : Angled t (decodeDifop16 blkTs firingTss pkt s) := by
  obtain ⟨hold, hduration, hdiff, hchecked⟩ := decodeDifopCommon_angled h ht pkt
  unfold decodeDifop16
  dsimp only
  split
  · exact ⟨hazis _, hduration, hdiff, hchecked⟩
  · exact ⟨hold, hduration, hdiff, hchecked⟩

theorem decodeDifopPkt_angled (h : Angled t s) (pkt : DifopPkt) :
    Angled t (t.decodeDifopPkt pkt s) := by
  cases t with
  | rs16 => exact decodeDifop16_angled h nofun rs16Azis_bounds pkt
  | rshelios16p => exact decodeDifop16_angled h nofun rshelios16pAzis_bounds pkt
  | rsbp =>
    obtain ⟨hazis, hduration, hdiff, hchecked⟩ := decodeDifopCommon_angled h nofun pkt
    exact ⟨hazis, hduration, hdiff, hchecked⟩
  | rsairy =>
    obtain ⟨hazis, hduration, hdiff, hchecked⟩ := decodeDifopCommon_angled h nofun pkt
    show Angled _ (decodeDifopAiry pkt s)
    unfold decodeDifopAiry
    dsimp only
    split <;> exact ⟨hazis, hduration, hdiff, hchecked⟩
  | rsfairy => exact decodeDifopCommon_angled h nofun pkt
  | rsairyliteEth => exact decodeDifopAngles_angled h pkt
  | _ => exact setEcho_angled (decodeDifopCommon_angled h nofun pkt) _

/-! ### Headers of MSOP packets -/

theorem airyAzis_bounds (h : Angled .rsairy s) (model : LidarModel) :
    ∀ a ∈ airyAzis model s, 0 ≤ a ∧ a ≤ 1 := by
  have htable : ∀ {firingTss : List ℕ}, (∀ t ∈ firingTss, t ≤ MechType.rsairy.blkTs) →
      ∀ a ∈ overwrite (chanAzis MechType.rsairy.blkTs firingTss) s.chanAzis, 0 ≤ a ∧ a ≤ 1 :=
    fun hle => overwrite_bounds (chanAzis_bounds (by decide) hle) h.azis
  unfold airyAzis
  cases model with
  | channel48 => exact htable (by decide +kernel)
  | channel96 =>
    dsimp only
    split
    · exact htable (by decide +kernel)
    · split
      · exact htable (by decide +kernel)
      · exact h.azis
  | channel192 => exact h.azis

theorem decodeMsopHeader_angled (h : Angled t s) (header : MsopHeader) :
    Angled t (t.decodeMsopHeader header s) := by
  cases t with
  | rsairy =>
    show Angled _ (decodeHeaderAiry header s)
    unfold decodeHeaderAiry
    split
    · exact h
    · split
      · exact h
      · exact ⟨airyAzis_bounds (setEcho_angled h _) _, blkTs_duration .rsairy, h.azDiff, h.checked⟩
  | rsfairy =>
    have hazis : ∀ a ∈ overwrite (chanAzis MechType.rsfairy.blkTs rsfairy48Tss) s.chanAzis,
        0 ≤ a ∧ a ≤ 1 :=
      overwrite_bounds (chanAzis_bounds (by decide) (by decide +kernel)) h.azis
    show Angled _ (decodeHeaderFairy header s)
    unfold decodeHeaderFairy
    split
    · exact h
    · split
      · exact h
      · dsimp only
        split
        · exact ⟨hazis, blkTs_duration .rsfairy, h.azDiff, h.checked⟩
        · exact ⟨h.azis, h.duration, h.azDiff, h.checked⟩
  | rsbp =>
    have hazis : ∀ a ∈ chanAzis 55560 rsbpV4Tss, 0 ≤ a ∧ a ≤ 1 :=
      chanAzis_bounds (by decide) (by decide +kernel)
    show Angled _ (decodeHeaderBp header s)
    unfold decodeHeaderBp
    split
    · exact h
    · dsimp only
      split
      · exact ⟨hazis, blkTs_duration .rshelios, h.azDiff, h.checked⟩
      · exact ⟨h.azis, h.duration, h.azDiff, h.checked⟩
  | rsp80 =>
    show Angled _ (decodeHeaderP80 header s)
    unfold decodeHeaderP80
    split
    · exact ⟨calcParam80_bounds _, h.duration, h.azDiff, h.checked⟩
    · exact h
  | _ => exact h

theorem step_angled (h : Angled t s) (pkt : MechPkt) : Angled t (t.step s pkt) := by
  cases pkt with
  | difop pkt => exact decodeDifopPkt_angled h pkt
  | msop header => exact decodeMsopHeader_angled h header

/-- **The bounds hold behind all packets.** -/
theorem run_angled (t : MechType) (pkts : List MechPkt) : Angled t (t.run pkts) := by
  induction pkts using List.reverseRecOn with
  | nil => exact initSetting_angled t
  | append_singleton pkts pkt ih =>
    rw [run_concat]
    exact step_angled ih pkt

end Steps

section Angles

variable {t : MechType} {s : MechSetting} {azs : List UInt16} {d n : ℕ}

/-! ### Horizontal angles -/

theorem azDiffTo_bounds (hd : d ≤ n) (hn : 100 ≤ n) {az : UInt16} (haz : az.toNat < 36000)
    (next : UInt16) : 0 ≤ azDiffTo d az next ∧ azDiffTo d az next ≤ n := by
  unfold azDiffTo
  dsimp only
  split_ifs <;> omega

theorem getD_lt (hazs : ∀ az ∈ azs, az.toNat < 36000) (i : ℕ) : (azs.getD i 0).toNat < 36000 := by
  rcases Nat.lt_or_ge i azs.length with hlt | hge
  · rw [List.getD_eq_getElem _ _ hlt]
    exact hazs _ (List.getElem_mem hlt)
  · rw [List.getD_eq_default _ _ hge]
    decide

theorem groupAzDiffs_bounds (hd : d ≤ n) (hn : 100 ≤ n) (hazs : ∀ az ∈ azs, az.toNat < 36000)
    (k blk : ℕ) : 0 ≤ groupAzDiffs k d azs blk ∧ groupAzDiffs k d azs blk ≤ n := by
  unfold groupAzDiffs
  dsimp only
  split
  · exact azDiffTo_bounds hd hn (getD_lt hazs _) _
  · omega

theorem abAzDiffs_bounds (hd : d ≤ n) (hn : 100 ≤ n) (hazs : ∀ az ∈ azs, az.toNat < 36000)
    (blk : ℕ) : 0 ≤ abAzDiffs d azs blk ∧ abAzDiffs d azs blk ≤ n := by
  have hway := azDiffTo_bounds hd hn (getD_lt hazs 0) (azs.getD 2 0)
  unfold abAzDiffs
  dsimp only
  split_ifs <;> omega

/-- **The way to the next block is not longer than two blocks at the highest speed.** -/
theorem azDiffs_bounds (h : Angled t s) (hazs : ∀ az ∈ azs, az.toNat < 36000) (blk : ℕ) :
    0 ≤ t.azDiffs s azs blk ∧ t.azDiffs s azs blk ≤ (4800 : ℕ) := by
  have hdiff := h.azDiff
  have hmax : t.azDiffMax ≤ 4800 := by cases t <;> decide
  have hgroup : ∀ k, 0 ≤ groupAzDiffs k s.blockAzDiff.toNat azs blk ∧
      groupAzDiffs k s.blockAzDiff.toNat azs blk ≤ (4800 : ℕ) :=
    fun k => groupAzDiffs_bounds (hdiff.trans hmax) (by norm_num) hazs k blk
  have hab := abAzDiffs_bounds (hdiff.trans hmax) (by norm_num) hazs blk
  have htwo : t.azDiffMax = 2400 → 0 ≤ groupAzDiffs 1 (s.blockAzDiff.toNat * 2) azs blk ∧
      groupAzDiffs 1 (s.blockAzDiff.toNat * 2) azs blk ≤ (4800 : ℕ) :=
    fun hmax => groupAzDiffs_bounds (by omega) (by norm_num) hazs 1 blk
  unfold MechType.azDiffs
  dsimp only
  split
  · exact htwo rfl
  · exact hgroup 1
  · exact htwo rfl
  all_goals first | exact hab | exact hgroup _

/-- What the loops fire: the azimuth is one of a block, and the way has its bounds. -/
structure Fired (firing : Firing) : Prop where
  azimuth : firing.azimuth.toNat < 36000
  azDiff : 0 ≤ firing.azDiff ∧ firing.azDiff ≤ (4800 : ℕ)

theorem firings_fired (h : Angled t s) {filter : PointFilter} {pkt : AnglePkt t.constParam}
    (hazs : ∀ block ∈ pkt.blocks, block.azimuth < 36000) {firing : Firing}
    (hmem : firing ∈ t.firings filter s pkt) : Fired firing := by
  have hmap : ∀ az ∈ pkt.blocks.map AngleBlock.azimuth, az.toNat < 36000 := by
    intro az haz
    obtain ⟨block, hblock, rfl⟩ := List.mem_map.mp haz
    exact UInt16.lt_iff_toNat_lt.mp (hazs block hblock)
  unfold MechType.firings at hmem
  split at hmem
  · obtain ⟨⟨block, blk⟩, hblock, hfiring⟩ := List.mem_flatMap.mp hmem
    obtain ⟨⟨distance, chan⟩, -, hsome⟩ := List.mem_filterMap.mp hfiring
    have hin := List.takeWhile_subset _ (List.fst_mem_of_mem_zipIdx hblock)
    dsimp only at hsome
    split at hsome
    · obtain rfl := Option.some.inj hsome
      exact ⟨UInt16.lt_iff_toNat_lt.mp (hazs block hin), azDiffs_bounds h hmap blk⟩
    · cases hsome
  · cases hmem

/-- **A channel is fired on the way to the next block.** -/
theorem passed_bounds (h : Angled t s) {firing : Firing} (hfired : Fired firing) :
    0 ≤ t.passed s firing ∧ t.passed s firing ≤ 4800 := by
  obtain ⟨n, hn⟩ := Int.eq_ofNat_of_zero_le hfired.azDiff.1
  have hle : n ≤ 4800 := by
    have hle := hfired.azDiff.2
    omega
  have hazi : 0 ≤ s.chanAzis.getD (t.chanId s firing.blk firing.chan) 0 ∧
      s.chanAzis.getD (t.chanId s firing.blk firing.chan) 0 ≤ 1 := by
    rcases Nat.lt_or_ge (t.chanId s firing.blk firing.chan) s.chanAzis.length with hlt | hge
    · rw [List.getD_eq_getElem _ _ hlt]
      exact h.azis _ (List.getElem_mem hlt)
    · rw [List.getD_eq_default _ _ hge]
      norm_num
  obtain ⟨hnonneg, hbound⟩ := truncate_single_mul (n := n) (by omega) hazi.1 hazi.2
  unfold MechType.passed
  rw [hn, Int.cast_natCast]
  exact ⟨hnonneg, hbound.trans (by exact_mod_cast hle)⟩

/-! ### The lookups -/

theorem angleVert_inTable (h : Angled t s) (firing : Firing) : InTable (t.angleVert s firing) := by
  have hvert := (h.checked.getD (t.laser s firing.blk firing.chan)).1
  unfold InTable MechType.angleVert vertAdjust
  omega

theorem angleHoriz_inTable (h : Angled t s) {firing : Firing} (hfired : Fired firing) :
    InTable (t.turned s (t.angleHoriz s firing)) := by
  have hpassed := passed_bounds h hfired
  have hazimuth := hfired.azimuth
  unfold InTable MechType.turned MechType.angleHoriz
  split <;> omega

/-- The angle with the calibration is not below the table. -/
theorem angleHorizFinal_inTable (h : Angled t s) {firing : Firing} (hfired : Fired firing) :
    InTable (t.turned s (t.angleHorizFinal s firing)) ↔ CalibrationFits t s firing := by
  have hpassed := passed_bounds h hfired
  have hcalibration := (h.checked.getD (t.laser s firing.blk firing.chan)).2
  unfold InTable MechType.turned MechType.angleHorizFinal MechType.angleHoriz CalibrationFits
    horizAdjust
  dsimp only
  split <;> constructor <;> omega

end Angles

/-- **The angles that are looked up for a packet are in the table exactly when the calibration
leaves the horizontal angles of its channels below 450 degrees.** -/
theorem lookups_inTable (t : MechType) (pkts : List MechPkt) (filter : PointFilter)
    (pkt : AnglePkt t.constParam) (hazs : ∀ block ∈ pkt.blocks, block.azimuth < 36000) :
    (∀ angle ∈ t.lookups filter (t.decodeMsopHeader pkt.header (t.run pkts)) pkt, InTable angle) ↔
      ∀ firing ∈ t.firings filter (t.decodeMsopHeader pkt.header (t.run pkts)) pkt,
        CalibrationFits t (t.decodeMsopHeader pkt.header (t.run pkts)) firing := by
  have hangled := decodeMsopHeader_angled (run_angled t pkts) pkt.header
  unfold MechType.lookups
  rw [List.forall_mem_flatMap]
  apply forall₂_congr
  intro firing hfiring
  have hfired := firings_fired hangled hazs hfiring
  rw [← angleHorizFinal_inTable hangled hfired]
  constructor
  · exact fun hall => hall _ (List.mem_cons_of_mem _ List.mem_cons_self)
  · intro hfinal angle hangle
    simp only [List.mem_cons, List.not_mem_nil, or_false] at hangle
    rcases hangle with rfl | rfl | rfl
    · exact angleVert_inTable hangled firing
    · exact hfinal
    · exact angleHoriz_inTable hangled hfired

/-- A DIFOP packet of an RSHELIOS whose channels are turned by nearly 180 degrees. -/
def turnedDifop : DifopPkt where
  rpm := 600
  returnMode := 0x01
  vertAngleCali := fun _ => ⟨0, 0⟩
  horizAngleCali := fun _ => ⟨0, 17999⟩
  reserved2 := 0
  installMode := 0
  angles := []

/-- An MSOP packet with its blocks at 300 degrees. -/
def laterPkt : AnglePkt MechType.rshelios.constParam where
  header := ⟨0, 0, 0, 0, 0⟩
  blocks := List.replicate 12 ⟨rshelios.blockId, 30000, List.replicate 32 200⟩
  blocks_length := by decide
  distances_length := by decide

/-- No distance and no angle is left out. -/
def wholeFilter : PointFilter := ⟨fun _ => true, ⟨true, 0, 0, false⟩⟩

theorem lookups_beyond : ¬ ∀ (t : MechType) (pkts : List MechPkt) (filter : PointFilter)
    (pkt : AnglePkt t.constParam), (∀ block ∈ pkt.blocks, block.azimuth < 36000) →
      ∀ angle ∈ t.lookups filter (t.decodeMsopHeader pkt.header (t.run pkts)) pkt,
        InTable angle := by
  intro hall
  have hlater := hall .rshelios [.difop turnedDifop] wholeFilter laterPkt (by decide)
  revert hlater
  decide +kernel

theorem lookups_inTable_laterPkt :
    (∀ angle ∈ MechType.rshelios.lookups wholeFilter
        (MechType.rshelios.run [.difop turnedDifop]) laterPkt, InTable angle) ↔
      ∀ firing ∈ MechType.rshelios.firings wholeFilter
        (MechType.rshelios.run [.difop turnedDifop]) laterPkt,
        CalibrationFits .rshelios (MechType.rshelios.run [.difop turnedDifop]) firing :=
  lookups_inTable .rshelios [.difop turnedDifop] wholeFilter laterPkt (by decide)

end Rs
end SensorSupport
