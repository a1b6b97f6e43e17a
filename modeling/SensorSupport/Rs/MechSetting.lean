/-
# What DIFOP packets set (`decoder/decoder_mech.hpp`, `decoder/decoder_RS*.hpp`)

A DIFOP packet says how fast the lidar turns, how many returns its packets have, and the
calibration of its channels. `decodeDifopCommon` computes from it how many blocks there are in a
round, `blks_per_frame_`, and each decoder how many of them its MSOP packets bring,
`split_blks_per_frame_`: two for a block of the lidar when there are two returns, or, where a
block holds two firings, one for two of them when there is one return.

Most decoders compute that number for every DIFOP packet. RS16 and RSHELIOS_16P compute it when
the number of returns changes, and start with that of the other mode; RSAIRY and RSFAIRY compute
it for their first MSOP packets only. So it may be the number of an earlier speed
(`consistent_run`).

The lidars here take their calibration from DIFOP packets. The members are those that split and
angles depend on.

Key definitions: `MechSetting`, `decodeDifopCommon`, `MechType.decodeDifopPkt`,
`MechType.decodeMsopHeader`, `MechType.splitBlks`, `Consistent`.
Key theorems: `decodeDifopPkt_members`, `decodeMsopHeader_consistent`, `consistent_run`.
-/
import SensorSupport.Rs.ChanAngles
import SensorSupport.Rs.FiringTimes
import SensorSupport.Rs.MechDecoder

namespace SensorSupport
namespace Rs

open ChanAngles

/-- `RSEchoMode` -/
inductive RSEchoMode
  | echoSingle
  | echoDual
deriving DecidableEq

/-- Members of `DecoderMech` and of its decoders. -/
structure MechSetting where
  rps : UInt16
  blksPerFrame : UInt16
  splitBlksPerFrame : UInt16
  blockAzDiff : UInt16
  echoMode : RSEchoMode
  blockDuration : ℚ
  chanAzis : List ℚ
  chanAngles : ChanAngles
  anglesReady : Bool
  -- RSBP
  isFirstPkt : Bool
  reversal : Bool
  -- RSP80
  lidarModel80 : UInt8
  -- RSAIRY and RSFAIRY
  lidarModel : LidarModel
  bInit : Bool
  loadedInstallInfo : Bool
  installMode : UInt8

/-- A DIFOP packet, in host byte order. `rpm` is `rpm_set` of RSAIRYLITE_ETH, `reserved2` the
first byte of `reserved_2` of RSBP, and `angles` what RSAIRYLITE_ETH has from byte 348 on. -/
structure DifopPkt where
  rpm : UInt16
  returnMode : UInt8
  vertAngleCali : ℕ → RSCalibrationAngle
  horizAngleCali : ℕ → RSCalibrationAngle
  reserved2 : UInt8
  installMode : UInt8
  angles : List UInt8

/-- What decoders read from the header of an MSOP packet. -/
structure MsopHeader where
  dataType0 : UInt8
  dataType1 : UInt8
  lidarMode : UInt8
  lidarType : UInt8
  lidarModel : UInt8

/-! ### Echo modes -/

/-- `getEchoMode` of RS16, RS32, RSBP, RSHELIOS and RSHELIOS_16P. -/
def echoMode00 (mode : UInt8) : RSEchoMode := if mode = 0x00 then .echoDual else .echoSingle

/-- `getEchoMode` of RS48, RS80, RS128, RSAIRY and RSFAIRY. -/
def echoMode03 (mode : UInt8) : RSEchoMode := if mode = 0x03 then .echoDual else .echoSingle

/-- `getEchoMode` of RSP48, RSP80 and RSP128. -/
def echoModeP (mode : UInt8) : RSEchoMode := if mode ≤ 0x02 then .echoSingle else .echoDual

/-- Two returns take two blocks. -/
def splitDoubled (echoMode : RSEchoMode) (blks : UInt16) : UInt16 :=
  if echoMode = .echoDual then blks <<< 1 else blks

/-- A block holds two firings when there is one return. -/
def splitHalved (echoMode : RSEchoMode) (blks : UInt16) : UInt16 :=
  if echoMode = .echoDual then blks else blks >>> 1

/-! ### The constructors -/

/-- `blk_ts` -/
def MechType.blkTs : MechType → ℕ
  | .rs16 => 55500
  | .rs32 => 55520
  | .rsbp => 55520
  | .rshelios => 55560
  | .rshelios16p => 55560
  | .rs48 => 55552
  | .rs80 => 55552
  | .rs128 => 55550
  | .rsp48 => 55560
  | .rsp80 => 55560
  | .rsp128 => 55560
  | .rsairy => 111080
  | .rsfairy => 69462
  | .rsairyliteEth => 166667

/-- `CHAN_AZIS` of RS16 and RSHELIOS_16P, by `calcParam`. -/
def calcParam16 (blkTs : ℕ) (firingTss : List ℕ) : RSEchoMode → List ℚ
  | .echoSingle => singleChanAzis blkTs firingTss
  | .echoDual => dualChanAzis blkTs firingTss

/-- `CHAN_AZIS` of RSP80, by `calcParam`. -/
def calcParam80 (lidarModel : UInt8) : List ℚ :=
  chanAzis MechType.rsp80.blkTs (if lidarModel = 0x03 then rsp80vTss else rsp80Tss)

/-- `CHAN_AZIS` behind the constructor; that of RSP80 waits for a packet. -/
def MechType.initAzis : MechType → List ℚ
  | .rs16 => calcParam16 MechType.rs16.blkTs rs16Tss .echoSingle
  | .rs32 => chanAzis MechType.rs32.blkTs rs32Tss
  | .rsbp => chanAzis MechType.rsbp.blkTs rsbpTss
  | .rshelios => chanAzis MechType.rshelios.blkTs rsheliosTss
  | .rshelios16p => calcParam16 MechType.rshelios16p.blkTs rsheliosTss .echoSingle
  | .rs48 => chanAzis MechType.rs48.blkTs rs48Tss
  | .rs80 => chanAzis MechType.rs80.blkTs rs80Tss
  | .rs128 => chanAzis MechType.rs128.blkTs rs128Tss
  | .rsp48 => chanAzis MechType.rsp48.blkTs rsp48Tss
  | .rsp80 => List.replicate 128 0
  | .rsp128 => chanAzis MechType.rsp128.blkTs rsp128Tss
  | .rsairy => chanAzis MechType.rsairy.blkTs rsairyMTss
  | .rsfairy => chanAzis MechType.rsfairy.blkTs rsfairyTss
  | .rsairyliteEth => chanAzis MechType.rsairyliteEth.blkTs rsairyliteEthTss

/-- The constructors. -/
def MechType.initSetting (t : MechType) : MechSetting where
  rps := 10
  blksPerFrame := blksOf 10 (Rs.blockDuration t.blkTs)
  splitBlksPerFrame := blksOf 10 (Rs.blockDuration t.blkTs)
  blockAzDiff := 20
  echoMode := .echoSingle
  blockDuration := Rs.blockDuration t.blkTs
  chanAzis := t.initAzis
  chanAngles := ChanAngles.init (UInt16.ofNat t.constParam.laserNum)
  anglesReady := false
  isFirstPkt := true
  reversal := false
  lidarModel80 := 0
  lidarModel := .channel96
  bInit := false
  loadedInstallInfo := false
  installMode := 0xFF

/-! ### DIFOP packets -/

/-- Rounds per second; 0 is replaced. -/
def rpsOf (rps : UInt16) : UInt16 := if rps = 0 then 10 else rps

/-- The angles are loaded, and the decoder keeps whether they were. -/
def MechSetting.setAngles (s : MechSetting) (r : ChanAngles × Outcome) : MechSetting :=
  { s with chanAngles := r.1, anglesReady := r.2 = .ret 0 }

/-- `decodeDifopCommon` -/
def decodeDifopCommon (pkt : DifopPkt) (s : MechSetting) : MechSetting :=
  let rps := rpsOf (pkt.rpm / 60)
  let s := { s with
    rps
    blksPerFrame := blksOf rps s.blockDuration
    blockAzDiff := azDiffOf rps s.blockDuration }
  if s.anglesReady then s
  else s.setAngles (s.chanAngles.loadFromDifop pkt.vertAngleCali pkt.horizAngleCali)

/-- `decodeDifopAngles` of RSAIRYLITE_ETH. -/
def decodeDifopAngles (pkt : DifopPkt) (s : MechSetting) : MechSetting :=
  let rps := rpsOf (pkt.rpm / 600)
  let s := { s with
    rps
    blksPerFrame := blksOf rps s.blockDuration
    splitBlksPerFrame := blksOf rps s.blockDuration
    blockAzDiff := azDiffLiteOf rps s.blockDuration }
  if 0 < pkt.angles.length then
    s.setAngles (s.chanAngles.loadFromDifopAIRYLITE (some pkt.angles))
  else s

/-- The echo mode is set, and the number of blocks with it. -/
def MechSetting.setEcho (echoMode : RSEchoMode) (s : MechSetting) : MechSetting :=
  { s with echoMode, splitBlksPerFrame := splitDoubled echoMode s.blksPerFrame }

/-- `decodeDifopPkt` of RS16 and RSHELIOS_16P. -/
def decodeDifop16 (blkTs : ℕ) (firingTss : List ℕ) (pkt : DifopPkt) (s : MechSetting) :
    MechSetting :=
  let s := decodeDifopCommon pkt s
  let echoMode := echoMode00 pkt.returnMode
  if s.echoMode ≠ echoMode then
    { s with
      echoMode
      splitBlksPerFrame := splitHalved echoMode s.blksPerFrame
      chanAzis := calcParam16 blkTs firingTss echoMode }
  else s

/-- `decodeDifopPkt` of RSBP. -/
def decodeDifopBp (pkt : DifopPkt) (s : MechSetting) : MechSetting :=
  let s := { decodeDifopCommon pkt s with reversal := pkt.reserved2 ≠ 0 }
  s.setEcho (echoMode00 pkt.returnMode)

/-- `decodeDifopPkt` of RSAIRY. -/
def decodeDifopAiry (pkt : DifopPkt) (s : MechSetting) : MechSetting :=
  let s := decodeDifopCommon pkt s
  if pkt.installMode ≠ 0xFF then
    { s with installMode := pkt.installMode, loadedInstallInfo := true }
  else s

/-- `decodeDifopPkt` -/
def MechType.decodeDifopPkt : MechType → DifopPkt → MechSetting → MechSetting
  | .rs16, pkt, s => decodeDifop16 MechType.rs16.blkTs rs16Tss pkt s
  | .rs32, pkt, s => (decodeDifopCommon pkt s).setEcho (echoMode00 pkt.returnMode)
  | .rsbp, pkt, s => decodeDifopBp pkt s
  | .rshelios, pkt, s => (decodeDifopCommon pkt s).setEcho (echoMode00 pkt.returnMode)
  | .rshelios16p, pkt, s => decodeDifop16 MechType.rshelios16p.blkTs rsheliosTss pkt s
  | .rs48, pkt, s => (decodeDifopCommon pkt s).setEcho (echoMode03 pkt.returnMode)
  | .rs80, pkt, s => (decodeDifopCommon pkt s).setEcho (echoMode03 pkt.returnMode)
  | .rs128, pkt, s => (decodeDifopCommon pkt s).setEcho (echoMode03 pkt.returnMode)
  | .rsp48, pkt, s => (decodeDifopCommon pkt s).setEcho (echoModeP pkt.returnMode)
  | .rsp80, pkt, s => (decodeDifopCommon pkt s).setEcho (echoModeP pkt.returnMode)
  | .rsp128, pkt, s => (decodeDifopCommon pkt s).setEcho (echoModeP pkt.returnMode)
  | .rsairy, pkt, s => decodeDifopAiry pkt s
  | .rsfairy, pkt, s => decodeDifopCommon pkt s
  | .rsairyliteEth, pkt, s => decodeDifopAngles pkt s

/-! ### Headers of MSOP packets -/

/-- A loop puts other times in the place of the first ones. -/
def overwrite (new old : List ℚ) : List ℚ := new ++ old.drop new.length

/-- `CHAN_AZIS` of RSAIRY by its model and installation. -/
def airyAzis (model : LidarModel) (s : MechSetting) : List ℚ :=
  let blkTs := MechType.rsairy.blkTs
  match model with
  | .channel48 => overwrite (chanAzis blkTs rsairy48LTss) s.chanAzis
  | .channel96 =>
    if s.loadedInstallInfo ∧ s.installMode = 0x1 then
      overwrite (chanAzis blkTs rsairySideTss) s.chanAzis
    else if s.loadedInstallInfo ∧ s.installMode = 0x0 then
      overwrite (chanAzis blkTs rsairyNormalTss) s.chanAzis
    else s.chanAzis
  | .channel192 => s.chanAzis

/-- `bInit_` of RSAIRY by its model and installation. -/
def airyInit (model : LidarModel) (s : MechSetting) : Bool :=
  match model with
  | .channel48 => true
  | .channel96 =>
    s.loadedInstallInfo && (s.installMode == 0x1 || s.installMode == 0x0 || s.installMode == 0x2)
  | .channel192 => false

/-- What `decodeMsopPkt` of RSAIRY does first. -/
def decodeHeaderAiry (header : MsopHeader) (s : MechSetting) : MechSetting :=
  if header.dataType0 ≠ 0 then s
  else if s.bInit then s
  else
    let model := (getRsairyModel header.lidarMode).1
    let s := s.setEcho (echoMode03 header.dataType1)
    { s with
      lidarModel := model
      blockDuration := Rs.blockDuration MechType.rsairy.blkTs
      chanAzis := airyAzis model s
      bInit := airyInit model s }

/-- What `decodeMsopPkt` of RSFAIRY does first. -/
def decodeHeaderFairy (header : MsopHeader) (s : MechSetting) : MechSetting :=
  if header.dataType0 ≠ 0 then s
  else if s.bInit then s
  else
    let model := (getRsfairyModel header.lidarMode).1
    let s := { s.setEcho (echoMode03 header.dataType1) with lidarModel := model, bInit := true }
    if model = .channel48 then
      { s with
        blockDuration := Rs.blockDuration MechType.rsfairy.blkTs
        chanAzis := overwrite (chanAzis MechType.rsfairy.blkTs rsfairy48Tss) s.chanAzis }
    else s

/-- What `decodeMsopPkt` of RSBP does first. -/
def decodeHeaderBp (header : MsopHeader) (s : MechSetting) : MechSetting :=
  if !s.isFirstPkt then s
  else
    let s := { s with isFirstPkt := false }
    if header.lidarType = 0x03 ∧ header.lidarModel = 0x04 then
      { s with blockDuration := Rs.blockDuration 55560, chanAzis := chanAzis 55560 rsbpV4Tss }
    else s

/-- What `decodeMsopPkt` of RSP80 does first. -/
def decodeHeaderP80 (header : MsopHeader) (s : MechSetting) : MechSetting :=
  if s.lidarModel80 ≠ header.lidarModel then
    { s with lidarModel80 := header.lidarModel, chanAzis := calcParam80 header.lidarModel }
  else s

/-- What `decodeMsopPkt` does before its loops. -/
def MechType.decodeMsopHeader : MechType → MsopHeader → MechSetting → MechSetting
  | .rsairy => decodeHeaderAiry
  | .rsfairy => decodeHeaderFairy
  | .rsbp => decodeHeaderBp
  | .rsp80 => decodeHeaderP80
  | _ => fun _ s => s

/-! ### Packets -/

/-- A DIFOP packet, or an MSOP packet that is decoded, by its header. -/
inductive MechPkt
  | difop (pkt : DifopPkt)
  | msop (header : MsopHeader)

namespace MechType

def step (t : MechType) (s : MechSetting) : MechPkt → MechSetting
  | .difop pkt => t.decodeDifopPkt pkt s
  | .msop header => t.decodeMsopHeader header s

/-- The members behind some packets. -/
def run (t : MechType) (pkts : List MechPkt) : MechSetting := pkts.foldl t.step t.initSetting

/-- How many blocks of MSOP packets there are in a round of `blks` blocks, as the decoder computes
it where the echo mode changes. That of RSAIRYLITE_ETH does not. -/
def splitBlks : MechType → RSEchoMode → UInt16 → UInt16
  | .rs16 => splitHalved
  | .rshelios16p => splitHalved
  | .rsairyliteEth => fun _ blks => blks
  | _ => splitDoubled

end MechType

/-- The number of blocks to split at is that of the echo mode and the speed in force. -/
def Consistent (t : MechType) (s : MechSetting) : Prop :=
  s.splitBlksPerFrame = t.splitBlks s.echoMode s.blksPerFrame

/-- `blks_per_frame_` behind a DIFOP packet. -/
def nextBlks (pkt : DifopPkt) (s : MechSetting) : UInt16 :=
  blksOf (rpsOf (pkt.rpm / 60)) s.blockDuration

/-- A DIFOP packet of RSAIRY or RSFAIRY leaves the number of blocks as it is. -/
def SameBlks (t : MechType) (s : MechSetting) (pkt : DifopPkt) : Prop :=
  t = .rsairy ∨ t = .rsfairy →
    splitDoubled s.echoMode (nextBlks pkt s) = splitDoubled s.echoMode s.blksPerFrame

section Steps

variable {t : MechType} {s : MechSetting}

/-- What `decodeDifopCommon` leaves alone, and the number of blocks. -/
theorem decodeDifopCommon_members (pkt : DifopPkt) (s : MechSetting) :
    (decodeDifopCommon pkt s).echoMode = s.echoMode ∧
      (decodeDifopCommon pkt s).splitBlksPerFrame = s.splitBlksPerFrame ∧
      (decodeDifopCommon pkt s).blksPerFrame = nextBlks pkt s := by
  unfold decodeDifopCommon
  dsimp only
  split <;> exact ⟨rfl, rfl, rfl⟩

/-- Where the echo mode is set, the number of blocks is that of the mode. -/
theorem setEcho_consistent (ht : t.splitBlks = splitDoubled) (echoMode : RSEchoMode)
    (s : MechSetting) : Consistent t (s.setEcho echoMode) := by
  unfold Consistent
  rw [ht]
  rfl

/-- RS16 and RSHELIOS_16P: the number is right behind a change of the echo mode, and otherwise
when the one that is there happens to be that of the new speed. -/
theorem decodeDifop16_consistent (ht : t.splitBlks = splitHalved) (blkTs : ℕ)
    (firingTss : List ℕ) (pkt : DifopPkt) (s : MechSetting) :
    Consistent t (decodeDifop16 blkTs firingTss pkt s) ↔
      s.echoMode ≠ echoMode00 pkt.returnMode ∨
        s.splitBlksPerFrame = splitHalved s.echoMode (nextBlks pkt s) := by
  obtain ⟨hecho, hsplit, hblks⟩ := decodeDifopCommon_members pkt s
  unfold Consistent decodeDifop16
  dsimp only
  rw [ht, hecho]
  by_cases h : s.echoMode = echoMode00 pkt.returnMode
  · rw [if_neg (not_not_intro h), hecho, hsplit, hblks]
    exact (or_iff_right (not_not_intro h)).symm
  · rw [if_pos h]
    exact iff_of_true rfl (.inl h)

theorem decodeDifopAiry_members (pkt : DifopPkt) (s : MechSetting) :
    (decodeDifopAiry pkt s).echoMode = s.echoMode ∧
      (decodeDifopAiry pkt s).splitBlksPerFrame = s.splitBlksPerFrame ∧
      (decodeDifopAiry pkt s).blksPerFrame = nextBlks pkt s := by
  have hmembers := decodeDifopCommon_members pkt s
  unfold decodeDifopAiry
  dsimp only
  split <;> exact hmembers

theorem decodeDifopAngles_consistent (pkt : DifopPkt) (s : MechSetting) :
    Consistent .rsairyliteEth (decodeDifopAngles pkt s) := by
  unfold Consistent decodeDifopAngles
  dsimp only
  split <;> rfl

/-- Where a DIFOP packet leaves the echo mode and the number alone, the number stays right when
the blocks are as many as before. -/
theorem consistent_iff_sameBlks {s' : MechSetting} (ht : t.splitBlks = splitDoubled)
    (hmodel : t = .rsairy ∨ t = .rsfairy) (h : Consistent t s) {pkt : DifopPkt}
    (hmembers : s'.echoMode = s.echoMode ∧ s'.splitBlksPerFrame = s.splitBlksPerFrame ∧
      s'.blksPerFrame = nextBlks pkt s) : Consistent t s' ↔ SameBlks t s pkt := by
  obtain ⟨hecho, hsplit, hblks⟩ := hmembers
  unfold Consistent at h ⊢
  unfold SameBlks
  rw [ht] at h ⊢
  rw [hecho, hsplit, hblks, h]
  exact ⟨fun heq _ => heq.symm, fun hsame => (hsame hmodel).symm⟩

/-- **A DIFOP packet keeps the number right exactly when it leaves the number of blocks as it
is, if it is for RSAIRY or RSFAIRY.** -/
theorem decodeDifopPkt_consistent (h16 : t ≠ .rs16) (h16p : t ≠ .rshelios16p) (h : Consistent t s)
    (pkt : DifopPkt) : Consistent t (t.decodeDifopPkt pkt s) ↔ SameBlks t s pkt := by
  have hother : ∀ {t : MechType}, t ≠ .rsairy → t ≠ .rsfairy → SameBlks t s pkt :=
    fun h₁ h₂ hor => (hor.elim h₁ h₂).elim
  cases t with
  | rs16 => exact absurd rfl h16
  | rshelios16p => exact absurd rfl h16p
  | rsairy => exact consistent_iff_sameBlks rfl (.inl rfl) h (decodeDifopAiry_members pkt s)
  | rsfairy => exact consistent_iff_sameBlks rfl (.inr rfl) h (decodeDifopCommon_members pkt s)
  | rsairyliteEth =>
    exact iff_of_true (decodeDifopAngles_consistent pkt s) (hother nofun nofun)
  | rsbp => exact iff_of_true (setEcho_consistent rfl _ _) (hother nofun nofun)
  | _ => exact iff_of_true (setEcho_consistent rfl _ _) (hother nofun nofun)

/-- The header of an MSOP packet keeps the number right. -/
theorem decodeMsopHeader_consistent (h : Consistent t s) (header : MsopHeader) :
    Consistent t (t.decodeMsopHeader header s) := by
  cases t with
  | rsairy =>
    show Consistent _ (decodeHeaderAiry header s)
    unfold decodeHeaderAiry
    split
    · exact h
    · split
      · exact h
      · rfl
  | rsfairy =>
    show Consistent _ (decodeHeaderFairy header s)
    unfold decodeHeaderFairy
    split
    · exact h
    · split
      · exact h
      · dsimp only
        split <;> rfl
  | rsbp =>
    show Consistent _ (decodeHeaderBp header s)
    unfold decodeHeaderBp
    split
    · exact h
    · dsimp only
      split <;> exact h
  | rsp80 =>
    show Consistent _ (decodeHeaderP80 header s)
    unfold decodeHeaderP80
    split <;> exact h
  | _ => exact h

/-- RS16 and RSHELIOS_16P start with the number of the other echo mode. -/
theorem initSetting_consistent (t : MechType) :
    Consistent t t.initSetting ↔ t ≠ .rs16 ∧ t ≠ .rshelios16p := by
  have h16 : blksOf 10 (blockDuration 55500) ≠ blksOf 10 (blockDuration 55500) >>> 1 := by
    decide +kernel
  have h16p : blksOf 10 (blockDuration 55560) ≠ blksOf 10 (blockDuration 55560) >>> 1 := by
    decide +kernel
  cases t with
  | rs16 => exact iff_of_false h16 fun h => h.1 rfl
  | rshelios16p => exact iff_of_false h16p fun h => h.2 rfl
  | _ => exact iff_of_true rfl ⟨nofun, nofun⟩

end Steps

/-! ### Runs -/

theorem run_concat (t : MechType) (pkts : List MechPkt) (pkt : MechPkt) :
    t.run (pkts ++ [pkt]) = t.step (t.run pkts) pkt := by
  unfold MechType.run
  rw [List.foldl_append]
  rfl

/-- **The number is right in all states of a run exactly when it is right at the start, as it is
not for RS16 and RSHELIOS_16P, and no DIFOP packet of an RSAIRY or RSFAIRY changes the number
of blocks.** -/
theorem consistent_run (t : MechType) (pkts : List MechPkt) :
    (∀ pre post, pkts = pre ++ post → Consistent t (t.run pre)) ↔
      t ≠ .rs16 ∧ t ≠ .rshelios16p ∧
        ∀ pre pkt post, pkts = pre ++ .difop pkt :: post → SameBlks t (t.run pre) pkt := by
  constructor
  · intro hall
    obtain ⟨h16, h16p⟩ := (initSetting_consistent t).mp (hall [] pkts rfl)
    refine ⟨h16, h16p, ?_⟩
    rintro pre pkt post hpkts
    have hbefore := hall pre (.difop pkt :: post) hpkts
    have hafter := hall (pre ++ [.difop pkt]) post (hpkts.trans (List.append_cons ..))
    rw [run_concat] at hafter
    exact (decodeDifopPkt_consistent h16 h16p hbefore pkt).mp hafter
  · rintro ⟨h16, h16p, hsame⟩ pre
    induction pre using List.reverseRecOn with
    | nil => exact fun _ _ => (initSetting_consistent t).mpr ⟨h16, h16p⟩
    | append_singleton pre pkt ih =>
      intro post hpkts
      have hsplit : pkts = pre ++ pkt :: post := hpkts.trans (List.append_cons ..).symm
      have hbefore := ih (pkt :: post) hsplit
      rw [run_concat]
      cases pkt with
      | difop pkt =>
        exact (decodeDifopPkt_consistent h16 h16p hbefore pkt).mpr (hsame pre pkt post hsplit)
      | msop header => exact decodeMsopHeader_consistent hbefore header

/-- A DIFOP packet of an RS16 with 600 rounds per minute and one return: the lidar has 900 blocks
of MSOP packets in a round, and frames have 1801. -/
def rs16Difop : DifopPkt where
  rpm := 600
  returnMode := 0x01
  vertAngleCali := fun _ => ⟨0, 0⟩
  horizAngleCali := fun _ => ⟨0, 0⟩
  reserved2 := 0
  installMode := 0
  angles := []

theorem rs16_stale : ¬ ∀ (t : MechType) (pkts pre post : List MechPkt), pkts = pre ++ post →
    Consistent t (t.run pre) := by
  intro hall
  have hrs16 := hall .rs16 [.difop rs16Difop] [.difop rs16Difop] [] rfl
  have hiff := (decodeDifop16_consistent (t := .rs16) rfl MechType.rs16.blkTs rs16Tss rs16Difop
    MechType.rs16.initSetting).mp hrs16
  revert hiff
  decide +kernel

end Rs
end SensorSupport
