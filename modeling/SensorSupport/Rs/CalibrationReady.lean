/-
# Calibration of mechanical decoders (`decoder/decoder_mech.hpp`, `decoder/decoder.hpp`)

With `wait_for_difop`, `processMsopPkt` drops MSOP packets until `angles_ready_` says that a
DIFOP packet has supplied angles. `decodeDifopCommon` loads angles only until then, so that the
first calibration that a load accepted stays, and the flag with it. `decodeDifopAngles` of
RSAIRYLITE_ETH loads those of each DIFOP packet: a load that fails leaves the calibration in
place, and the flag is cleared all the same (`neverWithdrawn_iff`).

The packets are those that reach the decoder, with what it compares before it decodes them; the
exceptions of these checks are not modelled here.

Key definitions: `processDifopPkt`, `processMsopPkt`, `Supplies`, `calibrationOf`, `NeverWithdrawn`.
Key theorems: `decodeDifopPkt_angles`, `Follows.run`, `neverWithdrawn_iff`.
-/
import SensorSupport.Rs.MechSetting

namespace SensorSupport
namespace Rs

open ChanAngles

deriving instance DecidableEq for MechType

/-! ### Packets from the lidar -/

/-- `DIFOP_LEN` -/
def MechType.difopLen : MechType → ℕ
  | .rsairyliteEth => 540
  | _ => 1248

/-- `DIFOP_ID` -/
def MechType.difopId : MechType → List UInt8
  | .rsairyliteEth => [0x5A, 0xFF, 0x55, 0xAA]
  | _ => [0xA5, 0xFF, 0x00, 0x5A, 0x11, 0x11, 0x55, 0x55]

/-- A DIFOP packet that is to be checked: its size, and as many of its first bytes as the id has.
What RSAIRYLITE_ETH has from byte 348 on is the rest of the packet. -/
structure DifopArrival where
  size : ℕ
  id : List UInt8
  pkt : DifopPkt
  angles_length : pkt.angles.length = size - 348

/-- An MSOP packet that is to be checked. -/
structure MsopArrival where
  size : ℕ
  id : List UInt8
  header : MsopHeader

inductive Arrival
  | difop (p : DifopArrival)
  | msop (p : MsopArrival)

/-- The comparisons of `processDifopPkt`. -/
def DifopArrival.Right (t : MechType) (p : DifopArrival) : Prop :=
  p.size = t.difopLen ∧ p.id = t.difopId

/-- The comparisons of `processMsopPkt`. -/
def MsopArrival.Right (t : MechType) (p : MsopArrival) : Prop :=
  p.size = t.constParam.msopLen ∧ p.id = t.constParam.msopId

instance (t : MechType) (p : DifopArrival) : Decidable (p.Right t) :=
  inferInstanceAs (Decidable (_ ∧ _))

instance (t : MechType) (p : MsopArrival) : Decidable (p.Right t) :=
  inferInstanceAs (Decidable (_ ∧ _))

namespace MechSetting

/-- `processDifopPkt` -/
def processDifopPkt (t : MechType) (p : DifopArrival) (s : MechSetting) : MechSetting :=
  if p.size ≠ t.difopLen then s
  else if p.id ≠ t.difopId then s
  else t.decodeDifopPkt p.pkt s

/-- `processMsopPkt`, and the angles that the packet is decoded with, if it is. -/
def processMsopPkt (t : MechType) (waitForDifop : Bool) (p : MsopArrival) (s : MechSetting) :
    MechSetting × Option ChanAngles :=
  if waitForDifop && !s.anglesReady then (s, none)
  else if p.size ≠ t.constParam.msopLen then (s, none)
  else if p.id ≠ t.constParam.msopId then (s, none)
  else
    let s := t.decodeMsopHeader p.header s
    (s, some s.chanAngles)

def receive (t : MechType) (waitForDifop : Bool) (s : MechSetting) : Arrival → MechSetting
  | .difop p => s.processDifopPkt t p
  | .msop p => (s.processMsopPkt t waitForDifop p).1

/-- The members behind some packets from the lidar. -/
def receiveAll (t : MechType) (waitForDifop : Bool) (pkts : List Arrival) : MechSetting :=
  pkts.foldl (receive t waitForDifop) t.initSetting

end MechSetting

open MechSetting

/-! ### Accepted calibrations -/

/-- The load that a decoder makes of the angles of a DIFOP packet. -/
def MechType.loadAngles (t : MechType) (pkt : DifopPkt) (s : ChanAngles) : ChanAngles × Outcome :=
  match t with
  | .rsairyliteEth => s.loadFromDifopAIRYLITE (some pkt.angles)
  | _ => s.loadFromDifop pkt.vertAngleCali pkt.horizAngleCali

/-- The angles before any load. -/
def MechType.noAngles (t : MechType) : ChanAngles := .init (UInt16.ofNat t.constParam.laserNum)

/-- A DIFOP packet of the lidar, with angles that the load accepts. -/
def Supplies (t : MechType) (p : DifopArrival) : Prop :=
  p.Right t ∧ (t.loadAngles p.pkt t.noAngles).2 = .ret 0

/-- A DIFOP packet of the lidar, with angles that the load rejects. -/
def Rejected (t : MechType) (p : DifopArrival) : Prop :=
  p.Right t ∧ (t.loadAngles p.pkt t.noAngles).2 ≠ .ret 0

instance (t : MechType) (p : DifopArrival) : Decidable (Supplies t p) :=
  inferInstanceAs (Decidable (_ ∧ _))

instance (t : MechType) (p : DifopArrival) : Decidable (Rejected t p) :=
  inferInstanceAs (Decidable (_ ∧ _))

/-- The calibration that a packet supplies. -/
def supplied (t : MechType) : Arrival → Option ChanAngles
  | .difop p => if Supplies t p then some (t.loadAngles p.pkt t.noAngles).1 else none
  | .msop _ => none

/-- The calibration in force behind some packets: the first one that was supplied, and for
RSAIRYLITE_ETH the last one. -/
def calibrationOf (t : MechType) (pkts : List Arrival) : Option ChanAngles :=
  let calibrations := pkts.filterMap (supplied t)
  if t = .rsairyliteEth then calibrations.getLast? else calibrations.head?

/-- The flag is set, and an MSOP packet of the lidar is decoded, with the calibration `c`. -/
structure DecodesWith (t : MechType) (waitForDifop : Bool) (c : ChanAngles) (s : MechSetting) :
    Prop where
  ready : s.anglesReady = true
  decoded : ∀ p : MsopArrival, p.Right t → (s.processMsopPkt t waitForDifop p).2 = some c

/-- Behind a DIFOP packet with angles that the load accepted, the decoder stays ready for MSOP
packets, and decodes them with the calibration in force. -/
def NeverWithdrawn (t : MechType) (waitForDifop : Bool) (pkts : List Arrival) : Prop :=
  ∀ pre post, pkts = pre ++ post → ∀ p, .difop p ∈ pre → Supplies t p →
    ∃ c, calibrationOf t pre = some c ∧ DecodesWith t waitForDifop c (receiveAll t waitForDifop pre)

/-- No DIFOP packet with angles that the load rejects follows one with angles that it accepted, if
the lidar is an RSAIRYLITE_ETH. -/
def Steady (t : MechType) (pkts : List Arrival) : Prop :=
  t = .rsairyliteEth → ∀ pre p post, pkts = pre ++ .difop p :: post → Rejected t p →
    ∀ q, .difop q ∈ pre → ¬ Supplies t q

section Loads

variable {t : MechType} {s s' : ChanAngles}

/-- What a load returns, and the angles that it puts in place, do not depend on the angles that
are there. -/
theorem loadAngles_congr (t : MechType) (pkt : DifopPkt) (h : s.chanNum = s'.chanNum) :
    (t.loadAngles pkt s).2 = (t.loadAngles pkt s').2 ∧
      ((t.loadAngles pkt s).2 = .ret 0 → (t.loadAngles pkt s).1 = (t.loadAngles pkt s').1) := by
  have hswap : ∀ vs hs, s.swap vs hs = s'.swap vs hs := by
    intro vs hs
    unfold swap
    rw [h]
  have hfailed : (Outcome.ret (-1) = .ret 0 → s = s') := fun h => nomatch h
  have hdifop : ∀ vert horiz, (s.loadFromDifop vert horiz).2 = (s'.loadFromDifop vert horiz).2 ∧
      ((s.loadFromDifop vert horiz).2 = .ret 0 →
        (s.loadFromDifop vert horiz).1 = (s'.loadFromDifop vert horiz).1) := by
    intro vert horiz
    unfold loadFromDifop
    rw [← h]
    cases readDifop vert horiz s.chanNum.toNat 0 [] [] with
    | none => exact ⟨rfl, hfailed⟩
    | some angles =>
      dsimp only
      split
      · exact ⟨rfl, fun _ => hswap _ _⟩
      · exact ⟨rfl, hfailed⟩
  have hlite : ∀ packet,
      (s.loadFromDifopAIRYLITE packet).2 = (s'.loadFromDifopAIRYLITE packet).2 ∧
        ((s.loadFromDifopAIRYLITE packet).2 = .ret 0 →
          (s.loadFromDifopAIRYLITE packet).1 = (s'.loadFromDifopAIRYLITE packet).1) := by
    intro packet
    unfold loadFromDifopAIRYLITE
    cases packet with
    | none => exact ⟨rfl, hfailed⟩
    | some packet =>
      dsimp only
      split
      · exact ⟨rfl, hfailed⟩
      · split
        · exact ⟨rfl, fun _ => hswap _ _⟩
        · exact ⟨rfl, hfailed⟩
  cases t with
  | rsairyliteEth => exact hlite (some pkt.angles)
  | _ => exact hdifop pkt.vertAngleCali pkt.horizAngleCali

/-- A load fails and leaves the angles alone, or keeps the number of channels. -/
theorem loadAngles_cases (t : MechType) (pkt : DifopPkt) (s : ChanAngles) :
    (t.loadAngles pkt s).1.chanNum = s.chanNum ∧
      ((t.loadAngles pkt s).2 ≠ .ret 0 → (t.loadAngles pkt s).1 = s) := by
  have hcases : ∃ n, FailsOrSwaps s n (t.loadAngles pkt s) := by
    cases t with
    | rsairyliteEth => exact ⟨24, loadFromDifopAIRYLITE_cases s (some pkt.angles)⟩
    | _ => exact ⟨_, loadFromDifop_cases s pkt.vertAngleCali pkt.horizAngleCali⟩
  obtain ⟨n, ⟨hne, hsame⟩ | ⟨vs, hs, hswap, -⟩⟩ := hcases
  · exact ⟨congrArg ChanAngles.chanNum hsame, fun _ => hsame⟩
  · rw [hswap]
    exact ⟨rfl, fun hne => absurd rfl hne⟩

end Loads

section Steps

variable {t : MechType} {s : MechSetting}

/-- A decoder that is ready leaves the angles alone, RSAIRYLITE_ETH apart; otherwise they are
loaded, and the flag says how that went. -/
def SetsAngles (t : MechType) (pkt : DifopPkt) (s s' : MechSetting) : Prop :=
  if t ≠ .rsairyliteEth ∧ s.anglesReady = true then
    s'.chanAngles = s.chanAngles ∧ s'.anglesReady = true
  else
    s'.chanAngles = (t.loadAngles pkt s.chanAngles).1 ∧
      s'.anglesReady = decide ((t.loadAngles pkt s.chanAngles).2 = .ret 0)

theorem decodeDifopCommon_angles (ht : t ≠ .rsairyliteEth) (pkt : DifopPkt) (s : MechSetting) :
    SetsAngles t pkt s (decodeDifopCommon pkt s) := by
  have hload : t.loadAngles pkt s.chanAngles =
      s.chanAngles.loadFromDifop pkt.vertAngleCali pkt.horizAngleCali := by
    cases t with
    | rsairyliteEth => exact absurd rfl ht
    | _ => rfl
  unfold SetsAngles decodeDifopCommon
  rw [hload]
  dsimp only
  by_cases hready : s.anglesReady = true
  · rw [if_pos ⟨ht, hready⟩, if_pos hready]
    exact ⟨rfl, hready⟩
  · rw [if_neg fun h => hready h.2, if_neg hready]
    exact ⟨rfl, rfl⟩

theorem decodeDifopAngles_angles {pkt : DifopPkt} (h : 0 < pkt.angles.length) (s : MechSetting) :
    SetsAngles .rsairyliteEth pkt s (decodeDifopAngles pkt s) := by
  unfold SetsAngles decodeDifopAngles
  rw [if_neg fun h => h.1 rfl]
  dsimp only
  rw [if_pos h]
  exact ⟨rfl, rfl⟩

/-- **What a DIFOP packet makes of the angles and of the flag.** -/
theorem decodeDifopPkt_angles {pkt : DifopPkt} (h : t = .rsairyliteEth → 0 < pkt.angles.length)
    (s : MechSetting) : SetsAngles t pkt s (t.decodeDifopPkt pkt s) := by
  have h16 : ∀ blkTs firingTss,
      (decodeDifop16 blkTs firingTss pkt s).chanAngles = (decodeDifopCommon pkt s).chanAngles ∧
        (decodeDifop16 blkTs firingTss pkt s).anglesReady =
          (decodeDifopCommon pkt s).anglesReady := by
    intro blkTs firingTss
    unfold decodeDifop16
    dsimp only
    split <;> exact ⟨rfl, rfl⟩
  have hairy : (decodeDifopAiry pkt s).chanAngles = (decodeDifopCommon pkt s).chanAngles ∧
      (decodeDifopAiry pkt s).anglesReady = (decodeDifopCommon pkt s).anglesReady := by
    unfold decodeDifopAiry
    dsimp only
    split <;> exact ⟨rfl, rfl⟩
  have hsame : ∀ {t : MechType} {s' : MechSetting}, t ≠ .rsairyliteEth →
      s'.chanAngles = (decodeDifopCommon pkt s).chanAngles ∧
        s'.anglesReady = (decodeDifopCommon pkt s).anglesReady → SetsAngles t pkt s s' := by
    rintro t s' ht ⟨hangles, hready⟩
    have hcommon := decodeDifopCommon_angles ht pkt s
    unfold SetsAngles at hcommon ⊢
    rwa [hangles, hready]
  cases t with
  | rsairyliteEth => exact decodeDifopAngles_angles (h rfl) s
  | rs16 => exact hsame nofun (h16 ..)
  | rshelios16p => exact hsame nofun (h16 ..)
  | rsairy => exact hsame nofun hairy
  | _ => exact hsame nofun ⟨rfl, rfl⟩

/-- The header of an MSOP packet leaves angles and flag alone. -/
theorem decodeMsopHeader_angles (t : MechType) (header : MsopHeader) (s : MechSetting) :
    (t.decodeMsopHeader header s).chanAngles = s.chanAngles ∧
      (t.decodeMsopHeader header s).anglesReady = s.anglesReady := by
  cases t with
  | rsairy =>
    show (decodeHeaderAiry header s).chanAngles = _ ∧ (decodeHeaderAiry header s).anglesReady = _
    unfold decodeHeaderAiry
    split
    · exact ⟨rfl, rfl⟩
    · split <;> exact ⟨rfl, rfl⟩
  | rsfairy =>
    show (decodeHeaderFairy header s).chanAngles = _ ∧ (decodeHeaderFairy header s).anglesReady = _
    unfold decodeHeaderFairy
    split
    · exact ⟨rfl, rfl⟩
    · split
      · exact ⟨rfl, rfl⟩
      · dsimp only
        split <;> exact ⟨rfl, rfl⟩
  | rsbp =>
    show (decodeHeaderBp header s).chanAngles = _ ∧ (decodeHeaderBp header s).anglesReady = _
    unfold decodeHeaderBp
    split
    · exact ⟨rfl, rfl⟩
    · dsimp only
      split <;> exact ⟨rfl, rfl⟩
  | rsp80 =>
    show (decodeHeaderP80 header s).chanAngles = _ ∧ (decodeHeaderP80 header s).anglesReady = _
    unfold decodeHeaderP80
    split <;> exact ⟨rfl, rfl⟩
  | _ => exact ⟨rfl, rfl⟩

end Steps

/-! ### Runs -/

section Runs

variable {t : MechType} {waitForDifop : Bool} {pkts : List Arrival} {s : MechSetting}

theorem supplied_eq_none {pkt : Arrival} :
    supplied t pkt = none ↔ ∀ p, pkt = .difop p → ¬ Supplies t p := by
  cases pkt with
  | msop p => exact iff_of_true rfl fun _ h => nomatch h
  | difop p =>
    unfold supplied
    rw [ite_eq_right_iff]
    constructor
    · rintro hnone q ⟨⟩ hsup
      exact nomatch hnone hsup
    · exact fun hnot hsup => absurd hsup (hnot p rfl)

/-- There is a calibration when some packet supplied one. -/
theorem calibrationOf_eq_none :
    calibrationOf t pkts = none ↔ ∀ p, .difop p ∈ pkts → ¬ Supplies t p := by
  have hempty : calibrationOf t pkts = none ↔ pkts.filterMap (supplied t) = [] := by
    unfold calibrationOf
    dsimp only
    split
    · exact List.getLast?_eq_none_iff
    · exact List.head?_eq_none_iff
  rw [hempty, List.filterMap_eq_nil_iff]
  constructor
  · exact fun hnone p hp => supplied_eq_none.mp (hnone _ hp) p rfl
  · exact fun hnone pkt hpkt => supplied_eq_none.mpr fun p hp => hnone p (hp ▸ hpkt)

/-- The calibration behind one more packet. -/
theorem calibrationOf_concat (pkts : List Arrival) (pkt : Arrival) :
    calibrationOf t (pkts ++ [pkt]) =
      if t = .rsairyliteEth then (supplied t pkt).or (calibrationOf t pkts)
      else (calibrationOf t pkts).or (supplied t pkt) := by
  have hlast : ([pkt].filterMap (supplied t)).getLast? = supplied t pkt ∧
      ([pkt].filterMap (supplied t)).head? = supplied t pkt := by
    cases h : supplied t pkt with
    | none => rw [List.filterMap_cons_none h]; exact ⟨rfl, rfl⟩
    | some c => rw [List.filterMap_cons_some h]; exact ⟨rfl, rfl⟩
  unfold calibrationOf
  dsimp only
  rw [List.filterMap_append, List.getLast?_append, List.head?_append, hlast.1, hlast.2]
  split <;> rfl

/-- The angles are those of the calibration in force, and the flag says whether there is one. -/
structure Follows (t : MechType) (pkts : List Arrival) (s : MechSetting) : Prop where
  chans : s.chanAngles.chanNum = t.noAngles.chanNum
  angles : s.chanAngles = (calibrationOf t pkts).getD t.noAngles
  ready : Steady t pkts → s.anglesReady = (calibrationOf t pkts).isSome

theorem Steady.of_append {pre post : List Arrival} (h : Steady t (pre ++ post)) : Steady t pre := by
  rintro ht pre' p post' rfl
  exact h ht pre' p (post' ++ post) (by rw [List.append_assoc, List.cons_append])

/-- A packet that supplies no calibration, and leaves angles and flag alone. -/
theorem Follows.same {s' : MechSetting} (h : Follows t pkts s) {pkt : Arrival}
    (hnone : supplied t pkt = none)
    (hsame : s'.chanAngles = s.chanAngles ∧ s'.anglesReady = s.anglesReady) :
    Follows t (pkts ++ [pkt]) s' := by
  have hcal : calibrationOf t (pkts ++ [pkt]) = calibrationOf t pkts := by
    rw [calibrationOf_concat, hnone, Option.or_none, Option.none_or, ite_self]
  constructor
  · rw [hsame.1]
    exact h.chans
  · rw [hcal, hsame.1]
    exact h.angles
  · intro hsteady
    rw [hcal, hsame.2]
    exact h.ready hsteady.of_append

/-- A DIFOP packet of the lidar. -/
theorem Follows.difop {s' : MechSetting} (h : Follows t pkts s) {p : DifopArrival}
    (hp : p.Right t) (hsets : SetsAngles t p.pkt s s') :
    Follows t (pkts ++ [.difop p]) s' := by
  obtain ⟨hcode, hangles⟩ := loadAngles_congr t p.pkt h.chans
  obtain ⟨hchans, hfailed⟩ := loadAngles_cases t p.pkt s.chanAngles
  have hsteady : Steady t (pkts ++ [.difop p]) → Steady t pkts := Steady.of_append
  unfold SetsAngles at hsets
  split at hsets
  · -- The calibration that is in force stays.
    rename_i hstays
    have hloaded : Steady t pkts := fun ht => absurd ht hstays.1
    obtain ⟨c, hc⟩ := Option.isSome_iff_exists.mp ((h.ready hloaded).symm.trans hstays.2)
    have hcal : calibrationOf t (pkts ++ [.difop p]) = some c := by
      rw [calibrationOf_concat, if_neg hstays.1, hc, Option.some_or]
    have hangles := h.angles
    rw [hc] at hangles
    constructor
    · rw [hsets.1]
      exact h.chans
    · rw [hcal, hsets.1]
      exact hangles
    · exact fun _ => hsets.2.trans (congrArg Option.isSome hcal).symm
  · rename_i hloads
    by_cases hret : (t.loadAngles p.pkt s.chanAngles).2 = .ret 0
    · -- It supplies the calibration.
      have hsup : supplied t (.difop p) = some (t.loadAngles p.pkt t.noAngles).1 :=
        if_pos ⟨hp, hcode ▸ hret⟩
      have hcal : calibrationOf t (pkts ++ [.difop p]) =
          some (t.loadAngles p.pkt t.noAngles).1 := by
        rw [calibrationOf_concat, hsup]
        by_cases ht : t = .rsairyliteEth
        · rw [if_pos ht, Option.some_or]
        · have hnone : calibrationOf t pkts = none := by
            rw [← Option.not_isSome_iff_eq_none, ← h.ready fun h => absurd h ht]
            exact fun hready => hloads ⟨ht, hready⟩
          rw [if_neg ht, hnone, Option.none_or]
      constructor
      · rw [hsets.1, hchans]
        exact h.chans
      · rw [hcal, hsets.1]
        exact hangles hret
      · intro _
        rw [hcal, hsets.2]
        exact decide_eq_true hret
    · -- Its load fails.
      have hrej : Rejected t p := ⟨hp, hcode ▸ hret⟩
      have hsup : supplied t (.difop p) = none := if_neg fun hsup => hrej.2 hsup.2
      have hcal : calibrationOf t (pkts ++ [.difop p]) = calibrationOf t pkts := by
        rw [calibrationOf_concat, hsup, Option.or_none, Option.none_or, ite_self]
      constructor
      · rw [hsets.1, hchans]
        exact h.chans
      · rw [hcal, hsets.1, hfailed hret]
        exact h.angles
      · intro hall
        have hnone : calibrationOf t pkts = none := by
          by_cases ht : t = .rsairyliteEth
          · exact calibrationOf_eq_none.mpr (hall ht pkts p [] rfl hrej)
          · rw [← Option.not_isSome_iff_eq_none, ← h.ready fun h => absurd h ht]
            exact fun hready => hloads ⟨ht, hready⟩
        rw [hcal, hnone, hsets.2]
        exact decide_eq_false hret

/-- A packet keeps the calibration. -/
theorem Follows.receive (h : Follows t pkts s) (pkt : Arrival) :
    Follows t (pkts ++ [pkt]) (s.receive t waitForDifop pkt) := by
  cases pkt with
  | difop p =>
    show Follows t _ (s.processDifopPkt t p)
    unfold processDifopPkt
    by_cases hp : p.Right t
    · rw [if_neg (not_not_intro hp.1), if_neg (not_not_intro hp.2)]
      refine h.difop hp (decodeDifopPkt_angles ?_ s)
      rintro rfl
      rw [p.angles_length, hp.1]
      decide
    · have hnone : supplied t (.difop p) = none := if_neg fun hsup => hp hsup.1
      have hsame := h.same hnone ⟨rfl, rfl⟩
      split
      · exact hsame
      · split
        · exact hsame
        · rename_i hlen hid
          exact absurd ⟨not_not.mp hlen, not_not.mp hid⟩ hp
  | msop p =>
    have hsame : ∀ s' : MechSetting,
        s'.chanAngles = s.chanAngles ∧ s'.anglesReady = s.anglesReady →
          Follows t (pkts ++ [.msop p]) s' := fun _ => h.same rfl
    show Follows t _ (s.processMsopPkt t waitForDifop p).1
    unfold MechSetting.processMsopPkt
    split
    · exact hsame s ⟨rfl, rfl⟩
    · split
      · exact hsame s ⟨rfl, rfl⟩
      · split
        · exact hsame s ⟨rfl, rfl⟩
        · exact hsame _ (decodeMsopHeader_angles t p.header s)

theorem receiveAll_concat (t : MechType) (waitForDifop : Bool) (pkts : List Arrival)
    (pkt : Arrival) :
    receiveAll t waitForDifop (pkts ++ [pkt]) =
      (receiveAll t waitForDifop pkts).receive t waitForDifop pkt := by
  unfold receiveAll
  rw [List.foldl_append]
  rfl

/-- **All packets keep the calibration.** -/
theorem Follows.run (t : MechType) (waitForDifop : Bool) (pkts : List Arrival) :
    Follows t pkts (receiveAll t waitForDifop pkts) := by
  induction pkts using List.reverseRecOn with
  | nil =>
    have hnone : calibrationOf t [] = none :=
      calibrationOf_eq_none.mpr fun _ h => absurd h List.not_mem_nil
    refine ⟨rfl, ?_, fun _ => ?_⟩ <;> rw [hnone] <;> rfl
  | append_singleton pkts pkt ih =>
    rw [receiveAll_concat]
    exact ih.receive pkt

/-- A decoder that is ready decodes with its angles. -/
theorem decodesWith_of_ready (h : s.anglesReady = true) :
    DecodesWith t waitForDifop s.chanAngles s := by
  refine ⟨h, fun p hp => ?_⟩
  unfold MechSetting.processMsopPkt
  rw [h, if_neg (by rw [Bool.not_true, Bool.and_false]; decide), if_neg (not_not_intro hp.1),
    if_neg (not_not_intro hp.2)]
  exact congrArg some (decodeMsopHeader_angles t p.header s).1

/-- A load that fails clears the flag of an RSAIRYLITE_ETH. -/
theorem rejected_notReady {p : DifopArrival} (hp : Rejected .rsairyliteEth p)
    (pre : List Arrival) :
    (receiveAll .rsairyliteEth waitForDifop (pre ++ [.difop p])).anglesReady = false := by
  have hbefore := Follows.run .rsairyliteEth waitForDifop pre
  obtain ⟨⟨hlen, hid⟩, hret⟩ := hp
  have hpos : 0 < p.pkt.angles.length := by
    rw [p.angles_length, hlen]
    decide
  have hsets := decodeDifopAngles_angles hpos (receiveAll .rsairyliteEth waitForDifop pre)
  rw [SetsAngles, if_neg fun h => h.1 rfl] at hsets
  rw [receiveAll_concat]
  show (processDifopPkt .rsairyliteEth p _).anglesReady = false
  unfold processDifopPkt
  rw [if_neg (not_not_intro hlen), if_neg (not_not_intro hid)]
  refine hsets.2.trans (decide_eq_false ?_)
  rw [(loadAngles_congr .rsairyliteEth p.pkt hbefore.chans).1]
  exact hret

/-- **Readiness is never withdrawn exactly when no rejected angles follow accepted ones, if the
lidar is an RSAIRYLITE_ETH.** -/
theorem neverWithdrawn_iff (t : MechType) (waitForDifop : Bool) (pkts : List Arrival) :
    NeverWithdrawn t waitForDifop pkts ↔ Steady t pkts := by
  constructor
  · rintro hnever rfl pre p post hpkts hrej q hq hsup
    obtain ⟨c, -, hready, -⟩ := hnever (pre ++ [.difop p]) post
      (hpkts.trans (List.append_cons ..)) q (List.mem_append_left _ hq) hsup
    rw [rejected_notReady hrej] at hready
    exact nomatch hready
  · rintro hsteady pre post rfl p hp hsup
    have hpre := Follows.run t waitForDifop pre
    have hsome : (calibrationOf t pre).isSome = true := by
      rw [← Option.ne_none_iff_isSome, Ne, calibrationOf_eq_none]
      exact fun hnone => hnone p hp hsup
    obtain ⟨c, hc⟩ := Option.isSome_iff_exists.mp hsome
    have hangles := hpre.angles
    rw [hc] at hangles
    refine ⟨c, hc, ?_⟩
    have hdecodes : DecodesWith t waitForDifop _ (receiveAll t waitForDifop pre) :=
      decodesWith_of_ready ((hpre.ready hsteady.of_append).trans hsome)
    rwa [hangles] at hdecodes

end Runs

/-- A DIFOP packet of an RSAIRYLITE_ETH with these bytes for its angles. -/
def liteDifop (angles : List UInt8) (h : angles.length = 192) : DifopArrival where
  size := 540
  id := [0x5A, 0xFF, 0x55, 0xAA]
  pkt := { rs16Difop with angles }
  angles_length := h

/-- All angles are 0. -/
def goodDifop : DifopArrival :=
  liteDifop (List.replicate 192 0) List.length_replicate

/-- The first vertical angle is 652.8 degrees. -/
def corruptDifop : DifopArrival :=
  liteDifop (0xFF :: List.replicate 191 0) (congrArg (· + 1) List.length_replicate)

theorem lite_withdrawn : ¬ ∀ (t : MechType) (waitForDifop : Bool) (pkts : List Arrival),
    NeverWithdrawn t waitForDifop pkts := by
  intro hall
  have hgood : Supplies .rsairyliteEth goodDifop := by decide +kernel
  have hcorrupt : Rejected .rsairyliteEth corruptDifop := by decide +kernel
  obtain ⟨c, -, hready, -⟩ := hall .rsairyliteEth true [.difop goodDifop, .difop corruptDifop]
    [.difop goodDifop, .difop corruptDifop] [] rfl goodDifop List.mem_cons_self hgood
  rw [show [Arrival.difop goodDifop, .difop corruptDifop] = [.difop goodDifop] ++ _ from rfl,
    rejected_notReady hcorrupt] at hready
  exact nomatch hready

end Rs
end SensorSupport
