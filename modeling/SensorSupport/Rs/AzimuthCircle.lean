/-
# Azimuths on the circle (`decoder/split_strategy.hpp`, `decoder/section.hpp`)

Azimuths count hundredths of a degree, and 36000 of them are a full turn. Two places look
at the circle: `SplitStrategyByAngle` says whether the way from one block to the next goes
over the split angle, and `AzimuthSection` whether an angle is one of those that are kept.

Both look at one side of zero only. The splitter turns the previous azimuth back by a full
turn where the blocks go over zero, and then misses a split angle that is left between the
two (`newBlock_iff`). The section reduces its ends, and takes the angle as it comes (`section_iff`).

Key definitions: `Azimuth`, `previousAzimuth`, `AzimuthSection`, `AzimuthSection.contains`.
Key theorems: `newBlock_crosses`, `feedAzimuths_eq`, `newBlock_iff`, `roundAngle_eq`,
`contains_of_reduced`, `section_iff`.
-/
import Mathlib.Data.Int.ModEq
import SensorSupport.Lib.Circle
import SensorSupport.Rs.SplitStrategy

namespace SensorSupport
namespace Rs

open SensorSupport.Circle

/-- `RS_ONE_ROUND` -/
def RS_ONE_ROUND : ℤ := 36000

/-- An azimuth that is reduced to one turn. -/
structure Azimuth where
  angle : ℤ
  nonneg : 0 ≤ angle
  lt_round : angle < RS_ONE_ROUND

/-! ### Splitting by angle -/

/-- The constructor. -/
def SplitStrategyByAngle.ofAngle (splitAngle : Azimuth) : SplitStrategyByAngle :=
  ⟨splitAngle.angle, splitAngle.angle⟩

/-- The splitter behind some blocks. -/
def feedAzimuths (splitAngle : Azimuth) (angles : List Azimuth) : SplitStrategyByAngle :=
  angles.foldl (fun s a => (s.newBlock a.angle).1) (.ofAngle splitAngle)

/-- The azimuth before the next block, which is the split angle before the first one. -/
def previousAzimuth (splitAngle : Azimuth) (angles : List Azimuth) : Azimuth :=
  angles.getLast?.getD splitAngle

/-- A block splits when its azimuth is on the other side of the split angle, counted from
where the previous one was turned back to. -/
theorem newBlock_crosses (splitAngle prev angle : ℤ) :
    ((⟨splitAngle, prev⟩ : SplitStrategyByAngle).newBlock angle).2 = true ↔
      (if angle < prev then prev - RS_ONE_ROUND else prev) < splitAngle ∧ splitAngle ≤ angle :=
  decide_eq_true_iff

/-- Only the last azimuth matters. -/
theorem feedAzimuths_eq (splitAngle : Azimuth) (angles : List Azimuth) :
    feedAzimuths splitAngle angles =
      ⟨splitAngle.angle, (previousAzimuth splitAngle angles).angle⟩ := by
  have hfold : ∀ (angles : List Azimuth) (prev : Azimuth),
      angles.foldl (fun s a => (s.newBlock a.angle).1)
          (⟨splitAngle.angle, prev.angle⟩ : SplitStrategyByAngle) =
        ⟨splitAngle.angle, (angles.getLast?.getD prev).angle⟩ := by
    intro angles
    induction angles with
    | nil => exact fun _ => rfl
    | cons a angles ih =>
      intro prev
      rw [List.foldl_cons]
      have hnext := ih a
      rw [List.getLast?_cons, Option.getD_some]
      exact hnext
  exact hfold angles splitAngle

/-- **A block is found to cross the split angle exactly when it does, unless the blocks go
over zero from below the split angle.** -/
theorem newBlock_iff (splitAngle : Azimuth) (angles : List Azimuth) (angle : Azimuth) :
    ((((feedAzimuths splitAngle angles).newBlock angle.angle).2 = true ↔
        InOpenClosed RS_ONE_ROUND (previousAzimuth splitAngle angles).angle angle.angle
          splitAngle.angle) ↔
      ¬ (angle.angle < (previousAzimuth splitAngle angles).angle ∧
        (previousAzimuth splitAngle angles).angle < splitAngle.angle)) := by
  obtain ⟨split, hsplit⟩ := splitAngle
  obtain ⟨angle, hangle⟩ := angle
  rw [feedAzimuths_eq]
  generalize previousAzimuth _ angles = prev
  obtain ⟨prev, hprev⟩ := prev
  have hround : RS_ONE_ROUND = 36000 := rfl
  rw [newBlock_crosses, inOpenClosed_iff ⟨hprev, ‹_›⟩ ⟨hangle, ‹_›⟩ ⟨hsplit, ‹_›⟩]
  dsimp only
  by_cases hwrap : angle < prev
  · rw [if_pos hwrap, if_neg (Int.not_le.mpr hwrap)]
    omega
  · rw [if_neg hwrap, if_pos (Int.not_lt.mp hwrap)]
    omega

/-- From 350 to 1 degrees the split angle of 359 degrees is missed. -/
theorem newBlock_missed : ¬ ∀ (splitAngle : Azimuth) (angles : List Azimuth) (angle : Azimuth),
    ((feedAzimuths splitAngle angles).newBlock angle.angle).2 = true ↔
      InOpenClosed RS_ONE_ROUND (previousAzimuth splitAngle angles).angle angle.angle
        splitAngle.angle := by
  intro hall
  have hsplit := (hall ⟨35900, by decide, by decide⟩ [⟨35000, by decide, by decide⟩]
    ⟨100, by decide, by decide⟩).mpr (by decide)
  exact absurd hsplit (by decide)

/-! ### Sections of azimuths -/

structure AzimuthSection where
  fullRound : Bool
  start : ℤ
  stop : ℤ
  crossZero : Bool

/-- `_round`; the remainder of C++ has the sign of the value. -/
def roundAngle (value : ℤ) : ℤ := (value.tmod 36000 + 36000).tmod 36000

/-- The value is one of 32 bits. -/
def IsInt32 (value : ℤ) : Prop := -2147483648 ≤ value ∧ value ≤ 2147483647

instance (value : ℤ) : Decidable (IsInt32 value) := inferInstanceAs (Decidable (_ ∧ _))

namespace AzimuthSection

/-- The constructor; what a difference of more than 32 bits gives is not defined. -/
def new (start stop : Int32) : Option AzimuthSection :=
  if IsInt32 (stop.toInt - start.toInt) then
    some
      { fullRound := roundAngle (stop.toInt - start.toInt) = 0
        start := roundAngle start.toInt
        stop := roundAngle stop.toInt
        crossZero := roundAngle stop.toInt < roundAngle start.toInt }
  else none

/-- `in` -/
def contains (s : AzimuthSection) (angle : ℤ) : Bool :=
  if s.fullRound then true
  else if s.crossZero then s.start ≤ angle || angle < s.stop
  else s.start ≤ angle && angle < s.stop

end AzimuthSection

/-- The angle is in the section from `start` to `stop` on the circle: all of it is when the
ends are the same point. -/
def InSection (start stop angle : ℤ) : Prop :=
  forward RS_ONE_ROUND start stop = 0 ∨ InClosedOpen RS_ONE_ROUND start stop angle

instance (start stop angle : ℤ) : Decidable (InSection start stop angle) :=
  inferInstanceAs (Decidable (_ ∨ _))

/-- There is a section, and it contains an angle exactly when that is in it on the circle. -/
def SectionOk (start stop : Int32) (angle : ℤ) : Prop :=
  ∃ s, AzimuthSection.new start stop = some s ∧
    (s.contains angle = true ↔ InSection start.toInt stop.toInt angle)

section Sections

/-- Rounding is reducing. -/
theorem roundAngle_eq (value : ℤ) : roundAngle value = value % RS_ONE_ROUND := by
  unfold roundAngle RS_ONE_ROUND
  have hrem : value.tmod 36000 =
      value % 36000 - ((if 0 ≤ value ∨ 36000 ∣ value then 0 else 36000 : ℕ) : ℤ) :=
    Int.tmod_eq_emod
  have hlift : 0 ≤ value.tmod 36000 + 36000 := by
    rw [hrem]
    split <;> omega
  rw [Int.tmod_eq_emod_of_nonneg hlift, hrem]
  split <;> omega

theorem new_eq_some_iff {start stop : Int32} {s : AzimuthSection} :
    AzimuthSection.new start stop = some s ↔
      IsInt32 (stop.toInt - start.toInt) ∧
        s = ⟨roundAngle (stop.toInt - start.toInt) = 0, roundAngle start.toInt,
          roundAngle stop.toInt, roundAngle stop.toInt < roundAngle start.toInt⟩ := by
  unfold AzimuthSection.new
  by_cases h : IsInt32 (stop.toInt - start.toInt)
  · simp [h, eq_comm]
  · simp [h]

theorem reduced_bounds (value : ℤ) :
    0 ≤ value % RS_ONE_ROUND ∧ value % RS_ONE_ROUND < RS_ONE_ROUND :=
  ⟨Int.emod_nonneg value (by decide), Int.emod_lt_of_pos value (by decide)⟩

/-- The three ways a section looks at an angle. -/
theorem contains_iff {start stop : Int32} {s : AzimuthSection}
    (h : AzimuthSection.new start stop = some s) (angle : ℤ) :
    s.contains angle = true ↔
      forward RS_ONE_ROUND start.toInt stop.toInt = 0 ∨
        if start.toInt % RS_ONE_ROUND ≤ stop.toInt % RS_ONE_ROUND then
          start.toInt % RS_ONE_ROUND ≤ angle ∧ angle < stop.toInt % RS_ONE_ROUND
        else start.toInt % RS_ONE_ROUND ≤ angle ∨ angle < stop.toInt % RS_ONE_ROUND := by
  obtain ⟨-, rfl⟩ := new_eq_some_iff.mp h
  unfold AzimuthSection.contains forward
  simp only [roundAngle_eq]
  by_cases hfull : (stop.toInt - start.toInt) % RS_ONE_ROUND = 0
  · simp [hfull]
  by_cases hcross : stop.toInt % RS_ONE_ROUND < start.toInt % RS_ONE_ROUND
  · simp [hfull, hcross, Int.not_le.mpr hcross]
  · simp [hfull, hcross, Int.not_lt.mp hcross]

/-- A reduced angle is looked at rightly. -/
theorem contains_of_reduced {start stop : Int32} {s : AzimuthSection}
    (h : AzimuthSection.new start stop = some s) {angle : ℤ}
    (hangle : 0 ≤ angle ∧ angle < RS_ONE_ROUND) :
    s.contains angle = true ↔ InSection start.toInt stop.toInt angle := by
  have hreduced : angle % RS_ONE_ROUND = angle := Int.emod_eq_of_lt hangle.1 hangle.2
  have harc := inClosedOpen_iff (reduced_bounds start.toInt) (reduced_bounds stop.toInt) hangle
  rw [contains_iff h, InSection, ← inClosedOpen_emod, hreduced, harc]

/-- Outside of one turn a section that goes over zero has every angle, another one none. -/
theorem contains_of_not_reduced {start stop : Int32} {s : AzimuthSection}
    (h : AzimuthSection.new start stop = some s) {angle : ℤ}
    (hangle : ¬ (0 ≤ angle ∧ angle < RS_ONE_ROUND)) :
    s.contains angle = true ↔
      forward RS_ONE_ROUND start.toInt stop.toInt = 0 ∨
        stop.toInt % RS_ONE_ROUND < start.toInt % RS_ONE_ROUND := by
  have hstart := reduced_bounds start.toInt
  have hstop := reduced_bounds stop.toInt
  rw [contains_iff h]
  apply or_congr_right
  split <;> omega

/-- **A section contains what is in it on the circle exactly when its ends have a
difference, and the angle is reduced, or the section is the full circle, or it goes over zero
just when it has the angle.** -/
theorem section_iff (start stop : Int32) (angle : ℤ) :
    SectionOk start stop angle ↔
      IsInt32 (stop.toInt - start.toInt) ∧
        ((0 ≤ angle ∧ angle < RS_ONE_ROUND) ∨
          forward RS_ONE_ROUND start.toInt stop.toInt = 0 ∨
          (stop.toInt % RS_ONE_ROUND < start.toInt % RS_ONE_ROUND ↔
            InClosedOpen RS_ONE_ROUND start.toInt stop.toInt angle)) := by
  have hnew : ∀ s, AzimuthSection.new start stop = some s →
      ((s.contains angle = true ↔ InSection start.toInt stop.toInt angle) ↔
        ((0 ≤ angle ∧ angle < RS_ONE_ROUND) ∨
          forward RS_ONE_ROUND start.toInt stop.toInt = 0 ∨
          (stop.toInt % RS_ONE_ROUND < start.toInt % RS_ONE_ROUND ↔
            InClosedOpen RS_ONE_ROUND start.toInt stop.toInt angle))) := by
    intro s hs
    by_cases hangle : 0 ≤ angle ∧ angle < RS_ONE_ROUND
    · exact iff_of_true (contains_of_reduced hs hangle) (.inl hangle)
    · rw [contains_of_not_reduced hs hangle, InSection]
      by_cases hfull : forward RS_ONE_ROUND start.toInt stop.toInt = 0
      · simp only [hfull, true_or, or_true]
      · simp only [hangle, hfull, false_or]
  constructor
  · rintro ⟨s, hs, hcontains⟩
    exact ⟨(new_eq_some_iff.mp hs).1, (hnew s hs).mp hcontains⟩
  · rintro ⟨hdiff, hcond⟩
    have hs := new_eq_some_iff.mpr ⟨hdiff, rfl⟩
    exact ⟨_, hs, (hnew _ hs).mpr hcond⟩

/-- Of the section from 0 to 10 degrees, 360.1 degrees is dropped: a point at 359.9 degrees
whose channel looks 0.2 degrees ahead. -/
theorem section_missed : ¬ ∀ (start stop : Int32) (angle : ℤ), SectionOk start stop angle := by
  intro hall
  obtain ⟨s, hs, hcontains⟩ := hall 0 1000 36010
  obtain ⟨-, rfl⟩ := new_eq_some_iff.mp hs
  exact absurd (hcontains.mpr (by decide)) (by decide)

end Sections

end Rs
end SensorSupport
