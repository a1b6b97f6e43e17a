/-
# Local coordinates and UTC times (`wtrtk_982dt_driver/gps_ntrip_py/local_coordinates.py`)

`nmea_utc_seconds` reads an `hhmmss.ss` field as seconds since midnight and
`nmea_utc_difference_seconds` takes the shorter of the two ways round the day
between two such times. The difference is the distance on the circle of 86400
seconds: it is reached by shifting one of the times by whole days, and no shift
brings them closer (`difference_circular`, `difference_le_shift`).

`LocalEnuProjector.project` checks the ranges and then maps to the tangent
plane, which is trigonometry in floating point and a parameter here.

Key definitions: `nmeaUtcSeconds`, `nmeaUtcDifferenceSeconds`, `LocalEnuProjector.project`.
Key theorems: `nmeaUtcSeconds_range`, `difference_circular`, `difference_le_shift`.
-/
import SensorSupport.Gnss.Number
import Mathlib.Tactic.Linarith
import Mathlib.Tactic.NormNum
import Mathlib.Tactic.Push
import Mathlib.Tactic.Ring
import Mathlib.Algebra.Order.Field.Rat

namespace SensorSupport
namespace Gnss

/-- `_SECONDS_PER_DAY`. -/
def secondsPerDay : ℚ := 86400

/-- `nmea_utc_seconds`, with `none` for `ValueError`. -/
def nmeaUtcSeconds (utcTime : Text) : Option ℚ :=
  let value := strip utcTime
  if value.length < 6 then none
  else
    match pyInt (value.take 2), pyInt ((value.drop 2).take 2), pyFloat (value.drop 4) with
    | some hours, some minutes, some (.fin seconds) =>
      if ¬ (0 ≤ hours ∧ hours < 24) ∨ ¬ (0 ≤ minutes ∧ minutes < 60) ∨
          ¬ (0 ≤ seconds ∧ seconds < 60) then none
      else some (hours * 3600 + minutes * 60 + seconds)
    | _, _, _ => none

/-- The way between two times of the day that does not pass midnight, or the
one that does. -/
def circularDifference (a b : ℚ) : ℚ := min |a - b| (secondsPerDay - |a - b|)

/-- `nmea_utc_difference_seconds`. -/
def nmeaUtcDifferenceSeconds (first second : Text) : Option ℚ :=
  match nmeaUtcSeconds first, nmeaUtcSeconds second with
  | some a, some b => some (circularDifference a b)
  | _, _ => none

/-- `LocalEnuProjector`: `tangentPlane` is the map it applies to coordinates in
range. -/
structure LocalEnuProjector where
  tangentPlane : ℚ → ℚ → ℚ × ℚ

/-- `LocalEnuProjector.project`. -/
def LocalEnuProjector.project (p : LocalEnuProjector) (latitude longitude : PyFloat) :
    Except String (ℚ × ℚ) :=
  match latitude with
  | .fin lat =>
    if ¬ (-90 ≤ lat ∧ lat ≤ 90) then
      .error "latitude must be finite and in [-90, 90] degrees"
    else
      match longitude with
      | .fin lon =>
        if ¬ (-180 ≤ lon ∧ lon ≤ 180) then
          .error "longitude must be finite and in [-180, 180] degrees"
        else .ok (p.tangentPlane lat lon)
      | _ => .error "longitude must be finite and in [-180, 180] degrees"
  | _ => .error "latitude must be finite and in [-90, 90] degrees"

/-! ### Times of the day -/

/-- A time that is read is within the day. -/
theorem nmeaUtcSeconds_range {utcTime : Text} {t : ℚ} (h : nmeaUtcSeconds utcTime = some t) :
    0 ≤ t ∧ t < secondsPerDay := by
  unfold nmeaUtcSeconds at h
  simp only at h
  split at h
  · cases h
  split at h
  · rename_i hours minutes seconds _ _ _
    split at h
    · cases h
    · rename_i hrange
      push Not at hrange
      obtain ⟨⟨hh0, hh⟩, ⟨hm0, hm⟩, hs0, hs⟩ := hrange
      obtain rfl := Option.some.inj h
      have hh0' : (0 : ℚ) ≤ hours := by exact_mod_cast hh0
      have hh' : (hours : ℚ) ≤ 23 := by exact_mod_cast Int.le_of_lt_add_one hh
      have hm0' : (0 : ℚ) ≤ minutes := by exact_mod_cast hm0
      have hm' : (minutes : ℚ) ≤ 59 := by exact_mod_cast Int.le_of_lt_add_one hm
      unfold secondsPerDay
      constructor <;> linarith
  · cases h

/-- Shifting one of the times by whole days reaches the difference. -/
theorem difference_circular (a b : ℚ) :
    ∃ k : ℤ, |a - b + k * secondsPerDay| = |circularDifference a b| := by
  unfold circularDifference
  by_cases h : |a - b| ≤ secondsPerDay - |a - b|
  · exact ⟨0, by simp [min_eq_left h]⟩
  · rw [min_eq_right (le_of_not_ge h)]
    rcases le_total 0 (a - b) with hab | hab
    · refine ⟨-1, ?_⟩
      rw [abs_of_nonneg hab, ← abs_neg]
      congr 1
      push_cast
      ring
    · refine ⟨1, ?_⟩
      rw [abs_of_nonpos hab]
      congr 1
      push_cast
      ring

/-- No shift by whole days brings two times of the day closer. -/
theorem difference_le_shift {a b : ℚ} (ha : 0 ≤ a ∧ a < secondsPerDay)
    (hb : 0 ≤ b ∧ b < secondsPerDay) (k : ℤ) :
    circularDifference a b ≤ |a - b + k * secondsPerDay| := by
  unfold circularDifference
  have hday : (0 : ℚ) < secondsPerDay := by norm_num [secondsPerDay]
  have habs : |a - b| < secondsPerDay := abs_lt.mpr ⟨by linarith, by linarith⟩
  rcases lt_trichotomy k 0 with hk | rfl | hk
  · have hk' : (k : ℚ) ≤ -1 := by exact_mod_cast Int.le_sub_one_of_lt hk
    have hshift : (k : ℚ) * secondsPerDay ≤ -secondsPerDay := by nlinarith
    calc min |a - b| (secondsPerDay - |a - b|) ≤ secondsPerDay - |a - b| := min_le_right _ _
      _ ≤ -(a - b + k * secondsPerDay) := by linarith [le_abs_self (a - b)]
      _ ≤ |a - b + k * secondsPerDay| := neg_le_abs _
  · simp
  · have hk' : (1 : ℚ) ≤ k := by exact_mod_cast hk
    have hshift : secondsPerDay ≤ (k : ℚ) * secondsPerDay := by nlinarith
    calc min |a - b| (secondsPerDay - |a - b|) ≤ secondsPerDay - |a - b| := min_le_right _ _
      _ ≤ a - b + k * secondsPerDay := by linarith [neg_abs_le (a - b)]
      _ ≤ |a - b + k * secondsPerDay| := le_abs_self _

/-- The difference of two times of the day is not negative. -/
theorem circularDifference_nonneg {a b : ℚ} (ha : 0 ≤ a ∧ a < secondsPerDay)
    (hb : 0 ≤ b ∧ b < secondsPerDay) : 0 ≤ circularDifference a b := by
  have habs : |a - b| < secondsPerDay := abs_lt.mpr ⟨by linarith, by linarith⟩
  exact le_min (abs_nonneg _) (by linarith)

end Gnss
end SensorSupport
