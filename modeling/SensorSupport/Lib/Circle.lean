/-
# Arcs of a circle

Points of a circle are integers modulo its circumference `n`. How far one has to go forward
from a point to another says which points lie on the arc between them; on reduced points an
arc is an interval, or two when it goes over zero. A path of points sweeps the sum of the ways.

Key definitions: `Circle.forward`, `Circle.InOpenClosed`, `Circle.InClosedOpen`, `Circle.sweep`.
Key theorems: `Circle.forward_emod`, `Circle.forward_add_cases`, `Circle.inOpenClosed_iff`,
`Circle.inClosedOpen_iff`.
-/
import Mathlib.Data.Int.ModEq
import Mathlib.Tactic.Common

namespace SensorSupport
namespace Circle

variable (n a b x : ℤ)

/-- The way forward from `a` to `b`. -/
def forward : ℤ := (b - a) % n

/-- The point `x` lies on the arc from `a` to `b`, without `a`. -/
def InOpenClosed : Prop := 0 < forward n a x ∧ forward n a x ≤ forward n a b

/-- The point `x` lies on the arc from `a` to `b`, without `b`. -/
def InClosedOpen : Prop := forward n a x < forward n a b

instance : Decidable (InOpenClosed n a b x) := inferInstanceAs (Decidable (_ ∧ _))

instance : Decidable (InClosedOpen n a b x) := inferInstanceAs (Decidable (_ < _))

/-- The way depends on the reduced points. -/
theorem forward_emod : forward n (a % n) (b % n) = forward n a b := (Int.sub_emod b a n).symm

variable {n a b x}

theorem forward_of_le (ha : 0 ≤ a) (hb : b < n) (h : a ≤ b) : forward n a b = b - a :=
  Int.emod_eq_of_lt (by omega) (by omega)

theorem forward_of_lt (ha : a < n) (hb : 0 ≤ b) (h : b < a) : forward n a b = b - a + n := by
  have hlift : (b - a + n) % n = (b - a) % n := Int.add_emod_right (b - a) n
  have hsmall : (b - a + n) % n = b - a + n := Int.emod_eq_of_lt (by omega) (by omega)
  unfold forward
  rw [← hlift, hsmall]

theorem forward_nonneg (hn : 0 < n) : 0 ≤ forward n a b := Int.emod_nonneg _ (Int.ne_of_gt hn)

theorem forward_lt (hn : 0 < n) : forward n a b < n := Int.emod_lt_of_pos _ hn

/-- Two ways make one, or a round and one. -/
theorem forward_add_cases (hn : 0 < n) (c : ℤ) : forward n a b + forward n b c = forward n a c ∨
    forward n a b + forward n b c = forward n a c + n := by
  have hmod : (forward n a b + forward n b c) % n = forward n a c := by
    unfold forward
    rw [← Int.add_emod]
    congr 1
    omega
  have hab : 0 ≤ forward n a b ∧ forward n a b < n := ⟨forward_nonneg hn, forward_lt hn⟩
  have hbc : 0 ≤ forward n b c ∧ forward n b c < n := ⟨forward_nonneg hn, forward_lt hn⟩
  rcases lt_or_ge (forward n a b + forward n b c) n with hlt | hge
  · rw [Int.emod_eq_of_lt (by omega) hlt] at hmod
    exact .inl hmod
  · rw [← Int.sub_emod_right, Int.emod_eq_of_lt (by omega) (by omega)] at hmod
    omega

/-- How far it is from a point through those of a list. -/
def sweep (n : ℤ) : ℤ → List ℤ → ℤ
  | _, [] => 0
  | a, b :: path => forward n a b + sweep n b path

theorem sweep_nonneg (hn : 0 < n) : ∀ (path : List ℤ) (a : ℤ), 0 ≤ sweep n a path
  | [], _ => Int.le_refl 0
  | b :: path, _ => Int.add_nonneg (forward_nonneg hn) (sweep_nonneg hn path b)

/-- An arc without its first point is an interval, or two that meet at zero. -/
theorem inOpenClosed_iff (ha : 0 ≤ a ∧ a < n) (hb : 0 ≤ b ∧ b < n) (hx : 0 ≤ x ∧ x < n) :
    InOpenClosed n a b x ↔ if a ≤ b then a < x ∧ x ≤ b else a < x ∨ x ≤ b := by
  unfold InOpenClosed
  rcases le_or_gt a x with hax | hax <;> rcases le_or_gt a b with hab | hab
  · rw [forward_of_le ha.1 hx.2 hax, forward_of_le ha.1 hb.2 hab, if_pos hab]
    omega
  · rw [forward_of_le ha.1 hx.2 hax, forward_of_lt ha.2 hb.1 hab, if_neg (Int.not_le.mpr hab)]
    omega
  · rw [forward_of_lt ha.2 hx.1 hax, forward_of_le ha.1 hb.2 hab, if_pos hab]
    omega
  · rw [forward_of_lt ha.2 hx.1 hax, forward_of_lt ha.2 hb.1 hab, if_neg (Int.not_le.mpr hab)]
    omega

/-- An arc without its last point is an interval, or two that meet at zero. -/
theorem inClosedOpen_iff (ha : 0 ≤ a ∧ a < n) (hb : 0 ≤ b ∧ b < n) (hx : 0 ≤ x ∧ x < n) :
    InClosedOpen n a b x ↔ if a ≤ b then a ≤ x ∧ x < b else a ≤ x ∨ x < b := by
  unfold InClosedOpen
  rcases le_or_gt a x with hax | hax <;> rcases le_or_gt a b with hab | hab
  · rw [forward_of_le ha.1 hx.2 hax, forward_of_le ha.1 hb.2 hab, if_pos hab]
    omega
  · rw [forward_of_le ha.1 hx.2 hax, forward_of_lt ha.2 hb.1 hab, if_neg (Int.not_le.mpr hab)]
    omega
  · rw [forward_of_lt ha.2 hx.1 hax, forward_of_le ha.1 hb.2 hab, if_pos hab]
    omega
  · rw [forward_of_lt ha.2 hx.1 hax, forward_of_lt ha.2 hb.1 hab, if_neg (Int.not_le.mpr hab)]
    omega

/-- Whether a point lies on an arc depends on the reduced points. -/
theorem inClosedOpen_emod : InClosedOpen n (a % n) (b % n) (x % n) ↔ InClosedOpen n a b x := by
  unfold InClosedOpen
  rw [forward_emod, forward_emod]

end Circle
end SensorSupport
