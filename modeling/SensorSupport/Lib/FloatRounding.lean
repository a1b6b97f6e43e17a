/-
# Rounding to binary digits

A floating-point operation gives the exact result rounded to the nearest number of `p` binary
digits, and of two that are as near to the one whose last digit is even. Rounding keeps the
order of numbers, and numbers of `p` digits as they are. Exponents are not limited here: the
results are those of a format as long as they neither overflow nor get subnormal.

Key definitions: `nearest`, `roundDigits`, `single`, `double`, `truncate`.
Key theorems: `nearest_mono`, `roundDigits_mono`, `roundDigits_natCast`, `roundDigits_two_zpow`,
`truncate_single_mul`.
-/
import Mathlib.Data.Int.Log
import Mathlib.Data.Rat.Floor
import Mathlib.Tactic.Linarith
import Mathlib.Tactic.Positivity

namespace SensorSupport
namespace FloatRounding

/-- The nearest integer, of two the even one. -/
def nearest (x : ℚ) : ℤ :=
  if Int.fract x < 1 / 2 then ⌊x⌋
  else if 1 / 2 < Int.fract x then ⌊x⌋ + 1
  else if ⌊x⌋ % 2 = 0 then ⌊x⌋
  else ⌊x⌋ + 1

/-- The value of the last of `p` digits. -/
def lastPlace (p : ℕ) (x : ℚ) : ℚ := 2 ^ (Int.log 2 x - ((p : ℤ) - 1))

/-- A number that is not negative is rounded to `p` digits. -/
def roundDigits (p : ℕ) (x : ℚ) : ℚ := nearest (x / lastPlace p x) * lastPlace p x

/-- The result of an operation, also a negative one. -/
def roundSigned (p : ℕ) (x : ℚ) : ℚ := if x < 0 then -roundDigits p (-x) else roundDigits p x

/-- `float` -/
def single (x : ℚ) : ℚ := roundSigned 24 x

/-- `double` -/
def double (x : ℚ) : ℚ := roundSigned 53 x

/-- A cast to an integer cuts off the fraction. -/
def truncate (x : ℚ) : ℤ := if x < 0 then -⌊-x⌋ else ⌊x⌋

/-! ### To an integer -/

section Nearest

variable {x y : ℚ}

/-- No other integer is nearer. -/
theorem nearest_error (x : ℚ) : (nearest x : ℚ) - 1 / 2 ≤ x ∧ x ≤ nearest x + 1 / 2 := by
  have hfract : (⌊x⌋ : ℚ) + Int.fract x = x := Int.floor_add_fract x
  have hnonneg := Int.fract_nonneg x
  have hlt := Int.fract_lt_one x
  unfold nearest
  split_ifs <;> push_cast <;> constructor <;> linarith

theorem nearest_mono (h : x ≤ y) : nearest x ≤ nearest y := by
  by_contra hnot
  have hstep : (nearest y : ℚ) + 1 ≤ nearest x := by
    exact_mod_cast Int.add_one_le_iff.mpr (not_le.mp hnot)
  have hx := (nearest_error x).1
  have hy := (nearest_error y).2
  -- both are halfway between the two integers
  have heq : x = y := le_antisymm h (by linarith)
  rw [heq] at hnot
  exact hnot le_rfl

theorem nearest_intCast (n : ℤ) : nearest (n : ℚ) = n := by
  unfold nearest
  rw [Int.fract_intCast, Int.floor_intCast, if_pos (by norm_num)]

end Nearest

/-! ### To digits -/

section Digits

variable {p : ℕ} {x y : ℚ}

theorem lastPlace_pos (p : ℕ) (x : ℚ) : 0 < lastPlace p x := by
  exact zpow_pos (by norm_num) _

theorem roundDigits_zero (p : ℕ) : roundDigits p 0 = 0 := by
  unfold roundDigits
  rw [zero_div, show nearest 0 = 0 from nearest_intCast 0, Int.cast_zero, zero_mul]

theorem roundDigits_nonneg (p : ℕ) (hx : 0 ≤ x) : 0 ≤ roundDigits p x := by
  have hplace := lastPlace_pos p x
  have hzero : (0 : ℤ) ≤ nearest (x / lastPlace p x) := by
    have hmono : nearest 0 ≤ nearest (x / lastPlace p x) := nearest_mono (div_nonneg hx hplace.le)
    rwa [show nearest 0 = 0 from nearest_intCast 0] at hmono
  have hcast : (0 : ℚ) ≤ nearest (x / lastPlace p x) := by exact_mod_cast hzero
  exact mul_nonneg hcast hplace.le

/-- The number of last places in a power of two that has its last digit there. -/
theorem zpow_eq_mul_lastPlace (hp : 1 ≤ p) (x : ℚ) :
    (2 : ℚ) ^ Int.log 2 x = ((2 ^ (p - 1) : ℕ) : ℤ) * lastPlace p x := by
  have hpow : ((2 ^ (p - 1) : ℕ) : ℚ) = 2 ^ ((p : ℤ) - 1) := by
    rw [Nat.cast_pow, Nat.cast_ofNat, ← zpow_natCast, Nat.cast_sub hp, Nat.cast_one]
  unfold lastPlace
  rw [Int.cast_natCast, hpow, ← zpow_add₀ (by norm_num)]
  congr 1
  ring

/-- A positive number is rounded to one between the powers of two around it. -/
theorem roundDigits_bounds (hp : 1 ≤ p) (hx : 0 < x) :
    (2 : ℚ) ^ Int.log 2 x ≤ roundDigits p x ∧ roundDigits p x ≤ 2 ^ (Int.log 2 x + 1) := by
  have hplace := lastPlace_pos p x
  have hlow : (2 : ℚ) ^ Int.log 2 x ≤ x := by
    exact_mod_cast Int.zpow_log_le_self Nat.one_lt_two hx
  have hhigh : x < (2 : ℚ) ^ (Int.log 2 x + 1) := by
    exact_mod_cast Int.lt_zpow_succ_log_self Nat.one_lt_two x
  have hpow := zpow_eq_mul_lastPlace hp x
  have hpow' : (2 : ℚ) ^ (Int.log 2 x + 1) =
      ((2 * 2 ^ (p - 1) : ℕ) : ℤ) * lastPlace p x := by
    rw [zpow_add_one₀ (by norm_num), hpow]
    push_cast
    ring
  rw [hpow'] at hhigh ⊢
  rw [hpow] at hlow ⊢
  unfold roundDigits
  constructor
  · apply mul_le_mul_of_nonneg_right _ hplace.le
    have hle : (((2 ^ (p - 1) : ℕ) : ℤ) : ℚ) ≤ x / lastPlace p x := (le_div_iff₀ hplace).mpr hlow
    have hmono := nearest_mono hle
    rw [nearest_intCast] at hmono
    exact_mod_cast hmono
  · apply mul_le_mul_of_nonneg_right _ hplace.le
    have hle : x / lastPlace p x ≤ (((2 * 2 ^ (p - 1) : ℕ) : ℤ) : ℚ) :=
      (div_le_iff₀ hplace).mpr hhigh.le
    have hmono := nearest_mono hle
    rw [nearest_intCast] at hmono
    exact_mod_cast hmono

/-- **Rounding keeps the order.** -/
theorem roundDigits_mono (hp : 1 ≤ p) (hx : 0 ≤ x) (h : x ≤ y) :
    roundDigits p x ≤ roundDigits p y := by
  rcases hx.eq_or_lt with rfl | hpos
  · rw [roundDigits_zero]
    exact roundDigits_nonneg p h
  have hlog : Int.log 2 x ≤ Int.log 2 y := Int.log_mono_right hpos h
  rcases hlog.eq_or_lt with heq | hlt
  · -- the last digits have the same place
    have hplace : lastPlace p x = lastPlace p y := by
      unfold lastPlace
      rw [heq]
    have hpos' := lastPlace_pos p y
    unfold roundDigits
    rw [hplace]
    apply mul_le_mul_of_nonneg_right _ hpos'.le
    exact_mod_cast nearest_mono ((div_le_div_iff_of_pos_right hpos').mpr h)
  · calc roundDigits p x
        ≤ 2 ^ (Int.log 2 x + 1) := (roundDigits_bounds hp hpos).2
      _ ≤ 2 ^ Int.log 2 y := zpow_le_zpow_right₀ (by norm_num) hlt
      _ ≤ roundDigits p y := (roundDigits_bounds hp (lt_of_lt_of_le hpos h)).1

/-- A number that is some of its last places is its own rounding. -/
theorem roundDigits_of_mul {n : ℤ} (h : x = n * lastPlace p x) : roundDigits p x = x := by
  have hplace := lastPlace_pos p x
  have hdiv : x / lastPlace p x = n := (div_eq_iff hplace.ne').mpr h
  unfold roundDigits
  rw [hdiv, nearest_intCast]
  exact h.symm

/-- A natural number of `p` digits is its own rounding. -/
theorem roundDigits_natCast {n : ℕ} (h : n < 2 ^ p) : roundDigits p n = n := by
  rcases Nat.eq_zero_or_pos n with rfl | hpos
  · exact_mod_cast roundDigits_zero p
  have hlog : Int.log 2 (n : ℚ) < p := by
    have hcast : (n : ℚ) < (2 : ℕ) ^ (p : ℤ) := by exact_mod_cast h
    exact (Int.lt_zpow_iff_log_lt Nat.one_lt_two (by exact_mod_cast hpos)).mp hcast
  obtain ⟨k, hk⟩ := Int.eq_ofNat_of_zero_le (show 0 ≤ (p : ℤ) - 1 - Int.log 2 (n : ℚ) by omega)
  have hplace : lastPlace p (n : ℚ) = 2 ^ (-(k : ℤ)) := by
    unfold lastPlace
    congr 1
    omega
  apply roundDigits_of_mul (n := (n * 2 ^ k : ℕ))
  rw [hplace, zpow_neg, zpow_natCast]
  push_cast
  rw [mul_assoc, mul_inv_cancel₀ (by positivity), mul_one]

/-- A power of two is its own rounding. -/
theorem roundDigits_two_zpow (hp : 1 ≤ p) (e : ℤ) : roundDigits p (2 ^ e) = 2 ^ e := by
  have hlog : Int.log 2 ((2 : ℚ) ^ e) = e := by
    exact_mod_cast Int.log_zpow (R := ℚ) Nat.one_lt_two e
  apply roundDigits_of_mul (n := ((2 ^ (p - 1) : ℕ) : ℤ))
  have hpow := zpow_eq_mul_lastPlace hp ((2 : ℚ) ^ e)
  rwa [hlog] at hpow

end Digits

/-! ### The formats -/

section Formats

variable {x y : ℚ}

theorem roundSigned_of_nonneg (p : ℕ) (hx : 0 ≤ x) : roundSigned p x = roundDigits p x :=
  if_neg (not_lt.mpr hx)

theorem single_nonneg (hx : 0 ≤ x) : 0 ≤ single x := by
  unfold single
  rw [roundSigned_of_nonneg 24 hx]
  exact roundDigits_nonneg 24 hx

theorem single_mono (hx : 0 ≤ x) (h : x ≤ y) : single x ≤ single y := by
  unfold single
  rw [roundSigned_of_nonneg 24 hx, roundSigned_of_nonneg 24 (hx.trans h)]
  exact roundDigits_mono (by decide) hx h

theorem single_natCast {n : ℕ} (h : n < 2 ^ 24) : single n = n := by
  unfold single
  rw [roundSigned_of_nonneg 24 (by positivity)]
  exact roundDigits_natCast h

theorem single_two_zpow (e : ℤ) : single (2 ^ e) = 2 ^ e := by
  have hpos : (0 : ℚ) < 2 ^ e := zpow_pos (by norm_num) e
  unfold single
  rw [roundSigned_of_nonneg 24 hpos.le]
  exact roundDigits_two_zpow (by decide) e

theorem double_mono (hx : 0 ≤ x) (h : x ≤ y) : double x ≤ double y := by
  unfold double
  rw [roundSigned_of_nonneg 53 hx, roundSigned_of_nonneg 53 (hx.trans h)]
  exact roundDigits_mono (by decide) hx h

theorem double_natCast {n : ℕ} (h : n < 2 ^ 53) : double n = n := by
  unfold double
  rw [roundSigned_of_nonneg 53 (by positivity)]
  exact roundDigits_natCast h

/-- A part of a whole number, as a float that is cast to an integer, is between 0 and it. -/
theorem truncate_single_mul {n : ℕ} (hn : n < 2 ^ 24) (hx : 0 ≤ x) (hx' : x ≤ 1) :
    0 ≤ truncate (single (single n * x)) ∧ truncate (single (single n * x)) ≤ n := by
  have hexact : single n = n := single_natCast hn
  have hmul : 0 ≤ (n : ℚ) * x := by positivity
  have hle : (n : ℚ) * x ≤ n := mul_le_of_le_one_right (by positivity) hx'
  have hnonneg : 0 ≤ single ((n : ℚ) * x) := single_nonneg hmul
  have hround : single ((n : ℚ) * x) ≤ n := by
    have hmono := single_mono hmul hle
    rwa [hexact] at hmono
  unfold truncate
  rw [hexact, if_neg (not_lt.mpr hnonneg)]
  constructor
  · exact Int.floor_nonneg.mpr hnonneg
  · have hfloor : ⌊single ((n : ℚ) * x)⌋ ≤ ⌊(n : ℚ)⌋ := Int.floor_le_floor hround
    rwa [Int.floor_natCast] at hfloor

end Formats

end FloatRounding
end SensorSupport
