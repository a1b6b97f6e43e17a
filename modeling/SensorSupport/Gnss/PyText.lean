/-
# Python's text operations on any text

`str.strip`, `str.upper`, `int` and `float` know all of Unicode. What they look up about a
character depends on the version of the tables, so the tables are a parameter; on ASCII
characters every version agrees. The number parsers first read each character as an ASCII
one: other white space as a space, other decimal digits as digits.

Key definitions: `Python`, `Python.strip`, `Python.int`, `Python.float`, `numberOf`.
Key theorems: `Python.strip_of_ends`, `Python.strip_star`, `int16_hex`, `float_digits`,
`float_decimal`.
-/
import Mathlib.Data.List.DropRight
import SensorSupport.Gnss.Number

namespace SensorSupport
namespace Gnss

/-- The tables of an interpreter: `str.isspace`, `str.upper` of a character, the ASCII
character that a number parser reads it as, and how many digits `int` accepts. -/
structure Python where
  isSpace : Char → Bool
  upperChar : Char → Text
  toAscii : Char → Char
  maxStrDigits : Option ℕ
  isSpace_ascii : ∀ c : Char, c.toNat < 128 → isSpace c = Gnss.isSpace c
  upperChar_ascii : ∀ c : Char, c.toNat < 128 → upperChar c = [c.toUpper]
  toAscii_ascii : ∀ c : Char, c.toNat < 128 → toAscii c = c

namespace Python

/-- The tables of ASCII. -/
def ascii : Python where
  isSpace := Gnss.isSpace
  upperChar c := [c.toUpper]
  toAscii c := c
  maxStrDigits := some 4300
  isSpace_ascii _ _ := rfl
  upperChar_ascii _ _ := rfl
  toAscii_ascii _ _ := rfl

variable (py : Python)

/-- `str.strip()`. -/
def strip (s : Text) : Text := (s.dropWhile py.isSpace).rdropWhile py.isSpace

/-- `str.upper()`. -/
def upper (s : Text) : Text := s.flatMap py.upperChar

/-- `int(text)`, with `none` for `ValueError`. -/
def int (s : Text) : Option ℤ :=
  let s := s.map py.toAscii
  if py.maxStrDigits.any (· < s.countP fun c => (digitValue c).isSome) then none else pyInt s

/-- `int(text, 16)`, with `none` for `ValueError`. -/
def int16 (s : Text) : Option ℤ := pyInt16 (s.map py.toAscii)

/-- `float(text)`, with `none` for `ValueError`. -/
def float (s : Text) : Option PyFloat := pyFloat (s.map py.toAscii)

theorem strip_subset (s : Text) : py.strip s ⊆ s := fun _ hmem =>
  List.dropWhile_subset _ ((List.rdropWhile_prefix _ _).subset hmem)

variable {py}

/-- A text between two characters that are no white space is stripped already. -/
theorem strip_of_ends {first last : Char} {s : Text} (hfirst : py.isSpace first = false)
    (hlast : py.isSpace last = false) :
    py.strip (first :: (s ++ [last])) = first :: (s ++ [last]) := by
  unfold strip
  rw [List.dropWhile_cons_of_neg (by simp [hfirst]), ← List.cons_append,
    List.rdropWhile_concat_neg _ _ _ (by simp [hlast])]

/-- White space behind a character that is none is stripped up to it. -/
theorem rdropWhile_append {s t : Text} {c : Char} (hc : py.isSpace c = false) :
    (s ++ c :: t).rdropWhile py.isSpace = s ++ c :: t.rdropWhile py.isSpace := by
  induction t using List.reverseRecOn with
  | nil => rw [List.rdropWhile_concat_neg _ _ _ (by simp [hc]), List.rdropWhile_nil]
  | append_singleton t x ih =>
    rw [← List.cons_append, ← List.append_assoc]
    by_cases hx : py.isSpace x = true
    · rw [List.rdropWhile_concat_pos _ _ _ hx, List.rdropWhile_concat_pos _ _ _ hx, ih]
    · rw [List.rdropWhile_concat_neg _ _ _ hx, List.rdropWhile_concat_neg _ _ _ hx]
      simp

theorem isSpace_dollar : py.isSpace '$' = false := (py.isSpace_ascii '$' (by decide)).trans rfl

theorem isSpace_star : py.isSpace '*' = false := (py.isSpace_ascii '*' (by decide)).trans rfl

/-- Stripping takes nothing of what lies between `$` and `*`. -/
theorem strip_star (body t : Text) : py.strip ('$' :: (body ++ '*' :: t)) =
    '$' :: (body ++ '*' :: t.rdropWhile py.isSpace) := by
  unfold strip
  rw [List.dropWhile_cons_of_neg (by simp [isSpace_dollar]), ← List.cons_append,
    rdropWhile_append isSpace_star, List.cons_append]

end Python

/-! ### Hexadecimal digits -/

/-- The hexadecimal digits. -/
def hexDigits : Text := "0123456789abcdefABCDEF".toList

variable {c high low : Char} {a b : ℕ}

theorem mem_hexDigits (h : hexDigitValue c = some a) : c ∈ hexDigits := by
  have hascii : c.toNat < 128 := by
    by_contra hlarge
    have hnone : hexDigitValue c = none := by
      unfold hexDigitValue
      have hle : ∀ d : Char, d.toNat < 128 → ¬ c ≤ d := by
        intro d hd hcd
        have : c.toNat ≤ d.toNat := hcd
        omega
      rw [if_neg fun hc => hle '9' (by decide) hc.2, if_neg fun hc => hle 'f' (by decide) hc.2,
        if_neg fun hc => hle 'F' (by decide) hc.2]
    rw [hnone] at h
    cases h
  have hall : (List.range 128).all (fun n =>
      (hexDigitValue (Char.ofNat n)).isNone || hexDigits.contains (Char.ofNat n)) = true := by
    decide +kernel
  have hc := List.all_eq_true.mp hall c.toNat (List.mem_range.mpr hascii)
  rw [Char.ofNat_toNat, h] at hc
  simpa using hc

/-- A test that the hexadecimal digits pass. -/
theorem hexDigit_all {p : Char → Bool} (hall : hexDigits.all p = true)
    (h : hexDigitValue c = some a) : p c = true :=
  List.all_eq_true.mp hall c (mem_hexDigits h)

theorem toNat_hexDigit (h : hexDigitValue c = some a) : c.toNat < 128 :=
  of_decide_eq_true (hexDigit_all (p := fun c => c.toNat < 128) (by decide +kernel) h)

/-- A hexadecimal digit is no star and no white space. -/
theorem hexDigit_ne_star (h : hexDigitValue c = some a) : c ≠ '*' :=
  of_decide_eq_true (hexDigit_all (p := fun c => c ≠ '*') (by decide +kernel) h)

theorem isSpace_hexDigit (h : hexDigitValue c = some a) (py : Python) : py.isSpace c = false := by
  rw [py.isSpace_ascii c (toNat_hexDigit h)]
  simpa using hexDigit_all (p := fun c => !isSpace c) (by decide +kernel) h

/-- Two hexadecimal digits are read as the number they write. -/
theorem int16_hex (py : Python) (hhigh : hexDigitValue high = some a)
    (hlow : hexDigitValue low = some b) : py.int16 [high, low] = some (16 * a + b : ℕ) := by
  have hall : hexDigits.all (fun h => hexDigits.all fun l => pyInt16 [h, l] =
      some ((16 * (hexDigitValue h).getD 0 + (hexDigitValue l).getD 0 : ℕ) : ℤ)) = true := by
    decide +kernel
  have hvalue := of_decide_eq_true (hexDigit_all (hexDigit_all hall hhigh) hlow)
  rw [hhigh, hlow] at hvalue
  unfold Python.int16
  rw [List.map_cons, List.map_singleton, py.toAscii_ascii high (toNat_hexDigit hhigh),
    py.toAscii_ascii low (toNat_hexDigit hlow)]
  exact hvalue

/-! ### Decimal digits -/

/-- A text of decimal digits. -/
def AllDigits (s : Text) : Prop := ∀ c ∈ s, (digitValue c).isSome

/-- The number that the digits of a text write. -/
def numberOf (s : Text) : ℕ := ofDigits (s.filterMap digitValue)

variable {s t : Text}

/-- A test that the hexadecimal digits pass, for a decimal one. -/
theorem digit_all {p : Char → Bool} (hall : hexDigits.all p = true) (h : (digitValue c).isSome) :
    p c = true := by
  unfold digitValue at h
  by_cases hc : '0' ≤ c ∧ c ≤ '9'
  · exact hexDigit_all hall (a := c.toNat - 48) (if_pos hc)
  · rw [if_neg hc] at h
    cases h

theorem length_filterMap_digits : ∀ {s : Text}, AllDigits s →
    (s.filterMap digitValue).length = s.length
  | [], _ => rfl
  | c :: s, hs => by
    obtain ⟨d, hd⟩ := Option.isSome_iff_exists.mp (hs c List.mem_cons_self)
    have hrest := length_filterMap_digits fun x hx => hs x (List.mem_cons_of_mem _ hx)
    simp [hd, hrest]

/-- A run of digits up to what is none. -/
theorem takeDigits_append (ht : ∀ b, takeDigits b t = ([], t)) :
    ∀ {s : Text}, AllDigits s → ∀ b, takeDigits b (s ++ t) = (s.filterMap digitValue, t)
  | [], _, b => ht b
  | c :: s, hs, b => by
    obtain ⟨d, hd⟩ := Option.isSome_iff_exists.mp (hs c List.mem_cons_self)
    have hrest := takeDigits_append ht (fun x hx => hs x (List.mem_cons_of_mem _ hx)) true
    unfold takeDigits at hrest ⊢
    rw [List.cons_append, takeDigitsOf, hd]
    simp only [hrest, List.filterMap_cons, hd]

theorem stripNumber_eq (hs : ∀ c ∈ s, isNumberSpace c = false) : stripNumber s = s := by
  have hdrop : ∀ {s : Text}, (∀ c ∈ s, isNumberSpace c = false) →
      s.dropWhile isNumberSpace = s := by
    intro s hs
    cases s with
    | nil => rfl
    | cons c s => exact List.dropWhile_cons_of_neg (by simp [hs c List.mem_cons_self])
  unfold stripNumber
  rw [hdrop hs, hdrop fun c hc => hs c (List.mem_reverse.mp hc), List.reverse_reverse]

/-- A text without white space whose first character is a digit writes a finite number. -/
theorem pyFloat_eq (hc : (digitValue c).isSome) (hs : ∀ x ∈ c :: s, isNumberSpace x = false) :
    pyFloat (c :: s) = (decimal (c :: s)).map .fin := by
  have htest := of_decide_eq_true (digit_all (p := fun c => c ≠ '-' ∧ c ≠ '+' ∧
    c.toLower ≠ 'i' ∧ c.toLower ≠ 'n') (by decide +kernel) hc)
  obtain ⟨hminus, hplus, hi, hn⟩ := htest
  have hsign : takeSign (c :: s) = (false, c :: s) := by
    unfold takeSign
    split
    · rename_i heq
      exact absurd (List.cons.inj heq).1 hminus
    · rename_i heq
      exact absurd (List.cons.inj heq).1 hplus
    · rfl
  have hinf : ¬ ((c :: s).map Char.toLower = "inf".toList ∨
      (c :: s).map Char.toLower = "infinity".toList) := by
    rintro (h | h)
    exacts [hi (List.cons.inj h).1, hi (List.cons.inj h).1]
  have hnan : ¬ (c :: s).map Char.toLower = "nan".toList := fun h => hn (List.cons.inj h).1
  unfold pyFloat
  simp only [stripNumber_eq hs, hsign]
  rw [if_neg hinf, if_neg hnan]
  rfl

theorem decimal_digits (hne : s ≠ []) (hs : AllDigits s) : decimal s = some (numberOf s : ℚ) := by
  have hdigits : takeDigits false s = (s.filterMap digitValue, []) := by
    simpa using takeDigits_append (t := []) (fun _ => rfl) hs false
  have hvalues : s.filterMap digitValue ≠ [] := by
    intro hnil
    have hlength := length_filterMap_digits hs
    rw [hnil] at hlength
    exact hne (List.length_eq_zero_iff.mp hlength.symm)
  unfold decimal
  simp only [hdigits, List.append_nil]
  rw [if_neg hvalues]
  simp [takeExponent, numberOf]

theorem decimal_point {whole fraction : Text} (hne : whole ≠ []) (hwhole : AllDigits whole)
    (hfraction : AllDigits fraction) : decimal (whole ++ '.' :: fraction) =
      some ((numberOf (whole ++ fraction) : ℚ) / 10 ^ fraction.length) := by
  have hpoint : ∀ b, takeDigits b ('.' :: fraction) = ([], '.' :: fraction) := by
    intro b
    unfold takeDigits takeDigitsOf
    simp [digitValue]
  have hdigits := takeDigits_append hpoint hwhole false
  have hbehind : takeDigits false fraction = (fraction.filterMap digitValue, []) := by
    simpa using takeDigits_append (t := []) (fun _ => rfl) hfraction false
  have hvalues : ¬ (whole ++ fraction).filterMap digitValue = [] := by
    intro hnil
    rw [List.filterMap_append, List.append_eq_nil_iff] at hnil
    have hlength := length_filterMap_digits hwhole
    rw [hnil.1] at hlength
    exact hne (List.length_eq_zero_iff.mp hlength.symm)
  unfold decimal
  simp only [hdigits, hbehind, ← List.filterMap_append]
  rw [if_neg hvalues]
  simp only [takeExponent, Option.map_some, length_filterMap_digits hfraction, zero_sub, zpow_neg,
    zpow_natCast, div_eq_mul_inv, numberOf]

/-- A number that begins with a digit and goes on with digits and points. -/
theorem float_eq (py : Python) (hc : (digitValue c).isSome)
    (hs : ∀ x ∈ c :: s, (digitValue x).isSome ∨ x = '.') :
    py.float (c :: s) = (decimal (c :: s)).map .fin := by
  have hplain : ∀ x ∈ c :: s, x.toNat < 128 ∧ isNumberSpace x = false := by
    intro x hx
    rcases hs x hx with hdigit | rfl
    · exact of_decide_eq_true (digit_all (p := fun c => c.toNat < 128 ∧ isNumberSpace c = false)
        (by decide +kernel) hdigit)
    · decide
  have hascii : (c :: s).map py.toAscii = c :: s := by
    refine (List.map_congr_left fun x hx => ?_).trans (List.map_id _)
    exact py.toAscii_ascii x (hplain x hx).1
  rw [Python.float, hascii, pyFloat_eq hc fun x hx => (hplain x hx).2]

/-- **A text of digits** is read as the number it writes. -/
theorem float_digits (py : Python) (hne : s ≠ []) (hs : AllDigits s) :
    py.float s = some (.fin (numberOf s)) := by
  cases s with
  | nil => exact absurd rfl hne
  | cons c s =>
    rw [float_eq py (hs c List.mem_cons_self) fun x hx => .inl (hs x hx), decimal_digits hne hs]
    rfl

/-- **Digits with a point among them** are read as the number they write. -/
theorem float_decimal (py : Python) {whole fraction : Text} (hne : whole ≠ [])
    (hwhole : AllDigits whole) (hfraction : AllDigits fraction) :
    py.float (whole ++ '.' :: fraction) =
      some (.fin ((numberOf (whole ++ fraction) : ℚ) / 10 ^ fraction.length)) := by
  have hpoint := decimal_point hne hwhole hfraction
  cases whole with
  | nil => exact absurd rfl hne
  | cons c whole =>
    have hall : ∀ x ∈ c :: (whole ++ '.' :: fraction), (digitValue x).isSome ∨ x = '.' := by
      intro x hx
      rcases List.mem_append.mp (show x ∈ (c :: whole) ++ '.' :: fraction from hx) with hx | hx
      · exact .inl (hwhole x hx)
      · rcases List.mem_cons.mp hx with rfl | hx
        · exact .inr rfl
        · exact .inl (hfraction x hx)
    rw [List.cons_append] at hpoint ⊢
    rw [float_eq py (hwhole c List.mem_cons_self) hall, hpoint]
    rfl

end Gnss
end SensorSupport
