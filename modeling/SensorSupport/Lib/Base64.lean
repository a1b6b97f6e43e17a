/-
# Base64

Three bytes are four letters, and one or two at the end are filled up with `=`. Every list of
bytes is read back from its letters (`decode_encode`), and the letters are all in the alphabet
(`encode_all`).

Key definitions: `Base64.letter`, `Base64.value`, `Base64.encode`, `Base64.decode`.
Key theorems: `Base64.decode_encode`, `Base64.encode_all`.
-/
import Mathlib.Data.Nat.Notation
import Mathlib.Tactic.Common

namespace SensorSupport
namespace Base64

/-- The letter of six bits. -/
def letter (n : ℕ) : UInt8 :=
  if n < 26 then UInt8.ofNat (0x41 + n)
  else if n < 52 then UInt8.ofNat (0x61 + (n - 26))
  else if n < 62 then UInt8.ofNat (0x30 + (n - 52))
  else if n = 62 then 0x2B
  else 0x2F

/-- The six bits of a letter. -/
def value (c : UInt8) : Option ℕ :=
  if 0x41 ≤ c ∧ c ≤ 0x5A then some (c.toNat - 0x41)
  else if 0x61 ≤ c ∧ c ≤ 0x7A then some (c.toNat - 0x61 + 26)
  else if 0x30 ≤ c ∧ c ≤ 0x39 then some (c.toNat - 0x30 + 52)
  else if c = 0x2B then some 62
  else if c = 0x2F then some 63
  else none

/-- `=` -/
def pad : UInt8 := 0x3D

def encode : List UInt8 → List UInt8
  | a :: b :: c :: rest =>
    letter (a.toNat / 4) :: letter (a.toNat % 4 * 16 + b.toNat / 16)
      :: letter (b.toNat % 16 * 4 + c.toNat / 64) :: letter (c.toNat % 64) :: encode rest
  | [a, b] =>
    [letter (a.toNat / 4), letter (a.toNat % 4 * 16 + b.toNat / 16), letter (b.toNat % 16 * 4), pad]
  | [a] => [letter (a.toNat / 4), letter (a.toNat % 4 * 16), pad, pad]
  | [] => []

/-- The bytes of four letters, of which the last or the last two may be `=`. -/
def quantum (w x y z : UInt8) : Option (List UInt8) := do
  let w ← value w
  let x ← value x
  let first := UInt8.ofNat (w * 4 + x / 16)
  if y = pad ∧ z = pad then return [first]
  let y ← value y
  let second := UInt8.ofNat (x % 16 * 16 + y / 4)
  if z = pad then return [first, second]
  let z ← value z
  return [first, second, UInt8.ofNat (y % 4 * 64 + z)]

/-- Only the last four letters may have a `=`. -/
def decode : List UInt8 → Option (List UInt8)
  | [] => some []
  | w :: x :: y :: z :: rest => do
    let bytes ← quantum w x y z
    if z = pad ∧ rest ≠ [] then none
    return bytes ++ (← decode rest)
  | _ => none

/-! ### Letters -/

theorem letter_all {p : UInt8 → Bool} {n : ℕ} (hp : (List.range 64).all (p ∘ letter) = true)
    (h : n < 64) : p (letter n) = true :=
  List.all_eq_true.mp hp n (List.mem_range.mpr h)

theorem value_letter {n : ℕ} (h : n < 64) : value (letter n) = some n := by
  have hall : (List.range 64).all (fun n => value (letter n) = some n) = true := by decide +kernel
  exact of_decide_eq_true (List.all_eq_true.mp hall n (List.mem_range.mpr h))

theorem letter_ne_pad {n : ℕ} (h : n < 64) : letter n ≠ pad :=
  of_decide_eq_true (letter_all (p := fun c => c ≠ pad) (by decide +kernel) h)

variable {p : UInt8 → Bool}

/-- A test that the letters and `=` pass is passed by what is encoded. -/
theorem encode_all (hp : (List.range 64).all (p ∘ letter) = true) (hpad : p pad = true) :
    ∀ bytes, (encode bytes).all p = true
  | a :: b :: c :: rest => by
    have ha := a.toNat_lt
    have hb := b.toNat_lt
    have hc := c.toNat_lt
    simp only [encode, List.all_cons, encode_all hp hpad rest, Bool.and_true, Bool.and_eq_true]
    exact ⟨letter_all hp (by omega), letter_all hp (by omega), letter_all hp (by omega),
      letter_all hp (by omega)⟩
  | [a, b] => by
    have ha := a.toNat_lt
    have hb := b.toNat_lt
    simp only [encode, List.all_cons, List.all_nil, hpad, Bool.and_true, Bool.and_eq_true]
    exact ⟨letter_all hp (by omega), letter_all hp (by omega), letter_all hp (by omega)⟩
  | [a] => by
    have ha := a.toNat_lt
    simp only [encode, List.all_cons, List.all_nil, hpad, Bool.and_true, Bool.and_eq_true]
    exact ⟨letter_all hp (by omega), letter_all hp (by omega)⟩
  | [] => rfl

/-! ### The round trip -/

theorem byte_of_parts {a : UInt8} {n : ℕ} (h : n = a.toNat) : UInt8.ofNat n = a := by
  rw [h, UInt8.ofNat_toNat]

theorem quantum_three (a b c : UInt8) :
    quantum (letter (a.toNat / 4)) (letter (a.toNat % 4 * 16 + b.toNat / 16))
      (letter (b.toNat % 16 * 4 + c.toNat / 64)) (letter (c.toNat % 64)) = some [a, b, c] := by
  have ha := a.toNat_lt
  have hb := b.toNat_lt
  have hc := c.toNat_lt
  have hpad : letter (c.toNat % 64) ≠ pad := letter_ne_pad (by omega)
  have hfirst : UInt8.ofNat (a.toNat / 4 * 4 + (a.toNat % 4 * 16 + b.toNat / 16) / 16) = a :=
    byte_of_parts (by omega)
  have hsecond : UInt8.ofNat ((a.toNat % 4 * 16 + b.toNat / 16) % 16 * 16
      + (b.toNat % 16 * 4 + c.toNat / 64) / 4) = b := byte_of_parts (by omega)
  have hthird : UInt8.ofNat ((b.toNat % 16 * 4 + c.toNat / 64) % 4 * 64 + c.toNat % 64) = c :=
    byte_of_parts (by omega)
  simp only [quantum, value_letter (show a.toNat / 4 < 64 by omega),
    value_letter (show a.toNat % 4 * 16 + b.toNat / 16 < 64 by omega),
    value_letter (show b.toNat % 16 * 4 + c.toNat / 64 < 64 by omega),
    value_letter (show c.toNat % 64 < 64 by omega), Option.bind_eq_bind, Option.bind_some, hpad,
    and_false, if_false, hfirst, hsecond, hthird]
  rfl

theorem quantum_two (a b : UInt8) :
    quantum (letter (a.toNat / 4)) (letter (a.toNat % 4 * 16 + b.toNat / 16))
      (letter (b.toNat % 16 * 4)) pad = some [a, b] := by
  have ha := a.toNat_lt
  have hb := b.toNat_lt
  have hpad : letter (b.toNat % 16 * 4) ≠ pad := letter_ne_pad (by omega)
  have hfirst : UInt8.ofNat (a.toNat / 4 * 4 + (a.toNat % 4 * 16 + b.toNat / 16) / 16) = a :=
    byte_of_parts (by omega)
  have hsecond : UInt8.ofNat ((a.toNat % 4 * 16 + b.toNat / 16) % 16 * 16
      + b.toNat % 16 * 4 / 4) = b := byte_of_parts (by omega)
  simp only [quantum, value_letter (show a.toNat / 4 < 64 by omega),
    value_letter (show a.toNat % 4 * 16 + b.toNat / 16 < 64 by omega),
    value_letter (show b.toNat % 16 * 4 < 64 by omega), Option.bind_eq_bind, Option.bind_some,
    hpad, false_and, if_false, hfirst, hsecond]
  rfl

theorem quantum_one (a : UInt8) :
    quantum (letter (a.toNat / 4)) (letter (a.toNat % 4 * 16)) pad pad = some [a] := by
  have ha := a.toNat_lt
  have hfirst : UInt8.ofNat (a.toNat / 4 * 4 + a.toNat % 4 * 16 / 16) = a :=
    byte_of_parts (by omega)
  simp only [quantum, value_letter (show a.toNat / 4 < 64 by omega),
    value_letter (show a.toNat % 4 * 16 < 64 by omega), Option.bind_eq_bind, Option.bind_some,
    hfirst]
  rfl

/-- **Bytes are read back from their letters.** -/
theorem decode_encode : ∀ bytes, decode (encode bytes) = some bytes
  | a :: b :: c :: rest => by
    have hpad : letter (c.toNat % 64) ≠ pad := letter_ne_pad (by omega)
    simp only [encode, decode, quantum_three, hpad, decode_encode rest, Option.bind_eq_bind,
      Option.bind_some, false_and, if_false]
    rfl
  | [a, b] => by
    simp only [encode, decode, quantum_two, Option.bind_eq_bind, Option.bind_some]
    rfl
  | [a] => by
    simp only [encode, decode, quantum_one, Option.bind_eq_bind, Option.bind_some]
    rfl
  | [] => rfl

end Base64
end SensorSupport
