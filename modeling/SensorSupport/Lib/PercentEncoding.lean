/-
# Percent encoding

A byte that is not safe is written as `%` and two hexadecimal digits. What is written so is read
back, whichever bytes are safe, if `%` is not (`decode_encode`), and has only safe bytes, `%` and
digits (`encode_all`).

Key definitions: `PercentEncoding.encode`, `PercentEncoding.decode`.
Key theorems: `PercentEncoding.decode_encode`, `PercentEncoding.encode_all`.
-/
import Mathlib.Data.Nat.Notation
import Mathlib.Tactic.Common

namespace SensorSupport
namespace PercentEncoding

/-- `%` -/
def percent : UInt8 := 0x25

/-- An upper-case hexadecimal digit. -/
def hexDigit (n : ℕ) : UInt8 := if n < 10 then UInt8.ofNat (0x30 + n) else UInt8.ofNat (0x37 + n)

/-- The value of a hexadecimal digit of either case. -/
def hexValue (c : UInt8) : Option ℕ :=
  if 0x30 ≤ c ∧ c ≤ 0x39 then some (c.toNat - 0x30)
  else if 0x41 ≤ c ∧ c ≤ 0x46 then some (c.toNat - 0x37)
  else if 0x61 ≤ c ∧ c ≤ 0x66 then some (c.toNat - 0x57)
  else none

def encodeByte (safe : UInt8 → Bool) (b : UInt8) : List UInt8 :=
  if safe b then [b] else [percent, hexDigit (b.toNat / 16), hexDigit (b.toNat % 16)]

def encode (safe : UInt8 → Bool) (bytes : List UInt8) : List UInt8 :=
  bytes.flatMap (encodeByte safe)

/-- A `%` without two digits behind it stands for itself. -/
def decode : List UInt8 → List UInt8
  | [] => []
  | [b] => [b]
  | [b, h] => [b, h]
  | b :: h :: l :: rest =>
    match b == percent, hexValue h, hexValue l with
    | true, some high, some low => UInt8.ofNat (high * 16 + low) :: decode rest
    | _, _, _ => b :: decode (h :: l :: rest)

theorem hexDigit_all {p : UInt8 → Bool} {n : ℕ} (hp : (List.range 16).all (p ∘ hexDigit) = true)
    (h : n < 16) : p (hexDigit n) = true :=
  List.all_eq_true.mp hp n (List.mem_range.mpr h)

theorem hexValue_hexDigit {n : ℕ} (h : n < 16) : hexValue (hexDigit n) = some n := by
  have hall : (List.range 16).all (fun n => hexValue (hexDigit n) = some n) = true := by
    decide +kernel
  exact of_decide_eq_true (List.all_eq_true.mp hall n (List.mem_range.mpr h))

/-- A byte that is no `%` stands for itself. -/
theorem decode_cons {b : UInt8} (h : b ≠ percent) : ∀ rest, decode (b :: rest) = b :: decode rest
  | [] => rfl
  | [_] => rfl
  | _ :: _ :: _ => by simp [decode, h]

theorem decode_escape (b : UInt8) (rest : List UInt8) :
    decode (percent :: hexDigit (b.toNat / 16) :: hexDigit (b.toNat % 16) :: rest)
      = b :: decode rest := by
  have hb := b.toNat_lt
  have hbyte : b.toNat / 16 * 16 + b.toNat % 16 = b.toNat := Nat.div_add_mod' _ _
  simp [decode, hexValue_hexDigit (show b.toNat / 16 < 16 by omega),
    hexValue_hexDigit (show b.toNat % 16 < 16 by omega), hbyte]

variable {safe : UInt8 → Bool}

/-- **Bytes are read back.** -/
theorem decode_encode (hsafe : safe percent = false) : ∀ bytes, decode (encode safe bytes) = bytes
  | [] => rfl
  | b :: rest => by
    have ih := decode_encode hsafe rest
    unfold encode at ih ⊢
    rw [List.flatMap_cons, encodeByte]
    by_cases hb : safe b = true
    · have hne : b ≠ percent := by
        rintro rfl
        rw [hsafe] at hb
        cases hb
      rw [if_pos hb, List.singleton_append, decode_cons hne, ih]
    · rw [if_neg hb, List.cons_append, List.cons_append, List.cons_append, List.nil_append,
        decode_escape, ih]

/-- A test that safe bytes, `%` and digits pass is passed by what is encoded. -/
theorem encode_all {p : UInt8 → Bool} (hsafe : ∀ b, safe b = true → p b = true)
    (hpercent : p percent = true) (hdigit : (List.range 16).all (p ∘ hexDigit) = true)
    (bytes : List UInt8) : (encode safe bytes).all p = true := by
  refine List.all_eq_true.mpr fun c hc => ?_
  obtain ⟨b, -, hc⟩ := List.mem_flatMap.mp hc
  have hb := b.toNat_lt
  unfold encodeByte at hc
  split at hc
  case isTrue hb => rw [List.mem_singleton.mp hc]; exact hsafe b hb
  case isFalse =>
    simp only [List.mem_cons, List.not_mem_nil, or_false] at hc
    rcases hc with rfl | rfl | rfl
    · exact hpercent
    · exact hexDigit_all hdigit (by omega)
    · exact hexDigit_all hdigit (by omega)

end PercentEncoding
end SensorSupport
