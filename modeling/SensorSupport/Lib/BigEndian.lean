/-
# Numbers in big-endian bytes

A number is written to `n` bytes by a loop that goes down from the last one, putting the low byte
and shifting it out, and read by one that goes up, shifting the bytes read so far. Both loops are
on 64-bit words. What is read is what was written if it fits the bytes (`read_write`), and bytes
that are read are written again (`write_read`), for at most eight of them.

Key definitions: `readUpTo`, `writeUpTo`.
Key theorems: `read_write`, `write_read`.
-/
import Mathlib.Algebra.Ring.Nat
import Mathlib.Tactic.Common

namespace SensorSupport
namespace BigEndian

variable {n : ℕ}

/-- The number in the first `i` bytes. -/
def readUpTo (bytes : Vector UInt8 n) : (i : ℕ) → i ≤ n → UInt64
  | 0, _ => 0
  | i + 1, h => (readUpTo bytes i (by omega) <<< 8) + bytes[i].toUInt64

/-- A number put into the first `i` bytes, the last of them first. -/
def writeUpTo : (i : ℕ) → i ≤ n → UInt64 → Vector UInt8 n → Vector UInt8 n
  | 0, _, _, bytes => bytes
  | i + 1, h, v, bytes =>
    writeUpTo i (by omega) (v >>> 8) (bytes.set i (v &&& 0xFF).toUInt8)

/-! ### One byte -/

theorem shift_back (v : UInt64) : ((v >>> 8) <<< 8) + (v &&& 0xFF).toUInt8.toUInt64 = v := by
  apply UInt64.toNat_inj.mp
  have hand : v.toNat &&& 255 = v.toNat % 256 := Nat.and_two_pow_sub_one_eq_mod _ 8
  simp only [UInt64.toNat_add, UInt64.toNat_shiftLeft, UInt64.toNat_shiftRight,
    UInt8.toNat_toUInt64, UInt64.toNat_toUInt8, UInt64.toNat_and, UInt64.reduceToNat,
    Nat.shiftLeft_eq, Nat.shiftRight_eq_div_pow, Nat.reduceMod, Nat.reducePow, hand]
  have := v.toNat_lt
  omega

theorem shiftRight_lt {v : UInt64} {i : ℕ} (hv : v.toNat < 256 ^ (i + 1)) :
    (v >>> 8).toNat < 256 ^ i := by
  rw [Nat.pow_succ] at hv
  simp only [UInt64.toNat_shiftRight, UInt64.reduceToNat, Nat.shiftRight_eq_div_pow,
    Nat.reduceMod, Nat.reducePow]
  omega

/-- The byte that is shifted in last. -/
theorem shift_in {v : UInt64} {i : ℕ} (b : UInt8) (hv : v.toNat < 256 ^ i) (hi : i < 8) :
    ((v <<< 8) + b.toUInt64).toNat = v.toNat * 256 + b.toNat := by
  have hb := b.toNat_lt
  have hpow : (256 : ℕ) ^ i ≤ 256 ^ 7 := Nat.pow_le_pow_right (by decide) (by omega)
  simp only [UInt64.toNat_add, UInt64.toNat_shiftLeft, UInt8.toNat_toUInt64, UInt64.reduceToNat,
    Nat.shiftLeft_eq, Nat.reduceMod, Nat.reducePow]
  omega

/-! ### The loops -/

/-- The bytes behind the first `i` stay. -/
theorem writeUpTo_behind {j : ℕ} (hj : j < n) : ∀ {i : ℕ} (hi : i ≤ n) (v : UInt64)
    (bytes : Vector UInt8 n), i ≤ j → (writeUpTo i hi v bytes)[j] = bytes[j]
  | 0, _, _, _, _ => rfl
  | i + 1, hi, v, bytes, hij => by
    rw [writeUpTo, writeUpTo_behind hj (by omega) _ _ (by omega),
      Vector.getElem_set_ne (by omega) _ (by omega)]

/-- **A number is read back**, if it fits the bytes. -/
theorem read_write : ∀ {i : ℕ} (hi : i ≤ n) (v : UInt64) (bytes : Vector UInt8 n),
    v.toNat < 256 ^ i → readUpTo (writeUpTo i hi v bytes) i hi = v
  | 0, _, v, _, hv => by
    have : v.toNat = 0 := by simpa using hv
    exact UInt64.toNat_inj.mp (by simpa [readUpTo] using this.symm)
  | i + 1, hi, v, bytes, hv => by
    have hlast : (writeUpTo (i + 1) hi v bytes)[i] = (v &&& 0xFF).toUInt8 := by
      rw [writeUpTo, writeUpTo_behind (by omega) _ _ _ (Nat.le_refl i), Vector.getElem_set_self]
    rw [readUpTo, hlast, writeUpTo, read_write _ _ _ (shiftRight_lt hv)]
    exact shift_back v

theorem readUpTo_lt (bytes : Vector UInt8 n) : ∀ {i : ℕ} (hi : i ≤ n), i ≤ 8 →
    (readUpTo bytes i hi).toNat < 256 ^ i
  | 0, _, _ => Nat.one_pos
  | i + 1, hi, h8 => by
    have ih := readUpTo_lt bytes (Nat.le_of_succ_le hi) (by omega)
    have hb := bytes[i].toNat_lt
    rw [readUpTo, shift_in _ ih h8, Nat.pow_succ]
    omega

/-- **Bytes that are read are written again**, over any others. -/
theorem write_read (bytes : Vector UInt8 n) {j : ℕ} (hj : j < n) :
    ∀ {i : ℕ} (hi : i ≤ n) (other : Vector UInt8 n), i ≤ 8 → j < i →
      (writeUpTo i hi (readUpTo bytes i hi) other)[j] = bytes[j]
  | i + 1, hi, other, h8, hij => by
    have hlt := readUpTo_lt bytes (Nat.le_of_succ_le hi) (by omega)
    have hsum := shift_in bytes[i] hlt h8
    have hb := bytes[i].toNat_lt
    rw [writeUpTo, readUpTo]
    rcases Nat.lt_or_eq_of_le (Nat.le_of_lt_succ hij) with hlow | rfl
    · -- the bytes before the last are shifted out again
      have hout : ((readUpTo bytes i (by omega) <<< 8) + bytes[i].toUInt64) >>> 8
          = readUpTo bytes i (by omega) := by
        apply UInt64.toNat_inj.mp
        rw [UInt64.toNat_shiftRight, hsum, Nat.shiftRight_eq_div_pow]
        simp only [UInt64.reduceToNat, Nat.reduceMod, Nat.reducePow]
        omega
      rw [hout]
      exact write_read bytes hj _ _ (by omega) hlow
    · rw [writeUpTo_behind hj _ _ _ (Nat.le_refl j), Vector.getElem_set_self]
      apply UInt8.toNat_inj.mp
      rw [UInt64.toNat_toUInt8, UInt64.toNat_and, hsum]
      have hand := Nat.and_two_pow_sub_one_eq_mod
        ((readUpTo bytes j (by omega)).toNat * 256 + bytes[j].toNat) 8
      simp only [UInt64.reduceToNat, Nat.reducePow, Nat.reduceSub] at hand ⊢
      omega

end BigEndian
end SensorSupport
