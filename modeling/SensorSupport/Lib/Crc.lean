/-
# Checksums from a table

A reflected checksum keeps a remainder of `w` bits and takes in symbols of `k` bits: the low bits
of the remainder and the symbol choose a word of a table, and the rest of the remainder moves
down. When the top `k` bits of a word tell which one it is, the symbols of a burst of `w` bits can
be read off the remainder behind it, from the last one to the first.

Key definitions: `Crc.update`, `Crc.remainder`, `Crc.TopInjective`, `Crc.divBits`.
Key theorems: `remainder_append`, `remainder_injective`, `remainder_symbols`, `remainder_burst`,
`topInjective_of_divBits`.
-/
import Mathlib.Tactic.Common

namespace SensorSupport
namespace Crc

variable {w k : ℕ}

/-- A symbol is taken in. -/
def update (table : BitVec k → BitVec w) (s : BitVec w) (b : BitVec k) : BitVec w :=
  table (s.setWidth k ^^^ b) ^^^ (s >>> k)

/-- The remainder behind some symbols. -/
def remainder (table : BitVec k → BitVec w) (s : BitVec w) (bs : List (BitVec k)) : BitVec w :=
  bs.foldl (update table) s

/-- The top `k` bits of a word tell which one it is. -/
def TopInjective (table : BitVec k → BitVec w) : Prop :=
  ∀ i j, table i >>> (w - k) = table j >>> (w - k) → i = j

variable {table : BitVec k → BitVec w} {s s' : BitVec w}

/-- Two strings, one behind the other. -/
theorem remainder_append (table : BitVec k → BitVec w) (s : BitVec w) (bs bs' : List (BitVec k)) :
    remainder table s (bs ++ bs') = remainder table (remainder table s bs) bs' :=
  List.foldl_append

theorem remainder_cons (table : BitVec k → BitVec w) (s : BitVec w) (b : BitVec k)
    (bs : List (BitVec k)) : remainder table s (b :: bs) = remainder table (update table s b) bs :=
  rfl

theorem xor_left_cancel {n : ℕ} {x y z : BitVec n} (h : x ^^^ y = x ^^^ z) : y = z := by
  have hx : x ^^^ (x ^^^ y) = x ^^^ (x ^^^ z) := congrArg (x ^^^ ·) h
  rwa [← BitVec.xor_assoc, ← BitVec.xor_assoc, BitVec.xor_self, BitVec.zero_xor,
    BitVec.zero_xor] at hx

theorem xor_right_cancel {n : ℕ} {x y z : BitVec n} (h : y ^^^ x = z ^^^ x) : y = z := by
  rw [BitVec.xor_comm y, BitVec.xor_comm z] at h
  exact xor_left_cancel h

/-- Nothing is left of a remainder that is moved down by all its bits. -/
theorem shiftRight_all (s : BitVec w) {n : ℕ} (hn : w ≤ n) : s >>> n = 0 := by
  apply BitVec.eq_of_getLsbD_eq
  intro i _
  rw [BitVec.getLsbD_ushiftRight, BitVec.getLsbD_of_ge s (n + i) (by omega)]
  exact (BitVec.getLsbD_zero ..).symm

/-- The top bits of a remainder are those of the word that was chosen. -/
theorem update_top (hk : k ≤ w) (s : BitVec w) (b : BitVec k) :
    update table s b >>> (w - k) = table (s.setWidth k ^^^ b) >>> (w - k) := by
  unfold update
  rw [BitVec.ushiftRight_xor_distrib, ← BitVec.shiftRight_add, shiftRight_all s (by omega)]
  exact BitVec.xor_zero

/-- Remainders that agree from bit `n` on come from the same word, and from remainders that agree
from bit `n + k` on. -/
theorem update_agrees (htop : TopInjective table) {n : ℕ} (hn : n + k ≤ w) {b b' : BitVec k}
    (h : update table s b >>> n = update table s' b' >>> n) :
    s.setWidth k ^^^ b = s'.setWidth k ^^^ b' ∧ s >>> (n + k) = s' >>> (n + k) := by
  have hsplit : w - k = n + (w - k - n) := by omega
  have htops : update table s b >>> (w - k) = update table s' b' >>> (w - k) := by
    rw [hsplit, BitVec.shiftRight_add, h, ← BitVec.shiftRight_add]
  rw [update_top (by omega), update_top (by omega)] at htops
  have hword := htop _ _ htops
  refine ⟨hword, ?_⟩
  unfold update at h
  rw [hword, BitVec.ushiftRight_xor_distrib, BitVec.ushiftRight_xor_distrib] at h
  have hrest := xor_left_cancel h
  rwa [← BitVec.shiftRight_add, ← BitVec.shiftRight_add, Nat.add_comm k] at hrest

/-- A symbol keeps different remainders different. -/
theorem update_injective (htop : TopInjective table) (hk : k ≤ w) {b : BitVec k}
    (h : update table s b = update table s' b) : s = s' := by
  have hzero : update table s b >>> 0 = update table s' b >>> 0 := by rw [h]
  obtain ⟨hword, hrest⟩ := update_agrees htop (by omega) hzero
  rw [Nat.zero_add] at hrest
  have hlow : s.setWidth k = s'.setWidth k := xor_right_cancel hword
  apply BitVec.eq_of_getLsbD_eq
  intro i _
  by_cases hi : i < k
  · have hbit := congrArg (BitVec.getLsbD · i) hlow
    simpa only [BitVec.getLsbD_setWidth, hi, decide_true, Bool.true_and] using hbit
  · have hbit := congrArg (BitVec.getLsbD · (i - k)) hrest
    simp only [BitVec.getLsbD_ushiftRight] at hbit
    rwa [Nat.add_sub_cancel' (Nat.not_lt.mp hi)] at hbit

/-- **Symbols keep different remainders different.** -/
theorem remainder_injective (htop : TopInjective table) (hk : k ≤ w) {bs : List (BitVec k)}
    (h : remainder table s bs = remainder table s' bs) : s = s' := by
  induction bs generalizing s s' with
  | nil => exact h
  | cons b bs ih =>
    rw [remainder_cons, remainder_cons] at h
    exact update_injective htop hk (ih h)

/-- Remainders that agree from bit `n` on: so do the symbols, in their words, and the remainders
before them from the next bits on. -/
theorem remainder_agrees (htop : TopInjective table) {n : ℕ} {bs bs' : List (BitVec k)}
    (hlen : bs.length = bs'.length) (hn : n + bs.length * k ≤ w)
    (h : remainder table s bs >>> n = remainder table s' bs' >>> n) :
    s >>> (n + bs.length * k) = s' >>> (n + bs.length * k) ∧ (s = s' → bs = bs') := by
  induction bs generalizing bs' s s' with
  | nil =>
    rw [List.length_eq_zero_iff.mp hlen.symm] at h ⊢
    rw [List.length_nil, Nat.zero_mul, Nat.add_zero]
    exact ⟨h, fun _ => rfl⟩
  | cons b bs ih =>
    cases bs' with
    | nil => exact nomatch hlen
    | cons b' bs' =>
      rw [List.length_cons, Nat.add_mul, Nat.one_mul, ← Nat.add_assoc] at hn ⊢
      obtain ⟨hrest, hsame⟩ := ih (Nat.succ.inj hlen) (by omega) h
      obtain ⟨hword, hstart⟩ := update_agrees htop hn hrest
      refine ⟨hstart, ?_⟩
      rintro rfl
      have hb : b = b' := xor_left_cancel hword
      subst hb
      rw [hsame rfl]

/-- **The remainder tells the symbols of a burst of at most `w` bits.** -/
theorem remainder_symbols (htop : TopInjective table) {bs bs' : List (BitVec k)}
    (hlen : bs.length = bs'.length) (hburst : bs.length * k ≤ w)
    (h : remainder table s bs = remainder table s bs') : bs = bs' := by
  have hzero : remainder table s bs >>> 0 = remainder table s bs' >>> 0 := by rw [h]
  exact (remainder_agrees htop hlen (by omega) hzero).2 rfl

/-- **Two strings that differ within a burst of at most `w` bits have different remainders.** -/
theorem remainder_burst (htop : TopInjective table) (hk : k ≤ w) {pre bs bs' post : List (BitVec k)}
    (hlen : bs.length = bs'.length) (hburst : bs.length * k ≤ w) (hne : bs ≠ bs') :
    remainder table s (pre ++ bs ++ post) ≠ remainder table s (pre ++ bs' ++ post) := by
  intro h
  rw [remainder_append, remainder_append, remainder_append _ _ (pre ++ bs'),
    remainder_append _ _ pre] at h
  exact hne (remainder_symbols htop hlen hburst (remainder_injective htop hk h))

/-! ### Tables of a polynomial -/

/-- A bit of the division by a polynomial, whose bits are in the other order. -/
def divBit (poly c : BitVec w) : BitVec w :=
  if c.getLsbD 0 then (c >>> 1) ^^^ poly else c >>> 1

def divBits (poly : BitVec w) : ℕ → BitVec w → BitVec w
  | 0, c => c
  | n + 1, c => divBits poly n (divBit poly c)

theorem divBit_xor (poly a b : BitVec w) :
    divBit poly (a ^^^ b) = divBit poly a ^^^ divBit poly b := by
  have htwice : ∀ x y : BitVec w, x ^^^ poly ^^^ (y ^^^ poly) = x ^^^ y := by
    intro x y
    rw [BitVec.xor_comm y, BitVec.xor_assoc x, ← BitVec.xor_assoc poly, BitVec.xor_self,
      BitVec.zero_xor]
  unfold divBit
  rw [BitVec.getLsbD_xor, BitVec.ushiftRight_xor_distrib]
  cases a.getLsbD 0 <;> cases b.getLsbD 0
  · rfl
  · exact BitVec.xor_assoc ..
  · show a >>> 1 ^^^ b >>> 1 ^^^ poly = a >>> 1 ^^^ poly ^^^ b >>> 1
    rw [BitVec.xor_assoc, BitVec.xor_comm (b >>> 1), BitVec.xor_assoc]
  · exact (htwice _ _).symm

theorem divBits_xor (poly : BitVec w) (n : ℕ) (a b : BitVec w) :
    divBits poly n (a ^^^ b) = divBits poly n a ^^^ divBits poly n b := by
  induction n generalizing a b with
  | zero => rfl
  | succ n ih =>
    unfold divBits
    rw [divBit_xor, ih]

/-- **The words of a polynomial differ in their top bits when only that of 0 has none there.** -/
theorem topInjective_of_divBits {poly : BitVec w} {n : ℕ}
    (hpoly : ∀ i, table i = divBits poly n (i.setWidth w))
    (hzero : ∀ i, table i >>> (w - k) = 0 → i = 0) : TopInjective table := by
  intro i j h
  have hxor : table (i ^^^ j) >>> (w - k) = 0 := by
    rw [hpoly, BitVec.setWidth_xor, divBits_xor, ← hpoly, ← hpoly, BitVec.ushiftRight_xor_distrib,
      h, BitVec.xor_self]
    rfl
  exact xor_right_cancel ((hzero _ hxor).trans BitVec.xor_self.symm)

end Crc
end SensorSupport
