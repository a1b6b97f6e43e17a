/-
# The names of files

Files are numbered as they are created, and a path is the name of at most one file. A
file has at most one name, and none once its name was removed, or given to another,
while it is open. To open a file for appending creates it where its name is free.

Key definitions: `FileNames`, `FileNames.openAppend`, `FileNames.remove`, `FileNames.rename`.
Key theorems: `FileNames.openAppend_file`, `FileNames.openAppend_fresh`, `FileNames.rename_file`.
-/
import Mathlib.Logic.Function.Basic
import Mathlib.Tactic.Common

namespace SensorSupport

/-- The files that have names, and the number that the next file gets. -/
structure FileNames (P : Type) where
  file : P → Option ℕ
  next : ℕ
  file_lt : ∀ {p f}, file p = some f → f < next
  file_inj : ∀ {p q f}, file p = some f → file q = some f → p = q

namespace FileNames

variable {P : Type} [DecidableEq P]

/-- There are no files. -/
def empty : FileNames P where
  file _ := none
  next := 0
  file_lt h := nomatch h
  file_inj h := nomatch h

/-- A name is removed. -/
def remove (p : P) (n : FileNames P) : FileNames P where
  file := Function.update n.file p none
  next := n.next
  file_lt {q f} h := by
    by_cases hq : q = p
    · rw [hq, Function.update_self] at h
      cases h
    · rw [Function.update_of_ne hq] at h
      exact n.file_lt h
  file_inj {q r f} hq hr := by
    have hne : ∀ q, Function.update n.file p none q = some f → n.file q = some f := by
      intro q h
      by_cases hq : q = p
      · rw [hq, Function.update_self] at h
        cases h
      · rwa [Function.update_of_ne hq] at h
    exact n.file_inj (hne q hq) (hne r hr)

theorem remove_file (p q : P) (n : FileNames P) :
    (n.remove p).file q = if q = p then none else n.file q := Function.update_apply _ _ _ _

/-- A removed name is the name of no file, and the others are as they were. -/
theorem remove_some {p q : P} {n : FileNames P} {f : ℕ} (h : (n.remove p).file q = some f) :
    q ≠ p ∧ n.file q = some f := by
  rw [remove_file] at h
  split at h
  · cases h
  · exact ⟨‹_›, h⟩

/-- The file with the number `f`, which has no name yet, gets one that is free. -/
def link (p : P) (f : ℕ) (n : FileNames P) (hfree : ∀ q, n.file q ≠ some f) : FileNames P where
  file := Function.update n.file p (some f)
  next := max n.next (f + 1)
  file_lt {q g} h := by
    by_cases hq : q = p
    · rw [hq, Function.update_self] at h
      cases h
      exact Nat.lt_of_lt_of_le (Nat.lt_succ_self f) (Nat.le_max_right _ _)
    · rw [Function.update_of_ne hq] at h
      exact Nat.lt_of_lt_of_le (n.file_lt h) (Nat.le_max_left _ _)
  file_inj {q r g} hq hr := by
    rw [Function.update_apply] at hq hr
    split at hq <;> split at hr
    · rename_i hqp hrp
      exact hqp.trans hrp.symm
    · cases hq
      exact absurd hr (hfree r)
    · cases hr
      exact absurd hq (hfree q)
    · exact n.file_inj hq hr

/-- `fopen` for appending: the file with this name, or a new one. -/
def openAppend (p : P) (n : FileNames P) : FileNames P × ℕ :=
  match n.file p with
  | some f => (n, f)
  | none => (n.link p n.next fun _ h => absurd (n.file_lt h) (Nat.lt_irrefl _), n.next)

/-- `rename`: a file with the second name loses it. -/
def rename (p q : P) (n : FileNames P) : FileNames P :=
  match h : n.file p with
  | none => n
  | some f => (n.remove p).link q f fun _ hr => (remove_some hr).1 (n.file_inj (remove_some hr).2 h)

theorem openAppend_next (p : P) (n : FileNames P) :
    n.next ≤ (n.openAppend p).1.next ∧ (n.openAppend p).2 < (n.openAppend p).1.next := by
  unfold openAppend
  split
  · rename_i f hf
    exact ⟨Nat.le_refl _, n.file_lt hf⟩
  · exact ⟨Nat.le_max_left _ _, Nat.lt_of_lt_of_le (Nat.lt_succ_self _) (Nat.le_max_right _ _)⟩

/-- The file that is opened has the name, and the other names are as they were. -/
theorem openAppend_file (p q : P) (n : FileNames P) :
    (n.openAppend p).1.file q = if q = p then some (n.openAppend p).2 else n.file q := by
  unfold openAppend
  split
  · rename_i f hf
    split
    · rename_i hq
      rw [hq]
      exact hf
    · rfl
  · exact Function.update_apply _ _ _ _

/-- The file that is opened had the name, or is new. -/
theorem openAppend_fresh (p : P) (n : FileNames P) :
    n.file p = some (n.openAppend p).2 ∨ (n.openAppend p).2 = n.next := by
  unfold openAppend
  split
  · rename_i f hf
    exact .inl hf
  · exact .inr rfl

/-- The file that is opened has one name. -/
theorem openAppend_path {p q : P} {n : FileNames P}
    (h : (n.openAppend p).1.file q = some (n.openAppend p).2) : q = p := by
  apply (n.openAppend p).1.file_inj h
  rw [openAppend_file, if_pos rfl]

/-- The names of the other files are as they were. -/
theorem openAppend_other {p q : P} {n : FileNames P} {f : ℕ} (hf : f ≠ (n.openAppend p).2)
    (h : (n.openAppend p).1.file q = some f) : n.file q = some f := by
  rw [openAppend_file] at h
  split at h
  · cases h
    exact absurd rfl hf
  · exact h

/-- Behind a `rename` the second name is that of the file, and the first is free. -/
theorem rename_file {p : P} {n : FileNames P} {f : ℕ} (h : n.file p = some f) (q r : P) :
    (n.rename p q).file r = if r = q then some f else if r = p then none else n.file r := by
  unfold rename
  split
  · rename_i hnone
    rw [h] at hnone
    cases hnone
  · rename_i g hg
    rw [h] at hg
    cases hg
    show Function.update (n.remove p).file q (some f) r = _
    rw [Function.update_apply, remove_file]

theorem rename_next (p q : P) (n : FileNames P) : n.next ≤ (n.rename p q).next := by
  unfold rename
  split
  · exact Nat.le_refl _
  · exact Nat.le_max_left _ _

end FileNames

end SensorSupport
