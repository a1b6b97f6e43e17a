/-
# Parsers that decide on a growing buffer

An incremental parser appends each chunk to a buffer and asks a verdict
function about it: an error, `none` for "not yet", or the payload that
follows the header. After a payload every further chunk is payload. How the
stream is cut matters exactly when some cut gets a verdict that the whole
stream does not bear out (`run_agrees_iff`).

Key definitions: `findSub`, `Incremental.run`, `Incremental.Agrees`.
Key theorems: `findSub_append`, `findSub_of_drop`, `Incremental.run_agrees_iff`.
-/
import Mathlib.Data.List.Basic
import Mathlib.Data.List.Infix
import Mathlib.Tactic.Common

namespace SensorSupport

/-! ### The first occurrence of a pattern -/

section Find

variable {α : Type} [DecidableEq α] {pat l r : List α} {i : ℕ}

/-- The first position at which `pat` occurs. -/
def findSub (pat : List α) : List α → Option ℕ
  | [] => if pat = [] then some 0 else none
  | x :: xs => if pat <+: x :: xs then some 0 else (findSub pat xs).map (· + 1)

theorem findSub_le (h : findSub pat l = some i) : i + pat.length ≤ l.length := by
  induction l generalizing i with
  | nil =>
    unfold findSub at h
    split at h
    · rename_i hp
      cases h
      simp [hp]
    · cases h
  | cons x xs ih =>
    unfold findSub at h
    split at h
    · rename_i hp
      cases h
      simpa using hp.length_le
    · obtain ⟨j, hj, rfl⟩ := Option.map_eq_some_iff.mp h
      have := ih hj
      simp only [List.length_cons]
      omega

/-- The pattern occurs where it is found. -/
theorem findSub_drop (h : findSub pat l = some i) : pat <+: l.drop i := by
  induction l generalizing i with
  | nil =>
    unfold findSub at h
    split at h
    · simp_all
    · cases h
  | cons x xs ih =>
    unfold findSub at h
    split at h
    · cases h
      assumption
    · obtain ⟨j, hj, rfl⟩ := Option.map_eq_some_iff.mp h
      simpa using ih hj

/-- More bytes behind an occurrence do not bring an earlier one. -/
theorem findSub_append (h : findSub pat l = some i) : findSub pat (l ++ r) = some i := by
  induction l generalizing i with
  | nil =>
    unfold findSub at h
    split at h
    · rename_i hp
      cases h
      subst hp
      cases r <;> simp [findSub]
    · cases h
  | cons x xs ih =>
    unfold findSub at h
    rw [List.cons_append, findSub]
    split at h
    · rename_i hp
      rw [if_pos (show pat <+: x :: (xs ++ r) from hp.trans (List.prefix_append (x :: xs) r))]
      exact h
    · rename_i hp
      obtain ⟨j, hj, rfl⟩ := Option.map_eq_some_iff.mp h
      have hlen : pat.length ≤ (x :: xs).length := by
        have := findSub_le hj
        simp only [List.length_cons]
        omega
      have hn : ¬ pat <+: x :: (xs ++ r) := fun hpr =>
        hp (List.prefix_of_prefix_length_le hpr (List.prefix_append (x :: xs) r) hlen)
      rw [if_neg hn, ih hj]
      rfl

/-- A pattern is found no later than where it occurs. -/
theorem findSub_of_drop {j : ℕ} (h : pat <+: l.drop j) : ∃ i ≤ j, findSub pat l = some i := by
  induction l generalizing j with
  | nil => exact ⟨0, j.zero_le, by simp_all [findSub]⟩
  | cons x xs ih =>
    unfold findSub
    split
    · exact ⟨0, j.zero_le, rfl⟩
    · rename_i hp
      cases j with
      | zero => exact absurd h hp
      | succ j =>
        obtain ⟨i, hij, hi⟩ := ih (j := j) (by simpa using h)
        exact ⟨i + 1, by omega, by rw [hi]; rfl⟩

/-- The bytes in front of an occurrence stay the same. -/
theorem take_append_of_findSub (h : findSub pat l = some i) : (l ++ r).take i = l.take i :=
  List.take_append_of_le_length (by have := findSub_le h; omega)

/-- So do those behind it, with the new ones behind them. -/
theorem drop_append_of_findSub (h : findSub pat l = some i) {k : ℕ} (hk : k ≤ i + pat.length) :
    (l ++ r).drop k = l.drop k ++ r :=
  List.drop_append_of_le_length (hk.trans (findSub_le h))

end Find

/-! ### Verdicts on a growing buffer -/

namespace Incremental

variable {α ε : Type} (verdict : List α → Except ε (Option (List α)))

/-- The chunks of a stream, from an undecided buffer: the error, or the
payload passed on. -/
def run : List α → List (List α) → Except ε (List α)
  | _, [] => .ok []
  | buf, c :: cs =>
    match verdict (buf ++ c) with
    | .error e => .error e
    | .ok none => run (buf ++ c) cs
    | .ok (some payload) => .ok (payload ++ cs.flatten)

/-- Both fail, or both pass on the same payload. -/
def Agrees : Except ε (List α) → Except ε (List α) → Prop
  | .error _, .error _ => True
  | .ok p, .ok q => p = q
  | _, _ => False

variable {verdict}

/-- The outcome of one chunk. -/
theorem run_singleton (buf c : List α) : run verdict buf [c] =
    match verdict (buf ++ c) with
    | .error e => .error e
    | .ok none => .ok []
    | .ok (some payload) => .ok payload := by
  unfold run
  cases verdict (buf ++ c) with
  | error e => rfl
  | ok v => cases v <;> simp [run]

/-- **When the cuts do not matter.** `C P S` says that the bytes `P` up to a
cut do not mislead about the stream `S`. If it holds for an undecided or
rejected `P`, says of an accepted `P` that the whole stream gets the payload
`P` promises, and then goes on holding at the later cuts, the chunks give the
outcome of the whole stream exactly when `C` holds at every cut. -/
theorem run_agrees_iff (C : List α → List α → Prop)
    (herr : ∀ P x e, verdict P = .error e → ∃ e', verdict (P ++ x) = .error e')
    (hopen : ∀ P S, (∀ p, verdict P ≠ .ok (some p)) → C P S)
    (hdone : ∀ P x p, verdict P = .ok (some p) →
      (Agrees (.ok (p ++ x)) (run verdict [] [P ++ x]) ↔ C P (P ++ x)))
    (hlater : ∀ P y z p, verdict P = .ok (some p) → C P (P ++ y ++ z) → C (P ++ y) (P ++ y ++ z)) :
    ∀ (chunks : List (List α)) (buf : List α), verdict buf = .ok none →
      (Agrees (run verdict buf chunks) (run verdict [] [buf ++ chunks.flatten]) ↔
        ∀ k < chunks.length, 0 < k → C (buf ++ (chunks.take k).flatten) (buf ++ chunks.flatten))
  | [], buf, hbuf => by simp [run, hbuf, Agrees]
  | c :: cs, buf, hbuf => by
    have hS : buf ++ (c :: cs).flatten = buf ++ c ++ cs.flatten := by simp
    have hcut : ∀ k, buf ++ ((c :: cs).take (k + 1)).flatten = buf ++ c ++ (cs.take k).flatten := by
      simp
    -- The condition of the cuts behind `c`, which the cases below meet in turn.
    have hsplit : (∀ k < (c :: cs).length, 0 < k →
        C (buf ++ ((c :: cs).take k).flatten) (buf ++ (c :: cs).flatten)) ↔
        ∀ k < cs.length + 1, 0 < k →
          C (buf ++ c ++ (cs.take (k - 1)).flatten) (buf ++ c ++ cs.flatten) := by
      refine forall_congr' fun k => forall_congr' fun _ => forall_congr' fun hk => ?_
      obtain ⟨j, rfl⟩ : ∃ j, k = j + 1 := ⟨k - 1, by omega⟩
      rw [hcut, hS, Nat.add_sub_cancel]
    rw [hsplit, hS]
    cases hv : verdict (buf ++ c) with
    | error e =>
      obtain ⟨e', he'⟩ := herr _ cs.flatten e hv
      have hrej : ∀ x, C (buf ++ c ++ x) (buf ++ c ++ cs.flatten) := fun x => hopen _ _ fun p hp => by
        obtain ⟨e'', he''⟩ := herr _ x e hv
        rw [he''] at hp
        cases hp
      rw [run, hv, run_singleton, List.nil_append, he']
      exact iff_of_true trivial fun k _ _ => hrej _
    | ok v =>
      cases v with
      | none =>
        have ih := run_agrees_iff C herr hopen hdone hlater cs (buf ++ c) hv
        unfold run
        rw [hv]
        refine ih.trans ⟨fun h k hk hk0 => ?_, fun h k hk hk0 => ?_⟩
        · by_cases h1 : k = 1
          · subst h1
            exact hopen _ _ fun p hp => by simp [hv] at hp
          · exact h (k - 1) (by omega) (by omega)
        · simpa using h (k + 1) (by omega) (by omega)
      | some p =>
        unfold run
        rw [hv]
        refine (hdone _ cs.flatten p hv).trans ⟨fun h k hk hk0 => ?_, fun h => ?_⟩
        · have hcs : cs.flatten = (cs.take (k - 1)).flatten ++ (cs.drop (k - 1)).flatten := by
            rw [← List.flatten_append, List.take_append_drop]
          rw [hcs, ← List.append_assoc] at h ⊢
          exact hlater _ _ _ p hv h
        · by_cases hcs : cs = []
          · subst hcs
            refine (hdone _ _ p hv).mp ?_
            simp [run_singleton, hv, Agrees]
          · simpa using h 1 (by have := List.length_pos_of_ne_nil hcs; omega) Nat.one_pos

end Incremental

end SensorSupport
