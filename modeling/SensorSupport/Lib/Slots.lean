/-
# Marked slots and the keys that hold them

A pool gives its slots to keys and marks each slot that is given. The pool is exact when no
two keys hold the same slot and the marks are the slots held.

Who looks first and acts later may act on what is no longer so. For each way to change an
exact pool the lemmas here say exactly when it stays exact: a slot that is free is given to
a key that holds none (`take_exact`), and a key gives back the slot that it holds, or it
holds none and the slot was not given again (`release_exact`).

Key definitions: `Slots`, `Slots.Exact`, `Slots.firstFree`, `Slots.put`, `Slots.take`,
`Slots.release`.
Key theorems: `Slots.take_exact`, `Slots.put_not_exact`, `Slots.release_exact`.
-/
import Mathlib.Data.List.FinRange
import Mathlib.Logic.Function.Basic

namespace SensorSupport

/-- The slot of a key, and the slots that are marked. -/
structure Slots (K : Type) (n : ℕ) where
  map : K → Option (Fin n)
  marks : Fin n → Bool

namespace Slots

variable {K : Type} {n : ℕ} {s : Slots K n} {k : K} {i : Fin n}

/-- No slot is held. -/
def empty : Slots K n := ⟨fun _ => none, fun _ => false⟩

/-- The marks are the slots held, each by one key. -/
structure Exact (s : Slots K n) : Prop where
  injective : ∀ k k' i, s.map k = some i → s.map k' = some i → k = k'
  marked : ∀ i, s.marks i = true ↔ ∃ k, s.map k = some i

theorem empty_exact : Exact (empty : Slots K n) :=
  ⟨fun _ _ _ h => (nomatch h), fun _ => ⟨fun h => (nomatch h), fun ⟨_, h⟩ => (nomatch h)⟩⟩

/-- The first slot that is not marked. -/
def firstFree (s : Slots K n) : Option (Fin n) := (List.finRange n).find? fun i => !s.marks i

theorem firstFree_eq_some (h : s.firstFree = some i) : s.marks i = false := by
  simpa using List.find?_some h

theorem firstFree_eq_none : s.firstFree = none ↔ ∀ i, s.marks i = true := by
  simp [firstFree, List.find?_eq_none]

/-- What a key holds is marked. -/
theorem Exact.marks_of_map (hs : Exact s) (h : s.map k = some i) : s.marks i = true :=
  (hs.marked i).mpr ⟨k, h⟩

variable [DecidableEq K]

/-- A key holds a slot, which is not marked for it. -/
def put (s : Slots K n) (k : K) (i : Fin n) : Slots K n :=
  { s with map := Function.update s.map k (some i) }

/-- A key holds a slot, which is marked. -/
def take (s : Slots K n) (k : K) (i : Fin n) : Slots K n :=
  ⟨Function.update s.map k (some i), Function.update s.marks i true⟩

/-- A key holds no slot, and the mark of a slot is cleared. -/
def release (s : Slots K n) (k : K) (i : Fin n) : Slots K n :=
  ⟨Function.update s.map k none, Function.update s.marks i false⟩

/-- **A free slot is taken.** The pool stays exact when the key held none. -/
theorem take_exact (hs : Exact s) (hi : s.marks i = false) :
    Exact (s.take k i) ↔ s.map k = none := by
  have hfree : ∀ k', s.map k' ≠ some i := by
    intro k' h
    rw [hs.marks_of_map h] at hi
    cases hi
  constructor
  · intro h
    by_contra hne
    obtain ⟨j, hj⟩ := Option.ne_none_iff_exists'.mp hne
    have hji : j ≠ i := fun heq => hfree k (heq ▸ hj)
    -- the mark of the slot that the key held before stays
    have hmark : (s.take k i).marks j = true := by
      change Function.update s.marks i true j = true
      rw [Function.update_of_ne hji]
      exact hs.marks_of_map hj
    obtain ⟨k', hk'⟩ := (h.marked j).mp hmark
    change Function.update s.map k (some i) k' = some j at hk'
    by_cases hkk : k' = k
    · rw [hkk, Function.update_self] at hk'
      exact hji (Option.some.inj hk').symm
    · rw [Function.update_of_ne hkk] at hk'
      exact hkk (hs.injective k' k j hk' hj)
  · intro hnone
    refine ⟨fun k₁ k₂ j h₁ h₂ => ?_, fun j => ?_⟩
    · change Function.update s.map k (some i) k₁ = some j at h₁
      change Function.update s.map k (some i) k₂ = some j at h₂
      by_cases hk₁ : k₁ = k <;> by_cases hk₂ : k₂ = k
      · rw [hk₁, hk₂]
      · rw [hk₁, Function.update_self] at h₁
        rw [Function.update_of_ne hk₂, ← h₁] at h₂
        exact absurd h₂ (hfree k₂)
      · rw [hk₂, Function.update_self] at h₂
        rw [Function.update_of_ne hk₁, ← h₂] at h₁
        exact absurd h₁ (hfree k₁)
      · rw [Function.update_of_ne hk₁] at h₁
        rw [Function.update_of_ne hk₂] at h₂
        exact hs.injective k₁ k₂ j h₁ h₂
    · change Function.update s.marks i true j = true ↔
        ∃ k', Function.update s.map k (some i) k' = some j
      by_cases hji : j = i
      · rw [hji, Function.update_self]
        exact iff_of_true rfl ⟨k, Function.update_self _ _ _⟩
      · rw [Function.update_of_ne hji, hs.marked j]
        refine ⟨fun ⟨k', hk'⟩ => ⟨k', ?_⟩, fun ⟨k', hk'⟩ => ⟨k', ?_⟩⟩
        · rw [Function.update_of_ne, hk']
          rintro rfl
          rw [hnone] at hk'
          cases hk'
        · rwa [Function.update_of_ne] at hk'
          rintro rfl
          rw [Function.update_self] at hk'
          exact hji (Option.some.inj hk').symm

/-- A slot that a key holds without a mark makes a pool inexact: it was free, or is that of
another key. -/
theorem put_not_exact (hs : Exact s) (hk : s.map k = none) : ¬ Exact (s.put k i) := by
  intro h
  have hself : (s.put k i).map k = some i := Function.update_self _ _ _
  obtain ⟨k', hk'⟩ := (hs.marked i).mp (h.marks_of_map hself)
  have hne : k' ≠ k := by
    rintro rfl
    rw [hk] at hk'
    cases hk'
  refine hne (h.injective k' k i ?_ hself)
  change Function.update s.map k (some i) k' = some i
  rw [Function.update_of_ne hne, hk']

/-- **A slot is released.** The pool stays exact when the key held it, or held none and the
slot is free. -/
theorem release_exact (hs : Exact s) :
    Exact (s.release k i) ↔ s.map k = some i ∨ s.map k = none ∧ s.marks i = false := by
  have hmap : ∀ k' j, (s.release k i).map k' = some j ↔ k' ≠ k ∧ s.map k' = some j := by
    intro k' j
    change Function.update s.map k none k' = some j ↔ _
    by_cases hk : k' = k
    · rw [hk, Function.update_self]
      simp
    · rw [Function.update_of_ne hk]
      simp [hk]
  constructor
  · intro h
    cases hk : s.map k with
    | none =>
      refine .inr ⟨rfl, ?_⟩
      by_contra hmark
      obtain ⟨k', hk'⟩ := (hs.marked i).mp (by simpa using hmark)
      have hne : k' ≠ k := by
        rintro rfl
        rw [hk] at hk'
        cases hk'
      have hcleared := h.marks_of_map ((hmap k' i).mpr ⟨hne, hk'⟩)
      rw [show (s.release k i).marks i = false from Function.update_self _ _ _] at hcleared
      cases hcleared
    | some j =>
      refine .inl ?_
      by_contra hne
      have hji : j ≠ i := fun heq => hne (heq ▸ rfl)
      have hmark : (s.release k i).marks j = true := by
        change Function.update s.marks i false j = true
        rw [Function.update_of_ne hji]
        exact hs.marks_of_map hk
      obtain ⟨k', hk'⟩ := (h.marked j).mp hmark
      obtain ⟨hne', hold⟩ := (hmap k' j).mp hk'
      exact hne' (hs.injective k' k j hold hk)
  · intro hheld
    refine ⟨fun k₁ k₂ j h₁ h₂ => ?_, fun j => ?_⟩
    · exact hs.injective k₁ k₂ j ((hmap k₁ j).mp h₁).2 ((hmap k₂ j).mp h₂).2
    · have hothers : ∀ k', s.map k' = some j → (k' ≠ k ↔ j ≠ i) := by
        intro k' hk'
        rcases hheld with hk | ⟨hk, hmark⟩
        · refine not_congr ⟨?_, ?_⟩
          · rintro rfl
            exact Option.some.inj (hk'.symm.trans hk)
          · rintro rfl
            exact hs.injective k' k j hk' hk
        · refine iff_of_true ?_ ?_
          · rintro rfl
            rw [hk] at hk'
            cases hk'
          · rintro rfl
            rw [hs.marks_of_map hk'] at hmark
            cases hmark
      have hmarks : (s.release k i).marks j = true ↔ j ≠ i ∧ s.marks j = true := by
        change Function.update s.marks i false j = true ↔ _
        by_cases hji : j = i
        · rw [hji, Function.update_self]
          simp
        · rw [Function.update_of_ne hji]
          simp [hji]
      rw [hmarks, hs.marked j]
      constructor
      · rintro ⟨hji, k', hk'⟩
        exact ⟨k', (hmap k' j).mpr ⟨(hothers k' hk').mpr hji, hk'⟩⟩
      · rintro ⟨k', hk'⟩
        obtain ⟨hne, hold⟩ := (hmap k' j).mp hk'
        exact ⟨(hothers k' hold).mp hne, k', hold⟩

end Slots

end SensorSupport
