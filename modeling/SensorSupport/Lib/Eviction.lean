/-
# The oldest go first

A multimap keeps the order of insertion among equal keys. A store that grew beyond its
limit gives up the elements of a list, one after the other, until it fits or the list
ends.

Key definitions: `insertByKey`, `evict`.
Key theorems: `insertByKey_sorted`, `mem_insertByKey`, `evict_spec`.
-/
import Mathlib.Data.List.Infix
import Mathlib.Data.List.Sort

namespace SensorSupport

variable {α K S : Type} [LinearOrder K]

/-! ### Multimaps -/

/-- An element is inserted behind those whose keys are not greater. -/
def insertByKey (key : α → K) (x : α) (l : List α) : List α :=
  l.orderedInsert (fun a b => key a < key b) x

theorem mem_insertByKey {key : α → K} {x y : α} {l : List α} :
    y ∈ insertByKey key x l ↔ y = x ∨ y ∈ l := List.mem_orderedInsert _

theorem insertByKey_sorted {key : α → K} (x : α) : ∀ {l : List α},
    l.Pairwise (fun a b => key a ≤ key b) →
      (insertByKey key x l).Pairwise fun a b => key a ≤ key b
  | [], _ => List.pairwise_singleton _ _
  | b :: l, h => by
    obtain ⟨hb, hl⟩ := List.pairwise_cons.mp h
    unfold insertByKey
    rw [List.orderedInsert_cons]
    split
    · rename_i hlt
      refine List.pairwise_cons.mpr ⟨fun c hc => ?_, h⟩
      rcases List.mem_cons.mp hc with rfl | hc
      · exact le_of_lt hlt
      · exact (le_of_lt hlt).trans (hb c hc)
    · rename_i hge
      refine List.pairwise_cons.mpr ⟨fun c hc => ?_, insertByKey_sorted x hl⟩
      rcases mem_insertByKey.mp hc with rfl | hc
      · exact not_lt.mp hge
      · exact hb c hc

/-! ### Eviction -/

/-- The elements of the list are removed until the rest fits. -/
def evict (limit : ℕ) (size : S → ℕ) (remove : S → α → S) : List α → S → S
  | [], s => s
  | x :: xs, s => if limit < size s then evict limit size remove xs (remove s x) else s

/-- **The first elements are removed**, each when the store was too big; then it fits, or
all were removed. -/
theorem evict_spec (limit : ℕ) (size : S → ℕ) (remove : S → α → S) :
    ∀ (xs : List α) (s : S), ∃ removed, removed <+: xs ∧
    evict limit size remove xs s = removed.foldl remove s ∧
      (∀ before x, before ++ [x] <+: removed → limit < size (before.foldl remove s)) ∧
        (size (evict limit size remove xs s) ≤ limit ∨ removed = xs)
  | [], s => ⟨[], List.prefix_rfl, rfl, fun before x h => by simp at h, .inr rfl⟩
  | x :: xs, s => by
    unfold evict
    split
    · rename_i hover
      obtain ⟨removed, hprefix, heq, hsteps, hfits⟩ := evict_spec limit size remove xs (remove s x)
      refine ⟨x :: removed, (List.prefix_cons_inj x).mpr hprefix, heq, ?_, ?_⟩
      · rintro (_ | ⟨y, before⟩) z hz
        · exact hover
        · obtain ⟨rfl, hrest⟩ := List.cons_prefix_cons.mp hz
          exact hsteps before z hrest
      · exact hfits.imp_right fun h => by rw [h]
    · rename_i hfits
      exact ⟨[], List.nil_prefix, rfl, fun before x h => by simp at h, .inl (not_lt.mp hfits)⟩

end SensorSupport
