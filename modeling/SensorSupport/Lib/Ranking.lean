/-
# Ranks in a list

The rank of an element is how many entries of the list are smaller. Ranks keep the order of
the entries, and those of distinct entries are the numbers below the length, each one once.

Key definitions: `rank`.
Key theorems: `rank_lt_rank_iff`, `rank_lt_length`, `ranks_perm`.
-/
import Mathlib.Data.List.Nodup
import Mathlib.Data.List.Perm.Subperm
import Mathlib.Order.Lattice

namespace SensorSupport

section Rank

variable {α : Type} [LinearOrder α] {l : List α} {a b : α}

/-- How many entries are smaller. -/
def rank (l : List α) (a : α) : ℕ := l.countP (· < a)

theorem rank_le_rank (h : a ≤ b) (l : List α) : rank l a ≤ rank l b := by
  apply List.countP_mono_left
  intro x _ hx
  have hxa : x < a := of_decide_eq_true hx
  exact decide_eq_true (lt_of_lt_of_le hxa h)

/-- An entry is below those that are greater. -/
theorem rank_lt_rank (ha : a ∈ l) (h : a < b) : rank l a < rank l b := by
  obtain ⟨pre, post, rfl⟩ := List.append_of_mem ha
  have hpre := rank_le_rank (le_of_lt h) pre
  have hpost := rank_le_rank (le_of_lt h) post
  unfold rank at *
  have hnot : ¬ a < a := lt_irrefl a
  simp only [List.countP_append, List.countP_cons, decide_eq_true h, decide_eq_false hnot, if_true]
  simp only [Bool.false_eq_true, if_false]
  omega

theorem rank_lt_rank_iff (ha : a ∈ l) : rank l a < rank l b ↔ a < b := by
  constructor
  · intro h
    apply lt_of_not_ge
    intro hle
    exact Nat.not_lt.mpr (rank_le_rank hle l) h
  · exact rank_lt_rank ha

theorem rank_injective (ha : a ∈ l) (hb : b ∈ l) (h : rank l a = rank l b) : a = b := by
  apply le_antisymm
  · apply le_of_not_gt
    intro hlt
    exact absurd h.symm (Nat.ne_of_lt (rank_lt_rank hb hlt))
  · apply le_of_not_gt
    intro hlt
    exact absurd h (Nat.ne_of_lt (rank_lt_rank ha hlt))

theorem rank_lt_length (ha : a ∈ l) : rank l a < l.length := by
  obtain ⟨pre, post, rfl⟩ := List.append_of_mem ha
  have hpre : rank pre a ≤ pre.length := List.countP_le_length
  have hpost : rank post a ≤ post.length := List.countP_le_length
  unfold rank at *
  have hnot : ¬ a < a := lt_irrefl a
  simp only [List.countP_append, List.countP_cons, decide_eq_false hnot, List.length_append,
    List.length_cons, Bool.false_eq_true, if_false]
  omega

/-- **The ranks of distinct entries are the numbers below the length.** -/
theorem ranks_perm (h : l.Nodup) : (l.map (rank l)).Perm (List.range l.length) := by
  have hnodup : (l.map (rank l)).Nodup :=
    h.map_on fun a ha b hb hrank => rank_injective ha hb hrank
  have hsubset : l.map (rank l) ⊆ List.range l.length := by
    intro r hr
    obtain ⟨a, ha, rfl⟩ := List.mem_map.mp hr
    exact List.mem_range.mpr (rank_lt_length ha)
  have hlength : (List.range l.length).length = (l.map (rank l)).length := by
    rw [List.length_range, List.length_map]
  exact (List.subperm_of_subset hnodup hsubset).perm_of_length_le (Nat.le_of_eq hlength)

end Rank

end SensorSupport
