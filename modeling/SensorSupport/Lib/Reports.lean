/-
# Values that are told in order

Values wait to be told to an observer, each of them for some time, and a bound says how far the
values may have come. What is told never falls if every new value is at least the bound and moves
it, and the least of the values that wait is told next.

Key definitions: `InStep`.
Key theorems: `InStep.wait`, `InStep.tell`, `InStep.shrink`.
-/
import Mathlib.Order.Basic

namespace SensorSupport

variable {α : Type} [Preorder α]

/-- What was told never fell, and nothing that waits is below it or above the bound. -/
structure InStep (bound : α) (told waiting : List α) : Prop where
  sorted : told.Pairwise (· ≤ ·)
  ahead : ∀ t ∈ told, ∀ w ∈ waiting, t ≤ w
  told_le : ∀ t ∈ told, t ≤ bound
  waiting_le : ∀ w ∈ waiting, w ≤ bound

namespace InStep

variable {bound bound' v : α} {told waiting waiting' : List α}

/-- Values that wait no longer. -/
theorem shrink (h : InStep bound told waiting) (hsub : waiting' ⊆ waiting) :
    InStep bound told waiting' where
  sorted := h.sorted
  ahead t ht w hw := h.ahead t ht w (hsub hw)
  told_le := h.told_le
  waiting_le w hw := h.waiting_le w (hsub hw)

/-- A new value waits, at or above the bound so far. -/
theorem wait (h : InStep bound told waiting) (hlow : bound ≤ v) (hhigh : v ≤ bound') :
    InStep bound' told (v :: waiting) where
  sorted := h.sorted
  ahead t ht w hw := by
    rcases List.mem_cons.mp hw with rfl | hw
    · exact (h.told_le t ht).trans hlow
    · exact h.ahead t ht w hw
  told_le t ht := (h.told_le t ht).trans (hlow.trans hhigh)
  waiting_le w hw := by
    rcases List.mem_cons.mp hw with rfl | hw
    · exact hhigh
    · exact (h.waiting_le w hw).trans (hlow.trans hhigh)

/-- A list that never falls goes on with a value that is not below it. -/
theorem sorted_concat (h : told.Pairwise (· ≤ ·)) (hv : ∀ t ∈ told, t ≤ v) :
    (told ++ [v]).Pairwise (· ≤ ·) := by
  refine List.pairwise_append.mpr ⟨h, List.pairwise_singleton _ _, fun t ht w hw => ?_⟩
  rw [List.mem_singleton.mp hw]
  exact hv t ht

/-- **The least value that waits is told.** -/
theorem tell (h : InStep bound told waiting) (hv : v ∈ waiting) (hleast : ∀ w ∈ waiting, v ≤ w) :
    InStep bound (told ++ [v]) waiting where
  sorted := sorted_concat h.sorted fun t ht => h.ahead t ht v hv
  ahead t ht w hw := by
    rcases List.mem_append.mp ht with ht | ht
    · exact h.ahead t ht w hw
    · rw [List.mem_singleton.mp ht]
      exact hleast w hw
  told_le t ht := by
    rcases List.mem_append.mp ht with ht | ht
    · exact h.told_le t ht
    · rw [List.mem_singleton.mp ht]
      exact h.waiting_le v hv
  waiting_le := h.waiting_le

end InStep

end SensorSupport
