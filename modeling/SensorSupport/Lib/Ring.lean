/-
# Lists laid out around a ring

A ring has cells 0 up to `size`; a list lies in it from a start on, one item a
cell, and continues at cell 0 behind the last cell. A queue in a ring appends
behind the list and takes from its start. The cells are a partial function, so
that a ring can be an array, of which a cell may be out of bounds.

Key definition: `Ring.Holds`.
Key theorems: `Ring.Holds.concat`, `Ring.Holds.head`, `Ring.Holds.drop`, `Ring.Holds.congr`.
-/
import Mathlib.Data.List.Basic
import Mathlib.Data.Nat.ModEq

namespace SensorSupport
namespace Ring

variable {α : Type} {cell cell' : ℕ → Option α} {size start start' : ℕ} {items : List α} {a : α}

/-- The items lie in the cells from `start` on, around the end. -/
def Holds (cell : ℕ → Option α) (size start : ℕ) (items : List α) : Prop :=
  ∀ i (h : i < items.length), cell ((start + i) % size) = some items[i]

theorem Holds.nil : Holds cell size start [] := by
  intro i h
  cases h

/-- Cells at less than a turn from each other are different. -/
theorem cell_inj {i j : ℕ} (hi : i < size) (hj : j < size)
    (h : (start + i) % size = (start + j) % size) : i = j := by
  have hmod : i ≡ j [MOD size] := Nat.ModEq.add_left_cancel' start h
  rwa [Nat.ModEq, Nat.mod_eq_of_lt hi, Nat.mod_eq_of_lt hj] at hmod

/-- The start counts up to whole turns. -/
theorem Holds.congr (h : Holds cell size start items) (hstart : start' % size = start % size) :
    Holds cell size start' items := by
  intro i hi
  rw [Nat.add_mod, hstart, ← Nat.add_mod]
  exact h i hi

/-- The list reads the cells it lies in only. -/
theorem Holds.frame (h : Holds cell size start items)
    (hcell : ∀ i < items.length, cell' ((start + i) % size) = cell ((start + i) % size)) :
    Holds cell' size start items := by
  intro i hi
  rw [hcell i hi]
  exact h i hi

/-- The first item is in the start cell. -/
theorem Holds.head (h : Holds cell size start (a :: items)) : cell (start % size) = some a :=
  h 0 (Nat.succ_pos _)

/-- Without its first items the list starts that many cells later. -/
theorem Holds.drop (h : Holds cell size start items) (n : ℕ) :
    Holds cell size (start + n) (items.drop n) := by
  intro i hi
  rw [List.length_drop] at hi
  rw [List.getElem_drop, Nat.add_assoc]
  exact h (n + i) (by omega)

theorem Holds.tail (h : Holds cell size start (a :: items)) :
    Holds cell size (start + 1) items := h.drop 1

/-- An item is written behind a list that leaves a cell free. -/
theorem Holds.concat (h : Holds cell size start items) (hroom : items.length < size)
    (hnew : cell' ((start + items.length) % size) = some a)
    (hother : ∀ j, j ≠ (start + items.length) % size → cell' j = cell j) :
    Holds cell' size start (items ++ [a]) := by
  intro i hi
  rw [List.length_append, List.length_singleton] at hi
  by_cases hlast : i = items.length
  · subst hlast
    rw [hnew, List.getElem_concat_length rfl]
  · have hlt : i < items.length := by omega
    have hne : (start + i) % size ≠ (start + items.length) % size := by
      intro heq
      exact hlast (cell_inj (by omega) hroom heq)
    rw [hother _ hne, List.getElem_append_left hlt]
    exact h i hlt

end Ring
end SensorSupport
