/-
# A bounded FIFO queue

The queue carries the bound on its length, so a queue that is too long cannot
be built. `put` refuses on a full queue and `get` on an empty one, as the
non-blocking calls of a thread-safe queue do.

Key definitions: `BoundedQueue`, `BoundedQueue.put`, `BoundedQueue.get`.
Key theorems: `BoundedQueue.put_eq_some`, `BoundedQueue.put_eq_none`,
`BoundedQueue.put_of_empty`, `BoundedQueue.get_eq_some`, `BoundedQueue.get_eq_none`.
-/
import Mathlib.Tactic.Common

namespace SensorSupport

/-- A queue of at most `maxsize` items, the oldest first. -/
@[ext]
structure BoundedQueue (α : Type) (maxsize : ℕ) where
  items : List α
  length_le : items.length ≤ maxsize

namespace BoundedQueue

variable {α : Type} {maxsize : ℕ} {q q' : BoundedQueue α maxsize} {a : α}

/-- The queue without items. -/
def empty : BoundedQueue α maxsize := ⟨[], Nat.zero_le _⟩

@[simp] theorem empty_items : (empty : BoundedQueue α maxsize).items = [] := rfl

/-- Is there no room left? -/
def isFull (q : BoundedQueue α maxsize) : Bool := decide (maxsize ≤ q.items.length)

/-- Appends an item, or refuses when the queue is full. -/
def put (q : BoundedQueue α maxsize) (a : α) : Option (BoundedQueue α maxsize) :=
  if h : q.items.length < maxsize then
    some ⟨q.items ++ [a], by rw [List.length_append, List.length_singleton]; omega⟩
  else none

/-- Takes the oldest item, or refuses when there is none. -/
def get (q : BoundedQueue α maxsize) : Option (α × BoundedQueue α maxsize) :=
  match q with
  | ⟨[], _⟩ => none
  | ⟨a :: as, h⟩ => some (a, ⟨as, Nat.le_of_succ_le h⟩)

theorem put_eq_some : q.put a = some q' ↔ q.items.length < maxsize ∧ q'.items = q.items ++ [a] := by
  unfold put
  by_cases h : q.items.length < maxsize
  · rw [dif_pos h, Option.some.injEq, BoundedQueue.ext_iff]
    simp [h, eq_comm]
  · simp [h]

theorem put_eq_none : q.put a = none ↔ q.isFull := by
  unfold put isFull
  by_cases h : q.items.length < maxsize
  · simp [h]
  · simpa [h] using Nat.le_of_not_lt h

/-- An item that is put into an empty queue with room is alone in it. -/
theorem put_of_empty (hempty : q.items = []) (hroom : 0 < maxsize) :
    ((q.put a).getD q).items = [a] := by
  cases hput : q.put a with
  | none =>
    have hfull := put_eq_none.mp hput
    unfold isFull at hfull
    rw [hempty, decide_eq_true_eq, List.length_nil] at hfull
    omega
  | some q' =>
    have hitems := (put_eq_some.mp hput).2
    rw [hempty] at hitems
    exact hitems

theorem get_eq_some : q.get = some (a, q') ↔ q.items = a :: q'.items := by
  obtain ⟨items, h⟩ := q
  cases items with
  | nil => simp [get]
  | cons b bs => simp [get, BoundedQueue.ext_iff]

theorem get_eq_none : q.get = none ↔ q.items = [] := by
  obtain ⟨items, h⟩ := q
  cases items <;> simp [get]

end BoundedQueue

end SensorSupport
