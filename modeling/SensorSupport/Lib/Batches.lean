/-
# Batches of a stream

Items are added to a current batch, and now and then the batch is cut off and a new
one begins. A batch without items is not cut off. Whatever is added is in the
batches in the order it came, and no batch that was cut off is empty. Where every
item stands for a list that is not empty, batches of items are batches of the things
in these lists (`expand`).

Key definitions: `BatchOp`, `Batches`, `Batches.run`, `Batches.expand`.
Key theorems: `Batches.run_stream`, `Batches.run_nonempty`, `Batches.add_expand`,
`Batches.cut_expand`.
-/
import Mathlib.Data.List.Basic

namespace SensorSupport

variable {α β : Type}

/-- An item is added, or the batch is cut off. -/
inductive BatchOp (α : Type)
  | add (a : α)
  | cut

/-- The batches that were cut off, and the current one. -/
structure Batches (α : Type) where
  done : List (List α)
  current : List α

/-- The item that is added. -/
def BatchOp.item : BatchOp α → Option α
  | .add a => some a
  | .cut => none

/-- The items added by a list of operations. -/
def BatchOp.added (ops : List (BatchOp α)) : List α := ops.filterMap item

namespace Batches

def apply (b : Batches α) : BatchOp α → Batches α
  | .add a => { b with current := b.current ++ [a] }
  | .cut => if 0 < b.current.length then ⟨b.done ++ [b.current], []⟩ else b

def run (b : Batches α) (ops : List (BatchOp α)) : Batches α := ops.foldl apply b

/-- All items, batch by batch. -/
def stream (b : Batches α) : List α := b.done.flatten ++ b.current

@[simp] theorem run_nil (b : Batches α) : b.run [] = b := rfl

@[simp] theorem run_cons (b : Batches α) (op : BatchOp α) (ops : List (BatchOp α)) :
    b.run (op :: ops) = (b.apply op).run ops := rfl

theorem run_append (b : Batches α) (ops ops' : List (BatchOp α)) :
    b.run (ops ++ ops') = (b.run ops).run ops' := List.foldl_append

theorem apply_stream (b : Batches α) (op : BatchOp α) :
    (b.apply op).stream = b.stream ++ BatchOp.added [op] := by
  cases op with
  | add a => exact (List.append_assoc _ _ _).symm
  | cut =>
    change (b.apply .cut).stream = b.stream ++ []
    unfold apply stream
    dsimp only
    split
    · simp
    · rw [List.append_nil]

/-- **Nothing is lost, doubled or moved.** -/
theorem run_stream (b : Batches α) (ops : List (BatchOp α)) :
    (b.run ops).stream = b.stream ++ BatchOp.added ops := by
  induction ops generalizing b with
  | nil => exact (List.append_nil _).symm
  | cons op ops ih =>
    rw [run_cons, ih, apply_stream, List.append_assoc]
    congr 1
    cases op <;> rfl

theorem apply_nonempty {b : Batches α} (h : ∀ batch ∈ b.done, batch ≠ []) (op : BatchOp α) :
    ∀ batch ∈ (b.apply op).done, batch ≠ [] := by
  cases op with
  | add a => exact h
  | cut =>
    unfold apply
    dsimp only
    split
    · rename_i hsome
      intro batch hbatch
      rcases List.mem_append.mp hbatch with hold | hnew
      · exact h batch hold
      · rw [List.mem_singleton.mp hnew]
        exact List.ne_nil_of_length_pos hsome
    · exact h

/-- **No batch that was cut off is empty.** -/
theorem run_nonempty {b : Batches α} (h : ∀ batch ∈ b.done, batch ≠ []) (ops : List (BatchOp α)) :
    ∀ batch ∈ (b.run ops).done, batch ≠ [] := by
  induction ops generalizing b with
  | nil => exact h
  | cons op ops ih => exact ih (apply_nonempty h op)

/-- A list of items is added at its end. -/
theorem run_add (b : Batches α) (items : List α) :
    b.run (items.map .add) = { b with current := b.current ++ items } := by
  induction items generalizing b with
  | nil => simp
  | cons a items ih =>
    rw [List.map_cons, run_cons, ih]
    simp [apply]

theorem apply_cut {b : Batches α} (h : b.current ≠ []) :
    b.apply .cut = ⟨b.done ++ [b.current], []⟩ := if_pos (List.length_pos_of_ne_nil h)

theorem apply_cut_nil {b : Batches α} (h : b.current = []) : b.apply .cut = b := by
  refine if_neg ?_
  rw [h]
  exact Nat.lt_irrefl 0

/-- The batches of what the items stand for. -/
def expand (f : α → List β) (b : Batches α) : Batches β :=
  ⟨b.done.map fun batch => batch.flatMap f, b.current.flatMap f⟩

theorem flatten_expand (f : α → List β) (batches : List (List α)) :
    (batches.map fun batch => batch.flatMap f).flatten = batches.flatten.flatMap f := by
  induction batches with
  | nil => rfl
  | cons batch batches ih =>
    rw [List.map_cons, List.flatten_cons, List.flatten_cons, List.flatMap_append, ih]

theorem add_expand (f : α → List β) (b : Batches α) (a : α) :
    (b.apply (.add a)).expand f = (b.expand f).run ((f a).map .add) := by
  rw [run_add]
  simp [expand, apply]

theorem current_expand_nil {f : α → List β} (hf : ∀ a, f a ≠ []) (b : Batches α) :
    (b.expand f).current = [] ↔ b.current = [] := by
  change b.current.flatMap f = [] ↔ b.current = []
  rw [List.flatMap_eq_nil_iff]
  constructor
  · intro hnil
    refine List.eq_nil_iff_forall_not_mem.mpr ?_
    intro a ha
    exact hf a (hnil a ha)
  · intro hnil a ha
    rw [hnil] at ha
    cases ha

theorem cut_expand {f : α → List β} (hf : ∀ a, f a ≠ []) (b : Batches α) :
    (b.apply .cut).expand f = (b.expand f).apply .cut := by
  by_cases hnil : b.current = []
  · rw [apply_cut_nil hnil, apply_cut_nil ((current_expand_nil hf b).mpr hnil)]
  · rw [apply_cut hnil, apply_cut (mt (current_expand_nil hf b).mp hnil)]
    simp [expand]

end Batches

namespace BatchOp

@[simp] theorem added_map (items : List α) : added (items.map .add) = items := by
  induction items with
  | nil => rfl
  | cons a items ih => exact congrArg (a :: ·) ih

@[simp] theorem added_append (ops ops' : List (BatchOp α)) :
    added (ops ++ ops') = added ops ++ added ops' := List.filterMap_append

end BatchOp

end SensorSupport
