/-
# Storage behind a pointer

A heap gives out addresses, each once; what is behind an address can be written and
released as long as it is allocated. A pointer owns storage, or is null; one that is not
reset when its storage is released dangles, and must not be used again.

Uses of such a pointer that never touch released storage are those in which a release
of filled storage comes last (`exec_null_isSome`).

Key definitions: `Heap`, `Heap.Keeps`, `Use`, `Phase`, `ReleasedLast`, `touch`, `usesOf`.
Key theorems: `Heap.Keeps.trans`, `exec_null_isSome`, `exec_touch_isSome`.
-/
import Mathlib.Logic.Function.Basic
import SensorSupport.Lib.Run

namespace SensorSupport

/-! ### The heap -/

/-- What is behind the addresses that are allocated; from `next` on none was given out. -/
structure Heap (α : Type) where
  cells : ℕ → Option α
  next : ℕ
  fresh : ∀ a, next ≤ a → cells a = none

namespace Heap

variable {α : Type} {h h' h'' : Heap α} {a b : ℕ} {own : Option ℕ}

/-- Nothing is allocated. -/
def empty : Heap α := ⟨fun _ => none, 0, fun _ _ => rfl⟩

/-- Allocates storage at the address `next`. -/
def alloc (h : Heap α) (x : α) : Heap α where
  cells := Function.update h.cells h.next (some x)
  next := h.next + 1
  fresh := by
    intro a ha
    rw [Function.update_of_ne (by omega)]
    exact h.fresh a (by omega)

/-- Changes what is behind an address that is allocated. -/
def set (h : Heap α) (a : ℕ) (x : Option α) : Option (Heap α) :=
  if halloc : (h.cells a).isSome then
    some {
      cells := Function.update h.cells a x
      next := h.next
      fresh := by
        intro b hb
        rcases eq_or_ne b a with rfl | hne
        · rw [h.fresh b hb] at halloc
          cases halloc
        · rw [Function.update_of_ne hne]
          exact h.fresh b hb }
  else none

/-- Releases storage; `none` for storage that is not allocated. -/
def free (h : Heap α) (a : ℕ) : Option (Heap α) := h.set a none

/-- Writes storage; `none` for storage that is not allocated. -/
def write (h : Heap α) (a : ℕ) (x : α) : Option (Heap α) := h.set a (some x)

/-- What was given out is as it was, but for what a pointer owns. -/
structure Keeps (own : Option ℕ) (h h' : Heap α) : Prop where
  next_le : h.next ≤ h'.next
  cells : ∀ b < h.next, own ≠ some b → h'.cells b = h.cells b

theorem Keeps.refl (own : Option ℕ) (h : Heap α) : Keeps own h h := ⟨Nat.le_refl _, fun _ _ _ => rfl⟩

theorem Keeps.trans {own' : Option ℕ} (h₁ : Keeps own h h') (h₂ : Keeps own' h' h'')
    (hown : ∀ b < h.next, own' = some b → own = some b) : Keeps own h h'' := by
  refine ⟨Nat.le_trans h₁.next_le h₂.next_le, fun b hb hne => ?_⟩
  have hkeep := h₂.cells b (Nat.lt_of_lt_of_le hb h₁.next_le) fun heq => hne (hown b hb heq)
  rw [hkeep, h₁.cells b hb hne]

theorem alloc_keeps (h : Heap α) (x : α) (own : Option ℕ) : Keeps own h (h.alloc x) := by
  refine ⟨Nat.le_succ _, fun b hb _ => ?_⟩
  exact Function.update_of_ne (Nat.ne_of_lt hb) _ _

@[simp] theorem alloc_self (h : Heap α) (x : α) : (h.alloc x).cells h.next = some x :=
  Function.update_self _ _ _

theorem set_eq_some {x : Option α} (halloc : (h.cells a).isSome) : ∃ h',
    h.set a x = some h' ∧ Keeps (some a) h h' ∧ h'.cells a = x ∧ h'.next = h.next := by
  unfold set
  rw [dif_pos halloc]
  refine ⟨_, rfl, ⟨Nat.le_refl _, fun b _ hne => ?_⟩, Function.update_self _ _ _, rfl⟩
  exact Function.update_of_ne (fun heq => hne (congrArg some heq.symm)) _ _

theorem set_eq_none {x : Option α} (hfree : h.cells a = none) : h.set a x = none := by
  unfold set
  rw [dif_neg (by simp [hfree])]

end Heap

/-! ### The pointer -/

/-- What is done with a pointer that is not reset: its storage is used, allocated before
if the pointer is null, or it is released, if it is not. -/
inductive Use
  | fill
  | release
deriving DecidableEq, Repr

/-- A pointer is null, owns storage, or points to what was released. -/
inductive Phase
  | null
  | owning
  | dangling
deriving DecidableEq, Repr

/-- The next phase; `none` when released storage is touched. -/
def Phase.next : Phase → Use → Option Phase
  | .null, .fill | .owning, .fill => some .owning
  | .null, .release => some .null
  | .owning, .release => some .dangling
  | .dangling, _ => none

/-- A release of filled storage is the last use. -/
def ReleasedLast (us : List Use) : Prop :=
  ∀ before after, us = before ++ .release :: after → .fill ∈ before → after = []

section Phases

variable {us : List Use}

theorem exec_dangling_isSome : (exec Phase.next .dangling us).isSome ↔ us = [] := by
  cases us with
  | nil => exact iff_of_true rfl rfl
  | cons u us => exact iff_of_false (by simp [exec_cons, Phase.next]) (List.cons_ne_nil _ _)

theorem exec_owning_isSome : (exec Phase.next .owning us).isSome ↔
    ∀ before after, us = before ++ .release :: after → after = [] := by
  induction us with
  | nil => exact iff_of_true rfl fun before after h => by simp at h
  | cons u us ih =>
    rw [exec_cons]
    cases u with
    | fill =>
      change (exec Phase.next .owning us).isSome ↔ _
      rw [ih]
      constructor
      · intro h before after heq
        cases before with
        | nil => cases heq
        | cons _ before => exact h before after (List.cons.inj heq).2
      · intro h before after heq
        exact h (.fill :: before) after (by rw [heq]; rfl)
    | release =>
      change (exec Phase.next .dangling us).isSome ↔ _
      rw [exec_dangling_isSome]
      constructor
      · rintro rfl before after heq
        cases before with
        | nil => exact (List.cons.inj heq).2.symm
        | cons _ before =>
          have := (List.cons.inj heq).2
          simp at this
      · exact fun h => h [] us rfl

/-- **Released storage is not touched** when a release of filled storage is the last use. -/
theorem exec_null_isSome : (exec Phase.next .null us).isSome ↔ ReleasedLast us := by
  induction us with
  | nil => exact iff_of_true rfl fun before after h => by simp at h
  | cons u us ih =>
    rw [exec_cons]
    unfold ReleasedLast at ih ⊢
    cases u with
    | fill =>
      change (exec Phase.next .owning us).isSome ↔ _
      rw [exec_owning_isSome]
      constructor
      · intro h before after heq _
        cases before with
        | nil => cases heq
        | cons _ before => exact h before after (List.cons.inj heq).2
      · intro h before after heq
        exact h (.fill :: before) after (by rw [heq]; rfl) List.mem_cons_self
    | release =>
      change (exec Phase.next .null us).isSome ↔ _
      rw [ih]
      constructor
      · intro h before after heq hfill
        cases before with
        | nil => cases hfill
        | cons u before =>
          obtain ⟨rfl, htail⟩ := List.cons.inj heq
          exact h before after htail (by simpa using hfill)
      · intro h before after heq hfill
        exact h (.release :: before) after (by rw [heq]; rfl) (List.mem_cons_of_mem _ hfill)

/-! ### Many pointers -/

variable {ι : Type} [DecidableEq ι] {ts : List (ι × Use)} {phases phases' : ι → Phase} {i : ι}

/-- One of the pointers is used. -/
def touch (phases : ι → Phase) (t : ι × Use) : Option (ι → Phase) :=
  ((phases t.1).next t.2).map (Function.update phases t.1)

/-- The uses of one of the pointers. -/
def usesOf (i : ι) (ts : List (ι × Use)) : List Use :=
  ts.filterMap fun t => if t.1 = i then some t.2 else none

/-- Each pointer goes its way. -/
theorem exec_touch_eq_some : ∀ {ts : List (ι × Use)} {phases : ι → Phase},
    exec touch phases ts = some phases' → ∀ i,
      exec Phase.next (phases i) (usesOf i ts) = some (phases' i)
  | [], phases, h, i => by
    cases h
    rfl
  | (j, u) :: ts, phases, h, i => by
    rw [exec_cons] at h
    obtain ⟨phases₁, hstep, hrest⟩ := Option.bind_eq_some_iff.mp h
    obtain ⟨p, hp, rfl⟩ := Option.map_eq_some_iff.mp hstep
    have ih := exec_touch_eq_some hrest i
    by_cases hij : j = i
    · subst hij
      rw [Function.update_self] at ih
      have huses : usesOf j ((j, u) :: ts) = u :: usesOf j ts := by simp [usesOf]
      rw [huses, exec_cons, hp]
      exact ih
    · rw [Function.update_of_ne (Ne.symm hij)] at ih
      have huses : usesOf i ((j, u) :: ts) = usesOf i ts := by simp [usesOf, hij]
      rw [huses]
      exact ih

/-- None of the pointers is used when it dangles, when that holds of each. -/
theorem exec_touch_isSome : ∀ {ts : List (ι × Use)} {phases : ι → Phase},
    (exec touch phases ts).isSome ↔ ∀ i, (exec Phase.next (phases i) (usesOf i ts)).isSome
  | [], phases => iff_of_true rfl fun _ => rfl
  | (j, u) :: ts, phases => by
    constructor
    · intro h i
      obtain ⟨phases', hphases'⟩ := Option.isSome_iff_exists.mp h
      rw [exec_touch_eq_some hphases' i]
      rfl
    · intro h
      have hj := h j
      have huses : usesOf j ((j, u) :: ts) = u :: usesOf j ts := by simp [usesOf]
      rw [huses, exec_cons] at hj
      cases hp : (phases j).next u with
      | none =>
        rw [hp] at hj
        cases hj
      | some p =>
        rw [hp] at hj
        have htouch : touch phases (j, u) = some (Function.update phases j p) := by
          simp [touch, hp]
        rw [exec_cons, htouch]
        refine exec_touch_isSome.mpr fun i => ?_
        by_cases hij : j = i
        · subst hij
          rw [Function.update_self]
          exact hj
        · have huses' : usesOf i ((j, u) :: ts) = usesOf i ts := by simp [usesOf, hij]
          rw [Function.update_of_ne (Ne.symm hij), ← huses']
          exact h i

end Phases

end SensorSupport
