/-
# Cells that go round between two parties

A producer fills a cell and puts it in line; a consumer takes the cells in their order,
looks at each for as long as it likes and gives it back; the producer goes on with a cell
that was given back, or with a new one when there is none. On both ways a cell may get
lost.

A cell is in one place at a time, so what the consumer finds in one is what was put, and
stays that. There are never more cells around than may wait in line, with one more for
each party.

Key definitions: `Pool`, `PoolEvent`, `Pool.step`, `Pool.owned`, `Pool.Inv`.
Key theorems: `Pool.step_owned`, `Pool.Inv.step`, `Pool.init_inv`.
-/
import Mathlib.Data.List.Nodup
import Mathlib.Data.List.Perm.Subperm
import Mathlib.Logic.Function.Basic

namespace SensorSupport

variable {α : Type}

/-- What is in the cells, how many were made, the cell of the producer, the line, the
cell of the consumer, and the cells that were given back. What was put and what was
taken is recorded. -/
structure Pool (α : Type) where
  content : ℕ → α
  created : ℕ
  filling : Option ℕ
  full : List ℕ
  inUse : Option ℕ
  free : List ℕ
  puts : List α
  taken : List α

/-- The producer changes its cell, puts it in line or loses it, and takes a cell that
was given back or a new one; the consumer takes a cell, gives it back or loses it. -/
inductive PoolEvent (α : Type)
  | fill (f : α → α)
  | put
  | drop
  | reuse (f : α → α)
  | make (x : α)
  | take
  | giveBack
  | discard

namespace Pool

/-- One event; at most `limit` cells are in line. -/
def step (limit : ℕ) (s : Pool α) : PoolEvent α → Option (Pool α)
  | .fill f => s.filling.map fun c =>
    { s with content := Function.update s.content c (f (s.content c)) }
  | .put =>
    if s.full.length < limit then
      s.filling.map fun c => { s with
        filling := none, full := s.full ++ [c], puts := s.puts ++ [s.content c] }
    else none
  | .drop => s.filling.map fun _ => { s with filling := none }
  | .reuse f =>
    match s.filling, s.free with
    | none, c :: free => some { s with
        content := Function.update s.content c (f (s.content c)), filling := some c, free := free }
    | _, _ => none
  | .make x =>
    match s.filling, s.free with
    | none, [] => some { s with
        content := Function.update s.content s.created x, created := s.created + 1
        filling := some s.created }
    | _, _ => none
  | .take =>
    match s.inUse, s.full with
    | none, c :: full => some { s with
        full := full, inUse := some c, taken := s.taken ++ [s.content c] }
    | _, _ => none
  | .giveBack => s.inUse.map fun c => { s with inUse := none, free := s.free ++ [c] }
  | .discard => s.inUse.map fun _ => { s with inUse := none }

/-- The cells that are somewhere. -/
def owned (s : Pool α) : List ℕ := s.filling.toList ++ s.full ++ s.inUse.toList ++ s.free

/-- A cell is in one place. What was put was taken or is in line, and the consumer has
what it took last. -/
structure Inv (limit : ℕ) (s : Pool α) : Prop where
  nodup : s.owned.Nodup
  fresh : ∀ c ∈ s.owned, c < s.created
  line : s.full.length ≤ limit
  size : s.owned.length ≤ limit + 2
  flow : s.taken ++ s.full.map s.content = s.puts
  seen : ∀ c ∈ s.inUse, s.taken.getLast? = some (s.content c)

variable {limit : ℕ} {s s' : Pool α} {e : PoolEvent α}

/-! ### Where the cells are -/

/-- The cells only move and get lost, or one is made when none is free. -/
theorem step_owned (h : s.step limit e = some s') :
    s'.owned.Subperm s.owned ∧ s'.created = s.created ∨
      s'.owned = s.created :: s.owned ∧ s'.created = s.created + 1 ∧
        s.filling = none ∧ s.free = [] ∧ s'.full = s.full := by
  cases e with
  | fill f =>
    obtain ⟨c, -, rfl⟩ := Option.map_eq_some_iff.mp h
    exact .inl ⟨.refl _, rfl⟩
  | put =>
    simp only [step] at h
    split at h
    · obtain ⟨c, hc, rfl⟩ := Option.map_eq_some_iff.mp h
      refine .inl ⟨List.Perm.subperm ?_, rfl⟩
      simp only [owned, hc, Option.toList_none, Option.toList_some, List.nil_append]
      have hput : (s.full ++ [c]).Perm ([c] ++ s.full) := List.perm_append_comm
      exact (hput.append_right _).append_right _
    · cases h
  | drop =>
    obtain ⟨c, hc, rfl⟩ := Option.map_eq_some_iff.mp h
    refine .inl ⟨List.Sublist.subperm ?_, rfl⟩
    simp only [owned, hc, Option.toList_none, Option.toList_some, List.nil_append]
    exact ((List.sublist_append_right _ _).append_right _).append_right _
  | reuse f =>
    simp only [step] at h
    split at h
    · rename_i c free hfilling hfree
      cases h
      refine .inl ⟨List.Perm.subperm ?_, rfl⟩
      simp only [owned, hfilling, hfree, Option.toList_none, Option.toList_some, List.nil_append]
      exact List.perm_middle.symm
    · cases h
  | make x =>
    simp only [step] at h
    split at h
    · rename_i hfilling hfree
      cases h
      exact .inr ⟨by simp [owned, hfilling], rfl, hfilling, hfree, rfl⟩
    · cases h
  | take =>
    simp only [step] at h
    split at h
    · rename_i c full hinUse hfull
      cases h
      refine .inl ⟨List.Perm.subperm ?_, rfl⟩
      simp only [owned, hinUse, hfull, Option.toList_none, Option.toList_some, List.append_nil,
        List.append_assoc]
      exact List.perm_middle.append_left _
    · cases h
  | giveBack =>
    obtain ⟨c, hc, rfl⟩ := Option.map_eq_some_iff.mp h
    refine .inl ⟨List.Perm.subperm ?_, rfl⟩
    simp only [owned, hc, Option.toList_none, Option.toList_some, List.append_nil,
      List.append_assoc]
    exact (List.perm_append_comm.append_left _).append_left _
  | discard =>
    obtain ⟨c, hc, rfl⟩ := Option.map_eq_some_iff.mp h
    refine .inl ⟨List.Sublist.subperm ?_, rfl⟩
    simp only [owned, hc, Option.toList_none, Option.toList_some, List.append_nil]
    exact (List.sublist_append_left _ _).append_right _

namespace Inv

theorem nodup_step (h : s.Inv limit) (hs : s.step limit e = some s') :
    s'.owned.Nodup ∧ ∀ c ∈ s'.owned, c < s'.created := by
  rcases step_owned hs with ⟨hsub, hcreated⟩ | ⟨howned, hcreated, -⟩
  · refine ⟨?_, fun c hc => hcreated ▸ h.fresh c (hsub.subset hc)⟩
    obtain ⟨l, hperm, hsublist⟩ := hsub
    exact hperm.nodup_iff.mp (h.nodup.sublist hsublist)
  · rw [howned, hcreated]
    refine ⟨List.nodup_cons.mpr ⟨fun hin => absurd (h.fresh _ hin) (Nat.lt_irrefl _), h.nodup⟩, ?_⟩
    intro c hc
    rcases List.mem_cons.mp hc with rfl | hin
    · exact Nat.lt_succ_self _
    · exact Nat.lt_succ_of_lt (h.fresh c hin)

/-- A cell is made only when those around are in line or with the consumer. -/
theorem size_step (h : s.Inv limit) (hs : s.step limit e = some s') :
    s'.owned.length ≤ limit + 2 := by
  rcases step_owned hs with ⟨hsub, -⟩ | ⟨howned, -, hfilling, hfree, -⟩
  · exact Nat.le_trans hsub.length_le h.size
  · have huse : s.inUse.toList.length ≤ 1 := by cases s.inUse <;> simp
    have hline := h.line
    have hlength : s.owned.length = s.full.length + s.inUse.toList.length := by
      simp [owned, hfilling, hfree]
    rw [howned, List.length_cons]
    omega

/-- The cell that the producer changes is not in line, nor with the consumer. -/
theorem frame (h : s.Inv limit) {c : ℕ} (hc : c ∉ s.full) (huse : c ∉ s.inUse) (x : α) :
    s.taken ++ s.full.map (Function.update s.content c x) = s.puts ∧
      ∀ b ∈ s.inUse, s.taken.getLast? = some (Function.update s.content c x b) := by
  constructor
  · rw [← h.flow]
    congr 1
    exact List.map_congr_left fun b hb =>
      Function.update_of_ne (fun heq : b = c => hc (heq ▸ hb)) x s.content
  · intro b hb
    rw [Function.update_of_ne (fun heq : b = c => huse (heq ▸ hb))]
    exact h.seen b hb

theorem filling_apart (h : s.Inv limit) {c : ℕ} (hc : s.filling = some c) :
    c ∉ s.full ∧ c ∉ s.inUse := by
  have hnodup := h.nodup
  rw [owned, hc, Option.toList_some, List.append_assoc, List.append_assoc] at hnodup
  have hnotin : c ∉ s.full ++ (s.inUse.toList ++ s.free) := (List.nodup_cons.mp hnodup).1
  simp only [List.mem_append, not_or, Option.mem_toList] at hnotin
  exact ⟨hnotin.1, hnotin.2.1⟩

theorem free_apart (h : s.Inv limit) {c : ℕ} {free : List ℕ} (hc : s.free = c :: free) :
    c ∉ s.full ∧ c ∉ s.inUse := by
  have hnodup := h.nodup
  rw [owned, hc] at hnodup
  have hnotin := List.disjoint_right.mp (List.nodup_append'.mp hnodup).2.2 List.mem_cons_self
  simp only [List.mem_append, not_or, Option.mem_toList] at hnotin
  exact ⟨hnotin.1.2, hnotin.2⟩

theorem created_apart (h : s.Inv limit) : s.created ∉ s.full ∧ s.created ∉ s.inUse := by
  constructor <;> intro hin
  · exact Nat.lt_irrefl _ (h.fresh _ (by simp [owned, hin]))
  · have hin : s.inUse = some s.created := hin
    exact Nat.lt_irrefl _ (h.fresh _ (by simp [owned, hin]))

theorem flow_step (h : s.Inv limit) (hs : s.step limit e = some s') :
    s'.full.length ≤ limit ∧ s'.taken ++ s'.full.map s'.content = s'.puts ∧
      ∀ c ∈ s'.inUse, s'.taken.getLast? = some (s'.content c) := by
  cases e with
  | fill f =>
    obtain ⟨c, hc, rfl⟩ := Option.map_eq_some_iff.mp hs
    exact ⟨h.line, h.frame (h.filling_apart hc).1 (h.filling_apart hc).2 _⟩
  | put =>
    simp only [step] at hs
    split at hs
    · rename_i hroom
      obtain ⟨c, -, rfl⟩ := Option.map_eq_some_iff.mp hs
      refine ⟨?_, ?_, h.seen⟩
      · rw [List.length_append, List.length_singleton]
        omega
      · rw [List.map_append, ← List.append_assoc, h.flow]
        rfl
    · cases hs
  | drop =>
    obtain ⟨c, -, rfl⟩ := Option.map_eq_some_iff.mp hs
    exact ⟨h.line, h.flow, h.seen⟩
  | reuse f =>
    simp only [step] at hs
    split at hs
    · rename_i c free hfilling hfree
      cases hs
      exact ⟨h.line, h.frame (h.free_apart hfree).1 (h.free_apart hfree).2 _⟩
    · cases hs
  | make x =>
    simp only [step] at hs
    split at hs
    · cases hs
      exact ⟨h.line, h.frame h.created_apart.1 h.created_apart.2 _⟩
    · cases hs
  | take =>
    simp only [step] at hs
    split at hs
    · rename_i c full hinUse hfull
      cases hs
      have hline := h.line
      have hflow := h.flow
      rw [hfull] at hline hflow
      refine ⟨Nat.le_of_succ_le hline, ?_, ?_⟩
      · rw [← hflow, List.append_assoc]
        rfl
      · intro b hb
        obtain rfl := Option.some.inj hb
        exact List.getLast?_concat
    · cases hs
  | giveBack =>
    obtain ⟨c, -, rfl⟩ := Option.map_eq_some_iff.mp hs
    exact ⟨h.line, h.flow, fun b hb => by cases hb⟩
  | discard =>
    obtain ⟨c, -, rfl⟩ := Option.map_eq_some_iff.mp hs
    exact ⟨h.line, h.flow, fun b hb => by cases hb⟩

/-- **Every event keeps it.** -/
theorem step (h : s.Inv limit) (hs : s.step limit e = some s') : s'.Inv limit where
  nodup := (h.nodup_step hs).1
  fresh := (h.nodup_step hs).2
  line := (h.flow_step hs).1
  size := h.size_step hs
  flow := (h.flow_step hs).2.1
  seen := (h.flow_step hs).2.2

end Inv

/-- The producer has the only cell. -/
def init (content : ℕ → α) : Pool α := ⟨content, 1, some 0, [], none, [], [], []⟩

theorem init_inv (limit : ℕ) (content : ℕ → α) : (init content).Inv limit where
  nodup := List.nodup_singleton _
  fresh := fun c hc => by
    rw [List.mem_singleton.mp hc]
    exact Nat.one_pos
  line := Nat.zero_le _
  size := Nat.le_add_left _ _
  flow := rfl
  seen := fun _ hc => by cases hc

end Pool

end SensorSupport
