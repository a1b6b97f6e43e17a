/-
# The packet queue (`rs_driver/utility/sync_queue.hpp`)

`SyncQueue` is a ring with two indices that one thread pushes to and another one
pops from without a lock. Each function is a sequence of loads and stores of
`head_`, `tail_` and the slots: a program counter says which one comes next and
holds what was loaded before, and a step does it.

A queue holds a list (`Holding`): it lies in the slots from the head on, and the
tail is the slot behind it. For each function there is what holds at each of its
program counters (`PushAt`, `PopAt`, `BatchAt`), what a step does to the list, and
that the steps of the other side keep it: a push appends at its store of the tail,
a pop takes from the front at its store of the head.

Key definitions: `SyncQueue`, `pushStep`, `popStep`, `popWaitStep`, `batchStep`, `clearStep`,
`Holding`.
Key theorems: `push_holding`, `pop_holding`, `batch_holding`.
-/
import Mathlib.Logic.Function.Basic
import SensorSupport.Lib.Ring

namespace SensorSupport
namespace Rs

variable {T : Type}

/-- `SyncQueue`: the slots and the indices `head_` and `tail_`. -/
structure SyncQueue (T : Type) where
  buffer : ℕ → T
  head : ℕ
  tail : ℕ

/-- After the constructor. -/
def SyncQueue.init [Inhabited T] : SyncQueue T := ⟨fun _ => default, 0, 0⟩

/-- The capacity of the queues of the driver. -/
def defaultCapacity : ℕ := 102400

/-- Behind a step a call goes on at a program counter or returns. -/
inductive Next (P R : Type)
  | pc (pc : P)
  | ret (result : R)

/-- The number of elements between two indices. -/
def usedSize (capacity head tail : ℕ) : ℕ :=
  if head ≤ tail then tail - head else capacity - head + tail

/-- The elements between the indices of a queue. -/
def unread (capacity : ℕ) (q : SyncQueue T) : List T :=
  (List.range (usedSize capacity q.head q.tail)).map fun i => q.buffer ((q.head + i) % capacity)

/-! ### The functions -/

/-- The program counters of `push`, which ends with `size`. -/
inductive PushPc
  | loadTail
  | loadHead (currentTail : ℕ)
  | storeSlot (currentTail : ℕ)
  | storeTail (currentTail : ℕ)
  | sizeHead
  | sizeTail (head : ℕ)
deriving DecidableEq

/-- A step of `push`; it returns `none` for -1. -/
def pushStep (capacity : ℕ) (value : T) (q : SyncQueue T) :
    PushPc → SyncQueue T × Next PushPc (Option ℕ)
  | .loadTail => (q, .pc (.loadHead q.tail))
  | .loadHead currentTail =>
    if (currentTail + 1) % capacity = q.head then (q, .ret none)
    else (q, .pc (.storeSlot currentTail))
  | .storeSlot currentTail =>
    ({ q with buffer := Function.update q.buffer currentTail value }, .pc (.storeTail currentTail))
  | .storeTail currentTail => ({ q with tail := (currentTail + 1) % capacity }, .pc .sizeHead)
  | .sizeHead => (q, .pc (.sizeTail q.head))
  | .sizeTail head => (q, .ret (some (usedSize capacity head q.tail)))

/-- The program counters of `clear`. -/
inductive ClearPc
  | storeHead
  | storeTail
deriving DecidableEq

/-- A step of `clear`. -/
def clearStep (q : SyncQueue T) : ClearPc → SyncQueue T × Next ClearPc Unit
  | .storeHead => ({ q with head := 0 }, .pc .storeTail)
  | .storeTail => ({ q with tail := 0 }, .ret ())

/-- The program counters of `pop`. -/
inductive PopPc (T : Type)
  | loadHead
  | loadTail (currentHead : ℕ)
  | loadSlot (currentHead : ℕ)
  | storeHead (currentHead : ℕ) (value : T)
deriving DecidableEq

/-- A step of `pop`; it returns `none` for the default value when the queue is
empty. -/
def popStep (capacity : ℕ) (q : SyncQueue T) : PopPc T → SyncQueue T × Next (PopPc T) (Option T)
  | .loadHead => (q, .pc (.loadTail q.head))
  | .loadTail currentHead =>
    if currentHead = q.tail then (q, .ret none) else (q, .pc (.loadSlot currentHead))
  | .loadSlot currentHead => (q, .pc (.storeHead currentHead (q.buffer currentHead)))
  | .storeHead currentHead value =>
    ({ q with head := (currentHead + 1) % capacity }, .ret (some value))

/-- A step of `popWait`, which begins anew while the queue is empty. `timedOut` is the
test of the clock. -/
def popWaitStep (capacity : ℕ) (timedOut : Bool) (q : SyncQueue T) :
    PopPc T → SyncQueue T × Next (PopPc T) (Option T)
  | .loadTail currentHead =>
    if currentHead ≠ q.tail then (q, .pc (.loadSlot currentHead))
    else if timedOut then (q, .ret none)
    else (q, .pc .loadHead)
  | pc => popStep capacity q pc

/-- The program counters of `popBatch`: the loop that waits for an element, the
loads of the indices, and the loop that copies. -/
inductive BatchPc (T : Type)
  | checkHead
  | checkTail (head : ℕ)
  | loadHead
  | loadTail (currentHead : ℕ)
  | copy (currentHead realCount : ℕ) (outBatch : List T)
deriving DecidableEq

/-- A step of `popBatch`, which returns what it appended to the batch.
`timedOut` is the test of the clock. -/
def batchStep (capacity maxCount : ℕ) (timedOut : Bool) (q : SyncQueue T) :
    BatchPc T → SyncQueue T × Next (BatchPc T) (List T)
  | .checkHead => (q, .pc (.checkTail q.head))
  | .checkTail head =>
    if head ≠ q.tail then (q, .pc .loadHead)
    else if timedOut then (q, .ret [])
    else (q, .pc .checkHead)
  | .loadHead => (q, .pc (.loadTail q.head))
  | .loadTail currentHead =>
    let available := usedSize capacity currentHead q.tail
    let realCount := if maxCount < available then maxCount else available
    (q, .pc (.copy currentHead realCount []))
  | .copy currentHead realCount outBatch =>
    if outBatch.length < realCount then
      let index := (currentHead + outBatch.length) % capacity
      (q, .pc (.copy currentHead realCount (outBatch ++ [q.buffer index])))
    else ({ q with head := (currentHead + realCount) % capacity }, .ret outBatch)

/-! ### What a queue holds -/

/-- The elements from the head up to the tail, which leave a slot free. -/
structure Holding (capacity : ℕ) (q : SyncQueue T) (items : List T) : Prop where
  head_lt : q.head < capacity
  room : items.length < capacity
  tail_eq : q.tail = (q.head + items.length) % capacity
  slots : Ring.Holds (fun i => some (q.buffer i)) capacity q.head items

namespace Holding

variable {capacity : ℕ} {q : SyncQueue T} {items : List T} {value : T}

theorem empty (hcapacity : 0 < capacity) (buffer : ℕ → T) :
    Holding capacity ⟨buffer, 0, 0⟩ [] where
  head_lt := hcapacity
  room := hcapacity
  tail_eq := by simp
  slots := Ring.Holds.nil

theorem init [Inhabited T] (hcapacity : 0 < capacity) :
    Holding capacity (SyncQueue.init : SyncQueue T) [] := empty hcapacity _

theorem tail_lt (h : Holding capacity q items) : q.tail < capacity := by
  rw [h.tail_eq]
  exact Nat.mod_lt _ (Nat.zero_lt_of_lt h.room)

/-- The tail with or without a turn around the ring. -/
theorem tail_cases (h : Holding capacity q items) :
    q.head + items.length < capacity ∧ q.tail = q.head + items.length ∨
      capacity ≤ q.head + items.length ∧ q.tail + capacity = q.head + items.length := by
  have htail := h.tail_eq
  have hhead := h.head_lt
  have hroom := h.room
  rcases Nat.lt_or_ge (q.head + items.length) capacity with hlt | hge
  · rw [Nat.mod_eq_of_lt hlt] at htail
    exact .inl ⟨hlt, htail⟩
  · rw [Nat.mod_eq_sub_mod hge, Nat.mod_eq_of_lt (by omega)] at htail
    exact .inr ⟨hge, by omega⟩

theorem usedSize_eq (h : Holding capacity q items) :
    usedSize capacity q.head q.tail = items.length := by
  have hhead := h.head_lt
  have hroom := h.room
  unfold usedSize
  rcases h.tail_cases with ⟨hlt, htail⟩ | ⟨hge, htail⟩
  · rw [if_pos (by omega)]
    omega
  · rw [if_neg (by omega)]
    omega

theorem slot (h : Holding capacity q items) {i : ℕ} (hi : i < items.length) :
    q.buffer ((q.head + i) % capacity) = items[i] := Option.some.inj (h.slots i hi)

theorem unread_eq (h : Holding capacity q items) : unread capacity q = items := by
  unfold unread
  rw [h.usedSize_eq]
  apply List.ext_getElem
  · simp
  · intro i hi hi'
    rw [List.getElem_map, List.getElem_range]
    exact h.slot hi'

theorem full_iff (h : Holding capacity q items) :
    (q.tail + 1) % capacity = q.head ↔ items.length + 1 = capacity := by
  have hhead := h.head_lt
  have hroom := h.room
  have htailLt := h.tail_lt
  rcases Nat.lt_or_ge (q.tail + 1) capacity with hlt | hge
  · rw [Nat.mod_eq_of_lt hlt]
    rcases h.tail_cases with ⟨hlt', htail⟩ | ⟨hge', htail⟩ <;> omega
  · have hlast : q.tail + 1 = capacity := by omega
    rw [hlast, Nat.mod_self]
    rcases h.tail_cases with ⟨hlt', htail⟩ | ⟨hge', htail⟩ <;> omega

theorem empty_iff (h : Holding capacity q items) : q.head = q.tail ↔ items = [] := by
  have hhead := h.head_lt
  have hroom := h.room
  rw [← List.length_eq_zero_iff]
  rcases h.tail_cases with ⟨hlt, htail⟩ | ⟨hge, htail⟩ <;> omega

/-- The slot at the tail is not one of the list. -/
theorem storeSlot (h : Holding capacity q items) (value : T) :
    Holding capacity { q with buffer := Function.update q.buffer q.tail value } items where
  head_lt := h.head_lt
  room := h.room
  tail_eq := h.tail_eq
  slots := by
    apply h.slots.frame
    intro i hi
    have hne : (q.head + i) % capacity ≠ q.tail := by
      intro heq
      rw [h.tail_eq] at heq
      have hlt := hi.trans h.room
      exact Nat.ne_of_lt hi (Ring.cell_inj hlt h.room heq)
    simp only [Function.update_of_ne hne]

/-- The element in the slot at the tail is appended. -/
theorem storeTail (h : Holding capacity q items) (hroom : items.length + 1 < capacity)
    (hvalue : q.buffer q.tail = value) :
    Holding capacity { q with tail := (q.tail + 1) % capacity } (items ++ [value]) where
  head_lt := h.head_lt
  room := by rwa [List.length_append, List.length_singleton]
  tail_eq := by
    change (q.tail + 1) % capacity = _
    rw [h.tail_eq, Nat.mod_add_mod, List.length_append, List.length_singleton, Nat.add_assoc]
  slots := by
    apply h.slots.concat h.room
    · rw [← h.tail_eq, hvalue]
    · exact fun _ _ => rfl

/-- The first elements are taken. -/
theorem storeHead (h : Holding capacity q items) {n : ℕ} (hn : n ≤ items.length) :
    Holding capacity { q with head := (q.head + n) % capacity } (items.drop n) where
  head_lt := Nat.mod_lt _ (Nat.zero_lt_of_lt h.room)
  room := by
    have := h.room
    rw [List.length_drop]
    omega
  tail_eq := by
    change q.tail = ((q.head + n) % capacity + (items.drop n).length) % capacity
    rw [Nat.mod_add_mod, List.length_drop, h.tail_eq]
    congr 1
    omega
  slots := (h.slots.drop n).congr (Nat.mod_mod _ _)

end Holding

variable {capacity maxCount : ℕ} {q : SyncQueue T} {items rest : List T} {value : T}

/-! ### Push -/

/-- What holds at a program counter of a push that no other push overlaps. -/
def PushAt (capacity : ℕ) (q : SyncQueue T) (items : List T) (value : T) : PushPc → Prop
  | .loadHead currentTail => currentTail = q.tail
  | .storeSlot currentTail => currentTail = q.tail ∧ items.length + 1 < capacity
  | .storeTail currentTail =>
    currentTail = q.tail ∧ items.length + 1 < capacity ∧ q.buffer currentTail = value
  | _ => True

/-- A push appends its value when it stores the tail. -/
def pushItems (value : T) (items : List T) : PushPc → List T
  | .storeTail _ => items ++ [value]
  | _ => items

theorem push_holding (h : Holding capacity q items) {pc : PushPc}
    (hpc : PushAt capacity q items value pc) :
    Holding capacity (pushStep capacity value q pc).1 (pushItems value items pc) := by
  cases pc with
  | loadHead currentTail => simp only [pushStep]; split <;> exact h
  | storeSlot currentTail =>
    obtain ⟨rfl, -⟩ := hpc
    exact h.storeSlot value
  | storeTail currentTail =>
    obtain ⟨rfl, hroom, hvalue⟩ := hpc
    exact h.storeTail hroom hvalue
  | loadTail => exact h
  | sizeHead => exact h
  | sizeTail head => exact h

theorem push_next (h : Holding capacity q items) {pc pc' : PushPc}
    (hpc : PushAt capacity q items value pc)
    (hnext : (pushStep capacity value q pc).2 = .pc pc') :
    PushAt capacity (pushStep capacity value q pc).1 (pushItems value items pc) value pc' := by
  cases pc with
  | loadTail =>
    obtain rfl := Next.pc.inj hnext
    exact rfl
  | loadHead currentTail =>
    have htail : currentTail = q.tail := hpc
    by_cases hfull : (currentTail + 1) % capacity = q.head
    · simp [pushStep, hfull] at hnext
    · simp only [pushStep, if_neg hfull] at hnext ⊢
      obtain rfl := Next.pc.inj hnext
      refine ⟨htail, ?_⟩
      rw [htail, h.full_iff] at hfull
      have hroom := h.room
      change items.length + 1 < capacity
      omega
  | storeSlot currentTail =>
    obtain rfl := Next.pc.inj hnext
    obtain ⟨htail, hroom⟩ := hpc
    have hvalue : Function.update q.buffer currentTail value currentTail = value :=
      Function.update_self _ _ _
    exact ⟨htail, hroom, hvalue⟩
  | storeTail currentTail =>
    obtain rfl := Next.pc.inj hnext
    trivial
  | sizeHead =>
    obtain rfl := Next.pc.inj hnext
    trivial
  | sizeTail head => cases hnext

/-- A push moves neither the head nor, before the store of the tail, the tail. -/
theorem push_head (pc : PushPc) : (pushStep capacity value q pc).1.head = q.head := by
  cases pc with
  | loadHead currentTail => simp only [pushStep]; split <;> rfl
  | loadTail => rfl
  | storeSlot currentTail => rfl
  | storeTail currentTail => rfl
  | sizeHead => rfl
  | sizeTail head => rfl

theorem pushItems_prefix (pc : PushPc) : ∃ rest, pushItems value items pc = items ++ rest := by
  cases pc with
  | storeTail currentTail => exact ⟨[value], rfl⟩
  | loadTail => exact ⟨[], (List.append_nil _).symm⟩
  | loadHead currentTail => exact ⟨[], (List.append_nil _).symm⟩
  | storeSlot currentTail => exact ⟨[], (List.append_nil _).symm⟩
  | sizeHead => exact ⟨[], (List.append_nil _).symm⟩
  | sizeTail head => exact ⟨[], (List.append_nil _).symm⟩

/-- A pop leaves the tail and the slots alone. -/
theorem PushAt.frame {pc : PushPc} {q' : SyncQueue T} {items' : List T}
    (h : PushAt capacity q items value pc) (hbuffer : q'.buffer = q.buffer)
    (htail : q'.tail = q.tail) (hlength : items'.length ≤ items.length) :
    PushAt capacity q' items' value pc := by
  cases pc with
  | loadHead currentTail => exact h.trans htail.symm
  | storeSlot currentTail => exact ⟨h.1.trans htail.symm, by have := h.2; omega⟩
  | storeTail currentTail =>
    exact ⟨h.1.trans htail.symm, by have := h.2.1; omega, by rw [hbuffer]; exact h.2.2⟩
  | loadTail => trivial
  | sizeHead => trivial
  | sizeTail head => trivial

/-! ### Pop -/

/-- What holds at a program counter of a pop that no other pop overlaps. -/
def PopAt (q : SyncQueue T) (items : List T) : PopPc T → Prop
  | .loadHead => True
  | .loadTail currentHead => currentHead = q.head
  | .loadSlot currentHead => currentHead = q.head ∧ items ≠ []
  | .storeHead currentHead value => currentHead = q.head ∧ items.head? = some value

/-- A pop takes its element when it stores the head. -/
def popItems (items : List T) : PopPc T → List T
  | .storeHead _ _ => items.drop 1
  | _ => items

theorem pop_holding (h : Holding capacity q items) {pc : PopPc T} (hpc : PopAt q items pc) :
    Holding capacity (popStep capacity q pc).1 (popItems items pc) := by
  cases pc with
  | loadTail currentHead => simp only [popStep]; split <;> exact h
  | storeHead currentHead value =>
    obtain ⟨rfl, hhead⟩ := hpc
    apply h.storeHead
    cases items with
    | nil => cases hhead
    | cons a as => simp
  | loadHead => exact h
  | loadSlot currentHead => exact h

theorem pop_next (h : Holding capacity q items) {pc pc' : PopPc T} (hpc : PopAt q items pc)
    (hnext : (popStep capacity q pc).2 = .pc pc') :
    PopAt (popStep capacity q pc).1 (popItems items pc) pc' := by
  cases pc with
  | loadHead =>
    obtain rfl := Next.pc.inj hnext
    exact rfl
  | loadTail currentHead =>
    have hhead : currentHead = q.head := hpc
    by_cases hempty : currentHead = q.tail
    · simp [popStep, hempty] at hnext
    · simp only [popStep, if_neg hempty] at hnext ⊢
      obtain rfl := Next.pc.inj hnext
      rw [hhead, h.empty_iff] at hempty
      exact ⟨hhead, hempty⟩
  | loadSlot currentHead =>
    obtain rfl := Next.pc.inj hnext
    obtain ⟨rfl, hne⟩ := hpc
    refine ⟨rfl, ?_⟩
    obtain ⟨a, as, rfl⟩ := List.exists_cons_of_ne_nil hne
    have hslot := h.slot (i := 0) (Nat.succ_pos _)
    rw [Nat.add_zero, Nat.mod_eq_of_lt h.head_lt] at hslot
    exact congrArg some hslot.symm
  | storeHead currentHead value => cases hnext

/-- What a pop returns it took from the front. -/
theorem pop_ret {pc : PopPc T} (hpc : PopAt q items pc) {result : Option T}
    (hret : (popStep capacity q pc).2 = .ret result) :
    items = result.toList ++ popItems items pc := by
  cases pc with
  | loadTail currentHead =>
    simp only [popStep] at hret
    split at hret
    · obtain rfl := Next.ret.inj hret
      rfl
    · cases hret
  | storeHead currentHead value =>
    obtain rfl := Next.ret.inj hret
    obtain ⟨-, hhead⟩ := hpc
    cases items with
    | nil => cases hhead
    | cons a as =>
      obtain rfl := Option.some.inj hhead
      rfl
  | loadHead => cases hret
  | loadSlot currentHead => cases hret

/-- Before it returns a pop has taken nothing. -/
theorem popItems_pc {pc pc' : PopPc T} (hnext : (popStep capacity q pc).2 = .pc pc') :
    popItems items pc = items := by
  cases pc with
  | storeHead currentHead value => cases hnext
  | loadHead => rfl
  | loadTail currentHead => rfl
  | loadSlot currentHead => rfl

/-- A push leaves the head alone and appends. -/
theorem PopAt.frame {pc : PopPc T} {q' : SyncQueue T} (h : PopAt q items pc)
    (hhead : q'.head = q.head) : PopAt q' (items ++ rest) pc := by
  cases pc with
  | loadHead => trivial
  | loadTail currentHead => exact h.trans hhead.symm
  | loadSlot currentHead => exact ⟨h.1.trans hhead.symm, by simp [h.2]⟩
  | storeHead currentHead value =>
    refine ⟨h.1.trans hhead.symm, ?_⟩
    rw [List.head?_append, h.2]
    rfl

theorem pop_buffer (capacity : ℕ) (q : SyncQueue T) (pc : PopPc T) :
    (popStep capacity q pc).1.buffer = q.buffer ∧ (popStep capacity q pc).1.tail = q.tail := by
  cases pc with
  | loadTail currentHead => simp only [popStep]; split <;> exact ⟨rfl, rfl⟩
  | loadHead => exact ⟨rfl, rfl⟩
  | loadSlot currentHead => exact ⟨rfl, rfl⟩
  | storeHead currentHead value => exact ⟨rfl, rfl⟩

/-- A step of `popWait` is one of `pop`, or begins anew. -/
theorem popWaitStep_eq (capacity : ℕ) (timedOut : Bool) (q : SyncQueue T) (pc : PopPc T) :
    popWaitStep capacity timedOut q pc = popStep capacity q pc ∨
      popWaitStep capacity timedOut q pc = (q, .pc .loadHead) := by
  cases pc with
  | loadTail currentHead =>
    by_cases hempty : currentHead = q.tail
    · cases timedOut with
      | true => exact .inl (by simp [popWaitStep, popStep, hempty])
      | false => exact .inr (by simp [popWaitStep, hempty])
    · exact .inl (by simp [popWaitStep, popStep, hempty])
  | loadHead => exact .inl rfl
  | loadSlot currentHead => exact .inl rfl
  | storeHead currentHead value => exact .inl rfl

/-- A pop that returns without an element found the queue empty. -/
theorem pop_ret_none (h : Holding capacity q items) {pc : PopPc T} (hpc : PopAt q items pc)
    (hret : (popStep capacity q pc).2 = .ret none) : items = [] := by
  cases pc with
  | loadTail currentHead =>
    have hhead : currentHead = q.head := hpc
    by_cases hempty : currentHead = q.tail
    · rwa [hhead, h.empty_iff] at hempty
    · simp [popStep, hempty] at hret
  | storeHead currentHead value => cases hret
  | loadHead => cases hret
  | loadSlot currentHead => cases hret

/-! ### popBatch -/

/-- What holds at a program counter of a `popBatch` that no other pop overlaps. -/
def BatchAt (q : SyncQueue T) (items : List T) : BatchPc T → Prop
  | .loadTail currentHead => currentHead = q.head
  | .copy currentHead realCount outBatch => currentHead = q.head ∧ realCount ≤ items.length ∧
      outBatch.length ≤ realCount ∧ outBatch = items.take outBatch.length
  | _ => True

/-- `popBatch` takes its batch when it stores the head. -/
def batchItems (items : List T) : BatchPc T → List T
  | .copy _ realCount outBatch =>
    if outBatch.length < realCount then items else items.drop realCount
  | _ => items

theorem batch_holding (maxCount : ℕ) (timedOut : Bool) (h : Holding capacity q items)
    {pc : BatchPc T} (hpc : BatchAt q items pc) :
    Holding capacity (batchStep capacity maxCount timedOut q pc).1 (batchItems items pc) := by
  cases pc with
  | checkTail head =>
    simp only [batchStep]
    split
    · exact h
    · split <;> exact h
  | copy currentHead realCount outBatch =>
    obtain ⟨rfl, hcount, -, -⟩ := hpc
    simp only [batchStep, batchItems]
    split
    · exact h
    · exact h.storeHead hcount
  | checkHead => exact h
  | loadHead => exact h
  | loadTail currentHead => exact h

theorem batch_next (h : Holding capacity q items) {pc pc' : BatchPc T} {timedOut : Bool}
    (hpc : BatchAt q items pc)
    (hnext : (batchStep capacity maxCount timedOut q pc).2 = .pc pc') :
    BatchAt (batchStep capacity maxCount timedOut q pc).1 (batchItems items pc) pc' := by
  cases pc with
  | checkHead =>
    obtain rfl := Next.pc.inj hnext
    trivial
  | checkTail head =>
    simp only [batchStep] at hnext
    split at hnext
    · obtain rfl := Next.pc.inj hnext
      trivial
    · split at hnext
      · cases hnext
      · obtain rfl := Next.pc.inj hnext
        trivial
  | loadHead =>
    obtain rfl := Next.pc.inj hnext
    exact rfl
  | loadTail currentHead =>
    obtain rfl := Next.pc.inj hnext
    obtain rfl : currentHead = q.head := hpc
    refine ⟨rfl, ?_, Nat.zero_le _, rfl⟩
    rw [h.usedSize_eq]
    change (if maxCount < items.length then maxCount else items.length) ≤ items.length
    split <;> omega
  | copy currentHead realCount outBatch =>
    obtain ⟨rfl, hcount, hle, hout⟩ := hpc
    by_cases hlt : outBatch.length < realCount
    · simp only [batchStep, batchItems, if_pos hlt] at hnext ⊢
      obtain rfl := Next.pc.inj hnext
      refine ⟨rfl, hcount, ?_, ?_⟩
      · rw [List.length_append, List.length_singleton]
        exact hlt
      · have hi : outBatch.length < items.length := by omega
        rw [h.slot hi, List.length_append, List.length_singleton, List.take_add_one,
          List.getElem?_eq_getElem hi, ← hout]
        rfl
    · simp [batchStep, hlt] at hnext

/-- What `popBatch` returns it took from the front. -/
theorem batch_ret {pc : BatchPc T} {timedOut : Bool} (hpc : BatchAt q items pc)
    {result : List T} (hret : (batchStep capacity maxCount timedOut q pc).2 = .ret result) :
    items = result ++ batchItems items pc := by
  cases pc with
  | checkTail head =>
    simp only [batchStep] at hret
    split at hret
    · cases hret
    · split at hret
      · obtain rfl := Next.ret.inj hret
        rfl
      · cases hret
  | copy currentHead realCount outBatch =>
    obtain ⟨-, hcount, hle, hout⟩ := hpc
    simp only [batchStep, batchItems] at hret ⊢
    split at hret
    · cases hret
    · rename_i hlt
      obtain rfl := Next.ret.inj hret
      have hlength : outBatch.length = realCount := by omega
      rw [if_neg hlt]
      calc items = items.take realCount ++ items.drop realCount := (List.take_append_drop _ _).symm
        _ = outBatch ++ items.drop realCount := by rw [← hlength, ← hout]
  | checkHead => cases hret
  | loadHead => cases hret
  | loadTail currentHead => cases hret

/-- Before it returns `popBatch` has taken nothing. -/
theorem batchItems_pc {pc pc' : BatchPc T} {timedOut : Bool}
    (hnext : (batchStep capacity maxCount timedOut q pc).2 = .pc pc') :
    batchItems items pc = items := by
  cases pc with
  | copy currentHead realCount outBatch =>
    simp only [batchStep] at hnext
    split at hnext
    · rename_i hlt
      exact if_pos hlt
    · cases hnext
  | checkHead => rfl
  | checkTail head => rfl
  | loadHead => rfl
  | loadTail currentHead => rfl

/-- A push leaves the head alone and appends. -/
theorem BatchAt.frame {pc : BatchPc T} {q' : SyncQueue T} (h : BatchAt q items pc)
    (hhead : q'.head = q.head) : BatchAt q' (items ++ rest) pc := by
  cases pc with
  | loadTail currentHead => exact h.trans hhead.symm
  | copy currentHead realCount outBatch =>
    obtain ⟨hcurrent, hcount, hle, hout⟩ := h
    refine ⟨hcurrent.trans hhead.symm, ?_, hle, ?_⟩
    · rw [List.length_append]
      omega
    · rw [List.take_append_of_le_length (hle.trans hcount)]
      exact hout
  | checkHead => trivial
  | checkTail head => trivial
  | loadHead => trivial

theorem batch_buffer (capacity maxCount : ℕ) (timedOut : Bool) (q : SyncQueue T) (pc : BatchPc T) :
    (batchStep capacity maxCount timedOut q pc).1.buffer = q.buffer ∧
      (batchStep capacity maxCount timedOut q pc).1.tail = q.tail := by
  cases pc with
  | checkTail head =>
    simp only [batchStep]
    split
    · exact ⟨rfl, rfl⟩
    · split <;> exact ⟨rfl, rfl⟩
  | copy currentHead realCount outBatch => simp only [batchStep]; split <;> exact ⟨rfl, rfl⟩
  | checkHead => exact ⟨rfl, rfl⟩
  | loadHead => exact ⟨rfl, rfl⟩
  | loadTail currentHead => exact ⟨rfl, rfl⟩

/-- `popBatch` is in the loop that waits for an element. -/
def BatchPc.waiting : BatchPc T → Bool
  | .checkHead => true
  | .checkTail _ => true
  | _ => false

/-- In that loop it leaves the queue alone: it returns nothing, or stays in it, or is
about to load the head. -/
theorem batch_waits {pc : BatchPc T} (h : pc.waiting = true) (capacity maxCount : ℕ)
    (timedOut : Bool) (q : SyncQueue T) :
    batchStep capacity maxCount timedOut q pc = (q, .ret []) ∨
      ∃ pc', batchStep capacity maxCount timedOut q pc = (q, .pc pc') ∧
        (pc'.waiting = true ∨ pc' = .loadHead) := by
  cases pc with
  | checkHead => exact .inr ⟨_, rfl, .inl rfl⟩
  | checkTail head =>
    simp only [batchStep]
    split
    · exact .inr ⟨_, rfl, .inr rfl⟩
    · split
      · exact .inl rfl
      · exact .inr ⟨_, rfl, .inl rfl⟩
  | loadHead => cases h
  | loadTail currentHead => cases h
  | copy currentHead realCount outBatch => cases h

end Rs
end SensorSupport
