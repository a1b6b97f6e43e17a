/-
# Packet buffers (`rs_driver/driver/lidar_driver_impl.hpp`)

The input thread takes a buffer from `free_pkt_queue_` or makes one, fills it and
pushes it to `pkt_queue_`; the handle thread pops batches from there, decodes each
packet and pushes its buffer to `free_pkt_queue_`. Each step is a step of a queue
function. A buffer is a number, and the null pointer is `none`.

Every buffer has one owner as long as the clear of `pkt_queue_` and the handle
thread do not overlap, and the pushes of the two threads to `free_pkt_queue_` do
not (`buffers_exclusive`): what a thread holds and the lists the two queues hold
have no buffer in common (`BufferInv`). Otherwise a slot that was popped, or never
written, comes back (`buffers_shared`).

Key definitions: `Buffers`, `buffersStep`, `ownerCount`, `StepsApart`, `BufferInv`.
Key theorems: `buffers_exclusive`, `buffers_shared`.
-/
import Mathlib.Data.List.Count
import SensorSupport.Lib.Run
import SensorSupport.Rs.SyncQueue

namespace SensorSupport
namespace Rs

/-- A pointer to a buffer. -/
abbrev Pointer := Option ℕ

/-- What the input thread does: `packetGet`, `packetPut` of a buffer that is not
stuffed or is, and the clear behind an overflow. -/
inductive InputMode
  | idle
  | getting (pc : PopPc Pointer)
  | freeing (pkt : ℕ) (pc : PushPc)
  | putting (pkt : ℕ) (pc : PushPc)
  | clearing (pc : ClearPc)
deriving DecidableEq

/-- What the handle thread does: the head of its loop, `popBatch`, the packets of
the batch that are left, and the push of a decoded packet's buffer. `faulted` is
behind the use of a null pointer. -/
inductive HandleMode
  | idle
  | batching (pc : BatchPc Pointer)
  | processing (batch : List Pointer)
  | freeing (pkt : ℕ) (pc : PushPc) (batch : List Pointer)
  | faulted
deriving DecidableEq

/-- The two queues, the buffers the input thread holds, the two threads, and the
number of buffers made so far. -/
structure Buffers where
  pktQueue : SyncQueue Pointer
  freePktQueue : SyncQueue Pointer
  held : List ℕ
  input : InputMode
  handle : HandleMode
  created : ℕ

/-- At the start. -/
def Buffers.init : Buffers := ⟨.init, .init, [], .idle, .idle, 0⟩

/-- The input thread calls `packetGet`, or `packetPut` with a buffer it holds, or
lets one go; or a thread takes a step. -/
inductive BufferEvent
  | get
  | put (pkt : ℕ) (stuffed : Bool)
  | drop (pkt : ℕ)
  | input
  | handle (timedOut : Bool)

/-- A step of the input thread. -/
def inputStep (capacity : ℕ) (s : Buffers) : InputMode → Option Buffers
  | .idle => none
  | .getting pc =>
    let r := popStep capacity s.freePktQueue pc
    match r.2 with
    | .pc pc' => some { s with freePktQueue := r.1, input := .getting pc' }
    | .ret (some (some pkt)) => some { s with
        freePktQueue := r.1, input := .idle, held := s.held ++ [pkt] }
    | .ret _ => some { s with
        freePktQueue := r.1, input := .idle, held := s.held ++ [s.created]
        created := s.created + 1 }
  | .freeing pkt pc =>
    let r := pushStep capacity (some pkt) s.freePktQueue pc
    match r.2 with
    | .pc pc' => some { s with freePktQueue := r.1, input := .freeing pkt pc' }
    | .ret _ => some { s with freePktQueue := r.1, input := .idle }
  | .putting pkt pc =>
    let r := pushStep capacity (some pkt) s.pktQueue pc
    match r.2 with
    | .pc pc' => some { s with pktQueue := r.1, input := .putting pkt pc' }
    | .ret none => some { s with pktQueue := r.1, input := .clearing .storeHead }
    | .ret (some _) => some { s with pktQueue := r.1, input := .idle }
  | .clearing pc =>
    let r := clearStep s.pktQueue pc
    match r.2 with
    | .pc pc' => some { s with pktQueue := r.1, input := .clearing pc' }
    | .ret () => some { s with pktQueue := r.1, input := .idle }

/-- A step of the handle thread. -/
def handleStep (capacity : ℕ) (timedOut : Bool) (s : Buffers) : HandleMode → Option Buffers
  | .idle => some { s with handle := .batching .checkHead }
  | .batching pc =>
    let r := batchStep capacity 50 timedOut s.pktQueue pc
    match r.2 with
    | .pc pc' => some { s with pktQueue := r.1, handle := .batching pc' }
    | .ret batch => some { s with pktQueue := r.1, handle := .processing batch }
  | .processing [] => some { s with handle := .idle }
  | .processing (none :: _) => some { s with handle := .faulted }
  | .processing (some pkt :: batch) => some { s with handle := .freeing pkt .loadTail batch }
  | .freeing pkt pc batch =>
    let r := pushStep capacity (some pkt) s.freePktQueue pc
    match r.2 with
    | .pc pc' => some { s with freePktQueue := r.1, handle := .freeing pkt pc' batch }
    | .ret _ => some { s with freePktQueue := r.1, handle := .processing batch }
  | .faulted => none

/-- One event. -/
def buffersStep (capacity : ℕ) (s : Buffers) : BufferEvent → Option Buffers
  | .get =>
    match s.input with
    | .idle => some { s with input := .getting .loadHead }
    | _ => none
  | .put pkt stuffed =>
    match s.input with
    | .idle =>
      if pkt ∈ s.held then
        let input : InputMode := if stuffed then .putting pkt .loadTail else .freeing pkt .loadTail
        some { s with held := s.held.erase pkt, input := input }
      else none
    | _ => none
  | .drop pkt =>
    match s.input with
    | .idle => some { s with held := s.held.erase pkt }
    | _ => none
  | .input => inputStep capacity s s.input
  | .handle timedOut => handleStep capacity timedOut s s.handle

/-! ### Owners -/

/-- Has a push not yet stored the tail? -/
def PushPc.pending : PushPc → Bool
  | .sizeHead => false
  | .sizeTail _ => false
  | _ => true

/-- Is a push between its load and its store of the tail? -/
def PushPc.inside : PushPc → Bool
  | .loadHead _ => true
  | .storeSlot _ => true
  | .storeTail _ => true
  | _ => false

/-- The buffer the input thread is pushing. -/
def InputMode.pushing : InputMode → List ℕ
  | .freeing pkt pc => if pc.pending then [pkt] else []
  | .putting pkt pc => if pc.pending then [pkt] else []
  | _ => []

/-- The buffers of the handle thread: its batch and the one it is pushing. -/
def HandleMode.owned : HandleMode → List Pointer
  | .processing batch => batch
  | .freeing pkt pc batch => (if pc.pending then [some pkt] else []) ++ batch
  | _ => []

/-- The unread part of `pkt_queue_`. Between the two stores of a clear nothing is
left to be read. -/
def queued (capacity : ℕ) (s : Buffers) : List Pointer :=
  if s.input = .clearing .storeTail then [] else unread capacity s.pktQueue

/-- How often a buffer is owned by the input thread, the handle thread, or one of
two lists. -/
def ownedBy (s : Buffers) (pkts frees : List Pointer) (b : ℕ) : ℕ :=
  s.held.count b + s.input.pushing.count b + pkts.count (some b) +
    s.handle.owned.count (some b) + frees.count (some b)

/-- How often a buffer is owned by a thread or an unread part of a queue. -/
def ownerCount (capacity : ℕ) (s : Buffers) (b : ℕ) : ℕ :=
  ownedBy s (queued capacity s) (unread capacity s.freePktQueue) b

/-! ### The condition -/

/-- Is the handle thread between its load of the head and its store of the head? -/
def HandleMode.holdsHead : HandleMode → Bool
  | .batching (.loadTail _) => true
  | .batching (.copy _ _ _) => true
  | _ => false

/-- Is the input thread inside a push to `free_pkt_queue_`? -/
def InputMode.insideFree : InputMode → Bool
  | .freeing _ pc => pc.inside
  | _ => false

/-- Is the handle thread inside a push to `free_pkt_queue_`? -/
def HandleMode.insideFree : HandleMode → Bool
  | .freeing _ pc _ => pc.inside
  | _ => false

/-- No store of the clear comes between the handle thread's load of the head and
its store of the head, nor that load between the stores of the clear; and no
thread begins a push to `free_pkt_queue_` inside one of the other thread. -/
def StepsApart (s : Buffers) : BufferEvent → Prop
  | .input =>
    (∀ pc, s.input = .clearing pc → s.handle.holdsHead = false) ∧
      ∀ pkt, s.input = .freeing pkt .loadTail → s.handle.insideFree = false
  | .handle _ =>
    (s.input = .clearing .storeTail → s.handle ≠ .batching .loadHead) ∧
      ∀ pkt batch, s.handle = .freeing pkt .loadTail batch → s.input.insideFree = false
  | _ => True

/-! ### The invariant -/

/-- What holds at the program counter of the input thread. -/
def InputAt (capacity : ℕ) (pktQueue freePktQueue : SyncQueue Pointer)
    (pkts frees : List Pointer) : InputMode → Prop
  | .getting pc => PopAt freePktQueue frees pc
  | .freeing pkt pc => PushAt capacity freePktQueue frees (some pkt) pc
  | .putting pkt pc => PushAt capacity pktQueue pkts (some pkt) pc
  | _ => True

/-- What holds at the program counter of the handle thread. -/
def HandleAt (capacity : ℕ) (pktQueue freePktQueue : SyncQueue Pointer)
    (pkts frees : List Pointer) : HandleMode → Prop
  | .batching pc => BatchAt pktQueue pkts pc
  | .freeing pkt pc _ => PushAt capacity freePktQueue frees (some pkt) pc
  | _ => True

/-- The queues hold `pkts` and `frees`; no buffer is owned twice, and none that
was not made yet; nothing that is to be decoded is null. -/
structure BufferInv (capacity : ℕ) (s : Buffers) (pkts frees : List Pointer) : Prop where
  pktHolding : s.input ≠ .clearing .storeTail → Holding capacity s.pktQueue pkts
  clearing : s.input = .clearing .storeTail → pkts = [] ∧ s.pktQueue.head = 0 ∧ 0 < capacity ∧
    s.handle.holdsHead = false
  freeHolding : Holding capacity s.freePktQueue frees
  pktSome : none ∉ pkts
  handleSome : none ∉ s.handle.owned
  owned : ∀ b, ownedBy s pkts frees b ≤ if b < s.created then 1 else 0
  inputAt : InputAt capacity s.pktQueue s.freePktQueue pkts frees s.input
  handleAt : HandleAt capacity s.pktQueue s.freePktQueue pkts frees s.handle
  apart : s.input.insideFree = false ∨ s.handle.insideFree = false
  running : s.handle ≠ .faulted

variable {capacity : ℕ} {q q' : SyncQueue Pointer} {s s' : Buffers} {pkts frees : List Pointer}

/-! ### Pushes -/

section Push

variable {pc pc' : PushPc} {value : Pointer}

/-- Outside its loads and stores of the tail a push leaves the queue alone. -/
theorem push_outside (value : Pointer) (q : SyncQueue Pointer) (frees : List Pointer)
    (h : pc.inside = false) :
    (pushStep capacity value q pc).1 = q ∧ pushItems value frees pc = frees := by
  cases pc with
  | loadTail => exact ⟨rfl, rfl⟩
  | sizeHead => exact ⟨rfl, rfl⟩
  | sizeTail head => exact ⟨rfl, rfl⟩
  | loadHead currentTail => cases h
  | storeSlot currentTail => cases h
  | storeTail currentTail => cases h

theorem pushAt_outside (h : pc.inside = false) : PushAt capacity q frees value pc := by
  cases pc with
  | loadTail => trivial
  | sizeHead => trivial
  | sizeTail head => trivial
  | loadHead currentTail => cases h
  | storeSlot currentTail => cases h
  | storeTail currentTail => cases h

/-- Another push of which at most one is inside is not disturbed. -/
theorem PushAt.pushed (h : PushAt capacity q frees value pc)
    (value' : Pointer) (hapart : pc'.inside = false ∨ pc.inside = false) :
    PushAt capacity (pushStep capacity value' q pc').1 (pushItems value' frees pc') value pc := by
  rcases hapart with hout | hout
  · obtain ⟨hq, hitems⟩ := push_outside value' q frees hout
    rwa [hq, hitems]
  · exact pushAt_outside hout

/-- A push that goes on was inside before or begins. -/
theorem inside_of_next (hnext : (pushStep capacity value q pc).2 = .pc pc')
    (hbegin : pc ≠ .loadTail) (hout : pc.inside = false) : pc'.inside = false := by
  cases pc with
  | loadTail => exact absurd rfl hbegin
  | loadHead currentTail => cases hout
  | storeSlot currentTail => cases hout
  | storeTail currentTail => cases hout
  | sizeHead =>
    obtain rfl := Next.pc.inj hnext
    rfl
  | sizeTail head => cases hnext

/-- What a push that goes on holds moves to the list. -/
theorem pending_next (frees : List Pointer)
    (hnext : (pushStep capacity value q pc).2 = .pc pc') (v : Pointer) :
    (if pc'.pending then [value] else []).count v + (pushItems value frees pc).count v =
      (if pc.pending then [value] else []).count v + frees.count v := by
  cases pc with
  | loadTail =>
    obtain rfl := Next.pc.inj hnext
    rfl
  | loadHead currentTail =>
    by_cases hfull : (currentTail + 1) % capacity = q.head
    · simp [pushStep, hfull] at hnext
    · simp only [pushStep, if_neg hfull] at hnext
      obtain rfl := Next.pc.inj hnext
      rfl
  | storeSlot currentTail =>
    obtain rfl := Next.pc.inj hnext
    rfl
  | storeTail currentTail =>
    obtain rfl := Next.pc.inj hnext
    simp only [PushPc.pending, pushItems, List.count_append, Bool.false_eq_true, if_true, if_false,
      List.count_nil]
    omega
  | sizeHead =>
    obtain rfl := Next.pc.inj hnext
    rfl
  | sizeTail head => cases hnext

/-- A push that returns leaves the list alone. -/
theorem pushItems_ret {result : Option ℕ}
    (hret : (pushStep capacity value q pc).2 = .ret result) :
    pushItems value frees pc = frees := by
  cases pc with
  | storeTail currentTail => cases hret
  | loadTail => rfl
  | loadHead currentTail => rfl
  | storeSlot currentTail => rfl
  | sizeHead => rfl
  | sizeTail head => rfl

end Push

/-! ### What the threads rely on -/

/-- A handle thread that holds no head relies on nothing in `pkt_queue_`. -/
theorem HandleAt.cleared {mode : HandleMode} {q'' : SyncQueue Pointer} {pkts' : List Pointer}
    (h : HandleAt capacity q q' pkts frees mode) (hfree : mode.holdsHead = false) :
    HandleAt capacity q'' q' pkts' frees mode := by
  cases mode with
  | batching pc =>
    cases pc with
    | checkHead => trivial
    | checkTail head => trivial
    | loadHead => trivial
    | loadTail currentHead => cases hfree
    | copy currentHead realCount outBatch => cases hfree
  | freeing pkt pc batch => exact h
  | idle => trivial
  | processing batch => trivial
  | faulted => trivial

/-- A push to `pkt_queue_` does not disturb the handle thread. -/
theorem HandleAt.put {mode : HandleMode} {q'' : SyncQueue Pointer}
    (h : HandleAt capacity q q' pkts frees mode) (hhead : q''.head = q.head)
    (rest : List Pointer) : HandleAt capacity q'' q' (pkts ++ rest) frees mode := by
  cases mode with
  | batching pc => exact BatchAt.frame h hhead
  | freeing pkt pc batch => exact h
  | idle => trivial
  | processing batch => trivial
  | faulted => trivial

/-- A pop from `free_pkt_queue_` does not disturb the handle thread. -/
theorem HandleAt.got {mode : HandleMode} {q'' : SyncQueue Pointer} {frees' : List Pointer}
    (h : HandleAt capacity q q' pkts frees mode) (hbuffer : q''.buffer = q'.buffer)
    (htail : q''.tail = q'.tail) (hlength : frees'.length ≤ frees.length) :
    HandleAt capacity q q'' pkts frees' mode := by
  cases mode with
  | batching pc => exact h
  | freeing pkt pc batch => exact PushAt.frame h hbuffer htail hlength
  | idle => trivial
  | processing batch => trivial
  | faulted => trivial

/-- A push to `free_pkt_queue_` apart from the one of the handle thread. -/
theorem HandleAt.freed {mode : HandleMode} {pc : PushPc} (value : Pointer)
    (h : HandleAt capacity q q' pkts frees mode)
    (hapart : pc.inside = false ∨ mode.insideFree = false) :
    HandleAt capacity q (pushStep capacity value q' pc).1 pkts (pushItems value frees pc)
      mode := by
  cases mode with
  | batching pc' => exact h
  | freeing pkt pc' batch => exact PushAt.pushed h value hapart
  | idle => trivial
  | processing batch => trivial
  | faulted => trivial

/-- A pop from `pkt_queue_` does not disturb the input thread. -/
theorem InputAt.took {mode : InputMode} {q'' : SyncQueue Pointer} {pkts' : List Pointer}
    (h : InputAt capacity q q' pkts frees mode) (hbuffer : q''.buffer = q.buffer)
    (htail : q''.tail = q.tail) (hlength : pkts'.length ≤ pkts.length) :
    InputAt capacity q'' q' pkts' frees mode := by
  cases mode with
  | putting pkt pc => exact PushAt.frame h hbuffer htail hlength
  | getting pc => exact h
  | freeing pkt pc => exact h
  | idle => trivial
  | clearing pc => trivial

/-- A push to `free_pkt_queue_` apart from the one of the input thread. -/
theorem InputAt.freed {mode : InputMode} {pc : PushPc} (value : Pointer)
    (h : InputAt capacity q q' pkts frees mode)
    (hapart : mode.insideFree = false ∨ pc.inside = false) :
    InputAt capacity q (pushStep capacity value q' pc).1 pkts (pushItems value frees pc)
      mode := by
  cases mode with
  | getting pc' =>
    have hprefix : ∃ rest, pushItems value frees pc = frees ++ rest := pushItems_prefix pc
    obtain ⟨rest, hrest⟩ := hprefix
    rw [hrest]
    exact PopAt.frame h (push_head pc)
  | freeing pkt pc' => exact PushAt.pushed h value hapart.symm
  | putting pkt pc' => exact h
  | idle => trivial
  | clearing pc' => trivial

/-! ### The input thread -/

theorem pending_count (c : Bool) (pkt b : ℕ) :
    (if c then [pkt] else []).count b = (if c then [some pkt] else []).count (some b) := by
  cases c with
  | false => rfl
  | true => simp [List.count_singleton]

namespace BufferInv

theorem init (hcapacity : 0 < capacity) : BufferInv capacity .init [] [] where
  pktHolding := fun _ => Holding.init hcapacity
  clearing := fun h => by cases h
  freeHolding := Holding.init hcapacity
  pktSome := List.not_mem_nil
  handleSome := List.not_mem_nil
  owned := fun b => Nat.zero_le _
  inputAt := trivial
  handleAt := trivial
  apart := .inl rfl
  running := fun h => by cases h

/-- The input thread begins a call, with buffers it holds. -/
theorem begin (h : BufferInv capacity s pkts frees) (hinput : s.input = .idle) {held : List ℕ}
    {input : InputMode} (hheld : ∀ b, held.count b + input.pushing.count b ≤ s.held.count b)
    (hclearing : input ≠ .clearing .storeTail) (houtside : input.insideFree = false)
    (hat : InputAt capacity s.pktQueue s.freePktQueue pkts frees input) :
    BufferInv capacity { s with held := held, input := input } pkts frees where
  pktHolding := fun _ => h.pktHolding (by rw [hinput]; intro hne; cases hne)
  clearing := fun heq => absurd heq hclearing
  freeHolding := h.freeHolding
  pktSome := h.pktSome
  handleSome := h.handleSome
  owned := by
    intro b
    have hb := h.owned b
    have hheld := hheld b
    simp only [ownedBy, hinput] at hb ⊢
    omega
  inputAt := hat
  handleAt := h.handleAt
  apart := .inl houtside
  running := h.running

/-- A step of the input thread in `packetGet`. -/
theorem getting (h : BufferInv capacity s pkts frees) {pc : PopPc Pointer}
    (hinput : s.input = .getting pc) (hs : inputStep capacity s (.getting pc) = some s') :
    ∃ pkts' frees', BufferInv capacity s' pkts' frees' := by
  have hat := h.inputAt
  have hpkt := h.pktHolding (by rw [hinput]; intro hne; cases hne)
  have howned := h.owned
  rw [hinput] at hat
  simp only [ownedBy, hinput] at howned
  obtain ⟨hbuffer, htail⟩ := pop_buffer capacity s.freePktQueue pc
  have hfree := pop_holding h.freeHolding hat
  simp only [inputStep] at hs
  cases hnext : (popStep capacity s.freePktQueue pc).2 with
  | pc pc' =>
    have hat' := pop_next h.freeHolding hat hnext
    rw [popItems_pc hnext] at hfree hat'
    simp only [hnext] at hs
    obtain rfl := Option.some.inj hs
    exact ⟨pkts, frees, {
      pktHolding := fun _ => hpkt, clearing := fun heq => (by cases heq), freeHolding := hfree
      pktSome := h.pktSome, handleSome := h.handleSome, owned := howned, inputAt := hat'
      handleAt := h.handleAt.got hbuffer htail (le_refl _), apart := .inl rfl
      running := h.running }⟩
  | ret result =>
    have htaken := pop_ret hat hnext
    have hlength : (popItems frees pc).length ≤ frees.length := by
      have hsum := congrArg List.length htaken
      rw [List.length_append] at hsum
      omega
    -- the thread gets a buffer that was free, or a new one
    have hgot : ∀ pkt created, (∀ b, s.held.count b + [pkt].count b + pkts.count (some b) +
        s.handle.owned.count (some b) + (popItems frees pc).count (some b) ≤
          if b < created then 1 else 0) →
        BufferInv capacity { s with
          freePktQueue := (popStep capacity s.freePktQueue pc).1, input := .idle
          held := s.held ++ [pkt], created := created } pkts (popItems frees pc) := by
      intro pkt created hcount
      refine {
        pktHolding := fun _ => hpkt, clearing := fun heq => (by cases heq), freeHolding := hfree
        pktSome := h.pktSome, handleSome := h.handleSome, owned := ?_, inputAt := trivial
        handleAt := h.handleAt.got hbuffer htail hlength, apart := .inl rfl
        running := h.running }
      intro b
      have hb := hcount b
      simp only [ownedBy, InputMode.pushing, List.count_append, List.count_nil]
      omega
    have hnew : ∀ b, s.held.count b + [s.created].count b + pkts.count (some b) +
        s.handle.owned.count (some b) + (popItems frees pc).count (some b) ≤
          if b < s.created + 1 then 1 else 0 := by
      intro b
      have hb := howned b
      rw [htaken, List.count_append] at hb
      rcases Nat.lt_trichotomy b s.created with hlt | rfl | hgt
      · have hother : [s.created].count b = 0 :=
          List.count_eq_zero_of_not_mem (by simp; omega)
        rw [if_pos hlt] at hb
        rw [if_pos (Nat.lt_succ_of_lt hlt)]
        omega
      · have hone : [s.created].count s.created = 1 := List.count_singleton_self
        rw [if_neg (Nat.lt_irrefl _)] at hb
        rw [if_pos (Nat.lt_succ_self _)]
        omega
      · have hother : [s.created].count b = 0 :=
          List.count_eq_zero_of_not_mem (by simp; omega)
        rw [if_neg (by omega)] at hb
        omega
    simp only [hnext] at hs
    match result with
    | none =>
      obtain rfl := Option.some.inj hs
      exact ⟨pkts, _, hgot _ _ hnew⟩
    | some none =>
      obtain rfl := Option.some.inj hs
      exact ⟨pkts, _, hgot _ _ hnew⟩
    | some (some pkt) =>
      obtain rfl := Option.some.inj hs
      refine ⟨pkts, _, hgot _ _ ?_⟩
      intro b
      have hb := howned b
      have hsome : [some pkt].count (some b) = [pkt].count b := (pending_count true pkt b).symm
      rw [htaken, List.count_append] at hb
      simp only [Option.toList_some] at hb
      omega

/-- A step of the input thread that pushes a buffer back to `free_pkt_queue_`. -/
theorem inputFreeing (h : BufferInv capacity s pkts frees) {pkt : ℕ} {pc : PushPc}
    (hinput : s.input = .freeing pkt pc) (hok : StepsApart s .input)
    (hs : inputStep capacity s (.freeing pkt pc) = some s') :
    ∃ pkts' frees', BufferInv capacity s' pkts' frees' := by
  have hat := h.inputAt
  have hpkt := h.pktHolding (by rw [hinput]; intro hne; cases hne)
  have howned := h.owned
  have hapart := h.apart
  have hbegin := hok.2 pkt
  rw [hinput] at hat hapart hbegin
  simp only [ownedBy, hinput, InputMode.pushing, pending_count] at howned
  have hfree := push_holding h.freeHolding hat
  have hhandle := h.handleAt.freed (some pkt) hapart
  simp only [inputStep] at hs
  cases hnext : (pushStep capacity (some pkt) s.freePktQueue pc).2 with
  | pc pc' =>
    have hat' := push_next h.freeHolding hat hnext
    simp only [hnext] at hs
    obtain rfl := Option.some.inj hs
    refine ⟨pkts, _, {
      pktHolding := fun _ => hpkt, clearing := fun heq => (by cases heq), freeHolding := hfree
      pktSome := h.pktSome, handleSome := h.handleSome, owned := ?_, inputAt := hat'
      handleAt := hhandle, apart := ?_, running := h.running }⟩
    · intro b
      have hb := howned b
      have hmove := pending_next frees hnext (some b)
      simp only [ownedBy, InputMode.pushing, pending_count]
      omega
    · by_cases hfirst : pc = .loadTail
      · exact .inr (hbegin (by rw [hfirst]))
      · exact hapart.imp_left (inside_of_next hnext hfirst)
  | ret result =>
    rw [pushItems_ret hnext] at hfree hhandle
    simp only [hnext] at hs
    obtain rfl := Option.some.inj hs
    refine ⟨pkts, frees, {
      pktHolding := fun _ => hpkt, clearing := fun heq => (by cases heq), freeHolding := hfree
      pktSome := h.pktSome, handleSome := h.handleSome, owned := ?_, inputAt := trivial
      handleAt := hhandle, apart := .inl rfl, running := h.running }⟩
    intro b
    have hb := howned b
    simp only [ownedBy, InputMode.pushing, List.count_nil]
    omega

/-- A step of the input thread that pushes a stuffed buffer to `pkt_queue_`. -/
theorem putting (h : BufferInv capacity s pkts frees) {pkt : ℕ} {pc : PushPc}
    (hinput : s.input = .putting pkt pc)
    (hs : inputStep capacity s (.putting pkt pc) = some s') :
    ∃ pkts' frees', BufferInv capacity s' pkts' frees' := by
  have hat := h.inputAt
  have hpkt := h.pktHolding (by rw [hinput]; intro hne; cases hne)
  have howned := h.owned
  rw [hinput] at hat
  simp only [ownedBy, hinput, InputMode.pushing, pending_count] at howned
  have hpushed := push_holding hpkt hat
  have hhead : (pushStep capacity (some pkt) s.pktQueue pc).1.head = s.pktQueue.head := push_head pc
  have hprefix : ∃ rest, pushItems (some pkt) pkts pc = pkts ++ rest := pushItems_prefix pc
  obtain ⟨rest, hrest⟩ := hprefix
  have hhandle := h.handleAt.put hhead rest
  rw [← hrest] at hhandle
  simp only [inputStep] at hs
  cases hnext : (pushStep capacity (some pkt) s.pktQueue pc).2 with
  | pc pc' =>
    have hat' := push_next hpkt hat hnext
    simp only [hnext] at hs
    obtain rfl := Option.some.inj hs
    refine ⟨_, frees, {
      pktHolding := fun _ => hpushed, clearing := fun heq => (by cases heq)
      freeHolding := h.freeHolding, pktSome := ?_, handleSome := h.handleSome, owned := ?_
      inputAt := hat', handleAt := hhandle, apart := .inl rfl, running := h.running }⟩
    · cases pc with
      | storeTail currentTail => simpa [pushItems] using h.pktSome
      | loadTail => exact h.pktSome
      | loadHead currentTail => exact h.pktSome
      | storeSlot currentTail => exact h.pktSome
      | sizeHead => exact h.pktSome
      | sizeTail head => exact h.pktSome
    · intro b
      have hb := howned b
      have hmove := pending_next pkts hnext (some b)
      simp only [ownedBy, InputMode.pushing, pending_count]
      omega
  | ret result =>
    rw [pushItems_ret hnext] at hpushed hhandle
    simp only [hnext] at hs
    -- behind an overflow comes the clear
    have hdone : ∀ input : InputMode, input.pushing = [] → input ≠ .clearing .storeTail →
        input.insideFree = false → InputAt capacity
          (pushStep capacity (some pkt) s.pktQueue pc).1 s.freePktQueue pkts frees input →
        BufferInv capacity { s with
          pktQueue := (pushStep capacity (some pkt) s.pktQueue pc).1, input := input }
          pkts frees := by
      intro input hpushing hclearing houtside hat'
      refine {
        pktHolding := fun _ => hpushed, clearing := fun heq => absurd heq hclearing
        freeHolding := h.freeHolding, pktSome := h.pktSome, handleSome := h.handleSome
        owned := ?_, inputAt := hat', handleAt := hhandle, apart := .inl houtside
        running := h.running }
      intro b
      have hb := howned b
      simp only [ownedBy, hpushing, List.count_nil]
      omega
    cases result with
    | none =>
      obtain rfl := Option.some.inj hs
      exact ⟨pkts, frees, hdone (.clearing .storeHead) rfl (fun heq => by cases heq) rfl trivial⟩
    | some size =>
      obtain rfl := Option.some.inj hs
      exact ⟨pkts, frees, hdone .idle rfl (fun heq => by cases heq) rfl trivial⟩

/-- A step of the clear, during which the handle thread holds no head. -/
theorem clear (h : BufferInv capacity s pkts frees) {pc : ClearPc}
    (hinput : s.input = .clearing pc) (hok : StepsApart s .input)
    (hs : inputStep capacity s (.clearing pc) = some s') :
    ∃ pkts' frees', BufferInv capacity s' pkts' frees' := by
  have hholds := hok.1 pc hinput
  have howned := h.owned
  simp only [ownedBy, hinput, InputMode.pushing, List.count_nil] at howned
  cases pc with
  | storeHead =>
    have hpkt := h.pktHolding (by rw [hinput]; intro hne; cases hne)
    have hcapacity : 0 < capacity := Nat.zero_lt_of_lt hpkt.room
    obtain rfl := Option.some.inj hs
    refine ⟨[], frees, {
      pktHolding := fun hne => absurd rfl hne, clearing := fun _ => ⟨rfl, rfl, hcapacity, hholds⟩
      freeHolding := h.freeHolding, pktSome := List.not_mem_nil, handleSome := h.handleSome
      owned := ?_, inputAt := trivial, handleAt := h.handleAt.cleared hholds, apart := .inl rfl
      running := h.running }⟩
    intro b
    have hb := howned b
    simp only [ownedBy, InputMode.pushing, List.count_nil]
    omega
  | storeTail =>
    obtain ⟨rfl, hhead, hcapacity, -⟩ := h.clearing hinput
    obtain rfl := Option.some.inj hs
    refine ⟨[], frees, {
      pktHolding := fun _ => ?_, clearing := fun heq => (by cases heq)
      freeHolding := h.freeHolding, pktSome := List.not_mem_nil, handleSome := h.handleSome
      owned := howned, inputAt := trivial, handleAt := h.handleAt.cleared hholds
      apart := .inl rfl, running := h.running }⟩
    have hempty := Holding.empty hcapacity s.pktQueue.buffer
    rw [← hhead] at hempty
    change Holding capacity { s.pktQueue with tail := 0 } []
    rw [← hhead]
    exact hempty

theorem inputStep (h : BufferInv capacity s pkts frees) (hok : StepsApart s .input)
    (hs : Rs.inputStep capacity s s.input = some s') :
    ∃ pkts' frees', BufferInv capacity s' pkts' frees' := by
  cases hinput : s.input with
  | idle =>
    rw [hinput] at hs
    cases hs
  | getting pc => exact h.getting hinput (hinput ▸ hs)
  | freeing pkt pc => exact h.inputFreeing hinput hok (hinput ▸ hs)
  | putting pkt pc => exact h.putting hinput (hinput ▸ hs)
  | clearing pc => exact h.clear hinput hok (hinput ▸ hs)

/-! ### The handle thread -/

/-- The handle thread goes on without a step of a queue. -/
theorem goOn (h : BufferInv capacity s pkts frees) {handle : HandleMode}
    (howned : ∀ b, handle.owned.count b ≤ s.handle.owned.count b) (hsome : none ∉ handle.owned)
    (hholds : handle.holdsHead = false) (houtside : handle.insideFree = false)
    (hat : HandleAt capacity s.pktQueue s.freePktQueue pkts frees handle)
    (hrunning : handle ≠ .faulted) :
    BufferInv capacity { s with handle := handle } pkts frees where
  pktHolding := h.pktHolding
  clearing := by
    intro hinput
    obtain ⟨hpkts, hhead, hcapacity, -⟩ := h.clearing hinput
    exact ⟨hpkts, hhead, hcapacity, hholds⟩
  freeHolding := h.freeHolding
  pktSome := h.pktSome
  handleSome := hsome
  owned := by
    intro b
    have hb := h.owned b
    have hless := howned (some b)
    simp only [ownedBy] at hb ⊢
    omega
  inputAt := h.inputAt
  handleAt := hat
  apart := .inr houtside
  running := hrunning

/-- Between the stores of a clear `popBatch` is in its loop that waits, and does
nothing to the queue. -/
theorem waits (h : BufferInv capacity s pkts frees) {timedOut : Bool} {pc : BatchPc Pointer}
    (hhandle : s.handle = .batching pc) (hinput : s.input = .clearing .storeTail)
    (hok : StepsApart s (.handle timedOut))
    (hs : handleStep capacity timedOut s (.batching pc) = some s') :
    ∃ pkts' frees', BufferInv capacity s' pkts' frees' := by
  have hfree := (h.clearing hinput).2.2.2
  have hloads := hok.1 hinput
  rw [hhandle] at hfree hloads
  have hwaiting : pc.waiting = true := by
    cases pc with
    | checkHead => rfl
    | checkTail head => rfl
    | loadHead => exact absurd rfl hloads
    | loadTail currentHead => cases hfree
    | copy currentHead realCount outBatch => cases hfree
  have still : ∀ handle : HandleMode, handle.owned = [] → handle.holdsHead = false →
      handle.insideFree = false →
      HandleAt capacity s.pktQueue s.freePktQueue pkts frees handle → handle ≠ .faulted →
      BufferInv capacity { s with handle := handle } pkts frees := by
    intro handle hnone hholds houtside hat hrunning
    refine h.goOn (fun b => ?_) ?_ hholds houtside hat hrunning
    · rw [hnone]
      exact Nat.zero_le _
    · rw [hnone]
      exact List.not_mem_nil
  rcases batch_waits hwaiting capacity 50 timedOut s.pktQueue with hret | ⟨pc', hnext, hpc'⟩
  · simp only [handleStep, hret] at hs
    obtain rfl := Option.some.inj hs
    exact ⟨pkts, frees, still (.processing []) rfl rfl rfl trivial (fun heq => by cases heq)⟩
  · simp only [handleStep, hnext] at hs
    obtain rfl := Option.some.inj hs
    cases pc' with
    | loadTail currentHead => simp [BatchPc.waiting] at hpc'
    | copy currentHead realCount outBatch => simp [BatchPc.waiting] at hpc'
    | _ => exact ⟨pkts, frees, still _ rfl rfl rfl trivial (fun heq => by cases heq)⟩

/-- A step of `popBatch` that no clear overlaps. -/
theorem batching (h : BufferInv capacity s pkts frees) {timedOut : Bool} {pc : BatchPc Pointer}
    (hhandle : s.handle = .batching pc) (hinput : s.input ≠ .clearing .storeTail)
    (hs : handleStep capacity timedOut s (.batching pc) = some s') :
    ∃ pkts' frees', BufferInv capacity s' pkts' frees' := by
  have hat := h.handleAt
  have hpkt := h.pktHolding hinput
  have howned := h.owned
  rw [hhandle] at hat
  simp only [ownedBy, hhandle, HandleMode.owned, List.count_nil] at howned
  obtain ⟨hbuffer, htail⟩ := batch_buffer capacity 50 timedOut s.pktQueue pc
  have hstep := batch_holding 50 timedOut hpkt hat
  simp only [handleStep] at hs
  cases hnext : (batchStep capacity 50 timedOut s.pktQueue pc).2 with
  | pc pc' =>
    have hat' := batch_next hpkt hat hnext
    rw [batchItems_pc hnext] at hstep hat'
    simp only [hnext] at hs
    obtain rfl := Option.some.inj hs
    exact ⟨pkts, frees, {
      pktHolding := fun _ => hstep, clearing := fun heq => absurd heq hinput
      freeHolding := h.freeHolding, pktSome := h.pktSome, handleSome := List.not_mem_nil
      owned := howned, inputAt := h.inputAt.took hbuffer htail (le_refl _), handleAt := hat'
      apart := .inr rfl, running := fun heq => (by cases heq) }⟩
  | ret batch =>
    have htaken := batch_ret hat hnext
    have hsome := h.pktSome
    rw [htaken, List.mem_append, not_or] at hsome
    have hlength : (batchItems pkts pc).length ≤ pkts.length := by
      have hsum := congrArg List.length htaken
      rw [List.length_append] at hsum
      omega
    simp only [hnext] at hs
    obtain rfl := Option.some.inj hs
    refine ⟨batchItems pkts pc, frees, {
      pktHolding := fun _ => hstep, clearing := fun heq => absurd heq hinput
      freeHolding := h.freeHolding, pktSome := hsome.2, handleSome := hsome.1, owned := ?_
      inputAt := h.inputAt.took hbuffer htail hlength, handleAt := trivial
      apart := .inr rfl, running := fun heq => (by cases heq) }⟩
    intro b
    have hb := howned b
    rw [htaken, List.count_append] at hb
    simp only [ownedBy, HandleMode.owned]
    omega

/-- A step of the handle thread that pushes a buffer back to `free_pkt_queue_`. -/
theorem handleFreeing (h : BufferInv capacity s pkts frees) {timedOut : Bool} {pkt : ℕ}
    {pc : PushPc} {batch : List Pointer} (hhandle : s.handle = .freeing pkt pc batch)
    (hok : StepsApart s (.handle timedOut))
    (hs : handleStep capacity timedOut s (.freeing pkt pc batch) = some s') :
    ∃ pkts' frees', BufferInv capacity s' pkts' frees' := by
  have hat := h.handleAt
  have howned := h.owned
  have hapart := h.apart
  have hbegin := hok.2 pkt batch
  have hsome := h.handleSome
  rw [hhandle] at hat hapart hbegin hsome
  simp only [ownedBy, hhandle, HandleMode.owned, List.count_append] at howned
  rw [HandleMode.owned, List.mem_append, not_or] at hsome
  have hfree := push_holding h.freeHolding hat
  have hinput := h.inputAt.freed (some pkt) hapart
  have hclearing : s.input = .clearing .storeTail → pkts = [] ∧ s.pktQueue.head = 0 ∧
      0 < capacity ∧ false = false := by
    intro heq
    obtain ⟨hpkts, hhead, hcapacity, -⟩ := h.clearing heq
    exact ⟨hpkts, hhead, hcapacity, rfl⟩
  simp only [handleStep] at hs
  cases hnext : (pushStep capacity (some pkt) s.freePktQueue pc).2 with
  | pc pc' =>
    have hat' := push_next h.freeHolding hat hnext
    simp only [hnext] at hs
    obtain rfl := Option.some.inj hs
    refine ⟨pkts, _, {
      pktHolding := h.pktHolding, clearing := hclearing, freeHolding := hfree
      pktSome := h.pktSome, handleSome := ?_, owned := ?_, inputAt := hinput
      handleAt := hat', apart := ?_, running := fun heq => (by cases heq) }⟩
    · rw [HandleMode.owned, List.mem_append, not_or]
      refine ⟨?_, hsome.2⟩
      split
      · simp
      · exact List.not_mem_nil
    · intro b
      have hb := howned b
      have hmove := pending_next frees hnext (some b)
      simp only [ownedBy, HandleMode.owned, List.count_append]
      omega
    · by_cases hfirst : pc = .loadTail
      · exact .inl (hbegin (by rw [hfirst]))
      · exact hapart.imp_right (inside_of_next hnext hfirst)
  | ret result =>
    rw [pushItems_ret hnext] at hfree hinput
    simp only [hnext] at hs
    obtain rfl := Option.some.inj hs
    refine ⟨pkts, frees, {
      pktHolding := h.pktHolding, clearing := hclearing, freeHolding := hfree
      pktSome := h.pktSome, handleSome := hsome.2, owned := ?_, inputAt := hinput
      handleAt := trivial, apart := .inr rfl, running := fun heq => (by cases heq) }⟩
    intro b
    have hb := howned b
    simp only [ownedBy, HandleMode.owned]
    omega

theorem handleStep (h : BufferInv capacity s pkts frees) {timedOut : Bool}
    (hok : StepsApart s (.handle timedOut))
    (hs : Rs.handleStep capacity timedOut s s.handle = some s') :
    ∃ pkts' frees', BufferInv capacity s' pkts' frees' := by
  have hsome := h.handleSome
  cases hhandle : s.handle with
  | idle =>
    rw [hhandle] at hs
    obtain rfl := Option.some.inj hs
    exact ⟨pkts, frees, h.goOn (fun _ => Nat.zero_le _) List.not_mem_nil rfl rfl trivial
      (fun heq => by cases heq)⟩
  | batching pc =>
    by_cases hinput : s.input = .clearing .storeTail
    · exact h.waits hhandle hinput hok (hhandle ▸ hs)
    · exact h.batching hhandle hinput (hhandle ▸ hs)
  | processing batch =>
    rw [hhandle] at hs hsome
    match batch with
    | [] =>
      obtain rfl := Option.some.inj hs
      exact ⟨pkts, frees, h.goOn (fun _ => Nat.zero_le _) List.not_mem_nil rfl rfl trivial
        (fun heq => by cases heq)⟩
    | none :: batch => exact absurd List.mem_cons_self hsome
    | some pkt :: batch =>
      obtain rfl := Option.some.inj hs
      refine ⟨pkts, frees, h.goOn ?_ hsome rfl rfl trivial (fun heq => by cases heq)⟩
      intro b
      rw [hhandle]
      exact le_refl _
  | freeing pkt pc batch => exact h.handleFreeing hhandle hok (hhandle ▸ hs)
  | faulted =>
    rw [hhandle] at hs
    cases hs

/-- Every step under the condition keeps the invariant. -/
theorem step (h : BufferInv capacity s pkts frees) {e : BufferEvent} (hok : StepsApart s e)
    (hs : buffersStep capacity s e = some s') :
    ∃ pkts' frees', BufferInv capacity s' pkts' frees' := by
  cases e with
  | get =>
    cases hinput : s.input with
    | idle =>
      simp only [buffersStep, hinput] at hs
      obtain rfl := Option.some.inj hs
      exact ⟨pkts, frees, h.begin hinput (fun _ => le_refl _) (fun heq => by cases heq) rfl trivial⟩
    | getting pc => simp [buffersStep, hinput] at hs
    | freeing pkt pc => simp [buffersStep, hinput] at hs
    | putting pkt pc => simp [buffersStep, hinput] at hs
    | clearing pc => simp [buffersStep, hinput] at hs
  | put pkt stuffed =>
    cases hinput : s.input with
    | idle =>
      simp only [buffersStep, hinput] at hs
      by_cases hmem : pkt ∈ s.held
      · rw [if_pos hmem] at hs
        obtain rfl := Option.some.inj hs
        have hmove : ∀ b, (s.held.erase pkt).count b + [pkt].count b ≤ s.held.count b := by
          intro b
          rw [(List.perm_cons_erase hmem).count_eq b, List.count_singleton, List.count_cons]
        cases stuffed with
        | true => exact ⟨pkts, frees, h.begin hinput hmove (fun heq => by cases heq) rfl trivial⟩
        | false => exact ⟨pkts, frees, h.begin hinput hmove (fun heq => by cases heq) rfl trivial⟩
      · rw [if_neg hmem] at hs
        cases hs
    | getting pc => simp [buffersStep, hinput] at hs
    | freeing pkt pc => simp [buffersStep, hinput] at hs
    | putting pkt pc => simp [buffersStep, hinput] at hs
    | clearing pc => simp [buffersStep, hinput] at hs
  | drop pkt =>
    cases hinput : s.input with
    | idle =>
      simp only [buffersStep, hinput] at hs
      obtain rfl := Option.some.inj hs
      have hless : ∀ b, (s.held.erase pkt).count b ≤ s.held.count b := fun b =>
        List.Sublist.count_le b List.erase_sublist
      exact ⟨pkts, frees, h.begin hinput hless (fun heq => by cases heq) rfl trivial⟩
    | getting pc => simp [buffersStep, hinput] at hs
    | freeing pkt pc => simp [buffersStep, hinput] at hs
    | putting pkt pc => simp [buffersStep, hinput] at hs
    | clearing pc => simp [buffersStep, hinput] at hs
  | input => exact h.inputStep hok hs
  | handle timedOut => exact h.handleStep hok hs

/-- No buffer is owned twice. -/
theorem ownerCount_le (h : BufferInv capacity s pkts frees) (b : ℕ) :
    ownerCount capacity s b ≤ 1 := by
  have hqueued : queued capacity s = pkts := by
    unfold queued
    by_cases hinput : s.input = .clearing .storeTail
    · rw [if_pos hinput, (h.clearing hinput).1]
    · rw [if_neg hinput, (h.pktHolding hinput).unread_eq]
  have hb := h.owned b
  unfold ownerCount
  rw [hqueued, h.freeHolding.unread_eq]
  split at hb <;> omega

end BufferInv

/-! ### Exclusive ownership -/

/-- **A buffer has one owner.** In every run in which the clear and the handle
thread, and the pushes to `free_pkt_queue_`, do not overlap: at most one of the
two threads and the two queues owns a buffer, so that what the input thread holds
is neither queued for decoding nor being decoded, and the handle thread meets no
null pointer. -/
theorem buffers_exclusive {capacity : ℕ} (hcapacity : 0 < capacity)
    {tr : List (Buffers × BufferEvent)} {s : Buffers}
    (h : Run (buffersStep capacity) StepsApart .init tr s) :
    (∀ b, ownerCount capacity s b ≤ 1) ∧
      (∀ b ∈ s.held, some b ∉ queued capacity s ∧ some b ∉ s.handle.owned) ∧
      s.handle ≠ .faulted := by
  have hinv : ∃ pkts frees, BufferInv capacity s pkts frees := by
    apply h.invariant
    · exact ⟨[], [], BufferInv.init hcapacity⟩
    · intro tr s e s' ih hok hs
      obtain ⟨pkts, frees, hinv⟩ := ih
      exact hinv.step hok hs
  obtain ⟨pkts, frees, hinv⟩ := hinv
  refine ⟨hinv.ownerCount_le, ?_, hinv.running⟩
  intro b hheld
  have hone := hinv.ownerCount_le b
  have hpos : 0 < s.held.count b := List.count_pos_iff.mpr hheld
  simp only [ownerCount, ownedBy] at hone
  constructor
  · exact List.count_eq_zero.mp (by omega)
  · exact List.count_eq_zero.mp (by omega)

/-- Do the threads not overlap in an event? -/
def stepsApart (s : Buffers) : BufferEvent → Bool
  | .input =>
    match s.input with
    | .clearing _ => !s.handle.holdsHead
    | .freeing _ .loadTail => !s.handle.insideFree
    | _ => true
  | .handle _ =>
    (s.input ≠ .clearing .storeTail || s.handle ≠ .batching .loadHead) &&
      match s.handle with
      | .freeing _ .loadTail _ => !s.input.insideFree
      | _ => true
  | _ => true

theorem stepsApart_sound (s : Buffers) (e : BufferEvent) (h : stepsApart s e = true) :
    StepsApart s e := by
  cases e with
  | input =>
    constructor
    · intro pc hinput
      simpa [stepsApart, hinput] using h
    · intro pkt hinput
      simpa [stepsApart, hinput] using h
  | handle timedOut =>
    obtain ⟨hclear, hpush⟩ := (Bool.and_eq_true _ _).mp h
    constructor
    · intro hinput
      simpa [hinput] using hclear
    · intro pkt batch hhandle
      simpa [hhandle] using hpush
  | get => trivial
  | put pkt stuffed => trivial
  | drop pkt => trivial

/-- A call of `packetGet` that makes a buffer. -/
def getCall : List BufferEvent := .get :: List.replicate 2 .input

/-- A call of `packetPut` with a stuffed buffer that finds room. -/
def putCall (pkt : ℕ) : List BufferEvent := .put pkt true :: List.replicate 6 .input

/-- A call of `packetPut` with a stuffed buffer that finds none. -/
def overflowPut (pkt : ℕ) : List BufferEvent := .put pkt true :: List.replicate 4 .input

theorem buffers_exclusive_reuse : ∃ tr s, Run (buffersStep 2) StepsApart .init tr s ∧
    s.held = [2] ∧ s.created = 3 ∧ ∀ b, ownerCount 2 s b ≤ 1 := by
  have hup : (exec (fun s e => if stepsApart s e then buffersStep 2 s e else none) .init
      (getCall ++ putCall 0 ++ getCall ++ overflowPut 1 ++ getCall ++ putCall 2 ++
        List.replicate 14 (.handle false) ++ .get :: List.replicate 4 .input)).map
        (fun s => decide (s.held = [2] ∧ s.created = 3)) = some true := by
    decide +kernel
  obtain ⟨s, hs, hstate⟩ := Option.map_eq_some_iff.mp hup
  simp only [decide_eq_true_eq] at hstate
  obtain ⟨tr, -, hrun⟩ := Run.of_exec_test stepsApart_sound hs
  exact ⟨tr, s, hrun, hstate.1, hstate.2, (buffers_exclusive (by decide) hrun).1⟩

/-! ### A clear in the middle of a batch -/

/-- A new buffer is made when no buffer is free. -/
theorem exec_getCall (hinput : s.input = .idle) (hfree : s.freePktQueue.head = s.freePktQueue.tail) :
    exec (buffersStep capacity) s getCall = some { s with
      held := s.held ++ [s.created], created := s.created + 1 } := by
  have hs : s = { s with input := .idle } := by rw [← hinput]
  simp only [getCall, List.replicate, exec_cons, buffersStep, hinput, inputStep, popStep,
    if_pos hfree, Option.bind_some]
  rw [hs]
  rfl

/-- A put that finds room. -/
theorem exec_putCall (hinput : s.input = .idle) {pkt : ℕ} (hheld : s.held = [pkt])
    (hroom : (s.pktQueue.tail + 1) % capacity ≠ s.pktQueue.head) :
    exec (buffersStep capacity) s (putCall pkt) = some { s with
      pktQueue := ⟨Function.update s.pktQueue.buffer s.pktQueue.tail (some pkt), s.pktQueue.head,
        (s.pktQueue.tail + 1) % capacity⟩
      held := [] } := by
  have hs : s = { s with input := .idle, held := [pkt] } := by rw [← hinput, ← hheld]
  rw [hs]
  simp [putCall, List.replicate, exec, buffersStep, inputStep, pushStep, hroom]

/-- A put that finds none clears the queue. -/
theorem exec_overflowPut (hinput : s.input = .idle) {pkt : ℕ} (hheld : s.held = [pkt])
    (hfull : (s.pktQueue.tail + 1) % capacity = s.pktQueue.head) :
    exec (buffersStep capacity) s (overflowPut pkt) = some { s with
      pktQueue := ⟨s.pktQueue.buffer, 0, 0⟩, held := [] } := by
  have hs : s = { s with input := .idle, held := [pkt] } := by rw [← hinput, ← hheld]
  rw [hs]
  simp [overflowPut, List.replicate, exec, buffersStep, inputStep, pushStep, clearStep, hfull]

/-- Puts of new buffers fill the slots behind the tail up to the end of the ring. -/
theorem exec_puts (capacity : ℕ) : ∀ (n : ℕ) (s : Buffers), s.input = .idle → s.held = [] →
    s.freePktQueue.head = s.freePktQueue.tail → s.pktQueue.head = 0 →
    s.pktQueue.tail + n < capacity →
    ∃ es s', exec (buffersStep capacity) s es = some s' ∧ s'.input = .idle ∧ s'.held = [] ∧
      s'.freePktQueue = s.freePktQueue ∧ s'.handle = s.handle ∧ s'.pktQueue.head = 0 ∧
      s'.pktQueue.tail = s.pktQueue.tail + n
  | 0, s, hinput, hheld, _, hhead, _ => ⟨[], s, rfl, hinput, hheld, rfl, rfl, hhead, rfl⟩
  | n + 1, s, hinput, hheld, hfree, hhead, hroom => by
    have hnext : (s.pktQueue.tail + 1) % capacity = s.pktQueue.tail + 1 :=
      Nat.mod_eq_of_lt (by omega)
    have hne : (s.pktQueue.tail + 1) % capacity ≠ s.pktQueue.head := by
      rw [hnext, hhead]
      exact Nat.succ_ne_zero _
    have hget : exec (buffersStep capacity) s getCall = some { s with
        held := s.held ++ [s.created], created := s.created + 1 } := exec_getCall hinput hfree
    have hput := exec_putCall (s := { s with
      held := s.held ++ [s.created], created := s.created + 1 }) hinput
      (show s.held ++ [s.created] = [s.created] by rw [hheld]; rfl) hne
    obtain ⟨es, s', hes, hinput', hheld', hfree', hhandle', hhead', htail'⟩ :=
      exec_puts capacity n { s with
        pktQueue := ⟨Function.update s.pktQueue.buffer s.pktQueue.tail (some s.created),
          s.pktQueue.head, (s.pktQueue.tail + 1) % capacity⟩
        held := [], created := s.created + 1 } hinput rfl hfree hhead
        (show (s.pktQueue.tail + 1) % capacity + n < capacity by omega)
    refine ⟨getCall ++ (putCall s.created ++ es), s', exec_append hget (exec_append hput hes),
      hinput', hheld', hfree', hhandle', hhead', ?_⟩
    change s'.pktQueue.tail = (s.pktQueue.tail + 1) % capacity + n at htail'
    omega

/-- A batch of two is copied and the head stored. -/
theorem exec_handleBatch (hcapacity : 1 < capacity) (hhandle : s.handle = .batching (.copy 0 2 [])) :
    exec (buffersStep capacity) s (List.replicate 3 (.handle false)) = some { s with
      pktQueue := { s.pktQueue with head := 2 % capacity }
      handle := .processing [s.pktQueue.buffer 0, s.pktQueue.buffer 1] } := by
  have hone : 1 % capacity = 1 := Nat.mod_eq_of_lt hcapacity
  simp [List.replicate, buffersStep, hhandle, handleStep, batchStep, hone, exec]

theorem mem_unread {i k : ℕ} {v : Pointer} (hi : i < usedSize capacity q.head q.tail)
    (hk : (q.head + i) % capacity = k) (hv : q.buffer k = v) : v ∈ unread capacity q := by
  unfold unread
  rw [← hv, ← hk]
  exact List.mem_map_of_mem (List.mem_range.mpr hi)

/-- A buffer of the handle thread that is still queued has two owners. -/
theorem two_le_ownerCount {b : ℕ} (hhandle : some b ∈ s.handle.owned)
    (hqueued : some b ∈ queued capacity s) : 2 ≤ ownerCount capacity s b := by
  have howned := List.count_pos_iff.mpr hhandle
  have hunread := List.count_pos_iff.mpr hqueued
  unfold ownerCount ownedBy
  omega

/-- **A clear in the middle of a batch shares a buffer.** The handle thread has
loaded the indices for a batch of two when the input thread finds the queue full,
clears it and puts one more buffer: the handle thread takes that buffer and moves
the head beyond the new tail, so that the buffer is still queued. -/
theorem buffers_shared : ∃ tr s b,
    Run (buffersStep defaultCapacity) (fun _ _ => True) .init tr s ∧
      2 ≤ ownerCount defaultCapacity s b := by
  have hbegin : (exec (buffersStep defaultCapacity) .init
      (getCall ++ putCall 0 ++ getCall ++ putCall 1 ++ List.replicate 5 (.handle false))).map
        (fun s => decide (s.input = .idle ∧ s.held = [] ∧
          s.freePktQueue.head = s.freePktQueue.tail ∧ s.pktQueue.head = 0 ∧ s.pktQueue.tail = 2 ∧
          s.handle = .batching (.copy 0 2 []))) = some true := by
    decide +kernel
  obtain ⟨s₁, h₁, hstate⟩ := Option.map_eq_some_iff.mp hbegin
  simp only [decide_eq_true_eq] at hstate
  obtain ⟨hinput, hheld, hfree, hhead, htail, hhandle⟩ := hstate
  -- the queue is filled behind the two buffers
  have hroom : s₁.pktQueue.tail + 102397 < defaultCapacity := by
    rw [htail]
    decide
  obtain ⟨es₂, s₂, h₂, hinput₂, hheld₂, hfree₂, hhandle₂, hhead₂, htail₂⟩ :=
    exec_puts defaultCapacity 102397 s₁ hinput hheld hfree hhead hroom
  have hnone₂ : s₂.freePktQueue.head = s₂.freePktQueue.tail := by rw [hfree₂, hfree]
  have hfull : (s₂.pktQueue.tail + 1) % defaultCapacity = s₂.pktQueue.head := by
    rw [htail₂, htail, hhead₂]
    rfl
  have hone : ∀ b, s₂.held ++ [b] = [b] := by
    intro b
    rw [hheld₂]
    rfl
  have h₃ : exec (buffersStep defaultCapacity) s₂ getCall = some _ := exec_getCall hinput₂ hnone₂
  rw [hone] at h₃
  have h₄ := exec_overflowPut (s := { s₂ with
    held := [s₂.created], created := s₂.created + 1 }) hinput₂ rfl hfull
  -- one more buffer is put in slot 0
  have h₅ : exec (buffersStep defaultCapacity) { s₂ with
    pktQueue := ⟨s₂.pktQueue.buffer, 0, 0⟩, held := [], created := s₂.created + 1 } getCall =
      some _ := exec_getCall hinput₂ hnone₂
  have h₆ := exec_putCall (s := { s₂ with
    pktQueue := ⟨s₂.pktQueue.buffer, 0, 0⟩, held := [s₂.created + 1]
    created := s₂.created + 1 + 1 }) hinput₂ rfl (show (0 + 1) % defaultCapacity ≠ 0 by decide)
  have h₇ := exec_handleBatch (s := { s₂ with
    pktQueue := ⟨Function.update s₂.pktQueue.buffer 0 (some (s₂.created + 1)), 0,
      (0 + 1) % defaultCapacity⟩
    held := [], created := s₂.created + 1 + 1 }) (show 1 < defaultCapacity by decide)
    (hhandle₂.trans hhandle)
  obtain ⟨tr, -, hrun⟩ := Run.of_exec (exec_append h₁ (exec_append h₂ (exec_append h₃
    (exec_append h₄ (exec_append h₅ (exec_append h₆ h₇))))))
  have hslot : Function.update s₂.pktQueue.buffer 0 (some (s₂.created + 1)) 0 =
      some (s₂.created + 1) := Function.update_self _ _ _
  refine ⟨tr, _, s₂.created + 1, hrun, two_le_ownerCount ?_ ?_⟩
  · exact List.mem_cons.mpr (.inl hslot.symm)
  · -- the slots from 2 up to the end of the ring, and slot 0 again
    have hidle : s₂.input ≠ .clearing .storeTail := by
      rw [hinput₂]
      intro heq
      cases heq
    unfold queued
    rw [if_neg hidle]
    have hlast : (2 % defaultCapacity + 102398) % defaultCapacity = 0 := by decide
    exact mem_unread (show 102398 < usedSize defaultCapacity (2 % defaultCapacity)
      ((0 + 1) % defaultCapacity) by decide) hlast hslot

end Rs
end SensorSupport
