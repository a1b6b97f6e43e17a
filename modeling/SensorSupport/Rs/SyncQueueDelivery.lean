/-
# Delivery through the packet queue under overflow

One producer pushes, and clears the queue when a push finds it full, as
`packetPut` does; one consumer pops. The elements are numbered by the pushes that
were accepted, so that "at most once and in order" is a statement about numbers.

As long as no store of `clear` comes between the consumer's load of the head and
its store of the head, and the consumer does not load the head between the two
stores of `clear`, what was delivered and then what is queued are numbers that
grow (`ChannelInv`). Otherwise the consumer copies slots that were written anew
and moves the head of a queue that is no longer the one it looked at
(`syncQueue_reorders`).

Key definitions: `Channel`, `channelStep`, `ClearsAlone`, `ChannelInv`.
Key theorems: `syncQueue_delivery`, `syncQueue_reorders`.
-/
import SensorSupport.Lib.Run
import SensorSupport.Rs.SyncQueue

namespace SensorSupport
namespace Rs

variable {T : Type}

/-- An element with the number of its push, or `none` for the default value. -/
abbrev Pushed (T : Type) := Option (ℕ × T)

/-- The element of an accepted push. -/
def element (accepted : List T) (k : ℕ) : Pushed T := accepted[k]?.map fun value => (k, value)

/-- What the producer does. -/
inductive Producer (T : Type)
  | idle
  | pushing (value : T) (pc : PushPc)
  | clearing (pc : ClearPc)
deriving DecidableEq

/-- What the consumer does. -/
inductive Consumer (T : Type)
  | idle
  | popping (pc : PopPc (Pushed T))
  | batching (maxCount : ℕ) (pc : BatchPc (Pushed T))
deriving DecidableEq

/-- The queue and its two threads, with the values accepted, the elements
delivered, and the elements that were queued when a clear began. -/
structure Channel (T : Type) where
  queue : SyncQueue (Pushed T)
  producer : Producer T
  consumer : Consumer T
  accepted : List T
  delivered : List (Pushed T)
  cleared : List (Pushed T)

/-- At the start. -/
def Channel.init : Channel T := ⟨.init, .idle, .idle, [], [], []⟩

/-- A call begins, or a thread takes a step of its call. -/
inductive ChannelEvent (T : Type)
  | push (value : T)
  | producer
  | pop
  | popBatch (maxCount : ℕ)
  | consumer (timedOut : Bool)

/-- A step of the producer. A push that returns -1 is followed by `clear`. -/
def producerStep (capacity : ℕ) (s : Channel T) : Producer T → Option (Channel T)
  | .idle => none
  | .pushing value pc =>
    let r := pushStep capacity (some (s.accepted.length, value)) s.queue pc
    some { s with
      queue := r.1
      accepted := pushItems value s.accepted pc
      producer :=
        match r.2 with
        | .pc pc' => .pushing value pc'
        | .ret none => .clearing .storeHead
        | .ret (some _) => .idle }
  | .clearing pc =>
    let r := clearStep s.queue pc
    some { s with
      queue := r.1
      cleared := if pc = .storeHead then s.cleared ++ unread capacity s.queue else s.cleared
      producer :=
        match r.2 with
        | .pc pc' => .clearing pc'
        | .ret () => .idle }

/-- A step of the consumer. -/
def consumerStep (capacity : ℕ) (timedOut : Bool) (s : Channel T) :
    Consumer T → Option (Channel T)
  | .idle => none
  | .popping pc =>
    let r := popStep capacity s.queue pc
    match r.2 with
    | .pc pc' => some { s with queue := r.1, consumer := .popping pc' }
    | .ret result => some { s with
        queue := r.1, consumer := .idle, delivered := s.delivered ++ result.toList }
  | .batching maxCount pc =>
    let r := batchStep capacity maxCount timedOut s.queue pc
    match r.2 with
    | .pc pc' => some { s with queue := r.1, consumer := .batching maxCount pc' }
    | .ret outBatch => some { s with
        queue := r.1, consumer := .idle, delivered := s.delivered ++ outBatch }

/-- One event. -/
def channelStep (capacity : ℕ) (s : Channel T) : ChannelEvent T → Option (Channel T)
  | .push value =>
    match s.producer with
    | .idle => some { s with producer := .pushing value .loadTail }
    | _ => none
  | .producer => producerStep capacity s s.producer
  | .pop =>
    match s.consumer with
    | .idle => some { s with consumer := .popping .loadHead }
    | _ => none
  | .popBatch maxCount =>
    match s.consumer with
    | .idle => some { s with consumer := .batching maxCount .checkHead }
    | _ => none
  | .consumer timedOut => consumerStep capacity timedOut s s.consumer

/-! ### The condition -/

/-- Is the consumer between its load of the head and its store of the head? -/
def Consumer.holdsHead : Consumer T → Bool
  | .popping .loadHead => false
  | .popping _ => true
  | .batching _ (.loadTail _) => true
  | .batching _ (.copy _ _ _) => true
  | _ => false

/-- Is the consumer about to load the head it will pop from? -/
def Consumer.loadsHead : Consumer T → Bool
  | .popping .loadHead => true
  | .batching _ .loadHead => true
  | _ => false

/-- No store of `clear` comes between the consumer's load of the head and its
store of the head, and that load does not come between the stores of `clear`. -/
def ClearsAlone (s : Channel T) : ChannelEvent T → Prop
  | .producer => ∀ pc, s.producer = .clearing pc → s.consumer.holdsHead = false
  | .consumer _ => s.producer = .clearing .storeTail → s.consumer.loadsHead = false
  | _ => True

/-! ### The invariant -/

/-- What holds at the program counter of the producer. -/
def ProducerAt (capacity : ℕ) (s : Channel T) (items : List (Pushed T)) : Prop :=
  ∀ value pc, s.producer = .pushing value pc →
    PushAt capacity s.queue items (some (s.accepted.length, value)) pc

/-- What holds at the program counter of the consumer. -/
def ConsumerAt (q : SyncQueue (Pushed T)) (items : List (Pushed T)) : Consumer T → Prop
  | .idle => True
  | .popping pc => PopAt q items pc
  | .batching _ pc => BatchAt q items pc

/-- What was delivered and then what is queued are accepted elements in the order
of their pushes; the others were queued at a clear. Between the stores of a clear
nothing counts as queued. -/
structure ChannelInv (capacity : ℕ) (s : Channel T) (done ids : List ℕ) : Prop where
  delivered : s.delivered = done.map (element s.accepted)
  ordered : (done ++ ids).Pairwise (· < ·)
  accepted : ∀ k ∈ done ++ ids, k < s.accepted.length
  covered : ∀ k < s.accepted.length, k ∈ done ∨ k ∈ ids ∨ element s.accepted k ∈ s.cleared
  holding : s.producer ≠ .clearing .storeTail →
    Holding capacity s.queue (ids.map (element s.accepted))
  clearing : s.producer = .clearing .storeTail → ids = [] ∧ s.queue.head = 0 ∧ 0 < capacity ∧
    s.consumer.holdsHead = false
  producer : ProducerAt capacity s (ids.map (element s.accepted))
  consumer : ConsumerAt s.queue (ids.map (element s.accepted)) s.consumer

/-! ### Elements -/

variable {capacity : ℕ} {s s' : Channel T} {done ids : List ℕ}

theorem element_append {accepted : List T} {k : ℕ} (h : k < accepted.length) (more : List T) :
    element (accepted ++ more) k = element accepted k := by
  unfold element
  rw [List.getElem?_append_left h]

/-- More accepted values leave the elements of the others alone. -/
theorem map_element_append {accepted : List T} {ks : List ℕ} (h : ∀ k ∈ ks, k < accepted.length)
    (more : List T) : ks.map (element (accepted ++ more)) = ks.map (element accepted) :=
  List.map_congr_left fun k hk => element_append (h k hk) more

theorem element_concat (accepted : List T) (value : T) :
    element (accepted ++ [value]) accepted.length = some (accepted.length, value) := by
  simp [element]

/-- A consumer that holds no head relies on nothing. -/
theorem consumerAt_of_free {q : SyncQueue (Pushed T)} {items : List (Pushed T)}
    {c : Consumer T} (h : c.holdsHead = false) : ConsumerAt q items c := by
  cases c with
  | idle => trivial
  | popping pc => cases pc <;> trivial
  | batching maxCount pc => cases pc <;> trivial

/-- A push does not disturb the consumer. -/
theorem ConsumerAt.frame {q q' : SyncQueue (Pushed T)} {items : List (Pushed T)}
    {c : Consumer T} (h : ConsumerAt q items c) (hhead : q'.head = q.head)
    (rest : List (Pushed T)) : ConsumerAt q' (items ++ rest) c := by
  cases c with
  | idle => trivial
  | popping pc => exact PopAt.frame h hhead
  | batching maxCount pc => exact BatchAt.frame h hhead

namespace ChannelInv

theorem init (hcapacity : 0 < capacity) : ChannelInv capacity (.init : Channel T) [] [] where
  delivered := rfl
  ordered := .nil
  accepted := by simp
  covered := by simp [Channel.init]
  holding := fun _ => Holding.init hcapacity
  clearing := by simp [Channel.init]
  producer := by simp [ProducerAt, Channel.init]
  consumer := trivial

/-! ### The producer -/

/-- A step of a push that is not its store of the tail. -/
theorem push (h : ChannelInv capacity s done ids) {value : T} {pc : PushPc}
    (hproducer : s.producer = .pushing value pc)
    (hquiet : ∀ (U : Type) (v : U) (us : List U), pushItems v us pc = us)
    (hs : producerStep capacity s (.pushing value pc) = some s') :
    ChannelInv capacity s' done ids := by
  have hholding := h.holding (by simp [hproducer])
  have hpc := h.producer value pc hproducer
  have hstep := push_holding hholding hpc
  have hhead : (pushStep capacity (some (s.accepted.length, value)) s.queue pc).1.head =
      s.queue.head := push_head pc
  rw [hquiet] at hstep
  simp only [producerStep, hquiet, Option.some.injEq] at hs
  subst hs
  refine {
    delivered := h.delivered, ordered := h.ordered, accepted := h.accepted
    covered := h.covered, holding := fun _ => hstep, clearing := ?_, producer := ?_
    consumer := ?_ }
  · intro hclearing
    exfalso
    simp only at hclearing
    split at hclearing <;> cases hclearing
  · intro value' pc' hpushing
    simp only at hpushing
    split at hpushing
    · rename_i pc'' hpc''
      obtain ⟨rfl, rfl⟩ := Producer.pushing.inj hpushing
      have hnext := push_next hholding hpc hpc''
      rwa [hquiet] at hnext
    · cases hpushing
    · cases hpushing
  · have := h.consumer.frame hhead []
    rwa [List.append_nil] at this

/-- The store of the tail accepts the value. -/
theorem accept (h : ChannelInv capacity s done ids) {value : T} {currentTail : ℕ}
    (hproducer : s.producer = .pushing value (.storeTail currentTail))
    (hs : producerStep capacity s (.pushing value (.storeTail currentTail)) = some s') :
    ChannelInv capacity s' done (ids ++ [s.accepted.length]) := by
  have hholding := h.holding (by simp [hproducer])
  have hpc := h.producer value _ hproducer
  have hstep := push_holding hholding hpc
  obtain rfl := Option.some.inj hs
  have hdone : ∀ k ∈ done, k < s.accepted.length := fun k hk =>
    h.accepted k (List.mem_append_left _ hk)
  have hids : ∀ k ∈ ids, k < s.accepted.length := fun k hk =>
    h.accepted k (List.mem_append_right _ hk)
  have hitems : (ids ++ [s.accepted.length]).map (element (s.accepted ++ [value])) =
      ids.map (element s.accepted) ++ [some (s.accepted.length, value)] := by
    rw [List.map_append, map_element_append hids, List.map_singleton, element_concat]
  refine {
    delivered := ?_, ordered := ?_, accepted := ?_, covered := ?_, holding := fun _ => ?_
    clearing := ?_, producer := ?_, consumer := ?_ }
  · change s.delivered = done.map (element (s.accepted ++ [value]))
    rw [map_element_append hdone]
    exact h.delivered
  · rw [← List.append_assoc, List.pairwise_append]
    refine ⟨h.ordered, List.pairwise_singleton _ _, ?_⟩
    intro k hk k' hk'
    rw [List.mem_singleton.mp hk']
    exact h.accepted k hk
  · intro k hk
    change k < (s.accepted ++ [value]).length
    rw [List.length_append, List.length_singleton]
    rw [← List.append_assoc] at hk
    rcases List.mem_append.mp hk with hk | hk
    · exact Nat.lt_succ_of_lt (h.accepted k hk)
    · rw [List.mem_singleton.mp hk]
      exact Nat.lt_succ_self _
  · intro k hk
    change k < (s.accepted ++ [value]).length at hk
    rw [List.length_append, List.length_singleton] at hk
    rcases Nat.lt_succ_iff_lt_or_eq.mp hk with hlt | rfl
    · rcases h.covered k hlt with hin | hin | hin
      · exact .inl hin
      · exact .inr (.inl (List.mem_append_left _ hin))
      · right; right
        change element (s.accepted ++ [value]) k ∈ s.cleared
        rwa [element_append hlt]
    · exact .inr (.inl (by simp))
  · change Holding capacity _ ((ids ++ [s.accepted.length]).map (element (s.accepted ++ [value])))
    rw [hitems]
    exact hstep
  · intro hclearing
    cases hclearing
  · intro value' pc' hpushing
    obtain ⟨rfl, rfl⟩ := Producer.pushing.inj hpushing
    trivial
  · change ConsumerAt _ ((ids ++ [s.accepted.length]).map (element (s.accepted ++ [value]))) _
    rw [hitems]
    exact h.consumer.frame rfl _

/-- The first store of a clear: what is queued is given up. -/
theorem clearHead (h : ChannelInv capacity s done ids)
    (hproducer : s.producer = .clearing .storeHead) (hfree : s.consumer.holdsHead = false)
    (hs : producerStep capacity s (.clearing .storeHead) = some s') :
    ChannelInv capacity s' done [] := by
  have hholding := h.holding (by simp [hproducer])
  have hcapacity : 0 < capacity := Nat.zero_lt_of_lt hholding.room
  obtain rfl := Option.some.inj hs
  refine {
    delivered := h.delivered, ordered := ?_, accepted := ?_, covered := ?_
    holding := fun hne => absurd rfl hne, clearing := fun _ => ⟨rfl, rfl, hcapacity, hfree⟩
    producer := ?_, consumer := consumerAt_of_free hfree }
  · rw [List.append_nil]
    exact (List.pairwise_append.mp h.ordered).1
  · intro k hk
    rw [List.append_nil] at hk
    exact h.accepted k (List.mem_append_left _ hk)
  · intro k hk
    rcases h.covered k hk with hin | hin | hin
    · exact .inl hin
    · right; right
      change element s.accepted k ∈ s.cleared ++ unread capacity s.queue
      rw [hholding.unread_eq]
      exact List.mem_append_right _ (List.mem_map_of_mem hin)
    · exact .inr (.inr (List.mem_append_left _ hin))
  · intro value pc hpushing
    cases hpushing

/-- The second store of a clear: the queue is empty. -/
theorem clearTail (h : ChannelInv capacity s done ids)
    (hproducer : s.producer = .clearing .storeTail)
    (hs : producerStep capacity s (.clearing .storeTail) = some s') :
    ChannelInv capacity s' done ids := by
  obtain ⟨rfl, hhead, hcapacity, hfree⟩ := h.clearing hproducer
  obtain rfl := Option.some.inj hs
  refine {
    delivered := h.delivered, ordered := h.ordered, accepted := h.accepted, covered := h.covered
    holding := fun _ => ?_, clearing := fun hne => (by cases hne), producer := ?_
    consumer := consumerAt_of_free hfree }
  · change Holding capacity { s.queue with tail := 0 } []
    rw [← hhead]
    have := Holding.empty hcapacity s.queue.buffer
    rwa [← hhead] at this
  · intro value pc hpushing
    cases hpushing

theorem producerStep (h : ChannelInv capacity s done ids)
    (hclear : ClearsAlone s (.producer : ChannelEvent T))
    (hs : Rs.producerStep capacity s s.producer = some s') :
    ∃ done' ids', ChannelInv capacity s' done' ids' := by
  cases hproducer : s.producer with
  | idle =>
    rw [hproducer] at hs
    cases hs
  | pushing value pc =>
    rw [hproducer] at hs
    cases pc with
    | storeTail currentTail => exact ⟨_, _, h.accept hproducer hs⟩
    | loadTail => exact ⟨_, _, h.push hproducer (fun _ _ _ => rfl) hs⟩
    | loadHead currentTail => exact ⟨_, _, h.push hproducer (fun _ _ _ => rfl) hs⟩
    | storeSlot currentTail => exact ⟨_, _, h.push hproducer (fun _ _ _ => rfl) hs⟩
    | sizeHead => exact ⟨_, _, h.push hproducer (fun _ _ _ => rfl) hs⟩
    | sizeTail head => exact ⟨_, _, h.push hproducer (fun _ _ _ => rfl) hs⟩
  | clearing pc =>
    rw [hproducer] at hs
    cases pc with
    | storeHead => exact ⟨_, _, h.clearHead hproducer (hclear _ hproducer) hs⟩
    | storeTail => exact ⟨_, _, h.clearTail hproducer hs⟩

/-! ### The consumer -/

/-- A step of the consumer that goes on: nothing was taken. -/
theorem goOn (h : ChannelInv capacity s done ids) {q : SyncQueue (Pushed T)}
    {consumer : Consumer T} (hbuffer : q.buffer = s.queue.buffer) (htail : q.tail = s.queue.tail)
    (hholding : s.producer ≠ .clearing .storeTail →
      Holding capacity q (ids.map (element s.accepted)))
    (hclearing : s.producer = .clearing .storeTail →
      q.head = s.queue.head ∧ consumer.holdsHead = false)
    (hconsumer : ConsumerAt q (ids.map (element s.accepted)) consumer) :
    ChannelInv capacity { s with queue := q, consumer := consumer } done ids where
  delivered := h.delivered
  ordered := h.ordered
  accepted := h.accepted
  covered := h.covered
  holding := hholding
  clearing := by
    intro hclear
    obtain ⟨hids, hhead, hcapacity, -⟩ := h.clearing hclear
    obtain ⟨hsame, hfree⟩ := hclearing hclear
    exact ⟨hids, hsame.trans hhead, hcapacity, hfree⟩
  producer := fun value pc hpushing =>
    (h.producer value pc hpushing).frame hbuffer htail (le_refl _)
  consumer := hconsumer

/-- A call of the consumer returns what it took from the front. -/
theorem took (h : ChannelInv capacity s done ids) {q : SyncQueue (Pushed T)}
    {result items' : List (Pushed T)} (hbuffer : q.buffer = s.queue.buffer)
    (htail : q.tail = s.queue.tail) (hclearing : s.producer ≠ .clearing .storeTail)
    (hholding : Holding capacity q items')
    (hresult : ids.map (element s.accepted) = result ++ items') :
    ∃ done' ids', ChannelInv capacity
      { s with queue := q, consumer := .idle, delivered := s.delivered ++ result } done' ids' := by
  obtain ⟨taken, left, rfl, rfl, rfl⟩ := List.map_eq_append_iff.mp hresult
  refine ⟨done ++ taken, left, ?_⟩
  refine {
    delivered := ?_, ordered := ?_, accepted := ?_, covered := ?_, holding := fun _ => hholding
    clearing := fun hclear => absurd hclear hclearing, producer := ?_, consumer := trivial }
  · change s.delivered ++ _ = _
    rw [h.delivered, List.map_append]
  · rw [List.append_assoc]
    exact h.ordered
  · rw [List.append_assoc]
    exact h.accepted
  · intro k hk
    rcases h.covered k hk with hin | hin | hin
    · exact .inl (List.mem_append_left _ hin)
    · rcases List.mem_append.mp hin with hin | hin
      · exact .inl (List.mem_append_right _ hin)
      · exact .inr (.inl hin)
    · exact .inr (.inr hin)
  · intro value pc hpushing
    apply (h.producer value pc hpushing).frame hbuffer htail
    rw [List.length_map, List.length_map, List.length_append]
    omega

/-- Between the stores of a clear `popBatch` is in its loop that waits, and does
nothing to the queue. -/
theorem waits (h : ChannelInv capacity s done ids) {timedOut : Bool} {maxCount : ℕ}
    {pc : BatchPc (Pushed T)} (hclear : ClearsAlone s (.consumer timedOut : ChannelEvent T))
    (hconsumer : s.consumer = .batching maxCount pc)
    (hclearing : s.producer = .clearing .storeTail)
    (hs : Rs.consumerStep capacity timedOut s (.batching maxCount pc) = some s') :
    ∃ done' ids', ChannelInv capacity s' done' ids' := by
  have hfree := (h.clearing hclearing).2.2.2
  have hloads := hclear hclearing
  rw [hconsumer] at hfree hloads
  have hwaiting : pc.waiting = true := by
    cases pc with
    | checkHead => rfl
    | checkTail head => rfl
    | loadHead => cases hloads
    | loadTail currentHead => cases hfree
    | copy currentHead realCount outBatch => cases hfree
  have still : ∀ consumer : Consumer T, consumer.holdsHead = false →
      ChannelInv capacity { s with consumer := consumer } done ids := by
    intro consumer hconsumer
    exact h.goOn rfl rfl h.holding (fun _ => ⟨rfl, hconsumer⟩) (consumerAt_of_free hconsumer)
  rcases batch_waits hwaiting capacity maxCount timedOut s.queue with hret | ⟨pc', hnext, hpc'⟩
  · simp only [Rs.consumerStep, hret, List.append_nil] at hs
    obtain rfl := Option.some.inj hs
    exact ⟨done, ids, still .idle rfl⟩
  · simp only [Rs.consumerStep, hnext] at hs
    obtain rfl := Option.some.inj hs
    refine ⟨done, ids, still (.batching maxCount pc') ?_⟩
    cases pc' with
    | loadTail currentHead => simp [BatchPc.waiting] at hpc'
    | copy currentHead realCount outBatch => simp [BatchPc.waiting] at hpc'
    | _ => rfl

theorem consumerStep (h : ChannelInv capacity s done ids) {timedOut : Bool}
    (hclear : ClearsAlone s (.consumer timedOut : ChannelEvent T))
    (hs : Rs.consumerStep capacity timedOut s s.consumer = some s') :
    ∃ done' ids', ChannelInv capacity s' done' ids' := by
  have hat := h.consumer
  cases hconsumer : s.consumer with
  | idle =>
    rw [hconsumer] at hs
    cases hs
  | popping pc =>
    rw [hconsumer] at hs hat
    have hclearing : s.producer ≠ .clearing .storeTail := by
      intro hclearing
      have hfree := (h.clearing hclearing).2.2.2
      have hloads := hclear hclearing
      rw [hconsumer] at hfree hloads
      cases pc with
      | loadHead => cases hloads
      | loadTail currentHead => cases hfree
      | loadSlot currentHead => cases hfree
      | storeHead currentHead value => cases hfree
    have hholding := h.holding hclearing
    obtain ⟨hbuffer, htail⟩ := pop_buffer capacity s.queue pc
    have hstep := pop_holding hholding hat
    unfold Rs.consumerStep at hs
    cases hnext : (popStep capacity s.queue pc).2 with
    | pc pc' =>
      simp only [hnext] at hs
      obtain rfl := Option.some.inj hs
      have hnextAt := pop_next hholding hat hnext
      rw [popItems_pc hnext] at hstep hnextAt
      exact ⟨done, ids, h.goOn hbuffer htail (fun _ => hstep)
        (fun hclear => absurd hclear hclearing) hnextAt⟩
    | ret result =>
      simp only [hnext] at hs
      obtain rfl := Option.some.inj hs
      exact h.took hbuffer htail hclearing hstep (pop_ret hat hnext)
  | batching maxCount pc =>
    rw [hconsumer] at hs hat
    obtain ⟨hbuffer, htail⟩ := batch_buffer capacity maxCount timedOut s.queue pc
    unfold Rs.consumerStep at hs
    by_cases hclearing : s.producer = .clearing .storeTail
    · exact h.waits hclear hconsumer hclearing hs
    · have hholding := h.holding hclearing
      have hstep := batch_holding maxCount timedOut hholding hat
      cases hnext : (batchStep capacity maxCount timedOut s.queue pc).2 with
      | pc pc' =>
        simp only [hnext] at hs
        obtain rfl := Option.some.inj hs
        have hnextAt := batch_next hholding hat hnext
        rw [batchItems_pc hnext] at hstep hnextAt
        exact ⟨done, ids, h.goOn hbuffer htail (fun _ => hstep)
          (fun hclear => absurd hclear hclearing) hnextAt⟩
      | ret result =>
        simp only [hnext] at hs
        obtain rfl := Option.some.inj hs
        exact h.took hbuffer htail hclearing hstep (batch_ret hat hnext)

/-- Every step under the condition keeps the invariant. -/
theorem step (h : ChannelInv capacity s done ids) {e : ChannelEvent T}
    (hclear : ClearsAlone s e) (hs : channelStep capacity s e = some s') :
    ∃ done' ids', ChannelInv capacity s' done' ids' := by
  cases e with
  | push value =>
    cases hproducer : s.producer with
    | idle =>
      simp only [channelStep, hproducer] at hs
      obtain rfl := Option.some.inj hs
      refine ⟨done, ids, { h with
        holding := fun _ => h.holding (by simp [hproducer])
        clearing := fun hclearing => (by cases hclearing)
        producer := ?_ }⟩
      intro value' pc hpushing
      obtain ⟨rfl, rfl⟩ := Producer.pushing.inj hpushing
      trivial
    | pushing value' pc => simp [channelStep, hproducer] at hs
    | clearing pc => simp [channelStep, hproducer] at hs
  | producer => exact h.producerStep hclear hs
  | pop =>
    cases hconsumer : s.consumer with
    | idle =>
      simp only [channelStep, hconsumer] at hs
      obtain rfl := Option.some.inj hs
      exact ⟨done, ids, h.goOn rfl rfl h.holding (fun _ => ⟨rfl, rfl⟩) trivial⟩
    | popping pc => simp [channelStep, hconsumer] at hs
    | batching maxCount pc => simp [channelStep, hconsumer] at hs
  | popBatch maxCount =>
    cases hconsumer : s.consumer with
    | idle =>
      simp only [channelStep, hconsumer] at hs
      obtain rfl := Option.some.inj hs
      exact ⟨done, ids, h.goOn rfl rfl h.holding (fun _ => ⟨rfl, rfl⟩) trivial⟩
    | popping pc => simp [channelStep, hconsumer] at hs
    | batching maxCount' pc => simp [channelStep, hconsumer] at hs
  | consumer timedOut => exact h.consumerStep hclear hs

end ChannelInv

/-! ### Delivery -/

/-- The elements are those of accepted pushes, each at most once and in the order
of the pushes. -/
def InOrder (accepted : List T) (elements : List (Pushed T)) : Prop :=
  ∃ ids : List ℕ, ids.Pairwise (· < ·) ∧ (∀ k ∈ ids, k < accepted.length) ∧
    elements = ids.map (element accepted)

/-- **The queue delivers in order what a clear does not drop.** In every run in
which `clear` and the consumer do not overlap: what was delivered are elements of
accepted pushes, each at most once and in order, and every accepted element was
delivered, is queued, or was queued when some clear began. -/
theorem syncQueue_delivery {capacity : ℕ} (hcapacity : 0 < capacity)
    {tr : List (Channel T × ChannelEvent T)} {s : Channel T}
    (h : Run (channelStep capacity) ClearsAlone .init tr s) :
    InOrder s.accepted s.delivered ∧ ∀ k < s.accepted.length,
      element s.accepted k ∈ s.delivered ∨ element s.accepted k ∈ unread capacity s.queue ∨
        element s.accepted k ∈ s.cleared := by
  have hinv : ∃ done ids, ChannelInv capacity s done ids := by
    apply h.invariant
    · exact ⟨[], [], ChannelInv.init hcapacity⟩
    · intro tr s e s' ih hclear hs
      obtain ⟨done, ids, hinv⟩ := ih
      exact hinv.step hclear hs
  obtain ⟨done, ids, hinv⟩ := hinv
  constructor
  · refine ⟨done, (List.pairwise_append.mp hinv.ordered).1, ?_, hinv.delivered⟩
    exact fun k hk => hinv.accepted k (List.mem_append_left _ hk)
  · intro k hk
    rcases hinv.covered k hk with hin | hin | hin
    · left
      rw [hinv.delivered]
      exact List.mem_map_of_mem hin
    · right; left
      have hclearing : s.producer ≠ .clearing .storeTail := by
        intro hclearing
        rw [(hinv.clearing hclearing).1] at hin
        cases hin
      rw [(hinv.holding hclearing).unread_eq]
      exact List.mem_map_of_mem hin
    · exact .inr (.inr hin)

/-- Do `clear` and the consumer not overlap in an event? -/
def clearsAlone (s : Channel T) : ChannelEvent T → Bool
  | .producer =>
    match s.producer with
    | .clearing _ => !s.consumer.holdsHead
    | _ => true
  | .consumer _ =>
    match s.producer with
    | .clearing .storeTail => !s.consumer.loadsHead
    | _ => true
  | _ => true

theorem clearsAlone_sound (s : Channel T) (e : ChannelEvent T) (h : clearsAlone s e = true) :
    ClearsAlone s e := by
  cases e with
  | producer =>
    intro pc hproducer
    simpa [clearsAlone, hproducer] using h
  | consumer timedOut =>
    intro hproducer
    simpa [clearsAlone, hproducer] using h
  | push value => trivial
  | pop => trivial
  | popBatch maxCount => trivial

/-- A call of `push` that finds room. -/
def pushCall (value : T) : List (ChannelEvent T) := .push value :: List.replicate 6 .producer

/-- A call of `push` that finds none, with the clear behind it. -/
def overflowCall (value : T) : List (ChannelEvent T) := .push value :: List.replicate 4 .producer

theorem syncQueue_delivery_overflow : ∃ tr s,
    Run (channelStep 3) ClearsAlone (.init : Channel ℕ) tr s ∧ s.accepted = [5, 6, 8] ∧
      s.delivered = [some (2, 8)] ∧ s.cleared = [some (0, 5), some (1, 6)] ∧
      InOrder s.accepted s.delivered := by
  have hup : (exec (fun s e => if clearsAlone s e then channelStep 3 s e else none) .init
      (pushCall 5 ++ pushCall 6 ++ overflowCall 7 ++ pushCall 8 ++
        .popBatch 50 :: List.replicate 6 (.consumer false))).map (fun s : Channel ℕ => decide (
          s.accepted = [5, 6, 8] ∧ s.delivered = [some (2, 8)] ∧
          s.cleared = [some (0, 5), some (1, 6)])) = some true := by
    decide +kernel
  obtain ⟨s, hs, hstate⟩ := Option.map_eq_some_iff.mp hup
  simp only [decide_eq_true_eq] at hstate
  obtain ⟨haccepted, hdelivered, hcleared⟩ := hstate
  obtain ⟨tr, -, hrun⟩ := Run.of_exec_test clearsAlone_sound hs
  exact ⟨tr, s, hrun, haccepted, hdelivered, hcleared,
    (syncQueue_delivery (by decide) hrun).1⟩

/-! ### A clear in the middle of a batch -/

/-- A push that finds room writes the slot at the tail and moves the tail. -/
theorem exec_pushCall (hproducer : s.producer = .idle)
    (hroom : (s.queue.tail + 1) % capacity ≠ s.queue.head) (value : T) :
    exec (channelStep capacity) s (pushCall value) = some { s with
      queue := ⟨Function.update s.queue.buffer s.queue.tail (some (s.accepted.length, value)),
        s.queue.head, (s.queue.tail + 1) % capacity⟩
      accepted := s.accepted ++ [value] } := by
  have hs : s = { s with producer := .idle } := by rw [← hproducer]
  simp only [pushCall, List.replicate, exec_cons, channelStep, hproducer, producerStep, pushStep,
    if_neg hroom, pushItems, Option.bind_some]
  rw [hs]
  rfl

/-- A push that finds no room clears the queue. -/
theorem exec_overflowCall (hproducer : s.producer = .idle)
    (hfull : (s.queue.tail + 1) % capacity = s.queue.head) (value : T) :
    exec (channelStep capacity) s (overflowCall value) = some { s with
      queue := ⟨s.queue.buffer, 0, 0⟩
      cleared := s.cleared ++ unread capacity s.queue } := by
  have hs : s = { s with producer := .idle } := by rw [← hproducer]
  simp only [overflowCall, List.replicate, exec_cons, channelStep, hproducer, producerStep,
    pushStep, if_pos hfull, pushItems, clearStep, Option.bind_some, if_true]
  rw [hs]
  rfl

/-- Pushes fill the slots behind the tail up to the end of the ring. -/
theorem exec_pushes (capacity : ℕ) (value : T) : ∀ (n : ℕ) (s : Channel T),
    s.producer = .idle → s.queue.head = 0 → s.queue.tail + n < capacity →
    ∃ es s', exec (channelStep capacity) s es = some s' ∧ s'.producer = .idle ∧
      s'.consumer = s.consumer ∧ s'.delivered = s.delivered ∧
      s'.accepted.length = s.accepted.length + n ∧ s'.queue.head = 0 ∧
      s'.queue.tail = s.queue.tail + n ∧ ∀ i < s.queue.tail, s'.queue.buffer i = s.queue.buffer i
  | 0, s, hproducer, hhead, _ => ⟨[], s, rfl, hproducer, rfl, rfl, rfl, hhead, rfl, fun _ _ => rfl⟩
  | n + 1, s, hproducer, hhead, hroom => by
    have hnext : (s.queue.tail + 1) % capacity = s.queue.tail + 1 := Nat.mod_eq_of_lt (by omega)
    have hne : (s.queue.tail + 1) % capacity ≠ s.queue.head := by
      rw [hnext, hhead]
      exact Nat.succ_ne_zero _
    have hpush := exec_pushCall hproducer hne value
    rw [hnext, hhead] at hpush
    obtain ⟨es, s', hes, hproducer', hconsumer, hdelivered, haccepted, hhead', htail, hbuffer⟩ :=
      exec_pushes capacity value n { s with
        queue := ⟨Function.update s.queue.buffer s.queue.tail (some (s.accepted.length, value)), 0,
          s.queue.tail + 1⟩
        accepted := s.accepted ++ [value] } hproducer rfl
        (show s.queue.tail + 1 + n < capacity by omega)
    refine ⟨pushCall value ++ es, s', exec_append hpush hes, hproducer', hconsumer, hdelivered,
      ?_, hhead', ?_, ?_⟩
    · change s'.accepted.length = (s.accepted ++ [value]).length + n at haccepted
      rw [haccepted, List.length_append, List.length_singleton]
      omega
    · change s'.queue.tail = s.queue.tail + 1 + n at htail
      omega
    · intro i hi
      rw [hbuffer i (Nat.lt_succ_of_lt hi)]
      exact Function.update_of_ne (Nat.ne_of_lt hi) _ _

/-- A batch of two is copied and the head stored. -/
theorem exec_batch {maxCount : ℕ} (hcapacity : 1 < capacity)
    (hconsumer : s.consumer = .batching maxCount (.copy 0 2 [])) :
    ∃ s', exec (channelStep capacity) s (List.replicate 3 (.consumer false)) = some s' ∧
      s'.accepted = s.accepted ∧
      s'.delivered = s.delivered ++ [s.queue.buffer 0, s.queue.buffer 1] := by
  refine ⟨{ s with
    queue := { s.queue with head := 2 % capacity }, consumer := .idle
    delivered := s.delivered ++ [s.queue.buffer 0, s.queue.buffer 1] }, ?_, rfl, rfl⟩
  have hone : 1 % capacity = 1 := Nat.mod_eq_of_lt hcapacity
  simp [List.replicate, channelStep, hconsumer, consumerStep, batchStep, hone, exec]

theorem element_eq_some {accepted : List T} {k j : ℕ} {value : T}
    (h : element accepted k = some (j, value)) : k = j := by
  obtain ⟨value', -, heq⟩ := Option.map_eq_some_iff.mp h
  exact congrArg Prod.fst heq

/-- Two elements out of order are not those of pushes in order. -/
theorem not_inOrder {accepted : List T} {k j : ℕ} {a b : T} (h : k < j) :
    ¬ InOrder accepted [some (j, a), some (k, b)] := by
  rintro ⟨ids, hordered, -, helements⟩
  match ids with
  | [] => cases helements
  | [i] => simp at helements
  | i :: i' :: rest =>
    rw [List.map_cons, List.map_cons, List.cons.injEq, List.cons.injEq] at helements
    have hi : i = j := element_eq_some helements.1.symm
    have hi' : i' = k := element_eq_some helements.2.1.symm
    have hlt := (List.pairwise_cons.mp hordered).1 i' List.mem_cons_self
    omega

/-- **A clear in the middle of a batch reorders the queue.** The consumer has
loaded the indices for a batch of the first two elements when the producer finds
the queue full, clears it and pushes again: the batch is the newest element and
then the second one. -/
theorem syncQueue_reorders : ∃ tr s,
    Run (channelStep defaultCapacity) (fun _ _ => True) (.init : Channel ℕ) tr s ∧
      s.delivered = [some (102399, 0), some (1, 0)] ∧ ¬ InOrder s.accepted s.delivered := by
  have hbegin : (exec (channelStep defaultCapacity) (.init : Channel ℕ)
      (pushCall 0 ++ pushCall 0 ++ .popBatch 50 :: List.replicate 4 (.consumer false))).map
        (fun s => decide (s.producer = .idle ∧ s.queue.head = 0 ∧ s.queue.tail = 2 ∧
          s.queue.buffer 1 = some (1, 0) ∧ s.accepted = [0, 0] ∧ s.delivered = [] ∧
          s.consumer = .batching 50 (.copy 0 2 []))) = some true := by
    decide +kernel
  obtain ⟨s₁, h₁, hstate⟩ := Option.map_eq_some_iff.mp hbegin
  simp only [decide_eq_true_eq] at hstate
  obtain ⟨hproducer, hhead, htail, hslot, haccepted, hdelivered, hconsumer⟩ := hstate
  -- the queue is filled behind the two elements
  have hroom : s₁.queue.tail + 102397 < defaultCapacity := by
    rw [htail]
    decide
  obtain ⟨es₂, s₂, h₂, hproducer₂, hconsumer₂, hdelivered₂, haccepted₂, hhead₂, htail₂, hbuffer₂⟩ :=
    exec_pushes defaultCapacity 0 102397 s₁ hproducer hhead hroom
  have hfull : (s₂.queue.tail + 1) % defaultCapacity = s₂.queue.head := by
    rw [htail₂, htail, hhead₂]
    rfl
  have h₃ := exec_overflowCall hproducer₂ hfull 0
  have h₄ := exec_pushCall (s := { s₂ with
    queue := ⟨s₂.queue.buffer, 0, 0⟩
    cleared := s₂.cleared ++ unread defaultCapacity s₂.queue }) hproducer₂
    (show (0 + 1) % defaultCapacity ≠ 0 by decide) 0
  obtain ⟨s₅, h₅, haccepted₅, hdelivered₅⟩ := exec_batch (s := { s₂ with
    queue := ⟨Function.update s₂.queue.buffer 0 (some (s₂.accepted.length, 0)), 0,
      (0 + 1) % defaultCapacity⟩
    accepted := s₂.accepted ++ [0]
    cleared := s₂.cleared ++ unread defaultCapacity s₂.queue })
    (show 1 < defaultCapacity by decide) (hconsumer₂.trans hconsumer)
  have hall := exec_append h₁ (exec_append h₂ (exec_append h₃ (exec_append h₄ h₅)))
  obtain ⟨tr, -, hrun⟩ := Run.of_exec hall
  have hout : s₅.delivered = [some (102399, 0), some (1, 0)] := by
    have hfirst : s₂.accepted.length = 102399 := by
      rw [haccepted₂, haccepted]
      rfl
    have hsecond : s₂.queue.buffer 1 = some (1, 0) := by
      rw [hbuffer₂ 1 (by rw [htail]; decide), hslot]
    let newest : Pushed ℕ := some (s₂.accepted.length, 0)
    have hcopied : Function.update s₂.queue.buffer 0 newest 1 = some (1, 0) := by
      rw [Function.update_of_ne (by decide), hsecond]
    change s₅.delivered = s₂.delivered ++ [Function.update s₂.queue.buffer 0 newest 0,
      Function.update s₂.queue.buffer 0 newest 1] at hdelivered₅
    rw [hdelivered₅, hdelivered₂, hdelivered, hcopied, Function.update_self]
    simp only [newest, hfirst, List.nil_append]
  refine ⟨tr, s₅, hrun, hout, ?_⟩
  rw [hout]
  exact not_inOrder (by decide)

end Rs
end SensorSupport
