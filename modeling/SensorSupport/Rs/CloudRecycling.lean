/-
# Clouds on their way round (`source/source_driver.hpp`, `driver/lidar_driver_impl.hpp`)

The handle thread adds points to a cloud. `splitFrame` writes its header, pushes it to
`point_cloud_queue_` and goes on with a cloud from `free_point_cloud_queue_`, or a new
one. The process thread pops a cloud, hands it to the destinations, each of which reads
it point by point, and pushes it to the other queue. A cloud that finds a queue full is
lost. The steps of the two threads and of the thread that calls `start` and `stop` come in
any order; those on the queues are single loads and stores.

For the clouds the two queues are lines of a pool (`toPool_step`): a cloud is in one place,
so nobody writes to one that is read. What a destination got is what was put,
unchanged and in order, and the driver never has more clouds than fit into a queue with
one more for each thread and one in between.

Key definitions: `SourceDriver`, `SourceDriver.step`, `SourceDriver.toPool`, `decoded`.
Key theorems: `Spsc.push`, `Spsc.pop`, `toPool_step`, `clouds_exclusive`, `clouds_delivered`.
-/
import Mathlib.Data.List.ReduceOption
import SensorSupport.Lib.Recycling
import SensorSupport.Rs.FramePartition
import SensorSupport.Rs.PacketBuffers

namespace SensorSupport
namespace Rs

variable {P : Type}

/-! ### The source -/

/-- What the handle thread does: between two calls of its decoder, in `putPointCloud` and
in `getPointCloud` of a `splitFrame`; it is not there before `start` and behind `stop`. -/
inductive DecodeMode
  | stopped
  | decoding
  | putting (pc : PushPc)
  | getting (pc : PopPc Pointer)
deriving DecidableEq

/-- What the process thread does: the head of its loop, `popWait`, `sendPointCloud` with
the destination and the points that it copied so far, and the push behind it. -/
inductive ProcessMode (P : Type)
  | idle
  | waiting (pc : PopPc Pointer)
  | sending (msg dst : ℕ) (copied : List P)
  | freeing (msg : ℕ) (pc : PushPc)
  | exited

/-- What the thread does that calls `start` and `stop`: it is in neither, or waits for the
handle thread, sets `to_exit_process_`, and waits for the process thread. -/
inductive ControlMode
  | idle
  | stopping
  | exiting
  | joining
deriving DecidableEq

/-- The clouds behind the pointers, `point_cloud_` of the decoder, the queues and the
threads. It is recorded which clouds were pushed, how many found the queue full, which
were taken, and what each destination got. -/
structure SourceDriver (P : Type) where
  clouds : ℕ → CloudMsg P
  created : ℕ
  pointCloud : ℕ
  pointCloudSeq : UInt32
  pointCloudQueue : SyncQueue Pointer
  freePointCloudQueue : SyncQueue Pointer
  decode : DecodeMode
  process : ProcessMode P
  control : ControlMode
  startFlag : Bool
  toExitProcess : Bool
  accepted : List (CloudMsg P)
  refused : ℕ
  taken : List (CloudMsg P)
  received : ℕ → List (CloudMsg P)

/-- A cloud that was just made. -/
def CloudMsg.empty : CloudMsg P := ⟨⟨[], 0, 0, false⟩, 0⟩

/-- `points.clear`. -/
def CloudMsg.clear (msg : CloudMsg P) : CloudMsg P := { msg with points := [] }

/-- The thread above calls `start` or `stop` or goes on in it; the decoder of the handle
thread adds a point or ends a frame, or clears a cloud beyond its limit, or the thread goes
on in `splitFrame`; the process thread takes a step. -/
inductive SourceEvent (P : Type)
  | start
  | stop
  | control
  | call (c : CloudCall P)
  | clearOver
  | decode
  | process (timedOut : Bool)

namespace SourceDriver

/-- Behind `init`: the decoder has a cloud, and the process thread runs. -/
def init : SourceDriver P where
  clouds := fun _ => .empty
  created := 1
  pointCloud := 0
  pointCloudSeq := 0
  pointCloudQueue := .init
  freePointCloudQueue := .init
  decode := .stopped
  process := .idle
  control := .idle
  startFlag := false
  toExitProcess := false
  accepted := []
  refused := 0
  taken := []
  received := fun _ => []

/-- Changes the cloud of the decoder. -/
def modify (s : SourceDriver P) (f : CloudMsg P → CloudMsg P) : SourceDriver P :=
  { s with clouds := Function.update s.clouds s.pointCloud (f (s.clouds s.pointCloud)) }

/-- `splitFrame` up to `cb_put_cloud_`, with `setPointCloudHeader`. -/
def splitFrame (param : RSDecoderParam) (height : ℕ) (s : SourceDriver P) : SourceDriver P :=
  if 0 < (s.clouds s.pointCloud).points.length then
    { s.modify fun msg =>
        ⟨DecoderMech.setPointCloudHeader param height msg.points, s.pointCloudSeq⟩ with
      pointCloudSeq := s.pointCloudSeq + 1
      decode := .putting .loadTail }
  else s

/-- A step of the handle thread in `splitFrame`. `getPointCloud` clears the cloud it got. -/
def decodeStep (capacity : ℕ) (s : SourceDriver P) : DecodeMode → Option (SourceDriver P)
  | .putting pc =>
    let r := pushStep capacity (some s.pointCloud) s.pointCloudQueue pc
    match r.2 with
    | .pc pc' => some { s with
        pointCloudQueue := r.1, decode := .putting pc'
        accepted := pushItems (s.clouds s.pointCloud) s.accepted pc }
    | .ret none => some { s with
        pointCloudQueue := r.1, decode := .getting .loadHead, refused := s.refused + 1 }
    | .ret (some _) => some { s with pointCloudQueue := r.1, decode := .getting .loadHead }
  | .getting pc =>
    let r := popStep capacity s.freePointCloudQueue pc
    match r.2 with
    | .pc pc' => some { s with freePointCloudQueue := r.1, decode := .getting pc' }
    | .ret (some (some cloud)) => some { s with
        freePointCloudQueue := r.1, decode := .decoding, pointCloud := cloud
        clouds := Function.update s.clouds cloud (s.clouds cloud).clear }
    | .ret _ => some { s with
        freePointCloudQueue := r.1, decode := .decoding, pointCloud := s.created
        clouds := Function.update s.clouds s.created .empty, created := s.created + 1 }
  | _ => none

/-- A step of `processPointCloud`. -/
def processStep (capacity destinations : ℕ) (timedOut : Bool) (s : SourceDriver P) :
    ProcessMode P → Option (SourceDriver P)
  | .idle =>
    some { s with process := if s.toExitProcess then .exited else .waiting .loadHead }
  | .waiting pc =>
    let r := popWaitStep capacity timedOut s.pointCloudQueue pc
    match r.2 with
    | .pc pc' => some { s with pointCloudQueue := r.1, process := .waiting pc' }
    | .ret (some (some msg)) => some { s with
        pointCloudQueue := r.1, process := .sending msg 0 [], taken := s.taken ++ [s.clouds msg] }
    | .ret _ => some { s with pointCloudQueue := r.1, process := .idle }
  | .sending msg dst copied =>
    if dst < destinations then
      match (s.clouds msg).points[copied.length]? with
      | some p => some { s with process := .sending msg dst (copied ++ [p]) }
      | none => some { s with
          process := .sending msg (dst + 1) []
          received := Function.update s.received dst
            (s.received dst ++ [{ s.clouds msg with points := copied }]) }
    else some { s with process := .freeing msg .loadTail }
  | .freeing msg pc =>
    let r := pushStep capacity (some msg) s.freePointCloudQueue pc
    match r.2 with
    | .pc pc' => some { s with freePointCloudQueue := r.1, process := .freeing msg pc' }
    | .ret _ => some { s with freePointCloudQueue := r.1, process := .idle }
  | .exited => none

/-- A step of `stop`: the handle thread ends between two packets, and the cloud that it
leaves is cleared; the process thread ends at the head of its loop. -/
def controlStep (s : SourceDriver P) : ControlMode → Option (SourceDriver P)
  | .stopping =>
    if s.startFlag then
      if s.decode = .decoding then
        some { s.modify .clear with decode := .stopped, startFlag := false, control := .exiting }
      else none
    else some { s with control := .exiting }
  | .exiting => some { s with toExitProcess := true, control := .joining }
  | .joining =>
    match s.process with
    | .exited => some { s with control := .idle }
    | _ => none
  | .idle => none

/-- One event; there are `destinations` destinations. -/
def step (param : RSDecoderParam) (capacity destinations : ℕ) (s : SourceDriver P) :
    SourceEvent P → Option (SourceDriver P)
  | .start =>
    if s.control = .idle then
      if s.startFlag then some s else some { s with decode := .decoding, startFlag := true }
    else none
  | .stop => if s.control = .idle then some { s with control := .stopping } else none
  | .control => controlStep s s.control
  | .call (.point p) =>
    if s.decode = .decoding then
      some (s.modify fun msg => { msg with points := msg.points ++ [p] })
    else none
  | .call (.splitFrame height) =>
    if s.decode = .decoding then some (s.splitFrame param height) else none
  | .clearOver =>
    if s.decode = .decoding then
      some (if 5000000 < (s.clouds s.pointCloud).points.length then s.modify .clear else s)
    else none
  | .decode => decodeStep capacity s s.decode
  | .process timedOut => processStep capacity destinations timedOut s s.process

end SourceDriver

/-! ### A queue with one thread on each side -/

/-- A queue of pointers, none of them null, with the push and the pop that are going on. -/
structure Spsc (capacity : ℕ) (q : SyncQueue Pointer) (push : Option (ℕ × PushPc))
    (pop : Option (PopPc Pointer)) : Prop where
  holding : Holding capacity q (unread capacity q)
  present : none ∉ unread capacity q
  pushAt : ∀ x ∈ push, PushAt capacity q (unread capacity q) (some x.1) x.2
  popAt : ∀ pc ∈ pop, PopAt q (unread capacity q) pc

namespace Spsc

variable {capacity cell : ℕ} {q : SyncQueue Pointer} {pushing : Option (ℕ × PushPc)}
  {popping : Option (PopPc Pointer)}

theorem init (hcapacity : 0 < capacity) : Spsc capacity .init none none := by
  have hholding : Holding capacity (SyncQueue.init : SyncQueue Pointer) [] :=
    Holding.init hcapacity
  have hunread := hholding.unread_eq
  exact ⟨hunread ▸ hholding, hunread ▸ List.not_mem_nil, fun _ hx => (by cases hx),
    fun _ hpc => (by cases hpc)⟩

theorem beginPush (h : Spsc capacity q none popping) (cell : ℕ) :
    Spsc capacity q (some (cell, .loadTail)) popping :=
  ⟨h.holding, h.present, fun x hx => (by obtain rfl := Option.some.inj hx; trivial), h.popAt⟩

theorem beginPop (h : Spsc capacity q pushing none) : Spsc capacity q pushing (some .loadHead) :=
  ⟨h.holding, h.present, h.pushAt, fun pc hpc => (by obtain rfl := Option.some.inj hpc; trivial)⟩

theorem endPop (h : Spsc capacity q pushing popping) : Spsc capacity q pushing none :=
  ⟨h.holding, h.present, h.pushAt, fun _ hpc => (by cases hpc)⟩

/-- **A step of a push** appends the cell at its store of the tail, and otherwise leaves
the line alone. -/
theorem push {pc : PushPc} (h : Spsc capacity q (some (cell, pc)) popping) :
    let r := pushStep capacity (some cell) q pc
    unread capacity r.1 = pushItems (some cell) (unread capacity q) pc ∧
      (∀ pc', r.2 = .pc pc' → Spsc capacity r.1 (some (cell, pc')) popping) ∧
      ∀ x, r.2 = .ret x → Spsc capacity r.1 none popping ∧ unread capacity r.1 = unread capacity q := by
  intro r
  have hat : PushAt capacity q (unread capacity q) (some cell) pc := h.pushAt _ rfl
  have hholding : Holding capacity r.1 (pushItems (some cell) (unread capacity q) pc) :=
    push_holding h.holding hat
  have hunread := hholding.unread_eq
  have hpresent : none ∉ unread capacity r.1 := by
    rw [hunread]
    cases pc with
    | storeTail currentTail => simpa [pushItems] using h.present
    | loadTail => exact h.present
    | loadHead currentTail => exact h.present
    | storeSlot currentTail => exact h.present
    | sizeHead => exact h.present
    | sizeTail head => exact h.present
  have hpop : ∀ pc' ∈ popping, PopAt r.1 (unread capacity r.1) pc' := by
    intro pc' hpc'
    obtain ⟨rest, hrest⟩ : ∃ rest, pushItems (some cell) (unread capacity q) pc =
        unread capacity q ++ rest := pushItems_prefix pc
    rw [hunread, hrest]
    exact (h.popAt pc' hpc').frame (push_head pc)
  refine ⟨hunread, fun pc' hnext => ⟨hunread ▸ hholding, hpresent, ?_, hpop⟩, fun x hret =>
    ⟨⟨hunread ▸ hholding, hpresent, fun _ hx => (by cases hx), hpop⟩, ?_⟩⟩
  · intro x hx
    obtain rfl := Option.some.inj hx
    rw [hunread]
    exact push_next h.holding hat hnext
  · rw [hunread, pushItems_ret hret]

/-- **A step of a pop** takes the first cell when it returns it, and otherwise leaves the
line alone; without a cell it returns when there is none. -/
theorem pop {pc : PopPc Pointer} (h : Spsc capacity q pushing (some pc)) :
    let r := popStep capacity q pc
    (∀ pc', r.2 = .pc pc' →
        Spsc capacity r.1 pushing (some pc') ∧ unread capacity r.1 = unread capacity q) ∧
      ∀ x, r.2 = .ret x → Spsc capacity r.1 pushing none ∧
        ((∃ cell, x = some (some cell) ∧ unread capacity q = some cell :: unread capacity r.1) ∨
          x = none ∧ unread capacity q = [] ∧ unread capacity r.1 = []) := by
  intro r
  have hat : PopAt q (unread capacity q) pc := h.popAt _ rfl
  have hholding : Holding capacity r.1 (popItems (unread capacity q) pc) :=
    pop_holding h.holding hat
  have hunread := hholding.unread_eq
  obtain ⟨hbuffer, htail⟩ := pop_buffer capacity q pc
  have hsuffix : unread capacity r.1 <:+ unread capacity q := by
    rw [hunread]
    cases pc with
    | storeHead currentHead value => exact List.drop_suffix 1 _
    | loadHead => exact List.suffix_rfl
    | loadTail currentHead => exact List.suffix_rfl
    | loadSlot currentHead => exact List.suffix_rfl
  have hpresent : none ∉ unread capacity r.1 := fun hin => h.present (hsuffix.subset hin)
  have hpush : ∀ x ∈ pushing, PushAt capacity r.1 (unread capacity r.1) (some x.1) x.2 :=
    fun x hx => (h.pushAt x hx).frame hbuffer htail hsuffix.length_le
  refine ⟨fun pc' hnext => ⟨⟨hunread ▸ hholding, hpresent, hpush, ?_⟩, ?_⟩, fun x hret =>
    ⟨⟨hunread ▸ hholding, hpresent, hpush, fun _ hpc => (by cases hpc)⟩, ?_⟩⟩
  · intro pc'' hpc''
    obtain rfl := Option.some.inj hpc''
    rw [hunread]
    exact pop_next h.holding hat hnext
  · rw [hunread, popItems_pc hnext]
  · have htaken := pop_ret hat hret
    rw [← hunread] at htaken
    match x with
    | some (some cell) => exact .inl ⟨cell, rfl, htaken⟩
    | some none => exact absurd (by rw [htaken]; exact List.mem_cons_self) h.present
    | none =>
      have hempty := pop_ret_none h.holding hat hret
      exact .inr ⟨rfl, hempty, by rw [hempty] at htaken; exact htaken.symm⟩

/-- `popWait` does what `pop` does, and may begin anew. -/
theorem popWait {pc : PopPc Pointer} (h : Spsc capacity q pushing (some pc)) (timedOut : Bool) :
    let r := popWaitStep capacity timedOut q pc
    (∀ pc', r.2 = .pc pc' →
        Spsc capacity r.1 pushing (some pc') ∧ unread capacity r.1 = unread capacity q) ∧
      ∀ x, r.2 = .ret x → Spsc capacity r.1 pushing none ∧
        ((∃ cell, x = some (some cell) ∧ unread capacity q = some cell :: unread capacity r.1) ∨
          x = none ∧ unread capacity q = [] ∧ unread capacity r.1 = []) := by
  rcases popWaitStep_eq capacity timedOut q pc with heq | heq
  · rw [heq]
    exact h.pop
  · rw [heq]
    refine ⟨fun pc' hnext => ?_, fun x hret => (by cases hret)⟩
    obtain rfl := Next.pc.inj hnext
    exact ⟨h.endPop.beginPop, rfl⟩

end Spsc

/-! ### The pool -/

namespace SourceDriver

/-- The push and the pop that are going on in each of the two queues. -/
def putting (s : SourceDriver P) : Option (ℕ × PushPc) :=
  match s.decode with
  | .putting pc => some (s.pointCloud, pc)
  | _ => none

def getting (s : SourceDriver P) : Option (PopPc Pointer) :=
  match s.decode with
  | .getting pc => some pc
  | _ => none

def taking (s : SourceDriver P) : Option (PopPc Pointer) :=
  match s.process with
  | .waiting pc => some pc
  | _ => none

def freeing (s : SourceDriver P) : Option (ℕ × PushPc) :=
  match s.process with
  | .freeing msg pc => some (msg, pc)
  | _ => none

/-- Each queue has one thread on each side. -/
structure QueuesInv (capacity : ℕ) (s : SourceDriver P) : Prop where
  clouds : Spsc capacity s.pointCloudQueue s.putting s.taking
  frees : Spsc capacity s.freePointCloudQueue s.freeing s.getting

/-- The cloud of the handle thread, up to the store of the tail. -/
def filling (s : SourceDriver P) : Option ℕ :=
  match s.decode with
  | .putting pc => if pc.pending then some s.pointCloud else none
  | .getting _ => none
  | _ => some s.pointCloud

/-- The cloud of the process thread, up to the store of the tail. -/
def inUse (s : SourceDriver P) : Option ℕ :=
  match s.process with
  | .sending msg _ _ => some msg
  | .freeing msg pc => if pc.pending then some msg else none
  | _ => none

/-- The clouds as cells that go round. -/
def toPool (capacity : ℕ) (s : SourceDriver P) : Pool (CloudMsg P) where
  content := s.clouds
  created := s.created
  filling := s.filling
  full := (unread capacity s.pointCloudQueue).reduceOption
  inUse := s.inUse
  free := (unread capacity s.freePointCloudQueue).reduceOption
  puts := s.accepted
  taken := s.taken

/-- What an event does to the pool: most loads and stores do nothing. -/
def poolEvent (param : RSDecoderParam) (capacity : ℕ) (s : SourceDriver P) :
    SourceEvent P → Option (PoolEvent (CloudMsg P))
  | .start => none
  | .stop => none
  | .control => if s.control = .stopping ∧ s.startFlag = true then some (.fill .clear) else none
  | .call (.point p) => some (.fill fun msg => { msg with points := msg.points ++ [p] })
  | .call (.splitFrame height) =>
    if 0 < (s.clouds s.pointCloud).points.length then
      some (.fill fun msg =>
        ⟨DecoderMech.setPointCloudHeader param height msg.points, s.pointCloudSeq⟩)
    else none
  | .clearOver =>
    if 5000000 < (s.clouds s.pointCloud).points.length then some (.fill .clear) else none
  | .decode =>
    match s.decode with
    | .putting (.loadHead currentTail) =>
      if (currentTail + 1) % capacity = s.pointCloudQueue.head then some .drop else none
    | .putting (.storeTail _) => some .put
    | .getting (.loadTail currentHead) =>
      if currentHead = s.freePointCloudQueue.tail then some (.make .empty) else none
    | .getting (.storeHead _ _) => some (.reuse .clear)
    | _ => none
  | .process _ =>
    match s.process with
    | .waiting (.storeHead _ _) => some .take
    | .freeing _ (.loadHead currentTail) =>
      if (currentTail + 1) % capacity = s.freePointCloudQueue.head then some .discard else none
    | .freeing _ (.storeTail _) => some .giveBack
    | _ => none

/-- The pool moves as an event says, or stays. -/
def Simulates (param : RSDecoderParam) (capacity : ℕ) (s s' : SourceDriver P)
    (e : SourceEvent P) : Prop :=
  (s.poolEvent param capacity e).elim (some (s.toPool capacity))
    ((s.toPool capacity).step (capacity - 1)) = some (s'.toPool capacity)

variable {param : RSDecoderParam} {capacity destinations : ℕ} {s s' : SourceDriver P}

/-- A step of `putPointCloud`. -/
theorem putting_step (h : s.QueuesInv capacity) {pc : PushPc} (hdecode : s.decode = .putting pc)
    (hs : decodeStep capacity s (.putting pc) = some s') :
    s'.QueuesInv capacity ∧ s.Simulates param capacity s' .decode := by
  have hclouds := h.clouds
  have hfrees := h.frees
  simp only [putting, getting, hdecode] at hclouds hfrees
  have hat := hclouds.pushAt _ rfl
  obtain ⟨hunread, hnext, hret⟩ := hclouds.push
  simp only [decodeStep] at hs
  cases pc with
  | loadTail =>
    cases hs
    refine ⟨⟨hnext _ rfl, hfrees⟩, ?_⟩
    simp [Simulates, poolEvent, toPool, filling, inUse, hdecode, PushPc.pending, pushStep, pushItems]
  | loadHead currentTail =>
    by_cases hfull : (currentTail + 1) % capacity = s.pointCloudQueue.head
    · simp only [pushStep, if_pos hfull] at hs hret
      cases hs
      refine ⟨⟨(hret _ rfl).1, hfrees.beginPop⟩, ?_⟩
      simp [Simulates, poolEvent, toPool, filling, inUse, hdecode, PushPc.pending, hfull, Pool.step]
    · simp only [pushStep, if_neg hfull] at hs hnext
      cases hs
      refine ⟨⟨hnext _ rfl, hfrees⟩, ?_⟩
      simp [Simulates, poolEvent, toPool, filling, inUse, hdecode, PushPc.pending, hfull, pushItems]
  | storeSlot currentTail =>
    cases hs
    refine ⟨⟨hnext _ rfl, hfrees⟩, ?_⟩
    have hsame : unread capacity (pushStep capacity (some s.pointCloud) s.pointCloudQueue
        (.storeSlot currentTail)).1 = unread capacity s.pointCloudQueue := hunread
    simp [Simulates, poolEvent, toPool, filling, inUse, hdecode, PushPc.pending, hsame, pushItems]
  | storeTail currentTail =>
    cases hs
    refine ⟨⟨hnext _ rfl, hfrees⟩, ?_⟩
    have hput : unread capacity (pushStep capacity (some s.pointCloud) s.pointCloudQueue
        (.storeTail currentTail)).1 =
          unread capacity s.pointCloudQueue ++ [some s.pointCloud] := hunread
    have hroom : (unread capacity s.pointCloudQueue).reduceOption.length < capacity - 1 := by
      have hlength := List.reduceOption_length_le (unread capacity s.pointCloudQueue)
      have hroom := hat.2.1
      omega
    simp [Simulates, poolEvent, toPool, filling, inUse, hdecode, PushPc.pending, hput, hroom,
      Pool.step, pushItems, List.reduceOption_append]
  | sizeHead =>
    cases hs
    refine ⟨⟨hnext _ rfl, hfrees⟩, ?_⟩
    simp [Simulates, poolEvent, toPool, filling, inUse, hdecode, PushPc.pending, pushStep, pushItems]
  | sizeTail head =>
    cases hs
    refine ⟨⟨(hret _ rfl).1, hfrees.beginPop⟩, ?_⟩
    simp [Simulates, poolEvent, toPool, filling, inUse, hdecode, PushPc.pending, pushStep]

/-- A step of `getPointCloud`. -/
theorem getting_step (h : s.QueuesInv capacity) {pc : PopPc Pointer}
    (hdecode : s.decode = .getting pc) (hs : decodeStep capacity s (.getting pc) = some s') :
    s'.QueuesInv capacity ∧ s.Simulates param capacity s' .decode := by
  have hclouds := h.clouds
  have hfrees := h.frees
  simp only [putting, getting, hdecode] at hclouds hfrees
  obtain ⟨hnext, hret⟩ := hfrees.pop
  simp only [decodeStep] at hs
  cases pc with
  | loadHead =>
    cases hs
    refine ⟨⟨hclouds, (hnext _ rfl).1⟩, ?_⟩
    simp [Simulates, poolEvent, toPool, filling, inUse, hdecode, popStep]
  | loadTail currentHead =>
    by_cases hempty : currentHead = s.freePointCloudQueue.tail
    · simp only [popStep, if_pos hempty] at hs hret
      cases hs
      obtain ⟨hfree, ⟨cell, hsome, -⟩ | ⟨-, hunread, -⟩⟩ := hret _ rfl
      · cases hsome
      refine ⟨⟨hclouds, hfree⟩, ?_⟩
      simp [Simulates, poolEvent, toPool, filling, inUse, hdecode, hempty, Pool.step, hunread]
    · simp only [popStep, if_neg hempty] at hs hnext
      cases hs
      refine ⟨⟨hclouds, (hnext _ rfl).1⟩, ?_⟩
      simp [Simulates, poolEvent, toPool, filling, inUse, hdecode, hempty]
  | loadSlot currentHead =>
    cases hs
    refine ⟨⟨hclouds, (hnext _ rfl).1⟩, ?_⟩
    simp [Simulates, poolEvent, toPool, filling, inUse, hdecode, popStep]
  | storeHead currentHead value =>
    obtain ⟨hfree, ⟨cell, hsome, hunread⟩ | ⟨hnone, -⟩⟩ := hret _ rfl
    · obtain rfl := Option.some.inj hsome
      simp only [popStep] at hs hfree hunread
      cases hs
      refine ⟨⟨hclouds, hfree⟩, ?_⟩
      simp [Simulates, poolEvent, toPool, filling, inUse, hdecode, Pool.step, hunread]
    · cases hnone

/-- A step of `popWait`. -/
theorem waiting_step (h : s.QueuesInv capacity) {pc : PopPc Pointer} {timedOut : Bool}
    (hprocess : s.process = .waiting pc)
    (hs : processStep capacity destinations timedOut s (.waiting pc) = some s') :
    s'.QueuesInv capacity ∧ s.Simulates param capacity s' (.process timedOut) := by
  have hclouds := h.clouds
  have hfrees := h.frees
  simp only [taking, freeing, hprocess] at hclouds hfrees
  obtain ⟨hnext, hret⟩ := hclouds.popWait timedOut
  simp only [processStep] at hs
  cases pc with
  | loadHead =>
    cases hs
    refine ⟨⟨(hnext _ rfl).1, hfrees⟩, ?_⟩
    simp [Simulates, poolEvent, toPool, filling, inUse, hprocess, popWaitStep, popStep]
  | loadTail currentHead =>
    by_cases hempty : currentHead = s.pointCloudQueue.tail
    · cases timedOut with
      | true =>
        simp only [popWaitStep, hempty, ne_eq, not_true_eq_false, if_false, if_true] at hs hret
        cases hs
        refine ⟨⟨(hret _ rfl).1, hfrees⟩, ?_⟩
        simp [Simulates, poolEvent, toPool, filling, inUse, hprocess]
      | false =>
        simp only [popWaitStep, hempty, ne_eq, not_true_eq_false, if_false,
          Bool.false_eq_true] at hs hnext
        cases hs
        refine ⟨⟨(hnext _ rfl).1, hfrees⟩, ?_⟩
        simp [Simulates, poolEvent, toPool, filling, inUse, hprocess]
    · simp only [popWaitStep, ne_eq, hempty, not_false_eq_true, if_true] at hs hnext
      cases hs
      refine ⟨⟨(hnext _ rfl).1, hfrees⟩, ?_⟩
      simp [Simulates, poolEvent, toPool, filling, inUse, hprocess]
  | loadSlot currentHead =>
    cases hs
    refine ⟨⟨(hnext _ rfl).1, hfrees⟩, ?_⟩
    simp [Simulates, poolEvent, toPool, filling, inUse, hprocess, popWaitStep, popStep]
  | storeHead currentHead value =>
    obtain ⟨hcloud, ⟨cell, hsome, hunread⟩ | ⟨hnone, -⟩⟩ := hret _ rfl
    · obtain rfl := Option.some.inj hsome
      simp only [popWaitStep, popStep] at hs hcloud hunread
      cases hs
      refine ⟨⟨hcloud, hfrees⟩, ?_⟩
      simp [Simulates, poolEvent, toPool, filling, inUse, hprocess, Pool.step, hunread]
    · cases hnone

/-- A step of the push to `free_point_cloud_queue_`. -/
theorem freeing_step (h : s.QueuesInv capacity) {msg : ℕ} {pc : PushPc} {timedOut : Bool}
    (hprocess : s.process = .freeing msg pc)
    (hs : processStep capacity destinations timedOut s (.freeing msg pc) = some s') :
    s'.QueuesInv capacity ∧ s.Simulates param capacity s' (.process timedOut) := by
  have hclouds := h.clouds
  have hfrees := h.frees
  simp only [taking, freeing, hprocess] at hclouds hfrees
  obtain ⟨hunread, hnext, hret⟩ := hfrees.push
  simp only [processStep] at hs
  cases pc with
  | loadTail =>
    cases hs
    refine ⟨⟨hclouds, hnext _ rfl⟩, ?_⟩
    simp [Simulates, poolEvent, toPool, filling, inUse, hprocess, PushPc.pending, pushStep]
  | loadHead currentTail =>
    by_cases hfull : (currentTail + 1) % capacity = s.freePointCloudQueue.head
    · simp only [pushStep, if_pos hfull] at hs hret
      cases hs
      refine ⟨⟨hclouds, (hret _ rfl).1⟩, ?_⟩
      simp [Simulates, poolEvent, toPool, filling, inUse, hprocess, PushPc.pending, hfull,
        Pool.step]
    · simp only [pushStep, if_neg hfull] at hs hnext
      cases hs
      refine ⟨⟨hclouds, hnext _ rfl⟩, ?_⟩
      simp [Simulates, poolEvent, toPool, filling, inUse, hprocess, PushPc.pending, hfull]
  | storeSlot currentTail =>
    cases hs
    refine ⟨⟨hclouds, hnext _ rfl⟩, ?_⟩
    have hsame : unread capacity (pushStep capacity (some msg) s.freePointCloudQueue
        (.storeSlot currentTail)).1 = unread capacity s.freePointCloudQueue := hunread
    simp [Simulates, poolEvent, toPool, filling, inUse, hprocess, PushPc.pending, hsame]
  | storeTail currentTail =>
    cases hs
    refine ⟨⟨hclouds, hnext _ rfl⟩, ?_⟩
    have hgive : unread capacity (pushStep capacity (some msg) s.freePointCloudQueue
        (.storeTail currentTail)).1 =
          unread capacity s.freePointCloudQueue ++ [some msg] := hunread
    simp [Simulates, poolEvent, toPool, filling, inUse, hprocess, PushPc.pending, hgive,
      Pool.step, List.reduceOption_append]
  | sizeHead =>
    cases hs
    refine ⟨⟨hclouds, hnext _ rfl⟩, ?_⟩
    simp [Simulates, poolEvent, toPool, filling, inUse, hprocess, PushPc.pending, pushStep]
  | sizeTail head =>
    cases hs
    refine ⟨⟨hclouds, (hret _ rfl).1⟩, ?_⟩
    simp [Simulates, poolEvent, toPool, filling, inUse, hprocess, PushPc.pending, pushStep]

/-- The handle thread changes its cloud between two calls of its decoder. -/
theorem modify_step (h : s.QueuesInv capacity)
    (hdecode : s.decode = .decoding ∨ s.decode = .stopped) (f : CloudMsg P → CloudMsg P) :
    (s.modify f).QueuesInv capacity ∧
      (s.toPool capacity).step (capacity - 1) (.fill f) = some ((s.modify f).toPool capacity) := by
  refine ⟨⟨h.clouds, h.frees⟩, ?_⟩
  have hfilling : s.filling = some s.pointCloud := by
    rcases hdecode with hdecode | hdecode <;> rw [filling, hdecode]
  simp only [toPool, Pool.step, hfilling, Option.map_some]
  rw [← hfilling]
  rfl

/-- Before `start` and behind `stop` there is no handle thread. -/
def Stopped (s : SourceDriver P) : Prop := s.startFlag = false → s.decode = .stopped

theorem stopped_step (h : s.Stopped) {e : SourceEvent P}
    (hs : step param capacity destinations s e = some s') : s'.Stopped := by
  cases e with
  | start =>
    simp only [step] at hs
    split at hs
    · split at hs <;> cases hs
      · exact h
      · exact fun hflag => (by cases hflag)
    · cases hs
  | stop =>
    simp only [step] at hs
    split at hs <;> cases hs
    exact h
  | control =>
    simp only [step] at hs
    unfold controlStep at hs
    split at hs
    · split at hs
      · split at hs <;> cases hs
        exact fun _ => rfl
      · cases hs
        exact h
    · cases hs
      exact h
    · split at hs <;> cases hs
      exact h
    · cases hs
  | call c =>
    cases c with
    | point p =>
      simp only [step] at hs
      split at hs <;> cases hs
      exact h
    | splitFrame height =>
      simp only [step] at hs
      split at hs
      · rename_i hdecode
        cases hs
        intro hflag
        have hstart : s.startFlag = false := by
          simp only [splitFrame] at hflag
          split at hflag <;> exact hflag
        rw [h hstart] at hdecode
        cases hdecode
      · cases hs
  | clearOver =>
    simp only [step] at hs
    split at hs
    · cases hs
      split <;> exact h
    · cases hs
  | decode =>
    intro hflag
    have hsame : s'.startFlag = s.startFlag := by
      simp only [step] at hs
      unfold decodeStep at hs
      split at hs
      · dsimp only at hs
        split at hs <;> cases hs <;> rfl
      · dsimp only at hs
        split at hs <;> cases hs <;> rfl
      · cases hs
    simp only [step, h (hsame ▸ hflag), decodeStep] at hs
    cases hs
  | process timedOut =>
    have hsame : s'.startFlag = s.startFlag ∧ s'.decode = s.decode := by
      simp only [step] at hs
      unfold processStep at hs
      split at hs
      · cases hs
        exact ⟨rfl, rfl⟩
      · dsimp only at hs
        split at hs <;> cases hs <;> exact ⟨rfl, rfl⟩
      · split at hs
        · split at hs <;> cases hs <;> exact ⟨rfl, rfl⟩
        · cases hs
          exact ⟨rfl, rfl⟩
      · dsimp only at hs
        split at hs <;> cases hs <;> exact ⟨rfl, rfl⟩
      · cases hs
    exact fun hflag => hsame.2.trans (h (hsame.1 ▸ hflag))

/-- A step of `stop`. -/
theorem control_step (h : s.QueuesInv capacity) (hs : controlStep s s.control = some s') :
    s'.QueuesInv capacity ∧ s.Simulates param capacity s' .control := by
  cases hcontrol : s.control with
  | stopping =>
    rw [hcontrol] at hs
    simp only [controlStep] at hs
    split at hs
    · rename_i hflag
      split at hs
      · rename_i hdecode
        cases hs
        have hclouds := h.clouds
        have hfrees := h.frees
        simp only [putting, getting, hdecode] at hclouds hfrees
        obtain ⟨-, hfill⟩ := modify_step h (.inl hdecode) CloudMsg.clear
        refine ⟨⟨hclouds, hfrees⟩, ?_⟩
        simp only [Simulates, poolEvent, hcontrol, hflag, and_self, if_true, Option.elim_some]
        rw [hfill]
        simp [toPool, filling, modify, hdecode, inUse]
      · cases hs
    · rename_i hflag
      cases hs
      exact ⟨⟨h.clouds, h.frees⟩, by simp [Simulates, poolEvent, hflag, toPool, filling, inUse]⟩
  | exiting =>
    rw [hcontrol] at hs
    cases hs
    exact ⟨⟨h.clouds, h.frees⟩, by simp [Simulates, poolEvent, hcontrol, toPool, filling, inUse]⟩
  | joining =>
    rw [hcontrol] at hs
    simp only [controlStep] at hs
    split at hs
    · cases hs
      exact ⟨⟨h.clouds, h.frees⟩, by simp [Simulates, poolEvent, hcontrol, toPool, filling, inUse]⟩
    · cases hs
  | idle =>
    rw [hcontrol] at hs
    cases hs

/-- A step of `sendPointCloud` only reads. -/
theorem sending_step (h : s.QueuesInv capacity) {msg dst : ℕ} {copied : List P} {timedOut : Bool}
    (hprocess : s.process = .sending msg dst copied)
    (hs : processStep capacity destinations timedOut s (.sending msg dst copied) = some s') :
    s'.QueuesInv capacity ∧ s.Simulates param capacity s' (.process timedOut) := by
  have hclouds := h.clouds
  have hfrees := h.frees
  simp only [taking, freeing, hprocess] at hclouds hfrees
  simp only [processStep] at hs
  split at hs
  · split at hs <;> cases hs
    · exact ⟨⟨hclouds, hfrees⟩,
        by simp [Simulates, poolEvent, hprocess, toPool, filling, inUse]⟩
    · exact ⟨⟨hclouds, hfrees⟩,
        by simp [Simulates, poolEvent, hprocess, toPool, filling, inUse]⟩
  · cases hs
    refine ⟨⟨hclouds, hfrees.beginPush msg⟩, ?_⟩
    simp [Simulates, poolEvent, hprocess, toPool, filling, inUse, PushPc.pending]

/-- **For the clouds a step is one of the pool**, or nothing. -/
theorem toPool_step (h : s.QueuesInv capacity) (hstopped : s.Stopped) {e : SourceEvent P}
    (hs : step param capacity destinations s e = some s') :
    s'.QueuesInv capacity ∧ s.Simulates param capacity s' e := by
  cases e with
  | start =>
    simp only [step] at hs
    split at hs
    · split at hs
      · cases hs
        exact ⟨h, rfl⟩
      · rename_i hflag
        cases hs
        have hdecode := hstopped (Bool.eq_false_iff.mpr hflag)
        have hclouds := h.clouds
        have hfrees := h.frees
        simp only [putting, getting, hdecode] at hclouds hfrees
        refine ⟨⟨hclouds, hfrees⟩, ?_⟩
        simp [Simulates, poolEvent, toPool, filling, inUse, hdecode]
    · cases hs
  | stop =>
    simp only [step] at hs
    split at hs
    · cases hs
      exact ⟨⟨h.clouds, h.frees⟩, rfl⟩
    · cases hs
  | control => exact control_step h hs
  | call c =>
    cases c with
    | point p =>
      simp only [step] at hs
      split at hs
      · rename_i hdecode
        cases hs
        exact modify_step h (.inl hdecode) _
      · cases hs
    | splitFrame height =>
      simp only [step] at hs
      split at hs
      · rename_i hdecode
        cases hs
        by_cases hsize : 0 < (s.clouds s.pointCloud).points.length
        · simp only [splitFrame, Simulates, poolEvent, if_pos hsize]
          have hclouds := h.clouds
          have hfrees := h.frees
          simp only [putting, getting, hdecode] at hclouds hfrees
          obtain ⟨-, hfill⟩ := modify_step h (.inl hdecode) fun msg =>
            ⟨DecoderMech.setPointCloudHeader param height msg.points, s.pointCloudSeq⟩
          refine ⟨⟨hclouds.beginPush s.pointCloud, hfrees⟩, ?_⟩
          rw [Option.elim_some, hfill]
          simp [toPool, filling, modify, hdecode, inUse, PushPc.pending]
        · simp only [splitFrame, Simulates, poolEvent, if_neg hsize]
          exact ⟨h, rfl⟩
      · cases hs
  | clearOver =>
    simp only [step] at hs
    split at hs
    · rename_i hdecode
      cases hs
      by_cases hover : 5000000 < (s.clouds s.pointCloud).points.length
      · simp only [Simulates, poolEvent, if_pos hover]
        exact modify_step h (.inl hdecode) _
      · simp only [Simulates, poolEvent, if_neg hover]
        exact ⟨h, rfl⟩
    · cases hs
  | decode =>
    simp only [step] at hs
    cases hdecode : s.decode with
    | putting pc => exact putting_step h hdecode (hdecode ▸ hs)
    | getting pc => exact getting_step h hdecode (hdecode ▸ hs)
    | stopped => simp [hdecode, decodeStep] at hs
    | decoding => simp [hdecode, decodeStep] at hs
  | process timedOut =>
    simp only [step] at hs
    cases hprocess : s.process with
    | waiting pc => exact waiting_step h hprocess (hprocess ▸ hs)
    | freeing msg pc => exact freeing_step h hprocess (hprocess ▸ hs)
    | sending msg dst copied => exact sending_step h hprocess (hprocess ▸ hs)
    | idle =>
      rw [hprocess] at hs
      cases hs
      have hclouds := h.clouds
      have hfrees := h.frees
      simp only [taking, freeing, hprocess] at hclouds hfrees
      cases hexit : s.toExitProcess with
      | true =>
        exact ⟨⟨hclouds, hfrees⟩,
          by simp [Simulates, poolEvent, hprocess, toPool, filling, inUse]⟩
      | false =>
        exact ⟨⟨hclouds.beginPop, hfrees⟩,
          by simp [Simulates, poolEvent, hprocess, toPool, filling, inUse]⟩
    | exited => simp [hprocess, processStep] at hs

/-! ### Every state -/

/-- The queues, the pool, and the thread that is not there. -/
structure Inv (capacity : ℕ) (s : SourceDriver P) : Prop where
  queues : s.QueuesInv capacity
  stopped : s.Stopped
  pool : (s.toPool capacity).Inv (capacity - 1)

theorem init_inv (hcapacity : 0 < capacity) : (init : SourceDriver P).Inv capacity where
  queues := ⟨Spsc.init hcapacity, Spsc.init hcapacity⟩
  stopped := fun _ => rfl
  pool := by
    have hunread : unread capacity (SyncQueue.init : SyncQueue Pointer) = [] :=
      (Holding.init hcapacity).unread_eq
    have hpool : (init : SourceDriver P).toPool capacity = Pool.init fun _ => .empty := by
      simp [toPool, init, hunread, Pool.init, filling, inUse]
    rw [hpool]
    exact Pool.init_inv _ _

theorem Inv.step (h : s.Inv capacity) {e : SourceEvent P}
    (hs : s.step param capacity destinations e = some s') : s'.Inv capacity := by
  obtain ⟨hqueues, hsim⟩ := toPool_step h.queues h.stopped hs
  refine ⟨hqueues, stopped_step h.stopped hs, ?_⟩
  unfold Simulates at hsim
  cases hevent : s.poolEvent param capacity e with
  | none =>
    rw [hevent] at hsim
    rw [← Option.some.inj hsim]
    exact h.pool
  | some e' =>
    rw [hevent] at hsim
    exact h.pool.step hsim

theorem run_inv (hcapacity : 0 < capacity) {Ok : SourceDriver P → SourceEvent P → Prop}
    {tr : List (SourceDriver P × SourceEvent P)}
    (h : Run (step param capacity destinations) Ok init tr s) : s.Inv capacity :=
  h.invariant (P := fun _ s => s.Inv capacity) (init_inv hcapacity)
    fun _ _ _ _ hinv _ hs => hinv.step hs

/-- **A cloud is in one place**: with a thread, or in one of the queues. At most as many
clouds as a queue has slots, and one more, are in circulation, whatever pointers the popped
slots keep; and while destinations read a cloud it stays what it was when it was taken. -/
theorem clouds_exclusive (hcapacity : 0 < capacity)
    {tr : List (SourceDriver P × SourceEvent P)}
    (h : Run (step param capacity destinations) (fun _ _ => True) init tr s) :
    (s.toPool capacity).owned.Nodup ∧ (s.toPool capacity).owned.length ≤ capacity + 1 ∧
      ∀ msg dst copied, s.process = .sending msg dst copied →
        s.taken.getLast? = some (s.clouds msg) := by
  have hinv := (run_inv hcapacity h).pool
  refine ⟨hinv.nodup, ?_, ?_⟩
  · have hsize := hinv.size
    omega
  · intro msg dst copied hprocess
    apply hinv.seen
    simp [toPool, inUse, hprocess]

/-- The decoder fills a second cloud while the first one is read. -/
theorem clouds_exclusive_demo :
    ∃ (tr : List (SourceDriver ℕ × SourceEvent ℕ)) (s : SourceDriver ℕ),
      Run (step fiveBlksParam 3 2) (fun _ _ => True) init tr s ∧
      (s.toPool 3).owned = [1, 0] ∧
      (s.toPool 3).owned.Nodup ∧ (s.toPool 3).owned.length ≤ 3 + 1 ∧
        ∀ msg dst copied, s.process = .sending msg dst copied →
          s.taken.getLast? = some (s.clouds msg) := by
  have hrun : ((exec (step fiveBlksParam 3 2) init
      ([.start, .call (.point 7), .call (.splitFrame 1)] ++ List.replicate 8 .decode ++
        List.replicate 6 (.process false))).any fun s =>
          decide ((s.toPool 3).owned = [1, 0])) = true := by
    decide +kernel
  obtain ⟨s, hs, howned⟩ := (Option.any_eq_true _ _).mp hrun
  obtain ⟨tr, -, hrun⟩ := Run.of_exec hs
  exact ⟨tr, s, hrun, of_decide_eq_true howned, clouds_exclusive (by decide) hrun⟩

/-! ### What is put -/

/-- What an event does to the clouds, when nothing but the decoder is looked at. -/
def decodeEvent (param : RSDecoderParam) (d : DriverCloud P) :
    SourceDriver P × SourceEvent P → DriverCloud P
  | (_, .call c) => d.call param c
  | (_, .clearOver) => d.clearOver
  | (s, .control) =>
    if s.control = .stopping ∧ s.startFlag = true then { d with pointCloud := [] } else d
  | _ => d

/-- The clouds that the decoder makes in a run. -/
def decoded (param : RSDecoderParam) (tr : List (SourceDriver P × SourceEvent P)) :
    DriverCloud P := tr.foldl (decodeEvent param) .init

/-- The points of the cloud that the decoder has. -/
def currentPoints (s : SourceDriver P) : List P :=
  match s.decode with
  | .putting _ => []
  | .getting _ => []
  | _ => (s.clouds s.pointCloud).points

/-- The cloud that is to be pushed. -/
def pendingPut (s : SourceDriver P) : List (CloudMsg P) :=
  match s.decode with
  | .putting pc => if pc.pending then [s.clouds s.pointCloud] else []
  | _ => []

/-- Every cloud of the decoder was pushed or refused, but for the one that is to be
pushed. -/
structure Decodes (s : SourceDriver P) (d : DriverCloud P) : Prop where
  seq : d.pointCloudSeq = s.pointCloudSeq
  points : d.pointCloud = s.currentPoints
  put : ∃ before, d.putClouds = before ++ s.pendingPut ∧ s.accepted.Sublist before ∧
    s.accepted.length + s.refused = before.length

/-- The process thread leaves everything alone that the handle thread has. -/
theorem processStep_same {timedOut : Bool}
    (hs : processStep capacity destinations timedOut s s.process = some s') :
    s'.decode = s.decode ∧ s'.clouds = s.clouds ∧ s'.pointCloud = s.pointCloud ∧
      s'.pointCloudSeq = s.pointCloudSeq ∧ s'.accepted = s.accepted ∧ s'.refused = s.refused := by
  unfold processStep at hs
  split at hs
  · cases hs
    exact ⟨rfl, rfl, rfl, rfl, rfl, rfl⟩
  · dsimp only at hs
    split at hs <;> cases hs <;> exact ⟨rfl, rfl, rfl, rfl, rfl, rfl⟩
  · split at hs
    · split at hs <;> cases hs <;> exact ⟨rfl, rfl, rfl, rfl, rfl, rfl⟩
    · cases hs
      exact ⟨rfl, rfl, rfl, rfl, rfl, rfl⟩
  · dsimp only at hs
    split at hs <;> cases hs <;> exact ⟨rfl, rfl, rfl, rfl, rfl, rfl⟩
  · cases hs

namespace Decodes

variable {d : DriverCloud P}

theorem init : Decodes (.init : SourceDriver P) (.init : DriverCloud P) :=
  ⟨rfl, rfl, [], rfl, List.nil_sublist _, rfl⟩

/-- A step of the handle thread in `splitFrame`. -/
theorem decodeStep (h : s.Decodes d) (hs : decodeStep capacity s s.decode = some s') :
    s'.Decodes d := by
  obtain ⟨before, hput, hsub, hcount⟩ := h.put
  have hseq := h.seq
  have hpoints := h.points
  simp only [currentPoints] at hpoints
  cases hdecode : s.decode with
  | stopped =>
    rw [hdecode] at hs
    cases hs
  | decoding =>
    rw [hdecode] at hs
    cases hs
  | putting pc =>
    simp only [hdecode] at hpoints
    simp only [hdecode, SourceDriver.decodeStep] at hs
    simp only [pendingPut, hdecode] at hput
    cases pc with
    | loadTail =>
      cases hs
      exact ⟨hseq, hpoints, before, hput, hsub, hcount⟩
    | loadHead currentTail =>
      by_cases hfull : (currentTail + 1) % capacity = s.pointCloudQueue.head
      · simp only [pushStep, if_pos hfull] at hs
        cases hs
        refine ⟨hseq, hpoints, d.putClouds, (List.append_nil _).symm, ?_, ?_⟩
        · rw [hput]
          exact hsub.trans (List.sublist_append_left _ _)
        · rw [hput, List.length_append, ← hcount]
          rfl
      · simp only [pushStep, if_neg hfull] at hs
        cases hs
        exact ⟨hseq, hpoints, before, hput, hsub, hcount⟩
    | storeSlot currentTail =>
      cases hs
      exact ⟨hseq, hpoints, before, hput, hsub, hcount⟩
    | storeTail currentTail =>
      cases hs
      refine ⟨hseq, hpoints, d.putClouds, (List.append_nil _).symm, ?_, ?_⟩
      · rw [hput]
        exact hsub.append_right _
      · rw [hput]
        simp only [pushItems, PushPc.pending, if_true, List.length_append, ← hcount]
        exact Nat.add_right_comm _ _ _
    | sizeHead =>
      cases hs
      exact ⟨hseq, hpoints, before, hput, hsub, hcount⟩
    | sizeTail head =>
      cases hs
      exact ⟨hseq, hpoints, before, hput, hsub, hcount⟩
  | getting pc =>
    simp only [hdecode] at hpoints
    simp only [hdecode, SourceDriver.decodeStep] at hs
    simp only [pendingPut, hdecode] at hput
    split at hs <;> cases hs
    · exact ⟨hseq, hpoints, before, hput, hsub, hcount⟩
    · refine ⟨hseq, ?_, before, hput, hsub, hcount⟩
      rw [hpoints]
      simp [currentPoints, CloudMsg.clear]
    · refine ⟨hseq, ?_, before, hput, hsub, hcount⟩
      rw [hpoints]
      simp [currentPoints, CloudMsg.empty]

/-- Between two calls the decoder changes the points of its cloud. -/
theorem modify (h : s.Decodes d) (hdecode : s.decode = .decoding) (f : CloudMsg P → CloudMsg P) :
    (s.modify f).Decodes { d with pointCloud := (f (s.clouds s.pointCloud)).points } := by
  obtain ⟨before, hput, hsub, hcount⟩ := h.put
  simp only [pendingPut, hdecode] at hput
  refine ⟨h.seq, ?_, before, ?_, hsub, hcount⟩
  · simp [currentPoints, SourceDriver.modify, hdecode]
  · simpa [pendingPut, SourceDriver.modify, hdecode] using hput

/-- The cloud that the decoder has between two calls. -/
theorem decoding (h : s.Decodes d) (hdecode : s.decode = .decoding) :
    d.pointCloud = (s.clouds s.pointCloud).points := by
  have hpoints := h.points
  simpa only [currentPoints, hdecode] using hpoints

/-- `splitFrame` puts the cloud that the decoder has. -/
theorem splitFrame (h : s.Decodes d) (hdecode : s.decode = .decoding) (height : ℕ) :
    (s.splitFrame param height).Decodes (d.splitFrame param height) := by
  obtain ⟨before, hput, hsub, hcount⟩ := h.put
  simp only [pendingPut, hdecode, List.append_nil] at hput
  unfold SourceDriver.splitFrame DriverCloud.splitFrame
  rw [h.decoding hdecode]
  split
  · refine ⟨?_, rfl, before, ?_, hsub, hcount⟩
    · rw [h.seq]
    · rw [hput, h.seq]
      simp [pendingPut, PushPc.pending, SourceDriver.modify]
  · exact h

/-- `stop` clears the cloud that the decoder has. -/
theorem controlStep (h : s.Decodes d) (hs : controlStep s s.control = some s') :
    s'.Decodes (decodeEvent param d (s, .control)) := by
  cases hcontrol : s.control with
  | stopping =>
    rw [hcontrol] at hs
    simp only [SourceDriver.controlStep] at hs
    split at hs
    · rename_i hflag
      split at hs
      · rename_i hdecode
        cases hs
        have hcleared := h.modify hdecode CloudMsg.clear
        obtain ⟨before, hput, hsub, hcount⟩ := hcleared.put
        simp only [pendingPut, SourceDriver.modify, hdecode] at hput
        simp only [decodeEvent, hcontrol, hflag, and_self, if_true]
        refine ⟨hcleared.seq, ?_, before, hput, hsub, hcount⟩
        simp [currentPoints, SourceDriver.modify, CloudMsg.clear]
      · cases hs
    · rename_i hflag
      cases hs
      simp only [decodeEvent, hflag, and_false, if_false, Bool.false_eq_true]
      exact ⟨h.seq, h.points, h.put⟩
  | exiting =>
    rw [hcontrol] at hs
    cases hs
    simp only [decodeEvent, hcontrol, reduceCtorEq, false_and, if_false]
    exact ⟨h.seq, h.points, h.put⟩
  | joining =>
    rw [hcontrol] at hs
    simp only [SourceDriver.controlStep] at hs
    split at hs <;> cases hs
    simp only [decodeEvent, hcontrol, reduceCtorEq, false_and, if_false]
    exact ⟨h.seq, h.points, h.put⟩
  | idle =>
    rw [hcontrol] at hs
    cases hs

theorem step (h : s.Decodes d) (hstopped : s.Stopped) {e : SourceEvent P}
    (hs : s.step param capacity destinations e = some s') :
    s'.Decodes (decodeEvent param d (s, e)) := by
  obtain ⟨before, hput, hsub, hcount⟩ := h.put
  have hseq := h.seq
  have hpoints := h.points
  cases e with
  | start =>
    simp only [SourceDriver.step] at hs
    split at hs
    · split at hs
      · cases hs
        exact h
      · rename_i hflag
        cases hs
        have hdecode := hstopped (Bool.eq_false_iff.mpr hflag)
        simp only [currentPoints, pendingPut, hdecode] at hpoints hput
        exact ⟨hseq, hpoints, before, hput, hsub, hcount⟩
    · cases hs
  | stop =>
    simp only [SourceDriver.step] at hs
    split at hs <;> cases hs
    exact ⟨hseq, hpoints, before, hput, hsub, hcount⟩
  | control => exact h.controlStep hs
  | call c =>
    cases c with
    | point p =>
      simp only [SourceDriver.step] at hs
      split at hs
      · rename_i hdecode
        cases hs
        have hadded := h.modify hdecode fun msg => { msg with points := msg.points ++ [p] }
        rwa [← h.decoding hdecode] at hadded
      · cases hs
    | splitFrame height =>
      simp only [SourceDriver.step] at hs
      split at hs
      · rename_i hdecode
        cases hs
        exact h.splitFrame hdecode height
      · cases hs
  | clearOver =>
    simp only [SourceDriver.step] at hs
    split at hs
    · rename_i hdecode
      cases hs
      simp only [decodeEvent, DriverCloud.clearOver, h.decoding hdecode]
      split
      · exact h.modify hdecode CloudMsg.clear
      · exact h
    · cases hs
  | decode => exact h.decodeStep hs
  | process timedOut =>
    obtain ⟨hdecode, hclouds, hcloud, hseq', haccepted, hrefused⟩ := processStep_same hs
    change s'.Decodes d
    refine ⟨hseq.trans hseq'.symm, ?_, before, ?_, haccepted ▸ hsub, ?_⟩
    · simpa only [currentPoints, hdecode, hclouds, hcloud] using hpoints
    · simpa only [pendingPut, hdecode, hclouds, hcloud] using hput
    · rw [haccepted, hrefused]
      exact hcount

end Decodes

/-! ### What is sent -/

/-- The destinations got what was taken; in `sendPointCloud` those to come still lack the
last cloud, and what was copied of it are its first points. -/
def Sends (destinations : ℕ) (s : SourceDriver P) : Prop :=
  match s.process with
  | .sending _ dst copied => ∃ before last, s.taken = before ++ [last] ∧ copied <+: last.points ∧
      ∀ i < destinations, s.received i = if i < dst then s.taken else before
  | _ => ∀ i < destinations, s.received i = s.taken

/-- The other threads leave it alone. -/
theorem Sends.frame (h : s.Sends destinations) (hprocess : s'.process = s.process)
    (htaken : s'.taken = s.taken) (hreceived : s'.received = s.received) :
    s'.Sends destinations := by
  unfold Sends at h ⊢
  rw [hprocess, htaken, hreceived]
  exact h

theorem step_same {e : SourceEvent P} (hs : step param capacity destinations s e = some s')
    (he : ∀ timedOut, e ≠ .process timedOut) :
    s'.process = s.process ∧ s'.taken = s.taken ∧ s'.received = s.received := by
  cases e with
  | start =>
    simp only [step] at hs
    split at hs
    · split at hs <;> cases hs <;> exact ⟨rfl, rfl, rfl⟩
    · cases hs
  | stop =>
    simp only [step] at hs
    split at hs <;> cases hs
    exact ⟨rfl, rfl, rfl⟩
  | control =>
    simp only [step] at hs
    unfold controlStep at hs
    split at hs
    · split at hs
      · split at hs <;> cases hs
        exact ⟨rfl, rfl, rfl⟩
      · cases hs
        exact ⟨rfl, rfl, rfl⟩
    · cases hs
      exact ⟨rfl, rfl, rfl⟩
    · split at hs <;> cases hs
      exact ⟨rfl, rfl, rfl⟩
    · cases hs
  | call c =>
    cases c with
    | point p =>
      simp only [step] at hs
      split at hs <;> cases hs
      exact ⟨rfl, rfl, rfl⟩
    | splitFrame height =>
      simp only [step] at hs
      split at hs <;> cases hs
      unfold splitFrame
      split <;> exact ⟨rfl, rfl, rfl⟩
  | clearOver =>
    simp only [step] at hs
    split at hs <;> cases hs
    split <;> exact ⟨rfl, rfl, rfl⟩
  | decode =>
    simp only [step] at hs
    unfold decodeStep at hs
    split at hs
    · dsimp only at hs
      split at hs <;> cases hs <;> exact ⟨rfl, rfl, rfl⟩
    · dsimp only at hs
      split at hs <;> cases hs <;> exact ⟨rfl, rfl, rfl⟩
    · cases hs
  | process timedOut => exact absurd rfl (he timedOut)

/-- A step of `sendPointCloud`: as long as the cloud is what was taken last, a destination
that has copied all points has got that. -/
theorem sends_sending (h : s.Sends destinations) {msg dst : ℕ} {copied : List P} {timedOut : Bool}
    (hprocess : s.process = .sending msg dst copied)
    (hlast : s.taken.getLast? = some (s.clouds msg))
    (hs : processStep capacity destinations timedOut s (.sending msg dst copied) = some s') :
    s'.Sends destinations := by
  simp only [Sends, hprocess] at h
  obtain ⟨before, last, htaken, hcopied, hreceived⟩ := h
  obtain rfl : last = s.clouds msg := by
    rw [htaken, List.getLast?_concat] at hlast
    exact Option.some.inj hlast
  simp only [processStep] at hs
  split at hs
  · rename_i hdst
    split at hs
    · rename_i p hp
      cases hs
      refine ⟨before, _, htaken, ?_, hreceived⟩
      rw [List.prefix_iff_eq_take] at hcopied ⊢
      rw [List.length_append, List.length_singleton, List.take_add_one, hp, ← hcopied]
      rfl
    · rename_i hend
      cases hs
      have hall : copied = (s.clouds msg).points :=
        hcopied.eq_of_length_le (List.getElem?_eq_none_iff.mp hend)
      refine ⟨before, _, htaken, List.nil_prefix, ?_⟩
      intro i hi
      rcases Nat.lt_trichotomy i dst with hlt | rfl | hgt
      · simp only [Function.update_of_ne (Nat.ne_of_lt hlt)]
        rw [hreceived i hi, if_pos hlt, if_pos (Nat.lt_succ_of_lt hlt)]
      · simp only [Function.update_self]
        rw [hreceived i hi, if_neg (Nat.lt_irrefl _), if_pos (Nat.lt_succ_self _), htaken, hall]
      · simp only [Function.update_of_ne (Nat.ne_of_gt hgt)]
        rw [hreceived i hi, if_neg (Nat.not_lt.mpr (Nat.le_of_lt hgt)),
          if_neg (Nat.not_lt.mpr hgt)]
  · rename_i hdst
    cases hs
    intro i hi
    exact (hreceived i hi).trans (if_pos (by omega))

/-- Every destination gets what is taken. -/
theorem sends_step (h : s.Sends destinations) (hinv : s.Inv capacity) {e : SourceEvent P}
    (hs : step param capacity destinations s e = some s') : s'.Sends destinations := by
  by_cases he : ∃ timedOut, e = .process timedOut
  · obtain ⟨timedOut, rfl⟩ := he
    simp only [step] at hs
    cases hprocess : s.process with
    | sending msg dst copied =>
      have hlast : s.taken.getLast? = some (s.clouds msg) :=
        hinv.pool.seen msg (by simp [toPool, inUse, hprocess])
      exact sends_sending h hprocess hlast (hprocess ▸ hs)
    | idle =>
      simp only [Sends, hprocess] at h
      rw [hprocess] at hs
      cases hs
      cases s.toExitProcess <;> exact h
    | waiting pc =>
      simp only [Sends, hprocess] at h
      simp only [hprocess, processStep] at hs
      split at hs <;> cases hs
      · exact h
      · exact ⟨s.taken, _, rfl, List.nil_prefix, h⟩
      · exact h
    | freeing msg pc =>
      simp only [Sends, hprocess] at h
      simp only [hprocess, processStep] at hs
      split at hs <;> cases hs <;> exact h
    | exited =>
      rw [hprocess] at hs
      cases hs
  · obtain ⟨hprocess, htaken, hreceived⟩ :=
      step_same hs fun timedOut heq => he ⟨timedOut, heq⟩
    exact h.frame hprocess htaken hreceived

/-- What a destination got is the beginning of what was taken, and all of it when the
process thread does not send. -/
theorem Sends.received (h : s.Sends destinations) {dst : ℕ} (hdst : dst < destinations) :
    s.received dst <+: s.taken ∧ (s.inUse = none → s.received dst = s.taken) := by
  unfold Sends at h
  split at h
  · rename_i msg i copied hprocess
    obtain ⟨before, last, htaken, -, hreceived⟩ := h
    refine ⟨?_, fun huse => by simp [inUse, hprocess] at huse⟩
    rw [hreceived dst hdst]
    split
    · exact List.prefix_rfl
    · exact htaken ▸ List.prefix_append _ _
  · have heq := h dst hdst
    exact ⟨heq ▸ List.prefix_rfl, fun _ => heq⟩

/-- A cloud is refused only when the queue has one free slot left. -/
theorem refused_step (h : s.Inv capacity) {e : SourceEvent P}
    (hroom : (unread capacity s.pointCloudQueue).length + 1 < capacity)
    (hs : step param capacity destinations s e = some s') : s'.refused = s.refused := by
  cases e with
  | decode =>
    simp only [step] at hs
    unfold decodeStep at hs
    split at hs
    · rename_i pc hdecode
      have hclouds := h.queues.clouds
      simp only [putting, hdecode] at hclouds
      have hat := hclouds.pushAt _ rfl
      dsimp only at hs
      split at hs <;> cases hs
      · rfl
      · rename_i hret
        cases pc with
        | loadHead currentTail =>
          have htail : currentTail = s.pointCloudQueue.tail := hat
          by_cases hfull : (currentTail + 1) % capacity = s.pointCloudQueue.head
          · rw [htail, hclouds.holding.full_iff] at hfull
            omega
          · simp [pushStep, hfull] at hret
        | loadTail => cases hret
        | storeSlot currentTail => cases hret
        | storeTail currentTail => cases hret
        | sizeHead => cases hret
        | sizeTail head => cases hret
      · rfl
    · dsimp only at hs
      split at hs <;> cases hs <;> rfl
    · cases hs
  | process timedOut => exact (processStep_same hs).2.2.2.2.2
  | start =>
    simp only [step] at hs
    split at hs
    · split at hs <;> cases hs <;> rfl
    · cases hs
  | stop =>
    simp only [step] at hs
    split at hs <;> cases hs
    rfl
  | control =>
    simp only [step] at hs
    unfold controlStep at hs
    split at hs
    · split at hs
      · split at hs <;> cases hs
        rfl
      · cases hs
        rfl
    · cases hs
      rfl
    · split at hs <;> cases hs
      rfl
    · cases hs
  | call c =>
    cases c with
    | point p =>
      simp only [step] at hs
      split at hs <;> cases hs
      rfl
    | splitFrame height =>
      simp only [step] at hs
      split at hs <;> cases hs
      unfold splitFrame
      split <;> rfl
  | clearOver =>
    simp only [step] at hs
    split at hs <;> cases hs
    split <;> rfl

theorem run_decodes (hcapacity : 0 < capacity) {tr : List (SourceDriver P × SourceEvent P)}
    (h : Run (step param capacity destinations) (fun _ _ => True) init tr s) :
    s.Decodes (decoded param tr) ∧ s.Sends destinations := by
  have hall : s.Inv capacity ∧ s.Decodes (decoded param tr) ∧ s.Sends destinations := by
    refine h.invariant (P := fun tr s =>
      s.Inv capacity ∧ s.Decodes (decoded param tr) ∧ s.Sends destinations)
      ⟨init_inv hcapacity, .init, fun _ _ => rfl⟩ ?_
    intro tr s e s' ⟨hinv, hdecodes, hsends⟩ _ hs
    refine ⟨hinv.step hs, ?_, sends_step hsends hinv hs⟩
    rw [decoded, List.foldl_append]
    exact hdecodes.step hinv.stopped hs
  exact hall.2

theorem run_refused (hcapacity : 0 < capacity) {tr : List (SourceDriver P × SourceEvent P)}
    (h : Run (step param capacity destinations)
      (fun s _ => (unread capacity s.pointCloudQueue).length + 1 < capacity) init tr s) :
    s.refused = 0 := by
  have hall : s.Inv capacity ∧ s.refused = 0 := by
    refine h.invariant (P := fun _ s => s.Inv capacity ∧ s.refused = 0)
      ⟨init_inv hcapacity, rfl⟩ fun tr s e s' ih hroom hs => ?_
    exact ⟨ih.1.step hs, (refused_step ih.1 hroom hs).trans ih.2⟩
  exact hall.2

/-- **Every destination gets the clouds of the decoder**, in their order and as they were
put, but for those that found the queue full: all of them that were pushed once the queue
is empty and the process thread has none. No cloud is lost as long as there is room. -/
theorem clouds_delivered (hcapacity : 0 < capacity)
    {tr : List (SourceDriver P × SourceEvent P)}
    (h : Run (step param capacity destinations) (fun _ _ => True) init tr s) :
    s.accepted.Sublist (decoded param tr).putClouds ∧
      (∀ dst < destinations, s.received dst <+: s.accepted ∧
        (s.inUse = none → unread capacity s.pointCloudQueue = [] →
          s.received dst = s.accepted)) ∧
      ((∀ x ∈ tr, (unread capacity x.1.pointCloudQueue).length + 1 < capacity) →
        s.decode = .decoding → s.accepted = (decoded param tr).putClouds) := by
  obtain ⟨hdecodes, hsends⟩ := run_decodes hcapacity h
  have hflow : s.taken ++ (unread capacity s.pointCloudQueue).reduceOption.map s.clouds =
      s.accepted := (run_inv hcapacity h).pool.flow
  obtain ⟨before, hput, hsub, hcount⟩ := hdecodes.put
  refine ⟨?_, fun dst hdst => ⟨?_, fun huse hempty => ?_⟩, fun hroom hdecode => ?_⟩
  · rw [hput]
    exact hsub.trans (List.sublist_append_left _ _)
  · rw [← hflow]
    exact (hsends.received hdst).1.trans (List.prefix_append _ _)
  · rw [(hsends.received hdst).2 huse, ← hflow, hempty]
    exact (List.append_nil _).symm
  · have hrefused := run_refused hcapacity (h.of_forall hroom)
    rw [hrefused] at hcount
    rw [hput, pendingPut, hdecode, hsub.eq_of_length hcount]
    exact (List.append_nil _).symm

/-- Two destinations read one cloud while the decoder fills the next one. -/
theorem clouds_delivered_demo :
    ∃ (tr : List (SourceDriver ℕ × SourceEvent ℕ)) (s : SourceDriver ℕ),
      Run (step fiveBlksParam 3 2) (fun _ _ => True) init tr s ∧
      ((s.received 0).map (·.points) = [[7]] ∧ (s.received 1).map (·.points) = [[7]] ∧
        (s.clouds s.pointCloud).points = [8]) ∧
      s.accepted.Sublist (decoded fiveBlksParam tr).putClouds ∧
        (∀ dst < 2, s.received dst <+: s.accepted ∧
          (s.inUse = none → unread 3 s.pointCloudQueue = [] → s.received dst = s.accepted)) ∧
        ((∀ x ∈ tr, (unread 3 x.1.pointCloudQueue).length + 1 < 3) →
          s.decode = .decoding → s.accepted = (decoded fiveBlksParam tr).putClouds) := by
  have hrun : ((exec (step fiveBlksParam 3 2) init
      ([.start, .call (.point 7), .call (.splitFrame 1)] ++ List.replicate 8 .decode ++
        List.replicate 6 (.process false) ++ [.call (.point 8)] ++
        List.replicate 10 (.process false))).any fun s =>
          decide ((s.received 0).map (·.points) = [[7]] ∧ (s.received 1).map (·.points) = [[7]] ∧
            (s.clouds s.pointCloud).points = [8])) = true := by
    decide +kernel
  obtain ⟨s, hs, hgot⟩ := (Option.any_eq_true _ _).mp hrun
  obtain ⟨tr, -, hrun⟩ := Run.of_exec hs
  exact ⟨tr, s, hrun, of_decide_eq_true hgot, clouds_delivered (by decide) hrun⟩

end SourceDriver

end Rs
end SensorSupport
