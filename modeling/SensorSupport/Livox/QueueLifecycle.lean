/-
# The storage of the data queues (`livox_ros_driver2/src/comm/ldq.cpp`, `lds.cpp`)

`InitQueue` allocates the storage of a queue, and releases what the queue had before.
`DeInitQueue`, which a reset of the lidar calls, releases it too and resets the indices,
but not the pointer. So the next push finds a pointer that is not null, does not call
`InitQueue`, and writes what was released; `InitQueue` and `DeInitQueue` release it again.

A call that touches released storage is stuck (`none`). No call of a sequence is, and the
first push behind a reset re-initialises its queue, exactly when the release of a queue
that was filled is the last that happens to it (`lifecycle_iff`).

Key definitions: `QueuePtr`, `Lds`, `LdsOp`, `ldsStep`, `Owns`, `LifecycleOk`.
Key theorems: `ldsStep_owns`, `exec_lds`, `lifecycle_iff`, `lifecycle_reconnect`.
-/
import Mathlib.Data.Fintype.Basic
import Mathlib.Data.List.FinRange
import SensorSupport.Lib.Ownership
import SensorSupport.Livox.LidarPolling
import SensorSupport.Livox.PointPackets

namespace SensorSupport
namespace Livox
namespace QueueLifecycle

/-! ### A queue and the heap -/

/-- The storage of the queues. -/
abbrev StorageHeap := Heap (Array StoragePacket)

/-- `LidarDataQueue` with its storage behind a pointer. -/
structure QueuePtr where
  storagePacket : Option ℕ
  rdIdx : UInt32
  wrIdx : UInt32
  mask : UInt32
  size : UInt32
deriving DecidableEq, Repr

/-- The null pointer and indices of a static object. -/
def QueuePtr.null : QueuePtr := ⟨none, 0, 0, 0, 0⟩

/-- The queue with what is behind its pointer, unless that is released. -/
def QueuePtr.load (heap : StorageHeap) (queue : QueuePtr) : Option LidarDataQueue :=
  match queue.storagePacket with
  | none => some ⟨none, queue.rdIdx, queue.wrIdx, queue.mask, queue.size⟩
  | some a => (heap.cells a).map fun cells =>
    ⟨some cells, queue.rdIdx, queue.wrIdx, queue.mask, queue.size⟩

/-- `if (queue->storage_packet) delete[] queue->storage_packet`. -/
def deleteStorage (heap : StorageHeap) (queue : QueuePtr) : Option StorageHeap :=
  match queue.storagePacket with
  | none => some heap
  | some a => heap.free a

/-- `InitQueue`. -/
def initQueue (heap : StorageHeap) (queue : QueuePtr) (queueSize : UInt32) :
    Option (StorageHeap × QueuePtr) := do
  let queueSize := if isPowerOf2 queueSize then queueSize else roundupPowerOf2 queueSize
  let heap ← deleteStorage heap queue
  some (heap.alloc (Array.replicate queueSize.toNat default),
    { storagePacket := some heap.next
      rdIdx := 0
      wrIdx := 0
      mask := queueSize - 1
      size := queueSize })

/-- `DeInitQueue`. -/
def deInitQueue (heap : StorageHeap) (queue : QueuePtr) : Option (StorageHeap × QueuePtr) := do
  let heap ← deleteStorage heap queue
  some (heap, { queue with rdIdx := 0, wrIdx := 0, size := 0, mask := 0 })

/-- `QueuePushAny`. -/
def queuePushAny (heap : StorageHeap) (queue : QueuePtr) (data : PointPacket)
    (baseTime : UInt64) : Option (StorageHeap × QueuePtr) := do
  let a ← queue.storagePacket
  let storage ← heap.cells a
  let wrIdx := (queue.wrIdx &&& queue.mask).toNat
  if wrIdx < storage.size then
    let heap ← heap.write a (storage.setIfInBounds wrIdx (stored data baseTime))
    some (heap, { queue with wrIdx := queue.wrIdx + 1 })
  else none

/-- `QueueIsFull`. -/
def queueIsFull (queue : QueuePtr) : Bool := queue.wrIdx - queue.rdIdx > queue.mask

/-- `QueueIsEmpty`. -/
def queueIsEmpty (queue : QueuePtr) : Bool := queue.rdIdx == queue.wrIdx

/-- `Lds::PushLidarData` on its queue, and whether it looks at the count of the semaphore. -/
def pushQueue (queueSize : UInt32) (heap : StorageHeap) (queue : QueuePtr) (data : PointPacket)
    (baseTime : UInt64) : Option ((StorageHeap × QueuePtr) × Bool) := do
  let (heap, queue) ←
    if queue.storagePacket.isNone then initQueue heap queue queueSize else some (heap, queue)
  if !queueIsFull queue then
    let r ← queuePushAny heap queue data baseTime
    some (r, !queueIsEmpty r.2)
  else some ((heap, queue), true)

/-! ### All lidars -/

/-- What a reset changes of `LidarDevice`. -/
structure LidarDevice where
  dataSrc : UInt8
  connectState : LidarConnectState
  data : QueuePtr
  imuData : List ImuData

/-- `Lds` with the heap; `pcdCount` is the count of `pcd_semaphore_`. -/
structure Lds where
  lidars : Fin kMaxSourceLidar → LidarDevice
  heap : StorageHeap
  pcdCount : ℤ

/-- A static object before its constructor. -/
def Lds.init : Lds where
  lidars _ := ⟨0, .off, .null, []⟩
  heap := .empty
  pcdCount := 0

/-- The queue of a lidar and the heap behind a call. -/
def Lds.setQueue (s : Lds) (i : Fin kMaxSourceLidar) (r : StorageHeap × QueuePtr) : Lds :=
  { s with
    heap := r.1
    lidars := Function.update s.lidars i { s.lidars i with data := r.2 } }

/-- `Lds::ResetLidar`. -/
def Lds.resetLidar (s : Lds) (i : Fin kMaxSourceLidar) (dataSrc : UInt8) : Option Lds := do
  let (heap, data) ← deInitQueue s.heap (s.lidars i).data
  some { s with
    heap := heap
    lidars := Function.update s.lidars i ⟨dataSrc, .off, data, []⟩ }

/-- `Lds::PushLidarData`. -/
def Lds.pushLidarData (queueSize : UInt32) (s : Lds) (i : Fin kMaxSourceLidar)
    (data : PointPacket) (baseTime : UInt64) : Option Lds := do
  let (r, looks) ← pushQueue queueSize s.heap (s.lidars i).data data baseTime
  some { s.setQueue i r with
    pcdCount := if looks && s.pcdCount ≤ 0 then s.pcdCount + 1 else s.pcdCount }

/-- The operations on the queues. -/
inductive LdsOp
  | initQueue (i : Fin kMaxSourceLidar) (queueSize : UInt32)
  | deInitQueue (i : Fin kMaxSourceLidar)
  | resetLidar (i : Fin kMaxSourceLidar) (dataSrc : UInt8)
  | resetLds (dataSrc : UInt8)
  | pushLidarData (i : Fin kMaxSourceLidar) (data : PointPacket) (baseTime : UInt64)

/-- One operation, or `none` when it touches released storage. -/
def ldsStep (queueSize : UInt32) (s : Lds) : LdsOp → Option Lds
  | .initQueue i size => (initQueue s.heap (s.lidars i).data size).map (s.setQueue i)
  | .deInitQueue i => (deInitQueue s.heap (s.lidars i).data).map (s.setQueue i)
  | .resetLidar i dataSrc => s.resetLidar i dataSrc
  | .resetLds dataSrc =>
    exec (fun s i => Lds.resetLidar s i dataSrc) s (List.finRange kMaxSourceLidar)
  | .pushLidarData i data baseTime => s.pushLidarData queueSize i data baseTime

/-! ### One queue -/

/-- A queue in a phase of its pointer: what it owns is a FIFO queue. -/
def Holds (heap : StorageHeap) (queue : QueuePtr) : Phase → Prop
  | .null => queue.storagePacket = none
  | .owning => ∃ q k cells fifo, queue.load heap = some q ∧ Represents k q cells fifo ∧
      queue.storagePacket ≠ none
  | .dangling => queue.rdIdx = queue.wrIdx ∧
      ∃ a, queue.storagePacket = some a ∧ heap.cells a = none

/-- What a call does to its queue: it is stuck, or the queue is in the next phase and the
other queues keep theirs. -/
def Does (heap : StorageHeap) (queue : QueuePtr) (r : Option (StorageHeap × QueuePtr)) :
    Option Phase → Prop
  | none => r = none
  | some p => ∃ heap' queue', r = some (heap', queue') ∧ Holds heap' queue' p ∧
      heap.Keeps queue.storagePacket heap' ∧
      ∀ b, queue'.storagePacket = some b →
        queue.storagePacket = some b ∨ heap.next ≤ b ∧ b < heap'.next

section Queue

variable {heap heap' : StorageHeap} {queue queue' : QueuePtr} {p : Phase} {q q' : LidarDataQueue}
  {a : ℕ} {queueSize : UInt32} {data : PointPacket} {baseTime : UInt64}

theorem load_owned (queue : QueuePtr) (ha : queue.storagePacket = some a) {cells : Array StoragePacket}
    (hcells : heap.cells a = some cells) : queue.load heap =
      some ⟨some cells, queue.rdIdx, queue.wrIdx, queue.mask, queue.size⟩ := by
  unfold QueuePtr.load
  rw [ha]
  simp only [hcells, Option.map_some]

/-- A queue that owns storage is loaded with it. -/
theorem Holds.owned (h : Holds heap queue .owning) : ∃ a cells k fifo,
    queue.storagePacket = some a ∧ heap.cells a = some cells ∧
      Represents k ⟨some cells, queue.rdIdx, queue.wrIdx, queue.mask, queue.size⟩ cells fifo := by
  obtain ⟨q, k, cells, fifo, hload, hq, hne⟩ := h
  obtain ⟨a, ha⟩ := Option.ne_none_iff_exists'.mp hne
  unfold QueuePtr.load at hload
  rw [ha] at hload
  obtain ⟨cells', hcells, rfl⟩ := Option.map_eq_some_iff.mp hload
  obtain rfl : cells' = cells := Option.some.inj hq.storage
  exact ⟨a, cells', k, fifo, ha, hcells, hq⟩

/-- Storage that is released by another queue is not that of this one. -/
theorem Holds.keep {own : Option ℕ} (h : Holds heap queue p) (hkeeps : heap.Keeps own heap')
    (hother : ∀ a, queue.storagePacket = some a → a < heap.next ∧ own ≠ some a) :
    Holds heap' queue p := by
  cases p with
  | null => exact h
  | owning =>
    obtain ⟨a, cells, k, fifo, ha, hcells, hq⟩ := h.owned
    obtain ⟨hlt, hne⟩ := hother a ha
    refine ⟨_, k, cells, fifo, load_owned queue ha ?_, hq, by simp [ha]⟩
    rw [hkeeps.cells a hlt hne, hcells]
  | dangling =>
    obtain ⟨hempty, a, ha, hcells⟩ := h
    obtain ⟨hlt, hne⟩ := hother a ha
    exact ⟨hempty, a, ha, (hkeeps.cells a hlt hne).trans hcells⟩

theorem deleteStorage_null (h : Holds heap queue .null) : deleteStorage heap queue = some heap := by
  unfold deleteStorage
  rw [show queue.storagePacket = none from h]

theorem deleteStorage_owning (h : Holds heap queue .owning) : ∃ a heap',
    queue.storagePacket = some a ∧ deleteStorage heap queue = some heap' ∧
      heap.Keeps (some a) heap' ∧ heap'.cells a = none ∧ heap'.next = heap.next := by
  obtain ⟨a, cells, k, fifo, ha, hcells, -⟩ := h.owned
  obtain ⟨heap', hset, hkeeps, hfree, hnext⟩ :=
    Heap.set_eq_some (x := none) (show (heap.cells a).isSome by simp [hcells])
  refine ⟨a, heap', ha, ?_, hkeeps, hfree, hnext⟩
  unfold deleteStorage
  rw [ha]
  exact hset

/-- What was released is not released again. -/
theorem deleteStorage_dangling (h : Holds heap queue .dangling) :
    deleteStorage heap queue = none := by
  obtain ⟨-, a, ha, hcells⟩ := h
  unfold deleteStorage
  rw [ha]
  exact Heap.set_eq_none hcells

/-- A queue that `InitQueue` has made. -/
def initialised (a : ℕ) (queueSize : UInt32) : QueuePtr :=
  let queue := Livox.initQueue queueSize
  ⟨some a, queue.rdIdx, queue.wrIdx, queue.mask, queue.size⟩

/-- `InitQueue` makes the queue that it makes without a heap. -/
theorem initQueue_eq (h : deleteStorage heap queue = some heap') (queueSize : UInt32) :
    ∃ heap'', initQueue heap queue queueSize =
        some (heap'', initialised heap'.next queueSize) ∧
      heap'.Keeps queue.storagePacket heap'' ∧ heap''.next = heap'.next + 1 ∧
      (initialised heap'.next queueSize).load heap'' = some (Livox.initQueue queueSize) := by
  refine ⟨_, ?_, Heap.alloc_keeps heap'
    (Array.replicate (initialised heap'.next queueSize).size.toNat default) _, rfl, ?_⟩
  · unfold initQueue
    rw [h]
    rfl
  · exact load_owned _ rfl (Heap.alloc_self _ _)

/-- `InitQueue` is stuck when the pointer dangles, else the queue owns storage. -/
theorem initQueue_does (h : Holds heap queue p) :
    Does heap queue (initQueue heap queue queueSize) (p.next .fill) := by
  obtain ⟨k, cells, hrepresents⟩ := initQueue_represents queueSize
  have hdone : ∀ heap₁, deleteStorage heap queue = some heap₁ →
      heap.Keeps queue.storagePacket heap₁ → heap₁.next = heap.next →
      Does heap queue (initQueue heap queue queueSize) (some .owning) := by
    intro heap₁ hdelete hkeeps hnext
    obtain ⟨heap₂, hinit, hkeeps', hnext', hload⟩ := initQueue_eq hdelete queueSize
    refine ⟨heap₂, _, hinit, ⟨_, k, cells, .empty, hload, hrepresents, nofun⟩,
      hkeeps.trans hkeeps' fun _ _ heq => heq, ?_⟩
    rintro b ⟨⟩
    exact .inr ⟨hnext.ge, hnext' ▸ Nat.lt_succ_self _⟩
  cases p with
  | null => exact hdone heap (deleteStorage_null h) (Heap.Keeps.refl _ _) rfl
  | owning =>
    obtain ⟨a, heap₁, ha, hdelete, hkeeps, -, hnext⟩ := deleteStorage_owning h
    exact hdone heap₁ hdelete (ha ▸ hkeeps) hnext
  | dangling =>
    change initQueue heap queue queueSize = none
    unfold initQueue
    rw [deleteStorage_dangling h]
    rfl

/-- `DeInitQueue` leaves a pointer that is not null dangling. -/
theorem deInitQueue_does (h : Holds heap queue p) :
    Does heap queue (deInitQueue heap queue) (p.next .release) := by
  have hdone : ∀ heap₁, deleteStorage heap queue = some heap₁ → deInitQueue heap queue =
      some (heap₁, { queue with rdIdx := 0, wrIdx := 0, size := 0, mask := 0 }) := by
    intro heap₁ hdelete
    unfold deInitQueue
    rw [hdelete]
    rfl
  cases p with
  | null =>
    exact ⟨heap, _, hdone heap (deleteStorage_null h), h, Heap.Keeps.refl _ _, fun b hb => .inl hb⟩
  | owning =>
    obtain ⟨a, heap₁, ha, hdelete, hkeeps, hfree, -⟩ := deleteStorage_owning h
    exact ⟨heap₁, _, hdone heap₁ hdelete, ⟨rfl, a, ha, hfree⟩, ha ▸ hkeeps, fun b hb => .inl hb⟩
  | dangling =>
    change deInitQueue heap queue = none
    unfold deInitQueue
    rw [deleteStorage_dangling h]
    rfl

/-- A push on a queue that owns storage is that of the queue without a heap. -/
theorem pushQueue_owned {cells : Array StoragePacket} {accepted : Bool}
    (ha : queue.storagePacket = some a) (hcells : heap.cells a = some cells)
    (hpush : Livox.pushLidarData queueSize
      ⟨some cells, queue.rdIdx, queue.wrIdx, queue.mask, queue.size⟩ data baseTime =
        some (q', accepted)) :
    ∃ heap' queue' looks, pushQueue queueSize heap queue data baseTime =
        some ((heap', queue'), looks) ∧
      queue'.load heap' = some q' ∧ queue'.storagePacket = some a ∧ heap.Keeps (some a) heap' := by
  unfold Livox.pushLidarData at hpush
  unfold pushQueue
  simp only [ha, Option.isNone_some, Bool.false_eq_true, if_false, Option.bind_eq_bind,
    Option.bind_some] at hpush ⊢
  have hfull : Livox.queueIsFull ⟨some cells, queue.rdIdx, queue.wrIdx, queue.mask, queue.size⟩ =
      queueIsFull queue := rfl
  rw [hfull] at hpush
  cases hf : queueIsFull queue with
  | true =>
    rw [hf] at hpush
    obtain ⟨rfl, -⟩ := Prod.mk.inj (Option.some.inj hpush)
    exact ⟨heap, queue, true, rfl, load_owned queue ha hcells, ha, Heap.Keeps.refl _ _⟩
  | false =>
    rw [hf] at hpush
    obtain ⟨q₁, hany, hq₁⟩ := Option.map_eq_some_iff.mp hpush
    obtain ⟨rfl, -⟩ := Prod.mk.inj hq₁
    unfold Livox.queuePushAny at hany
    simp only [Option.bind_eq_bind, Option.bind_some] at hany
    by_cases hlt : (queue.wrIdx &&& queue.mask).toNat < cells.size
    · rw [if_pos hlt] at hany
      obtain rfl := Option.some.inj hany
      obtain ⟨heap', hset, hkeeps, hwritten, -⟩ := Heap.set_eq_some
        (x := some (cells.setIfInBounds (queue.wrIdx &&& queue.mask).toNat (stored data baseTime)))
        (show (heap.cells a).isSome by simp [hcells])
      have hwrite : heap.write a (cells.setIfInBounds (queue.wrIdx &&& queue.mask).toNat
          (stored data baseTime)) = some heap' := hset
      refine ⟨heap', { queue with wrIdx := queue.wrIdx + 1 },
        !queueIsEmpty { queue with wrIdx := queue.wrIdx + 1 }, ?_,
        load_owned { queue with wrIdx := queue.wrIdx + 1 } ha hwritten, ha, hkeeps⟩
      simp only [queuePushAny, ha, hcells, Option.bind_eq_bind, Option.bind_some, if_pos hlt,
        hwrite, Bool.not_false, if_true]
    · rw [if_neg hlt] at hany
      cases hany

/-- A push on a null pointer leaves a queue with the packet, in storage that it allocates. -/
theorem pushQueue_null (h : Holds heap queue .null) : ∃ heap' queue' looks q k cells fifo,
    pushQueue queueSize heap queue data baseTime = some ((heap', queue'), looks) ∧
      queue'.load heap' = some q ∧ Represents k q cells fifo ∧
      fifo.items = [stored data baseTime] ∧ queue'.storagePacket = some heap.next ∧
      heap.Keeps none heap' ∧ heap.next < heap'.next := by
  obtain ⟨heap₁, hinit, hkeeps, hnext, hload⟩ := initQueue_eq (deleteStorage_null h) queueSize
  obtain ⟨k, cells, hrepresents⟩ := initQueue_represents queueSize
  obtain ⟨q', cells', fifo', hpush, hfifo, hrepresents'⟩ :=
    push_represents hrepresents queueSize data baseTime
  -- behind `InitQueue` it is the push on a queue that owns storage
  have heq : pushQueue queueSize heap queue data baseTime =
      pushQueue queueSize heap₁ (initialised heap.next queueSize) data baseTime := by
    unfold pushQueue
    rw [show queue.storagePacket = none from h, hinit]
    rfl
  obtain ⟨cells₀, hcells₀, hq⟩ := Option.map_eq_some_iff.mp hload
  rw [← hq] at hpush
  obtain ⟨heap₂, queue₂, looks, hpushed, hload₂, hptr₂, hkeeps₂⟩ :=
    pushQueue_owned (a := heap.next) rfl hcells₀ hpush
  refine ⟨heap₂, queue₂, looks, q', k, cells', fifo', heq.trans hpushed, hload₂, hrepresents',
    hfifo ▸ BoundedQueue.put_of_empty rfl (Nat.two_pow_pos k), hptr₂, ?_, ?_⟩
  · rw [show queue.storagePacket = none from h] at hkeeps
    refine hkeeps.trans hkeeps₂ fun b hb hown => ?_
    obtain rfl := Option.some.inj hown
    exact absurd hb (Nat.lt_irrefl _)
  · have := hkeeps₂.next_le
    omega

/-- A push on a queue whose storage is released writes it. -/
theorem pushQueue_dangling (h : Holds heap queue .dangling) :
    pushQueue queueSize heap queue data baseTime = none := by
  obtain ⟨hempty, a, ha, hcells⟩ := h
  have hfull : queueIsFull queue = false := by
    unfold queueIsFull
    rw [hempty, UInt32.sub_self]
    exact decide_eq_false UInt32.not_lt_zero
  unfold pushQueue
  simp only [ha, Option.isNone_some, Bool.false_eq_true, if_false, Option.bind_eq_bind,
    Option.bind_some, hfull, Bool.not_false, if_true, queuePushAny, hcells, Option.bind_none]

/-- A push is stuck when the pointer dangles, else the queue owns storage. -/
theorem pushQueue_does (h : Holds heap queue p) (queueSize : UInt32) (data : PointPacket)
    (baseTime : UInt64) :
    Does heap queue ((pushQueue queueSize heap queue data baseTime).map Prod.fst)
      (p.next .fill) := by
  cases p with
  | null =>
    obtain ⟨heap', queue', looks, q, k, cells, fifo, hpush, hload, hq, -, hptr, hkeeps, hlt⟩ :=
      @pushQueue_null heap queue queueSize data baseTime h
    refine ⟨heap', queue', by rw [hpush]; rfl, ⟨q, k, cells, fifo, hload, hq, by simp [hptr]⟩,
      (show queue.storagePacket = none from h) ▸ hkeeps, fun b hb => ?_⟩
    rw [hptr, Option.some.injEq] at hb
    subst hb
    exact .inr ⟨Nat.le_refl _, hlt⟩
  | owning =>
    obtain ⟨a, cells, k, fifo, ha, hcells, hq⟩ := h.owned
    obtain ⟨q', cells', fifo', hpush, -, hq'⟩ := push_represents hq queueSize data baseTime
    obtain ⟨heap', queue', looks, hpushed, hload, hptr, hkeeps⟩ := pushQueue_owned ha hcells hpush
    refine ⟨heap', queue', by rw [hpushed]; rfl, ⟨q', k, cells', fifo', hload, hq', by simp [hptr]⟩,
      ha ▸ hkeeps, fun b hb => .inl ?_⟩
    rw [ha, ← hptr, hb]
  | dangling =>
    change Option.map _ _ = none
    rw [pushQueue_dangling h]
    rfl

/-- A push on a queue that is empty leaves its packet at the front. -/
theorem pushQueue_first (h : Holds heap queue p) (hp : p ≠ .dangling)
    (hempty : queue.rdIdx = queue.wrIdx) {looks : Bool}
    (hpush : pushQueue queueSize heap queue data baseTime = some ((heap', queue'), looks)) :
    ∃ q k cells fifo, queue'.load heap' = some q ∧ Represents k q cells fifo ∧
      fifo.items = [stored data baseTime] := by
  cases p with
  | null =>
    obtain ⟨heap₁, queue₁, looks₁, q, k, cells, fifo, hpush₁, hload, hq, hitems, -⟩ :=
      @pushQueue_null heap queue queueSize data baseTime h
    obtain ⟨⟨rfl, rfl⟩, -⟩ := by simpa only [hpush, Option.some.injEq, Prod.mk.injEq] using hpush₁
    exact ⟨q, k, cells, fifo, hload, hq, hitems⟩
  | owning =>
    obtain ⟨a, cells, k, fifo, ha, hcells, hq⟩ := h.owned
    obtain ⟨q', cells', fifo', hpush₀, hfifo, hq'⟩ := push_represents hq queueSize data baseTime
    obtain ⟨heap₁, queue₁, looks₁, hpush₁, hload, -⟩ := pushQueue_owned ha hcells hpush₀
    obtain ⟨⟨rfl, rfl⟩, -⟩ := by simpa only [hpush, Option.some.injEq, Prod.mk.injEq] using hpush₁
    have hitems : fifo.items = [] := by
      have hisEmpty := hq.isEmpty
      rw [show Livox.queueIsEmpty _ = (queue.rdIdx == queue.wrIdx) from rfl, hempty,
        beq_self_eq_true] at hisEmpty
      exact List.isEmpty_iff.mp hisEmpty.symm
    exact ⟨q', k, cells', fifo', hload, hq', hfifo ▸ BoundedQueue.put_of_empty hitems (Nat.two_pow_pos k)⟩
  | dangling => exact absurd rfl hp

end Queue

/-! ### The queues of all lidars -/

/-- What an operation does to the pointers of the queues. -/
def touches : LdsOp → List (Fin kMaxSourceLidar × Use)
  | .initQueue i _ | .pushLidarData i _ _ => [(i, .fill)]
  | .deInitQueue i | .resetLidar i _ => [(i, .release)]
  | .resetLds _ => (List.finRange kMaxSourceLidar).map (·, .release)

/-- Each queue is in the phase of its pointer, and no two own the same storage. -/
structure Owns (s : Lds) (phases : Fin kMaxSourceLidar → Phase) : Prop where
  holds : ∀ i, Holds s.heap (s.lidars i).data (phases i)
  inside : ∀ i a, (s.lidars i).data.storagePacket = some a → a < s.heap.next
  apart : ∀ i j a, (s.lidars i).data.storagePacket = some a →
    (s.lidars j).data.storagePacket = some a → i = j

section System

variable {s s' : Lds} {phases : Fin kMaxSourceLidar → Phase} {i : Fin kMaxSourceLidar}
  {queueSize : UInt32} {ops : List LdsOp}

theorem owns_init : Owns .init fun _ => .null :=
  ⟨fun _ => rfl, fun _ _ h => (nomatch h), fun _ _ _ h => (nomatch h)⟩

/-- A call on one queue moves the phase of its pointer. -/
theorem Owns.update (h : Owns s phases) {use : Use} {β : Type} {r : Option β}
    (out : β → StorageHeap × QueuePtr) {behind : β → Lds}
    (hdoes : Does s.heap (s.lidars i).data (r.map out) ((phases i).next use))
    (hbehind : ∀ x, (behind x).heap = (out x).1 ∧ ((behind x).lidars i).data = (out x).2 ∧
      ∀ j ≠ i, (behind x).lidars j = s.lidars j) :
    Option.Rel Owns (r.map behind) (exec touch phases [(i, use)]) := by
  have htouch : exec touch phases [(i, use)] =
      ((phases i).next use).map (Function.update phases i) := by
    rw [exec_cons]
    exact Option.bind_fun_some _
  rw [htouch]
  cases hp : (phases i).next use with
  | none =>
    rw [hp] at hdoes
    rw [Option.map_eq_none_iff.mp hdoes]
    exact .none
  | some p =>
    rw [hp] at hdoes
    obtain ⟨heap', queue', hr, hholds, hkeeps, hptr⟩ := hdoes
    obtain ⟨x, rfl, hout⟩ := Option.map_eq_some_iff.mp hr
    obtain ⟨hheap, hdata, hothers⟩ := hbehind x
    rw [hout] at hheap hdata
    refine .some ⟨fun j => ?_, fun j a ha => ?_, fun j k a hj hk => ?_⟩
    · rw [hheap]
      by_cases hji : j = i
      · subst hji
        rw [hdata, Function.update_self]
        exact hholds
      · rw [hothers j hji, Function.update_of_ne hji]
        refine (h.holds j).keep hkeeps fun a ha => ⟨h.inside j a ha, fun hown => ?_⟩
        exact hji (h.apart j i a ha hown)
    · rw [hheap]
      by_cases hji : j = i
      · subst hji
        rw [hdata] at ha
        rcases hptr a ha with hold | ⟨-, hnew⟩
        · exact Nat.lt_of_lt_of_le (h.inside j a hold) hkeeps.next_le
        · exact hnew
      · rw [hothers j hji] at ha
        exact Nat.lt_of_lt_of_le (h.inside j a ha) hkeeps.next_le
    · have hfresh : ∀ j ≠ i, ((behind x).lidars j).data.storagePacket = some a →
          queue'.storagePacket ≠ some a := by
        intro j hji ha hown
        rw [hothers j hji] at ha
        have hlt := h.inside j a ha
        rcases hptr a hown with hold | ⟨hnew, -⟩
        · exact hji (h.apart j i a ha hold)
        · omega
      by_cases hji : j = i <;> by_cases hki : k = i
      · rw [hji, hki]
      · subst hji
        rw [hdata] at hj
        exact absurd hj (hfresh k hki hk)
      · subst hki
        rw [hdata] at hk
        exact absurd hk (hfresh j hji hj)
      · rw [hothers j hji] at hj
        rw [hothers k hki] at hk
        exact h.apart j k a hj hk

theorem Lds.resetLidar_eq (s : Lds) (i : Fin kMaxSourceLidar) (dataSrc : UInt8) :
    s.resetLidar i dataSrc = (deInitQueue s.heap (s.lidars i).data).map fun r =>
      { s with heap := r.1, lidars := Function.update s.lidars i ⟨dataSrc, .off, r.2, []⟩ } := by
  unfold Lds.resetLidar
  cases deInitQueue s.heap (s.lidars i).data <;> rfl

theorem resetLidar_owns (h : Owns s phases) (i : Fin kMaxSourceLidar) (dataSrc : UInt8) :
    Option.Rel Owns (s.resetLidar i dataSrc) (exec touch phases [(i, .release)]) := by
  rw [Lds.resetLidar_eq]
  refine h.update id ?_ fun r => ⟨rfl, ?_, fun j hji => ?_⟩
  · rw [Option.map_id]
    exact deInitQueue_does (h.holds i)
  · simp only [Function.update_self, id]
  · exact Function.update_of_ne hji _ _

theorem setQueue_behind (s : Lds) (i : Fin kMaxSourceLidar) (r : StorageHeap × QueuePtr) :
    (s.setQueue i r).heap = r.1 ∧ ((s.setQueue i r).lidars i).data = r.2 ∧
      ∀ j ≠ i, (s.setQueue i r).lidars j = s.lidars j :=
  ⟨rfl, by simp only [Lds.setQueue, Function.update_self],
    fun _ hji => Function.update_of_ne hji _ _⟩

/-- A call that changes one queue and the heap. -/
theorem setQueue_owns (h : Owns s phases) {use : Use} {r : Option (StorageHeap × QueuePtr)}
    (hdoes : Does s.heap (s.lidars i).data r ((phases i).next use)) :
    Option.Rel Owns (r.map (s.setQueue i)) (exec touch phases [(i, use)]) := by
  refine h.update id ?_ (setQueue_behind s i)
  rwa [Option.map_id]

theorem Lds.pushLidarData_eq (s : Lds) (i : Fin kMaxSourceLidar) (data : PointPacket)
    (baseTime : UInt64) : s.pushLidarData queueSize i data baseTime =
      (pushQueue queueSize s.heap (s.lidars i).data data baseTime).map fun x =>
        { s.setQueue i x.1 with
          pcdCount := if x.2 && s.pcdCount ≤ 0 then s.pcdCount + 1 else s.pcdCount } := by
  unfold Lds.pushLidarData
  cases pushQueue queueSize s.heap (s.lidars i).data data baseTime <;> rfl

/-- **One operation.** It is stuck when it touches released storage, and moves the phases
of the pointers it touches else. -/
theorem ldsStep_owns (op : LdsOp) (s : Lds) (phases : Fin kMaxSourceLidar → Phase)
    (h : Owns s phases) :
    Option.Rel Owns (ldsStep queueSize s op) (exec touch phases (touches op)) := by
  cases op with
  | initQueue i size => exact setQueue_owns h (initQueue_does (h.holds i))
  | deInitQueue i => exact setQueue_owns h (deInitQueue_does (h.holds i))
  | resetLidar i dataSrc => exact resetLidar_owns h i dataSrc
  | resetLds dataSrc =>
    have hall : Option.Rel Owns _ (exec touch phases ((List.finRange kMaxSourceLidar).flatMap _)) :=
      exec_flatMap_rel (fun i _ _ h => resetLidar_owns h i dataSrc) h
    rwa [← List.map_eq_flatMap] at hall
  | pushLidarData i data baseTime =>
    change Option.Rel Owns (s.pushLidarData queueSize i data baseTime) _
    rw [Lds.pushLidarData_eq]
    exact h.update Prod.fst (pushQueue_does (h.holds i) queueSize data baseTime)
      fun x => setQueue_behind s i x.1

/-- What a sequence of operations does to the phases. -/
theorem exec_lds (queueSize : UInt32) (ops : List LdsOp) (h : Owns s phases) :
    Option.Rel Owns (exec (ldsStep queueSize) s ops) (exec touch phases (ops.flatMap touches)) :=
  exec_flatMap_rel ldsStep_owns h

/-! ### The first push behind a reset -/

/-- A release of the queue of a lidar is behind, and no push on it since. -/
def AwaitsPush (i : Fin kMaxSourceLidar) (ops : List LdsOp) : Prop :=
  ∃ before op after, ops = before ++ op :: after ∧ (i, Use.release) ∈ touches op ∧
    ∀ data baseTime, .pushLidarData i data baseTime ∉ after

/-- The indices of the queue of a lidar meet. -/
def Emptied (i : Fin kMaxSourceLidar) (s : Lds) : Prop :=
  (s.lidars i).data.rdIdx = (s.lidars i).data.wrIdx

theorem initQueue_emptied {heap : StorageHeap} {queue : QueuePtr} {size : UInt32}
    {r : StorageHeap × QueuePtr} (h : initQueue heap queue size = some r) :
    r.2.rdIdx = r.2.wrIdx := by
  obtain ⟨_, -, hr⟩ := Option.bind_eq_some_iff.mp h
  obtain rfl := Option.some.inj hr
  rfl

theorem deInitQueue_emptied {heap : StorageHeap} {queue : QueuePtr}
    {r : StorageHeap × QueuePtr} (h : deInitQueue heap queue = some r) :
    r.2.rdIdx = r.2.wrIdx := by
  obtain ⟨_, -, hr⟩ := Option.bind_eq_some_iff.mp h
  obtain rfl := Option.some.inj hr
  rfl

theorem emptied_setQueue {j : Fin kMaxSourceLidar} {r : Option (StorageHeap × QueuePtr)}
    (hstep : r.map (s.setQueue j) = some s') (hr : ∀ x, r = some x → x.2.rdIdx = x.2.wrIdx)
    (h : Emptied i s ∨ i = j) : Emptied i s' := by
  obtain ⟨x, hx, rfl⟩ := Option.map_eq_some_iff.mp hstep
  obtain ⟨-, hself, hothers⟩ := setQueue_behind s j x
  unfold Emptied
  by_cases hij : i = j
  · subst hij
    rw [hself]
    exact hr x hx
  · rw [hothers i hij]
    exact h.resolve_right hij

theorem resetLidar_emptied {j : Fin kMaxSourceLidar} {dataSrc : UInt8}
    (hstep : s.resetLidar j dataSrc = some s') (h : Emptied i s ∨ i = j) : Emptied i s' := by
  rw [Lds.resetLidar_eq] at hstep
  obtain ⟨x, hx, rfl⟩ := Option.map_eq_some_iff.mp hstep
  unfold Emptied
  by_cases hij : i = j
  · subst hij
    simp only [Function.update_self]
    exact deInitQueue_emptied hx
  · simp only [Function.update_of_ne hij]
    exact h.resolve_right hij

theorem resetLds_emptied {dataSrc : UInt8} : ∀ {is : List (Fin kMaxSourceLidar)} {s : Lds},
    exec (fun s i => Lds.resetLidar s i dataSrc) s is = some s' → Emptied i s ∨ i ∈ is →
      Emptied i s'
  | [], s, hexec, h => by
    cases hexec
    exact h.resolve_right List.not_mem_nil
  | j :: is, s, hexec, h => by
    rw [exec_cons] at hexec
    obtain ⟨s₁, hstep, hrest⟩ := Option.bind_eq_some_iff.mp hexec
    refine resetLds_emptied hrest ?_
    rcases h with h | h
    · exact .inl (resetLidar_emptied hstep (.inl h))
    · rcases List.mem_cons.mp h with hij | h
      · exact .inl (resetLidar_emptied hstep (.inr hij))
      · exact .inr h

/-- A release empties a queue, and no operation but a push on it fills it. -/
theorem ldsStep_emptied {op : LdsOp} (hstep : ldsStep queueSize s op = some s')
    (hpush : ∀ data baseTime, op ≠ .pushLidarData i data baseTime)
    (h : Emptied i s ∨ (i, .release) ∈ touches op) : Emptied i s' := by
  cases op with
  | initQueue j size =>
    refine emptied_setQueue hstep (fun _ => initQueue_emptied) (h.imp_right fun hmem => ?_)
    exact (Prod.mk.inj (List.mem_singleton.mp hmem)).1
  | deInitQueue j =>
    refine emptied_setQueue hstep (fun _ => deInitQueue_emptied) (h.imp_right fun hmem => ?_)
    exact (Prod.mk.inj (List.mem_singleton.mp hmem)).1
  | resetLidar j dataSrc =>
    refine resetLidar_emptied hstep (h.imp_right fun hmem => ?_)
    exact (Prod.mk.inj (List.mem_singleton.mp hmem)).1
  | resetLds dataSrc => exact resetLds_emptied hstep (.inr (List.mem_finRange i))
  | pushLidarData j data baseTime =>
    have hij : i ≠ j := by
      rintro rfl
      exact hpush data baseTime rfl
    have hold : Emptied i s := h.resolve_right fun hmem =>
      hij (Prod.mk.inj (List.mem_singleton.mp hmem)).1
    change s.pushLidarData queueSize j data baseTime = some s' at hstep
    rw [Lds.pushLidarData_eq] at hstep
    obtain ⟨x, -, rfl⟩ := Option.map_eq_some_iff.mp hstep
    have hothers := (setQueue_behind s j x.1).2.2 i hij
    change ((s.setQueue j x.1).lidars i).data.rdIdx = ((s.setQueue j x.1).lidars i).data.wrIdx
    rw [hothers]
    exact hold

theorem exec_emptied : ∀ {ops : List LdsOp} {s : Lds}, exec (ldsStep queueSize) s ops = some s' →
    (∀ data baseTime, .pushLidarData i data baseTime ∉ ops) → Emptied i s → Emptied i s'
  | [], s, hexec, _, h => by
    cases hexec
    exact h
  | op :: ops, s, hexec, hpush, h => by
    rw [exec_cons] at hexec
    obtain ⟨s₁, hstep, hrest⟩ := Option.bind_eq_some_iff.mp hexec
    refine exec_emptied hrest (fun data baseTime hmem => ?_)
      (ldsStep_emptied hstep (fun data baseTime heq => ?_) (.inl h))
    · exact hpush data baseTime (List.mem_cons_of_mem _ hmem)
    · exact hpush data baseTime (heq ▸ List.mem_cons_self)

/-- A queue that awaits a push is empty. -/
theorem AwaitsPush.emptied (h : AwaitsPush i ops) (hexec : exec (ldsStep queueSize) s ops = some s') :
    Emptied i s' := by
  obtain ⟨before, op, after, rfl, hmem, hpush⟩ := h
  rw [exec_append_eq] at hexec
  obtain ⟨s₁, -, hrest⟩ := Option.bind_eq_some_iff.mp hexec
  rw [exec_cons] at hrest
  obtain ⟨s₂, hstep, hafter⟩ := Option.bind_eq_some_iff.mp hrest
  refine exec_emptied hafter hpush (ldsStep_emptied hstep (fun data baseTime heq => ?_) (.inr hmem))
  rw [heq] at hmem
  cases List.mem_singleton.mp hmem

/-- **The first push behind a reset.** When it is not stuck, its packet is what is popped
next, unchanged. -/
theorem first_push {data : PointPacket} {baseTime : UInt64} {s₁ : Lds} (h : Owns s phases)
    (hawaits : AwaitsPush i ops) (hexec : exec (ldsStep queueSize) s ops = some s₁)
    (hstep : ldsStep queueSize s₁ (.pushLidarData i data baseTime) = some s') :
    ∃ q, (s'.lidars i).data.load s'.heap = some q ∧
      ∀ out, queuePrePop q out = some (true, stored data baseTime) := by
  have hrel := exec_lds queueSize ops h
  rw [hexec] at hrel
  obtain ⟨phases₁, howns⟩ : ∃ phases₁, Owns s₁ phases₁ := by
    generalize exec touch phases (ops.flatMap touches) = r at hrel
    cases hrel with
    | some howns => exact ⟨_, howns⟩
  change s₁.pushLidarData queueSize i data baseTime = some s' at hstep
  rw [Lds.pushLidarData_eq] at hstep
  obtain ⟨⟨⟨heap', queue'⟩, looks⟩, hpush, rfl⟩ := Option.map_eq_some_iff.mp hstep
  have hphase : phases₁ i ≠ .dangling := by
    intro hdangling
    have hholds := howns.holds i
    rw [hdangling] at hholds
    rw [pushQueue_dangling hholds] at hpush
    cases hpush
  obtain ⟨q, k, cells, fifo, hload, hq, hitems⟩ :=
    pushQueue_first (howns.holds i) hphase (hawaits.emptied hexec) hpush
  obtain ⟨hheap, hself, -⟩ := setQueue_behind s₁ i (heap', queue')
  refine ⟨q, ?_, fun out => ?_⟩
  · change ((s₁.setQueue i (heap', queue')).lidars i).data.load heap' = some q
    rw [hself]
    exact hload
  · have hget : fifo.get = some (stored data baseTime, .empty) :=
      BoundedQueue.get_eq_some.mpr hitems
    rw [(pop_represents hq out).1, hget]
    rfl

/-! ### The lifecycle -/

/-- No operation touches released storage, and the packet of the first push behind a reset
is what is popped next, unchanged. -/
def LifecycleOk (queueSize : UInt32) (ops : List LdsOp) : Prop :=
  (exec (ldsStep queueSize) .init ops).isSome ∧
    ∀ before i data baseTime after, ops = before ++ .pushLidarData i data baseTime :: after →
      AwaitsPush i before →
      ∃ s q, exec (ldsStep queueSize) .init (before ++ [.pushLidarData i data baseTime]) = some s ∧
        (s.lidars i).data.load s.heap = some q ∧
        ∀ out, queuePrePop q out = some (true, stored data baseTime)

/-- Operations are not stuck when the release of a filled queue is the last of its uses. -/
theorem exec_lds_isSome (queueSize : UInt32) (ops : List LdsOp) :
    (exec (ldsStep queueSize) .init ops).isSome ↔
      ∀ i, ReleasedLast (usesOf i (ops.flatMap touches)) := by
  have hsame : (exec (ldsStep queueSize) .init ops).isSome ↔
      (exec touch (fun _ => .null) (ops.flatMap touches)).isSome := by
    have hrel := exec_lds queueSize ops owns_init
    generalize exec (ldsStep queueSize) .init ops = r,
      exec touch (fun _ => .null) (ops.flatMap touches) = r' at hrel ⊢
    cases hrel <;> exact Iff.rfl
  rw [hsame, exec_touch_isSome]
  exact forall_congr' fun i => exec_null_isSome

/-- **Released storage is never touched**, and the first push behind a reset
re-initialises its queue, exactly when the release of a queue that was filled is the last
of its uses. -/
theorem lifecycle_iff (queueSize : UInt32) (ops : List LdsOp) :
    LifecycleOk queueSize ops ↔ ∀ i, ReleasedLast (usesOf i (ops.flatMap touches)) := by
  rw [← exec_lds_isSome queueSize ops]
  refine ⟨And.left, fun hsome => ⟨hsome, ?_⟩⟩
  rintro before i data baseTime after rfl hawaits
  obtain ⟨s', hexec⟩ := Option.isSome_iff_exists.mp hsome
  rw [exec_append_eq] at hexec
  obtain ⟨s₁, hbefore, hrest⟩ := Option.bind_eq_some_iff.mp hexec
  rw [exec_cons] at hrest
  obtain ⟨s₂, hstep, -⟩ := Option.bind_eq_some_iff.mp hrest
  obtain ⟨q, hload, hpop⟩ := first_push owns_init hawaits hbefore hstep
  refine ⟨s₂, q, exec_append hbefore ?_, hload, hpop⟩
  rw [exec_cons, hstep]
  rfl

end System

/-- A packet with no points. -/
def noPoints : PointPacket := ⟨0, [], Nat.le_refl _⟩

/-- A lidar sends, is reset, and sends again: the second packet is written to released
storage. -/
theorem lifecycle_reconnect : ¬ LifecycleOk 16
    [.pushLidarData ⟨0, by decide⟩ noPoints 0, .resetLidar ⟨0, by decide⟩ 0,
      .pushLidarData ⟨0, by decide⟩ noPoints 0] := by
  intro h
  have hlast := (exec_lds_isSome 16 _).mp h.1 ⟨0, by decide⟩
  have hafter := hlast [.fill] [.fill] rfl List.mem_cons_self
  cases hafter

end QueueLifecycle
end Livox
end SensorSupport
