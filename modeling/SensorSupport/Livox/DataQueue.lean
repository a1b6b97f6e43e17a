/-
# The lidar data queue (`livox_ros_driver2/src/comm/ldq.cpp`)

`LidarDataQueue` is a ring of stored packets with two free-running 32-bit
indices, of which the mask takes the cell. What is unread lies in the ring from
the read index on (`Represents`): as the size is a power of two below 2³², the
cell of an index survives the wrap of the index, and the difference of the
indices is the number of unread packets.

Behind `InitQueue` the queue refines the bounded FIFO queue of its size, whatever
size was requested: `push_represents` and `pop_represents` follow one call, and
`dataQueue_refines` any sequence of calls.

Key definitions: `LidarDataQueue`, `initQueue`, `pushLidarData`, `queuePrePop`, `Represents`.
Key theorem: `dataQueue_refines`.
-/
import Mathlib.Data.Nat.Bitwise
import SensorSupport.Lib.BoundedQueue
import SensorSupport.Lib.Ring
import SensorSupport.Lib.Run

namespace SensorSupport
namespace Livox

/-- `PointXyzlt`; a `float` is its bits. -/
structure PointXyzlt where
  x : UInt32
  y : UInt32
  z : UInt32
  intensity : UInt32
  tag : UInt8
  line : UInt8
  offsetTime : UInt64
deriving DecidableEq, Repr, Inhabited

/-- `PointPacket`: `points` points to `pointsNum` points at least. -/
structure PointPacket where
  pointsNum : UInt32
  points : List PointXyzlt
  pointsNum_le : pointsNum.toNat ≤ points.length

/-- `StoragePacket`. -/
structure StoragePacket where
  baseTime : UInt64
  pointsNum : UInt32
  points : List PointXyzlt
deriving DecidableEq, Repr, Inhabited

/-- `LidarDataQueue`; `storagePacket` is `none` for the null pointer. -/
structure LidarDataQueue where
  storagePacket : Option (Array StoragePacket)
  rdIdx : UInt32
  wrIdx : UInt32
  mask : UInt32
  size : UInt32

/-- `IsPowerOf2`. -/
def isPowerOf2 (size : UInt32) : Bool := size != 0 && (size &&& (size - 1)) == 0

/-- The loop of `RoundupPowerOf2` over the exponents that are left. -/
def roundupFrom (size : UInt32) : List ℕ → UInt32 → UInt32
  | [], power2Val => power2Val
  | i :: is, _ =>
    let power2Val : UInt32 := 1 <<< i.toUInt32
    if size ≤ power2Val then power2Val else roundupFrom size is power2Val

/-- `RoundupPowerOf2`. -/
def roundupPowerOf2 (size : UInt32) : UInt32 := roundupFrom size (List.range 32) 0

/-- `InitQueue`, when the allocation succeeds. -/
def initQueue (queueSize : UInt32) : LidarDataQueue :=
  let queueSize := if isPowerOf2 queueSize then queueSize else roundupPowerOf2 queueSize
  { storagePacket := some (Array.replicate queueSize.toNat default)
    rdIdx := 0
    wrIdx := 0
    mask := queueSize - 1
    size := queueSize }

/-- `QueueUsedSize`. -/
def queueUsedSize (queue : LidarDataQueue) : UInt32 := queue.wrIdx - queue.rdIdx

/-- `QueueIsFull`. -/
def queueIsFull (queue : LidarDataQueue) : Bool := queue.wrIdx - queue.rdIdx > queue.mask

/-- `QueueIsEmpty`. -/
def queueIsEmpty (queue : LidarDataQueue) : Bool := queue.rdIdx == queue.wrIdx

/-- `QueuePrePop` into `storagePacket`, or `none` for an access out of bounds. -/
def queuePrePop (queue : LidarDataQueue) (storagePacket : StoragePacket) :
    Option (Bool × StoragePacket) :=
  if queueIsEmpty queue then some (false, storagePacket)
  else do
    let storage ← queue.storagePacket
    let slot ← storage[(queue.rdIdx &&& queue.mask).toNat]?
    if slot.points.length < slot.pointsNum.toNat then none
    else some (true, { slot with points := slot.points.take slot.pointsNum.toNat })

/-- `QueuePopUpdate`. -/
def queuePopUpdate (queue : LidarDataQueue) : LidarDataQueue :=
  { queue with rdIdx := queue.rdIdx + 1 }

/-- What is stored of a packet. -/
def stored (data : PointPacket) (baseTime : UInt64) : StoragePacket :=
  ⟨baseTime, data.pointsNum, data.points.take data.pointsNum.toNat⟩

/-- `QueuePushAny`, or `none` for an access out of bounds. -/
def queuePushAny (queue : LidarDataQueue) (data : PointPacket) (baseTime : UInt64) :
    Option LidarDataQueue := do
  let storage ← queue.storagePacket
  let wrIdx := (queue.wrIdx &&& queue.mask).toNat
  if wrIdx < storage.size then
    some { queue with
      storagePacket := some (storage.setIfInBounds wrIdx (stored data baseTime))
      wrIdx := queue.wrIdx + 1 }
  else none

/-- `Lds::PushLidarData` on the queue of its lidar, and whether the packet was
accepted. `queueSize` is the size for the publish frequency. -/
def pushLidarData (queueSize : UInt32) (queue : LidarDataQueue) (data : PointPacket)
    (baseTime : UInt64) : Option (LidarDataQueue × Bool) :=
  let queue := if queue.storagePacket.isNone then initQueue queueSize else queue
  if !queueIsFull queue then (queuePushAny queue data baseTime).map (·, true)
  else some (queue, false)

/-! ### Sizes -/

theorem isPowerOf2_spec {size : UInt32} (h : isPowerOf2 size = true) :
    ∃ k < 32, size.toNat = 2 ^ k := by
  simp only [isPowerOf2, Bool.and_eq_true, bne_iff_ne, beq_iff_eq] at h
  obtain ⟨hne, hand⟩ := h
  have hne' : size.toNat ≠ 0 := by
    intro hzero
    exact hne (UInt32.toNat_inj.mp hzero)
  have hand' : size.toNat &&& (size.toNat - 1) = 0 := by
    have := congrArg UInt32.toNat hand
    rwa [UInt32.toNat_and, UInt32.toNat_sub_of_le _ _ (by
      rw [UInt32.le_iff_toNat_le]
      change 1 ≤ size.toNat
      omega)] at this
  obtain ⟨k, hk⟩ := (Nat.and_sub_one_eq_zero_iff_isPowerOfTwo hne').mp hand'
  refine ⟨k, ?_, hk⟩
  have hlt := size.toNat_lt
  rw [hk] at hlt
  exact (Nat.pow_lt_pow_iff_right (by omega)).mp hlt

theorem shiftLeft_toNat {k : ℕ} (hk : k < 32) : ((1 : UInt32) <<< k.toUInt32).toNat = 2 ^ k := by
  have hpow : 2 ^ k < 2 ^ 32 := Nat.pow_lt_pow_right (by omega) hk
  rw [UInt32.toNat_shiftLeft]
  have hk' : k.toUInt32.toNat = k := by
    change k % 2 ^ 32 = k
    exact Nat.mod_eq_of_lt (by omega)
  rw [hk', Nat.mod_eq_of_lt hk, Nat.shiftLeft_eq]
  change 1 * 2 ^ k % 2 ^ 32 = 2 ^ k
  rw [Nat.one_mul, Nat.mod_eq_of_lt hpow]

/-- The loop ends with a power of two once it has begun. -/
theorem roundupFrom_spec (size : UInt32) : ∀ (is : List ℕ) (power2Val : UInt32),
    (∀ i ∈ is, i < 32) → (is = [] → ∃ k < 32, power2Val.toNat = 2 ^ k) →
    ∃ k < 32, (roundupFrom size is power2Val).toNat = 2 ^ k
  | [], _, _, hval => hval rfl
  | i :: is, _, his, _ => by
    have hi : i < 32 := his i List.mem_cons_self
    unfold roundupFrom
    simp only
    split
    · exact ⟨i, hi, shiftLeft_toNat hi⟩
    · exact roundupFrom_spec size is _ (fun j hj => his j (List.mem_cons_of_mem _ hj))
        fun _ => ⟨i, hi, shiftLeft_toNat hi⟩

theorem initQueue_size (queueSize : UInt32) : ∃ k < 32, (initQueue queueSize).size.toNat = 2 ^ k := by
  unfold initQueue
  by_cases h : isPowerOf2 queueSize
  · simp only [h, if_true]
    exact isPowerOf2_spec h
  · simp only [h, Bool.false_eq_true, if_false]
    exact roundupFrom_spec queueSize (List.range 32) 0 (by simp) (by simp)

/-! ### The queue as a bounded FIFO queue -/

/-- The queue is initialised with the size 2^k, its storage is `cells`, and its
unread packets are those of a FIFO queue of that size. -/
structure Represents (k : ℕ) (queue : LidarDataQueue) (cells : Array StoragePacket)
    (fifo : BoundedQueue StoragePacket (2 ^ k)) : Prop where
  exponent : k < 32
  size : queue.size.toNat = 2 ^ k
  mask : queue.mask.toNat = 2 ^ k - 1
  storage : queue.storagePacket = some cells
  cells_size : cells.size = 2 ^ k
  used : (queueUsedSize queue).toNat = fifo.items.length
  unread : Ring.Holds (fun i => cells[i]?) (2 ^ k) queue.rdIdx.toNat fifo.items
  whole : ∀ packet ∈ fifo.items, packet.points.length = packet.pointsNum.toNat

section Represents

variable {k : ℕ} {queue : LidarDataQueue} {cells : Array StoragePacket}
  {fifo : BoundedQueue StoragePacket (2 ^ k)}

theorem initQueue_represents (queueSize : UInt32) :
    ∃ k cells, Represents k (initQueue queueSize) cells .empty := by
  obtain ⟨k, hk, hsize⟩ := initQueue_size queueSize
  refine ⟨k, Array.replicate (initQueue queueSize).size.toNat default, ?_⟩
  refine {
    exponent := hk, size := hsize, mask := ?_, storage := rfl, cells_size := ?_
    used := by simp [queueUsedSize, initQueue], unread := Ring.Holds.nil, whole := by simp }
  · have hpos : 0 < 2 ^ k := Nat.two_pow_pos k
    change ((initQueue queueSize).size - 1).toNat = 2 ^ k - 1
    rw [UInt32.toNat_sub_of_le, hsize]
    · rfl
    · rw [UInt32.le_iff_toNat_le, hsize]
      exact hpos
  · rw [Array.size_replicate, hsize]

/-- The cell of an index does not see that the index wraps. -/
theorem cell_eq {index mask : UInt32} (hmask : mask.toNat = 2 ^ k - 1) :
    (index &&& mask).toNat = index.toNat % 2 ^ k := by
  rw [UInt32.toNat_and, hmask, Nat.and_two_pow_sub_one_eq_mod]

/-- The write index is the read index and the unread packets behind it. -/
theorem Represents.wrIdx_mod (h : Represents k queue cells fifo) :
    queue.wrIdx.toNat % 2 ^ k = (queue.rdIdx.toNat + fifo.items.length) % 2 ^ k := by
  have hused := h.used
  rw [queueUsedSize, UInt32.toNat_sub] at hused
  have hrd := queue.rdIdx.toNat_lt
  have hwr := queue.wrIdx.toNat_lt
  have hwrap : queue.wrIdx.toNat = (queue.rdIdx.toNat + fifo.items.length) % 2 ^ 32 := by omega
  have hdvd : 2 ^ k ∣ 2 ^ 32 := Nat.pow_dvd_pow 2 h.exponent.le
  rw [hwrap, Nat.mod_mod_of_dvd _ hdvd]

/-- The size stays within half of the range of the indices. -/
theorem Represents.size_le (h : Represents k queue cells fifo) : 2 ^ k ≤ 2 ^ 31 :=
  Nat.pow_le_pow_right (by omega) (by have := h.exponent; omega)

theorem Represents.isFull (h : Represents k queue cells fifo) :
    queueIsFull queue = fifo.isFull := by
  have hpos : 0 < 2 ^ k := Nat.two_pow_pos k
  have hused := h.used
  unfold queueUsedSize at hused
  unfold queueIsFull BoundedQueue.isFull
  rw [decide_eq_decide, gt_iff_lt, UInt32.lt_iff_toNat_lt, h.mask, hused]
  omega

theorem Represents.isEmpty (h : Represents k queue cells fifo) :
    queueIsEmpty queue = fifo.items.isEmpty := by
  have hused := h.used
  rw [queueUsedSize, UInt32.toNat_sub] at hused
  have hrd := queue.rdIdx.toNat_lt
  have hwr := queue.wrIdx.toNat_lt
  have hle := fifo.length_le
  have hsize := h.size_le
  rw [Bool.eq_iff_iff, queueIsEmpty, beq_iff_eq, List.isEmpty_iff_length_eq_zero,
    ← UInt32.toNat_inj]
  omega

/-- A push is that of the FIFO queue, and is refused exactly when that is full. -/
theorem push_represents (h : Represents k queue cells fifo) (queueSize : UInt32)
    (data : PointPacket) (baseTime : UInt64) : ∃ queue' cells' fifo',
      pushLidarData queueSize queue data baseTime =
        some (queue', (fifo.put (stored data baseTime)).isSome) ∧
      fifo' = (fifo.put (stored data baseTime)).getD fifo ∧
      Represents k queue' cells' fifo' := by
  have hsome : queue.storagePacket.isNone = false := by simp [h.storage]
  have hpush : pushLidarData queueSize queue data baseTime =
      if !queueIsFull queue then (queuePushAny queue data baseTime).map (·, true)
      else some (queue, false) := by
    simp only [pushLidarData, hsome, Bool.false_eq_true, if_false]
  cases hput : fifo.put (stored data baseTime) with
  | none =>
    refine ⟨queue, cells, fifo, ?_, rfl, h⟩
    rw [hpush, h.isFull, BoundedQueue.put_eq_none.mp hput]
    rfl
  | some fifo' =>
    obtain ⟨hroom, hitems⟩ := BoundedQueue.put_eq_some.mp hput
    have hfull : queueIsFull queue = false := by
      rw [h.isFull, BoundedQueue.isFull, decide_eq_false_iff_not]
      omega
    have hcell : (queue.wrIdx &&& queue.mask).toNat =
        (queue.rdIdx.toNat + fifo.items.length) % 2 ^ k := by
      rw [cell_eq h.mask, h.wrIdx_mod]
    have hbound : (queue.wrIdx &&& queue.mask).toNat < cells.size := by
      rw [hcell, h.cells_size]
      exact Nat.mod_lt _ (Nat.two_pow_pos k)
    let cells' := cells.setIfInBounds (queue.wrIdx &&& queue.mask).toNat (stored data baseTime)
    refine ⟨{ queue with storagePacket := some cells', wrIdx := queue.wrIdx + 1 }, cells', fifo',
      ?_, rfl, ?_⟩
    · rw [hpush, hfull]
      simp only [queuePushAny, h.storage, Option.bind_eq_bind, Option.bind_some, if_pos hbound,
        Option.map_some, Option.isSome_some, Bool.not_false, if_true, cells']
    · refine {
        exponent := h.exponent, size := h.size, mask := h.mask, storage := rfl, cells_size := ?_
        used := ?_, unread := ?_, whole := ?_ }
      · rw [Array.size_setIfInBounds, h.cells_size]
      · have hused := h.used
        have hsize := h.size_le
        unfold queueUsedSize at hused ⊢
        rw [UInt32.toNat_sub] at hused ⊢
        rw [UInt32.toNat_add, hitems, List.length_append, List.length_singleton]
        have hrd := queue.rdIdx.toNat_lt
        have hwr := queue.wrIdx.toNat_lt
        change (2 ^ 32 - queue.rdIdx.toNat + (queue.wrIdx.toNat + 1) % 2 ^ 32) % 2 ^ 32 = _
        omega
      · rw [hitems]
        apply h.unread.concat hroom
        · rw [← hcell, Array.getElem?_setIfInBounds_self_of_lt hbound]
        · intro j hj
          rw [← hcell] at hj
          exact Array.getElem?_setIfInBounds_ne (Ne.symm hj)
      · intro packet hpacket
        rw [hitems] at hpacket
        rcases List.mem_append.mp hpacket with hpacket | hpacket
        · exact h.whole packet hpacket
        · rw [List.mem_singleton.mp hpacket]
          simpa [stored] using data.pointsNum_le

/-- A pop reads the oldest unread packet, and fails exactly when there is none. -/
theorem pop_represents (h : Represents k queue cells fifo) (out : StoragePacket) :
    queuePrePop queue out = some (fifo.get.isSome, (fifo.get.map Prod.fst).getD out) ∧
      ∀ packet fifo', fifo.get = some (packet, fifo') →
        Represents k (queuePopUpdate queue) cells fifo' := by
  cases hget : fifo.get with
  | none =>
    refine ⟨?_, by simp⟩
    have hempty : queueIsEmpty queue = true := by
      rw [h.isEmpty, BoundedQueue.get_eq_none.mp hget]
      rfl
    simp [queuePrePop, hempty]
  | some x =>
    obtain ⟨packet, fifo'⟩ := x
    have hitems := BoundedQueue.get_eq_some.mp hget
    have hunread := h.unread
    rw [hitems] at hunread
    have hwhole : packet.points.length = packet.pointsNum.toNat :=
      h.whole packet (by rw [hitems]; exact List.mem_cons_self)
    constructor
    · have hempty : queueIsEmpty queue = false := by
        rw [h.isEmpty, hitems]
        rfl
      have hslot : cells[(queue.rdIdx &&& queue.mask).toNat]? = some packet := by
        rw [cell_eq h.mask]
        exact hunread.head
      have htake : packet.points.take packet.pointsNum.toNat = packet.points := by
        rw [← hwhole, List.take_length]
      simp only [queuePrePop, hempty, Bool.false_eq_true, if_false, h.storage, hslot,
        Option.bind_eq_bind, Option.bind_some, hwhole, Nat.lt_irrefl, htake, Option.isSome_some,
        Option.map_some, Option.getD_some]
    · intro packet' fifo'' heq
      obtain ⟨rfl, rfl⟩ := Prod.mk.inj (Option.some.inj heq)
      refine {
        exponent := h.exponent, size := h.size, mask := h.mask, storage := h.storage
        cells_size := h.cells_size, used := ?_, unread := ?_, whole := ?_ }
      · have hused := h.used
        have hle := fifo.length_le
        have hsize := h.size_le
        unfold queueUsedSize at hused ⊢
        unfold queuePopUpdate
        rw [hitems, List.length_cons] at hused hle
        rw [UInt32.toNat_sub] at hused ⊢
        have hrd := queue.rdIdx.toNat_lt
        have hwr := queue.wrIdx.toNat_lt
        rw [UInt32.toNat_add]
        change (2 ^ 32 - (queue.rdIdx.toNat + 1) % 2 ^ 32 + queue.wrIdx.toNat) % 2 ^ 32 = _
        omega
      · apply hunread.tail.congr
        have hdvd : 2 ^ k ∣ 2 ^ 32 := Nat.pow_dvd_pow 2 h.exponent.le
        change (queue.rdIdx + 1).toNat % 2 ^ k = _
        rw [UInt32.toNat_add]
        exact Nat.mod_mod_of_dvd _ hdvd
      · intro packet' hpacket
        exact h.whole packet' (by rw [hitems]; exact List.mem_cons_of_mem _ hpacket)

end Represents

/-! ### Sequences of calls -/

/-- A push of a packet, or a pop. -/
inductive QueueOp
  | push (data : PointPacket) (baseTime : UInt64)
  | pop

/-- The queue, with the packets accepted and popped so far. -/
structure Traffic where
  queue : LidarDataQueue
  accepted : List StoragePacket
  popped : List StoragePacket

/-- Behind `InitQueue`. -/
def Traffic.init (queueSize : UInt32) : Traffic := ⟨initQueue queueSize, [], []⟩

/-- One call, or `none` for an access out of bounds. A pop is `QueuePrePop` and,
when it found a packet, `QueuePopUpdate`. -/
def trafficStep (queueSize : UInt32) (t : Traffic) : QueueOp → Option Traffic
  | .push data baseTime => do
    let (queue, accepted) ← pushLidarData queueSize t.queue data baseTime
    some { t with
      queue := queue
      accepted := t.accepted ++ if accepted then [stored data baseTime] else [] }
  | .pop => do
    let (found, packet) ← queuePrePop t.queue default
    if found then
      some { t with queue := queuePopUpdate t.queue, popped := t.popped ++ [packet] }
    else some t

/-- What was popped and then what is unread is what was accepted. -/
def Traffic.Conserves (t : Traffic) : Prop :=
  ∃ k cells fifo, Represents k t.queue cells fifo ∧ t.accepted = t.popped ++ fifo.items

theorem trafficStep_conserves {queueSize : UInt32} {t : Traffic} (h : t.Conserves) (op : QueueOp) :
    ∃ t', trafficStep queueSize t op = some t' ∧ t'.Conserves := by
  obtain ⟨k, cells, fifo, hqueue, haccepted⟩ := h
  cases op with
  | push data baseTime =>
    obtain ⟨queue', cells', fifo', hpush, hfifo, hqueue'⟩ :=
      push_represents hqueue queueSize data baseTime
    let accepted := (fifo.put (stored data baseTime)).isSome
    refine ⟨{ t with
      queue := queue'
      accepted := t.accepted ++ if accepted then [stored data baseTime] else [] }, ?_,
      k, cells', fifo', hqueue', ?_⟩
    · simp only [trafficStep, hpush, Option.bind_eq_bind, Option.bind_some, accepted]
    · rw [hfifo]
      cases hput : fifo.put (stored data baseTime) with
      | none => simpa [accepted, hput] using haccepted
      | some fifo'' =>
        simp [accepted, hput, haccepted, (BoundedQueue.put_eq_some.mp hput).2]
  | pop =>
    obtain ⟨hpop, hnext⟩ := pop_represents hqueue default
    cases hget : fifo.get with
    | none =>
      rw [hget] at hpop
      refine ⟨t, ?_, k, cells, fifo, hqueue, haccepted⟩
      simp only [trafficStep, hpop, Option.bind_eq_bind, Option.bind_some, Option.isSome_none,
        Bool.false_eq_true, if_false]
    | some x =>
      obtain ⟨packet, fifo'⟩ := x
      rw [hget] at hpop
      refine ⟨{ t with queue := queuePopUpdate t.queue, popped := t.popped ++ [packet] }, ?_,
        k, cells, fifo', hnext packet fifo' hget, ?_⟩
      · simp only [trafficStep, hpop, Option.bind_eq_bind, Option.bind_some, Option.isSome_some,
          if_true, Option.map_some, Option.getD_some]
      · change t.accepted = t.popped ++ [packet] ++ fifo'.items
        rw [haccepted, BoundedQueue.get_eq_some.mp hget, List.append_assoc, List.singleton_append]

/-- **The data queue refines a bounded FIFO queue.** Behind `InitQueue` with any
size, every sequence of pushes and pops stays in bounds, and leaves a queue whose
size is a power of two and that represents a FIFO queue of that size: it holds
what was accepted and not popped, in order; its length is the used size, which
does not exceed the size; and the next push and the next pop end as those of the
FIFO queue do. -/
theorem dataQueue_refines (queueSize : UInt32) (ops : List QueueOp) :
    ∃ t, exec (trafficStep queueSize) (.init queueSize) ops = some t ∧
      ∃ k, ∃ fifo : BoundedQueue StoragePacket (2 ^ k), t.queue.size.toNat = 2 ^ k ∧
        (queueUsedSize t.queue).toNat = fifo.items.length ∧
        (queueUsedSize t.queue).toNat ≤ 2 ^ k ∧ t.accepted = t.popped ++ fifo.items ∧
        (∀ data baseTime, (pushLidarData queueSize t.queue data baseTime).map Prod.snd =
          some (fifo.put (stored data baseTime)).isSome) ∧
        ∀ out, queuePrePop t.queue out =
          some (fifo.get.isSome, (fifo.get.map Prod.fst).getD out) := by
  have hconserves : ∃ t, exec (trafficStep queueSize) (.init queueSize) ops = some t ∧
      t.Conserves := by
    induction ops using List.reverseRecOn with
    | nil =>
      obtain ⟨k, cells, hqueue⟩ := initQueue_represents queueSize
      exact ⟨.init queueSize, rfl, k, cells, .empty, hqueue, rfl⟩
    | append_singleton ops op ih =>
      obtain ⟨t, ht, hconserves⟩ := ih
      obtain ⟨t', ht', hconserves'⟩ := trafficStep_conserves hconserves op
      refine ⟨t', exec_append ht ?_, hconserves'⟩
      rw [exec_cons, ht']
      rfl
  obtain ⟨t, ht, k, cells, fifo, hqueue, haccepted⟩ := hconserves
  refine ⟨t, ht, k, fifo, hqueue.size, hqueue.used, ?_, haccepted, ?_, ?_⟩
  · rw [hqueue.used]
    exact fifo.length_le
  · intro data baseTime
    obtain ⟨queue', cells', fifo', hpush, -, -⟩ := push_represents hqueue queueSize data baseTime
    rw [hpush]
    rfl
  · exact fun out => (pop_represents hqueue out).1

end Livox
end SensorSupport
