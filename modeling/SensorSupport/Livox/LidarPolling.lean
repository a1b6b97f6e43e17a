/-
# Pushing and polling lidar data (`livox_ros_driver2/src/lds.cpp`, `lddc.cpp`)

`Lds::PushLidarData` puts a packet into the queue of its lidar and signals the
semaphore when its count is not positive; the polling thread waits on the semaphore
and then drains the queues of all sampling lidars. Both are programs here whose
steps are single loads and stores of the indices of a queue, of `storage_packet`
and of the count, taken in any order; `QueueIsEmpty` may load its two indices in
either order. Any number of threads push, also to one lidar.

A wake-up is not lost: as long as a sampling lidar's queue holds a packet, the count
is positive, or a push that has yet to look at the count owes a look, or the polling
thread has yet to come by the queue (`Awake`).

Key definitions: `pushStep`, `pollStep`, `pollingStep`, `Awake`.
Key theorems: `pushStep_owes`, `pollStep_covers`, `no_lost_wakeup`.
-/
import Mathlib.Data.Int.Order.Basic
import Mathlib.Logic.Function.Basic
import SensorSupport.Lib.Run
import SensorSupport.Livox.DataQueue
import SensorSupport.Livox.PubHandler

namespace SensorSupport
namespace Livox

/-- `LidarConnectState`. -/
inductive LidarConnectState
  | off
  | on
  | config
  | sampling
deriving DecidableEq, Repr

/-- `TransferType`. -/
inductive TransferType
  | pointCloud2
  | livoxCustom
  | pclPxyzi
deriving DecidableEq, Repr

/-! ### Pushing -/

/-- The program counters of `PushLidarData`. -/
inductive PushPc
  | storage
  | initCheck
  | initNull
  | initNew
  | initRd
  | initWr
  | initSize
  | initMask
  | fullWr
  | fullRd (wrIdx : UInt32)
  | slot
  | incLoad
  | incStore (wrIdx : UInt32)
  | empty
  | emptyRd (rdIdx : UInt32)
  | emptyWr (wrIdx : UInt32)
  | getCount
  | signal
deriving DecidableEq, Repr

/-- A call of `PushLidarData`. -/
structure Push where
  index : Fin kMaxSourceLidar
  data : PointPacket
  baseTime : UInt64
  pc : PushPc

/-- Behind the last test of `QueueIsEmpty` the count is looked at unless the queue is empty. -/
def pushTested (isEmpty : Bool) : Option PushPc := if isEmpty then none else some .getCount

/-- A step of `PushLidarData` on the queue of its lidar and the count of the
semaphore; the call returns where there is no next program counter. `wrFirst` is the
order of the loads of `QueueIsEmpty`. -/
def pushStep (queueSize : UInt32) (wrFirst : Bool) (data : PointPacket) (baseTime : UInt64)
    (queue : LidarDataQueue) (count : ℤ) :
    PushPc → LidarDataQueue × ℤ × Option PushPc
  | .storage =>
    if queue.storagePacket.isNone then (queue, count, some .initCheck)
    else (queue, count, some .fullWr)
  -- `InitQueue`
  | .initCheck =>
    if queue.storagePacket.isSome then (queue, count, some .initNull)
    else (queue, count, some .initNew)
  | .initNull => ({ queue with storagePacket := none }, count, some .initNew)
  | .initNew =>
    ({ queue with storagePacket := (initQueue queueSize).storagePacket }, count, some .initRd)
  | .initRd => ({ queue with rdIdx := 0 }, count, some .initWr)
  | .initWr => ({ queue with wrIdx := 0 }, count, some .initSize)
  | .initSize => ({ queue with size := (initQueue queueSize).size }, count, some .initMask)
  | .initMask => ({ queue with mask := (initQueue queueSize).mask }, count, some .fullWr)
  -- `QueueIsFull`
  | .fullWr => (queue, count, some (.fullRd queue.wrIdx))
  | .fullRd wrIdx =>
    if wrIdx - queue.rdIdx > queue.mask then (queue, count, some .getCount)
    else (queue, count, some .slot)
  -- `QueuePushAny`
  | .slot =>
    ({ queue with
        storagePacket := queue.storagePacket.map fun storage =>
          storage.setIfInBounds (queue.wrIdx &&& queue.mask).toNat (stored data baseTime) },
      count, some .incLoad)
  | .incLoad => (queue, count, some (.incStore queue.wrIdx))
  | .incStore wrIdx => ({ queue with wrIdx := wrIdx + 1 }, count, some .empty)
  -- `QueueIsEmpty`
  | .empty =>
    if wrFirst then (queue, count, some (.emptyWr queue.wrIdx))
    else (queue, count, some (.emptyRd queue.rdIdx))
  | .emptyRd rdIdx => (queue, count, pushTested (rdIdx == queue.wrIdx))
  | .emptyWr wrIdx => (queue, count, pushTested (queue.rdIdx == wrIdx))
  -- `GetCount` and `Signal`
  | .getCount => if count ≤ 0 then (queue, count, some .signal) else (queue, count, none)
  | .signal => (queue, count + 1, none)

/-- The push has yet to look at the count, and will as long as the queue is not empty. -/
def PushPc.Owes (queue : LidarDataQueue) : PushPc → Prop
  | .emptyRd rdIdx => rdIdx ≠ queue.wrIdx
  | .emptyWr wrIdx => queue.rdIdx ≠ wrIdx
  | _ => True

/-! ### Polling -/

/-- The three tests of `QueueIsEmpty` on the way to a packet: in
`PollingLidarPointCloudData`, in `PublishPointcloud2` or `PublishCustomPointcloud`,
and in `QueuePrePop`. -/
inductive EmptyTest
  | polling
  | publish
  | prePop
deriving DecidableEq, Repr

/-- The program counters of the polling thread. -/
inductive PollPc
  | distribute
  | wait
  | lidar (i : ℕ)
  | storage (i : Fin kMaxSourceLidar)
  | exit (i : Fin kMaxSourceLidar)
  | empty (test : EmptyTest) (i : Fin kMaxSourceLidar)
  | emptyRd (test : EmptyTest) (i : Fin kMaxSourceLidar) (rdIdx : UInt32)
  | emptyWr (test : EmptyTest) (i : Fin kMaxSourceLidar) (wrIdx : UInt32)
  | incLoad (i : Fin kMaxSourceLidar)
  | incStore (i : Fin kMaxSourceLidar) (rdIdx : UInt32)
deriving DecidableEq, Repr

/-- Where the thread goes from a test of `QueueIsEmpty`. An unsupported message type
returns without a pop. -/
def pollTested (transferFormat : TransferType) (i : Fin kMaxSourceLidar) :
    EmptyTest → Bool → PollPc
  | .polling, true => .lidar (i + 1)
  | .polling, false =>
    match transferFormat with
    | .pointCloud2 | .livoxCustom => .empty .publish i
    | .pclPxyzi => .exit i
  | .publish, true => .exit i
  | .publish, false => .empty .prePop i
  | .prePop, true => .empty .publish i
  | .prePop, false => .incLoad i

/-- A step of the polling thread on the queues and the count; `none` where it is
blocked in `Wait`. -/
def pollStep (connectState : Fin kMaxSourceLidar → LidarConnectState)
    (transferFormat : TransferType) (wrFirst requestExit : Bool)
    (queues : Fin kMaxSourceLidar → LidarDataQueue) (count : ℤ) :
    PollPc → Option ((Fin kMaxSourceLidar → LidarDataQueue) × ℤ × PollPc)
  | .distribute => some (queues, count, if requestExit then .distribute else .wait)
  | .wait => if 0 < count then some (queues, count - 1, .lidar 0) else none
  | .lidar i =>
    some (queues, count,
      if h : i < kMaxSourceLidar then
        if connectState ⟨i, h⟩ ≠ .sampling then .lidar (i + 1) else .storage ⟨i, h⟩
      else .distribute)
  | .storage i =>
    some (queues, count, if (queues i).storagePacket.isNone then .lidar (i + 1) else .exit i)
  | .exit i => some (queues, count, if requestExit then .lidar (i + 1) else .empty .polling i)
  | .empty test i =>
    some (queues, count,
      if wrFirst then .emptyWr test i (queues i).wrIdx else .emptyRd test i (queues i).rdIdx)
  | .emptyRd test i rdIdx =>
    some (queues, count, pollTested transferFormat i test (rdIdx == (queues i).wrIdx))
  | .emptyWr test i wrIdx =>
    some (queues, count, pollTested transferFormat i test ((queues i).rdIdx == wrIdx))
  | .incLoad i => some (queues, count, .incStore i (queues i).rdIdx)
  | .incStore i rdIdx =>
    some (Function.update queues i { queues i with rdIdx := rdIdx + 1 }, count,
      .empty .publish i)

/-- The thread has yet to come by lidar `i`, or will not leave it as long as its queue
is not empty. -/
def PollPc.Covers (i : Fin kMaxSourceLidar) (queue : LidarDataQueue) : PollPc → Prop
  | .distribute | .wait => False
  | .lidar j => j ≤ i
  | .storage j | .exit j | .empty _ j | .incLoad j | .incStore j _ => j ≤ i
  | .emptyRd test j rdIdx => j ≤ i ∧ (j = i → test = .polling → rdIdx ≠ queue.wrIdx)
  | .emptyWr test j wrIdx => j ≤ i ∧ (j = i → test = .polling → queue.rdIdx ≠ wrIdx)

/-- The thread is at the queue of lidar `i`, whose storage it has seen. -/
def PollPc.At (i : Fin kMaxSourceLidar) : PollPc → Prop
  | .exit j | .empty _ j | .emptyRd _ j _ | .emptyWr _ j _ | .incLoad j | .incStore j _ => j = i
  | _ => False

/-! ### All threads -/

/-- The lidars, the semaphore and the threads. -/
structure LidarPolling (ι : Type) where
  queues : Fin kMaxSourceLidar → LidarDataQueue
  count : ℤ
  requestExit : Bool
  pushes : ι → Option Push
  pc : PollPc

variable {ι : Type}

/-- No lidar has a queue, and the semaphore has the count 0. -/
def LidarPolling.init : LidarPolling ι where
  queues _ := ⟨none, 0, 0, 0, 0⟩
  count := 0
  requestExit := false
  pushes _ := none
  pc := .distribute

/-- What happens: a thread calls `PushLidarData`, or takes a step in it, the polling
thread takes a step, or `RequestExit` is called. -/
inductive PollingEvent (ι : Type)
  | call (t : ι) (index : Fin kMaxSourceLidar) (data : PointPacket) (baseTime : UInt64)
  | push (t : ι) (wrFirst : Bool)
  | poll (wrFirst : Bool)
  | requestExit

/-- One step of one thread. -/
def pollingStep [DecidableEq ι] (queueSize : UInt32)
    (connectState : Fin kMaxSourceLidar → LidarConnectState) (transferFormat : TransferType)
    (s : LidarPolling ι) : PollingEvent ι → Option (LidarPolling ι)
  | .call t index data baseTime =>
    match s.pushes t with
    | none => some { s with
        pushes := Function.update s.pushes t (some ⟨index, data, baseTime, .storage⟩) }
    | some _ => none
  | .push t wrFirst =>
    (s.pushes t).map fun p =>
      let r := pushStep queueSize wrFirst p.data p.baseTime (s.queues p.index) s.count p.pc
      { s with
        queues := Function.update s.queues p.index r.1
        count := r.2.1
        pushes := Function.update s.pushes t (r.2.2.map fun pc => { p with pc := pc }) }
  | .poll wrFirst =>
    (pollStep connectState transferFormat wrFirst s.requestExit s.queues s.count s.pc).map
      fun r => { s with queues := r.1, count := r.2.1, pc := r.2.2 }
  | .requestExit => some { s with requestExit := true }

/-! ### Single steps -/

section Steps

variable {queueSize : UInt32} {wrFirst requestExit : Bool} {data : PointPacket}
  {baseTime : UInt64} {queue : LidarDataQueue} {count : ℤ}
  {queues : Fin kMaxSourceLidar → LidarDataQueue}
  {connectState : Fin kMaxSourceLidar → LidarConnectState} {transferFormat : TransferType}
  {i : Fin kMaxSourceLidar}

/-- No step of a push takes from the count. -/
theorem pushStep_count (queueSize : UInt32) (wrFirst : Bool) (data : PointPacket)
    (baseTime : UInt64) (queue : LidarDataQueue) (count : ℤ) (pc : PushPc) :
    count ≤ (pushStep queueSize wrFirst data baseTime queue count pc).2.1 := by
  unfold pushStep
  split
  case h_18 => exact Int.le_add_one (le_refl count)
  all_goals first
    | exact le_refl count
    | split <;> exact le_refl count

/-- A step of a push that leaves the queue with packets: the push still owes a look at
the count, or the count is positive, or nothing has changed and it owed none. -/
theorem pushStep_owes (pc : PushPc) (hcount : 0 ≤ count)
    {r : LidarDataQueue × ℤ × Option PushPc}
    (hr : pushStep queueSize wrFirst data baseTime queue count pc = r)
    (hne : r.1.rdIdx ≠ r.1.wrIdx) :
    (∃ pc', r.2.2 = some pc' ∧ pc'.Owes r.1) ∨ 0 < r.2.1 ∨
      (r.1 = queue ∧ r.2.1 = count ∧ ¬ pc.Owes queue) := by
  subst hr
  cases pc with
  | storage =>
    simp only [pushStep]
    split
    · exact .inl ⟨.initCheck, rfl, trivial⟩
    · exact .inl ⟨.fullWr, rfl, trivial⟩
  | initCheck =>
    simp only [pushStep]
    split
    · exact .inl ⟨.initNull, rfl, trivial⟩
    · exact .inl ⟨.initNew, rfl, trivial⟩
  | initNull => exact .inl ⟨.initNew, rfl, trivial⟩
  | initNew => exact .inl ⟨.initRd, rfl, trivial⟩
  | initRd => exact .inl ⟨.initWr, rfl, trivial⟩
  | initWr => exact .inl ⟨.initSize, rfl, trivial⟩
  | initSize => exact .inl ⟨.initMask, rfl, trivial⟩
  | initMask => exact .inl ⟨.fullWr, rfl, trivial⟩
  | fullWr => exact .inl ⟨.fullRd queue.wrIdx, rfl, trivial⟩
  | fullRd wrIdx =>
    simp only [pushStep]
    split
    · exact .inl ⟨.getCount, rfl, trivial⟩
    · exact .inl ⟨.slot, rfl, trivial⟩
  | slot => exact .inl ⟨.incLoad, rfl, trivial⟩
  | incLoad => exact .inl ⟨.incStore queue.wrIdx, rfl, trivial⟩
  | incStore wrIdx => exact .inl ⟨.empty, rfl, trivial⟩
  | empty =>
    cases wrFirst with
    | true => exact .inl ⟨.emptyWr queue.wrIdx, rfl, hne⟩
    | false => exact .inl ⟨.emptyRd queue.rdIdx, rfl, hne⟩
  | emptyRd rdIdx =>
    by_cases heq : rdIdx = queue.wrIdx
    · exact .inr (.inr ⟨rfl, rfl, not_not_intro heq⟩)
    · refine .inl ⟨.getCount, ?_, trivial⟩
      simp [pushStep, pushTested, heq]
  | emptyWr wrIdx =>
    by_cases heq : queue.rdIdx = wrIdx
    · exact .inr (.inr ⟨rfl, rfl, not_not_intro heq⟩)
    · refine .inl ⟨.getCount, ?_, trivial⟩
      simp [pushStep, pushTested, heq]
  | getCount =>
    by_cases hle : count ≤ 0
    · refine .inl ⟨.signal, ?_, trivial⟩
      simp [pushStep, hle]
    · refine .inr (.inl ?_)
      simp only [pushStep, hle, if_false]
      omega
  | signal => exact .inr (.inl (Int.lt_add_one_of_le hcount))

/-- The push has not yet stored anything. -/
def PushPc.Untouched : PushPc → Prop
  | .storage | .initCheck => True
  | _ => False

/-- Only `InitQueue` changes whether a queue has storage. -/
theorem pushStep_isNone {pc : PushPc} (hnull : pc ≠ .initNull) (hnew : pc ≠ .initNew) :
    (pushStep queueSize wrFirst data baseTime queue count pc).1.storagePacket.isNone =
      queue.storagePacket.isNone := by
  cases pc with
  | storage | initCheck | fullRd _ | empty | getCount =>
    simp only [pushStep]
    split <;> rfl
  | initNull => exact absurd rfl hnull
  | initNew => exact absurd rfl hnew
  | slot => exact Option.isNone_map
  | initRd | initWr | initSize | initMask | fullWr | incLoad | incStore _ | emptyRd _
  | emptyWr _ | signal => rfl

/-- A queue without storage behind a step of a push: the push has just deleted it or
makes it next, or the queue had none before. -/
theorem pushStep_storage (pc : PushPc) {r : LidarDataQueue × ℤ × Option PushPc}
    (hr : pushStep queueSize wrFirst data baseTime queue count pc = r)
    (hnone : r.1.storagePacket = none) :
    r.2.2 = some .initNew ∨ queue.storagePacket = none ∧ pc ≠ .initNew ∧
      (pc.Untouched → r.1 = queue ∧ ∃ pc', r.2.2 = some pc' ∧ pc'.Untouched) := by
  subst hr
  by_cases hnull : pc = .initNull
  · subst hnull
    exact .inl rfl
  by_cases hnew : pc = .initNew
  · subst hnew
    cases hnone
  have hqueue : queue.storagePacket = none := by
    have hsame : (pushStep queueSize wrFirst data baseTime queue count pc).1.storagePacket.isNone =
        queue.storagePacket.isNone := pushStep_isNone hnull hnew
    rwa [hnone, Option.isNone_none, eq_comm, Option.isNone_iff_eq_none] at hsame
  cases pc with
  | storage =>
    refine .inr ⟨hqueue, hnew, fun _ => ?_⟩
    simp only [pushStep, hqueue]
    exact ⟨rfl, .initCheck, rfl, trivial⟩
  | initCheck =>
    left
    simp only [pushStep, hqueue]
    rfl
  | initNull | initNew | initRd | initWr | initSize | initMask | fullWr | fullRd _ | slot
  | incLoad | incStore _ | empty | emptyRd _ | emptyWr _ | getCount | signal =>
    exact .inr ⟨hqueue, hnew, False.elim⟩

/-- A lidar that is passed is not lidar `i`, or not before it. -/
theorem covers_next {j : ℕ} (hji : j ≠ i) (queue queue' : LidarDataQueue)
    (h : (PollPc.lidar j).Covers i queue) : (PollPc.lidar (j + 1)).Covers i queue' :=
  Nat.succ_le_of_lt (lt_of_le_of_ne h hji)

/-- From a test of `QueueIsEmpty` the thread goes on at the queue, unless the test is
that of the polling loop and finds it empty. -/
theorem pollTested_covers {test : EmptyTest} {j : Fin kMaxSourceLidar} {isEmpty : Bool}
    (hji : j ≤ i) (hpolling : j = i → test = .polling → isEmpty = false) (queue : LidarDataQueue) :
    (pollTested transferFormat j test isEmpty).Covers i queue := by
  cases test with
  | polling =>
    cases isEmpty with
    | true =>
      have hne : (j : ℕ) ≠ i := fun heq => nomatch hpolling (Fin.ext heq) rfl
      exact covers_next hne queue queue hji
    | false => cases transferFormat <;> exact hji
  | publish => cases isEmpty <;> exact hji
  | prePop => cases isEmpty <;> exact hji

/-- A step of the polling thread behind which the queue of a sampling lidar holds
packets: the thread covers the queue, or nothing has changed at it, and the thread did
not cover it, or met a queue without storage or the request to exit. -/
theorem pollStep_covers {pc pc' : PollPc} {queues' : Fin kMaxSourceLidar → LidarDataQueue}
    {count' : ℤ} (hsampling : connectState i = .sampling)
    (h : pollStep connectState transferFormat wrFirst requestExit queues count pc =
      some (queues', count', pc'))
    (hne : (queues' i).rdIdx ≠ (queues' i).wrIdx) :
    pc'.Covers i (queues' i) ∨ (queues' i = queues i ∧ count' = count ∧
      (¬ pc.Covers i (queues i) ∨ (queues i).storagePacket = none ∧ pc = .storage i ∨
        requestExit = true ∧ pc' ≠ .wait)) := by
  cases pc with
  | distribute =>
    cases h
    exact .inr ⟨rfl, rfl, .inl id⟩
  | wait =>
    simp only [pollStep] at h
    split at h
    · cases h
      exact .inl (Nat.zero_le _)
    · cases h
  | lidar j =>
    cases h
    by_cases hji : j ≤ i
    · left
      rw [dif_pos (lt_of_le_of_lt hji i.isLt)]
      split
      · rename_i hstate
        refine covers_next ?_ (queues i) _ hji
        rintro rfl
        exact hstate hsampling
      · exact hji
    · exact .inr ⟨rfl, rfl, .inl hji⟩
  | storage j =>
    simp only [pollStep, Option.some.injEq, Prod.mk.injEq] at h
    obtain ⟨rfl, rfl, rfl⟩ := h
    by_cases hji : j ≤ i
    · cases hnone : (queues j).storagePacket with
      | none =>
        by_cases heq : j = i
        · subst heq
          exact .inr ⟨rfl, rfl, .inr (.inl ⟨hnone, rfl⟩)⟩
        · left
          exact covers_next (fun h => heq (Fin.ext h)) (queues i) _ hji
      | some _ => exact .inl hji
    · exact .inr ⟨rfl, rfl, .inl hji⟩
  | exit j =>
    simp only [pollStep, Option.some.injEq, Prod.mk.injEq] at h
    obtain ⟨rfl, rfl, rfl⟩ := h
    by_cases hji : j ≤ i
    · cases hexit : requestExit with
      | true => exact .inr ⟨rfl, rfl, .inr (.inr ⟨rfl, by simp⟩)⟩
      | false => exact .inl hji
    · exact .inr ⟨rfl, rfl, .inl hji⟩
  | empty test j =>
    cases h
    by_cases hji : j ≤ i
    · left
      cases wrFirst with
      | true => exact ⟨hji, fun heq _ => heq ▸ hne⟩
      | false => exact ⟨hji, fun heq _ => heq ▸ hne⟩
    · exact .inr ⟨rfl, rfl, .inl hji⟩
  | emptyRd test j rdIdx =>
    cases h
    by_cases hcovers : (PollPc.emptyRd test j rdIdx).Covers i (queues i)
    · left
      refine pollTested_covers hcovers.1 ?_ _
      rintro rfl htest
      exact beq_eq_false_iff_ne.mpr (hcovers.2 rfl htest)
    · exact .inr ⟨rfl, rfl, .inl hcovers⟩
  | emptyWr test j wrIdx =>
    cases h
    by_cases hcovers : (PollPc.emptyWr test j wrIdx).Covers i (queues i)
    · left
      refine pollTested_covers hcovers.1 ?_ _
      rintro rfl htest
      exact beq_eq_false_iff_ne.mpr (hcovers.2 rfl htest)
    · exact .inr ⟨rfl, rfl, .inl hcovers⟩
  | incLoad j =>
    cases h
    by_cases hji : j ≤ i
    · exact .inl hji
    · exact .inr ⟨rfl, rfl, .inl hji⟩
  | incStore j rdIdx =>
    cases h
    by_cases hji : j ≤ i
    · exact .inl hji
    · have hne : i ≠ j := fun heq => hji heq.ge
      exact .inr ⟨Function.update_of_ne hne _ _, rfl, .inl hji⟩

/-- The polling thread changes the read index of the queue it is at, and nothing else. -/
theorem pollStep_queues {pc pc' : PollPc} {queues' : Fin kMaxSourceLidar → LidarDataQueue}
    {count' : ℤ}
    (h : pollStep connectState transferFormat wrFirst requestExit queues count pc =
      some (queues', count', pc')) :
    queues' = queues ∨ ∃ j rdIdx, pc.At j ∧
      queues' = Function.update queues j { queues j with rdIdx := rdIdx } := by
  cases pc with
  | wait =>
    simp only [pollStep] at h
    split at h
    · cases h
      exact .inl rfl
    · cases h
  | incStore j rdIdx =>
    cases h
    exact .inr ⟨j, rdIdx + 1, rfl, rfl⟩
  | distribute | lidar _ | storage _ | exit _ | empty _ _ | emptyRd _ _ _ | emptyWr _ _ _
  | incLoad _ =>
    cases h
    exact .inl rfl

theorem pollTested_at {test : EmptyTest} {j : Fin kMaxSourceLidar} {isEmpty : Bool}
    (h : (pollTested transferFormat j test isEmpty).At i) : j = i := by
  cases test with
  | polling =>
    cases isEmpty with
    | true => exact h.elim
    | false => cases transferFormat <;> exact h
  | publish => cases isEmpty <;> exact h
  | prePop => cases isEmpty <;> exact h

theorem pollTested_ne_wait {test : EmptyTest} {j : Fin kMaxSourceLidar} {isEmpty : Bool} :
    pollTested transferFormat j test isEmpty ≠ .wait := by
  cases test with
  | polling =>
    cases isEmpty with
    | true => simp [pollTested]
    | false => cases transferFormat <;> simp [pollTested]
  | publish => cases isEmpty <;> simp [pollTested]
  | prePop => cases isEmpty <;> simp [pollTested]

/-- The thread comes to a queue where it sees its storage. -/
theorem pollStep_at {pc pc' : PollPc} {queues' : Fin kMaxSourceLidar → LidarDataQueue}
    {count' : ℤ}
    (h : pollStep connectState transferFormat wrFirst requestExit queues count pc =
      some (queues', count', pc')) (hat : pc'.At i) :
    pc.At i ∨ (queues i).storagePacket ≠ none := by
  cases pc with
  | distribute =>
    cases h
    split at hat
    · exact hat.elim
    · exact hat.elim
  | wait =>
    simp only [pollStep] at h
    split at h
    · cases h
      exact hat.elim
    · cases h
  | lidar j =>
    cases h
    split at hat
    · split at hat
      · exact hat.elim
      · exact hat.elim
    · exact hat.elim
  | storage j =>
    cases h
    split at hat
    · exact hat.elim
    · rename_i hsome
      cases hat
      exact .inr fun hnone => hsome (Option.isNone_iff_eq_none.mpr hnone)
  | exit j =>
    cases h
    split at hat
    · exact hat.elim
    · exact .inl hat
  | empty test j =>
    cases h
    split at hat
    · exact .inl hat
    · exact .inl hat
  | emptyRd test j rdIdx =>
    cases h
    exact .inl (pollTested_at hat)
  | emptyWr test j wrIdx =>
    cases h
    exact .inl (pollTested_at hat)
  | incLoad j =>
    cases h
    exact .inl hat
  | incStore j rdIdx =>
    cases h
    exact .inl hat

/-- The thread does not wait any more once the exit is requested. -/
theorem pollStep_exit {pc pc' : PollPc} {queues' : Fin kMaxSourceLidar → LidarDataQueue}
    {count' : ℤ}
    (h : pollStep connectState transferFormat wrFirst true queues count pc =
      some (queues', count', pc')) : pc' ≠ .wait := by
  cases pc with
  | wait =>
    simp only [pollStep] at h
    split at h
    · cases h
      simp
    · cases h
  | lidar j =>
    cases h
    split
    · split <;> simp
    · simp
  | storage j | empty _ j =>
    cases h
    split <;> simp
  | emptyRd test j _ | emptyWr test j _ =>
    cases h
    exact pollTested_ne_wait
  | distribute | exit _ | incLoad _ | incStore _ _ =>
    cases h
    simp

theorem pollStep_count {pc pc' : PollPc} {queues' : Fin kMaxSourceLidar → LidarDataQueue}
    {count' : ℤ} (hcount : 0 ≤ count)
    (h : pollStep connectState transferFormat wrFirst requestExit queues count pc =
      some (queues', count', pc')) : 0 ≤ count' := by
  cases pc with
  | wait =>
    simp only [pollStep] at h
    split at h
    · cases h
      omega
    · cases h
  | distribute | lidar _ | storage _ | exit _ | empty _ _ | emptyRd _ _ _ | emptyWr _ _ _
  | incLoad _ | incStore _ _ =>
    cases h
    exact hcount

end Steps

/-! ### Every interleaving -/

section Awake

variable {queueSize : UInt32} {connectState : Fin kMaxSourceLidar → LidarConnectState}
  {transferFormat : TransferType} {s s' : LidarPolling ι} {i : Fin kMaxSourceLidar}

/-- A push into lidar `i` is in progress, with a property of its program counter. -/
def LidarPolling.Pushing (s : LidarPolling ι) (i : Fin kMaxSourceLidar) (P : PushPc → Prop) :
    Prop :=
  ∃ t p, s.pushes t = some p ∧ p.index = i ∧ P p.pc

/-- The queue of lidar `i` has storage, or a push makes it next, or nothing has been
done with it. -/
def LidarPolling.Stored (s : LidarPolling ι) (i : Fin kMaxSourceLidar) : Prop :=
  (s.queues i).storagePacket = none → s.Pushing i (· = .initNew) ∨
    (s.queues i).rdIdx = (s.queues i).wrIdx ∧ (∀ t p, s.pushes t = some p → p.index = i →
      p.pc.Untouched) ∧ ¬ s.pc.At i

/-- Packets in the queue of lidar `i` are not forgotten: the count is positive, or a
push into it owes a look at the count, or the polling thread covers the queue, or it
leaves on request. -/
def LidarPolling.Remembered (s : LidarPolling ι) (i : Fin kMaxSourceLidar) : Prop :=
  (s.queues i).rdIdx ≠ (s.queues i).wrIdx → 0 < s.count ∨
    s.Pushing i (·.Owes (s.queues i)) ∨ s.pc.Covers i (s.queues i) ∨
    s.requestExit = true ∧ s.pc ≠ .wait

/-- The invariant of pushing and polling. -/
structure Awake (connectState : Fin kMaxSourceLidar → LidarConnectState) (s : LidarPolling ι) :
    Prop where
  count : 0 ≤ s.count
  stored : ∀ i, s.Stored i
  remembered : ∀ i, connectState i = .sampling → s.Remembered i

theorem init_awake : Awake connectState (LidarPolling.init : LidarPolling ι) where
  count := le_refl 0
  stored _ _ := .inr ⟨rfl, fun _ _ h => absurd h (by simp [LidarPolling.init]), id⟩
  remembered _ _ hne := absurd rfl hne

/-- A step of the polling thread. -/
theorem Awake.poll {wrFirst : Bool} (h : Awake connectState s)
    {r : (Fin kMaxSourceLidar → LidarDataQueue) × ℤ × PollPc}
    (hr : pollStep connectState transferFormat wrFirst s.requestExit s.queues s.count s.pc =
      some r) : Awake connectState { s with queues := r.1, count := r.2.1, pc := r.2.2 } := by
  obtain ⟨queues', count', pc'⟩ := r
  refine ⟨pollStep_count h.count hr, ?_, ?_⟩
  · intro i hnone
    have hnone' : (s.queues i).storagePacket = none := by
      rcases pollStep_queues hr with rfl | ⟨j, rdIdx, -, rfl⟩
      · exact hnone
      · by_cases hij : i = j
        · subst hij
          simpa using hnone
        · simpa [Function.update_of_ne hij] using hnone
    rcases h.stored i hnone' with hnew | ⟨heq, hall, hat⟩
    · exact .inl hnew
    · have hqueue : queues' i = s.queues i := by
        rcases pollStep_queues hr with rfl | ⟨j, rdIdx, hj, rfl⟩
        · rfl
        · refine Function.update_of_ne ?_ _ _
          rintro rfl
          exact hat hj
      have hsame : (queues' i).rdIdx = (queues' i).wrIdx := by
        rw [hqueue]
        exact heq
      refine .inr ⟨hsame, hall, ?_⟩
      intro hat'
      rcases pollStep_at hr hat' with hat'' | hsome
      · exact hat hat''
      · exact hsome hnone'
  · intro i hsampling hne
    rcases pollStep_covers hsampling hr hne with hcovers | ⟨hqueue, hcount, hwhy⟩
    · exact .inr (.inr (.inl hcovers))
    · change (queues' i).rdIdx ≠ (queues' i).wrIdx at hne
      have hold := h.remembered i hsampling (hqueue ▸ hne)
      simp only [hqueue, hcount]
      rcases hwhy with hnot | ⟨hnone, hpc⟩ | hexit
      · rcases hold with hpos | howes | hcovers | ⟨hexit, hwait⟩
        · exact .inl hpos
        · exact .inr (.inl howes)
        · exact absurd hcovers hnot
        · exact .inr (.inr (.inr ⟨hexit, pollStep_exit (hexit ▸ hr)⟩))
      · rcases h.stored i hnone with ⟨t, p, hp, hi, hnew⟩ | ⟨heq, -, -⟩
        · exact .inr (.inl ⟨t, p, hp, hi, hnew ▸ trivial⟩)
        · exact absurd heq (hqueue ▸ hne)
      · exact .inr (.inr (.inr hexit))

variable [DecidableEq ι]

/-- The call of a thread leaves the pushes of the others. -/
theorem Awake.call {t : ι} (h : Awake connectState s) (ht : s.pushes t = none)
    (data : PointPacket) (baseTime : UInt64) : Awake connectState { s with
      pushes := Function.update s.pushes t (some ⟨i, data, baseTime, .storage⟩) } := by
  have hpushing : ∀ {k : Fin kMaxSourceLidar} {P : PushPc → Prop}, s.Pushing k P →
      LidarPolling.Pushing { s with
        pushes := Function.update s.pushes t (some ⟨i, data, baseTime, .storage⟩) } k P := by
    rintro k P ⟨t', p, hp, hk, hP⟩
    refine ⟨t', p, ?_, hk, hP⟩
    have hne : t' ≠ t := by
      rintro rfl
      rw [ht] at hp
      cases hp
    exact (Function.update_of_ne hne _ _).trans hp
  refine ⟨h.count, ?_, ?_⟩
  · intro k hnone
    rcases h.stored k hnone with hnew | ⟨heq, huntouched, hat⟩
    · exact .inl (hpushing hnew)
    · refine .inr ⟨heq, ?_, hat⟩
      intro t' p hp hk
      by_cases hne : t' = t
      · subst hne
        change Function.update s.pushes t' _ t' = some p at hp
        rw [Function.update_self] at hp
        cases hp
        trivial
      · exact huntouched t' p ((Function.update_of_ne hne _ _).symm.trans hp) hk
  · intro k hsampling hne
    rcases h.remembered k hsampling hne with hcount | howes | hcovers | hexit
    · exact .inl hcount
    · exact .inr (.inl (hpushing howes))
    · exact .inr (.inr (.inl hcovers))
    · exact .inr (.inr (.inr hexit))

/-- The state behind a step of the push `p` of thread `t`. -/
def LidarPolling.pushed (s : LidarPolling ι) (t : ι) (p : Push)
    (r : LidarDataQueue × ℤ × Option PushPc) : LidarPolling ι :=
  { s with
    queues := Function.update s.queues p.index r.1
    count := r.2.1
    pushes := Function.update s.pushes t (r.2.2.map fun pc => { p with pc := pc }) }

section Push

variable {t : ι} {p : Push} {r : LidarDataQueue × ℤ × Option PushPc} {P : PushPc → Prop}

theorem pushed_self (s : LidarPolling ι) {pc : PushPc} (hpc : r.2.2 = some pc) (hP : P pc) :
    (s.pushed t p r).Pushing p.index P := by
  refine ⟨t, { p with pc := pc }, ?_, rfl, hP⟩
  change Function.update s.pushes t _ t = _
  rw [Function.update_self, hpc]
  rfl

/-- The push of another thread goes on. -/
theorem pushed_other (hp : s.pushes t = some p) (h : s.Pushing i P)
    (hnot : p.index = i → ¬ P p.pc) : (s.pushed t p r).Pushing i P := by
  obtain ⟨t', p', hp', hi, hP⟩ := h
  have hne : t' ≠ t := by
    rintro rfl
    rw [hp] at hp'
    cases hp'
    exact hnot hi hP
  exact ⟨t', p', (Function.update_of_ne hne _ _).trans hp', hi, hP⟩

theorem pushed_queue_of_ne (s : LidarPolling ι) (hi : i ≠ p.index) :
    (s.pushed t p r).queues i = s.queues i := Function.update_of_ne hi _ _

theorem pushed_queue_self (s : LidarPolling ι) : (s.pushed t p r).queues p.index = r.1 :=
  Function.update_self _ _ _

theorem Awake.pushed_stored {wrFirst : Bool} (h : Awake connectState s) (hp : s.pushes t = some p)
    (hr : pushStep queueSize wrFirst p.data p.baseTime (s.queues p.index) s.count p.pc = r) :
    (s.pushed t p r).Stored i := by
  intro hnone
  by_cases hi : i = p.index
  · subst hi
    rw [pushed_queue_self] at hnone ⊢
    rcases pushStep_storage p.pc hr hnone with hnew | ⟨hqueue, hnot, huntouched⟩
    · exact .inl (pushed_self s hnew rfl)
    · rcases h.stored p.index hqueue with hnew | ⟨heq, hall, hat⟩
      · exact .inl (pushed_other hp hnew fun _ => hnot)
      · obtain ⟨hsame, pc', hpc', huntouched'⟩ := huntouched (hall t p hp rfl)
        refine .inr ⟨by rw [hsame]; exact heq, ?_, hat⟩
        intro t' p' hp' hi'
        by_cases hne : t' = t
        · subst hne
          change Function.update s.pushes t' _ t' = some p' at hp'
          rw [Function.update_self, hpc'] at hp'
          cases hp'
          exact huntouched'
        · exact hall t' p' ((Function.update_of_ne hne _ _).symm.trans hp') hi'
  · rw [pushed_queue_of_ne s hi] at hnone ⊢
    rcases h.stored i hnone with hnew | ⟨heq, hall, hat⟩
    · exact .inl (pushed_other hp hnew fun hindex => absurd hindex.symm hi)
    · refine .inr ⟨heq, ?_, hat⟩
      intro t' p' hp' hi'
      by_cases hne : t' = t
      · subst hne
        change Function.update s.pushes t' _ t' = some p' at hp'
        rw [Function.update_self, Option.map_eq_some_iff] at hp'
        obtain ⟨pc', -, rfl⟩ := hp'
        exact absurd hi'.symm hi
      · exact hall t' p' ((Function.update_of_ne hne _ _).symm.trans hp') hi'

theorem Awake.pushed_remembered {wrFirst : Bool} (h : Awake connectState s)
    (hp : s.pushes t = some p)
    (hr : pushStep queueSize wrFirst p.data p.baseTime (s.queues p.index) s.count p.pc = r)
    (hsampling : connectState i = .sampling) : (s.pushed t p r).Remembered i := by
  intro hne
  have hle : s.count ≤ r.2.1 := hr ▸ pushStep_count _ _ _ _ _ _ _
  by_cases hi : i = p.index
  · subst hi
    rw [pushed_queue_self] at hne ⊢
    rcases pushStep_owes p.pc h.count hr hne with ⟨pc', hpc', howes⟩ | hpos | ⟨hsame, hcount, hnot⟩
    · exact .inr (.inl (pushed_self s hpc' howes))
    · exact .inl hpos
    · rw [hsame] at hne ⊢
      rcases h.remembered p.index hsampling hne with hpos | howes | hrest
      · exact .inl (lt_of_lt_of_le hpos hle)
      · exact .inr (.inl (pushed_other hp howes fun _ => hnot))
      · exact .inr (.inr hrest)
  · rw [pushed_queue_of_ne s hi] at hne ⊢
    rcases h.remembered i hsampling hne with hpos | howes | hrest
    · exact .inl (lt_of_lt_of_le hpos hle)
    · exact .inr (.inl (pushed_other hp howes fun hindex => absurd hindex.symm hi))
    · exact .inr (.inr hrest)

end Push

theorem pollingStep_awake {e : PollingEvent ι} (h : Awake connectState s)
    (he : pollingStep queueSize connectState transferFormat s e = some s') :
    Awake connectState s' := by
  cases e with
  | call t index data baseTime =>
    simp only [pollingStep] at he
    split at he
    · rename_i ht
      cases he
      exact h.call ht data baseTime
    · cases he
  | push t wrFirst =>
    obtain ⟨p, hp, rfl⟩ := Option.map_eq_some_iff.mp he
    refine ⟨h.count.trans (pushStep_count _ _ _ _ _ _ _), ?_, ?_⟩
    · intro i
      exact h.pushed_stored hp rfl
    · intro i hsampling
      exact h.pushed_remembered hp rfl hsampling
  | poll wrFirst =>
    obtain ⟨r, hr, rfl⟩ := Option.map_eq_some_iff.mp he
    exact h.poll hr
  | requestExit =>
    cases he
    refine ⟨h.count, h.stored, ?_⟩
    intro i hsampling hne
    rcases h.remembered i hsampling hne with hpos | howes | hcovers | ⟨-, hwait⟩
    · exact .inl hpos
    · exact .inr (.inl howes)
    · exact .inr (.inr (.inl hcovers))
    · exact .inr (.inr (.inr ⟨rfl, hwait⟩))

/-- **No wake-up is lost.** In every interleaving of pushes and polling, whenever the
polling thread is blocked on the count 0 and no push is in progress, the queues of all
sampling lidars are empty. -/
theorem no_lost_wakeup {tr : List (LidarPolling ι × PollingEvent ι)}
    (h : Run (pollingStep queueSize connectState transferFormat) (fun _ _ => True)
      LidarPolling.init tr s)
    (hwait : s.pc = .wait) (hcount : s.count = 0) (hidle : ∀ t, s.pushes t = none)
    (hsampling : connectState i = .sampling) : queueIsEmpty (s.queues i) = true := by
  have hinv : Awake connectState s := by
    apply h.invariant
    · exact init_awake
    · intro tr s e s' hs _ he
      exact pollingStep_awake hs he
  by_contra hne
  rw [Bool.not_eq_true, queueIsEmpty, beq_eq_false_iff_ne] at hne
  rcases hinv.remembered i hsampling hne with hpos | ⟨t, p, hp, -⟩ | hcovers | ⟨-, hnot⟩
  · omega
  · rw [hidle t] at hp
    cases hp
  · rw [hwait] at hcovers
    exact hcovers
  · exact hnot hwait

/-- A push of no points into the first lidar, the polling thread that drains the queue
and waits again. -/
theorem no_lost_wakeup_drained : ∃ tr s,
    Run (pollingStep 1 (fun _ => .sampling) .livoxCustom) (fun _ _ => True)
      (LidarPolling.init : LidarPolling Unit) tr s ∧
    s.pc = .wait ∧ s.count = 0 ∧ (s.queues ⟨0, by decide⟩).wrIdx = 1 ∧
    queueIsEmpty (s.queues ⟨0, by decide⟩) = true := by
  have hexec : (exec (pollingStep 1 (fun _ => .sampling) .livoxCustom)
      (LidarPolling.init : LidarPolling Unit)
      (.call () ⟨0, by decide⟩ ⟨0, [], le_refl 0⟩ 0 :: List.replicate 16 (.push () false) ++
        List.replicate 82 (.poll false))).map
      (fun s => decide (s.pc = .wait ∧ s.count = 0 ∧ (s.queues ⟨0, by decide⟩).wrIdx = 1 ∧
        (s.pushes ()).isNone)) = some true := by
    decide +kernel
  obtain ⟨s, hs, hend⟩ := Option.map_eq_some_iff.mp hexec
  obtain ⟨tr, -, hrun⟩ := Run.of_exec hs
  obtain ⟨hwait, hcount, hwr, hidle⟩ := of_decide_eq_true hend
  exact ⟨tr, s, hrun, hwait, hcount, hwr,
    no_lost_wakeup hrun hwait hcount (fun _ => Option.isNone_iff_eq_none.mp hidle) rfl⟩

end Awake

end Livox
end SensorSupport
