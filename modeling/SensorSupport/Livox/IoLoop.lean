/-
# The IO loop (`sdk_core/base/io_loop.cpp`, `io_thread.cpp`, `multiple_io/multiple_io_epoll.cpp`)

Any thread posts tasks to an `IOLoop`: it appends to `pending_tasks_` under the mutex and
then writes a byte to the wake-up pipe. The loop thread polls, drains the pipe when it is
reported, swaps the tasks out under the mutex and runs them. The tasks add and remove the
delegates of sockets, which only the loop thread does; sockets are opened and closed by other
threads meanwhile.

The kernel is part of the state: the sockets that are open, which of them the epoll instance
watches, and the bytes in the pipe. `epoll_wait` reports what is readable as long as it fits
in `descriptors_.size()` events, and it always does (`poll_reports_all`), so the pipe is
reported when there is a byte in it.

Key definitions: `IOLoop`, `IOLoopEvent`, `IOLoop.step`, `IOLoop.SetInv`.
Key theorems: `io_loop_runs_tasks`, `io_loop_calls`, `poll_writes_behind_pollset`.
-/
import Mathlib.Data.List.AList
import SensorSupport.Lib.Doorbell

namespace SensorSupport
namespace Livox

variable {δ : Type}

/-- `socket_t`. -/
abbrev Fd := ℤ

/-- `IOLoop::IOLoopTask`: the calls that `AddDelegate` and `RemoveDelegate` bind. -/
inductive IOLoopTask (δ : Type)
  | addDelegateAsync (sock : Fd) (delegate : δ)
  | removeDelegateAsync (sock : Fd)
deriving DecidableEq

/-- The socket of a task. -/
def IOLoopTask.sock : IOLoopTask δ → Fd
  | .addDelegateAsync sock _ => sock
  | .removeDelegateAsync sock => sock

/-- `PollFd::event_callback`: drains the wake-up pipe, or hands the data to a delegate. -/
inductive EventCallback (δ : Type)
  | wakeUp
  | delegate (delegate : δ)
deriving DecidableEq

/-- `OPEN_MAX_POLL`. -/
def openMaxPoll : ℕ := 48

/-- The bytes `Drain` reads. -/
def drainSize : ℕ := 512

/-- The bytes a pipe holds; a write to a full pipe waits. -/
def pipeSize : ℕ := 65536

/-! ### The set of descriptors -/

/-- `MultipleIOEpoll`; `interest` is what its epoll instance watches. -/
structure MultipleIOEpoll (δ : Type) where
  maxPollSize : ℕ
  descriptors : AList fun _ : Fd => EventCallback δ
  interest : List Fd

namespace MultipleIOEpoll

/-- `descriptors_.size()`. -/
def size (io : MultipleIOEpoll δ) : ℕ := io.descriptors.keys.length

/-- `PollSetAdd`; `epoll_ctl` refuses what is closed or watched. -/
def pollSetAdd (io : MultipleIOEpoll δ) (opened : List Fd) (fd : Fd)
    (eventCallback : EventCallback δ) : MultipleIOEpoll δ × Bool :=
  if io.maxPollSize ≤ io.size then (io, false)
  else if fd ∈ opened ∧ fd ∉ io.interest then
    ({ io with
        interest := fd :: io.interest
        descriptors := io.descriptors.insert fd eventCallback }, true)
  else (io, false)

/-- `PollSetRemove`. -/
def pollSetRemove (io : MultipleIOEpoll δ) (fd : Fd) : MultipleIOEpoll δ :=
  { io with interest := io.interest.erase fd, descriptors := io.descriptors.erase fd }

/-- `PollCreate` with `WakeUpInit`. -/
def pollCreate (size : ℕ) (opened : List Fd) (pipeOut : Fd) : MultipleIOEpoll δ :=
  (pollSetAdd ⟨size + 1, ∅, []⟩ opened pipeOut .wakeUp).1

/-- The call that `Poll` makes for a descriptor that is reported, if it is a delegate's. -/
def call (io : MultipleIOEpoll δ) (fd : Fd) : Option (Fd × δ) :=
  match io.descriptors.lookup fd with
  | some (.delegate delegate) => some (fd, delegate)
  | _ => none

/-- A descriptor is the one of the wake-up pipe. -/
def drains (io : MultipleIOEpoll δ) (fd : Fd) : Bool :=
  match io.descriptors.lookup fd with
  | some .wakeUp => true
  | _ => false

/-- A descriptor is refused, or there is room for it and it is open and not watched. -/
theorem pollSetAdd_cases (io : MultipleIOEpoll δ) (opened : List Fd) (fd : Fd)
    (eventCallback : EventCallback δ) :
    io.pollSetAdd opened fd eventCallback = (io, false) ∨
      io.size < io.maxPollSize ∧ fd ∈ opened ∧ fd ∉ io.interest ∧
        io.pollSetAdd opened fd eventCallback = ({ io with
          interest := fd :: io.interest
          descriptors := io.descriptors.insert fd eventCallback }, true) := by
  unfold pollSetAdd
  by_cases hfull : io.maxPollSize ≤ io.size
  · exact .inl (if_pos hfull)
  rw [if_neg hfull]
  by_cases hfree : fd ∈ opened ∧ fd ∉ io.interest
  · exact .inr ⟨not_le.mp hfull, hfree.1, hfree.2, if_pos hfree⟩
  · exact .inl (if_neg hfree)

end MultipleIOEpoll

/-! ### The loop -/

/-- Where the loop thread is: in `Poll`, before the swap, or at the tasks it swapped out, after
which it looks at `IsQuit()`. -/
inductive LoopPc (δ : Type)
  | poll
  | swap
  | tasks (left : List (IOLoopTask δ))
  | exited

/-- `IOLoop` with its thread; `waking` are the tasks whose `PostTask` has not yet written to
the pipe, `pipeOut` and `bytes` are the pipe, and `opened` are the descriptors of the process. -/
structure IOLoop (δ : Type) where
  pendingTasks : List (IOLoopTask δ)
  waking : List (IOLoopTask δ)
  pipeOut : Fd
  bytes : ℕ
  multipleIo : MultipleIOEpoll δ
  opened : List Fd
  pc : LoopPc δ
  quit : Bool

/-- What can happen. In `poll` the descriptors `ready` have data besides the pipe, and
`epoll_wait` reports some. -/
inductive IOLoopEvent (δ : Type)
  | postTask (task : IOLoopTask δ)
  | wakeUp (i : ℕ)
  | poll (ready reported : List Fd)
  | swap
  | task
  | checkQuit
  | quit
  | openSock (sock : Fd)
  | closeSock (sock : Fd)

namespace IOLoop

/-- After `Init` and `Start`. -/
def init (pipeOut : Fd) : IOLoop δ where
  pendingTasks := []
  waking := []
  pipeOut := pipeOut
  bytes := 0
  multipleIo := MultipleIOEpoll.pollCreate openMaxPoll [pipeOut] pipeOut
  opened := [pipeOut]
  pc := .tasks []
  quit := false

/-- The descriptors with data, when `ready` are those of the sockets. -/
def readable (s : IOLoop δ) (ready : List Fd) : List Fd :=
  if 0 < s.bytes ∧ s.pipeOut ∈ s.multipleIo.interest then s.pipeOut :: ready else ready

/-- What `epoll_wait` can report: of the watched descriptors with data as many as fit. -/
def Reports (s : IOLoop δ) (ready reported : List Fd) : Prop :=
  (ready.Nodup ∧ ∀ fd ∈ ready, fd ∈ s.multipleIo.interest ∧ fd ≠ s.pipeOut) ∧
    (reported.Nodup ∧ ∀ fd ∈ reported, fd ∈ s.readable ready) ∧
    reported.length = min s.multipleIo.size (s.readable ready).length

instance (s : IOLoop δ) (ready reported : List Fd) : Decidable (s.Reports ready reported) :=
  inferInstanceAs (Decidable (_ ∧ _ ∧ _))

/-- The bytes that `Poll` takes out of the pipe. -/
def drained (s : IOLoop δ) (reported : List Fd) : ℕ :=
  if reported.any s.multipleIo.drains then min drainSize s.bytes else 0

/-- The calls of `OnData` that `Poll` makes. -/
def calls (s : IOLoop δ) (reported : List Fd) : List (Fd × δ) :=
  reported.filterMap s.multipleIo.call

/-- `AddDelegateAsync` and `RemoveDelegateAsync`. -/
def run (s : IOLoop δ) : IOLoopTask δ → MultipleIOEpoll δ
  | .addDelegateAsync sock delegate =>
    (s.multipleIo.pollSetAdd s.opened sock (.delegate delegate)).1
  | .removeDelegateAsync sock => s.multipleIo.pollSetRemove sock

/-- One event, if it can happen. -/
def step (s : IOLoop δ) : IOLoopEvent δ → Option (IOLoop δ)
  | .postTask t => some { s with pendingTasks := s.pendingTasks ++ [t], waking := s.waking ++ [t] }
  | .wakeUp i =>
    if i < s.waking.length ∧ s.bytes < pipeSize then
      some { s with waking := s.waking.eraseIdx i, bytes := s.bytes + 1 }
    else none
  | .poll ready reported =>
    match s.pc with
    | .poll =>
      if s.Reports ready reported then
        some { s with bytes := s.bytes - s.drained reported, pc := .swap }
      else none
    | _ => none
  | .swap =>
    match s.pc with
    | .swap => some { s with pendingTasks := [], pc := .tasks s.pendingTasks }
    | _ => none
  | .task =>
    match s.pc with
    | .tasks (t :: ts) => some { s with multipleIo := s.run t, pc := .tasks ts }
    | _ => none
  | .checkQuit =>
    match s.pc with
    | .tasks [] => some { s with pc := if s.quit then .exited else .poll }
    | _ => none
  | .quit => some { s with quit := true }
  | .openSock sock =>
    if sock ∉ s.opened then some { s with opened := sock :: s.opened } else none
  | .closeSock sock =>
    if sock ∈ s.opened ∧ sock ≠ s.pipeOut then
      some { s with
        opened := s.opened.erase sock
        multipleIo := { s.multipleIo with interest := s.multipleIo.interest.erase sock } }
    else none

/-- The tasks that were swapped out and have not run. -/
def swapped (s : IOLoop δ) : List (IOLoopTask δ) :=
  match s.pc with
  | .tasks left => left
  | _ => []

end IOLoop

/-- A step of the loop with the state it was taken in. -/
abbrev IOLoopStep (δ : Type) := IOLoop δ × IOLoopEvent δ

/-- The task a step posts. -/
def postedTask (x : IOLoopStep δ) : Option (IOLoopTask δ) :=
  match x.2 with
  | .postTask t => some t
  | _ => none

/-- The task a step runs. -/
def executedTask (x : IOLoopStep δ) : Option (IOLoopTask δ) :=
  match x.2 with
  | .task => x.1.swapped.head?
  | _ => none

/-- The tasks that were posted, in the order of the appends. -/
def posted (tr : List (IOLoopStep δ)) : List (IOLoopTask δ) := tr.filterMap postedTask

/-- The tasks that ran, in order. -/
def executed (tr : List (IOLoopStep δ)) : List (IOLoopTask δ) := tr.filterMap executedTask

/-- An event is a poll that returned. -/
def IOLoopEvent.isPoll : IOLoopEvent δ → Bool
  | .poll _ _ => true
  | _ => false

/-- The polls of some steps. -/
def polls (tr : List (IOLoopStep δ)) : ℕ := tr.countP fun x => x.2.isPoll

/-- The callers post tasks of sockets; the descriptor of the pipe is private. -/
def PostsSockets (s : IOLoop δ) (e : IOLoopEvent δ) : Prop :=
  ∀ t, e = .postTask t → t.sock ≠ s.pipeOut

variable {s s' : IOLoop δ} {e : IOLoopEvent δ} {tr before after : List (IOLoopStep δ)} {pipeOut : Fd}
  {ready reported : List Fd} {fd sock : Fd} {t : IOLoopTask δ}

/-! ### What a step does -/

namespace IOLoop

theorem postTask_eq_some : s.step (.postTask t) = some s' ↔
    s' = { s with pendingTasks := s.pendingTasks ++ [t], waking := s.waking ++ [t] } := by
  simp [step, eq_comm]

theorem wakeUp_eq_some {i : ℕ} : s.step (.wakeUp i) = some s' ↔
    (i < s.waking.length ∧ s.bytes < pipeSize) ∧
      s' = { s with waking := s.waking.eraseIdx i, bytes := s.bytes + 1 } := by
  simp [step, eq_comm]

theorem poll_eq_some : s.step (.poll ready reported) = some s' ↔
    s.pc = .poll ∧ s.Reports ready reported ∧
      s' = { s with bytes := s.bytes - s.drained reported, pc := .swap } := by
  unfold step
  cases hpc : s.pc <;> simp [eq_comm]

theorem swap_eq_some : s.step .swap = some s' ↔
    s.pc = .swap ∧ s' = { s with pendingTasks := [], pc := .tasks s.pendingTasks } := by
  unfold step
  cases hpc : s.pc <;> simp [eq_comm]

theorem task_eq_some : s.step .task = some s' ↔
    ∃ t ts, s.pc = .tasks (t :: ts) ∧ s' = { s with multipleIo := s.run t, pc := .tasks ts } := by
  unfold step
  cases hpc : s.pc with
  | tasks left => cases left <;> simp [eq_comm]
  | _ => simp

theorem checkQuit_eq_some : s.step .checkQuit = some s' ↔
    s.pc = .tasks [] ∧ s' = { s with pc := if s.quit then .exited else .poll } := by
  unfold step
  cases hpc : s.pc with
  | tasks left =>
    cases left with
    | nil => exact ⟨fun h => ⟨rfl, (Option.some.inj h).symm⟩, fun h => congrArg some h.2.symm⟩
    | cons t ts => simp
  | _ => simp

theorem quit_eq_some : s.step .quit = some s' ↔ s' = { s with quit := true } := by
  simp [step, eq_comm]

theorem openSock_eq_some : s.step (.openSock sock) = some s' ↔
    sock ∉ s.opened ∧ s' = { s with opened := sock :: s.opened } := by
  simp [step, eq_comm]

theorem closeSock_eq_some : s.step (.closeSock sock) = some s' ↔
    (sock ∈ s.opened ∧ sock ≠ s.pipeOut) ∧ s' = { s with
      opened := s.opened.erase sock
      multipleIo := { s.multipleIo with interest := s.multipleIo.interest.erase sock } } := by
  simp [step, eq_comm]

/-! ### The loop as a worker with a doorbell -/

/-- The queue of tasks with the wake-up pipe as its bell. -/
def doorbell (s : IOLoop δ) : Doorbell (IOLoopTask δ) where
  queue := s.pendingTasks
  ringing := s.waking
  rings := s.bytes
  worker :=
    match s.pc with
    | .poll => .waiting
    | .swap => .woken
    | .tasks left => .working left
    | .exited => .working []

/-- The event of the doorbell that an event is. -/
def doorbellEvent (s : IOLoop δ) : IOLoopEvent δ → Option (DoorbellEvent (IOLoopTask δ))
  | .postTask t => some (.put t)
  | .wakeUp i => some (.ring i)
  | .poll _ reported => some (.wait (s.drained reported))
  | .swap => some .take
  | .task => some .work
  | .checkQuit => if s.quit then none else some .rest
  | .quit | .openSock _ | .closeSock _ => none

theorem drained_le : s.drained reported ≤ s.bytes := by
  unfold drained
  split
  · exact Nat.min_le_right _ _
  · exact Nat.zero_le _

/-- A step of the loop is the one of the doorbell, or does nothing to it. -/
theorem step_doorbell (h : s.step e = some s') :
    (s.doorbellEvent e).elim (some s.doorbell) s.doorbell.step = some s'.doorbell := by
  cases e with
  | postTask t =>
    obtain rfl := postTask_eq_some.mp h
    rfl
  | wakeUp i =>
    obtain ⟨⟨hi, -⟩, rfl⟩ := wakeUp_eq_some.mp h
    exact Doorbell.ring_eq_some.mpr ⟨hi, rfl⟩
  | poll ready reported =>
    obtain ⟨hpc, -, rfl⟩ := poll_eq_some.mp h
    exact Doorbell.wait_eq_some.mpr ⟨by simp [doorbell, hpc], drained_le, rfl⟩
  | swap =>
    obtain ⟨hpc, rfl⟩ := swap_eq_some.mp h
    exact Doorbell.take_eq_some.mpr ⟨by simp [doorbell, hpc], rfl⟩
  | task =>
    obtain ⟨t, ts, hpc, rfl⟩ := task_eq_some.mp h
    exact Doorbell.work_eq_some.mpr ⟨t, ts, by simp [doorbell, hpc], rfl⟩
  | checkQuit =>
    obtain ⟨hpc, rfl⟩ := checkQuit_eq_some.mp h
    cases hquit : s.quit with
    | true =>
      simp only [doorbellEvent, hquit, if_true, Option.elim_none]
      simp only [doorbell, hpc]
    | false =>
      simp only [doorbellEvent, hquit, Bool.false_eq_true, if_false, Option.elim_some]
      exact Doorbell.rest_eq_some.mpr ⟨by simp [doorbell, hpc], rfl⟩
  | quit =>
    obtain rfl := quit_eq_some.mp h
    rfl
  | openSock sock =>
    obtain ⟨-, rfl⟩ := openSock_eq_some.mp h
    rfl
  | closeSock sock =>
    obtain ⟨-, rfl⟩ := closeSock_eq_some.mp h
    rfl

end IOLoop

/-- The steps of the doorbell. -/
def doorbellSteps (tr : List (IOLoopStep δ)) :
    List (Doorbell (IOLoopTask δ) × DoorbellEvent (IOLoopTask δ)) :=
  tr.filterMap fun x => (x.1.doorbellEvent x.2).map (x.1.doorbell, ·)

section Doorbell

variable {Ok : IOLoop δ → IOLoopEvent δ → Prop}

theorem run_doorbell (h : Run IOLoop.step Ok (.init pipeOut) tr s) :
    Run Doorbell.step (fun _ _ => True) .init (doorbellSteps tr) s.doorbell :=
  h.simulate IOLoop.doorbell IOLoop.doorbellEvent fun _ _ _ _ hs => IOLoop.step_doorbell hs

/-- The tasks put are the tasks posted. -/
theorem putTasks_doorbellSteps : putTasks (doorbellSteps tr) = posted tr := by
  unfold putTasks doorbellSteps posted
  rw [List.filterMap_filterMap]
  congr 1
  funext ⟨s, e⟩
  cases e with
  | checkQuit => cases hquit : s.quit <;> simp [IOLoop.doorbellEvent, hquit, putTask, postedTask]
  | _ => rfl

theorem taken_doorbell : s.doorbell.taken = s.swapped := by
  unfold Doorbell.taken IOLoop.doorbell IOLoop.swapped
  cases s.pc <;> rfl

/-- The tasks worked off are the tasks that ran. -/
theorem workedTasks_doorbellSteps : workedTasks (doorbellSteps tr) = executed tr := by
  unfold workedTasks doorbellSteps executed
  rw [List.filterMap_filterMap]
  congr 1
  funext ⟨s, e⟩
  cases e with
  | task => exact congrArg List.head? taken_doorbell
  | checkQuit => cases hquit : s.quit <;> simp [IOLoop.doorbellEvent, hquit, workedTask, executedTask]
  | _ => rfl

theorem doorbellSteps_append : doorbellSteps (before ++ after) =
    doorbellSteps before ++ doorbellSteps after := List.filterMap_append

/-- The waits are the polls. -/
theorem waits_doorbellSteps : Doorbell.waits (doorbellSteps tr) = polls tr := by
  induction tr with
  | nil => rfl
  | cons x tr ih =>
    obtain ⟨s, e⟩ := x
    have happend : doorbellSteps ([(s, e)] ++ tr) = doorbellSteps [(s, e)] ++ doorbellSteps tr :=
      doorbellSteps_append
    rw [List.singleton_append] at happend
    rw [happend]
    unfold Doorbell.waits polls at ih ⊢
    rw [List.countP_append, ih, List.countP_cons, Nat.add_comm]
    congr 1
    cases e with
    | checkQuit =>
      cases hquit : s.quit <;>
        simp [doorbellSteps, IOLoop.doorbellEvent, hquit, DoorbellEvent.isWait, IOLoopEvent.isPoll]
    | _ => rfl

end Doorbell

/-! ### The descriptors -/

/-- The step runs a task that adds a delegate, and `PollSetAdd` takes it. -/
def Takes (x : IOLoopStep δ) (fd : Fd) (delegate : δ) : Prop :=
  executedTask x = some (.addDelegateAsync fd delegate) ∧
    (x.1.multipleIo.pollSetAdd x.1.opened fd (.delegate delegate)).2 = true

/-- The delegate is the last one that was taken for its socket, and not removed since. -/
def LastTaken (tr : List (IOLoopStep δ)) (fd : Fd) (delegate : δ) : Prop :=
  ∃ before x after, tr = before ++ x :: after ∧ Takes x fd delegate ∧
    ∀ y ∈ after, executedTask y ≠ some (.removeDelegateAsync fd) ∧ ∀ d, ¬ Takes y fd d

theorem LastTaken.concat {delegate : δ} {y : IOLoopStep δ} (h : LastTaken tr fd delegate)
    (hremove : executedTask y ≠ some (.removeDelegateAsync fd)) (htakes : ∀ d, ¬ Takes y fd d) :
    LastTaken (tr ++ [y]) fd delegate := by
  obtain ⟨before, x, after, rfl, hx, hafter⟩ := h
  refine ⟨before, x, after ++ [y], by simp, hx, fun z hz => ?_⟩
  rcases List.mem_append.mp hz with hz | hz
  · exact hafter z hz
  · obtain rfl := List.mem_singleton.mp hz
    exact ⟨hremove, htakes⟩

/-- A step that runs no task adds and removes nothing. -/
theorem LastTaken.concat_of_none {delegate : δ} {y : IOLoopStep δ} (h : LastTaken tr fd delegate)
    (hy : executedTask y = none) : LastTaken (tr ++ [y]) fd delegate :=
  h.concat (by simp [hy]) fun d hd => by
    obtain ⟨hadd, -⟩ := hd
    rw [hy] at hadd
    cases hadd

namespace IOLoop

/-- What is known of the descriptors behind some steps. -/
structure SetInv (tr : List (IOLoopStep δ)) (s : IOLoop δ) : Prop where
  maxPollSize : s.multipleIo.maxPollSize = openMaxPoll + 1
  size_le : s.multipleIo.size ≤ openMaxPoll + 1
  opened_nodup : s.opened.Nodup
  interest_nodup : s.multipleIo.interest.Nodup
  watched : ∀ fd ∈ s.multipleIo.interest, fd ∈ s.opened ∧ fd ∈ s.multipleIo.descriptors
  pipe : s.pipeOut ∈ s.multipleIo.interest
  wakeUp : ∀ fd, s.multipleIo.descriptors.lookup fd = some .wakeUp ↔ fd = s.pipeOut
  added : ∀ fd delegate, s.multipleIo.descriptors.lookup fd = some (.delegate delegate) →
    LastTaken tr fd delegate
  tasks : ∀ t ∈ s.swapped ++ s.pendingTasks, t.sock ≠ s.pipeOut

theorem init_setInv : SetInv [] (.init pipeOut : IOLoop δ) := by
  have hio : (init pipeOut : IOLoop δ).multipleIo =
      ⟨openMaxPoll + 1, (∅ : AList fun _ : Fd => EventCallback δ).insert pipeOut .wakeUp,
        [pipeOut]⟩ := by
    simp [init, MultipleIOEpoll.pollCreate, MultipleIOEpoll.pollSetAdd, MultipleIOEpoll.size]
  refine { maxPollSize := by rw [hio], size_le := ?_, opened_nodup := List.nodup_singleton _
           interest_nodup := ?_, watched := ?_, pipe := ?_, wakeUp := ?_, added := ?_
           tasks := by simp [init, swapped] }
  · rw [hio]
    simp [MultipleIOEpoll.size]
  · rw [hio]
    exact List.nodup_singleton _
  · rw [hio]
    intro fd hfd
    obtain rfl := List.mem_singleton.mp hfd
    exact ⟨List.mem_singleton_self _, (AList.mem_insert _).mpr (.inl rfl)⟩
  · rw [hio]
    exact List.mem_singleton_self _
  · rw [hio]
    intro fd
    by_cases hfd : fd = pipeOut
    · subst hfd
      exact ⟨fun _ => rfl, fun _ => AList.lookup_insert _⟩
    · rw [AList.lookup_insert_ne hfd, AList.lookup_empty]
      exact ⟨fun h => (by cases h), fun h => absurd h hfd⟩
  · rw [hio]
    intro fd delegate h
    by_cases hfd : fd = pipeOut
    · subst hfd
      rw [AList.lookup_insert] at h
      cases h
    · rw [AList.lookup_insert_ne hfd] at h
      cases h

namespace SetInv

/-- What a task changes is the set of descriptors. -/
theorem run_add (h : SetInv tr s) {delegate : δ} (hsock : sock ≠ s.pipeOut)
    (htask : executedTask (s, .task) = some (.addDelegateAsync sock delegate)) :
    SetInv (tr ++ [(s, .task)]) { s with multipleIo := s.run (.addDelegateAsync sock delegate) } := by
  have hother : ∀ fd d, fd ≠ sock → LastTaken tr fd d → LastTaken (tr ++ [(s, .task)]) fd d := by
    intro fd d hfd hlast
    refine hlast.concat (by simp [htask]) fun d' htakes => hfd ?_
    have hsame := htakes.1.symm.trans htask
    rw [Option.some.injEq, IOLoopTask.addDelegateAsync.injEq] at hsame
    exact hsame.1
  -- refused: the delegates stay those that were taken before
  have hrefused : (s.multipleIo.pollSetAdd s.opened sock (.delegate delegate)).2 = false →
      SetInv (tr ++ [(s, .task)]) s := by
    intro hfalse
    refine { h with added := fun fd d hd => (h.added fd d hd).concat (by simp [htask]) ?_ }
    rintro d' ⟨hadd, htrue⟩
    rw [htask, Option.some.injEq, IOLoopTask.addDelegateAsync.injEq] at hadd
    obtain ⟨rfl, rfl⟩ := hadd
    rw [hfalse] at htrue
    cases htrue
  rcases s.multipleIo.pollSetAdd_cases s.opened sock (.delegate delegate) with
    hadd | ⟨hroom, hopen, hnew, hadd⟩
  · simp only [run, hadd]
    exact hrefused (by rw [hadd])
  · simp only [run, hadd]
    refine { h with size_le := ?_, interest_nodup := ?_, watched := ?_, pipe := ?_
                    wakeUp := ?_, added := ?_ }
    · have hmax := h.maxPollSize
      have herase := List.length_erase_le (a := sock) (l := s.multipleIo.descriptors.keys)
      unfold MultipleIOEpoll.size at hroom ⊢
      dsimp only
      rw [AList.keys_insert, List.length_cons]
      omega
    · exact List.nodup_cons.mpr ⟨hnew, h.interest_nodup⟩
    · intro fd hfd
      rcases List.mem_cons.mp hfd with rfl | hfd
      · exact ⟨hopen, (AList.mem_insert _).mpr (.inl rfl)⟩
      · exact ⟨(h.watched fd hfd).1, (AList.mem_insert _).mpr (.inr (h.watched fd hfd).2)⟩
    · exact List.mem_cons_of_mem _ h.pipe
    · intro fd
      by_cases hfd : fd = sock
      · subst hfd
        simp [AList.lookup_insert, hsock]
      · rw [AList.lookup_insert_ne hfd]
        exact h.wakeUp fd
    · intro fd d hd
      by_cases hfd : fd = sock
      · subst hfd
        rw [AList.lookup_insert, Option.some.injEq, EventCallback.delegate.injEq] at hd
        subst hd
        exact ⟨tr, (s, .task), [], rfl, ⟨htask, by rw [hadd]⟩, fun y hy => absurd hy List.not_mem_nil⟩
      · rw [AList.lookup_insert_ne hfd] at hd
        exact hother fd d hfd (h.added fd d hd)

theorem run_remove (h : SetInv tr s) (hsock : sock ≠ s.pipeOut)
    (htask : executedTask (s, .task) = some (.removeDelegateAsync sock)) :
    SetInv (tr ++ [(s, .task)]) { s with multipleIo := s.run (.removeDelegateAsync sock) } := by
  refine { h with size_le := ?_, interest_nodup := ?_, watched := ?_, pipe := ?_, wakeUp := ?_
                  added := ?_ }
  · have herase := List.length_erase_le (a := sock) (l := s.multipleIo.descriptors.keys)
    refine Nat.le_trans ?_ h.size_le
    simpa [run, MultipleIOEpoll.pollSetRemove, MultipleIOEpoll.size] using herase
  · exact h.interest_nodup.erase sock
  · intro fd hfd
    obtain ⟨hne, hfd⟩ := h.interest_nodup.mem_erase_iff.mp hfd
    exact ⟨(h.watched fd hfd).1, AList.mem_erase.mpr ⟨hne, (h.watched fd hfd).2⟩⟩
  · exact h.interest_nodup.mem_erase_iff.mpr ⟨hsock.symm, h.pipe⟩
  · intro fd
    by_cases hfd : fd = sock
    · subst hfd
      simp [run, MultipleIOEpoll.pollSetRemove, hsock]
    · have hwake := h.wakeUp fd
      rwa [← AList.lookup_erase_ne hfd] at hwake
  · intro fd d hd
    by_cases hfd : fd = sock
    · subst hfd
      simp [run, MultipleIOEpoll.pollSetRemove] at hd
    · rw [run, MultipleIOEpoll.pollSetRemove, AList.lookup_erase_ne hfd] at hd
      refine (h.added fd d hd).concat (by simp [htask, Ne.symm hfd]) ?_
      rintro d' ⟨hadd, -⟩
      rw [htask] at hadd
      cases hadd

theorem run_task (h : SetInv tr s) (ht : t.sock ≠ s.pipeOut)
    (htask : executedTask (s, .task) = some t) :
    SetInv (tr ++ [(s, .task)]) { s with multipleIo := s.run t } := by
  cases t with
  | addDelegateAsync sock delegate => exact h.run_add ht htask
  | removeDelegateAsync sock => exact h.run_remove ht htask

/-- A step without a task. -/
theorem quiet {y : IOLoopStep δ} (h : SetInv tr s) (hy : executedTask y = none) :
    SetInv (tr ++ [y]) s :=
  { h with added := fun fd d hd => (h.added fd d hd).concat_of_none hy }

theorem close (h : SetInv tr s) (hsock : sock ≠ s.pipeOut) :
    SetInv tr { s with
      opened := s.opened.erase sock
      multipleIo := { s.multipleIo with interest := s.multipleIo.interest.erase sock } } := by
  refine { h with opened_nodup := h.opened_nodup.erase sock
                  interest_nodup := h.interest_nodup.erase sock, watched := ?_, pipe := ?_ }
  · intro fd hfd
    obtain ⟨hne, hfd⟩ := h.interest_nodup.mem_erase_iff.mp hfd
    exact ⟨h.opened_nodup.mem_erase_iff.mpr ⟨hne, (h.watched fd hfd).1⟩, (h.watched fd hfd).2⟩
  · exact h.interest_nodup.mem_erase_iff.mpr ⟨hsock.symm, h.pipe⟩

theorem step (h : SetInv tr s) (hok : PostsSockets s e) (hs : s.step e = some s') :
    SetInv (tr ++ [(s, e)]) s' := by
  cases e with
  | postTask t =>
    obtain rfl := postTask_eq_some.mp hs
    refine { h.quiet (y := (s, .postTask t)) rfl with tasks := fun t' ht' => ?_ }
    rcases List.mem_append.mp ht' with ht' | ht'
    · exact h.tasks t' (List.mem_append_left _ ht')
    · rcases List.mem_append.mp ht' with ht' | ht'
      · exact h.tasks t' (List.mem_append_right _ ht')
      · exact List.mem_singleton.mp ht' ▸ hok t rfl
  | wakeUp i =>
    obtain ⟨-, rfl⟩ := wakeUp_eq_some.mp hs
    exact { h.quiet (y := (s, .wakeUp i)) rfl with }
  | poll ready reported =>
    obtain ⟨hpc, -, rfl⟩ := poll_eq_some.mp hs
    refine { h.quiet (y := (s, .poll ready reported)) rfl with tasks := fun t ht => h.tasks t ?_ }
    exact List.mem_append_right _ ht
  | swap =>
    obtain ⟨hpc, rfl⟩ := swap_eq_some.mp hs
    refine { h.quiet (y := (s, .swap)) rfl with tasks := fun t ht => h.tasks t ?_ }
    rw [List.append_nil] at ht
    exact List.mem_append_right _ ht
  | task =>
    obtain ⟨t, ts, hpc, rfl⟩ := task_eq_some.mp hs
    have hswapped : s.swapped = t :: ts := by rw [swapped, hpc]
    have htask : executedTask (s, .task) = some t := by rw [executedTask, hswapped, List.head?_cons]
    have hrun := h.run_task (h.tasks t (by simp [hswapped])) htask
    refine { hrun with tasks := fun t' ht' => h.tasks t' ?_ }
    rw [hswapped]
    exact List.mem_cons_of_mem _ ht'
  | checkQuit =>
    obtain ⟨hpc, rfl⟩ := checkQuit_eq_some.mp hs
    refine { h.quiet (y := (s, .checkQuit)) rfl with
      tasks := fun t ht => h.tasks t (List.mem_append_right _ ?_) }
    rcases List.mem_append.mp ht with ht | ht
    · unfold swapped at ht
      cases hquit : s.quit <;> simp [hquit] at ht
    · exact ht
  | quit =>
    obtain rfl := quit_eq_some.mp hs
    exact { h.quiet (y := (s, .quit)) rfl with }
  | openSock sock =>
    obtain ⟨hnew, rfl⟩ := openSock_eq_some.mp hs
    exact { h.quiet (y := (s, .openSock sock)) rfl with
      opened_nodup := List.nodup_cons.mpr ⟨hnew, h.opened_nodup⟩
      watched := fun fd hfd => ⟨List.mem_cons_of_mem _ (h.watched fd hfd).1, (h.watched fd hfd).2⟩ }
  | closeSock sock =>
    obtain ⟨⟨-, hsock⟩, rfl⟩ := closeSock_eq_some.mp hs
    exact (h.quiet (y := (s, .closeSock sock)) rfl).close hsock

/-- What has data is among the descriptors, so it fits in the events. -/
theorem length_readable_le (h : SetInv tr s) (hready : ready.Nodup)
    (hmem : ∀ fd ∈ ready, fd ∈ s.multipleIo.interest ∧ fd ≠ s.pipeOut) :
    (s.readable ready).Nodup ∧ (∀ fd ∈ s.readable ready, fd ∈ s.multipleIo.interest) ∧
      (s.readable ready).length ≤ s.multipleIo.size := by
  have hnodup : (s.readable ready).Nodup := by
    unfold readable
    split
    · exact List.nodup_cons.mpr ⟨fun hpipe => (hmem _ hpipe).2 rfl, hready⟩
    · exact hready
  have hinterest : ∀ fd ∈ s.readable ready, fd ∈ s.multipleIo.interest := by
    unfold readable
    split
    · intro fd hfd
      rcases List.mem_cons.mp hfd with rfl | hfd
      · exact h.pipe
      · exact (hmem fd hfd).1
    · exact fun fd hfd => (hmem fd hfd).1
  have hkeys : s.readable ready ⊆ s.multipleIo.descriptors.keys := fun fd hfd =>
    AList.mem_keys.mp (h.watched fd (hinterest fd hfd)).2
  exact ⟨hnodup, hinterest, (List.subperm_of_subset hnodup hkeys).length_le⟩

end SetInv

end IOLoop

section Runs

variable (h : Run IOLoop.step PostsSockets (.init pipeOut) tr s)
include h

/-- The pipe stays the one that `Init` created. -/
theorem run_pipeOut : s.pipeOut = pipeOut := by
  refine h.invariant (P := fun _ s => s.pipeOut = pipeOut) rfl fun _ s e s' ih _ hs => ?_
  cases e with
  | postTask t => exact IOLoop.postTask_eq_some.mp hs ▸ ih
  | wakeUp i => exact (IOLoop.wakeUp_eq_some.mp hs).2 ▸ ih
  | poll ready reported => exact (IOLoop.poll_eq_some.mp hs).2.2 ▸ ih
  | swap => exact (IOLoop.swap_eq_some.mp hs).2 ▸ ih
  | task =>
    obtain ⟨t, ts, -, rfl⟩ := IOLoop.task_eq_some.mp hs
    exact ih
  | checkQuit => exact (IOLoop.checkQuit_eq_some.mp hs).2 ▸ ih
  | quit => exact IOLoop.quit_eq_some.mp hs ▸ ih
  | openSock sock => exact (IOLoop.openSock_eq_some.mp hs).2 ▸ ih
  | closeSock sock => exact (IOLoop.closeSock_eq_some.mp hs).2 ▸ ih

theorem run_setInv : s.SetInv tr :=
  h.invariant (P := fun tr s => s.SetInv tr) IOLoop.init_setInv
    fun _ _ _ _ ih hok hs => ih.step hok hs

/-- A poll reports everything that has data. -/
theorem poll_reports_all (hreports : s.Reports ready reported) :
    reported.Perm (s.readable ready) ∧ (∀ fd ∈ reported, fd ∈ s.multipleIo.interest) ∧
      reported.length ≤ s.multipleIo.size := by
  obtain ⟨⟨hready, hmem⟩, ⟨hnodup, hreadable⟩, hlength⟩ := hreports
  obtain ⟨-, hinterest, hle⟩ := (run_setInv h).length_readable_le hready hmem
  rw [Nat.min_eq_right hle] at hlength
  have hperm := (List.subperm_of_subset hnodup hreadable).perm_of_length_le
    (Nat.le_of_eq hlength.symm)
  exact ⟨hperm, fun fd hfd => hinterest fd (hreadable fd hfd), hlength ▸ hle⟩

/-- A poll that does not report the pipe finds no byte in it. -/
theorem bytes_of_not_reported (hreports : s.Reports ready reported)
    (hpipe : s.pipeOut ∉ reported) : s.bytes = 0 := by
  by_contra hbytes
  refine hpipe ((poll_reports_all h hreports).1.mem_iff.mpr ?_)
  unfold IOLoop.readable
  rw [if_pos ⟨Nat.pos_of_ne_zero hbytes, (run_setInv h).pipe⟩]
  exact List.mem_cons_self

/-- What a poll does with a descriptor that it reports: the pipe is drained, and the others
have delegates that were added for them. -/
theorem reported_callback (hfd : fd ∈ s.multipleIo.interest) :
    if fd = s.pipeOut then s.multipleIo.call fd = none else
      ∃ delegate, s.multipleIo.call fd = some (fd, delegate) ∧
        fd ∈ s.opened ∧ LastTaken tr fd delegate := by
  have hinv := run_setInv h
  obtain ⟨hopen, hmem⟩ := hinv.watched fd hfd
  obtain ⟨callback, hlookup⟩ := Option.isSome_iff_exists.mp (AList.lookup_isSome.mpr hmem)
  unfold MultipleIOEpoll.call
  cases callback with
  | wakeUp =>
    rw [if_pos ((hinv.wakeUp fd).mp hlookup), hlookup]
  | delegate d =>
    have hne : fd ≠ s.pipeOut := fun heq => by
      rw [(hinv.wakeUp fd).mpr heq] at hlookup
      cases hlookup
    rw [if_neg hne, hlookup]
    exact ⟨d, rfl, hopen, hinv.added fd d hlookup⟩

/-- The calls of a poll are one for each socket it reports. -/
theorem calls_fst (hinterest : ∀ fd ∈ reported, fd ∈ s.multipleIo.interest) :
    (s.calls reported).map Prod.fst = reported.filter (· ≠ s.pipeOut) := by
  unfold IOLoop.calls
  induction reported with
  | nil => rfl
  | cons fd fds ih =>
    have hcallback := reported_callback h (hinterest fd List.mem_cons_self)
    have ih := ih fun fd' hfd' => hinterest fd' (List.mem_cons_of_mem _ hfd')
    by_cases hfd : fd = s.pipeOut
    · rw [if_pos hfd] at hcallback
      rw [List.filterMap_cons_none hcallback, List.filter_cons_of_neg (by simpa using hfd)]
      exact ih
    · rw [if_neg hfd] at hcallback
      obtain ⟨d, hcall, -⟩ := hcallback
      rw [List.filterMap_cons_some hcall, List.filter_cons_of_pos (by simpa using hfd),
        List.map_cons, ih]

/-- The tasks that were posted are those that ran, those swapped out, and those pending. -/
theorem executed_append : executed tr ++ (s.swapped ++ s.pendingTasks) = posted tr := by
  have hall := Doorbell.worked_append (run_doorbell h)
  rw [workedTasks_doorbellSteps, putTasks_doorbellSteps, taken_doorbell] at hall
  exact hall

/-- A loop thread at a poll whose pipe is empty has nothing to run but what a `PostTask` that
has not returned appended. -/
theorem pending_sublist_waking (hpc : s.pc = .poll) (hbytes : s.bytes = 0) :
    s.pendingTasks.Sublist s.waking := by
  rcases Doorbell.queue_sublist_ringing (run_doorbell h) with hwoken | hrings | hsub
  · simp [IOLoop.doorbell, hpc] at hwoken
  · exact absurd hbytes (Nat.pos_iff_ne_zero.mp hrings)
  · exact hsub

end Runs

/-- **The loop runs every task once, in the order of the posts, and sleeps on none.** A poll
that does not report the pipe leaves out only tasks whose `PostTask` has not returned, and
behind two polls whatever was posted before them has run. -/
theorem io_loop_runs_tasks (h : Run IOLoop.step PostsSockets (.init pipeOut) tr s) :
    executed tr ++ (s.swapped ++ s.pendingTasks) = posted tr ∧
      (∀ before s₁ ready reported after, tr = before ++ (s₁, .poll ready reported) :: after →
        pipeOut ∉ reported →
          executed before ++ s₁.pendingTasks = posted before ∧
            s₁.pendingTasks.Sublist s₁.waking) ∧
      ∀ before after, tr = before ++ after → 2 ≤ polls after → posted before <+: executed tr := by
  refine ⟨executed_append h, ?_, ?_⟩
  · intro before s₁ ready reported after htr hpipe
    obtain ⟨hrun, -, s₂, hs⟩ := h.of_append htr
    obtain ⟨hpc, hreports, -⟩ := IOLoop.poll_eq_some.mp hs
    have hall := executed_append hrun
    rw [IOLoop.swapped, hpc, List.nil_append] at hall
    rw [← run_pipeOut hrun] at hpipe
    exact ⟨hall, pending_sublist_waking hrun hpc (bytes_of_not_reported hrun hreports hpipe)⟩
  · intro before after htr hpolls
    have hbell := run_doorbell h
    rw [htr, doorbellSteps_append] at hbell
    have hworked := Doorbell.worked_of_two_waits hbell (waits_doorbellSteps.symm ▸ hpolls)
    rwa [← doorbellSteps_append, ← htr, putTasks_doorbellSteps, workedTasks_doorbellSteps]
      at hworked

/-- The condition on the posts as a test. -/
def postsSockets (s : IOLoop δ) : IOLoopEvent δ → Bool
  | .postTask t => t.sock ≠ s.pipeOut
  | _ => true

theorem postsSockets_ok (s : IOLoop δ) (e : IOLoopEvent δ) (h : postsSockets s e = true) :
    PostsSockets s e := by
  rintro t rfl
  simpa [postsSockets] using h

/-- The loop as long as the posts are of sockets. -/
def checkedStep (s : IOLoop δ) (e : IOLoopEvent δ) : Option (IOLoop δ) :=
  if postsSockets s e then s.step e else none

/-- Events that can happen, the last one in a state of its own. -/
theorem run_concat_of_exec (pipeOut : Fd) (es : List (IOLoopEvent δ)) (e : IOLoopEvent δ)
    (h : ((exec checkedStep (.init pipeOut) es).bind (checkedStep · e)).isSome = true) :
    ∃ tr s s', tr.map Prod.snd = es ∧ Run IOLoop.step PostsSockets (.init pipeOut) tr s ∧
      Run IOLoop.step PostsSockets (.init pipeOut) (tr ++ [(s, e)]) s' := by
  obtain ⟨s', h⟩ := Option.isSome_iff_exists.mp h
  obtain ⟨s, hs, he⟩ := Option.bind_eq_some_iff.mp h
  obtain ⟨tr, htr, hrun⟩ := Run.of_exec_test postsSockets_ok hs
  simp only [checkedStep, Option.ite_none_right_eq_some] at he
  exact ⟨tr, s, s', htr, hrun, hrun.snoc (postsSockets_ok s e he.1) he.2⟩

/-- A socket is opened and added; its removal is posted before it has data. -/
def demoEvents : List (IOLoopEvent Unit) :=
  [.checkQuit, .openSock 5, .postTask (.addDelegateAsync 5 ()), .wakeUp 0, .poll [] [3], .swap,
    .task, .checkQuit, .postTask (.removeDelegateAsync 5)]

theorem io_loop_runs_tasks_demo : ∃ (tr : List (IOLoopStep Unit)) (s s' : IOLoop Unit),
    tr.map Prod.snd = demoEvents ∧
      Run IOLoop.step PostsSockets (.init 3) (tr ++ [(s, .poll [5] [5])]) s' ∧
      executed tr ++ s.pendingTasks = posted tr ∧ s.pendingTasks.Sublist s.waking := by
  obtain ⟨tr, s, s', htr, -, hrun⟩ := run_concat_of_exec 3 demoEvents (.poll [5] [5])
    (by decide)
  exact ⟨tr, s, s', htr, hrun,
    (io_loop_runs_tasks hrun).2.1 tr s [5] [5] [] rfl (by decide)⟩

/-- **A delegate gets the data of the socket that it was the last to be taken for**, and that was
not removed since. Every poll reports all that has data, calls a delegate for each socket in it,
and writes behind the 48 events of `pollset_` only when 49 descriptors have data. -/
theorem io_loop_calls (h : Run IOLoop.step PostsSockets (.init pipeOut) tr s)
    {before : List (IOLoopStep δ)} {s₁ : IOLoop δ} {after : List (IOLoopStep δ)}
    (htr : tr = before ++ (s₁, .poll ready reported) :: after) :
    reported.Perm (s₁.readable ready) ∧
      (s₁.calls reported).map Prod.fst = reported.filter (· ≠ pipeOut) ∧
      (∀ fd delegate, (fd, delegate) ∈ s₁.calls reported →
        fd ∈ s₁.opened ∧ LastTaken before fd delegate) ∧
      reported.length ≤ openMaxPoll + 1 := by
  obtain ⟨hrun, -, s₂, hs⟩ := h.of_append htr
  obtain ⟨-, hreports, -⟩ := IOLoop.poll_eq_some.mp hs
  obtain ⟨hperm, hinterest, hsize⟩ := poll_reports_all hrun hreports
  have hcalls := calls_fst hrun hinterest
  rw [run_pipeOut hrun] at hcalls
  refine ⟨hperm, hcalls, ?_, Nat.le_trans hsize (run_setInv hrun).size_le⟩
  intro fd delegate hcall
  obtain ⟨fd', hfd', hcall⟩ := List.mem_filterMap.mp hcall
  have hcallback := reported_callback hrun (hinterest fd' hfd')
  split at hcallback
  · rw [hcallback] at hcall
    cases hcall
  · obtain ⟨d, hcall', hlast⟩ := hcallback
    rw [hcall', Option.some.injEq, Prod.mk.injEq] at hcall
    obtain ⟨rfl, rfl⟩ := hcall
    exact hlast

/-- Two delegates are added for the socket 5, of which the second is refused. -/
def addedTwice : List (IOLoopEvent Bool) :=
  [.openSock 5, .postTask (.addDelegateAsync 5 true), .postTask (.addDelegateAsync 5 false),
    .wakeUp 0, .wakeUp 0, .checkQuit, .poll [] [3], .swap, .task, .task, .checkQuit]

theorem io_loop_calls_demo : ∃ (tr : List (IOLoopStep Bool)) (s s' : IOLoop Bool),
    tr.map Prod.snd = addedTwice ∧
      Run IOLoop.step PostsSockets (.init 3) (tr ++ [(s, .poll [5] [5])]) s' ∧
      s.calls [5] = [(5, true)] ∧ 5 ∈ s.opened ∧ LastTaken tr 5 true := by
  have hexec : (exec checkedStep (.init 3) addedTwice).map (fun s =>
      (s.calls [5], (checkedStep s (.poll [5] [5])).isSome)) = some ([(5, true)], true) := by decide
  obtain ⟨s, hs, hend⟩ := Option.map_eq_some_iff.mp hexec
  obtain ⟨hcalls, hpoll⟩ := Prod.mk.inj hend
  obtain ⟨s', hs'⟩ := Option.isSome_iff_exists.mp hpoll
  obtain ⟨tr, htr, hrun⟩ := Run.of_exec_test postsSockets_ok hs
  simp only [checkedStep, Option.ite_none_right_eq_some] at hs'
  have hrun' := hrun.snoc (postsSockets_ok s _ hs'.1) hs'.2
  obtain ⟨hopen, hlast⟩ := (io_loop_calls hrun' rfl).2.2.1 5 true (by simp [hcalls])
  exact ⟨tr, s, s', htr, hrun', hcalls, hopen, hlast⟩

/-- The loop with 48 delegates, and a byte in the pipe. -/
def fullEvents : List (IOLoopEvent Unit) :=
  let socks : List ℕ := List.range openMaxPoll
  (socks.flatMap fun i => [.openSock i, .postTask (.addDelegateAsync i ()), .wakeUp 0]) ++
    [.checkQuit, .poll [] [100], .swap] ++ socks.map (fun _ => .task) ++
    [.checkQuit, .postTask (.removeDelegateAsync 7), .wakeUp 0]

/-- `max_poll_size_` is one more than the events of `pollset_`: with 48 delegates there is a
poll that writes behind them. -/
theorem poll_writes_behind_pollset : ∃ (tr : List (IOLoopStep Unit)) (s s' : IOLoop Unit)
    (ready reported : List Fd),
    Run IOLoop.step PostsSockets (.init 100) (tr ++ [(s, .poll ready reported)]) s' ∧
      reported.length = openMaxPoll + 1 := by
  let ready : List Fd := (List.range openMaxPoll).map Int.ofNat
  obtain ⟨tr, s, s', -, -, hrun⟩ := run_concat_of_exec 100 fullEvents
    (.poll ready (100 :: ready)) (by decide +kernel)
  exact ⟨tr, s, s', ready, 100 :: ready, hrun, by decide⟩

end Livox
end SensorSupport
