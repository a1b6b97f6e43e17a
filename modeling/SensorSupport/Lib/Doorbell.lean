/-
# A queue of tasks with a doorbell

Any number of threads put tasks in a queue and then ring a bell; one worker waits at the
bell, takes the whole queue and works it off. Putting and ringing are two steps, and the
worker clears rings before it takes the queue, so the rings do not count the tasks: there
may be rings without tasks, and tasks whose ring is yet to come.

The tasks are worked off in the order in which they were put, and none twice or never.
When the worker waits at a silent bell, what is queued has its ring yet to come: no wake-up
is lost (`queue_sublist_ringing`). A task waits for at most two waits of the worker
(`worked_of_two_waits`).

Key definitions: `Doorbell`, `DoorbellEvent`, `Doorbell.step`, `putTasks`, `workedTasks`.
Key theorems: `Doorbell.worked_append`, `Doorbell.queue_sublist_ringing`,
`Doorbell.worked_of_two_waits`.
-/
import SensorSupport.Lib.Run

namespace SensorSupport

variable {τ : Type}

/-- Where the worker is: it waits, it heard the bell, or it works off what it took. -/
inductive Worker (τ : Type)
  | waiting
  | woken
  | working (left : List τ)

/-- The queue, the tasks whose ring is yet to come, and the rings not cleared. -/
structure Doorbell (τ : Type) where
  queue : List τ
  ringing : List τ
  rings : ℕ
  worker : Worker τ

/-- What can happen: `wait` ends a wait and clears some rings, `rest` goes back to waiting. -/
inductive DoorbellEvent (τ : Type)
  | put (task : τ)
  | ring (i : ℕ)
  | wait (cleared : ℕ)
  | take
  | work
  | rest

/-- An event is the end of a wait. -/
def DoorbellEvent.isWait : DoorbellEvent τ → Bool
  | .wait _ => true
  | _ => false

namespace Doorbell

/-- An idle worker at an empty queue. -/
def init : Doorbell τ := ⟨[], [], 0, .working []⟩

/-- One event, if it can happen. -/
def step (s : Doorbell τ) : DoorbellEvent τ → Option (Doorbell τ)
  | .put t => some { s with queue := s.queue ++ [t], ringing := s.ringing ++ [t] }
  | .ring i =>
    if i < s.ringing.length then
      some { s with ringing := s.ringing.eraseIdx i, rings := s.rings + 1 }
    else none
  | .wait cleared =>
    match s.worker with
    | .waiting =>
      if cleared ≤ s.rings then some { s with rings := s.rings - cleared, worker := .woken }
      else none
    | _ => none
  | .take =>
    match s.worker with
    | .woken => some { s with queue := [], worker := .working s.queue }
    | _ => none
  | .work =>
    match s.worker with
    | .working (_ :: ts) => some { s with worker := .working ts }
    | _ => none
  | .rest =>
    match s.worker with
    | .working [] => some { s with worker := .waiting }
    | _ => none

/-- What the worker took and has not worked off. -/
def taken (s : Doorbell τ) : List τ :=
  match s.worker with
  | .working left => left
  | _ => []

end Doorbell

/-- The task an event puts. -/
def putTask (x : Doorbell τ × DoorbellEvent τ) : Option τ :=
  match x.2 with
  | .put t => some t
  | _ => none

/-- The task an event works off. -/
def workedTask (x : Doorbell τ × DoorbellEvent τ) : Option τ :=
  match x.2 with
  | .work => x.1.taken.head?
  | _ => none

/-- The tasks that were put, in order. -/
def putTasks (tr : List (Doorbell τ × DoorbellEvent τ)) : List τ := tr.filterMap putTask

/-- The tasks that were worked off, in order. -/
def workedTasks (tr : List (Doorbell τ × DoorbellEvent τ)) : List τ := tr.filterMap workedTask

namespace Doorbell

variable {s s' s₀ : Doorbell τ} {e : DoorbellEvent τ} {tr : List (Doorbell τ × DoorbellEvent τ)}
  {Ok : Doorbell τ → DoorbellEvent τ → Prop}

/-! ### What an event does -/

@[simp] theorem put_eq_some {t : τ} : s.step (.put t) = some s' ↔
    s' = ⟨s.queue ++ [t], s.ringing ++ [t], s.rings, s.worker⟩ := by
  simp [step, eq_comm]

@[simp] theorem ring_eq_some {i : ℕ} : s.step (.ring i) = some s' ↔ i < s.ringing.length ∧
    s' = ⟨s.queue, s.ringing.eraseIdx i, s.rings + 1, s.worker⟩ := by
  simp [step, eq_comm]

@[simp] theorem wait_eq_some {cleared : ℕ} : s.step (.wait cleared) = some s' ↔
    s.worker = .waiting ∧ cleared ≤ s.rings ∧
      s' = ⟨s.queue, s.ringing, s.rings - cleared, .woken⟩ := by
  cases hworker : s.worker <;> simp [step, hworker, eq_comm]

@[simp] theorem take_eq_some : s.step .take = some s' ↔
    s.worker = .woken ∧ s' = ⟨[], s.ringing, s.rings, .working s.queue⟩ := by
  cases hworker : s.worker <;> simp [step, hworker, eq_comm]

@[simp] theorem work_eq_some : s.step .work = some s' ↔
    ∃ t ts, s.worker = .working (t :: ts) ∧ s' = ⟨s.queue, s.ringing, s.rings, .working ts⟩ := by
  unfold step
  cases hworker : s.worker with
  | working left => cases left <;> simp [eq_comm]
  | _ => simp

@[simp] theorem rest_eq_some : s.step .rest = some s' ↔
    s.worker = .working [] ∧ s' = ⟨s.queue, s.ringing, s.rings, .waiting⟩ := by
  unfold step
  cases hworker : s.worker with
  | working left => cases left <;> simp [eq_comm]
  | _ => simp

/-- What is put goes behind the queue, what is worked off comes from the front. -/
theorem step_tasks (h : s.step e = some s') :
    (workedTask (s, e)).toList ++ (s'.taken ++ s'.queue) =
      s.taken ++ s.queue ++ (putTask (s, e)).toList := by
  cases e with
  | put t =>
    obtain rfl := put_eq_some.mp h
    simp [workedTask, putTask, taken]
  | ring i =>
    obtain ⟨-, rfl⟩ := ring_eq_some.mp h
    simp [workedTask, putTask, taken]
  | wait cleared =>
    obtain ⟨hworker, -, rfl⟩ := wait_eq_some.mp h
    simp [workedTask, putTask, taken, hworker]
  | take =>
    obtain ⟨hworker, rfl⟩ := take_eq_some.mp h
    simp [workedTask, putTask, taken, hworker]
  | work =>
    obtain ⟨t, ts, hworker, rfl⟩ := work_eq_some.mp h
    simp [workedTask, putTask, taken, hworker]
  | rest =>
    obtain ⟨hworker, rfl⟩ := rest_eq_some.mp h
    simp [workedTask, putTask, taken, hworker]

theorem putTasks_concat (x : Doorbell τ × DoorbellEvent τ) :
    putTasks (tr ++ [x]) = putTasks tr ++ (putTask x).toList := by
  cases hput : putTask x <;> simp [putTasks, hput]

theorem workedTasks_concat (x : Doorbell τ × DoorbellEvent τ) :
    workedTasks (tr ++ [x]) = workedTasks tr ++ (workedTask x).toList := by
  cases hworked : workedTask x <;> simp [workedTasks, hworked]

/-! ### Runs -/

/-- **In order, and each once.** The tasks that were put are those worked off, then those
taken, then those queued. -/
theorem worked_append (h : Run step Ok init tr s) :
    workedTasks tr ++ (s.taken ++ s.queue) = putTasks tr := by
  refine h.invariant (P := fun tr s => workedTasks tr ++ (s.taken ++ s.queue) = putTasks tr)
    rfl fun tr s e s' ih _ hs => ?_
  rw [workedTasks_concat, putTasks_concat, List.append_assoc, step_tasks hs, ← List.append_assoc,
    ih]

/-- **No wake-up is lost.** A worker that has not just been woken has a ring to hear, or all
that is queued has its ring yet to come. -/
theorem queue_sublist_ringing (h : Run step Ok init tr s) :
    s.worker = .woken ∨ 0 < s.rings ∨ s.queue.Sublist s.ringing := by
  refine h.invariant
    (P := fun _ s => s.worker = .woken ∨ 0 < s.rings ∨ s.queue.Sublist s.ringing)
    (.inr (.inr (List.nil_sublist _))) fun _ s e s' ih _ hs => ?_
  cases e with
  | put t =>
    obtain rfl := put_eq_some.mp hs
    exact ih.imp id (Or.imp id fun hsub => hsub.append_right [t])
  | ring i =>
    obtain ⟨-, rfl⟩ := ring_eq_some.mp hs
    exact .inr (.inl (Nat.succ_pos _))
  | wait cleared =>
    obtain ⟨-, -, rfl⟩ := wait_eq_some.mp hs
    exact .inl rfl
  | take =>
    obtain ⟨-, rfl⟩ := take_eq_some.mp hs
    exact .inr (.inr (List.nil_sublist _))
  | work =>
    obtain ⟨t, ts, hworker, rfl⟩ := work_eq_some.mp hs
    exact .inr (ih.resolve_left (by simp [hworker]))
  | rest =>
    obtain ⟨hworker, rfl⟩ := rest_eq_some.mp hs
    exact .inr (ih.resolve_left (by simp [hworker]))

/-- How far the first `n` tasks that were put must be after some waits of the worker. -/
def Ahead (n worked : ℕ) (s : Doorbell τ) : ℕ → Prop
  | 0 => True
  | 1 => s.worker = .woken ∨ n ≤ worked + s.taken.length
  | _ + 2 => n ≤ worked

/-- What an event does to how far they are: what is taken when the worker was woken holds
all of them. -/
theorem Ahead.step {n worked k : ℕ} (h : Ahead n worked s k)
    (hput : n ≤ worked + (s.taken ++ s.queue).length) (hs : s.step e = some s') :
    Ahead n (worked + (workedTask (s, e)).toList.length) s' (k + e.isWait.toNat) := by
  match k with
  | 0 =>
    cases e with
    | wait cleared =>
      obtain ⟨-, -, rfl⟩ := wait_eq_some.mp hs
      exact .inl rfl
    | _ => trivial
  | 1 =>
    cases e with
    | put t =>
      obtain rfl := put_eq_some.mp hs
      exact h
    | ring i =>
      obtain ⟨-, rfl⟩ := ring_eq_some.mp hs
      exact h
    | wait cleared =>
      obtain ⟨hworker, -, rfl⟩ := wait_eq_some.mp hs
      have hworked : n ≤ worked := by simpa [Ahead, taken, hworker] using h
      exact hworked
    | take =>
      obtain ⟨hworker, rfl⟩ := take_eq_some.mp hs
      right
      simpa [workedTask, taken, hworker] using hput
    | work =>
      obtain ⟨t, ts, hworker, rfl⟩ := work_eq_some.mp hs
      right
      have hleft := h.resolve_left (by simp [hworker])
      simp only [taken, hworker, List.length_cons] at hleft
      simp only [workedTask, taken, hworker, List.head?_cons, Option.toList_some,
        List.length_singleton]
      omega
    | rest =>
      obtain ⟨hworker, rfl⟩ := rest_eq_some.mp hs
      right
      simpa [workedTask, taken, hworker] using h.resolve_left (by simp [hworker])
  | k + 2 =>
    rw [Nat.add_right_comm]
    exact Nat.le_trans h (Nat.le_add_right _ _)

/-- The waits of some steps. -/
def waits (tr : List (Doorbell τ × DoorbellEvent τ)) : ℕ := tr.countP fun x => x.2.isWait

theorem ahead_of_append {before after : List (Doorbell τ × DoorbellEvent τ)}
    (h : Run step Ok init (before ++ after) s) :
    Ahead (putTasks before).length (workedTasks (before ++ after)).length s (waits after) := by
  generalize htr : before ++ after = tr at h
  induction h generalizing after with
  | nil =>
    obtain ⟨rfl, rfl⟩ := List.append_eq_nil_iff.mp htr
    trivial
  | @snoc tr s s' e hrun _ hs ih =>
    rcases List.eq_nil_or_concat after with rfl | ⟨after, x, rfl⟩
    · trivial
    · rw [List.concat_eq_append, ← List.append_assoc] at htr
      obtain ⟨rfl, hx⟩ := List.append_inj' htr rfl
      cases hx
      have hall := congrArg List.length (worked_append hrun)
      have hbefore : (putTasks before).length ≤ (putTasks (before ++ after)).length := by
        rw [putTasks, putTasks, List.filterMap_append, List.length_append]
        exact Nat.le_add_right _ _
      rw [List.length_append] at hall
      have hstep := (ih rfl).step (hall ▸ hbefore) hs
      rw [workedTasks_concat, List.length_append]
      rw [waits, List.concat_eq_append, List.countP_append, List.countP_singleton]
      cases hwait : e.isWait with
      | true => simpa [waits, hwait] using hstep
      | false => simpa [waits, hwait] using hstep

/-- **A task waits for two waits of the worker at most.** -/
theorem worked_of_two_waits {before after : List (Doorbell τ × DoorbellEvent τ)}
    (h : Run step Ok init (before ++ after) s) (hwaits : 2 ≤ waits after) :
    putTasks before <+: workedTasks (before ++ after) := by
  have hworked : workedTasks (before ++ after) <+: putTasks (before ++ after) :=
    ⟨_, worked_append h⟩
  have hput : putTasks before <+: putTasks (before ++ after) := by
    rw [putTasks, putTasks, List.filterMap_append]
    exact List.prefix_append _ _
  have hahead := ahead_of_append h
  match hn : waits after with
  | n + 2 =>
    rw [hn] at hahead
    exact List.prefix_of_prefix_length_le hput hworked hahead
  | 0 | 1 => omega

end Doorbell

end SensorSupport
