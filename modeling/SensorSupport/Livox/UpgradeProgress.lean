/-
# The progress of an upgrade (`upgrade/livox_lidar_upgrader.cpp`)

`FsmEventHandler` tells the observer the progress it is called with, behind what it does for the
event. That is mostly to send a command: if the send fails, the callback of the command calls
`FsmEventHandler` again before the outer call has told its progress, and the command is put into the
table all the same, so that its callback is called once more. Callbacks are called by the threads
that receive datagrams and by those that look for timeouts, and a command of a HAP lidar is in the
table before it is sent.

The progress told can fall. `progress_` is never set, so a poll that fails goes on with the 50 of a
poll that has not been answered yet; a lidar may answer less than before; a completion whose first
send fails tells 50 and then 40; callbacks of commands that the upgrade is past tell the progress of
those; and one thread can tell its progress before another one tells a lower one. In a run without
such steps the progress told never falls (`progress_run`).

Key definitions: `UpgradeRun`, `UpgradeRun.step`, `UpgradeRun.Timely`, `UpgradeRun.StepOk`,
`ProgressMonotone`.
Key theorems: `FsmState.rank_le_after`, `UpgradeRun.entered_respond`, `UpgradeRun.inv_step`,
`UpgradeRun.progress_run`.
-/
import SensorSupport.Lib.Reports
import SensorSupport.Lib.Run
import SensorSupport.Livox.Upgrader

namespace SensorSupport
namespace Livox

/-! ### The system -/

/-- Where a call of `FsmEventHandler` is: in the send of a command, behind it in `SendCommand`, or
about to tell its progress. -/
inductive FsmCallPc
  | send (f : FnFsmEvent)
  | add (f : FnFsmEvent)
  | report
deriving DecidableEq, Repr

/-- The action whose command is being sent. -/
def FsmCallPc.action : FsmCallPc → Option FnFsmEvent
  | .send f | .add f => some f
  | .report => none

/-- A call of `FsmEventHandler`; `ends` says that it ended the upgrade. -/
structure FsmCall where
  progress : UInt8
  pc : FsmCallPc
  ends : Bool
deriving DecidableEq, Repr

/-- What the observer was told; `counts` says that the machine had not reached `Idle`, `Err` or
`Timeout` before, or that this call brought it there. -/
structure Told where
  progress : UInt8
  counts : Bool
deriving DecidableEq, Repr

/-- What becomes of a send. -/
inductive Sending
  | sent
  | failed
  | noHandler
deriving DecidableEq, Repr

/-- The callback of a command in the table is called, or a thread goes on with its innermost call:
with the registration in front of a send, with the send, with the registration behind it, or with
the report. -/
inductive UpgradeEvent
  | callback (i : ℕ) (status : Status) (response : Response)
  | register (j : ℕ)
  | send (j : ℕ) (sending : Sending)
  | add (j : ℕ)
  | report (j : ℕ)

/-- An upgrade: the upgrader, whether it has reached its end, the commands in the table, the calls
of `FsmEventHandler` in each thread, the innermost first, and what was told. `completed` says that
a callback of the completion was called, and `polled` is the highest progress the lidar answered
so far. The table of the source holds a command once, by its sequence number; here it can be there
more often, which leaves more runs. -/
structure UpgradeRun where
  upgrader : LivoxLidarUpgrader
  reached : Bool
  commands : List FnFsmEvent
  threads : List (List FsmCall)
  told : List Told
  completed : Bool
  polled : UInt8

/-- `Idle`, `Err` or `Timeout` -/
def FsmState.isEnd (state : FsmState) : Bool := state = .idle || state = .err || state = .timeout

/-- What is told until the machine has reached its end. -/
def untilEnd (told : List Told) : List ℕ :=
  (told.filter Told.counts).map fun r => r.progress.toNat

namespace UpgradeRun

variable (s : UpgradeRun)

/-- `FsmEventHandler` is called with the upgrader `u`. -/
def enter (u : LivoxLidarUpgrader) (event : FsmEvent) (progress : UInt8) : UpgradeRun × FsmCall :=
  let handled := u.fsmEventHandler event progress
  let ended := handled.upgrader.fsmState.isEnd
  ({ s with upgrader := handled.upgrader, reached := s.reached || ended },
    { progress := handled.report.progress
      pc := match handled.request with
        | some request => .send request.sender
        | none => .report
      ends := !s.reached && ended })

/-- The callback of a command of `f` is called. -/
def respond (f : FnFsmEvent) (status : Status) (response : Response) : UpgradeRun × FsmCall :=
  let answer := s.upgrader.responseEvent f status response
  let s : UpgradeRun := { s with
    completed := s.completed || f = .completeXferFirmware
    polled :=
      if f = .getUpgradeProgress ∧ status = .success ∧ response.progress < 100 then
        max s.polled response.progress
      else s.polled }
  s.enter answer.1 answer.2.1 answer.2.2

/-- The thread of the upgrade has called `FsmEventHandler`. -/
def init (firmware : Firmware) (handle : UInt32) : UpgradeRun :=
  let u := LivoxLidarUpgrader.create firmware handle
  let entered := (⟨u, false, [], [], [], false, 0⟩ : UpgradeRun).enter u .requestUpgrade 10
  { entered.1 with threads := [[entered.2]] }

/-- The innermost call of a thread, and those around it. -/
def top (j : ℕ) : Option (FsmCall × List FsmCall) :=
  match s.threads[j]? with
  | some (c :: outer) => some (c, outer)
  | _ => none

def setThread (j : ℕ) (calls : List FsmCall) : UpgradeRun :=
  { s with threads := s.threads.set j calls }

/-- A send, with `SendFailed` for the callback if it fails. -/
def send (j : ℕ) (f : FnFsmEvent) (c : FsmCall) (outer : List FsmCall) : Sending → UpgradeRun
  | .sent => s.setThread j ({ c with pc := .add f } :: outer)
  | .noHandler => s.setThread j ({ c with pc := .report } :: outer)
  | .failed =>
    let responded := s.respond f .sendFailed ⟨0, 0⟩
    responded.1.setThread j (responded.2 :: { c with pc := .add f } :: outer)

/-- A step, when it can be taken. -/
def step : UpgradeEvent → Option UpgradeRun
  | .callback i status response =>
    (s.commands[i]?).map fun f =>
      let responded := { s with commands := s.commands.eraseIdx i }.respond f status response
      { responded.1 with threads := s.threads ++ [[responded.2]] }
  | .register j =>
    (s.top j).bind fun (c, _) =>
      match c.pc with
      | .send f => some { s with commands := s.commands ++ [f] }
      | _ => none
  | .send j sending =>
    (s.top j).bind fun (c, outer) =>
      match c.pc with
      | .send f => some (s.send j f c outer sending)
      | _ => none
  | .add j =>
    (s.top j).bind fun (c, outer) =>
      match c.pc with
      | .add f =>
        some ({ s with commands := s.commands ++ [f] }.setThread j ({ c with pc := .report } :: outer))
      | _ => none
  | .report j =>
    (s.top j).bind fun (c, outer) =>
      match c.pc with
      | .report =>
        some ({ s with told := s.told ++ [Told.mk c.progress (!s.reached || c.ends)] }.setThread j outer)
      | _ => none

/-! ### The steps that keep the order -/

/-- The calls of all threads. -/
def calls : List FsmCall := s.threads.flatten

/-- The tries of a command. -/
def tryLimit : FnFsmEvent → UInt32
  | .getUpgradeProgress => kGetProcessTryCountLimit
  | _ => kGeneralTryCountLimit

/-- The callback ends the upgrade in an error. -/
def Fails (u : LivoxLidarUpgrader) (f : FnFsmEvent) (status : Status) (response : Response) : Prop :=
  if status = .success then
    response.retCode ≠ 0 ∧
      ¬ (f = .startUpgrade ∧ (response.retCode = kSystemIsNotReady ∨ response.retCode = eraseFirmware))
  else ¬ u.tryCount + 1 < tryLimit f

instance (u : LivoxLidarUpgrader) (f : FnFsmEvent) (status : Status) (response : Response) :
    Decidable (Fails u f status response) :=
  inferInstanceAs (Decidable (ite _ _ _))

/-- The callback comes while the upgrade is at its command, or does not tell less than what the
upgrade is at: a start that is answered again leads to a transfer again, the end of the transfer to
a completion that was not answered yet, and the completion to polls that were answered below 2, if
at all. Polls are not answered less than before, and fail only as long as they are. -/
def InPlace (f : FnFsmEvent) (status : Status) (response : Response) : Prop :=
  match f with
  | .startUpgrade => s.upgrader.fsmState = .request ∨
      s.upgrader.fsmState = .xferFirmware ∧ status = .success ∧ response.retCode = 0
  | .xferFirmware => s.upgrader.fsmState = .xferFirmware ∨
      s.upgrader.fsmState = .completeXferFirmware ∧ s.completed = false ∧ status = .success ∧
        ¬ s.upgrader.readOffset + s.upgrader.readLength < s.upgrader.firmware.header.firmwareLength
  | .completeXferFirmware => s.upgrader.fsmState = .completeXferFirmware ∨
      s.upgrader.fsmState = .getUpgradeProgress ∧ s.polled < 2
  | .getUpgradeProgress =>
    if status = .success then
      100 ≤ response.progress ∨
        s.upgrader.fsmState = .getUpgradeProgress ∧ s.polled / 2 ≤ response.progress / 2
    else s.upgrader.fsmState = .getUpgradeProgress ∧ s.polled < 2
  | .upgradeComplete => True

/-- The callback ends the upgrade, or comes in its place. -/
def Timely (f : FnFsmEvent) (status : Status) (response : Response) : Prop :=
  Fails s.upgrader f status response ∨ s.InPlace f status response

/-- Callbacks are timely, and no call that waits has less to tell than one that tells its progress.
What happens behind the end of the upgrade does not matter. -/
def StepOk : UpgradeEvent → Prop
  | .callback i status response =>
    s.reached = true ∨ ∀ f ∈ s.commands[i]?, s.Timely f status response
  | .send j .failed =>
    s.reached = true ∨ ∀ p ∈ s.top j, ∀ f ∈ p.1.pc.action, s.Timely f .sendFailed ⟨0, 0⟩
  | .report j =>
    s.reached = true ∨ ∀ p ∈ s.top j, ∀ c ∈ s.calls, p.1.progress ≤ c.progress
  | _ => True

instance (f : FnFsmEvent) (status : Status) (response : Response) :
    Decidable (s.InPlace f status response) :=
  match f with
  | .startUpgrade | .xferFirmware | .completeXferFirmware =>
    inferInstanceAs (Decidable (_ ∨ _))
  | .getUpgradeProgress => inferInstanceAs (Decidable (ite _ _ _))
  | .upgradeComplete => inferInstanceAs (Decidable True)

instance (f : FnFsmEvent) (status : Status) (response : Response) :
    Decidable (s.Timely f status response) :=
  inferInstanceAs (Decidable (_ ∨ _))

instance (e : UpgradeEvent) : Decidable (s.StepOk e) :=
  match e with
  | .callback _ _ _ | .send _ .failed | .report _ => inferInstanceAs (Decidable (_ ∨ _))
  | .send _ .sent | .send _ .noHandler | .register _ | .add _ => inferInstanceAs (Decidable True)

/-- The progress told until the upgrade ends does not fall, and none is above 100. -/
def ProgressMonotone (s : UpgradeRun) : Prop :=
  (untilEnd s.told).Pairwise (· ≤ ·) ∧ ∀ r ∈ s.told, r.progress ≤ 100

instance : Decidable s.ProgressMonotone := inferInstanceAs (Decidable (_ ∧ _))

end UpgradeRun

/-! ### The machine -/

namespace FsmState

/-- How far an upgrade is. -/
def rank : FsmState → ℕ
  | .request => 1
  | .xferFirmware => 2
  | .completeXferFirmware => 3
  | .getUpgradeProgress => 4
  | .complete => 5
  | .idle | .timeout | .err => 0

/-- The state behind an event, by the table. -/
def after (state : FsmState) (event : FsmEvent) : FsmState :=
  ((findRow state event).map FsmEventTable.nextState).getD state

/-- **No event takes an upgrade back**, but to its end. -/
theorem rank_le_after (state : FsmState) (event : FsmEvent) :
    (state.after event).isEnd = true ∨ state.rank ≤ (state.after event).rank := by
  cases state <;> cases event <;> decide

/-- Only the event behind a complete upgrade leads to its end. -/
theorem reinit_of_isEnd {state : FsmState} {event : FsmEvent} (h : (state.after event).isEnd = true) :
    state.isEnd = true ∨ event = .reinit := by
  cases state <;> cases event <;> first | exact .inl rfl | exact .inr rfl | exact absurd h (by decide)

theorem of_four_le_rank {state : FsmState} (h : 4 ≤ state.rank) :
    state = .getUpgradeProgress ∧ state.rank = 4 ∨ state = .complete := by
  cases state <;> first
    | exact .inl ⟨rfl, rfl⟩
    | exact .inr rfl
    | exact absurd h (by decide)

theorem rank_of_isEnd {state : FsmState} (h : state.isEnd = true) : state.rank = 0 := by
  cases state <;> first | rfl | exact absurd h (by decide)

end FsmState

namespace LivoxLidarUpgrader

variable {u : LivoxLidarUpgrader} {event : FsmEvent} {progress : UInt8} {f : FnFsmEvent}
  {status : Status} {response : Response}

theorem fsmEventHandler_report (u : LivoxLidarUpgrader) (event : FsmEvent) (progress : UInt8) :
    (u.fsmEventHandler event progress).report = ⟨event, progress⟩ := by
  unfold fsmEventHandler
  dsimp only
  split
  · rfl
  · split <;> rfl

/-- `progress_` is set to 0 only. -/
theorem run_progress (h : u.progress = 0) (f : FnFsmEvent) : (u.run f).1.progress = 0 := by
  by_cases hf : f = .startUpgrade
  · subst hf
    rfl
  · rw [(run_keeps u f).2.1 hf, h]

/-- What an event of the table does: the state behind it, and a command that belongs to it. -/
theorem fsmEventHandler_after (progress : UInt8) (hprogress : u.progress = 0)
    (hne : event ≠ .timeout ∧ event ≠ .err) :
    (u.fsmEventHandler event progress).upgrader.fsmState = u.fsmState.after event ∧
      (u.fsmEventHandler event progress).upgrader.progress = 0 ∧
      ∀ request, (u.fsmEventHandler event progress).request = some request →
        request.sender.state = u.fsmState.after event := by
  unfold FsmState.after
  rcases findRow_cases u.fsmState event with hrow | hrow | ⟨g, -, hrow⟩
  · rw [fsmEventHandler_of_no_row hrow hne, hrow]
    exact ⟨rfl, hprogress, nofun⟩
  · rw [fsmEventHandler_of_row progress hrow hne, hrow]
    exact ⟨rfl, hprogress, nofun⟩
  · rw [fsmEventHandler_of_row progress hrow hne, hrow]
    refine ⟨?_, run_progress (u := { u with fsmState := g.state }) hprogress g,
      fun request hrequest => ?_⟩
    · exact act_fsmState u g ⟨event, progress⟩
    · rw [run_sender hrequest]
      rfl

/-- What a response handler keeps. -/
theorem responseEvent_keeps (u : LivoxLidarUpgrader) (f : FnFsmEvent) (status : Status)
    (response : Response) :
    (u.responseEvent f status response).1.fsmState = u.fsmState ∧
      (u.responseEvent f status response).1.progress = u.progress ∧
      (u.responseEvent f status response).2.1 ≠ .timeout := by
  obtain ⟨tryCount, hu, hevent⟩ := u.outcome_responseEvent f status response
  refine ⟨by rw [hu], by rw [hu], ?_⟩
  rcases hevent with hevent | ⟨hevent, -⟩ | hevent <;> rw [hevent]
  · exact f.event_ne.1
  · exact f.nextEvent_ne.1
  · exact nofun

/-- The progress of a poll. -/
theorem toNat_half {q : UInt8} (h : q < 100) : (q / 2 + 50).toNat = q.toNat / 2 + 50 := by
  have hq := UInt8.lt_iff_toNat_lt.mp h
  simp only [UInt8.toNat_add, UInt8.toNat_div, UInt8.reduceToNat] at hq ⊢
  omega

/-- What a response handler makes of a callback that does not end the upgrade in an error, for all
but the last action. -/
def answer (u : LivoxLidarUpgrader) (f : FnFsmEvent) (status : Status) (response : Response) :
    FsmEvent × UInt8 :=
  match f with
  | .startUpgrade =>
    if status = .success ∧ response.retCode = 0 then (.xferFirmware, 20) else (.requestUpgrade, 10)
  | .xferFirmware =>
    if status = .success then
      if u.readOffset + u.readLength < u.firmware.header.firmwareLength then (.xferFirmware, 20)
      else (.completeXferFirmware, 40)
    else (.xferFirmware, 20)
  | .completeXferFirmware =>
    if status = .success then (.getUpgradeProgress, 50) else (.completeXferFirmware, 50)
  | .getUpgradeProgress =>
    if status = .success then
      if response.progress < 100 then (.getUpgradeProgress, response.progress / 2 + 50)
      else (.complete, 100)
    else (.getUpgradeProgress, 50)
  | .upgradeComplete => (.complete, 100)

theorem responseEvent_of_fails (h : UpgradeRun.Fails u f status response)
    (hf : f ≠ .upgradeComplete) : (u.responseEvent f status response).2 = (.err, 100) := by
  unfold UpgradeRun.Fails at h
  split at h
  case isTrue hstatus =>
    obtain ⟨hcode, hretry⟩ := h
    cases f with
    | startUpgrade =>
      simp only [true_and, not_or] at hretry
      simp [responseEvent, startUpgradeResponseHandler, hstatus, hcode, hretry]
    | xferFirmware | completeXferFirmware | getUpgradeProgress =>
      simp [responseEvent, xferFirmwareResponseHandler, completeXferFirmwareResponseHandler,
        getProgressResponseHandler, hstatus, hcode]
    | upgradeComplete => exact absurd rfl hf
  case isFalse hstatus =>
    cases f with
    | startUpgrade | xferFirmware | completeXferFirmware | getUpgradeProgress =>
      simp only [UpgradeRun.tryLimit] at h
      simp [responseEvent, startUpgradeResponseHandler, xferFirmwareResponseHandler,
        completeXferFirmwareResponseHandler, getProgressResponseHandler, failed, hstatus, h]
    | upgradeComplete => exact absurd rfl hf

theorem responseEvent_of_not_fails (h : ¬ UpgradeRun.Fails u f status response)
    (hf : f ≠ .upgradeComplete) (hprogress : u.progress = 0) :
    (u.responseEvent f status response).2 = u.answer f status response := by
  unfold UpgradeRun.Fails at h
  split at h
  case isTrue hstatus =>
    cases f with
    | startUpgrade =>
      by_cases hcode : response.retCode = 0
      · simp [responseEvent, startUpgradeResponseHandler, answer, hstatus, hcode]
      · have hretry : response.retCode = kSystemIsNotReady ∨ response.retCode = eraseFirmware := by
          by_contra hno
          exact h ⟨hcode, fun hr => hno hr.2⟩
        simp only [responseEvent, startUpgradeResponseHandler, answer, hstatus, hcode, ne_eq,
          not_false_eq_true, if_true, and_false, if_false]
        rcases hretry with hr | hr
        · rw [if_pos hr]
        · split <;> rfl
    | xferFirmware | completeXferFirmware | getUpgradeProgress =>
      have hcode : response.retCode = 0 := by
        by_contra hcode
        exact h ⟨hcode, fun hr => by cases hr.1⟩
      simp only [responseEvent, xferFirmwareResponseHandler, completeXferFirmwareResponseHandler,
        getProgressResponseHandler, answer, hstatus, hcode, ne_eq, not_true_eq_false, if_true,
        if_false]
      all_goals first | rfl | split <;> rfl
    | upgradeComplete => exact absurd rfl hf
  case isFalse hstatus =>
    have hlt := not_not.mp h
    cases f with
    | startUpgrade | xferFirmware | completeXferFirmware | getUpgradeProgress =>
      simp only [UpgradeRun.tryLimit] at hlt
      simp [responseEvent, startUpgradeResponseHandler, xferFirmwareResponseHandler,
        completeXferFirmwareResponseHandler, getProgressResponseHandler, failed, answer, hstatus,
        hlt, hprogress]
    | upgradeComplete => exact absurd rfl hf

theorem responseEvent_upgradeComplete (u : LivoxLidarUpgrader) (status : Status)
    (response : Response) :
    (u.responseEvent .upgradeComplete status response).2 = (.err, 100) ∨
      (u.responseEvent .upgradeComplete status response).2 = (.reinit, 100) ∨
      (u.responseEvent .upgradeComplete status response).2 = (.complete, 100) := by
  unfold responseEvent upgradeCompleteResponseHandler failed
  dsimp only
  split <;> split <;> simp

/-- Response handlers report 100 at most, and 100 where they end an upgrade. -/
theorem responseEvent_progress (hprogress : u.progress = 0) (f : FnFsmEvent) (status : Status)
    (response : Response) :
    (u.responseEvent f status response).2.2 ≤ 100 ∧
      ((u.responseEvent f status response).2.1 = .err ∨
        (u.responseEvent f status response).2.1 = .reinit →
          (u.responseEvent f status response).2.2 = 100) := by
  by_cases hf : f = .upgradeComplete
  · subst hf
    rcases u.responseEvent_upgradeComplete status response with h | h | h <;> rw [h] <;>
      exact ⟨by decide, fun _ => rfl⟩
  by_cases hfails : UpgradeRun.Fails u f status response
  · rw [responseEvent_of_fails hfails hf]
    exact ⟨by decide, fun _ => rfl⟩
  rw [responseEvent_of_not_fails hfails hf hprogress]
  cases f with
  | startUpgrade | xferFirmware | completeXferFirmware =>
    unfold answer
    dsimp only
    refine ⟨?_, ?_⟩
    · repeat' split
      all_goals decide
    · repeat' split
      all_goals exact fun h => by rcases h with h | h <;> cases h
  | getUpgradeProgress =>
    unfold answer
    dsimp only
    split
    · split
      case isTrue hlt =>
        refine ⟨UInt8.le_iff_toNat_le.mpr ?_, fun h => by rcases h with h | h <;> cases h⟩
        rw [toNat_half hlt]
        have := UInt8.lt_iff_toNat_lt.mp hlt
        simp only [UInt8.reduceToNat] at this ⊢
        omega
      case isFalse => exact ⟨by decide, fun _ => rfl⟩
    · exact ⟨by decide, fun h => by rcases h with h | h <;> cases h⟩
  | upgradeComplete => exact absurd rfl hf

end LivoxLidarUpgrader

/-- A call goes on with what it has to tell. -/
def FsmCall.GoesOn (c c' : FsmCall) : Prop :=
  c'.progress = c.progress ∧ c'.ends = c.ends ∧ ∀ f, c'.pc.action = some f → c.pc.action = some f

theorem FsmCall.GoesOn.refl (c : FsmCall) : c.GoesOn c := ⟨rfl, rfl, fun _ h => h⟩

/-! ### How far the progress has come -/

namespace UpgradeRun

variable {s s' : UpgradeRun} {f : FnFsmEvent} {status : Status} {response : Response} {j : ℕ}
  {c c' c₁ : FsmCall} {outer : List FsmCall}

/-- How far the progress can have come in a state. -/
def boundAt (completed : Bool) (polled : UInt8) : FsmState → ℕ
  | .request => 10
  | .xferFirmware => 20
  | .completeXferFirmware => if completed then 50 else 40
  | .getUpgradeProgress => polled.toNat / 2 + 50
  | .complete => 100
  | .idle | .timeout | .err => 0

def bound (s : UpgradeRun) : ℕ := boundAt s.completed s.polled s.upgrader.fsmState

theorem boundAt_completeXferFirmware_le (completed : Bool) (polled : UInt8) :
    boundAt completed polled .completeXferFirmware ≤ 50 := by
  cases completed <;> exact Nat.le_of_ble_eq_true rfl

theorem boundAt_getUpgradeProgress_le (completed : Bool) {polled : UInt8}
    (hpolled : polled.toNat < 100) : boundAt completed polled .getUpgradeProgress ≤ 100 := by
  simp only [boundAt]
  omega

theorem toNat_max (p q : UInt8) : (max p q).toNat = max p.toNat q.toNat := by
  change (if p ≤ q then q else p).toNat = _
  split
  case isTrue h => exact (Nat.max_eq_right (UInt8.le_iff_toNat_le.mp h)).symm
  case isFalse h => exact (Nat.max_eq_left (by rw [UInt8.le_iff_toNat_le] at h; omega)).symm

/-- The highest progress answered stays below 100. -/
theorem polled_respond (f : FnFsmEvent) (status : Status) (response : Response)
    (hpolled : s.polled.toNat < 100) :
    (s.respond f status response).1.polled.toNat < 100 := by
  change (ite _ _ s.polled).toNat < 100
  split
  case isTrue h =>
    rw [toNat_max]
    exact Nat.max_lt.mpr ⟨hpolled, UInt8.lt_iff_toNat_lt.mp h.2.2⟩
  case isFalse => exact hpolled

theorem polled_answered (s : UpgradeRun) (hlt : response.progress < 100) :
    response.progress.toNat ≤
      (s.respond .getUpgradeProgress .success response).1.polled.toNat := by
  change _ ≤ (ite _ _ s.polled).toNat
  rw [if_pos ⟨rfl, rfl, hlt⟩, toNat_max]
  exact Nat.le_max_right _ _

/-- What a callback hands on is neither below the bound nor above the one behind it. -/
def Between (s : UpgradeRun) (f : FnFsmEvent) (status : Status) (response : Response)
    (handed : FsmEvent × UInt8) : Prop :=
  s.bound ≤ handed.2.toNat ∧
    handed.2.toNat ≤ boundAt (s.respond f status response).1.completed
      (s.respond f status response).1.polled (s.upgrader.fsmState.after handed.1)

/-- The end of the polls. -/
theorem between_complete (hrank : 4 ≤ s.upgrader.fsmState.rank) (hpolled : s.polled.toNat < 100) :
    s.Between f status response (.complete, 100) := by
  unfold Between bound
  rcases FsmState.of_four_le_rank hrank with ⟨hstate, -⟩ | hstate <;> rw [hstate]
  · exact ⟨boundAt_getUpgradeProgress_le _ hpolled, show 100 ≤ 100 by decide⟩
  · exact ⟨show 100 ≤ 100 by decide, show 100 ≤ 100 by decide⟩

theorem between_startUpgrade (h : s.InPlace .startUpgrade status response) :
    s.Between .startUpgrade status response (s.upgrader.answer .startUpgrade status response) := by
  unfold Between bound LivoxLidarUpgrader.answer
  rcases h with hstate | ⟨hstate, hstatus, hcode⟩ <;> rw [hstate] <;> dsimp only
  · split
    · exact ⟨show 10 ≤ 20 by decide, show 20 ≤ 20 by decide⟩
    · exact ⟨show 10 ≤ 10 by decide, show 10 ≤ 10 by decide⟩
  · rw [if_pos ⟨hstatus, hcode⟩]
    exact ⟨show 20 ≤ 20 by decide, show 20 ≤ 20 by decide⟩

theorem between_xferFirmware (h : s.InPlace .xferFirmware status response) :
    s.Between .xferFirmware status response (s.upgrader.answer .xferFirmware status response) := by
  have hhigh (completed : Bool) (polled : UInt8) :
      40 ≤ boundAt completed polled .completeXferFirmware := by
    cases completed <;> exact Nat.le_of_ble_eq_true rfl
  unfold Between bound LivoxLidarUpgrader.answer
  rcases h with hstate | ⟨hstate, hcompleted, hstatus, hend⟩ <;> rw [hstate] <;> dsimp only
  · split
    · split
      · exact ⟨show 20 ≤ 20 by decide, show 20 ≤ 20 by decide⟩
      · exact ⟨show 20 ≤ 40 by decide, hhigh _ _⟩
    · exact ⟨show 20 ≤ 20 by decide, show 20 ≤ 20 by decide⟩
  · rw [if_pos hstatus, if_neg hend, hcompleted]
    exact ⟨show 40 ≤ 40 by decide, hhigh _ _⟩

theorem between_completeXferFirmware (h : s.InPlace .completeXferFirmware status response) :
    s.Between .completeXferFirmware status response
      (s.upgrader.answer .completeXferFirmware status response) := by
  have hdone : (s.respond .completeXferFirmware status response).1.completed = true := by
    simp [respond, enter]
  have hhigh : 50 ≤ (s.respond .completeXferFirmware status response).1.polled.toNat / 2 + 50 :=
    Nat.le_add_left _ _
  unfold Between bound LivoxLidarUpgrader.answer
  rw [hdone]
  rcases h with hstate | ⟨hstate, hlow⟩ <;> rw [hstate] <;> dsimp only
  · have hle := boundAt_completeXferFirmware_le s.completed s.polled
    split
    · exact ⟨hle, hhigh⟩
    · exact ⟨hle, show 50 ≤ 50 by decide⟩
  · have hle : boundAt s.completed s.polled .getUpgradeProgress ≤ 50 := by
      have := UInt8.lt_iff_toNat_lt.mp hlow
      simp only [boundAt, UInt8.reduceToNat] at this ⊢
      omega
    split <;> exact ⟨hle, hhigh⟩

/-- Polls are not answered below what the highest answer so far tells. -/
theorem between_getUpgradeProgress (h : s.InPlace .getUpgradeProgress status response)
    (hrank : 4 ≤ s.upgrader.fsmState.rank) (hpolled : s.polled.toNat < 100) :
    s.Between .getUpgradeProgress status response
      (s.upgrader.answer .getUpgradeProgress status response) := by
  unfold InPlace at h
  unfold LivoxLidarUpgrader.answer
  dsimp only at h ⊢
  split at h
  case isTrue hstatus =>
    subst hstatus
    rw [if_pos rfl]
    split
    case isTrue hlt =>
      obtain ⟨hstate, hhalf⟩ := h.resolve_left (UInt8.not_le.mpr hlt)
      have hhalf := UInt8.le_iff_toNat_le.mp hhalf
      have hanswered := s.polled_answered hlt
      simp only [UInt8.toNat_div, UInt8.reduceToNat] at hhalf
      unfold Between bound
      rw [hstate, LivoxLidarUpgrader.toNat_half hlt]
      refine ⟨show _ / 2 + 50 ≤ _ from ?_, show _ ≤ _ / 2 + 50 from ?_⟩
      · omega
      · omega
    case isFalse => exact between_complete hrank hpolled
  case isFalse hstatus =>
    obtain ⟨hstate, hlow⟩ := h
    have hlt := UInt8.lt_iff_toNat_lt.mp hlow
    unfold Between bound
    rw [if_neg hstatus, hstate]
    refine ⟨show _ / 2 + 50 ≤ 50 from ?_, show 50 ≤ _ / 2 + 50 from Nat.le_add_left _ _⟩
    simp only [UInt8.reduceToNat] at hlt
    omega

/-- What an answer in its place tells, for all but the last action. -/
theorem between_answer (h : s.InPlace f status response) (hf : f ≠ .upgradeComplete)
    (hrank : f.state.rank ≤ s.upgrader.fsmState.rank) (hpolled : s.polled.toNat < 100) :
    s.Between f status response (s.upgrader.answer f status response) := by
  cases f with
  | startUpgrade => exact between_startUpgrade h
  | xferFirmware => exact between_xferFirmware h
  | completeXferFirmware => exact between_completeXferFirmware h
  | getUpgradeProgress => exact between_getUpgradeProgress h hrank hpolled
  | upgradeComplete => exact absurd rfl hf

/-- What a callback leads to. -/
structure Entered (s s' : UpgradeRun) (call : FsmCall) : Prop where
  commands : s'.commands = s.commands
  told : s'.told = s.told
  progress : s'.upgrader.progress = 0
  polled : s'.polled.toNat < 100
  call_le : call.progress ≤ 100
  ends : call.ends = true → call.progress = 100
  goesOn : s'.reached = false → s.reached = false ∧
    s.bound ≤ call.progress.toNat ∧ call.progress.toNat ≤ s'.bound ∧
    s.upgrader.fsmState.rank ≤ s'.upgrader.fsmState.rank ∧
    ∀ f ∈ call.pc.action, f.state.rank ≤ s'.upgrader.fsmState.rank

/-- What a callback in its place tells, when the upgrade goes on. -/
theorem between_timely (h : s.Timely f status response) (hprogress : s.upgrader.progress = 0)
    (hrank : f.state.rank ≤ s.upgrader.fsmState.rank) (hpolled : s.polled.toNat < 100)
    (hne : (s.upgrader.responseEvent f status response).2.1 ≠ .err)
    (hgo : (s.upgrader.fsmState.after
      (s.upgrader.responseEvent f status response).2.1).isEnd = false) :
    s.Between f status response (s.upgrader.responseEvent f status response).2 := by
  by_cases hf : f = .upgradeComplete
  · subst hf
    have hlate : 4 ≤ s.upgrader.fsmState.rank := le_trans (by decide) hrank
    rcases s.upgrader.responseEvent_upgradeComplete status response with hr | hr | hr <;>
      rw [hr] at hne hgo ⊢
    · exact absurd rfl hne
    · rcases FsmState.of_four_le_rank hlate with ⟨-, hfour⟩ | hstate
      · exact absurd (hfour ▸ hrank) (by decide)
      · rw [hstate] at hgo
        exact absurd hgo (by decide)
    · exact between_complete hlate hpolled
  · have hnot : ¬ Fails s.upgrader f status response := fun hfails =>
      hne (by rw [LivoxLidarUpgrader.responseEvent_of_fails hfails hf])
    rw [LivoxLidarUpgrader.responseEvent_of_not_fails hnot hf hprogress]
    exact between_answer (h.resolve_left hnot) hf hrank hpolled

theorem respond_err (s : UpgradeRun)
    (herr : (s.upgrader.responseEvent f status response).2.1 = .err) :
    (s.respond f status response).1.upgrader =
      { (s.upgrader.responseEvent f status response).1 with fsmState := .err } := by
  change (LivoxLidarUpgrader.fsmEventHandler _ _ _).upgrader = _
  rw [herr, LivoxLidarUpgrader.fsmEventHandler_err]

/-- A callback that does not end the upgrade in an error goes by the table. -/
theorem respond_after (s : UpgradeRun) (hprogress : s.upgrader.progress = 0)
    (herr : (s.upgrader.responseEvent f status response).2.1 ≠ .err) :
    (s.respond f status response).1.upgrader.fsmState =
        s.upgrader.fsmState.after (s.upgrader.responseEvent f status response).2.1 ∧
      (s.respond f status response).1.upgrader.progress = 0 ∧
      ∀ g ∈ (s.respond f status response).2.pc.action,
        g.state = (s.respond f status response).1.upgrader.fsmState := by
  obtain ⟨hstate, hkept, hne⟩ := s.upgrader.responseEvent_keeps f status response
  obtain ⟨hafter, hprogress', hsender⟩ := LivoxLidarUpgrader.fsmEventHandler_after
    (s.upgrader.responseEvent f status response).2.2 (hkept.trans hprogress) ⟨hne, herr⟩
  rw [hstate] at hafter hsender
  refine ⟨hafter, hprogress', fun g hg => ?_⟩
  rw [show (s.respond f status response).1.upgrader.fsmState = _ from hafter]
  unfold respond enter at hg
  dsimp only at hg
  split at hg
  case h_1 request hrequest =>
    cases hg
    exact hsender request hrequest
  case h_2 => cases hg

/-- A callback that ends the upgrade tells 100. -/
theorem ends_respond (hprogress : s.upgrader.progress = 0)
    (hrank : s.reached = false → f.state.rank ≤ s.upgrader.fsmState.rank)
    (hends : (s.respond f status response).2.ends = true) :
    (s.upgrader.responseEvent f status response).2.2 = 100 := by
  obtain ⟨-, hlast⟩ := LivoxLidarUpgrader.responseEvent_progress hprogress f status response
  obtain ⟨hreached, hend⟩ := (Bool.and_eq_true _ _).mp
    (show (!s.reached && (s.respond f status response).1.upgrader.fsmState.isEnd) = true from hends)
  have hpos : s.upgrader.fsmState.isEnd ≠ true := fun h => by
    have hrank := hrank (by simpa using hreached)
    rw [FsmState.rank_of_isEnd h] at hrank
    cases f <;> exact absurd hrank (by decide)
  by_cases herr : (s.upgrader.responseEvent f status response).2.1 = .err
  · exact hlast (.inl herr)
  · rw [(s.respond_after hprogress herr).1] at hend
    exact hlast (.inr ((FsmState.reinit_of_isEnd hend).resolve_left hpos))

/-- **A callback** in its place. -/
theorem entered_respond (hprogress : s.upgrader.progress = 0) (hpolled : s.polled.toNat < 100)
    (hrank : s.reached = false → f.state.rank ≤ s.upgrader.fsmState.rank)
    (hok : s.reached = true ∨ s.Timely f status response) :
    Entered s (s.respond f status response).1 (s.respond f status response).2 := by
  have hreport : (s.respond f status response).2.progress =
      (s.upgrader.responseEvent f status response).2.2 :=
    congrArg UpgradeState.progress (LivoxLidarUpgrader.fsmEventHandler_report _ _ _)
  have hreached : (s.respond f status response).1.reached =
      (s.reached || (s.respond f status response).1.upgrader.fsmState.isEnd) := rfl
  refine ⟨rfl, rfl, ?_, polled_respond f status response hpolled, ?_, ?_, ?_⟩
  · by_cases herr : (s.upgrader.responseEvent f status response).2.1 = .err
    · rw [s.respond_err herr]
      exact (s.upgrader.responseEvent_keeps f status response).2.1.trans hprogress
    · exact (s.respond_after hprogress herr).2.1
  · rw [hreport]
    exact (LivoxLidarUpgrader.responseEvent_progress hprogress f status response).1
  · rw [hreport]
    exact ends_respond hprogress hrank
  · intro hgo
    rw [hreached, Bool.or_eq_false_iff] at hgo
    obtain ⟨hstart, hend⟩ := hgo
    have herr : (s.upgrader.responseEvent f status response).2.1 ≠ .err := fun herr => by
      rw [s.respond_err herr] at hend
      exact Bool.noConfusion hend
    obtain ⟨hafter, -, haction⟩ := s.respond_after hprogress herr
    have htimely := hok.resolve_left (by simp [hstart])
    rw [hafter] at hend
    obtain ⟨hlow, hhigh⟩ := between_timely htimely hprogress (hrank hstart) hpolled herr hend
    refine ⟨hstart, ?_, ?_, ?_, fun g hg => (congrArg FsmState.rank (haction g hg)).le⟩
    · rw [hreport]
      exact hlow
    · rw [hreport, bound, hafter]
      exact hhigh
    · rw [hafter]
      exact (FsmState.rank_le_after _ _).resolve_left (by simp [hend])

/-! ### Runs -/

/-- An action whose command is in the table, or is being sent. -/
def Pending (s : UpgradeRun) (f : FnFsmEvent) : Prop :=
  f ∈ s.commands ∨ ∃ c ∈ s.calls, c.pc.action = some f

/-- What every state of a run in order meets: what was told never fell, and until the upgrade has
reached its end, what waits to be told is between that and the bound, and no command is one that
the upgrade has not come to. -/
structure Inv (s : UpgradeRun) : Prop where
  progress : s.upgrader.progress = 0
  polled : s.polled.toNat < 100
  told_le : ∀ r ∈ s.told, r.progress ≤ 100
  sorted : (untilEnd s.told).Pairwise (· ≤ ·)
  call_le : ∀ c ∈ s.calls, c.progress ≤ 100
  ends : ∀ c ∈ s.calls, c.ends = true → c.progress = 100
  inStep : s.reached = false →
    InStep s.bound (untilEnd s.told) (s.calls.map fun c => c.progress.toNat)
  pending : s.reached = false → ∀ f, s.Pending f → f.state.rank ≤ s.upgrader.fsmState.rank

theorem inv_init (firmware : Firmware) (handle : UInt32) : (init firmware handle).Inv := by
  have hcalls : ∀ c ∈ (init firmware handle).calls, c = ⟨10, .send .startUpgrade, false⟩ :=
    fun c hc => List.mem_singleton.mp hc
  refine ⟨rfl, show 0 < 100 by decide, nofun, .nil, fun c hc => ?_, fun c hc hends => ?_,
    fun _ => ⟨.nil, nofun, nofun, fun w hw => ?_⟩, fun _ f hf => ?_⟩
  · rw [hcalls c hc]
    exact show (10 : UInt8) ≤ 100 by decide
  · rw [hcalls c hc] at hends
    cases hends
  · obtain ⟨c, hc, rfl⟩ := List.mem_map.mp hw
    rw [hcalls c hc]
    exact show 10 ≤ 10 by decide
  · rcases hf with hf | ⟨c, hc, hf⟩
    · cases hf
    · rw [hcalls c hc] at hf
      cases hf
      exact show 1 ≤ 1 by decide

/-- Bookkeeping: calls go on with what they have to tell, and commands come into the table from
their calls. -/
theorem Inv.move (h : s.Inv) {commands : List FnFsmEvent} {threads : List (List FsmCall)}
    (hcommands : ∀ f ∈ commands, s.Pending f)
    (hcalls : ∀ c' ∈ threads.flatten, ∃ c ∈ s.calls, c.GoesOn c') :
    Inv { s with commands, threads } where
  progress := h.progress
  polled := h.polled
  told_le := h.told_le
  sorted := h.sorted
  call_le c' hc' := by
    obtain ⟨c, hc, hgo⟩ := hcalls c' hc'
    rw [hgo.1]
    exact h.call_le c hc
  ends c' hc' hends := by
    obtain ⟨c, hc, hgo⟩ := hcalls c' hc'
    rw [hgo.1]
    exact h.ends c hc (hgo.2.1 ▸ hends)
  inStep hgo := (h.inStep hgo).shrink fun w hw => by
    obtain ⟨c', hc', rfl⟩ := List.mem_map.mp hw
    obtain ⟨c, hc, hgo⟩ := hcalls c' hc'
    exact List.mem_map.mpr ⟨c, hc, by rw [hgo.1]⟩
  pending hgo f hf := by
    refine h.pending hgo f ?_
    rcases hf with hf | ⟨c', hc', hf⟩
    · exact hcommands f hf
    · obtain ⟨c, hc, hgo⟩ := hcalls c' hc'
      exact .inr ⟨c, hc, hgo.2.2 f hf⟩

/-- A callback is called, in a thread of its own or inside a call. -/
theorem Inv.respond (h : s.Inv) (hf : s.Pending f)
    (hok : s.reached = true ∨ s.Timely f status response) {threads : List (List FsmCall)}
    (hcalls : ∀ c ∈ threads.flatten, c = (s.respond f status response).2 ∨ c ∈ s.calls) :
    Inv { (s.respond f status response).1 with threads } := by
  obtain ⟨hcommands, htold, hprogress, hpolled, hle, hends, hgoesOn⟩ :=
    entered_respond h.progress h.polled (fun hgo => h.pending hgo f hf) hok
  generalize s.respond f status response = r at hcommands htold hprogress hpolled hle hends hgoesOn hcalls ⊢
  obtain ⟨s', call⟩ := r
  dsimp only at hcommands htold hprogress hpolled hle hends hgoesOn hcalls ⊢
  refine ⟨hprogress, hpolled, ?_, ?_, fun c hc => ?_, fun c hc => ?_, fun hgo => ?_,
    fun hgo g hg => ?_⟩
  · exact htold ▸ h.told_le
  · exact htold ▸ h.sorted
  · rcases hcalls c hc with rfl | hc
    · exact hle
    · exact h.call_le c hc
  · rcases hcalls c hc with rfl | hc
    · exact hends
    · exact h.ends c hc
  · obtain ⟨hstart, hlow, hhigh, -⟩ := hgoesOn hgo
    dsimp only
    rw [htold]
    refine ((h.inStep hstart).wait hlow hhigh).shrink fun w hw => ?_
    obtain ⟨c, hc, rfl⟩ := List.mem_map.mp hw
    rcases hcalls c hc with rfl | hc
    · exact List.mem_cons_self
    · exact List.mem_cons_of_mem _ (List.mem_map_of_mem hc)
  · obtain ⟨hstart, -, -, hrank, haction⟩ := hgoesOn hgo
    rcases hg with hg | ⟨c, hc, hg⟩
    · rw [hcommands] at hg
      exact (h.pending hstart g (.inl hg)).trans hrank
    · rcases hcalls c hc with rfl | hc
      · exact haction g hg
      · exact (h.pending hstart g (.inr ⟨c, hc, hg⟩)).trans hrank

/-- A call tells what it has to tell. -/
theorem Inv.tell (h : s.Inv) {c : FsmCall} (hc : c ∈ s.calls)
    (hleast : s.reached = true ∨ ∀ c' ∈ s.calls, c.progress ≤ c'.progress) :
    Inv { s with told := s.told ++ [Told.mk c.progress (!s.reached || c.ends)] } := by
  have htold : untilEnd (s.told ++ [Told.mk c.progress (!s.reached || c.ends)]) =
      if s.reached = true ∧ c.ends = false then untilEnd s.told
      else untilEnd s.told ++ [c.progress.toNat] := by
    unfold untilEnd
    rw [List.filter_append, List.map_append]
    cases hr : s.reached <;> cases he : c.ends <;> simp
  have hstep : s.reached = false → InStep s.bound (untilEnd s.told ++ [c.progress.toNat])
      (s.calls.map fun c => c.progress.toNat) := fun hgo => by
    refine (h.inStep hgo).tell (List.mem_map_of_mem hc) fun w hw => ?_
    obtain ⟨c', hc', rfl⟩ := List.mem_map.mp hw
    exact UInt8.le_iff_toNat_le.mp (hleast.resolve_left (by simp [hgo]) c' hc')
  refine ⟨h.progress, h.polled, fun r hr => ?_, ?_, h.call_le, h.ends, fun hgo => ?_, h.pending⟩
  · rcases List.mem_append.mp hr with hr | hr
    · exact h.told_le r hr
    · rw [List.mem_singleton.mp hr]
      exact h.call_le c hc
  · dsimp only
    rw [htold]
    split
    case isTrue => exact h.sorted
    case isFalse hcounts =>
      cases hr : s.reached with
      | false => exact (hstep hr).sorted
      | true =>
        -- behind the end only the call that led there still counts, and it tells 100
        have hends : c.ends = true := by simpa [hr] using hcounts
        refine InStep.sorted_concat h.sorted fun t ht => ?_
        obtain ⟨r, hr, rfl⟩ := List.mem_map.mp ht
        rw [h.ends c hc hends]
        exact UInt8.le_iff_toNat_le.mp (h.told_le r (List.mem_of_mem_filter hr))
  · dsimp only
    rw [htold, if_neg fun hended => by simp_all]
    exact hstep hgo

theorem top_eq_some (h : s.top j = some (c, outer)) : s.threads[j]? = some (c :: outer) := by
  unfold top at h
  split at h
  case h_1 hthread =>
    cases h
    exact hthread
  case h_2 => cases h

theorem top_setThread (h : s.top j = some (c, outer)) (c' : FsmCall) (outer' : List FsmCall) :
    (s.setThread j (c' :: outer')).top j = some (c', outer') := by
  have hlt := (List.getElem?_eq_some_iff.mp (top_eq_some h)).1
  rw [top, show (s.setThread j (c' :: outer')).threads[j]? = some (c' :: outer') from
    List.getElem?_set_self hlt]

theorem mem_calls_of_top (h : s.top j = some (c, outer)) :
    c ∈ s.calls ∧ ∀ c' ∈ outer, c' ∈ s.calls := by
  have hmem := List.mem_of_getElem? (top_eq_some h)
  exact ⟨List.mem_flatten_of_mem hmem List.mem_cons_self,
    fun c' hc' => List.mem_flatten_of_mem hmem (List.mem_cons_of_mem _ hc')⟩

theorem mem_calls_set {calls : List FsmCall} (h : c ∈ (s.threads.set j calls).flatten) :
    c ∈ calls ∨ c ∈ s.calls := by
  obtain ⟨thread, hthread, hc⟩ := List.mem_flatten.mp h
  rcases List.mem_or_eq_of_mem_set hthread with hthread | rfl
  · exact .inr (List.mem_flatten_of_mem hthread hc)
  · exact .inl hc

/-- A call is called inside the innermost one of a thread. -/
theorem mem_calls_push (htop : s.top j = some (c, outer))
    (h : c₁ ∈ (s.threads.set j (c' :: c :: outer)).flatten) : c₁ = c' ∨ c₁ ∈ s.calls := by
  obtain ⟨hc, houter⟩ := mem_calls_of_top htop
  rcases mem_calls_set h with h | h
  · rcases List.mem_cons.mp h with rfl | h
    · exact .inl rfl
    · rcases List.mem_cons.mp h with rfl | h
      · exact .inr hc
      · exact .inr (houter c₁ h)
  · exact .inr h

/-- The innermost call of a thread goes on. -/
theorem goesOn_set (htop : s.top j = some (c, outer)) (hgo : c.GoesOn c') :
    ∀ c₁ ∈ (s.threads.set j (c' :: outer)).flatten, ∃ c₀ ∈ s.calls, c₀.GoesOn c₁ := by
  intro c₁ hc₁
  obtain ⟨hc, houter⟩ := mem_calls_of_top htop
  rcases mem_calls_set hc₁ with hc₁ | hc₁
  · rcases List.mem_cons.mp hc₁ with rfl | hc₁
    · exact ⟨c, hc, hgo⟩
    · exact ⟨c₁, houter c₁ hc₁, .refl c₁⟩
  · exact ⟨c₁, hc₁, .refl c₁⟩

/-- A callback is called by a thread of its own. -/
theorem Inv.callback {i : ℕ} (h : s.Inv) (hf : s.commands[i]? = some f)
    (hok : s.reached = true ∨ s.Timely f status response) :
    Inv { ({ s with commands := s.commands.eraseIdx i }.respond f status response).1 with
      threads := s.threads ++
        [[({ s with commands := s.commands.eraseIdx i }.respond f status response).2]] } := by
  have hresponded : Inv { (s.respond f status response).1 with
      threads := s.threads ++ [[(s.respond f status response).2]] } := by
    refine h.respond (.inl (List.mem_of_getElem? hf)) hok fun c hc => ?_
    rw [List.flatten_append, List.mem_append] at hc
    exact hc.symm.imp_left fun hc => List.mem_singleton.mp hc
  exact hresponded.move (fun g hg => .inl (List.mem_of_mem_eraseIdx hg))
    fun c hc => ⟨c, hc, .refl c⟩

/-- A send, and the callback inside it if it fails. -/
theorem Inv.send (h : s.Inv) (htop : s.top j = some (c, outer)) (hpc : c.pc = .send f) :
    ∀ sending, (sending = .failed → s.reached = true ∨ s.Timely f .sendFailed ⟨0, 0⟩) →
      (s.send j f c outer sending).Inv := by
  have hadd : c.GoesOn { c with pc := .add f } := ⟨rfl, rfl, fun g hg => by rw [hpc]; exact hg⟩
  have hreport : c.GoesOn { c with pc := .report } := ⟨rfl, rfl, nofun⟩
  intro sending hok
  cases sending with
  | sent => exact h.move (fun g hg => .inl hg) (goesOn_set htop hadd)
  | noHandler => exact h.move (fun g hg => .inl hg) (goesOn_set htop hreport)
  | failed =>
    -- the outer call goes on first, and the callback is called inside it
    have hsent : Inv (s.setThread j ({ c with pc := .add f } :: outer)) :=
      h.move (fun g hg => .inl hg) (goesOn_set htop hadd)
    have hsentTop := top_setThread htop { c with pc := .add f } outer
    refine hsent.respond (.inr ⟨_, (mem_calls_of_top hsentTop).1, rfl⟩) (hok rfl)
      fun c₁ hc₁ => mem_calls_push hsentTop ?_
    rw [setThread, List.set_set]
    exact hc₁

/-- **Every step in order keeps the invariant.** -/
theorem inv_step {e : UpgradeEvent} (h : s.Inv) (hok : s.StepOk e) (hstep : s.step e = some s') :
    s'.Inv := by
  cases e with
  | callback i status response =>
    obtain ⟨f, hf, rfl⟩ := Option.map_eq_some_iff.mp hstep
    exact h.callback hf (hok.imp_right fun hall => hall f hf)
  | register j =>
    obtain ⟨⟨c, outer⟩, htop, hstep⟩ := Option.bind_eq_some_iff.mp hstep
    dsimp only at hstep
    split at hstep
    case h_2 => cases hstep
    case h_1 f hpc =>
      cases hstep
      have hmem := (mem_calls_of_top htop).1
      refine h.move (fun g hg => ?_) fun c hc => ⟨c, hc, .refl c⟩
      rcases List.mem_append.mp hg with hg | hg
      · exact .inl hg
      · rw [List.mem_singleton.mp hg]
        exact .inr ⟨c, hmem, by rw [hpc]; rfl⟩
  | send j sending =>
    obtain ⟨⟨c, outer⟩, htop, hstep⟩ := Option.bind_eq_some_iff.mp hstep
    dsimp only at hstep
    split at hstep
    case h_2 => cases hstep
    case h_1 f hpc =>
      cases hstep
      refine h.send htop hpc sending fun hfailed => ?_
      subst hfailed
      exact hok.imp_right fun hall => hall _ htop f (by rw [hpc]; rfl)
  | add j =>
    obtain ⟨⟨c, outer⟩, htop, hstep⟩ := Option.bind_eq_some_iff.mp hstep
    dsimp only at hstep
    split at hstep
    case h_2 => cases hstep
    case h_1 f hpc =>
      cases hstep
      have hmem := (mem_calls_of_top htop).1
      refine h.move (fun g hg => ?_) (goesOn_set htop ⟨rfl, rfl, nofun⟩)
      rcases List.mem_append.mp hg with hg | hg
      · exact .inl hg
      · rw [List.mem_singleton.mp hg]
        exact .inr ⟨c, hmem, by rw [hpc]; rfl⟩
  | report j =>
    obtain ⟨⟨c, outer⟩, htop, hstep⟩ := Option.bind_eq_some_iff.mp hstep
    dsimp only at hstep
    split at hstep
    case h_2 => cases hstep
    case h_1 hpc =>
      cases hstep
      obtain ⟨hmem, houter⟩ := mem_calls_of_top htop
      refine (h.tell hmem (hok.imp_right fun hall => hall _ htop)).move (fun g hg => .inl hg)
        fun c hc => ⟨c, (mem_calls_set hc).elim (houter c) id, .refl c⟩

/-- **The progress never falls** in a run whose steps come in order. -/
theorem progress_run (firmware : Firmware) (handle : UInt32) (tr : List (UpgradeRun × UpgradeEvent))
    (s : UpgradeRun) (h : Run step StepOk (init firmware handle) tr s) : s.ProgressMonotone := by
  have hinv : s.Inv := h.invariant (inv_init firmware handle)
    fun _ _ _ _ hinv hok hstep => inv_step hinv hok hstep
  exact ⟨hinv.sorted, hinv.told_le⟩

/-- A firmware of one byte. -/
def oneByte : Firmware where
  header := ⟨kEnlFileVersionV3, 1, 1, 1, 10, 0, 0, 16, List.replicate 128 0,
    List.replicate 128 0, 0, 0⟩
  data := [7]
  tail := List.replicate 16 0
  fileSize := 303
  data_length := rfl

/-- The call in a thread sends its command and tells its progress. -/
def tells (j : ℕ) : List UpgradeEvent := [.send j .sent, .add j, .report j]

/-- An upgrade up to its first poll. -/
def untilPolled : List UpgradeEvent :=
  tells 0 ++ .callback 0 .success ⟨0, 0⟩ :: tells 1 ++ .callback 0 .success ⟨0, 0⟩ :: tells 2 ++
    .callback 0 .success ⟨0, 0⟩ :: tells 3

/-- The first poll fails, and nothing else. -/
theorem progress_run_oneByte : ∃ tr s, s.reached = true ∧
    untilEnd s.told = [10, 20, 40, 50, 50, 90, 100, 100] ∧
    Run step StepOk (init oneByte 1) tr s ∧ s.ProgressMonotone := by
  obtain ⟨s, hs, hreached, htold⟩ : ∃ s,
      exec (fun s e => if decide (s.StepOk e) then s.step e else none) (init oneByte 1)
        (untilPolled ++ .callback 0 .timeout ⟨0, 0⟩ :: tells 4 ++
          .callback 0 .success ⟨0, 80⟩ :: tells 5 ++ .callback 0 .success ⟨0, 100⟩ :: tells 6 ++
          [.callback 0 .success ⟨0, 0⟩, .report 7]) = some s ∧ s.reached = true ∧
      untilEnd s.told = [10, 20, 40, 50, 50, 90, 100, 100] := ⟨_, rfl, rfl, rfl⟩
  obtain ⟨tr, -, hrun⟩ := Run.of_exec_test (fun s e => of_decide_eq_true) hs
  exact ⟨tr, s, hreached, htold, hrun, progress_run oneByte 1 tr s hrun⟩

/-- A poll fails behind one that was answered with 80. -/
theorem progress_falls : ¬ ∀ firmware handle tr s,
    Run step (fun _ _ => True) (init firmware handle) tr s → s.ProgressMonotone := by
  intro h
  obtain ⟨s, hs, htold⟩ : ∃ s, exec step (init oneByte 1)
      (untilPolled ++ .callback 0 .success ⟨0, 80⟩ :: tells 4 ++
        .callback 0 .timeout ⟨0, 0⟩ :: tells 5) = some s ∧
      untilEnd s.told = [10, 20, 40, 50, 90, 50] := ⟨_, rfl, rfl⟩
  obtain ⟨tr, -, hrun⟩ := Run.of_exec hs
  have hsorted := (h oneByte 1 tr s hrun).1
  rw [htold] at hsorted
  exact absurd hsorted (by decide)

end UpgradeRun

end Livox
end SensorSupport
