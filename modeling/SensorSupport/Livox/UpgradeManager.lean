/-
# Upgrades of several lidars (`upgrade_manager.cpp`)

`UpgradeLivoxLidars` builds an upgrader for every handle, starts their threads,
and destroys them on return: a destructor polls until its upgrade is idle,
over or in error, and then joins the thread. Meanwhile the threads and the
callbacks of the commands move the upgraders, whose commands are in the table
with everybody else's.

A callback is invoked in the step that takes its command from the table, and
its body runs in a later one, so that all else can happen in between.

Key definitions: `Client`, `UpgradeManager`, `UpgradeManager.step`,
`UpgradeManager.Pending`.
Key theorems: `UpgradeManager.step_slot`, `UpgradeManager.step_oldCall`,
`UpgradeManager.step_newCall`.
-/
import SensorSupport.Livox.CommandTable
import SensorSupport.Livox.Upgrader

namespace SensorSupport
namespace Livox

/-- What a callback is bound to: the response handler of an action, with an
upgrader as its `client_data`, or something else. -/
inductive Client
  | upgrader (index : ℕ) (f : FnFsmEvent)
  | other
  deriving DecidableEq, Repr

/-- `upgrade_thread_`. A thread that ran made a `SendCommand` call, if any. -/
inductive UpgradeThread
  | none
  | created
  | ran (call : Option ℕ)
  deriving DecidableEq, Repr

/-- The thread called `FsmEventHandler`. -/
def UpgradeThread.hasRun : UpgradeThread → Bool
  | .ran _ => true
  | _ => false

/-- An element of `upgrader_vec`. -/
structure Slot where
  upgrader : LivoxLidarUpgrader
  thread : UpgradeThread
  destroyed : Bool

/-- Where `UpgradeLivoxLidars` is: in its first or in its second loop, or in the
destructor of an upgrader, in the loop or behind it. -/
inductive ManagerPc
  | building
  | starting (k : ℕ)
  | polling (k : ℕ)
  | joining (k : ℕ)
  deriving DecidableEq, Repr

/-- The steps: those of `UpgradeLivoxLidars`, a thread that runs, the body of an
invoked callback, and those of the command handler. -/
inductive ManagerEvent
  | build
  | start
  | poll
  | join
  | run (k : ℕ)
  | deliver (j : ℕ)
  | net (e : Event Client)

/-- `UpgradeManager` during `UpgradeLivoxLidars`, with the command handler and
the callbacks whose bodies have not run. -/
structure UpgradeManager where
  handler : GeneralCommandHandler Client
  invoked : List (Callback Client)
  livoxLidarFirmware : Firmware
  handles : List UInt32
  upgraderVec : List Slot
  pc : ManagerPc

/-- The fields of the response that the data of a callback is cast to. -/
def responseOf (data : Option Ptr) : Response :=
  match data with
  | none => ⟨0, 0⟩
  | some p => ⟨p.mem p.off, p.mem (p.off + 1)⟩

namespace UpgradeManager

open GeneralCommandHandler LivoxLidarUpgrader

variable (crc : FastCRC) (s : UpgradeManager)

/-- The state in which `UpgradeLivoxLidars` is called. -/
def init (isView : Bool) (firmware : Firmware) (handles : List UInt32) : UpgradeManager :=
  ⟨.init isView, [], firmware, handles, [], .building⟩

/-- The first loop. The local upgrader is copied into the vector and destroyed
while it is idle. -/
def build : Option UpgradeManager :=
  if s.pc = .building then
    match s.handles with
    | [] => some { s with pc := .starting 0 }
    | handle :: handles =>
      some { s with
        handles
        upgraderVec := s.upgraderVec ++ [⟨.create s.livoxLidarFirmware handle, .none, false⟩] }
  else none

/-- An upgrader of the vector changes. -/
def setSlot (k : ℕ) (slot : Slot) : UpgradeManager :=
  { s with upgraderVec := s.upgraderVec.set k slot }

/-- The second loop, with `StartUpgradeLivoxLidar`, and the end of the function. -/
def start : Option UpgradeManager :=
  match s.pc with
  | .starting k =>
    match s.upgraderVec[k]? with
    | none => some { s with pc := .polling 0 }
    | some slot => some ({ s with pc := .starting (k + 1) }.setSlot k { slot with thread := .created })
  | _ => none

/-- The loop of the destructor. -/
def poll : Option UpgradeManager :=
  match s.pc with
  | .polling k =>
    (s.upgraderVec[k]?).map fun slot =>
      if slot.upgrader.isUpgradeError || slot.upgrader.isUpgradeComplete then
        { s with pc := .joining k }
      else s
  | _ => none

/-- The destructor joins the thread, whose `SendCommand` call has to return for
that. -/
def join : Option UpgradeManager :=
  match s.pc with
  | .joining k =>
    (s.upgraderVec[k]?).bind fun slot =>
      match slot.thread with
      | .ran call =>
        if (call.bind fun i => s.handler.calls[i]?).all (·.pc = .returned) then
          some ({ s with pc := .polling (k + 1) }.setSlot k { slot with destroyed := true })
        else none
      | _ => none
  | _ => none

/-- The command of an action, whose callback is bound to the upgrader. -/
def sendCommand (k : ℕ) (handled : Handled) : GeneralCommandHandler Client :=
  match handled.request with
  | none => s.handler
  | some request =>
    s.handler.beginSend handled.upgrader.handle request.cmdId (.upgrader k request.sender)

/-- A thread or a callback is through with `FsmEventHandler`. -/
def handle (k : ℕ) (slot : Slot) (handled : Handled) (thread : UpgradeThread) : UpgradeManager :=
  { s with handler := s.sendCommand k handled }.setSlot k
    { slot with upgrader := handled.upgrader, thread }

/-- The thread of an upgrader. -/
def run (k : ℕ) : Option UpgradeManager :=
  (s.upgraderVec[k]?).bind fun slot =>
    if slot.thread = .created then
      let handled := slot.upgrader.fsmEventHandler .requestUpgrade 10
      let calls := s.handler.calls.length
      let call := if calls < (s.sendCommand k handled).calls.length then some calls else none
      some (s.handle k slot handled (.ran call))
    else none

/-- The body of an invoked callback. -/
def deliver (j : ℕ) : Option UpgradeManager :=
  (s.invoked[j]?).bind fun cb =>
    let s := { s with invoked := s.invoked.eraseIdx j }
    match cb.command.cb with
    | .other => some s
    | .upgrader k f =>
      (s.upgraderVec[k]?).bind fun slot =>
        if slot.destroyed = false then
          some (s.handle k slot
            (slot.upgrader.responseHandler f cb.status (responseOf cb.data)) slot.thread)
        else none

/-- The event is not the `SendCommand` of an upgrader, which only `run` and
`deliver` make. -/
def isForeign : Event Client → Bool
  | .begin _ _ cb => cb = .other
  | .config _ _ _ cb => cb = .other
  | _ => true

/-- A step of the command handler. -/
def net (e : Event Client) : Option UpgradeManager :=
  if isForeign e then
    (s.handler.step crc e).map fun handler =>
      { s with
        handler
        invoked := s.invoked ++ handler.callbacks.drop s.handler.callbacks.length }
  else none

/-- A step, when it can be taken. -/
def step : ManagerEvent → Option UpgradeManager
  | .build => s.build
  | .start => s.start
  | .poll => s.poll
  | .join => s.join
  | .run k => s.run k
  | .deliver j => s.deliver j
  | .net e => s.net crc e

/-- A call is pending: it has not returned, its command is in the table, or the
body of its callback has not run. -/
def Pending (i : ℕ) (c : SendCall Client) : Prop :=
  c.pc ≠ .returned ∨ s.handler.entryOf i ≠ none ∨ statusesOf s.invoked i ≠ []

/-! ### What a step can do -/

/-- The callbacks left behind a step of a thread or a callback. -/
def invokedBehind : ManagerEvent → List (Callback Client)
  | .deliver j => s.invoked.eraseIdx j
  | _ => s.invoked

/-- The calls of `FsmEventHandler`, with what they do to the thread. -/
inductive Handling (k : ℕ) (slot : Slot) : ManagerEvent → Handled → UpgradeThread → Prop
  | run (hthread : slot.thread = .created) (call : Option ℕ) :
      Handling k slot (.run k) (slot.upgrader.fsmEventHandler .requestUpgrade 10) (.ran call)
  | deliver {j : ℕ} {cb : Callback Client} {f : FnFsmEvent} (hcb : s.invoked[j]? = some cb)
      (hbound : cb.command.cb = .upgrader k f) (hlive : slot.destroyed = false) :
      Handling k slot (.deliver j) (slot.upgrader.responseHandler f cb.status (responseOf cb.data))
        slot.thread

/-- The steps with the states behind them. -/
inductive Moves : ManagerEvent → UpgradeManager → Prop
  | build {handle : UInt32} {handles : List UInt32} (hpc : s.pc = .building) :
      Moves .build { s with
        handles
        upgraderVec := s.upgraderVec ++ [⟨.create s.livoxLidarFirmware handle, .none, false⟩] }
  | built (hpc : s.pc = .building) : Moves .build { s with pc := .starting 0 }
  | start {k : ℕ} {slot : Slot} (hpc : s.pc = .starting k) (hk : s.upgraderVec[k]? = some slot) :
      Moves .start ({ s with pc := .starting (k + 1) }.setSlot k { slot with thread := .created })
  | started {k : ℕ} (hpc : s.pc = .starting k) (hk : s.upgraderVec[k]? = none) :
      Moves .start { s with pc := .polling 0 }
  | poll {k : ℕ} {slot : Slot} (hpc : s.pc = .polling k) (hk : s.upgraderVec[k]? = some slot)
      (hend : slot.upgrader.isUpgradeError = true ∨ slot.upgrader.isUpgradeComplete = true) :
      Moves .poll { s with pc := .joining k }
  | spin : Moves .poll s
  | join {k : ℕ} {slot : Slot} {call : Option ℕ} (hpc : s.pc = .joining k)
      (hk : s.upgraderVec[k]? = some slot) (hthread : slot.thread = .ran call) :
      Moves .join ({ s with pc := .polling (k + 1) }.setSlot k { slot with destroyed := true })
  | handle {e : ManagerEvent} {k : ℕ} {slot : Slot} {handled : Handled} {thread : UpgradeThread}
      (hk : s.upgraderVec[k]? = some slot) (h : s.Handling k slot e handled thread) :
      Moves e ({ s with invoked := s.invokedBehind e }.handle k slot handled thread)
  | drop {j : ℕ} {cb : Callback Client} (hcb : s.invoked[j]? = some cb)
      (hother : cb.command.cb = .other) : Moves (.deliver j) { s with invoked := s.invoked.eraseIdx j }
  | net {e : Event Client} {handler : GeneralCommandHandler Client} (hforeign : isForeign e = true)
      (hstep : s.handler.step crc e = some handler) :
      Moves (.net e) { s with
        handler
        invoked := s.invoked ++ handler.callbacks.drop s.handler.callbacks.length }

variable {crc s} {s' : UpgradeManager} {e : ManagerEvent} {i k : ℕ} {c : SendCall Client}
  {slot : Slot} {f : FnFsmEvent}

/-- Every step is one of them. -/
theorem step_moves (hstep : s.step crc e = some s') : Moves crc s e s' := by
  cases e with
  | build =>
    change s.build = some s' at hstep
    unfold build at hstep
    split at hstep
    · rename_i hpc
      split at hstep
      · cases hstep
        exact .built hpc
      · cases hstep
        exact .build hpc
    · cases hstep
  | start =>
    change s.start = some s' at hstep
    unfold start at hstep
    split at hstep
    · rename_i k hpc
      split at hstep
      · rename_i hk
        cases hstep
        exact .started hpc hk
      · rename_i slot hk
        cases hstep
        exact .start hpc hk
    · cases hstep
  | poll =>
    change s.poll = some s' at hstep
    unfold poll at hstep
    split at hstep
    · rename_i k hpc
      obtain ⟨slot, hk, rfl⟩ := Option.map_eq_some_iff.mp hstep
      split
      · rename_i hend
        exact .poll hpc hk (by simpa using hend)
      · exact .spin
    · cases hstep
  | join =>
    change s.join = some s' at hstep
    unfold join at hstep
    split at hstep
    · rename_i k hpc
      obtain ⟨slot, hk, hslot⟩ := Option.bind_eq_some_iff.mp hstep
      split at hslot
      · rename_i call hthread
        split at hslot
        · cases hslot
          exact .join hpc hk hthread
        · cases hslot
      · cases hslot
    · cases hstep
  | run k =>
    change s.run k = some s' at hstep
    unfold run at hstep
    obtain ⟨slot, hk, hslot⟩ := Option.bind_eq_some_iff.mp hstep
    split at hslot
    · rename_i hthread
      cases hslot
      exact .handle hk (.run hthread _)
    · cases hslot
  | deliver j =>
    change s.deliver j = some s' at hstep
    unfold deliver at hstep
    obtain ⟨cb, hcb, hbody⟩ := Option.bind_eq_some_iff.mp hstep
    simp only at hbody
    split at hbody
    · rename_i hother
      cases hbody
      exact .drop hcb hother
    · rename_i k f hbound
      obtain ⟨slot, hk, hslot⟩ := Option.bind_eq_some_iff.mp hbody
      split at hslot
      · rename_i hlive
        cases hslot
        exact .handle hk (.deliver hcb hbound hlive)
      · cases hslot
  | net e =>
    change s.net crc e = some s' at hstep
    unfold net at hstep
    split at hstep
    · rename_i hforeign
      obtain ⟨handler, hhandler, rfl⟩ := Option.map_eq_some_iff.mp hstep
      exact .net hforeign hhandler
    · cases hstep

/-! ### What a step does to an upgrader -/

/-- What a step does to an upgrader of the vector. -/
inductive SlotStep (s : UpgradeManager) (k : ℕ) (slot : Slot) : ManagerEvent → Slot → Prop
  | same {e : ManagerEvent} (hquiet : ∀ handled thread, ¬ s.Handling k slot e handled thread) :
      SlotStep s k slot e slot
  | created (hpc : s.pc = .starting k) : SlotStep s k slot .start { slot with thread := .created }
  | handled {e : ManagerEvent} {handled : Handled} {thread : UpgradeThread}
      (h : s.Handling k slot e handled thread) :
      SlotStep s k slot e { slot with upgrader := handled.upgrader, thread }
  | destroyed (hpc : s.pc = .joining k) (hrun : slot.thread.hasRun = true) :
      SlotStep s k slot .join { slot with destroyed := true }

theorem getElem?_setSlot {slot' : Slot} (j : ℕ) (hk : s.upgraderVec[k]? = some slot) :
    (s.setSlot k slot').upgraderVec[j]? = if k = j then some slot' else s.upgraderVec[j]? := by
  have hlt : k < s.upgraderVec.length := (List.getElem?_eq_some_iff.mp hk).1
  unfold setSlot
  rw [List.getElem?_set]
  simp [hlt]

/-- One step handles one upgrader. -/
theorem Handling.index {k' : ℕ} {slot' : Slot} {handled handled' : Handled}
    {thread thread' : UpgradeThread} (h : s.Handling k slot e handled thread)
    (h' : s.Handling k' slot' e handled' thread') : k' = k := by
  cases h with
  | run =>
    cases h'
    rfl
  | deliver hcb hbound =>
    cases h' with
    | deliver hcb' hbound' =>
      cases hcb.symm.trans hcb'
      cases hbound.symm.trans hbound'
      rfl

theorem Handling.unique {handled handled' : Handled} {thread thread' : UpgradeThread}
    (h : s.Handling k slot e handled thread) (h' : s.Handling k slot e handled' thread') :
    handled' = handled := by
  cases h with
  | run =>
    cases h'
    rfl
  | deliver hcb hbound =>
    cases h' with
    | deliver hcb' hbound' =>
      cases hcb.symm.trans hcb'
      cases hbound.symm.trans hbound'
      rfl

/-- What it does to the command handler and the invoked callbacks. -/
theorem Handling.moves {handled : Handled} {thread : UpgradeThread}
    (h : s.Handling k slot e handled thread) (hk : s.upgraderVec[k]? = some slot)
    (hstep : s.step crc e = some s') :
    s'.handler = s.sendCommand k handled ∧ s'.invoked = s.invokedBehind e := by
  cases step_moves hstep with
  | build | built | start | started | poll | spin | join | net => cases h
  | handle hk₀ h₀ =>
    obtain rfl := h₀.index h
    cases hk.symm.trans hk₀
    rw [h₀.unique h]
    exact ⟨rfl, rfl⟩
  | drop hcb hother =>
    cases h with
    | deliver hcb' hbound =>
      cases hcb.symm.trans hcb'
      cases hother.symm.trans hbound

/-- Every step, seen from an upgrader. -/
theorem step_slot (hk : s.upgraderVec[k]? = some slot) (hstep : s.step crc e = some s') :
    ∃ slot', s'.upgraderVec[k]? = some slot' ∧ SlotStep s k slot e slot' := by
  have hset : ∀ (t : UpgradeManager) (k₀ : ℕ) (slot₀ slot₀' : Slot),
      t.upgraderVec = s.upgraderVec → s.upgraderVec[k₀]? = some slot₀ →
      (k₀ = k → slot₀ = slot → SlotStep s k slot e slot₀') →
      (k₀ ≠ k → ∀ handled thread, ¬ s.Handling k slot e handled thread) →
      ∃ slot', (t.setSlot k₀ slot₀').upgraderVec[k]? = some slot' ∧ SlotStep s k slot e slot' := by
    intro t k₀ slot₀ slot₀' hvec hk₀ hown hother
    rw [getElem?_setSlot k (hvec ▸ hk₀), hvec]
    split
    · rename_i heq
      subst heq
      cases hk.symm.trans hk₀
      exact ⟨_, rfl, hown rfl rfl⟩
    · rename_i hne
      exact ⟨slot, hk, .same (hother hne)⟩
  cases step_moves hstep with
  | build hpc =>
    refine ⟨slot, ?_, .same fun _ _ => nofun⟩
    exact (List.getElem?_append_left (List.getElem?_eq_some_iff.mp hk).1).trans hk
  | built | started | poll | spin => exact ⟨slot, hk, .same fun _ _ => nofun⟩
  | start hpc hk₀ =>
    refine hset _ _ _ _ rfl hk₀ (fun heq hslot => ?_) fun _ _ _ => nofun
    subst heq hslot
    exact .created hpc
  | join hpc hk₀ hthread =>
    refine hset _ _ _ _ rfl hk₀ (fun heq hslot => ?_) fun _ _ _ => nofun
    subst heq hslot
    exact .destroyed hpc (by rw [hthread]; rfl)
  | handle hk₀ h =>
    refine hset _ _ _ _ rfl hk₀ (fun heq hslot => ?_) fun hne _ _ h' => hne (h'.index h)
    subst heq hslot
    exact .handled h
  | drop hcb hother =>
    refine ⟨slot, hk, .same fun _ _ h => ?_⟩
    cases h with
    | deliver hcb' hbound =>
      cases hcb.symm.trans hcb'
      cases hother.symm.trans hbound
  | net => exact ⟨slot, hk, .same fun _ _ => nofun⟩

/-- The upgrader behind a call of `FsmEventHandler`. -/
theorem step_handled {handled : Handled} {thread : UpgradeThread}
    (hk : s.upgraderVec[k]? = some slot) (h : s.Handling k slot e handled thread)
    (hstep : s.step crc e = some s') : ∃ thread', s'.upgraderVec[k]? =
      some { slot with upgrader := handled.upgrader, thread := thread' } ∧
        s.Handling k slot e handled thread' := by
  obtain ⟨slot', hk', hslot⟩ := step_slot hk hstep
  cases hslot with
  | same hquiet => exact absurd h (hquiet handled thread)
  | created | destroyed => cases h
  | handled h' => exact ⟨_, h.unique h' ▸ hk', h.unique h' ▸ h'⟩

/-- An upgrader that a step puts into the vector. -/
theorem step_newSlot {slot' : Slot} (hnone : s.upgraderVec[k]? = none)
    (hstep : s.step crc e = some s') (hk' : s'.upgraderVec[k]? = some slot') :
    slot'.upgrader.fsmState = .idle ∧ slot'.thread = .none ∧ slot'.destroyed = false := by
  have hold : ∀ (t : UpgradeManager) (k₀ : ℕ) (slot₀ slot₀' : Slot),
      t.upgraderVec = s.upgraderVec → s.upgraderVec[k₀]? = some slot₀ →
      (t.setSlot k₀ slot₀').upgraderVec[k]? = none := by
    intro t k₀ slot₀ slot₀' hvec hk₀
    rw [getElem?_setSlot k (hvec ▸ hk₀), hvec, if_neg, hnone]
    rintro rfl
    cases hnone.symm.trans hk₀
  cases step_moves hstep with
  | build hpc =>
    rw [List.getElem?_append_right (List.getElem?_eq_none_iff.mp hnone), List.getElem?_singleton] at hk'
    split at hk'
    · cases hk'
      exact ⟨rfl, rfl, rfl⟩
    · cases hk'
  | built | started | poll | spin | drop | net => cases hnone.symm.trans hk'
  | start hpc hk₀ => cases (hold _ _ _ _ rfl hk₀).symm.trans hk'
  | join hpc hk₀ => cases (hold _ _ _ _ rfl hk₀).symm.trans hk'
  | handle hk₀ => cases (hold _ _ _ _ rfl hk₀).symm.trans hk'

/-- Where an upgrader behind a step comes from. -/
theorem slot_cases {slot' : Slot} (hstep : s.step crc e = some s')
    (hk' : s'.upgraderVec[k]? = some slot') :
    slot'.upgrader.fsmState = .idle ∧ slot'.thread = .none ∧ slot'.destroyed = false ∨
      ∃ slot, s.upgraderVec[k]? = some slot ∧ SlotStep s k slot e slot' := by
  cases hk : s.upgraderVec[k]? with
  | none => exact .inl (step_newSlot hk hstep hk')
  | some slot =>
    obtain ⟨slot'', hk'', hslot⟩ := step_slot hk hstep
    obtain rfl := Option.some.inj (hk'.symm.trans hk'')
    exact .inr ⟨slot, rfl, hslot⟩

/-! ### What a step does to a call -/

/-- The invoked callbacks behind the body of one. -/
theorem statusesOf_eraseIdx {l : List (Callback Client)} {j : ℕ} {cb : Callback Client}
    (hcb : l[j]? = some cb) (i : ℕ) : (statusesOf l i).length =
      (statusesOf (l.eraseIdx j) i).length + if cb.command.id = i then 1 else 0 := by
  obtain ⟨hj, rfl⟩ := List.getElem?_eq_some_iff.mp hcb
  have hsplit : l = l.take j ++ [l[j]] ++ l.drop (j + 1) := by simp
  have herase : l.eraseIdx j = l.take j ++ l.drop (j + 1) := List.eraseIdx_eq_take_drop_succ l j
  have hlength := congrArg (fun l => (statusesOf l i).length) hsplit
  simp only [statusesOf_append, statusesOf_singleton, List.length_append] at hlength
  rw [hlength, herase, statusesOf_append, List.length_append]
  split
  · rw [List.length_singleton]
    omega
  · rw [List.length_nil]
    omega

/-- What a step does to a call: the call, its entry and the statuses its
callback was invoked with behind it. -/
inductive CallMove (crc : FastCRC) (s : UpgradeManager) (i : ℕ) (c : SendCall Client) :
    ManagerEvent → SendCall Client → Option (Entry Client) → List Status → Prop
  | net {e : Event Client} {c' : SendCall Client} {entry' : Option (Entry Client)}
      {new : List Status} (h : CallStep crc s.handler i c (s.handler.entryOf i) e c' entry' new) :
      CallMove crc s i c (.net e) c' entry' (statusesOf s.invoked i ++ new)
  | deliver {j : ℕ} {cb : Callback Client} (hcb : s.invoked[j]? = some cb) :
      CallMove crc s i c (.deliver j) c (s.handler.entryOf i) (statusesOf (s.invoked.eraseIdx j) i)
  | same {e : ManagerEvent} (hdeliver : ∀ j, e ≠ .deliver j) (hnet : ∀ ev, e ≠ .net ev) :
      CallMove crc s i c e c (s.handler.entryOf i) (statusesOf s.invoked i)

/-- A step keeps the command and the route of a call. -/
theorem CallMove.command {c' : SendCall Client} {entry' : Option (Entry Client)}
    {statuses : List Status} (h : CallMove crc s i c e c' entry' statuses) :
    c'.command = c.command ∧ c'.route = c.route := by
  cases h with
  | net h => exact h.command
  | deliver | same => exact ⟨rfl, rfl⟩

/-- The `SendCommand` of an upgrader does nothing to the other calls. -/
theorem sendCommand_oldCall (k : ℕ) (handled : Handled) (hc : s.handler.calls[i]? = some c) :
    (s.sendCommand k handled).calls[i]? = some c ∧
      (s.sendCommand k handled).entryOf i = s.handler.entryOf i := by
  unfold sendCommand
  split
  · exact ⟨hc, rfl⟩
  · exact beginSend_oldCall _ _ _ hc

/-- Every step, seen from a call. -/
theorem step_oldCall (hv : Valid s.handler) (hc : s.handler.calls[i]? = some c)
    (hstep : s.step crc e = some s') : ∃ c', s'.handler.calls[i]? = some c' ∧
      CallMove crc s i c e c' (s'.handler.entryOf i) (statusesOf s'.invoked i) := by
  cases step_moves hstep with
  | build | built | start | started | poll | spin | join =>
    exact ⟨c, hc, .same nofun nofun⟩
  | handle hk h =>
    rename_i k slot handled thread
    obtain ⟨hc', hentry⟩ := sendCommand_oldCall k handled hc
    refine ⟨c, hc', ?_⟩
    change CallMove crc s i c e c ((s.sendCommand k handled).entryOf i) _
    rw [hentry]
    cases h with
    | run => exact .same nofun nofun
    | deliver hcb => exact .deliver hcb
  | drop hcb => exact ⟨c, hc, .deliver hcb⟩
  | net _ hnet =>
    obtain ⟨c', new, hc', hcallbacks, hcall⟩ := step_call hv hc hnet
    refine ⟨c', hc', ?_⟩
    rw [hcallbacks, List.drop_left, statusesOf_append]
    exact .net hcall

/-- Where a call behind a step comes from. -/
theorem call_cases {c' : SendCall Client} (hv : Valid s.handler) (hstep : s.step crc e = some s')
    (hc' : s'.handler.calls[i]? = some c') :
    s.handler.calls[i]? = none ∨ ∃ c, s.handler.calls[i]? = some c ∧
      CallMove crc s i c e c' (s'.handler.entryOf i) (statusesOf s'.invoked i) := by
  cases hc : s.handler.calls[i]? with
  | none => exact .inl rfl
  | some c =>
    obtain ⟨c'', hc'', hmove⟩ := step_oldCall hv hc hstep
    obtain rfl := Option.some.inj (hc'.symm.trans hc'')
    exact .inr ⟨c, rfl, hmove⟩

/-- A call of an upgrader is made where its `FsmEventHandler` is called. -/
theorem step_newCall (hnone : s.handler.calls[i]? = none) (hstep : s.step crc e = some s')
    (hc : s'.handler.calls[i]? = some c) (hcb : c.command.cb = .upgrader k f) :
    i = s.handler.calls.length ∧ c.route = .general ∧ c.pc ≠ .returned ∧
      ∃ slot handled thread request, s.upgraderVec[k]? = some slot ∧
        s.Handling k slot e handled thread ∧ handled.request = some request ∧ request.sender = f := by
  cases step_moves hstep with
  | build | built | start | started | poll | spin | join | drop => cases hnone.symm.trans hc
  | handle hk h =>
    rename_i k₀ slot handled thread
    have hc' : (s.sendCommand k₀ handled).calls[i]? = some c := hc
    unfold sendCommand at hc'
    split at hc'
    · cases hnone.symm.trans hc'
    · rename_i request hrequest
      obtain ⟨hi, hroute, hpc, -⟩ := step_new (step_begin FastCRC.standard _ _ _ _) hnone hc'
      have hpc' : c.pc ≠ .returned := by rcases hpc with hpc | hpc <;> simp [hpc]
      rcases hroute with ⟨⟨_, _, hev⟩, hroute⟩ | ⟨⟨_, _, _, hev⟩, -⟩
      · obtain ⟨-, -, hcb'⟩ := Event.begin.inj hev
        obtain ⟨rfl, rfl⟩ := Client.upgrader.inj (hcb'.trans hcb)
        exact ⟨hi, hroute, hpc', slot, handled, thread, request, hk, h, hrequest, rfl⟩
      · cases hev
  | net hforeign hnet =>
    obtain ⟨-, hev, -⟩ := step_new hnet hnone hc
    rcases hev with ⟨⟨handle, cmdId, rfl⟩, -⟩ | ⟨⟨devType, handle, cmdId, rfl⟩, -⟩
    · unfold isForeign at hforeign
      rw [hcb] at hforeign
      cases hforeign
    · unfold isForeign at hforeign
      rw [hcb] at hforeign
      cases hforeign

/-- A command is sent to a lidar that has a command handler. -/
theorem step_sent {handled : Handled} {thread : UpgradeThread} {request : Request}
    (hk : s.upgraderVec[k]? = some slot) (h : s.Handling k slot e handled thread)
    (hstep : s.step crc e = some s') (hrequest : handled.request = some request)
    (hhandler : s.handler.getLidarCommandHandler handled.upgrader.handle ≠ none) :
    ∃ (i : ℕ) (c : SendCall Client), s'.handler.calls[i]? = some c ∧
      c.command.cb = .upgrader k request.sender ∧ c.pc ≠ .returned := by
  obtain ⟨devType, hdevType⟩ := Option.ne_none_iff_exists'.mp hhandler
  have hsent : s'.handler = s.handler.newCall .general devType handled.upgrader.handle request.cmdId
      (.upgrader k request.sender) := by
    rw [(h.moves hk hstep).1]
    unfold sendCommand beginSend
    simp only [hrequest, hdevType]
  have hpc : firstPc .general devType ≠ .returned := by
    unfold firstPc
    split <;> exact nofun
  rw [hsent, newCall_calls]
  exact ⟨s.handler.calls.length, _, List.getElem?_concat_length, rfl, hpc⟩

/-! ### The order of the steps -/

/-- The second loop has not started an upgrader. -/
def Unstarted (s : UpgradeManager) (k : ℕ) : Prop :=
  s.pc = .building ∨ ∃ m, s.pc = .starting m ∧ m ≤ k

theorem step_unstarted (hstep : s.step crc e = some s') (h : s'.Unstarted k) :
    s.Unstarted k ∧ (e = .start → s.pc ≠ .starting k) := by
  cases step_moves hstep with
  | build | drop | net | spin => exact ⟨h, nofun⟩
  | handle _ hh => exact ⟨h, fun he => by subst he; cases hh⟩
  | built hpc => exact ⟨.inl hpc, nofun⟩
  | start hpc =>
    rename_i m _ _
    rcases h with h | ⟨m', hm', hle⟩
    · cases h
    · obtain rfl : m + 1 = m' := ManagerPc.starting.inj hm'
      refine ⟨.inr ⟨m, hpc, by omega⟩, fun _ hk => ?_⟩
      obtain rfl := ManagerPc.starting.inj (hpc.symm.trans hk)
      omega
  | started | poll | join => rcases h with h | ⟨_, h, -⟩ <;> cases h

/-- What holds of the upgraders and their commands in every run: a command is
sent by a thread that ran, or later. -/
structure Base (s : UpgradeManager) : Prop where
  valid : Valid s.handler
  invoked : ∀ cb ∈ s.invoked, ∃ c, s.handler.calls[cb.command.id]? = some c ∧ c.command = cb.command
  bound : ∀ (i : ℕ) (c : SendCall Client) (k : ℕ) (f : FnFsmEvent), s.handler.calls[i]? = some c →
    c.command.cb = .upgrader k f →
      c.route = .general ∧ ∃ slot, s.upgraderVec[k]? = some slot ∧ slot.thread.hasRun = true
  unstarted : ∀ (k : ℕ) (slot : Slot), s.upgraderVec[k]? = some slot → s.Unstarted k →
    slot.thread = .none
  fresh : ∀ (k : ℕ) (slot : Slot), s.upgraderVec[k]? = some slot → slot.thread.hasRun = false →
    slot.upgrader.fsmState = .idle ∧ slot.destroyed = false

theorem base_init (isView : Bool) (firmware : Firmware) (handles : List UInt32) :
    Base (init isView firmware handles) where
  valid := valid_init isView
  invoked := by simp [init]
  bound := by simp [init, GeneralCommandHandler.init]
  unstarted := by simp [init]
  fresh := by simp [init]

/-- The call of an invoked callback. -/
theorem Base.invoked_call (h : Base s) {j : ℕ} {cb : Callback Client} (hcb : s.invoked[j]? = some cb)
    (hbound : cb.command.cb = .upgrader k f) :
    ∃ c, s.handler.calls[cb.command.id]? = some c ∧ c.command.cb = .upgrader k f ∧
      statusesOf s.invoked cb.command.id ≠ [] := by
  obtain ⟨c, hc, hcmd⟩ := h.invoked cb (List.mem_of_getElem? hcb)
  refine ⟨c, hc, by rw [hcmd, hbound], fun hnil => ?_⟩
  have hlength := statusesOf_eraseIdx hcb cb.command.id
  rw [if_pos rfl, hnil, List.length_nil] at hlength
  omega

/-- What is not a call yet has no invoked callback. -/
theorem Base.statusesOf_eq_nil (h : Base s) (hnone : s.handler.calls[i]? = none) :
    statusesOf (s.invokedBehind e) i = [] := by
  have hsub : ∀ cb ∈ s.invokedBehind e, cb ∈ s.invoked := by
    intro cb hcb
    cases e with
    | deliver => exact List.mem_of_mem_eraseIdx hcb
    | build | start | poll | join | run | net => exact hcb
  unfold statusesOf
  rw [List.map_eq_nil_iff, List.filter_eq_nil_iff]
  intro cb hcb hid
  obtain ⟨c, hc, -⟩ := h.invoked cb (hsub cb hcb)
  rw [of_decide_eq_true hid, hnone] at hc
  cases hc

/-- A thread that called `FsmEventHandler` has run, and an upgrader whose
callback is invoked has such a thread. -/
theorem Base.handling_hasRun (h : Base s) {handled : Handled} {thread : UpgradeThread}
    (hk : s.upgraderVec[k]? = some slot) (hh : s.Handling k slot e handled thread) :
    thread.hasRun = true := by
  cases hh with
  | run => rfl
  | deliver hcb hbound =>
    obtain ⟨c, hc, hcb', -⟩ := h.invoked_call hcb hbound
    obtain ⟨-, slot', hk', hrun⟩ := h.bound _ c _ _ hc hcb'
    obtain rfl := Option.some.inj (hk.symm.trans hk')
    exact hrun

/-- A thread that ran has run for good. -/
theorem Base.hasRun_step (h : Base s) (hk : s.upgraderVec[k]? = some slot)
    (hrun : slot.thread.hasRun = true) (hstep : s.step crc e = some s') :
    ∃ slot', s'.upgraderVec[k]? = some slot' ∧ slot'.thread.hasRun = true := by
  obtain ⟨slot', hk', hslot⟩ := step_slot hk hstep
  refine ⟨slot', hk', ?_⟩
  cases hslot with
  | same | destroyed => exact hrun
  | created hpc =>
    rw [h.unstarted k slot hk (.inr ⟨k, hpc, le_rfl⟩)] at hrun
    cases hrun
  | handled hh => exact h.handling_hasRun hk hh

theorem Base.valid_step (h : Base s) (hstep : s.step crc e = some s') : Valid s'.handler := by
  cases step_moves hstep with
  | build | built | start | started | poll | spin | join | drop => exact h.valid
  | handle hk hh =>
    rename_i k slot handled thread
    change Valid (s.sendCommand k handled)
    unfold sendCommand
    split
    · exact h.valid
    · exact h.valid.step (step_begin FastCRC.standard _ _ _ _)
  | net _ hnet => exact h.valid.step hnet

theorem Base.invoked_step (h : Base s) (hstep : s.step crc e = some s') {cb : Callback Client}
    (hcb : cb ∈ s'.invoked) :
    ∃ c, s'.handler.calls[cb.command.id]? = some c ∧ c.command = cb.command := by
  have hold : cb ∈ s.invoked →
      ∃ c, s'.handler.calls[cb.command.id]? = some c ∧ c.command = cb.command := by
    intro hmem
    obtain ⟨c, hc, hcmd⟩ := h.invoked cb hmem
    obtain ⟨c', hc', hmove⟩ := step_oldCall h.valid hc hstep
    exact ⟨c', hc', hmove.command.1.trans hcmd⟩
  have hvalid := h.valid_step hstep
  cases step_moves hstep with
  | build | built | start | started | poll | spin | join => exact hold hcb
  | handle hk hh =>
    cases hh with
    | run => exact hold hcb
    | deliver => exact hold (List.mem_of_mem_eraseIdx hcb)
  | drop => exact hold (List.mem_of_mem_eraseIdx hcb)
  | net _ hnet =>
    rcases List.mem_append.mp hcb with hcb | hcb
    · exact hold hcb
    · exact hvalid.callback cb (List.mem_of_mem_drop hcb)

theorem Base.bound_step (h : Base s) (hstep : s.step crc e = some s') {c' : SendCall Client}
    (hc' : s'.handler.calls[i]? = some c') (hcb : c'.command.cb = .upgrader k f) :
    c'.route = .general ∧
      ∃ slot', s'.upgraderVec[k]? = some slot' ∧ slot'.thread.hasRun = true := by
  rcases call_cases h.valid hstep hc' with hc | ⟨c, hc, hmove⟩
  · obtain ⟨-, hroute, -, slot, handled, thread, request, hk, hh, -⟩ :=
      step_newCall hc hstep hc' hcb
    obtain ⟨thread', hk', hh'⟩ := step_handled hk hh hstep
    exact ⟨hroute, _, hk', h.handling_hasRun hk hh'⟩
  · obtain ⟨hcmd, hroute⟩ := hmove.command
    obtain ⟨hgeneral, slot, hk, hrun⟩ := h.bound i c k f hc (by rw [← hcmd, hcb])
    exact ⟨hroute.trans hgeneral, h.hasRun_step hk hrun hstep⟩

theorem Base.unstarted_step (h : Base s) (hstep : s.step crc e = some s') {slot' : Slot}
    (hk' : s'.upgraderVec[k]? = some slot') (hun' : s'.Unstarted k) : slot'.thread = .none := by
  obtain ⟨hun, hnot⟩ := step_unstarted hstep hun'
  rcases slot_cases hstep hk' with ⟨-, hnone, -⟩ | ⟨slot, hk, hslot⟩
  · exact hnone
  · have hnone := h.unstarted k slot hk hun
    cases hslot with
    | same | destroyed => exact hnone
    | created hpc => exact absurd hpc (hnot rfl)
    | handled hh =>
      cases hh with
      | run hthread => cases hnone.symm.trans hthread
      | deliver => exact hnone

theorem Base.fresh_step (h : Base s) (hstep : s.step crc e = some s') {slot' : Slot}
    (hk' : s'.upgraderVec[k]? = some slot') (hrun : slot'.thread.hasRun = false) :
    slot'.upgrader.fsmState = .idle ∧ slot'.destroyed = false := by
  rcases slot_cases hstep hk' with ⟨hidle, -, hlive⟩ | ⟨slot, hk, hslot⟩
  · exact ⟨hidle, hlive⟩
  · cases hslot with
    | same => exact h.fresh k _ hk hrun
    | created hpc =>
      have hnone := h.unstarted k slot hk (.inr ⟨k, hpc, le_rfl⟩)
      exact h.fresh k slot hk (by rw [hnone]; rfl)
    | handled hh => cases hrun.symm.trans (h.handling_hasRun hk hh)
    | destroyed _ hrun' => cases hrun.symm.trans hrun'

/-- Every step keeps it. -/
theorem Base.step (h : Base s) (hstep : s.step crc e = some s') : Base s' where
  valid := h.valid_step hstep
  invoked _ hcb := h.invoked_step hstep hcb
  bound _ _ _ _ hc hcb := h.bound_step hstep hc hcb
  unstarted _ _ hk hun := h.unstarted_step hstep hk hun
  fresh _ _ hk hrun := h.fresh_step hstep hk hrun

end UpgradeManager

end Livox
end SensorSupport
