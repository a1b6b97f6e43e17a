/-
# The lifetime of an upgrader

The destructor of an upgrader may return when nothing moves the upgrader any
more. `Idle` is the state behind an upgrade and also the one before it, so the
destructor takes an upgrade whose thread has not run for a complete one. And
an upgrader whose commands are called back twice is over with commands
pending. Where neither happens, the upgrade is over when the destructor
returns, and no command is left that knows the upgrader.

Key definitions: `Completed`, `LifetimeOk`, `Lifetime`.
Key theorems: `UpgradeManager.lifetime`.
-/
import SensorSupport.Livox.UpgradeManager

namespace SensorSupport
namespace Livox
namespace UpgradeManager

open GeneralCommandHandler LivoxLidarUpgrader

variable {crc : FastCRC} {s s' : UpgradeManager} {e : ManagerEvent} {i k : ℕ} {c : SendCall Client}
  {slot : Slot} {f : FnFsmEvent} {tr : List (UpgradeManager × ManagerEvent)}

/-! ### What is promised -/

/-- The thread of an upgrader ran. -/
def Ran (k : ℕ) (tr : List (UpgradeManager × ManagerEvent)) : Prop :=
  Occurs (fun _ x => x.2 = .run k) tr

/-- The step is the response to the command of the complete step. -/
def CompletesUpgrade (k : ℕ) (x : UpgradeManager × ManagerEvent) : Prop :=
  ∃ j cb slot, x.2 = .deliver j ∧ x.1.invoked[j]? = some cb ∧
    cb.command.cb = .upgrader k .upgradeComplete ∧ x.1.upgraderVec[k]? = some slot ∧
      slot.upgrader.fsmState = .complete

/-- The thread ran, and then the upgrade went through its complete step. -/
def Completed (k : ℕ) (tr : List (UpgradeManager × ManagerEvent)) : Prop :=
  Occurs (fun before x => Ran k before ∧ CompletesUpgrade k x) tr

/-- An upgrader whose destructor returned is in error or completed its upgrade,
and is the `client_data` of no pending command. -/
def Lifetime (tr : List (UpgradeManager × ManagerEvent)) (s : UpgradeManager) : Prop :=
  ∀ (k : ℕ) (slot : Slot), s.upgraderVec[k]? = some slot → slot.destroyed = true →
    (slot.upgrader.isUpgradeError = true ∨
      slot.upgrader.isUpgradeComplete = true ∧ Completed k tr) ∧
    ∀ (i : ℕ) (c : SendCall Client) (f : FnFsmEvent), s.handler.calls[i]? = some c →
      c.command.cb = .upgrader k f → ¬ s.Pending i c

/-- The condition on a step: a destructor polls when the thread has run, the
sends of upgraders' commands succeed, and an ack or a tick takes no command of
an upgrader whose `SendCommand` has not returned. -/
def LifetimeOk (crc : FastCRC) (s : UpgradeManager) : ManagerEvent → Prop
  | .poll => ∀ k slot, s.pc = .polling k → s.upgraderVec[k]? = some slot → slot.thread.hasRun = true
  | .net (.send i ok) => ∀ c k f, s.handler.calls[i]? = some c → c.command.cb = .upgrader k f →
      ok = true
  | .net (.receive d) => ∀ (i : ℕ) c k f entry packet, s.handler.calls[i]? = some c →
      c.command.cb = .upgrader k f → s.handler.entryOf i = some entry →
        s.handler.ackPacket crc d = some (c.command.seqNum, packet) → c.pc = .returned
  | .net (.tick now) => ∀ (i : ℕ) c k f entry, s.handler.calls[i]? = some c →
      c.command.cb = .upgrader k f → s.handler.entryOf i = some entry → entry.deadline < now →
        c.pc = .returned
  | _ => True

/-! ### The invariant -/

/-- A call that can still invoke its callback has not invoked it, and the body
of no callback runs twice. -/
def Once (c : SendCall Client) (entry : Option (Entry Client)) (statuses : List Status) : Prop :=
  statuses.length ≤ 1 ∧ (c.pc ≠ .returned ∨ entry ≠ none → statuses = [])

/-- The upgrade is over. -/
def Over (slot : Slot) : Prop :=
  slot.thread.hasRun = true ∧
    (slot.upgrader.isUpgradeError = true ∨ slot.upgrader.isUpgradeComplete = true)

/-- The invariant: an upgrader has at most one pending command, which is that
of its state. -/
structure LifetimeInv (tr : List (UpgradeManager × ManagerEvent)) (s : UpgradeManager) : Prop
    extends Base s where
  once : ∀ (i : ℕ) (c : SendCall Client) (k : ℕ) (f : FnFsmEvent), s.handler.calls[i]? = some c →
    c.command.cb = .upgrader k f → Once c (s.handler.entryOf i) (statusesOf s.invoked i)
  owner : ∀ (i : ℕ) (c : SendCall Client) (k : ℕ) (f : FnFsmEvent), s.handler.calls[i]? = some c →
    c.command.cb = .upgrader k f → s.Pending i c →
      ∃ slot, s.upgraderVec[k]? = some slot ∧ slot.upgrader.fsmState = f.state
  unique : ∀ (i j : ℕ) (c d : SendCall Client) (k : ℕ) (f g : FnFsmEvent),
    s.handler.calls[i]? = some c → s.handler.calls[j]? = some d → c.command.cb = .upgrader k f →
      d.command.cb = .upgrader k g → s.Pending i c → s.Pending j d → i = j
  ran : ∀ (k : ℕ) (slot : Slot), s.upgraderVec[k]? = some slot → slot.thread.hasRun = true → Ran k tr
  idle : ∀ (k : ℕ) (slot : Slot), s.upgraderVec[k]? = some slot → slot.thread.hasRun = true →
    slot.upgrader.fsmState = .idle → Completed k tr
  joining : ∀ k, s.pc = .joining k → ∃ slot, s.upgraderVec[k]? = some slot ∧ Over slot
  destroyed : ∀ (k : ℕ) (slot : Slot), s.upgraderVec[k]? = some slot → slot.destroyed = true →
    Over slot

theorem lifetimeInv_init (isView : Bool) (firmware : Firmware) (handles : List UInt32) :
    LifetimeInv [] (init isView firmware handles) where
  toBase := base_init isView firmware handles
  once := by simp [init, GeneralCommandHandler.init]
  owner := by simp [init, GeneralCommandHandler.init]
  unique := by simp [init, GeneralCommandHandler.init]
  ran := by simp [init]
  idle := by simp [init]
  joining := by simp [init]
  destroyed := by simp [init]

/-! ### Calls -/

/-- A call that is pending was pending. -/
theorem CallMove.of_pending {c' : SendCall Client} {entry' : Option (Entry Client)}
    {statuses : List Status} (h : CallMove crc s i c e c' entry' statuses)
    (hp : c'.pc ≠ .returned ∨ entry' ≠ none ∨ statuses ≠ []) : s.Pending i c := by
  unfold Pending
  cases h with
  | same => exact hp
  | deliver hcb =>
    refine hp.imp_right (Or.imp_right fun hne hnil => hne ?_)
    have hlength := statusesOf_eraseIdx hcb i
    rw [hnil, List.length_nil] at hlength
    exact List.length_eq_zero_iff.mp (by omega)
  | net hcall =>
    cases hcall with
    | same => simpa using hp
    | overwritten =>
      rcases hp with hp | hp | hp
      · exact .inl hp
      · exact absurd rfl hp
      · exact .inr (.inr (by simpa using hp))
    | register hpc | send hpc | add hpc =>
      left
      rw [hpc]
      exact nofun
    | complete he | expire he =>
      right
      left
      rw [he]
      exact nofun

/-- The body of a callback runs once. -/
theorem CallMove.once {c' : SendCall Client} {entry' : Option (Entry Client)}
    {statuses : List Status} (h : CallMove crc s i c e c' entry' statuses)
    (hok : s.LifetimeOk crc e) (hc : s.handler.calls[i]? = some c)
    (hcb : c.command.cb = .upgrader k f)
    (honce : Once c (s.handler.entryOf i) (statusesOf s.invoked i)) : Once c' entry' statuses := by
  obtain ⟨hlength, hopen⟩ := honce
  cases h with
  | same => exact ⟨hlength, hopen⟩
  | deliver hcb' =>
    have hless := statusesOf_eraseIdx hcb' i
    refine ⟨by omega, fun hp => ?_⟩
    rw [hopen hp, List.length_nil] at hless
    exact List.length_eq_zero_iff.mp (by omega)
  | net hcall =>
    cases hcall with
    | same =>
      rw [List.append_nil]
      exact ⟨hlength, hopen⟩
    | overwritten =>
      rw [List.append_nil]
      exact ⟨hlength, fun hp => hopen (hp.imp_right fun hne => absurd rfl hne)⟩
    | register hpc | add hpc =>
      rw [hopen (.inl (by rw [hpc]; exact nofun))]
      exact ⟨Nat.zero_le 1, fun _ => rfl⟩
    | send hpc =>
      rename_i ok
      obtain rfl : ok = true := hok c k f hc hcb
      rw [hopen (.inl (by rw [hpc]; exact nofun))]
      exact ⟨Nat.zero_le 1, fun _ => rfl⟩
    | complete he hack =>
      rw [hopen (.inr (by rw [he]; exact nofun))]
      refine ⟨le_rfl, fun hp => absurd (hok i c k f _ _ hc hcb he hack) ?_⟩
      exact hp.resolve_right fun hne => hne rfl
    | expire he hlt =>
      rw [hopen (.inr (by rw [he]; exact nofun))]
      refine ⟨le_rfl, fun hp => absurd (hok i c k f _ hc hcb he hlt) ?_⟩
      exact hp.resolve_right fun hne => hne rfl

/-- A call whose callback's body runs is over. -/
theorem CallMove.delivered {j : ℕ} {cb : Callback Client} {c' : SendCall Client}
    {entry' : Option (Entry Client)} {statuses : List Status}
    (h : CallMove crc s i c (.deliver j) c' entry' statuses) (hcb : s.invoked[j]? = some cb)
    (hid : cb.command.id = i) (honce : Once c (s.handler.entryOf i) (statusesOf s.invoked i)) :
    c'.pc = .returned ∧ entry' = none ∧ statuses = [] := by
  obtain ⟨hlength, hopen⟩ := honce
  have hless := statusesOf_eraseIdx hcb i
  rw [if_pos hid] at hless
  have hclosed : ¬ (c.pc ≠ .returned ∨ s.handler.entryOf i ≠ none) := by
    intro hp
    rw [hopen hp, List.length_nil] at hless
    omega
  rw [not_or, not_not, not_not] at hclosed
  cases h with
  | same hdeliver => exact absurd rfl (hdeliver j)
  | deliver => exact ⟨hclosed.1, hclosed.2, List.length_eq_zero_iff.mp (by omega)⟩

/-! ### Upgraders -/

theorem Over.state_ne (h : Over slot) (f : FnFsmEvent) : slot.upgrader.fsmState ≠ f.state := by
  intro hf
  have hne := f.state_ne
  obtain ⟨-, h⟩ := h
  simp only [isUpgradeError, isUpgradeComplete, hf, Bool.or_eq_true, decide_eq_true_eq] at h
  tauto

/-- The upgrader whose callback's body runs is in the state of its command. -/
theorem LifetimeInv.delivered (h : LifetimeInv tr s) {j : ℕ} {cb : Callback Client}
    (hk : s.upgraderVec[k]? = some slot) (hcb : s.invoked[j]? = some cb)
    (hbound : cb.command.cb = .upgrader k f) : slot.upgrader.fsmState = f.state := by
  obtain ⟨c, hc, hcb', hne⟩ := h.invoked_call hcb hbound
  obtain ⟨slot', hk', hstate⟩ := h.owner _ c k f hc hcb' (.inr (.inr hne))
  obtain rfl := Option.some.inj (hk.symm.trans hk')
  exact hstate

/-- Nobody moves an upgrader that is over. -/
theorem LifetimeInv.not_over (h : LifetimeInv tr s) {handled : Handled} {thread : UpgradeThread}
    (hk : s.upgraderVec[k]? = some slot) (hh : s.Handling k slot e handled thread) : ¬ Over slot := by
  intro hover
  cases hh with
  | run hthread =>
    have hrun := hover.1
    rw [hthread] at hrun
    cases hrun
  | deliver hcb hbound => exact hover.state_ne _ (h.delivered hk hcb hbound)

/-- The commands of an upgrader are settled when `FsmEventHandler` is called. -/
theorem LifetimeInv.not_pending (h : LifetimeInv tr s) {handled : Handled} {thread : UpgradeThread}
    {c' : SendCall Client} (hk : s.upgraderVec[k]? = some slot)
    (hh : s.Handling k slot e handled thread) (hstep : s.step crc e = some s')
    (hc : s.handler.calls[i]? = some c) (hcb : c.command.cb = .upgrader k f)
    (hc' : s'.handler.calls[i]? = some c') : ¬ s'.Pending i c' := by
  intro hp
  obtain ⟨c'', hc'', hmove⟩ := step_oldCall h.valid hc hstep
  obtain rfl := Option.some.inj (hc'.symm.trans hc'')
  cases hh with
  | run hthread =>
    obtain ⟨-, slot', hk', hrun⟩ := h.bound i c k f hc hcb
    obtain rfl := Option.some.inj (hk.symm.trans hk')
    rw [hthread] at hrun
    cases hrun
  | deliver hcb₀ hbound =>
    rename_i j cb f₀ _
    obtain ⟨c₀, hc₀, hcb₀', hne⟩ := h.invoked_call hcb₀ hbound
    have hid := h.unique _ _ _ _ k f₀ f hc₀ hc hcb₀' hcb (.inr (.inr hne)) (hmove.of_pending hp)
    obtain ⟨hpc, hentry, hstatuses⟩ := hmove.delivered hcb₀ hid (h.once i c k f hc hcb)
    rcases hp with hp | hp | hp
    · exact hp hpc
    · exact hp hentry
    · exact hp hstatuses

/-- What a call of `FsmEventHandler` does: an action, the error, or the end of
a complete upgrade. -/
theorem LifetimeInv.handled (h : LifetimeInv tr s) {handled : Handled} {thread : UpgradeThread}
    (hk : s.upgraderVec[k]? = some slot) (hh : s.Handling k slot e handled thread) :
    (∃ u' g report, handled = act u' g report) ∨
      handled.request = none ∧ (handled.upgrader.fsmState = .err ∨
        handled.upgrader.fsmState = .idle ∧ CompletesUpgrade k (s, e) ∧
          slot.thread.hasRun = true) := by
  have hrun := h.handling_hasRun hk hh
  cases hh with
  | run hthread =>
    have hidle := (h.fresh k slot hk (by rw [hthread]; rfl)).1
    exact .inl ⟨slot.upgrader, .startUpgrade, _, fsmEventHandler_idle hidle⟩
  | deliver hcb hbound =>
    rename_i j cb f _
    have hstate := h.delivered hk hcb hbound
    obtain ⟨tryCount, report, u', -, hagain | ⟨-, g, -, hon⟩ | ⟨-, hlast, hend⟩ | herr⟩ :=
      responseHandler_cases cb.status (responseOf cb.data) hstate
    · exact .inl ⟨u', f, report, hagain⟩
    · exact .inl ⟨u', g, report, hon⟩
    · obtain rfl : f = .upgradeComplete := by cases f <;> first | rfl | cases hlast
      rw [hend]
      exact .inr ⟨rfl, .inr ⟨rfl, ⟨j, cb, slot, rfl, hcb, hbound, hk, hstate⟩, hrun⟩⟩
    · rw [herr]
      exact .inr ⟨rfl, .inl rfl⟩

/-- An upgrade that is over stays over. -/
theorem LifetimeInv.over_step (h : LifetimeInv tr s) (hk : s.upgraderVec[k]? = some slot)
    (hover : Over slot) (hstep : s.step crc e = some s') :
    ∃ slot', s'.upgraderVec[k]? = some slot' ∧ Over slot' := by
  obtain ⟨slot', hk', hslot⟩ := step_slot hk hstep
  refine ⟨slot', hk', ?_⟩
  cases hslot with
  | same => exact hover
  | created hpc =>
    have hrun := hover.1
    rw [h.unstarted k slot hk (.inr ⟨k, hpc, le_rfl⟩)] at hrun
    cases hrun
  | handled hh => exact absurd hover (h.not_over hk hh)
  | destroyed => exact hover

/-! ### Steps -/

theorem LifetimeInv.once_step (h : LifetimeInv tr s) (hok : s.LifetimeOk crc e)
    (hstep : s.step crc e = some s') {c' : SendCall Client} (hc' : s'.handler.calls[i]? = some c')
    (hcb : c'.command.cb = .upgrader k f) :
    Once c' (s'.handler.entryOf i) (statusesOf s'.invoked i) := by
  rcases call_cases h.valid hstep hc' with hc | ⟨c, hc, hmove⟩
  · obtain ⟨-, -, -, slot, handled, thread, request, hk, hh, -⟩ := step_newCall hc hstep hc' hcb
    rw [(hh.moves hk hstep).2, h.statusesOf_eq_nil hc]
    exact ⟨Nat.zero_le 1, fun _ => rfl⟩
  · have hcb' : c.command.cb = .upgrader k f := hmove.command.1 ▸ hcb
    exact hmove.once hok hc hcb' (h.once i c k f hc hcb')

theorem LifetimeInv.owner_step (h : LifetimeInv tr s) (hstep : s.step crc e = some s')
    {c' : SendCall Client} (hc' : s'.handler.calls[i]? = some c')
    (hcb : c'.command.cb = .upgrader k f) (hp : s'.Pending i c') :
    ∃ slot', s'.upgraderVec[k]? = some slot' ∧ slot'.upgrader.fsmState = f.state := by
  rcases call_cases h.valid hstep hc' with hc | ⟨c, hc, hmove⟩
  · obtain ⟨-, -, -, slot, handled, thread, request, hk, hh, hrequest, rfl⟩ :=
      step_newCall hc hstep hc' hcb
    obtain ⟨thread', hk', -⟩ := step_handled hk hh hstep
    refine ⟨_, hk', ?_⟩
    rcases h.handled hk hh with ⟨u', g, report, rfl⟩ | ⟨hnone, -⟩
    · rw [run_sender hrequest, act_fsmState]
    · cases hnone.symm.trans hrequest
  · have hcb' : c.command.cb = .upgrader k f := hmove.command.1 ▸ hcb
    obtain ⟨slot, hk, hstate⟩ := h.owner i c k f hc hcb' (hmove.of_pending hp)
    obtain ⟨slot', hk', hslot⟩ := step_slot hk hstep
    refine ⟨slot', hk', ?_⟩
    cases hslot with
    | same | created | destroyed => exact hstate
    | handled hh => exact absurd hp (h.not_pending hk hh hstep hc hcb' hc')

/-- A call that a step makes for an upgrader is its only pending one. -/
theorem LifetimeInv.newCall_unique (h : LifetimeInv tr s) (hstep : s.step crc e = some s')
    {j : ℕ} {c' d' : SendCall Client} {g : FnFsmEvent} (hc : s.handler.calls[i]? = none)
    (hc' : s'.handler.calls[i]? = some c') (hd' : s'.handler.calls[j]? = some d')
    (hcb : c'.command.cb = .upgrader k f) (hdb : d'.command.cb = .upgrader k g)
    (hp : s'.Pending j d') : i = j := by
  obtain ⟨hi, -, -, slot, handled, thread, request, hk, hh, -⟩ := step_newCall hc hstep hc' hcb
  rcases call_cases h.valid hstep hd' with hd | ⟨d, hd, hmove⟩
  · exact hi.trans (step_newCall hd hstep hd' hdb).1.symm
  · exact absurd hp (h.not_pending hk hh hstep hd (hmove.command.1 ▸ hdb) hd')

theorem LifetimeInv.unique_step (h : LifetimeInv tr s) (hstep : s.step crc e = some s') {j : ℕ}
    {c' d' : SendCall Client} {g : FnFsmEvent} (hc' : s'.handler.calls[i]? = some c')
    (hd' : s'.handler.calls[j]? = some d') (hcb : c'.command.cb = .upgrader k f)
    (hdb : d'.command.cb = .upgrader k g) (hp : s'.Pending i c') (hq : s'.Pending j d') : i = j := by
  rcases call_cases h.valid hstep hc' with hc | ⟨c, hc, hmove⟩
  · exact h.newCall_unique hstep hc hc' hd' hcb hdb hq
  rcases call_cases h.valid hstep hd' with hd | ⟨d, hd, hmove'⟩
  · exact (h.newCall_unique hstep hd hd' hc' hdb hcb hp).symm
  · exact h.unique i j c d k f g hc hd (hmove.command.1 ▸ hcb) (hmove'.command.1 ▸ hdb)
      (hmove.of_pending hp) (hmove'.of_pending hq)

theorem LifetimeInv.ran_step (h : LifetimeInv tr s) (hstep : s.step crc e = some s') {slot' : Slot}
    (hk' : s'.upgraderVec[k]? = some slot') (hrun : slot'.thread.hasRun = true) :
    Ran k (tr ++ [(s, e)]) := by
  unfold Ran
  rw [occurs_concat]
  rcases slot_cases hstep hk' with ⟨-, hnone, -⟩ | ⟨slot, hk, hslot⟩
  · rw [hnone] at hrun
    cases hrun
  · cases hslot with
    | same => exact .inl (h.ran k _ hk hrun)
    | created => cases hrun
    | handled hh =>
      cases hh with
      | run => exact .inr rfl
      | deliver => exact .inl (h.ran k slot hk hrun)
    | destroyed _ hrun => exact .inl (h.ran k slot hk hrun)

theorem LifetimeInv.idle_step (h : LifetimeInv tr s) (hstep : s.step crc e = some s') {slot' : Slot}
    (hk' : s'.upgraderVec[k]? = some slot') (hrun : slot'.thread.hasRun = true)
    (hidle : slot'.upgrader.fsmState = .idle) : Completed k (tr ++ [(s, e)]) := by
  unfold Completed
  rw [occurs_concat]
  rcases slot_cases hstep hk' with ⟨-, hnone, -⟩ | ⟨slot, hk, hslot⟩
  · rw [hnone] at hrun
    cases hrun
  · cases hslot with
    | same => exact .inl (h.idle k _ hk hrun hidle)
    | created => cases hrun
    | handled hh =>
      rcases h.handled hk hh with ⟨u', g, report, rfl⟩ | ⟨-, herr | ⟨-, hcompletes, hrun'⟩⟩
      · exact absurd ((act_fsmState u' g report).symm.trans hidle) g.state_ne.1
      · cases herr.symm.trans hidle
      · exact .inr ⟨h.ran k slot hk hrun', hcompletes⟩
    | destroyed _ hrun => exact .inl (h.idle k slot hk hrun hidle)

theorem LifetimeInv.joining_step (h : LifetimeInv tr s) (hok : s.LifetimeOk crc e)
    (hstep : s.step crc e = some s') (hpc' : s'.pc = .joining k) :
    ∃ slot', s'.upgraderVec[k]? = some slot' ∧ Over slot' := by
  have hkeep : s.pc = .joining k → ∃ slot', s'.upgraderVec[k]? = some slot' ∧ Over slot' := by
    intro hpc
    obtain ⟨slot, hk, hover⟩ := h.joining k hpc
    exact h.over_step hk hover hstep
  cases step_moves hstep with
  | build | spin | drop | net | handle => exact hkeep hpc'
  | built | start | started | join => cases hpc'
  | poll hpc hk hend =>
    obtain rfl := ManagerPc.joining.inj hpc'
    exact ⟨_, hk, hok _ _ hpc hk, hend⟩

theorem LifetimeInv.destroyed_step (h : LifetimeInv tr s) (hstep : s.step crc e = some s')
    {slot' : Slot} (hk' : s'.upgraderVec[k]? = some slot') (hdestroyed : slot'.destroyed = true) :
    Over slot' := by
  rcases slot_cases hstep hk' with ⟨-, -, hlive⟩ | ⟨slot, hk, hslot⟩
  · cases hlive.symm.trans hdestroyed
  have hover : Over slot := by
    cases hslot with
    | same | created | handled => exact h.destroyed k _ hk hdestroyed
    | destroyed hpc =>
      obtain ⟨slot₀, hk₀, hover⟩ := h.joining k hpc
      obtain rfl := Option.some.inj (hk.symm.trans hk₀)
      exact hover
  obtain ⟨slot'', hk'', hover'⟩ := h.over_step hk hover hstep
  obtain rfl := Option.some.inj (hk'.symm.trans hk'')
  exact hover'

/-- Every step that meets the condition keeps it. -/
theorem LifetimeInv.step (h : LifetimeInv tr s) (hok : s.LifetimeOk crc e)
    (hstep : s.step crc e = some s') : LifetimeInv (tr ++ [(s, e)]) s' where
  toBase := h.toBase.step hstep
  once _ _ _ _ hc hcb := h.once_step hok hstep hc hcb
  owner _ _ _ _ hc hcb hp := h.owner_step hstep hc hcb hp
  unique _ _ _ _ _ _ _ hc hd hcb hdb hp hq := h.unique_step hstep hc hd hcb hdb hp hq
  ran _ _ hk hrun := h.ran_step hstep hk hrun
  idle _ _ hk hrun hidle := h.idle_step hstep hk hrun hidle
  joining _ hpc := h.joining_step hok hstep hpc
  destroyed _ _ hk hdestroyed := h.destroyed_step hstep hk hdestroyed

/-- The invariant is the promise. -/
theorem LifetimeInv.toLifetime (h : LifetimeInv tr s) : Lifetime tr s := by
  intro k slot hk hdestroyed
  have hover := h.destroyed k slot hk hdestroyed
  refine ⟨hover.2.imp_right fun hcomplete => ⟨hcomplete, ?_⟩, fun i c f hc hcb hp => ?_⟩
  · unfold isUpgradeComplete at hcomplete
    exact h.idle k slot hk hover.1 (of_decide_eq_true hcomplete)
  · obtain ⟨slot', hk', hstate⟩ := h.owner i c k f hc hcb hp
    obtain rfl := Option.some.inj (hk.symm.trans hk')
    exact hover.state_ne f hstate

/-- **An upgrader is destroyed when its upgrade is over and its commands are
settled**, in every run whose steps keep `LifetimeOk`. -/
theorem lifetime (crc : FastCRC) (isView : Bool) (firmware : Firmware) (handles : List UInt32)
    (tr : List (UpgradeManager × ManagerEvent)) (s : UpgradeManager)
    (h : Run (UpgradeManager.step crc) (LifetimeOk crc) (init isView firmware handles) tr s) :
    Lifetime tr s :=
  LifetimeInv.toLifetime <| h.invariant (lifetimeInv_init isView firmware handles)
    fun _ _ _ _ hi hok hstep => hi.step hok hstep

/-- An ack of `StartUpgrade`, with the number 2, that refuses it. -/
def refusal : Datagram :=
  ⟨none, 1, 56100, memOf [0xAA, 0, 25, 0, 2, 0, 0, 0, 0, 4, 1, 1, 0, 0, 0, 0, 0, 0, 0x73, 0x59, 0x1B,
    0xDF, 0x05, 0xA5, 1], 25⟩

/-- A test that implies `LifetimeOk`. -/
def lifetimeTest (s : UpgradeManager) : ManagerEvent → Bool
  | .poll => s.upgraderVec.all (·.thread.hasRun)
  | .net (.send _ ok) => ok
  | .net (.receive _) | .net (.tick _) => s.handler.calls.all (·.pc = .returned)
  | _ => true

theorem lifetimeOk_of_test (h : s.lifetimeTest e = true) : s.LifetimeOk crc e := by
  unfold lifetimeTest at h
  unfold LifetimeOk
  split at h
  · intro k slot _ hk
    exact List.all_eq_true.mp h slot (List.mem_of_getElem? hk)
  · exact fun _ _ _ _ _ => h
  · intro i c k f entry packet hc _ _ _
    exact of_decide_eq_true (List.all_eq_true.mp h c (List.mem_of_getElem? hc))
  · intro i c k f entry hc _ _ _
    exact of_decide_eq_true (List.all_eq_true.mp h c (List.mem_of_getElem? hc))
  · trivial

/-- A lidar refuses its upgrade, and the upgrader is destroyed. -/
theorem lifetime_refused : ∃ (tr : List (UpgradeManager × ManagerEvent)) (s : UpgradeManager),
    s.upgraderVec.map (fun slot => (slot.destroyed, slot.upgrader.fsmState)) = [(true, .err)] ∧
      Lifetime tr s := by
  have hexec : ((exec (fun s e => if lifetimeTest s e then s.step FastCRC.standard e else none)
      (init false (Firmware.read (List.replicate 303 0) fun _ => 0) [1])
      [.net (.detected 1 kLivoxLidarTypeMid360), .build, .build, .start, .start, .run 0,
        .net (.send 0 true), .net (.add 0 0), .net (.receive refusal), .deliver 0, .poll, .join]).map
          fun s => s.upgraderVec.map fun slot => (slot.destroyed, slot.upgrader.fsmState)) =
      some [(true, .err)] := by
    decide +kernel
  obtain ⟨s, hs, hend⟩ := Option.map_eq_some_iff.mp hexec
  obtain ⟨tr, -, hrun⟩ := Run.of_exec_test (fun _ _ => lifetimeOk_of_test) hs
  exact ⟨tr, s, hend, lifetime FastCRC.standard false _ _ tr s hrun⟩

/-- A destructor polls before the thread runs. -/
def earlyPoll : List ManagerEvent := [
  .net (.detected 1 kLivoxLidarTypeMid360), .build, .build, .start, .start, .poll, .run 0,
  .net (.send 0 true), .net (.add 0 0), .join]

/-- The upgrader is destroyed in the middle of its upgrade. -/
theorem lifetime_earlyPoll : ∃ (tr : List (UpgradeManager × ManagerEvent)) (s : UpgradeManager),
    Run (UpgradeManager.step FastCRC.standard) (fun _ _ => True)
        (init false (Firmware.read (List.replicate 303 0) fun _ => 0) [1]) tr s ∧
      tr.map Prod.snd = earlyPoll ∧ ¬ Lifetime tr s := by
  have hexec : ((exec (UpgradeManager.step FastCRC.standard)
      (init false (Firmware.read (List.replicate 303 0) fun _ => 0) [1]) earlyPoll).map
        fun s => s.upgraderVec.map fun slot => (slot.destroyed, slot.upgrader.fsmState)) =
      some [(true, .request)] := rfl
  obtain ⟨s, hs, hend⟩ := Option.map_eq_some_iff.mp hexec
  obtain ⟨tr, hevents, hrun⟩ := Run.of_exec hs
  refine ⟨tr, s, hrun, hevents, fun h => ?_⟩
  obtain ⟨slot, hvec, hslot⟩ := List.map_eq_singleton_iff.mp hend
  obtain ⟨hdestroyed, hstate⟩ := Prod.mk.inj hslot
  have hk : s.upgraderVec[0]? = some slot := by rw [hvec]; rfl
  rcases (h 0 slot hk hdestroyed).1 with herror | ⟨hcomplete, -⟩
  · simp [isUpgradeError, hstate] at herror
  · simp [isUpgradeComplete, hstate] at hcomplete

end UpgradeManager
end Livox
end SensorSupport
