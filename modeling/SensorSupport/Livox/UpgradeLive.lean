/-
# Upgrades that do not get stuck

An upgrader that is busy waits for the callback of a command. `FsmEventHandler`
ignores what its action returns, so the upgrade is stuck behind an action that
sends nothing: to a lidar without a command handler, or a transfer that has
nothing left to read. Where neither happens, and no command of an upgrader is
pushed out of the table by another one with its number, every busy upgrader
has a command whose callback is still to come.

Key definitions: `NeverStuck`, `LiveOk`.
Key theorems: `UpgradeManager.neverStuck`.
-/
import SensorSupport.Livox.UpgradeManager

namespace SensorSupport
namespace Livox

/-- The states in which the table has a transfer. -/
theorem findRow_xferFirmware {state : FsmState} (h : findRow state .xferFirmware ≠ none) :
    state = .request ∨ state = .xferFirmware := by
  cases state with
  | request => exact .inl rfl
  | xferFirmware => exact .inr rfl
  | idle | completeXferFirmware | getUpgradeProgress | complete | timeout | err => exact absurd rfl h

namespace LivoxLidarUpgrader

variable {u : LivoxLidarUpgrader} {f g : FnFsmEvent} {status : Status} {response : Response}

/-- A response that leads to a transfer finds something to read. Behind a
successful transfer the response handler checks that itself. -/
def TransferReady (u : LivoxLidarUpgrader) (f : FnFsmEvent) (status : Status) (response : Response) :
    Prop :=
  u.fsmState = .request ∨ u.fsmState = .xferFirmware →
    f = .startUpgrade ∧ status = .success ∧ response.retCode = 0 ∨
      f = .xferFirmware ∧ status ≠ .success ∧ u.tryCount + 1 < kGeneralTryCountLimit →
    u.readOffset < u.firmware.header.firmwareLength

/-- The actions that lead to a transfer. -/
theorem offsetAfter_lt (h : (u.responseEvent f status response).2.1 = .xferFirmware)
    (hstate : u.fsmState = .request ∨ u.fsmState = .xferFirmware)
    (hready : u.TransferReady f status response) :
    u.offsetAfter f status response < u.firmware.header.firmwareLength := by
  obtain ⟨_, -, hevent⟩ := u.outcome_responseEvent f status response
  rw [h] at hevent
  cases f with
  | startUpgrade =>
    rcases hevent with hevent | ⟨-, hstatus, hcode⟩ | hevent
    · cases hevent
    · exact hready hstate (.inl ⟨rfl, hstatus, hcode⟩)
    · cases hevent
  | xferFirmware =>
    change (u.xferFirmwareResponseHandler status response).2.1 = _ at h
    unfold xferFirmwareResponseHandler failed at h
    unfold offsetAfter
    split at h
    · rename_i hstatus
      simp only at h
      split at h
      · cases h
      · rename_i hcode
        rw [if_pos ⟨rfl, hstatus, not_not.mp hcode⟩]
        split at h
        · rename_i hlt
          exact hlt
        · cases h
    · rename_i hstatus
      rw [if_neg fun hack => hstatus hack.2.1]
      simp only at h
      split at h
      · rename_i hlt
        exact hready hstate (.inr ⟨rfl, hstatus, hlt⟩)
      · cases h
  | completeXferFirmware | getUpgradeProgress | upgradeComplete =>
    rcases hevent with hevent | ⟨hevent, -⟩ | hevent <;> cases hevent

/-- A command was sent whose response belongs to the state. -/
def Handled.Sends (handled : Handled) : Prop :=
  ∃ request, handled.request = some request ∧ handled.upgrader.fsmState = request.sender.state

theorem act_sends (u : LivoxLidarUpgrader) (g : FnFsmEvent) (report : UpgradeState)
    (h : g = .xferFirmware → u.readOffset < u.firmware.header.firmwareLength) :
    (u.act g report).upgrader.handle = u.handle ∧ (u.act g report).Sends := by
  obtain ⟨hkeep, -⟩ := run_keeps { u with fsmState := g.state } g
  obtain ⟨request, hrequest, hsender⟩ := run_request (u := { u with fsmState := g.state }) h
  refine ⟨?_, request, hrequest, ?_⟩
  · unfold act
    rw [hkeep]
  · rw [act_fsmState, hsender]

/-- A response ends the upgrade, sends the next command, or belongs to another
state. -/
theorem responseHandler_sends (hready : u.TransferReady f status response) :
    (u.responseHandler f status response).upgrader.handle = u.handle ∧
      ((u.responseHandler f status response).upgrader.fsmState = .idle ∨
        (u.responseHandler f status response).upgrader.fsmState = .err ∨
        (u.responseHandler f status response).Sends ∨
        (u.responseHandler f status response).upgrader.fsmState = u.fsmState ∧
          u.fsmState ≠ f.state) := by
  obtain ⟨tryCount, hu, hevent⟩ := u.outcome_responseEvent f status response
  have hlt : (u.responseEvent f status response).2.1 = .xferFirmware →
      u.fsmState = .request ∨ u.fsmState = .xferFirmware →
        u.offsetAfter f status response < u.firmware.header.firmwareLength :=
    fun h hstate => offsetAfter_lt h hstate hready
  have hhandled : u.responseHandler f status response =
      (u.responseEvent f status response).1.fsmEventHandler (u.responseEvent f status response).2.1
        (u.responseEvent f status response).2.2 := rfl
  rw [hhandled]
  generalize u.responseEvent f status response = r at hu hevent hlt
  obtain ⟨u', event, progress⟩ := r
  simp only at hu hevent hlt ⊢
  have hne : event ≠ .timeout := by
    rcases hevent with rfl | ⟨rfl, -⟩ | rfl
    · exact f.event_ne.1
    · exact f.nextEvent_ne.1
    · exact nofun
  have hstate : u'.fsmState = u.fsmState := by rw [hu]
  have hhandle : u'.handle = u.handle := by rw [hu]
  rcases fsmEventHandler_cases u' event progress hne with
    hcase | ⟨herr, hrow, hcase⟩ | hcase | ⟨g, rfl, hrow, hcase⟩
  · rw [hcase]
    exact ⟨hhandle, .inr (.inl rfl)⟩
  · rw [hcase]
    refine ⟨hhandle, ?_⟩
    rcases hevent with rfl | ⟨rfl, -⟩ | rfl
    · exact .inr (.inr (.inr ⟨hstate, fun hf => by simp [hstate, hf, f.findRow_event] at hrow⟩))
    · exact .inr (.inr (.inr ⟨hstate, fun hf => by simp [hstate, hf, f.findRow_nextEvent] at hrow⟩))
    · exact absurd rfl herr
  · rw [hcase]
    exact ⟨hhandle, .inl rfl⟩
  · rw [hcase]
    have hsends : (u'.act g ⟨g.event, progress⟩).upgrader.handle = u'.handle ∧
        (u'.act g ⟨g.event, progress⟩).Sends := by
      apply act_sends
      rintro rfl
      rw [hu]
      exact hlt rfl (findRow_xferFirmware (hstate ▸ hrow))
    exact ⟨hsends.1.trans hhandle, .inr (.inr (.inl hsends.2))⟩

end LivoxLidarUpgrader

namespace UpgradeManager

open GeneralCommandHandler LivoxLidarUpgrader

variable {crc : FastCRC} {s s' : UpgradeManager} {e : ManagerEvent} {i k : ℕ} {c : SendCall Client}
  {slot : Slot} {f : FnFsmEvent} {tr : List (UpgradeManager × ManagerEvent)}

/-- The registration of a call does not push the command of an upgrader out of
the table. -/
def KeepsUpgrades (s : UpgradeManager) (j : ℕ) : Prop :=
  ∀ (i : ℕ) (c d : SendCall Client) (k : ℕ) (f : FnFsmEvent), s.handler.calls[j]? = some d →
    s.handler.calls[i]? = some c → j ≠ i → c.command.cb = .upgrader k f →
      d.command.seqNum = c.command.seqNum → s.handler.entryOf i = none

/-- The condition on a step: a thread runs when its lidar has a command
handler, a transfer has something to read, and no command of an upgrader is
pushed out of the table. -/
def LiveOk (s : UpgradeManager) : ManagerEvent → Prop
  | .run k => ∀ slot, s.upgraderVec[k]? = some slot →
      s.handler.getLidarCommandHandler slot.upgrader.handle ≠ none
  | .deliver j => ∀ cb k f slot, s.invoked[j]? = some cb → cb.command.cb = .upgrader k f →
      s.upgraderVec[k]? = some slot → slot.upgrader.TransferReady f cb.status (responseOf cb.data)
  | .net (.register j _) => s.KeepsUpgrades j
  | .net (.add j _) => s.KeepsUpgrades j
  | _ => True

/-- The invariant: a lidar whose upgrade started has a command handler, and the
state of a busy upgrader is that of a pending command. -/
structure LiveInv (s : UpgradeManager) : Prop extends Base s where
  handler : ∀ (k : ℕ) (slot : Slot), s.upgraderVec[k]? = some slot → slot.thread.hasRun = true →
    s.handler.getLidarCommandHandler slot.upgrader.handle ≠ none
  live : ∀ (k : ℕ) (slot : Slot) (f : FnFsmEvent), s.upgraderVec[k]? = some slot →
    slot.destroyed = false → slot.upgrader.fsmState = f.state →
      ∃ (i : ℕ) (c : SendCall Client), s.handler.calls[i]? = some c ∧ c.command.cb = .upgrader k f ∧
        s.Pending i c

theorem liveInv_init (isView : Bool) (firmware : Firmware) (handles : List UInt32) :
    LiveInv (init isView firmware handles) where
  toBase := base_init isView firmware handles
  handler := by simp [init]
  live := by simp [init]

/-- A lidar keeps its command handler. -/
theorem step_handler {handle : UInt32} (hstep : s.step crc e = some s')
    (h : s.handler.getLidarCommandHandler handle ≠ none) :
    s'.handler.getLidarCommandHandler handle ≠ none := by
  obtain ⟨devType, hdevType⟩ := Option.ne_none_iff_exists'.mp h
  suffices hkeep : s'.handler.getLidarCommandHandler handle = some devType by
    rw [hkeep]
    exact nofun
  cases step_moves hstep with
  | build | built | start | started | poll | spin | join | drop => exact hdevType
  | handle =>
    rename_i k slot handled thread _ _
    change (s.sendCommand k handled).getLidarCommandHandler handle = some devType
    unfold sendCommand
    split
    · exact hdevType
    · exact step_getLidarCommandHandler (step_begin FastCRC.standard _ _ _ _) hdevType
  | net _ hnet => exact step_getLidarCommandHandler hnet hdevType

/-- A pending call stays pending, until its callback's body runs. -/
theorem CallMove.pending {c' : SendCall Client} {entry' : Option (Entry Client)}
    {statuses : List Status} (h : CallMove crc s i c e c' entry' statuses)
    (hc : s.handler.calls[i]? = some c) (hcb : c.command.cb = .upgrader k f)
    (hroute : c.route = .general) (hok : s.LiveOk e) (hp : s.Pending i c) :
    c'.pc ≠ .returned ∨ entry' ≠ none ∨ statuses ≠ [] ∨
      ∃ j cb, e = .deliver j ∧ s.invoked[j]? = some cb ∧ cb.command.id = i := by
  unfold Pending at hp
  cases h with
  | same => tauto
  | deliver hcb' =>
    rename_i j cb
    by_cases hid : cb.command.id = i
    · exact .inr (.inr (.inr ⟨j, cb, rfl, hcb', hid⟩))
    · have hlength := statusesOf_eraseIdx hcb' i
      rw [if_neg hid, Nat.add_zero] at hlength
      refine hp.imp_right (Or.imp_right fun hne => .inl fun hnil => hne ?_)
      rw [hnil] at hlength
      exact List.length_eq_zero_iff.mp hlength
  | net hcall =>
    simp only [ne_eq, List.append_eq_nil_iff] at hp ⊢
    cases hcall with
    | same => tauto
    | overwritten hd hj hseq hev =>
      have hkeeps : s.handler.entryOf i = none := by
        rcases hev with rfl | rfl <;> exact hok i c _ k f hd hc hj hcb hseq
      tauto
    | register => exact .inl nofun
    | send =>
      rw [hroute]
      exact .inl nofun
    | add => exact .inr (.inl nofun)
    | complete | expire => exact .inr (.inr (.inl fun hnil => nomatch hnil.2))

/-! ### The callback of a pending call -/

/-- The command handler gets to invoke a call's callback with steps of its own. -/
def Invokable (crc : FastCRC) (s : UpgradeManager) (i : ℕ) : Prop :=
  ∃ (es : List (Event Client)) (s' : UpgradeManager),
    exec (step crc) s (es.map .net) = some s' ∧ statusesOf s'.invoked i ≠ []

theorem Invokable.cons {ev : Event Client} (hstep : s.step crc (.net ev) = some s')
    (h : s'.Invokable crc i) : s.Invokable crc i := by
  obtain ⟨es, s'', hexec, hinvoked⟩ := h
  refine ⟨ev :: es, s'', ?_, hinvoked⟩
  rw [List.map_cons, exec, List.foldlM_cons, hstep]
  exact hexec

/-- A tick past the deadline takes an entry from the table. -/
theorem CallMove.tick {now : ℕ} {entry : Entry Client} {c' : SendCall Client}
    {entry' : Option (Entry Client)} {statuses : List Status}
    (h : CallMove crc s i c (.net (.tick now)) c' entry' statuses)
    (he : s.handler.entryOf i = some entry) (hlt : entry.deadline < now) : statuses ≠ [] := by
  cases h with
  | same _ hnet => exact absurd rfl (hnet _)
  | net hcall =>
    cases hcall with
    | same _ htick => exact absurd hlt (htick now entry rfl he)
    | overwritten _ _ _ hev => rcases hev with hev | hev <;> cases hev
    | expire => exact fun hnil => nomatch (List.append_eq_nil_iff.mp hnil).2

theorem invokable_entry (hv : Valid s.handler) (hc : s.handler.calls[i]? = some c)
    (he : s.handler.entryOf i ≠ none) : s.Invokable crc i := by
  obtain ⟨entry, he⟩ := Option.ne_none_iff_exists'.mp he
  obtain ⟨s', hstep⟩ : ∃ s', s.step crc (.net (.tick (entry.deadline + 1))) = some s' := ⟨_, rfl⟩
  obtain ⟨c', -, hmove⟩ := step_oldCall hv hc hstep
  exact .cons hstep ⟨[], s', rfl, hmove.tick he (Nat.lt_succ_self _)⟩

/-- A step of a call's own. -/
theorem step_net {ev : Event Client} {handler : GeneralCommandHandler Client}
    (hforeign : isForeign ev = true) (h : s.handler.step crc ev = some handler) :
    ∃ s', s.step crc (.net ev) = some s' ∧ s'.handler = handler := by
  change ∃ s', s.net crc ev = some s' ∧ _
  unfold net
  rw [if_pos hforeign, h]
  exact ⟨_, rfl, rfl⟩

theorem invokable_add (hv : Valid s.handler) (hc : s.handler.calls[i]? = some c) (hpc : c.pc = .add) :
    s.Invokable crc i := by
  have hnet : s.handler.step crc (.add i 0) = some (s.handler.register i c .returned 0) :=
    bind_if_eq_some.mpr ⟨c, hc, hpc, rfl⟩
  obtain ⟨s', hstep, hhandler⟩ := step_net rfl hnet
  have hcall := register_calls .returned 0 i hc
  have hentry := entryOf_register .returned 0 hv hc hc
  rw [if_pos rfl] at hcall hentry
  rw [← hhandler] at hcall hentry
  refine .cons hstep (invokable_entry (hhandler ▸ hv.step hnet) hcall ?_)
  rw [hentry]
  exact nofun

theorem invokable_send (hv : Valid s.handler) (hc : s.handler.calls[i]? = some c)
    (hroute : c.route = .general) (hpc : c.pc = .send) : s.Invokable crc i := by
  have hnet : s.handler.step crc (.send i true) = some (s.handler.send i c true) :=
    bind_if_eq_some.mpr ⟨c, hc, hpc, rfl⟩
  obtain ⟨s', hstep, hhandler⟩ := step_net rfl hnet
  have hcall := send_calls true i hc
  rw [if_pos rfl, ← hhandler, hroute] at hcall
  exact .cons hstep (invokable_add (hhandler ▸ hv.step hnet) hcall rfl)

/-- The callback of a pending call is still to come: the call goes on to
register its command, and a tick takes that from the table. -/
theorem Pending.invokable (hv : Valid s.handler) (hc : s.handler.calls[i]? = some c)
    (hroute : c.route = .general) (h : s.Pending i c) : s.Invokable crc i := by
  rcases h with hpc | hentry | hinvoked
  · cases hcpc : c.pc with
    | returned => exact absurd hcpc hpc
    | add => exact invokable_add hv hc hcpc
    | send => exact invokable_send hv hc hroute hcpc
    | register =>
      have hnet : s.handler.step crc (.register i 0) = some (s.handler.register i c .send 0) :=
        bind_if_eq_some.mpr ⟨c, hc, hcpc, rfl⟩
      obtain ⟨s', hstep, hhandler⟩ := step_net rfl hnet
      have hcall := register_calls .send 0 i hc
      rw [if_pos rfl, ← hhandler] at hcall
      exact .cons hstep (invokable_send (hhandler ▸ hv.step hnet) hcall hroute rfl)
  · exact invokable_entry hv hc hentry
  · exact ⟨[], s, rfl, hinvoked⟩

/-! ### Steps -/

/-- The pending command of an upgrader behind a step, but for the one whose
callback's body ran. -/
theorem LiveInv.pending_step (h : LiveInv s) (hok : s.LiveOk e) (hstep : s.step crc e = some s')
    (hc : s.handler.calls[i]? = some c) (hcb : c.command.cb = .upgrader k f) (hp : s.Pending i c)
    (hother : ∀ j cb, e = .deliver j → s.invoked[j]? = some cb → cb.command.cb ≠ .upgrader k f) :
    ∃ (i : ℕ) (c : SendCall Client), s'.handler.calls[i]? = some c ∧ c.command.cb = .upgrader k f ∧
      s'.Pending i c := by
  obtain ⟨c', hc', hmove⟩ := step_oldCall h.valid hc hstep
  refine ⟨i, c', hc', by rw [hmove.command.1, hcb], ?_⟩
  rcases hmove.pending hc hcb (h.bound i c k f hc hcb).1 hok hp with
    hpc | hentry | hinvoked | ⟨j, cb, rfl, hcb', rfl⟩
  · exact .inl hpc
  · exact .inr (.inl hentry)
  · exact .inr (.inr hinvoked)
  · obtain ⟨c₀, hc₀, hcmd⟩ := h.invoked cb (List.mem_of_getElem? hcb')
    obtain rfl := Option.some.inj (hc.symm.trans hc₀)
    exact absurd (hcmd ▸ hcb) (hother j cb rfl hcb')

/-- What a call of `FsmEventHandler` leaves behind: an upgrade that is idle or
in error, one that sent a command, or the state it was in. -/
theorem LiveInv.handled (h : LiveInv s) {handled : Handled} {thread : UpgradeThread}
    (hok : s.LiveOk e) (hk : s.upgraderVec[k]? = some slot)
    (hh : s.Handling k slot e handled thread) :
    s.handler.getLidarCommandHandler handled.upgrader.handle ≠ none ∧
      (handled.upgrader.fsmState = .idle ∨ handled.upgrader.fsmState = .err ∨ handled.Sends ∨
        handled.upgrader.fsmState = slot.upgrader.fsmState ∧
          ∀ (f : FnFsmEvent) (j : ℕ) (cb : Callback Client), slot.upgrader.fsmState = f.state →
            e = .deliver j → s.invoked[j]? = some cb → cb.command.cb ≠ .upgrader k f) := by
  cases hh with
  | run hthread =>
    have hidle := (h.fresh k slot hk (by rw [hthread]; rfl)).1
    rw [fsmEventHandler_idle hidle]
    obtain ⟨hhandle, hsends⟩ := act_sends slot.upgrader .startUpgrade ⟨.requestUpgrade, 10⟩ nofun
    rw [hhandle]
    exact ⟨hok slot hk, .inr (.inr (.inl hsends))⟩
  | deliver hcb hbound hlive =>
    rename_i j cb f
    obtain ⟨hhandle, hcase⟩ := responseHandler_sends (hok cb k f slot hcb hbound hk)
    rw [hhandle]
    refine ⟨h.handler k slot hk (h.handling_hasRun hk (.deliver hcb hbound hlive)), ?_⟩
    refine hcase.imp_right (Or.imp_right (Or.imp_right fun hsame => ⟨hsame.1, ?_⟩))
    intro g j' cb' hg hj hcb' hbound'
    obtain rfl := ManagerEvent.deliver.inj hj
    obtain rfl := Option.some.inj (hcb.symm.trans hcb')
    obtain ⟨-, rfl⟩ := Client.upgrader.inj (hbound.symm.trans hbound')
    exact hsame.2 hg

theorem LiveInv.handler_step (h : LiveInv s) (hok : s.LiveOk e) (hstep : s.step crc e = some s')
    {slot' : Slot} (hk' : s'.upgraderVec[k]? = some slot') (hrun : slot'.thread.hasRun = true) :
    s'.handler.getLidarCommandHandler slot'.upgrader.handle ≠ none := by
  apply step_handler hstep
  rcases slot_cases hstep hk' with ⟨-, hnone, -⟩ | ⟨slot, hk, hslot⟩
  · rw [hnone] at hrun
    cases hrun
  · cases hslot with
    | same => exact h.handler k _ hk hrun
    | created => cases hrun
    | handled hh => exact (h.handled hok hk hh).1
    | destroyed _ hrun => exact h.handler k slot hk hrun

theorem LiveInv.live_step (h : LiveInv s) (hok : s.LiveOk e) (hstep : s.step crc e = some s')
    {slot' : Slot} (hk' : s'.upgraderVec[k]? = some slot') (hlive : slot'.destroyed = false)
    (hf : slot'.upgrader.fsmState = f.state) :
    ∃ (i : ℕ) (c : SendCall Client), s'.handler.calls[i]? = some c ∧ c.command.cb = .upgrader k f ∧
      s'.Pending i c := by
  rcases slot_cases hstep hk' with ⟨hidle, -⟩ | ⟨slot, hk, hslot⟩
  · exact absurd (hf.symm.trans hidle) f.state_ne.1
  · cases hslot with
    | same hquiet =>
      obtain ⟨i, c, hc, hcb, hp⟩ := h.live k _ f hk hlive hf
      apply h.pending_step hok hstep hc hcb hp
      intro j cb he hj hbound
      subst he
      exact hquiet _ _ (.deliver hj hbound hlive)
    | created =>
      obtain ⟨i, c, hc, hcb, hp⟩ := h.live k slot f hk hlive hf
      exact h.pending_step hok hstep hc hcb hp nofun
    | handled hh =>
      obtain ⟨hhandler, hidle | herr | ⟨request, hrequest, hsender⟩ | ⟨hsame, hother⟩⟩ :=
        h.handled hok hk hh
      · exact absurd (hf.symm.trans hidle) f.state_ne.1
      · exact absurd (hf.symm.trans herr) f.state_ne.2.2
      · obtain ⟨i, c, hc, hcb, hpc⟩ := step_sent hk hh hstep hrequest hhandler
        obtain rfl := FnFsmEvent.state_injective (hf.symm.trans hsender)
        exact ⟨i, c, hc, hcb, .inl hpc⟩
      · have hf' := hsame.symm.trans hf
        obtain ⟨i, c, hc, hcb, hp⟩ := h.live k slot f hk hlive hf'
        exact h.pending_step hok hstep hc hcb hp fun j cb => hother f j cb hf'
    | destroyed => cases hlive

/-- Every step that meets the condition keeps it. -/
theorem LiveInv.step (h : LiveInv s) (hok : s.LiveOk e) (hstep : s.step crc e = some s') :
    LiveInv s' where
  toBase := h.toBase.step hstep
  handler _ _ hk hrun := h.handler_step hok hstep hk hrun
  live _ _ _ hk hlive hf := h.live_step hok hstep hk hlive hf

/-- Every upgrader that is busy, so that its destructor would wait for it, has
a pending command with it as `client_data`, whose callback the command handler
gets to invoke. -/
def NeverStuck (crc : FastCRC) (s : UpgradeManager) : Prop :=
  ∀ (k : ℕ) (slot : Slot), s.upgraderVec[k]? = some slot → slot.destroyed = false →
    slot.upgrader.isUpgradeComplete = false → slot.upgrader.isUpgradeError = false →
      ∃ (i : ℕ) (c : SendCall Client) (f : FnFsmEvent), s.handler.calls[i]? = some c ∧
        c.command.cb = .upgrader k f ∧ s.Pending i c ∧ s.Invokable crc i

theorem LiveInv.toNeverStuck (crc : FastCRC) (h : LiveInv s) : NeverStuck crc s := by
  intro k slot hk hlive hcomplete herror
  unfold isUpgradeComplete at hcomplete
  unfold isUpgradeError at herror
  simp only [Bool.or_eq_false_iff, decide_eq_false_iff_not] at hcomplete herror
  obtain ⟨f, hf⟩ := FnFsmEvent.exists_state hcomplete herror.1 herror.2
  obtain ⟨i, c, hc, hcb, hp⟩ := h.live k slot f hk hlive hf
  exact ⟨i, c, f, hc, hcb, hp, hp.invokable h.valid hc (h.bound i c k f hc hcb).1⟩

theorem liveInv_run {isView : Bool} {firmware : Firmware} {handles : List UInt32}
    (h : Run (UpgradeManager.step crc) LiveOk (init isView firmware handles) tr s) : LiveInv s := by
  induction h with
  | nil => exact liveInv_init isView firmware handles
  | snoc _ hok hstep ih => exact ih.step hok hstep

/-- **A busy upgrader waits for a callback that is still to come**, in every
run whose steps keep `LiveOk`. -/
theorem neverStuck (crc : FastCRC) (isView : Bool) (firmware : Firmware) (handles : List UInt32)
    (tr : List (UpgradeManager × ManagerEvent)) (s : UpgradeManager)
    (h : Run (step crc) LiveOk (init isView firmware handles) tr s) : NeverStuck crc s :=
  LiveInv.toNeverStuck crc (liveInv_run h)

/-- The ack of `StartUpgrade`, with the number 2. -/
def startUpgradeAck : Datagram :=
  ⟨none, 1, 56100, memOf [0xAA, 0, 25, 0, 2, 0, 0, 0, 0, 4, 1, 1, 0, 0, 0, 0, 0, 0, 0x73, 0x59, 0x8D,
    0xEF, 0x02, 0xD2, 0], 25⟩

/-- A firmware with an image of one byte. -/
def oneByteImage : Firmware :=
  Firmware.read (List.replicate 8 0 ++ 1 :: List.replicate 294 0) fun _ => 0

/-- The lidar is detected, its thread runs, the start is answered, and the image is sent. -/
def transferEvents : List ManagerEvent :=
  [.net (.detected 1 kLivoxLidarTypeMid360), .build, .build, .start, .start, .run 0,
    .net (.send 0 true), .net (.add 0 0), .net (.receive startUpgradeAck), .deliver 0,
    .net (.send 1 true), .net (.add 1 0)]

/-- The upgrade of one lidar is in the transfer of its one byte. -/
theorem neverStuck_started : ∃ (tr : List (UpgradeManager × ManagerEvent)) (s : UpgradeManager),
    tr.map Prod.snd = transferEvents ∧
      Run (step FastCRC.standard) LiveOk (init false oneByteImage [1]) tr s ∧
      s.upgraderVec.map (·.upgrader.fsmState) = [.xferFirmware] ∧ NeverStuck FastCRC.standard s := by
  let ok : UpgradeManager → ManagerEvent → Bool := fun s e =>
    match e with
    | .run k => (s.upgraderVec[k]?).all fun slot =>
        (s.handler.getLidarCommandHandler slot.upgrader.handle).isSome
    | .deliver _ => s.upgraderVec.all fun slot =>
        decide (slot.upgrader.readOffset < slot.upgrader.firmware.header.firmwareLength)
    | .net (.register _ _) => false
    | .net (.add j _) => (List.range s.handler.calls.length).all fun i =>
        i == j || (s.handler.entryOf i).isNone
    | _ => true
  have hok : ∀ s e, ok s e = true → LiveOk s e := by
    intro s e htest
    cases e with
    | build | start | poll | join => trivial
    | run k =>
      intro slot hslot
      have hsome : (s.handler.getLidarCommandHandler slot.upgrader.handle).isSome = true := by
        simpa [ok, hslot] using htest
      exact Option.isSome_iff_ne_none.mp hsome
    | deliver j =>
      intro cb k f slot _ _ hslot _ _
      exact of_decide_eq_true (List.all_eq_true.mp htest slot (List.mem_of_getElem? hslot))
    | net e =>
      cases e with
      | register j now => cases htest
      | add j now =>
        intro i c d k f _ hc hne _ _
        have hi : i < s.handler.calls.length := (List.getElem?_eq_some_iff.mp hc).1
        have hnone := List.all_eq_true.mp htest i (List.mem_range.mpr hi)
        simpa [Ne.symm hne] using hnone
      | _ => trivial
  have hexec : ((exec (fun s e => if ok s e then step FastCRC.standard s e else none)
      (init false oneByteImage [1]) transferEvents).any fun s =>
        decide (s.upgraderVec.map (·.upgrader.fsmState) = [.xferFirmware])) = true := by
    decide +kernel
  obtain ⟨s, hs, hstate⟩ := (Option.any_eq_true _ _).mp hexec
  obtain ⟨tr, htr, hrun⟩ := Run.of_exec_test hok hs
  exact ⟨tr, s, htr, hrun, of_decide_eq_true hstate, neverStuck FastCRC.standard false _ _ _ _ hrun⟩

/-- The upgrade of a lidar that was not detected, and that with a firmware
without an image. -/
def stuckRuns : List (List ManagerEvent) := [
  [.build, .build, .start, .start, .run 0],
  [.net (.detected 1 kLivoxLidarTypeMid360), .build, .build, .start, .start, .run 0,
    .net (.send 0 true), .net (.add 0 0), .net (.receive startUpgradeAck), .deliver 0]]

/-- Nothing is pending. -/
def isQuiet (s : UpgradeManager) : Bool :=
  s.handler.calls.all (·.pc = .returned) && s.handler.commands.isEmpty && s.invoked.isEmpty

theorem not_pending_of_isQuiet (h : s.isQuiet = true) (hc : s.handler.calls[i]? = some c) :
    ¬ s.Pending i c := by
  unfold isQuiet at h
  simp only [Bool.and_eq_true, List.all_eq_true, decide_eq_true_eq, List.isEmpty_iff] at h
  obtain ⟨⟨hpc, hempty⟩, hinvoked⟩ := h
  rintro (hne | hentry | hstatuses)
  · exact hne (hpc c (List.mem_of_getElem? hc))
  · refine hentry ?_
    rw [entryOf_eq hc, Std.TreeMap.getElem?_of_isEmpty hempty]
    rfl
  · rw [hinvoked] at hstatuses
    exact hstatuses rfl

/-- In both runs the upgrader is busy and nothing is left that can move it. -/
theorem neverStuck_stuckRuns : ∃ firmware,
    Firmware.open FastCRC.standard (some (List.replicate 303 0)) (fun _ => 0) = some firmware ∧
      ∀ es ∈ stuckRuns, ∃ tr s,
        Run (step FastCRC.standard) (fun _ _ => True) (init false firmware [1]) tr s ∧
          tr.map Prod.snd = es ∧ ¬ NeverStuck FastCRC.standard s := by
  refine ⟨_, Firmware.open_zeros _, fun es hes => ?_⟩
  have hexec : ∀ es ∈ stuckRuns, ((exec (step FastCRC.standard)
      (init false (Firmware.read (List.replicate 303 0) fun _ => 0) [1]) es).any fun s => s.isQuiet &&
        s.upgraderVec.any fun slot => !slot.destroyed && !slot.upgrader.isUpgradeComplete &&
          !slot.upgrader.isUpgradeError) = true := by
    decide +kernel
  obtain ⟨s, hs, hend⟩ := (Option.any_eq_true _ _).mp (hexec es hes)
  obtain ⟨tr, hevents, hrun⟩ := Run.of_exec hs
  simp only [Bool.and_eq_true, Bool.not_eq_true', List.any_eq_true] at hend
  obtain ⟨hquiet, slot, hslot, ⟨hlive, hcomplete⟩, herror⟩ := hend
  obtain ⟨k, hk⟩ := List.getElem?_of_mem hslot
  refine ⟨tr, s, hrun, hevents, fun h => ?_⟩
  obtain ⟨i, c, -, hc, -, hp, -⟩ := h k slot hk hlive hcomplete herror
  exact not_pending_of_isQuiet hquiet hc hp

end UpgradeManager

end Livox
end SensorSupport
