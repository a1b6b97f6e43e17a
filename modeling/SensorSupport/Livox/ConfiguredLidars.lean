/-
# Configured means acknowledged (`hap_command_handler.cpp`, `mid360_command_handler.cpp`)

A lidar counts as configured when its `is_update_cfg` is set, which `LivoxLidarInfoChange` does
when the callback of a configuration calls it. The callback of the Mid-360 and that of the
Mid-360s call it for an answer without an error only. That of the HAP calls it for a refusal as
well, so a HAP that refuses is reported and not sent its configuration again. In all of them it is
the lidar that answers that counts as configured, and not the one that the command was sent to.

Without such answers only lidars are configured and reported that have accepted a configuration
sent to them, and the next detection of another one sends it again (`configured_run`).

Key definitions: `AckedBy`, `NotLoading`, `Configured`, `AnswersOwn`, `SetupInv`.
Key theorems: `setupInv_step`, `resent`, `configured_run`, `configured_hapRefuses`.
-/
import SensorSupport.Livox.LidarSetup

namespace SensorSupport
namespace Livox
namespace LidarSetup

open CommPort BuildRequest DetectedLidars

/-! ### What is to hold -/

/-- A configuration that was sent to the lidar is answered by it with `kLivoxLidarStatusSuccess`,
a `ret_code` of 0 and an `error_key` of 0. -/
def AckedBy (handle : UInt32) : SetupEvent → Prop
  | .callback cb => (∃ devType, cb.command.cb = .updateLidar devType) ∧
      cb.command.handle = handle ∧ cb.handle = handle ∧ accepted cb.status cb.data = true
  | _ => False

/-- No lidar answers that it is in loader mode. -/
def NotLoading : SetupEvent → Prop
  | .callback cb => cb.command.cb = .queryFwType → fwTypeOf cb.status cb.data ≠ some 0
  | _ => True

/-- A detection of a lidar of the type, with a `ret_code` of 0. -/
def IsDetectionOf (devType : UInt8) (packet : CommPacket) : Prop :=
  ∃ data, packet.data = some data ∧ packet.dataLen ≠ 0 ∧ (payloadByte data 0).val = 0 ∧
    (payloadByte data 1).val = devType

/-- Lidars are configured and reported that accepted a configuration. No other step marks a lidar,
and one that is not marked is sent its configuration again when it is detected again. -/
structure Configured (tr : List (LidarSetup × SetupEvent)) (s : LidarSetup) : Prop where
  acked : ∀ handle, s.lidars.isUpdateCfg handle = true → ∃ x ∈ tr, AckedBy handle x.2
  reported : ∀ r ∈ s.lidars.reported, ∃ x ∈ tr, AckedBy r.1 x.2
  unmarked : ∀ x ∈ tr, ∀ s' handle, x.1.step x.2 = some s' → ¬ AckedBy handle x.2 →
    s'.lidars.isUpdateCfg handle = x.1.lidars.isUpdateCfg handle
  resent : ∀ c ∈ s.sent, s.lidars.isUpdateCfg c.handle = false → ∀ packet,
    IsDetectionOf c.devType packet → ∃ s' cmdPort,
      s.step (.detection c.handle packet) = some s' ∧
        s'.sent = s.sent ++ [⟨c.devType, c.handle, cmdPort⟩]

/-- An answer that `UpdateLidarCallback` passes on to `LivoxLidarInfoChange` is no refusal, and
comes from the lidar that the configuration was sent to. -/
def AnswersOwn : SetupEvent → Prop
  | .callback cb => ∀ devType, cb.command.cb = .updateLidar devType → cb.status = .success →
      ackReports (.updateLidar devType) cb.data = true →
        accepted cb.status cb.data = true ∧ cb.handle = cb.command.handle
  | _ => True

/-! ### The invariant -/

/-- What a command needs that is sent when its lidar is detected again. -/
structure Resendable (s : LidarSetup) (c : CfgCommand) : Prop where
  sendable : s.Sendable c
  config : s.lidars.isView = false
  handler : c.devType ≠ kLivoxLidarTypePA
  known : ∃ device, s.lidars.devices c.handle = some device ∧ device.isGetLoaderMode = true

/-- What was sent can be sent again, the lidars of the handlers are configured, and none is in
loader mode. -/
structure SetupInv (s : LidarSetup) : Prop where
  sent : ∀ c ∈ s.sent, s.Resendable c
  devices : ∀ devType handle, (s.handlers devType).devices handle = true →
    s.lidars.isUpdateCfg handle = true
  notLoading : ∀ handle, s.lidars.loaderMode handle ≠ some true

section Steps

variable {s s' : LidarSetup} {e : SetupEvent} {handle : UInt32} {c : CfgCommand}

theorem Resendable.mono (h : s.Resendable c) (hmaster : s'.masterSdk = s.masterSdk)
    (hgrows : Grows s.lidars s'.lidars)
    (hcustom : ∀ t handle cfg, (s.handlers t).customLidars handle = some cfg →
      (s'.handlers t).customLidars handle = some cfg) : s'.Resendable c := by
  obtain ⟨cfg, req, hcfg, hreq⟩ := h.sendable.custom
  obtain ⟨device, hdevice, hloader⟩ := h.known
  obtain ⟨device', hdevice', hget, -⟩ := hgrows.devices _ device hdevice
  exact ⟨⟨hmaster.trans h.sendable.master, hgrows.handler _ h.sendable.handler, cfg, req,
    hcustom _ _ _ hcfg, hreq⟩, hgrows.isView.trans h.config, h.handler, device', hdevice', hget hloader⟩

theorem setupInv_init (masterSdk : Option Bool) (hostIp : List UInt8) (memory : ℕ) :
    SetupInv (init masterSdk hostIp memory) :=
  ⟨fun _ hc => absurd hc List.not_mem_nil, fun _ _ h => absurd h Bool.false_ne_true,
    fun _ h => nomatch h⟩

/-- A detection sends the configuration to the lidar that is detected at most. -/
theorem setupInv_detection {packet : CommPacket} (h : SetupInv s)
    (hstep : s.handleDetectionData handle packet = some s') : SetupInv s' := by
  obtain ⟨hlidars, devType, hdet⟩ := handleDetectionData_step hstep
  obtain ⟨hgrows, hkeeps⟩ : Grows s.lidars s'.lidars ∧ KeepsTypes s.lidars s'.lidars :=
    handleDetectionData_grows hlidars
  have hold : ∀ c ∈ s.sent, s'.Resendable c := fun c hc =>
    (h.sent c hc).mono hdet.masterSdk hgrows hdet.inits.custom
  refine ⟨fun c hc => ?_, fun t handle ht => ?_, fun handle => ?_⟩
  · rcases hdet.sent with hsent | ⟨device, cmdPort, hdevice, hloader, hview, hPA, hsendable, hsent⟩
    · exact hold c (hsent ▸ hc)
    · rcases List.mem_append.mp (hsent ▸ hc) with hc | hnew
      · exact hold c hc
      · obtain rfl := List.mem_singleton.mp hnew
        obtain ⟨device', hdevice', hget, -⟩ := hgrows.devices _ device hdevice
        exact ⟨hsendable, hgrows.isView.trans hview, hPA, device', hdevice', hget hloader⟩
  · rw [hdet.inits.devices] at ht
    exact hgrows.isUpdateCfg (h.devices t handle ht)
  · rw [hkeeps.loaderMode]
    exact h.notLoading handle

/-- What is accepted is reported. -/
theorem accepted_reports {status : Status} {response : Option Ptr} (devType : UInt8)
    (h : accepted status response = true) :
    status = .success ∧ ackReports (.updateLidar devType) response = true := by
  unfold accepted at h
  obtain ⟨hstatus, hresponse⟩ := (Bool.and_eq_true _ _).mp h
  obtain ⟨data, rfl, hdata⟩ := (Option.any_eq_true _ _).mp hresponse
  exact ⟨of_decide_eq_true hstatus, by rw [ackReports, hdata, Bool.true_or]⟩

/-- A lidar that accepts is marked. -/
theorem updateLidarCallback_marks {l : DetectedLidars} {devType : UInt8} {status : Status}
    {response : Option Ptr} (h : accepted status response = true) :
    (l.updateLidarCallback devType handle status response).val.isUpdateCfg handle = true := by
  obtain ⟨hstatus, hreports⟩ := accepted_reports devType h
  rw [updateLidarCallback_val, if_pos (by simp [hstatus, hreports]), livoxLidarInfoChange_val]
  unfold DetectedLidars.isUpdateCfg
  dsimp only
  rw [setDevice_self, Option.any_some]

/-- A lidar that does not say that it is in loader mode is not taken for one that is. -/
theorem takenType_ne_zero {l : DetectedLidars} {status : Status} {response : Option Ptr}
    {fwType : UInt8} (hloading : fwTypeOf status response ≠ some 0)
    (htaken : l.takenType status response = some fwType) : fwType ≠ 0 := by
  unfold takenType at htaken
  split at htaken
  · obtain rfl := Option.some.inj htaken
    decide
  · exact fun h0 => hloading (h0 ▸ htaken)

/-- What an answer to a configuration does to the handlers: no configuration changes, and the lidar
that accepts is one of its handler from then on. -/
theorem updateLidarCallback_handlers (s : LidarSetup) (devType : UInt8) (asked : UInt32)
    (status : Status) (response : Option Ptr) (t : UInt8) :
    ((s.updateLidarCallback devType asked status response).handlers t).customLidars =
        (s.handlers t).customLidars ∧
      ∀ handle, ((s.updateLidarCallback devType asked status response).handlers t).devices handle =
          true →
        (s.handlers t).devices handle = true ∨ accepted status response = true ∧ handle = asked := by
  by_cases haccepted : accepted status response = true
  swap
  · rw [updateLidarCallback, if_neg haccepted]
    exact ⟨rfl, fun _ h => .inl h⟩
  rw [updateLidarCallback, if_pos haccepted]
  dsimp only
  by_cases ht : t = devType
  · subst ht
    rw [Function.update_self]
    refine ⟨rfl, fun handle h => ?_⟩
    by_cases hhandle : handle = asked
    · exact .inr ⟨haccepted, hhandle⟩
    · exact .inl ((Function.update_of_ne hhandle true _).symm.trans h)
  · rw [Function.update_of_ne ht]
    exact ⟨rfl, fun _ h => .inl h⟩

/-- A callback takes the lidar that answers to those of its handler only when it marks it. -/
theorem setupInv_callback {cb : Callback AckCallback} (h : SetupInv s)
    (hloading : NotLoading (.callback cb)) (hstep : s.callback cb = some s') : SetupInv s' := by
  have hlidars := callback_lidars hstep
  have hgrows : Grows s.lidars s'.lidars := hlidars ▸ runCallback_grows s.lidars cb
  have hold : s'.masterSdk = s.masterSdk → (∀ t, (s'.handlers t).customLidars =
      (s.handlers t).customLidars) → ∀ c ∈ s.sent, s'.Resendable c := fun hmaster hcustom c hc =>
    (h.sent c hc).mono hmaster hgrows fun t _ _ hcfg => (congrFun (hcustom t) _).trans hcfg
  unfold callback at hstep
  split at hstep
  · rename_i hcb
    split at hstep
    swap
    · cases hstep
    obtain rfl := Option.some.inj hstep
    refine ⟨hold rfl fun _ => rfl, fun t handle ht => hgrows.isUpdateCfg (h.devices t handle ht),
      fun handle => ?_⟩
    show (s.lidars.queryFwTypeCallback cb.handle cb.status cb.data).val.loaderMode handle ≠ _
    rw [queryFwTypeCallback_loaderMode]
    cases htaken : s.lidars.takenType cb.status cb.data with
    | none => exact h.notLoading handle
    | some fwType =>
      have hne := takenType_ne_zero (hloading hcb) htaken
      dsimp only
      split
      · simpa using hne
      · exact h.notLoading handle
  · rename_i devType hcb
    split at hstep
    swap
    · cases hstep
    obtain rfl := Option.some.inj hstep
    have hkeeps : KeepsTypes s.lidars _ :=
      updateLidarCallback_keepsTypes s.lidars devType cb.handle cb.status cb.data
    have hhandlers := updateLidarCallback_handlers s devType cb.handle cb.status cb.data
    refine ⟨hold rfl fun t => (hhandlers t).1, fun t handle ht => ?_, fun handle => ?_⟩
    · rcases (hhandlers t).2 handle ht with hbefore | ⟨haccepted, rfl⟩
      · exact hgrows.isUpdateCfg (h.devices t handle hbefore)
      · exact updateLidarCallback_marks haccepted
    · rw [show (s.updateLidarCallback devType cb.handle cb.status cb.data).lidars.loaderMode handle =
        s.lidars.loaderMode handle from hkeeps.loaderMode handle]
      exact h.notLoading handle
  · obtain rfl := Option.some.inj hstep
    exact h

/-- **A step keeps the invariant**, if no lidar says that it is in loader mode. -/
theorem setupInv_step (h : SetupInv s) (hloading : NotLoading e) (hstep : s.step e = some s') :
    SetupInv s' := by
  cases e with
  | detection handle packet => exact setupInv_detection h hstep
  | callback cb => exact setupInv_callback h hloading hstep
  | custom handle cfg =>
    obtain rfl := Option.some.inj hstep
    exact ⟨fun c hc => (h.sent c hc).mono rfl (.refl _) fun _ _ _ => id, h.devices, h.notLoading⟩

/-! ### Marks and reports -/

/-- No lidar is in loader mode, so no detection reports one. -/
theorem detectionReports_false {l : DetectedLidars} {packet : CommPacket}
    (h : ∀ handle, l.loaderMode handle ≠ some true) : l.detectionReports handle packet = false := by
  have hloading : ∀ devType, l.loading handle devType = false := by
    intro devType
    unfold loading
    rw [Option.any_eq_false]
    intro device hdevice
    have hmode := h handle
    rw [loaderMode, hdevice, Option.bind_some] at hmode
    cases hget : device.isGetLoaderMode with
    | false => simp
    | true =>
      rw [hget, if_pos rfl] at hmode
      cases hloader : device.isLoaderMode with
      | false => simp
      | true => exact absurd (hloader ▸ rfl) hmode
  unfold detectionReports
  simp [hloading]

/-- A step marks and reports the lidar that accepts a configuration, and no other. -/
theorem step_marks (h : SetupInv s) (hown : AnswersOwn e) (hstep : s.step e = some s') :
    (∀ handle, ¬ AckedBy handle e → s'.lidars.isUpdateCfg handle = s.lidars.isUpdateCfg handle) ∧
      ∀ r ∈ s'.lidars.reported, r ∈ s.lidars.reported ∨ AckedBy r.1 e := by
  have hlidars := step_lidars hstep
  have hquiet : Quiet s.lidars (fun _ => True) s'.lidars →
      (∀ handle, ¬ AckedBy handle e → s'.lidars.isUpdateCfg handle = s.lidars.isUpdateCfg handle) ∧
        ∀ r ∈ s'.lidars.reported, r ∈ s.lidars.reported ∨ AckedBy r.1 e :=
    fun hq => ⟨fun handle _ => hq.updated handle, fun r hr => .inl (hq.reported ▸ hr)⟩
  cases e with
  | detection handle packet =>
    apply hquiet
    have hinforms : InformsIf s.lidars _ handle (fun _ => True) s'.lidars :=
      handleDetectionData_informsIf (fun _ _ _ _ => trivial) hlidars.symm
    rw [detectionReports_false h.notLoading] at hinforms
    exact hinforms
  | custom handle cfg =>
    apply hquiet
    rw [Option.some.inj hlidars]
    exact .of_eq rfl rfl
  | callback cb =>
    have hinforms : InformsIf s.lidars _ cb.handle (fun _ => True) _ := runCallback_informsIf cb
    rw [← Option.some.inj hlidars] at hinforms
    cases hreports : (cb.status = .success && ackReports cb.command.cb cb.data : Bool) with
    | false =>
      rw [hreports] at hinforms
      exact hquiet hinforms
    | true =>
      rw [hreports] at hinforms
      obtain ⟨hstatus, hack⟩ := (Bool.and_eq_true _ _).mp hreports
      have hacked : AckedBy cb.handle (.callback cb) := by
        cases hcb : cb.command.cb with
        | updateLidar devType =>
          rw [hcb] at hack
          obtain ⟨haccepted, hhandle⟩ := hown devType hcb (of_decide_eq_true hstatus) hack
          exact ⟨⟨devType, hcb⟩, hhandle.symm, rfl, haccepted⟩
        | _ =>
          rw [hcb] at hack
          cases hack
      refine ⟨fun handle hnot => isUpdateCfg_congr (Informs.others hinforms ?_), fun r hr => ?_⟩
      · rintro rfl
        exact hnot hacked
      · rcases Informs.reports hinforms r hr with hold | hnew
        · exact .inl hold
        · exact .inr (hnew.symm ▸ hacked)

/-! ### Sending again -/

/-- With a configuration file only the type PA is without a handler. -/
theorem createCommandHandler_config {devType : UInt8} (hview : s.lidars.isView = false)
    (hPA : devType ≠ kLivoxLidarTypePA) : ∃ s', s.createCommandHandler devType = some s' := by
  unfold createCommandHandler DetectedLidars.createCommandHandler
  rw [hview, if_neg (by simpa using hPA), Option.map_some]
  exact ⟨_, rfl⟩

/-- A known lidar is sent its configuration when it is detected. -/
theorem takeDetection_resends (h : SetupInv s) (hresend : s.Resendable c)
    (hmarked : s.lidars.isUpdateCfg c.handle = false) (sn lidarIp : List UInt8) (cmdPort : UInt16) :
    ∃ s', s.takeDetection c.handle c.devType sn lidarIp cmdPort = some s' ∧
      s'.sent = s.sent ++ [⟨c.devType, c.handle, cmdPort⟩] := by
  obtain ⟨device, hdevice, hget⟩ := hresend.known
  obtain ⟨s₁, hs₁⟩ := createCommandHandler_config hresend.config hresend.handler
  obtain ⟨lidars, handlers, hcreated, heq, hinits⟩ := createCommandHandler_eq hs₁
  have hlidars : s₁.lidars = lidars := by rw [heq]
  have hsent : s₁.sent = s.sent := by rw [heq]
  have hgrows : Grows s.lidars s₁.lidars := hlidars ▸ (createCommandHandler_grows hcreated).1
  have hresend₁ : s₁.Resendable c := hresend.mono (by rw [heq]) hgrows hinits.custom
  have hverify : s.lidars.verifyNetSegment lidarIp = true := by
    unfold verifyNetSegment
    rw [hresend.config, if_neg Bool.false_ne_true]
  have hdevice₁ : s₁.lidars.devices c.handle = some device := by
    rw [hlidars, (createCommandHandler_devices hcreated).1]
    exact hdevice
  have hwaits : s₁.waitsForCfg device = true := by
    have hcfg : device.isUpdateCfg = false := by
      unfold DetectedLidars.isUpdateCfg at hmarked
      rwa [hdevice, Option.any_some] at hmarked
    have hloader : device.isLoaderMode = false := by
      have hmode := h.notLoading c.handle
      rw [loaderMode, hdevice, Option.bind_some, hget, if_pos rfl] at hmode
      simpa using hmode
    simp [waitsForCfg, hcfg, hget, hloader, hresend₁.config]
  have hnew : (s₁.handlers c.devType).devices c.handle = false := by
    rw [Bool.eq_false_iff, hinits.devices]
    intro hknown
    exact absurd (h.devices _ _ hknown) (Bool.eq_false_iff.mp hmarked)
  have hsend : s₁.updateLidarCfg c.devType c.handle cmdPort = some _ :=
    updateLidarCfg_sendable ⟨hresend₁.sendable.master, hresend₁.sendable.handler,
      hresend₁.sendable.custom⟩ hnew
  unfold takeDetection
  rw [if_pos hverify, hs₁, Option.bind_some, hdevice₁]
  dsimp only
  unfold detectedAgain
  rw [if_pos hwaits, hsend, ← hsent]
  exact ⟨_, rfl, rfl⟩

/-- **A lidar that is not configured is sent its configuration again** when it is detected. -/
theorem resent (h : SetupInv s) (hc : c ∈ s.sent) (hmarked : s.lidars.isUpdateCfg c.handle = false)
    {packet : CommPacket} (hpacket : IsDetectionOf c.devType packet) :
    ∃ s' cmdPort, s.step (.detection c.handle packet) = some s' ∧
      s'.sent = s.sent ++ [⟨c.devType, c.handle, cmdPort⟩] := by
  obtain ⟨data, hdata, hlen, hret, htype⟩ := hpacket
  obtain ⟨s', hs', hsent⟩ := takeDetection_resends h (h.sent c hc) hmarked
    (payloadString data 2 s.lidars.memory).val (payloadBytes data 18 4).val (payloadU16 data 22).val
  refine ⟨s', _, ?_, hsent⟩
  show s.handleDetectionData c.handle packet = some s'
  unfold handleDetectionData
  rw [hdata]
  dsimp only
  rw [if_neg hlen, if_neg (not_not.mpr hret), htype, hs']

end Steps

/-! ### Runs -/

section Runs

variable {masterSdk : Option Bool} {hostIp : List UInt8} {memory : ℕ}
  {tr : List (LidarSetup × SetupEvent)} {s : LidarSetup}

theorem setupInv_run
    (h : Run step (fun _ e => NotLoading e ∧ AnswersOwn e) (init masterSdk hostIp memory) tr s) :
    s.SetupInv ∧ ∀ x ∈ tr, x.1.SetupInv ∧ AnswersOwn x.2 := by
  induction h with
  | nil => exact ⟨setupInv_init masterSdk hostIp memory, fun x hx => absurd hx List.not_mem_nil⟩
  | snoc _ hok hstep ih =>
    refine ⟨setupInv_step ih.1 hok.1 hstep, fun x hx => ?_⟩
    rcases List.mem_append.mp hx with hx | hx
    · exact ih.2 x hx
    · obtain rfl := List.mem_singleton.mp hx
      exact ⟨ih.1, hok.2⟩

/-- What is marked or reported in a run has accepted its configuration. -/
theorem acked_run
    (h : Run step (fun _ e => NotLoading e ∧ AnswersOwn e) (init masterSdk hostIp memory) tr s) :
    (∀ handle, s.lidars.isUpdateCfg handle = true → ∃ x ∈ tr, AckedBy handle x.2) ∧
      ∀ r ∈ s.lidars.reported, ∃ x ∈ tr, AckedBy r.1 x.2 := by
  induction h with
  | nil => exact ⟨fun _ h => absurd h Bool.false_ne_true, fun r hr => absurd hr List.not_mem_nil⟩
  | @snoc tr s s' e hrun hok hstep ih =>
    obtain ⟨hmarks, hreports⟩ := step_marks (setupInv_run hrun).1 hok.2 hstep
    have hbefore : ∀ handle, (∃ x ∈ tr, AckedBy handle x.2) →
        ∃ x ∈ tr ++ [(s, e)], AckedBy handle x.2 :=
      fun handle ⟨x, hx, hacked⟩ => ⟨x, List.mem_append_left _ hx, hacked⟩
    have hnow : ∀ handle, AckedBy handle e → ∃ x ∈ tr ++ [(s, e)], AckedBy handle x.2 :=
      fun handle hacked => ⟨_, List.mem_append_right _ (List.mem_singleton_self _), hacked⟩
    refine ⟨fun handle hmarked => ?_, fun r hr => ?_⟩
    · by_cases hacked : AckedBy handle e
      · exact hnow handle hacked
      · exact hbefore handle (ih.1 handle (hmarks handle hacked ▸ hmarked))
    · exact (hreports r hr).elim (fun hold => hbefore r.1 (ih.2 r hold)) (hnow r.1)

end Runs

/-- **Configured means acknowledged** in every run in which no HAP refuses its configuration and
all answers to configurations come from the lidars they were sent to. -/
theorem configured_run (masterSdk : Option Bool) (hostIp : List UInt8) (memory : ℕ)
    (tr : List (LidarSetup × SetupEvent)) (s : LidarSetup)
    (h : Run step (fun _ e => NotLoading e ∧ AnswersOwn e) (init masterSdk hostIp memory) tr s) :
    Configured tr s := by
  obtain ⟨hacked, hreported⟩ := acked_run h
  obtain ⟨hinv, hsteps⟩ := setupInv_run h
  refine ⟨hacked, hreported, fun x hx s' handle hstep => ?_, fun c hc hmarked packet hpacket =>
    resent hinv hc hmarked hpacket⟩
  exact (step_marks (hsteps x hx).1 (hsteps x hx).2 hstep).1 handle

/-- The answers of a lidar, as one that waits for them gets them. -/
def answerOf (handle : UInt32) (cb : AckCallback) (payload : List UInt8) : SetupEvent :=
  .callback ⟨⟨0, 1, 0, kCommandTypeCmd, handle, kDefaultTimeOut, cb⟩, .success, handle,
    some ⟨memOf payload, 0⟩⟩

/-- A detection of a lidar of some type at 192.168.1.7. -/
def detectionOf (handle : UInt32) (devType : UInt8) : SetupEvent :=
  .detection handle (searchAck ([0, devType] ++ mid360Data.drop 2))

/-- A configuration with the host 192.168.1.5. -/
def hostCfg (devType : UInt8) : LivoxLidarCfg :=
  ⟨devType, ⟨ipText [192, 168, 1, 5], [], 56201, 56301, 56401⟩⟩

/-- A lidar is configured, detected, says that its firmware type is 1, is detected again and sent
its configuration, and answers it with a payload. -/
def configuration (devType : UInt8) (payload : List UInt8) : List SetupEvent := [
  .custom 7 (hostCfg devType), detectionOf 7 devType,
  answerOf 7 .queryFwType [0, 1, 0, 0x10, 0x80, 1, 0, 1], detectionOf 7 devType,
  answerOf 7 (.updateLidar devType) payload]

theorem configuration_notLoading (devType : UInt8) (payload : List UInt8) :
    ∀ e ∈ configuration devType payload, NotLoading e := by
  intro e he
  rcases (by simpa [configuration] using he : _ ∨ _ ∨ _ ∨ _ ∨ _) with rfl | rfl | rfl | rfl | rfl
  · trivial
  · trivial
  · exact fun _ => by decide +kernel
  · trivial
  · exact fun h => nomatch h

/-- It accepts its configuration. -/
theorem configuration_answersOwn (devType : UInt8) :
    ∀ e ∈ configuration devType [0, 0, 0], AnswersOwn e := by
  intro e he
  rcases (by simpa [configuration] using he : _ ∨ _ ∨ _ ∨ _ ∨ _) with rfl | rfl | rfl | rfl | rfl
  · trivial
  · trivial
  · exact fun _ h => nomatch h
  · trivial
  · have haccepted : accepted .success (some ⟨memOf [0, 0, 0], 0⟩) = true := by decide +kernel
    exact fun _ _ _ _ => ⟨haccepted, rfl⟩

theorem configured_run_mid360 : ∃ tr s,
    tr.map Prod.snd = configuration kLivoxLidarTypeMid360 [0, 0, 0] ∧
      s.lidars.isUpdateCfg 7 = true ∧ Configured tr s := by
  have hexec : ((exec step (init (some true) [] 8192)
      (configuration kLivoxLidarTypeMid360 [0, 0, 0])).map fun s => s.lidars.isUpdateCfg 7) =
        some true := by decide +kernel
  obtain ⟨s, hs, hend⟩ := Option.map_eq_some_iff.mp hexec
  obtain ⟨tr, htr, hrun⟩ := Run.of_exec hs
  refine ⟨tr, s, htr, hend, configured_run (some true) [] 8192 tr s (hrun.of_forall fun x hx => ?_)⟩
  have hmem := htr ▸ List.mem_map_of_mem (f := Prod.snd) hx
  exact ⟨configuration_notLoading _ _ x.2 hmem, configuration_answersOwn _ x.2 hmem⟩

/-- A HAP that refuses its configuration is marked and reported. -/
theorem configured_hapRefuses : ¬ ∀ (masterSdk : Option Bool) (hostIp : List UInt8) (memory : ℕ)
    (tr : List (LidarSetup × SetupEvent)) (s : LidarSetup),
    Run step (fun _ e => NotLoading e) (init masterSdk hostIp memory) tr s → Configured tr s := by
  intro hall
  have hexec : ((exec step (init (some true) [] 8192)
      (configuration kLivoxLidarTypeIndustrialHAP [1, 0, 0])).map fun s =>
        s.lidars.isUpdateCfg 7) = some true := by decide +kernel
  obtain ⟨s, hs, hend⟩ := Option.map_eq_some_iff.mp hexec
  obtain ⟨tr, htr, hrun⟩ := Run.of_exec hs
  have hmem : ∀ x ∈ tr, x.2 ∈ configuration kLivoxLidarTypeIndustrialHAP [1, 0, 0] :=
    fun x hx => htr ▸ List.mem_map_of_mem (f := Prod.snd) hx
  have hconfigured := hall (some true) [] 8192 tr s
    (hrun.of_forall fun x hx => configuration_notLoading _ _ x.2 (hmem x hx))
  obtain ⟨x, hx, hacked⟩ := hconfigured.acked 7 hend
  have hnone : ∀ e ∈ configuration kLivoxLidarTypeIndustrialHAP [1, 0, 0], ¬ AckedBy 7 e := by
    intro e he
    rcases (by simpa [configuration] using he : _ ∨ _ ∨ _ ∨ _ ∨ _) with rfl | rfl | rfl | rfl | rfl
    · exact id
    · exact id
    · rintro ⟨⟨devType, h⟩, -⟩
      cases h
    · exact id
    · rintro ⟨-, -, -, haccepted⟩
      exact absurd haccepted (by decide +kernel)
  exact hnone x.2 (hmem x hx) hacked

end LidarSetup

end Livox
end SensorSupport
