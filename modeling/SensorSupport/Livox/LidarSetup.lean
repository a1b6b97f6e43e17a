/-
# How lidars are set up (`command_handler/general_command_handler.cpp`)

When a lidar is detected for the first time it is asked for its firmware type, again and again
while that fails. When it is detected later, its type is known and it is not configured yet, the
handler of its type sends it the configuration that there is for it, unless it has acknowledged
one. The callbacks of both commands come at any time, and from any lidar.

The lidars themselves are those of `DetectedLidars`; here it is added what is sent to them. No
step is possible where a detection ends the program.

Key definitions: `LidarSetup`, `LidarSetup.handleDetectionData`, `LidarSetup.step`.
Key theorems: `LidarSetup.step_lidars`.
-/
import SensorSupport.Livox.KnownDevices

namespace SensorSupport
namespace Livox

open CommPort BuildRequest DetectedLidars

/-! ### What stays of the lidars -/

namespace DetectedLidars

/-- What is never taken back: that a lidar is known, that its type was received, that it is
configured, and that there is a handler for a type. -/
structure Grows (s s' : DetectedLidars) : Prop where
  isView : s'.isView = s.isView
  handler : ∀ devType, s.table.lidarsCommandHandler devType = true →
    s'.table.lidarsCommandHandler devType = true
  devices : ∀ handle device, s.devices handle = some device →
    ∃ device', s'.devices handle = some device' ∧
      (device.isGetLoaderMode = true → device'.isGetLoaderMode = true) ∧
      (device.isUpdateCfg = true → device'.isUpdateCfg = true)

/-- Whether a lidar is in loader mode, once that is known. -/
def loaderMode (s : DetectedLidars) (handle : UInt32) : Option Bool :=
  (s.devices handle).bind fun device =>
    if device.isGetLoaderMode then some device.isLoaderMode else none

/-- The type that `QueryFwTypeCallback` takes over, which is 1 when it gives up. -/
def takenType (s : DetectedLidars) (status : Status) (response : Option Ptr) : Option UInt8 :=
  if 10 < s.count then some 1 else fwTypeOf status response

/-- The step has to do with no firmware type. -/
structure KeepsTypes (s s' : DetectedLidars) : Prop where
  count : s'.count = s.count
  loaderMode : ∀ handle, s'.loaderMode handle = s.loaderMode handle

section Steps

variable {s s' s'' : DetectedLidars} {handle : UInt32} {device : DeviceInfo}

theorem Grows.refl (s : DetectedLidars) : Grows s s :=
  ⟨rfl, fun _ => id, fun _ device h => ⟨device, h, id, id⟩⟩

theorem Grows.trans (h : Grows s s') (h' : Grows s' s'') : Grows s s'' := by
  refine ⟨h'.isView.trans h.isView, fun t ht => h'.handler t (h.handler t ht), fun handle device hd => ?_⟩
  obtain ⟨device', hd', hget, hcfg⟩ := h.devices handle device hd
  obtain ⟨device'', hd'', hget', hcfg'⟩ := h'.devices handle device' hd'
  exact ⟨device'', hd'', fun h => hget' (hget h), fun h => hcfg' (hcfg h)⟩

/-- A known lidar stays known. -/
theorem Grows.known (h : Grows s s') (hknown : s.devices handle ≠ none) :
    s'.devices handle ≠ none := by
  obtain ⟨device, hdevice⟩ := Option.ne_none_iff_exists'.mp hknown
  obtain ⟨device', hdevice', -⟩ := h.devices handle device hdevice
  rw [hdevice']
  exact Option.some_ne_none device'

/-- A configured lidar stays configured. -/
theorem Grows.isUpdateCfg (h : Grows s s') (hmarked : s.isUpdateCfg handle = true) :
    s'.isUpdateCfg handle = true := by
  unfold DetectedLidars.isUpdateCfg at hmarked ⊢
  cases hdevice : s.devices handle with
  | none => rw [hdevice, Option.any_none] at hmarked; cases hmarked
  | some device =>
    obtain ⟨device', hdevice', -, hcfg⟩ := h.devices handle device hdevice
    rw [hdevice, Option.any_some] at hmarked
    rw [hdevice', Option.any_some]
    exact hcfg hmarked

theorem KeepsTypes.refl (s : DetectedLidars) : KeepsTypes s s := ⟨rfl, fun _ => rfl⟩

theorem KeepsTypes.trans (h : KeepsTypes s s') (h' : KeepsTypes s' s'') : KeepsTypes s s'' :=
  ⟨h'.count.trans h.count, fun handle => (h'.loaderMode handle).trans (h.loaderMode handle)⟩

/-- A lidar is written that has what it had. -/
theorem setDevice_grows (h : ∀ old, s.devices handle = some old →
    (old.isGetLoaderMode = true → device.isGetLoaderMode = true) ∧
      (old.isUpdateCfg = true → device.isUpdateCfg = true)) :
    Grows s (s.setDevice handle device) := by
  refine ⟨rfl, fun _ => id, fun handle' old hold => ?_⟩
  by_cases heq : handle' = handle
  · subst heq
    exact ⟨device, setDevice_self, h old hold⟩
  · exact ⟨old, (setDevice_of_ne heq).trans hold, id, id⟩

theorem setDevice_keepsTypes (h : (if device.isGetLoaderMode then some device.isLoaderMode else none) =
    s.loaderMode handle) : KeepsTypes s (s.setDevice handle device) := by
  refine ⟨rfl, fun handle' => ?_⟩
  by_cases heq : handle' = handle
  · subst heq
    rw [← h, loaderMode, setDevice_self, Option.bind_some]
  · rw [loaderMode, setDevice_of_ne heq, loaderMode]

/-- The type of a lidar is received. -/
theorem updateFwType_loaderMode (s : DetectedLidars) (handle : UInt32) (fwType : UInt8)
    (handle' : UInt32) : (s.updateFwType handle fwType).loaderMode handle' =
      if handle' = handle ∧ s.devices handle ≠ none then some (decide (fwType = 0))
      else s.loaderMode handle' := by
  unfold updateFwType
  cases hdevice : s.devices handle with
  | none => rw [if_neg fun h => h.2 rfl]
  | some device =>
    by_cases heq : handle' = handle
    · subst heq
      rw [if_pos ⟨rfl, Option.some_ne_none device⟩, loaderMode, setDevice_self]
      rfl
    · rw [if_neg fun h => heq h.1, loaderMode, setDevice_of_ne heq, loaderMode]

theorem livoxLidarInfoChange_grows (s : DetectedLidars) (handle : UInt32) :
    Grows s (s.livoxLidarInfoChange handle).val := by
  rw [livoxLidarInfoChange_val]
  have hset : Grows s (s.setDevice handle
      { (s.devices handle).getD .new with isUpdateCfg := true, isCallback := true }) := by
    refine setDevice_grows fun old hold => ⟨fun h => ?_, fun _ => rfl⟩
    rwa [hold]
  exact ⟨hset.isView, hset.handler, hset.devices⟩

theorem livoxLidarInfoChange_keepsTypes (s : DetectedLidars) (handle : UInt32) :
    KeepsTypes s (s.livoxLidarInfoChange handle).val := by
  rw [livoxLidarInfoChange_val]
  have hset : KeepsTypes s (s.setDevice handle
      { (s.devices handle).getD .new with isUpdateCfg := true, isCallback := true }) := by
    apply setDevice_keepsTypes
    unfold loaderMode
    cases s.devices handle <;> rfl
  exact ⟨hset.count, hset.loaderMode⟩

theorem updateFwType_grows (s : DetectedLidars) (handle : UInt32) (fwType : UInt8) :
    Grows s (s.updateFwType handle fwType) := by
  unfold updateFwType
  cases hdevice : s.devices handle with
  | none => exact .refl s
  | some device =>
    refine setDevice_grows fun old hold => ⟨fun _ => rfl, fun h => ?_⟩
    obtain rfl := Option.some.inj (hdevice.symm.trans hold)
    exact h

theorem queryFwTypeCallback_grows (s : DetectedLidars) (handle : UInt32) (status : Status)
    (response : Option Ptr) : Grows s (s.queryFwTypeCallback handle status response).val := by
  rw [queryFwTypeCallback_val]
  split
  · have h := updateFwType_grows s handle 1
    exact ⟨h.isView, h.handler, h.devices⟩
  · split
    · exact ⟨rfl, fun _ => id, fun _ device h => ⟨device, h, id, id⟩⟩
    · rename_i fwType _
      have h := updateFwType_grows s handle fwType
      exact ⟨h.isView, h.handler, h.devices⟩

/-- The callback of a query sets the type of its lidar only. -/
theorem queryFwTypeCallback_loaderMode (s : DetectedLidars) (handle : UInt32) (status : Status)
    (response : Option Ptr) (handle' : UInt32) :
    (s.queryFwTypeCallback handle status response).val.loaderMode handle' =
      match s.takenType status response with
      | none => s.loaderMode handle'
      | some fwType =>
        if handle' = handle ∧ s.devices handle ≠ none then some (decide (fwType = 0))
        else s.loaderMode handle' := by
  rw [queryFwTypeCallback_val]
  unfold takenType
  by_cases hcount : 10 < s.count
  · rw [if_pos hcount, if_pos hcount]
    exact updateFwType_loaderMode s handle 1 handle'
  · rw [if_neg hcount, if_neg hcount]
    cases fwTypeOf status response with
    | none => rfl
    | some fwType => exact updateFwType_loaderMode s handle fwType handle'

theorem runCallback_grows (s : DetectedLidars) (cb : Callback AckCallback) :
    Grows s (s.runCallback cb).val := by
  unfold runCallback
  split
  · exact queryFwTypeCallback_grows s _ _ _
  · rw [updateLidarCallback_val]
    split
    · exact livoxLidarInfoChange_grows s _
    · exact .refl s
  · exact .refl s

/-- The callback of a configuration. -/
theorem updateLidarCallback_keepsTypes (s : DetectedLidars) (devType : UInt8) (handle : UInt32)
    (status : Status) (response : Option Ptr) :
    KeepsTypes s (s.updateLidarCallback devType handle status response).val := by
  rw [updateLidarCallback_val]
  split
  · exact livoxLidarInfoChange_keepsTypes s handle
  · exact .refl s

/-- A lidar of the device manager is reported, or its type is noted. -/
theorem deviceManagerDetection_cases (s : DetectedLidars) (handle : UInt32) (devType : UInt8)
    (device : DeviceInfo) : ∃ types,
      (s.deviceManagerDetection handle devType device).val = { s with lidarsDevType := types } ∨
        (s.deviceManagerDetection handle devType device).val =
          ({ s with lidarsDevType := types }.livoxLidarInfoChange handle).val := by
  have hite : ∀ (loading : Bool) types,
      (if loading then { s with lidarsDevType := types }.livoxLidarInfoChange handle
        else pure { s with lidarsDevType := types }).val = { s with lidarsDevType := types } ∨
      (if loading then { s with lidarsDevType := types }.livoxLidarInfoChange handle
        else pure { s with lidarsDevType := types }).val =
          ({ s with lidarsDevType := types }.livoxLidarInfoChange handle).val := by
    intro loading types
    cases loading with
    | true => exact .inr rfl
    | false => exact .inl rfl
  unfold deviceManagerDetection
  dsimp only
  split
  · exact ⟨s.lidarsDevType, .inl rfl⟩
  · split
    · exact ⟨s.lidarsDevType, hite _ s.lidarsDevType⟩
    · split
      · split
        · exact ⟨s.lidarsDevType, .inl rfl⟩
        · exact ⟨s.lidarsDevType, hite _ s.lidarsDevType⟩
      · exact ⟨_, hite _ _⟩

theorem deviceManagerDetection_grows (s : DetectedLidars) (handle : UInt32) (devType : UInt8)
    (device : DeviceInfo) : Grows s (s.deviceManagerDetection handle devType device).val ∧
      KeepsTypes s (s.deviceManagerDetection handle devType device).val := by
  obtain ⟨types, h | h⟩ := deviceManagerDetection_cases s handle devType device
  · rw [h]
    exact ⟨⟨rfl, fun _ => id, fun _ device h => ⟨device, h, id, id⟩⟩, rfl, fun _ => rfl⟩
  · rw [h]
    have hgrows := livoxLidarInfoChange_grows { s with lidarsDevType := types } handle
    have hkeeps := livoxLidarInfoChange_keepsTypes { s with lidarsDevType := types } handle
    exact ⟨⟨hgrows.isView, hgrows.handler, hgrows.devices⟩, hkeeps.count, hkeeps.loaderMode⟩

/-- A handler is created. -/
theorem createCommandHandler_grows {devType : UInt8} (h : s.createCommandHandler devType = some s') :
    Grows s s' ∧ KeepsTypes s s' := by
  unfold createCommandHandler at h
  split at h
  · cases h
  · obtain rfl := Option.some.inj h
    exact ⟨⟨rfl, fun t ht => by simp [ht], fun _ device h => ⟨device, h, id, id⟩⟩, rfl, fun _ => rfl⟩

/-- A lidar that is new. -/
theorem addDetected_grows (devType : UInt8) (sn lidarIp : List UInt8)
    (hnew : s.devices handle = none) : Grows s (s.addDetected handle devType sn lidarIp) ∧
      KeepsTypes s (s.addDetected handle devType sn lidarIp) := by
  have hgrows : Grows s (s.setDevice handle
      ⟨sn, ipText lidarIp, devType, false, false, false, false⟩) :=
    setDevice_grows fun old hold => absurd (hnew.symm.trans hold) (Option.some_ne_none old).symm
  have hkeeps : KeepsTypes s (s.setDevice handle
      ⟨sn, ipText lidarIp, devType, false, false, false, false⟩) :=
    setDevice_keepsTypes (by rw [loaderMode, hnew]; rfl)
  exact ⟨⟨rfl, fun _ => id, hgrows.devices⟩, rfl, hkeeps.loaderMode⟩

theorem takeDetection_grows {devType : UInt8} {sn lidarIp : List UInt8}
    (h : (s.takeDetection handle devType sn lidarIp).val = some s') :
    Grows s s' ∧ KeepsTypes s s' := by
  unfold takeDetection at h
  split at h
  swap
  · obtain rfl := Option.some.inj h
    exact ⟨.refl s, .refl s⟩
  cases hcreated : s.createCommandHandler devType with
  | none =>
    rw [hcreated] at h
    cases h
  | some s₁ =>
    rw [hcreated] at h
    obtain ⟨hgrows, hkeeps⟩ := createCommandHandler_grows hcreated
    dsimp only at h
    cases hdevice : s₁.devices handle with
    | some device =>
      rw [hdevice] at h
      obtain rfl := Option.some.inj h
      have hmanager := deviceManagerDetection_grows s₁ handle devType device
      exact ⟨hgrows.trans hmanager.1, hkeeps.trans hmanager.2⟩
    | none =>
      rw [hdevice] at h
      obtain rfl := getFirmwareType_eq h
      have hadded := addDetected_grows devType sn lidarIp hdevice
      exact ⟨hgrows.trans hadded.1, hkeeps.trans hadded.2⟩

theorem handleDetectionData_grows {packet : CommPacket}
    (h : (s.handleDetectionData handle packet).val = some s') : Grows s s' ∧ KeepsTypes s s' := by
  have hsame : some s = some s' → Grows s s' ∧ KeepsTypes s s' := by
    rintro ⟨⟩
    exact ⟨.refl s, .refl s⟩
  unfold handleDetectionData at h
  split at h
  · exact hsame h
  · split at h
    · exact hsame h
    · simp only [Traced.val_bind, Traced.val_ite] at h
      split at h
      · exact hsame h
      · exact takeDetection_grows h

end Steps

end DetectedLidars

/-! ### The setup -/

/-- A configuration that was sent: by which handler, to which lidar and port. -/
structure CfgCommand where
  devType : UInt8
  handle : UInt32
  cmdPort : UInt16

/-- `HapCommandHandler` and its like: `devices_` and `custom_lidars_`. -/
structure TypeCommandHandler where
  devices : UInt32 → Bool
  customLidars : UInt32 → Option LivoxLidarCfg

/-- `GeneralCommandHandler` with the handlers of the types, `master_sdk` if it can be read, and
what was sent: the first queries of firmware types, those made again, the configurations. The
outcomes of the queries are kept with the lidars that were asked. -/
structure LidarSetup where
  lidars : DetectedLidars
  masterSdk : Option Bool
  customLidarsCfg : UInt32 → Option LivoxLidarCfg
  handlers : UInt8 → TypeCommandHandler
  queried : List UInt32
  retried : List UInt32
  outcomes : List (UInt32 × Option UInt8)
  sent : List CfgCommand

/-- A detection is handled, the callback of a command is invoked, or a lidar is configured. -/
inductive SetupEvent
  | detection (handle : UInt32) (packet : CommPacket)
  | callback (cb : Callback AckCallback)
  | custom (handle : UInt32) (cfg : LivoxLidarCfg)

/-- `Init` with the configured lidars, of which those of the own type are taken over. -/
def TypeCommandHandler.init (h : TypeCommandHandler) (devType : UInt8)
    (cfgs : UInt32 → Option LivoxLidarCfg) : TypeCommandHandler :=
  { h with customLidars := fun handle =>
      (h.customLidars handle).or ((cfgs handle).filter (·.deviceType = devType)) }

/-- The request that a handler builds of a configuration. -/
def buildCfg (devType : UInt8) (cfg : LivoxLidarCfg) : Except BuildFault Request :=
  if devType = kLivoxLidarTypeIndustrialHAP then buildUpdateLidarCfgRequest cfg ⟨memOf [], 0⟩
  else buildUpdateMid360LidarCfgRequest cfg ⟨memOf [], 0⟩

namespace LidarSetup

def init (masterSdk : Option Bool) (detectionHostIp : List UInt8) (memory : ℕ) : LidarSetup where
  lidars := .init masterSdk.isNone detectionHostIp memory
  masterSdk := masterSdk
  customLidarsCfg := fun _ => none
  handlers := fun _ => ⟨fun _ => false, fun _ => none⟩
  queried := []
  retried := []
  outcomes := []
  sent := []

/-! ### Configurations -/

/-- `AddDetectedLidar` of one lidar. -/
def addDetectedLidar (s : LidarSetup) (handle : UInt32) (cfg : LivoxLidarCfg) : LidarSetup :=
  { s with
    customLidarsCfg :=
      Function.update s.customLidarsCfg handle ((s.customLidarsCfg handle).or (some cfg)) }

/-- `CreateCommandHandler`, with the `Init` of the handler when there is a configuration file. -/
def createCommandHandler (s : LidarSetup) (devType : UInt8) : Option LidarSetup :=
  (s.lidars.createCommandHandler devType).map fun lidars =>
    if !s.lidars.isView && hasCommandHandler devType then
      { s with
        lidars
        handlers :=
          Function.update s.handlers devType ((s.handlers devType).init devType s.customLidarsCfg) }
    else { s with lidars }

/-- `SetCustomLidar`, if `stoi` does not throw. -/
def setCustomLidar (s : LidarSetup) (devType : UInt8) (handle : UInt32) (cmdPort : UInt16)
    (cfg : LivoxLidarCfg) : Option LidarSetup :=
  match buildCfg devType cfg with
  | .ok _ => some { s with sent := s.sent ++ [⟨devType, handle, cmdPort⟩] }
  | .error .refused => some s
  | .error .thrown => none

/-- `UpdateLidarCfg` of the handler of a type. -/
def handlerUpdateLidarCfg (s : LidarSetup) (devType : UInt8) (handle : UInt32) (cmdPort : UInt16) :
    Option LidarSetup :=
  if (s.handlers devType).devices handle then some s
  else
    match (s.handlers devType).customLidars handle with
    | none => some s
    | some cfg => s.setCustomLidar devType handle cmdPort cfg

/-- `UpdateLidarCfg` -/
def updateLidarCfg (s : LidarSetup) (devType : UInt8) (handle : UInt32) (cmdPort : UInt16) :
    Option LidarSetup :=
  match s.lidars.table.getHandlerOfType devType with
  | none => some s
  | some devType => do
    let master ← s.masterSdk
    if master then s.handlerUpdateLidarCfg devType handle cmdPort else some s

/-! ### Detections -/

/-- `GetFirmwareType` of a lidar that is new, with its `QueryFwType`. -/
def getFirmwareType (s : LidarSetup) (handle : UInt32) : Option LidarSetup :=
  s.masterSdk.map fun master => if master then { s with queried := s.queried ++ [handle] } else s

/-- A lidar waits for its configuration, for which its firmware type is known. -/
def waitsForCfg (s : LidarSetup) (device : DeviceInfo) : Bool :=
  !device.isUpdateCfg && device.isGetLoaderMode && !device.isLoaderMode && !s.lidars.isView

/-- A known lidar is detected again. -/
def detectedAgain (s : LidarSetup) (handle : UInt32) (devType : UInt8) (cmdPort : UInt16)
    (device : DeviceInfo) : Option LidarSetup :=
  (if s.waitsForCfg device then s.updateLidarCfg devType handle cmdPort else some s).map fun s =>
    { s with lidars := (s.lidars.deviceManagerDetection handle devType device).val }

/-- A lidar is known from now on, or is detected again. -/
def takeDetection (s : LidarSetup) (handle : UInt32) (devType : UInt8) (sn lidarIp : List UInt8)
    (cmdPort : UInt16) : Option LidarSetup :=
  if s.lidars.verifyNetSegment lidarIp then
    (s.createCommandHandler devType).bind fun s =>
      match s.lidars.devices handle with
      | some device => s.detectedAgain handle devType cmdPort device
      | none =>
        (s.lidars.addDetected handle devType sn lidarIp).getFirmwareType.bind fun lidars =>
          getFirmwareType { s with lidars } handle
  else some s

/-- `HandleDetectionData` -/
def handleDetectionData (s : LidarSetup) (handle : UInt32) (packet : CommPacket) :
    Option LidarSetup :=
  match packet.data with
  | none => some s
  | some data =>
    if packet.dataLen = 0 then some s
    else if (payloadByte data 0).val ≠ 0 then some s
    else
      s.takeDetection handle (payloadByte data 1).val (payloadString data 2 s.lidars.memory).val
        (payloadBytes data 18 4).val (payloadU16 data 22).val

/-! ### Callbacks -/

/-- The lidar has accepted its configuration. -/
def accepted (status : Status) (response : Option Ptr) : Bool :=
  status = .success && response.any fun response =>
    (payloadByte response 0).val = 0 && (payloadU16 response 1).val = 0

/-- `QueryFwTypeCallback`. A query that failed is made again by `QueryFwType`. -/
def queryFwTypeCallback (s : LidarSetup) (handle : UInt32) (status : Status)
    (response : Option Ptr) : LidarSetup :=
  { s with
    lidars := (s.lidars.queryFwTypeCallback handle status response).val
    retried :=
      if 10 < s.lidars.count ∨ (fwTypeOf status response).isSome then s.retried
      else s.retried ++ [handle] }

/-- `UpdateLidarCallback`, with the `AddDevice` of its handler. -/
def updateLidarCallback (s : LidarSetup) (devType : UInt8) (handle : UInt32) (status : Status)
    (response : Option Ptr) : LidarSetup :=
  let h := s.handlers devType
  { s with
    lidars := (s.lidars.updateLidarCallback devType handle status response).val
    handlers :=
      if accepted status response then
        Function.update s.handlers devType { h with devices := Function.update h.devices handle true }
      else s.handlers }

/-! ### Steps -/

/-- The outcomes of the queries that a lidar was sent. -/
def outcomesOf (s : LidarSetup) (handle : UInt32) : List (Option UInt8) :=
  (s.outcomes.filter fun outcome => outcome.1 = handle).map Prod.snd

/-- A query of the lidar has no outcome yet. -/
def isQueried (s : LidarSetup) (handle : UInt32) : Bool :=
  (s.outcomesOf handle).length < s.queried.count handle + s.retried.count handle

/-- The handler has sent the lidar a configuration. -/
def isSent (s : LidarSetup) (devType : UInt8) (handle : UInt32) : Bool :=
  s.sent.any fun c => c.devType = devType && c.handle = handle

/-- A callback is invoked, if its command was sent. -/
def callback (s : LidarSetup) (cb : Callback AckCallback) : Option LidarSetup :=
  match cb.command.cb with
  | .queryFwType =>
    if s.isQueried cb.command.handle then
      some { s.queryFwTypeCallback cb.handle cb.status cb.data with
        outcomes := s.outcomes ++ [(cb.command.handle, fwTypeOf cb.status cb.data)] }
    else none
  | .updateLidar devType =>
    if s.isSent devType cb.command.handle then
      some (s.updateLidarCallback devType cb.handle cb.status cb.data)
    else none
  | .other => some s

/-- A step, if it is possible. -/
def step (s : LidarSetup) : SetupEvent → Option LidarSetup
  | .detection handle packet => s.handleDetectionData handle packet
  | .callback cb => s.callback cb
  | .custom handle cfg => some (s.addDetectedLidar handle cfg)

/-! ### What a step does -/

/-- What there is behind a command that a handler sends. -/
structure Sendable (s : LidarSetup) (c : CfgCommand) : Prop where
  master : s.masterSdk = some true
  handler : s.lidars.table.lidarsCommandHandler c.devType = true
  custom : ∃ cfg req, (s.handlers c.devType).customLidars c.handle = some cfg ∧
    buildCfg c.devType cfg = .ok req

section Steps

variable {s s' : LidarSetup} {handle : UInt32} {devType : UInt8} {cmdPort : UInt16}

/-- A configuration is sent where it can be, to a lidar that has not acknowledged one. -/
theorem updateLidarCfg_sendable (h : s.Sendable ⟨devType, handle, cmdPort⟩)
    (hnew : (s.handlers devType).devices handle = false) :
    s.updateLidarCfg devType handle cmdPort =
      some { s with sent := s.sent ++ [⟨devType, handle, cmdPort⟩] } := by
  obtain ⟨cfg, req, hcfg, hreq⟩ := h.custom
  have htype : s.lidars.table.getHandlerOfType devType = some devType := if_pos h.handler
  have hhandler : s.updateLidarCfg devType handle cmdPort =
      s.handlerUpdateLidarCfg devType handle cmdPort := by
    unfold updateLidarCfg
    rw [htype]
    dsimp only
    rw [h.master]
    rfl
  rw [hhandler]
  unfold handlerUpdateLidarCfg
  rw [hnew, if_neg Bool.false_ne_true, hcfg]
  dsimp only
  unfold setCustomLidar
  rw [hreq]

/-- If anything is sent, it could be. -/
theorem updateLidarCfg_cases (h : s.updateLidarCfg devType handle cmdPort = some s') :
    s' = s ∨ s.Sendable ⟨devType, handle, cmdPort⟩ ∧
      s' = { s with sent := s.sent ++ [⟨devType, handle, cmdPort⟩] } := by
  unfold updateLidarCfg at h
  cases htype : s.lidars.table.getHandlerOfType devType with
  | none =>
    rw [htype] at h
    exact .inl (Option.some.inj h).symm
  | some t =>
    have hhandler : s.lidars.table.lidarsCommandHandler devType = true ∧ devType = t := by
      unfold GeneralCommandHandler.getHandlerOfType at htype
      split at htype
      · exact ⟨‹_›, Option.some.inj htype⟩
      · cases htype
    obtain ⟨hhandler, rfl⟩ := hhandler
    rw [htype] at h
    obtain ⟨master, hmaster, h⟩ := Option.bind_eq_some_iff.mp h
    cases master with
    | false => exact .inl (Option.some.inj h).symm
    | true =>
      rw [if_pos rfl] at h
      unfold handlerUpdateLidarCfg at h
      split at h
      · exact .inl (Option.some.inj h).symm
      · cases hcfg : (s.handlers devType).customLidars handle with
        | none =>
          rw [hcfg] at h
          exact .inl (Option.some.inj h).symm
        | some cfg =>
          rw [hcfg] at h
          dsimp only at h
          unfold setCustomLidar at h
          cases hreq : buildCfg devType cfg with
          | ok req =>
            rw [hreq] at h
            exact .inr ⟨⟨hmaster, hhandler, cfg, req, hcfg, hreq⟩, (Option.some.inj h).symm⟩
          | error fault =>
            rw [hreq] at h
            cases fault with
            | refused => exact .inl (Option.some.inj h).symm
            | thrown => cases h

/-- The handlers have the lidars of before, and maybe more configurations. -/
structure Inits (s s' : LidarSetup) : Prop where
  devices : ∀ t, (s'.handlers t).devices = (s.handlers t).devices
  custom : ∀ t handle cfg, (s.handlers t).customLidars handle = some cfg →
    (s'.handlers t).customLidars handle = some cfg

/-- With a configuration file no lidar of the type PA is taken. -/
theorem createCommandHandler_ne_PA {lidars lidars' : DetectedLidars}
    (h : lidars.createCommandHandler devType = some lidars') (hview : lidars.isView = false) :
    devType ≠ kLivoxLidarTypePA := by
  rintro rfl
  simp [DetectedLidars.createCommandHandler, hview] at h

/-- A handler is created and initialised, and nothing else is done. -/
theorem createCommandHandler_eq (h : s.createCommandHandler devType = some s') :
    ∃ lidars handlers, s.lidars.createCommandHandler devType = some lidars ∧
      s' = { s with lidars, handlers } ∧ Inits s s' := by
  obtain ⟨lidars, hcreated, rfl⟩ := Option.map_eq_some_iff.mp h
  split
  · refine ⟨lidars, _, hcreated, rfl, fun t => ?_, fun t handle cfg hcfg => ?_⟩
    · dsimp only
      by_cases ht : t = devType
      · subst ht
        rw [Function.update_self]
        rfl
      · rw [Function.update_of_ne ht]
    · dsimp only
      by_cases ht : t = devType
      · subst ht
        simp [TypeCommandHandler.init, hcfg]
      · rwa [Function.update_of_ne ht]
  · exact ⟨lidars, s.handlers, hcreated, rfl, fun _ => rfl, fun _ _ _ => id⟩

/-- What a detection does besides to the lidars: handlers are initialised, a lidar that is new is
asked for its type, or one that is not configured is sent its configuration. -/
structure DetectionStep (s : LidarSetup) (handle : UInt32) (devType : UInt8) (s' : LidarSetup) :
    Prop where
  inits : Inits s s'
  masterSdk : s'.masterSdk = s.masterSdk
  retried : s'.retried = s.retried
  outcomes : s'.outcomes = s.outcomes
  queried : s'.queried = s.queried ∨
    s.lidars.devices handle = none ∧ s'.lidars.devices handle ≠ none ∧
      s'.queried = s.queried ++ [handle]
  sent : s'.sent = s.sent ∨ ∃ device cmdPort, s.lidars.devices handle = some device ∧
    device.isGetLoaderMode = true ∧ s.lidars.isView = false ∧ devType ≠ kLivoxLidarTypePA ∧
      s'.Sendable ⟨devType, handle, cmdPort⟩ ∧ s'.sent = s.sent ++ [⟨devType, handle, cmdPort⟩]

theorem livoxLidarInfoChange_table (s : DetectedLidars) :
    (s.livoxLidarInfoChange handle).val.table = s.table := by
  rw [livoxLidarInfoChange_val]
  rfl

theorem deviceManagerDetection_table (s : DetectedLidars) (device : DeviceInfo) :
    (s.deviceManagerDetection handle devType device).val.table = s.table := by
  obtain ⟨types, h | h⟩ := deviceManagerDetection_cases s handle devType device
  · rw [h]
  · rw [h, livoxLidarInfoChange_table]

/-- A lidar that is new is asked for its type at most. -/
theorem getFirmwareType_cases (h : s.getFirmwareType handle = some s') :
    ∃ queried, s' = { s with queried } ∧
      (queried = s.queried ∨ queried = s.queried ++ [handle]) := by
  obtain ⟨master, hmaster, rfl⟩ := Option.map_eq_some_iff.mp h
  cases master with
  | true => exact ⟨_, rfl, .inr rfl⟩
  | false => exact ⟨_, rfl, .inl rfl⟩

/-- A known lidar is sent its configuration at most. -/
theorem detectedAgain_cases {device : DeviceInfo}
    (h : s.detectedAgain handle devType cmdPort device = some s') :
    ∃ sent, s' = { s with
        lidars := (s.lidars.deviceManagerDetection handle devType device).val, sent } ∧
      (sent = s.sent ∨ device.isGetLoaderMode = true ∧ s.lidars.isView = false ∧
        s'.Sendable ⟨devType, handle, cmdPort⟩ ∧ sent = s.sent ++ [⟨devType, handle, cmdPort⟩]) := by
  obtain ⟨s₁, hs₁, rfl⟩ := Option.map_eq_some_iff.mp h
  split at hs₁
  · rename_i hwaits
    rcases updateLidarCfg_cases hs₁ with rfl | ⟨hsendable, rfl⟩
    · exact ⟨_, rfl, .inl rfl⟩
    · refine ⟨_, rfl, .inr ⟨?_, ?_, ⟨hsendable.master, ?_, hsendable.custom⟩, rfl⟩⟩
      · simp only [waitsForCfg, Bool.and_eq_true] at hwaits
        exact hwaits.1.1.2
      · simp only [waitsForCfg, Bool.and_eq_true, Bool.not_eq_true'] at hwaits
        exact hwaits.2
      · dsimp only
        rw [deviceManagerDetection_table]
        exact hsendable.handler
  · obtain rfl := Option.some.inj hs₁
    exact ⟨_, rfl, .inl rfl⟩

/-- What a detection does that is taken. -/
theorem takeDetection_step {sn lidarIp : List UInt8}
    (h : s.takeDetection handle devType sn lidarIp cmdPort = some s') :
    (s.lidars.takeDetection handle devType sn lidarIp).val = some s'.lidars ∧
      DetectionStep s handle devType s' := by
  unfold takeDetection at h
  unfold DetectedLidars.takeDetection
  by_cases hverify : s.lidars.verifyNetSegment lidarIp = true
  swap
  · rw [if_neg hverify] at h ⊢
    obtain rfl := Option.some.inj h
    exact ⟨rfl, ⟨⟨fun _ => rfl, fun _ _ _ => id⟩, rfl, rfl, rfl, .inl rfl, .inl rfl⟩⟩
  rw [if_pos hverify] at h ⊢
  obtain ⟨s₁, hs₁, h⟩ := Option.bind_eq_some_iff.mp h
  obtain ⟨lidars, handlers, hcreated, rfl, hinits⟩ := createCommandHandler_eq hs₁
  have hdevices : lidars.devices handle = s.lidars.devices handle := by
    rw [(createCommandHandler_devices hcreated).1]
  have hview : lidars.isView = s.lidars.isView := (createCommandHandler_grows hcreated).1.isView
  rw [hcreated]
  dsimp only at h ⊢
  cases hdevice : lidars.devices handle with
  | none =>
    rw [hdevice] at h
    obtain ⟨asked, hasked, h⟩ := Option.bind_eq_some_iff.mp h
    obtain ⟨queried, rfl, hqueried⟩ := getFirmwareType_cases h
    refine ⟨hasked, ⟨⟨hinits.devices, hinits.custom⟩, rfl, rfl, rfl, ?_, .inl rfl⟩⟩
    refine hqueried.imp_right fun hnew => ⟨hdevices ▸ hdevice, ?_, hnew⟩
    show asked.devices handle ≠ none
    rw [getFirmwareType_eq hasked]
    exact setDevice_self.trans_ne (Option.some_ne_none _)
  | some device =>
    rw [hdevice] at h
    obtain ⟨sent, rfl, hsent⟩ := detectedAgain_cases h
    refine ⟨rfl, ⟨⟨hinits.devices, hinits.custom⟩, rfl, rfl, rfl, .inl rfl, ?_⟩⟩
    rcases hsent with hsame | ⟨hloader, hconfig, hsendable, hnew⟩
    · exact .inl hsame
    · have hconfig' : s.lidars.isView = false := hview ▸ hconfig
      exact .inr ⟨device, cmdPort, hdevices ▸ hdevice, hloader, hconfig',
        createCommandHandler_ne_PA hcreated hconfig', hsendable, hnew⟩

/-- What a detection does. -/
theorem handleDetectionData_step {packet : CommPacket}
    (h : s.handleDetectionData handle packet = some s') :
    (s.lidars.handleDetectionData handle packet).val = some s'.lidars ∧
      ∃ devType, DetectionStep s handle devType s' := by
  have hsame : DetectionStep s handle 0 s :=
    ⟨⟨fun _ => rfl, fun _ _ _ => id⟩, rfl, rfl, rfl, .inl rfl, .inl rfl⟩
  unfold handleDetectionData at h
  unfold DetectedLidars.handleDetectionData
  cases hdata : packet.data with
  | none =>
    rw [hdata] at h
    obtain rfl := Option.some.inj h
    exact ⟨rfl, 0, hsame⟩
  | some data =>
    rw [hdata] at h
    dsimp only at h ⊢
    by_cases hlen : packet.dataLen = 0
    · rw [if_pos hlen] at h ⊢
      obtain rfl := Option.some.inj h
      exact ⟨rfl, 0, hsame⟩
    · rw [if_neg hlen] at h ⊢
      by_cases hret : (payloadByte data 0).val = 0
      · rw [if_neg (not_not.mpr hret)] at h
        rw [Traced.val_bind, if_neg (not_not.mpr hret)]
        obtain ⟨hlidars, hstep⟩ := takeDetection_step h
        exact ⟨hlidars, _, hstep⟩
      · rw [if_pos hret] at h
        rw [Traced.val_bind, if_pos hret]
        obtain rfl := Option.some.inj h
        exact ⟨rfl, 0, hsame⟩

/-- The callback of a command does to the lidars what it does without the setup. -/
theorem callback_lidars {cb : Callback AckCallback} (h : s.callback cb = some s') :
    s'.lidars = (s.lidars.runCallback cb).val := by
  unfold callback at h
  unfold runCallback
  cases hcb : cb.command.cb with
  | queryFwType =>
    rw [hcb] at h
    dsimp only at h ⊢
    split at h
    · obtain rfl := Option.some.inj h
      rfl
    · cases h
  | updateLidar devType =>
    rw [hcb] at h
    dsimp only at h ⊢
    split at h
    · obtain rfl := Option.some.inj h
      rfl
    · cases h
  | other =>
    rw [hcb] at h
    obtain rfl := Option.some.inj h
    rfl

/-- **The lidars are detected and answered as without the setup.** -/
theorem step_lidars {e : SetupEvent} (h : s.step e = some s') :
    some s'.lidars =
      match e with
      | .detection handle packet => (s.lidars.handleDetectionData handle packet).val
      | .callback cb => some (s.lidars.runCallback cb).val
      | .custom _ _ => some s.lidars := by
  cases e with
  | detection handle packet => exact (handleDetectionData_step h).1.symm
  | callback cb => exact congrArg some (callback_lidars h)
  | custom handle cfg =>
    obtain rfl := Option.some.inj h
    rfl

end Steps

end LidarSetup

end Livox
end SensorSupport
