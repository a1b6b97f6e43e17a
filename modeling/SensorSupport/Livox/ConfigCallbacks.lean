/-
# Callbacks of configuration commands (`livox_ros_driver2/src/call_back/livox_lidar_callback.cpp`)

When a lidar is reported the driver asks the SDK for the settings of its configuration, its
installation attitude, its work mode and the data of its IMU. The SDK answers each command by a
callback: with success and the response of the lidar, or with a timeout or a failed send and no
response (`run_responded`).

The callbacks are written one by one. Those of the four settings print the response when there
is neither success nor a timeout, so they use a null pointer when a send fails. That of the IMU
looks at the response before the status, so it does nothing on a timeout. All else is as it is
meant (`callbackOk_iff`).

All commands but that of the work mode are given the driver as `client_data`, and the callback
of the work mode does not look at it.

Key definitions: `SdkSetting`, `ConfigDriver`, `ConfigDriver.infoChange`, `ConfigDriver.callback`,
`CallbackOk`, `Tolerated`.
Key theorems: `run_responded`, `driver_run`, `callbackOk_iff`.
-/
import SensorSupport.Livox.CommandTable
import SensorSupport.Livox.LidarBringUp

namespace SensorSupport
namespace Livox

open GeneralCommandHandler

/-! ### The SDK -/

section Sdk

variable {κ : Type} {crc : FastCRC} {s s' : GeneralCommandHandler κ} {ev : Event κ}

/-- The ack of a datagram has data. -/
theorem ackPacket_data {d : Datagram} {n : UInt32} {packet : CommPacket}
    (h : s.ackPacket crc d = some (n, packet)) : packet.data ≠ none := by
  unfold ackPacket at h
  cases hp : (CommPort.parseCommStream crc d.buf d.bufSize).val with
  | none =>
    rw [hp] at h
    cases h
  | some p =>
    have hdata := parseCommStream_data hp
    rw [hp] at h
    dsimp only at h
    split at h
    · cases h
    · split at h
      · cases h
        exact hdata
      · split at h
        · cases h
        · obtain ⟨t, -, heq⟩ := Option.map_eq_some_iff.mp h
          cases heq
          exact hdata

/-- There is a response with success, and only then; else the callback has the handle of the
command. -/
def Responded (cb : Callback κ) : Prop :=
  (cb.data = none ↔ cb.status ≠ .success) ∧
    (cb.status ≠ .success → cb.handle = cb.command.handle)

/-- Without success there is no response, and the callback has the handle of the command. -/
theorem Responded.failed {cb : Callback κ} {status : Status} (h : Responded cb)
    (hstatus : cb.status = status) (hne : status ≠ .success) :
    cb.data = none ∧ cb.handle = cb.command.handle :=
  ⟨h.1.mpr (hstatus ▸ hne), h.2 (hstatus ▸ hne)⟩

theorem step_responded (hstep : s.step crc ev = some s') (h : ∀ cb ∈ s.callbacks, Responded cb) :
    ∀ cb ∈ s'.callbacks, Responded cb := by
  have hmore : ∀ {new : List (Callback κ)}, s'.callbacks = s.callbacks ++ new →
      (∀ cb ∈ new, Responded cb) → ∀ cb ∈ s'.callbacks, Responded cb := by
    intro new heq hnew cb hcb
    rw [heq] at hcb
    exact (List.mem_append.mp hcb).elim (h cb) (hnew cb)
  cases ev with
  | begin handle cmdId cb =>
    cases hstep
    unfold beginSend
    cases s.getLidarCommandHandler handle <;> exact h
  | config devType handle cmdId cb =>
    obtain ⟨t, -, rfl⟩ := Option.map_eq_some_iff.mp hstep
    exact h
  | register id now =>
    obtain ⟨c, -, -, rfl⟩ := bind_if_eq_some.mp hstep
    rw [register_callbacks]
    exact h
  | send id ok =>
    obtain ⟨c, -, -, rfl⟩ := bind_if_eq_some.mp hstep
    apply hmore send_callbacks
    cases ok with
    | true => exact fun cb hcb => nomatch hcb
    | false =>
      intro cb hcb
      rw [List.mem_singleton.mp hcb]
      exact ⟨iff_of_true rfl (show Status.sendFailed ≠ .success by decide), fun _ => rfl⟩
  | add id now =>
    obtain ⟨c, -, -, rfl⟩ := bind_if_eq_some.mp hstep
    rw [register_callbacks]
    exact h
  | receive d =>
    cases hstep
    rw [receive_eq]
    cases hack : s.ackPacket crc d with
    | none => exact h
    | some ack =>
      obtain ⟨n, packet⟩ := ack
      dsimp only
      cases s.commands[n]? with
      | none => exact h
      | some e =>
        have hdata : packet.data ≠ none := ackPacket_data hack
        intro cb hcb
        rcases List.mem_append.mp hcb with hcb | hcb
        · exact h cb hcb
        · rw [List.mem_singleton.mp hcb]
          exact ⟨iff_of_false hdata (not_not_intro rfl), fun hne => absurd rfl hne⟩
  | tick now =>
    cases hstep
    apply hmore rfl
    intro cb hcb
    obtain ⟨command, -, rfl⟩ := List.mem_map.mp hcb
    exact ⟨iff_of_true rfl (show Status.timeout ≠ .success by decide), fun _ => rfl⟩
  | detected handle devType =>
    cases hstep
    exact h

/-- **All callbacks of a run have a response with success, and only then.** -/
theorem run_responded {isView : Bool} {tr : List (Step κ)}
    (h : Run (GeneralCommandHandler.step crc) (fun _ _ => True) (.init isView) tr s) :
    ∀ cb ∈ s.callbacks, Responded cb := by
  induction h with
  | nil => exact fun cb hcb => nomatch hcb
  | snoc _ _ hstep ih => exact step_responded hstep ih

end Sdk

/-! ### The driver -/

variable {E : Type}

/-- What the SDK is asked to set. The work mode is always `kLivoxLidarNormal`. -/
inductive SdkSetting (E : Type)
  | pclDataType (dataType : Int8)
  | scanPattern (pattern : Int8)
  | blindSpot (distance : UInt32)
  | dualEmit (enable : Bool)
  | installAttitude (attitude : E)
  | workMode
  | imuData
deriving DecidableEq

/-- What is asked for the setting of a code. -/
def UserLivoxLidarConfig.setting (config : UserLivoxLidarConfig) : ConfigCode → SdkSetting E
  | .dataType => .pclDataType config.pclDataType
  | .scanPattern => .scanPattern config.patternMode
  | .blindSpot => .blindSpot config.blindSpotSet.toUInt32
  | .dualEmit => .dualEmit (config.dualEmitEn ≠ 0)

/-- A command for a lidar. -/
structure SdkRequest (E : Type) where
  handle : UInt32
  setting : SdkSetting E
deriving DecidableEq

/-- The driver's devices with `extrinsic_param` of their configurations, the lidars reported, and
the commands sent. -/
structure ConfigDriver (E : Type) where
  lds : LdsLidar
  extrinsicParam : Fin kMaxSourceLidar → E
  reported : List UInt32
  sent : List (SdkRequest E)

/-- The command of a callback. -/
def requestOf (cb : Callback (SdkSetting E)) : SdkRequest E := ⟨cb.command.handle, cb.command.cb⟩

/-- A field of the response is read; the log has the pointers. -/
def readResponse (response : Option Ptr) : Traced (Option Ptr) Unit := ⟨(), [response]⟩

namespace ConfigDriver

/-- The driver behind `InitLivoxLidar`. -/
def init (configs : List UserLivoxLidarConfig) (extrinsicParam : Fin kMaxSourceLidar → E) :
    ConfigDriver E :=
  ⟨initLivoxLidar configs, extrinsicParam, [], []⟩

def send (d : ConfigDriver E) (handle : UInt32) (setting : SdkSetting E) : ConfigDriver E :=
  { d with sent := d.sent ++ [⟨handle, setting⟩] }

/-- What `LidarInfoChangeCallback` asks for a lidar of the configuration. -/
def configRequests (d : ConfigDriver E) (handle : UInt32) (index : Fin kMaxSourceLidar) :
    List (SdkRequest E) :=
  let config := (d.lds.lidars index).livoxConfig
  (ConfigCode.all.filter config.requests).map (fun code => ⟨handle, config.setting code⟩) ++
    [⟨config.handle, .installAttitude (d.extrinsicParam index)⟩]

/-- `LidarInfoChangeCallback` -/
def infoChange (handle : UInt32) (d : ConfigDriver E) : ConfigDriver E :=
  let changed := { d with
    lds := lidarInfoChangeCallback handle d.lds
    reported := handle :: d.reported }
  match getLidarDevice d.lds handle with
  | none =>
    match getFreeIndex d.lds handle with
    | none => changed
    | some _ => (changed.send handle .workMode).send handle .imuData
  | some index =>
    ({ changed with sent := d.sent ++ d.configRequests handle index }.send handle .workMode).send
      handle .imuData

/-- The callbacks of the four settings, which differ in their bit and in what they send again. -/
def setConfigCallback (code : ConfigCode) (status : Status) (handle : UInt32)
    (response : Option Ptr) (d : ConfigDriver E) : Traced (Option Ptr) (ConfigDriver E) :=
  match getLidarDevice d.lds handle with
  | none => pure d
  | some index =>
    match status with
    | .success => pure { d with lds := setCallback code .success handle d.lds }
    | .timeout => pure (d.send handle ((d.lds.lidars index).livoxConfig.setting code))
    | .sendFailed => do
      readResponse response
      pure d

/-- `SetDataTypeCallback` -/
def setDataTypeCallback :
    Status → UInt32 → Option Ptr → ConfigDriver E → Traced (Option Ptr) (ConfigDriver E) :=
  setConfigCallback .dataType

/-- `SetPatternModeCallback` -/
def setPatternModeCallback :
    Status → UInt32 → Option Ptr → ConfigDriver E → Traced (Option Ptr) (ConfigDriver E) :=
  setConfigCallback .scanPattern

/-- `SetBlindSpotCallback` -/
def setBlindSpotCallback :
    Status → UInt32 → Option Ptr → ConfigDriver E → Traced (Option Ptr) (ConfigDriver E) :=
  setConfigCallback .blindSpot

/-- `SetDualEmitCallback` -/
def setDualEmitCallback :
    Status → UInt32 → Option Ptr → ConfigDriver E → Traced (Option Ptr) (ConfigDriver E) :=
  setConfigCallback .dualEmit

/-- `SetAttitudeCallback` -/
def setAttitudeCallback (status : Status) (handle : UInt32) (d : ConfigDriver E) : ConfigDriver E :=
  match getLidarDevice d.lds handle with
  | none => d
  | some index =>
    match status with
    | .success => d
    | .timeout =>
      d.send (d.lds.lidars index).livoxConfig.handle (.installAttitude (d.extrinsicParam index))
    | .sendFailed => d

/-- `WorkModeChangedCallback` -/
def workModeChangedCallback (status : Status) (handle : UInt32) (d : ConfigDriver E) :
    ConfigDriver E :=
  if status ≠ .success then d.send handle .workMode else d

/-- `EnableLivoxLidarImuDataCallback` -/
def enableLivoxLidarImuDataCallback (status : Status) (handle : UInt32) (response : Option Ptr)
    (d : ConfigDriver E) : ConfigDriver E :=
  match getLidarDevice d.lds handle with
  | none => d
  | some _ =>
    if response = none then d
    else
      match status with
      | .success => d
      | .timeout => d.send handle .imuData
      | .sendFailed => d

/-- A callback of the SDK calls the callback that the command was sent with. -/
def callback (cb : Callback (SdkSetting E)) (d : ConfigDriver E) :
    Traced (Option Ptr) (ConfigDriver E) :=
  match cb.command.cb with
  | .pclDataType _ => d.setDataTypeCallback cb.status cb.handle cb.data
  | .scanPattern _ => d.setPatternModeCallback cb.status cb.handle cb.data
  | .blindSpot _ => d.setBlindSpotCallback cb.status cb.handle cb.data
  | .dualEmit _ => d.setDualEmitCallback cb.status cb.handle cb.data
  | .installAttitude _ => pure (d.setAttitudeCallback cb.status cb.handle)
  | .workMode => pure (d.workModeChangedCallback cb.status cb.handle)
  | .imuData => pure (d.enableLivoxLidarImuDataCallback cb.status cb.handle cb.data)

end ConfigDriver

/-- What happens to the driver: the SDK reports a lidar, or answers a command. -/
inductive ConfigEvent (E : Type)
  | report (handle : UInt32)
  | answer (cb : Callback (SdkSetting E))

/-- The SDK reports a lidar once (`is_callback`). -/
def ConfigDriver.step (d : ConfigDriver E) : ConfigEvent E → Option (ConfigDriver E)
  | .report handle => if handle ∈ d.reported then none else some (d.infoChange handle)
  | .answer cb => some (d.callback cb).val

/-- The SDK answers commands that were sent, as often as it likes. -/
def AnswersSent (d : ConfigDriver E) : ConfigEvent E → Prop
  | .report _ => True
  | .answer cb => requestOf cb ∈ d.sent ∧ Responded cb

/-- The code of one of the four settings. -/
def SdkSetting.code : SdkSetting E → Option ConfigCode
  | .pclDataType _ => some .dataType
  | .scanPattern _ => some .scanPattern
  | .blindSpot _ => some .blindSpot
  | .dualEmit _ => some .dualEmit
  | _ => none

/-- The bit that a setting has while it waits. -/
def SdkSetting.bit (setting : SdkSetting E) : UInt32 :=
  match setting.code with
  | some code => code.bit
  | none => 0

/-- What a callback is to do: it reads the response through no null pointer; with success it
clears the bit of its setting, of the lidar that answered, and no other; and on a timeout it sends
the same command again. -/
structure CallbackOk (d : ConfigDriver E) (cb : Callback (SdkSetting E)) : Prop where
  response : (d.callback cb).All (· ≠ none)
  success : cb.status = .success → ∀ i, ((d.callback cb).val.lds.lidars i).setBits =
    if getLidarDevice d.lds cb.handle = some i then
      (d.lds.lidars i).setBits &&& ~~~cb.command.cb.bit
    else (d.lds.lidars i).setBits
  timeout : cb.status = .timeout → (d.callback cb).val.sent = d.sent ++ [requestOf cb]

/-- The outcomes that are handled: all but a failed send of one of the four settings, and a
timeout of the command for the IMU. -/
def Tolerated : SdkSetting E → Status → Prop
  | .installAttitude _, _ => True
  | .workMode, _ => True
  | .imuData, status => status ≠ .timeout
  | _, status => status ≠ .sendFailed

/-! ### What was sent -/

/-- The command is one that the driver makes of the lidar's configuration. -/
def FromConfig (d : ConfigDriver E) (request : SdkRequest E) : Prop :=
  request.setting = .workMode ∨
    ∃ i, getLidarDevice d.lds request.handle = some i ∧
      (request.setting = .imuData ∨
        (∃ code, request.setting = (d.lds.lidars i).livoxConfig.setting code) ∨
        request.setting = .installAttitude (d.extrinsicParam i) ∧
          (d.lds.lidars i).livoxConfig.handle = request.handle)

/-- The devices of the lidars, and what was sent. -/
structure Sent (d : ConfigDriver E) : Prop where
  indexed : Indexed d.lds
  own : ∀ h i, d.lds.mapIndex h = some i → h ∉ d.reported → (d.lds.lidars i).livoxConfig.handle = h
  sent : ∀ request ∈ d.sent, FromConfig d request

section Driver

variable {d d' : ConfigDriver E} {handle : UInt32} {cb : Callback (SdkSetting E)}

/-- The devices and their configurations stay as they are. -/
structure Keeps (d d' : ConfigDriver E) : Prop where
  mapIndex : ∀ h i, d.lds.mapIndex h = some i → d'.lds.mapIndex h = some i
  config : ∀ i, (d'.lds.lidars i).livoxConfig = (d.lds.lidars i).livoxConfig
  extrinsicParam : d'.extrinsicParam = d.extrinsicParam

theorem FromConfig.keeps {request : SdkRequest E} (h : FromConfig d request) (hkeeps : Keeps d d') :
    FromConfig d' request := by
  rcases h with hmode | ⟨i, hindex, hsetting⟩
  · exact .inl hmode
  · refine .inr ⟨i, hkeeps.mapIndex _ _ hindex, ?_⟩
    rw [hkeeps.config i, hkeeps.extrinsicParam]
    exact hsetting

/-- Success changes only the bits and the connection of a device. -/
theorem setCallback_success (code : ConfigCode) (handle : UInt32) (s : LdsLidar) :
    (setCallback code .success handle s).mapIndex = s.mapIndex ∧
      (setCallback code .success handle s).indexCache = s.indexCache ∧
      ∀ i, ((setCallback code .success handle s).lidars i).livoxConfig = (s.lidars i).livoxConfig ∧
        ((setCallback code .success handle s).lidars i).setBits =
          if getLidarDevice s handle = some i then (s.lidars i).setBits &&& ~~~code.bit
          else (s.lidars i).setBits := by
  unfold setCallback
  cases getLidarDevice s handle with
  | none => exact ⟨rfl, rfl, fun i => ⟨rfl, rfl⟩⟩
  | some index =>
    refine ⟨rfl, rfl, fun i => ?_⟩
    by_cases hi : index = i
    · subst hi
      rw [if_pos rfl]
      dsimp only
      rw [Function.update_self]
      exact ⟨rfl, rfl⟩
    · rw [if_neg (fun heq => hi (Option.some.inj heq))]
      dsimp only
      rw [Function.update_of_ne (Ne.symm hi)]
      exact ⟨rfl, rfl⟩

/-- A report keeps the devices, and may give the lidar one. -/
theorem lidarInfoChangeCallback_keeps {s : LdsLidar} (hs : Indexed s) (handle : UInt32) :
    Indexed (lidarInfoChangeCallback handle s) ∧
      (∀ h i, s.mapIndex h = some i → (lidarInfoChangeCallback handle s).mapIndex h = some i) ∧
      (∀ h i, h ≠ handle → (lidarInfoChangeCallback handle s).mapIndex h = some i →
        s.mapIndex h = some i) ∧
      (∀ i, ((lidarInfoChangeCallback handle s).lidars i).livoxConfig =
        (s.lidars i).livoxConfig) ∧
      (s.mapIndex handle = none → (getFreeIndex s handle).isSome →
        ∃ i, (lidarInfoChangeCallback handle s).mapIndex handle = some i) := by
  unfold lidarInfoChangeCallback getLidarDevice
  cases hdevice : s.mapIndex handle with
  | none =>
    dsimp only
    cases hfree : getFreeIndex s handle with
    | none =>
      exact ⟨hs, fun _ _ h => h, fun _ _ _ h => h, fun _ => rfl, fun _ hsome => nomatch hsome⟩
    | some found =>
      obtain ⟨index, s'⟩ := found
      obtain ⟨hindexed, hlidars, -, hmap, -⟩ := getFreeIndex_spec hs hfree
      have hinjective := hindexed.injective
      have htaken := hindexed.taken
      dsimp only
      rw [hmap] at hinjective htaken ⊢
      rw [hlidars]
      refine ⟨⟨hinjective, htaken⟩, ?_, ?_, ?_, ?_⟩
      · intro h i hi
        have hne : h ≠ handle := by
          rintro rfl
          rw [hdevice] at hi
          cases hi
        rw [Function.update_of_ne hne]
        exact hi
      · intro h i hne hi
        rwa [Function.update_of_ne hne] at hi
      · intro i
        by_cases hi : i = index
        · rw [hi, Function.update_self]
        · rw [Function.update_of_ne hi]
      · exact fun _ _ => ⟨index, Function.update_self ..⟩
  | some index =>
    dsimp only
    rw [requestSettings_eq]
    refine ⟨⟨hs.injective, hs.taken⟩, fun _ _ h => h, fun _ _ _ h => h, ?_, fun hnone => nomatch hnone⟩
    intro i
    dsimp only
    by_cases hi : i = index
    · rw [hi, Function.update_self]
    · rw [Function.update_of_ne hi]

theorem sent_append (h : Sent d) {requests : List (SdkRequest E)}
    (hrequests : ∀ request ∈ requests, FromConfig d request) :
    Sent { d with sent := d.sent ++ requests } := by
  refine ⟨h.indexed, h.own, ?_⟩
  intro request hmem
  rcases List.mem_append.mp hmem with hmem | hmem
  · exact h.sent request hmem
  · exact hrequests request hmem

theorem Sent.send (h : Sent d) (handle : UInt32) (setting : SdkSetting E)
    (hrequest : FromConfig d ⟨handle, setting⟩) : Sent (d.send handle setting) := by
  apply sent_append h
  intro request hmem
  rw [List.mem_singleton.mp hmem]
  exact hrequest

theorem configRequests_fromConfig {index : Fin kMaxSourceLidar}
    (hdevice : getLidarDevice d.lds handle = some index)
    (hown : (d.lds.lidars index).livoxConfig.handle = handle) :
    ∀ request ∈ d.configRequests handle index, FromConfig d request := by
  intro request hmem
  rcases List.mem_append.mp hmem with hmem | hmem
  · obtain ⟨code, -, rfl⟩ := List.mem_map.mp hmem
    exact .inr ⟨index, hdevice, .inr (.inl ⟨code, rfl⟩)⟩
  · rw [List.mem_singleton.mp hmem, hown]
    exact .inr ⟨index, hdevice, .inr (.inr ⟨rfl, hown⟩)⟩

/-- **A report sends what the configuration says.** -/
theorem infoChange_sent (h : Sent d) (hnew : handle ∉ d.reported) : Sent (d.infoChange handle) := by
  obtain ⟨hindexed, hmap, hmap', hconfig, hfree⟩ := lidarInfoChangeCallback_keeps h.indexed handle
  have hkeeps : Keeps d { d with
      lds := lidarInfoChangeCallback handle d.lds
      reported := handle :: d.reported } := ⟨hmap, hconfig, rfl⟩
  have hchanged : Sent { d with
      lds := lidarInfoChangeCallback handle d.lds
      reported := handle :: d.reported } := by
    refine ⟨hindexed, ?_, fun request hmem => (h.sent request hmem).keeps hkeeps⟩
    intro h' i hi hnot
    have hne : h' ≠ handle := fun heq => hnot (heq ▸ List.mem_cons_self)
    show ((lidarInfoChangeCallback handle d.lds).lidars i).livoxConfig.handle = h'
    rw [hconfig]
    exact h.own h' i (hmap' h' i hne hi) fun hmem => hnot (List.mem_cons_of_mem _ hmem)
  unfold ConfigDriver.infoChange
  dsimp only
  cases hdevice : getLidarDevice d.lds handle with
  | none =>
    dsimp only
    cases hindex : getFreeIndex d.lds handle with
    | none => exact hchanged
    | some found =>
      obtain ⟨i, hi⟩ := hfree hdevice (by rw [hindex]; rfl)
      have hmode := hchanged.send handle .workMode (.inl rfl)
      exact hmode.send handle .imuData (.inr ⟨i, hi, .inl rfl⟩)
  | some index =>
    have hown := h.own handle index hdevice hnew
    have hconfigs := configRequests_fromConfig hdevice hown
    have hsettings := sent_append hchanged fun request hmem => (hconfigs request hmem).keeps hkeeps
    have hmode := hsettings.send handle .workMode (.inl rfl)
    exact hmode.send handle .imuData (.inr ⟨index, hmap handle index hdevice, .inl rfl⟩)

theorem setting_code (config : UserLivoxLidarConfig) (code : ConfigCode) :
    (config.setting code : SdkSetting E).code = some code := by
  cases code <;> rfl

/-- The commands that are none of the four settings. -/
theorem SdkSetting.of_code_none {setting : SdkSetting E} (h : setting.code = none) :
    (∃ attitude, setting = .installAttitude attitude) ∨ setting = .workMode ∨
      setting = .imuData := by
  cases setting with
  | pclDataType | scanPattern | blindSpot | dualEmit => cases h
  | installAttitude attitude => exact .inl ⟨attitude, rfl⟩
  | workMode => exact .inr (.inl rfl)
  | imuData => exact .inr (.inr rfl)

/-- The four settings have one callback, with their bit. -/
theorem callback_of_code {code : ConfigCode} (h : cb.command.cb.code = some code) :
    d.callback cb = d.setConfigCallback code cb.status cb.handle cb.data ∧
      cb.command.cb.bit = code.bit := by
  have hbit : cb.command.cb.bit = code.bit := by
    unfold SdkSetting.bit
    rw [h]
  refine ⟨?_, hbit⟩
  unfold ConfigDriver.callback
  cases hsetting : cb.command.cb with
  | pclDataType | scanPattern | blindSpot | dualEmit =>
    rw [hsetting] at h
    cases h
    rfl
  | installAttitude | workMode | imuData =>
    rw [hsetting] at h
    cases h

/-- A setting that was sent is that of the lidar's device. -/
theorem FromConfig.of_code {request : SdkRequest E} {code : ConfigCode} (h : FromConfig d request)
    (hcode : request.setting.code = some code) :
    ∃ i, getLidarDevice d.lds request.handle = some i ∧
      request.setting = (d.lds.lidars i).livoxConfig.setting code := by
  rcases h with hmode | ⟨i, hdevice, himu | ⟨code', hsetting⟩ | ⟨hattitude, -⟩⟩
  · rw [hmode] at hcode
    cases hcode
  · rw [himu] at hcode
    cases hcode
  · rw [hsetting, setting_code] at hcode
    cases hcode
    exact ⟨i, hdevice, hsetting⟩
  · rw [hattitude] at hcode
    cases hcode

/-- An acknowledgement changes no configuration. -/
theorem setCallback_sent (h : Sent d) (code : ConfigCode) (handle : UInt32) :
    Sent { d with lds := setCallback code .success handle d.lds } := by
  obtain ⟨hmap, hcache, hdevices⟩ := setCallback_success code handle d.lds
  have hkeeps : Keeps d { d with lds := setCallback code .success handle d.lds } := by
    refine ⟨?_, fun i => (hdevices i).1, rfl⟩
    intro h' i hi
    show (setCallback code .success handle d.lds).mapIndex h' = some i
    rw [hmap, hi]
  refine ⟨⟨?_, ?_⟩, ?_, fun request hmem => (h.sent request hmem).keeps hkeeps⟩
  · show ∀ h h' i, (setCallback code .success handle d.lds).mapIndex h = some i → _
    rw [hmap]
    exact h.indexed.injective
  · show ∀ h i, (setCallback code .success handle d.lds).mapIndex h = some i →
      (setCallback code .success handle d.lds).indexCache i = true
    rw [hmap, hcache]
    exact h.indexed.taken
  · show ∀ h' i, (setCallback code .success handle d.lds).mapIndex h' = some i → h' ∉ d.reported →
      ((setCallback code .success handle d.lds).lidars i).livoxConfig.handle = h'
    intro h' i hi hnot
    rw [hmap] at hi
    rw [(hdevices i).1]
    exact h.own h' i hi hnot

/-- With success a callback clears its bit. -/
theorem callback_success (h : cb.status = .success) :
    d.callback cb = pure { d with lds :=
      match cb.command.cb.code with
      | some code => setCallback code .success cb.handle d.lds
      | none => d.lds } := by
  cases hcode : cb.command.cb.code with
  | some code =>
    rw [(callback_of_code hcode).1, h]
    unfold ConfigDriver.setConfigCallback setCallback
    cases getLidarDevice d.lds cb.handle <;> rfl
  | none =>
    unfold ConfigDriver.callback
    rcases SdkSetting.of_code_none hcode with ⟨attitude, hattitude⟩ | hmode | himu
    · rw [hattitude, h]
      unfold ConfigDriver.setAttitudeCallback
      cases getLidarDevice d.lds cb.handle <;> rfl
    · rw [hmode, h]
      rfl
    · rw [himu, h]
      unfold ConfigDriver.enableLivoxLidarImuDataCallback
      cases getLidarDevice d.lds cb.handle with
      | none => rfl
      | some index =>
        dsimp only
        rw [ite_self]

/-- On a timeout the command is sent again. -/
theorem callback_timeout (hfrom : FromConfig d (requestOf cb)) (hhandle : cb.handle = cb.command.handle)
    (h : cb.status = .timeout) (hsetting : cb.command.cb ≠ .imuData) :
    d.callback cb = pure { d with sent := d.sent ++ [requestOf cb] } := by
  cases hcode : cb.command.cb.code with
  | some code =>
    obtain ⟨i, hdevice, heq⟩ := hfrom.of_code hcode
    have hdevice : getLidarDevice d.lds cb.command.handle = some i := hdevice
    have heq : cb.command.cb = (d.lds.lidars i).livoxConfig.setting code := heq
    rw [(callback_of_code hcode).1, h, hhandle]
    unfold ConfigDriver.setConfigCallback requestOf
    rw [hdevice, heq]
    rfl
  | none =>
    rcases hfrom with hmode | ⟨i, hdevice, himu | ⟨code, heq⟩ | ⟨hattitude, hown⟩⟩
    · have hmode : cb.command.cb = .workMode := hmode
      unfold ConfigDriver.callback requestOf
      rw [hmode, h, hhandle]
      rfl
    · exact absurd himu hsetting
    · have heq : cb.command.cb = (d.lds.lidars i).livoxConfig.setting code := heq
      rw [heq, setting_code] at hcode
      cases hcode
    · have hdevice : getLidarDevice d.lds cb.command.handle = some i := hdevice
      have hattitude : cb.command.cb = .installAttitude (d.extrinsicParam i) := hattitude
      have hown : (d.lds.lidars i).livoxConfig.handle = cb.command.handle := hown
      unfold ConfigDriver.callback ConfigDriver.setAttitudeCallback requestOf
      rw [hattitude, h, hhandle]
      dsimp only
      rw [hdevice]
      dsimp only
      rw [hown]
      rfl

/-- The callback of the IMU does nothing without a response. -/
theorem callback_imuData (hsetting : cb.command.cb = .imuData) (hdata : cb.data = none) :
    d.callback cb = pure d := by
  unfold ConfigDriver.callback ConfigDriver.enableLivoxLidarImuDataCallback
  rw [hsetting, hdata]
  dsimp only
  cases getLidarDevice d.lds cb.handle <;> rfl

/-- When a send fails, at most the work mode is sent again. -/
theorem callback_sendFailed (h : cb.status = .sendFailed) :
    (d.callback cb).val = d ∨ (d.callback cb).val = d.send cb.handle .workMode := by
  cases hcode : cb.command.cb.code with
  | some code =>
    rw [(callback_of_code hcode).1, h]
    unfold ConfigDriver.setConfigCallback
    cases getLidarDevice d.lds cb.handle <;> exact .inl rfl
  | none =>
    unfold ConfigDriver.callback
    rcases SdkSetting.of_code_none hcode with ⟨attitude, hattitude⟩ | hmode | himu
    · rw [hattitude, h]
      unfold ConfigDriver.setAttitudeCallback
      cases getLidarDevice d.lds cb.handle <;> exact .inl rfl
    · rw [hmode, h]
      exact .inr rfl
    · rw [himu, h]
      unfold ConfigDriver.enableLivoxLidarImuDataCallback
      cases getLidarDevice d.lds cb.handle with
      | none => exact .inl rfl
      | some index =>
        dsimp only
        rw [ite_self]
        exact .inl rfl

/-- **An answer is followed by commands of the configuration only.** -/
theorem callback_sent (h : Sent d) (hcb : requestOf cb ∈ d.sent) (hanswer : Responded cb) :
    Sent (d.callback cb).val := by
  have hfrom := h.sent _ hcb
  cases hstatus : cb.status with
  | success =>
    rw [callback_success hstatus]
    cases cb.command.cb.code with
    | none => exact h
    | some code => exact setCallback_sent h code cb.handle
  | timeout =>
    obtain ⟨hdata, hhandle⟩ := hanswer.failed hstatus (by decide)
    by_cases hsetting : cb.command.cb = .imuData
    · rw [callback_imuData hsetting hdata]
      exact h
    · rw [callback_timeout hfrom hhandle hstatus hsetting]
      apply sent_append h
      intro request hmem
      rw [List.mem_singleton.mp hmem]
      exact hfrom
  | sendFailed =>
    rcases callback_sendFailed (d := d) hstatus with heq | heq
    · rw [heq]
      exact h
    · rw [heq]
      exact h.send cb.handle .workMode (.inl rfl)

/-- In all runs of the driver its commands are those of the configuration. -/
theorem driver_run {configs : List UserLivoxLidarConfig} {extrinsicParam : Fin kMaxSourceLidar → E}
    {tr : List (ConfigDriver E × ConfigEvent E)}
    (h : Run ConfigDriver.step AnswersSent (.init configs extrinsicParam) tr d) : Sent d := by
  induction h with
  | nil =>
    refine ⟨(initLivoxLidar_idle configs).indexed, ?_, fun request hmem => nomatch hmem⟩
    intro handle i hi _
    have hconfig := List.mem_of_getLast? (initLivoxLidar_config configs hi)
    exact of_decide_eq_true (List.mem_filter.mp hconfig).2
  | snoc hrun hok hstep ih =>
    rename_i tr d₀ d₁ ev
    cases ev with
    | report handle =>
      have hstep : (if handle ∈ d₀.reported then none else some (d₀.infoChange handle)) = some d₁ :=
        hstep
      split at hstep
      · cases hstep
      · rename_i hnew
        cases hstep
        exact infoChange_sent ih hnew
    | answer cb =>
      cases hstep
      exact callback_sent ih hok.1 hok.2

/-! ### The outcomes -/

theorem tolerated_iff {setting : SdkSetting E} {status : Status} : Tolerated setting status ↔
    (status = .timeout → setting ≠ .imuData) ∧ (status = .sendFailed → setting.code = none) := by
  cases setting <;> cases status <;> simp [Tolerated, SdkSetting.code]

/-- No callback but those of the four settings uses the response without a test. -/
theorem callback_reads (h : cb.command.cb.code = none) : (d.callback cb).All (· ≠ none) := by
  unfold ConfigDriver.callback
  rcases SdkSetting.of_code_none h with ⟨attitude, heq⟩ | heq | heq <;>
  · rw [heq]
    exact Traced.all_pure _

/-- Those of the four settings use a null pointer when the send failed. -/
theorem callback_readsNull (hfrom : FromConfig d (requestOf cb)) (hanswer : Responded cb)
    (hstatus : cb.status = .sendFailed) {code : ConfigCode} (hcode : cb.command.cb.code = some code) :
    ¬ (d.callback cb).All (· ≠ none) := by
  obtain ⟨i, hdevice, -⟩ := hfrom.of_code hcode
  have hdevice : getLidarDevice d.lds cb.command.handle = some i := hdevice
  obtain ⟨hdata, hhandle⟩ := hanswer.failed hstatus (by decide)
  have hlog : (d.callback cb).log = [none] := by
    rw [(callback_of_code hcode).1, hstatus, hhandle, hdata]
    unfold ConfigDriver.setConfigCallback
    rw [hdevice]
    rfl
  intro hall
  apply hall none
  · rw [hlog]
    exact List.mem_singleton_self none
  · rfl

theorem callbackOk_success (h : cb.status = .success) : CallbackOk d cb := by
  have hpure := callback_success (d := d) h
  refine ⟨?_, fun _ i => ?_, fun htimeout => ?_⟩
  · rw [hpure]
    exact Traced.all_pure _
  · rw [hpure]
    cases hcode : cb.command.cb.code with
    | some code =>
      rw [(callback_of_code (d := d) hcode).2]
      exact ((setCallback_success code cb.handle d.lds).2.2 i).2
    | none =>
      have hbit : cb.command.cb.bit = 0 := by
        unfold SdkSetting.bit
        rw [hcode]
      rw [hbit, show (d.lds.lidars i).setBits &&& ~~~(0 : UInt32) = (d.lds.lidars i).setBits by simp,
        ite_self]
      rfl
  · rw [h] at htimeout
    cases htimeout

/-- **A callback does what it is to do exactly when its outcome is one that is handled.** -/
theorem callbackOk_of_sent (hfrom : FromConfig d (requestOf cb)) (hanswer : Responded cb) :
    CallbackOk d cb ↔ Tolerated cb.command.cb cb.status := by
  rw [tolerated_iff]
  cases hstatus : cb.status with
  | success =>
    exact iff_of_true (callbackOk_success hstatus) ⟨(nomatch ·), (nomatch ·)⟩
  | timeout =>
    obtain ⟨hdata, hhandle⟩ := hanswer.failed hstatus (by decide)
    constructor
    · intro hok
      refine ⟨fun _ hsetting => ?_, (nomatch ·)⟩
      have hsent := congrArg List.length (hok.timeout hstatus)
      rw [callback_imuData hsetting hdata] at hsent
      simp at hsent
    · intro htolerated
      have hpure := callback_timeout hfrom hhandle hstatus (htolerated.1 rfl)
      refine ⟨?_, (nomatch hstatus.symm.trans ·), fun _ => ?_⟩
      · rw [hpure]
        exact Traced.all_pure _
      · rw [hpure]
        rfl
  | sendFailed =>
    constructor
    · intro hok
      refine ⟨(nomatch ·), fun _ => ?_⟩
      cases hcode : cb.command.cb.code with
      | none => rfl
      | some code => exact absurd hok.response (callback_readsNull hfrom hanswer hstatus hcode)
    · intro htolerated
      exact ⟨callback_reads (htolerated.2 rfl), (nomatch hstatus.symm.trans ·),
        (nomatch hstatus.symm.trans ·)⟩

end Driver

/-- **Whatever the SDK answers, a callback does what it is to do exactly when the outcome is neither
a failed send of one of the four settings nor a timeout of the command for the IMU.** -/
theorem callbackOk_iff (crc : FastCRC) (isView : Bool) (configs : List UserLivoxLidarConfig)
    (extrinsicParam : Fin kMaxSourceLidar → E) (tr : List (Step (SdkSetting E)))
    (sdk : GeneralCommandHandler (SdkSetting E)) (trd : List (ConfigDriver E × ConfigEvent E))
    (d : ConfigDriver E)
    (hsdk : Run (GeneralCommandHandler.step crc) (fun _ _ => True) (.init isView) tr sdk)
    (hd : Run ConfigDriver.step AnswersSent (.init configs extrinsicParam) trd d)
    (cb : Callback (SdkSetting E)) (hcb : cb ∈ sdk.callbacks) (hsent : requestOf cb ∈ d.sent) :
    CallbackOk d cb ↔ Tolerated cb.command.cb cb.status :=
  callbackOk_of_sent ((driver_run hd).sent _ hsent) (run_responded hsdk cb hcb)

/-- The SDK sends one command, in vain. -/
theorem failedSend_run (setting : SdkSetting Unit) :
    ∃ (tr : List (Step (SdkSetting Unit))) (sdk : GeneralCommandHandler (SdkSetting Unit)),
      Run (GeneralCommandHandler.step FastCRC.standard) (fun _ _ => True) (.init false) tr sdk ∧
        sdk.callbacks = [⟨⟨0, 2, 0x0100, kCommandTypeCmd, 1, kDefaultTimeOut, setting⟩, .sendFailed,
          1, none⟩] := by
  obtain ⟨sdk, hs⟩ : ∃ s, exec (GeneralCommandHandler.step FastCRC.standard) (.init false)
      [.detected 1 kLivoxLidarTypeMid360, .begin 1 0x0100 setting, .send 0 false] = some s :=
    ⟨_, rfl⟩
  obtain ⟨tr, -, hrun⟩ := Run.of_exec hs
  cases hs
  exact ⟨tr, _, hrun, rfl⟩

/-- One lidar that is to send points of type 1, and that was reported. -/
def oneLidar : ConfigDriver Unit :=
  (ConfigDriver.init [⟨1, 1, -1, -1, -1⟩] fun _ => ()).infoChange 1

theorem oneLidar_run : ∃ (trd : List (ConfigDriver Unit × ConfigEvent Unit)),
    Run ConfigDriver.step AnswersSent (.init [⟨1, 1, -1, -1, -1⟩] fun _ => ()) trd oneLidar ∧
      oneLidar.sent = [⟨1, .pclDataType 1⟩, ⟨1, .installAttitude ()⟩, ⟨1, .workMode⟩,
        ⟨1, .imuData⟩] := by
  have hreport : AnswersSent (.init [⟨1, 1, -1, -1, -1⟩] fun _ => ()) (.report 1 : ConfigEvent Unit) :=
    trivial
  refine ⟨_, Run.nil.snoc hreport ?_, ?_⟩
  · rfl
  · decide

/-- A work mode that was not sent is sent again. -/
theorem callbackOk_workMode : ∃ cb : Callback (SdkSetting Unit), cb.command.cb = .workMode ∧
    cb.status = .sendFailed ∧ cb.data = none ∧ CallbackOk oneLidar cb := by
  obtain ⟨tr, sdk, hsdk, hcallbacks⟩ := failedSend_run .workMode
  obtain ⟨trd, hd, hsent⟩ := oneLidar_run
  have hcb := hcallbacks ▸ List.mem_singleton_self _
  refine ⟨_, rfl, rfl, rfl, (callbackOk_iff _ _ _ _ _ _ _ _ hsdk hd _ hcb ?_).mpr trivial⟩
  rw [hsent]
  decide

/-- The data type of the points was not sent: its callback uses the response, which is null. -/
theorem dataType_failedSend : ¬ ∀ (crc : FastCRC) (isView : Bool)
    (configs : List UserLivoxLidarConfig) (extrinsicParam : Fin kMaxSourceLidar → Unit)
    (tr : List (Step (SdkSetting Unit))) (sdk : GeneralCommandHandler (SdkSetting Unit))
    (trd : List (ConfigDriver Unit × ConfigEvent Unit)) (d : ConfigDriver Unit),
    Run (GeneralCommandHandler.step crc) (fun _ _ => True) (.init isView) tr sdk →
      Run ConfigDriver.step AnswersSent (.init configs extrinsicParam) trd d →
        ∀ cb ∈ sdk.callbacks, requestOf cb ∈ d.sent → CallbackOk d cb := by
  intro hall
  obtain ⟨tr, sdk, hsdk, hcallbacks⟩ := failedSend_run (.pclDataType 1)
  obtain ⟨trd, hd, hsent⟩ := oneLidar_run
  have hcb := hcallbacks ▸ List.mem_singleton_self _
  have hmem : (⟨1, .pclDataType 1⟩ : SdkRequest Unit) ∈ oneLidar.sent := by
    rw [hsent]
    decide
  have hok := hall _ _ _ _ _ _ _ _ hsdk hd _ hcb hmem
  refine callback_readsNull ?_ (run_responded hsdk _ hcb) rfl rfl hok.response
  exact (driver_run hd).sent _ hmem

end Livox
end SensorSupport
