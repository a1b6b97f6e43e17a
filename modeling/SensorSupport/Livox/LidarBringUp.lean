/-
# Bringing a lidar up (`livox_ros_driver2/src/call_back/livox_lidar_callback.cpp`)

A lidar of the user configuration has a device with its settings. When the SDK first
reports a lidar, each setting requested for it sets a bit of the device and is sent; a
successful acknowledgement clears the bit, and the one that clears the last bit
changes the device to sampling. A timeout sends the setting again.

The bits follow the settings that wait for an acknowledgement (`Following`), so a
lidar with a setting requested samples exactly when all are acknowledged. Without a
setting requested no acknowledgement comes, and the lidar never samples
(`bringUp_iff`).

Key definitions: `LdsLidar`, `lidarInfoChangeCallback`, `setCallback`, `bringUpStep`, `Settled`.
Key theorems: `bringUpStep_following`, `bringUp_iff`.
-/
import Mathlib.Data.List.FinRange
import Mathlib.Logic.Function.Basic
import SensorSupport.Lib.Run
import SensorSupport.Livox.LidarPolling

namespace SensorSupport
namespace Livox

/-! ### Configurations and devices -/

/-- `LivoxLidarConfigCodeBit`. -/
inductive ConfigCode
  | dataType
  | scanPattern
  | blindSpot
  | dualEmit
deriving DecidableEq, Repr

/-- The bit of a code. -/
def ConfigCode.bit : ConfigCode → UInt32
  | .dataType => 1
  | .scanPattern => 2
  | .blindSpot => 4
  | .dualEmit => 8

/-- The codes in the order they are requested. -/
def ConfigCode.all : List ConfigCode := [.dataType, .scanPattern, .blindSpot, .dualEmit]

/-- The settings of `UserLivoxLidarConfig`; -1 requests none. -/
structure UserLivoxLidarConfig where
  handle : UInt32
  pclDataType : Int8
  patternMode : Int8
  blindSpotSet : Int32
  dualEmitEn : Int8
deriving DecidableEq, Repr

/-- The address and the members of one entry of `lidar_configs`. -/
structure LidarConfigEntry where
  ip : UInt32
  pclDataType : Option Int32
  patternMode : Option Int32
  blindSpotSet : Option Int32
  dualEmitEn : Option Int32

/-- `LivoxLidarConfigParser::ParseUserConfigs` on one entry. -/
def parseUserConfig (entry : LidarConfigEntry) : UserLivoxLidarConfig where
  handle := entry.ip
  pclDataType := (entry.pclDataType.map Int32.toInt8).getD (-1)
  patternMode := (entry.patternMode.map Int32.toInt8).getD (-1)
  blindSpotSet := (entry.blindSpotSet.map fun value => value.toInt8.toInt32).getD (-1)
  dualEmitEn := (entry.dualEmitEn.map fun value => value.toUInt32.toUInt8.toInt8).getD (-1)

/-- The setting of a code. -/
def UserLivoxLidarConfig.value (config : UserLivoxLidarConfig) : ConfigCode → Int32
  | .dataType => config.pclDataType.toInt32
  | .scanPattern => config.patternMode.toInt32
  | .blindSpot => config.blindSpotSet
  | .dualEmit => config.dualEmitEn.toInt32

/-- The setting is requested. -/
def UserLivoxLidarConfig.requests (config : UserLivoxLidarConfig) (code : ConfigCode) : Bool :=
  config.value code != -1

/-- `LidarDevice`; `setBits` are those of its `livox_config`. -/
structure LidarDevice where
  lidarType : LidarProtoType
  handle : UInt32
  connectState : LidarConnectState
  livoxConfig : UserLivoxLidarConfig
  setBits : UInt32
deriving DecidableEq, Repr

/-- A request that the SDK has sent and that is not answered. -/
structure ConfigRequest where
  handle : UInt32
  code : ConfigCode
  value : Int32
deriving DecidableEq, Repr

/-- `LdsLidar` with its `CacheIndex`, and the requests that wait in the SDK. -/
structure LdsLidar where
  mapIndex : UInt32 → Option (Fin kMaxSourceLidar)
  indexCache : Fin kMaxSourceLidar → Bool
  lidars : Fin kMaxSourceLidar → LidarDevice
  requests : List ConfigRequest

/-- The devices of a static object behind `ResetLds`. -/
def LdsLidar.reset : LdsLidar where
  mapIndex _ := none
  indexCache _ := false
  lidars _ := ⟨.industry, 0, .off, ⟨0, 0, 0, 0, 0⟩, 0⟩
  requests := []

/-- `CacheIndex::GetFreeIndex` for a Livox lidar. -/
def getFreeIndex (s : LdsLidar) (handle : UInt32) : Option (Fin kMaxSourceLidar × LdsLidar) :=
  match s.mapIndex handle with
  | some index => some (index, s)
  | none =>
    ((List.finRange kMaxSourceLidar).find? fun i => !s.indexCache i).map fun i =>
      (i, { s with
        indexCache := Function.update s.indexCache i true
        mapIndex := Function.update s.mapIndex handle (some i) })

/-- `LivoxLidarCallback::GetLidarDevice`: the index of the device. -/
def getLidarDevice (s : LdsLidar) (handle : UInt32) : Option (Fin kMaxSourceLidar) :=
  s.mapIndex handle

/-- The body of the loop of `LdsLidar::InitLivoxLidar`. -/
def fillIn (s : LdsLidar) (config : UserLivoxLidarConfig) : LdsLidar :=
  match getFreeIndex s config.handle with
  | none => s
  | some (index, s) =>
    { s with
      lidars := Function.update s.lidars index
        { s.lidars index with
          lidarType := .livox, livoxConfig := config, setBits := 0, handle := config.handle } }

/-- `LdsLidar::InitLivoxLidar`. -/
def initLivoxLidar (configs : List UserLivoxLidarConfig) : LdsLidar :=
  configs.foldl fillIn .reset

/-! ### The callbacks -/

/-- One of the four branches of `LidarInfoChangeCallback`. -/
def requestSetting (handle : UInt32) (index : Fin kMaxSourceLidar) (s : LdsLidar)
    (code : ConfigCode) : LdsLidar :=
  let device := s.lidars index
  if device.livoxConfig.requests code then
    { s with
      lidars := Function.update s.lidars index
        { device with setBits := device.setBits ||| code.bit }
      requests := s.requests ++ [⟨handle, code, device.livoxConfig.value code⟩] }
  else s

/-- `LivoxLidarCallback::LidarInfoChangeCallback`. -/
def lidarInfoChangeCallback (handle : UInt32) (s : LdsLidar) : LdsLidar :=
  match getLidarDevice s handle with
  | none =>
    match getFreeIndex s handle with
    | none => s
    | some (index, s) =>
      { s with
        lidars := Function.update s.lidars index { s.lidars index with lidarType := .livox } }
  | some index => ConfigCode.all.foldl (requestSetting handle index) s

/-- What the SDK calls a callback with: `kLivoxLidarStatusSuccess`,
`kLivoxLidarStatusTimeout` or another status. -/
inductive ConfigStatus
  | success
  | timeout
  | failure
deriving DecidableEq, Repr

/-- The four callbacks, which differ in their bit and in what they send again. -/
def setCallback (code : ConfigCode) (status : ConfigStatus) (handle : UInt32) (s : LdsLidar) :
    LdsLidar :=
  match getLidarDevice s handle with
  | none => s
  | some index =>
    let device := s.lidars index
    match status with
    | .success =>
      let setBits := device.setBits &&& ~~~code.bit
      { s with
        lidars := Function.update s.lidars index
          { device with
            setBits := setBits
            connectState := if setBits = 0 then .sampling else device.connectState } }
    | .timeout =>
      { s with requests := s.requests ++ [⟨handle, code, device.livoxConfig.value code⟩] }
    | .failure => s

/-- `LivoxLidarCallback::SetDataTypeCallback`. -/
def setDataTypeCallback := setCallback .dataType

/-- `LivoxLidarCallback::SetPatternModeCallback`. -/
def setPatternModeCallback := setCallback .scanPattern

/-- `LivoxLidarCallback::SetBlindSpotCallback`. -/
def setBlindSpotCallback := setCallback .blindSpot

/-- `LivoxLidarCallback::SetDualEmitCallback`. -/
def setDualEmitCallback := setCallback .dualEmit

/-- The callback a request was sent with. -/
def ConfigRequest.callback (request : ConfigRequest) (status : ConfigStatus) :
    LdsLidar → LdsLidar :=
  match request.code with
  | .dataType => setDataTypeCallback status request.handle
  | .scanPattern => setPatternModeCallback status request.handle
  | .blindSpot => setBlindSpotCallback status request.handle
  | .dualEmit => setDualEmitCallback status request.handle

/-! ### The driver and the SDK -/

/-- The driver, the lidars reported to it, and the settings requested for a lidar that
have not been acknowledged with success. -/
structure BringUp where
  lds : LdsLidar
  reported : List UInt32
  waiting : UInt32 → ConfigCode → Bool

/-- The driver behind `InitLivoxLidar`. -/
def BringUp.init (entries : List LidarConfigEntry) : BringUp :=
  ⟨initLivoxLidar (entries.map parseUserConfig), [], fun _ _ => false⟩

/-- The settings requested for a lidar: those of its device. -/
def requestedOf (s : LdsLidar) (handle : UInt32) (code : ConfigCode) : Bool :=
  match getLidarDevice s handle with
  | some index => (s.lidars index).livoxConfig.requests code
  | none => false

/-- What happens: the SDK reports a lidar, or answers a request. -/
inductive BringUpEvent
  | report (handle : UInt32)
  | answer (n : ℕ) (status : ConfigStatus)
deriving DecidableEq, Repr

/-- The SDK reports a lidar once (`is_callback`) and answers each request once. -/
def bringUpStep (s : BringUp) : BringUpEvent → Option BringUp
  | .report handle =>
    if handle ∈ s.reported then none
    else some
      { lds := lidarInfoChangeCallback handle s.lds
        reported := handle :: s.reported
        waiting := Function.update s.waiting handle (requestedOf s.lds handle) }
  | .answer n status =>
    s.lds.requests[n]?.map fun request =>
      { s with
        lds := request.callback status { s.lds with requests := s.lds.requests.eraseIdx n }
        waiting :=
          if status = .success then
            Function.update s.waiting request.handle
              (Function.update (s.waiting request.handle) request.code false)
          else s.waiting }

/-- The `connect_state` of a lidar; a lidar without a device is off. -/
def connectStateOf (s : LdsLidar) (handle : UInt32) : LidarConnectState :=
  match getLidarDevice s handle with
  | some index => (s.lidars index).connectState
  | none => .off

/-- The lidar samples exactly when no setting requested for it waits. -/
def Settled (s : BringUp) (handle : UInt32) : Prop :=
  connectStateOf s.lds handle = .sampling ↔ ∀ code, s.waiting handle code = false

/-! ### Bits -/

/-- The bits of some codes. -/
def setBitsOf (codes : ConfigCode → Bool) : UInt32 :=
  ConfigCode.all.foldl (fun bits code => if codes code then bits ||| code.bit else bits) 0

/-- The codes of four truth values. -/
def codesOf (a b c d : Bool) : ConfigCode → Bool
  | .dataType => a
  | .scanPattern => b
  | .blindSpot => c
  | .dualEmit => d

theorem codesOf_eta (codes : ConfigCode → Bool) :
    codesOf (codes .dataType) (codes .scanPattern) (codes .blindSpot) (codes .dualEmit) = codes := by
  funext code
  cases code <;> rfl

theorem setBitsOf_clear (codes : ConfigCode → Bool) (code : ConfigCode) :
    setBitsOf codes &&& ~~~code.bit = setBitsOf (Function.update codes code false) := by
  have key : ∀ a b c d, setBitsOf (codesOf a b c d) &&& ~~~code.bit =
      setBitsOf (Function.update (codesOf a b c d) code false) := by
    cases code <;> decide
  rw [← codesOf_eta codes]
  exact key _ _ _ _

theorem setBitsOf_eq_zero (codes : ConfigCode → Bool) :
    setBitsOf codes = 0 ↔ ∀ code, codes code = false := by
  have key : ∀ a b c d, setBitsOf (codesOf a b c d) = 0 →
      a = false ∧ b = false ∧ c = false ∧ d = false := by
    decide
  constructor
  · intro hzero
    rw [← codesOf_eta codes] at hzero
    obtain ⟨ha, hb, hc, hd⟩ := key _ _ _ _ hzero
    rintro (_ | _ | _ | _)
    · exact ha
    · exact hb
    · exact hc
    · exact hd
  · intro hnone
    rw [funext hnone]
    rfl

/-! ### Devices -/

section Devices

variable {s s' : LdsLidar} {handle : UInt32} {index i : Fin kMaxSourceLidar}

/-- Different lidars have different devices, each taken. -/
structure Indexed (s : LdsLidar) : Prop where
  injective : ∀ h h' i, s.mapIndex h = some i → s.mapIndex h' = some i → h = h'
  taken : ∀ h i, s.mapIndex h = some i → s.indexCache i = true

/-- A free index is that of the lidar, or a new one that only this lidar gets. -/
theorem getFreeIndex_spec (hs : Indexed s) (h : getFreeIndex s handle = some (index, s')) :
    Indexed s' ∧ s'.lidars = s.lidars ∧ s'.requests = s.requests ∧
      s'.mapIndex = Function.update s.mapIndex handle (some index) ∧
      (s.mapIndex handle = none → ∀ h, s.mapIndex h ≠ some index) := by
  unfold getFreeIndex at h
  split at h
  · rename_i old hold
    cases h
    refine ⟨hs, rfl, rfl, ?_, fun hnone => ?_⟩
    · rw [← hold, Function.update_eq_self]
    · rw [hold] at hnone
      cases hnone
  · rename_i hnone
    obtain ⟨i, hi, heq⟩ := Option.map_eq_some_iff.mp h
    cases heq
    have hfree : s.indexCache index = false := by
      have := List.find?_some hi
      simpa using this
    have hnot : ∀ h, s.mapIndex h ≠ some index := by
      intro h hh
      rw [hs.taken h index hh] at hfree
      cases hfree
    refine ⟨⟨?_, ?_⟩, rfl, rfl, rfl, fun _ => hnot⟩
    · intro h h' i hh hh'
      change Function.update s.mapIndex handle _ h = some i at hh
      change Function.update s.mapIndex handle _ h' = some i at hh'
      by_cases hhandle : h = handle
      · by_cases hhandle' : h' = handle
        · rw [hhandle, hhandle']
        · rw [hhandle, Function.update_self] at hh
          rw [Function.update_of_ne hhandle', ← hh] at hh'
          exact absurd hh' (hnot h')
      · by_cases hhandle' : h' = handle
        · rw [hhandle', Function.update_self] at hh'
          rw [Function.update_of_ne hhandle, ← hh'] at hh
          exact absurd hh (hnot h)
        · rw [Function.update_of_ne hhandle] at hh
          rw [Function.update_of_ne hhandle'] at hh'
          exact hs.injective h h' i hh hh'
    · intro h i hh
      change Function.update s.mapIndex handle _ h = some i at hh
      change Function.update s.indexCache index true i = true
      by_cases hi : i = index
      · rw [hi, Function.update_self]
      · rw [Function.update_of_ne hi]
        by_cases hhandle : h = handle
        · rw [hhandle, Function.update_self] at hh
          exact absurd (Option.some.inj hh).symm hi
        · rw [Function.update_of_ne hhandle] at hh
          exact hs.taken h i hh

/-- The devices before the first report: none is connected, and no bit is set. -/
structure Idle (s : LdsLidar) : Prop where
  indexed : Indexed s
  off : ∀ i, (s.lidars i).connectState = .off
  setBits : ∀ i, (s.lidars i).setBits = 0
  requests : s.requests = []

theorem reset_idle : Idle .reset where
  indexed := ⟨fun _ _ _ h => absurd h (by simp [LdsLidar.reset]),
    fun _ _ h => absurd h (by simp [LdsLidar.reset])⟩
  off _ := rfl
  setBits _ := rfl
  requests := rfl

theorem fillIn_idle (hs : Idle s) (config : UserLivoxLidarConfig) : Idle (fillIn s config) := by
  unfold fillIn
  split
  · exact hs
  · rename_i index s' hindex
    obtain ⟨hindexed, hlidars, hrequests, -⟩ := getFreeIndex_spec hs.indexed hindex
    refine ⟨⟨hindexed.injective, hindexed.taken⟩, ?_, ?_, hrequests.trans hs.requests⟩
    · intro i
      by_cases hi : i = index
      · subst hi
        simp only [Function.update_self, hlidars, hs.off]
      · simp only [Function.update_of_ne hi, hlidars, hs.off]
    · intro i
      by_cases hi : i = index
      · subst hi
        simp only [Function.update_self]
      · simp only [Function.update_of_ne hi, hlidars, hs.setBits]

theorem initLivoxLidar_idle (configs : List UserLivoxLidarConfig) :
    Idle (initLivoxLidar configs) := by
  have key : ∀ (configs : List UserLivoxLidarConfig) (s : LdsLidar), Idle s →
      Idle (configs.foldl fillIn s) := by
    intro configs
    induction configs with
    | nil => exact fun s hs => hs
    | cons config configs ih => exact fun s hs => ih _ (fillIn_idle hs config)
  exact key configs .reset reset_idle

/-- The device of a lidar has the last configuration with its address. -/
theorem initLivoxLidar_config (configs : List UserLivoxLidarConfig)
    (h : (initLivoxLidar configs).mapIndex handle = some index) :
    (configs.filter fun config => config.handle = handle).getLast? =
      some ((initLivoxLidar configs).lidars index).livoxConfig := by
  induction configs using List.reverseRecOn generalizing index with
  | nil => exact absurd h (by simp [initLivoxLidar, LdsLidar.reset])
  | append_singleton configs config ih =>
    have hidle := initLivoxLidar_idle configs
    have hinit : initLivoxLidar (configs ++ [config]) = fillIn (initLivoxLidar configs) config :=
      List.foldl_append
    rw [hinit] at h ⊢
    unfold fillIn at h ⊢
    rw [List.filter_append]
    split at h
    · rename_i hfull
      have hne : config.handle ≠ handle := by
        rintro rfl
        unfold getFreeIndex at hfull
        rw [h] at hfull
        cases hfull
      simpa [hfull, hne] using ih h
    · rename_i free s' hfree
      obtain ⟨-, hlidars, -, hmap, hother⟩ := getFreeIndex_spec hidle.indexed hfree
      change s'.mapIndex handle = some index at h
      rw [hmap] at h
      by_cases heq : config.handle = handle
      · rw [heq, Function.update_self] at h
        cases h
        simp [heq]
      · rw [Function.update_of_ne (Ne.symm heq)] at h
        have hne : index ≠ free := by
          rintro rfl
          cases hnone : (initLivoxLidar configs).mapIndex config.handle with
          | none => exact hother hnone handle h
          | some old =>
            have hold : old = index := by
              simp only [getFreeIndex, hnone, Option.some.injEq, Prod.mk.injEq] at hfree
              exact hfree.1
            exact heq (hidle.indexed.injective _ _ index (hold ▸ hnone) h)
        simpa [heq, Function.update_of_ne hne, hlidars] using ih h

/-- The branches of a reported lidar together: the bits and the requests of the
settings requested. -/
theorem requestSettings_eq : ∀ (codes : List ConfigCode) (s : LdsLidar),
    codes.foldl (requestSetting handle index) s =
      { s with
        lidars := Function.update s.lidars index { s.lidars index with
          setBits := codes.foldl (fun bits code =>
            if (s.lidars index).livoxConfig.requests code then bits ||| code.bit else bits)
            (s.lidars index).setBits }
        requests := s.requests ++ (codes.filter (s.lidars index).livoxConfig.requests).map
          fun code => ⟨handle, code, (s.lidars index).livoxConfig.value code⟩ }
  | [], s => by simp
  | code :: codes, s => by
    rw [List.foldl_cons, requestSettings_eq codes]
    unfold requestSetting
    dsimp only
    split
    · rename_i hrequests
      simp [hrequests]
    · rename_i hrequests
      simp [hrequests]

end Devices

/-! ### Runs -/

/-- The devices follow the settings that wait. `s₀` are the devices before the first
report. -/
structure Following (s₀ : LdsLidar) (s : BringUp) : Prop where
  indexed : Indexed s.lds
  kept : ∀ h i, s₀.mapIndex h = some i → s.lds.mapIndex h = some i
  known : ∀ h i, s.lds.mapIndex h = some i → s₀.mapIndex h = some i ∨ h ∈ s.reported
  config : ∀ h i, s₀.mapIndex h = some i →
    (s.lds.lidars i).livoxConfig = (s₀.lidars i).livoxConfig
  bits : ∀ h i, s₀.mapIndex h = some i → (s.lds.lidars i).setBits = setBitsOf (s.waiting h)
  sampling : ∀ h i, s₀.mapIndex h = some i → ((s.lds.lidars i).connectState = .sampling ↔
    h ∈ s.reported ∧ (∃ code, requestedOf s₀ h code = true) ∧ ∀ code, s.waiting h code = false)
  others : ∀ i, (∀ h, s₀.mapIndex h ≠ some i) → (s.lds.lidars i).connectState ≠ .sampling
  waits : ∀ h code, s.waiting h code = true → h ∈ s.reported ∧ requestedOf s₀ h code = true
  requests : ∀ r ∈ s.lds.requests, r.handle ∈ s.reported ∧ requestedOf s₀ r.handle r.code = true

section Following

variable {s₀ : LdsLidar} {s s' : BringUp} {handle : UInt32} {index : Fin kMaxSourceLidar}

theorem init_following (h₀ : Idle s₀) : Following s₀ ⟨s₀, [], fun _ _ => false⟩ where
  indexed := h₀.indexed
  kept _ _ h := h
  known _ _ h := .inl h
  config _ _ _ := rfl
  bits _ i _ := h₀.setBits i
  sampling _ i _ := by simp [h₀.off i]
  others i _ := by simp [h₀.off i]
  waits _ _ h := absurd h (by simp)
  requests _ h := absurd h (by simp [h₀.requests])

theorem requestedOf_none (h : s₀.mapIndex handle = none) (code : ConfigCode) :
    requestedOf s₀ handle code = false := by
  simp [requestedOf, getLidarDevice, h]

theorem requestedOf_some (h : s₀.mapIndex handle = some index) (code : ConfigCode) :
    requestedOf s₀ handle code = (s₀.lidars index).livoxConfig.requests code := by
  simp [requestedOf, getLidarDevice, h]

/-- The setting requested for a lidar is that of its device all along. -/
theorem Following.requestedOf_eq (h : Following s₀ s) (hindex : s₀.mapIndex handle = some index) :
    requestedOf s.lds handle = requestedOf s₀ handle := by
  funext code
  rw [requestedOf_some hindex, requestedOf_some (h.kept handle index hindex),
    h.config handle index hindex]

/-- Devices of the configuration are different for different lidars. -/
theorem Following.ne (h : Following s₀ s) {h' : UInt32} {i : Fin kMaxSourceLidar}
    (hindex : s₀.mapIndex handle = some index) (hi : s₀.mapIndex h' = some i)
    (hne : h' ≠ handle) : i ≠ index := by
  rintro rfl
  exact hne (h.indexed.injective h' handle i (h.kept h' i hi) (h.kept handle i hindex))

/-- A lidar that is not in the configuration is reported. -/
theorem Following.report_unknown (h : Following s₀ s) (hnone : s.lds.mapIndex handle = none) :
    Following s₀ ⟨lidarInfoChangeCallback handle s.lds, handle :: s.reported,
      Function.update s.waiting handle (requestedOf s.lds handle)⟩ := by
  have hnone₀ : s₀.mapIndex handle = none := by
    by_contra hsome
    obtain ⟨i, hi⟩ := Option.ne_none_iff_exists'.mp hsome
    rw [h.kept handle i hi] at hnone
    cases hnone
  have hne : ∀ h' i, s₀.mapIndex h' = some i → h' ≠ handle := by
    rintro h' i hi rfl
    rw [hnone₀] at hi
    cases hi
  have hwaiting : Function.update s.waiting handle (requestedOf s.lds handle) = s.waiting := by
    rw [Function.update_eq_self_iff]
    funext code
    rw [requestedOf_none hnone]
    by_contra hwait
    rw [eq_comm, Bool.not_eq_false] at hwait
    have := (h.waits handle code hwait).2
    rw [requestedOf_none hnone₀] at this
    cases this
  have hreported : ∀ h', h' ∈ s.reported → h' ∈ handle :: s.reported :=
    fun h' => List.mem_cons_of_mem _
  rw [hwaiting]
  -- the lidars of the configuration are the same, and no other samples
  have hframe : ∀ lds : LdsLidar, Indexed lds →
      (∀ h' i, s₀.mapIndex h' = some i → lds.mapIndex h' = some i) →
      (∀ h' i, lds.mapIndex h' = some i → s.lds.mapIndex h' = some i ∨ h' = handle) →
      (∀ i, ∃ lidarType, lds.lidars i = { s.lds.lidars i with lidarType := lidarType }) →
      lds.requests = s.lds.requests →
      Following s₀ ⟨lds, handle :: s.reported, s.waiting⟩ := by
    intro lds hindexed hkept hknown hlidars hrequests
    have hfields : ∀ i, (lds.lidars i).connectState = (s.lds.lidars i).connectState ∧
        (lds.lidars i).livoxConfig = (s.lds.lidars i).livoxConfig ∧
        (lds.lidars i).setBits = (s.lds.lidars i).setBits := by
      intro i
      obtain ⟨lidarType, heq⟩ := hlidars i
      rw [heq]
      exact ⟨rfl, rfl, rfl⟩
    refine ⟨hindexed, hkept, ?_, ?_, ?_, ?_, ?_, ?_, ?_⟩
    · intro h' i hi
      rcases hknown h' i hi with hold | rfl
      · exact (h.known h' i hold).imp_right (hreported h')
      · exact .inr List.mem_cons_self
    · intro h' i hi
      exact (hfields i).2.1.trans (h.config h' i hi)
    · intro h' i hi
      exact (hfields i).2.2.trans (h.bits h' i hi)
    · intro h' i hi
      rw [(hfields i).1, h.sampling h' i hi, List.mem_cons]
      simp only [hne h' i hi, false_or]
    · intro i hi
      rw [(hfields i).1]
      exact h.others i hi
    · intro h' code hwait
      exact (h.waits h' code hwait).imp_left (hreported h')
    · intro r hr
      rw [hrequests] at hr
      exact (h.requests r hr).imp_left (hreported _)
  unfold lidarInfoChangeCallback getLidarDevice
  rw [hnone]
  dsimp only
  split
  · exact hframe s.lds h.indexed h.kept (fun _ _ hi => .inl hi) (fun i => ⟨_, rfl⟩) rfl
  · rename_i index lds hindex
    obtain ⟨hindexed, hlidars, hrequests, hmap, -⟩ := getFreeIndex_spec h.indexed hindex
    refine hframe _ ⟨hindexed.injective, hindexed.taken⟩ ?_ ?_ ?_ hrequests
    · intro h' i hi
      change lds.mapIndex h' = some i
      rw [hmap, Function.update_of_ne (hne h' i hi)]
      exact h.kept h' i hi
    · intro h' i hi
      change lds.mapIndex h' = some i at hi
      rw [hmap] at hi
      by_cases heq : h' = handle
      · exact .inr heq
      · rw [Function.update_of_ne heq] at hi
        exact .inl hi
    · intro i
      by_cases hi : i = index
      · subst hi
        exact ⟨.livox, by simp only [Function.update_self, hlidars]⟩
      · exact ⟨_, by simp only [Function.update_of_ne hi, hlidars]; rfl⟩

/-- Only the device of one lidar of the configuration, and what waits for it, is changed. -/
theorem Following.update (h : Following s₀ s) (hindex₀ : s₀.mapIndex handle = some index)
    {device : LidarDevice} {requests : List ConfigRequest} {reported : List UInt32}
    {waiting : ConfigCode → Bool} (hall : ∀ h', h' ∈ reported ↔ h' = handle ∨ h' ∈ s.reported)
    (hconfig : device.livoxConfig = (s.lds.lidars index).livoxConfig)
    (hbits : device.setBits = setBitsOf waiting)
    (hsampling : device.connectState = .sampling ↔
      (∃ code, requestedOf s₀ handle code = true) ∧ ∀ code, waiting code = false)
    (hwaits : ∀ code, waiting code = true → requestedOf s₀ handle code = true)
    (hrequests : ∀ r ∈ requests, r.handle ∈ reported ∧ requestedOf s₀ r.handle r.code = true) :
    Following s₀ ⟨{ s.lds with
      lidars := Function.update s.lds.lidars index device, requests := requests },
      reported, Function.update s.waiting handle waiting⟩ := by
  have hreported : ∀ h', h' ∈ s.reported → h' ∈ reported := fun h' hmem => (hall h').mpr (.inr hmem)
  have hself : handle ∈ reported := (hall handle).mpr (.inl rfl)
  refine ⟨⟨h.indexed.injective, h.indexed.taken⟩, h.kept, ?_, ?_, ?_, ?_, ?_, ?_, hrequests⟩
  · intro h' i hi
    exact (h.known h' i hi).imp_right (hreported h')
  · intro h' i hi
    by_cases heq : i = index
    · subst heq
      simp only [Function.update_self]
      exact hconfig.trans (h.config h' i hi)
    · simp only [Function.update_of_ne heq]
      exact h.config h' i hi
  · intro h' i hi
    by_cases heq : h' = handle
    · subst heq
      rw [hindex₀] at hi
      cases hi
      simp only [Function.update_self]
      exact hbits
    · simp only [Function.update_of_ne (h.ne hindex₀ hi heq), Function.update_of_ne heq]
      exact h.bits h' i hi
  · intro h' i hi
    by_cases heq : h' = handle
    · subst heq
      rw [hindex₀] at hi
      cases hi
      simp only [Function.update_self, hself, true_and]
      exact hsampling
    · simp only [Function.update_of_ne (h.ne hindex₀ hi heq), Function.update_of_ne heq, hall, heq,
        false_or]
      exact h.sampling h' i hi
  · intro i hi
    have hne : i ≠ index := fun heq => hi handle (heq ▸ hindex₀)
    simp only [Function.update_of_ne hne]
    exact h.others i hi
  · intro h' code hwait
    change Function.update s.waiting handle waiting h' code = true at hwait
    by_cases heq : h' = handle
    · subst heq
      rw [Function.update_self] at hwait
      exact ⟨hself, hwaits code hwait⟩
    · rw [Function.update_of_ne heq] at hwait
      exact (h.waits h' code hwait).imp_left (hreported h')

/-- A lidar of the configuration is reported for the first time. -/
theorem Following.report_known (h : Following s₀ s) (hindex₀ : s₀.mapIndex handle = some index)
    (hnew : handle ∉ s.reported) :
    Following s₀ ⟨lidarInfoChangeCallback handle s.lds, handle :: s.reported,
      Function.update s.waiting handle (requestedOf s.lds handle)⟩ := by
  have hindex : s.lds.mapIndex handle = some index := h.kept handle index hindex₀
  have hconfig : (s.lds.lidars index).livoxConfig.requests = requestedOf s₀ handle := by
    funext code
    rw [requestedOf_some hindex₀, h.config handle index hindex₀]
  have hidle : ∀ code, s.waiting handle code = false := by
    intro code
    by_contra hwait
    exact hnew (h.waits handle code (Bool.eq_true_of_not_eq_false hwait)).1
  have hbits : (s.lds.lidars index).setBits = 0 := by
    rw [h.bits handle index hindex₀, setBitsOf_eq_zero]
    exact hidle
  have hoff : (s.lds.lidars index).connectState ≠ .sampling := by
    rw [ne_eq, h.sampling handle index hindex₀]
    exact fun hreported => hnew hreported.1
  have hcallback : lidarInfoChangeCallback handle s.lds =
      { s.lds with
        lidars := Function.update s.lds.lidars index { s.lds.lidars index with
          setBits := setBitsOf (requestedOf s₀ handle) }
        requests := s.lds.requests ++ (ConfigCode.all.filter (requestedOf s₀ handle)).map
          fun code => ⟨handle, code, (s.lds.lidars index).livoxConfig.value code⟩ } := by
    unfold lidarInfoChangeCallback getLidarDevice
    rw [hindex]
    dsimp only
    rw [requestSettings_eq, hbits, hconfig]
    rfl
  rw [hcallback, h.requestedOf_eq hindex₀]
  refine h.update hindex₀ (fun h' => List.mem_cons) rfl rfl ?_ (fun code hwait => hwait) ?_
  · refine iff_of_false hoff ?_
    rintro ⟨⟨code, hsome⟩, hnone⟩
    rw [hnone code] at hsome
    cases hsome
  · intro r hr
    rcases List.mem_append.mp hr with hr | hr
    · exact (h.requests r hr).imp_left (List.mem_cons_of_mem _)
    · obtain ⟨code, hcode, rfl⟩ := List.mem_map.mp hr
      exact ⟨List.mem_cons_self, (List.mem_filter.mp hcode).2⟩

theorem ConfigRequest.callback_eq (r : ConfigRequest) (status : ConfigStatus) :
    r.callback status = setCallback r.code status r.handle := by
  unfold ConfigRequest.callback
  cases r.code <;> rfl

/-- Requests answered or sent again leave the devices alone. -/
theorem Following.of_requests (h : Following s₀ s) (requests : List ConfigRequest)
    (hrequests : ∀ r ∈ requests, r.handle ∈ s.reported ∧
      requestedOf s₀ r.handle r.code = true) :
    Following s₀ { s with lds := { s.lds with requests := requests } } :=
  ⟨⟨h.indexed.injective, h.indexed.taken⟩, h.kept, h.known, h.config, h.bits, h.sampling,
    h.others, h.waits, hrequests⟩

/-- A success clears the bit of its setting, and the last one starts the sampling. -/
theorem Following.success (h : Following s₀ s) {code : ConfigCode}
    (hreported : handle ∈ s.reported) (hrequested : requestedOf s₀ handle code = true) :
    Following s₀ { s with
      lds := setCallback code .success handle s.lds
      waiting := Function.update s.waiting handle
        (Function.update (s.waiting handle) code false) } := by
  obtain ⟨index, hindex₀⟩ : ∃ index, s₀.mapIndex handle = some index := by
    rw [← Option.ne_none_iff_exists']
    intro hnone
    rw [requestedOf_none hnone] at hrequested
    cases hrequested
  set waiting := Function.update (s.waiting handle) code false with hwaiting
  have hbits : (s.lds.lidars index).setBits &&& ~~~code.bit = setBitsOf waiting := by
    rw [h.bits handle index hindex₀, setBitsOf_clear]
  have hcallback : setCallback code .success handle s.lds =
      { s.lds with
        lidars := Function.update s.lds.lidars index { s.lds.lidars index with
          setBits := setBitsOf waiting
          connectState :=
            if setBitsOf waiting = 0 then .sampling else (s.lds.lidars index).connectState } } := by
    unfold setCallback getLidarDevice
    rw [h.kept handle index hindex₀]
    dsimp only
    rw [hbits]
  have hall : ∀ h', h' ∈ s.reported ↔ h' = handle ∨ h' ∈ s.reported := by
    intro h'
    refine ⟨.inr, ?_⟩
    rintro (rfl | hmem)
    · exact hreported
    · exact hmem
  have hother : ∀ other, other ≠ code → waiting other = s.waiting handle other :=
    fun other hne => Function.update_of_ne hne _ _
  rw [hcallback]
  refine h.update hindex₀ hall rfl rfl ?_ ?_ h.requests
  · dsimp only
    by_cases hzero : setBitsOf waiting = 0
    · rw [if_pos hzero]
      exact iff_of_true rfl ⟨⟨code, hrequested⟩, (setBitsOf_eq_zero waiting).mp hzero⟩
    · rw [if_neg hzero, h.sampling handle index hindex₀]
      rw [setBitsOf_eq_zero] at hzero
      refine iff_of_false ?_ fun hnone => hzero hnone.2
      rintro ⟨-, -, hnone⟩
      apply hzero
      intro other
      by_cases heq : other = code
      · rw [hwaiting, heq, Function.update_self]
      · rw [hother other heq, hnone other]
  · intro other hwait
    by_cases heq : other = code
    · rw [heq]
      exact hrequested
    · rw [hother other heq] at hwait
      exact (h.waits handle other hwait).2

theorem bringUpStep_following {e : BringUpEvent} (h : Following s₀ s)
    (he : bringUpStep s e = some s') : Following s₀ s' := by
  cases e with
  | report handle =>
    simp only [bringUpStep] at he
    split at he
    · cases he
    · rename_i hnew
      cases he
      cases hindex : s.lds.mapIndex handle with
      | none => exact h.report_unknown hindex
      | some index =>
        rcases h.known handle index hindex with hindex₀ | hold
        · exact h.report_known hindex₀ hnew
        · exact absurd hold hnew
  | answer n status =>
    obtain ⟨r, hr, rfl⟩ := Option.map_eq_some_iff.mp he
    obtain ⟨hreported, hrequested⟩ := h.requests r (List.mem_of_getElem? hr)
    have herase : Following s₀
        { s with lds := { s.lds with requests := s.lds.requests.eraseIdx n } } :=
      h.of_requests _ fun r' hr' => h.requests r' (List.mem_of_mem_eraseIdx hr')
    rw [ConfigRequest.callback_eq]
    cases status with
    | success => exact herase.success hreported hrequested
    | timeout =>
      simp only [reduceCtorEq, if_false]
      unfold setCallback
      split
      · exact herase
      · refine herase.of_requests _ ?_
        intro r' hr'
        rcases List.mem_append.mp hr' with hr' | hr'
        · exact herase.requests r' hr'
        · rw [List.mem_singleton.mp hr']
          exact ⟨hreported, hrequested⟩
    | failure =>
      simp only [reduceCtorEq, if_false]
      unfold setCallback
      split <;> exact herase

/-- **A reported lidar samples exactly when its settings are acknowledged**, if the user
configuration has a setting requested for it, and only then. -/
theorem bringUp_iff {entries : List LidarConfigEntry} {tr : List (BringUp × BringUpEvent)}
    (h : Run bringUpStep (fun _ _ => True) (BringUp.init entries) tr s)
    (hreported : handle ∈ s.reported) :
    Settled s handle ↔ ∃ code, requestedOf (BringUp.init entries).lds handle code = true := by
  have hinv : Following (BringUp.init entries).lds s := by
    apply h.invariant
    · exact init_following (initLivoxLidar_idle _)
    · intro tr s e s' hs _ he
      exact bringUpStep_following hs he
  constructor
  · intro hsettled
    by_contra hnone
    have hquiet : ∀ code, s.waiting handle code = false := by
      intro code
      by_contra hwait
      exact hnone ⟨code, (hinv.waits handle code (Bool.eq_true_of_not_eq_false hwait)).2⟩
    have hsampling := hsettled.mpr hquiet
    unfold connectStateOf getLidarDevice at hsampling
    split at hsampling
    · rename_i index hindex
      by_cases hknown : ∃ h, (BringUp.init entries).lds.mapIndex h = some index
      · obtain ⟨h', hh'⟩ := hknown
        have hsame := hinv.indexed.injective h' handle index (hinv.kept h' index hh') hindex
        subst hsame
        exact hnone ((hinv.sampling h' index hh').mp hsampling).2.1
      · exact hinv.others index (not_exists.mp hknown) hsampling
    · cases hsampling
  · rintro ⟨code, hcode⟩
    obtain ⟨index, hindex⟩ : ∃ index, (BringUp.init entries).lds.mapIndex handle = some index := by
      rw [← Option.ne_none_iff_exists']
      intro hnone
      rw [requestedOf_none hnone] at hcode
      cases hcode
    have hstate : connectStateOf s.lds handle = (s.lds.lidars index).connectState := by
      simp [connectStateOf, getLidarDevice, hinv.kept handle index hindex]
    rw [Settled, hstate, hinv.sampling handle index hindex]
    exact ⟨fun hall => hall.2.2, fun hall => ⟨hreported, ⟨code, hcode⟩, hall⟩⟩

/-- A lidar with the data type requested samples behind the acknowledgement. -/
theorem bringUp_iff_sampling : ∃ tr s,
    Run bringUpStep (fun _ _ => True)
      (BringUp.init [⟨1, some 1, none, none, none⟩]) tr s ∧
    1 ∈ s.reported ∧ connectStateOf s.lds 1 = .sampling ∧
    (Settled s 1 ↔ ∃ code,
      requestedOf (BringUp.init [⟨1, some 1, none, none, none⟩]).lds 1 code = true) := by
  have hexec : (exec bringUpStep (BringUp.init [⟨1, some 1, none, none, none⟩])
      [.report 1, .answer 0 .success]).map
      (fun s => decide (1 ∈ s.reported ∧ connectStateOf s.lds 1 = .sampling)) = some true := by
    decide +kernel
  obtain ⟨s, hs, hend⟩ := Option.map_eq_some_iff.mp hexec
  obtain ⟨tr, -, hrun⟩ := Run.of_exec hs
  obtain ⟨hreported, hsampling⟩ := of_decide_eq_true hend
  exact ⟨tr, s, hrun, hreported, hsampling, bringUp_iff hrun hreported⟩

/-- A lidar without a setting requested is reported and does not sample. -/
theorem bringUp_silent : ¬ ∀ (entries : List LidarConfigEntry) (tr : List (BringUp × BringUpEvent))
    (s : BringUp) (handle : UInt32),
    Run bringUpStep (fun _ _ => True) (BringUp.init entries) tr s → handle ∈ s.reported →
    Settled s handle := by
  intro hall
  have hexec : (exec bringUpStep (BringUp.init [⟨1, none, none, none, none⟩]) [.report 1]).map
      (fun s => decide (1 ∈ s.reported ∧ connectStateOf s.lds 1 = .off ∧
        ∀ code ∈ ConfigCode.all, s.waiting 1 code = false)) = some true := by
    decide +kernel
  obtain ⟨s, hs, hend⟩ := Option.map_eq_some_iff.mp hexec
  obtain ⟨tr, -, hrun⟩ := Run.of_exec hs
  obtain ⟨hreported, hoff, hquiet⟩ := of_decide_eq_true hend
  have hsampling := (hall _ tr s 1 hrun hreported).mpr fun code =>
    hquiet code (by cases code <;> decide)
  rw [hoff] at hsampling
  cases hsampling

end Following

end Livox
end SensorSupport
