/-
# The state-info key list (`command_handler/parse_lidar_state_info.cpp`)

A state-info packet holds a list of keys with values of a declared length.
The parser looks whether the five bytes of an entry's head are there, and then
copies as many bytes as the entry declares, or as many as its helper for
addresses takes, without looking at the packet or at the field they go to.

`stateInfoBounds_iff` says which packets it handles within bounds: those whose
entries have, as far as the parser comes, values that lie in the packet and
fit their fields, and that do not end on an entry that leaves the packet.

Key definitions: `ParamKeyName`, `StateField`, `ParseLidarStateInfo.parseStateInfo`,
`ParseLidarStateInfo.WellSized`.
Key theorems: `ParseLidarStateInfo.stateInfoBounds_iff`.
-/
import SensorSupport.Lib.Memory
import Mathlib.Data.Finset.Insert

namespace SensorSupport
namespace Livox

/-! ### Keys and fields -/

/-- `ParamKeyName`. -/
inductive ParamKeyName
  | kKeyPclDataType | kKeyPatternMode | kKeyDualEmitEn | kKeyPointSendEn | kKeyLidarIpCfg
  | kKeyStateInfoHostIpCfg | kKeyLidarPointDataHostIpCfg | kKeyLidarImuHostIpCfg
  | kKeyCtlHostIpCfg | kKeyLogHostIpCfg | kKeyVehicleSpeed | kKeyEnvironmentTemp
  | kKeyInstallAttitude | kKeyBlindSpotSet | kKeyFrameRate | kKeyFovCfg0 | kKeyFovCfg1
  | kKeyFovCfgEn | kKeyDetectMode | kKeyFuncIoCfg | kKeyWorkModeAfterBoot | kKeyWorkMode
  | kKeyGlassHeat | kKeyImuDataEn | kKeyFusaEn | kKeyForceHeatEn | kKeySetEscMode
  | kKeySetPpsSyncMode | kKeyLogParamSet | kKeySn | kKeyProductInfo | kKeyVersionApp
  | kKeyVersionLoader | kKeyVersionHardware | kKeyMac | kKeyCurWorkState | kKeyCoreTemp
  | kKeyPowerUpCnt | kKeyLocalTimeNow | kKeyLastSyncTime | kKeyTimeOffset | kKeyTimeSyncType
  | kKeyStatusCode | kKeyLidarDiagStatus | kKeyLidarFlashStatus | kKeyFwType | kKeyHmsCode
  | kKeyCurGlassHeatState | kKeyRoiMode | kKeyLidarDiagInfoQuery
  deriving DecidableEq, Repr

/-- The keys with their values. -/
def ParamKeyName.values : List (UInt16 × ParamKeyName) :=
  [(0x0000, .kKeyPclDataType), (0x0001, .kKeyPatternMode), (0x0002, .kKeyDualEmitEn),
   (0x0003, .kKeyPointSendEn), (0x0004, .kKeyLidarIpCfg), (0x0005, .kKeyStateInfoHostIpCfg),
   (0x0006, .kKeyLidarPointDataHostIpCfg), (0x0007, .kKeyLidarImuHostIpCfg),
   (0x0008, .kKeyCtlHostIpCfg), (0x0009, .kKeyLogHostIpCfg), (0x0010, .kKeyVehicleSpeed),
   (0x0011, .kKeyEnvironmentTemp), (0x0012, .kKeyInstallAttitude), (0x0013, .kKeyBlindSpotSet),
   (0x0014, .kKeyFrameRate), (0x0015, .kKeyFovCfg0), (0x0016, .kKeyFovCfg1),
   (0x0017, .kKeyFovCfgEn), (0x0018, .kKeyDetectMode), (0x0019, .kKeyFuncIoCfg),
   (0x0020, .kKeyWorkModeAfterBoot), (0x001A, .kKeyWorkMode), (0x001B, .kKeyGlassHeat),
   (0x001C, .kKeyImuDataEn), (0x001D, .kKeyFusaEn), (0x001E, .kKeyForceHeatEn),
   (0x0021, .kKeySetEscMode), (0x0026, .kKeySetPpsSyncMode), (0x7FFF, .kKeyLogParamSet),
   (0x8000, .kKeySn), (0x8001, .kKeyProductInfo), (0x8002, .kKeyVersionApp),
   (0x8003, .kKeyVersionLoader), (0x8004, .kKeyVersionHardware), (0x8005, .kKeyMac),
   (0x8006, .kKeyCurWorkState), (0x8007, .kKeyCoreTemp), (0x8008, .kKeyPowerUpCnt),
   (0x8009, .kKeyLocalTimeNow), (0x800A, .kKeyLastSyncTime), (0x800B, .kKeyTimeOffset),
   (0x800C, .kKeyTimeSyncType), (0x800D, .kKeyStatusCode), (0x800E, .kKeyLidarDiagStatus),
   (0x800F, .kKeyLidarFlashStatus), (0x8010, .kKeyFwType), (0x8011, .kKeyHmsCode),
   (0x8012, .kKeyCurGlassHeatState), (0xFFFE, .kKeyRoiMode), (0xFFFF, .kKeyLidarDiagInfoQuery)]

/-- The key a number is. -/
def ParamKeyName.ofValue (v : UInt16) : Option ParamKeyName := ParamKeyName.values.lookup v

/-- The fields of `DirectLidarStateInfo`, with the address structures taken
apart. -/
inductive StateField
  | pclDataType | patternMode | dualEmitEn | pointSendEn
  | lidarIpAddr | lidarNetMask | lidarGwAddr
  | stateInfoHostIpAddr | hostStateInfoPort | lidarStateInfoPort
  | pointHostIpAddr | hostPointDataPort | lidarPointDataPort
  | imuHostIpAddr | hostImuDataPort | lidarImuDataPort
  | ctlIpAddr | ctlDstPort | ctlSrcPort
  | logIpAddr | logDstPort | logSrcPort
  | vehicleSpeed | environmentTemp | installAttitude | blindSpotSet | frameRate
  | fovCfg0 | fovCfg1 | fovCfgEn | detectMode | funcIoCfg | workTgtMode | glassHeat
  | imuDataEn | fusaEn | escMode | sn | productInfo | versionApp | versionLoader
  | versionHardware | mac | curWorkState | coreTemp | powerupCnt | localTimeNow
  | lastSyncTime | timeOffset | timeSyncType | statusCode | lidarDiagStatus
  | lidarFlashStatus | fwType | hmsCode | roiMode
  deriving DecidableEq, Repr

namespace StateField

/-- The fields and their sizes, in the order of the (packed) structure. -/
def layout : List (StateField × ℕ) :=
  [(pclDataType, 1), (patternMode, 1), (dualEmitEn, 1), (pointSendEn, 1),
   (lidarIpAddr, 16), (lidarNetMask, 16), (lidarGwAddr, 16),
   (stateInfoHostIpAddr, 16), (hostStateInfoPort, 2), (lidarStateInfoPort, 2),
   (pointHostIpAddr, 16), (hostPointDataPort, 2), (lidarPointDataPort, 2),
   (imuHostIpAddr, 16), (hostImuDataPort, 2), (lidarImuDataPort, 2),
   (ctlIpAddr, 16), (ctlDstPort, 2), (ctlSrcPort, 2),
   (logIpAddr, 16), (logDstPort, 2), (logSrcPort, 2),
   (vehicleSpeed, 4), (environmentTemp, 4), (installAttitude, 24), (blindSpotSet, 4),
   (frameRate, 1), (fovCfg0, 20), (fovCfg1, 20), (fovCfgEn, 1), (detectMode, 1),
   (funcIoCfg, 4), (workTgtMode, 1), (glassHeat, 1), (imuDataEn, 1), (fusaEn, 1),
   (escMode, 1), (sn, 16), (productInfo, 64), (versionApp, 4), (versionLoader, 4),
   (versionHardware, 4), (mac, 6), (curWorkState, 1), (coreTemp, 4), (powerupCnt, 4),
   (localTimeNow, 8), (lastSyncTime, 8), (timeOffset, 8), (timeSyncType, 1),
   (statusCode, 32), (lidarDiagStatus, 2), (lidarFlashStatus, 1), (fwType, 1),
   (hmsCode, 32), (roiMode, 1)]

/-- `sizeof` of a field. -/
def size (f : StateField) : ℕ := (layout.lookup f).getD 0

/-- `offsetof` of a field. -/
def off (f : StateField) : ℕ := ((layout.takeWhile (·.1 ≠ f)).map Prod.snd).sum

end StateField

/-- What the parser does to memory: it reads a byte of the packet's data, or
copies some bytes to a field. -/
inductive Access
  | read (i : ℕ)
  | copy (field : StateField) (len : ℕ)

/-- The access stays in the packet's data, or in the field. -/
def Access.InBounds (dataLen : ℕ) : Access → Prop
  | .read i => i < dataLen
  | .copy field len => len ≤ field.size

/-- `DirectLidarStateInfo`, as the bytes of the structure, and the keys that
were seen. -/
structure StateInfo where
  info : Mem
  keyMask : Finset ParamKeyName

namespace ParseLidarStateInfo

/-- `memcpy` and `strcpy` into a field. -/
def copyTo (field : StateField) (bs : List UInt8) (info : Mem) : Traced Access Mem :=
  ⟨info.set field.off bs, [.copy field bs.length]⟩

/-- Bytes of `packet.data`. -/
def readData (data : Mem) (off n : ℕ) : Traced Access (List UInt8) :=
  (data.readBytes off n).mapLog .read

/-- `memcpy(&field, &packet.data[off], n)`. -/
def copyData (data : Mem) (field : StateField) (off n : ℕ) (info : Mem) : Traced Access Mem := do
  let bs ← readData data off n
  copyTo field bs info

/-- `std::to_string` of a byte. -/
def toDigits (b : UInt8) : List UInt8 :=
  (Nat.toDigits 10 b.toNat).map fun c => UInt8.ofNat c.toNat

/-- The address string of four bytes, with its terminator. -/
def ipString (bs : List UInt8) : List UInt8 :=
  ([0x2E] : List UInt8).intercalate (bs.map toDigits) ++ [0]

/-- An address of four bytes is read and copied as a string. -/
def copyIp (data : Mem) (field : StateField) (off : UInt16) (info : Mem) : Traced Access Mem := do
  let bs ← readData data off.toNat 4
  copyTo field (ipString bs) info

/-- `ParseLidarIpAddr`. -/
def parseLidarIpAddr (data : Mem) (off : UInt16) (info : Mem) : Traced Access Mem := do
  let info ← copyIp data .lidarIpAddr off info
  let off := off + 4
  let info ← copyIp data .lidarNetMask off info
  let off := off + 4
  copyIp data .lidarGwAddr off info

/-- An address and two ports. -/
def parseHostIp (ipAddr hostPort lidarPort : StateField) (data : Mem) (off : UInt16) (info : Mem) :
    Traced Access Mem := do
  let info ← copyIp data ipAddr off info
  let off := off + 4
  let info ← copyData data hostPort off.toNat 2 info
  let off := off + 2
  copyData data lidarPort off.toNat 2 info

/-- `ParseStateInfoHostIPCfg`. -/
def parseStateInfoHostIPCfg :=
  parseHostIp .stateInfoHostIpAddr .hostStateInfoPort .lidarStateInfoPort

/-- `ParsePointCloudHostIpCfg`. -/
def parsePointCloudHostIpCfg :=
  parseHostIp .pointHostIpAddr .hostPointDataPort .lidarPointDataPort

/-- `ParseImuDataHostIpCfg`. -/
def parseImuDataHostIpCfg := parseHostIp .imuHostIpAddr .hostImuDataPort .lidarImuDataPort

/-- `ParseIpCfg` of `info.ctl_host_ipcfg`. -/
def parseCtlIpCfg := parseHostIp .ctlIpAddr .ctlDstPort .ctlSrcPort

/-- `ParseIpCfg` of `info.log_host_ipcfg`. -/
def parseLogIpCfg := parseHostIp .logIpAddr .logDstPort .logSrcPort

/-- How the value of a key is taken over. -/
inductive ValueParser
  /-- `memcpy(&info.field, &packet.data[offset], val_len)`. -/
  | value (field : StateField)
  /-- One of the helpers, which reads `n` bytes whatever `val_len` is. -/
  | helper (n : ℕ) (parse : Mem → UInt16 → Mem → Traced Access Mem)

/-- `switch (kv->key)`; `none` is the default case. -/
def valueParser : ParamKeyName → Option ValueParser
  | .kKeyPclDataType => some (.value .pclDataType)
  | .kKeyPatternMode => some (.value .patternMode)
  | .kKeyDualEmitEn => some (.value .dualEmitEn)
  | .kKeyPointSendEn => some (.value .pointSendEn)
  | .kKeyLidarIpCfg => some (.helper 12 parseLidarIpAddr)
  | .kKeyStateInfoHostIpCfg => some (.helper 8 parseStateInfoHostIPCfg)
  | .kKeyLidarPointDataHostIpCfg => some (.helper 8 parsePointCloudHostIpCfg)
  | .kKeyLidarImuHostIpCfg => some (.helper 8 parseImuDataHostIpCfg)
  | .kKeyCtlHostIpCfg => some (.helper 8 parseCtlIpCfg)
  | .kKeyLogHostIpCfg => some (.helper 8 parseLogIpCfg)
  | .kKeyVehicleSpeed => some (.value .vehicleSpeed)
  | .kKeyEnvironmentTemp => some (.value .environmentTemp)
  | .kKeyInstallAttitude => some (.value .installAttitude)
  | .kKeyBlindSpotSet => some (.value .blindSpotSet)
  | .kKeyFrameRate => some (.value .frameRate)
  | .kKeyFovCfg0 => some (.value .fovCfg0)
  | .kKeyFovCfg1 => some (.value .fovCfg1)
  | .kKeyFovCfgEn => some (.value .fovCfgEn)
  | .kKeyDetectMode => some (.value .detectMode)
  | .kKeyFuncIoCfg => some (.value .funcIoCfg)
  | .kKeyWorkMode => some (.value .workTgtMode)
  | .kKeyGlassHeat => some (.value .glassHeat)
  | .kKeyImuDataEn => some (.value .imuDataEn)
  | .kKeyFusaEn => some (.value .fusaEn)
  | .kKeySn => some (.value .sn)
  | .kKeyProductInfo => some (.value .productInfo)
  | .kKeyVersionApp => some (.value .versionApp)
  | .kKeyVersionLoader => some (.value .versionLoader)
  | .kKeyVersionHardware => some (.value .versionHardware)
  | .kKeyMac => some (.value .mac)
  | .kKeyCurWorkState => some (.value .curWorkState)
  | .kKeyCoreTemp => some (.value .coreTemp)
  | .kKeyPowerUpCnt => some (.value .powerupCnt)
  | .kKeyLocalTimeNow => some (.value .localTimeNow)
  | .kKeyLastSyncTime => some (.value .lastSyncTime)
  | .kKeyTimeOffset => some (.value .timeOffset)
  | .kKeyTimeSyncType => some (.value .timeSyncType)
  | .kKeyStatusCode => some (.value .statusCode)
  | .kKeyLidarDiagStatus => some (.value .lidarDiagStatus)
  | .kKeyLidarFlashStatus => some (.value .lidarFlashStatus)
  | .kKeyFwType => some (.value .fwType)
  | .kKeyHmsCode => some (.value .hmsCode)
  | .kKeyRoiMode => some (.value .roiMode)
  | .kKeySetEscMode => some (.value .escMode)
  | .kKeyWorkModeAfterBoot | .kKeyForceHeatEn | .kKeySetPpsSyncMode | .kKeyLogParamSet
  | .kKeyCurGlassHeatState | .kKeyLidarDiagInfoQuery => none

/-- The case of a key: the value is taken over and the key noted. -/
def parseValue (data : Mem) (key : UInt16) (offset valLen : UInt16) (s : StateInfo) :
    Traced Access StateInfo :=
  match ParamKeyName.ofValue key with
  | none => pure s
  | some k =>
    match valueParser k with
    | none => pure s
    | some (.value field) => do
      let info ← copyData data field offset.toNat valLen.toNat s.info
      pure ⟨info, insert k s.keyMask⟩
    | some (.helper _ parse) => do
      let info ← parse data offset s.info
      pure ⟨info, insert k s.keyMask⟩

/-- `for (i = 0; i < key_num; ++i)`, with `n` keys to go. The offset has 16
bits. -/
def parseKeys (data : Mem) (dataLen : UInt16) : ℕ → UInt16 → StateInfo →
    Traced Access (Bool × StateInfo)
  | 0, _, s => pure (true, s)
  | n + 1, offset, s =>
    -- `sizeof(LivoxLidarKeyValueParam)` is 5.
    if offset.toNat + 5 > dataLen.toNat then pure (false, s)
    else do
      let kv := offset.toNat
      let offset := offset + 2
      let valLen ← (data.read16 offset.toNat).mapLog .read
      let offset := offset + 2
      let key ← (data.read16 kv).mapLog .read
      let s ← parseValue data key offset valLen s
      parseKeys data dataLen n (offset + valLen) s

/-- `ParseStateInfo`, of a packet with the data `data` of the length
`dataLen`. -/
def parseStateInfo (data : Mem) (dataLen : UInt16) (s : StateInfo) :
    Traced Access (Bool × StateInfo) := do
  let keyNum ← (data.read16 0).mapLog .read
  parseKeys data dataLen keyNum.toNat 4 s

/-! ### What the helpers read -/

section Helpers

variable {data : Mem} {off : UInt16} {info : Mem} {dataLen : ℕ}

/-- A byte has at most three digits. -/
theorem toDigits_length_le (b : UInt8) : (toDigits b).length ≤ 3 := by
  have hall : ∀ n < 256, (Nat.toDigits 10 n).length ≤ 3 := by decide +kernel
  simpa [toDigits] using hall b.toNat b.toNat_lt

/-- The string of four bytes fits a field of 16. -/
theorem ipString_fits {bs : List UInt8} (h : bs.length = 4) : (ipString bs).length ≤ 16 := by
  obtain ⟨a, b, c, d, rfl⟩ : ∃ a b c d, bs = [a, b, c, d] := by
    match bs, h with
    | [a, b, c, d], _ => exact ⟨a, b, c, d, rfl⟩
  have ha := toDigits_length_le a
  have hb := toDigits_length_le b
  have hc := toDigits_length_le c
  have hd := toDigits_length_le d
  simp only [ipString, List.intercalate, List.map_cons, List.map_nil, List.intersperse,
    List.flatten_cons, List.flatten_nil, List.length_append, List.length_cons, List.length_nil]
  omega

/-- An address string fits its field. -/
theorem ipString_length_le (i : ℕ) : (ipString (data.bytes i 4)).length ≤ 16 :=
  ipString_fits (Mem.bytes_length data i 4)

theorem readData_inBounds {i n : ℕ} :
    (readData data i n).All (Access.InBounds dataLen) ↔ n = 0 ∨ i + n ≤ dataLen := by
  unfold readData
  rw [Traced.all_mapLog]
  exact Mem.all_readBytes data i n

theorem copyData_inBounds {field : StateField} {i n : ℕ} :
    (copyData data field i n info).All (Access.InBounds dataLen) ↔
      (n = 0 ∨ i + n ≤ dataLen) ∧ n ≤ field.size := by
  unfold copyData
  rw [Traced.all_bind, readData_inBounds]
  simp [copyTo, Traced.All, Access.InBounds, readData]

theorem copyIp_inBounds {field : StateField} (hsize : field.size = 16) :
    (copyIp data field off info).All (Access.InBounds dataLen) ↔ off.toNat + 4 ≤ dataLen := by
  have hle : (ipString (data.bytes off.toNat 4)).length ≤ field.size :=
    hsize ▸ ipString_length_le off.toNat
  unfold copyIp
  rw [Traced.all_bind, readData_inBounds]
  simp [copyTo, Traced.All, Access.InBounds, readData, hle]

/-- The helper for the lidar's addresses reads twelve bytes. -/
theorem parseLidarIpAddr_inBounds (hlen : dataLen < 2 ^ 16) :
    (parseLidarIpAddr data off info).All (Access.InBounds dataLen) ↔ off.toNat + 12 ≤ dataLen := by
  have h4 := UInt16.toNat_add off 4
  have h8 := UInt16.toNat_add (off + 4) 4
  have hfour : (4 : UInt16).toNat = 4 := rfl
  simp only [parseLidarIpAddr, Traced.all_bind,
    copyIp_inBounds (show StateField.lidarIpAddr.size = 16 from rfl),
    copyIp_inBounds (show StateField.lidarNetMask.size = 16 from rfl),
    copyIp_inBounds (show StateField.lidarGwAddr.size = 16 from rfl)]
  omega

/-- The helpers for an address and two ports read eight. -/
theorem parseHostIp_inBounds {ipAddr hostPort lidarPort : StateField} (hip : ipAddr.size = 16)
    (hhost : hostPort.size = 2) (hlidar : lidarPort.size = 2) (hlen : dataLen < 2 ^ 16) :
    (parseHostIp ipAddr hostPort lidarPort data off info).All (Access.InBounds dataLen) ↔
      off.toNat + 8 ≤ dataLen := by
  have h4 := UInt16.toNat_add off 4
  have h6 := UInt16.toNat_add (off + 4) 2
  have hfour : (4 : UInt16).toNat = 4 := rfl
  have htwo : (2 : UInt16).toNat = 2 := rfl
  simp only [parseHostIp, Traced.all_bind, copyIp_inBounds hip, copyData_inBounds, hhost, hlidar]
  omega

/-- A helper reads the bytes it says. -/
theorem helper_inBounds {k : ParamKeyName} {n : ℕ} {parse : Mem → UInt16 → Mem → Traced Access Mem}
    (h : valueParser k = some (.helper n parse)) (hlen : dataLen < 2 ^ 16) :
    (parse data off info).All (Access.InBounds dataLen) ↔ off.toNat + n ≤ dataLen := by
  cases k <;> simp only [valueParser, Option.some.injEq, ValueParser.helper.injEq, reduceCtorEq] at h
  all_goals obtain ⟨rfl, rfl⟩ := h
  · exact parseLidarIpAddr_inBounds hlen
  all_goals exact parseHostIp_inBounds rfl rfl rfl hlen

end Helpers

/-! ### The packets handled within bounds -/

section Bounds

variable (data : Mem) (dataLen : UInt16)

/-- The length an entry at `o` declares. -/
def valLen (o : ℕ) : ℕ := (data.u16 (o + 2)).toNat

/-- The value of an entry at `o` lies in the packet and fits its field. For an
address the bytes its helper takes count, and for an unknown key none. -/
def EntryOk (o : ℕ) : Prop :=
  match (ParamKeyName.ofValue (data.u16 o)).bind valueParser with
  | none => True
  | some (.value field) => o + 4 + valLen data o ≤ dataLen.toNat ∧ valLen data o ≤ field.size
  | some (.helper n _) => o + 4 + n ≤ dataLen.toNat

/-- The entries of a list of `n` keys that starts at `o` lie in the packet. -/
def Fits : ℕ → ℕ → Prop
  | 0, _ => True
  | n + 1, o => o + 4 + valLen data o ≤ dataLen.toNat ∧ Fits n (o + 4 + valLen data o)

/-- The list of `n` keys from `o` on has values of the right size, up to the
first entry without the five bytes of a head; without such an entry, no entry
leaves the packet. The offset wraps at 16 bits, and `past` says that an
earlier entry has left the packet. -/
def WellSized : ℕ → ℕ → Prop → Prop
  | 0, _, past => ¬ past
  | n + 1, o, past =>
    dataLen.toNat < o + 5 ∨
      EntryOk data dataLen o ∧
        WellSized n ((o + 4 + valLen data o) % 2 ^ 16)
          (past ∨ dataLen.toNat < o + 4 + valLen data o)

/-- The parser stays in the packet and in the fields, and rejects a list of
keys that does not fit the packet. -/
structure StateInfoBounds (s : StateInfo) : Prop where
  accesses : (parseStateInfo data dataLen s).All (Access.InBounds dataLen.toNat)
  rejects : ¬ Fits data dataLen (data.u16 0).toNat 4 → (parseStateInfo data dataLen s).val.1 = false

variable {data dataLen}

theorem parseValue_inBounds {o : ℕ} {offset : UInt16} {s : StateInfo} (ho : offset.toNat = o + 4)
    (hhead : o + 5 ≤ dataLen.toNat) :
    (parseValue data (data.u16 o) offset (data.u16 (o + 2)) s).All
      (Access.InBounds dataLen.toNat) ↔ EntryOk data dataLen o := by
  unfold parseValue
  rw [EntryOk]
  cases ParamKeyName.ofValue (data.u16 o) with
  | none => simp
  | some k =>
    simp only [Option.bind_some]
    cases hk : valueParser k with
    | none => simp
    | some v =>
      cases v with
      | value field =>
        simp only [Traced.all_bind, copyData_inBounds, Traced.all_pure, and_true, ho, valLen]
        omega
      | helper n parse =>
        simp only [Traced.all_bind, helper_inBounds hk dataLen.toNat_lt, Traced.all_pure, ho,
          and_true]

/-- One entry: the parser goes on behind it, modulo 2^16. -/
theorem parseKeys_succ {n : ℕ} {offset : UInt16} {s : StateInfo}
    (hhead : offset.toNat + 5 ≤ dataLen.toNat) :
    ∃ s', ((parseKeys data dataLen (n + 1) offset s).All (Access.InBounds dataLen.toNat) ↔
        EntryOk data dataLen offset.toNat ∧
          (parseKeys data dataLen n (offset + 2 + 2 + data.u16 (offset.toNat + 2)) s').All
            (Access.InBounds dataLen.toNat)) ∧
      (parseKeys data dataLen (n + 1) offset s).val =
        (parseKeys data dataLen n (offset + 2 + 2 + data.u16 (offset.toNat + 2)) s').val := by
  have hlt := dataLen.toNat_lt
  have htwo : (2 : UInt16).toNat = 2 := rfl
  have h2 : (offset + 2).toNat = offset.toNat + 2 := by
    rw [UInt16.toNat_add, htwo]
    omega
  have h4 : (offset + 2 + 2).toNat = offset.toNat + 4 := by
    rw [UInt16.toNat_add, h2, htwo]
    omega
  have hread : ∀ i, i + 2 ≤ dataLen.toNat →
      ((data.read16 i).mapLog Access.read).All (Access.InBounds dataLen.toNat) := fun i hi =>
    (Traced.all_mapLog _ _).mpr ((Mem.all_read16 data i).mpr hi)
  have hvalue : (parseValue data (data.u16 offset.toNat) (offset + 2 + 2)
      (data.u16 (offset.toNat + 2)) s).All (Access.InBounds dataLen.toNat) ↔
        EntryOk data dataLen offset.toNat := parseValue_inBounds h4 hhead
  refine ⟨(parseValue data (data.u16 offset.toNat) (offset + 2 + 2)
    (data.u16 (offset.toNat + 2)) s).val, ?_, ?_⟩
  · rw [parseKeys, if_neg (by omega)]
    simp only [Traced.all_bind, Traced.val_mapLog, Mem.val_read16, h2, hvalue,
      hread _ (show offset.toNat + 2 + 2 ≤ _ by omega), hread _ (show offset.toNat + 2 ≤ _ by omega),
      true_and]
  · rw [parseKeys, if_neg (by omega)]
    simp only [Traced.val_bind, Traced.val_mapLog, Mem.val_read16, h2]

/-- The bounds of a run of the loop. `past` says that an entry before it has
left the packet, which the run has to reject. -/
theorem parseKeys_bounds_iff : ∀ (n : ℕ) (offset : UInt16) (s : StateInfo) (past : Prop),
    (parseKeys data dataLen n offset s).All (Access.InBounds dataLen.toNat) ∧
        (past ∨ ¬ Fits data dataLen n offset.toNat →
          (parseKeys data dataLen n offset s).val.1 = false) ↔
      WellSized data dataLen n offset.toNat past
  | 0, offset, s, past => by simp [parseKeys, WellSized, Fits]
  | n + 1, offset, s, past => by
    by_cases hhead : offset.toNat + 5 ≤ dataLen.toNat
    swap
    · unfold WellSized
      rw [parseKeys, if_pos (by omega)]
      exact iff_of_true ⟨Traced.all_pure _, fun _ => rfl⟩ (.inl (by omega))
    obtain ⟨s', hall, hval⟩ := parseKeys_succ (n := n) (s := s) hhead
    have hlt := dataLen.toNat_lt
    have hnext : (offset + 2 + 2 + data.u16 (offset.toNat + 2)).toNat =
        (offset.toNat + 4 + valLen data offset.toNat) % 2 ^ 16 := by
      have htwo : (2 : UInt16).toNat = 2 := rfl
      rw [UInt16.toNat_add, UInt16.toNat_add, UInt16.toNat_add, htwo, valLen]
      omega
    have ih := parseKeys_bounds_iff n (offset + 2 + 2 + data.u16 (offset.toNat + 2)) s'
      (past ∨ dataLen.toNat < offset.toNat + 4 + valLen data offset.toNat)
    rw [hnext] at ih
    -- An entry in the packet does not wrap, so the rest of the list is the next run's.
    have hrest : (past ∨ ¬ Fits data dataLen (n + 1) offset.toNat) ↔
        (past ∨ dataLen.toNat < offset.toNat + 4 + valLen data offset.toNat) ∨
          ¬ Fits data dataLen n ((offset.toNat + 4 + valLen data offset.toNat) % 2 ^ 16) := by
      rw [Fits, or_assoc]
      refine or_congr_right ?_
      by_cases hin : offset.toNat + 4 + valLen data offset.toNat ≤ dataLen.toNat
      · rw [Nat.mod_eq_of_lt (by omega)]
        simp [hin, Nat.not_lt.mpr hin]
      · simp [hin, Nat.lt_of_not_le hin]
    rw [hall, hval, hrest, and_assoc, ih, WellSized]
    exact ⟨.inr, fun h => h.resolve_left (by omega)⟩

/-- **The parser stays in bounds exactly on packets that hold the number of
keys and a well-sized list of them.** -/
theorem stateInfoBounds_iff (data : Mem) (dataLen : UInt16) (s : StateInfo) :
    StateInfoBounds data dataLen s ↔
      2 ≤ dataLen.toNat ∧ WellSized data dataLen (data.u16 0).toNat 4 False := by
  have hkeyNum : ((data.read16 0).mapLog Access.read).All (Access.InBounds dataLen.toNat) ↔
      2 ≤ dataLen.toNat := (Traced.all_mapLog _ _).trans (Mem.all_read16 data 0)
  have hrun : _ ↔ WellSized data dataLen _ (4 : UInt16).toNat _ :=
    parseKeys_bounds_iff (data.u16 0).toNat 4 s False
  have hfour : (4 : UInt16).toNat = 4 := rfl
  rw [hfour] at hrun
  rw [← hrun, ← hkeyNum]
  constructor
  · rintro ⟨haccesses, hrejects⟩
    unfold parseStateInfo at haccesses
    rw [Traced.all_bind] at haccesses
    exact ⟨haccesses.1, haccesses.2, fun h => hrejects (h.resolve_left id)⟩
  · rintro ⟨hhead, haccesses, hrejects⟩
    refine ⟨?_, fun h => hrejects (.inr h)⟩
    unfold parseStateInfo
    rw [Traced.all_bind]
    exact ⟨hhead, haccesses⟩

/-- A packet of nine bytes with one key, whose value is said to have five. -/
def overlongKey : Mem :=
  fun i => ([1, 0, 0, 0, 0, 0, 5, 0, 0] : List UInt8).getD i 0

/-- The value is copied from behind the packet into a field of one byte. -/
theorem stateInfoBounds_overlongKey : ¬ StateInfoBounds overlongKey 9 ⟨fun _ => 0, ∅⟩ := by
  intro h
  have hrun := (Traced.all_bind _ _).mp h.accesses
  have hkeys := (parseKeys_succ (n := 0) (s := ⟨fun _ => 0, ∅⟩)
    (show (4 : UInt16).toNat + 5 ≤ (9 : UInt16).toNat by decide)).choose_spec.1.mp hrun.2
  have hcase : (ParamKeyName.ofValue (overlongKey.u16 4)).bind valueParser =
      some (.value .pclDataType) := by rfl
  have hlen : valLen overlongKey 4 = 5 := by decide
  have hentry := hkeys.1
  unfold EntryOk at hentry
  rw [show (UInt16.toNat 4) = 4 from rfl, hcase, hlen] at hentry
  exact absurd hentry.1 (by decide)

end Bounds

end ParseLidarStateInfo

end Livox
end SensorSupport
