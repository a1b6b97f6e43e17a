/-
# The internal info of a lidar in view mode (`device_manager.cpp`)

In view mode `AddViewLidar` walks over the keys that a lidar acknowledges, to find the
ports of its point data and of its IMU data. The number of keys has 16 bits, their counter
has 8 and the offset 16, and the walk does not know how long the payload is.

`addViewLidar_iff` says for which payloads the walk ends inside the payload: those with at
most 255 keys whose heads, and the values with ports, lie in it. On them it finds the
ports that the parser of the state info finds in the same list.

Key definitions: `walkEntry`, `walkParams`, `addViewLidar`, `WalkFits`, `ViewOk`.
Key theorems: `walkParams_run`, `walkParams_spins`, `walked_agrees`, `addViewLidar_iff`.
-/
import Mathlib.Data.UInt
import SensorSupport.Livox.BuildRequest

namespace SensorSupport
namespace Livox

open ParseLidarStateInfo BuildRequest

namespace DeviceManager

/-! ### The walk -/

/-- Where `data` begins in a `LivoxLidarDiagInternalInfoResponse`. -/
def dataOff : ℕ := 3

/-- The ports of an entry at `kv` are taken over if it has some. -/
def readPorts (response : Mem) (kv : ℕ) (key : UInt16) (info : ViewLidarIpInfo) :
    Traced ℕ ViewLidarIpInfo :=
  let value := kv + 4
  if key = kKeyLidarPointDataHostIpCfg then do
    let hostPort ← response.read16 (value + 4)
    let lidarPort ← response.read16 (value + 6)
    pure { info with hostPointPort := hostPort, lidarPointPort := lidarPort }
  else if key = kKeyLidarImuHostIpCfg then do
    let hostPort ← response.read16 (value + 4)
    let lidarPort ← response.read16 (value + 6)
    pure { info with hostImuDataPort := hostPort, lidarImuDataPort := lidarPort }
  else pure info

/-- An entry on the walk. What is left is the info and the offset behind the entry. -/
def walkEntry (response : Mem) (off : UInt16) (info : ViewLidarIpInfo) :
    Traced ℕ (ViewLidarIpInfo × UInt16) := do
  let kv := dataOff + off.toNat
  let key ← response.read16 kv
  let info ← readPorts response kv key info
  let length ← response.read16 (kv + 2)
  pure (info, off + 4 + length)

/-- `for (uint8_t i = 0; i < response->param_num; ++i)`, if it ends in so many rounds. -/
def walkParams (response : Mem) : ℕ → UInt8 → UInt16 → ViewLidarIpInfo →
    Option (Traced ℕ ViewLidarIpInfo)
  | 0, i, _, info =>
    let paramNum := response.read16 1
    if i.toNat < paramNum.val.toNat then none
    else some do
      let _ ← paramNum
      pure info
  | rounds + 1, i, off, info =>
    let paramNum := response.read16 1
    if i.toNat < paramNum.val.toNat then
      let entry := walkEntry response off info
      (walkParams response rounds (i + 1) entry.val.2 entry.val.1).map fun rest => do
        let _ ← paramNum
        let _ ← entry
        rest
    else some do
      let _ ← paramNum
      pure info

/-! ### The view devices -/

structure ViewDevice where
  cmdPort : UInt16
  devType : UInt8
  isGet : Bool

end DeviceManager

/-- `DeviceManager` in view mode, and the lidars whose channels were created and whose
configuration was sent. -/
structure DeviceManager where
  detectionHostIp : List UInt8
  viewDevices : UInt32 → Option DeviceManager.ViewDevice
  viewLidarsInfo : UInt32 → Option ViewLidarIpInfo
  updated : List ViewLidarIpInfo

namespace DeviceManager

/-- A lidar whose ports are not known yet. -/
def newInfo (m : DeviceManager) (handle : UInt32) (device : ViewDevice) : ViewLidarIpInfo where
  handle := handle
  devType := device.devType
  hostIp := m.detectionHostIp
  lidarCmdPort := device.cmdPort
  lidarPointPort := 0
  lidarImuDataPort := 0
  hostPointPort := 0
  hostImuDataPort := 0

/-- The Mid-360 and the Mid-360s have fixed ports. -/
def fixedPorts (info : ViewLidarIpInfo) : ViewLidarIpInfo :=
  if info.devType = kLivoxLidarTypeMid360 then
    { info with
      lidarPointPort := kMid360LidarPointCloudPort
      lidarImuDataPort := kMid360LidarImuDataPort }
  else if info.devType = kLivoxLidarTypeMid360s then
    { info with
      lidarPointPort := kMid360sLidarPointCloudPort
      lidarImuDataPort := kMid360sLidarImuDataPort }
  else info

/-- The info is taken over. -/
def takeInfo (m : DeviceManager) (handle : UInt32) (device : ViewDevice) (info : ViewLidarIpInfo) :
    DeviceManager :=
  { m with
    viewDevices := Function.update m.viewDevices handle (some { device with isGet := true })
    viewLidarsInfo := Function.update m.viewLidarsInfo handle (some info)
    updated := m.updated ++ [info] }

/-- `AddViewLidar`, if its walk ends in so many rounds. -/
def addViewLidar (m : DeviceManager) (handle : UInt32) (response : Option Mem) (rounds : ℕ) :
    Option (Traced ℕ DeviceManager) :=
  match response with
  | none => some (pure m)
  | some response =>
    let retCode := response.read8 0
    if retCode.val ≠ 0 then some do
      let _ ← retCode
      pure m
    else
      match m.viewDevices handle with
      | none => some do
        let _ ← retCode
        pure m
      | some device =>
        if device.isGet then some do
          let _ ← retCode
          pure m
        else
          (walkParams response rounds 0 0 (m.newInfo handle device)).map fun walk => do
            let _ ← retCode
            let info ← walk
            pure (m.takeInfo handle device (fixedPorts info))

/-! ### What is to hold -/

/-- The entries on the walk, `n` from an offset on, lie in the payload: the head of each,
and the ports that are read. -/
def WalkFits (response : Mem) (dataLen : UInt16) : ℕ → UInt16 → Prop
  | 0, _ => True
  | n + 1, off =>
    let kv := dataOff + off.toNat
    kv + 4 ≤ dataLen.toNat ∧
      (response.u16 kv = kKeyLidarPointDataHostIpCfg ∨ response.u16 kv = kKeyLidarImuHostIpCfg →
        kv + 12 ≤ dataLen.toNat) ∧
      WalkFits response dataLen n (off + 4 + response.u16 (kv + 2))

/-- The walk is reached: the lidar answers without an error, and is waited for. -/
def WalkReached (m : DeviceManager) (handle : UInt32) (response : Mem) : Prop :=
  response 0 = 0 ∧ ∃ device, m.viewDevices handle = some device ∧ device.isGet = false

/-- A packet of the state info has the number of keys and the list of a payload; its head
is a byte longer. -/
structure SameList (response : Mem) (dataLen : UInt16) (packet : Mem) (packetLen : UInt16) :
    Prop where
  keyNum : packet.u16 0 = response.u16 1
  length : packetLen.toNat = dataLen.toNat + 1
  entries : ∀ i, dataOff + i < dataLen.toNat → packet (4 + i) = response (dataOff + i)

/-- A copy stays in its field. -/
def CopyFits : Access → Prop
  | .read _ => True
  | .copy field len => len ≤ field.size

/-- The parser of the state info accepts the packet, whose values fit their fields. -/
structure Accepts (packet : Mem) (packetLen : UInt16) (s : StateInfo) : Prop where
  accepted : (parseStateInfo packet packetLen s).val.1 = true
  fits : (parseStateInfo packet packetLen s).All CopyFits

/-- The ports of a lidar are those of the state info, as far as it has seen their keys. -/
structure PortsAgree (info : ViewLidarIpInfo) (s : StateInfo) : Prop where
  point : .kKeyLidarPointDataHostIpCfg ∈ s.keyMask →
    s.info.u16 StateField.hostPointDataPort.off = info.hostPointPort ∧
      s.info.u16 StateField.lidarPointDataPort.off = info.lidarPointPort
  imu : .kKeyLidarImuHostIpCfg ∈ s.keyMask →
    s.info.u16 StateField.hostImuDataPort.off = info.hostImuDataPort ∧
      s.info.u16 StateField.lidarImuDataPort.off = info.lidarImuDataPort

/-- `AddViewLidar` ends, and reads the payload only; where it walks it finds the ports
that the parser of the state info finds in the same list. -/
structure ViewOk (m : DeviceManager) (handle : UInt32) (response : Mem) (dataLen : UInt16) :
    Prop where
  ends : ∃ rounds run, m.addViewLidar handle (some response) rounds = some run ∧
    run.All (· < dataLen.toNat)
  agrees : m.WalkReached handle response → ∀ device rounds walk,
    walkParams response rounds 0 0 (m.newInfo handle device) = some walk →
      ∀ packet packetLen info, SameList response dataLen packet packetLen →
        Accepts packet packetLen ⟨info, ∅⟩ →
          PortsAgree walk.val (parseStateInfo packet packetLen ⟨info, ∅⟩).val.2

/-! ### How the walk ends -/

/-- The ports of `n` entries are taken over. -/
def walked (response : Mem) : ℕ → UInt16 → ViewLidarIpInfo → ViewLidarIpInfo
  | 0, _, info => info
  | n + 1, off, info =>
    let entry := (walkEntry response off info).val
    walked response n entry.2 entry.1

section Walk

variable {response : Mem} {dataLen : UInt16} {off : UInt16} {info : ViewLidarIpInfo}

/-- An entry is read in the payload when its head is there, and its ports if it has some. -/
theorem walkEntry_inBounds : (walkEntry response off info).All (· < dataLen.toNat) ↔
    dataOff + off.toNat + 4 ≤ dataLen.toNat ∧
      (response.u16 (dataOff + off.toNat) = kKeyLidarPointDataHostIpCfg ∨
        response.u16 (dataOff + off.toNat) = kKeyLidarImuHostIpCfg →
          dataOff + off.toNat + 12 ≤ dataLen.toNat) := by
  unfold walkEntry
  dsimp only
  generalize dataOff + off.toNat = kv
  have hports : (readPorts response kv (response.u16 kv) info).All (· < dataLen.toNat) ↔
      (response.u16 kv = kKeyLidarPointDataHostIpCfg ∨ response.u16 kv = kKeyLidarImuHostIpCfg →
        kv + 12 ≤ dataLen.toNat) := by
    unfold readPorts
    by_cases hpoint : response.u16 kv = kKeyLidarPointDataHostIpCfg
    · simp only [if_pos hpoint, Traced.all_bind, Mem.all_read16, Traced.all_pure]
      refine ⟨fun h _ => h.2.1, fun h => ?_⟩
      have hin := h (.inl hpoint)
      exact ⟨by omega, hin, trivial⟩
    · by_cases himu : response.u16 kv = kKeyLidarImuHostIpCfg
      · simp only [if_neg hpoint, if_pos himu, Traced.all_bind, Mem.all_read16, Traced.all_pure]
        refine ⟨fun h _ => h.2.1, fun h => ?_⟩
        have hin := h (.inr himu)
        exact ⟨by omega, hin, trivial⟩
      · rw [if_neg hpoint, if_neg himu]
        exact iff_of_true (Traced.all_pure info) fun h => absurd h (not_or.mpr ⟨hpoint, himu⟩)
  rw [Traced.all_bind, Traced.all_bind, Traced.all_bind, Mem.all_read16, Mem.all_read16,
    Mem.val_read16, hports]
  simp only [Traced.all_pure, and_true]
  exact ⟨fun h => ⟨h.2.2, h.2.1⟩, fun h => ⟨by omega, h.2, h.1⟩⟩

/-- With `n` keys to go, that the counter can count, the walk ends. -/
theorem walkParams_ends : ∀ (n : ℕ) (i : UInt8) (off : UInt16) (info : ViewLidarIpInfo),
    i.toNat + n = (response.u16 1).toNat → (response.u16 1).toNat ≤ 255 →
    ∃ walk, walkParams response n i off info = some walk
  | 0, i, off, info, hi, _ => by
    have hdone : ¬ i.toNat < (response.u16 1).toNat := by omega
    exact ⟨_, if_neg hdone⟩
  | n + 1, i, off, info, hi, hmax => by
    have hgo : i.toNat < (response.u16 1).toNat := by omega
    have hnext : (i + 1).toNat = i.toNat + 1 := by
      rw [UInt8.toNat_add, show (1 : UInt8).toNat = 1 from rfl]
      omega
    obtain ⟨rest, hrest⟩ := walkParams_ends n (i + 1) (walkEntry response off info).val.2
      (walkEntry response off info).val.1 (by omega) hmax
    exact ⟨_, (if_pos hgo).trans (congrArg _ hrest)⟩

/-- A walk that ends has found what the entries say, and was in the payload if they are. -/
theorem walkParams_run : ∀ (rounds n : ℕ) (i : UInt8) (off : UInt16) (info : ViewLidarIpInfo)
    (walk : Traced ℕ ViewLidarIpInfo), i.toNat + n = (response.u16 1).toNat →
    (response.u16 1).toNat ≤ 255 → walkParams response rounds i off info = some walk →
    walk.val = walked response n off info ∧
      (walk.All (· < dataLen.toNat) ↔ 3 ≤ dataLen.toNat ∧ WalkFits response dataLen n off)
  | rounds, 0, i, off, info, walk, hi, _, hwalk => by
    have hdone : ¬ i.toNat < (response.u16 1).toNat := by omega
    have hend : walkParams response rounds i off info =
        some ((response.read16 1) >>= fun _ => pure info) := by
      cases rounds <;> exact if_neg hdone
    rw [hend] at hwalk
    obtain rfl := Option.some.inj hwalk
    refine ⟨rfl, ?_⟩
    rw [Traced.all_bind, Mem.all_read16]
    exact and_congr_right fun _ => iff_of_true (Traced.all_pure info) trivial
  | 0, n + 1, i, off, info, walk, hi, _, hwalk => by
    have hgo : i.toNat < (response.u16 1).toNat := by omega
    have hnone : walkParams response 0 i off info = none := if_pos hgo
    rw [hnone] at hwalk
    cases hwalk
  | rounds + 1, n + 1, i, off, info, walk, hi, hmax, hwalk => by
    have hgo : i.toNat < (response.u16 1).toNat := by omega
    have hnext : (i + 1).toNat = i.toNat + 1 := by
      rw [UInt8.toNat_add, show (1 : UInt8).toNat = 1 from rfl]
      omega
    have hround := (if_pos hgo).symm.trans hwalk
    obtain ⟨rest, hrest, rfl⟩ := Option.map_eq_some_iff.mp hround
    obtain ⟨hval, hall⟩ := walkParams_run rounds n (i + 1) _ _ rest (by omega) hmax hrest
    refine ⟨hval, ?_⟩
    rw [Traced.all_bind, Traced.all_bind, Mem.all_read16, walkEntry_inBounds, hall]
    constructor
    · rintro ⟨hlen, ⟨hhead, hports⟩, -, hfits⟩
      exact ⟨hlen, hhead, hports, hfits⟩
    · rintro ⟨hlen, hhead, hports, hfits⟩
      exact ⟨hlen, ⟨hhead, hports⟩, hlen, hfits⟩

/-- The counter never gets to more than 255 keys. -/
theorem walkParams_spins (hmany : 255 < (response.u16 1).toNat) : ∀ (rounds : ℕ) (i : UInt8)
    (off : UInt16) (info : ViewLidarIpInfo), walkParams response rounds i off info = none
  | rounds, i, off, info => by
    have hgo : i.toNat < (response.u16 1).toNat := by
      have hi := i.toNat_lt
      omega
    cases rounds with
    | zero => exact if_pos hgo
    | succ rounds =>
      refine (if_pos hgo).trans ?_
      rw [walkParams_spins hmany rounds]
      rfl

end Walk

/-! ### What the parser finds in the same list -/

/-- The fields for the ports. -/
def portFields : List StateField :=
  [.hostPointDataPort, .lidarPointDataPort, .hostImuDataPort, .lidarImuDataPort]

/-- The key whose value has the port of a field. -/
def portKey (field : StateField) : ParamKeyName :=
  if field = .hostPointDataPort ∨ field = .lidarPointDataPort then .kKeyLidarPointDataHostIpCfg
  else .kKeyLidarImuHostIpCfg

section Parser

variable {data : Mem} {offset : UInt16} {info : Mem} {field port : StateField} {bs : List UInt8}

/-- The other fields are apart from a port. -/
theorem portFields_apart (hport : port ∈ portFields) (hne : field ≠ port) :
    field.off + field.size ≤ port.off ∨ port.off + 2 ≤ field.off := by
  have hall : ∀ f ∈ StateField.layout.map Prod.fst, ∀ port ∈ portFields, f ≠ port →
      f.off + f.size ≤ port.off ∨ port.off + 2 ≤ f.off := by decide +kernel
  have hlayout : field ∈ StateField.layout.map Prod.fst := by
    cases field <;> decide
  exact hall field hlayout port hport hne

/-- A copy that fits its field leaves the ports alone. -/
theorem copyTo_keeps (hport : port ∈ portFields) (hne : field ≠ port)
    (hfits : bs.length ≤ field.size) :
    (copyTo field bs info).val.u16 port.off = info.u16 port.off := by
  have hapart := portFields_apart hport hne
  exact Mem.u16_set_of_disjoint _ _ _ _ (by omega)

theorem copyIp_keeps (hport : port ∈ portFields) (hne : field ≠ port) (hsize : field.size = 16) :
    (copyIp data field offset info).val.u16 port.off = info.u16 port.off :=
  copyTo_keeps hport hne (hsize ▸ ipString_length_le offset.toNat)

theorem copyPort_keeps {i : ℕ} (hport : port ∈ portFields) (hne : field ≠ port)
    (hsize : field.size = 2) :
    (copyData data field i 2 info).val.u16 port.off = info.u16 port.off :=
  copyTo_keeps hport hne (Nat.le_of_eq (by rw [hsize]; exact Mem.bytes_length data i 2))

/-- A helper for an address and two other ports leaves a port alone. -/
theorem parseHostIp_keeps {ipAddr hostPort lidarPort : StateField} (hport : port ∈ portFields)
    (hsizes : ipAddr.size = 16 ∧ hostPort.size = 2 ∧ lidarPort.size = 2)
    (hne : ipAddr ≠ port ∧ hostPort ≠ port ∧ lidarPort ≠ port) :
    (parseHostIp ipAddr hostPort lidarPort data offset info).val.u16 port.off =
      info.u16 port.off := by
  have hip : (copyIp data ipAddr offset info).val.u16 port.off = _ :=
    copyIp_keeps hport hne.1 hsizes.1
  have hhost : (copyData data hostPort (offset + 4).toNat 2
      (copyIp data ipAddr offset info).val).val.u16 port.off = _ :=
    copyPort_keeps hport hne.2.1 hsizes.2.1
  exact (copyPort_keeps hport hne.2.2 hsizes.2.2).trans (hhost.trans hip)

/-- A helper of another key leaves a port alone. -/
theorem helper_keeps {k : ParamKeyName} {n : ℕ} {parse : Mem → UInt16 → Mem → Traced Access Mem}
    (hk : valueParser k = some (.helper n parse)) (hport : port ∈ portFields) (hne : k ≠ portKey port) :
    (parse data offset info).val.u16 port.off = info.u16 port.off := by
  have hnot : ∀ f, f ∉ portFields → f ≠ port := fun f hf heq => hf (heq ▸ hport)
  have hown : ∀ f, portKey f = k → f ≠ port := fun f hf heq => hne (heq ▸ hf.symm)
  cases k <;>
    simp only [valueParser, Option.some.injEq, ValueParser.helper.injEq, reduceCtorEq] at hk
  all_goals obtain ⟨rfl, rfl⟩ := hk
  case kKeyLidarIpCfg =>
    have hip : (copyIp data .lidarIpAddr offset info).val.u16 port.off = info.u16 port.off :=
      copyIp_keeps hport (hnot _ (by decide)) rfl
    have hmask : ∀ info, (copyIp data .lidarNetMask (offset + 4) info).val.u16 port.off =
        info.u16 port.off := fun info => copyIp_keeps hport (hnot _ (by decide)) rfl
    exact (copyIp_keeps hport (hnot _ (by decide)) rfl).trans ((hmask _).trans hip)
  case kKeyLidarPointDataHostIpCfg =>
    exact parseHostIp_keeps hport ⟨rfl, rfl, rfl⟩ ⟨hnot _ (by decide), hown _ rfl, hown _ rfl⟩
  case kKeyLidarImuHostIpCfg =>
    exact parseHostIp_keeps hport ⟨rfl, rfl, rfl⟩ ⟨hnot _ (by decide), hown _ rfl, hown _ rfl⟩
  all_goals
    exact parseHostIp_keeps hport ⟨rfl, rfl, rfl⟩
      ⟨hnot _ (by decide), hnot _ (by decide), hnot _ (by decide)⟩

/-- The value of another key leaves a port alone, and does not note its key. -/
theorem parseValue_keeps {key valLen : UInt16} {s : StateInfo} (hport : port ∈ portFields)
    (hne : ParamKeyName.ofValue key ≠ some (portKey port))
    (hfits : (parseValue data key offset valLen s).All CopyFits) :
    (parseValue data key offset valLen s).val.info.u16 port.off = s.info.u16 port.off ∧
      (portKey port ∈ (parseValue data key offset valLen s).val.keyMask →
        portKey port ∈ s.keyMask) := by
  unfold parseValue at hfits ⊢
  cases hkey : ParamKeyName.ofValue key with
  | none => exact ⟨rfl, id⟩
  | some k =>
    have hk : k ≠ portKey port := fun heq => hne (hkey.trans (congrArg some heq))
    have hmask : portKey port ∈ insert k s.keyMask → portKey port ∈ s.keyMask := fun h =>
      (Finset.mem_insert.mp h).resolve_left hk.symm
    rw [hkey] at hfits
    dsimp only at hfits ⊢
    cases hparser : valueParser k with
    | none => exact ⟨rfl, id⟩
    | some v =>
      rw [hparser] at hfits
      cases v with
      | helper n parse => exact ⟨helper_keeps hparser hport hk, hmask⟩
      | value field =>
        have hfield : field ∉ portFields := by
          cases k <;>
            simp only [valueParser, Option.some.injEq, ValueParser.value.injEq, reduceCtorEq]
              at hparser
          all_goals
            subst hparser
            decide
        have hlength : (data.bytes offset.toNat valLen.toNat).length ≤ field.size :=
          hfits (.copy field _) (List.mem_append_left _ (List.mem_append_right _ List.mem_cons_self))
        exact ⟨copyTo_keeps hport (fun heq => hfield (heq ▸ hport)) hlength, hmask⟩

/-- A helper for an address and two ports takes the ports over. -/
theorem parseHostIp_ports (ipAddr hostPort lidarPort : StateField) (data : Mem) (offset : UInt16)
    (info : Mem) (hbehind : lidarPort.off = hostPort.off + 2) :
    (parseHostIp ipAddr hostPort lidarPort data offset info).val.u16 hostPort.off =
        data.u16 (offset + 4).toNat ∧
      (parseHostIp ipAddr hostPort lidarPort data offset info).val.u16 lidarPort.off =
        data.u16 (offset + 4 + 2).toNat := by
  have hcopy : ∀ (m : Mem) i j, (m.set i (data.bytes j 2)).u16 i = data.u16 j := by
    intro m i j
    rw [Mem.bytes_eq_u16, Mem.u16_set_self]
  have hlength : (data.bytes (offset + 4 + 2).toNat 2).length = 2 := Mem.bytes_length _ _ _
  show (Mem.set (Mem.set _ hostPort.off (data.bytes (offset + 4).toNat 2)) lidarPort.off
      (data.bytes (offset + 4 + 2).toNat 2)).u16 hostPort.off = _ ∧
    (Mem.set _ lidarPort.off (data.bytes (offset + 4 + 2).toNat 2)).u16 lidarPort.off = _
  refine ⟨?_, hcopy _ _ _⟩
  rw [Mem.u16_set_of_disjoint _ _ _ _ (by omega), hcopy]

end Parser

section Agree

variable {response packet : Mem} {dataLen packetLen : UInt16} {off : UInt16} {info : ViewLidarIpInfo}
  {s : StateInfo}

/-- The entries stand in the packet one byte later. -/
theorem SameList.u16 (h : SameList response dataLen packet packetLen) {i : ℕ}
    (hi : dataOff + i + 2 ≤ dataLen.toNat) : packet.u16 (4 + i) = response.u16 (dataOff + i) := by
  have hbytes : packet.bytes (4 + i) 2 = response.bytes (dataOff + i) 2 := by
    refine List.map_congr_left fun k hk => ?_
    rw [List.mem_range] at hk
    have hentry := h.entries (i + k) (by omega)
    rwa [← Nat.add_assoc, ← Nat.add_assoc] at hentry
  unfold Mem.u16
  rw [hbytes]

/-- The keys of the ports by their numbers. -/
theorem ofValue_iff (key : UInt16) :
    (ParamKeyName.ofValue key = some .kKeyLidarPointDataHostIpCfg ↔
        key = kKeyLidarPointDataHostIpCfg) ∧
      (ParamKeyName.ofValue key = some .kKeyLidarImuHostIpCfg ↔ key = kKeyLidarImuHostIpCfg) := by
  have hvalues : ∀ e ∈ ParamKeyName.values, (e.2 = .kKeyLidarPointDataHostIpCfg →
      e.1 = kKeyLidarPointDataHostIpCfg) ∧
        (e.2 = .kKeyLidarImuHostIpCfg → e.1 = kKeyLidarImuHostIpCfg) := by decide +kernel
  have hmem : ∀ k, ParamKeyName.ofValue key = some k → (key, k) ∈ ParamKeyName.values := by
    intro k hk
    obtain ⟨l₁, l₂, heq, -⟩ := List.lookup_eq_some_iff.mp hk
    rw [heq]
    exact List.mem_append_right l₁ List.mem_cons_self
  refine ⟨⟨fun h => (hvalues _ (hmem _ h)).1 rfl, ?_⟩, ⟨fun h => (hvalues _ (hmem _ h)).2 rfl, ?_⟩⟩
  · rintro rfl
    rfl
  · rintro rfl
    rfl

/-- The value of another key than that of the point data leaves its ports alone. -/
theorem PortsAgree.keeps_point (h : PortsAgree info s) {data : Mem} {key offset valLen : UInt16}
    (hne : key ≠ kKeyLidarPointDataHostIpCfg)
    (hfits : (parseValue data key offset valLen s).All CopyFits)
    (hmask : .kKeyLidarPointDataHostIpCfg ∈ (parseValue data key offset valLen s).val.keyMask) :
    (parseValue data key offset valLen s).val.info.u16 StateField.hostPointDataPort.off =
        info.hostPointPort ∧
      (parseValue data key offset valLen s).val.info.u16 StateField.lidarPointDataPort.off =
        info.lidarPointPort := by
  have hkey := mt (ofValue_iff key).1.mp hne
  have hhost := parseValue_keeps (show .hostPointDataPort ∈ portFields by decide) hkey hfits
  have hlidar := parseValue_keeps (show .lidarPointDataPort ∈ portFields by decide) hkey hfits
  obtain ⟨hhostPort, hlidarPort⟩ := h.point (hhost.2 hmask)
  exact ⟨hhost.1.trans hhostPort, hlidar.1.trans hlidarPort⟩

/-- The value of another key than that of the IMU data leaves its ports alone. -/
theorem PortsAgree.keeps_imu (h : PortsAgree info s) {data : Mem} {key offset valLen : UInt16}
    (hne : key ≠ kKeyLidarImuHostIpCfg)
    (hfits : (parseValue data key offset valLen s).All CopyFits)
    (hmask : .kKeyLidarImuHostIpCfg ∈ (parseValue data key offset valLen s).val.keyMask) :
    (parseValue data key offset valLen s).val.info.u16 StateField.hostImuDataPort.off =
        info.hostImuDataPort ∧
      (parseValue data key offset valLen s).val.info.u16 StateField.lidarImuDataPort.off =
        info.lidarImuDataPort := by
  have hkey := mt (ofValue_iff key).2.mp hne
  have hhost := parseValue_keeps (show .hostImuDataPort ∈ portFields by decide) hkey hfits
  have hlidar := parseValue_keeps (show .lidarImuDataPort ∈ portFields by decide) hkey hfits
  obtain ⟨hhostPort, hlidarPort⟩ := h.imu (hhost.2 hmask)
  exact ⟨hhost.1.trans hhostPort, hlidar.1.trans hlidarPort⟩

/-- An entry that both have gone through leaves their ports equal. -/
theorem entry_agrees (hlist : SameList response dataLen packet packetLen) (hagree : PortsAgree info s)
    {kv : ℕ} (hkv : kv = dataOff + off.toNat)
    (hports : response.u16 kv = kKeyLidarPointDataHostIpCfg ∨
      response.u16 kv = kKeyLidarImuHostIpCfg → kv + 12 ≤ dataLen.toNat) (valLen : UInt16)
    (hfits : (parseValue packet (response.u16 kv) (off + 4 + 2 + 2) valLen s).All CopyFits) :
    PortsAgree (readPorts response kv (response.u16 kv) info).val
      (parseValue packet (response.u16 kv) (off + 4 + 2 + 2) valLen s).val := by
  have hlt := dataLen.toNat_lt
  have hoff : kv + 12 ≤ dataLen.toNat → (off + 4 + 2 + 2 + 4).toNat = 4 + (off.toNat + 8) ∧
      (off + 4 + 2 + 2 + 4 + 2).toNat = 4 + (off.toNat + 10) := by
    intro hin
    have hfour : (4 : UInt16).toNat = 4 := rfl
    have htwo : (2 : UInt16).toNat = 2 := rfl
    simp only [UInt16.toNat_add, hfour, htwo]
    unfold dataOff at hkv
    omega
  have hread : kv + 12 ≤ dataLen.toNat →
      packet.u16 (off + 4 + 2 + 2 + 4).toNat = response.u16 (kv + 4 + 4) ∧
        packet.u16 (off + 4 + 2 + 2 + 4 + 2).toNat = response.u16 (kv + 4 + 6) := by
    intro hin
    obtain ⟨h8, h10⟩ := hoff hin
    rw [h8, h10, hlist.u16 (by omega), hlist.u16 (by omega), hkv]
    exact ⟨rfl, rfl⟩
  by_cases hpoint : response.u16 kv = kKeyLidarPointDataHostIpCfg
  · have himu : response.u16 kv ≠ kKeyLidarImuHostIpCfg := by
      rw [hpoint]
      decide
    obtain ⟨hhost, hlidar⟩ := hread (hports (.inl hpoint))
    have hwalk : (readPorts response kv (response.u16 kv) info).val = { info with
        hostPointPort := response.u16 (kv + 4 + 4)
        lidarPointPort := response.u16 (kv + 4 + 6) } := by
      unfold readPorts
      rw [if_pos hpoint]
      rfl
    rw [hwalk]
    refine ⟨fun _ => ?_, hagree.keeps_imu himu hfits⟩
    rw [hpoint]
    have hparse := parseHostIp_ports .pointHostIpAddr .hostPointDataPort .lidarPointDataPort packet
      (off + 4 + 2 + 2) s.info (by decide)
    rw [hhost, hlidar] at hparse
    exact hparse
  by_cases himu : response.u16 kv = kKeyLidarImuHostIpCfg
  · obtain ⟨hhost, hlidar⟩ := hread (hports (.inr himu))
    have hwalk : (readPorts response kv (response.u16 kv) info).val = { info with
        hostImuDataPort := response.u16 (kv + 4 + 4)
        lidarImuDataPort := response.u16 (kv + 4 + 6) } := by
      unfold readPorts
      rw [if_neg hpoint, if_pos himu]
      rfl
    rw [hwalk]
    refine ⟨hagree.keeps_point hpoint hfits, fun _ => ?_⟩
    rw [himu]
    have hparse := parseHostIp_ports .imuHostIpAddr .hostImuDataPort .lidarImuDataPort packet
      (off + 4 + 2 + 2) s.info (by decide)
    rw [hhost, hlidar] at hparse
    exact hparse
  · have hwalk : (readPorts response kv (response.u16 kv) info).val = info := by
      unfold readPorts
      rw [if_neg hpoint, if_neg himu]
      rfl
    rw [hwalk]
    exact ⟨hagree.keeps_point hpoint hfits, hagree.keeps_imu himu hfits⟩

/-- The walk and the parser go through the same list with equal ports. -/
theorem walked_agrees (hlist : SameList response dataLen packet packetLen) :
    ∀ (n : ℕ) (off : UInt16) (info : ViewLidarIpInfo) (s : StateInfo),
      WalkFits response dataLen n off →
      (parseKeys packet packetLen n (off + 4) s).val.1 = true →
      (parseKeys packet packetLen n (off + 4) s).All CopyFits → PortsAgree info s →
      PortsAgree (walked response n off info) (parseKeys packet packetLen n (off + 4) s).val.2
  | 0, _, _, _, _, _, _, hagree => hagree
  | n + 1, off, info, s, hwalk, haccepted, hfits, hagree => by
    obtain ⟨hhead, hports, hrest⟩ := hwalk
    have hlt := dataLen.toNat_lt
    have hlength := hlist.length
    have hfour : (4 : UInt16).toNat = 4 := rfl
    have htwo : (2 : UInt16).toNat = 2 := rfl
    have h4 : (off + 4).toNat = 4 + off.toNat := by
      rw [UInt16.toNat_add, hfour]
      unfold dataOff at hhead
      omega
    have h6 : (off + 4 + 2).toNat = 4 + (off.toNat + 2) := by
      rw [UInt16.toNat_add, h4, htwo]
      unfold dataOff at hhead
      omega
    have hkey : packet.u16 (off + 4).toNat = response.u16 (dataOff + off.toNat) := by
      rw [h4]
      exact hlist.u16 (by omega)
    have hvalLen : packet.u16 (off + 4 + 2).toNat = response.u16 (dataOff + off.toNat + 2) := by
      rw [h6]
      exact hlist.u16 (by omega)
    have hin : ¬ (off + 4).toNat + 5 > packetLen.toNat := by
      intro hout
      rw [parseKeys, if_pos hout] at haccepted
      cases haccepted
    have hnext : off + 4 + 2 + 2 + response.u16 (dataOff + off.toNat + 2) =
        off + 4 + response.u16 (dataOff + off.toNat + 2) + 4 := by
      refine UInt16.toNat_inj.mp ?_
      simp only [UInt16.toNat_add, hfour, htwo]
      omega
    rw [parseKeys, if_neg hin] at haccepted hfits ⊢
    simp only [Traced.all_bind, Traced.val_bind, Traced.val_mapLog, Mem.val_read16, hkey, hvalLen,
      hnext] at haccepted hfits ⊢
    obtain ⟨-, -, hvalue, htail⟩ := hfits
    exact walked_agrees hlist n _ _ _ hrest haccepted htail
      (entry_agrees hlist hagree rfl hports _ hvalue)

end Agree

/-! ### The payloads that are read within bounds -/

section Bounds

variable {m : DeviceManager} {handle : UInt32} {response : Mem} {dataLen : UInt16}

theorem addViewLidar_reached {device : ViewDevice} (hret : response 0 = 0)
    (hdevice : m.viewDevices handle = some device) (hget : device.isGet = false) (rounds : ℕ) :
    m.addViewLidar handle (some response) rounds =
      (walkParams response rounds 0 0 (m.newInfo handle device)).map fun walk =>
        (response.read8 0) >>= fun _ => walk >>= fun info =>
          pure (m.takeInfo handle device (fixedPorts info)) := by
  have hok : ¬ (response.read8 0).val ≠ 0 := not_not.mpr hret
  unfold addViewLidar
  dsimp only
  rw [if_neg hok, hdevice]
  dsimp only
  rw [hget]
  rfl

theorem addViewLidar_unreached (hnot : ¬ m.WalkReached handle response) (rounds : ℕ) :
    m.addViewLidar handle (some response) rounds =
      some ((response.read8 0) >>= fun _ => pure m) := by
  by_cases hret : response 0 = 0
  · have hok : ¬ (response.read8 0).val ≠ 0 := not_not.mpr hret
    cases hdevice : m.viewDevices handle with
    | none =>
      unfold addViewLidar
      dsimp only
      rw [if_neg hok, hdevice]
    | some device =>
      have hget : device.isGet = true := by
        by_contra hget
        exact hnot ⟨hret, device, hdevice, Bool.eq_false_of_not_eq_true hget⟩
      unfold addViewLidar
      dsimp only
      rw [if_neg hok, hdevice]
      dsimp only
      rw [hget, if_pos rfl]
  · exact if_pos hret

end Bounds

/-- **The walk ends in the payload exactly when the counter can count the keys and the
payload holds their heads and ports.** Then it finds the ports that the parser of the state
info finds. -/
theorem addViewLidar_iff (m : DeviceManager) (handle : UInt32) (response : Mem)
    (dataLen : UInt16) :
    m.ViewOk handle response dataLen ↔
      1 ≤ dataLen.toNat ∧ (m.WalkReached handle response →
        3 ≤ dataLen.toNat ∧ (response.u16 1).toNat ≤ 255 ∧
          WalkFits response dataLen (response.u16 1).toNat 0) := by
  have hstart : (0 : UInt8).toNat + (response.u16 1).toNat = (response.u16 1).toNat :=
    Nat.zero_add _
  constructor
  · rintro ⟨⟨rounds, run, hrun, hall⟩, -⟩
    by_cases hreached : m.WalkReached handle response
    · obtain ⟨hret, device, hdevice, hget⟩ := id hreached
      rw [addViewLidar_reached hret hdevice hget] at hrun
      obtain ⟨walk, hwalk, rfl⟩ := Option.map_eq_some_iff.mp hrun
      have hmax : (response.u16 1).toNat ≤ 255 := by
        by_contra hmany
        rw [walkParams_spins (Nat.lt_of_not_le hmany)] at hwalk
        cases hwalk
      rw [Traced.all_bind, Traced.all_bind, Mem.all_read8] at hall
      obtain ⟨hlen, hbounds⟩ := (walkParams_run rounds _ 0 0 _ walk hstart hmax hwalk).2.mp hall.2.1
      exact ⟨hall.1, fun _ => ⟨hlen, hmax, hbounds⟩⟩
    · rw [addViewLidar_unreached hreached] at hrun
      obtain rfl := Option.some.inj hrun
      rw [Traced.all_bind, Mem.all_read8] at hall
      exact ⟨hall.1, fun h => absurd h hreached⟩
  · rintro ⟨hlen, hwalk⟩
    by_cases hreached : m.WalkReached handle response
    · obtain ⟨hret, device, hdevice, hget⟩ := id hreached
      obtain ⟨hlen3, hmax, hfits⟩ := hwalk hreached
      obtain ⟨walk, hends⟩ := walkParams_ends _ 0 0 (m.newInfo handle device) hstart hmax
      have hall := (walkParams_run _ _ 0 0 _ walk hstart hmax hends).2.mpr ⟨hlen3, hfits⟩
      refine ⟨⟨_, _, (addViewLidar_reached hret hdevice hget _).trans (congrArg _ hends), ?_⟩, ?_⟩
      · rw [Traced.all_bind, Traced.all_bind, Mem.all_read8]
        exact ⟨hlen, hall, Traced.all_pure _⟩
      · intro _ device' rounds walk' hwalk' packet packetLen info hlist haccepts
        obtain ⟨haccepted, hcopies⟩ := haccepts
        have hval : _ ∧ (walk'.All (· < dataLen.toNat) ↔ _) :=
          walkParams_run rounds _ 0 0 _ walk' hstart hmax hwalk'
        rw [hval.1]
        unfold parseStateInfo at haccepted hcopies ⊢
        simp only [Traced.all_bind, Traced.val_bind, Traced.val_mapLog, Mem.val_read16, hlist.keyNum]
          at haccepted hcopies ⊢
        have hnone : PortsAgree (m.newInfo handle device') ⟨info, ∅⟩ :=
          ⟨fun h => absurd h (Finset.notMem_empty _), fun h => absurd h (Finset.notMem_empty _)⟩
        exact walked_agrees hlist _ 0 _ _ hfits haccepted hcopies.2 hnone
    · refine ⟨⟨0, _, addViewLidar_unreached hreached 0, ?_⟩, fun h => absurd h hreached⟩
      rw [Traced.all_bind, Mem.all_read8]
      exact ⟨hlen, Traced.all_pure m⟩

/-- 256 keys without a value are acknowledged, in a payload that holds them. -/
def manyKeys : Mem := memOf [0, 0, 1]

/-- The counter of the keys never gets to 256. -/
theorem viewOk_manyKeys : ¬ ∀ (m : DeviceManager) (handle : UInt32) (response : Mem)
    (dataLen : UInt16), m.ViewOk handle response dataLen := by
  intro hall
  let m : DeviceManager :=
    ⟨ipText [192, 168, 1, 5], fun _ => some ⟨56100, kLivoxLidarTypeMid360, false⟩, fun _ => none,
      []⟩
  obtain ⟨⟨rounds, run, hrun, -⟩, -⟩ := hall m 1 manyKeys 1027
  rw [addViewLidar_reached rfl rfl rfl, walkParams_spins (by decide)] at hrun
  cases hrun

end DeviceManager

end Livox
end SensorSupport
