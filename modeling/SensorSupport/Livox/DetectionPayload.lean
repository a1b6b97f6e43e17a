/-
# The payloads of detections and acks (`command_handler/general_command_handler.cpp`)

The handlers of a detection and of two acks cast the payload of a frame to a structure,
without its length. The serial number of a detection is taken as a C string; it is kept,
and copied into a field of 16 bytes when the lidar is reported.

Two detections end the program through a null pointer, behind what they read: one of the
type PA with a configuration file, for which there is no handler, and the first of a lidar
without one, when there is no `sdk_framework_cfg_ptr_`. No state is left behind them.

`PayloadFits` says of which frames the handlers take what is there: the payload is as long
as what they read, and the serial number ends in its field. `payloads_run` says that on
such frames nothing is read behind a payload, and that all copies fit.

Key definitions: `DetectedLidars`, `handleDetectionData`, `queryFwTypeCallback`,
`updateLidarCallback`, `livoxLidarInfoChange`, `DetectedLidars.step`, `PayloadFits`.
Key theorems: `handleDetectionData_ok`, `step_ok`, `payloads_run`, `payloadOk_shortDetection`.
-/
import Mathlib.Data.UInt
import SensorSupport.Livox.BuildRequest
import SensorSupport.Livox.CommandTable

namespace SensorSupport
namespace Livox

open CommPort BuildRequest

/-! ### Accesses -/

/-- What a handler does to memory: it reads a byte of the payload, or copies some bytes to
something of a size. -/
inductive PayloadAccess
  | read (i : ℕ)
  | copy (len size : ℕ)

/-- The byte is in the payload, or the copy fits. -/
def PayloadAccess.InBounds (dataLen : ℕ) : PayloadAccess → Prop
  | read i => i < dataLen
  | copy len size => len ≤ size

/-- `strlen`, in memory that goes on for so many bytes. -/
def strlen (m : Mem) : ℕ → ℕ → ℕ
  | _, 0 => 0
  | i, n + 1 => if m i = 0 then 0 else strlen m (i + 1) n + 1

/-- A byte of a payload. -/
def payloadByte (p : Ptr) (i : ℕ) : Traced PayloadAccess UInt8 := ⟨p.mem (p.off + i), [.read i]⟩

/-- Some bytes of a payload. -/
def payloadBytes (p : Ptr) (i n : ℕ) : Traced PayloadAccess (List UInt8) :=
  ⟨p.mem.bytes (p.off + i) n, (List.range' i n).map .read⟩

/-- A 16-bit number of a payload. -/
def payloadU16 (p : Ptr) (i : ℕ) : Traced PayloadAccess UInt16 :=
  ⟨p.mem.u16 (p.off + i), (List.range' i 2).map .read⟩

/-- A C string of a payload; its terminator is read as well. -/
def payloadString (p : Ptr) (i memory : ℕ) : Traced PayloadAccess (List UInt8) :=
  let len := strlen p.mem (p.off + i) memory
  ⟨p.mem.bytes (p.off + i) len, (List.range' i (len + 1)).map .read⟩

/-- `strcpy` of a string into a field of so many bytes. -/
def copyString (s : List UInt8) (size : ℕ) : Traced PayloadAccess (List UInt8) :=
  ⟨s, [.copy (s.length + 1) size]⟩

/-! ### The lidars -/

structure DeviceInfo where
  sn : List UInt8
  lidarIp : List UInt8
  devType : UInt8
  isUpdateCfg : Bool
  isGetLoaderMode : Bool
  isLoaderMode : Bool
  isCallback : Bool

/-- What `devices_[handle]` makes. -/
def DeviceInfo.new : DeviceInfo := ⟨[], [], 0, false, false, false, false⟩

/-- `LivoxLidarInfo` -/
structure LivoxLidarInfo where
  devType : UInt8
  sn : List UInt8
  lidarIp : List UInt8

/-- The callbacks that look at the payload of an ack, by what they are bound to; that of a
lidar's configuration is one for each handler. -/
inductive AckCallback
  | queryFwType
  | updateLidar (devType : UInt8)
  | other
deriving DecidableEq

/-- `GeneralCommandHandler` with its devices, the device manager's types, the counter of
`QueryFwTypeCallback`, the lidars that were reported, and how much memory there is behind
a byte of a payload. -/
structure DetectedLidars where
  table : GeneralCommandHandler AckCallback
  isView : Bool
  detectionHostIp : List UInt8
  devices : UInt32 → Option DeviceInfo
  lidarsDevType : UInt32 → Option UInt8
  count : Int8
  reported : List (UInt32 × LivoxLidarInfo)
  memory : ℕ

namespace DetectedLidars

def init (isView : Bool) (detectionHostIp : List UInt8) (memory : ℕ) : DetectedLidars where
  table := .init isView
  isView := isView
  detectionHostIp := detectionHostIp
  devices := fun _ => none
  lidarsDevType := fun _ => none
  count := 0
  reported := []
  memory := memory

def setDevice (s : DetectedLidars) (handle : UInt32) (device : DeviceInfo) : DetectedLidars :=
  { s with devices := Function.update s.devices handle (some device) }

/-- `LivoxLidarInfoChange` -/
def livoxLidarInfoChange (s : DetectedLidars) (handle : UInt32) :
    Traced PayloadAccess DetectedLidars := do
  let device := (s.devices handle).getD .new
  let sn ← copyString device.sn 16
  let lidarIp ← copyString device.lidarIp 16
  let s := s.setDevice handle { device with isUpdateCfg := true, isCallback := true }
  if device.isCallback then pure s
  else pure { s with reported := s.reported ++ [(handle, ⟨device.devType, sn, lidarIp⟩)] }

/-- `UpdateFwType` -/
def updateFwType (s : DetectedLidars) (handle : UInt32) (fwType : UInt8) : DetectedLidars :=
  match s.devices handle with
  | none => s
  | some device =>
    s.setDevice handle { device with isGetLoaderMode := true, isLoaderMode := fwType = 0 }

/-- `VerifyNetSegment` -/
def verifyNetSegment (s : DetectedLidars) (lidarIp : List UInt8) : Bool :=
  if s.isView then
    if s.detectionHostIp = [] then false
    else
      match ipToU8 s.detectionHostIp 0x2E with
      | .error _ => false
      | .ok hostIp => hostIp.take 3 = lidarIp.take 3
  else true

/-- `CreateCommandHandler`, when the program goes on. With a configuration file there is no
handler for the type PA to initialise. -/
def createCommandHandler (s : DetectedLidars) (devType : UInt8) : Option DetectedLidars :=
  if !s.isView && devType = kLivoxLidarTypePA then none
  else some { s with table := { s.table with
    lidarsCommandHandler := fun t =>
      s.table.lidarsCommandHandler t || (s.isView && t = devType && hasCommandHandler devType) } }

/-- `DeviceManager::HandleDetectionData`, of which the requests to the lidar are left out. -/
def deviceManagerDetection (s : DetectedLidars) (handle : UInt32) (devType : UInt8)
    (device : DeviceInfo) : Traced PayloadAccess DetectedLidars :=
  let loading := device.isGetLoaderMode && device.isLoaderMode
  if handle = 0 then pure s
  else if s.isView then
    if loading then s.livoxLidarInfoChange handle else pure s
  else
    match s.lidarsDevType handle with
    | some t =>
      if t ≠ devType then pure s
      else if loading then s.livoxLidarInfoChange handle else pure s
    | none =>
      let s := { s with lidarsDevType := Function.update s.lidarsDevType handle (some devType) }
      if loading then s.livoxLidarInfoChange handle else pure s

/-- A lidar that is detected for the first time. -/
def addDetected (s : DetectedLidars) (handle : UInt32) (devType : UInt8) (sn lidarIp : List UInt8) :
    DetectedLidars :=
  let s := { s with table := { s.table with
    deviceDevType := Function.update s.table.deviceDevType handle
      ((s.table.deviceDevType handle).or (some devType)) } }
  s.setDevice handle ⟨sn, ipText lidarIp, devType, false, false, false, false⟩

/-- `GetFirmwareType`, when the program goes on; the query itself is left out. Without a
configuration file there is no `sdk_framework_cfg_ptr_` to look at. -/
def getFirmwareType (s : DetectedLidars) : Option DetectedLidars :=
  if s.isView then none else some s

/-- A lidar is known from now on, or is passed on to the device manager. -/
def takeDetection (s : DetectedLidars) (handle : UInt32) (devType : UInt8)
    (sn lidarIp : List UInt8) : Traced PayloadAccess (Option DetectedLidars) :=
  if s.verifyNetSegment lidarIp then
    match s.createCommandHandler devType with
    | none => pure none
    | some s =>
      match s.devices handle with
      | some device => some <$> s.deviceManagerDetection handle devType device
      | none => pure (s.addDetected handle devType sn lidarIp).getFirmwareType
  else pure (some s)

/-- `HandleDetectionData`. The fields of `DetectionData` lie at 0, 1, 2, 18 and 22; all of
them are logged, and the managers of logs and debug points take them as well. -/
def handleDetectionData (s : DetectedLidars) (handle : UInt32) (packet : CommPacket) :
    Traced PayloadAccess (Option DetectedLidars) :=
  match packet.data with
  | none => pure (some s)
  | some data =>
    if packet.dataLen = 0 then pure (some s)
    else do
      let retCode ← payloadByte data 0
      if retCode ≠ 0 then pure (some s)
      else
        let devType ← payloadByte data 1
        let sn ← payloadString data 2 s.memory
        let _ ← payloadU16 data 22
        let lidarIp ← payloadBytes data 18 4
        s.takeDetection handle devType sn lidarIp

/-- A query of the firmware type that failed is counted, and made again. -/
def fwTypeFailed (s : DetectedLidars) : DetectedLidars := { s with count := s.count + 1 }

/-- `kKeyFwType` -/
def kKeyFwType : UInt16 := 0x8010

/-- `QueryFwTypeCallback` -/
def queryFwTypeCallback (s : DetectedLidars) (handle : UInt32) (status : Status)
    (response : Option Ptr) : Traced PayloadAccess DetectedLidars :=
  if 10 < s.count then pure { s.updateFwType handle 1 with count := 0 }
  else if status ≠ .success then pure s.fwTypeFailed
  else
    match response with
    | none => pure s.fwTypeFailed
    | some response => do
      let retCode ← payloadByte response 0
      if retCode ≠ 0 then pure s.fwTypeFailed
      else
        let key ← payloadU16 response 3
        if key ≠ kKeyFwType then pure s.fwTypeFailed
        else
          let length ← payloadU16 response 5
          if length ≠ 1 then pure s.fwTypeFailed
          else
            let value ← payloadBytes response 7 length.toNat
            let fwType ← (⟨value, [.copy value.length 1]⟩ : Traced PayloadAccess _)
            pure { s.updateFwType handle (fwType.headD 0) with count := 0 }

/-- `UpdateLidarCallback`. The handler of the HAP reports a lidar that refused as well. -/
def updateLidarCallback (s : DetectedLidars) (devType : UInt8) (handle : UInt32) (status : Status)
    (response : Option Ptr) : Traced PayloadAccess DetectedLidars :=
  if status ≠ .success then pure s
  else
    match response with
    | none => pure s
    | some response => do
      let retCode ← payloadByte response 0
      let errorKey ← payloadU16 response 1
      if retCode = 0 ∧ errorKey = 0 then s.livoxLidarInfoChange handle
      else if devType = kLivoxLidarTypeIndustrialHAP then s.livoxLidarInfoChange handle
      else pure s

/-- A callback is invoked. -/
def runCallback (s : DetectedLidars) (cb : Callback AckCallback) :
    Traced PayloadAccess DetectedLidars :=
  match cb.command.cb with
  | .queryFwType => s.queryFwTypeCallback cb.handle cb.status cb.data
  | .updateLidar devType => s.updateLidarCallback devType cb.handle cb.status cb.data
  | .other => pure s

/-- Callbacks are invoked one after another. -/
def runCallbacks : List (Callback AckCallback) → DetectedLidars →
    Traced PayloadAccess DetectedLidars
  | [], s => pure s
  | cb :: cbs, s => do
    let s ← s.runCallback cb
    runCallbacks cbs s

/-! ### Frames -/

/-- The packet in a datagram. -/
def packetOf (crc : FastCRC) (d : Datagram) : Option CommPacket :=
  (parseCommStream crc d.buf d.bufSize).val

/-- The datagram is a detection. -/
def IsDetection (d : Datagram) (packet : CommPacket) : Prop :=
  d.lidarPort = kDetectionPort ∧ packet.cmdId = kCommandIDLidarSearch

instance (d : Datagram) (packet : CommPacket) : Decidable (IsDetection d packet) :=
  inferInstanceAs (Decidable (_ ∧ _))

/-- The callbacks are invoked that the table invoked since the last step. -/
def runNewCallbacks (s : DetectedLidars) (table : GeneralCommandHandler AckCallback) :
    Traced PayloadAccess DetectedLidars :=
  runCallbacks (table.callbacks.drop s.table.callbacks.length) { s with table := table }

/-- `Handler` of a datagram. -/
def receive (crc : FastCRC) (s : DetectedLidars) (d : Datagram) :
    Traced PayloadAccess (Option DetectedLidars) :=
  match packetOf crc d with
  | none => pure (some s)
  | some packet =>
    if IsDetection d packet then
      if packet.cmdType = kCommandTypeCmd then pure (some s)
      else s.handleDetectionData d.handle packet
    else some <$> s.runNewCallbacks (s.table.receive crc d)

/-- A step of some thread. A lidar is detected by a datagram only. -/
def step (crc : FastCRC) (s : DetectedLidars) : Event AckCallback →
    Option (Traced PayloadAccess (Option DetectedLidars))
  | .receive d => some (s.receive crc d)
  | .detected _ _ => none
  | e => (s.table.step crc e).map fun table => some <$> s.runNewCallbacks table

/-- The state behind a step, when it is possible and the program goes on. -/
def next (crc : FastCRC) (s : DetectedLidars) (e : Event AckCallback) : Option DetectedLidars :=
  (s.step crc e).bind Traced.val

/-! ### What is to hold -/

/-- The data that a frame reports. -/
def payloadLen (crc : FastCRC) : Event AckCallback → ℕ
  | .receive d => ((packetOf crc d).map fun packet => packet.dataLen.toNat).getD 0
  | _ => 0

/-- The command that a datagram acknowledges. -/
def acked (crc : FastCRC) (s : DetectedLidars) (d : Datagram) : Option (Command AckCallback) :=
  (s.table.ackPacket crc d).bind fun ack => (s.table.commands[ack.1]?).map Entry.command

/-- The length of the message that a frame is handled as, which is that of `DetectionData`,
of one key with a value of one byte, or of `LivoxLidarAsyncControlResponse`. -/
def messageLen (crc : FastCRC) (s : DetectedLidars) : Event AckCallback → ℕ
  | .receive d =>
    match packetOf crc d with
    | none => 0
    | some packet =>
      if IsDetection d packet then if packet.cmdType = kCommandTypeCmd then 0 else 24
      else
        match (s.acked crc d).map Command.cb with
        | some .queryFwType => 8
        | some (.updateLidar _) => 3
        | _ => 0
  | _ => 0

/-- A step reads the payload only, and copies what fits; a payload that is too short for
its message is not read, or leaves the lidars as they are. -/
structure PayloadOk (crc : FastCRC) (s : DetectedLidars) (e : Event AckCallback) : Prop where
  inBounds : ∀ t, s.step crc e = some t → t.All (PayloadAccess.InBounds (payloadLen crc e))
  ignored : ∀ t, s.step crc e = some t → payloadLen crc e < s.messageLen crc e →
    (∃ s', t.val = some s' ∧ s'.devices = s.devices) ∨ ∀ i, .read i ∉ t.log

/-- A detection that is not refused has all its data, and its serial number ends in its
field. -/
def DetectionFits (data : Ptr) (dataLen : ℕ) : Prop :=
  dataLen = 0 ∨ data.mem data.off ≠ 0 ∨ 24 ≤ dataLen ∧ ∃ k < 16, data.mem (data.off + (2 + k)) = 0

/-- The ack of a query of the firmware type has what is looked at. -/
def FwTypeFits (data : Ptr) (dataLen : ℕ) : Prop :=
  1 ≤ dataLen ∧ (data.mem data.off ≠ 0 ∨
    5 ≤ dataLen ∧ (data.mem.u16 (data.off + 3) ≠ kKeyFwType ∨
      7 ≤ dataLen ∧ (data.mem.u16 (data.off + 5) ≠ 1 ∨ 8 ≤ dataLen)))

/-- The ack of a command has what its callback looks at. -/
def AckFits (s : DetectedLidars) (cb : AckCallback) (data : Ptr) (dataLen : ℕ) : Prop :=
  match cb with
  | .queryFwType => 10 < s.count ∨ FwTypeFits data dataLen
  | .updateLidar _ => 3 ≤ dataLen
  | .other => True

/-- The payload of a frame has what its handler looks at. -/
def PayloadFits (crc : FastCRC) (s : DetectedLidars) : Event AckCallback → Prop
  | .receive d => ∀ packet data, packetOf crc d = some packet → packet.data = some data →
    if IsDetection d packet then
      packet.cmdType ≠ kCommandTypeCmd → DetectionFits data packet.dataLen.toNat
    else ∀ c, s.acked crc d = some c → s.AckFits c.cb data packet.dataLen.toNat
  | _ => True

/-- The texts that are kept of the lidars fit the fields that they are copied into. -/
def TextsFit (s : DetectedLidars) : Prop :=
  ∀ handle device, s.devices handle = some device →
    device.sn.length ≤ 15 ∧ device.lidarIp.length ≤ 15

/-! ### The handlers -/

section Handlers

variable {s : DetectedLidars} {handle : UInt32} {n : ℕ}

theorem payloadByte_inBounds {p : Ptr} {i : ℕ} :
    (payloadByte p i).All (PayloadAccess.InBounds n) ↔ i < n := by
  simp [payloadByte, Traced.All, PayloadAccess.InBounds]

/-- The reads of a range of bytes are in the payload when its end is. -/
theorem reads_inBounds {i k : ℕ} (h : i + k ≤ n) :
    ∀ e ∈ (List.range' i k).map PayloadAccess.read, e.InBounds n := by
  intro e he
  obtain ⟨j, hj, rfl⟩ := List.mem_map.mp he
  rw [List.mem_range'_1] at hj
  exact Nat.lt_of_lt_of_le hj.2 h

/-- A string ends at its first terminator. -/
theorem strlen_le (m : Mem) : ∀ (k i memory : ℕ), m (i + k) = 0 → strlen m i memory ≤ k
  | _, _, 0, _ => Nat.zero_le _
  | 0, i, memory + 1, h => by
    have hend : m i = 0 := h
    rw [strlen, if_pos hend]
  | k + 1, i, memory + 1, h => by
    have hrest : strlen m (i + 1) memory ≤ k := by
      apply strlen_le m k (i + 1) memory
      rwa [Nat.add_right_comm, Nat.add_assoc]
    rw [strlen]
    split
    · exact Nat.zero_le _
    · omega

theorem setDevice_texts (hs : s.TextsFit) {device : DeviceInfo} (hsn : device.sn.length ≤ 15)
    (hip : device.lidarIp.length ≤ 15) : (s.setDevice handle device).TextsFit := by
  intro h d hd
  change Function.update s.devices handle (some device) h = some d at hd
  by_cases heq : h = handle
  · rw [heq, Function.update_self] at hd
    obtain rfl := Option.some.inj hd
    exact ⟨hsn, hip⟩
  · rw [Function.update_of_ne heq] at hd
    exact hs h d hd

theorem updateFwType_texts (hs : s.TextsFit) (fwType : UInt8) :
    (s.updateFwType handle fwType).TextsFit := by
  unfold updateFwType
  cases hdevice : s.devices handle with
  | none => exact hs
  | some device => exact setDevice_texts hs (hs handle device hdevice).1 (hs handle device hdevice).2

/-- The texts of a lidar that is reported are copied into fields that they fit. -/
theorem livoxLidarInfoChange_ok (hs : s.TextsFit) :
    (s.livoxLidarInfoChange handle).All (PayloadAccess.InBounds n) ∧
      (s.livoxLidarInfoChange handle).val.TextsFit := by
  obtain ⟨hsn, hip⟩ : ((s.devices handle).getD .new).sn.length ≤ 15 ∧
      ((s.devices handle).getD .new).lidarIp.length ≤ 15 := by
    cases hdevice : s.devices handle with
    | none => exact ⟨Nat.zero_le 15, Nat.zero_le 15⟩
    | some device => exact hs handle device hdevice
  have hcopy : ∀ text : List UInt8, text.length ≤ 15 →
      (copyString text 16).All (PayloadAccess.InBounds n) := by
    intro text htext e he
    obtain rfl := List.mem_singleton.mp he
    exact Nat.succ_le_succ htext
  have hset : (s.setDevice handle { (s.devices handle).getD .new with
      isUpdateCfg := true
      isCallback := true }).TextsFit := setDevice_texts hs hsn hip
  unfold livoxLidarInfoChange
  simp only [Traced.all_bind, Traced.val_bind]
  refine ⟨⟨hcopy _ hsn, hcopy _ hip, ?_⟩, ?_⟩
  · split <;> exact Traced.all_pure _
  · split <;> exact hset

theorem deviceManagerDetection_ok (hs : s.TextsFit) (devType : UInt8) (device : DeviceInfo) :
    (s.deviceManagerDetection handle devType device).All (PayloadAccess.InBounds n) ∧
      (s.deviceManagerDetection handle devType device).val.TextsFit := by
  have hnone : (pure s : Traced PayloadAccess DetectedLidars).All (PayloadAccess.InBounds n) ∧
      (pure s : Traced PayloadAccess DetectedLidars).val.TextsFit := ⟨Traced.all_pure s, hs⟩
  unfold deviceManagerDetection
  dsimp only
  split_ifs
  · exact hnone
  · exact livoxLidarInfoChange_ok hs
  · exact hnone
  · cases s.lidarsDevType handle with
    | some t =>
      dsimp only
      split_ifs
      · exact hnone
      · exact livoxLidarInfoChange_ok hs
    | none => exact livoxLidarInfoChange_ok hs
  · cases s.lidarsDevType handle with
    | some t =>
      dsimp only
      split_ifs
      · exact hnone
      · exact hnone
    | none => exact ⟨Traced.all_pure _, hs⟩

/-- A handler that is created or initialised leaves the lidars as they are. -/
theorem createCommandHandler_devices {s' : DetectedLidars} {devType : UInt8}
    (h : s.createCommandHandler devType = some s') :
    s'.devices = s.devices ∧ s'.reported = s.reported := by
  unfold createCommandHandler at h
  split at h
  · cases h
  · obtain rfl := Option.some.inj h
    exact ⟨rfl, rfl⟩

/-- The question for the firmware type leaves the lidars as they are. -/
theorem getFirmwareType_eq {s' : DetectedLidars} (h : s.getFirmwareType = some s') : s' = s := by
  unfold getFirmwareType at h
  split at h
  · cases h
  · exact (Option.some.inj h).symm

/-- A detection that is taken, and what it does to the lidars when the program goes on. -/
theorem takeDetection_ok (hs : s.TextsFit) (devType : UInt8) {sn lidarIp : List UInt8}
    (hsn : sn.length ≤ 15) (hip : lidarIp.length = 4) :
    (s.takeDetection handle devType sn lidarIp).All (PayloadAccess.InBounds n) ∧
      ∀ s', (s.takeDetection handle devType sn lidarIp).val = some s' → s'.TextsFit := by
  unfold takeDetection
  by_cases hnet : s.verifyNetSegment lidarIp
  swap
  · rw [if_neg hnet]
    refine ⟨Traced.all_pure _, ?_⟩
    rintro s' ⟨⟩
    exact hs
  rw [if_pos hnet]
  cases hcreated : s.createCommandHandler devType with
  | none => exact ⟨Traced.all_pure _, fun s' h => nomatch (h : none = some s')⟩
  | some s₁ =>
    have hs₁ : s₁.TextsFit := by
      unfold TextsFit
      rw [(createCommandHandler_devices hcreated).1]
      exact hs
    dsimp only
    cases hdevice : s₁.devices handle with
    | some device =>
      obtain ⟨hall, htexts⟩ : (s₁.deviceManagerDetection handle devType device).All
          (PayloadAccess.InBounds n) ∧ _ := deviceManagerDetection_ok hs₁ devType device
      refine ⟨(Traced.all_map some _).mpr hall, ?_⟩
      rintro s' ⟨⟩
      exact htexts
    | none =>
      have htext : (ipText lidarIp).length ≤ 15 := by
        have hfits := ParseLidarStateInfo.ipString_fits hip
        have hstring : ParseLidarStateInfo.ipString lidarIp = ipText lidarIp ++ [0] := rfl
        rw [hstring, List.length_append, List.length_singleton] at hfits
        omega
      refine ⟨Traced.all_pure _, fun s' h => ?_⟩
      rw [getFirmwareType_eq h]
      exact setDevice_texts hs₁ hsn htext

/-- A detection that fits is read within its payload, and its texts fit. One that is too
short leaves the lidars as they are. -/
theorem handleDetectionData_ok (hs : s.TextsFit) {packet : CommPacket}
    (hfits : ∀ data, packet.data = some data → DetectionFits data packet.dataLen.toNat) :
    (s.handleDetectionData handle packet).All (PayloadAccess.InBounds packet.dataLen.toNat) ∧
      (∀ s', (s.handleDetectionData handle packet).val = some s' → s'.TextsFit) ∧
      (packet.dataLen.toNat < 24 →
        ∃ s', (s.handleDetectionData handle packet).val = some s' ∧ s'.devices = s.devices) := by
  have hsame : ∀ s', some s = some s' → s'.TextsFit := by
    rintro s' ⟨⟩
    exact hs
  unfold handleDetectionData
  cases hdata : packet.data with
  | none => exact ⟨Traced.all_pure _, hsame, fun _ => ⟨s, rfl, rfl⟩⟩
  | some data =>
    dsimp only
    by_cases hzero : packet.dataLen = 0
    · rw [if_pos hzero]
      exact ⟨Traced.all_pure _, hsame, fun _ => ⟨s, rfl, rfl⟩⟩
    have hpos : 0 < packet.dataLen.toNat := by
      have hne := mt UInt16.toNat_inj.mp hzero
      exact Nat.pos_of_ne_zero hne
    rw [if_neg hzero, Traced.all_bind, Traced.val_bind, payloadByte_inBounds]
    by_cases hret : (payloadByte data 0).val ≠ 0
    · rw [if_pos hret]
      exact ⟨⟨hpos, Traced.all_pure _⟩, hsame, fun _ => ⟨s, rfl, rfl⟩⟩
    obtain ⟨hlen, k, hk, hend⟩ : 24 ≤ packet.dataLen.toNat ∧
        ∃ k < 16, data.mem (data.off + (2 + k)) = 0 := by
      rcases hfits data hdata with h | h | h
      · exact absurd h (Nat.ne_of_gt hpos)
      · exact absurd h hret
      · exact h
    have hstr : strlen data.mem (data.off + 2) s.memory ≤ k := by
      apply strlen_le
      rwa [Nat.add_assoc]
    rw [if_neg hret]
    simp only [Traced.all_bind, Traced.val_bind, payloadByte_inBounds]
    have hsn : (payloadString data 2 s.memory).val.length ≤ 15 := by
      show (data.mem.bytes _ _).length ≤ 15
      rw [Mem.bytes_length]
      omega
    obtain ⟨htake, htexts⟩ : (s.takeDetection handle (payloadByte data 1).val
        (payloadString data 2 s.memory).val (payloadBytes data 18 4).val).All
          (PayloadAccess.InBounds packet.dataLen.toNat) ∧ _ :=
      takeDetection_ok hs _ hsn (Mem.bytes_length data.mem (data.off + 18) 4)
    refine ⟨⟨hpos, by omega, ?_, ?_, ?_, htake⟩, htexts, fun h => absurd hlen (Nat.not_le.mpr h)⟩
    · exact reads_inBounds (by omega)
    · exact reads_inBounds (show 22 + 2 ≤ _ by omega)
    · exact reads_inBounds (show 18 + 4 ≤ _ by omega)

/-- The ack of a query of the firmware type that fits is read within its payload. One that
is too short is not read, or leaves the lidars as they are. -/
theorem queryFwTypeCallback_ok (hs : s.TextsFit) {status : Status} {response : Option Ptr}
    (hfits : ∀ data, response = some data → 10 < s.count ∨ FwTypeFits data n) :
    (s.queryFwTypeCallback handle status response).All (PayloadAccess.InBounds n) ∧
      (s.queryFwTypeCallback handle status response).val.TextsFit ∧
      (n < 8 → (s.queryFwTypeCallback handle status response).val.devices = s.devices ∨
        ∀ i, .read i ∉ (s.queryFwTypeCallback handle status response).log) := by
  have hfailed : (pure s.fwTypeFailed : Traced PayloadAccess DetectedLidars).All
      (PayloadAccess.InBounds n) := Traced.all_pure _
  unfold queryFwTypeCallback
  by_cases hcount : 10 < s.count
  · rw [if_pos hcount]
    exact ⟨Traced.all_pure _, updateFwType_texts hs 1, fun _ => .inr fun _ h => nomatch h⟩
  rw [if_neg hcount]
  by_cases hstatus : status ≠ .success
  · rw [if_pos hstatus]
    exact ⟨hfailed, hs, fun _ => .inl rfl⟩
  rw [if_neg hstatus]
  cases response with
  | none => exact ⟨hfailed, hs, fun _ => .inl rfl⟩
  | some data =>
    obtain ⟨hlen, hrest⟩ := (hfits data rfl).resolve_left hcount
    dsimp only
    rw [Traced.all_bind, Traced.val_bind, payloadByte_inBounds]
    by_cases hret : (payloadByte data 0).val ≠ 0
    · rw [if_pos hret]
      exact ⟨⟨hlen, hfailed⟩, hs, fun _ => .inl rfl⟩
    obtain ⟨hlen5, hrest⟩ := hrest.resolve_left hret
    have hkeyRead : (payloadU16 data 3).All (PayloadAccess.InBounds n) :=
      reads_inBounds (show 3 + 2 ≤ n by omega)
    rw [if_neg hret, Traced.all_bind, Traced.val_bind]
    by_cases hkey : (payloadU16 data 3).val ≠ kKeyFwType
    · rw [if_pos hkey]
      exact ⟨⟨hlen, hkeyRead, hfailed⟩, hs, fun _ => .inl rfl⟩
    obtain ⟨hlen7, hrest⟩ := hrest.resolve_left hkey
    have hlengthRead : (payloadU16 data 5).All (PayloadAccess.InBounds n) :=
      reads_inBounds (show 5 + 2 ≤ n by omega)
    rw [if_neg hkey, Traced.all_bind, Traced.val_bind]
    by_cases hlength : (payloadU16 data 5).val ≠ 1
    · rw [if_pos hlength]
      exact ⟨⟨hlen, hkeyRead, hlengthRead, hfailed⟩, hs, fun _ => .inl rfl⟩
    have hlen8 := hrest.resolve_left hlength
    have hone : (payloadU16 data 5).val = 1 := not_not.mp hlength
    rw [if_neg hlength, Traced.all_bind, Traced.val_bind, Traced.all_bind, Traced.val_bind, hone]
    refine ⟨⟨hlen, hkeyRead, hlengthRead, reads_inBounds (show 7 + 1 ≤ n from hlen8), ?_,
      Traced.all_pure _⟩, updateFwType_texts hs _, fun h => absurd hlen8 (Nat.not_le.mpr h)⟩
    intro e he
    obtain rfl := List.mem_singleton.mp he
    show (data.mem.bytes _ _).length ≤ 1
    rw [Mem.bytes_length]
    exact Nat.le_refl 1

/-- The ack of a configuration is read within its payload when it has its three bytes. -/
theorem updateLidarCallback_ok (hs : s.TextsFit) {devType : UInt8} {status : Status}
    {response : Option Ptr} (hfits : response ≠ none → 3 ≤ n) :
    (s.updateLidarCallback devType handle status response).All (PayloadAccess.InBounds n) ∧
      (s.updateLidarCallback devType handle status response).val.TextsFit ∧
      (n < 3 → (s.updateLidarCallback devType handle status response).val.devices = s.devices) := by
  have hnone : (pure s : Traced PayloadAccess DetectedLidars).All (PayloadAccess.InBounds n) :=
    Traced.all_pure s
  unfold updateLidarCallback
  by_cases hstatus : status ≠ .success
  · rw [if_pos hstatus]
    exact ⟨hnone, hs, fun _ => rfl⟩
  rw [if_neg hstatus]
  cases response with
  | none => exact ⟨hnone, hs, fun _ => rfl⟩
  | some data =>
    have hlen := hfits (Option.some_ne_none data)
    have hkeyRead : (payloadU16 data 1).All (PayloadAccess.InBounds n) :=
      reads_inBounds (show 1 + 2 ≤ n by omega)
    obtain ⟨hreport, htexts⟩ : (s.livoxLidarInfoChange handle).All (PayloadAccess.InBounds n) ∧ _ :=
      livoxLidarInfoChange_ok hs
    dsimp only
    rw [Traced.all_bind, Traced.val_bind, payloadByte_inBounds, Traced.all_bind, Traced.val_bind]
    refine and_assoc.mp ⟨?_, fun h => absurd hlen (Nat.not_le.mpr h)⟩
    split_ifs
    · exact ⟨⟨by omega, hkeyRead, hreport⟩, htexts⟩
    · exact ⟨⟨by omega, hkeyRead, hreport⟩, htexts⟩
    · exact ⟨⟨by omega, hkeyRead, hnone⟩, hs⟩

/-- A callback without data does not touch any memory but to report a lidar. -/
theorem runCallbacks_ok : ∀ (cbs : List (Callback AckCallback)) (s : DetectedLidars), s.TextsFit →
    (∀ cb ∈ cbs, cb.data = none) →
      (runCallbacks cbs s).All (PayloadAccess.InBounds n) ∧ (runCallbacks cbs s).val.TextsFit
  | [], s, hs, _ => ⟨Traced.all_pure s, hs⟩
  | cb :: cbs, s, hs, hnone => by
    obtain ⟨hdata, hrest⟩ := List.forall_mem_cons.mp hnone
    have hcb : (s.runCallback cb).All (PayloadAccess.InBounds n) ∧
        (s.runCallback cb).val.TextsFit := by
      unfold runCallback
      rw [hdata]
      cases cb.command.cb with
      | queryFwType =>
        have hok : (s.queryFwTypeCallback cb.handle cb.status none).All
            (PayloadAccess.InBounds n) ∧ _ :=
          queryFwTypeCallback_ok hs fun data h => nomatch (h : none = some data)
        exact ⟨hok.1, hok.2.1⟩
      | updateLidar devType =>
        have hok : (s.updateLidarCallback devType cb.handle cb.status none).All
            (PayloadAccess.InBounds n) ∧ _ :=
          updateLidarCallback_ok hs fun h => absurd rfl h
        exact ⟨hok.1, hok.2.1⟩
      | other => exact ⟨Traced.all_pure s, hs⟩
    obtain ⟨hall, htexts⟩ := runCallbacks_ok cbs (s.runCallback cb).val hcb.2 hrest
    refine ⟨?_, htexts⟩
    show ((s.runCallback cb) >>= runCallbacks cbs).All _
    rw [Traced.all_bind]
    exact ⟨hcb.1, hall⟩

theorem runCallbacks_singleton (cb : Callback AckCallback) (s : DetectedLidars) :
    runCallbacks [cb] s = s.runCallback cb := by
  show Traced.mk (s.runCallback cb).val ((s.runCallback cb).log ++ []) = _
  rw [List.append_nil]

end Handlers

/-! ### Steps -/

section Steps

variable {crc : FastCRC} {s : DetectedLidars}

/-- Only an ack brings data to a callback. -/
theorem step_callbacks {table table' : GeneralCommandHandler AckCallback} {e : Event AckCallback}
    (hreceive : ∀ d, e ≠ .receive d) (h : table.step crc e = some table') :
    ∃ new, table'.callbacks = table.callbacks ++ new ∧ ∀ cb ∈ new, cb.data = none := by
  have hsame : ∀ t : GeneralCommandHandler AckCallback, t.callbacks = table.callbacks →
      ∃ new, t.callbacks = table.callbacks ++ new ∧ ∀ cb ∈ new, cb.data = none :=
    fun t ht => ⟨[], ht.trans (List.append_nil _).symm, fun _ h => nomatch h⟩
  cases e with
  | receive d => exact absurd rfl (hreceive d)
  | begin handle cmdId cb =>
    obtain rfl := Option.some.inj h
    apply hsame
    unfold GeneralCommandHandler.beginSend
    split <;> rfl
  | config devType handle cmdId cb =>
    obtain ⟨t, -, rfl⟩ := Option.map_eq_some_iff.mp h
    exact hsame _ rfl
  | detected handle devType =>
    obtain rfl := Option.some.inj h
    exact hsame _ rfl
  | tick now =>
    obtain rfl := Option.some.inj h
    refine ⟨_, rfl, fun cb hcb => ?_⟩
    obtain ⟨command, -, rfl⟩ := List.mem_map.mp hcb
    rfl
  | register id now =>
    obtain ⟨c, -, -, rfl⟩ := GeneralCommandHandler.bind_if_eq_some.mp h
    exact hsame _ GeneralCommandHandler.register_callbacks
  | add id now =>
    obtain ⟨c, -, -, rfl⟩ := GeneralCommandHandler.bind_if_eq_some.mp h
    exact hsame _ GeneralCommandHandler.register_callbacks
  | send id ok =>
    obtain ⟨c, -, -, rfl⟩ := GeneralCommandHandler.bind_if_eq_some.mp h
    refine ⟨_, GeneralCommandHandler.send_callbacks, fun cb hcb => ?_⟩
    cases ok with
    | true => cases hcb
    | false =>
      obtain rfl := List.mem_singleton.mp hcb
      rfl

/-- The ack in a datagram is its packet. -/
theorem ackPacket_packet {table : GeneralCommandHandler AckCallback} {d : Datagram}
    {packet : CommPacket} {ack : UInt32 × CommPacket} (hpacket : packetOf crc d = some packet)
    (hack : table.ackPacket crc d = some ack) : ack.2 = packet := by
  have hparse : (parseCommStream crc d.buf d.bufSize).val = some packet := hpacket
  unfold GeneralCommandHandler.ackPacket at hack
  rw [hparse] at hack
  dsimp only at hack
  split_ifs at hack with hno
  cases hdev : d.devType with
  | none =>
    rw [hdev] at hack
    obtain rfl := Option.some.inj hack
    rfl
  | some devType =>
    rw [hdev] at hack
    dsimp only at hack
    split_ifs at hack with hpa
    obtain ⟨t, -, rfl⟩ := Option.map_eq_some_iff.mp hack
    rfl

/-- What a datagram does that is no detection: the callback is invoked of the command that it
acknowledges. -/
theorem receive_ack {d : Datagram} {packet : CommPacket} (hpacket : packetOf crc d = some packet)
    (hdet : ¬ IsDetection d packet) :
    ∃ s', s'.devices = s.devices ∧ s'.count = s.count ∧ s'.reported = s.reported ∧
      s.receive crc d = some <$> runCallbacks
        ((s.acked crc d).toList.map fun c => ⟨c, .success, d.handle, packet.data⟩) s' := by
  refine ⟨{ s with table := s.table.receive crc d }, rfl, rfl, rfl, ?_⟩
  have hnew : (s.table.receive crc d).callbacks = s.table.callbacks ++
      (s.acked crc d).toList.map fun c => ⟨c, .success, d.handle, packet.data⟩ := by
    rw [GeneralCommandHandler.receive_eq]
    unfold acked
    cases hack : s.table.ackPacket crc d with
    | none => exact (List.append_nil _).symm
    | some ack =>
      obtain rfl := ackPacket_packet hpacket hack
      rw [Option.bind_some]
      dsimp only
      cases s.table.commands[ack.1]? with
      | none => exact (List.append_nil _).symm
      | some e => rfl
  unfold receive runNewCallbacks
  rw [hpacket]
  dsimp only
  rw [if_neg hdet, hnew, List.drop_left]

theorem payloadLen_receive {d : Datagram} {packet : CommPacket} (hpacket : packetOf crc d = some packet) :
    payloadLen crc (.receive d) = packet.dataLen.toNat := by
  unfold payloadLen
  dsimp only
  rw [hpacket]
  rfl

/-- What is promised of a datagram whose payload fits: it is handled within its payload, the texts
go on to fit, and a payload that is too short for its message is not used. -/
def HandledWithin (crc : FastCRC) (s : DetectedLidars) (d : Datagram)
    (r : Traced PayloadAccess (Option DetectedLidars)) : Prop :=
  r.All (PayloadAccess.InBounds (payloadLen crc (.receive d))) ∧
    (∀ s', r.val = some s' → s'.TextsFit) ∧
    (payloadLen crc (.receive d) < s.messageLen crc (.receive d) →
      (∃ s', r.val = some s' ∧ s'.devices = s.devices) ∨ ∀ i, .read i ∉ r.log)

/-- A handler behind which the program goes on. -/
theorem handledWithin_map {d : Datagram} {r : Traced PayloadAccess DetectedLidars}
    (hall : r.All (PayloadAccess.InBounds (payloadLen crc (.receive d)))) (htexts : r.val.TextsFit)
    (hshort : payloadLen crc (.receive d) < s.messageLen crc (.receive d) →
      r.val.devices = s.devices ∨ ∀ i, .read i ∉ r.log) :
    HandledWithin crc s d (some <$> r) := by
  refine ⟨(Traced.all_map some r).mpr hall, ?_, fun h => (hshort h).imp ?_ ?_⟩
  · rintro s' ⟨⟩
    exact htexts
  · exact fun hdevices => ⟨r.val, rfl, hdevices⟩
  · exact fun hnone i => Traced.log_map some r ▸ hnone i

/-- A datagram that nothing is done with. -/
theorem handledWithin_pure (hs : s.TextsFit) (crc : FastCRC) (d : Datagram) :
    HandledWithin crc s d (pure (some s)) :=
  handledWithin_map (r := pure s) (Traced.all_pure s) hs fun _ => .inl rfl

/-- A detection. -/
theorem receive_detection {d : Datagram} {packet : CommPacket} (hs : s.TextsFit)
    (hfits : s.PayloadFits crc (.receive d)) (hpacket : packetOf crc d = some packet)
    (hdet : IsDetection d packet) : HandledWithin crc s d (s.receive crc d) := by
  by_cases hcmd : packet.cmdType = kCommandTypeCmd
  · have hpure : s.receive crc d = pure (some s) := by
      unfold receive
      rw [hpacket]
      dsimp only
      rw [if_pos hdet, if_pos hcmd]
    rw [hpure]
    exact handledWithin_pure hs crc d
  · have hhandle : s.receive crc d = s.handleDetectionData d.handle packet := by
      unfold receive
      rw [hpacket]
      dsimp only
      rw [if_pos hdet, if_neg hcmd]
    have hmessage : s.messageLen crc (.receive d) = 24 := by
      unfold messageLen
      dsimp only
      rw [hpacket]
      dsimp only
      rw [if_pos hdet, if_neg hcmd]
    have hdata : ∀ data, packet.data = some data → DetectionFits data packet.dataLen.toNat := by
      intro data h
      have hfit := hfits packet data hpacket h
      rw [if_pos hdet] at hfit
      exact hfit hcmd
    obtain ⟨hall, htexts, hshort⟩ : (s.handleDetectionData d.handle packet).All _ ∧ _ :=
      handleDetectionData_ok hs hdata
    unfold HandledWithin
    rw [hhandle, payloadLen_receive hpacket, hmessage]
    exact ⟨hall, htexts, fun h => .inl (hshort h)⟩

/-- An ack that is no detection. -/
theorem receive_ack_ok {d : Datagram} {packet : CommPacket} (hs : s.TextsFit)
    (hfits : s.PayloadFits crc (.receive d)) (hpacket : packetOf crc d = some packet)
    (hdet : ¬ IsDetection d packet) : HandledWithin crc s d (s.receive crc d) := by
  obtain ⟨s', hdevices, hcount, -, hreceive⟩ := receive_ack (s := s) hpacket hdet
  have hs' : s'.TextsFit := fun handle device hd => hs handle device (hdevices ▸ hd)
  have hack : ∀ c data, s.acked crc d = some c → packet.data = some data →
      s.AckFits c.cb data packet.dataLen.toNat := by
    intro c data hc h
    have hfit := hfits packet data hpacket h
    rw [if_neg hdet] at hfit
    exact hfit c hc
  rw [hreceive]
  cases hc : s.acked crc d with
  | none => exact handledWithin_map (Traced.all_pure s') hs' fun _ => .inl hdevices
  | some c =>
    have hmessage : s.messageLen crc (.receive d) = match c.cb with
        | .queryFwType => 8
        | .updateLidar _ => 3
        | .other => 0 := by
      unfold messageLen
      dsimp only
      rw [hpacket]
      dsimp only
      rw [if_neg hdet, hc, Option.map_some]
      cases c.cb <;> rfl
    have hfit := fun data h => hack c data hc h
    have hrun : runCallbacks ((some c).toList.map fun c =>
        ⟨c, .success, d.handle, packet.data⟩) s' =
          s'.runCallback ⟨c, .success, d.handle, packet.data⟩ := runCallbacks_singleton _ s'
    rw [hrun]
    unfold runCallback
    dsimp only
    unfold AckFits at hfit
    cases hcb : c.cb with
    | queryFwType =>
      rw [hcb] at hfit hmessage
      obtain ⟨hall, htexts, hshort⟩ : (s'.queryFwTypeCallback d.handle .success
          packet.data).All (PayloadAccess.InBounds packet.dataLen.toNat) ∧ _ :=
        queryFwTypeCallback_ok hs' fun data h => hcount ▸ hfit data h
      refine handledWithin_map ?_ htexts ?_ <;> rw [payloadLen_receive hpacket]
      · exact hall
      · rw [hmessage, ← hdevices]
        exact hshort
    | updateLidar devType =>
      rw [hcb] at hfit hmessage
      obtain ⟨hall, htexts, hshort⟩ : (s'.updateLidarCallback devType d.handle .success
          packet.data).All (PayloadAccess.InBounds packet.dataLen.toNat) ∧ _ :=
        updateLidarCallback_ok hs' fun h => by
          obtain ⟨data, hdata⟩ := Option.ne_none_iff_exists'.mp h
          exact hfit data hdata
      refine handledWithin_map ?_ htexts ?_ <;> rw [payloadLen_receive hpacket]
      · exact hall
      · rw [hmessage, ← hdevices]
        exact fun h => .inl (hshort h)
    | other => exact handledWithin_map (Traced.all_pure s') hs' fun _ => .inl hdevices

/-- A datagram whose payload fits is handled within it, and the texts go on to fit. -/
theorem receive_ok {d : Datagram} (hs : s.TextsFit) (hfits : s.PayloadFits crc (.receive d)) :
    HandledWithin crc s d (s.receive crc d) := by
  cases hpacket : packetOf crc d with
  | none =>
    have hpure : s.receive crc d = pure (some s) := by
      unfold receive
      rw [hpacket]
    rw [hpure]
    exact handledWithin_pure hs crc d
  | some packet =>
    by_cases hdet : IsDetection d packet
    · exact receive_detection hs hfits hpacket hdet
    · exact receive_ack_ok hs hfits hpacket hdet

/-- A step of another thread: the callbacks are invoked that the table invokes. -/
theorem step_table {e : Event AckCallback} (hreceive : ∀ d, e ≠ .receive d)
    (hdetected : ∀ handle devType, e ≠ .detected handle devType) :
    s.step crc e = (s.table.step crc e).map fun table => some <$> s.runNewCallbacks table := by
  cases e with
  | receive d => exact absurd rfl (hreceive d)
  | detected handle devType => exact absurd rfl (hdetected handle devType)
  | _ => rfl

/-- A step on a payload that fits keeps to it, and the texts go on to fit. -/
theorem step_ok {e : Event AckCallback} (hs : s.TextsFit) (hfits : s.PayloadFits crc e) :
    s.PayloadOk crc e ∧ ∀ s', next crc s e = some s' → s'.TextsFit := by
  by_cases hreceive : ∃ d, e = .receive d
  · obtain ⟨d, rfl⟩ := hreceive
    obtain ⟨hall, htexts, hshort⟩ := receive_ok hs hfits
    refine ⟨⟨?_, ?_⟩, htexts⟩ <;> rintro t ⟨rfl⟩
    · exact hall
    · exact hshort
  · have hother : ∀ t, s.step crc e = some t →
        t.All (PayloadAccess.InBounds (payloadLen crc e)) ∧ ∀ s', t.val = some s' → s'.TextsFit := by
      intro t hstep
      have hne : ∀ d, e ≠ .receive d := fun d hd => hreceive ⟨d, hd⟩
      have hdetected : ∀ handle devType, e ≠ .detected handle devType := by
        rintro handle devType rfl
        cases hstep
      rw [step_table hne hdetected] at hstep
      obtain ⟨table, htable, rfl⟩ := Option.map_eq_some_iff.mp hstep
      obtain ⟨new, hnew, hnone⟩ := step_callbacks hne htable
      obtain ⟨hall, htexts⟩ : (s.runNewCallbacks table).All
          (PayloadAccess.InBounds (payloadLen crc e)) ∧ (s.runNewCallbacks table).val.TextsFit := by
        unfold runNewCallbacks
        rw [hnew, List.drop_left]
        exact runCallbacks_ok new { s with table := table } hs hnone
      refine ⟨(Traced.all_map some _).mpr hall, ?_⟩
      rintro s' ⟨⟩
      exact htexts
    have hlen : s.messageLen crc e = 0 := by
      cases e with
      | receive d => exact absurd ⟨d, rfl⟩ hreceive
      | _ => rfl
    refine ⟨⟨fun t ht => (hother t ht).1, fun t _ h => ?_⟩, fun s' hnext => ?_⟩
    · rw [hlen] at h
      exact absurd h (Nat.not_lt_zero _)
    · obtain ⟨t, ht, hs'⟩ := Option.bind_eq_some_iff.mp hnext
      exact (hother t ht).2 s' hs'

/-- In a run on payloads that fit the texts always do. -/
theorem run_texts {isView : Bool} {hostIp : List UInt8} {memory : ℕ}
    {tr : List (DetectedLidars × Event AckCallback)}
    (h : Run (next crc) (PayloadFits crc) (init isView hostIp memory) tr s) :
    s.TextsFit ∧ ∀ x ∈ tr, x.1.PayloadOk crc x.2 := by
  induction h with
  | nil => exact ⟨fun _ _ hd => (nomatch hd), fun _ hx => nomatch hx⟩
  | snoc hrun hfits hnext ih =>
    obtain ⟨hs, htr⟩ := ih
    obtain ⟨hok, htexts⟩ := step_ok hs hfits
    refine ⟨htexts _ hnext, fun x hx => ?_⟩
    rcases List.mem_append.mp hx with hx | hx
    · exact htr x hx
    · obtain rfl := List.mem_singleton.mp hx
      exact hok

end Steps

/-- **On payloads that fit nothing is read behind a payload, and all copies fit**, in every
run, and in the step behind it that may end the program. -/
theorem payloads_run (crc : FastCRC) (isView : Bool) (hostIp : List UInt8) (memory : ℕ)
    (tr : List (DetectedLidars × Event AckCallback)) (s : DetectedLidars)
    (h : Run (next crc) (PayloadFits crc) (init isView hostIp memory) tr s) :
    (∀ x ∈ tr, x.1.PayloadOk crc x.2) ∧
      ∀ e, PayloadFits crc s e → s.PayloadOk crc e := by
  obtain ⟨hs, htr⟩ := run_texts h
  exact ⟨htr, fun e hfits => (step_ok hs hfits).1⟩

/-- The answer of a lidar to a search, with some payload. -/
def searchAck (payload : List UInt8) : CommPacket :=
  ⟨kLidarSdk, 0, 1, kCommandIDLidarSearch, kCommandTypeAck, 1, some ⟨memOf payload, 0⟩,
    UInt16.ofNat payload.length⟩

/-- Its datagram, from the lidar 7. -/
def searchDatagram (payload : List UInt8) : Datagram :=
  ⟨none, 7, kDetectionPort, packed FastCRC.standard (memOf []) (searchAck payload),
    (wireLen (searchAck payload)).toUInt32⟩

theorem searchDatagram_packet {payload : List UInt8} (h : payload.length + 24 < 2 ^ 16) :
    ∃ packet, packetOf FastCRC.standard (searchDatagram payload) = some packet ∧
      IsDetection (searchDatagram payload) packet ∧ packet.cmdType ≠ kCommandTypeCmd ∧
      packet.data = some ⟨packed FastCRC.standard (memOf []) (searchAck payload), 24⟩ ∧
      packet.dataLen.toNat = payload.length := by
  have hlen : (searchAck payload).dataLen.toNat = payload.length := by
    show (UInt16.ofNat payload.length).toNat = _
    rw [UInt16.toNat_ofNat', Nat.mod_eq_of_lt (by omega)]
  have hpackable : Packable (searchAck payload) := ⟨rfl, fun _ => rfl⟩
  have hparse := parse_packed FastCRC.standard (memOf []) hpackable (by rwa [hlen])
  have hf := packed_hasFields FastCRC.standard (memOf []) (searchAck payload)
  refine ⟨_, hparse.1, ⟨rfl, hf.cmdId⟩, ?_, rfl, ?_⟩
  · show packed FastCRC.standard (memOf []) (searchAck payload) 10 ≠ kCommandTypeCmd
    rw [hf.cmdType]
    show kCommandTypeAck ≠ kCommandTypeCmd
    decide
  · rw [hparse.2.1, hlen]

/-- The data of a Mid-360 at 192.168.1.7. -/
def mid360Data : List UInt8 :=
  [0, 9, 0x34, 0x37, 0x4D, 0x44, 0, 0, 0, 0, 0, 0, 0, 0, 0, 0, 0, 0, 192, 168, 1, 7, 0x08, 0xDC]

theorem payloads_run_mid360 : ∃ tr s,
    Run (next FastCRC.standard) (PayloadFits FastCRC.standard) (init false [] 8192) tr s ∧
      tr.map Prod.snd = [.receive (searchDatagram mid360Data)] ∧
      (∀ x ∈ tr, x.1.PayloadOk FastCRC.standard x.2) ∧
      ∀ e, PayloadFits FastCRC.standard s e → s.PayloadOk FastCRC.standard e := by
  obtain ⟨packet, hpacket, hdet, hcmd, hdata, hlen⟩ :=
    searchDatagram_packet (show mid360Data.length + 24 < 2 ^ 16 by decide)
  have hfits : PayloadFits FastCRC.standard (init false [] 8192)
      (.receive (searchDatagram mid360Data)) := by
    intro packet' data hpacket' hdata'
    obtain rfl := Option.some.inj (hpacket.symm.trans hpacket')
    obtain rfl := Option.some.inj (hdata.symm.trans hdata')
    rw [if_pos hdet]
    intro _
    have hlength : 24 ≤ mid360Data.length := by decide
    exact .inr (.inr ⟨hlen ▸ hlength, 4, by decide, by decide +kernel⟩)
  have hnext : (next FastCRC.standard (init false [] 8192)
      (.receive (searchDatagram mid360Data))).isSome = true := by decide +kernel
  obtain ⟨s, hs⟩ := Option.isSome_iff_exists.mp hnext
  have hrun := Run.nil.snoc hfits hs
  exact ⟨_, s, hrun, rfl, payloads_run FastCRC.standard false [] 8192 _ s hrun⟩

/-- Of a detection with one byte of data the type and the serial number are read behind it. -/
theorem payloadOk_shortDetection : ¬ ∀ (crc : FastCRC) (isView : Bool) (hostIp : List UInt8)
    (memory : ℕ) (tr : List (DetectedLidars × Event AckCallback)) (s : DetectedLidars),
    Run (next crc) (fun _ _ => True) (init isView hostIp memory) tr s →
      ∀ x ∈ tr, x.1.PayloadOk crc x.2 := by
  intro hall
  obtain ⟨packet, hpacket, hdet, hcmd, hdata, hlen⟩ :=
    searchDatagram_packet (show [(0 : UInt8)].length + 24 < 2 ^ 16 by decide)
  have hnext : (next FastCRC.standard (init false [] 8192)
      (.receive (searchDatagram [0]))).isSome = true := by decide +kernel
  obtain ⟨s, hs⟩ := Option.isSome_iff_exists.mp hnext
  have hrun : Run (next FastCRC.standard) (fun _ _ => True) (init false [] 8192)
      ([] ++ [(_, .receive (searchDatagram [0]))]) s := Run.nil.snoc trivial hs
  have hok := (hall FastCRC.standard false [] 8192 _ s hrun _ List.mem_cons_self).inBounds _ rfl
  have hhandle : (init false [] 8192).receive FastCRC.standard (searchDatagram [0]) =
      (init false [] 8192).handleDetectionData 7 packet := by
    unfold receive
    rw [hpacket]
    dsimp only
    rw [if_pos hdet, if_neg hcmd]
    rfl
  have hpayload : payloadLen FastCRC.standard (.receive (searchDatagram [0])) = 1 := by
    unfold payloadLen
    dsimp only
    rw [hpacket]
    exact hlen
  have hne : packet.dataLen ≠ 0 := fun h => by
    rw [h] at hlen
    cases hlen
  rw [hpayload] at hok
  change (receive _ _ _).All _ at hok
  rw [hhandle] at hok
  unfold handleDetectionData at hok
  rw [hdata] at hok
  dsimp only at hok
  have hret : ¬ (payloadByte ⟨packed FastCRC.standard (memOf []) (searchAck [0]), 24⟩ 0).val ≠ 0 := by
    decide +kernel
  rw [if_neg hne, Traced.all_bind, if_neg hret, Traced.all_bind, payloadByte_inBounds,
    payloadByte_inBounds] at hok
  exact absurd hok.2.1 (by decide)

end DetectedLidars

end Livox
end SensorSupport
