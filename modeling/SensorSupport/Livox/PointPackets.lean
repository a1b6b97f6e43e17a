/-
# Point packets on their way to the points (`data_handler/data_handler.cpp`, `pub_handler.cpp`)

`DataHandler::Handle` takes a payload of any size for a packet and hands it to the
observers. The driver's observer copies the bytes that the packet's `length` tells of
into the queue, with an interval that is divided by its `dot_num`; the other thread
reads `dot_num` points of the size of its data type from the copy. No check connects
these fields with each other or with the size of the payload.

The accesses are logged (`PacketAccess`): the bytes read of the payload and of the
copy, the length that is subtracted from, and the divisors.

Key definitions: `DataHandler.handle`, `onLivoxLidarPointCloudCallback`,
`PointPackets.pointCloudProcess`, `WellFormed`, `PacketOk`, `Consistent`.
Key theorems: `onLivoxLidarPointCloudCallback_events`, `pointCloudProcess_val`,
`packetOk_iff`, `packetOk_zeroDots`.
-/
import SensorSupport.Livox.Command
import SensorSupport.Livox.PubHandler

namespace SensorSupport
namespace Livox

/-- `kLivoxLidarImuData`. -/
def kLivoxLidarImuData : UInt8 := 0

/-- `kTimestampTypeNoSync`. -/
def kTimestampTypeNoSync : UInt8 := 0

/-- `kTimestampTypeGptpOrPtp`. -/
def kTimestampTypeGptpOrPtp : UInt8 := 1

/-- `kTimestampTypeGps`. -/
def kTimestampTypeGps : UInt8 := 2

/-- `kLineNumberDefault`. -/
def kLineNumberDefault : UInt8 := 1

/-- `kLineNumberMid360`. -/
def kLineNumberMid360 : UInt8 := 4

/-- `kLineNumberHAP`. -/
def kLineNumberHAP : UInt8 := 6

namespace PointPackets

/-! ### Accesses -/

/-- What happens to a packet: a byte of the payload is read, a number is subtracted
from a length, something is divided, or a byte of `raw_data` is read, which has a
size. -/
inductive PacketAccess
  | payload (addr : ℕ)
  | subtraction (length n : ℕ)
  | division (divisor : ℕ)
  | rawData (i size : ℕ)

/-- The byte was received, the length does not underflow, the divisor is not 0, the
byte is in `raw_data`. -/
def PacketAccess.Safe (bufSize : ℕ) : PacketAccess → Prop
  | payload addr => addr < bufSize
  | subtraction length n => n ≤ length
  | division divisor => divisor ≠ 0
  | rawData i size => i < size

/-- Some bytes of the payload. -/
def payloadBytes (data : Mem) (off n : ℕ) : Traced PacketAccess (List UInt8) :=
  (data.readBytes off n).mapLog .payload

/-- A byte of the payload. -/
def payloadByte (data : Mem) (off : ℕ) : Traced PacketAccess UInt8 :=
  (data.read8 off).mapLog .payload

/-- A 16-bit number of the payload. -/
def payloadU16 (data : Mem) (off : ℕ) : Traced PacketAccess UInt16 :=
  (data.read16 off).mapLog .payload

/-- A division. -/
def divide (n divisor : ℕ) : Traced PacketAccess ℕ := ⟨n / divisor, [.division divisor]⟩

/-- `sizeof(LivoxLidarEthernetPacket)`, with one byte of `data`. -/
def sizeofLivoxLidarEthernetPacket : ℕ := 37

/-- The bytes of `data` that a packet of this length has. -/
def dataLength (length : UInt16) : Traced PacketAccess UInt32 :=
  ⟨(length.toUInt64 - sizeofLivoxLidarEthernetPacket.toUInt64 + 1).toUInt32,
    [.subtraction length.toNat (sizeofLivoxLidarEthernetPacket - 1)]⟩

end PointPackets

/-! ### The driver's observer -/

/-- `ImuData`, with the bits of its floating-point fields. -/
structure ImuData where
  lidarType : LidarProtoType
  handle : UInt32
  timeStamp : UInt64
  gyroX : UInt32
  gyroY : UInt32
  gyroZ : UInt32
  accX : UInt32
  accY : UInt32
  accZ : UInt32

/-- `PubHandler` with whether `imu_callback_` is set and what it was called with. -/
structure PointReceiver (E : Type) where
  pub : PubHandler E
  imuCallback : Bool
  imus : List ImuData

namespace PointPackets

variable {E : Type}

/-- `GetEthPacketTimestamp` at the time `now`. -/
def getEthPacketTimestamp (timestampType : UInt8) (data : Mem) (now : UInt64) :
    Traced PacketAccess UInt64 := do
  let stampBytes ← payloadBytes data 28 8
  if timestampType = kTimestampTypeGptpOrPtp ∨ timestampType = kTimestampTypeGps then
    pure (UInt64.ofNat (leValue stampBytes))
  else pure now

/-- The `ImuData` of a packet. -/
def imuData (handle : UInt32) (data : Mem) (now : UInt64) : Traced PacketAccess ImuData := do
  let timeType ← payloadByte data 11
  let timeStamp ← getEthPacketTimestamp timeType data now
  let imu ← payloadBytes data 36 24
  let field := fun i => (memOf imu).u32 (4 * i)
  pure ⟨.livox, handle, timeStamp, field 0, field 1, field 2, field 3, field 4, field 5⟩

/-- The lines of a lidar. -/
def lineNum (devType : UInt8) : UInt8 :=
  if devType = kLivoxLidarTypeIndustrialHAP then kLineNumberHAP
  else if devType = kLivoxLidarTypeMid360 ∨ devType = kLivoxLidarTypeMid360s then
    kLineNumberMid360
  else kLineNumberDefault

/-- The `RawPacket` of a packet. -/
def rawPacket (handle : UInt32) (devType : UInt8) (data : Mem) (now : UInt64) :
    Traced PacketAccess RawPacket := do
  let dataType ← payloadByte data 10
  let dotNum ← payloadU16 data 5
  let timeInterval ← payloadU16 data 3
  let pointInterval ← divide (timeInterval.toNat * 100) dotNum.toNat
  let timeType ← payloadByte data 11
  let timeStamp ← getEthPacketTimestamp timeType data now
  let packetLength ← payloadU16 data 1
  let length ← dataLength packetLength
  let rawData ← payloadBytes data 36 length.toNat
  pure
    { lidarType := .livox
      handle
      extrinsicEnable := false
      pointNum := dotNum.toUInt32
      dataType
      lineNum := lineNum devType
      timeStamp
      pointInterval := UInt64.ofNat pointInterval
      rawData }

/-- `OnLivoxLidarPointCloudCallback`, with the driver as its client data. -/
def onLivoxLidarPointCloudCallback (now : UInt64) (handle : UInt32) (devType : UInt8) (data : Mem)
    (s : PointReceiver E) : Traced PacketAccess (PointReceiver E) := do
  let timeType ← payloadByte data 11
  let stamped := { s.pub with isTimestampSync := timeType ≠ kTimestampTypeNoSync }
  let dataType ← payloadByte data 10
  if dataType = kLivoxLidarImuData then
    if s.imuCallback then
      let imu ← imuData handle data now
      pure { s with pub := stamped, imus := s.imus ++ [imu] }
    else pure { s with pub := stamped }
  else
    let packet ← rawPacket handle devType data now
    pure { s with pub := { stamped with rawPacketQueue := s.pub.rawPacketQueue ++ [packet] } }

/-! ### The data handler of the SDK -/

/-- `DataCallback`, with its client data. -/
abbrev DataCallback (σ : Type) :=
  UInt32 → UInt8 → Mem → σ → Traced PacketAccess σ

/-- `DataHandler`; the observers are in the order of their ids. -/
structure DataHandler (σ : Type) where
  pointDataCallbacks : Option (DataCallback σ)
  imuDataCallbacks : Option (DataCallback σ)
  observers : List (Option (DataCallback σ))

variable {σ : Type}

/-- The call of a callback that may not be set. -/
def call (cb : Option (DataCallback σ)) (handle : UInt32) (devType : UInt8) (data : Mem) (s : σ) :
    Traced PacketAccess σ :=
  match cb with
  | some cb => cb handle devType data s
  | none => pure s

/-- The calls of the observers. -/
def notify (handle : UInt32) (devType : UInt8) (data : Mem) :
    List (Option (DataCallback σ)) → σ → Traced PacketAccess σ
  | [], s => pure s
  | observer :: observers, s => do
    let s ← call observer handle devType data s
    notify handle devType data observers s

/-- `DataHandler::Handle`. Its `buf_size` is not used. -/
def DataHandler.handle (d : DataHandler σ) (devType : UInt8) (handle : UInt32) (buf : Option Mem)
    (s : σ) : Traced PacketAccess σ :=
  match buf with
  | none => pure s
  | some data => do
    let dataType ← payloadByte data 10
    let s ← call (if dataType = kLivoxLidarImuData then d.imuDataCallbacks
      else d.pointDataCallbacks) handle devType data s
    notify handle devType data d.observers s

/-- What `SetPointCloudsCallback` makes of the data handler. -/
def driver (now : UInt64) : DataHandler (PointReceiver E) :=
  ⟨none, none, [some (onLivoxLidarPointCloudCallback now)]⟩

/-! ### The loops over the points -/

/-- The loop over the points of a packet whose raw points have `size` bytes, the
reflectivity and the tag last. `raw` is the memory at `raw_data.data()`. -/
def processPoints (arith : PointArith E) (size : ℕ)
    (coordinates : Option E → Bool → List UInt8 → UInt32 × UInt32 × UInt32) (extrinsic : Option E)
    (pkt : RawPacket) (raw : Mem) : Traced PacketAccess (List PointXyzlt) :=
  .each (fun i => do
    let bytes ← (raw.readBytes (i * size) size).mapLog (.rawData · pkt.rawData.length)
    let xyz := coordinates extrinsic pkt.extrinsicEnable bytes
    let line ← (⟨i.toUInt32 % pkt.lineNum.toUInt32, [.division pkt.lineNum.toNat]⟩ :
      Traced PacketAccess UInt32)
    pure
      { x := xyz.1
        y := xyz.2.1
        z := xyz.2.2
        intensity := arith.intensity (bytes.getD (size - 2) 0)
        tag := bytes.getD (size - 1) 0
        line := line.toUInt8
        offsetTime := pkt.timeStamp + i.toUInt64 * pkt.pointInterval })
    (List.range pkt.pointNum.toNat)

/-- `ProcessCartesianHighPoint`. -/
def processCartesianHighPoint (arith : PointArith E) (extrinsic : Option E) (pkt : RawPacket)
    (raw : Mem) : Traced PacketAccess (List PointXyzlt) :=
  processPoints arith 14 arith.high extrinsic pkt raw

/-- `ProcessCartesianLowPoint`. -/
def processCartesianLowPoint (arith : PointArith E) (extrinsic : Option E) (pkt : RawPacket)
    (raw : Mem) : Traced PacketAccess (List PointXyzlt) :=
  processPoints arith 8 arith.low extrinsic pkt raw

/-- `ProcessSphericalPoint`. -/
def processSphericalPoint (arith : PointArith E) (extrinsic : Option E) (pkt : RawPacket)
    (raw : Mem) : Traced PacketAccess (List PointXyzlt) :=
  processPoints arith 10 arith.spher extrinsic pkt raw

/-- `LivoxLidarPointCloudProcess` in `PointCloudProcess`: the points they append. -/
def packetPoints (arith : PointArith E) (extrinsic : Option E) (pkt : RawPacket) (raw : Mem) :
    Traced PacketAccess (List PointXyzlt) :=
  match pkt.lidarType with
  | .livox =>
    match pkt.dataType with
    | 1 => processCartesianHighPoint arith extrinsic pkt raw
    | 2 => processCartesianLowPoint arith extrinsic pkt raw
    | 3 => processSphericalPoint arith extrinsic pkt raw
    | _ => pure []
  | _ => pure []

/-- `PointCloudProcess`. -/
def pointCloudProcess (arith : PointArith E) (handler : LidarPubHandler E) (pkt : RawPacket)
    (raw : Mem) : Traced PacketAccess (LidarPubHandler E) := do
  let points ← packetPoints arith handler.extrinsic pkt raw
  pure { handler with pointsClouds := handler.pointsClouds ++ points }

/-! ### What is asked of a packet -/

/-- The bytes of a raw point of a data type. -/
def rawPointSize : UInt8 → Option ℕ
  | 1 => some 14
  | 2 => some 8
  | 3 => some 10
  | _ => none

/-- The points of a packet were received: it has points, its length is that of the
header at least and of the payload at most, and the points fit into it. -/
structure PointsFit (data : Mem) (bufSize : ℕ) : Prop where
  dots : data.u16 5 ≠ 0
  header : 36 ≤ (data.u16 1).toNat
  received : (data.u16 1).toNat ≤ bufSize
  points : ∀ size, rawPointSize (data 10) = some size →
    36 + (data.u16 5).toNat * size ≤ (data.u16 1).toNat

/-- A packet is consistent: that of the IMU has its fields, any other its points. -/
def WellFormed (data : Mem) (bufSize : ℕ) : Prop :=
  if data 10 = kLivoxLidarImuData then 36 + 24 ≤ bufSize else PointsFit data bufSize

/-- A packet is taken safely: every access to it is, in the callback and in the loops
over its points, and it is dropped unless it is consistent. -/
structure PacketOk (arith : PointArith E) (now : UInt64) (devType : UInt8) (handle : UInt32)
    (data : Mem) (bufSize : UInt32) (s : PointReceiver E) : Prop where
  callback : ((driver now).handle devType handle (some data) s).All
    (PacketAccess.Safe bufSize.toNat)
  loops : ∀ pkt ∈ ((driver now).handle devType handle (some data) s).val.pub.rawPacketQueue.drop
      s.pub.rawPacketQueue.length, ∀ handler raw,
    (pointCloudProcess arith handler pkt raw).All (PacketAccess.Safe bufSize.toNat)
  dropped : ¬ WellFormed data bufSize.toNat →
    ((driver now).handle devType handle (some data) s).val.pub.rawPacketQueue =
      s.pub.rawPacketQueue ∧
    ((driver now).handle devType handle (some data) s).val.imus = s.imus

/-- A packet that is consistent, or one of the IMU that nobody waits for, as far as its
type. -/
def Consistent (imuCallback : Bool) (data : Mem) (bufSize : ℕ) : Prop :=
  WellFormed data bufSize ∨
    data 10 = kLivoxLidarImuData ∧ imuCallback = false ∧ 12 ≤ bufSize

/-! ### The accesses -/

section Accesses

variable {data : Mem} {n : ℕ} {handle : UInt32} {devType : UInt8} {now : UInt64}
  {s : PointReceiver E}

@[simp] theorem payloadBytes_safe (off k : ℕ) :
    (payloadBytes data off k).All (PacketAccess.Safe n) ↔ k = 0 ∨ off + k ≤ n :=
  (Traced.all_mapLog _ _).trans (Mem.all_readBytes _ _ _)

@[simp] theorem payloadByte_safe (off : ℕ) :
    (payloadByte data off).All (PacketAccess.Safe n) ↔ off < n :=
  (Traced.all_mapLog _ _).trans (Mem.all_read8 _ _)

@[simp] theorem payloadU16_safe (off : ℕ) :
    (payloadU16 data off).All (PacketAccess.Safe n) ↔ off + 2 ≤ n :=
  (Traced.all_mapLog _ _).trans (Mem.all_read16 _ _)

@[simp] theorem divide_safe (k divisor : ℕ) :
    (divide k divisor).All (PacketAccess.Safe n) ↔ divisor ≠ 0 := by
  simp [divide, Traced.All, PacketAccess.Safe]

@[simp] theorem dataLength_safe (length : UInt16) :
    (dataLength length).All (PacketAccess.Safe n) ↔ 36 ≤ length.toNat := by
  simp [dataLength, Traced.All, PacketAccess.Safe, sizeofLivoxLidarEthernetPacket]

theorem dataLength_val {length : UInt16} (h : 36 ≤ length.toNat) :
    (dataLength length).val.toNat = length.toNat - 36 := by
  have hlt := length.toNat_lt
  have hsize : sizeofLivoxLidarEthernetPacket.toUInt64.toNat = 37 := rfl
  have hval : (dataLength length).val.toNat =
      ((2 ^ 64 - 37 + length.toNat) % 2 ^ 64 + 1) % 2 ^ 64 % 2 ^ 32 := by
    simp only [dataLength, UInt64.toNat_toUInt32, UInt64.toNat_add, UInt64.toNat_sub, hsize,
      UInt16.toNat_toUInt64]
    rfl
  omega

@[simp] theorem payloadByte_val (off : ℕ) : (payloadByte data off).val = data off := rfl

@[simp] theorem payloadU16_val (off : ℕ) : (payloadU16 data off).val = data.u16 off := rfl

@[simp] theorem getEthPacketTimestamp_safe (timestampType : UInt8) :
    (getEthPacketTimestamp timestampType data now).All (PacketAccess.Safe n) ↔ 36 ≤ n := by
  unfold getEthPacketTimestamp
  simp

theorem imuData_safe : (imuData handle data now).All (PacketAccess.Safe n) ↔ 36 + 24 ≤ n := by
  unfold imuData
  simp only [Traced.all_bind, payloadByte_safe, getEthPacketTimestamp_safe, payloadBytes_safe,
    Traced.all_pure, and_true]
  omega

/-- A packet is copied safely when the length it tells of is between that of the header
and that of the payload. -/
theorem rawPacket_safe : (rawPacket handle devType data now).All (PacketAccess.Safe n) ↔
    data.u16 5 ≠ 0 ∧ 36 ≤ (data.u16 1).toNat ∧ (data.u16 1).toNat ≤ n := by
  have hdots : (data.u16 5).toNat ≠ 0 ↔ data.u16 5 ≠ 0 := by
    rw [ne_eq, ne_eq, ← UInt16.toNat_inj]
    rfl
  unfold rawPacket
  simp only [Traced.all_bind, payloadByte_safe, payloadU16_safe, payloadU16_val, divide_safe,
    getEthPacketTimestamp_safe, dataLength_safe, payloadBytes_safe, Traced.all_pure, hdots]
  constructor
  · rintro ⟨-, -, -, hne, -, htime, -, hle, hcopy, -⟩
    rw [dataLength_val hle] at hcopy
    exact ⟨hne, hle, by omega⟩
  · rintro ⟨hne, hle, hn⟩
    rw [dataLength_val hle]
    exact ⟨by omega, by omega, by omega, hne, by omega, by omega, by omega, hle, by omega, trivial⟩

/-- What the driver's observer needs of a payload. -/
theorem onLivoxLidarPointCloudCallback_safe :
    (onLivoxLidarPointCloudCallback now handle devType data s).All (PacketAccess.Safe n) ↔
      if data 10 = kLivoxLidarImuData then (if s.imuCallback then 36 + 24 ≤ n else 12 ≤ n)
      else data.u16 5 ≠ 0 ∧ 36 ≤ (data.u16 1).toNat ∧ (data.u16 1).toNat ≤ n := by
  unfold onLivoxLidarPointCloudCallback
  simp only [Traced.all_bind, payloadByte_safe, Traced.all_ite, imuData_safe, rawPacket_safe,
    Traced.all_pure, and_true]
  by_cases himu : data 10 = kLivoxLidarImuData
  · simp only [payloadByte_val, himu, if_true]
    split
    · omega
    · rw [and_true]
      omega
  · simp only [payloadByte_val, himu, if_false]
    exact ⟨fun h => h.2.2, fun h => ⟨by omega, by omega, h⟩⟩

/-- The data handler reads the type, and calls the driver's observer. -/
theorem handle_driver (now : UInt64) (handle : UInt32) (devType : UInt8) (data : Mem)
    (s : PointReceiver E) :
    ((driver now).handle devType handle (some data) s).val =
        (onLivoxLidarPointCloudCallback now handle devType data s).val ∧
      (((driver now).handle devType handle (some data) s).All (PacketAccess.Safe n) ↔
        10 < n ∧ (onLivoxLidarPointCloudCallback now handle devType data s).All
          (PacketAccess.Safe n)) := by
  have hcall : call (if (payloadByte data 10).val = kLivoxLidarImuData then
      (driver (E := E) now).imuDataCallbacks else (driver now).pointDataCallbacks) handle devType
        data s = pure s := by
    simp only [driver, ite_self, call]
  unfold DataHandler.handle
  simp only [Traced.val_bind, Traced.all_bind, hcall]
  simp [driver, notify, call]

/-- What is needed of a payload until its packet is queued. -/
theorem handle_safe (now : UInt64) (handle : UInt32) (devType : UInt8) (data : Mem)
    (s : PointReceiver E) : ((driver now).handle devType handle (some data) s).All
    (PacketAccess.Safe n) ↔
      if data 10 = kLivoxLidarImuData then (if s.imuCallback then 36 + 24 ≤ n else 12 ≤ n)
      else data.u16 5 ≠ 0 ∧ 36 ≤ (data.u16 1).toNat ∧ (data.u16 1).toNat ≤ n := by
  rw [(handle_driver now handle devType data s).2, onLivoxLidarPointCloudCallback_safe]
  refine ⟨fun h => h.2, fun h => ⟨?_, h⟩⟩
  split at h
  · split at h <;> omega
  · omega

/-- The loop over the points stays in `raw_data` when all points fit into it. -/
theorem processPoints_safe (arith : PointArith E) {size : ℕ} (hsize : 0 < size)
    (coordinates : Option E → Bool → List UInt8 → UInt32 × UInt32 × UInt32) (extrinsic : Option E)
    (pkt : RawPacket) (raw : Mem) :
    (processPoints arith size coordinates extrinsic pkt raw).All (PacketAccess.Safe n) ↔
      pkt.pointNum = 0 ∨ pkt.lineNum ≠ 0 ∧ pkt.pointNum.toNat * size ≤ pkt.rawData.length := by
  have hline : (∀ e ∈ [PacketAccess.division pkt.lineNum.toNat], e.Safe n) ↔ pkt.lineNum ≠ 0 := by
    rw [List.forall_mem_singleton, ne_eq, ← UInt8.toNat_inj]
    rfl
  have hpoint : ∀ i, ((raw.readBytes (i * size) size).mapLog
      (.rawData · pkt.rawData.length)).All (PacketAccess.Safe n) ↔
        (i + 1) * size ≤ pkt.rawData.length := by
    intro i
    refine (Traced.all_mapLog _ _).trans ((Mem.all_readBytes raw (i * size) size).trans ?_)
    rw [Nat.add_mul, Nat.one_mul]
    omega
  unfold processPoints
  simp only [Traced.all_each, Traced.all_bind, Traced.all_pure, and_true, hpoint, List.mem_range]
  constructor
  · intro h
    by_cases hzero : pkt.pointNum = 0
    · exact .inl hzero
    · have hpos : 0 < pkt.pointNum.toNat := by
        rw [Nat.pos_iff_ne_zero, ne_eq, ← UInt32.toNat_zero, UInt32.toNat_inj]
        exact hzero
      obtain ⟨hlast, hdiv⟩ := h (pkt.pointNum.toNat - 1) (by omega)
      rw [Nat.sub_add_cancel hpos] at hlast
      exact .inr ⟨hline.mp hdiv, hlast⟩
  · rintro (hzero | ⟨hlineNum, hle⟩) i hi
    · rw [hzero] at hi
      exact absurd hi (Nat.not_lt_zero i)
    · exact ⟨Nat.le_trans (Nat.mul_le_mul_right size hi) hle, hline.mpr hlineNum⟩

/-- The loops stay in `raw_data` when the points of the data type fit into it. -/
theorem pointCloudProcess_safe (arith : PointArith E) (handler : LidarPubHandler E)
    {pkt : RawPacket} (hlidar : pkt.lidarType = .livox) (raw : Mem) :
    (pointCloudProcess arith handler pkt raw).All (PacketAccess.Safe n) ↔
      ∀ size, rawPointSize pkt.dataType = some size →
        pkt.pointNum = 0 ∨ pkt.lineNum ≠ 0 ∧ pkt.pointNum.toNat * size ≤ pkt.rawData.length := by
  unfold pointCloudProcess packetPoints rawPointSize
  rw [hlidar, Traced.all_bind]
  simp only [Traced.all_pure, and_true]
  by_cases hhigh : pkt.dataType = 1
  · rw [hhigh]
    simpa [processCartesianHighPoint] using
      processPoints_safe arith (by decide) arith.high handler.extrinsic pkt raw
  · by_cases hlow : pkt.dataType = 2
    · rw [hlow]
      simpa [processCartesianLowPoint] using
        processPoints_safe arith (by decide) arith.low handler.extrinsic pkt raw
    · by_cases hspher : pkt.dataType = 3
      · rw [hspher]
        simpa [processSphericalPoint] using
          processPoints_safe arith (by decide) arith.spher handler.extrinsic pkt raw
      · simp

theorem lineNum_ne_zero (devType : UInt8) : lineNum devType ≠ 0 := by
  unfold lineNum
  split
  · decide
  · split <;> decide

/-- The packet that is queued, when the length is that of the header at least. -/
theorem rawPacket_val (handle : UInt32) (devType : UInt8) (now : UInt64)
    (hheader : 36 ≤ (data.u16 1).toNat) :
    let pkt := (rawPacket handle devType data now).val
    pkt.lidarType = .livox ∧ pkt.dataType = data 10 ∧ pkt.pointNum = (data.u16 5).toUInt32 ∧
      pkt.lineNum ≠ 0 ∧ pkt.rawData = data.bytes 36 ((data.u16 1).toNat - 36) := by
  refine ⟨rfl, rfl, rfl, lineNum_ne_zero devType, ?_⟩
  rw [← dataLength_val hheader]
  rfl

/-- The loops over a packet that is queued are safe when its points fit into its
length. -/
theorem rawPacket_loops (handle : UInt32) (devType : UInt8) (now : UInt64)
    (hheader : 36 ≤ (data.u16 1).toNat) (arith : PointArith E) (handler : LidarPubHandler E)
    (raw : Mem) :
    (pointCloudProcess arith handler (rawPacket handle devType data now).val raw).All
        (PacketAccess.Safe n) ↔
      ∀ size, rawPointSize (data 10) = some size →
        data.u16 5 = 0 ∨ 36 + (data.u16 5).toNat * size ≤ (data.u16 1).toNat := by
  obtain ⟨hlidar, htype, hnum, hline, hraw⟩ := rawPacket_val handle devType now hheader
  have hdots : (data.u16 5).toUInt32 = 0 ↔ data.u16 5 = 0 := by
    rw [← UInt32.toNat_inj, ← UInt16.toNat_inj, UInt16.toNat_toUInt32]
    rfl
  rw [pointCloudProcess_safe arith handler hlidar, htype, hnum, hraw, Mem.bytes_length, hdots,
    UInt16.toNat_toUInt32]
  refine forall_congr' fun size => imp_congr_right fun _ => or_congr_right ?_
  rw [and_iff_right hline]
  omega

end Accesses

/-! ### The model without accesses -/

section Values

variable {handler : LidarPubHandler E} {pkt : RawPacket} {raw : Mem}

/-- The loops that stay in `raw_data` give the points of the packet. -/
theorem processPoints_val (arith : PointArith E) {size : ℕ}
    (coordinates : Option E → Bool → List UInt8 → UInt32 × UInt32 × UInt32) (extrinsic : Option E)
    (hraw : raw.bytes 0 pkt.rawData.length = pkt.rawData)
    (hfit : pkt.pointNum.toNat * size ≤ pkt.rawData.length) :
    (processPoints arith size coordinates extrinsic pkt raw).val =
      (List.range pkt.pointNum.toNat).map (processPoint arith size coordinates extrinsic pkt) := by
  refine List.map_congr_left fun i hi => ?_
  have hlast : (i + 1) * size ≤ pkt.pointNum.toNat * size :=
    Nat.mul_le_mul_right size (List.mem_range.mp hi)
  rw [Nat.add_mul, Nat.one_mul] at hlast
  have hbytes := Mem.bytes_within raw 0 (i * size) size pkt.rawData hraw (by omega)
  rw [Nat.zero_add] at hbytes
  simp only [Traced.val_bind, Traced.val_mapLog, Mem.val_readBytes, Traced.val_pure, hbytes]
  rfl

/-- **The points of a packet** whose points fit into its data are those of the model
without accesses. -/
theorem pointCloudProcess_val (arith : PointArith E) (hlidar : pkt.lidarType = .livox)
    (hraw : raw.bytes 0 pkt.rawData.length = pkt.rawData)
    (hfit : ∀ size, rawPointSize pkt.dataType = some size →
      pkt.pointNum.toNat * size ≤ pkt.rawData.length) :
    (pointCloudProcess arith handler pkt raw).val = handler.pointCloudProcess arith pkt := by
  have hpoints : (packetPoints arith handler.extrinsic pkt raw).val =
      Livox.packetPoints arith handler.extrinsic pkt := by
    unfold packetPoints Livox.packetPoints
    rw [hlidar]
    dsimp only
    by_cases hhigh : pkt.dataType = 1
    · rw [hhigh]
      exact processPoints_val arith _ _ hraw (hfit 14 (by rw [hhigh]; rfl))
    · by_cases hlow : pkt.dataType = 2
      · rw [hlow]
        exact processPoints_val arith _ _ hraw (hfit 8 (by rw [hlow]; rfl))
      · by_cases hspher : pkt.dataType = 3
        · rw [hspher]
          exact processPoints_val arith _ _ hraw (hfit 10 (by rw [hspher]; rfl))
        · simp
  unfold pointCloudProcess LidarPubHandler.pointCloudProcess
  rw [Traced.val_bind, hpoints]
  rfl

end Values

/-- **What the observer does to the publisher** are its steps: the time is stamped, and
a packet arrives unless it is of the IMU. -/
theorem handle_events (arith : PointArith E) (cfg : PubConfig) (now : UInt64) (devType : UInt8)
    (handle : UInt32) (data : Mem) (s : PointReceiver E) :
    exec (pubStep arith cfg) s.pub (.stamp (data 11 ≠ kTimestampTypeNoSync) ::
        if data 10 = kLivoxLidarImuData then []
        else [.arrive (rawPacket handle devType data now).val]) =
      some ((driver now).handle devType handle (some data) s).val.pub := by
  rw [(handle_driver (n := 0) now handle devType data s).1]
  unfold onLivoxLidarPointCloudCallback
  simp only [Traced.val_bind, payloadByte_val]
  by_cases himu : data 10 = kLivoxLidarImuData
  · simp only [himu, if_true]
    split <;> rfl
  · simp only [himu, if_false]
    rfl

/-! ### Packets that are taken safely -/

variable {arith : PointArith E} {now : UInt64} {devType : UInt8} {handle : UInt32} {data : Mem}
  {bufSize : UInt32} {s : PointReceiver E}

/-- What a packet of the IMU leaves as it was. -/
theorem handle_imu (now : UInt64) (devType : UInt8) (handle : UInt32) (s : PointReceiver E)
    (himu : data 10 = kLivoxLidarImuData) :
    let s' := ((driver now).handle devType handle (some data) s).val
    s'.pub.rawPacketQueue = s.pub.rawPacketQueue ∧ (s.imuCallback = false → s'.imus = s.imus) := by
  dsimp only
  rw [(handle_driver (n := 0) now handle devType data s).1]
  unfold onLivoxLidarPointCloudCallback
  simp only [Traced.val_bind, Traced.val_ite, payloadByte_val, himu, if_true]
  split
  · rename_i hcallback
    exact ⟨rfl, fun hno => absurd hcallback (by simp [hno])⟩
  · exact ⟨rfl, fun _ => rfl⟩

/-- Any other packet is queued. -/
theorem handle_points (now : UInt64) (devType : UInt8) (handle : UInt32) (s : PointReceiver E)
    (himu : data 10 ≠ kLivoxLidarImuData) :
    ((driver now).handle devType handle (some data) s).val.pub.rawPacketQueue =
      s.pub.rawPacketQueue ++ [(rawPacket handle devType data now).val] := by
  rw [(handle_driver (n := 0) now handle devType data s).1]
  unfold onLivoxLidarPointCloudCallback
  simp only [Traced.val_bind, payloadByte_val, himu, if_false]
  rfl

theorem packetOk_imu (himu : data 10 = kLivoxLidarImuData) :
    PacketOk arith now devType handle data bufSize s ↔
      Consistent s.imuCallback data bufSize.toNat := by
  obtain ⟨hqueue, himus⟩ := handle_imu now devType handle s himu
  have hformed : WellFormed data bufSize.toNat ↔ 36 + 24 ≤ bufSize.toNat := by
    rw [WellFormed, if_pos himu]
  have hsafe := handle_safe (n := bufSize.toNat) now handle devType data s
  rw [if_pos himu] at hsafe
  constructor
  · rintro ⟨hcallback, -, -⟩
    have hreceived := hsafe.mp hcallback
    cases hcb : s.imuCallback with
    | true => exact .inl (hformed.mpr (by simpa [hcb] using hreceived))
    | false => exact .inr ⟨himu, rfl, by simpa [hcb] using hreceived⟩
  · intro h
    refine ⟨hsafe.mpr ?_, fun pkt hpkt => ?_, fun hnot => ?_⟩
    · rcases h with h | ⟨-, hcb, h⟩
      · have := hformed.mp h
        split <;> omega
      · rw [hcb]
        exact h
    · rw [hqueue, List.drop_length] at hpkt
      cases hpkt
    · rcases h with h | ⟨-, hcb, -⟩
      · exact absurd h hnot
      · exact ⟨hqueue, himus hcb⟩

theorem packetOk_points (himu : data 10 ≠ kLivoxLidarImuData) :
    PacketOk arith now devType handle data bufSize s ↔
      Consistent s.imuCallback data bufSize.toNat := by
  have hqueue := handle_points now devType handle s himu
  have hsafe := handle_safe (n := bufSize.toNat) now handle devType data s
  rw [if_neg himu] at hsafe
  have hformed : WellFormed data bufSize.toNat ↔ PointsFit data bufSize.toNat := by
    rw [WellFormed, if_neg himu]
  have hconsistent : Consistent s.imuCallback data bufSize.toNat ↔
      PointsFit data bufSize.toNat := by
    rw [Consistent, hformed]
    exact or_iff_left fun h => himu h.1
  rw [hconsistent]
  constructor
  · rintro ⟨hcallback, hloops, -⟩
    obtain ⟨hdots, hheader, hreceived⟩ := hsafe.mp hcallback
    refine ⟨hdots, hheader, hreceived, fun size hsize => ?_⟩
    have hpoints := (rawPacket_loops handle devType now hheader arith {} fun _ => 0).mp
      (hloops _ (by simp [hqueue]) _ _)
    exact (hpoints size hsize).resolve_left hdots
  · intro h
    refine ⟨hsafe.mpr ⟨h.dots, h.header, h.received⟩, fun pkt hpkt handler raw => ?_,
      fun hnot => absurd (hformed.mpr h) hnot⟩
    rw [hqueue, List.drop_left] at hpkt
    obtain rfl := List.mem_singleton.mp hpkt
    exact (rawPacket_loops handle devType now h.header arith handler raw).mpr fun size hsize =>
      .inr (h.points size hsize)

/-- **A packet is taken safely** exactly when it is consistent. -/
theorem packetOk_iff (arith : PointArith E) (now : UInt64) (devType : UInt8) (handle : UInt32)
    (data : Mem) (bufSize : UInt32) (s : PointReceiver E) :
    PacketOk arith now devType handle data bufSize s ↔
      Consistent s.imuCallback data bufSize.toNat := by
  by_cases himu : data 10 = kLivoxLidarImuData
  · exact packetOk_imu himu
  · exact packetOk_points himu

/-- The header of a packet that has no points. -/
def zeroDots : Mem := memOf ([0, 36, 0] ++ List.replicate 7 0 ++ [1])

/-- **A packet without points** makes the callback divide by zero. -/
theorem packetOk_zeroDots : ¬ PacketOk (⟨fun _ _ _ => 0, fun _ _ _ => 0, fun _ _ _ => 0,
    fun _ => 0⟩ : PointArith Unit) 0 kLivoxLidarTypeMid360 1 zeroDots 36
      ⟨PubHandler.init, false, []⟩ := by
  intro hok
  have hsafe := (handle_safe _ _ _ _ _).mp hok.callback
  rw [if_neg (by decide)] at hsafe
  exact hsafe.1 (by decide)

/-- The packet of a payload that is consistent. -/
def FromConsistent (pkt : RawPacket) : Prop :=
  ∃ handle devType now data bufSize, PointsFit data bufSize ∧
    pkt = (rawPacket handle devType data now).val

/-- **The thread stays in the packets** when all that were queued are of payloads that
are consistent. -/
theorem loops_safe_run (arith : PointArith E) (cfg : PubConfig)
    {tr : List (PubHandler E × PubEvent E)} {s : PubHandler E}
    (h : Run (pubStep arith cfg) (fun _ e => ∀ pkt, e = .arrive pkt → FromConsistent pkt)
      PubHandler.init tr s) (n : ℕ) :
    ∀ pkt, s.rawData = some pkt → ∀ handler raw,
      (pointCloudProcess arith handler pkt raw).All (PacketAccess.Safe n) := by
  have harrivals : ∀ pkt ∈ arrivals tr, FromConsistent pkt := by
    apply h.invariant
    · exact fun pkt hpkt => absurd hpkt List.not_mem_nil
    · intro tr s e s' htr hok _ pkt hpkt
      have hsnoc : arrivals (tr ++ [(s, e)]) = arrivals tr ++ arrivals [(s, e)] :=
        List.flatMap_append
      rw [hsnoc] at hpkt
      rcases List.mem_append.mp hpkt with hold | hnew
      · exact htr pkt hold
      · cases e with
        | arrive pkt' =>
          obtain rfl : pkt = pkt' := by simpa [arrivals] using hnew
          exact hok pkt rfl
        | _ => simp [arrivals] at hnew
  intro pkt hpkt handler raw
  have hmem : pkt ∈ arrivals tr := by
    rw [packets_in_order h, hpkt]
    simp
  obtain ⟨handle, devType, now, data, bufSize, hfit, rfl⟩ := harrivals pkt hmem
  exact (rawPacket_loops handle devType now hfit.header arith handler raw).mpr fun size hsize =>
    .inr (hfit.points size hsize)

end PointPackets

end Livox
end SensorSupport
