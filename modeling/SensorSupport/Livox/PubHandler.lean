/-
# Publishing the points of the lidars (`livox_ros_driver2/src/comm/pub_handler.cpp`)

The driver queues raw packets; one thread turns each into points of its lidar and
hands the points of the lidars over in frames: with synchronised time the points of
the packet's lidar when its latest time is due, else the points of all lidars when
the publish interval has passed. A frame only points into `points_`, where the
points of a lidar are swapped in before.

What a lidar's points are is conserved: those of the published frames and those
that wait are the points produced, in order (`Conserved`). The count of points in a
frame has 32 bits, and the points behind a count that wraps are lost
(`publish_wraps`).

Key definitions: `PubHandler`, `addLidar`, `checkTimer`, `pubStep`, `Conserved`.
Key theorems: `addLidar_moves`, `publish_conserves`, `publish_wraps`.
-/
import Mathlib.Data.Finset.Card
import Mathlib.Data.List.Sort
import Mathlib.Data.UInt
import Mathlib.Logic.Function.Basic
import SensorSupport.Lib.Run
import SensorSupport.Livox.DataQueue

namespace SensorSupport
namespace Livox

/-! ### Packets and points -/

/-- `LidarProtoType`. -/
inductive LidarProtoType
  | industry
  | vehicle
  | direct
  | livox
deriving DecidableEq, Repr

/-- `RawPacket`. -/
structure RawPacket where
  lidarType : LidarProtoType
  handle : UInt32
  extrinsicEnable : Bool
  pointNum : UInt32
  dataType : UInt8
  lineNum : UInt8
  timeStamp : UInt64
  pointInterval : UInt64
  rawData : List UInt8
deriving DecidableEq, Repr

/-- The floating-point arithmetic on one raw point: the bits of its coordinates by
the extrinsic parameters set, `extrinsic_enable` and its bytes, for each of the
three data types, and the bits of its reflectivity. -/
structure PointArith (E : Type) where
  high : Option E → Bool → List UInt8 → UInt32 × UInt32 × UInt32
  low : Option E → Bool → List UInt8 → UInt32 × UInt32 × UInt32
  spher : Option E → Bool → List UInt8 → UInt32 × UInt32 × UInt32
  intensity : UInt8 → UInt32

variable {E : Type}

/-- Point `i` of a packet whose raw points have `size` bytes, the reflectivity and
the tag last. -/
def processPoint (arith : PointArith E) (size : ℕ)
    (coordinates : Option E → Bool → List UInt8 → UInt32 × UInt32 × UInt32) (extrinsic : Option E)
    (pkt : RawPacket) (i : ℕ) : PointXyzlt :=
  let raw := (pkt.rawData.drop (i * size)).take size
  let xyz := coordinates extrinsic pkt.extrinsicEnable raw
  { x := xyz.1
    y := xyz.2.1
    z := xyz.2.2
    intensity := arith.intensity (raw.getD (size - 2) 0)
    tag := raw.getD (size - 1) 0
    line := (i.toUInt32 % pkt.lineNum.toUInt32).toUInt8
    offsetTime := pkt.timeStamp + i.toUInt64 * pkt.pointInterval }

/-- `ProcessCartesianHighPoint`: the points it appends. -/
def processCartesianHighPoint (arith : PointArith E) (extrinsic : Option E) (pkt : RawPacket) :
    List PointXyzlt :=
  (List.range pkt.pointNum.toNat).map (processPoint arith 14 arith.high extrinsic pkt)

/-- `ProcessCartesianLowPoint`: the points it appends. -/
def processCartesianLowPoint (arith : PointArith E) (extrinsic : Option E) (pkt : RawPacket) :
    List PointXyzlt :=
  (List.range pkt.pointNum.toNat).map (processPoint arith 8 arith.low extrinsic pkt)

/-- `ProcessSphericalPoint`: the points it appends. -/
def processSphericalPoint (arith : PointArith E) (extrinsic : Option E) (pkt : RawPacket) :
    List PointXyzlt :=
  (List.range pkt.pointNum.toNat).map (processPoint arith 10 arith.spher extrinsic pkt)

/-- `PointCloudProcess` and `LivoxLidarPointCloudProcess`: the points they append. -/
def packetPoints (arith : PointArith E) (extrinsic : Option E) (pkt : RawPacket) :
    List PointXyzlt :=
  match pkt.lidarType with
  | .livox =>
    match pkt.dataType with
    | 1 => processCartesianHighPoint arith extrinsic pkt
    | 2 => processCartesianLowPoint arith extrinsic pkt
    | 3 => processSphericalPoint arith extrinsic pkt
    | _ => []
  | _ => []

/-- The times of the points of a packet. -/
def pointTimes (pkt : RawPacket) : List UInt64 :=
  if pkt.lidarType = .livox ∧ (pkt.dataType = 1 ∨ pkt.dataType = 2 ∨ pkt.dataType = 3) then
    (List.range pkt.pointNum.toNat).map fun i => pkt.timeStamp + i.toUInt64 * pkt.pointInterval
  else []

theorem packetPoints_times (arith : PointArith E) (extrinsic : Option E)
    (pkt : RawPacket) :
    (packetPoints arith extrinsic pkt).map (·.offsetTime) = pointTimes pkt := by
  unfold packetPoints pointTimes
  cases pkt.lidarType with
  | livox =>
    dsimp only
    split
    · rename_i htype
      simp [processCartesianHighPoint, processPoint, htype]
    · rename_i htype
      simp [processCartesianLowPoint, processPoint, htype]
    · rename_i htype
      simp [processSphericalPoint, processPoint, htype]
    · rename_i hhigh hlow hspher
      rw [if_neg (by rintro ⟨-, h | h | h⟩ <;> contradiction)]
      rfl
  | industry | vehicle | direct => simp

/-- `LidarPubHandler`; `extrinsic` is set once. -/
structure LidarPubHandler (E : Type) where
  pointsClouds : List PointXyzlt := []
  extrinsic : Option E := none

namespace LidarPubHandler

/-- `LidarPubHandler::GetLidarBaseTime`. -/
def getLidarBaseTime (handler : LidarPubHandler E) : UInt64 :=
  match handler.pointsClouds.head? with
  | some point => point.offsetTime
  | none => 0

/-- `LidarPubHandler::GetRecentTimeStamp`. -/
def getRecentTimeStamp (handler : LidarPubHandler E) : UInt64 :=
  match handler.pointsClouds.getLast? with
  | some point => point.offsetTime
  | none => 0

/-- `LidarPubHandler::SetLidarsExtParam`. -/
def setLidarsExtParam (handler : LidarPubHandler E) (param : E) : LidarPubHandler E :=
  if handler.extrinsic.isSome then handler else { handler with extrinsic := some param }

/-- `LidarPubHandler::PointCloudProcess`. -/
def pointCloudProcess (arith : PointArith E) (handler : LidarPubHandler E) (pkt : RawPacket) :
    LidarPubHandler E :=
  { handler with
    pointsClouds := handler.pointsClouds ++ packetPoints arith handler.extrinsic pkt }

end LidarPubHandler

/-! ### The publisher -/

/-- `kMaxSourceLidar`. -/
def kMaxSourceLidar : ℕ := 32

/-- `kRatioOfMsToNs`. -/
def kRatioOfMsToNs : UInt64 := 1000000

/-- `kNsTolerantFrameTimeDeviation`. -/
def kNsTolerantFrameTimeDeviation : UInt64 := 1000000

/-- What `SetPointCloudConfig` sets: the interval is some milliseconds at least. -/
structure PubConfig where
  publishInterval : UInt64
  interval_ge : kRatioOfMsToNs ≤ publishInterval

/-- `publish_interval_tolerance_`. -/
def PubConfig.publishIntervalTolerance (cfg : PubConfig) : UInt64 :=
  cfg.publishInterval - kNsTolerantFrameTimeDeviation

/-- `publish_interval_ms_`. -/
def PubConfig.publishIntervalMs (cfg : PubConfig) : UInt64 := cfg.publishInterval / kRatioOfMsToNs

/-- `PointPacket` in a frame; `points` is the entry of `points_` it points into. -/
structure FramePoint where
  lidarType : LidarProtoType
  handle : UInt32
  pointsNum : UInt32
  points : UInt32

/-- `PointFrame`. -/
structure PointFrame where
  baseTime : Vector UInt64 kMaxSourceLidar
  lidarNum : ℕ
  lidarPoint : Vector FramePoint kMaxSourceLidar

/-- `PubHandler`. The map of the handlers is its keys in order and a function;
`rawData` is the packet the thread works on; `overrun` tells of an access behind
the arrays of the frame. `published` are the frames as the callback saw them, and
`processed` the packets processed, each with the extrinsic parameters set then. -/
structure PubHandler (E : Type) where
  isTimestampSync : Bool
  first : Bool
  lastPubTime : ℤ
  rawPacketQueue : List RawPacket
  rawData : Option RawPacket
  handles : List UInt32
  lidarProcessHandlers : UInt32 → LidarPubHandler E
  points : UInt32 → List PointXyzlt
  frame : PointFrame
  lidarExtrinsics : UInt32 → Option E
  overrun : Bool
  published : List (List (UInt32 × List PointXyzlt))
  processed : List (RawPacket × Option E)

/-- The publisher before the first packet. -/
def PubHandler.init : PubHandler E where
  isTimestampSync := false
  first := true
  lastPubTime := 0
  rawPacketQueue := []
  rawData := none
  handles := []
  lidarProcessHandlers _ := {}
  points _ := []
  frame := ⟨.replicate _ 0, 0, .replicate _ ⟨.industry, 0, 0, 0⟩⟩
  lidarExtrinsics _ := none
  overrun := false
  published := []
  processed := []

/-- `PubHandler::GetLidarId`. -/
def getLidarId (lidarType : LidarProtoType) (handle : UInt32) : UInt32 :=
  if lidarType = .livox then handle else 0

/-- What the callback reads of the frame: of each lidar the first points of its buffer. -/
def framePoints (frame : PointFrame) (points : UInt32 → List PointXyzlt) :
    List (UInt32 × List PointXyzlt) :=
  (frame.lidarPoint.toList.take frame.lidarNum).map fun lidarPoint =>
    (lidarPoint.handle, (points lidarPoint.points).take lidarPoint.pointsNum.toNat)

/-- `PubHandler::PublishPointCloud` with the callback set, and the reset of `lidar_num`. -/
def publishPointCloud (s : PubHandler E) : PubHandler E :=
  { s with
    published := s.published ++ [framePoints s.frame s.points]
    frame := { s.frame with lidarNum := 0 } }

/-- The points of a lidar are swapped into its buffer, and the buffer goes into the
frame unless it is empty. -/
def addLidar (s : PubHandler E) (id : UInt32) : PubHandler E :=
  let handler := s.lidarProcessHandlers id
  let lidarNum := s.frame.lidarNum
  let s := { s with
    overrun := s.overrun || !(lidarNum < kMaxSourceLidar)
    frame := { s.frame with
      baseTime := s.frame.baseTime.setIfInBounds lidarNum handler.getLidarBaseTime }
    points := Function.update s.points id handler.pointsClouds
    lidarProcessHandlers :=
      Function.update s.lidarProcessHandlers id { handler with pointsClouds := [] } }
  if handler.pointsClouds.isEmpty then s
  else { s with
    frame := { s.frame with
      lidarPoint := s.frame.lidarPoint.setIfInBounds lidarNum
        ⟨.livox, id, handler.pointsClouds.length.toUInt32, id⟩
      lidarNum := lidarNum + 1 } }

/-- With synchronised time: the latest point of the lidar lies in a millisecond that
the interval divides, and far enough behind the first. -/
def syncDue (cfg : PubConfig) (handler : LidarPubHandler E) : Bool :=
  let recentTimeMs := handler.getRecentTimeStamp / kRatioOfMsToNs
  if recentTimeMs % cfg.publishIntervalMs != 0 || recentTimeMs == 0 then false
  else !(handler.getRecentTimeStamp - handler.getLidarBaseTime < cfg.publishIntervalTolerance)

/-- Without: the interval has passed since the last time, which the first call sets. -/
def timerDue (cfg : PubConfig) (now : ℤ) (s : PubHandler E) : Bool :=
  !s.first && !(now - s.lastPubTime < cfg.publishInterval.toInt64.toInt)

/-- `PubHandler::CheckTimer` at the time `now`. -/
def checkTimer (cfg : PubConfig) (id : UInt32) (now : ℤ) (s : PubHandler E) : PubHandler E :=
  if s.isTimestampSync then
    if syncDue cfg (s.lidarProcessHandlers id) then
      let s := addLidar s id
      if (s.points id).isEmpty then s else publishPointCloud s
    else s
  else if s.first then { s with lastPubTime := now, first := false }
  else if timerDue cfg now s then
    publishPointCloud (s.handles.foldl addLidar
      { s with lastPubTime := s.lastPubTime + cfg.publishInterval.toInt64.toInt })
  else s

/-- The lidars whose points a call of `CheckTimer` hands over. -/
def handedOver (cfg : PubConfig) (id : UInt32) (now : ℤ) (s : PubHandler E) : List UInt32 :=
  if s.isTimestampSync then
    if syncDue cfg (s.lidarProcessHandlers id) then [id] else []
  else if timerDue cfg now s then s.handles else []

/-- `RawDataProcess`: the handler of a lidar, found or made, with the extrinsic
parameters that are there for it. -/
def findHandler (s : PubHandler E) (id : UInt32) : LidarPubHandler E :=
  let handler := if id ∈ s.handles then s.lidarProcessHandlers id else {}
  match s.lidarExtrinsics id with
  | some param => handler.setLidarsExtParam param
  | none => handler

/-- `RawDataProcess` behind the pop and before `CheckTimer`. -/
def processPacket (arith : PointArith E) (pkt : RawPacket) (s : PubHandler E) : PubHandler E :=
  let id := getLidarId pkt.lidarType pkt.handle
  let handler := findHandler s id
  { s with
    rawData := none
    handles := if id ∈ s.handles then s.handles else s.handles.orderedInsert (· ≤ ·) id
    lidarProcessHandlers :=
      Function.update s.lidarProcessHandlers id (handler.pointCloudProcess arith pkt)
    processed := s.processed ++ [(pkt, handler.extrinsic)] }

/-- What happens to the publisher. -/
inductive PubEvent (E : Type)
  /-- A packet of any kind has stored `is_timestamp_sync_`. -/
  | stamp (sync : Bool)
  /-- A raw packet is pushed into the queue. -/
  | arrive (pkt : RawPacket)
  /-- `AddLidarsExtParam`. -/
  | addLidarsExtParam (lidarType : LidarProtoType) (handle : UInt32) (param : E)
  /-- `ClearAllLidarsExtrinsicParams`. -/
  | clearAllLidarsExtrinsicParams
  /-- The thread takes the first packet of the queue. -/
  | pop
  /-- The thread processes the packet and checks the timer at the time `now`. -/
  | process (now : ℤ)

/-- The callback and the thread. The callback queues packets of Livox lidars only. -/
def pubStep (arith : PointArith E) (cfg : PubConfig) (s : PubHandler E) :
    PubEvent E → Option (PubHandler E)
  | .stamp sync => some { s with isTimestampSync := sync }
  | .arrive pkt =>
    if pkt.lidarType = .livox then some { s with rawPacketQueue := s.rawPacketQueue ++ [pkt] }
    else none
  | .addLidarsExtParam lidarType handle param =>
    some { s with lidarExtrinsics :=
      Function.update s.lidarExtrinsics (getLidarId lidarType handle) (some param) }
  | .clearAllLidarsExtrinsicParams => some { s with lidarExtrinsics := fun _ => none }
  | .pop =>
    match s.rawData, s.rawPacketQueue with
    | none, pkt :: pkts => some { s with rawData := some pkt, rawPacketQueue := pkts }
    | _, _ => none
  | .process now =>
    s.rawData.map fun pkt =>
      checkTimer cfg (getLidarId pkt.lidarType pkt.handle) now (processPacket arith pkt s)

/-! ### What is conserved -/

/-- The points of one lidar among points with their lidars. -/
def ofLidar (id : UInt32) (batches : List (UInt32 × List PointXyzlt)) : List PointXyzlt :=
  batches.flatMap fun batch => if batch.1 = id then batch.2 else []

@[simp] theorem ofLidar_nil (id : UInt32) : ofLidar id [] = [] := rfl

@[simp] theorem ofLidar_append (id : UInt32) (l l' : List (UInt32 × List PointXyzlt)) :
    ofLidar id (l ++ l') = ofLidar id l ++ ofLidar id l' := List.flatMap_append

@[simp] theorem ofLidar_singleton (id : UInt32) (batch : UInt32 × List PointXyzlt) :
    ofLidar id [batch] = if batch.1 = id then batch.2 else [] := by
  simp [ofLidar]

/-- The points produced from the packets processed, with their lidars. -/
def produced (arith : PointArith E) (s : PubHandler E) : List (UInt32 × List PointXyzlt) :=
  s.processed.map fun x => (getLidarId x.1.lidarType x.1.handle, packetPoints arith x.2 x.1)

/-- Where the points are. -/
def PubHandler.held (s : PubHandler E) :=
  (s.frame, s.points, s.lidarProcessHandlers, s.overrun, s.published, s.processed)

/-- The frame is being filled and holds buffers of `done` only; with its points no
point is lost. -/
structure Filling (arith : PointArith E) (done : List UInt32) (s : PubHandler E) : Prop where
  lidarNum_le : s.frame.lidarNum ≤ done.length
  inUse : ∀ p ∈ s.frame.lidarPoint.toList.take s.frame.lidarNum, p.points ∈ done
  inside : s.overrun = false
  conserved : ∀ id, ofLidar id s.published.flatten ++ ofLidar id (framePoints s.frame s.points) ++
    (s.lidarProcessHandlers id).pointsClouds = ofLidar id (produced arith s)

section Filling

variable {arith : PointArith E} {cfg : PubConfig} {done : List UInt32} {s : PubHandler E}
  {id : UInt32} {now : ℤ}

@[simp] theorem addLidar_handles (s : PubHandler E) (id : UInt32) :
    (addLidar s id).handles = s.handles := by
  unfold addLidar
  dsimp only
  split <;> rfl

@[simp] theorem addLidar_processed (s : PubHandler E) (id : UInt32) :
    (addLidar s id).processed = s.processed := by
  unfold addLidar
  dsimp only
  split <;> rfl

@[simp] theorem addLidar_published (s : PubHandler E) (id : UInt32) :
    (addLidar s id).published = s.published := by
  unfold addLidar
  dsimp only
  split <;> rfl

@[simp] theorem addLidar_rawData (s : PubHandler E) (id : UInt32) :
    (addLidar s id).rawData = s.rawData := by
  unfold addLidar
  dsimp only
  split <;> rfl

@[simp] theorem addLidar_rawPacketQueue (s : PubHandler E) (id : UInt32) :
    (addLidar s id).rawPacketQueue = s.rawPacketQueue := by
  unfold addLidar
  dsimp only
  split <;> rfl

@[simp] theorem addLidar_overrun (s : PubHandler E) (id : UInt32) :
    (addLidar s id).overrun = (s.overrun || !(s.frame.lidarNum < kMaxSourceLidar)) := by
  unfold addLidar
  dsimp only
  split <;> rfl

theorem addLidar_lidarProcessHandlers (s : PubHandler E) (id : UInt32) :
    (addLidar s id).lidarProcessHandlers = Function.update s.lidarProcessHandlers id
      { s.lidarProcessHandlers id with pointsClouds := [] } := by
  unfold addLidar
  dsimp only
  split <;> rfl

theorem addLidar_points (s : PubHandler E) (id : UInt32) :
    (addLidar s id).points =
      Function.update s.points id (s.lidarProcessHandlers id).pointsClouds := by
  unfold addLidar
  dsimp only
  split <;> rfl

/-- Setting the cell behind a prefix makes it the prefix's last. -/
theorem take_succ_set {α : Type} {l : List α} {n : ℕ} (h : n < l.length) (a : α) :
    (l.set n a).take (n + 1) = l.take n ++ [a] := by
  rw [List.take_add_one, List.take_set_of_le (le_refl n)]
  simp [h]

/-- A lidar without points leaves the filled part of the frame, else it comes last. -/
theorem addLidar_lidarPoint (s : PubHandler E) (id : UInt32)
    (hn : s.frame.lidarNum < kMaxSourceLidar) :
    (addLidar s id).frame.lidarPoint.toList.take (addLidar s id).frame.lidarNum =
      s.frame.lidarPoint.toList.take s.frame.lidarNum ++
        if (s.lidarProcessHandlers id).pointsClouds.isEmpty then []
        else [⟨.livox, id, (s.lidarProcessHandlers id).pointsClouds.length.toUInt32, id⟩] := by
  unfold addLidar
  dsimp only
  split
  · simp
  · rw [Vector.toList_setIfInBounds]
    exact take_succ_set (by simpa using hn) _

theorem addLidar_lidarNum (s : PubHandler E) (id : UInt32) :
    (addLidar s id).frame.lidarNum = s.frame.lidarNum +
      if (s.lidarProcessHandlers id).pointsClouds.isEmpty then 0 else 1 := by
  unfold addLidar
  dsimp only
  split <;> rfl

/-- What a lidar adds to the frame: as many of its points as the count of the slot tells. -/
def slotOf (s : PubHandler E) (id : UInt32) : List (UInt32 × List PointXyzlt) :=
  let points := (s.lidarProcessHandlers id).pointsClouds
  if points.isEmpty then [] else [(id, points.take points.length.toUInt32.toNat)]

theorem addLidar_appends (hn : s.frame.lidarNum < kMaxSourceLidar)
    (hfree : ∀ p ∈ s.frame.lidarPoint.toList.take s.frame.lidarNum, p.points ≠ id) :
    framePoints (addLidar s id).frame (addLidar s id).points =
      framePoints s.frame s.points ++ slotOf s id := by
  unfold framePoints
  rw [addLidar_lidarPoint s id hn, List.map_append, addLidar_points]
  congr 1
  · apply List.map_congr_left
    intro p hp
    rw [Function.update_of_ne (hfree p hp)]
  · unfold slotOf
    dsimp only
    split
    · rfl
    · rw [List.map_singleton, Function.update_self]

/-- The points of a lidar move from its handler into the frame. -/
theorem addLidar_moves (hn : s.frame.lidarNum < kMaxSourceLidar)
    (hfree : ∀ p ∈ s.frame.lidarPoint.toList.take s.frame.lidarNum, p.points ≠ id)
    (hfew : (s.lidarProcessHandlers id).pointsClouds.length < 2 ^ 32) :
    framePoints (addLidar s id).frame (addLidar s id).points = framePoints s.frame s.points ++
      if (s.lidarProcessHandlers id).pointsClouds.isEmpty then []
      else [(id, (s.lidarProcessHandlers id).pointsClouds)] := by
  have hnum : ((s.lidarProcessHandlers id).pointsClouds.length.toUInt32).toNat =
      (s.lidarProcessHandlers id).pointsClouds.length := Nat.mod_eq_of_lt hfew
  rw [addLidar_appends hn hfree]
  unfold slotOf
  dsimp only
  rw [hnum, List.take_length]

/-- One more lidar in the frame keeps that no point is lost. -/
theorem addLidar_filling (h : Filling arith done s) (hid : id ∉ done)
    (hlen : done.length < kMaxSourceLidar)
    (hfew : (s.lidarProcessHandlers id).pointsClouds.length < 2 ^ 32) :
    Filling arith (done ++ [id]) (addLidar s id) := by
  have hn : s.frame.lidarNum < kMaxSourceLidar := lt_of_le_of_lt h.lidarNum_le hlen
  have hfree : ∀ p ∈ s.frame.lidarPoint.toList.take s.frame.lidarNum, p.points ≠ id := by
    intro p hp hpid
    exact hid (hpid ▸ h.inUse p hp)
  refine ⟨?_, ?_, ?_, ?_⟩
  · have := h.lidarNum_le
    rw [addLidar_lidarNum, List.length_append, List.length_singleton]
    split <;> omega
  · intro p hp
    rw [addLidar_lidarPoint s id hn, List.mem_append] at hp
    rcases hp with hp | hp
    · exact List.mem_append_left _ (h.inUse p hp)
    · split at hp
      · simp at hp
      · rw [List.mem_singleton.mp hp]
        simp
  · rw [addLidar_overrun, h.inside]
    simpa using hn
  · intro other
    have hold := h.conserved other
    rw [addLidar_moves hn hfree hfew, addLidar_published, addLidar_lidarProcessHandlers]
    unfold produced at hold ⊢
    rw [addLidar_processed, ← hold, ofLidar_append]
    by_cases hother : other = id
    · subst hother
      rw [Function.update_self]
      split
      · rename_i hempty
        simp [List.isEmpty_iff.mp hempty]
      · simp
    · rw [Function.update_of_ne hother]
      have hnone : ofLidar other (if (s.lidarProcessHandlers id).pointsClouds.isEmpty then []
          else [(id, (s.lidarProcessHandlers id).pointsClouds)]) = [] := by
        split
        · rfl
        · simp [Ne.symm hother]
      rw [hnone, List.append_nil]

/-- All lidars of a list, each with few points. -/
theorem addLidars_filling : ∀ (ids done : List UInt32) (s : PubHandler E), Filling arith done s →
    (done ++ ids).Nodup → (done ++ ids).length ≤ kMaxSourceLidar →
    (∀ id ∈ ids, (s.lidarProcessHandlers id).pointsClouds.length < 2 ^ 32) →
    Filling arith (done ++ ids) (ids.foldl addLidar s)
  | [], done, s, h, _, _, _ => by simpa using h
  | id :: ids, done, s, h, hnodup, hlen, hfew => by
    rw [List.append_cons] at hnodup hlen ⊢
    have hid : id ∉ done := by
      intro hmem
      have := (List.nodup_append.mp (List.nodup_append.mp hnodup).1).2.2
      exact this id hmem id (List.mem_singleton_self id) rfl
    have hone : Filling arith (done ++ [id]) (addLidar s id) := by
      refine addLidar_filling h hid ?_ (hfew id List.mem_cons_self)
      simp only [List.length_append, List.length_singleton] at hlen
      omega
    refine addLidars_filling ids (done ++ [id]) _ hone hnodup hlen ?_
    intro other hother
    rw [addLidar_lidarProcessHandlers]
    by_cases heq : other = id
    · subst heq
      simp
    · rw [Function.update_of_ne heq]
      exact hfew other (List.mem_cons_of_mem _ hother)

/-- What is in the frame when it is published is published. -/
theorem publishPointCloud_filling (h : Filling arith done s) :
    Filling arith [] (publishPointCloud s) := by
  refine ⟨le_refl 0, by simp [publishPointCloud], h.inside, ?_⟩
  intro id
  have hempty : framePoints (publishPointCloud s).frame (publishPointCloud s).points = [] := rfl
  have hpublished : (publishPointCloud s).published.flatten =
      s.published.flatten ++ framePoints s.frame s.points := by
    simp [publishPointCloud]
  rw [hempty, hpublished, ofLidar_append, ofLidar_nil, List.append_nil]
  exact h.conserved id

/-- A step that keeps the points where they are. -/
theorem Filling.of_held {s' : PubHandler E} (h : Filling arith done s) (hs : s'.held = s.held) :
    Filling arith done s' := by
  simp only [PubHandler.held, Prod.mk.injEq] at hs
  obtain ⟨hframe, hpoints, hhandlers, hoverrun, hpublished, hprocessed⟩ := hs
  refine ⟨hframe ▸ h.lidarNum_le, hframe ▸ h.inUse, hoverrun ▸ h.inside, ?_⟩
  intro id
  have hproduced : produced arith s' = produced arith s := by
    unfold produced
    rw [hprocessed]
  rw [hframe, hpoints, hhandlers, hpublished, hproduced]
  exact h.conserved id

@[simp] theorem foldl_addLidar_handles : ∀ (ids : List UInt32) (s : PubHandler E),
    (ids.foldl addLidar s).handles = s.handles
  | [], _ => rfl
  | id :: ids, s => by
    rw [List.foldl_cons, foldl_addLidar_handles ids, addLidar_handles]

@[simp] theorem foldl_addLidar_rawData : ∀ (ids : List UInt32) (s : PubHandler E),
    (ids.foldl addLidar s).rawData = s.rawData
  | [], _ => rfl
  | id :: ids, s => by
    rw [List.foldl_cons, foldl_addLidar_rawData ids, addLidar_rawData]

@[simp] theorem foldl_addLidar_rawPacketQueue : ∀ (ids : List UInt32) (s : PubHandler E),
    (ids.foldl addLidar s).rawPacketQueue = s.rawPacketQueue
  | [], _ => rfl
  | id :: ids, s => by
    rw [List.foldl_cons, foldl_addLidar_rawPacketQueue ids, addLidar_rawPacketQueue]

@[simp] theorem foldl_addLidar_processed : ∀ (ids : List UInt32) (s : PubHandler E),
    (ids.foldl addLidar s).processed = s.processed
  | [], _ => rfl
  | id :: ids, s => by
    rw [List.foldl_cons, foldl_addLidar_processed ids, addLidar_processed]

@[simp] theorem foldl_addLidar_published : ∀ (ids : List UInt32) (s : PubHandler E),
    (ids.foldl addLidar s).published = s.published
  | [], _ => rfl
  | id :: ids, s => by
    rw [List.foldl_cons, foldl_addLidar_published ids, addLidar_published]

/-- Points only leave a handler. -/
theorem foldl_addLidar_pending : ∀ (ids : List UInt32) (s : PubHandler E),
    (s.lidarProcessHandlers id).pointsClouds = [] →
      ((ids.foldl addLidar s).lidarProcessHandlers id).pointsClouds = []
  | [], _, h => h
  | other :: ids, s, h => by
    rw [List.foldl_cons]
    apply foldl_addLidar_pending ids
    rw [addLidar_lidarProcessHandlers]
    by_cases heq : id = other
    · rw [heq, Function.update_self]
    · rw [Function.update_of_ne heq]
      exact h

end Filling

/-! ### Runs of the publisher -/

/-- Nothing is lost between the calls of `CheckTimer`; the lidars seen are among
those of `S`. -/
structure Conserved (arith : PointArith E) (S : Finset UInt32) (s : PubHandler E) : Prop where
  filling : Filling arith [] s
  nodup : s.handles.Nodup
  handles : ∀ id ∈ s.handles, id ∈ S
  arrived : ∀ pkt ∈ s.rawData.toList ++ s.rawPacketQueue,
    getLidarId pkt.lidarType pkt.handle ∈ S
  fresh : ∀ id ∉ s.handles, (s.lidarProcessHandlers id).pointsClouds = []

section Conserved

variable {arith : PointArith E} {cfg : PubConfig} {S : Finset UInt32} {s s' : PubHandler E}
  {pkt : RawPacket} {now : ℤ}

theorem init_conserved : Conserved arith S (PubHandler.init : PubHandler E) where
  filling := ⟨le_refl 0, by simp [PubHandler.init], rfl, fun _ => rfl⟩
  nodup := List.nodup_nil
  handles := by simp [PubHandler.init]
  arrived := by simp [PubHandler.init]
  fresh _ _ := rfl

/-- The extrinsic parameters do not touch the points. -/
theorem setLidarsExtParam_pointsClouds (handler : LidarPubHandler E) (param : E) :
    (handler.setLidarsExtParam param).pointsClouds = handler.pointsClouds := by
  unfold LidarPubHandler.setLidarsExtParam
  split <;> rfl

theorem findHandler_pointsClouds (s : PubHandler E) (id : UInt32) :
    (findHandler s id).pointsClouds =
      if id ∈ s.handles then (s.lidarProcessHandlers id).pointsClouds else [] := by
  unfold findHandler
  dsimp only
  split
  · rw [setLidarsExtParam_pointsClouds]
    split <;> rfl
  · split <;> rfl

theorem Conserved.findHandler (h : Conserved arith S s) (id : UInt32) :
    (findHandler s id).pointsClouds = (s.lidarProcessHandlers id).pointsClouds := by
  rw [findHandler_pointsClouds]
  split
  · rfl
  · rename_i hnot
    exact (h.fresh id hnot).symm

/-- The points of a packet are appended to those of its lidar. -/
theorem processPacket_filling (h : Conserved arith S s) :
    Filling arith [] (processPacket arith pkt s) := by
  obtain ⟨hle, hinUse, hinside, hconserved⟩ := h.filling
  refine ⟨hle, hinUse, hinside, ?_⟩
  intro other
  set id := getLidarId pkt.lidarType pkt.handle with hid
  have hproduced : produced arith (processPacket arith pkt s) =
      produced arith s ++ [(id, packetPoints arith (findHandler s id).extrinsic pkt)] := by
    simp only [produced, processPacket, List.map_append, List.map_cons, List.map_nil, ← hid]
  have hhandlers : (processPacket arith pkt s).lidarProcessHandlers =
      Function.update s.lidarProcessHandlers id
        ((findHandler s id).pointCloudProcess arith pkt) := rfl
  rw [hproduced, hhandlers, ofLidar_append, ofLidar_singleton, ← hconserved other]
  by_cases hother : other = id
  · subst hother
    rw [Function.update_self, if_pos rfl]
    simp only [LidarPubHandler.pointCloudProcess]
    rw [h.findHandler, ← List.append_assoc]
    rfl
  · rw [Function.update_of_ne hother, if_neg (Ne.symm hother), List.append_nil]
    rfl

/-- What a call of `CheckTimer` does: nothing to the points, or a frame with those of
the lidars handed over is built and published, where no points are no frame when
time is synchronised. -/
theorem checkTimer_cases (cfg : PubConfig) (id : UInt32) (now : ℤ) (s : PubHandler E) :
    (handedOver cfg id now s = [] ∧
      ∃ t b, checkTimer cfg id now s = { s with lastPubTime := t, first := b }) ∨
    (handedOver cfg id now s = [id] ∧ checkTimer cfg id now s = addLidar s id ∧
      (s.lidarProcessHandlers id).pointsClouds = []) ∨
    ∃ t, checkTimer cfg id now s =
      publishPointCloud ((handedOver cfg id now s).foldl addLidar { s with lastPubTime := t }) := by
  unfold checkTimer handedOver
  split
  · split
    · dsimp only
      split
      · rename_i hempty
        rw [addLidar_points, Function.update_self] at hempty
        exact .inr (.inl ⟨rfl, rfl, List.isEmpty_iff.mp hempty⟩)
      · exact .inr (.inr ⟨s.lastPubTime, rfl⟩)
    · exact .inl ⟨rfl, s.lastPubTime, s.first, rfl⟩
  · by_cases hdue : timerDue cfg now s = true
    · have hfirst : s.first = false := by
        simp only [timerDue, Bool.and_eq_true, Bool.not_eq_true'] at hdue
        exact hdue.1
      rw [if_pos hdue, if_pos hdue, hfirst]
      exact .inr (.inr ⟨_, rfl⟩)
    · rw [if_neg hdue, if_neg hdue]
      by_cases hfirst : s.first = true
      · exact .inl ⟨rfl, now, false, if_pos hfirst⟩
      · exact .inl ⟨rfl, s.lastPubTime, s.first, if_neg hfirst⟩

/-- The lidars handed over are different ones of those seen. -/
theorem handedOver_subset (cfg : PubConfig) (now : ℤ) (hnodup : s.handles.Nodup) {id : UInt32}
    (hid : id ∈ s.handles) :
    (handedOver cfg id now s).Nodup ∧ ∀ other ∈ handedOver cfg id now s, other ∈ s.handles := by
  unfold handedOver
  split
  · split
    · exact ⟨List.nodup_singleton id, by simpa using hid⟩
    · exact ⟨List.nodup_nil, by simp⟩
  · split
    · exact ⟨hnodup, fun _ h => h⟩
    · exact ⟨List.nodup_nil, by simp⟩

/-- The handler of the packet's lidar is among the handlers behind the packet. -/
theorem processPacket_handles (arith : PointArith E) (pkt : RawPacket) (s : PubHandler E)
    (id : UInt32) : id ∈ (processPacket arith pkt s).handles ↔
      id = getLidarId pkt.lidarType pkt.handle ∨ id ∈ s.handles := by
  simp only [processPacket]
  split
  · rename_i hmem
    constructor
    · exact .inr
    · rintro (rfl | h)
      · exact hmem
      · exact h
  · exact List.mem_orderedInsert _

theorem processPacket_nodup (arith : PointArith E) (pkt : RawPacket) (h : s.handles.Nodup) :
    (processPacket arith pkt s).handles.Nodup := by
  simp only [processPacket]
  split
  · exact h
  · rename_i hnot
    exact (List.perm_orderedInsert _ _ _).nodup_iff.mpr (List.nodup_cons.mpr ⟨hnot, h⟩)

theorem processPacket_conserved (h : Conserved arith S s) (hraw : s.rawData = some pkt) :
    Conserved arith S (processPacket arith pkt s) where
  filling := processPacket_filling h
  nodup := processPacket_nodup arith pkt h.nodup
  handles := by
    intro id hid
    rcases (processPacket_handles arith pkt s id).mp hid with rfl | hid
    · exact h.arrived pkt (by simp [hraw])
    · exact h.handles id hid
  arrived := by
    intro other hother
    exact h.arrived other (List.mem_append_right _ hother)
  fresh := by
    intro id hid
    rw [processPacket_handles, not_or] at hid
    change (Function.update s.lidarProcessHandlers _ _ id).pointsClouds = []
    rw [Function.update_of_ne hid.1]
    exact h.fresh id hid.2

/-- A call of `CheckTimer` keeps the points when it hands over few of each lidar. -/
theorem checkTimer_conserved (h : Conserved arith S s) (hS : S.card ≤ kMaxSourceLidar)
    {id : UInt32} (hid : id ∈ s.handles)
    (hfew : ∀ other ∈ handedOver cfg id now s,
      (s.lidarProcessHandlers other).pointsClouds.length < 2 ^ 32) :
    Conserved arith S (checkTimer cfg id now s) := by
  obtain ⟨hnodup, hsubset⟩ := handedOver_subset cfg now h.nodup hid
  obtain ⟨-, t, b, heq⟩ | ⟨hover, heq, hempty⟩ | ⟨t, heq⟩ := checkTimer_cases cfg id now s
  · rw [heq]
    exact ⟨h.filling.of_held rfl, h.nodup, h.handles, h.arrived, h.fresh⟩
  · have hnum : (addLidar s id).frame.lidarNum = 0 := by
      rw [addLidar_lidarNum, hempty]
      exact Nat.le_zero.mp h.filling.lidarNum_le
    have hadd := addLidar_filling h.filling (List.not_mem_nil (a := id))
      (show 0 < kMaxSourceLidar by decide) (hfew id (by simp [hover]))
    rw [heq]
    refine ⟨⟨hnum.le, by simp [hnum], hadd.inside, hadd.conserved⟩, ?_, ?_, ?_, ?_⟩
    · rw [addLidar_handles]
      exact h.nodup
    · rw [addLidar_handles]
      exact h.handles
    · rw [addLidar_rawData, addLidar_rawPacketQueue]
      exact h.arrived
    · intro other hother
      rw [addLidar_handles] at hother
      exact foldl_addLidar_pending [id] s (h.fresh other hother)
  · have hlen : (handedOver cfg id now s).length ≤ kMaxSourceLidar := by
      rw [← List.toFinset_card_of_nodup hnodup]
      refine (Finset.card_le_card ?_).trans hS
      intro other hother
      exact h.handles other (hsubset other (List.mem_toFinset.mp hother))
    have hfill := addLidars_filling _ [] { s with lastPubTime := t } (h.filling.of_held rfl) hnodup hlen hfew
    rw [heq]
    refine ⟨publishPointCloud_filling hfill, ?_, ?_, ?_, ?_⟩
    · change (List.foldl addLidar _ _).handles.Nodup
      rw [foldl_addLidar_handles]
      exact h.nodup
    · change ∀ other ∈ (List.foldl addLidar _ _).handles, other ∈ S
      rw [foldl_addLidar_handles]
      exact h.handles
    · change ∀ pkt ∈ (List.foldl addLidar _ _).rawData.toList ++
        (List.foldl addLidar _ _).rawPacketQueue, getLidarId pkt.lidarType pkt.handle ∈ S
      rw [foldl_addLidar_rawData, foldl_addLidar_rawPacketQueue]
      exact h.arrived
    · intro other hother
      change other ∉ (List.foldl addLidar _ _).handles at hother
      rw [foldl_addLidar_handles] at hother
      exact foldl_addLidar_pending _ _ (h.fresh other hother)

/-- The packets are of the lidars in `S`. -/
def OfLidars (S : Finset UInt32) : PubEvent E → Prop
  | .arrive pkt => pkt.handle ∈ S
  | _ => True

/-- The step hands over fewer than 2³² points of each lidar. -/
def FewPoints (arith : PointArith E) (cfg : PubConfig) (s : PubHandler E) : PubEvent E → Prop
  | .process now => ∀ pkt ∈ s.rawData,
    ∀ id ∈ handedOver cfg (getLidarId pkt.lidarType pkt.handle) now (processPacket arith pkt s),
      ((processPacket arith pkt s).lidarProcessHandlers id).pointsClouds.length < 2 ^ 32
  | _ => True

theorem pubStep_conserved {e : PubEvent E} (h : Conserved arith S s)
    (hS : S.card ≤ kMaxSourceLidar) (hof : OfLidars S e) (hfew : FewPoints arith cfg s e)
    (he : pubStep arith cfg s e = some s') : Conserved arith S s' := by
  cases e with
  | stamp sync =>
    cases he
    exact ⟨h.filling.of_held rfl, h.nodup, h.handles, h.arrived, h.fresh⟩
  | arrive pkt =>
    simp only [pubStep] at he
    split at he
    · rename_i hlivox
      cases he
      refine ⟨h.filling.of_held rfl, h.nodup, h.handles, ?_, h.fresh⟩
      intro other hother
      rw [← List.append_assoc, List.mem_append, List.mem_singleton] at hother
      rcases hother with hother | rfl
      · exact h.arrived other hother
      · rw [getLidarId, if_pos hlivox]
        exact hof
    · cases he
  | addLidarsExtParam lidarType handle param =>
    cases he
    exact ⟨h.filling.of_held rfl, h.nodup, h.handles, h.arrived, h.fresh⟩
  | clearAllLidarsExtrinsicParams =>
    cases he
    exact ⟨h.filling.of_held rfl, h.nodup, h.handles, h.arrived, h.fresh⟩
  | pop =>
    simp only [pubStep] at he
    split at he
    · rename_i pkt pkts hraw hqueue
      cases he
      refine ⟨h.filling.of_held rfl, h.nodup, h.handles, ?_, h.fresh⟩
      have := h.arrived
      rw [hraw, hqueue] at this
      exact this
    · cases he
  | process now =>
    obtain ⟨pkt, hraw, rfl⟩ := Option.map_eq_some_iff.mp he
    exact checkTimer_conserved (processPacket_conserved h hraw) hS
      ((processPacket_handles arith pkt s _).mpr (.inl rfl)) (hfew pkt hraw)

/-- The packets pushed into the queue. -/
def arrivals (tr : List (PubHandler E × PubEvent E)) : List RawPacket :=
  tr.flatMap fun x =>
    match x.2 with
    | .arrive pkt => [pkt]
    | _ => []

/-- `CheckTimer` leaves the packets alone. -/
theorem checkTimer_packets (cfg : PubConfig) (id : UInt32) (now : ℤ) (s : PubHandler E) :
    (checkTimer cfg id now s).processed = s.processed ∧
    (checkTimer cfg id now s).rawData = s.rawData ∧
    (checkTimer cfg id now s).rawPacketQueue = s.rawPacketQueue := by
  obtain ⟨-, t, b, heq⟩ | ⟨-, heq, -⟩ | ⟨t, heq⟩ := checkTimer_cases cfg id now s
  · rw [heq]
    exact ⟨rfl, rfl, rfl⟩
  · rw [heq]
    exact ⟨addLidar_processed s id, addLidar_rawData s id, addLidar_rawPacketQueue s id⟩
  · rw [heq]
    exact ⟨foldl_addLidar_processed _ _, foldl_addLidar_rawData _ _,
      foldl_addLidar_rawPacketQueue _ _⟩

/-- The packets are processed in the order they arrive in, each once. -/
theorem packets_in_order {Ok : PubHandler E → PubEvent E → Prop}
    {tr : List (PubHandler E × PubEvent E)}
    (h : Run (pubStep arith cfg) Ok PubHandler.init tr s) :
    arrivals tr = s.processed.map (·.1) ++ s.rawData.toList ++ s.rawPacketQueue := by
  apply h.invariant
  · rfl
  · intro tr s e s' hs _ he
    have hsnoc : arrivals (tr ++ [(s, e)]) = arrivals tr ++ arrivals [(s, e)] :=
      List.flatMap_append
    rw [hsnoc, hs]
    cases e with
    | stamp sync =>
      cases he
      exact List.append_nil _
    | arrive pkt =>
      simp only [pubStep] at he
      split at he
      · cases he
        exact List.append_assoc _ _ _
      · cases he
    | addLidarsExtParam lidarType handle param =>
      cases he
      exact List.append_nil _
    | clearAllLidarsExtrinsicParams =>
      cases he
      exact List.append_nil _
    | pop =>
      simp only [pubStep] at he
      split at he
      · rename_i pkt pkts hraw hqueue
        cases he
        simp [arrivals, hraw, hqueue]
      · cases he
    | process now =>
      obtain ⟨pkt, hraw, rfl⟩ := Option.map_eq_some_iff.mp he
      obtain ⟨hprocessed, hdata, hqueue⟩ := checkTimer_packets cfg
        (getLidarId pkt.lidarType pkt.handle) now (processPacket arith pkt s)
      rw [hprocessed, hdata, hqueue]
      simp [arrivals, hraw, processPacket]

/-- **No point is lost, duplicated or given to another lidar.** In every run with the
packets of at most 32 lidars whose steps hand over fewer than 2³² points of each
lidar, the published points of a lidar and those that wait are the points produced
from its packets, in order, and the arrays of the frame are kept within. -/
theorem publish_conserves {tr : List (PubHandler E × PubEvent E)} (hS : S.card ≤ kMaxSourceLidar)
    (h : Run (pubStep arith cfg) (fun s e => OfLidars S e ∧ FewPoints arith cfg s e)
      PubHandler.init tr s) :
    s.overrun = false ∧ ∀ id, ofLidar id s.published.flatten ++
      (s.lidarProcessHandlers id).pointsClouds = ofLidar id (produced arith s) := by
  have hinv : Conserved arith S s := by
    apply h.invariant
    · exact init_conserved
    · intro tr s e s' hs hok he
      exact pubStep_conserved hs hS hok.1 hok.2 he
  refine ⟨hinv.filling.inside, fun id => ?_⟩
  have hempty : framePoints s.frame s.points = [] := by
    unfold framePoints
    rw [Nat.le_zero.mp hinv.filling.lidarNum_le, List.take_zero, List.map_nil]
  have := hinv.filling.conserved id
  rwa [hempty, ofLidar_nil, List.append_nil] at this

end Conserved

/-! ### Packets of zeros -/

/-- Coordinates that are all zero. -/
def zeroArith : PointArith Unit where
  high _ _ _ := (0, 0, 0)
  low _ _ _ := (0, 0, 0)
  spher _ _ _ := (0, 0, 0)
  intensity _ := 0

/-- A publish interval of 100 ms. -/
def tenHertz : PubConfig where
  publishInterval := 100000000
  interval_ge := by decide

/-- A packet of lidar 1 with 64 points of 14 zero bytes at one time. -/
def zeroPacket (timeStamp : UInt64) : RawPacket where
  lidarType := .livox
  handle := 1
  extrinsicEnable := false
  pointNum := 64
  dataType := 1
  lineNum := 6
  timeStamp := timeStamp
  pointInterval := 0
  rawData := List.replicate 896 0

/-- The events of a packet that is processed at the time `now`. -/
def packetEvents (timeStamp : UInt64) (now : ℤ) : List (PubEvent Unit) :=
  [.arrive (zeroPacket timeStamp), .pop, .process now]

instance (S : Finset UInt32) (e : PubEvent E) : Decidable (OfLidars S e) :=
  match e with
  | .arrive pkt => inferInstanceAs (Decidable (pkt.handle ∈ S))
  | .stamp _ | .addLidarsExtParam .. | .clearAllLidarsExtrinsicParams | .pop | .process _ =>
    .isTrue trivial

instance (arith : PointArith E) (cfg : PubConfig) (s : PubHandler E) (e : PubEvent E) :
    Decidable (FewPoints arith cfg s e) :=
  match e with
  | .process now =>
    have (pkt : RawPacket) : Decidable (∀ id ∈ handedOver cfg
        (getLidarId pkt.lidarType pkt.handle) now (processPacket arith pkt s),
        ((processPacket arith pkt s).lidarProcessHandlers id).pointsClouds.length < 2 ^ 32) :=
      List.decidableBAll _ _
    Option.decidableForallMem s.rawData
  | .stamp _ | .arrive _ | .addLidarsExtParam .. | .clearAllLidarsExtrinsicParams | .pop =>
    .isTrue trivial

/-- Without synchronised time the first packet starts the timer, the second is
published with it, and the third waits. -/
theorem publish_conserves_run : ∃ tr s,
    Run (pubStep zeroArith tenHertz)
      (fun s e => OfLidars {1} e ∧ FewPoints zeroArith tenHertz s e) PubHandler.init tr s ∧
    (ofLidar 1 s.published.flatten).length = 128 ∧
    s.overrun = false ∧ ∀ id, ofLidar id s.published.flatten ++
      (s.lidarProcessHandlers id).pointsClouds = ofLidar id (produced zeroArith s) := by
  have hexec : (exec (fun s e => if decide (OfLidars {1} e ∧ FewPoints zeroArith tenHertz s e) then
      pubStep zeroArith tenHertz s e else none) PubHandler.init
      (packetEvents 0 0 ++ packetEvents 0 150000000 ++ packetEvents 0 160000000)).map
      (fun s => decide ((ofLidar 1 s.published.flatten).length = 128)) = some true := by
    decide +kernel
  obtain ⟨s, hs, hlen⟩ := Option.map_eq_some_iff.mp hexec
  obtain ⟨tr, -, hrun⟩ := Run.of_exec_test (fun _ _ => of_decide_eq_true) hs
  exact ⟨tr, s, hrun, of_decide_eq_true hlen,
    publish_conserves (S := {1}) (by decide) hrun⟩

/-! ### The wrap of the count -/

section Wrap

/-- Time is synchronised, and `n` packets of the time 1 ms wait as points. -/
structure Loaded (n : ℕ) (s : PubHandler Unit) : Prop where
  sync : s.isTimestampSync = true
  queue : s.rawPacketQueue = []
  raw : s.rawData = none
  lidarNum : s.frame.lidarNum = 0
  published : s.published = []
  count : (findHandler s 1).pointsClouds.length = 64 * n
  times : ∀ p ∈ (findHandler s 1).pointsClouds, p.offsetTime = 1000000

theorem zeroPacket_points (ext : Option Unit) (t : UInt64) :
    (packetPoints zeroArith ext (zeroPacket t)).length = 64 ∧
      ∀ p ∈ packetPoints zeroArith ext (zeroPacket t), p.offsetTime = t := by
  constructor
  · rfl
  · intro p hp
    obtain ⟨i, -, rfl⟩ := List.mem_map.mp hp
    change t + i.toUInt64 * 0 = t
    rw [UInt64.mul_zero, UInt64.add_zero]

variable {n : ℕ} {s : PubHandler Unit}

/-- A packet is processed where nothing else waits. -/
theorem Loaded.exec (h : Loaded n s) (t : UInt64) :
    exec (pubStep zeroArith tenHertz) s (packetEvents t 0) =
      some (checkTimer tenHertz 1 0 (processPacket zeroArith (zeroPacket t) s)) := by
  obtain ⟨hsync, hqueue, hraw, -⟩ := h
  cases s
  cases hqueue
  cases hraw
  rfl

/-- The handler of the lidar behind a packet. -/
theorem processPacket_zeroPacket (s : PubHandler Unit) (t : UInt64) :
    (processPacket zeroArith (zeroPacket t) s).lidarProcessHandlers 1 =
      (findHandler s 1).pointCloudProcess zeroArith (zeroPacket t) := by
  change Function.update s.lidarProcessHandlers 1 _ 1 = _
  rw [Function.update_self]
  rfl

/-- The latest time behind a packet is that of the packet. -/
theorem recent_zeroPacket (handler : LidarPubHandler Unit) (t : UInt64) :
    (handler.pointCloudProcess zeroArith (zeroPacket t)).getRecentTimeStamp = t := by
  obtain ⟨hlen, htimes⟩ := zeroPacket_points handler.extrinsic t
  have hne : packetPoints zeroArith handler.extrinsic (zeroPacket t) ≠ [] := by
    intro hnil
    rw [hnil] at hlen
    simp at hlen
  simp only [LidarPubHandler.getRecentTimeStamp, LidarPubHandler.pointCloudProcess,
    List.getLast?_append_of_ne_nil _ hne, List.getLast?_eq_some_getLast hne]
  exact htimes _ (List.getLast_mem hne)

/-- One more packet of the time 1 ms waits. -/
theorem Loaded.next (h : Loaded n s) : ∃ s',
    SensorSupport.exec (pubStep zeroArith tenHertz) s (packetEvents 1000000 0) = some s' ∧
      Loaded (n + 1) s' := by
  have hdue : syncDue tenHertz ((processPacket zeroArith (zeroPacket 1000000)
      s).lidarProcessHandlers 1) = false := by
    rw [processPacket_zeroPacket]
    unfold syncDue
    rw [recent_zeroPacket]
    rfl
  have hcheck : checkTimer tenHertz 1 0 (processPacket zeroArith (zeroPacket 1000000) s) =
      processPacket zeroArith (zeroPacket 1000000) s := by
    have hsync : (processPacket zeroArith (zeroPacket 1000000) s).isTimestampSync = true := h.sync
    rw [checkTimer, if_pos hsync, hdue]
    rfl
  have hpending : (findHandler (processPacket zeroArith (zeroPacket 1000000) s) 1).pointsClouds =
      (findHandler s 1).pointsClouds ++
        packetPoints zeroArith (findHandler s 1).extrinsic (zeroPacket 1000000) := by
    rw [findHandler_pointsClouds, processPacket_zeroPacket, if_pos]
    · rfl
    · rw [processPacket_handles]
      exact .inl rfl
  obtain ⟨hlen, htimes⟩ := zeroPacket_points (findHandler s 1).extrinsic 1000000
  refine ⟨_, (h.exec 1000000).trans (congrArg some hcheck), ?_⟩
  refine ⟨h.sync, h.queue, rfl, h.lidarNum, h.published, ?_, ?_⟩
  · rw [hpending, List.length_append, h.count, hlen]
    rfl
  · intro p hp
    rw [hpending, List.mem_append] at hp
    exact hp.elim (h.times p) (htimes p)

theorem packetEvents_ofLidars (t : UInt64) (now : ℤ) (e : PubEvent Unit)
    (he : e ∈ packetEvents t now) :
    OfLidars {1} e := by
  simp only [packetEvents, List.mem_cons, List.not_mem_nil, or_false] at he
  rcases he with rfl | rfl | rfl
  · exact Finset.mem_singleton_self _
  · trivial
  · trivial

/-- As many packets as one likes wait as points. -/
theorem exists_loaded : ∀ n : ℕ, ∃ tr s,
    Run (pubStep zeroArith tenHertz) (fun _ e => OfLidars {1} e) PubHandler.init tr s ∧ Loaded n s
  | 0 => ⟨_, { PubHandler.init with isTimestampSync := true },
      Run.nil.snoc (e := .stamp true) (show OfLidars {1} (.stamp true) from trivial) rfl,
      ⟨rfl, rfl, rfl, rfl, rfl, rfl, by simp [findHandler_pointsClouds, PubHandler.init]⟩⟩
  | n + 1 => by
    obtain ⟨tr, s, hrun, hload⟩ := exists_loaded n
    obtain ⟨s', hnext, hload'⟩ := hload.next
    obtain ⟨tr', hrun'⟩ := hrun.exec hnext fun _ => packetEvents_ofLidars 1000000 0
    exact ⟨tr', s', hrun', hload'⟩

/-- The packet of the time 200 ms publishes what waits, with a count that wraps. -/
theorem Loaded.wraps (h : Loaded n s) (hn : 64 * (n + 1) = 2 ^ 32) : ∃ s',
    SensorSupport.exec (pubStep zeroArith tenHertz) s (packetEvents 200000000 0) = some s' ∧
      s'.published = [[(1, [])]] ∧ (s'.lidarProcessHandlers 1).pointsClouds = [] ∧
      ofLidar 1 (produced zeroArith s') ≠ [] := by
  set s₁ := processPacket zeroArith (zeroPacket 200000000) s with hs₁
  obtain ⟨hlen, -⟩ := zeroPacket_points (findHandler s 1).extrinsic 200000000
  have hpending : (s₁.lidarProcessHandlers 1).pointsClouds = (findHandler s 1).pointsClouds ++
      packetPoints zeroArith (findHandler s 1).extrinsic (zeroPacket 200000000) := by
    rw [hs₁, processPacket_zeroPacket]
    rfl
  have hcount : (s₁.lidarProcessHandlers 1).pointsClouds.length = 2 ^ 32 := by
    rw [hpending, List.length_append, h.count, hlen]
    omega
  have hne : (s₁.lidarProcessHandlers 1).pointsClouds.isEmpty = false := by
    rw [List.isEmpty_eq_false_iff, ← List.length_pos_iff, hcount]
    decide
  have hbase : (s₁.lidarProcessHandlers 1).getLidarBaseTime = 1000000 := by
    obtain ⟨p, ps, hps⟩ : ∃ p ps, (findHandler s 1).pointsClouds = p :: ps := by
      apply List.exists_cons_of_length_pos
      rw [h.count]
      omega
    unfold LidarPubHandler.getLidarBaseTime
    rw [hpending, hps]
    exact h.times p (hps ▸ List.mem_cons_self)
  have hdue : syncDue tenHertz (s₁.lidarProcessHandlers 1) = true := by
    unfold syncDue
    rw [hbase, hs₁, processPacket_zeroPacket, recent_zeroPacket]
    decide
  have hcheck : checkTimer tenHertz 1 0 s₁ = publishPointCloud (addLidar s₁ 1) := by
    have hsync : s₁.isTimestampSync = true := h.sync
    have hbuffer : ((addLidar s₁ 1).points 1).isEmpty = false := by
      rw [addLidar_points, Function.update_self, hne]
    rw [checkTimer, if_pos hsync, if_pos hdue]
    simp only [hbuffer, Bool.false_eq_true, if_false]
  have hnum : s₁.frame.lidarNum = 0 := h.lidarNum
  refine ⟨_, (h.exec 200000000).trans (congrArg some hcheck), ?_, ?_, ?_⟩
  · have hfirst := addLidar_lidarPoint s₁ 1 (by rw [hnum]; decide)
    rw [hnum, hne, List.take_zero, List.nil_append] at hfirst
    have hpublished : (addLidar s₁ 1).published = [] := (addLidar_published s₁ 1).trans h.published
    simp only [publishPointCloud, framePoints, hpublished, hfirst, Bool.false_eq_true, if_false,
      hcount, List.nil_append, List.map_cons, List.map_nil]
    rfl
  · change ((addLidar s₁ 1).lidarProcessHandlers 1).pointsClouds = []
    rw [addLidar_lidarProcessHandlers, Function.update_self]
  · have hproduced : produced zeroArith (publishPointCloud (addLidar s₁ 1)) =
        produced zeroArith s ++
          [(1, packetPoints zeroArith (findHandler s 1).extrinsic (zeroPacket 200000000))] := by
      change (addLidar s₁ 1).processed.map _ = _
      rw [addLidar_processed]
      simp only [hs₁, processPacket, List.map_append, List.map_cons, List.map_nil]
      rfl
    rw [hproduced, ofLidar_append, ofLidar_singleton, if_pos rfl]
    intro hnil
    rw [List.append_eq_nil_iff] at hnil
    rw [show packetPoints zeroArith _ _ = [] from hnil.2] at hlen
    simp at hlen

/-- 2³² points handed over at once are lost: the frame counts none of them. -/
theorem publish_wraps : ¬ ∀ (E : Type) (arith : PointArith E) (cfg : PubConfig) (S : Finset UInt32)
    (tr : List (PubHandler E × PubEvent E)) (s : PubHandler E), S.card ≤ kMaxSourceLidar →
    Run (pubStep arith cfg) (fun _ e => OfLidars S e) PubHandler.init tr s →
    ∀ id, ofLidar id s.published.flatten ++ (s.lidarProcessHandlers id).pointsClouds =
      ofLidar id (produced arith s) := by
  intro hall
  obtain ⟨tr, s, hrun, hload⟩ := exists_loaded (2 ^ 26 - 1)
  obtain ⟨s', hexec, hpublished, hpending, hproduced⟩ := hload.wraps (by decide)
  obtain ⟨tr', hrun'⟩ := hrun.exec hexec fun _ => packetEvents_ofLidars 200000000 0
  have := hall Unit zeroArith tenHertz {1} tr' s' (by decide) hrun' 1
  rw [hpublished, hpending] at this
  exact hproduced this.symm

end Wrap

end Livox
end SensorSupport
