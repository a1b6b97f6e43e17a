/-
# Draining a queue in the transfer format (`livox_ros_driver2/src/lddc.cpp`)

`PollingLidarPointCloudData` calls the routine of the transfer format as long as the queue
of the lidar is not empty, and leaves it to the routine to pop. The routines of the formats
0 and 1 pop until the queue is empty, each packet a message or, without points, discarded.
`PublishPclMsg` returns before its loop, and the other formats have no routine.

So the queue is drained in the formats 0 and 1; in the others only a queue that is empty
already is left, and with a packet in it the loop does not end (`drains_iff`).

Key definitions: `Lddc`, `publishLoop`, `pollingLidarPointCloudData`, `Contents`, `Drains`.
Key theorems: `publishLoop_drains`, `polling_spins`, `drains_iff`.
-/
import SensorSupport.Lib.Memory
import SensorSupport.Livox.CustomMessages

namespace SensorSupport
namespace Livox

/-! ### The messages -/

/-- `PointField` with a count of 1; `datatype` is its code. -/
structure PointField where
  name : String
  offset : UInt32
  datatype : UInt8
deriving DecidableEq, Repr

/-- `PointCloud2`; `stamp` is the time of its header. -/
structure PointCloud2 where
  frameId : String
  stamp : UInt64
  height : UInt32
  width : UInt32
  fields : List PointField
  isBigendian : Bool
  pointStep : UInt32
  rowStep : UInt32
  data : List UInt8
  isDense : Bool
deriving DecidableEq, Repr

/-- `kPointCloud2Msg`. -/
def kPointCloud2Msg : UInt8 := 0

/-- `kLivoxCustomMsg`. -/
def kLivoxCustomMsg : UInt8 := 1

/-- `kPclPxyziMsg`. -/
def kPclPxyziMsg : UInt8 := 2

/-- `kOutputToRos`. -/
def kOutputToRos : UInt8 := 0

/-- What `Lddc` publishes a lidar with; `toDouble` is the cast of a `uint64_t` to the bits
of a `double`. -/
structure Lddc where
  transferFormat : UInt8
  outputType : UInt8
  lidar : MsgConfig
  toDouble : UInt64 → UInt64

/-- A parameter of the node, an `int`, stored in a `uint8_t`. -/
def byteOf (param : Int32) : UInt8 := (param.toInt % 2 ^ 8).toNat.toUInt8

/-- `Lddc::Lddc` of the parameters `xfer_format` and `output_data_type`. -/
def Lddc.ofParams (format outputType : Int32) (lidar : MsgConfig) (toDouble : UInt64 → UInt64) :
    Lddc :=
  ⟨byteOf format, byteOf outputType, lidar, toDouble⟩

/-- `sizeof(LivoxPointXyzrtlt)`, a packed structure. -/
def pointXyzrtltSize : UInt32 := 26

/-- The fields of `Lddc::InitPointcloud2MsgHeader`; 7 is `FLOAT32`, 2 `UINT8`, 8 `FLOAT64`. -/
def pointFields : List PointField :=
  [⟨"x", 0, 7⟩, ⟨"y", 4, 7⟩, ⟨"z", 8, 7⟩, ⟨"intensity", 12, 7⟩, ⟨"tag", 16, 2⟩, ⟨"line", 17, 2⟩,
    ⟨"timestamp", 18, 8⟩]

/-- The bytes of a `LivoxPointXyzrtlt` of `Lddc::InitPointcloud2Msg`. -/
def pointXyzrtlt (lddc : Lddc) (point : PointXyzlt) : List UInt8 :=
  leBytes 4 point.x.toNat ++ leBytes 4 point.y.toNat ++ leBytes 4 point.z.toNat ++
    leBytes 4 point.intensity.toNat ++ [point.tag, point.line] ++
    leBytes 8 (lddc.toDouble point.offsetTime).toNat

/-- `Lddc::InitPointcloud2Msg`. -/
def initPointcloud2Msg (lddc : Lddc) (pkg : StoragePacket) : PointCloud2 where
  frameId := lddc.lidar.frameId
  stamp := if pkg.points.isEmpty then 0 else pkg.baseTime
  height := 1
  width := pkg.pointsNum
  fields := pointFields
  isBigendian := false
  pointStep := pointXyzrtltSize
  rowStep := pkg.pointsNum * pointXyzrtltSize
  data := (pkg.points.take pkg.pointsNum.toNat).flatMap (pointXyzrtlt lddc)
  isDense := true

/-! ### Popping and publishing -/

/-- What becomes of a packet that is popped. -/
inductive Outcome
  | discarded (pkg : StoragePacket)
  | pointCloud2 (pkg : StoragePacket) (cloud : PointCloud2)
  | custom (pkg : StoragePacket) (msg : CustomMsg)
deriving DecidableEq, Repr

/-- The packet. -/
def Outcome.packet : Outcome → StoragePacket
  | .discarded pkg | .pointCloud2 pkg _ | .custom pkg _ => pkg

/-- The queue of the lidar, and the packets that were popped. -/
structure Polled where
  queue : LidarDataQueue
  handled : List Outcome

/-- The body of the loop of `Lddc::PublishPointcloud2` behind the pop. -/
def handlePointcloud2 (lddc : Lddc) (pkg : StoragePacket) : Outcome :=
  if pkg.points.isEmpty then .discarded pkg
  else if lddc.outputType = kOutputToRos then .pointCloud2 pkg (initPointcloud2Msg lddc pkg)
  else .discarded pkg

/-- The body of the loop of `Lddc::PublishCustomPointcloud` behind the pop. -/
def handleCustom (lddc : Lddc) (pkg : StoragePacket) : Outcome :=
  match publishCustomPointcloud lddc.lidar pkg with
  | none => .discarded pkg
  | some msg => if lddc.outputType = kOutputToRos then .custom pkg msg else .discarded pkg

/-- `QueuePop`, or `none` for an access out of bounds. -/
def queuePop (queue : LidarDataQueue) (storagePacket : StoragePacket) :
    Option (LidarDataQueue × StoragePacket) :=
  (queuePrePop queue storagePacket).map fun r =>
    (if r.1 then queuePopUpdate queue else queue, r.2)

/-- The loop of `Lddc::PublishPointcloud2` and `Lddc::PublishCustomPointcloud`; `none` when
it has not ended, or for an access out of bounds. -/
def publishLoop (handle : StoragePacket → Outcome) : ℕ → Polled → Option Polled
  | 0, _ => none
  | fuel + 1, s =>
    if queueIsEmpty s.queue then some s
    else do
      let (queue, pkg) ← queuePop s.queue default
      publishLoop handle fuel ⟨queue, s.handled ++ [handle pkg]⟩

/-- `Lddc::PublishPclMsg`, which returns before its loop. -/
def publishPclMsg (s : Polled) : Polled := s

/-- The routine of the transfer format. -/
def publishBy (lddc : Lddc) (fuel : ℕ) (s : Polled) : Option Polled :=
  if lddc.transferFormat = kPointCloud2Msg then publishLoop (handlePointcloud2 lddc) fuel s
  else if lddc.transferFormat = kLivoxCustomMsg then publishLoop (handleCustom lddc) fuel s
  else if lddc.transferFormat = kPclPxyziMsg then some (publishPclMsg s)
  else some s

/-- The loop of `Lddc::PollingLidarPointCloudData`. -/
def pollingLoop (lddc : Lddc) (requestExit : Bool) : ℕ → Polled → Option Polled
  | 0, _ => none
  | fuel + 1, s =>
    if !requestExit && !queueIsEmpty s.queue then
      (publishBy lddc fuel s).bind (pollingLoop lddc requestExit fuel)
    else some s

/-- `Lddc::PollingLidarPointCloudData`. -/
def pollingLidarPointCloudData (lddc : Lddc) (requestExit : Bool) (fuel : ℕ) (s : Polled) :
    Option Polled :=
  if s.queue.storagePacket.isNone then some s else pollingLoop lddc requestExit fuel s

/-! ### Draining -/

/-- The packets in a queue: none before its storage is allocated. -/
def Contents (queue : LidarDataQueue) (items : List StoragePacket) : Prop :=
  queue.storagePacket = none ∧ queueIsEmpty queue = true ∧ items = [] ∨
  ∃ k cells fifo, Represents k queue cells fifo ∧ fifo.items = items

/-- Without a request to exit, the polling ends with the queue empty, and each packet was
published or discarded once. -/
def Drains (lddc : Lddc) (queue : LidarDataQueue) (items : List StoragePacket) : Prop :=
  ∃ fuel s, pollingLidarPointCloudData lddc false fuel ⟨queue, []⟩ = some s ∧
    queueIsEmpty s.queue = true ∧ s.handled.map Outcome.packet = items

section Draining

variable {lddc : Lddc} {queue : LidarDataQueue} {items : List StoragePacket}
  {cells : Array StoragePacket} {k : ℕ} {fifo : BoundedQueue StoragePacket (2 ^ k)}

theorem handlePointcloud2_packet (lddc : Lddc) (pkg : StoragePacket) :
    (handlePointcloud2 lddc pkg).packet = pkg := by
  unfold handlePointcloud2
  by_cases hempty : pkg.points.isEmpty
  · rw [if_pos hempty]
    rfl
  · by_cases hros : lddc.outputType = kOutputToRos
    · rw [if_neg hempty, if_pos hros]
      rfl
    · rw [if_neg hempty, if_neg hros]
      rfl

theorem handleCustom_packet (lddc : Lddc) (pkg : StoragePacket) :
    (handleCustom lddc pkg).packet = pkg := by
  unfold handleCustom
  cases publishCustomPointcloud lddc.lidar pkg with
  | none => rfl
  | some msg => by_cases hros : lddc.outputType = kOutputToRos <;> simp [hros, Outcome.packet]

/-- **The loop of a routine** pops packet by packet until the queue is empty. -/
theorem publishLoop_drains (handle : StoragePacket → Outcome) : ∀ {items : List StoragePacket}
    {queue : LidarDataQueue} {fifo : BoundedQueue StoragePacket (2 ^ k)} {fuel : ℕ}
    (handled : List Outcome), Represents k queue cells fifo → fifo.items = items →
      items.length < fuel → ∃ queue', publishLoop handle fuel ⟨queue, handled⟩ =
        some ⟨queue', handled ++ items.map handle⟩ ∧ queueIsEmpty queue' = true
  | [], queue, fifo, fuel, handled, hqueue, hitems, hfuel => by
    obtain ⟨fuel, rfl⟩ := Nat.exists_eq_add_one.mpr hfuel
    have hempty : queueIsEmpty queue = true := by
      rw [hqueue.isEmpty, hitems]
      rfl
    refine ⟨queue, ?_, hempty⟩
    unfold publishLoop
    rw [if_pos hempty, List.map_nil, List.append_nil]
  | pkg :: items, queue, fifo, fuel, handled, hqueue, hitems, hfuel => by
    obtain ⟨fuel, rfl⟩ := Nat.exists_eq_add_one.mpr (Nat.zero_lt_of_lt hfuel)
    have hempty : queueIsEmpty queue = false := by
      rw [hqueue.isEmpty, hitems]
      rfl
    obtain ⟨hpop, hnext⟩ := pop_represents hqueue default
    cases hget : fifo.get with
    | none =>
      rw [BoundedQueue.get_eq_none.mp hget] at hitems
      cases hitems
    | some r =>
      obtain ⟨first, fifo'⟩ := r
      rw [BoundedQueue.get_eq_some.mp hget] at hitems
      obtain ⟨rfl, hrest⟩ := List.cons.inj hitems
      rw [hget] at hpop
      have hpopped : queuePop queue default = some (queuePopUpdate queue, first) := by
        unfold queuePop
        rw [hpop]
        rfl
      obtain ⟨queue', hloop, hdone⟩ := publishLoop_drains handle (handled ++ [handle first])
        (hnext first fifo' hget) hrest (Nat.lt_of_succ_lt_succ hfuel)
      refine ⟨queue', ?_, hdone⟩
      unfold publishLoop
      rw [if_neg (by simp [hempty]), hpopped]
      simpa using hloop

/-- In the formats 0 and 1 the queue is drained. -/
theorem drains_of_loop {handle : StoragePacket → Outcome}
    (hpacket : ∀ pkg, (handle pkg).packet = pkg)
    (hpublish : ∀ fuel s, publishBy lddc fuel s = publishLoop handle fuel s)
    (hqueue : Represents k queue cells fifo) : Drains lddc queue fifo.items := by
  have hfuel : fifo.items.length < fifo.items.length + 1 := Nat.lt_succ_self _
  obtain ⟨queue', hloop, hempty⟩ := publishLoop_drains handle [] hqueue rfl hfuel
  have hhandled : (fifo.items.map handle).map Outcome.packet = fifo.items := by
    rw [List.map_map]
    exact (List.map_congr_left fun pkg _ => hpacket pkg).trans (List.map_id _)
  have hstorage : queue.storagePacket.isNone = false := by simp [hqueue.storage]
  by_cases hnow : queueIsEmpty queue = true
  · have hnil : fifo.items = [] := by
      rw [hqueue.isEmpty] at hnow
      exact List.isEmpty_iff.mp hnow
    refine ⟨1, ⟨queue, []⟩, ?_, hnow, hnil.symm⟩
    unfold pollingLidarPointCloudData pollingLoop
    simp [hstorage, hnow]
  · refine ⟨fifo.items.length + 2, ⟨queue', fifo.items.map handle⟩, ?_, hempty, hhandled⟩
    unfold pollingLidarPointCloudData pollingLoop
    rw [if_neg (by simp [hstorage]), if_pos (by simp [hnow]), hpublish, hloop]
    simp only [Option.bind_some, List.nil_append]
    unfold pollingLoop
    rw [if_neg (by simp [hempty])]

/-- **Without a routine that pops** the loop does not end. -/
theorem polling_spins {s : Polled} (hpublish : ∀ fuel, publishBy lddc fuel s = some s)
    (hqueue : queueIsEmpty s.queue = false) : ∀ fuel, pollingLoop lddc false fuel s = none
  | 0 => rfl
  | fuel + 1 => by
    unfold pollingLoop
    rw [if_pos (by simp [hqueue]), hpublish]
    exact polling_spins hpublish hqueue fuel

/-- **A queue is drained** in the formats 0 and 1, and in the others only when it is empty. -/
theorem drains_iff_format (h : Contents queue items) : Drains lddc queue items ↔
    lddc.transferFormat = kPointCloud2Msg ∨ lddc.transferFormat = kLivoxCustomMsg ∨
      items = [] := by
  obtain ⟨hnull, hempty, rfl⟩ | ⟨k, cells, fifo, hqueue, rfl⟩ := h
  · refine iff_of_true ⟨0, ⟨queue, []⟩, ?_, hempty, rfl⟩ (.inr (.inr rfl))
    exact if_pos (by simp [hnull])
  · by_cases hcloud : lddc.transferFormat = kPointCloud2Msg
    · refine iff_of_true (drains_of_loop (handlePointcloud2_packet lddc) (fun fuel s => ?_) hqueue)
        (.inl hcloud)
      exact if_pos hcloud
    by_cases hcustom : lddc.transferFormat = kLivoxCustomMsg
    · refine iff_of_true (drains_of_loop (handleCustom_packet lddc) (fun fuel s => ?_) hqueue)
        (.inr (.inl hcustom))
      unfold publishBy
      rw [if_neg hcloud, if_pos hcustom]
    have hpublish : ∀ s fuel, publishBy lddc fuel s = some s := by
      intro s fuel
      unfold publishBy publishPclMsg
      rw [if_neg hcloud, if_neg hcustom, ite_self]
    have hstorage : queue.storagePacket.isNone = false := by simp [hqueue.storage]
    simp only [hcloud, hcustom, false_or]
    constructor
    · rintro ⟨fuel, s, hpolling, -, -⟩
      by_contra hne
      have hempty : queueIsEmpty queue = false := by
        rw [hqueue.isEmpty]
        exact List.isEmpty_eq_false_iff.mpr hne
      unfold pollingLidarPointCloudData at hpolling
      rw [if_neg (by simp [hstorage]), polling_spins (hpublish _) hempty] at hpolling
      cases hpolling
    · intro hnil
      have hempty : queueIsEmpty queue = true := by
        rw [hqueue.isEmpty, hnil]
        rfl
      refine ⟨1, ⟨queue, []⟩, ?_, hempty, hnil.symm⟩
      unfold pollingLidarPointCloudData pollingLoop
      simp [hstorage, hempty]

/-- **A queue is drained** when `xfer_format` is 0 or 1 in its last byte, or it is empty. -/
theorem drains_iff (format outputType : Int32) (lidar : MsgConfig) (toDouble : UInt64 → UInt64)
    (h : Contents queue items) :
    Drains (.ofParams format outputType lidar toDouble) queue items ↔
      byteOf format = kPointCloud2Msg ∨ byteOf format = kLivoxCustomMsg ∨ items = [] :=
  drains_iff_format h

end Draining

/-- A packet with one point. -/
def onePointPacket : PointPacket := ⟨1, [⟨0, 0, 0, 0, 0, 0, 0⟩], Nat.le_refl _⟩

/-- A queue of one packet. -/
theorem onePacket_contents : ∃ queue, Contents queue [stored onePointPacket 7] := by
  obtain ⟨k, cells, hqueue⟩ := initQueue_represents 16
  obtain ⟨queue, cells', fifo, -, hfifo, hpushed⟩ := push_represents hqueue 16 onePointPacket 7
  refine ⟨queue, .inr ⟨k, cells', fifo, hpushed, ?_⟩⟩
  rw [hfifo]
  exact BoundedQueue.put_of_empty rfl (Nat.two_pow_pos k)

/-- A packet is published as a custom message. -/
theorem drains_custom : ∃ queue, Contents queue [stored onePointPacket 7] ∧
    (Drains (.ofParams 1 0 someLidar id) queue [stored onePointPacket 7] ↔
      byteOf 1 = kPointCloud2Msg ∨ byteOf 1 = kLivoxCustomMsg ∨ [stored onePointPacket 7] = []) := by
  obtain ⟨queue, hqueue⟩ := onePacket_contents
  exact ⟨queue, hqueue, drains_iff 1 0 someLidar id hqueue⟩

/-- In the format 2, which the launch file offers, a packet stays in the queue and the loop
does not end. -/
theorem drains_pcl : ¬ ∀ (format outputType : Int32) (lidar : MsgConfig)
    (toDouble : UInt64 → UInt64) (queue : LidarDataQueue) (items : List StoragePacket),
    Contents queue items → Drains (.ofParams format outputType lidar toDouble) queue items := by
  intro hall
  obtain ⟨queue, hqueue⟩ := onePacket_contents
  have hdrains := hall 2 0 someLidar id queue _ hqueue
  rcases (drains_iff_format hqueue).mp hdrains with hcloud | hcustom | hnil
  · exact absurd hcloud (by decide)
  · exact absurd hcustom (by decide)
  · cases hnil

end Livox
end SensorSupport
