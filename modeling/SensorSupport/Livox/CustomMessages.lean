/-
# The times in a CustomMsg (`livox_ros_driver2/src/lddc.cpp`, `comm/pub_handler.cpp`)

A `CustomMsg` has the time of its first point and for each point a 32-bit offset to it.
The points of a lidar are those of the packets that were processed since it was handed
over last, in the order the packets came in; the first of them gives the base time.

A ledger of a run notes what each lidar has gathered and what is stored of it when it is
handed over (`run_booked`). The message of a stored packet tells the times of its points
exactly when these lie within 2³² ns behind the first (`stamped_iff`): points of a packet
that came late are earlier than the first, and 2³² ns are 4.3 s.

Key definitions: `CustomMsg`, `publishCustomPointcloud`, `ownTimes`, `Ledger`, `Stamped`, `InSpan`.
Key theorems: `checkTimer_stores`, `run_booked`, `stamped_iff`, `customMsg_times_iff`,
`customMsg_reordered`.
-/
import SensorSupport.Livox.FrameSlots

namespace SensorSupport
namespace Livox

/-! ### The message -/

/-- `CustomPoint`; a `float` is its bits. -/
structure CustomPoint where
  offsetTime : UInt32
  x : UInt32
  y : UInt32
  z : UInt32
  reflectivity : UInt8
  tag : UInt8
  line : UInt8
deriving DecidableEq, Repr

/-- `CustomMsg`; `stamp` is the time of its header. -/
structure CustomMsg where
  frameId : String
  stamp : UInt64
  timebase : UInt64
  pointNum : UInt32
  lidarId : UInt8
  points : List CustomPoint
deriving DecidableEq, Repr

/-- What the messages of a lidar are made with: `frame_id_`, the entry of the lidar in
`lidars_`, and the cast of a `float` to `uint8_t`. -/
structure MsgConfig where
  frameId : String
  lidarType : LidarProtoType
  handle : UInt32
  toByte : UInt32 → UInt8

/-- `Lddc::InitCustomMsg`. -/
def initCustomMsg (lidar : MsgConfig) (pkg : StoragePacket) : CustomMsg :=
  let timestamp := if pkg.points.isEmpty then 0 else pkg.baseTime
  { frameId := lidar.frameId
    stamp := timestamp
    timebase := timestamp
    pointNum := pkg.pointsNum
    lidarId := if lidar.lidarType = .livox then lidar.handle.toUInt8 else 0
    points := [] }

/-- A point of `Lddc::FillPointsToCustomMsg`. -/
def customPoint (lidar : MsgConfig) (baseTime : UInt64) (point : PointXyzlt) : CustomPoint where
  offsetTime := (point.offsetTime - baseTime).toUInt32
  x := point.x
  y := point.y
  z := point.z
  reflectivity := lidar.toByte point.intensity
  tag := point.tag
  line := point.line

/-- `Lddc::FillPointsToCustomMsg`. -/
def fillPointsToCustomMsg (lidar : MsgConfig) (msg : CustomMsg) (pkg : StoragePacket) :
    CustomMsg :=
  { msg with
    points := msg.points ++
      (pkg.points.take pkg.pointsNum.toNat).map (customPoint lidar pkg.baseTime) }

/-- The loop of `Lddc::PublishCustomPointcloud` on a packet: no message without points. -/
def publishCustomPointcloud (lidar : MsgConfig) (pkg : StoragePacket) : Option CustomMsg :=
  if pkg.points.isEmpty then none
  else some (fillPointsToCustomMsg lidar (initCustomMsg lidar pkg) pkg)

/-! ### What is stored of a lidar -/

variable {E : Type} {arith : PointArith E} {cfg : PubConfig} {s s' : PubHandler E} {id : UInt32}
  {now : ℤ} {pkt : RawPacket}

/-- The points of a lidar as its slot of the frame has them. -/
def PubHandler.slotPacket (s : PubHandler E) (id : UInt32) : PointPacket where
  pointsNum := (s.pending id).length.toUInt32
  points := s.pending id
  pointsNum_le := Nat.mod_le _ _

/-- What is stored of a lidar that is handed over. -/
def PubHandler.storedPacket (s : PubHandler E) (id : UInt32) : StoragePacket :=
  stored (s.slotPacket id) (s.lidarProcessHandlers id).getLidarBaseTime

/-- What `Lds::StoragePointData` hands on of a frame, lidar by lidar. -/
def storagePointData (frame : PointFrame) (points : UInt32 → List PointXyzlt) :
    List (UInt32 × StoragePacket) :=
  ((frame.lidarPoint.toList.zip frame.baseTime.toList).take frame.lidarNum).map fun slot =>
    (slot.1.handle, ⟨slot.2, slot.1.pointsNum,
      (points slot.1.points).take slot.1.pointsNum.toNat⟩)

/-- The base time of a slot is that of its lidar. -/
theorem addLidar_slots (hn : s.frame.lidarNum < kMaxSourceLidar) :
    ((addLidar s id).frame.lidarPoint.toList.zip (addLidar s id).frame.baseTime.toList).take
        (addLidar s id).frame.lidarNum =
      (s.frame.lidarPoint.toList.zip s.frame.baseTime.toList).take s.frame.lidarNum ++
        if (s.pending id).isEmpty then []
        else [(⟨.livox, id, (s.pending id).length.toUInt32, id⟩,
          (s.lidarProcessHandlers id).getLidarBaseTime)] := by
  have hn' : s.frame.lidarNum < s.frame.lidarPoint.toList.length := by simpa using hn
  have hn'' : s.frame.lidarNum < s.frame.baseTime.toList.length := by simpa using hn
  simp only [List.zip, List.take_zipWith]
  unfold addLidar PubHandler.pending
  dsimp only
  split
  · rw [Vector.toList_setIfInBounds, List.take_set_of_le (le_refl _), List.append_nil]
  · rw [Vector.toList_setIfInBounds, Vector.toList_setIfInBounds, take_succ_set hn',
      take_succ_set hn'', List.zipWith_append (by simp)]
    rfl

theorem storedPacket_addLidar {other : UInt32} (h : other ≠ id) :
    (addLidar s id).storedPacket other = s.storedPacket other := by
  unfold PubHandler.storedPacket PubHandler.slotPacket
  have hhandlers : (addLidar s id).lidarProcessHandlers other = s.lidarProcessHandlers other := by
    rw [addLidar_lidarProcessHandlers, Function.update_of_ne h]
  simp only [PubHandler.pending, hhandlers]

/-- One more lidar, with points or without. -/
theorem addLidar_stored (hn : s.frame.lidarNum < kMaxSourceLidar)
    (hfree : ∀ p ∈ s.frame.lidarPoint.toList.take s.frame.lidarNum, p.points ≠ id) :
    storagePointData (addLidar s id).frame (addLidar s id).points =
      storagePointData s.frame s.points ++
        if s.waits id then [(id, s.storedPacket id)] else [] := by
  unfold storagePointData
  rw [addLidar_slots hn, List.map_append, addLidar_points]
  congr 1
  · apply List.map_congr_left
    intro slot hslot
    have hmem : slot.1 ∈ s.frame.lidarPoint.toList.take s.frame.lidarNum := by
      simp only [List.zip, List.take_zipWith] at hslot
      exact (List.of_mem_zip hslot).1
    rw [Function.update_of_ne (hfree slot.1 hmem)]
  · unfold PubHandler.waits
    cases h : (s.pending id).isEmpty with
    | true => rfl
    | false =>
      rw [if_neg Bool.false_ne_true, List.map_singleton, Function.update_self]
      rfl

/-- As long as the arrays are not left, what is stored of a frame is what is stored of the
lidars with points, in order. -/
theorem foldl_addLidar_stored : ∀ (ids : List UInt32) (s : PubHandler E), ids.Nodup →
    (∀ p ∈ s.frame.lidarPoint.toList.take s.frame.lidarNum, p.points ∉ ids) →
    (ids.foldl addLidar s).overrun = false →
    storagePointData (ids.foldl addLidar s).frame (ids.foldl addLidar s).points =
      storagePointData s.frame s.points ++
        (ids.filter s.waits).map fun id => (id, s.storedPacket id)
  | [], s, _, _, _ => by simp
  | id :: ids, s, hnodup, hfree, hinside => by
    obtain ⟨hn, hfree', hinside'⟩ := foldl_addLidar_next hnodup hfree hinside
    obtain ⟨hid, hnodup'⟩ := List.nodup_cons.mp hnodup
    have hne : ∀ other ∈ ids, other ≠ id := fun other hother heq => hid (heq ▸ hother)
    have hwaits : ids.filter (addLidar s id).waits = ids.filter s.waits := by
      apply List.filter_congr
      intro other hother
      unfold PubHandler.waits
      rw [addLidar_pending (hne other hother)]
    have hstored : (ids.filter s.waits).map (fun id' => (id', (addLidar s id).storedPacket id')) =
        (ids.filter s.waits).map fun id => (id, s.storedPacket id) := by
      apply List.map_congr_left
      intro other hother
      rw [storedPacket_addLidar (hne other (List.mem_of_mem_filter hother))]
    rw [List.foldl_cons, foldl_addLidar_stored ids _ hnodup' hfree' hinside',
      addLidar_stored hn fun p hp heq => hfree p hp (heq ▸ List.mem_cons_self), hwaits, hstored,
      List.append_assoc, List.filter_cons]
    split <;> simp

/-- **What the callback stores** of a frame is what is stored of the lidars handed over. -/
theorem checkTimer_stores (h : Ready s) (hid : id ∈ s.handles)
    (hinside : (checkTimer cfg id now s).overrun = false)
    (hwaits : ∃ other ∈ handedOver cfg id now s, s.pending other ≠ []) :
    ∃ filled, checkTimer cfg id now s = publishPointCloud filled ∧
      storagePointData filled.frame filled.points =
        ((handedOver cfg id now s).filter s.waits).map fun other =>
          (other, s.storedPacket other) := by
  obtain ⟨hnodup, -⟩ := handedOver_subset cfg now h.nodup hid
  obtain ⟨other, hother, hne⟩ := hwaits
  obtain ⟨hover, -⟩ | ⟨hover, -, hempty⟩ | ⟨t, heq⟩ := checkTimer_cases cfg id now s
  · rw [hover] at hother
    exact absurd hother List.not_mem_nil
  · rw [hover, List.mem_singleton] at hother
    exact absurd (hother ▸ hempty) hne
  · refine ⟨_, heq, ?_⟩
    rw [heq] at hinside
    have hfold := foldl_addLidar_stored _ { s with lastPubTime := t } hnodup
      (by simp [h.lidarNum]) hinside
    have hnil : storagePointData s.frame s.points = [] := by
      simp [storagePointData, h.lidarNum]
    rw [hfold]
    exact (congrArg (· ++ _) hnil).trans (List.nil_append _)

/-! ### What a lidar has gathered -/

/-- The timestamps of the points of a packet: its time and so many intervals. -/
def ownTimes (pkt : RawPacket) : List ℕ :=
  if pkt.lidarType = .livox ∧ (pkt.dataType = 1 ∨ pkt.dataType = 2 ∨ pkt.dataType = 3) then
    (List.range pkt.pointNum.toNat).map fun i => pkt.timeStamp.toNat + i * pkt.pointInterval.toNat
  else []

/-- For each lidar the packets processed since it was handed over last; and what was stored
when a lidar was handed over, with its packets. -/
structure Ledger where
  gathered : UInt32 → List RawPacket
  storages : List (List RawPacket × StoragePacket)

/-- A step in the ledger. -/
def Ledger.step (arith : PointArith E) (cfg : PubConfig) (l : Ledger) :
    PubHandler E × PubEvent E → Ledger
  | (s, .process now) =>
    match s.rawData with
    | some pkt =>
      let id := getLidarId pkt.lidarType pkt.handle
      let s := processPacket arith pkt s
      let handed := handedOver cfg id now s
      let gathered := Function.update l.gathered id (l.gathered id ++ [pkt])
      { gathered := fun id => if id ∈ handed then [] else gathered id
        storages := l.storages ++ handed.map fun id => (gathered id, s.storedPacket id) }
    | none => l
  | _ => l

/-- The ledger of a run. -/
def ledger (arith : PointArith E) (cfg : PubConfig) (tr : List (PubHandler E × PubEvent E)) :
    Ledger :=
  tr.foldl (Ledger.step arith cfg) ⟨fun _ => [], []⟩

/-- What is stored has the points of the packets, with their count cut to 32 bits, and the
time of the first of them. -/
structure StoredOf (pkts : List RawPacket) (pkg : StoragePacket) : Prop where
  count : pkg.pointsNum.toNat = (pkts.flatMap pointTimes).length % 2 ^ 32
  points : pkg.points.map (·.offsetTime) =
    (pkts.flatMap pointTimes).take ((pkts.flatMap pointTimes).length % 2 ^ 32)
  base : ∀ first ∈ (pkts.flatMap pointTimes).head?, pkg.baseTime = first

/-- The ledger has the packets whose points wait. -/
structure Booked (l : Ledger) (s : PubHandler E) : Prop where
  waiting : ∀ id, (s.pending id).map (·.offsetTime) = (l.gathered id).flatMap pointTimes
  fresh : ∀ id ∉ s.handles, s.pending id = []
  stored : ∀ y ∈ l.storages, StoredOf y.1 y.2

theorem storedPacket_storedOf {pkts : List RawPacket}
    (h : (s.pending id).map (·.offsetTime) = pkts.flatMap pointTimes) :
    StoredOf pkts (s.storedPacket id) := by
  have hlength : (pkts.flatMap pointTimes).length = (s.pending id).length := by
    rw [← h, List.length_map]
  refine ⟨?_, ?_, ?_⟩
  · rw [hlength]
    rfl
  · rw [hlength, ← h, ← List.map_take]
    rfl
  · intro first hfirst
    rw [← h, List.head?_map] at hfirst
    obtain ⟨point, hpoint, rfl⟩ := Option.map_eq_some_iff.mp hfirst
    change (s.lidarProcessHandlers id).getLidarBaseTime = _
    unfold LidarPubHandler.getLidarBaseTime
    rw [show (s.lidarProcessHandlers id).pointsClouds.head? = some point from hpoint]

/-- A lidar that is handed over has no points behind it, and the others keep theirs. -/
theorem foldl_addLidar_waiting : ∀ (ids : List UInt32) (s : PubHandler E) (id : UInt32),
    (ids.foldl addLidar s).pending id = if id ∈ ids then [] else s.pending id
  | [], _, _ => rfl
  | other :: ids, s, id => by
    rw [List.foldl_cons, foldl_addLidar_waiting ids]
    by_cases hid : id ∈ ids
    · rw [if_pos hid, if_pos (List.mem_cons_of_mem _ hid)]
    · rw [if_neg hid]
      by_cases heq : id = other
      · rw [heq, if_pos List.mem_cons_self, PubHandler.pending, addLidar_lidarProcessHandlers,
          Function.update_self]
      · rw [addLidar_pending heq, if_neg (by simp [heq, hid])]

theorem checkTimer_pending (cfg : PubConfig) (id : UInt32) (now : ℤ) (s : PubHandler E)
    (other : UInt32) : (checkTimer cfg id now s).pending other =
      if other ∈ handedOver cfg id now s then [] else s.pending other := by
  obtain ⟨hover, t, b, heq⟩ | ⟨hover, heq, -⟩ | ⟨t, heq⟩ := checkTimer_cases cfg id now s
  · rw [heq, hover, if_neg List.not_mem_nil]
    rfl
  · rw [heq, hover]
    exact foldl_addLidar_waiting [id] s other
  · rw [heq]
    exact foldl_addLidar_waiting _ { s with lastPubTime := t } other

/-- What waits of a lidar behind a packet is what the ledger has gathered. -/
theorem processPacket_booked {l : Ledger} (h : Booked l s) (arith : PointArith E)
    (pkt : RawPacket) (id : UInt32) :
    ((processPacket arith pkt s).pending id).map (·.offsetTime) =
      (Function.update l.gathered (getLidarId pkt.lidarType pkt.handle)
        (l.gathered (getLidarId pkt.lidarType pkt.handle) ++ [pkt]) id).flatMap pointTimes := by
  by_cases hid : id = getLidarId pkt.lidarType pkt.handle
  · rw [processPacket_pending arith hid.symm (h.fresh id), List.map_append, packetPoints_times,
      h.waiting id, hid, Function.update_self, List.flatMap_append, List.flatMap_singleton]
  · rw [processPacket_pending_of_ne arith hid, Function.update_of_ne hid]
    exact h.waiting id

/-- A step that processes nothing. -/
theorem Booked.of_idle {l : Ledger} (h : Booked l s)
    (hhandlers : s'.lidarProcessHandlers = s.lidarProcessHandlers)
    (hids : s'.handles = s.handles) : Booked l s' := by
  have hpending : ∀ id, s'.pending id = s.pending id := fun id => by
    unfold PubHandler.pending
    rw [hhandlers]
  refine ⟨fun id => hpending id ▸ h.waiting id, fun id hid => ?_, h.stored⟩
  rw [hpending]
  exact h.fresh id (hids ▸ hid)

theorem pubStep_booked {l : Ledger} {e : PubEvent E} (h : Booked l s)
    (he : pubStep arith cfg s e = some s') : Booked (l.step arith cfg (s, e)) s' := by
  cases e with
  | process now =>
    obtain ⟨pkt, hraw, rfl⟩ := Option.map_eq_some_iff.mp he
    have hwaiting := processPacket_booked h arith pkt
    simp only [Ledger.step, hraw]
    refine ⟨fun id => ?_, fun id hid => ?_, fun y hy => ?_⟩
    · rw [checkTimer_pending]
      dsimp only
      by_cases hover : id ∈ handedOver cfg (getLidarId pkt.lidarType pkt.handle) now
          (processPacket arith pkt s)
      · rw [if_pos hover, if_pos hover]
        rfl
      · rw [if_neg hover, if_neg hover]
        exact hwaiting id
    · rw [checkTimer_handles, processPacket_handles, not_or] at hid
      rw [checkTimer_pending, processPacket_pending_of_ne arith hid.1, h.fresh id hid.2, ite_self]
    · rcases List.mem_append.mp hy with hy | hy
      · exact h.stored y hy
      · obtain ⟨id, -, rfl⟩ := List.mem_map.mp hy
        exact storedPacket_storedOf (hwaiting id)
  | stamp sync =>
    cases he
    exact h.of_idle rfl rfl
  | arrive pkt =>
    simp only [pubStep] at he
    split at he
    · cases he
      exact h.of_idle rfl rfl
    · cases he
  | addLidarsExtParam lidarType handle param =>
    cases he
    exact h.of_idle rfl rfl
  | clearAllLidarsExtrinsicParams =>
    cases he
    exact h.of_idle rfl rfl
  | pop =>
    simp only [pubStep] at he
    split at he
    · cases he
      exact h.of_idle rfl rfl
    · cases he

/-- **The ledger of a run** has what waits, and what was stored. -/
theorem run_booked {tr : List (PubHandler E × PubEvent E)}
    (h : Run (pubStep arith cfg) (fun _ _ => True) PubHandler.init tr s) :
    Booked (ledger arith cfg tr) s := by
  apply h.invariant
  · exact ⟨fun _ => rfl, fun _ _ => rfl, by simp [ledger]⟩
  · intro tr s e s' hbooked _ he
    have hsnoc : ledger arith cfg (tr ++ [(s, e)]) = (ledger arith cfg tr).step arith cfg (s, e) := by
      unfold ledger
      rw [List.foldl_append]
      rfl
    rw [hsnoc]
    exact pubStep_booked hbooked he

/-! ### The times of a message -/

/-- The timebase and the offset of a point are its timestamp. -/
def Stamped (lidar : MsgConfig) (pkts : List RawPacket) (pkg : StoragePacket) : Prop :=
  ∀ msg ∈ publishCustomPointcloud lidar pkg, ∀ (i : ℕ) (point : CustomPoint),
    msg.points[i]? = some point →
      (pkts.flatMap ownTimes)[i]? = some (msg.timebase.toNat + point.offsetTime.toNat)

/-- The points that are counted lie within 2³² ns behind the first. -/
def InSpan (pkts : List RawPacket) : Prop :=
  ∀ first ∈ (pkts.flatMap ownTimes).head?,
    ∀ t ∈ (pkts.flatMap ownTimes).take ((pkts.flatMap ownTimes).length % 2 ^ 32),
      first < 2 ^ 64 ∧ first ≤ t ∧ t < first + 2 ^ 32

/-- The code computes the timestamps with 64 bits. -/
theorem pointTimes_eq (pkt : RawPacket) : pointTimes pkt = (ownTimes pkt).map Nat.toUInt64 := by
  unfold pointTimes ownTimes
  split
  · rw [List.map_map]
    apply List.map_congr_left
    intro i _
    change pkt.timeStamp + i.toUInt64 * pkt.pointInterval =
      (pkt.timeStamp.toNat + i * pkt.pointInterval.toNat).toUInt64
    rw [← UInt64.toNat_inj, UInt64.toNat_add, UInt64.toNat_mul, UInt64.toNat_ofNat',
      UInt64.toNat_ofNat', Nat.mod_mul_mod, Nat.add_mod_mod]
  · rfl

theorem flatMap_pointTimes (pkts : List RawPacket) :
    pkts.flatMap pointTimes = (pkts.flatMap ownTimes).map Nat.toUInt64 := by
  rw [List.map_flatMap]
  exact List.flatMap_congr fun pkt _ => pointTimes_eq pkt

/-- A 32-bit offset to a base time tells the times that follow it closely. -/
theorem offset_exact {first t : ℕ} (hfirst : first < 2 ^ 64) (hle : first ≤ t)
    (hlt : t < first + 2 ^ 32) :
    first.toUInt64.toNat + (t.toUInt64 - first.toUInt64).toUInt32.toNat = t := by
  have hbase : first.toUInt64.toNat = first := Nat.mod_eq_of_lt hfirst
  have htime : t.toUInt64.toNat = t % 2 ^ 64 := rfl
  rw [UInt64.toNat_toUInt32, UInt64.toNat_sub, hbase, htime]
  omega

/-- The message of a packet with points has them all, behind its base time. -/
theorem publishCustomPointcloud_eq (lidar : MsgConfig) {pkg : StoragePacket}
    (hne : pkg.points ≠ []) (hcount : pkg.points.length = pkg.pointsNum.toNat) : ∃ msg,
      publishCustomPointcloud lidar pkg = some msg ∧ msg.timebase = pkg.baseTime ∧
        msg.points = pkg.points.map (customPoint lidar pkg.baseTime) := by
  have hempty : pkg.points.isEmpty = false := List.isEmpty_eq_false_iff.mpr hne
  refine ⟨_, if_neg (by simp [hempty]), ?_, ?_⟩
  · simp [fillPointsToCustomMsg, initCustomMsg, hempty]
  · simp [fillPointsToCustomMsg, initCustomMsg, ← hcount]

/-- What the message of stored points tells of their times. -/
theorem stamped_iff_exact {lidar : MsgConfig} {pkts : List RawPacket} {pkg : StoragePacket}
    (h : StoredOf pkts pkg) : Stamped lidar pkts pkg ↔ ∀ first ∈ (pkts.flatMap ownTimes).head?,
      ∀ t ∈ (pkts.flatMap ownTimes).take ((pkts.flatMap ownTimes).length % 2 ^ 32),
        first.toUInt64.toNat + (t.toUInt64 - first.toUInt64).toUInt32.toNat = t := by
  obtain ⟨hcount, hpoints, hbase⟩ := h
  rw [flatMap_pointTimes] at hcount hpoints hbase
  rw [List.length_map] at hcount hpoints
  set times := pkts.flatMap ownTimes with htimes
  set counted := times.take (times.length % 2 ^ 32) with hcounted
  have hlength : pkg.points.length = times.length % 2 ^ 32 := by
    have := congrArg List.length hpoints
    rw [List.length_map, List.length_take, List.length_map] at this
    rw [this, Nat.min_eq_left (Nat.mod_le _ _)]
  have hget : ∀ i : ℕ, (pkg.points[i]?).map (·.offsetTime) = (counted[i]?).map Nat.toUInt64 := by
    intro i
    rw [← List.getElem?_map, hpoints, ← List.map_take, List.getElem?_map]
  have htake : ∀ (i t : ℕ), counted[i]? = some t → times[i]? = some t := by
    intro i t ht
    have hi : i < times.length % 2 ^ 32 := by
      have := (List.getElem?_eq_some_iff.mp ht).1
      rw [hcounted, List.length_take] at this
      omega
    rwa [hcounted, List.getElem?_take_of_lt hi] at ht
  by_cases hne : pkg.points = []
  · have hnone : counted = [] := by
      rw [hcounted, ← hlength, hne]
      rfl
    refine iff_of_true (fun msg hmsg => ?_) (by simp [hnone])
    simp [publishCustomPointcloud, hne] at hmsg
  · obtain ⟨msg, hmsg, htimebase, hmsgPoints⟩ :=
      publishCustomPointcloud_eq lidar hne (hlength.trans hcount.symm)
    unfold Stamped
    rw [hmsg]
    constructor
    · intro hstamped first hfirst t ht
      obtain ⟨i, hi⟩ := List.mem_iff_getElem?.mp ht
      have hpoint := hget i
      rw [hi] at hpoint
      obtain ⟨p, hp, hoffset⟩ := Option.map_eq_some_iff.mp hpoint
      have hbase' : pkg.baseTime = first.toUInt64 := hbase _ (by
        rw [List.head?_map, hfirst]
        rfl)
      have hsum := hstamped msg rfl i (customPoint lidar pkg.baseTime p) (by
        rw [hmsgPoints, List.getElem?_map, hp]
        rfl)
      rw [htake i t hi, htimebase, hbase', customPoint, hoffset] at hsum
      exact (Option.some.inj hsum).symm
    · rintro hexact _ ⟨⟩ i point hpoint
      rw [hmsgPoints, List.getElem?_map] at hpoint
      obtain ⟨p, hp, rfl⟩ := Option.map_eq_some_iff.mp hpoint
      have htime := hget i
      rw [hp] at htime
      obtain ⟨t, ht, hoffset⟩ := Option.map_eq_some_iff.mp htime.symm
      obtain ⟨first, hfirst⟩ : ∃ first, times.head? = some first := by
        rw [← Option.isSome_iff_exists, List.isSome_head?]
        rintro hnil
        have := htake i t ht
        rw [hnil] at this
        cases this
      have hbase' : pkg.baseTime = first.toUInt64 := hbase _ (by
        rw [List.head?_map, hfirst]
        rfl)
      have hsum := hexact first hfirst t (List.mem_of_getElem? ht)
      rw [hoffset] at hsum
      rw [htake i t ht, htimebase, hbase', customPoint]
      exact congrArg some hsum.symm

/-- **The message of stored points** tells their timestamps when those that are counted lie
within 2³² ns behind the first, and only then. -/
theorem stamped_iff {lidar : MsgConfig} {pkts : List RawPacket} {pkg : StoragePacket}
    (h : StoredOf pkts pkg) : Stamped lidar pkts pkg ↔ InSpan pkts := by
  rw [stamped_iff_exact h]
  unfold InSpan
  constructor
  · intro hexact first hfirst t ht
    have hmem : first ∈ (pkts.flatMap ownTimes).take ((pkts.flatMap ownTimes).length % 2 ^ 32) := by
      apply List.mem_of_head?
      rw [List.head?_take, if_neg ?_]
      · exact hfirst
      · intro hzero
        rw [hzero, List.take_zero] at ht
        cases ht
    have hfirst' := hexact first hfirst first hmem
    have ht' := hexact first hfirst t ht
    have := (first.toUInt64).toNat_lt
    have := (t.toUInt64 - first.toUInt64).toUInt32.toNat_lt
    rw [UInt64.sub_self] at hfirst'
    change first.toUInt64.toNat + 0 = first at hfirst'
    omega
  · intro hspan first hfirst t ht
    obtain ⟨hlt, hle, hclose⟩ := hspan first hfirst t ht
    exact offset_exact hlt hle hclose

/-- **The times of the messages.** In every run of the publisher, the messages of what is
stored tell the timestamps of their points exactly when, whenever a lidar is handed over,
the points it has gathered lie within 2³² ns behind the first of them. -/
theorem customMsg_times_iff (lidar : MsgConfig) {tr : List (PubHandler E × PubEvent E)}
    (h : Run (pubStep arith cfg) (fun _ _ => True) PubHandler.init tr s) :
    (∀ y ∈ (ledger arith cfg tr).storages, Stamped lidar y.1 y.2) ↔
      ∀ y ∈ (ledger arith cfg tr).storages, InSpan y.1 :=
  forall₂_congr fun y hy => stamped_iff ((run_booked h).stored y hy)

/-! ### Packets that come late -/

/-- With synchronised time, packets of the times are processed one after the other. -/
def syncEvents (times : List UInt64) : List (PubEvent Unit) :=
  .stamp true :: times.flatMap fun t => packetEvents t 0

/-- The settings of a lidar. -/
def someLidar : MsgConfig := ⟨"livox_frame", .livox, 1, fun _ => 0⟩

/-- Three packets in order are published in one message. -/
theorem customMsg_times_ordered : ∃ tr s,
    Run (pubStep zeroArith tenHertz) (fun _ _ => True) PubHandler.init tr s ∧
    (ledger zeroArith tenHertz tr).storages.map (fun y => y.1.map (·.timeStamp)) =
      [[10000000, 20000000, 200000000]] ∧
    ((∀ y ∈ (ledger zeroArith tenHertz tr).storages, Stamped someLidar y.1 y.2) ↔
      ∀ y ∈ (ledger zeroArith tenHertz tr).storages, InSpan y.1) := by
  have hexec : (exec (pubStep zeroArith tenHertz) PubHandler.init
      (syncEvents [10000000, 20000000, 200000000])).isSome = true := by
    decide +kernel
  obtain ⟨s, hs⟩ := Option.isSome_iff_exists.mp hexec
  have hrun := Run.nil.stepsOf hs
  exact ⟨_, s, hrun, by decide +kernel, customMsg_times_iff someLidar hrun⟩

/-- The points of a packet that comes late have offsets of more than four seconds. -/
theorem customMsg_reordered : ¬ ∀ (E : Type) (arith : PointArith E) (cfg : PubConfig)
    (lidar : MsgConfig) (tr : List (PubHandler E × PubEvent E)) (s : PubHandler E),
    Run (pubStep arith cfg) (fun _ _ => True) PubHandler.init tr s →
    ∀ y ∈ (ledger arith cfg tr).storages, Stamped lidar y.1 y.2 := by
  intro hall
  have hexec : (exec (pubStep zeroArith tenHertz) PubHandler.init
      (syncEvents [20000000, 10000000, 200000000])).isSome = true := by
    decide +kernel
  obtain ⟨s, hs⟩ := Option.isSome_iff_exists.mp hexec
  have hrun := Run.nil.stepsOf hs
  have hlate : (ledger zeroArith tenHertz ([] ++ stepsOf (pubStep zeroArith tenHertz)
      PubHandler.init (syncEvents [20000000, 10000000, 200000000]))).storages.any (fun y =>
        decide ((y.1.flatMap ownTimes).head? = some 20000000) &&
        decide (10000000 ∈ (y.1.flatMap ownTimes).take ((y.1.flatMap ownTimes).length % 2 ^ 32))) =
      true := by
    decide +kernel
  obtain ⟨y, hy, htimes⟩ := List.any_eq_true.mp hlate
  rw [Bool.and_eq_true, decide_eq_true_eq, decide_eq_true_eq] at htimes
  have hspan := (stamped_iff ((run_booked hrun).stored y hy)).mp
    (hall Unit zeroArith tenHertz someLidar _ s hrun y hy)
  have := hspan 20000000 htimes.1 10000000 htimes.2
  omega

end Livox
end SensorSupport
