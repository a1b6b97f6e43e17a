/-
# The slots of a frame (`livox_ros_driver2/src/comm/pub_handler.cpp`, `comm/comm.h`)

A frame has an array of base times and one of lidars, of `kMaxSourceLidar` entries
each. `CheckTimer` fills them from the front: one lidar with synchronised time, else
every lidar of the map that has points. Nothing bounds the map, and a lidar without
points has its base time written too, so that the array is left when as many lidars
with points come before another one in the map.

A call fits when that does not happen and the count of points of a lidar fits into
its 32 bits. Then and only then all writes are inside, and each lidar handed over
has all its points in one slot of the frame (`checkTimer_placed_iff`).

Key definitions: `Fits`, `Placed`, `StepFits`, `StepPlaced`.
Key theorems: `foldl_addLidar_overrun`, `foldl_addLidar_framePoints`, `checkTimer_placed_iff`,
`frames_placed_iff`, `frames_overrun`.
-/
import SensorSupport.Livox.PubHandler

namespace SensorSupport
namespace Livox

variable {E : Type} {arith : PointArith E} {cfg : PubConfig} {s s' : PubHandler E} {id : UInt32}
  {now : ℤ}

/-- The points of a lidar that wait in its handler. -/
def PubHandler.pending (s : PubHandler E) (id : UInt32) : List PointXyzlt :=
  (s.lidarProcessHandlers id).pointsClouds

/-- A lidar has points to publish. -/
def PubHandler.waits (s : PubHandler E) (id : UInt32) : Bool := !(s.pending id).isEmpty

/-- The lidars that a call hands over fit into a frame: fewer than its slots have
points before the last of them, and their points can be counted. -/
structure Fits (cfg : PubConfig) (id : UInt32) (now : ℤ) (s : PubHandler E) : Prop where
  slots : (handedOver cfg id now s).dropLast.countP s.waits < kMaxSourceLidar
  count : ∀ other ∈ handedOver cfg id now s, (s.pending other).length < 2 ^ 32

/-- A call writes inside the arrays of the frame, and the points of each lidar that
it hands over are those of one slot of the frame it publishes. -/
structure Placed (cfg : PubConfig) (id : UInt32) (now : ℤ) (s : PubHandler E) : Prop where
  inside : (checkTimer cfg id now s).overrun = false
  once : ∀ other ∈ handedOver cfg id now s, s.pending other ≠ [] → ∃ frame,
    (checkTimer cfg id now s).published = s.published ++ [frame] ∧
      frame.filter (fun slot => slot.1 = other) = [(other, s.pending other)]

/-! ### Lidars one after the other -/

/-- The next lidar leaves those behind it as they are. -/
theorem addLidar_pending {other : UInt32} (h : other ≠ id) :
    (addLidar s id).pending other = s.pending other := by
  unfold PubHandler.pending
  rw [addLidar_lidarProcessHandlers, Function.update_of_ne h]

/-- The points of a packet come behind those that wait. -/
theorem processPacket_pending {pkt : RawPacket} (arith : PointArith E)
    (hid : getLidarId pkt.lidarType pkt.handle = id)
    (hfresh : id ∉ s.handles → s.pending id = []) :
    (processPacket arith pkt s).pending id =
      s.pending id ++ packetPoints arith (findHandler s id).extrinsic pkt := by
  have hfind : (findHandler s id).pointsClouds = s.pending id := by
    rw [findHandler_pointsClouds]
    split
    · rfl
    · rename_i hnot
      exact (hfresh hnot).symm
  unfold PubHandler.pending processPacket
  dsimp only
  rw [hid, Function.update_self, LidarPubHandler.pointCloudProcess, hfind]
  rfl

/-- The packet of a lidar leaves the others as they are. -/
theorem processPacket_pending_of_ne {pkt : RawPacket} (arith : PointArith E)
    (h : id ≠ getLidarId pkt.lidarType pkt.handle) :
    (processPacket arith pkt s).pending id = s.pending id := by
  unfold PubHandler.pending processPacket
  dsimp only
  rw [Function.update_of_ne h]

theorem countP_addLidar {ids : List UInt32} (h : id ∉ ids) :
    ids.countP (addLidar s id).waits = ids.countP s.waits := by
  apply List.countP_congr
  intro other hother
  have hne : other ≠ id := fun heq => h (heq ▸ hother)
  unfold PubHandler.waits
  rw [addLidar_pending hne]

/-- **The last lidar decides** whether the arrays are left: it comes behind those
with points before it. -/
theorem foldl_addLidar_overrun : ∀ (ids : List UInt32) (s : PubHandler E), ids.Nodup →
    ((ids.foldl addLidar s).overrun = false ↔ s.overrun = false ∧
      (ids ≠ [] → s.frame.lidarNum + ids.dropLast.countP s.waits < kMaxSourceLidar))
  | [], s, _ => by simp
  | [id], s, _ => by simp
  | id :: next :: ids, s, hnodup => by
    obtain ⟨hid, hnodup⟩ := List.nodup_cons.mp hnodup
    have hdrop : id ∉ (next :: ids).dropLast := fun hmem => hid (List.mem_of_mem_dropLast hmem)
    have hwaits : (if (s.lidarProcessHandlers id).pointsClouds.isEmpty then 0 else 1) =
        if s.waits id = true then 1 else 0 := by
      unfold PubHandler.waits PubHandler.pending
      cases (s.lidarProcessHandlers id).pointsClouds.isEmpty <;> rfl
    rw [List.foldl_cons, foldl_addLidar_overrun (next :: ids) _ hnodup, addLidar_overrun,
      addLidar_lidarNum, countP_addLidar hdrop, hwaits,
      show (id :: next :: ids).dropLast = id :: (next :: ids).dropLast from rfl, List.countP_cons]
    simp only [Bool.or_eq_false_iff, Bool.not_eq_false', decide_eq_true_eq, ne_eq, reduceCtorEq,
      not_false_eq_true, true_implies, and_assoc]
    refine and_congr_right fun _ => ?_
    omega

theorem slotOf_addLidar {other : UInt32} (h : other ≠ id) :
    slotOf (addLidar s id) other = slotOf s other := by
  unfold slotOf
  rw [addLidar_lidarProcessHandlers, Function.update_of_ne h]

/-- A lidar that is inside the arrays leaves those behind it inside, and their buffers free. -/
theorem foldl_addLidar_next {ids : List UInt32} (hnodup : (id :: ids).Nodup)
    (hfree : ∀ p ∈ s.frame.lidarPoint.toList.take s.frame.lidarNum, p.points ∉ id :: ids)
    (hinside : ((id :: ids).foldl addLidar s).overrun = false) :
    s.frame.lidarNum < kMaxSourceLidar ∧
      (∀ p ∈ (addLidar s id).frame.lidarPoint.toList.take (addLidar s id).frame.lidarNum,
        p.points ∉ ids) ∧
      (ids.foldl addLidar (addLidar s id)).overrun = false := by
  have hn : s.frame.lidarNum < kMaxSourceLidar := by
    have := ((foldl_addLidar_overrun _ _ hnodup).mp hinside).2 (List.cons_ne_nil id ids)
    omega
  refine ⟨hn, ?_, hinside⟩
  intro p hp
  rw [addLidar_lidarPoint s id hn, List.mem_append] at hp
  rcases hp with hp | hp
  · exact fun hmem => hfree p hp (List.mem_cons_of_mem id hmem)
  · split at hp
    · simp at hp
    · rw [List.mem_singleton.mp hp]
      exact (List.nodup_cons.mp hnodup).1

/-- As long as the arrays are not left, the frame gets the slots of the lidars in order. -/
theorem foldl_addLidar_framePoints : ∀ (ids : List UInt32) (s : PubHandler E), ids.Nodup →
    (∀ p ∈ s.frame.lidarPoint.toList.take s.frame.lidarNum, p.points ∉ ids) →
    (ids.foldl addLidar s).overrun = false →
    framePoints (ids.foldl addLidar s).frame (ids.foldl addLidar s).points =
      framePoints s.frame s.points ++ ids.flatMap (slotOf s)
  | [], s, _, _, _ => by simp
  | id :: ids, s, hnodup, hfree, hinside => by
    obtain ⟨hn, hfree', hinside'⟩ := foldl_addLidar_next hnodup hfree hinside
    obtain ⟨hid, hnodup'⟩ := List.nodup_cons.mp hnodup
    have hslots : ids.flatMap (slotOf (addLidar s id)) = ids.flatMap (slotOf s) := by
      apply List.flatMap_congr
      intro other hother
      exact slotOf_addLidar fun heq => hid (heq ▸ hother)
    rw [List.foldl_cons, foldl_addLidar_framePoints ids _ hnodup' hfree' hinside',
      addLidar_appends hn fun p hp heq => hfree p hp (heq ▸ List.mem_cons_self), hslots,
      List.flatMap_cons, List.append_assoc]

theorem filter_slotOf (other : UInt32) :
    (slotOf s id).filter (fun slot => slot.1 = other) = if id = other then slotOf s id else [] := by
  unfold slotOf
  dsimp only
  split
  · simp
  · by_cases h : id = other <;> simp [h]

/-- Of the slots of different lidars one at most is that of a lidar. -/
theorem filter_slots : ∀ {ids : List UInt32}, ids.Nodup → id ∈ ids →
    (ids.flatMap (slotOf s)).filter (fun slot => slot.1 = id) = slotOf s id
  | other :: ids, hnodup, hid => by
    obtain ⟨hother, hnodup⟩ := List.nodup_cons.mp hnodup
    rw [List.flatMap_cons, List.filter_append, filter_slotOf]
    rcases List.mem_cons.mp hid with rfl | hid
    · have hnone : (ids.flatMap (slotOf s)).filter (fun slot => slot.1 = id) = [] := by
        rw [List.filter_flatMap, List.flatMap_eq_nil_iff]
        intro next hnext
        have hne : next ≠ id := fun heq => hother (heq ▸ hnext)
        rw [filter_slotOf, if_neg hne]
      rw [if_pos rfl, hnone, List.append_nil]
    · have hne : other ≠ id := fun heq => hother (heq ▸ hid)
      rw [if_neg hne, List.nil_append, filter_slots hnodup hid]

/-- A slot has all the points of its lidar when their count has no more than 32 bits. -/
theorem slotOf_eq_iff (h : s.pending id ≠ []) :
    slotOf s id = [(id, s.pending id)] ↔ (s.pending id).length < 2 ^ 32 := by
  have hne : (s.pending id).isEmpty = false := List.isEmpty_eq_false_iff.mpr h
  have hcount : (s.pending id).length.toUInt32.toNat = (s.pending id).length % 2 ^ 32 := rfl
  have hslot : slotOf s id =
      [(id, (s.pending id).take ((s.pending id).length % 2 ^ 32))] := by
    rw [← hcount]
    exact if_neg (by rw [Bool.not_eq_true]; exact hne)
  rw [hslot, List.cons_eq_cons, Prod.mk.injEq, List.take_eq_self_iff]
  have := Nat.mod_lt (s.pending id).length (Nat.two_pow_pos 32)
  constructor
  · rintro ⟨⟨-, hle⟩, -⟩
    omega
  · intro hlt
    exact ⟨⟨rfl, (Nat.mod_eq_of_lt hlt).ge⟩, rfl⟩

/-! ### A call of `CheckTimer` -/

/-- Between the steps the frame is empty, and no array was left. -/
structure Ready (s : PubHandler E) : Prop where
  lidarNum : s.frame.lidarNum = 0
  nodup : s.handles.Nodup
  inside : s.overrun = false

/-- What a call does to the frame, by the lidars that it hands over. -/
theorem checkTimer_overrun (cfg : PubConfig) (now : ℤ) (h : Ready s) (hid : id ∈ s.handles) :
    (checkTimer cfg id now s).overrun = false ↔
      (handedOver cfg id now s).dropLast.countP s.waits < kMaxSourceLidar := by
  obtain ⟨hnodup, -⟩ := handedOver_subset cfg now h.nodup hid
  have hzero : ([] : List UInt32).countP s.waits < kMaxSourceLidar :=
    show 0 < kMaxSourceLidar by decide
  obtain ⟨hover, t, b, heq⟩ | ⟨hover, heq, -⟩ | ⟨t, heq⟩ := checkTimer_cases cfg id now s
  · rw [heq, hover]
    exact iff_of_true h.inside hzero
  · rw [heq, hover, addLidar_overrun, h.inside, h.lidarNum]
    exact iff_of_true rfl hzero
  · have hfold := foldl_addLidar_overrun _ { s with lastPubTime := t } hnodup
    rw [heq]
    refine hfold.trans ⟨fun hin => ?_, fun hlt => ⟨h.inside, fun _ => ?_⟩⟩
    · by_cases hne : handedOver cfg id now s = []
      · rw [hne]
        exact hzero
      · have := hin.2 hne
        rwa [h.lidarNum, Nat.zero_add] at this
    · rw [h.lidarNum, Nat.zero_add]
      exact hlt

/-- Inside the arrays, a lidar that is handed over has one slot of the frame. -/
theorem checkTimer_slot {other : UInt32} (h : Ready s) (hid : id ∈ s.handles)
    (hinside : (checkTimer cfg id now s).overrun = false) (hother : other ∈ handedOver cfg id now s)
    (hne : s.pending other ≠ []) :
    ∃ frame, (checkTimer cfg id now s).published = s.published ++ [frame] ∧
      frame.filter (fun slot => slot.1 = other) = slotOf s other := by
  obtain ⟨hnodup, -⟩ := handedOver_subset cfg now h.nodup hid
  obtain ⟨hover, -⟩ | ⟨hover, -, hempty⟩ | ⟨t, heq⟩ := checkTimer_cases cfg id now s
  · rw [hover] at hother
    exact absurd hother List.not_mem_nil
  · rw [hover, List.mem_singleton] at hother
    exact absurd (hother ▸ hempty) hne
  · rw [heq] at hinside ⊢
    have hframe := foldl_addLidar_framePoints _ { s with lastPubTime := t } hnodup
      (by simp [h.lidarNum]) hinside
    have hnil : framePoints s.frame s.points = [] := by simp [framePoints, h.lidarNum]
    refine ⟨(handedOver cfg id now s).flatMap (slotOf s), ?_, filter_slots hnodup hother⟩
    change List.append _ [framePoints _ _] = _
    rw [foldl_addLidar_published, hframe]
    change s.published ++ [framePoints s.frame s.points ++ _] = _
    rw [hnil]
    rfl

/-- **A call places what it hands over** when it fits into a frame, and only then. -/
theorem checkTimer_placed_iff (h : Ready s) (hid : id ∈ s.handles) :
    Placed cfg id now s ↔ Fits cfg id now s := by
  have hoverrun := checkTimer_overrun cfg now h hid
  constructor
  · rintro ⟨hinside, honce⟩
    refine ⟨hoverrun.mp hinside, fun other hother => ?_⟩
    by_cases hne : s.pending other = []
    · rw [hne]
      exact Nat.two_pow_pos 32
    · obtain ⟨frame, hpublished, hslot⟩ := checkTimer_slot h hid hinside hother hne
      obtain ⟨frame', hpublished', hslot'⟩ := honce other hother hne
      have hsame : frame = frame' := by
        simpa using List.append_cancel_left (hpublished.symm.trans hpublished')
      rw [← slotOf_eq_iff hne, ← hslot, hsame, hslot']
  · rintro ⟨hslots, hcount⟩
    have hinside := hoverrun.mpr hslots
    refine ⟨hinside, fun other hother hne => ?_⟩
    obtain ⟨frame, hpublished, hslot⟩ := checkTimer_slot h hid hinside hother hne
    exact ⟨frame, hpublished, hslot.trans ((slotOf_eq_iff hne).mpr (hcount other hother))⟩

/-! ### Runs -/

/-- What is asked of a step: `CheckTimer` places what it hands over. -/
def StepPlaced (arith : PointArith E) (cfg : PubConfig) (s : PubHandler E) : PubEvent E → Prop
  | .process now => ∀ pkt ∈ s.rawData,
    Placed cfg (getLidarId pkt.lidarType pkt.handle) now (processPacket arith pkt s)
  | _ => True

/-- What `CheckTimer` hands over in a step fits into a frame. -/
def StepFits (arith : PointArith E) (cfg : PubConfig) (s : PubHandler E) : PubEvent E → Prop
  | .process now => ∀ pkt ∈ s.rawData,
    Fits cfg (getLidarId pkt.lidarType pkt.handle) now (processPacket arith pkt s)
  | _ => True

theorem processPacket_ready (pkt : RawPacket) (h : Ready s) : Ready (processPacket arith pkt s) :=
  ⟨h.lidarNum, processPacket_nodup arith pkt h.nodup, h.inside⟩

theorem stepPlaced_iff {e : PubEvent E} (h : Ready s) :
    StepPlaced arith cfg s e ↔ StepFits arith cfg s e := by
  cases e with
  | process now =>
    refine forall₂_congr fun pkt _ => ?_
    exact checkTimer_placed_iff (processPacket_ready pkt h)
      ((processPacket_handles arith pkt s _).mpr (.inl rfl))
  | stamp | arrive | addLidarsExtParam | clearAllLidarsExtrinsicParams | pop => rfl

theorem checkTimer_handles (cfg : PubConfig) (id : UInt32) (now : ℤ) (s : PubHandler E) :
    (checkTimer cfg id now s).handles = s.handles := by
  obtain ⟨-, t, b, heq⟩ | ⟨-, heq, -⟩ | ⟨t, heq⟩ := checkTimer_cases cfg id now s
  · rw [heq]
  · rw [heq, addLidar_handles]
  · rw [heq]
    exact foldl_addLidar_handles _ _

/-- A call that stays inside leaves an empty frame. -/
theorem checkTimer_ready (h : Ready s) (hinside : (checkTimer cfg id now s).overrun = false) :
    Ready (checkTimer cfg id now s) := by
  refine ⟨?_, checkTimer_handles cfg id now s ▸ h.nodup, hinside⟩
  obtain ⟨-, t, b, heq⟩ | ⟨-, heq, hempty⟩ | ⟨t, heq⟩ := checkTimer_cases cfg id now s
  · rw [heq]
    exact h.lidarNum
  · rw [heq, addLidar_lidarNum, hempty, h.lidarNum]
    rfl
  · rw [heq]
    rfl

theorem pubStep_ready {e : PubEvent E} (h : Ready s) (hplaced : StepPlaced arith cfg s e)
    (he : pubStep arith cfg s e = some s') : Ready s' := by
  cases e with
  | stamp sync =>
    cases he
    exact ⟨h.lidarNum, h.nodup, h.inside⟩
  | arrive pkt =>
    simp only [pubStep] at he
    split at he
    · cases he
      exact ⟨h.lidarNum, h.nodup, h.inside⟩
    · cases he
  | addLidarsExtParam lidarType handle param =>
    cases he
    exact ⟨h.lidarNum, h.nodup, h.inside⟩
  | clearAllLidarsExtrinsicParams =>
    cases he
    exact ⟨h.lidarNum, h.nodup, h.inside⟩
  | pop =>
    simp only [pubStep] at he
    split at he
    · cases he
      exact ⟨h.lidarNum, h.nodup, h.inside⟩
    · cases he
  | process now =>
    obtain ⟨pkt, hraw, rfl⟩ := Option.map_eq_some_iff.mp he
    exact checkTimer_ready (processPacket_ready pkt h) (hplaced pkt hraw).inside

/-- As long as everything is placed, the steps that place are those that fit. -/
theorem run_placed {tr : List (PubHandler E × PubEvent E)}
    (h : Run (pubStep arith cfg) (fun _ _ => True) PubHandler.init tr s) :
    ((∀ x ∈ tr, StepPlaced arith cfg x.1 x.2) → Ready s) ∧
      ((∀ x ∈ tr, StepPlaced arith cfg x.1 x.2) ↔ ∀ x ∈ tr, StepFits arith cfg x.1 x.2) := by
  apply h.invariant
  · exact ⟨fun _ => ⟨rfl, List.nodup_nil, rfl⟩, by simp⟩
  · rintro tr s e s' ⟨hready, hiff⟩ - he
    simp only [List.forall_mem_append, List.forall_mem_singleton, ← hiff]
    exact ⟨fun hall => pubStep_ready (hready hall.1) hall.2 he,
      and_congr_right fun hall => stepPlaced_iff (hready hall)⟩

/-- **Frames have room.** In every run of the publisher, for any number of lidars,
all writes are inside the arrays of the frame and the points of each lidar handed
over are those of one slot, exactly when every step fits. -/
theorem frames_placed_iff {tr : List (PubHandler E × PubEvent E)}
    (h : Run (pubStep arith cfg) (fun _ _ => True) PubHandler.init tr s) :
    (∀ x ∈ tr, StepPlaced arith cfg x.1 x.2) ↔ ∀ x ∈ tr, StepFits arith cfg x.1 x.2 :=
  (run_placed h).2

/-! ### Many lidars -/

/-- A packet of a lidar with one point. -/
def onePoint (handle : UInt32) : RawPacket :=
  { zeroPacket 0 with
    handle := handle
    pointNum := 1
    rawData := List.replicate 14 0 }

/-- A packet of a lidar that is processed at the time `now`. -/
def onePointEvents (handle : UInt32) (now : ℤ) : List (PubEvent Unit) :=
  [.arrive (onePoint handle), .pop, .process now]

/-- Two lidars are published in one frame, with one slot each. -/
theorem frames_placed_two : ∃ tr s,
    Run (pubStep zeroArith tenHertz) (fun _ _ => True) PubHandler.init tr s ∧
    s.published.map (fun frame => frame.map fun slot => (slot.1, slot.2.length)) =
      [[(1, 1), (2, 1)]] ∧
    ((∀ x ∈ tr, StepPlaced zeroArith tenHertz x.1 x.2) ↔
      ∀ x ∈ tr, StepFits zeroArith tenHertz x.1 x.2) := by
  have hexec : (exec (pubStep zeroArith tenHertz) PubHandler.init
      (onePointEvents 1 0 ++ onePointEvents 2 100000000)).map (fun s =>
        s.published.map fun frame => frame.map fun slot => (slot.1, slot.2.length)) =
      some [[(1, 1), (2, 1)]] := by
    decide +kernel
  obtain ⟨s, hs, hpublished⟩ := Option.map_eq_some_iff.mp hexec
  obtain ⟨tr, -, hrun⟩ := Run.of_exec hs
  exact ⟨tr, s, hrun, hpublished, frames_placed_iff hrun⟩

/-- The points of a 33rd lidar go behind the arrays. -/
theorem frames_overrun : ¬ ∀ (E : Type) (arith : PointArith E) (cfg : PubConfig)
    (tr : List (PubHandler E × PubEvent E)) (s : PubHandler E),
    Run (pubStep arith cfg) (fun _ _ => True) PubHandler.init tr s →
    ∀ x ∈ tr, StepPlaced arith cfg x.1 x.2 := by
  intro hall
  have hexec : (exec (pubStep zeroArith tenHertz) PubHandler.init
      ((List.range 32).flatMap (fun i => onePointEvents i.toUInt32 0) ++
        onePointEvents 32 100000000)).map (·.overrun) = some true := by
    decide +kernel
  obtain ⟨s, hs, hoverrun⟩ := Option.map_eq_some_iff.mp hexec
  obtain ⟨tr, -, hrun⟩ := Run.of_exec hs
  have hready := (run_placed hrun).1 (hall Unit zeroArith tenHertz tr s hrun)
  rw [hready.inside] at hoverrun
  cases hoverrun

end Livox
end SensorSupport
