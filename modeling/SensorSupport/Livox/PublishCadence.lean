/-
# The pace of the frames (`livox_ros_driver2/src/comm/pub_handler.cpp`, `livox_ros_driver2.cpp`)

With synchronised time a frame is published at a packet whose latest point lies in a
millisecond that `publish_interval_ms_` divides, when the points that wait span
`publish_interval_tolerance_` at least. The period is cut to whole milliseconds, the
tolerance is not: it is a millisecond less than the interval of the frequency.

For a lidar whose packets end half a millisecond apart at most, the publisher is that of
windows of a millisecond (`run_tracks`). The windows are published one after the other for
all such packets exactly when the interval is a whole number of milliseconds, or a
nanosecond more: otherwise a frame that comes late makes the one behind it too young.

Key definitions: `driverConfig`, `SteadyPackets`, `publications`, `windows`.
Key theorems: `syncDue_eq`, `run_tracks`, `cadence_iff`, `cadence_thirty_hertz`.
-/
import SensorSupport.Lib.Cadence
import SensorSupport.Lib.FloatRounding
import SensorSupport.Livox.FrameSlots

namespace SensorSupport
namespace Livox

open FloatRounding

/-! ### The interval of a frequency -/

/-- `kNsPerSecond`. -/
def kNsPerSecond : ℕ := 1000000000

/-- `DriverNode` keeps the publish frequency within its bounds. -/
def clampPublishFreq (freq : ℚ) : ℚ :=
  if 100 < freq then 100 else if freq < 1 / 2 then 1 / 2 else freq

/-- `publish_interval_` as `SetPointCloudConfig` computes it. -/
def publishIntervalOf (freq : ℚ) : ℤ :=
  truncate (double (double (kNsPerSecond / double (freq * 10)) * 10))

section Interval

variable {freq x : ℚ} {a b c d : ℕ}

/-- Rounding does not leave whole bounds. -/
theorem double_between (ha : a < 2 ^ 53) (hb : b < 2 ^ 53) (h : a ≤ x) (h' : x ≤ b) :
    a ≤ double x ∧ double x ≤ b := by
  have hnonneg : (0 : ℚ) ≤ a := Nat.cast_nonneg a
  constructor
  · rw [← double_natCast ha]
    exact double_mono hnonneg h
  · rw [← double_natCast hb]
    exact double_mono (hnonneg.trans h) h'

theorem clampPublishFreq_bounds (freq : ℚ) :
    1 / 2 ≤ clampPublishFreq freq ∧ clampPublishFreq freq ≤ 100 := by
  unfold clampPublishFreq
  split_ifs with h h'
  · norm_num
  · norm_num
  · exact ⟨not_lt.mp h', not_lt.mp h⟩

/-- The interval lies between those of a smaller and of a greater frequency. -/
theorem publishIntervalOf_between (ha : 0 < a) (hb : b < 2 ^ 53) (hd : d * 10 < 2 ^ 53)
    (hfreq : a ≤ freq * 10) (hfreq' : freq * 10 ≤ b) (hc : c * b ≤ kNsPerSecond)
    (hd' : kNsPerSecond ≤ d * a) :
    ((c * 10 : ℕ) : ℤ) ≤ publishIntervalOf freq ∧ publishIntervalOf freq ≤ (d * 10 : ℕ) := by
  have hab : a ≤ b := by exact_mod_cast hfreq.trans hfreq'
  have hcd : c ≤ d := Nat.le_of_mul_le_mul_right
    (hc.trans (hd'.trans (Nat.mul_le_mul_left d hab))) (ha.trans_le hab)
  have hpos : (0 : ℚ) < a := by exact_mod_cast ha
  obtain ⟨hlow, hhigh⟩ := double_between (hab.trans_lt hb) hb hfreq hfreq'
  have hdiv : (c : ℚ) ≤ kNsPerSecond / double (freq * 10) ∧
      kNsPerSecond / double (freq * 10) ≤ (d : ℚ) := by
    have hfast : (c : ℚ) * b ≤ kNsPerSecond := by exact_mod_cast hc
    have hslow : (kNsPerSecond : ℚ) ≤ d * a := by exact_mod_cast hd'
    constructor
    · rw [le_div_iff₀ (hpos.trans_le hlow)]
      exact (mul_le_mul_of_nonneg_left hhigh (Nat.cast_nonneg c)).trans hfast
    · rw [div_le_iff₀ (hpos.trans_le hlow)]
      exact hslow.trans (mul_le_mul_of_nonneg_left hlow (Nat.cast_nonneg d))
  obtain ⟨hlow', hhigh'⟩ := double_between (by omega) (by omega) hdiv.1 hdiv.2
  have hten : ((c * 10 : ℕ) : ℚ) ≤ double (kNsPerSecond / double (freq * 10)) * 10 ∧
      double (kNsPerSecond / double (freq * 10)) * 10 ≤ ((d * 10 : ℕ) : ℚ) := by
    push_cast
    constructor <;> linarith
  obtain ⟨hlow'', hhigh''⟩ := double_between (by omega) hd hten.1 hten.2
  have hnonneg : (0 : ℚ) ≤ ((c * 10 : ℕ) : ℚ) := Nat.cast_nonneg _
  unfold publishIntervalOf truncate
  rw [if_neg (not_lt.mpr (hnonneg.trans hlow''))]
  exact ⟨Int.le_floor.mpr (by exact_mod_cast hlow''),
    Int.floor_le_iff.mpr (hhigh''.trans_lt (by push_cast; linarith))⟩

/-- Between 10 ms and 2 s. -/
theorem publishIntervalOf_bounds (h : 1 / 2 ≤ freq) (h' : freq ≤ 100) :
    10000000 ≤ publishIntervalOf freq ∧ publishIntervalOf freq ≤ 2000000000 := by
  have hfreq : ((5 : ℕ) : ℚ) ≤ freq * 10 := by
    push_cast
    linarith
  have hfreq' : freq * 10 ≤ ((1000 : ℕ) : ℚ) := by
    push_cast
    linarith
  have := publishIntervalOf_between (c := 1000000) (d := 200000000) (by decide) (by decide)
    (by decide) hfreq hfreq' (by decide) (by decide)
  exact_mod_cast this

end Interval

/-- What `SetPointCloudConfig` sets for the publish frequency of the driver. -/
def driverConfig (freq : ℚ) : PubConfig where
  publishInterval := (publishIntervalOf (clampPublishFreq freq)).toNat.toUInt64
  interval_ge := by
    obtain ⟨hlow, hhigh⟩ := clampPublishFreq_bounds freq
    have := publishIntervalOf_bounds hlow hhigh
    rw [UInt64.le_iff_toNat_le, UInt64.toNat_ofNat', Nat.mod_eq_of_lt (by omega)]
    change 1000000 ≤ _
    omega

theorem driverConfig_toNat (freq : ℚ) : ((driverConfig freq).publishInterval.toNat : ℤ) =
    publishIntervalOf (clampPublishFreq freq) := by
  obtain ⟨hlow, hhigh⟩ := clampPublishFreq_bounds freq
  have := publishIntervalOf_bounds hlow hhigh
  change (((publishIntervalOf (clampPublishFreq freq)).toNat.toUInt64.toNat : ℕ) : ℤ) = _
  rw [UInt64.toNat_ofNat', Nat.mod_eq_of_lt (by omega)]
  omega

/-! ### Points in windows -/

/-- The windows of a millisecond at which is published. -/
def windows (cfg : PubConfig) : Windows where
  period := cfg.publishIntervalMs.toNat * 1000000
  width := 1000000
  age := cfg.publishIntervalTolerance.toNat

section Due

variable {E : Type} {cfg : PubConfig} {s : PubHandler E} {id : UInt32}

theorem windows_width (cfg : PubConfig) : (windows cfg).width = 1000000 := rfl

theorem windows_period (cfg : PubConfig) :
    (windows cfg).period + cfg.publishInterval.toNat % 1000000 = cfg.publishInterval.toNat :=
  Nat.div_add_mod' _ _

theorem windows_age (cfg : PubConfig) :
    (windows cfg).age + 1000000 = cfg.publishInterval.toNat := by
  have hge : 1000000 ≤ cfg.publishInterval.toNat := UInt64.le_iff_toNat_le.mp cfg.interval_ge
  change (cfg.publishInterval - kNsTolerantFrameTimeDeviation).toNat + 1000000 = _
  have hsub := UInt64.toNat_sub_of_le cfg.publishInterval kNsTolerantFrameTimeDeviation
    cfg.interval_ge
  rw [hsub]
  exact Nat.sub_add_cancel hge

/-- The test of `CheckTimer` is that of the windows, on the first and the last point. -/
theorem syncDue_eq {handler : LidarPubHandler E} {first last : UInt64}
    (hbase : handler.getLidarBaseTime = first) (hrecent : handler.getRecentTimeStamp = last)
    (hle : first ≤ last) :
    syncDue cfg handler = (windows cfg).due first.toNat last.toNat := by
  have hms : (last / kRatioOfMsToNs).toNat = last.toNat / 1000000 := UInt64.toNat_div _ _
  have hmod : last.toNat % (windows cfg).period =
      last.toNat % 1000000 + 1000000 * (last.toNat / 1000000 % cfg.publishIntervalMs.toNat) := by
    change last.toNat % (cfg.publishIntervalMs.toNat * 1000000) = _
    rw [Nat.mul_comm, Nat.mod_mul]
  have hwindow : last / kRatioOfMsToNs % cfg.publishIntervalMs = 0 ↔
      last.toNat % (windows cfg).period < (windows cfg).width := by
    rw [hmod, windows_width, ← UInt64.toNat_inj, UInt64.toNat_mod, hms, UInt64.toNat_zero]
    omega
  have hzero : last / kRatioOfMsToNs = 0 ↔ ¬ (windows cfg).width ≤ last.toNat := by
    rw [windows_width, ← UInt64.toNat_inj, hms, UInt64.toNat_zero]
    omega
  have hage : last - first < cfg.publishIntervalTolerance ↔
      ¬ (windows cfg).age ≤ last.toNat - first.toNat := by
    rw [UInt64.lt_iff_toNat_lt, UInt64.toNat_sub_of_le _ _ hle, not_le]
    rfl
  rw [Bool.eq_iff_iff]
  simp only [syncDue, Windows.due, hrecent, hbase, Bool.and_eq_true, decide_eq_true_eq, hage,
    decide_not, Bool.not_not, ← hwindow]
  by_cases hin : last / kRatioOfMsToNs % cfg.publishIntervalMs = 0
  · by_cases hlate : (windows cfg).width ≤ last.toNat
    · have hne : last / kRatioOfMsToNs ≠ 0 := fun heq => hzero.mp heq hlate
      simp [hin, hlate, hne]
    · simp [hzero.mpr hlate, hlate]
  · simp [hin]

end Due

/-! ### Packets that follow each other closely -/

/-- The points have increasing times, and the last points of consecutive packets are half
a millisecond apart at most. -/
structure SteadyPackets (pkts : List RawPacket) : Prop where
  points : ∀ pkt ∈ pkts, pointTimes pkt ≠ []
  increasing : (pkts.flatMap pointTimes).Pairwise (· < ·)
  close : pkts.IsChain fun pkt pkt' => ∀ t ∈ (pointTimes pkt).getLast?,
    ∀ t' ∈ (pointTimes pkt').getLast?, t'.toNat ≤ t.toNat + 500000

/-- The times of a packet as a batch. -/
def batchOf (pkt : RawPacket) : Batch where
  first := min ((pointTimes pkt).headD 0).toNat ((pointTimes pkt).getLastD 0).toNat
  last := ((pointTimes pkt).getLastD 0).toNat
  first_le := Nat.min_le_right _ _

section Steady

variable {pkt pkt' : RawPacket} {pkts : List RawPacket} {first last : UInt64}

/-- In a list of increasing times the first is the least. -/
theorem head_le_getLast {times : List UInt64} (h : times.Pairwise (· < ·))
    (hfirst : times.head? = some first) (hlast : times.getLast? = some last) : first ≤ last := by
  cases times with
  | nil => cases hfirst
  | cons t times =>
    obtain rfl : t = first := by simpa using hfirst
    rcases List.mem_cons.mp (List.mem_of_getLast? hlast) with rfl | hmem
    · exact UInt64.le_refl last
    · exact UInt64.le_of_lt (List.rel_of_pairwise_cons h hmem)

theorem batchOf_eq (h : (pointTimes pkt).Pairwise (· < ·))
    (hfirst : (pointTimes pkt).head? = some first)
    (hlast : (pointTimes pkt).getLast? = some last) :
    (batchOf pkt).first = first.toNat ∧ (batchOf pkt).last = last.toNat := by
  have hle := UInt64.le_iff_toNat_le.mp (head_le_getLast h hfirst hlast)
  simp only [batchOf, List.headD_eq_head?_getD, hfirst, List.getLastD_eq_getLast?, hlast,
    Option.getD_some, Nat.min_eq_left hle, and_self]

/-- Every packet has a first and a last point. -/
theorem exists_first_last (h : pointTimes pkt ≠ []) : ∃ first last,
    (pointTimes pkt).head? = some first ∧ (pointTimes pkt).getLast? = some last :=
  ⟨_, _, List.head?_eq_some_head h, List.getLast?_eq_some_getLast h⟩

theorem SteadyPackets.init {more : List RawPacket} (h : SteadyPackets (pkts ++ more)) :
    SteadyPackets pkts := by
  refine ⟨fun pkt hpkt => h.points pkt (List.mem_append_left _ hpkt), ?_,
    (List.isChain_append.mp h.close).1⟩
  have := h.increasing
  rw [List.flatMap_append] at this
  exact (List.pairwise_append.mp this).1

theorem SteadyPackets.times (h : SteadyPackets pkts) (hpkt : pkt ∈ pkts) :
    (pointTimes pkt).Pairwise (· < ·) :=
  (List.pairwise_flatMap.mp h.increasing).1 pkt hpkt

/-- The batches of the packets follow each other closely. -/
theorem SteadyPackets.batches (h : SteadyPackets pkts) : Steady 500000 (pkts.map batchOf) := by
  unfold Steady
  rw [List.isChain_map, List.isChain_iff_forall_rel_of_append_cons_cons]
  rintro pkt pkt' before after rfl
  have hclose := List.isChain_iff_forall_rel_of_append_cons_cons.mp h.close rfl
  have hin : pkt ∈ before ++ pkt :: pkt' :: after := by simp
  have hin' : pkt' ∈ before ++ pkt :: pkt' :: after := by simp
  obtain ⟨first, last, hfirst, hlast⟩ := exists_first_last (h.points pkt hin)
  obtain ⟨first', last', hfirst', hlast'⟩ := exists_first_last (h.points pkt' hin')
  have hbehind : last < first' := by
    have hall := (List.pairwise_flatMap.mp h.increasing).2
    have hpair := (List.pairwise_cons.mp (List.pairwise_append.mp hall).2.1).1 pkt'
      List.mem_cons_self
    exact hpair last (List.mem_of_getLast? hlast) first' (List.mem_of_head? hfirst')
  rw [(batchOf_eq (h.times hin) hfirst hlast).2, (batchOf_eq (h.times hin') hfirst' hlast').1,
    (batchOf_eq (h.times hin') hfirst' hlast').2]
  exact ⟨UInt64.lt_iff_toNat_lt.mp hbehind, hclose last hlast last' hlast'⟩

end Steady

/-! ### The publisher in windows -/

/-- Time is synchronised, and the packets are of one lidar. -/
def InSync {E : Type} (id : UInt32) (s : PubHandler E) : PubEvent E → Prop
  | .stamp sync => sync = true
  | .arrive pkt => pkt.handle = id
  | .process _ => s.isTimestampSync = true
  | _ => True

/-- The latest time of the lidar when a step publishes a frame. -/
def publication {E : Type} (arith : PointArith E) (cfg : PubConfig) :
    PubHandler E × PubEvent E → Option UInt64
  | (s, .process now) => s.rawData.bind fun pkt =>
    let id := getLidarId pkt.lidarType pkt.handle
    let s := processPacket arith pkt s
    if (checkTimer cfg id now s).published.length = s.published.length then none
    else some (s.lidarProcessHandlers id).getRecentTimeStamp
  | _ => none

/-- The times at which the steps of a run publish a frame. -/
def publications {E : Type} (arith : PointArith E) (cfg : PubConfig)
    (tr : List (PubHandler E × PubEvent E)) : List UInt64 :=
  tr.filterMap (publication arith cfg)

/-- The packets processed, as batches. -/
def PubHandler.batches {E : Type} (s : PubHandler E) : List Batch :=
  s.processed.map fun x => batchOf x.1

/-- The latest time of a point processed. -/
def PubHandler.latest {E : Type} (s : PubHandler E) : ℕ :=
  ((s.processed.flatMap fun x => pointTimes x.1).getLastD 0).toNat

/-- The publisher does what its windows do with the packets processed. -/
structure Tracks {E : Type} (cfg : PubConfig) (id : UInt32) (times : List UInt64)
    (s : PubHandler E) : Prop where
  base : (s.pending id).head?.map (·.offsetTime.toNat) = ((windows cfg).run s.batches).base
  times : times.map UInt64.toNat = ((windows cfg).run s.batches).times
  fresh : id ∉ s.handles → s.pending id = []

section Tracks

variable {E : Type} {arith : PointArith E} {cfg : PubConfig} {s s' : PubHandler E}
  {id : UInt32} {now : ℤ} {pkt : RawPacket} {times : List UInt64}

/-- With synchronised time, a lidar with points is published alone when it is due. -/
theorem checkTimer_sync (hsync : s.isTimestampSync = true) (hne : s.pending id ≠ []) :
    checkTimer cfg id now s =
      if syncDue cfg (s.lidarProcessHandlers id) then publishPointCloud (addLidar s id)
      else s := by
  have hpoints : ((addLidar s id).points id).isEmpty = false := by
    rw [addLidar_points, Function.update_self]
    exact List.isEmpty_eq_false_iff.mpr hne
  unfold checkTimer
  rw [if_pos hsync]
  simp only [hpoints, Bool.false_eq_true, if_false]

theorem getLidarBaseTime_eq {handler : LidarPubHandler E} {point : PointXyzlt}
    {points : List PointXyzlt} (h : handler.pointsClouds = point :: points) :
    handler.getLidarBaseTime = point.offsetTime := by
  unfold LidarPubHandler.getLidarBaseTime
  rw [h]
  rfl

theorem getRecentTimeStamp_eq {handler : LidarPubHandler E} {point : PointXyzlt}
    (h : handler.pointsClouds.getLast? = some point) :
    handler.getRecentTimeStamp = point.offsetTime := by
  unfold LidarPubHandler.getRecentTimeStamp
  rw [h]

/-- Behind a packet the handler waits since the base of the windows, until its last point. -/
theorem processPacket_base (arith : PointArith E) (h : Tracks cfg id times s)
    (hid : getLidarId pkt.lidarType pkt.handle = id)
    (hsteady : SteadyPackets (s.processed.map (·.1) ++ [pkt])) :
    ∃ point points, (processPacket arith pkt s).pending id = point :: points ∧
      point.offsetTime.toNat =
        ((windows cfg).run s.batches).base.getD (batchOf pkt).first ∧
      ((processPacket arith pkt s).lidarProcessHandlers id).getRecentTimeStamp.toNat =
        (batchOf pkt).last := by
  have hpkt : pkt ∈ s.processed.map (·.1) ++ [pkt] := by simp
  obtain ⟨first, last, hfirst, hlast⟩ := exists_first_last (hsteady.points pkt hpkt)
  obtain ⟨hbatch, hbatch'⟩ := batchOf_eq (hsteady.times hpkt) hfirst hlast
  have hpending := processPacket_pending arith hid h.fresh
  have htimes := packetPoints_times arith (findHandler s id).extrinsic pkt
  set pts := packetPoints arith (findHandler s id).extrinsic pkt with hpts
  have hne : pts ≠ [] := by
    rintro hnil
    rw [hnil] at htimes
    exact hsteady.points pkt hpkt htimes.symm
  obtain ⟨point, points, hcons⟩ : ∃ point points, s.pending id ++ pts = point :: points :=
    List.exists_cons_of_ne_nil (by simp [hne])
  refine ⟨point, points, hpending.trans hcons, ?_, ?_⟩
  · rw [← h.base, hbatch]
    cases hp : s.pending id with
    | nil =>
      rw [hp, List.nil_append] at hcons
      rw [hcons] at htimes
      rw [← htimes] at hfirst
      obtain rfl : point.offsetTime = first := by simpa using hfirst
      rfl
    | cons p ps =>
      rw [hp, List.cons_append, List.cons.injEq] at hcons
      rw [hcons.1]
      rfl
  · have hrecent : (pts.getLast?).map (·.offsetTime) = some last := by
      rw [← List.getLast?_map, htimes, hlast]
    obtain ⟨z, hz, rfl⟩ := Option.map_eq_some_iff.mp hrecent
    have hlast' : ((processPacket arith pkt s).pending id).getLast? = some z := by
      rw [hpending, List.getLast?_append_of_ne_nil _ hne, hz]
    rw [hbatch', getRecentTimeStamp_eq hlast']

/-- The test behind a packet is that of the windows. -/
theorem syncDue_process (arith : PointArith E) (h : Tracks cfg id times s)
    (hid : getLidarId pkt.lidarType pkt.handle = id)
    (hsteady : SteadyPackets (s.processed.map (·.1) ++ [pkt])) :
    syncDue cfg ((processPacket arith pkt s).lidarProcessHandlers id) =
      (windows cfg).due (((windows cfg).run s.batches).base.getD (batchOf pkt).first)
        (batchOf pkt).last := by
  obtain ⟨point, points, hpending, hbase, hrecent⟩ := processPacket_base arith h hid
    hsteady
  have hsteady' : Steady 500000 (s.batches ++ [batchOf pkt]) := by
    have := hsteady.batches
    rwa [List.map_append, List.map_map] at this
  have hle := run_base_le (w := windows cfg) hsteady'
  rw [← hbase, ← hrecent] at hle ⊢
  refine syncDue_eq ?_ rfl (UInt64.le_iff_toNat_le.mpr hle)
  exact getLidarBaseTime_eq hpending

theorem processPacket_batches (arith : PointArith E) (pkt : RawPacket) (s : PubHandler E) :
    (processPacket arith pkt s).batches = s.batches ++ [batchOf pkt] := by
  simp [PubHandler.batches, processPacket]

/-- **A packet** is published when the windows publish its batch. -/
theorem process_tracks (h : Tracks cfg id times s) (hraw : s.rawData = some pkt)
    (hid : getLidarId pkt.lidarType pkt.handle = id) (hsync : s.isTimestampSync = true)
    (hsteady : SteadyPackets (s.processed.map (·.1) ++ [pkt])) :
    Tracks cfg id (times ++ (publication arith cfg (s, .process now)).toList)
      (checkTimer cfg id now (processPacket arith pkt s)) := by
  obtain ⟨point, points, hpending, hbase, hrecent⟩ := processPacket_base arith h hid
    hsteady
  have hdue := syncDue_process arith h hid hsteady
  have hmem : id ∈ (processPacket arith pkt s).handles :=
    (processPacket_handles arith pkt s id).mpr (.inl hid.symm)
  have hne : (processPacket arith pkt s).pending id ≠ [] := by simp [hpending]
  have hpublication : publication arith cfg (s, .process now) =
      if (checkTimer cfg id now (processPacket arith pkt s)).published.length =
        (processPacket arith pkt s).published.length then none
      else some ((processPacket arith pkt s).lidarProcessHandlers id).getRecentTimeStamp := by
    simp [publication, hraw, hid]
  have hrun : (windows cfg).run (processPacket arith pkt s).batches =
      (windows cfg).step ((windows cfg).run s.batches) (batchOf pkt) := by
    rw [processPacket_batches, Windows.run_concat]
  have hsync' : (processPacket arith pkt s).isTimestampSync = true := hsync
  rw [hpublication, checkTimer_sync hsync' hne, hdue]
  cases hd : (windows cfg).due (((windows cfg).run s.batches).base.getD (batchOf pkt).first)
      (batchOf pkt).last with
  | true =>
    have hlength : (publishPointCloud (addLidar (processPacket arith pkt s) id)).published.length ≠
        (processPacket arith pkt s).published.length := by
      simp [publishPointCloud]
    rw [if_pos rfl, if_neg hlength]
    have hbatches : (publishPointCloud (addLidar (processPacket arith pkt s) id)).batches =
        (processPacket arith pkt s).batches := by
      simp [PubHandler.batches, publishPointCloud]
    have hempty : (publishPointCloud (addLidar (processPacket arith pkt s) id)).pending id = [] := by
      change ((addLidar (processPacket arith pkt s) id).lidarProcessHandlers id).pointsClouds = []
      rw [addLidar_lidarProcessHandlers, Function.update_self]
    refine ⟨?_, ?_, fun _ => hempty⟩
    · rw [hempty, hbatches, hrun, Windows.step, hd]
      rfl
    · rw [hbatches, hrun, Windows.step, hd, List.map_append, h.times]
      simp [hrecent]
  | false =>
    rw [if_neg Bool.false_ne_true, if_pos rfl]
    refine ⟨?_, ?_, fun hnot => absurd hmem hnot⟩
    · rw [hpending, hrun, Windows.step, hd, List.head?_cons, Option.map_some, hbase]
      rfl
    · rw [hrun, Windows.step, hd, Option.toList_none, List.append_nil]
      exact h.times

/-- A step that processes nothing. -/
theorem Tracks.of_idle (h : Tracks cfg id times s)
    (hhandlers : s'.lidarProcessHandlers = s.lidarProcessHandlers)
    (hprocessed : s'.processed = s.processed) (hids : s'.handles = s.handles) :
    Tracks cfg id (times ++ (none : Option UInt64).toList) s' := by
  have hpending : s'.pending id = s.pending id := by rw [PubHandler.pending, hhandlers]; rfl
  have hbatches : s'.batches = s.batches := by rw [PubHandler.batches, hprocessed]; rfl
  rw [Option.toList_none, List.append_nil]
  refine ⟨?_, ?_, ?_⟩
  · rw [hpending, hbatches, h.base]
  · rw [hbatches, h.times]
  · rw [hpending, hids]
    exact h.fresh

/-- The packets that arrive in a run. -/
theorem arrivals_concat (tr : List (PubHandler E × PubEvent E)) (s : PubHandler E)
    (e : PubEvent E) : arrivals (tr ++ [(s, e)]) = arrivals tr ++ arrivals [(s, e)] :=
  List.flatMap_append

theorem publications_concat (arith : PointArith E) (cfg : PubConfig)
    (tr : List (PubHandler E × PubEvent E)) (x : PubHandler E × PubEvent E) :
    publications arith cfg (tr ++ [x]) =
      publications arith cfg tr ++ (publication arith cfg x).toList := by
  unfold publications
  rw [List.filterMap_append]
  cases hx : publication arith cfg x <;> simp [hx]

/-- The packets that arrive are those of the lidar. -/
theorem arrivals_ofLidar {tr : List (PubHandler E × PubEvent E)}
    (h : Run (pubStep arith cfg) (InSync id) PubHandler.init tr s) :
    ∀ pkt ∈ arrivals tr, getLidarId pkt.lidarType pkt.handle = id := by
  apply h.invariant
  · simp [arrivals]
  · intro tr s e s' hall hok he pkt hpkt
    rw [arrivals_concat, List.mem_append] at hpkt
    rcases hpkt with hpkt | hpkt
    · exact hall pkt hpkt
    · cases e with
      | arrive pkt' =>
        obtain rfl : pkt = pkt' := by simpa [arrivals] using hpkt
        simp only [pubStep] at he
        split at he
        · rename_i hlivox
          rw [getLidarId, if_pos hlivox]
          exact hok
        · cases he
      | stamp | addLidarsExtParam | clearAllLidarsExtrinsicParams | pop | process =>
        simp [arrivals] at hpkt

/-- **The publisher is that of its windows** in every run with synchronised time. -/
theorem run_tracks {tr : List (PubHandler E × PubEvent E)}
    (h : Run (pubStep arith cfg) (InSync id) PubHandler.init tr s)
    (hsteady : SteadyPackets (arrivals tr)) : Tracks cfg id (publications arith cfg tr) s := by
  induction h with
  | nil => exact ⟨rfl, rfl, fun _ => rfl⟩
  | @snoc tr s s' e hrun hok he ih =>
    rw [arrivals_concat] at hsteady
    have htracks := ih hsteady.init
    rw [publications_concat]
    cases e with
    | process now =>
      obtain ⟨pkt, hraw, rfl⟩ := Option.map_eq_some_iff.mp he
      have horder := packets_in_order hrun
      rw [hraw, Option.toList_some] at horder
      have hmem : pkt ∈ arrivals tr := by
        rw [horder]
        simp
      have hid := arrivals_ofLidar hrun pkt hmem
      rw [hid]
      refine process_tracks htracks hraw hid hok ?_
      have hprefix := hsteady.init
      rw [horder] at hprefix
      exact hprefix.init
    | stamp sync =>
      cases he
      exact htracks.of_idle rfl rfl rfl
    | arrive pkt =>
      simp only [pubStep] at he
      split at he
      · cases he
        exact htracks.of_idle rfl rfl rfl
      · cases he
    | addLidarsExtParam lidarType handle param =>
      cases he
      exact htracks.of_idle rfl rfl rfl
    | clearAllLidarsExtrinsicParams =>
      cases he
      exact htracks.of_idle rfl rfl rfl
    | pop =>
      simp only [pubStep] at he
      split at he
      · cases he
        exact htracks.of_idle rfl rfl rfl
      · cases he

end Tracks

/-! ### Every window -/

section Every

variable {E : Type} {arith : PointArith E} {cfg : PubConfig} {s : PubHandler E} {id : UInt32}
  {tr : List (PubHandler E × PubEvent E)}

/-- The latest time is the end of the last batch. -/
theorem getLast?_batches (hsteady : SteadyPackets (s.processed.map (·.1)))
    (hne : s.processed ≠ []) : s.batches.getLast?.map Batch.last = some s.latest := by
  obtain ⟨before, x, hx⟩ := List.eq_nil_or_concat' s.processed |>.resolve_left hne
  have hpoints : pointTimes x.1 ≠ [] := hsteady.points x.1 (by simp [hx])
  have hlatest : s.latest = ((pointTimes x.1).getLastD 0).toNat := by
    unfold PubHandler.latest
    rw [hx, List.flatMap_append, List.flatMap_singleton, List.getLastD_eq_getLast?,
      List.getLast?_append_of_ne_nil _ hpoints, ← List.getLastD_eq_getLast?]
  rw [hlatest, PubHandler.batches, hx, List.map_append, List.map_singleton,
    List.getLast?_append_of_ne_nil _ (List.cons_ne_nil _ _), List.getLast?_singleton]
  rfl

/-- The packets processed are some of those that arrived. -/
theorem processed_steady {Ok : PubHandler E → PubEvent E → Prop}
    (h : Run (pubStep arith cfg) Ok PubHandler.init tr s) (hsteady : SteadyPackets (arrivals tr)) :
    SteadyPackets (s.processed.map (·.1)) := by
  rw [packets_in_order h] at hsteady
  exact hsteady.init.init

/-- What is asked of a run: each window behind the first publication has one. -/
def OncePerMs (arith : PointArith E) (cfg : PubConfig) (tr : List (PubHandler E × PubEvent E))
    (s : PubHandler E) : Prop :=
  (windows cfg).OncePerWindow ((publications arith cfg tr).map UInt64.toNat) s.latest

theorem oncePerMs_of_whole (hlow : 2000000 ≤ cfg.publishInterval.toNat)
    (hwhole : cfg.publishInterval.toNat % 1000000 ≤ 1)
    (h : Run (pubStep arith cfg) (InSync id) PubHandler.init tr s)
    (hsteady : SteadyPackets (arrivals tr)) : OncePerMs arith cfg tr s := by
  have hperiod := windows_period cfg
  have hage := windows_age cfg
  have hwidth := windows_width cfg
  have hprocessed := processed_steady h hsteady
  unfold OncePerMs
  rw [(run_tracks h hsteady).times]
  by_cases hne : s.processed = []
  · have hnone : s.batches = [] := by
      rw [PubHandler.batches, hne]
      rfl
    rw [hnone]
    exact ⟨by simp [Windows.run], by simp [Windows.run], by simp [Windows.run]⟩
  · have hbatches := hprocessed.batches
    rw [List.map_map] at hbatches
    exact run_oncePerWindow (by omega) (by omega) (by omega) (by omega) hbatches
      (getLast?_batches hprocessed hne)

/-! ### A lidar whose frames come late -/

/-- A packet with one point. -/
def pointAt (t : ℕ) : RawPacket :=
  { onePoint 1 with timeStamp := t.toUInt64 }

theorem pointTimes_pointAt (t : ℕ) : pointTimes (pointAt t) = [t.toUInt64] := by
  change [t.toUInt64 + (0 : ℕ).toUInt64 * 0] = _
  rw [UInt64.mul_zero, UInt64.add_zero]

/-- One more packet arrives and is processed. -/
theorem run_packet (pkt : RawPacket) (h : Run (pubStep arith cfg) (InSync id) PubHandler.init tr s)
    (hraw : s.rawData = none) (hqueue : s.rawPacketQueue = []) (hlivox : pkt.lidarType = .livox)
    (hid : pkt.handle = id) : ∃ tr' s', Run (pubStep arith cfg) (InSync id) PubHandler.init tr' s' ∧
      arrivals tr' = arrivals tr ++ [pkt] ∧ s'.rawData = none ∧ s'.rawPacketQueue = [] := by
  have hstamp := h.snoc (show InSync id s (.stamp true) from rfl) rfl
  have harrive := hstamp.snoc (show InSync id _ (.arrive pkt) from hid) (if_pos hlivox)
  have hpop : pubStep arith cfg
      { s with isTimestampSync := true, rawPacketQueue := s.rawPacketQueue ++ [pkt] } .pop =
        some { s with isTimestampSync := true, rawPacketQueue := [], rawData := some pkt } := by
    simp [pubStep, hraw, hqueue]
  have hpopped := harrive.snoc (show InSync id _ .pop from trivial) hpop
  have hprocess := hpopped.snoc (show InSync id _ (.process 0) from rfl) rfl
  obtain ⟨-, hraw', hqueue'⟩ := checkTimer_packets cfg (getLidarId pkt.lidarType pkt.handle) 0
    (processPacket arith pkt
      { s with isTimestampSync := true, rawPacketQueue := [], rawData := some pkt })
  refine ⟨_, _, hprocess, ?_, hraw', hqueue'⟩
  simp only [arrivals_concat]
  simp [arrivals]

/-- The packets can arrive and be processed one after the other. -/
theorem exists_run (arith : PointArith E) (cfg : PubConfig) (ts : List ℕ) : ∃ tr s,
    Run (pubStep arith cfg) (InSync 1) PubHandler.init tr s ∧ arrivals tr = ts.map pointAt ∧
      s.rawData = none ∧ s.rawPacketQueue = [] := by
  induction ts using List.reverseRecOn with
  | nil => exact ⟨[], PubHandler.init, .nil, rfl, rfl, rfl⟩
  | append_singleton ts t ih =>
    obtain ⟨tr, s, hrun, harrivals, hraw, hqueue⟩ := ih
    obtain ⟨tr', s', hrun', harrivals', hraw', hqueue'⟩ :=
      run_packet (pointAt t) hrun hraw hqueue rfl rfl
    refine ⟨tr', s', hrun', ?_, hraw', hqueue'⟩
    rw [harrivals', harrivals, List.map_append, List.map_singleton]

/-- Points at increasing times that are half a millisecond apart at most. -/
theorem steadyPackets_points {ts : List ℕ} (hts : Steady 500000 (ts.map .single))
    (hlt : ∀ t ∈ ts, t < 2 ^ 64) : SteadyPackets (ts.map pointAt) := by
  unfold Steady at hts
  rw [List.isChain_map] at hts
  have hincreasing : ts.Pairwise (· < ·) :=
    List.isChain_iff_pairwise.mp (hts.imp fun _ _ h => h.1)
  have hnat : ∀ t ∈ ts, t.toUInt64.toNat = t := fun t ht => Nat.mod_eq_of_lt (hlt t ht)
  refine ⟨?_, ?_, ?_⟩
  · intro pkt hpkt
    obtain ⟨t, -, rfl⟩ := List.mem_map.mp hpkt
    rw [pointTimes_pointAt]
    exact List.cons_ne_nil _ _
  · have hpoints : (ts.map pointAt).flatMap pointTimes = ts.map Nat.toUInt64 := by
      rw [List.flatMap_map]
      simp only [pointTimes_pointAt]
      exact List.map_eq_flatMap.symm
    rw [hpoints, List.pairwise_map]
    apply hincreasing.imp_of_mem
    intro t t' ht ht' hlt'
    rw [UInt64.lt_iff_toNat_lt, hnat t ht, hnat t' ht']
    exact hlt'
  · rw [List.isChain_map]
    apply hts.imp_of_mem_imp
    intro t t' ht ht' hgap x hx x' hx'
    rw [pointTimes_pointAt] at hx hx'
    obtain rfl : t.toUInt64 = x := by simpa using hx
    obtain rfl : t'.toUInt64 = x' := by simpa using hx'
    rw [hnat t ht, hnat t' ht']
    exact hgap.2

/-- **A window without a frame.** With an interval that is not a whole number of
milliseconds there are packets between which a window is left out. -/
theorem exists_skip (arith : PointArith E) (hlow : 2000000 ≤ cfg.publishInterval.toNat)
    (hhigh : cfg.publishInterval.toNat ≤ 2000000000)
    (hpart : 1 < cfg.publishInterval.toNat % 1000000) : ∃ tr s,
      Run (pubStep arith cfg) (InSync 1) PubHandler.init tr s ∧ SteadyPackets (arrivals tr) ∧
        ¬ OncePerMs arith cfg tr s := by
  have hperiod := windows_period cfg
  have hage := windows_age cfg
  have hwidth := windows_width cfg
  set ts := skipTimes (windows cfg) 500000 with hts
  have hlt : ∀ t ∈ ts, t < 2 ^ 64 := by
    intro t ht
    have := skipTimes_le (by omega) (by omega) (by omega) t ht
    omega
  have hsteady : SteadyPackets (ts.map pointAt) :=
    steadyPackets_points (skipTimes_steady (by decide) (by omega) (by omega) (by omega)) hlt
  obtain ⟨tr, s, hrun, harrivals, hraw, hqueue⟩ := exists_run arith cfg ts
  rw [← harrivals] at hsteady
  refine ⟨tr, s, hrun, hsteady, ?_⟩
  have hprocessed : s.processed.map (·.1) = ts.map pointAt := by
    have := packets_in_order hrun
    rw [hraw, hqueue, harrivals] at this
    simpa using this.symm
  have hbatches : s.batches = ts.map .single := by
    have hpkts : s.batches = (s.processed.map (·.1)).map batchOf := by
      rw [List.map_map]
      rfl
    rw [hpkts, hprocessed, List.map_map]
    apply List.map_congr_left
    intro t ht
    have hnat : t.toUInt64.toNat = t := Nat.mod_eq_of_lt (hlt t ht)
    simp [batchOf, pointTimes_pointAt, Batch.single, hnat]
  have hne : s.processed ≠ [] := by
    intro hnil
    rw [hnil] at hprocessed
    have hlast : ts.getLast? = _ := skipTimes_getLast?
    rw [List.map_eq_nil_iff.mp hprocessed.symm] at hlast
    cases hlast
  have hlatest := getLast?_batches (processed_steady hrun hsteady) hne
  rw [hbatches, List.getLast?_map, skipTimes_getLast?] at hlatest
  have hend : 2 * (windows cfg).period + (windows cfg).width = s.latest :=
    Option.some.inj hlatest
  unfold OncePerMs
  rw [(run_tracks hrun hsteady).times, hbatches, ← hend]
  exact skip_not_oncePerWindow (by omega) (by omega) (by omega) (by omega) (by omega) (by omega)

/-- The bounds of the interval. -/
theorem driverConfig_bounds (freq : ℚ) : 2000000 ≤ (driverConfig freq).publishInterval.toNat ∧
    (driverConfig freq).publishInterval.toNat ≤ 2000000000 := by
  obtain ⟨hlow, hhigh⟩ := clampPublishFreq_bounds freq
  have := publishIntervalOf_bounds hlow hhigh
  have := driverConfig_toNat freq
  omega

/-- **Every window has its frame.** With synchronised time, at a publish frequency of the
driver, each window behind the first publication is published once for all packets of a
lidar that follow each other closely exactly when the interval is a whole number of
milliseconds or a nanosecond more. -/
theorem cadence_iff (arith : PointArith E) (freq : ℚ) :
    (∀ id tr s, Run (pubStep arith (driverConfig freq)) (InSync id) PubHandler.init tr s →
      SteadyPackets (arrivals tr) → OncePerMs arith (driverConfig freq) tr s) ↔
      (driverConfig freq).publishInterval % kRatioOfMsToNs ≤ 1 := by
  obtain ⟨hlow, hhigh⟩ := driverConfig_bounds freq
  rw [UInt64.le_iff_toNat_le, UInt64.toNat_mod]
  constructor
  · intro hall
    by_contra hpart
    obtain ⟨tr, s, hrun, hsteady, hskip⟩ := exists_skip arith hlow hhigh (Nat.not_le.mp hpart)
    exact hskip (hall 1 tr s hrun hsteady)
  · intro hwhole id tr s hrun hsteady
    exact oncePerMs_of_whole hlow hwhole hrun hsteady

end Every

/-- At 30 Hz a window is left out. -/
theorem cadence_thirty_hertz : ¬ ∀ (E : Type) (arith : PointArith E) (freq : ℚ) (id : UInt32)
    (tr : List (PubHandler E × PubEvent E)) (s : PubHandler E),
    Run (pubStep arith (driverConfig freq)) (InSync id) PubHandler.init tr s →
    SteadyPackets (arrivals tr) → OncePerMs arith (driverConfig freq) tr s := by
  intro hall
  have hclamp : clampPublishFreq 30 = 30 := by norm_num [clampPublishFreq]
  have hfreq : ((300 : ℕ) : ℚ) ≤ 30 * 10 ∧ (30 * 10 : ℚ) ≤ ((300 : ℕ) : ℚ) := by norm_num
  have hinterval := publishIntervalOf_between (c := 3333333) (d := 3333334) (by decide)
    (by decide) (by decide) hfreq.1 hfreq.2 (by decide) (by decide)
  have htoNat := driverConfig_toNat 30
  rw [hclamp] at htoNat
  obtain ⟨hlow, hhigh⟩ := driverConfig_bounds 30
  obtain ⟨tr, s, hrun, hsteady, hskip⟩ := exists_skip zeroArith hlow hhigh (by omega)
  exact hskip (hall Unit zeroArith 30 1 tr s hrun hsteady)

end Livox
end SensorSupport
