/-
# Local poses of the GNSS node (`wtrtk_982dt_driver/gps_ntrip_py/gps_ntrip_node.py`)

A drained GGA waits in `_pending_local_gga` for an HPR of about the same UTC
time. `_match_pending_local_poses` publishes every pending GGA the HPR fits
and drops the older ones, `_expire_pending_local_poses` publishes without a
heading what waited too long, and `local_pose_invalid` drops everything.

`LocalPoses` is the part of the node these functions work on, with what was
drained and published so far. Behind any drained event what was published, then
what is pending, is a sublist of what was drained (`Ordered`), because a match
and an expiry both take from the front: the first by construction, the second
because the clock does not go back.

Key definitions: `PoseConfig`, `LocalPoses`, `PoseEvent`, `poseStep`, `Ordered`, `Sound`.
Key theorem: `localPose_matching`.
-/
import SensorSupport.Gnss.Sentences
import SensorSupport.Gnss.LocalCoordinates
import SensorSupport.Lib.Run

namespace SensorSupport
namespace Gnss

/-- A moment of the ROS clock, as message headers carry it. -/
abbrev Stamp := ℚ

/-- `GnssLocalPose`. -/
structure GnssLocalPose where
  stamp : Stamp
  frameId : Text
  x : PyFloat
  y : PyFloat
  headingDeg : PyFloat
  dataValid : Bool
deriving DecidableEq, Repr

/-- The parameters the local pose depends on. -/
structure PoseConfig where
  localPoseEnabled : Bool
  localFrameId : Text
  localPoseSyncTolerance : ℚ
  headingOffsetDeg : PyFloat
  localProjector : LocalEnuProjector

/-- An item of `_pending_local_gga`. `index` is its place among the GGA events
drained so far, which the program does not keep. -/
structure PendingGga where
  index : ℕ
  gga : GgaData
  stamp : Stamp
  hasFix : Bool
  receivedAt : ℚ
deriving DecidableEq, Repr

/-- A published local pose, with the GGA and the HPR it was made of. -/
structure PublishedPose where
  message : GnssLocalPose
  source : Option PendingGga
  hpr : Option HprData
deriving DecidableEq, Repr

/-- The local pose part of the node: `_pending_local_gga`, `_local_pose_valid`,
the messages on the topic and the items that were ever made pending. -/
structure LocalPoses where
  pendingLocalGga : List PendingGga
  localPoseValid : Bool
  topic : List PublishedPose
  drained : List PendingGga
deriving DecidableEq, Repr

namespace LocalPoses

/-- At the start of the node. -/
def init : LocalPoses := ⟨[], false, [], []⟩

end LocalPoses

variable (cfg : PoseConfig)

/-- The message of `_publish_local_pose`. -/
def localPoseMessage (item : PendingGga) (hpr : Option HprData) : GnssLocalPose :=
  let position :=
    if item.hasFix then
      (cfg.localProjector.project item.gga.latitude item.gga.longitude).toOption
    else none
  let heading := hpr.filter dataIsValid
  { stamp := item.stamp
    frameId := cfg.localFrameId
    x := position.elim .nan (.fin ·.1)
    y := position.elim .nan (.fin ·.2)
    headingDeg := heading.elim .nan (correctedHeading ·.headingDeg cfg.headingOffsetDeg)
    dataValid := position.isSome && heading.isSome }

/-- `_publish_local_pose`. -/
def publishLocalPose (s : LocalPoses) (item : PendingGga) (hpr : Option HprData) : LocalPoses :=
  let message := localPoseMessage cfg item hpr
  { s with
    localPoseValid := message.dataValid
    topic := s.topic ++ [⟨message, some item, hpr⟩] }

/-- `_publish_invalid_local_pose`. -/
def publishInvalidLocalPose (stamp : Stamp) (s : LocalPoses) : LocalPoses :=
  if ¬ cfg.localPoseEnabled ∨ ¬ s.localPoseValid then s
  else
    let message : GnssLocalPose := {
      stamp := stamp
      frameId := cfg.localFrameId
      x := .nan
      y := .nan
      headingDeg := .nan
      dataValid := false }
    { s with localPoseValid := false, topic := s.topic ++ [⟨message, none, none⟩] }

/-- The first part of the local pose work of `_publish_gga`: the event becomes
pending. -/
def appendPending (now : ℚ) (stamp : Stamp) (gga : GgaData) (s : LocalPoses) : LocalPoses :=
  let item : PendingGga := ⟨s.drained.length, gga, stamp, hasFix gga, now⟩
  { s with pendingLocalGga := s.pendingLocalGga ++ [item], drained := s.drained ++ [item] }

/-- Is the UTC difference of a pending GGA and an HPR within the tolerance? An
unreadable time differs by `math.inf`. -/
def withinTolerance (hpr : HprData) (item : PendingGga) : Bool :=
  (nmeaUtcDifferenceSeconds item.gga.utcTime hpr.utcTime).any (· ≤ cfg.localPoseSyncTolerance)

/-- The items whose index is greater than that of the last matched one. -/
def afterLastMatched (matched : PendingGga → Bool) : List PendingGga → List PendingGga
  | [] => []
  | item :: items =>
    if items.any matched then afterLastMatched matched items
    else if matched item then items
    else item :: items

/-- `_match_pending_local_poses`. -/
def matchPendingLocalPoses (hpr : HprData) (fresh : Bool) (s : LocalPoses) : LocalPoses :=
  if ¬ cfg.localPoseEnabled ∨ ¬ fresh then s
  else
    let published := (s.pendingLocalGga.filter (withinTolerance cfg hpr)).foldl
      (fun s item => publishLocalPose cfg s item (some hpr)) s
    { published with
      pendingLocalGga := afterLastMatched (withinTolerance cfg hpr) s.pendingLocalGga }

/-- Has a pending item waited for the tolerance? -/
def expired (now : ℚ) (item : PendingGga) : Bool :=
  cfg.localPoseSyncTolerance ≤ now - item.receivedAt

/-- `_expire_pending_local_poses`. -/
def expirePendingLocalPoses (now : ℚ) (s : LocalPoses) : LocalPoses :=
  if ¬ cfg.localPoseEnabled then s
  else
    let published := (s.pendingLocalGga.filter (expired cfg now)).foldl
      (fun s item => publishLocalPose cfg s item none) s
    { published with
      pendingLocalGga := s.pendingLocalGga.filter fun item => !expired cfg now item }

/-- The `local_pose_invalid` event. -/
def localPoseInvalid (stamp : Stamp) (s : LocalPoses) : LocalPoses :=
  publishInvalidLocalPose cfg stamp { s with pendingLocalGga := [] }

/-! ### Sequences of events -/

/-- The local pose part with the monotonic clock. -/
structure PoseState where
  now : ℚ
  poses : LocalPoses

/-- What happens to the local pose part. A drained GGA event is `gga` and, when
an HPR was received before, `latestHpr` with the newest one. -/
inductive PoseEvent
  | tick (now : ℚ)
  | gga (stamp : Stamp) (gga : GgaData)
  | latestHpr (hpr : HprData) (fresh : Bool)
  | hpr (hpr : HprData)
  | localPoseInvalid (stamp : Stamp)
  | expire
  | attitudeTimeout (stamp : Stamp)

/-- One event. The clock does not go back. -/
def poseStep (s : PoseState) : PoseEvent → Option PoseState
  | .tick now => if s.now ≤ now then some { s with now := now } else none
  | .gga stamp gga =>
    if cfg.localPoseEnabled then some { s with poses := appendPending s.now stamp gga s.poses }
    else some s
  | .latestHpr hpr fresh =>
    some { s with poses := matchPendingLocalPoses cfg hpr fresh s.poses }
  | .hpr hpr => some { s with poses := matchPendingLocalPoses cfg hpr true s.poses }
  | .localPoseInvalid stamp => some { s with poses := localPoseInvalid cfg stamp s.poses }
  | .expire => some { s with poses := expirePendingLocalPoses cfg s.now s.poses }
  | .attitudeTimeout stamp =>
    some { s with poses := publishInvalidLocalPose cfg stamp s.poses }

/-- The stamp and the GGA of the drained GGA events. -/
def ggaEvents (tr : List (PoseState × PoseEvent)) : List (Stamp × GgaData) :=
  tr.filterMap fun x =>
    match x.2 with
    | .gga stamp gga => some (stamp, gga)
    | _ => none

/-- The HPR of an event that matches one. -/
def PoseEvent.matchedHpr : PoseEvent → Option HprData
  | .latestHpr data _ => some data
  | .hpr data => some data
  | _ => none

/-- The HPRs that were matched. -/
def hprEvents (tr : List (PoseState × PoseEvent)) : List HprData := tr.filterMap (·.2.matchedHpr)

/-- The pending items the published poses were made of. -/
def LocalPoses.sources (s : LocalPoses) : List PendingGga := s.topic.filterMap (·.source)

/-- A pose that is published as valid combines a GGA with a fix and a usable
HPR whose UTC times are, up to whole days, at most the tolerance apart: its
position is that of the GGA, its heading that of the HPR, its stamp that of the
GGA event. -/
def Sound (e : PublishedPose) : Prop :=
  e.message.dataValid = true → ∃ item hpr position a b,
    e.source = some item ∧ e.hpr = some hpr ∧
    hasFix item.gga = true ∧ dataIsValid hpr = true ∧
    cfg.localProjector.project item.gga.latitude item.gga.longitude = .ok position ∧
    e.message = ⟨item.stamp, cfg.localFrameId, .fin position.1, .fin position.2,
      correctedHeading hpr.headingDeg cfg.headingOffsetDeg, true⟩ ∧
    nmeaUtcSeconds item.gga.utcTime = some a ∧ nmeaUtcSeconds hpr.utcTime = some b ∧
    ∃ k : ℤ, |a - b + k * secondsPerDay| ≤ cfg.localPoseSyncTolerance

/-- What was published, then what is pending, is in the order of what was
drained, and what is pending is in the order of its arrival. -/
structure Ordered (now : ℚ) (s : LocalPoses) : Prop where
  sublist : (s.sources ++ s.pendingLocalGga).Sublist s.drained
  index : s.drained.map (·.index) = List.range s.drained.length
  fix : ∀ item ∈ s.drained, item.hasFix = hasFix item.gga
  waited : s.pendingLocalGga.Pairwise (·.receivedAt ≤ ·.receivedAt)
  received : ∀ item ∈ s.pendingLocalGga, item.receivedAt ≤ now
  sound : ∀ e ∈ s.topic, Sound cfg e

/-! ### Publishing a list of items -/

variable {cfg}

@[simp] theorem publishInvalidLocalPose_pending (stamp : Stamp) (s : LocalPoses) :
    (publishInvalidLocalPose cfg stamp s).pendingLocalGga = s.pendingLocalGga := by
  unfold publishInvalidLocalPose
  split <;> rfl

@[simp] theorem publishInvalidLocalPose_drained (stamp : Stamp) (s : LocalPoses) :
    (publishInvalidLocalPose cfg stamp s).drained = s.drained := by
  unfold publishInvalidLocalPose
  split <;> rfl

@[simp] theorem publishInvalidLocalPose_sources (stamp : Stamp) (s : LocalPoses) :
    (publishInvalidLocalPose cfg stamp s).sources = s.sources := by
  unfold publishInvalidLocalPose LocalPoses.sources
  split
  · rfl
  · simp

theorem publishInvalidLocalPose_topic {stamp : Stamp} {s : LocalPoses} {e : PublishedPose}
    (he : e ∈ (publishInvalidLocalPose cfg stamp s).topic) :
    e ∈ s.topic ∨ e.message.dataValid = false ∧ e.hpr = none := by
  unfold publishInvalidLocalPose at he
  split at he
  · exact .inl he
  · rcases List.mem_append.mp he with he | he
    · exact .inl he
    · exact .inr (by simp [List.mem_singleton.mp he])

/-- What publishing the items one after the other comes to. -/
theorem foldl_publishLocalPose (hpr : Option HprData) (items : List PendingGga) (s : LocalPoses) :
    (items.foldl (fun s item => publishLocalPose cfg s item hpr) s).topic =
        s.topic ++ items.map (fun item => ⟨localPoseMessage cfg item hpr, some item, hpr⟩) ∧
      (items.foldl (fun s item => publishLocalPose cfg s item hpr) s).drained = s.drained := by
  induction items generalizing s with
  | nil => simp
  | cons item items ih =>
    have h := ih (publishLocalPose cfg s item hpr)
    simpa [publishLocalPose] using h

/-- A valid message needs a fix that can be projected and a usable heading, and
carries both. -/
theorem localPoseMessage_valid {item : PendingGga} {hpr : Option HprData}
    (h : (localPoseMessage cfg item hpr).dataValid = true) :
    item.hasFix = true ∧ ∃ data position, hpr = some data ∧ dataIsValid data = true ∧
      cfg.localProjector.project item.gga.latitude item.gga.longitude = .ok position ∧
      localPoseMessage cfg item hpr = ⟨item.stamp, cfg.localFrameId, .fin position.1,
        .fin position.2, correctedHeading data.headingDeg cfg.headingOffsetDeg, true⟩ := by
  unfold localPoseMessage at h ⊢
  simp only [Bool.and_eq_true] at h ⊢
  obtain ⟨hposition, hheading⟩ := h
  have hfix : item.hasFix = true := by
    by_contra hfix
    simp [hfix] at hposition
  obtain ⟨data, hdata⟩ := Option.isSome_iff_exists.mp hheading
  obtain ⟨hhpr, hok⟩ := Option.filter_eq_some_iff.mp hdata
  cases hproject : cfg.localProjector.project item.gga.latitude item.gga.longitude with
  | error e => simp [hfix, hproject, Except.toOption] at hposition
  | ok position =>
    refine ⟨hfix, data, position, hhpr, hok, rfl, ?_⟩
    simp [hfix, hdata, Except.toOption]

/-- The published items that were matched, then those behind the last of them,
are in the order of the list. -/
theorem filter_append_afterLastMatched (matched : PendingGga → Bool) (items : List PendingGga) :
    (items.filter matched ++ afterLastMatched matched items).Sublist items := by
  induction items with
  | nil => simp [afterLastMatched]
  | cons item items ih =>
    unfold afterLastMatched
    by_cases hany : items.any matched
    · rw [if_pos hany]
      by_cases hm : matched item
      · simpa [hm] using ih
      · simpa [hm] using ih.cons item
    · have hnone : items.filter matched = [] := by simpa using hany
      rw [if_neg hany]
      by_cases hm : matched item
      · simp [hm, hnone]
      · simp [hm, hnone]

/-- When nothing that meets a test stands behind something that does not, the
items that meet it are the front of the list. -/
theorem filter_append_filter_not {test : PendingGga → Bool} {items : List PendingGga}
    (h : items.Pairwise fun a b => test b = true → test a = true) :
    items.filter test ++ items.filter (fun item => !test item) = items := by
  induction items with
  | nil => rfl
  | cons item items ih =>
    obtain ⟨hitem, htail⟩ := List.pairwise_cons.mp h
    by_cases ht : test item
    · simpa [ht] using ih htail
    · have hnone : items.filter test = [] := by
        rw [List.filter_eq_nil_iff]
        intro b hb htb
        exact ht (hitem b hb htb)
      have hall : items.filter (fun item => !test item) = items := by
        rw [List.filter_eq_self]
        intro b hb
        have hb' : ¬ test b := (List.filter_eq_nil_iff.mp hnone) b hb
        simpa using hb'
      simp [ht, hnone, hall]

/-! ### What each function keeps -/

namespace Ordered

variable {now now' : ℚ} {s : LocalPoses}

theorem mem_drained (h : Ordered cfg now s) {item : PendingGga} (hi : item ∈ s.pendingLocalGga) :
    item ∈ s.drained :=
  h.sublist.subset (List.mem_append_right _ hi)

theorem init : Ordered cfg now .init where
  sublist := List.Sublist.refl _
  index := rfl
  fix := by simp [LocalPoses.init]
  waited := List.Pairwise.nil
  received := by simp [LocalPoses.init]
  sound := by simp [LocalPoses.init]

theorem tick (h : Ordered cfg now s) (hle : now ≤ now') : Ordered cfg now' s :=
  { h with received := fun item hi => (h.received item hi).trans hle }

/-- Publishing items from the front of what is pending and keeping some of
those behind them. -/
theorem publish (h : Ordered cfg now s) {items kept : List PendingGga} {hpr : Option HprData}
    (hsub : (items ++ kept).Sublist s.pendingLocalGga)
    (hsound : ∀ item ∈ items, item.hasFix = hasFix item.gga →
      Sound cfg ⟨localPoseMessage cfg item hpr, some item, hpr⟩) :
    Ordered cfg now
      { items.foldl (fun s item => publishLocalPose cfg s item hpr) s with
        pendingLocalGga := kept } := by
  obtain ⟨htopic, hdrained⟩ := @foldl_publishLocalPose cfg hpr items s
  have hkept : kept.Sublist s.pendingLocalGga := (List.sublist_append_right _ _).trans hsub
  refine { sublist := ?_, index := ?_, fix := ?_, waited := ?_, received := ?_, sound := ?_ }
  · have hsources : ∀ items : List PendingGga, (items.map fun item =>
        (⟨localPoseMessage cfg item hpr, some item, hpr⟩ : PublishedPose)).filterMap (·.source) =
          items := by
      intro items
      rw [List.filterMap_map]
      exact List.filterMap_some
    simp only [LocalPoses.sources, htopic, hdrained, List.filterMap_append, hsources,
      List.append_assoc]
    exact (hsub.append_left s.sources).trans h.sublist
  · simpa only [hdrained] using h.index
  · simpa only [hdrained] using h.fix
  · exact h.waited.sublist hkept
  · exact fun item hi => h.received item (hkept.subset hi)
  · intro e he
    simp only [htopic, List.mem_append, List.mem_map] at he
    rcases he with he | ⟨item, hi, rfl⟩
    · exact h.sound e he
    · have hmem : item ∈ s.pendingLocalGga := hsub.subset (List.mem_append_left _ hi)
      exact hsound item hi (h.fix item (h.mem_drained hmem))

/-- A pose from a match is sound: the HPR is the one the item was matched with. -/
theorem sound_of_withinTolerance {item : PendingGga} {hpr : HprData}
    (hm : withinTolerance cfg hpr item = true) (hfix : item.hasFix = hasFix item.gga) :
    Sound cfg ⟨localPoseMessage cfg item (some hpr), some item, some hpr⟩ := by
  intro hvalid
  obtain ⟨hf, data, position, hdata, hok, hproject, hmessage⟩ := localPoseMessage_valid hvalid
  obtain rfl := Option.some.inj hdata
  unfold withinTolerance nmeaUtcDifferenceSeconds at hm
  cases ha : nmeaUtcSeconds item.gga.utcTime with
  | none => simp [ha] at hm
  | some a =>
    cases hb : nmeaUtcSeconds hpr.utcTime with
    | none => simp [ha, hb] at hm
    | some b =>
      have hd : circularDifference a b ≤ cfg.localPoseSyncTolerance := by simpa [ha, hb] using hm
      have h0 := circularDifference_nonneg (nmeaUtcSeconds_range ha) (nmeaUtcSeconds_range hb)
      obtain ⟨k, hk⟩ := difference_circular a b
      refine ⟨item, hpr, position, a, b, rfl, rfl, hfix ▸ hf, hok, hproject, hmessage, ha, hb,
        k, ?_⟩
      rw [hk, abs_of_nonneg h0]
      exact hd

theorem matchPending (h : Ordered cfg now s) (hpr : HprData) (fresh : Bool) :
    Ordered cfg now (matchPendingLocalPoses cfg hpr fresh s) := by
  unfold matchPendingLocalPoses
  split
  · exact h
  · refine h.publish (filter_append_afterLastMatched _ _) fun item hi hfix => ?_
    exact sound_of_withinTolerance (List.mem_filter.mp hi).2 hfix

/-- What is pending arrived in order, so what has expired is its front. -/
theorem expire (h : Ordered cfg now s) : Ordered cfg now (expirePendingLocalPoses cfg now s) := by
  unfold expirePendingLocalPoses
  split
  · exact h
  · have hfront : s.pendingLocalGga.filter (expired cfg now) ++
        s.pendingLocalGga.filter (fun item => !expired cfg now item) = s.pendingLocalGga := by
      apply filter_append_filter_not
      refine h.waited.imp ?_
      intro a b hab hb
      have hb' : cfg.localPoseSyncTolerance ≤ now - b.receivedAt := by simpa [expired] using hb
      simpa [expired] using (show cfg.localPoseSyncTolerance ≤ now - a.receivedAt by linarith)
    refine h.publish (by rw [hfront]) fun item hi hfix hvalid => ?_
    obtain ⟨-, data, -, hdata, -⟩ := localPoseMessage_valid hvalid
    cases hdata

theorem append (h : Ordered cfg now s) (stamp : Stamp) (gga : GgaData) :
    Ordered cfg now (appendPending now stamp gga s) where
  sublist := by
    have := h.sublist.append_right [(⟨s.drained.length, gga, stamp, hasFix gga, now⟩ : PendingGga)]
    simpa [appendPending, LocalPoses.sources] using this
  index := by
    simp [appendPending, h.index, List.range_succ]
  fix := by
    intro item hi
    rcases List.mem_append.mp hi with hi | hi
    · exact h.fix item hi
    · rw [List.mem_singleton.mp hi]
  waited := by
    refine List.pairwise_append.mpr ⟨h.waited, List.pairwise_singleton _ _, ?_⟩
    intro item hi last hlast
    rw [List.mem_singleton.mp hlast]
    exact h.received item hi
  received := by
    intro item hi
    rcases List.mem_append.mp hi with hi | hi
    · exact h.received item hi
    · rw [List.mem_singleton.mp hi]
  sound := h.sound

theorem publishInvalid (h : Ordered cfg now s) (stamp : Stamp) :
    Ordered cfg now (publishInvalidLocalPose cfg stamp s) where
  sublist := by simpa using h.sublist
  index := by simpa using h.index
  fix := by simpa using h.fix
  waited := by simpa using h.waited
  received := by simpa using h.received
  sound := by
    intro e he hvalid
    rcases publishInvalidLocalPose_topic he with he | ⟨hfalse, -⟩
    · exact h.sound e he hvalid
    · rw [hfalse] at hvalid
      cases hvalid

theorem clear (h : Ordered cfg now s) : Ordered cfg now { s with pendingLocalGga := [] } where
  sublist := by
    have := (List.sublist_append_left s.sources s.pendingLocalGga).trans h.sublist
    simpa [LocalPoses.sources] using this
  index := h.index
  fix := h.fix
  waited := List.Pairwise.nil
  received := by simp
  sound := h.sound

end Ordered

/-- Every event keeps the order. -/
theorem poseStep_ordered {s s' : PoseState} {e : PoseEvent} (h : Ordered cfg s.now s.poses)
    (he : poseStep cfg s e = some s') : Ordered cfg s'.now s'.poses := by
  cases e with
  | tick now =>
    change (if s.now ≤ now then some { s with now := now } else none) = some s' at he
    split at he
    · rename_i hle
      obtain rfl := Option.some.inj he
      exact h.tick hle
    · cases he
  | gga stamp gga =>
    change (if cfg.localPoseEnabled then
      some { s with poses := appendPending s.now stamp gga s.poses } else some s) = some s' at he
    split at he
    · obtain rfl := Option.some.inj he
      exact h.append stamp gga
    · obtain rfl := Option.some.inj he
      exact h
  | latestHpr hpr fresh =>
    obtain rfl := Option.some.inj he
    exact h.matchPending hpr fresh
  | hpr hpr =>
    obtain rfl := Option.some.inj he
    exact h.matchPending hpr true
  | localPoseInvalid stamp =>
    obtain rfl := Option.some.inj he
    exact h.clear.publishInvalid stamp
  | expire =>
    obtain rfl := Option.some.inj he
    exact h.expire
  | attitudeTimeout stamp =>
    obtain rfl := Option.some.inj he
    exact h.publishInvalid stamp

/-! ### What was drained -/

theorem matchPendingLocalPoses_drained (hpr : HprData) (fresh : Bool) (s : LocalPoses) :
    (matchPendingLocalPoses cfg hpr fresh s).drained = s.drained := by
  unfold matchPendingLocalPoses
  split
  · rfl
  · exact (foldl_publishLocalPose _ _ s).2

theorem expirePendingLocalPoses_drained (now : ℚ) (s : LocalPoses) :
    (expirePendingLocalPoses cfg now s).drained = s.drained := by
  unfold expirePendingLocalPoses
  split
  · rfl
  · exact (foldl_publishLocalPose _ _ s).2

theorem ggaEvents_concat (tr : List (PoseState × PoseEvent)) (s : PoseState) (e : PoseEvent) :
    ggaEvents (tr ++ [(s, e)]) = ggaEvents tr ++ ggaEvents [(s, e)] := by
  unfold ggaEvents
  rw [List.filterMap_append]

/-- The items that were made pending are the GGA events drained so far. -/
def Drained (cfg : PoseConfig) (tr : List (PoseState × PoseEvent)) (s : PoseState) : Prop :=
  s.poses.drained.map (fun item => (item.stamp, item.gga)) =
    if cfg.localPoseEnabled then ggaEvents tr else []

theorem poseStep_drained {tr : List (PoseState × PoseEvent)} {s s' : PoseState} {e : PoseEvent}
    (h : Drained cfg tr s) (he : poseStep cfg s e = some s') :
    Drained cfg (tr ++ [(s, e)]) s' := by
  -- an event that is no GGA event leaves both sides as they are
  have keep : ∀ s' : PoseState, s'.poses.drained = s.poses.drained → ggaEvents [(s, e)] = [] →
      Drained cfg (tr ++ [(s, e)]) s' := by
    intro s' hs' he'
    unfold Drained at h ⊢
    rw [hs', h, ggaEvents_concat, he', List.append_nil]
  cases e with
  | tick now =>
    change (if s.now ≤ now then some { s with now := now } else none) = some s' at he
    split at he
    · obtain rfl := Option.some.inj he
      exact keep _ rfl rfl
    · cases he
  | gga stamp gga =>
    change (if cfg.localPoseEnabled then
      some { s with poses := appendPending s.now stamp gga s.poses } else some s) = some s' at he
    unfold Drained at h ⊢
    split at he
    · rename_i hen
      obtain rfl := Option.some.inj he
      rw [if_pos hen] at h ⊢
      rw [ggaEvents_concat, ← h]
      simp [appendPending, ggaEvents]
    · rename_i hen
      obtain rfl := Option.some.inj he
      rw [if_neg hen] at h ⊢
      exact h
  | latestHpr hpr fresh =>
    obtain rfl := Option.some.inj he
    exact keep _ (matchPendingLocalPoses_drained hpr fresh s.poses) rfl
  | hpr hpr =>
    obtain rfl := Option.some.inj he
    exact keep _ (matchPendingLocalPoses_drained hpr true s.poses) rfl
  | localPoseInvalid stamp =>
    obtain rfl := Option.some.inj he
    exact keep _ (publishInvalidLocalPose_drained stamp _) rfl
  | expire =>
    obtain rfl := Option.some.inj he
    exact keep _ (expirePendingLocalPoses_drained s.now s.poses) rfl
  | attitudeTimeout stamp =>
    obtain rfl := Option.some.inj he
    exact keep _ (publishInvalidLocalPose_drained stamp s.poses) rfl

/-! ### What was matched -/

theorem foldl_publishLocalPose_topic {hpr : Option HprData} {items : List PendingGga}
    {s : LocalPoses} {e : PublishedPose}
    (he : e ∈ (items.foldl (fun s item => publishLocalPose cfg s item hpr) s).topic) :
    e ∈ s.topic ∨ e.hpr = hpr := by
  rw [(foldl_publishLocalPose hpr items s).1, List.mem_append, List.mem_map] at he
  rcases he with he | ⟨item, -, rfl⟩
  · exact .inl he
  · exact .inr rfl

theorem matchPendingLocalPoses_topic {hpr : HprData} {fresh : Bool} {s : LocalPoses}
    {e : PublishedPose} (he : e ∈ (matchPendingLocalPoses cfg hpr fresh s).topic) :
    e ∈ s.topic ∨ e.hpr = some hpr := by
  unfold matchPendingLocalPoses at he
  split at he
  · exact .inl he
  · exact foldl_publishLocalPose_topic he

/-- A pose is published with the HPR of the event, or without one. -/
theorem poseStep_topic {s s' : PoseState} {event : PoseEvent} {e : PublishedPose}
    (hs : poseStep cfg s event = some s') (he : e ∈ s'.poses.topic) :
    e ∈ s.poses.topic ∨ e.hpr = none ∨ e.hpr = event.matchedHpr := by
  cases event with
  | tick now =>
    change (if s.now ≤ now then some { s with now := now } else none) = some s' at hs
    split at hs
    · obtain rfl := Option.some.inj hs
      exact .inl he
    · cases hs
  | gga stamp gga =>
    change (if cfg.localPoseEnabled then
      some { s with poses := appendPending s.now stamp gga s.poses } else some s) = some s' at hs
    split at hs <;> obtain rfl := Option.some.inj hs <;> exact .inl he
  | latestHpr hpr fresh =>
    obtain rfl := Option.some.inj hs
    exact (matchPendingLocalPoses_topic he).imp id .inr
  | hpr hpr =>
    obtain rfl := Option.some.inj hs
    exact (matchPendingLocalPoses_topic he).imp id .inr
  | localPoseInvalid stamp =>
    obtain rfl := Option.some.inj hs
    exact (publishInvalidLocalPose_topic he).imp id fun h => .inl h.2
  | expire =>
    obtain rfl := Option.some.inj hs
    change e ∈ (expirePendingLocalPoses cfg s.now s.poses).topic at he
    unfold expirePendingLocalPoses at he
    split at he
    · exact .inl he
    · exact (foldl_publishLocalPose_topic he).imp id .inl
  | attitudeTimeout stamp =>
    obtain rfl := Option.some.inj hs
    exact (publishInvalidLocalPose_topic he).imp id fun h => .inl h.2

/-- The HPRs of the poses were matched. -/
def Matched (tr : List (PoseState × PoseEvent)) (s : PoseState) : Prop :=
  ∀ e ∈ s.poses.topic, ∀ hpr, e.hpr = some hpr → hpr ∈ hprEvents tr

theorem poseStep_matched {tr : List (PoseState × PoseEvent)} {s s' : PoseState} {event : PoseEvent}
    (h : Matched tr s) (hs : poseStep cfg s event = some s') :
    Matched (tr ++ [(s, event)]) s' := by
  intro e he hpr hhpr
  unfold hprEvents
  rw [List.filterMap_append, List.mem_append]
  rcases poseStep_topic hs he with hold | hnone | hevent
  · exact .inl (h e hold hpr hhpr)
  · rw [hnone] at hhpr
    cases hhpr
  · right
    rw [hhpr] at hevent
    simp [← hevent]

/-- The items the poses were made of are in the order of their indices. -/
theorem Ordered.sources_lt {now : ℚ} {s : LocalPoses} (h : Ordered cfg now s) :
    s.sources.Pairwise (·.index < ·.index) := by
  have hsub : s.sources.Sublist s.drained :=
    (List.sublist_append_left _ _).trans h.sublist
  refine List.Pairwise.sublist hsub ?_
  have hrange : (s.drained.map (·.index)).Pairwise (· < ·) := by
    rw [h.index]
    exact List.pairwise_lt_range
  exact List.pairwise_map.mp hrange

theorem Ordered.drained_index {now : ℚ} {s : LocalPoses} (h : Ordered cfg now s)
    {item : PendingGga} (hi : item ∈ s.drained) : s.drained[item.index]? = some item := by
  obtain ⟨i, hlt, rfl⟩ := List.mem_iff_getElem.mp hi
  have hindex : (s.drained.map (·.index))[i]? = some i := by
    rw [h.index]
    simp [hlt]
  have : s.drained[i].index = i := by simpa [hlt] using hindex
  rw [this]
  simp [hlt]

/-! ### Main result -/

/-- **Local poses match in order.** After any sequence of events, with a clock
that does not go back: the poses published for GGA events come in the order of
those events, at most one for each; the HPRs they were made with are of events
that matched one; and every pose published as valid combines a GGA with a fix and
a usable HPR of about the same time of the day. -/
theorem localPose_matching (cfg : PoseConfig) {now : ℚ} {tr : List (PoseState × PoseEvent)}
    {s : PoseState} (h : Run (poseStep cfg) (fun _ _ => True) ⟨now, .init⟩ tr s) :
    s.poses.sources.Pairwise (·.index < ·.index) ∧
      (∀ item ∈ s.poses.sources, (ggaEvents tr)[item.index]? = some (item.stamp, item.gga)) ∧
      (∀ e ∈ s.poses.topic, ∀ hpr, e.hpr = some hpr → hpr ∈ hprEvents tr) ∧
      ∀ e ∈ s.poses.topic, Sound cfg e := by
  have hinv : Ordered cfg s.now s.poses ∧ Drained cfg tr s ∧ Matched tr s := by
    apply h.invariant
    · exact ⟨Ordered.init, by simp [Drained, ggaEvents, LocalPoses.init],
        by simp [Matched, LocalPoses.init]⟩
    · intro tr s e s' ih _ he
      obtain ⟨hordered, hdrained, hmatched⟩ := ih
      exact ⟨poseStep_ordered hordered he, poseStep_drained hdrained he,
        poseStep_matched hmatched he⟩
  obtain ⟨hordered, hdrained, hmatched⟩ := hinv
  refine ⟨hordered.sources_lt, ?_, hmatched, hordered.sound⟩
  intro item hi
  have hmem : item ∈ s.poses.drained :=
    hordered.sublist.subset (List.mem_append_left _ hi)
  have hat : (s.poses.drained.map (fun item => (item.stamp, item.gga)))[item.index]? =
      some (item.stamp, item.gga) := by
    simp [hordered.drained_index hmem]
  unfold Drained at hdrained
  split at hdrained
  · rwa [hdrained] at hat
  · rw [hdrained] at hat
    cases hat

/-- Parameters with a tolerance of 0.2 seconds. -/
def poseConfigExample : PoseConfig where
  localPoseEnabled := true
  localFrameId := "map".toList
  localPoseSyncTolerance := 1 / 5
  headingOffsetDeg := .fin 0
  localProjector := ⟨fun latitude longitude => (longitude, latitude)⟩

/-- A fix at a UTC time. -/
def ggaAt (utcTime : Text) : GgaData :=
  ⟨[], utcTime, .fin 31, .fin 121, 4, 12, .fin 1, .fin 8⟩

/-- A usable attitude at a UTC time. -/
def hprAt (utcTime : Text) : HprData :=
  ⟨[], "GNHPR".toList, utcTime, .fin 90, .fin 0, .fin 0, 4, 12, .fin 1, []⟩

/-- A GGA just before midnight waits for the HPR just after it, and the next
one expires. -/
def midnightEvents : List PoseEvent :=
  [.gga 1 (ggaAt "235959.90".toList), .hpr (hprAt "000000.05".toList), .tick 1,
    .gga 2 (ggaAt "000001.00".toList), .tick 2, .expire]

/-- The midnight run publishes one valid pose and one invalid one. -/
theorem localPose_matching_midnight : ∃ tr s,
    Run (poseStep poseConfigExample) (fun _ _ => True) ⟨0, .init⟩ tr s ∧
      s.poses.topic.map (·.message.dataValid) = [true, false] ∧
      s.poses.sources.Pairwise (·.index < ·.index) ∧
      (∀ item ∈ s.poses.sources, (ggaEvents tr)[item.index]? = some (item.stamp, item.gga)) ∧
      (∀ e ∈ s.poses.topic, ∀ hpr, e.hpr = some hpr → hpr ∈ hprEvents tr) ∧
      ∀ e ∈ s.poses.topic, Sound poseConfigExample e := by
  have hexec : (exec (poseStep poseConfigExample) ⟨0, .init⟩ midnightEvents).map
      (fun s => s.poses.topic.map (·.message.dataValid)) = some [true, false] := by
    decide +kernel
  obtain ⟨s, hs, htopic⟩ := Option.map_eq_some_iff.mp hexec
  obtain ⟨tr, -, hrun⟩ := Run.of_exec hs
  exact ⟨tr, s, hrun, htopic, localPose_matching poseConfigExample hrun⟩

end Gnss
end SensorSupport
