/-
# Stale local poses of the GNSS node

The local poses of the node move by the events of `LocalPose` only
(`nodeStep_poses`), so that every run of the node is a run of those events
(`Run.poses`) and its poses are matched as `LocalPose` shows. The validity flag
is that of the last published pose (`LocalPoses.Shown`).

The timeout check of a drain invalidates the pose together with the attitude,
once. A pose can become valid again while the stale flag is still set: from a GGA
and a stored HPR whose event is not drained. `FlagInv` says that such a pose is on
its way to that event, which resets the flag, as long as the event is in the queue
when the GGA is matched and no overflow throws it away. Otherwise the check
returns early from then on and nothing invalidates the pose (`localPose_stale`).

Key definitions: `LocalPoses.Shown`, `resetsFlag`, `FlagInv`.
Key theorems: `Run.poses`, `localPose_staleness`, `localPose_stale`.
-/
import SensorSupport.Gnss.NodeAttitude

namespace SensorSupport
namespace Gnss

/-! ### The validity flag -/

/-- The validity flag is that of the last pose on the topic. -/
def LocalPoses.Shown (s : LocalPoses) : Prop :=
  s.localPoseValid = s.topic.getLast?.any (·.message.dataValid)

section Poses

variable {cfg : PoseConfig} {s : LocalPoses}

theorem publishLocalPose_shown (item : PendingGga) (hpr : Option HprData) :
    (publishLocalPose cfg s item hpr).Shown := by
  simp [LocalPoses.Shown, publishLocalPose]

theorem foldl_publishLocalPose_shown (hpr : Option HprData) (items : List PendingGga)
    (h : s.Shown) : (items.foldl (fun s item => publishLocalPose cfg s item hpr) s).Shown := by
  induction items generalizing s with
  | nil => exact h
  | cons item items ih => exact ih (publishLocalPose_shown item hpr)

theorem matchPendingLocalPoses_shown (hpr : HprData) (fresh : Bool) (h : s.Shown) :
    (matchPendingLocalPoses cfg hpr fresh s).Shown := by
  unfold matchPendingLocalPoses
  split
  · exact h
  · exact foldl_publishLocalPose_shown _ _ h

theorem expirePendingLocalPoses_shown (now : ℚ) (h : s.Shown) :
    (expirePendingLocalPoses cfg now s).Shown := by
  unfold expirePendingLocalPoses
  split
  · exact h
  · exact foldl_publishLocalPose_shown _ _ h

theorem publishInvalidLocalPose_shown (stamp : Stamp) (h : s.Shown) :
    (publishInvalidLocalPose cfg stamp s).Shown := by
  unfold publishInvalidLocalPose
  split
  · exact h
  · simp [LocalPoses.Shown]

/-- Every event keeps the flag beside the topic. -/
theorem poseStep_shown {p p' : PoseState} {e : PoseEvent} (h : p.poses.Shown)
    (he : poseStep cfg p e = some p') : p'.poses.Shown := by
  cases e with
  | tick now =>
    simp only [poseStep] at he
    split at he
    · obtain rfl := Option.some.inj he
      exact h
    · cases he
  | gga stamp gga =>
    simp only [poseStep] at he
    split at he <;> obtain rfl := Option.some.inj he <;> exact h
  | latestHpr hpr fresh =>
    obtain rfl := Option.some.inj he
    exact matchPendingLocalPoses_shown hpr fresh h
  | hpr hpr =>
    obtain rfl := Option.some.inj he
    exact matchPendingLocalPoses_shown hpr true h
  | localPoseInvalid stamp =>
    obtain rfl := Option.some.inj he
    exact publishInvalidLocalPose_shown stamp h
  | expire =>
    obtain rfl := Option.some.inj he
    exact expirePendingLocalPoses_shown _ h
  | attitudeTimeout stamp =>
    obtain rfl := Option.some.inj he
    exact publishInvalidLocalPose_shown stamp h

/-- Without a heading no pose becomes valid. -/
theorem foldl_publishLocalPose_invalid (items : List PendingGga)
    (h : s.localPoseValid = false) :
    (items.foldl (fun s item => publishLocalPose cfg s item none) s).localPoseValid = false := by
  induction items generalizing s with
  | nil => exact h
  | cons item items ih =>
    apply ih
    simp [publishLocalPose, localPoseMessage]

theorem publishInvalidLocalPose_valid (stamp : Stamp) (h : s.localPoseValid = false) :
    (publishInvalidLocalPose cfg stamp s).localPoseValid = false := by
  unfold publishInvalidLocalPose
  split
  · exact h
  · rfl

/-- Does an event match an HPR? -/
def PoseEvent.matchesHpr : PoseEvent → Bool
  | .latestHpr _ _ => true
  | .hpr _ => true
  | _ => false

/-- A pose becomes valid by a match only, and only when local poses are on. -/
theorem poseStep_invalid {p p' : PoseState} {e : PoseEvent} (h : p.poses.localPoseValid = false)
    (he : poseStep cfg p e = some p')
    (hmatch : e.matchesHpr = false ∨ cfg.localPoseEnabled = false) :
    p'.poses.localPoseValid = false := by
  have hmatched : ∀ hpr fresh, cfg.localPoseEnabled = false →
      (matchPendingLocalPoses cfg hpr fresh p.poses).localPoseValid = false := by
    intro hpr fresh hoff
    simpa [matchPendingLocalPoses, hoff] using h
  cases e with
  | tick now =>
    simp only [poseStep] at he
    split at he
    · obtain rfl := Option.some.inj he
      exact h
    · cases he
  | gga stamp gga =>
    simp only [poseStep] at he
    split at he <;> obtain rfl := Option.some.inj he <;> exact h
  | latestHpr hpr fresh =>
    obtain rfl := Option.some.inj he
    rcases hmatch with hmatch | hoff
    · cases hmatch
    · exact hmatched hpr fresh hoff
  | hpr hpr =>
    obtain rfl := Option.some.inj he
    rcases hmatch with hmatch | hoff
    · cases hmatch
    · exact hmatched hpr true hoff
  | localPoseInvalid stamp =>
    obtain rfl := Option.some.inj he
    exact publishInvalidLocalPose_valid stamp h
  | expire =>
    obtain rfl := Option.some.inj he
    simp only [expirePendingLocalPoses]
    split
    · exact h
    · exact foldl_publishLocalPose_invalid _ h
  | attitudeTimeout stamp =>
    obtain rfl := Option.some.inj he
    exact publishInvalidLocalPose_valid stamp h

end Poses

/-! ### The node runs the events of the local poses -/

variable {cfg : NodeConfig} {s s' : Node}

/-- The local poses of the node, with its clock. -/
def Node.poseState (s : Node) : PoseState := ⟨s.clock, s.poses⟩

theorem handleEvent_poses (stamp : Stamp) (rounds : ℕ) (s : Node) (event : RosEvent) :
    (handleEvent cfg stamp rounds s event).poses = s.poses ∨
      ∃ e, poseStep cfg.pose s.poseState e =
          some ⟨s.clock, (handleEvent cfg stamp rounds s event).poses⟩ ∧
        (e.matchesHpr = true → ∃ hpr, event = .hpr hpr) := by
  cases event with
  | gga gga =>
    simp only [handleEvent, publishGga]
    by_cases hon : cfg.pose.localPoseEnabled
    · refine .inr ⟨.gga stamp gga, ?_, by simp [PoseEvent.matchesHpr]⟩
      simp only [poseStep, hon, if_true]
      rfl
    · rw [if_neg hon]
      exact .inl rfl
  | hpr hpr => exact .inr ⟨.hpr hpr, rfl, fun _ => ⟨hpr, rfl⟩⟩
  | localPoseInvalid => exact .inr ⟨.localPoseInvalid stamp, rfl, by simp [PoseEvent.matchesHpr]⟩
  | nmea sentence => exact .inl rfl
  | connection connected => exact .inl rfl
  | deviceConnection connected => exact .inl rfl
  | fixValid valid => exact .inl rfl
  | info text => exact .inl rfl
  | warning text => exact .inl rfl
  | error text => exact .inl rfl

theorem timerStep_poses (cfg : NodeConfig) (hrecord : HprRecord s) (stamp : Stamp) :
    (timerStep cfg s stamp).poses = s.poses ∨
      ∃ e, poseStep cfg.pose s.poseState e = some ⟨s.clock, (timerStep cfg s stamp).poses⟩ ∧
        (e.matchesHpr = true → s.latestHpr.isSome) := by
  cases htimer : s.timer with
  | draining rounds =>
    cases rounds with
    | zero => exact .inl (by simp only [timerStep, htimer])
    | succ rounds =>
      cases hget : s.rosEvents.get with
      | none => exact .inl (by simp only [timerStep, htimer, hget])
      | some x =>
        obtain ⟨event, q⟩ := x
        have hstep : timerStep cfg s stamp =
            handleEvent cfg stamp rounds { s with rosEvents := q } event := by
          simp only [timerStep, htimer, hget]
        rw [hstep]
        rcases handleEvent_poses stamp rounds { s with rosEvents := q } event with hsame | hmove
        · exact .inl hsame
        · obtain ⟨e, he, hmatches⟩ := hmove
          refine .inr ⟨e, he, ?_⟩
          intro hmatch
          obtain ⟨hpr, rfl⟩ := hmatches hmatch
          by_contra hnone
          apply hrecord.events (by simpa using hnone) hpr
          rw [BoundedQueue.get_eq_some.mp hget]
          exact List.mem_cons_self
  | matching rounds =>
    cases hlatest : s.latestHpr <;> exact .inl (by simp only [timerStep, htimer, hlatest])
  | matchingWith hpr receivedAt rounds =>
    refine .inr ⟨.latestHpr hpr
      (s.serialReady && decide (s.clock - receivedAt ≤ cfg.attitudeTimeout)), ?_, ?_⟩
    · simp only [timerStep, htimer]
      rfl
    · exact fun _ => hrecord.matching hpr receivedAt rounds htimer
  | expiring =>
    refine .inr ⟨.expire, ?_, by simp [PoseEvent.matchesHpr]⟩
    simp only [timerStep, htimer]
    rfl
  | checking =>
    cases hlatest : s.latestHpr with
    | none => exact .inl (by simp only [timerStep, htimer, hlatest])
    | some x =>
      by_cases hstale : s.attitudeStalePublished <;>
        exact .inl (by simp [timerStep, htimer, hlatest, hstale])
  | checkingAge hpr receivedAt =>
    by_cases hage : s.clock - receivedAt < cfg.attitudeTimeout
    · exact .inl (by simp only [timerStep, htimer, if_pos hage])
    · refine .inr ⟨.attitudeTimeout stamp, ?_, by simp [PoseEvent.matchesHpr]⟩
      simp only [timerStep, htimer, if_neg hage]
      rfl
  | idle => exact .inl (by simp only [timerStep, htimer])

/-- A step of the node is an event of the local poses or leaves them alone. An
HPR is matched only when one was stored. -/
theorem nodeStep_poses (hrecord : HprRecord s) {e : NodeEvent}
    (hs : nodeStep cfg s e = some s') : s'.poseState = s.poseState ∨
      ∃ pe, poseStep cfg.pose s.poseState pe = some s'.poseState ∧
        (pe.matchesHpr = true → s.latestHpr.isSome) := by
  by_cases htimer : ∃ stamp, e = .timer stamp
  · obtain ⟨stamp, rfl⟩ := htimer
    obtain rfl := Option.some.inj hs
    have hclock : (timerStep cfg s stamp).clock = s.clock := by rw [timerStep_eq]
    unfold Node.poseState
    rw [hclock]
    rcases timerStep_poses cfg hrecord stamp with hsame | hmove
    · rw [hsame]
      exact .inl rfl
    · exact .inr hmove
  · obtain ⟨-, -, -, hposes, hclock⟩ := worker_eq hs (not_exists.mp htimer)
    by_cases htick : ∃ now, e = .tick now
    · obtain ⟨now, rfl⟩ := htick
      change (if s.clock ≤ now then some { s with clock := now } else none) = some s' at hs
      split at hs
      · rename_i hle
        obtain rfl := Option.some.inj hs
        exact .inr ⟨.tick now, if_pos hle, by simp [PoseEvent.matchesHpr]⟩
      · cases hs
    · left
      unfold Node.poseState
      rw [hposes, hclock (not_exists.mp htick)]

/-- The record and the validity flag: it is that of the last pose, and stays
false while local poses are off or no HPR was stored. -/
structure PoseInv (cfg : NodeConfig) (s : Node) : Prop where
  record : HprRecord s
  shown : s.poses.Shown
  disabled : cfg.pose.localPoseEnabled = false → s.poses.localPoseValid = false
  unseen : s.latestHpr = none → s.poses.localPoseValid = false

theorem PoseInv.init (clock : ℚ) : PoseInv cfg (.init clock) where
  record := HprRecord.init clock
  shown := rfl
  disabled := fun _ => rfl
  unseen := fun _ => rfl

theorem PoseInv.step (h : PoseInv cfg s) {e : NodeEvent} (hs : nodeStep cfg s e = some s') :
    PoseInv cfg s' := by
  obtain ⟨hrecord, hnotOlder⟩ := h.record.step hs
  rcases nodeStep_poses h.record hs with hsame | ⟨pe, hpe, hmatches⟩
  · have hposes : s'.poses = s.poses := congrArg PoseState.poses hsame
    refine { record := hrecord, shown := ?_, disabled := ?_, unseen := ?_ }
    · rw [hposes]
      exact h.shown
    · rw [hposes]
      exact h.disabled
    · intro hnone
      rw [hposes]
      exact h.unseen (hnotOlder.eq_none hnone)
  · refine { record := hrecord, shown := ?_, disabled := ?_, unseen := ?_ }
    · change s'.poseState.poses.Shown
      exact poseStep_shown h.shown hpe
    · intro hoff
      change s'.poseState.poses.localPoseValid = false
      exact poseStep_invalid (h.disabled hoff) hpe (.inr hoff)
    · intro hnone
      change s'.poseState.poses.localPoseValid = false
      have hunseen := hnotOlder.eq_none hnone
      have hno : pe.matchesHpr = false := by
        by_contra hmatch
        have := hmatches (by simpa using hmatch)
        rw [hunseen] at this
        cases this
      exact poseStep_invalid (h.unseen hunseen) hpe (.inl hno)

/-- **A run of the node is a run of its local poses.** -/
theorem Run.poses {Ok : Node → NodeEvent → Prop} {clock : ℚ} {tr : List (Node × NodeEvent)}
    (h : Run (nodeStep cfg) Ok (.init clock) tr s) :
    ∃ tr', Run (poseStep cfg.pose) (fun _ _ => True) ⟨clock, .init⟩ tr' s.poseState := by
  have hinv : HprRecord s ∧
      ∃ tr', Run (poseStep cfg.pose) (fun _ _ => True) ⟨clock, .init⟩ tr' s.poseState := by
    apply h.invariant
    · exact ⟨HprRecord.init clock, [], .nil⟩
    · intro tr s e s' ih _ hs
      obtain ⟨hrecord, tr', hrun⟩ := ih
      refine ⟨(hrecord.step hs).1, ?_⟩
      rcases nodeStep_poses hrecord hs with hsame | ⟨pe, hpe, -⟩
      · rw [hsame]
        exact ⟨tr', hrun⟩
      · exact ⟨_, hrun.snoc trivial hpe⟩
  exact hinv.2

/-! ### The stale flag -/

/-- The rounds that are left of the loop of a drain. -/
def TimerMode.roundsLeft : TimerMode → Option ℕ
  | .draining rounds => some rounds
  | .matching rounds => some rounds
  | .matchingWith _ _ rounds => some rounds
  | _ => none

/-- Is an event that of an HPR? -/
def RosEvent.isHpr : RosEvent → Bool
  | .hpr _ => true
  | _ => false

/-- Does the loop of a drain come to an HPR event in the rounds that are left? -/
def Node.comesToHpr (s : Node) (rounds : ℕ) : Bool := (s.rosEvents.items.take rounds).any (·.isHpr)

/-- Is the last pose valid that is made of what is pending and an HPR? -/
def makesPose (cfg : PoseConfig) (hpr : HprData) (s : LocalPoses) : Bool :=
  dataIsValid hpr && (s.pendingLocalGga.filter (withinTolerance cfg hpr)).getLast?.any fun item =>
    item.hasFix &&
      (cfg.localProjector.project item.gga.latitude item.gga.longitude).toOption.isSome

/-- Does the next operation of a worker not throw an HPR event away while the
stale flag is set and the pose is valid? -/
def Node.keepsHpr (s : Node) : List Op → Bool
  | .discard _ :: _ => !(s.attitudeStalePublished && s.poses.localPoseValid &&
      s.rosEvents.items.head?.any (·.isHpr))
  | _ => true

/-- Does a step leave an HPR event to reset the stale flag? A GGA that is matched,
with the flag set, so that a valid pose is made needs one in the rounds that are
left, and no worker throws it away. -/
def resetsFlag (cfg : NodeConfig) (s : Node) : NodeEvent → Bool
  | .timer _ =>
    match s.timer with
    | .matchingWith hpr receivedAt rounds =>
      !(s.attitudeStalePublished && s.serialReady &&
        decide (s.clock - receivedAt ≤ cfg.attitudeTimeout) && makesPose cfg.pose hpr s.poses) ||
        s.comesToHpr rounds
    | _ => true
  | .serial _ => s.keepsHpr s.serial.code
  | .network _ => s.keepsHpr s.network.code
  | .tick _ => true
  | .stop => true

/-- A valid pose beside the stale flag is one that a drain has just made, on its
way to an HPR event. -/
def FlagInv (s : Node) : Prop :=
  s.attitudeStalePublished = true → s.poses.localPoseValid = true →
    ∃ rounds, s.timer.roundsLeft = some rounds ∧ s.comesToHpr rounds = true

section Match

variable {cfg : PoseConfig} {s : LocalPoses}

theorem localPoseMessage_dataValid (item : PendingGga) (hpr : HprData) :
    (localPoseMessage cfg item (some hpr)).dataValid = (dataIsValid hpr && (item.hasFix &&
      (cfg.localProjector.project item.gga.latitude item.gga.longitude).toOption.isSome)) := by
  cases hfix : item.hasFix <;> cases hok : dataIsValid hpr <;>
    simp [localPoseMessage, hfix, hok, Option.filter]

/-- Behind a list of items the flag is that of the last of them. -/
theorem foldl_publishLocalPose_valid (hpr : Option HprData) (items : List PendingGga) :
    (items.foldl (fun s item => publishLocalPose cfg s item hpr) s).localPoseValid =
      items.getLast?.elim s.localPoseValid fun item =>
        (localPoseMessage cfg item hpr).dataValid := by
  rcases List.eq_nil_or_concat items with rfl | ⟨items, item, rfl⟩
  · rfl
  · rw [List.concat_eq_append, List.foldl_append, List.getLast?_concat]
    rfl

/-- A match leaves a valid pose when there was one, or when it makes one. -/
theorem matchPendingLocalPoses_valid {hpr : HprData} {fresh : Bool}
    (h : (matchPendingLocalPoses cfg hpr fresh s).localPoseValid = true) :
    s.localPoseValid = true ∨ fresh = true ∧ makesPose cfg hpr s = true := by
  unfold matchPendingLocalPoses at h
  split at h
  · exact .inl h
  · rename_i hon
    push Not at hon
    simp only [foldl_publishLocalPose_valid] at h
    cases hlast : (s.pendingLocalGga.filter (withinTolerance cfg hpr)).getLast? with
    | none =>
      rw [hlast] at h
      exact .inl h
    | some item =>
      right
      rw [hlast, Option.elim_some, localPoseMessage_dataValid, Bool.and_eq_true] at h
      refine ⟨hon.2, ?_⟩
      rw [makesPose, hlast, h.1, Option.any_some, h.2]
      rfl

/-- The timeout leaves no valid pose. -/
theorem publishInvalidLocalPose_invalid (stamp : Stamp)
    (hoff : cfg.localPoseEnabled = false → s.localPoseValid = false) :
    (publishInvalidLocalPose cfg stamp s).localPoseValid = false := by
  by_cases hon : cfg.localPoseEnabled
  · by_cases hpose : s.localPoseValid
    · simp [publishInvalidLocalPose, hon, hpose]
    · exact publishInvalidLocalPose_valid stamp (by simpa using hpose)
  · exact publishInvalidLocalPose_valid stamp (hoff (by simpa using hon))

end Match

/-- Events behind the others are no loss. -/
theorem take_any_append {items more : List RosEvent} {rounds : ℕ}
    (h : (items.take rounds).any (·.isHpr) = true) :
    ((items ++ more).take rounds).any (·.isHpr) = true := by
  rw [List.take_append, List.any_append, h]
  rfl

/-- An event in front that is no HPR is no loss, and takes a round. -/
theorem take_any_cons {event : RosEvent} {items : List RosEvent} {rounds : ℕ}
    (hevent : event.isHpr = false)
    (h : ((event :: items).take (rounds + 1)).any (·.isHpr) = true) :
    (items.take rounds).any (·.isHpr) = true := by
  rwa [List.take_succ_cons, List.any_cons, hevent, Bool.false_or] at h

theorem take_any_mono {items : List RosEvent} {rounds rounds' : ℕ} (hle : rounds ≤ rounds')
    (h : (items.take rounds).any (·.isHpr) = true) :
    (items.take rounds').any (·.isHpr) = true := by
  rw [List.any_eq_true] at h ⊢
  obtain ⟨event, hin, hevent⟩ := h
  exact ⟨event, List.take_subset_take_left items hle hin, hevent⟩

/-- An operation of a worker leaves the HPR event where the drain comes to it. -/
theorem runOp_comesToHpr {op : Op} {rest : List Op} {rounds : ℕ}
    (hkeep : s.keepsHpr (op :: rest) = true) (hflag : s.attitudeStalePublished = true)
    (hvalid : s.poses.localPoseValid = true) (h : s.comesToHpr rounds = true) :
    (runOp s op).2.comesToHpr rounds = true := by
  cases op with
  | put event | putAgain event =>
    simp only [runOp]
    cases hput : s.rosEvents.put event with
    | none => exact h
    | some q =>
      unfold Node.comesToHpr at h ⊢
      simp only [(BoundedQueue.put_eq_some.mp hput).2]
      exact take_any_append h
  | discard event =>
    simp only [runOp]
    cases hget : s.rosEvents.get with
    | none => exact h
    | some x =>
      obtain ⟨oldest, q⟩ := x
      have hitems := BoundedQueue.get_eq_some.mp hget
      have holdest : oldest.isHpr = false := by
        simpa [Node.keepsHpr, hflag, hvalid, hitems] using hkeep
      unfold Node.comesToHpr at h ⊢
      rw [hitems] at h
      cases rounds with
      | zero => simp at h
      | succ rounds => exact take_any_mono (Nat.le_succ rounds) (take_any_cons holdest h)
  | clearRtcmQueue =>
    simp only [runOp]
    cases s.rtcmQueue.get <;> exact h
  | setNtripConnected connected =>
    simp only [runOp]
    split <;> exact h
  | serialReady ready => exact h
  | receiveGga gga => exact h
  | storeGga gga receivedAt => exact h
  | ggaReady ready => exact h
  | receiveHpr hpr => exact h
  | storeHpr hpr receivedAt => exact h
  | clearLatestGga => exact h

namespace FlagInv

theorem init (clock : ℚ) : FlagInv (.init clock) := by
  intro hflag
  cases hflag

/-- Outside the loop of a drain no pose is valid beside the flag. -/
theorem invalid (h : FlagInv s) (htimer : s.timer.roundsLeft = none)
    (hflag : s.attitudeStalePublished = true) : s.poses.localPoseValid = false := by
  by_contra hvalid
  obtain ⟨rounds, hrounds, -⟩ := h hflag (by simpa using hvalid)
  rw [htimer] at hrounds
  cases hrounds

/-- A step that leaves the flag and the poses alone, outside the loop. -/
theorem quiet (h : FlagInv s) (htimer : s.timer.roundsLeft = none)
    (hflag : s'.attitudeStalePublished = s.attitudeStalePublished)
    (hposes : s.poses.localPoseValid = false → s'.poses.localPoseValid = false) : FlagInv s' := by
  intro hset hvalid
  rw [hflag] at hset
  rw [hposes (h.invalid htimer hset)] at hvalid
  cases hvalid

/-- An operation of a worker. -/
theorem runOp (h : FlagInv s) {op : Op} {rest : List Op} (hkeep : s.keepsHpr (op :: rest) = true) :
    FlagInv (Gnss.runOp s op).2 := by
  intro hflag hvalid
  have htimer : (Gnss.runOp s op).2.timer = s.timer := by rw [runOp_eq]
  rw [runOp_eq] at hflag hvalid
  obtain ⟨rounds, hrounds, hcomes⟩ := h hflag hvalid
  exact ⟨rounds, htimer ▸ hrounds, runOp_comesToHpr hkeep hflag hvalid hcomes⟩

/-- An event that the loop takes out: an HPR resets the flag, and another one
leaves it on the way to the HPR. -/
theorem handleEvent (h : FlagInv s) (cfg : NodeConfig) (stamp : Stamp) {rounds : ℕ}
    {event : RosEvent} {q : BoundedQueue RosEvent 1024} (htimer : s.timer = .draining (rounds + 1))
    (hitems : s.rosEvents.items = event :: q.items) :
    FlagInv (Gnss.handleEvent cfg stamp rounds { s with rosEvents := q } event) := by
  by_cases hhpr : ∃ hpr, event = .hpr hpr
  · obtain ⟨hpr, rfl⟩ := hhpr
    intro hflag
    cases hflag
  · have hevent : event.isHpr = false := by
      cases event <;> first | rfl | exact absurd ⟨_, rfl⟩ hhpr
    have hflag' := (AttitudeInv.handleEvent_attitude cfg stamp rounds
      { s with rosEvents := q } event (not_exists.mp hhpr)).2
    intro hflag hvalid
    rw [hflag'] at hflag
    have hbefore : s.poses.localPoseValid = true := by
      by_contra hinvalid
      have hstill : (Gnss.handleEvent cfg stamp rounds
          { s with rosEvents := q } event).poses.localPoseValid = false := by
        rcases handleEvent_poses stamp rounds { s with rosEvents := q } event with hsame | hmove
        · rw [hsame]
          simpa using hinvalid
        · obtain ⟨e, he, hmatches⟩ := hmove
          refine poseStep_invalid (p := ⟨s.clock, s.poses⟩) (by simpa using hinvalid) he (.inl ?_)
          by_contra hmatch
          exact hhpr (hmatches (by simpa using hmatch))
      rw [hstill] at hvalid
      cases hvalid
    obtain ⟨rounds', hrounds, hcomes⟩ := h hflag hbefore
    rw [htimer, TimerMode.roundsLeft, Option.some.injEq] at hrounds
    rw [← hrounds, Node.comesToHpr, hitems] at hcomes
    refine ⟨rounds, ?_, ?_⟩
    · rcases handleEvent_timer cfg stamp rounds { s with rosEvents := q } event with hmode | hmode <;>
        rw [hmode] <;> rfl
    · rw [Node.comesToHpr, handleEvent_eq]
      exact take_any_cons hevent hcomes

/-- A step of the timer. The loop ends without rounds or without events, so that
no HPR event is left for a pose to wait for. -/
theorem timerStep (h : FlagInv s) (hpose : PoseInv cfg s) {stamp : Stamp}
    (hok : resetsFlag cfg s (.timer stamp) = true) : FlagInv (Gnss.timerStep cfg s stamp) := by
  cases htimer : s.timer with
  | idle =>
    apply h.quiet (by rw [htimer]; rfl) <;> simp only [Gnss.timerStep, htimer]
    exact id
  | draining rounds =>
    cases rounds with
    | zero =>
      simp only [Gnss.timerStep, htimer]
      intro hflag hvalid
      obtain ⟨rounds, hrounds, hcomes⟩ := h hflag hvalid
      rw [htimer, TimerMode.roundsLeft, Option.some.injEq] at hrounds
      simp [← hrounds, Node.comesToHpr] at hcomes
    | succ rounds =>
      cases hget : s.rosEvents.get with
      | none =>
        simp only [Gnss.timerStep, htimer, hget]
        intro hflag hvalid
        obtain ⟨rounds', -, hcomes⟩ := h hflag hvalid
        simp [Node.comesToHpr, BoundedQueue.get_eq_none.mp hget] at hcomes
      | some x =>
        obtain ⟨event, q⟩ := x
        have hstep : Gnss.timerStep cfg s stamp =
            Gnss.handleEvent cfg stamp rounds { s with rosEvents := q } event := by
          simp only [Gnss.timerStep, htimer, hget]
        rw [hstep]
        exact h.handleEvent cfg stamp htimer (BoundedQueue.get_eq_some.mp hget)
  | matching rounds =>
    intro hflag hvalid
    have hcomes : ∃ rounds', s.timer.roundsLeft = some rounds' ∧ s.comesToHpr rounds' = true := by
      apply h
      · cases hlatest : s.latestHpr <;> simpa only [Gnss.timerStep, htimer, hlatest] using hflag
      · cases hlatest : s.latestHpr <;> simpa only [Gnss.timerStep, htimer, hlatest] using hvalid
    obtain ⟨rounds', hrounds, hcomes⟩ := hcomes
    rw [htimer, TimerMode.roundsLeft, Option.some.injEq] at hrounds
    refine ⟨rounds', ?_, ?_⟩
    · cases hlatest : s.latestHpr <;>
        simp only [Gnss.timerStep, htimer, hlatest, TimerMode.roundsLeft, hrounds]
    · cases hlatest : s.latestHpr <;> simp only [Gnss.timerStep, htimer, hlatest] <;> exact hcomes
  | matchingWith hpr receivedAt rounds =>
    simp only [Gnss.timerStep, htimer]
    intro hflag hvalid
    change s.attitudeStalePublished = true at hflag
    refine ⟨rounds, rfl, ?_⟩
    change s.comesToHpr rounds = true
    rcases matchPendingLocalPoses_valid hvalid with hbefore | ⟨hfresh, hmakes⟩
    · obtain ⟨rounds', hrounds, hcomes⟩ := h hflag hbefore
      rw [htimer, TimerMode.roundsLeft, Option.some.injEq] at hrounds
      exact hrounds ▸ hcomes
    · obtain ⟨hready, hage⟩ := (Bool.and_eq_true _ _).mp hfresh
      simpa only [resetsFlag, htimer, hflag, hready, hage, hmakes, Bool.and_self, Bool.not_true,
        Bool.false_or] using hok
  | expiring =>
    apply h.quiet (by rw [htimer]; rfl) <;> simp only [Gnss.timerStep, htimer]
    intro hinvalid
    exact poseStep_invalid (p := s.poseState) (e := .expire) hinvalid rfl (.inl rfl)
  | checking =>
    cases hlatest : s.latestHpr with
    | none =>
      apply h.quiet (by rw [htimer]; rfl) <;> simp only [Gnss.timerStep, htimer, hlatest]
      exact id
    | some x =>
      by_cases hstale : s.attitudeStalePublished <;>
        apply h.quiet (by rw [htimer]; rfl) <;> simp [Gnss.timerStep, htimer, hlatest, hstale]
  | checkingAge hpr receivedAt =>
    by_cases hage : s.clock - receivedAt < cfg.attitudeTimeout
    · apply h.quiet (by rw [htimer]; rfl) <;> simp only [Gnss.timerStep, htimer, if_pos hage]
      exact id
    · simp only [Gnss.timerStep, htimer, if_neg hage]
      intro _ hvalid
      change (publishInvalidLocalPose cfg.pose stamp s.poses).localPoseValid = true at hvalid
      rw [publishInvalidLocalPose_invalid stamp hpose.disabled] at hvalid
      cases hvalid

/-- Every step that leaves an HPR event to reset the flag keeps the invariant. -/
theorem step (h : FlagInv s) (hpose : PoseInv cfg s) {e : NodeEvent}
    (hok : resetsFlag cfg s e = true) (hs : nodeStep cfg s e = some s') : FlagInv s' := by
  cases e with
  | tick now =>
    change (if s.clock ≤ now then some { s with clock := now } else none) = some s' at hs
    split at hs
    · obtain rfl := Option.some.inj hs
      exact h
    · cases hs
  | stop =>
    obtain rfl := Option.some.inj hs
    exact h
  | serial call =>
    rcases serialStep_cases hs with ⟨-, hs⟩ | ⟨op, rest, hcode, -, rfl⟩
    · rw [serialCall_eq hs]
      exact h
    · have hkeep : s.keepsHpr s.serial.code = true := hok
      exact h.runOp (hcode ▸ hkeep)
  | network call =>
    rcases networkStep_cases hs with ⟨-, hs⟩ | ⟨op, rest, hcode, -, rfl⟩
    · rw [networkCall_eq hs]
      exact h
    · have hkeep : s.keepsHpr s.network.code = true := hok
      exact h.runOp (hcode ▸ hkeep)
  | timer stamp =>
    obtain rfl := Option.some.inj hs
    exact h.timerStep hpose hok

end FlagInv

/-- **A stale local pose is not shown as valid.** In every run in which a GGA that
is matched with the stale flag set, so that a valid pose is made, has an HPR event
among those the drain still comes to, and no worker throws that event away: when a
drain ends and the last local pose published is valid, the newest HPR is no older
than the timeout. -/
theorem localPose_staleness (cfg : NodeConfig) {clock : ℚ} {tr : List (Node × NodeEvent)}
    {s : Node} (h : Run (nodeStep cfg) (fun s e => resetsFlag cfg s e = true) (.init clock) tr s)
    {stamp : Stamp} (hbusy : s.timer ≠ .idle) (hidle : (timerStep cfg s stamp).timer = .idle)
    {last : PublishedPose} (hlast : (timerStep cfg s stamp).poses.topic.getLast? = some last)
    (hvalid : last.message.dataValid = true) :
    ∃ hpr receivedAt, s.latestHpr = some (hpr, receivedAt) ∧
      s.clock - receivedAt ≤ cfg.attitudeTimeout := by
  have hinv : PoseInv cfg s ∧ FlagInv s := by
    apply h.invariant
    · exact ⟨PoseInv.init clock, FlagInv.init clock⟩
    · intro tr s e s' ih hok hs
      exact ⟨ih.1.step hs, ih.2.step ih.1 hok hs⟩
  obtain ⟨hpose, hflag⟩ := hinv
  have hshown : (timerStep cfg s stamp).poses.localPoseValid = true := by
    have hnext : PoseInv cfg (timerStep cfg s stamp) := hpose.step (e := .timer stamp) rfl
    rw [hnext.shown, hlast]
    exact hvalid
  rcases timerStep_idle hbusy hidle with hnone | hset | ⟨hpr, receivedAt, htimer⟩
  · obtain ⟨hlatest, -, hposes⟩ := hnone
    rw [hposes, hpose.unseen hlatest] at hshown
    cases hshown
  · -- the early return: the flag is set, so the pose is not valid
    obtain ⟨⟨hstale, htimer⟩, -, hposes⟩ := hset
    rw [hposes, hflag.invalid (by rw [htimer]; rfl) hstale] at hshown
    cases hshown
  · obtain ⟨⟨newest, newestAt⟩, hlatest, hle⟩ := hpose.record.checking hpr receivedAt htimer
    by_cases hage : s.clock - receivedAt < cfg.attitudeTimeout
    · exact ⟨newest, newestAt, hlatest, by linarith⟩
    · have hinvalid := publishInvalidLocalPose_invalid stamp hpose.disabled
      simp only [timerStep, htimer, if_neg hage, publishHpr, hinvalid] at hshown
      cases hshown

/-- Parameters with local poses. -/
def poseNodeExample : NodeConfig := { nodeConfigExample with pose := poseConfigExample }

/-- `$GGA` and `$HPR` are read together, up to the `put` of the event of the
HPR. -/
def ggaHprRead : List NodeEvent :=
  [.serial .run, .serial .run,
    .serial (.read [0x24, 0x47, 0x47, 0x41, 0x0A, 0x24, 0x48, 0x50, 0x52, 0x0A])] ++
    List.replicate 8 (.serial .run)

/-- An HPR times out; a GGA is then matched with the next HPR, whose event is
drained behind it. -/
def freshMatch : List NodeEvent :=
  hprRead ++ List.replicate 9 (.timer 0) ++ .tick 3 :: List.replicate 5 (.timer 0) ++
    ggaHprRead ++ .serial .run :: List.replicate 10 (.timer 0)

theorem localPose_staleness_fresh : ∃ tr s, tr.map Prod.snd = freshMatch ∧
    Run (nodeStep poseNodeExample) (fun s e => resetsFlag poseNodeExample s e = true) (.init 0)
        tr s ∧
      (∃ last, (timerStep poseNodeExample s 0).poses.topic.getLast? = some last ∧
        last.message.dataValid = true) ∧
      ∃ hpr receivedAt, s.latestHpr = some (hpr, receivedAt) ∧ s.clock - receivedAt ≤ 5 / 2 := by
  have hup : (exec (fun s e => if resetsFlag poseNodeExample s e then nodeStep poseNodeExample s e
      else none) (.init 0) freshMatch).map (fun s => decide (s.timer ≠ .idle ∧
        (timerStep poseNodeExample s 0).timer = .idle ∧
        (timerStep poseNodeExample s 0).poses.topic.getLast?.any (·.message.dataValid))) =
      some true := by
    decide +kernel
  obtain ⟨s, hs, hstate⟩ := Option.map_eq_some_iff.mp hup
  simp only [decide_eq_true_eq] at hstate
  obtain ⟨hbusy, hidle, hlast⟩ := hstate
  obtain ⟨last, hlast, hvalid⟩ := (Option.any_eq_true _ _).mp hlast
  obtain ⟨tr, htr, hrun⟩ := Run.of_exec_test (fun _ _ h => h) hs
  exact ⟨tr, s, htr, hrun, ⟨last, hlast, hvalid⟩,
    localPose_staleness poseNodeExample hrun hbusy hidle hlast hvalid⟩

/-- An HPR times out; a GGA is then matched with the next HPR, whose event is
not emitted before that one is too old as well. -/
def staleMatch : List NodeEvent :=
  hprRead ++ List.replicate 9 (.timer 0) ++ .tick 3 :: List.replicate 5 (.timer 0) ++
    ggaHprRead ++ List.replicate 9 (.timer 0) ++ .tick 6 :: List.replicate 3 (.timer 0)

/-- **A stale local pose can be shown as valid.** A drain ends with a valid pose
3 seconds behind the newest HPR, when the timeout is 2.5 seconds: the stale flag
is still set from the HPR before, and the check returns early. -/
theorem localPose_stale : ∃ tr s,
    Run (nodeStep poseNodeExample) (fun _ _ => True) (.init 0) tr s ∧
      s.timer ≠ .idle ∧ (timerStep poseNodeExample s 0).timer = .idle ∧
      (∃ last, (timerStep poseNodeExample s 0).poses.topic.getLast? = some last ∧
        last.message.dataValid = true) ∧
      ¬ ∃ hpr receivedAt, s.latestHpr = some (hpr, receivedAt) ∧ s.clock - receivedAt ≤ 5 / 2 := by
  have hup : (exec (nodeStep poseNodeExample) (.init 0) staleMatch).map (fun s => decide (
      s.timer ≠ .idle ∧ (timerStep poseNodeExample s 0).timer = .idle ∧
        (timerStep poseNodeExample s 0).poses.topic.getLast?.any (·.message.dataValid) ∧
        s.latestHpr.map Prod.snd = some 3 ∧ s.clock = 6)) = some true := by
    decide +kernel
  obtain ⟨s, hs, hstate⟩ := Option.map_eq_some_iff.mp hup
  simp only [decide_eq_true_eq] at hstate
  obtain ⟨hbusy, hidle, hlast, hlatest, hclock⟩ := hstate
  obtain ⟨tr, -, hrun⟩ := Run.of_exec hs
  refine ⟨tr, s, hrun, hbusy, hidle, (Option.any_eq_true _ _).mp hlast, ?_⟩
  rintro ⟨hpr, receivedAt, hnewest, hage⟩
  rw [hnewest, Option.map_some, Option.some.injEq] at hlatest
  rw [hclock, show receivedAt = 3 from hlatest] at hage
  norm_num at hage

end Gnss
end SensorSupport
