/-
# Stale attitudes of the GNSS node

The serial worker stores the newest HPR with its time and then emits an event;
the timer publishes the events, and at the end of a drain compares the newest
HPR with the timeout. `HprRecord` follows the record: it is written before the
event is emitted, and its times only grow. `AttitudeInv` has the stale flag
beside the last published attitude: publishing a fresh HPR resets the flag, so
that the early return of the timeout check is taken behind a stale attitude
only.

Key definitions: `HandlesHpr`, `HprRecord`, `AttitudeInv`.
Key theorem: `attitude_staleness`.
-/
import Mathlib.Data.List.Chain
import Mathlib.Tactic.Linarith
import SensorSupport.Gnss.Node

namespace SensorSupport
namespace Gnss

variable {cfg : NodeConfig} {s s' : Node}

/-! ### The newest HPR -/

/-- Does an operation store or emit an HPR? -/
def Op.handlesHpr : Op → Bool
  | .storeHpr _ _ => true
  | .put (.hpr _) => true
  | .discard (.hpr _) => true
  | .putAgain (.hpr _) => true
  | _ => false

/-- The operations of the serial worker behind an HPR it received: the HPR is
to be stored and emitted, or to be emitted, or that is done. -/
inductive HandlesHpr (clock : ℚ) (latest : Option (HprData × ℚ)) : List Op → Prop
  | store (hpr : HprData) (receivedAt : ℚ) (rest : List Op) : receivedAt ≤ clock →
      (∀ x, latest = some x → x.2 ≤ receivedAt) → (∀ op ∈ rest, op.handlesHpr = false) →
      HandlesHpr clock latest (.storeHpr hpr receivedAt :: .put (.hpr hpr) :: rest)
  | emit (hpr : HprData) (op : Op) (rest : List Op) :
      op ∈ [.put (.hpr hpr), .discard (.hpr hpr), .putAgain (.hpr hpr)] → latest.isSome →
      (∀ op ∈ rest, op.handlesHpr = false) → HandlesHpr clock latest (op :: rest)
  | done (ops : List Op) : (∀ op ∈ ops, op.handlesHpr = false) → HandlesHpr clock latest ops

/-- The record of the newest HPR: who writes it, and that its time only grows. -/
structure HprRecord (s : Node) : Prop where
  serial : HandlesHpr s.clock s.latestHpr s.serial.code
  network : ∀ op ∈ s.network.code, op.handlesHpr = false ∧ ∀ hpr, op ≠ .receiveHpr hpr
  past : ∀ x, s.latestHpr = some x → x.2 ≤ s.clock
  events : s.latestHpr = none → ∀ hpr, .hpr hpr ∉ s.rosEvents.items
  matching : ∀ hpr receivedAt rounds, s.timer = .matchingWith hpr receivedAt rounds →
    s.latestHpr.isSome
  checking : ∀ hpr receivedAt, s.timer = .checkingAge hpr receivedAt →
    ∃ x, s.latestHpr = some x ∧ receivedAt ≤ x.2

/-- An operation that handles no HPR and receives none leaves the record alone
and continues without one. -/
theorem runOp_noHpr {op : Op} (h : op.handlesHpr = false) (hreceive : ∀ hpr, op ≠ .receiveHpr hpr) :
    (runOp s op).2.latestHpr = s.latestHpr ∧
      (∀ op' ∈ (runOp s op).1, op'.handlesHpr = false ∧ ∀ hpr, op' ≠ .receiveHpr hpr) ∧
      ∀ hpr, .hpr hpr ∈ (runOp s op).2.rosEvents.items → .hpr hpr ∈ s.rosEvents.items := by
  cases op with
  | put event =>
    have hdiscard : (Op.discard event).handlesHpr = false := by
      cases event <;> first | rfl | cases h
    simp only [runOp]
    cases hput : s.rosEvents.put event with
    | none =>
      refine ⟨rfl, ?_, fun hpr hin => hin⟩
      intro op' hop'
      rw [List.mem_singleton.mp hop']
      exact ⟨hdiscard, by simp⟩
    | some q =>
      refine ⟨rfl, by simp, ?_⟩
      intro hpr hin
      change _ ∈ q.items at hin
      rw [(BoundedQueue.put_eq_some.mp hput).2] at hin
      rcases List.mem_append.mp hin with hin | hin
      · exact hin
      · rw [← List.mem_singleton.mp hin] at h
        cases h
  | putAgain event =>
    simp only [runOp]
    cases hput : s.rosEvents.put event with
    | none => exact ⟨rfl, by simp, fun hpr hin => hin⟩
    | some q =>
      refine ⟨rfl, by simp, ?_⟩
      intro hpr hin
      change _ ∈ q.items at hin
      rw [(BoundedQueue.put_eq_some.mp hput).2] at hin
      rcases List.mem_append.mp hin with hin | hin
      · exact hin
      · rw [← List.mem_singleton.mp hin] at h
        cases h
  | discard event =>
    have hagain : (Op.putAgain event).handlesHpr = false := by
      cases event <;> first | rfl | cases h
    simp only [runOp]
    cases hget : s.rosEvents.get with
    | none =>
      refine ⟨rfl, ?_, fun hpr hin => hin⟩
      intro op' hop'
      rw [List.mem_singleton.mp hop']
      exact ⟨hagain, by simp⟩
    | some x =>
      refine ⟨rfl, ?_, ?_⟩
      · intro op' hop'
        rw [List.mem_singleton.mp hop']
        exact ⟨hagain, by simp⟩
      · intro hpr hin
        rw [BoundedQueue.get_eq_some.mp hget]
        exact List.mem_cons_of_mem _ hin
  | clearRtcmQueue =>
    simp only [runOp]
    cases s.rtcmQueue.get with
    | none => exact ⟨rfl, by simp, fun hpr hin => hin⟩
    | some x => exact ⟨rfl, by simp [Op.handlesHpr], fun hpr hin => hin⟩
  | setNtripConnected connected =>
    simp only [runOp]
    split
    · exact ⟨rfl, by simp, fun hpr hin => hin⟩
    · exact ⟨rfl, by simp [Op.handlesHpr], fun hpr hin => hin⟩
  | serialReady ready => exact ⟨rfl, by simp [runOp, Op.handlesHpr], fun hpr hin => hin⟩
  | receiveGga gga => exact ⟨rfl, by simp [runOp, Op.handlesHpr], fun hpr hin => hin⟩
  | storeGga gga receivedAt => exact ⟨rfl, by simp [runOp], fun hpr hin => hin⟩
  | ggaReady ready => exact ⟨rfl, by simp [runOp], fun hpr hin => hin⟩
  | receiveHpr hpr => exact absurd rfl (hreceive hpr)
  | storeHpr hpr receivedAt => cases h
  | clearLatestGga => exact ⟨rfl, by simp [runOp], fun hpr hin => hin⟩

/-- The record behind another one is not older. -/
def NotOlder (latest latest' : Option (HprData × ℚ)) : Prop :=
  ∀ x, latest = some x → ∃ y, latest' = some y ∧ x.2 ≤ y.2

theorem NotOlder.rfl {latest : Option (HprData × ℚ)} : NotOlder latest latest :=
  fun x hx => ⟨x, hx, le_refl _⟩

theorem NotOlder.eq_none {latest latest' : Option (HprData × ℚ)} (h : NotOlder latest latest')
    (hnone : latest' = none) : latest = none := by
  cases hlatest : latest with
  | none => rfl
  | some x =>
    obtain ⟨y, hy, -⟩ := h x hlatest
    rw [hnone] at hy
    cases hy

/-- What an operation of the serial worker does to the record. -/
theorem HandlesHpr.run {op : Op} {rest : List Op}
    (h : HandlesHpr s.clock s.latestHpr (op :: rest))
    (hpast : ∀ x, s.latestHpr = some x → x.2 ≤ s.clock) :
    HandlesHpr s.clock (runOp s op).2.latestHpr ((runOp s op).1 ++ rest) ∧
      NotOlder s.latestHpr (runOp s op).2.latestHpr ∧
      (∀ x, (runOp s op).2.latestHpr = some x → x.2 ≤ s.clock) ∧
      ((runOp s op).2.latestHpr = none →
        ∀ hpr, .hpr hpr ∈ (runOp s op).2.rosEvents.items → .hpr hpr ∈ s.rosEvents.items) := by
  cases h with
  | store hpr receivedAt rest hclock hlatest hrest =>
    refine ⟨.emit hpr _ rest (by simp) rfl hrest, ?_, ?_, by simp [runOp]⟩
    · exact fun x hx => ⟨_, rfl, hlatest x hx⟩
    · intro x hx
      obtain rfl := Option.some.inj hx
      exact hclock
  | emit hpr op rest hop hsome hrest =>
    have hlatest : (runOp s op).2.latestHpr = s.latestHpr := by
      simp only [List.mem_cons, List.not_mem_nil, or_false] at hop
      rcases hop with rfl | rfl | rfl
      · simp only [runOp]; cases s.rosEvents.put (.hpr hpr) <;> rfl
      · simp only [runOp]; cases s.rosEvents.get <;> rfl
      · simp only [runOp]; cases s.rosEvents.put (.hpr hpr) <;> rfl
    have hcode : HandlesHpr s.clock s.latestHpr ((runOp s op).1 ++ rest) := by
      simp only [List.mem_cons, List.not_mem_nil, or_false] at hop
      rcases hop with rfl | rfl | rfl
      · simp only [runOp]
        cases s.rosEvents.put (.hpr hpr) with
        | none => exact .emit hpr _ rest (by simp) hsome hrest
        | some q => exact .done rest hrest
      · simp only [runOp]
        cases s.rosEvents.get with
        | none => exact .emit hpr _ rest (by simp) hsome hrest
        | some x => exact .emit hpr _ rest (by simp) hsome hrest
      · simp only [runOp]
        cases s.rosEvents.put (.hpr hpr) with
        | none => exact .done rest hrest
        | some q => exact .done rest hrest
    rw [hlatest]
    refine ⟨hcode, .rfl, hpast, ?_⟩
    intro hnone
    rw [hnone] at hsome
    cases hsome
  | done ops hops =>
    have hrest : ∀ op ∈ rest, op.handlesHpr = false := fun op hop =>
      hops op (List.mem_cons_of_mem _ hop)
    by_cases hreceive : ∃ hpr, op = .receiveHpr hpr
    · obtain ⟨hpr, rfl⟩ := hreceive
      refine ⟨.store hpr s.clock rest (le_refl _) hpast hrest, .rfl, hpast, ?_⟩
      exact fun _ hpr hin => hin
    · obtain ⟨hlatest, hcontinues, hevents⟩ :=
        runOp_noHpr (s := s) (hops op List.mem_cons_self) (not_exists.mp hreceive)
      rw [hlatest]
      refine ⟨.done _ ?_, .rfl, hpast, fun _ => hevents⟩
      intro op' hop'
      rcases List.mem_append.mp hop' with hop' | hop'
      · exact (hcontinues op' hop').1
      · exact hrest op' hop'

/-! ### Calls of the workers -/

theorem serialFinally_noHpr : ∀ op ∈ serialFinally, op.handlesHpr = false := by decide

theorem leaveSerial_noHpr (s : Node) (error : Option String) :
    ∀ op ∈ (leaveSerial cfg s error).serial.code, op.handlesHpr = false := by
  intro op hop
  rcases List.mem_append.mp hop with hop | hop
  · unfold serialError at hop
    repeat' split at hop
    · cases hop
    · rw [List.mem_singleton.mp hop]
      rfl
    · cases hop
  · exact serialFinally_noHpr op hop

theorem sentenceOps_noHpr (sentence : Text) :
    ∀ op ∈ sentenceOps cfg sentence, op.handlesHpr = false := by
  intro op hop
  unfold sentenceOps at hop
  rcases List.mem_cons.mp hop with rfl | hop
  · rfl
  · split at hop
    · obtain ⟨gga, -, rfl⟩ := by simpa using hop
      rfl
    · split at hop
      · obtain ⟨hpr, -, rfl⟩ := by simpa using hop
        rfl
      · cases hop

/-- A call of the serial worker prepares to receive HPRs, not to store one. -/
theorem serialCall_noHpr {mode : SerialMode} {call : SerialCall} (hcode : s.serial.code = [])
    (h : serialCall cfg s mode call = some s') :
    ∀ op ∈ s'.serial.code, op.handlesHpr = false := by
  have hnil : ∀ op ∈ s.serial.code, op.handlesHpr = false := by simp [hcode]
  unfold serialCall at h
  repeat' split at h
  all_goals cases h
  all_goals first
    | exact hnil
    | exact leaveSerial_noHpr _ _
    | skip
  · simp [Op.handlesHpr]
  · intro op hop
    obtain ⟨sentence, -, hop⟩ := List.mem_flatMap.mp hop
    exact sentenceOps_noHpr sentence op hop

theorem leaveNetwork_noHpr (s : Node) (error : Option String) :
    ∀ op ∈ (leaveNetwork s error).network.code,
      op.handlesHpr = false ∧ ∀ hpr, op ≠ .receiveHpr hpr := by
  intro op hop
  rcases List.mem_append.mp hop with hop | hop
  · repeat' split at hop
    · cases hop
    · rw [List.mem_singleton.mp hop]
      exact ⟨rfl, by simp⟩
    · cases hop
  · rw [List.mem_singleton.mp hop]
    exact ⟨rfl, by simp⟩

/-- The network worker has nothing to do with HPRs. -/
theorem networkCall_noHpr {mode : NetworkMode} {call : NetworkCall} (hcode : s.network.code = [])
    (h : networkCall cfg s mode call = some s') :
    ∀ op ∈ s'.network.code, op.handlesHpr = false ∧ ∀ hpr, op ≠ .receiveHpr hpr := by
  have hnil : ∀ op ∈ s.network.code, op.handlesHpr = false ∧ ∀ hpr, op ≠ .receiveHpr hpr := by
    simp [hcode]
  have hops : ∀ op ∈ ntripConnectedOps cfg,
      op.handlesHpr = false ∧ ∀ hpr, op ≠ .receiveHpr hpr := by
    simp [ntripConnectedOps, Op.handlesHpr]
  unfold networkCall at h
  repeat' split at h
  all_goals cases h
  all_goals first
    | exact hnil
    | exact leaveNetwork_noHpr _ _
    | exact hops
    | simp

/-! ### The timer -/

theorem handleEvent_timer (cfg : NodeConfig) (stamp : Stamp) (rounds : ℕ) (s : Node)
    (event : RosEvent) : (handleEvent cfg stamp rounds s event).timer = .draining rounds ∨
      (handleEvent cfg stamp rounds s event).timer = .matching rounds := by
  cases event with
  | gga gga =>
    simp only [handleEvent, publishGga]
    split
    · exact .inr rfl
    · exact .inl rfl
  | nmea sentence => exact .inl rfl
  | hpr hpr => exact .inl rfl
  | connection connected => exact .inl rfl
  | deviceConnection connected => exact .inl rfl
  | fixValid valid => exact .inl rfl
  | localPoseInvalid => exact .inl rfl
  | info text => exact .inl rfl
  | warning text => exact .inl rfl
  | error text => exact .inl rfl

/-- What the timer is about to match or to check is the newest HPR, and it
checks only when the stale flag is not set. -/
theorem timerStep_reads (cfg : NodeConfig) (s : Node) (stamp : Stamp) :
    (∀ hpr receivedAt rounds,
      (timerStep cfg s stamp).timer = .matchingWith hpr receivedAt rounds →
        s.latestHpr = some (hpr, receivedAt)) ∧
      ∀ hpr receivedAt, (timerStep cfg s stamp).timer = .checkingAge hpr receivedAt →
        s.latestHpr = some (hpr, receivedAt) ∧ s.attitudeStalePublished = false ∧
          s.timer = .checking := by
  unfold timerStep
  cases htimer : s.timer with
  | draining rounds =>
    cases rounds with
    | zero => simp
    | succ rounds =>
      simp only
      cases hget : s.rosEvents.get with
      | none => simp
      | some x =>
        have hmode := handleEvent_timer cfg stamp rounds
          { s with rosEvents := x.2, timer := .draining (rounds + 1) } x.1
        rcases hmode with hmode | hmode <;> simp [hmode]
  | matching rounds =>
    simp only
    cases hlatest : s.latestHpr with
    | none => simp
    | some x =>
      constructor
      · intro hpr receivedAt rounds' hmode
        injection hmode with hhpr ht
        rw [← hhpr, ← ht]
      · simp
  | checking =>
    simp only
    cases hlatest : s.latestHpr with
    | none => simp
    | some x =>
      by_cases hstale : s.attitudeStalePublished
      · simp [hstale]
      · simp only [hstale, Bool.false_eq_true, if_false]
        constructor
        · simp
        · intro hpr receivedAt hmode
          injection hmode with hhpr ht
          rw [← hhpr, ← ht]
          exact ⟨rfl, trivial, trivial⟩
  | checkingAge hpr receivedAt => simp only; split <;> simp
  | idle => simp
  | matchingWith hpr receivedAt rounds => simp
  | expiring => simp

/-- The timer takes events out of the queue. -/
theorem timerStep_events (stamp : Stamp) (s : Node) :
    ∀ event ∈ (timerStep cfg s stamp).rosEvents.items, event ∈ s.rosEvents.items := by
  intro event hin
  unfold timerStep at hin
  cases htimer : s.timer with
  | draining rounds =>
    cases rounds with
    | zero => simpa only [htimer] using hin
    | succ rounds =>
      simp only [htimer] at hin
      cases hget : s.rosEvents.get with
      | none => simpa only [hget] using hin
      | some x =>
        simp only [hget] at hin
        rw [handleEvent_eq] at hin
        rw [BoundedQueue.get_eq_some.mp hget]
        exact List.mem_cons_of_mem _ hin
  | matching rounds =>
    simp only [htimer] at hin
    cases hlatest : s.latestHpr <;> simpa only [hlatest] using hin
  | checking =>
    simp only [htimer] at hin
    cases hlatest : s.latestHpr with
    | none => simpa only [hlatest] using hin
    | some x =>
      simp only [hlatest] at hin
      split at hin <;> exact hin
  | checkingAge hpr receivedAt =>
    simp only [htimer] at hin
    split at hin <;> exact hin
  | idle => simpa only [htimer] using hin
  | matchingWith hpr receivedAt rounds => simpa only [htimer] using hin
  | expiring => simpa only [htimer] using hin

/-- How a drain ends: there is no HPR, or the stale flag is set, and nothing more
is published; or the age of an HPR is checked. -/
theorem timerStep_idle {stamp : Stamp} (hbusy : s.timer ≠ .idle)
    (hidle : (timerStep cfg s stamp).timer = .idle) :
    (s.latestHpr = none ∧ (timerStep cfg s stamp).attitudeTopic = s.attitudeTopic ∧
      (timerStep cfg s stamp).poses = s.poses) ∨
    ((s.attitudeStalePublished = true ∧ s.timer = .checking) ∧
      (timerStep cfg s stamp).attitudeTopic = s.attitudeTopic ∧
      (timerStep cfg s stamp).poses = s.poses) ∨
    ∃ hpr receivedAt, s.timer = .checkingAge hpr receivedAt := by
  cases htimer : s.timer with
  | draining rounds =>
    cases rounds with
    | zero => simp [timerStep, htimer] at hidle
    | succ rounds =>
      simp only [timerStep, htimer] at hidle
      cases hget : s.rosEvents.get with
      | none => simp [hget] at hidle
      | some x =>
        simp only [hget] at hidle
        have hmode := handleEvent_timer cfg stamp rounds
          { s with rosEvents := x.2, timer := .draining (rounds + 1) } x.1
        rcases hmode with hmode | hmode <;> simp [hmode] at hidle
  | matching rounds =>
    simp only [timerStep, htimer] at hidle
    cases hlatest : s.latestHpr <;> simp [hlatest] at hidle
  | checking =>
    simp only [timerStep, htimer] at hidle ⊢
    cases hlatest : s.latestHpr with
    | none => exact .inl ⟨rfl, rfl, rfl⟩
    | some x =>
      by_cases hstale : s.attitudeStalePublished
      · simp [hstale]
      · simp [hlatest, hstale] at hidle
  | checkingAge hpr receivedAt => exact .inr (.inr ⟨hpr, receivedAt, rfl⟩)
  | idle => exact absurd htimer hbusy
  | matchingWith hpr receivedAt rounds => simp [timerStep, htimer] at hidle
  | expiring => simp [timerStep, htimer] at hidle

/-! ### The record in a run -/

theorem HandlesHpr.mono {clock clock' : ℚ} {latest : Option (HprData × ℚ)} {ops : List Op}
    (h : HandlesHpr clock latest ops) (hle : clock ≤ clock') : HandlesHpr clock' latest ops := by
  cases h with
  | store hpr receivedAt rest hclock hlatest hrest =>
    exact .store hpr receivedAt rest (hclock.trans hle) hlatest hrest
  | emit hpr op rest hop hsome hrest => exact .emit hpr op rest hop hsome hrest
  | done ops hops => exact .done ops hops

namespace HprRecord

theorem init (clock : ℚ) : HprRecord (.init clock) where
  serial := .done [] (by simp)
  network := by simp [Node.init]
  past := by simp [Node.init]
  events := by simp [Node.init, BoundedQueue.empty]
  matching := by simp [Node.init]
  checking := by simp [Node.init]

/-- A step that leaves the timer alone. -/
theorem worker (h : HprRecord s) (htimer : s'.timer = s.timer)
    (hserial : HandlesHpr s'.clock s'.latestHpr s'.serial.code)
    (hnetwork : ∀ op ∈ s'.network.code, op.handlesHpr = false ∧ ∀ hpr, op ≠ .receiveHpr hpr)
    (hnotOlder : NotOlder s.latestHpr s'.latestHpr)
    (hpast : ∀ x, s'.latestHpr = some x → x.2 ≤ s'.clock)
    (hevents : s'.latestHpr = none →
      ∀ hpr, .hpr hpr ∈ s'.rosEvents.items → .hpr hpr ∈ s.rosEvents.items) : HprRecord s' where
  serial := hserial
  network := hnetwork
  past := hpast
  events := by
    intro hnone hpr hin
    exact h.events (hnotOlder.eq_none hnone) hpr (hevents hnone hpr hin)
  matching := by
    intro hpr receivedAt rounds hmode
    rw [htimer] at hmode
    obtain ⟨x, hx⟩ := Option.isSome_iff_exists.mp (h.matching hpr receivedAt rounds hmode)
    obtain ⟨y, hy, -⟩ := hnotOlder x hx
    rw [hy]
    rfl
  checking := by
    intro hpr receivedAt hmode
    rw [htimer] at hmode
    obtain ⟨x, hx, hle⟩ := h.checking hpr receivedAt hmode
    obtain ⟨y, hy, hxy⟩ := hnotOlder x hx
    exact ⟨y, hy, hle.trans hxy⟩

theorem serialStep (h : HprRecord s) {call : SerialCall}
    (hs : Gnss.serialStep cfg s call = some s') :
    HprRecord s' ∧ NotOlder s.latestHpr s'.latestHpr := by
  rcases serialStep_cases hs with ⟨hcode, hs⟩ | ⟨op, rest, hcode, rfl, rfl⟩
  · have hquiet := serialCall_noHpr hcode hs
    have heq := serialCall_eq hs
    have hlatest : s'.latestHpr = s.latestHpr := by rw [heq]
    have hclock : s'.clock = s.clock := by rw [heq]
    have hnotOlder : NotOlder s.latestHpr s'.latestHpr := by
      rw [hlatest]
      exact .rfl
    refine ⟨?_, hnotOlder⟩
    apply h.worker
    · rw [heq]
    · exact .done _ hquiet
    · rw [heq]
      exact h.network
    · exact hnotOlder
    · rw [hlatest, hclock]
      exact h.past
    · rw [heq]
      exact fun _ hpr hin => hin
  · have hserial := h.serial
    rw [hcode] at hserial
    obtain ⟨hhandles, hnotOlder, hpast, hevents⟩ := hserial.run h.past
    have hclock : (runOp s op).2.clock = s.clock := by rw [runOp_eq]
    have hnetwork : (runOp s op).2.network = s.network := by rw [runOp_eq]
    refine ⟨?_, hnotOlder⟩
    apply h.worker
    · change (runOp s op).2.timer = s.timer
      rw [runOp_eq]
    · change HandlesHpr (runOp s op).2.clock _ _
      rw [hclock]
      exact hhandles
    · change ∀ op' ∈ (runOp s op).2.network.code, _
      rw [hnetwork]
      exact h.network
    · exact hnotOlder
    · change ∀ x, (runOp s op).2.latestHpr = some x → x.2 ≤ (runOp s op).2.clock
      rw [hclock]
      exact hpast
    · exact hevents

theorem networkStep (h : HprRecord s) {call : NetworkCall}
    (hs : Gnss.networkStep cfg s call = some s') :
    HprRecord s' ∧ NotOlder s.latestHpr s'.latestHpr := by
  rcases networkStep_cases hs with ⟨hcode, hs⟩ | ⟨op, rest, hcode, rfl, rfl⟩
  · have hquiet := networkCall_noHpr hcode hs
    rw [networkCall_eq hs]
    refine ⟨?_, .rfl⟩
    exact h.worker rfl h.serial hquiet .rfl h.past fun _ hpr hin => hin
  · have hop := h.network op (by rw [hcode]; exact List.mem_cons_self)
    obtain ⟨hlatest, hcontinues, hevents⟩ := runOp_noHpr (s := s) hop.1 hop.2
    have hclock : (runOp s op).2.clock = s.clock := by rw [runOp_eq]
    have hserial : (runOp s op).2.serial = s.serial := by rw [runOp_eq]
    have hnotOlder : NotOlder s.latestHpr (runOp s op).2.latestHpr := by
      rw [hlatest]
      exact .rfl
    refine ⟨?_, hnotOlder⟩
    apply h.worker
    · change (runOp s op).2.timer = s.timer
      rw [runOp_eq]
    · change HandlesHpr (runOp s op).2.clock (runOp s op).2.latestHpr (runOp s op).2.serial.code
      rw [hclock, hlatest, hserial]
      exact h.serial
    · intro op' hop'
      rcases List.mem_append.mp hop' with hop' | hop'
      · exact hcontinues op' hop'
      · exact h.network op' (by rw [hcode]; exact List.mem_cons_of_mem _ hop')
    · exact hnotOlder
    · change ∀ x, (runOp s op).2.latestHpr = some x → x.2 ≤ (runOp s op).2.clock
      rw [hclock, hlatest]
      exact h.past
    · exact fun _ => hevents

theorem timerStep (h : HprRecord s) (stamp : Stamp) : HprRecord (Gnss.timerStep cfg s stamp) := by
  have hlatest : (Gnss.timerStep cfg s stamp).latestHpr = s.latestHpr := by rw [timerStep_eq]
  have hserial : (Gnss.timerStep cfg s stamp).serial = s.serial := by rw [timerStep_eq]
  have hnetwork : (Gnss.timerStep cfg s stamp).network = s.network := by rw [timerStep_eq]
  have hclock : (Gnss.timerStep cfg s stamp).clock = s.clock := by rw [timerStep_eq]
  obtain ⟨hmatching, hchecking⟩ := timerStep_reads cfg s stamp
  refine {
    serial := ?_, network := ?_, past := ?_, events := ?_, matching := ?_, checking := ?_ }
  · rw [hclock, hlatest, hserial]
    exact h.serial
  · rw [hnetwork]
    exact h.network
  · rw [hclock, hlatest]
    exact h.past
  · intro hnone hpr hin
    rw [hlatest] at hnone
    exact h.events hnone hpr (timerStep_events stamp s _ hin)
  · intro hpr receivedAt rounds hmode
    rw [hlatest, hmatching hpr receivedAt rounds hmode]
    rfl
  · intro hpr receivedAt hmode
    rw [hlatest]
    exact ⟨_, (hchecking hpr receivedAt hmode).1, le_refl _⟩

/-- Every step keeps the record, and never replaces it by an older one. -/
theorem step (h : HprRecord s) {e : NodeEvent} (hs : nodeStep cfg s e = some s') :
    HprRecord s' ∧ NotOlder s.latestHpr s'.latestHpr := by
  cases e with
  | tick now =>
    change (if s.clock ≤ now then some { s with clock := now } else none) = some s' at hs
    split at hs
    · rename_i hle
      obtain rfl := Option.some.inj hs
      refine ⟨?_, .rfl⟩
      refine h.worker rfl (h.serial.mono hle) h.network .rfl ?_ fun _ hpr hin => hin
      exact fun x hx => (h.past x hx).trans hle
    · cases hs
  | stop =>
    obtain rfl := Option.some.inj hs
    refine ⟨?_, .rfl⟩
    exact h.worker rfl h.serial h.network .rfl h.past fun _ hpr hin => hin
  | serial call => exact h.serialStep hs
  | network call => exact h.networkStep hs
  | timer stamp =>
    obtain rfl := Option.some.inj hs
    refine ⟨h.timerStep stamp, ?_⟩
    rw [timerStep_eq]
    exact .rfl

end HprRecord

/-! ### Attitudes -/

/-- The stale flag says whether the last published attitude is one that timed
out; such an attitude is not valid, and two of them do not follow each other. -/
structure AttitudeInv (s : Node) : Prop where
  unseen : s.latestHpr = none → s.attitudeTopic = []
  flag : s.attitudeStalePublished = true ↔
    ∃ last, s.attitudeTopic.getLast? = some last ∧ last.fresh = false
  stale : ∀ x ∈ s.attitudeTopic, x.fresh = false → x.message.dataValid = false
  chain : s.attitudeTopic.IsChain fun a b => a.fresh = true ∨ b.fresh = true
  checking : ∀ hpr receivedAt, s.timer = .checkingAge hpr receivedAt →
    s.attitudeStalePublished = false

namespace AttitudeInv

theorem init (clock : ℚ) : AttitudeInv (.init clock) where
  unseen := fun _ => rfl
  flag := by simp [Node.init]
  stale := by simp [Node.init]
  chain := .nil
  checking := by simp [Node.init]

/-- A step that publishes no attitude. -/
theorem quiet (h : AttitudeInv s) (htopic : s'.attitudeTopic = s.attitudeTopic)
    (hflag : s'.attitudeStalePublished = s.attitudeStalePublished)
    (hnotOlder : NotOlder s.latestHpr s'.latestHpr)
    (hchecking : ∀ hpr receivedAt, s'.timer = .checkingAge hpr receivedAt →
      s.attitudeStalePublished = false) : AttitudeInv s' where
  unseen := by
    intro hnone
    rw [htopic]
    exact h.unseen (hnotOlder.eq_none hnone)
  flag := by
    rw [htopic, hflag]
    exact h.flag
  stale := by
    rw [htopic]
    exact h.stale
  chain := by
    rw [htopic]
    exact h.chain
  checking := by
    rw [hflag]
    exact hchecking

/-- An attitude is published: a fresh one, or one that timed out behind a fresh
one. -/
theorem publish (h : AttitudeInv s) {attitude : PublishedAttitude}
    (htopic : s'.attitudeTopic = s.attitudeTopic ++ [attitude])
    (hflag : s'.attitudeStalePublished = !attitude.fresh)
    (hvalid : attitude.fresh = false → attitude.message.dataValid = false)
    (hfresh : attitude.fresh = false → s.attitudeStalePublished = false)
    (hsome : s'.latestHpr ≠ none)
    (hchecking : ∀ hpr receivedAt, s'.timer ≠ .checkingAge hpr receivedAt) : AttitudeInv s' where
  unseen := fun hnone => absurd hnone hsome
  flag := by
    rw [htopic, hflag]
    simp
  stale := by
    rw [htopic]
    intro x hx
    rcases List.mem_append.mp hx with hx | hx
    · exact h.stale x hx
    · rw [List.mem_singleton.mp hx]
      exact hvalid
  chain := by
    rw [htopic, List.isChain_append]
    refine ⟨h.chain, .singleton _, ?_⟩
    intro last hlast next hnext
    rw [List.head?_cons, Option.mem_some_iff] at hnext
    rw [← hnext]
    -- behind a stale attitude the flag is set
    by_cases hattitude : attitude.fresh = true
    · exact .inr hattitude
    · left
      have hunset := hfresh (by simpa using hattitude)
      by_contra hlastFresh
      have hset := h.flag.mpr ⟨last, hlast, by simpa using hlastFresh⟩
      rw [hunset] at hset
      cases hset
  checking := fun hpr receivedAt hmode => absurd hmode (hchecking hpr receivedAt)

/-- Only an HPR event publishes an attitude. -/
theorem handleEvent_attitude (cfg : NodeConfig) (stamp : Stamp) (rounds : ℕ) (s : Node)
    (event : RosEvent) (h : ∀ hpr, event ≠ .hpr hpr) :
    (handleEvent cfg stamp rounds s event).attitudeTopic = s.attitudeTopic ∧
      (handleEvent cfg stamp rounds s event).attitudeStalePublished = s.attitudeStalePublished := by
  cases event with
  | hpr hpr => exact absurd rfl (h hpr)
  | gga gga =>
    simp only [handleEvent, publishGga]
    split <;> exact ⟨rfl, rfl⟩
  | nmea sentence => exact ⟨rfl, rfl⟩
  | connection connected => exact ⟨rfl, rfl⟩
  | deviceConnection connected => exact ⟨rfl, rfl⟩
  | fixValid valid => exact ⟨rfl, rfl⟩
  | localPoseInvalid => exact ⟨rfl, rfl⟩
  | info text => exact ⟨rfl, rfl⟩
  | warning text => exact ⟨rfl, rfl⟩
  | error text => exact ⟨rfl, rfl⟩

theorem timerStep (h : AttitudeInv s) (hrecord : HprRecord s) (stamp : Stamp) :
    AttitudeInv (Gnss.timerStep cfg s stamp) := by
  have hreads := (timerStep_reads cfg s stamp).2
  -- a step that publishes no attitude
  have quietly : (Gnss.timerStep cfg s stamp).attitudeTopic = s.attitudeTopic →
      (Gnss.timerStep cfg s stamp).attitudeStalePublished = s.attitudeStalePublished →
      AttitudeInv (Gnss.timerStep cfg s stamp) := by
    intro htopic hflag
    apply h.quiet htopic hflag
    · rw [timerStep_eq]
      exact .rfl
    · exact fun hpr receivedAt hmode => (hreads hpr receivedAt hmode).2.1
  cases htimer : s.timer with
  | draining rounds =>
    cases rounds with
    | zero => apply quietly <;> simp only [Gnss.timerStep, htimer]
    | succ rounds =>
      cases hget : s.rosEvents.get with
      | none => apply quietly <;> simp only [Gnss.timerStep, htimer, hget]
      | some x =>
        obtain ⟨event, q⟩ := x
        by_cases hhpr : ∃ hpr, event = .hpr hpr
        · obtain ⟨hpr, rfl⟩ := hhpr
          have hsome : s.latestHpr ≠ none := by
            intro hnone
            apply hrecord.events hnone hpr
            rw [BoundedQueue.get_eq_some.mp hget]
            exact List.mem_cons_self
          have hstep : Gnss.timerStep cfg s stamp =
              handleEvent cfg stamp rounds { s with rosEvents := q } (.hpr hpr) := by
            simp only [Gnss.timerStep, htimer, hget]
          rw [hstep]
          apply h.publish
          · rfl
          · rfl
          · exact fun hfresh => by cases hfresh
          · exact fun hfresh => by cases hfresh
          · exact hsome
          · exact fun hpr receivedAt hmode => by cases hmode
        · have hevent := handleEvent_attitude cfg stamp rounds { s with rosEvents := q } event
            (not_exists.mp hhpr)
          apply quietly
          · simp only [Gnss.timerStep, htimer, hget]
            exact hevent.1
          · simp only [Gnss.timerStep, htimer, hget]
            exact hevent.2
  | matching rounds =>
    cases hlatest : s.latestHpr <;> apply quietly <;> simp only [Gnss.timerStep, htimer, hlatest]
  | checking =>
    cases hlatest : s.latestHpr with
    | none => apply quietly <;> simp only [Gnss.timerStep, htimer, hlatest]
    | some x =>
      by_cases hstale : s.attitudeStalePublished <;> apply quietly <;>
        simp [Gnss.timerStep, htimer, hlatest, hstale]
  | checkingAge hpr receivedAt =>
    have hunset := h.checking hpr receivedAt htimer
    obtain ⟨x, hlatest, -⟩ := hrecord.checking hpr receivedAt htimer
    by_cases hage : s.clock - receivedAt < cfg.attitudeTimeout
    · apply quietly <;> simp only [Gnss.timerStep, htimer, if_pos hage]
    · have hstep : Gnss.timerStep cfg s stamp = { publishHpr cfg stamp s hpr false with
          poses := publishInvalidLocalPose cfg.pose stamp s.poses
          attitudeStalePublished := true
          timer := .idle } := by
        simp only [Gnss.timerStep, htimer, if_neg hage]
        rfl
      rw [hstep]
      apply h.publish
      · rfl
      · rfl
      · exact fun _ => rfl
      · exact fun _ => hunset
      · change s.latestHpr ≠ none
        simp [hlatest]
      · exact fun hpr receivedAt hmode => by cases hmode
  | idle => apply quietly <;> simp only [Gnss.timerStep, htimer]
  | matchingWith hpr receivedAt rounds => apply quietly <;> simp only [Gnss.timerStep, htimer]
  | expiring => apply quietly <;> simp only [Gnss.timerStep, htimer]

/-- At the end of a drain a valid attitude comes from an HPR that is younger than
the timeout. -/
theorem drained (h : AttitudeInv s) (hrecord : HprRecord s) {stamp : Stamp}
    {last : PublishedAttitude} (hbusy : s.timer ≠ .idle)
    (hidle : (Gnss.timerStep cfg s stamp).timer = .idle)
    (hlast : (Gnss.timerStep cfg s stamp).attitudeTopic.getLast? = some last)
    (hvalid : last.message.dataValid = true) :
    ∃ hpr receivedAt, s.latestHpr = some (hpr, receivedAt) ∧
      s.clock - receivedAt < cfg.attitudeTimeout := by
  rcases timerStep_idle hbusy hidle with hnone | hset | ⟨hpr, receivedAt, htimer⟩
  · -- no HPR was ever received
    obtain ⟨htopic, -⟩ := hnone.2
    rw [htopic, h.unseen hnone.1] at hlast
    cases hlast
  · -- the last attitude timed out
    obtain ⟨htopic, -⟩ := hset.2
    rw [htopic] at hlast
    obtain ⟨last', hlast', hstale⟩ := h.flag.mp hset.1.1
    rw [hlast] at hlast'
    obtain rfl := Option.some.inj hlast'
    have hinvalid := h.stale last (List.mem_of_getLast? hlast) hstale
    rw [hvalid] at hinvalid
    cases hinvalid
  · obtain ⟨⟨newest, newestAt⟩, hlatest, hle⟩ := hrecord.checking hpr receivedAt htimer
    by_cases hage : s.clock - receivedAt < cfg.attitudeTimeout
    · exact ⟨newest, newestAt, hlatest, by linarith⟩
    · simp only [Gnss.timerStep, htimer, if_neg hage, publishHpr, List.getLast?_concat,
        Option.some.injEq] at hlast
      rw [← hlast] at hvalid
      cases hvalid

end AttitudeInv

/-- The workers publish nothing and do not move the clock. -/
theorem worker_eq {e : NodeEvent} (hs : nodeStep cfg s e = some s')
    (htimer : ∀ stamp, e ≠ .timer stamp) : s'.timer = s.timer ∧
      s'.attitudeTopic = s.attitudeTopic ∧
      s'.attitudeStalePublished = s.attitudeStalePublished ∧ s'.poses = s.poses ∧
      ((∀ now, e ≠ .tick now) → s'.clock = s.clock) := by
  have hop : ∀ op, (runOp s op).2.timer = s.timer ∧
      (runOp s op).2.attitudeTopic = s.attitudeTopic ∧
      (runOp s op).2.attitudeStalePublished = s.attitudeStalePublished ∧
      (runOp s op).2.poses = s.poses ∧ (runOp s op).2.clock = s.clock := by
    intro op
    rw [runOp_eq]
    exact ⟨rfl, rfl, rfl, rfl, rfl⟩
  cases e with
  | tick now =>
    change (if s.clock ≤ now then some { s with clock := now } else none) = some s' at hs
    split at hs
    · obtain rfl := Option.some.inj hs
      exact ⟨rfl, rfl, rfl, rfl, fun h => absurd rfl (h now)⟩
    · cases hs
  | stop =>
    obtain rfl := Option.some.inj hs
    exact ⟨rfl, rfl, rfl, rfl, fun _ => rfl⟩
  | timer stamp => exact absurd rfl (htimer stamp)
  | serial call =>
    rcases serialStep_cases hs with ⟨-, hs⟩ | ⟨op, rest, -, -, rfl⟩
    · rw [serialCall_eq hs]
      exact ⟨rfl, rfl, rfl, rfl, fun _ => rfl⟩
    · obtain ⟨htimer, htopic, hflag, hposes, hclock⟩ := hop op
      exact ⟨htimer, htopic, hflag, hposes, fun _ => hclock⟩
  | network call =>
    rcases networkStep_cases hs with ⟨-, hs⟩ | ⟨op, rest, -, -, rfl⟩
    · rw [networkCall_eq hs]
      exact ⟨rfl, rfl, rfl, rfl, fun _ => rfl⟩
    · obtain ⟨htimer, htopic, hflag, hposes, hclock⟩ := hop op
      exact ⟨htimer, htopic, hflag, hposes, fun _ => hclock⟩

theorem AttitudeInv.step (h : AttitudeInv s) (hrecord : HprRecord s) {e : NodeEvent}
    (hs : nodeStep cfg s e = some s') : AttitudeInv s' := by
  by_cases htimer : ∃ stamp, e = .timer stamp
  · obtain ⟨stamp, rfl⟩ := htimer
    obtain rfl := Option.some.inj hs
    exact h.timerStep hrecord stamp
  · obtain ⟨hmode, htopic, hflag, -⟩ := worker_eq hs (not_exists.mp htimer)
    apply h.quiet htopic hflag (hrecord.step hs).2
    rw [hmode]
    exact h.checking

/-- **A stale attitude is not shown as valid.** In every run: when a drain ends
and the last attitude published is valid, the newest HPR was younger than the
timeout when the drain checked it; and two attitudes that timed out never follow
each other on the topic, so that at most one is published between two fresh
ones. -/
theorem attitude_staleness (cfg : NodeConfig) {clock : ℚ} {tr : List (Node × NodeEvent)} {s : Node}
    (h : Run (nodeStep cfg) (fun _ _ => True) (.init clock) tr s) :
    (∀ stamp last, s.timer ≠ .idle → (timerStep cfg s stamp).timer = .idle →
      (timerStep cfg s stamp).attitudeTopic.getLast? = some last →
      last.message.dataValid = true →
      ∃ hpr receivedAt, s.latestHpr = some (hpr, receivedAt) ∧
        s.clock - receivedAt < cfg.attitudeTimeout) ∧
    ∀ before timedOut after, s.attitudeTopic = before ++ timedOut ++ after →
      (∀ x ∈ timedOut, x.fresh = false) → timedOut.length ≤ 1 := by
  have hinv : HprRecord s ∧ AttitudeInv s := by
    apply h.invariant
    · exact ⟨HprRecord.init clock, AttitudeInv.init clock⟩
    · intro tr s e s' ih _ hs
      exact ⟨(ih.1.step hs).1, ih.2.step ih.1 hs⟩
  obtain ⟨hrecord, hattitude⟩ := hinv
  constructor
  · intro stamp last hbusy hidle hlast hvalid
    exact hattitude.drained hrecord hbusy hidle hlast hvalid
  · intro before timedOut after htopic hall
    match timedOut with
    | [] => exact Nat.zero_le 1
    | [a] => exact le_refl 1
    | a :: b :: rest =>
      have hchain := hattitude.chain
      rw [htopic, List.append_assoc] at hchain
      have hpair := (List.isChain_append.mp hchain).2.1
      rw [List.cons_append, List.cons_append, List.isChain_cons_cons] at hpair
      have ha := hall a List.mem_cons_self
      have hb := hall b (List.mem_cons_of_mem _ List.mem_cons_self)
      simp [ha, hb] at hpair

/-- The port is opened and `$HPR` read, stored and emitted. -/
def hprRead : List NodeEvent :=
  .serial .opened :: List.replicate 5 (.serial .run) ++
    .serial (.read [0x24, 0x48, 0x50, 0x52, 0x0A]) :: List.replicate 4 (.serial .run)

theorem attitude_staleness_fresh : ∃ tr s,
    Run (nodeStep nodeConfigExample) (fun _ _ => True) (.init 0) tr s ∧
      (∃ last, (timerStep nodeConfigExample s 0).attitudeTopic.getLast? = some last ∧
        last.message.dataValid = true) ∧
      ∃ hpr receivedAt, s.latestHpr = some (hpr, receivedAt) ∧ s.clock - receivedAt < 5 / 2 := by
  have hup : (exec (nodeStep nodeConfigExample) (.init 0)
      (hprRead ++ .tick 1 :: List.replicate 8 (.timer 0))).map (fun s => decide (
        s.timer ≠ .idle ∧ (timerStep nodeConfigExample s 0).timer = .idle ∧
        (timerStep nodeConfigExample s 0).attitudeTopic.getLast?.any (·.message.dataValid))) =
      some true := by
    decide +kernel
  obtain ⟨s, hs, hstate⟩ := Option.map_eq_some_iff.mp hup
  simp only [decide_eq_true_eq] at hstate
  obtain ⟨hbusy, hidle, hlast⟩ := hstate
  obtain ⟨last, hlast, hvalid⟩ := (Option.any_eq_true _ _).mp hlast
  obtain ⟨tr, -, hrun⟩ := Run.of_exec hs
  exact ⟨tr, s, hrun, ⟨last, hlast, hvalid⟩,
    (attitude_staleness nodeConfigExample hrun).1 0 last hbusy hidle hlast hvalid⟩

end Gnss
end SensorSupport
