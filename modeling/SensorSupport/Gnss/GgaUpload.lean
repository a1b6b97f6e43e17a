/-
# GGA for the caster (`wtrtk_982dt_driver/gps_ntrip_py/gps_ntrip_node.py`)

Each round of the stream loop of `_run_ntrip_session` reads the clock and the newest GGA
and sends the GGA to the caster when `gga_send_interval_sec` has passed since it last did.
This goes between the test of the loop and its `recv`, where `Node` has a single step; a
node that uploads is a `Node` with the rounds in between, and is a `Node` to whoever does
not look at them.

The rounds of each connection are kept with what was read in them, and so is every GGA
that was stored, with the serial session it came from.

Key definitions: `Round`, `UploadNode`, `uploadStep`, `GgaRecord`, `UploadInv`.
Key theorems: `UploadNode.run_node`, `gga_uploads`, `gga_uploads_steady`.
-/
import Mathlib.Tactic.Linarith
import SensorSupport.Gnss.Node
import SensorSupport.Lib.Throttle

namespace SensorSupport
namespace Gnss

/-- A round of the stream loop up to its `recv`: the time, the newest GGA, the serial
session and how many GGAs were stored when it was read, and whether it was sent. -/
structure Round where
  now : ℚ
  latest : Option (GgaData × ℚ)
  session : ℕ
  stored : ℕ
  sent : Bool
deriving DecidableEq

/-- Where the network worker is in a round: not in one, before it reads the clock, before
it reads the newest GGA, or in `sendall`. -/
inductive UploadMode
  | ready
  | clock
  | latest (now : ℚ)
  | sending (round : Round)
deriving DecidableEq

/-- A node that uploads. `past` has the rounds of the connections before, `rounds` those of
the current one, `stored` every GGA stored with its session and time. -/
structure UploadNode where
  node : Node
  mode : UploadMode
  lastGgaSend : ℚ
  past : List (List Round)
  rounds : List Round
  stored : List (ℕ × GgaData × ℚ)

/-- After `__init__`. -/
def UploadNode.init (clock : ℚ) : UploadNode where
  node := .init clock
  mode := .ready
  lastGgaSend := 0
  past := []
  rounds := []
  stored := []

/-- The rounds of each connection. -/
def UploadNode.connections (s : UploadNode) : List (List Round) := s.past ++ [s.rounds]

/-- Is a GGA due to be sent? -/
def ggaDue (interval lastGgaSend : ℚ) (round : Round) : Bool :=
  round.latest.isSome && decide (interval ≤ round.now - lastGgaSend)

/-- How a call of the network worker in a round ends. -/
inductive UploadCall
  | run
  | sent
  | failed (error : String)

/-- The round that reads the newest GGA now. -/
def UploadNode.read (s : UploadNode) (now : ℚ) : Round :=
  ⟨now, s.node.latestGga, s.node.sessions, s.stored.length, false⟩

/-- A step of the network worker in a round. -/
def uploadCall (interval : ℚ) (s : UploadNode) : UploadMode → UploadCall → Option UploadNode
  | .clock, .run => some { s with mode := .latest s.node.clock }
  | .latest now, .run =>
    if ggaDue interval s.lastGgaSend (s.read now) then
      some { s with mode := .sending (s.read now) }
    else some { s with mode := .ready, rounds := s.rounds ++ [s.read now] }
  | .sending round, .sent =>
    some { s with
      mode := .ready
      lastGgaSend := round.now
      rounds := s.rounds ++ [{ round with sent := true }] }
  | .sending _, .failed error =>
    some { s with mode := .ready, node := leaveNetwork s.node (some error) }
  | _, _ => none

/-- The stream loop is entered, with `last_gga_send` at 0. -/
def NetworkMode.opensStream : NetworkMode → NetworkMode → Bool
  | .header _, .streaming => true
  | .queueing _ true, .streaming => true
  | _, _ => false

/-- The test of the stream loop passed. -/
def NetworkMode.entersRound : NetworkMode → NetworkMode → Bool
  | .streaming, .receiving => true
  | _, _ => false

/-- What an event stores as the newest GGA. -/
def storedBy (s : Node) : NodeEvent → List (ℕ × GgaData × ℚ)
  | .serial .run =>
    match s.serial.code with
    | .storeGga gga receivedAt :: _ => [(s.sessions, gga, receivedAt)]
    | _ => []
  | _ => []

/-- The network worker takes a step of the node, and a round or a connection may begin. -/
def networkEvent (cfg : NodeConfig) (s : UploadNode) (call : NetworkCall) : Option UploadNode :=
  if s.mode = .ready then
    (networkStep cfg s.node call).map fun node =>
      let opens := s.node.network.mode.opensStream node.network.mode
      { s with
        node := node
        mode := if s.node.network.mode.entersRound node.network.mode then .clock else .ready
        lastGgaSend := if opens then 0 else s.lastGgaSend
        past := if opens then s.past ++ [s.rounds] else s.past
        rounds := if opens then [] else s.rounds }
  else none

/-- What happens to the node: an event, or a step of a round. -/
inductive UploadEvent
  | node (e : NodeEvent)
  | upload (call : UploadCall)

/-- One event. -/
def uploadStep (cfg : NodeConfig) (interval : ℚ) (s : UploadNode) : UploadEvent → Option UploadNode
  | .node (.network call) => networkEvent cfg s call
  | .node e =>
    (nodeStep cfg s.node e).map fun node =>
      { s with node := node, stored := s.stored ++ storedBy s.node e }
  | .upload call => uploadCall interval s s.mode call

variable {cfg : NodeConfig} {interval : ℚ}

/-! ### The node below -/

/-- The network worker is at its `recv` as long as a round lasts. -/
def UploadNode.InRound (s : UploadNode) : Prop :=
  s.mode ≠ .ready → s.node.network.code = [] ∧ s.node.network.mode = .receiving

/-- What an event is to the node: a `sendall` that fails is a failure before the `recv`. -/
def UploadEvent.toNode : UploadEvent → Option NodeEvent
  | .node e => some e
  | .upload (.failed error) => some (.network (.failed error))
  | .upload _ => none

/-- What the network worker does between two rounds. -/
theorem networkEvent_eq_some {s s' : UploadNode} {call : NetworkCall}
    (h : networkEvent cfg s call = some s') :
    s.mode = .ready ∧ networkStep cfg s.node call = some s'.node ∧ s'.stored = s.stored ∧
      s'.mode = (if s.node.network.mode.entersRound s'.node.network.mode then .clock else .ready) ∧
      if s.node.network.mode.opensStream s'.node.network.mode then
        s'.lastGgaSend = 0 ∧ s'.past = s.past ++ [s.rounds] ∧ s'.rounds = []
      else s'.lastGgaSend = s.lastGgaSend ∧ s'.past = s.past ∧ s'.rounds = s.rounds := by
  unfold networkEvent at h
  split at h
  · rename_i hready
    obtain ⟨node, hnode, rfl⟩ := Option.map_eq_some_iff.mp h
    refine ⟨hready, hnode, rfl, rfl, ?_⟩
    dsimp only
    split <;> exact ⟨rfl, rfl, rfl⟩
  · cases h

/-- The test of the loop leaves the worker at its `recv`. -/
theorem entersRound_network {s s' : Node} {call : NetworkCall}
    (h : networkStep cfg s call = some s')
    (henters : s.network.mode.entersRound s'.network.mode = true) :
    s'.network.code = [] ∧ s'.network.mode = .receiving := by
  have hmodes : s.network.mode = .streaming ∧ s'.network.mode = .receiving := by
    unfold NetworkMode.entersRound at henters
    split at henters
    · exact ⟨by assumption, by assumption⟩
    · cases henters
  obtain ⟨hmode, hmode'⟩ := hmodes
  refine ⟨?_, hmode'⟩
  rcases networkStep_cases h with ⟨hcode, hcall⟩ | ⟨op, rest, hcode, -, rfl⟩
  · rw [hmode] at hcall
    cases call with
    | run =>
      simp only [networkCall] at hcall
      split at hcall
      · cases hcall
        cases hmode'
      · cases hcall
        exact hcode
    | connected => cases hcall
    | failed error => cases hcall
    | timedOut => cases hcall
    | received data => cases hcall
  · have hsame : (runOp s op).2.network.mode = s.network.mode := by rw [runOp_eq]
    rw [hsame, hmode] at hmode'
    cases hmode'

/-- The other threads leave the network worker alone. -/
theorem nodeStep_network {s s' : Node} {e : NodeEvent} (he : ∀ call, e ≠ .network call)
    (h : nodeStep cfg s e = some s') : s'.network = s.network := by
  cases e with
  | tick now =>
    simp only [nodeStep] at h
    split at h
    · cases h
      rfl
    · cases h
  | stop =>
    cases h
    rfl
  | serial call =>
    rcases serialStep_cases h with ⟨-, hcall⟩ | ⟨op, rest, -, -, rfl⟩
    · rw [serialCall_eq hcall]
    · change (runOp s op).2.network = s.network
      rw [runOp_eq]
  | network call => exact absurd rfl (he call)
  | timer stamp =>
    cases h
    rw [timerStep_eq]

/-- An event of the node is one of the network worker, or leaves the rounds alone. -/
theorem uploadStep_node_cases {s s' : UploadNode} {e : NodeEvent}
    (h : uploadStep cfg interval s (.node e) = some s') :
    (∃ call, e = .network call ∧ networkEvent cfg s call = some s') ∨
      (∀ call, e ≠ .network call) ∧ ∃ node, nodeStep cfg s.node e = some node ∧
        s' = { s with node := node, stored := s.stored ++ storedBy s.node e } := by
  cases e with
  | network call => exact .inl ⟨call, rfl, h⟩
  | tick now => exact .inr ⟨by simp, by simpa [uploadStep, eq_comm] using h⟩
  | stop => exact .inr ⟨by simp, by simpa [uploadStep, eq_comm] using h⟩
  | serial call => exact .inr ⟨by simp, by simpa [uploadStep, eq_comm] using h⟩
  | timer stamp => exact .inr ⟨by simp, by simpa [uploadStep, eq_comm] using h⟩

/-- What the worker does in a round. -/
theorem uploadCall_eq_some {s s' : UploadNode} {call : UploadCall}
    (h : uploadCall interval s s.mode call = some s') :
    (call = .run ∧ s.mode = .clock ∧ s' = { s with mode := .latest s.node.clock }) ∨
    (∃ now, call = .run ∧ s.mode = .latest now ∧
      ggaDue interval s.lastGgaSend (s.read now) = true ∧
      s' = { s with mode := .sending (s.read now) }) ∨
    (∃ now, call = .run ∧ s.mode = .latest now ∧
      ggaDue interval s.lastGgaSend (s.read now) = false ∧
      s' = { s with mode := .ready, rounds := s.rounds ++ [s.read now] }) ∨
    (∃ round, call = .sent ∧ s.mode = .sending round ∧ s' = { s with
      mode := .ready, lastGgaSend := round.now
      rounds := s.rounds ++ [{ round with sent := true }] }) ∨
    ∃ round error, call = .failed error ∧ s.mode = .sending round ∧
      s' = { s with mode := .ready, node := leaveNetwork s.node (some error) } := by
  cases hmode : s.mode with
  | ready => rw [hmode] at h; cases call <;> cases h
  | clock =>
    rw [hmode] at h
    cases call with
    | run => exact .inl ⟨rfl, rfl, (Option.some.inj h).symm⟩
    | sent => cases h
    | failed error => cases h
  | latest now =>
    rw [hmode] at h
    cases call with
    | run =>
      simp only [uploadCall] at h
      split at h
      · rename_i hdue
        exact .inr (.inl ⟨now, rfl, rfl, hdue, (Option.some.inj h).symm⟩)
      · rename_i hdue
        exact .inr (.inr (.inl ⟨now, rfl, rfl, eq_false_of_ne_true hdue, (Option.some.inj h).symm⟩))
    | sent => cases h
    | failed error => cases h
  | sending round =>
    rw [hmode] at h
    cases call with
    | run => cases h
    | sent => exact .inr (.inr (.inr (.inl ⟨round, rfl, rfl, (Option.some.inj h).symm⟩)))
    | failed error =>
      exact .inr (.inr (.inr (.inr ⟨round, error, rfl, rfl, (Option.some.inj h).symm⟩)))

namespace UploadNode

variable {s s' : UploadNode}

theorem InRound.step (h : s.InRound) {e : UploadEvent}
    (hs : uploadStep cfg interval s e = some s') : s'.InRound := by
  cases e with
  | node e =>
    rcases uploadStep_node_cases hs with ⟨call, rfl, hs⟩ | ⟨he, node, hnode, rfl⟩
    · obtain ⟨-, hnode, -, hmode, -⟩ := networkEvent_eq_some hs
      intro hround
      rw [hmode] at hround
      split at hround
      · exact entersRound_network hnode (by assumption)
      · exact absurd rfl hround
    · intro hround
      dsimp only
      rw [nodeStep_network he hnode]
      exact h hround
  | upload call =>
    rcases uploadCall_eq_some hs with ⟨-, hmode, rfl⟩ | ⟨now, -, hmode, -, rfl⟩ |
      ⟨now, -, -, -, rfl⟩ | ⟨round, -, -, rfl⟩ | ⟨round, error, -, -, rfl⟩
    · exact fun _ => h (by rw [hmode]; simp)
    · exact fun _ => h (by rw [hmode]; simp)
    · exact fun hround => absurd rfl hround
    · exact fun hround => absurd rfl hround
    · exact fun hround => absurd rfl hround

/-- A step is one of the node, or none that the node sees. -/
theorem step_node (h : s.InRound) {e : UploadEvent}
    (hs : uploadStep cfg interval s e = some s') :
    e.toNode.elim (some s.node) (nodeStep cfg s.node) = some s'.node := by
  cases e with
  | node e =>
    rcases uploadStep_node_cases hs with ⟨call, rfl, hs⟩ | ⟨-, node, hnode, rfl⟩
    · exact (networkEvent_eq_some hs).2.1
    · exact hnode
  | upload call =>
    rcases uploadCall_eq_some hs with ⟨rfl, -, rfl⟩ | ⟨now, rfl, -, -, rfl⟩ |
      ⟨now, rfl, -, -, rfl⟩ | ⟨round, rfl, -, rfl⟩ | ⟨round, error, rfl, hmode, rfl⟩
    · rfl
    · rfl
    · rfl
    · rfl
    · obtain ⟨hcode, hnetwork⟩ := h (by rw [hmode]; simp)
      change networkStep cfg s.node (.failed error) = _
      unfold networkStep
      rw [hcode, hnetwork]
      rfl

/-- **A run of a node that uploads is a run of the node**, with nothing to see of the rounds
but a `sendall` that fails. -/
theorem run_node {clock : ℚ} {tr : List (UploadNode × UploadEvent)}
    (hrun : Run (uploadStep cfg interval) (fun _ _ => True) (.init clock) tr s) :
    Run (nodeStep cfg) (fun _ _ => True) (.init clock)
      (tr.filterMap fun x => x.2.toNode.map (x.1.node, ·)) s.node := by
  have hround : ∀ x ∈ tr, x.1.InRound := by
    intro x hx
    obtain ⟨before, after, htr⟩ := List.append_of_mem hx
    have hbefore := (hrun.of_append htr).1
    exact hbefore.invariant (P := fun _ s => s.InRound) (fun h => absurd rfl h)
      fun _ _ _ _ h _ hs => h.step hs
  have hrun' : Run (uploadStep cfg interval) (fun s _ => s.InRound) (.init clock) tr s :=
    hrun.of_forall hround
  exact hrun'.simulate node (fun _ e => e.toNode) fun _ _ _ h hs => step_node h hs

end UploadNode

/-! ### The newest GGA -/

/-- Does an operation receive or store a GGA? -/
def Op.handlesGga : Op → Bool
  | .receiveGga _ => true
  | .storeGga _ _ => true
  | _ => false

/-- Does an operation store a GGA? -/
def Op.storesGga : Op → Bool
  | .storeGga _ _ => true
  | _ => false

theorem storedBy_eq_nil {s : Node} {e : NodeEvent} (he : ∀ call, e ≠ .serial call) :
    storedBy s e = [] := by
  cases e with
  | serial call => exact absurd rfl (he call)
  | tick now => rfl
  | stop => rfl
  | network call => rfl
  | timer stamp => rfl

/-- The record of the newest GGA: only the serial worker stores one, with a time that
only grows, and the record of a session is gone before the next one is opened. -/
structure GgaRecord (stored : List (ℕ × GgaData × ℚ)) (s : Node) : Prop where
  tail : ∀ op ∈ s.serial.code.tail, op.storesGga = false
  head : ∀ gga receivedAt, s.serial.code.head? = some (.storeGga gga receivedAt) →
    receivedAt ≤ s.clock ∧ ∀ x ∈ stored, x.2.2 ≤ receivedAt
  network : ∀ op ∈ s.network.code, op.handlesGga = false
  past : ∀ x ∈ stored, x.2.2 ≤ s.clock
  sorted : stored.Pairwise fun x y => x.2.2 ≤ y.2.2
  newest : ∀ x, s.latestGga = some x → stored.getLast? = some (s.sessions, x)
  closed : s.serial.mode = .closed → (s.latestGga = none ∨ .clearLatestGga ∈ s.serial.code) ∧
    ∀ op ∈ s.serial.code, op.handlesGga = false

theorem storesGga_of_handlesGga {op : Op} (h : op.handlesGga = false) : op.storesGga = false := by
  cases op <;> first | rfl | cases h

theorem not_storeGga_of {ops : List Op} (h : ∀ op ∈ ops, op.storesGga = false) {gga : GgaData}
    {receivedAt : ℚ} : ops.head? ≠ some (.storeGga gga receivedAt) := by
  intro hhead
  have hstore := h _ (List.mem_of_mem_head? hhead)
  cases hstore

variable {s s' : Node}

/-- An operation without a GGA: the record stays or is cleared, and what it continues with
has none either. -/
theorem runOp_noGga {op : Op} (h : op.handlesGga = false) :
    ((runOp s op).2.latestGga = s.latestGga ∨ (runOp s op).2.latestGga = none) ∧
      (∀ op' ∈ (runOp s op).1, op'.handlesGga = false) ∧
      (op ≠ .clearLatestGga → (runOp s op).2.latestGga = s.latestGga) := by
  cases op with
  | put event =>
    simp only [runOp]
    cases s.rosEvents.put event with
    | none => exact ⟨.inl rfl, by simp [Op.handlesGga], fun _ => rfl⟩
    | some q => exact ⟨.inl rfl, by simp, fun _ => rfl⟩
  | discard event =>
    simp only [runOp]
    cases s.rosEvents.get with
    | none => exact ⟨.inl rfl, by simp [Op.handlesGga], fun _ => rfl⟩
    | some x => exact ⟨.inl rfl, by simp [Op.handlesGga], fun _ => rfl⟩
  | putAgain event =>
    simp only [runOp]
    cases s.rosEvents.put event with
    | none => exact ⟨.inl rfl, by simp, fun _ => rfl⟩
    | some q => exact ⟨.inl rfl, by simp, fun _ => rfl⟩
  | clearRtcmQueue =>
    simp only [runOp]
    cases s.rtcmQueue.get with
    | none => exact ⟨.inl rfl, by simp, fun _ => rfl⟩
    | some x => exact ⟨.inl rfl, by simp [Op.handlesGga], fun _ => rfl⟩
  | setNtripConnected connected =>
    simp only [runOp]
    split
    · exact ⟨.inl rfl, by simp, fun _ => rfl⟩
    · exact ⟨.inl rfl, by simp [Op.handlesGga], fun _ => rfl⟩
  | serialReady ready => exact ⟨.inl rfl, by simp [runOp, Op.handlesGga], fun _ => rfl⟩
  | receiveGga gga => cases h
  | storeGga gga receivedAt => cases h
  | ggaReady ready => exact ⟨.inl rfl, by simp [runOp], fun _ => rfl⟩
  | receiveHpr hpr => exact ⟨.inl rfl, by simp [runOp, Op.handlesGga], fun _ => rfl⟩
  | storeHpr hpr receivedAt => exact ⟨.inl rfl, by simp [runOp], fun _ => rfl⟩
  | clearLatestGga => exact ⟨.inr rfl, by simp [runOp], fun hne => absurd rfl hne⟩

theorem serialFinally_noGga : ∀ op ∈ serialFinally, op.handlesGga = false := by decide

theorem clear_mem_leaveSerialGga (s : Node) (error : Option String) :
    .clearLatestGga ∈ (leaveSerial cfg s error).serial.code :=
  List.mem_append_right _ (by decide : Op.clearLatestGga ∈ serialFinally)

theorem leaveSerial_noGga (s : Node) (error : Option String) :
    ∀ op ∈ (leaveSerial cfg s error).serial.code, op.handlesGga = false := by
  intro op hop
  rcases List.mem_append.mp hop with hop | hop
  · unfold serialError at hop
    repeat' split at hop
    · cases hop
    · rw [List.mem_singleton.mp hop]
      rfl
    · cases hop
  · exact serialFinally_noGga op hop

theorem sentenceOps_noStore (sentence : Text) :
    ∀ op ∈ sentenceOps cfg sentence, op.storesGga = false := by
  intro op hop
  unfold sentenceOps at hop
  rcases List.mem_cons.mp hop with rfl | hop
  · rfl
  · split at hop
    · obtain ⟨gga, -, rfl⟩ := by simpa using hop
      rfl
    · split at hop
      · obtain ⟨hpr, -, rfl⟩ := by simpa using hop
        rfl
      · cases hop

/-- A call of the serial worker stores nothing. At the end of a session the record is
about to be cleared, and a session is opened in mode `closed` only. -/
theorem serialCall_gga {mode : SerialMode} {call : SerialCall} (hcode : s.serial.code = [])
    (h : serialCall cfg s mode call = some s') :
    (∀ op ∈ s'.serial.code, op.storesGga = false) ∧
      (s'.serial.mode = .closed → .clearLatestGga ∈ s'.serial.code ∧
        ∀ op ∈ s'.serial.code, op.handlesGga = false) ∧
      (mode ≠ .closed → s'.sessions = s.sessions) := by
  have hleave : ∀ (s'' : Node) (error : Option String),
      (∀ op ∈ (leaveSerial cfg s'' error).serial.code, op.storesGga = false) ∧
        ((leaveSerial cfg s'' error).serial.mode = .closed →
          .clearLatestGga ∈ (leaveSerial cfg s'' error).serial.code ∧
            ∀ op ∈ (leaveSerial cfg s'' error).serial.code, op.handlesGga = false) :=
    fun s'' error => ⟨fun op hop => storesGga_of_handlesGga (leaveSerial_noGga s'' error op hop),
      fun _ => ⟨clear_mem_leaveSerialGga s'' error, leaveSerial_noGga s'' error⟩⟩
  have hnil : ∀ op ∈ s.serial.code, op.storesGga = false := by simp [hcode]
  unfold serialCall at h
  repeat' split at h
  all_goals cases h
  all_goals first
    | exact ⟨(hleave _ _).1, (hleave _ _).2, fun _ => rfl⟩
    | exact ⟨hnil, nofun, fun _ => rfl⟩
    | skip
  · exact ⟨by simp [Op.storesGga], nofun, fun h => absurd rfl h⟩
  · refine ⟨?_, nofun, fun _ => rfl⟩
    intro op hop
    obtain ⟨sentence, -, hop⟩ := List.mem_flatMap.mp hop
    exact sentenceOps_noStore sentence op hop

theorem networkCall_noGga {mode : NetworkMode} {call : NetworkCall} (hcode : s.network.code = [])
    (h : networkCall cfg s mode call = some s') :
    ∀ op ∈ s'.network.code, op.handlesGga = false := by
  have hnil : ∀ op ∈ s.network.code, op.handlesGga = false := by simp [hcode]
  have hops : ∀ op ∈ ntripConnectedOps cfg, op.handlesGga = false := by
    simp [ntripConnectedOps, Op.handlesGga]
  have hleave : ∀ error, ∀ op ∈ (leaveNetwork s error).network.code, op.handlesGga = false := by
    intro error op hop
    rcases List.mem_append.mp hop with hop | hop
    · repeat' split at hop
      · cases hop
      · rw [List.mem_singleton.mp hop]
        rfl
      · cases hop
    · rw [List.mem_singleton.mp hop]
      rfl
  unfold networkCall at h
  repeat' split at h
  all_goals cases h
  all_goals first
    | exact hnil
    | exact hleave _
    | exact hops
    | simp

namespace GgaRecord

variable {stored : List (ℕ × GgaData × ℚ)}

theorem init (clock : ℚ) : GgaRecord [] (.init clock) where
  tail := by simp [Node.init]
  head := by simp [Node.init]
  network := by simp [Node.init]
  past := by simp
  sorted := .nil
  newest := by simp [Node.init]
  closed := by simp [Node.init]

/-- Behind its next operation the serial worker has none that stores. -/
theorem rest (h : GgaRecord stored s) {op : Op} {rest : List Op}
    (hcode : s.serial.code = op :: rest) : ∀ op ∈ rest, op.storesGga = false := by
  have htail := h.tail
  rwa [hcode] at htail

/-- A step that leaves the serial worker, its sessions and the record alone. -/
theorem quiet (h : GgaRecord stored s) (hserial : s'.serial = s.serial)
    (hclock : s.clock ≤ s'.clock) (hsessions : s'.sessions = s.sessions)
    (hlatest : s'.latestGga = s.latestGga ∨ s'.latestGga = none)
    (hnetwork : ∀ op ∈ s'.network.code, op.handlesGga = false) : GgaRecord stored s' where
  tail := by
    rw [hserial]
    exact h.tail
  head := by
    intro gga receivedAt hhead
    rw [hserial] at hhead
    obtain ⟨hle, hstored⟩ := h.head gga receivedAt hhead
    exact ⟨hle.trans hclock, hstored⟩
  network := hnetwork
  past := fun x hx => (h.past x hx).trans hclock
  sorted := h.sorted
  newest := by
    intro x hx
    rcases hlatest with hlatest | hlatest
    · rw [hsessions]
      exact h.newest x (hlatest ▸ hx)
    · rw [hlatest] at hx
      cases hx
  closed := by
    intro hclosed
    rw [hserial] at hclosed ⊢
    obtain ⟨hgone, hops⟩ := h.closed hclosed
    refine ⟨?_, hops⟩
    rcases hlatest with hlatest | hlatest
    · rw [hlatest]
      exact hgone
    · exact .inl hlatest

/-- A call of the serial worker. -/
theorem serialCall (h : GgaRecord stored s) (hcode : s.serial.code = []) {call : SerialCall}
    (hs : Gnss.serialCall cfg s s.serial.mode call = some s') : GgaRecord stored s' := by
  obtain ⟨hops, hclosed, hsessions⟩ := serialCall_gga hcode hs
  have heq := serialCall_eq hs
  have hclock : s'.clock = s.clock := by rw [heq]
  have hlatest : s'.latestGga = s.latestGga := by rw [heq]
  have hnetwork : s'.network = s.network := by rw [heq]
  refine {
    tail := fun op hop => hops op (List.mem_of_mem_tail hop)
    head := fun gga receivedAt hhead => absurd hhead (not_storeGga_of hops)
    network := by rw [hnetwork]; exact h.network
    past := by rw [hclock]; exact h.past
    sorted := h.sorted
    newest := ?_
    closed := fun hmode => ⟨.inr (hclosed hmode).1, (hclosed hmode).2⟩ }
  intro x hx
  rw [hlatest] at hx
  -- a session is opened when the record is cleared
  have hopen : s.serial.mode ≠ .closed := by
    intro hmode
    rcases (h.closed hmode).1 with hnone | hclear
    · rw [hnone] at hx
      cases hx
    · rw [hcode] at hclear
      cases hclear
  rw [hsessions hopen]
  exact h.newest x hx

/-- The serial worker stores the GGA it received. -/
theorem store (h : GgaRecord stored s) {gga : GgaData} {receivedAt : ℚ} {rest : List Op}
    (hcode : s.serial.code = .storeGga gga receivedAt :: rest) :
    GgaRecord (stored ++ [(s.sessions, gga, receivedAt)])
      { s with latestGga := some (gga, receivedAt), serial.code := rest } := by
  obtain ⟨hle, hstored⟩ := h.head gga receivedAt (by rw [hcode]; rfl)
  have hrest := h.rest hcode
  refine {
    tail := fun op hop => hrest op (List.mem_of_mem_tail hop)
    head := fun gga' receivedAt' hhead => absurd hhead (not_storeGga_of hrest)
    network := h.network
    past := ?_
    sorted := ?_
    newest := ?_
    closed := ?_ }
  · intro x hx
    rcases List.mem_append.mp hx with hx | hx
    · exact h.past x hx
    · rw [List.mem_singleton.mp hx]
      exact hle
  · refine List.pairwise_append.mpr ⟨h.sorted, List.pairwise_singleton _ _, ?_⟩
    intro x hx y hy
    rw [List.mem_singleton.mp hy]
    exact hstored x hx
  · intro x hx
    obtain rfl := Option.some.inj hx
    exact List.getLast?_concat
  · intro hclosed
    have hstore := (h.closed hclosed).2 (.storeGga gga receivedAt)
      (by rw [hcode]; exact List.mem_cons_self)
    cases hstore

/-- The serial worker receives a GGA, which it stores next. -/
theorem receive (h : GgaRecord stored s) {gga : GgaData} {rest : List Op}
    (hcode : s.serial.code = .receiveGga gga :: rest) :
    GgaRecord stored { s with
      serial.code := [.storeGga gga s.clock, .ggaReady true, .put (.gga gga)] ++ rest } := by
  have hrest := h.rest hcode
  refine { h with tail := ?_, head := ?_, closed := ?_ }
  · intro op hop
    change op ∈ [.ggaReady true, .put (.gga gga)] ++ rest at hop
    rcases List.mem_append.mp hop with hop | hop
    · simp only [List.mem_cons, List.not_mem_nil, or_false] at hop
      rcases hop with rfl | rfl <;> rfl
    · exact hrest op hop
  · intro gga' receivedAt hhead
    obtain ⟨rfl, rfl⟩ := Op.storeGga.inj (Option.some.inj hhead)
    exact ⟨le_refl _, h.past⟩
  · intro hclosed
    have hreceive := (h.closed hclosed).2 (.receiveGga gga)
      (by rw [hcode]; exact List.mem_cons_self)
    cases hreceive

/-- The serial worker runs an operation without a GGA. -/
theorem serialOp (h : GgaRecord stored s) {op : Op} {rest : List Op}
    (hcode : s.serial.code = op :: rest) (hop : op.handlesGga = false) :
    GgaRecord stored { (runOp s op).2 with serial.code := (runOp s op).1 ++ rest } := by
  obtain ⟨hlatest, hcontinues, hkept⟩ := runOp_noGga (s := s) hop
  have hrest := h.rest hcode
  have hops : ∀ op' ∈ (runOp s op).1 ++ rest, op'.storesGga = false := by
    intro op' hop'
    rcases List.mem_append.mp hop' with hop' | hop'
    · exact storesGga_of_handlesGga (hcontinues op' hop')
    · exact hrest op' hop'
  have hclock : (runOp s op).2.clock = s.clock := by rw [runOp_eq]
  have hnetwork : (runOp s op).2.network = s.network := by rw [runOp_eq]
  have hsessions : (runOp s op).2.sessions = s.sessions := by rw [runOp_eq]
  have hmode : (runOp s op).2.serial.mode = s.serial.mode := by rw [runOp_eq]
  refine {
    tail := fun op' hop' => hops op' (List.mem_of_mem_tail hop')
    head := fun gga receivedAt hhead => absurd hhead (not_storeGga_of hops)
    network := by dsimp only; rw [hnetwork]; exact h.network
    past := by dsimp only; rw [hclock]; exact h.past
    sorted := h.sorted
    newest := ?_
    closed := ?_ }
  · intro x hx
    dsimp only at hx ⊢
    rw [hsessions]
    rcases hlatest with hlatest | hlatest
    · exact h.newest x (hlatest ▸ hx)
    · rw [hlatest] at hx
      cases hx
  · intro hclosed
    dsimp only at hclosed ⊢
    rw [hmode] at hclosed
    obtain ⟨hgone, hnone⟩ := h.closed hclosed
    rw [hcode] at hgone hnone
    refine ⟨?_, ?_⟩
    · by_cases hclear : op = .clearLatestGga
      · rw [hclear]
        exact .inl rfl
      · rw [hkept hclear]
        refine hgone.imp_right fun hmem => List.mem_append_right _ ?_
        exact (List.mem_cons.mp hmem).resolve_left fun heq => hclear heq.symm
    · intro op' hop'
      rcases List.mem_append.mp hop' with hop' | hop'
      · exact hcontinues op' hop'
      · exact hnone op' (List.mem_cons_of_mem _ hop')

theorem serialStep (h : GgaRecord stored s) {call : SerialCall}
    (hs : Gnss.serialStep cfg s call = some s') :
    GgaRecord (stored ++ storedBy s (.serial call)) s' := by
  rcases serialStep_cases hs with ⟨hcode, hs⟩ | ⟨op, rest, hcode, rfl, rfl⟩
  · have hnone : storedBy s (.serial call) = [] := by
      unfold storedBy
      rw [hcode]
      cases call <;> rfl
    rw [hnone, List.append_nil]
    exact h.serialCall hcode hs
  · by_cases hgga : op.handlesGga = true
    · cases op with
      | storeGga gga receivedAt =>
        simp only [storedBy, hcode]
        exact h.store hcode
      | receiveGga gga =>
        simp only [storedBy, hcode, List.append_nil]
        exact h.receive hcode
      | put event => cases hgga
      | discard event => cases hgga
      | putAgain event => cases hgga
      | serialReady ready => cases hgga
      | ggaReady ready => cases hgga
      | receiveHpr hpr => cases hgga
      | storeHpr hpr receivedAt => cases hgga
      | clearLatestGga => cases hgga
      | clearRtcmQueue => cases hgga
      | setNtripConnected connected => cases hgga
    · have hnone : storedBy s (.serial .run) = [] := by
        simp only [storedBy, hcode]
        cases op <;> first | rfl | exact absurd rfl hgga
      rw [hnone, List.append_nil]
      exact h.serialOp hcode (eq_false_of_ne_true hgga)

theorem networkStep (h : GgaRecord stored s) {call : NetworkCall}
    (hs : Gnss.networkStep cfg s call = some s') : GgaRecord stored s' := by
  rcases networkStep_cases hs with ⟨hcode, hs⟩ | ⟨op, rest, hcode, -, rfl⟩
  · have hnetwork := networkCall_noGga hcode hs
    rw [networkCall_eq hs]
    exact h.quiet rfl le_rfl rfl (.inl rfl) hnetwork
  · have hop := h.network op (by rw [hcode]; exact List.mem_cons_self)
    obtain ⟨hlatest, hcontinues, -⟩ := runOp_noGga (s := s) hop
    have hclock : (runOp s op).2.clock = s.clock := by rw [runOp_eq]
    have hserial : (runOp s op).2.serial = s.serial := by rw [runOp_eq]
    have hsessions : (runOp s op).2.sessions = s.sessions := by rw [runOp_eq]
    refine h.quiet hserial hclock.ge hsessions hlatest ?_
    intro op' hop'
    rcases List.mem_append.mp hop' with hop' | hop'
    · exact hcontinues op' hop'
    · exact h.network op' (by rw [hcode]; exact List.mem_cons_of_mem _ hop')

/-- An event keeps the record, with what it stores. -/
theorem step (h : GgaRecord stored s) {e : NodeEvent} (hs : nodeStep cfg s e = some s') :
    GgaRecord (stored ++ storedBy s e) s' := by
  cases e with
  | tick now =>
    rw [storedBy_eq_nil (by simp), List.append_nil]
    simp only [nodeStep] at hs
    split at hs
    · rename_i hle
      cases hs
      exact h.quiet rfl hle rfl (.inl rfl) h.network
    · cases hs
  | stop =>
    rw [storedBy_eq_nil (by simp), List.append_nil]
    cases hs
    exact h.quiet rfl le_rfl rfl (.inl rfl) h.network
  | serial call => exact h.serialStep hs
  | network call =>
    rw [storedBy_eq_nil (by simp), List.append_nil]
    exact h.networkStep hs
  | timer stamp =>
    rw [storedBy_eq_nil (by simp), List.append_nil]
    cases hs
    rw [timerStep_eq]
    exact h.quiet rfl le_rfl rfl (.inl rfl) h.network

end GgaRecord

/-! ### The rounds -/

/-- A round read the newest GGA stored until then, which came from the open session, or from
the last one. -/
structure Round.ReadFrom (stored : List (ℕ × GgaData × ℚ)) (r : Round) : Prop where
  newest : ∀ x, r.latest = some x → (stored.take r.stored).getLast? = some (r.session, x)
  stored_le : r.stored ≤ stored.length

theorem Round.ReadFrom.append {stored : List (ℕ × GgaData × ℚ)} {r : Round}
    (h : r.ReadFrom stored) (more : List (ℕ × GgaData × ℚ)) : r.ReadFrom (stored ++ more) where
  newest := by
    intro x hx
    rw [List.take_append_of_le_length h.stored_le]
    exact h.newest x hx
  stored_le := by
    rw [List.length_append]
    exact Nat.le_add_right_of_le h.stored_le

/-- What is read now. -/
theorem GgaRecord.readFrom {s : UploadNode} (h : GgaRecord s.stored s.node) (now : ℚ) :
    (s.read now).ReadFrom s.stored where
  newest := by
    intro x hx
    change (s.stored.take s.stored.length).getLast? = _
    rw [List.take_length]
    exact h.newest x hx
  stored_le := le_refl _

/-- The rounds of a connection send what is due and nothing else. -/
def Sends (interval : ℚ) (rounds : List Round) : Prop :=
  ActsAs (ggaDue interval) Round.now Round.sent 0 rounds

/-- The rounds of every connection, with the one that goes on. -/
structure UploadInv (interval : ℚ) (s : UploadNode) : Prop where
  record : GgaRecord s.stored s.node
  reads : ∀ r ∈ s.connections.flatten, r.ReadFrom s.stored
  sends : ∀ rounds ∈ s.connections, Sends interval rounds
  last : s.lastGgaSend = lastAct (ggaDue interval) Round.now 0 s.rounds
  counts : (s.connections.flatten.map Round.stored).Pairwise (· ≤ ·)
  sending : ∀ r, s.mode = .sending r → r.ReadFrom s.stored ∧
    ggaDue interval s.lastGgaSend r = true ∧ ∀ r' ∈ s.connections.flatten, r'.stored ≤ r.stored

namespace UploadInv

theorem init (clock : ℚ) : UploadInv interval (.init clock) where
  record := .init clock
  reads := by simp [UploadNode.connections, UploadNode.init]
  sends := by
    intro rounds hrounds
    rw [List.mem_singleton.mp hrounds]
    exact .nil
  last := by rw [UploadNode.init, lastAct]
  counts := by simp [UploadNode.connections, UploadNode.init]
  sending := by simp [UploadNode.init]

variable {s s' : UploadNode}

/-- A step between rounds that leaves the connections alone. -/
theorem between (h : UploadInv interval s) {more : List (ℕ × GgaData × ℚ)}
    (hrecord : GgaRecord s'.stored s'.node) (hstored : s'.stored = s.stored ++ more)
    (hlast : s'.lastGgaSend = s.lastGgaSend) (hpast : s'.past = s.past)
    (hrounds : s'.rounds = s.rounds) (hmode : s'.mode = s.mode ∨ ∀ r, s'.mode ≠ .sending r) :
    UploadInv interval s' := by
  have hconnections : s'.connections = s.connections := by
    rw [UploadNode.connections, hpast, hrounds, UploadNode.connections]
  refine { record := hrecord, reads := ?_, sends := ?_, last := ?_, counts := ?_, sending := ?_ }
  · rw [hconnections, hstored]
    exact fun r hr => (h.reads r hr).append more
  · rw [hconnections]
    exact h.sends
  · rw [hlast, hrounds]
    exact h.last
  · rw [hconnections]
    exact h.counts
  · intro r hr
    rcases hmode with hmode | hmode
    · rw [hmode] at hr
      obtain ⟨hread, hdue, hle⟩ := h.sending r hr
      rw [hlast, hconnections, hstored]
      exact ⟨hread.append more, hdue, hle⟩
    · exact absurd hr (hmode r)

/-- A connection begins. -/
theorem opened (h : UploadInv interval s) (hrecord : GgaRecord s'.stored s'.node)
    (hstored : s'.stored = s.stored) (hlast : s'.lastGgaSend = 0)
    (hpast : s'.past = s.past ++ [s.rounds]) (hrounds : s'.rounds = [])
    (hmode : ∀ r, s'.mode ≠ .sending r) : UploadInv interval s' := by
  have hconnections : s'.connections = s.connections ++ [[]] := by
    rw [UploadNode.connections, hpast, hrounds, UploadNode.connections]
  have hflatten : s'.connections.flatten = s.connections.flatten := by
    rw [hconnections, List.flatten_append, List.flatten_singleton, List.append_nil]
  refine { record := hrecord, reads := ?_, sends := ?_, last := ?_, counts := ?_, sending := ?_ }
  · rw [hflatten, hstored]
    exact h.reads
  · intro rounds hmem
    rw [hconnections] at hmem
    rcases List.mem_append.mp hmem with hmem | hmem
    · exact h.sends rounds hmem
    · rw [List.mem_singleton.mp hmem]
      exact .nil
  · rw [hlast, hrounds, lastAct]
  · rw [hflatten]
    exact h.counts
  · exact fun r hr => absurd hr (hmode r)

/-- A round is over. -/
theorem round (h : UploadInv interval s) {r : Round} (hread : r.ReadFrom s.stored)
    (hsent : r.sent = ggaDue interval s.lastGgaSend r)
    (hle : ∀ r' ∈ s.connections.flatten, r'.stored ≤ r.stored) :
    UploadInv interval { s with
      mode := .ready
      lastGgaSend := if r.sent then r.now else s.lastGgaSend
      rounds := s.rounds ++ [r] } := by
  have hflatten : (s.past ++ [s.rounds ++ [r]]).flatten = s.connections.flatten ++ [r] := by
    rw [UploadNode.connections, List.flatten_append, List.flatten_append, List.flatten_singleton,
      List.flatten_singleton, List.append_assoc]
  have hlast := h.last
  refine {
    record := h.record, reads := ?_, sends := ?_, last := ?_, counts := ?_, sending := by simp }
  · intro r' hr'
    change r' ∈ (s.past ++ [s.rounds ++ [r]]).flatten at hr'
    rw [hflatten] at hr'
    rcases List.mem_append.mp hr' with hr' | hr'
    · exact h.reads r' hr'
    · rw [List.mem_singleton.mp hr']
      exact hread
  · intro rounds hmem
    rcases List.mem_append.mp hmem with hmem | hmem
    · exact h.sends rounds (List.mem_append_left _ hmem)
    · rw [List.mem_singleton.mp hmem]
      have hrounds := h.sends s.rounds (List.mem_append_right _ (List.mem_singleton_self _))
      exact hrounds.concat (hlast ▸ hsent)
  · dsimp only
    rw [lastAct_concat, ← hlast, ← hsent]
  · change ((s.past ++ [s.rounds ++ [r]]).flatten.map Round.stored).Pairwise (· ≤ ·)
    rw [hflatten, List.map_append, List.map_singleton]
    refine List.pairwise_append.mpr ⟨h.counts, List.pairwise_singleton _ _, ?_⟩
    intro n hn m hm
    rw [List.mem_singleton.mp hm]
    obtain ⟨r', hr', rfl⟩ := List.mem_map.mp hn
    exact hle r' hr'

/-- **A step keeps the rounds.** -/
theorem step (h : UploadInv interval s) {e : UploadEvent}
    (hs : uploadStep cfg interval s e = some s') : UploadInv interval s' := by
  cases e with
  | node e =>
    rcases uploadStep_node_cases hs with ⟨call, rfl, hs⟩ | ⟨-, node, hnode, rfl⟩
    · obtain ⟨-, hnode, hstored, hmode, hrest⟩ := networkEvent_eq_some hs
      have hrecord : GgaRecord s'.stored s'.node := by
        rw [hstored]
        exact h.record.networkStep hnode
      have hmode' : ∀ r, s'.mode ≠ .sending r := by
        rw [hmode]
        split <;> simp
      split at hrest
      · obtain ⟨hlast, hpast, hrounds⟩ := hrest
        exact h.opened hrecord hstored hlast hpast hrounds hmode'
      · obtain ⟨hlast, hpast, hrounds⟩ := hrest
        have hmore : s'.stored = s.stored ++ [] := by rw [hstored, List.append_nil]
        exact h.between hrecord hmore hlast hpast hrounds (.inr hmode')
    · exact h.between (h.record.step hnode) rfl rfl rfl rfl (.inl rfl)
  | upload call =>
    have hnow : ∀ now, ∀ r' ∈ s.connections.flatten, r'.stored ≤ (s.read now).stored :=
      fun _ r' hr' => (h.reads r' hr').stored_le
    rcases uploadCall_eq_some hs with ⟨-, -, rfl⟩ | ⟨now, -, -, hdue, rfl⟩ |
      ⟨now, -, -, hdue, rfl⟩ | ⟨round, -, hmode, rfl⟩ | ⟨round, error, -, -, rfl⟩
    · exact h.between h.record (List.append_nil _).symm rfl rfl rfl (.inr (by simp))
    · refine { h with sending := ?_ }
      intro r hr
      obtain rfl := UploadMode.sending.inj hr
      exact ⟨h.record.readFrom now, hdue, hnow now⟩
    · exact h.round (h.record.readFrom now) hdue.symm (hnow now)
    · obtain ⟨hread, hdue, hle⟩ := h.sending round hmode
      exact h.round (r := { round with sent := true }) ⟨hread.newest, hread.stored_le⟩ hdue.symm hle
    · have hrecord : GgaRecord s.stored (leaveNetwork s.node (some error)) := by
        refine h.record.quiet rfl le_rfl rfl (.inl rfl) ?_
        have hreceiving : networkCall cfg { s.node with network := ⟨[], .receiving⟩ } .receiving
            (.failed error) = some (leaveNetwork s.node (some error)) := rfl
        exact networkCall_noGga rfl hreceiving
      exact h.between hrecord (List.append_nil _).symm rfl rfl rfl (.inr (by simp))

end UploadInv

/-- What a run of the rounds keeps. -/
theorem uploadInv_of_run {clock : ℚ} {tr : List (UploadNode × UploadEvent)} {s : UploadNode}
    (hrun : Run (uploadStep cfg interval) (fun _ _ => True) (.init clock) tr s) :
    UploadInv interval s :=
  hrun.invariant (P := fun _ s => UploadInv interval s) (.init clock)
    fun _ _ _ _ h _ hs => h.step hs

/-- The times of what the rounds read only grow. -/
theorem UploadInv.receivedAt_sorted {s : UploadNode} (h : UploadInv interval s) :
    (s.connections.flatten.filterMap fun r => r.latest.map Prod.snd).Pairwise (· ≤ ·) := by
  rw [List.pairwise_filterMap]
  have hcounts := List.pairwise_map.mp h.counts
  refine hcounts.imp_of_mem ?_
  intro r r' hr hr' hle t ht t' ht'
  obtain ⟨x, hx, rfl⟩ := Option.map_eq_some_iff.mp ht
  obtain ⟨y, hy, rfl⟩ := Option.map_eq_some_iff.mp ht'
  have hread := (h.reads r hr).newest x hx
  have hread' := (h.reads r' hr').newest y hy
  have hsorted := h.record.sorted.sublist (List.take_sublist r'.stored s.stored)
  have htake : s.stored.take r.stored = (s.stored.take r'.stored).take r.stored := by
    rw [List.take_take, Nat.min_eq_left hle]
  -- the one read first is in what was stored when the other was read, of which that is last
  have hmem : (r.session, x) ∈ s.stored.take r'.stored := by
    have hmem := List.mem_of_getLast? hread
    rw [htake] at hmem
    exact List.mem_of_mem_take hmem
  obtain ⟨before, hbefore⟩ := List.getLast?_eq_some_iff.mp hread'
  rw [hbefore] at hmem hsorted
  rcases List.mem_append.mp hmem with hmem | hmem
  · exact (List.pairwise_append.mp hsorted).2.2 _ hmem _ (List.mem_singleton_self _)
  · obtain heq := List.mem_singleton.mp hmem
    rw [(Prod.mk.inj heq).2]

/-- **Uploads to the caster.** Whatever the threads do in whatever order, two GGAs in a row
that are sent over one connection are `interval` apart at least. Each GGA sent was the newest
one stored when it was read, and came from the serial session that was open then or was the
last one; the caster never gets a GGA that is older than one it got before, over whatever
connection. The node cannot tell the difference. -/
theorem gga_uploads (cfg : NodeConfig) (interval : ℚ) {clock : ℚ}
    {tr : List (UploadNode × UploadEvent)} {s : UploadNode}
    (hrun : Run (uploadStep cfg interval) (fun _ _ => True) (.init clock) tr s) :
    (∀ rounds ∈ s.connections,
      (rounds.filter (·.sent)).IsChain fun r r' => interval ≤ r'.now - r.now) ∧
    (∀ r ∈ s.connections.flatten, r.sent = true → ∃ gga receivedAt,
      r.latest = some (gga, receivedAt) ∧
      (s.stored.take r.stored).getLast? = some (r.session, gga, receivedAt)) ∧
    ((s.connections.flatten.filter (·.sent)).filterMap fun r => r.latest.map Prod.snd).Pairwise
      (· ≤ ·) ∧
    Run (nodeStep cfg) (fun _ _ => True) (.init clock)
      (tr.filterMap fun x => x.2.toNode.map (x.1.node, ·)) s.node := by
  have h := uploadInv_of_run hrun
  refine ⟨?_, ?_, ?_, UploadNode.run_node hrun⟩
  · intro rounds hrounds
    rw [(h.sends rounds hrounds).filter_eq]
    refine (acts_isChain 0 rounds).imp ?_
    intro r r' hdue
    exact of_decide_eq_true (Bool.and_eq_true_iff.mp hdue).2
  · intro r hr hsent
    obtain ⟨rounds, hrounds, hr'⟩ := List.mem_flatten.mp hr
    obtain ⟨before, after, hsplit⟩ := List.append_of_mem hr'
    have hdue := h.sends rounds hrounds before r after hsplit
    rw [hsent, eq_comm] at hdue
    obtain ⟨x, hx⟩ := Option.isSome_iff_exists.mp (Bool.and_eq_true_iff.mp hdue).1
    exact ⟨x.1, x.2, hx, (h.reads r hr).newest x hx⟩
  · exact h.receivedAt_sorted.sublist (List.filter_sublist.filterMap _)

/-- A round that sends the GGA, and waits for corrections in vain. -/
def sendingRound : List UploadEvent :=
  [.node (.network .run), .upload .run, .upload .run, .upload .sent, .node (.network .timedOut)]

/-- A round that sends nothing. -/
def quietRound : List UploadEvent :=
  [.node (.network .run), .upload .run, .upload .run, .node (.network .timedOut)]

/-- A connection with three rounds, half a second apart. -/
def uploadEvents : List UploadEvent :=
  (serialUp ++ ntripUp).map .node ++ .node (.tick 1) :: sendingRound ++
    .node (.tick (3 / 2)) :: quietRound ++ .node (.tick 2) :: sendingRound

/-- Its rounds: the GGA was stored at 0. -/
def uploadedRounds : List Round :=
  let latest := some (ggaAt "120000.00".toList, (0 : ℚ))
  [⟨1, latest, 1, 1, true⟩, ⟨3 / 2, latest, 1, 1, false⟩, ⟨2, latest, 1, 1, true⟩]

theorem run_uploadEvents : ∃ tr s,
    Run (uploadStep nodeConfigExample 1) (fun _ _ => True) (.init 0) tr s ∧
      s.rounds = uploadedRounds := by
  have hup : (exec (uploadStep nodeConfigExample 1) (.init 0) uploadEvents).map
      (fun s => decide (s.rounds = uploadedRounds)) = some true := by
    decide +kernel
  obtain ⟨s, hs, hrounds⟩ := Option.map_eq_some_iff.mp hup
  obtain ⟨tr, -, hrun⟩ := Run.of_exec hs
  exact ⟨tr, s, hrun, of_decide_eq_true hrounds⟩

theorem gga_uploads_demo : ∃ tr s,
    Run (uploadStep nodeConfigExample 1) (fun _ _ => True) (.init 0) tr s ∧
      s.rounds = uploadedRounds ∧
      (s.rounds.filter (·.sent)).IsChain fun r r' => 1 ≤ r'.now - r.now := by
  obtain ⟨tr, s, hrun, hrounds⟩ := run_uploadEvents
  have hspaced := (gga_uploads nodeConfigExample 1 hrun).1 s.rounds
    (List.mem_append_right _ (List.mem_singleton_self _))
  exact ⟨tr, s, hrun, hrounds, hspaced⟩

/-- **The caster is kept up to date**: when a GGA is there in every round of a connection and
the rounds are `δ` apart at most, the first one sends it, two that send are less than
`interval + δ` apart, and in each round the last one sent is less than `interval` ago. -/
theorem gga_uploads_steady (cfg : NodeConfig) {interval δ clock : ℚ}
    {tr : List (UploadNode × UploadEvent)} {s : UploadNode} {r₀ : Round} {rounds : List Round}
    (hrun : Run (uploadStep cfg interval) (fun _ _ => True) (.init clock) tr s)
    (hrounds : r₀ :: rounds ∈ s.connections) (hinterval : 0 < interval)
    (hstart : interval ≤ r₀.now) (hgga : ∀ r ∈ r₀ :: rounds, r.latest.isSome = true)
    (hnear : (r₀ :: rounds).IsChain fun r r' => r'.now ≤ r.now + δ) :
    r₀.sent = true ∧
    ((r₀ :: rounds).filter (·.sent)).IsChain (fun r r' => r'.now < r.now + interval + δ) ∧
    ∀ before r after, r₀ :: rounds = before ++ r :: after →
      ∃ r' ∈ before ++ [r], r'.sent = true ∧ r.now < r'.now + interval := by
  have hsends := (uploadInv_of_run hrun).sends _ hrounds
  have hearly : ∀ (r : Round) (last : ℚ), r.latest.isSome = true →
      ggaDue interval last r = false → r.now < last + interval := by
    intro r last hr hdue
    have hnot : ¬ interval ≤ r.now - last := by simpa [ggaDue, hr] using hdue
    linarith
  have hfirst : r₀.sent = true := by
    rw [hsends [] r₀ rounds rfl, lastAct]
    have h₀ := hgga r₀ List.mem_cons_self
    simpa [ggaDue, h₀] using hstart
  refine ⟨hfirst, ?_, ?_⟩
  · rw [hsends.filter_eq]
    have hclose : ∀ r r' : Round, r'.now ≤ r.now + δ → r'.now < r.now + interval + δ := by
      intro r r' hle
      linarith
    have hbehind : ∀ r r' r'' : Round, r'.latest.isSome = true →
        ggaDue interval r.now r' = false → r''.now ≤ r'.now + δ →
        r''.now < r.now + interval + δ := by
      intro r r' r'' hr' hdue hle
      have := hearly r' r.now hr' hdue
      linarith
    exact acts_late hclose hbehind hnear hgga
  · intro before r after hsplit
    have hr : r ∈ r₀ :: rounds := by
      rw [hsplit]
      exact List.mem_append_right _ List.mem_cons_self
    rcases hsends.recent hfirst hsplit with hsent | ⟨r', hr', hsent, hdue⟩
    · exact ⟨r, List.mem_append_right _ (List.mem_singleton_self _), hsent, by linarith⟩
    · exact ⟨r', List.mem_append_left _ hr', hsent, hearly r r'.now (hgga r hr) hdue⟩

theorem gga_uploads_steady_demo : ∃ tr s,
    Run (uploadStep nodeConfigExample 1) (fun _ _ => True) (.init 0) tr s ∧
      s.rounds = uploadedRounds ∧
      (s.rounds.filter (·.sent)).IsChain fun r r' => r'.now < r.now + 1 + 1 / 2 := by
  obtain ⟨tr, s, hrun, hrounds⟩ := run_uploadEvents
  have hmem : uploadedRounds ∈ s.connections := by
    rw [← hrounds]
    exact List.mem_append_right _ (List.mem_singleton_self _)
  have hgga : ∀ r ∈ uploadedRounds, r.latest.isSome = true := by simp [uploadedRounds]
  have hnear : uploadedRounds.IsChain fun r r' => r'.now ≤ r.now + 1 / 2 := by
    simp only [uploadedRounds, List.isChain_cons_cons, List.isChain_singleton]
    norm_num
  have hsteady := gga_uploads_steady nodeConfigExample hrun hmem one_pos le_rfl hgga hnear
  refine ⟨tr, s, hrun, hrounds, ?_⟩
  rw [hrounds]
  exact hsteady.2.1

end Gnss
end SensorSupport
