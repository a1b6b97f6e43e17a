/-
# The status topics of the GNSS node

`ntrip/connected` and `gnss/device_connected` are latched: a late subscriber
sees the last message only. A worker changes `_connection_state` or the
serial-ready flag and then emits an event for the timer thread to publish. The
events of one status form a pipeline (what was published, what is queued, what
is being emitted) whose last entry is the value of the flag: a change of the
flag appends to it and the queue and the drain move entries along
(`runOp_own`, `runOp_other`, `timerStep_pipeline`). Only the overflow of the
queue takes entries out.

Key definitions: `Status`, `Node.pipeline`, `Node.quiet`, `KeepsStatus`, `StatusInv`.
Key theorems: `status_converges`, `status_diverges`.
-/
import SensorSupport.Gnss.Node

namespace SensorSupport
namespace Gnss

/-- A latched status topic. -/
inductive Status
  | connection
  | device
deriving DecidableEq

/-- What an event says about a status. -/
def RosEvent.status : Status → RosEvent → Option Bool
  | .connection, .connection connected => some connected
  | .device, .deviceConnection connected => some connected
  | _, _ => none

/-- The event an operation is emitting. -/
def Op.emits : Op → Option RosEvent
  | .put event => some event
  | .discard event => some event
  | .putAgain event => some event
  | _ => none

/-- What an operation is emitting about a status. -/
def Op.status (k : Status) (op : Op) : Option Bool := op.emits.bind (RosEvent.status k)

/-- Does an operation change the flag of a status? -/
def Op.changes : Status → Op → Bool
  | .connection, .setNtripConnected _ => true
  | .device, .serialReady _ => true
  | _, _ => false

namespace Node

/-- The messages published on a status topic. -/
def topic (s : Node) : Status → List Bool
  | .connection => s.connectionTopic
  | .device => s.deviceTopic

/-- The flag a status topic shows. -/
def flag (s : Node) : Status → Bool
  | .connection => s.connectionState
  | .device => s.serialReady

/-- The operations of the worker that changes a flag. -/
def ownCode (s : Node) : Status → List Op
  | .connection => s.network.code
  | .device => s.serial.code

/-- The operations of the other worker. -/
def otherCode (s : Node) : Status → List Op
  | .connection => s.serial.code
  | .device => s.network.code

/-- What is being emitted about a status: its worker is between the change of
the flag and the end of `_emit`. -/
def emitting (s : Node) (k : Status) : Option Bool := (s.ownCode k).head?.bind (Op.status k)

/-- No worker is between a change of a flag and the end of the matching
`_emit`. -/
def quiet (s : Node) : Prop := ∀ k, s.emitting k = none

/-- What a list of events says about a status. -/
def said (k : Status) (events : List RosEvent) : List Bool := events.filterMap (RosEvent.status k)

/-- What was published, what is queued and what is being emitted. -/
def pipeline (s : Node) (k : Status) : List Bool :=
  s.topic k ++ said k s.rosEvents.items ++ (s.emitting k).toList

end Node

/-- The operation that an event runs. -/
def nextOp (s : Node) : NodeEvent → Option Op
  | .serial .run => s.serial.code.head?
  | .network .run => s.network.code.head?
  | _ => none

/-- When an operation loses an event of the status, the newest one that remains
(queued, being emitted or published) still says what the flag is. -/
def OpKeeps (k : Status) (s : Node) : Op → Prop
  | .discard _ => ∀ event rest, s.rosEvents.items = event :: rest → (event.status k).isSome →
      (s.topic k ++ Node.said k rest ++ (s.emitting k).toList).getLast? = some (s.flag k)
  | .putAgain event => s.rosEvents.isFull → (event.status k).isSome →
      (s.topic k ++ Node.said k s.rosEvents.items).getLast? = some (s.flag k)
  | _ => True

/-- No step loses the event that a status topic still needs. -/
def KeepsStatus (s : Node) (e : NodeEvent) : Prop :=
  ∀ op, nextOp s e = some op → ∀ k, OpKeeps k s op

/-- The pipeline of a status ends in its flag; only the status' own worker
changes the flag or emits about it, and it does so one change at a time. -/
structure StatusInv (k : Status) (s : Node) : Prop where
  last : (s.pipeline k).getLast? = some (s.flag k)
  other : ∀ op ∈ s.otherCode k, op.changes k = false ∧ op.status k = none
  tail : ∀ op ∈ (s.ownCode k).tail, op.status k = none

/-! ### Operations -/

variable {cfg : NodeConfig} {k : Status} {s s' : Node}

@[simp] theorem Node.said_nil : Node.said k [] = [] := rfl

@[simp] theorem Node.said_cons (event : RosEvent) (events : List RosEvent) :
    Node.said k (event :: events) = (event.status k).toList ++ Node.said k events := by
  unfold Node.said
  rw [List.filterMap_cons]
  cases event.status k <;> rfl

@[simp] theorem Node.said_append (events events' : List RosEvent) :
    Node.said k (events ++ events') = Node.said k events ++ Node.said k events' :=
  List.filterMap_append

@[simp] theorem runOp_topic (op : Op) : (runOp s op).2.topic k = s.topic k := by
  rw [runOp_eq]
  cases k <;> rfl

/-- An operation that does not change a flag leaves it as it is. -/
theorem runOp_flag {op : Op} (h : op.changes k = false) : (runOp s op).2.flag k = s.flag k := by
  cases op with
  | put event => simp only [runOp]; cases s.rosEvents.put event <;> cases k <;> rfl
  | discard event => simp only [runOp]; cases s.rosEvents.get <;> cases k <;> rfl
  | putAgain event => simp only [runOp]; cases s.rosEvents.put event <;> cases k <;> rfl
  | clearRtcmQueue => simp only [runOp]; cases s.rtcmQueue.get <;> cases k <;> rfl
  | setNtripConnected connected =>
    cases k with
    | connection => cases h
    | device => simp only [runOp]; split <;> rfl
  | serialReady ready =>
    cases k with
    | connection => rfl
    | device => cases h
  | receiveGga gga => cases k <;> rfl
  | storeGga gga receivedAt => cases k <;> rfl
  | ggaReady ready => cases k <;> rfl
  | receiveHpr hpr => cases k <;> rfl
  | storeHpr hpr receivedAt => cases k <;> rfl
  | clearLatestGga => cases k <;> rfl

/-- What an operation continues with: its own emission, or operations that say
nothing about a status whose flag it does not change. -/
theorem runOp_continues (op : Op) : ∀ op' ∈ (runOp s op).1,
    op'.changes k = false ∧ (op'.status k = op.status k ∨ op.changes k = true ∨
      op'.status k = none) := by
  intro op' hop'
  cases op with
  | put event =>
    simp only [runOp] at hop'
    cases hput : s.rosEvents.put event with
    | some q => simp [hput] at hop'
    | none =>
      obtain rfl : op' = .discard event := by simpa [hput] using hop'
      exact ⟨by cases k <;> rfl, .inl rfl⟩
  | discard event =>
    obtain rfl : op' = .putAgain event := by
      simp only [runOp] at hop'
      cases hget : s.rosEvents.get <;> simpa [hget] using hop'
    exact ⟨by cases k <;> rfl, .inl rfl⟩
  | putAgain event =>
    simp only [runOp] at hop'
    cases hput : s.rosEvents.put event <;> simp [hput] at hop'
  | clearRtcmQueue =>
    simp only [runOp] at hop'
    cases hget : s.rtcmQueue.get with
    | some x =>
      obtain rfl : op' = .clearRtcmQueue := by simpa [hget] using hop'
      exact ⟨by cases k <;> rfl, .inl rfl⟩
    | none => simp [hget] at hop'
  | setNtripConnected connected =>
    simp only [runOp] at hop'
    split at hop'
    · cases hop'
    · obtain rfl := List.mem_singleton.mp hop'
      cases k with
      | connection => exact ⟨rfl, .inr (.inl rfl)⟩
      | device => exact ⟨rfl, .inl rfl⟩
  | serialReady ready =>
    obtain rfl := List.mem_singleton.mp hop'
    cases k with
    | connection => exact ⟨rfl, .inl rfl⟩
    | device => exact ⟨rfl, .inr (.inl rfl)⟩
  | receiveGga gga =>
    simp only [runOp, List.mem_cons, List.not_mem_nil, or_false] at hop'
    rcases hop' with rfl | rfl | rfl <;> cases k <;> exact ⟨rfl, .inl rfl⟩
  | receiveHpr hpr =>
    simp only [runOp, List.mem_cons, List.not_mem_nil, or_false] at hop'
    rcases hop' with rfl | rfl <;> cases k <;> exact ⟨rfl, .inl rfl⟩
  | storeGga gga receivedAt => cases hop'
  | ggaReady ready => cases hop'
  | storeHpr hpr receivedAt => cases hop'
  | clearLatestGga => cases hop'

/-- Behind its first operation, what an operation continues with says nothing
about a status. -/
theorem runOp_continues_tail (op : Op) : ∀ op' ∈ (runOp s op).1.tail, op'.status k = none := by
  intro op' hop'
  cases op with
  | put event =>
    simp only [runOp] at hop'
    cases hput : s.rosEvents.put event <;> simp [hput] at hop'
  | discard event =>
    simp only [runOp] at hop'
    cases hget : s.rosEvents.get <;> simp [hget] at hop'
  | putAgain event =>
    simp only [runOp] at hop'
    cases hput : s.rosEvents.put event <;> simp [hput] at hop'
  | clearRtcmQueue =>
    simp only [runOp] at hop'
    cases hget : s.rtcmQueue.get <;> simp [hget] at hop'
  | setNtripConnected connected =>
    simp only [runOp] at hop'
    split at hop' <;> cases hop'
  | receiveGga gga =>
    simp only [runOp, List.tail_cons, List.mem_cons, List.not_mem_nil, or_false] at hop'
    rcases hop' with rfl | rfl <;> cases k <;> rfl
  | receiveHpr hpr =>
    obtain rfl : op' = .put (.hpr hpr) := by simpa [runOp] using hop'
    cases k <;> rfl
  | serialReady ready | storeGga gga receivedAt | ggaReady ready | storeHpr hpr receivedAt
  | clearLatestGga => cases hop'

/-- An operation that is not about the status keeps the end of the pipeline. -/
theorem runOp_last_other {op : Op} {pending : List Bool} (hstatus : op.status k = none)
    (hpending : (s.emitting k).toList = pending) (hkeep : OpKeeps k s op)
    (hlast : (s.topic k ++ Node.said k s.rosEvents.items ++ pending).getLast? = some (s.flag k)) :
    (s.topic k ++ Node.said k (runOp s op).2.rosEvents.items ++ pending).getLast? =
      some (s.flag k) := by
  cases op with
  | put event =>
    have hevent : event.status k = none := hstatus
    simp only [runOp]
    cases hput : s.rosEvents.put event with
    | some q =>
      obtain ⟨-, hitems⟩ := BoundedQueue.put_eq_some.mp hput
      simpa [hitems, hevent] using hlast
    | none => exact hlast
  | discard event =>
    simp only [runOp]
    cases hget : s.rosEvents.get with
    | some x =>
      obtain ⟨old, q⟩ := x
      have hitems := BoundedQueue.get_eq_some.mp hget
      by_cases hold : (old.status k).isSome
      · have := hkeep old q.items hitems hold
        rwa [hpending] at this
      · have hnone : old.status k = none := by simpa using hold
        simpa [hitems, hnone] using hlast
    | none => exact hlast
  | putAgain event =>
    have hevent : event.status k = none := hstatus
    simp only [runOp]
    cases hput : s.rosEvents.put event with
    | some q =>
      obtain ⟨-, hitems⟩ := BoundedQueue.put_eq_some.mp hput
      simpa [hitems, hevent] using hlast
    | none => exact hlast
  | clearRtcmQueue => simp only [runOp]; cases s.rtcmQueue.get <;> exact hlast
  | setNtripConnected connected => simp only [runOp]; split <;> exact hlast
  | serialReady ready | receiveGga gga | storeGga gga receivedAt | ggaReady ready
  | receiveHpr hpr | storeHpr hpr receivedAt | clearLatestGga => exact hlast

theorem Node.flag_rosEvents (s : Node) (q : BoundedQueue RosEvent 1024) (k : Status) :
    ({ s with rosEvents := q } : Node).flag k = s.flag k := by
  cases k <;> rfl

/-- An operation of the status' own worker keeps the pipeline ending in the
flag: the emission moves on, or the flag changes and its emission begins. -/
theorem runOp_last_own {op : Op} {rest : List Op} (hcode : s.ownCode k = op :: rest)
    (hrest : rest.head?.bind (Op.status k) = none) (hkeep : OpKeeps k s op)
    (hlast : (s.pipeline k).getLast? = some (s.flag k)) :
    (s.topic k ++ Node.said k (runOp s op).2.rosEvents.items ++
        (((runOp s op).1 ++ rest).head?.bind (Op.status k)).toList).getLast? =
      some ((runOp s op).2.flag k) := by
  have hemitting : s.emitting k = op.status k := by simp [Node.emitting, hcode]
  unfold Node.pipeline at hlast
  rw [hemitting] at hlast
  -- an operation that says nothing and changes nothing
  have quietly : op.status k = none → op.changes k = false →
      (s.topic k ++ Node.said k (runOp s op).2.rosEvents.items ++
        (((runOp s op).1 ++ rest).head?.bind (Op.status k)).toList).getLast? =
      some ((runOp s op).2.flag k) := by
    intro hstatus hchanges
    have hhead : ((runOp s op).1 ++ rest).head?.bind (Op.status k) = none := by
      cases hops : (runOp s op).1 with
      | nil => simpa using hrest
      | cons op' ops =>
        have := (runOp_continues (k := k) op op' (by rw [hops]; exact List.mem_cons_self)).2
        simpa [hstatus, hchanges] using this
    rw [hstatus] at hlast hemitting
    rw [hhead, runOp_flag hchanges]
    exact runOp_last_other hstatus (by rw [hemitting]) hkeep hlast
  cases op with
  | put event =>
    simp only [runOp]
    cases hput : s.rosEvents.put event with
    | some q =>
      obtain ⟨-, hitems⟩ := BoundedQueue.put_eq_some.mp hput
      simpa [hitems, hrest, Node.flag_rosEvents, Op.status, Op.emits] using hlast
    | none => simpa [Op.status, Op.emits] using hlast
  | discard event =>
    simp only [runOp]
    cases hget : s.rosEvents.get with
    | some x =>
      obtain ⟨old, q⟩ := x
      have hitems := BoundedQueue.get_eq_some.mp hget
      have hstatus : (Op.discard event).status k = (Op.putAgain event).status k := rfl
      by_cases hold : (old.status k).isSome
      · have := hkeep old q.items hitems hold
        rw [hemitting] at this
        simpa [Node.flag_rosEvents, hstatus] using this
      · have hnone : old.status k = none := by simpa using hold
        simpa [hitems, hnone, Node.flag_rosEvents, hstatus] using hlast
    | none => exact hlast
  | putAgain event =>
    simp only [runOp]
    cases hput : s.rosEvents.put event with
    | some q =>
      obtain ⟨-, hitems⟩ := BoundedQueue.put_eq_some.mp hput
      simpa [hitems, hrest, Node.flag_rosEvents, Op.status, Op.emits] using hlast
    | none =>
      cases hevent : event.status k with
      | none => simpa [hrest, hevent, Op.status, Op.emits] using hlast
      | some b =>
        have := hkeep (BoundedQueue.put_eq_none.mp hput) (by simp [hevent])
        simpa [hrest] using this
  | setNtripConnected connected =>
    cases k with
    | device => exact quietly rfl rfl
    | connection =>
      by_cases hsame : connected = s.connectionState
      · have hstatus : (Op.setNtripConnected connected).status .connection = none := rfl
        simp only [runOp, if_pos hsame]
        simpa [hrest, hstatus] using hlast
      · simp only [runOp, if_neg hsame]
        simp [Op.status, Op.emits, RosEvent.status, Node.flag]
  | serialReady ready =>
    cases k with
    | connection => exact quietly rfl rfl
    | device => simp [runOp, Op.status, Op.emits, RosEvent.status, Node.flag]
  | clearRtcmQueue | receiveGga gga | storeGga gga receivedAt | ggaReady ready
  | receiveHpr hpr | storeHpr hpr receivedAt | clearLatestGga =>
    exact quietly rfl (by cases k <;> rfl)

/-! ### Calls of the workers -/

/-- Operations that say nothing about a status and leave the flag of one of
them to the other worker. -/
def Silent (k : Status) (ops : List Op) : Prop :=
  ∀ op ∈ ops, op.changes k = false ∧ ∀ k', op.status k' = none

theorem Silent.nil : Silent k [] := by simp [Silent]

theorem Silent.append {ops ops' : List Op} (h : Silent k ops) (h' : Silent k ops') :
    Silent k (ops ++ ops') := by
  intro op hop
  rcases List.mem_append.mp hop with hop | hop
  · exact h op hop
  · exact h' op hop

theorem silent_put {event : RosEvent} (h : ∀ k', event.status k' = none) :
    Silent k [.put event] := by
  intro op hop
  rw [List.mem_singleton.mp hop]
  exact ⟨by cases k <;> rfl, h⟩

theorem silent_error (text : String) : Silent k [.put (.error text)] :=
  silent_put fun k' => by cases k' <;> rfl

theorem serialError_silent (s : Node) (error : Option String) :
    Silent .connection (serialError cfg s error) := by
  unfold serialError
  split
  · split
    · exact Silent.nil
    · exact silent_error _
  · exact Silent.nil

theorem serialFinally_silent : Silent .connection serialFinally := by
  intro op hop
  simp only [serialFinally, List.mem_cons, List.not_mem_nil, or_false] at hop
  rcases hop with rfl | rfl | rfl | rfl | rfl | rfl <;>
    exact ⟨rfl, fun k' => by cases k' <;> rfl⟩

theorem leaveSerial_silent (s : Node) (error : Option String) :
    Silent .connection (leaveSerial cfg s error).serial.code :=
  (serialError_silent s error).append serialFinally_silent

theorem sentenceOps_silent (sentence : Text) : Silent .connection (sentenceOps cfg sentence) := by
  intro op hop
  unfold sentenceOps at hop
  rcases List.mem_cons.mp hop with rfl | hop
  · exact ⟨rfl, fun k' => by cases k' <;> rfl⟩
  · split at hop
    · obtain ⟨gga, -, rfl⟩ := by simpa using hop
      exact ⟨rfl, fun k' => by cases k' <;> rfl⟩
    · split at hop
      · obtain ⟨hpr, -, rfl⟩ := by simpa using hop
        exact ⟨rfl, fun k' => by cases k' <;> rfl⟩
      · cases hop

/-- A call of the serial worker prepares operations that leave the connection
state alone and do not begin with an emission about a status. -/
theorem serialCall_silent {mode : SerialMode} {call : SerialCall} (hcode : s.serial.code = [])
    (h : serialCall cfg s mode call = some s') : Silent .connection s'.serial.code := by
  have hnil : Silent .connection s.serial.code := by rw [hcode]; exact Silent.nil
  unfold serialCall at h
  repeat' split at h
  all_goals cases h
  all_goals first
    | exact hnil
    | exact leaveSerial_silent _ _
    | skip
  · intro op hop
    simp only [List.mem_cons, List.not_mem_nil, or_false] at hop
    rcases hop with rfl | rfl <;> exact ⟨rfl, fun k' => by cases k' <;> rfl⟩
  · intro op hop
    obtain ⟨sentence, -, hop⟩ := List.mem_flatMap.mp hop
    exact sentenceOps_silent sentence op hop

theorem ntripConnectedOps_silent : Silent .device (ntripConnectedOps cfg) := by
  intro op hop
  simp only [ntripConnectedOps, List.mem_cons, List.not_mem_nil, or_false] at hop
  rcases hop with rfl | rfl <;> exact ⟨rfl, fun k' => by cases k' <;> rfl⟩

theorem leaveNetwork_silent (s : Node) (error : Option String) :
    Silent .device (leaveNetwork s error).network.code := by
  have hfinally : Silent .device [.setNtripConnected false] := by
    intro op hop
    rw [List.mem_singleton.mp hop]
    exact ⟨rfl, fun k' => by cases k' <;> rfl⟩
  unfold leaveNetwork
  refine Silent.append ?_ hfinally
  split
  · split
    · exact Silent.nil
    · exact silent_error _
  · exact Silent.nil

/-- A call of the network worker prepares operations that leave the serial-ready
flag alone and do not begin with an emission about a status. -/
theorem networkCall_silent {mode : NetworkMode} {call : NetworkCall} (hcode : s.network.code = [])
    (h : networkCall cfg s mode call = some s') : Silent .device s'.network.code := by
  have hnil : Silent .device s.network.code := by rw [hcode]; exact Silent.nil
  unfold networkCall at h
  repeat' split at h
  all_goals cases h
  all_goals first
    | exact hnil
    | exact Silent.nil
    | exact leaveNetwork_silent _ _
    | exact ntripConnectedOps_silent

/-! ### Steps -/

/-- What a list of operations is emitting about a status. -/
theorem head_status_none {ops : List Op} (h : ∀ op ∈ ops, op.status k = none) :
    ops.head?.bind (Op.status k) = none := by
  cases ops with
  | nil => rfl
  | cons op ops => exact h op List.mem_cons_self

/-- A step of the status' own worker. -/
theorem StatusInv.own (h : StatusInv k s) {op : Op} {rest : List Op}
    (hcode : s.ownCode k = op :: rest) (hkeep : OpKeeps k s op)
    (htopic : s'.topic k = s.topic k) (hitems : s'.rosEvents = (runOp s op).2.rosEvents)
    (hflag : s'.flag k = (runOp s op).2.flag k) (hown : s'.ownCode k = (runOp s op).1 ++ rest)
    (hother : s'.otherCode k = s.otherCode k) : StatusInv k s' := by
  have hrest : ∀ op' ∈ rest, op'.status k = none := by
    intro op' hop'
    exact h.tail op' (by simpa [hcode] using hop')
  refine { last := ?_, other := ?_, tail := ?_ }
  · unfold Node.pipeline Node.emitting
    rw [htopic, hitems, hflag, hown]
    exact runOp_last_own hcode (head_status_none hrest) hkeep h.last
  · rw [hother]
    exact h.other
  · rw [hown]
    intro op' hop'
    cases hops : (runOp s op).1 with
    | nil =>
      rw [hops, List.nil_append] at hop'
      exact hrest op' (List.mem_of_mem_tail hop')
    | cons first ops =>
      rw [hops, List.cons_append, List.tail_cons] at hop'
      rcases List.mem_append.mp hop' with hop' | hop'
      · exact runOp_continues_tail (s := s) op op' (by simpa [hops] using hop')
      · exact hrest op' hop'

/-- A step of the other worker. -/
theorem StatusInv.run_other (h : StatusInv k s) {op : Op} {rest : List Op}
    (hcode : s.otherCode k = op :: rest) (hkeep : OpKeeps k s op)
    (htopic : s'.topic k = s.topic k) (hitems : s'.rosEvents = (runOp s op).2.rosEvents)
    (hflag : s'.flag k = (runOp s op).2.flag k) (hother : s'.otherCode k = (runOp s op).1 ++ rest)
    (hown : s'.ownCode k = s.ownCode k) : StatusInv k s' := by
  obtain ⟨hchanges, hstatus⟩ := h.other op (by rw [hcode]; exact List.mem_cons_self)
  have hemitting : s'.emitting k = s.emitting k := by rw [Node.emitting, Node.emitting, hown]
  refine { last := ?_, other := ?_, tail := ?_ }
  · unfold Node.pipeline
    rw [htopic, hitems, hflag, hemitting, runOp_flag hchanges]
    exact runOp_last_other hstatus rfl hkeep h.last
  · rw [hother]
    intro op' hop'
    rcases List.mem_append.mp hop' with hop' | hop'
    · have hcont := runOp_continues (k := k) op op' hop'
      exact ⟨hcont.1, by simpa [hstatus, hchanges] using hcont.2⟩
    · exact h.other op' (by rw [hcode]; exact List.mem_cons_of_mem _ hop')
  · rw [hown]
    exact h.tail

/-- A step that leaves the flag and the published and queued events alone, and
gives a worker that was done operations that are silent. -/
theorem StatusInv.call (h : StatusInv k s) (htopic : s'.topic k = s.topic k)
    (hitems : s'.rosEvents = s.rosEvents) (hflag : s'.flag k = s.flag k)
    (hown : s'.ownCode k = s.ownCode k ∨
      s.ownCode k = [] ∧ ∀ op ∈ s'.ownCode k, op.status k = none)
    (hother : s'.otherCode k = s.otherCode k ∨
      ∀ op ∈ s'.otherCode k, op.changes k = false ∧ op.status k = none) : StatusInv k s' := by
  refine { last := ?_, other := ?_, tail := ?_ }
  · have hemitting : s'.emitting k = s.emitting k := by
      unfold Node.emitting
      rcases hown with hown | ⟨hnil, hown⟩
      · rw [hown]
      · rw [head_status_none hown, hnil]
        rfl
    unfold Node.pipeline
    rw [htopic, hitems, hflag, hemitting]
    exact h.last
  · rcases hother with hother | hother
    · rw [hother]
      exact h.other
    · exact hother
  · rcases hown with hown | ⟨-, hown⟩
    · rw [hown]
      exact h.tail
    · exact fun op hop => hown op (List.mem_of_mem_tail hop)

/-- The timer moves events from the queue to the topics. -/
theorem timerStep_pipeline (stamp : Stamp) : (timerStep cfg s stamp).topic k ++
    Node.said k (timerStep cfg s stamp).rosEvents.items =
      s.topic k ++ Node.said k s.rosEvents.items := by
  unfold timerStep
  cases htimer : s.timer with
  | draining rounds =>
    cases rounds with
    | zero => cases k <;> rfl
    | succ rounds =>
      simp only
      cases hget : s.rosEvents.get with
      | none => cases k <;> rfl
      | some x =>
        obtain ⟨event, q⟩ := x
        have hitems := BoundedQueue.get_eq_some.mp hget
        rw [hitems, Node.said_cons]
        cases event with
        | gga gga =>
          simp only [handleEvent, publishGga]
          split <;> cases k <;> rfl
        | connection connected => cases k <;> simp [handleEvent, Node.topic, RosEvent.status]
        | deviceConnection connected =>
          cases k <;> simp [handleEvent, Node.topic, RosEvent.status]
        | nmea sentence => cases k <;> rfl
        | hpr hpr => cases k <;> rfl
        | fixValid valid => cases k <;> rfl
        | localPoseInvalid => cases k <;> rfl
        | info text => cases k <;> rfl
        | warning text => cases k <;> rfl
        | error text => cases k <;> rfl
  | matching rounds => cases h : s.latestHpr <;> cases k <;> rfl
  | checking =>
    simp only
    cases h : s.latestHpr with
    | none => cases k <;> rfl
    | some x => simp only; split <;> cases k <;> rfl
  | checkingAge hpr receivedAt => simp only; split <;> cases k <;> rfl
  | idle => cases k <;> rfl
  | matchingWith hpr receivedAt rounds => cases k <;> rfl
  | expiring => cases k <;> rfl

theorem timerStep_inv (h : StatusInv k s) (stamp : Stamp) :
    StatusInv k (timerStep cfg s stamp) := by
  have hflag : (timerStep cfg s stamp).flag k = s.flag k := by
    rw [timerStep_eq]
    cases k <;> rfl
  have hown : (timerStep cfg s stamp).ownCode k = s.ownCode k := by
    rw [timerStep_eq]
    cases k <;> rfl
  have hother : (timerStep cfg s stamp).otherCode k = s.otherCode k := by
    rw [timerStep_eq]
    cases k <;> rfl
  refine { last := ?_, other := hother ▸ h.other, tail := hown ▸ h.tail }
  unfold Node.pipeline Node.emitting
  rw [timerStep_pipeline, hown, hflag]
  exact h.last

theorem serialStep_inv (h : StatusInv k s) {call : SerialCall} (hkeep : KeepsStatus s (.serial call))
    (hs : serialStep cfg s call = some s') : StatusInv k s' := by
  rcases serialStep_cases hs with ⟨hcode, hs⟩ | ⟨op, rest, hcode, rfl, rfl⟩
  · have hsilent := serialCall_silent hcode hs
    rw [serialCall_eq hs]
    apply h.call
    · cases k <;> rfl
    · rfl
    · cases k <;> rfl
    · cases k with
      | connection => exact .inl rfl
      | device => exact .inr ⟨hcode, fun op hop => (hsilent op hop).2 _⟩
    · cases k with
      | connection => exact .inr fun op hop => ⟨(hsilent op hop).1, (hsilent op hop).2 _⟩
      | device => exact .inl rfl
  · have hk : OpKeeps k s op := hkeep op (by simp [nextOp, hcode]) k
    have htopic : (runOp s op).2.topic k = s.topic k := runOp_topic op
    have hnetwork : (runOp s op).2.network = s.network := by rw [runOp_eq]
    cases k with
    | connection =>
      exact h.run_other hcode hk htopic rfl rfl rfl (congrArg NetworkWorker.code hnetwork)
    | device => exact h.own hcode hk htopic rfl rfl rfl (congrArg NetworkWorker.code hnetwork)

theorem networkStep_inv (h : StatusInv k s) {call : NetworkCall}
    (hkeep : KeepsStatus s (.network call)) (hs : networkStep cfg s call = some s') :
    StatusInv k s' := by
  rcases networkStep_cases hs with ⟨hcode, hs⟩ | ⟨op, rest, hcode, rfl, rfl⟩
  · have hsilent := networkCall_silent hcode hs
    rw [networkCall_eq hs]
    apply h.call
    · cases k <;> rfl
    · rfl
    · cases k <;> rfl
    · cases k with
      | connection => exact .inr ⟨hcode, fun op hop => (hsilent op hop).2 _⟩
      | device => exact .inl rfl
    · cases k with
      | connection => exact .inl rfl
      | device => exact .inr fun op hop => ⟨(hsilent op hop).1, (hsilent op hop).2 _⟩
  · have hk : OpKeeps k s op := hkeep op (by simp [nextOp, hcode]) k
    have htopic : (runOp s op).2.topic k = s.topic k := runOp_topic op
    have hserial : (runOp s op).2.serial = s.serial := by rw [runOp_eq]
    cases k with
    | connection => exact h.own hcode hk htopic rfl rfl rfl (congrArg SerialWorker.code hserial)
    | device => exact h.run_other hcode hk htopic rfl rfl rfl (congrArg SerialWorker.code hserial)

/-- Every step that does not lose a needed event keeps the pipelines. -/
theorem nodeStep_inv (h : StatusInv k s) {e : NodeEvent} (hkeep : KeepsStatus s e)
    (hs : nodeStep cfg s e = some s') : StatusInv k s' := by
  cases e with
  | tick now =>
    change (if s.clock ≤ now then some { s with clock := now } else none) = some s' at hs
    split at hs
    · obtain rfl := Option.some.inj hs
      exact h.call (by cases k <;> rfl) rfl (by cases k <;> rfl) (.inl (by cases k <;> rfl))
        (.inl (by cases k <;> rfl))
    · cases hs
  | stop =>
    obtain rfl := Option.some.inj hs
    exact h.call (by cases k <;> rfl) rfl (by cases k <;> rfl) (.inl (by cases k <;> rfl))
      (.inl (by cases k <;> rfl))
  | serial call => exact serialStep_inv h hkeep hs
  | network call => exact networkStep_inv h hkeep hs
  | timer stamp =>
    obtain rfl := Option.some.inj hs
    exact timerStep_inv h stamp

theorem StatusInv.init (clock : ℚ) : StatusInv k (.init clock) where
  last := by cases k <;> rfl
  other := by cases k <;> simp [Node.otherCode, Node.init]
  tail := by cases k <;> simp [Node.ownCode, Node.init]

/-- **The status topics converge.** In every run in which no overflow loses the
event that a status topic still needs: whenever the event queue is empty and no
worker is between a change and the end of its `_emit`, the last message on each
status topic is the value of its flag. -/
theorem status_converges (cfg : NodeConfig) {clock : ℚ} {tr : List (Node × NodeEvent)} {s : Node}
    (h : Run (nodeStep cfg) KeepsStatus (.init clock) tr s) (hempty : s.rosEvents.items = [])
    (hquiet : s.quiet) : (s.topic .connection).getLast? = some s.connectionState ∧
      (s.topic .device).getLast? = some s.serialReady := by
  have hinv : ∀ k, StatusInv k s := by
    intro k
    apply h.invariant
    · exact StatusInv.init clock
    · intro tr s e s' ih hkeep hs
      exact nodeStep_inv ih hkeep hs
  have hlast : ∀ k, (s.topic k).getLast? = some (s.flag k) := by
    intro k
    have := (hinv k).last
    unfold Node.pipeline at this
    simpa [hempty, hquiet k] using this
  exact ⟨hlast .connection, hlast .device⟩

/-- Does an event run no operation that can lose an event? -/
def losesNothing (s : Node) (e : NodeEvent) : Bool :=
  match nextOp s e with
  | some (.discard _) => false
  | some (.putAgain _) => false
  | _ => true

theorem keepsStatus_of_losesNothing (s : Node) (e : NodeEvent) (h : losesNothing s e = true) :
    KeepsStatus s e := by
  intro op hop k
  unfold losesNothing at h
  rw [hop] at h
  cases op with
  | discard event => cases h
  | putAgain event => cases h
  | put event => trivial
  | serialReady ready => trivial
  | receiveGga gga => trivial
  | storeGga gga receivedAt => trivial
  | ggaReady ready => trivial
  | receiveHpr hpr => trivial
  | storeHpr hpr receivedAt => trivial
  | clearLatestGga => trivial
  | clearRtcmQueue => trivial
  | setNtripConnected connected => trivial

theorem status_converges_connected : ∃ tr s,
    Run (nodeStep nodeConfigExample) KeepsStatus (.init 0) tr s ∧
      s.connectionState = true ∧ s.serialReady = true ∧
      (s.topic .connection).getLast? = some true ∧ (s.topic .device).getLast? = some true := by
  have hup : (exec (fun s e => if losesNothing s e then nodeStep nodeConfigExample s e else none)
      (.init 0) (serialUp ++ ntripUp ++ List.replicate 10 (.timer 0))).map (fun s => decide (
        s.rosEvents.items = [] ∧ s.emitting .connection = none ∧ s.emitting .device = none ∧
        s.connectionState = true ∧ s.serialReady = true)) = some true := by
    decide +kernel
  obtain ⟨s, hs, hstate⟩ := Option.map_eq_some_iff.mp hup
  simp only [decide_eq_true_eq] at hstate
  obtain ⟨hempty, hnetwork, hserial, hconnected, hready⟩ := hstate
  obtain ⟨tr, -, hrun⟩ := Run.of_exec_test keepsStatus_of_losesNothing hs
  have hquiet : s.quiet := by
    intro k
    cases k with
    | connection => exact hnetwork
    | device => exact hserial
  have hlast := status_converges nodeConfigExample hrun hempty hquiet
  rw [hconnected, hready] at hlast
  exact ⟨tr, s, hrun, hconnected, hready, hlast⟩

/-! ### An overflow that loses a status -/

/-- One round of the session loop that reads one sentence. -/
def readRound (data : List UInt8) : List NodeEvent :=
  [.serial .run, .serial .run, .serial (.read data), .serial .run]

/-- The serial worker is at the head of the session loop, with no corrections to
write, and reads the data as one sentence that is neither GGA nor HPR. -/
structure Reads (s : Node) (data : List UInt8) (sentence : Text) : Prop where
  code : s.serial.code = []
  mode : s.serial.mode = .session
  running : s.stopEvent = false
  corrections : s.rtcmQueue.get = none
  feed : s.serial.framer.feed data = (s.serial.framer, [sentence])
  other : isGgaSentence sentence = false ∧ isHprSentence sentence = false

variable {data : List UInt8} {sentence : Text}

theorem Reads.of_events (h : Reads s data sentence) (q : BoundedQueue RosEvent 1024) :
    Reads { s with rosEvents := q } data sentence :=
  ⟨h.code, h.mode, h.running, h.corrections, h.feed, h.other⟩

/-- Reading a sentence up to the `put` of its event. -/
theorem Reads.read (h : Reads s data sentence) :
    exec (nodeStep cfg) s [.serial .run, .serial .run, .serial (.read data)] =
      some { s with serial.code := [.put (.nmea sentence)] } := by
  obtain ⟨hcode, hmode, hrunning, hcorrections, hfeed, hgga, hhpr⟩ := h
  have hworker : s.serial = ⟨[], .session, s.serial.framer⟩ := by rw [← hcode, ← hmode]
  simp only [exec_cons, nodeStep, serialStep, hcode, hmode, serialCall, hrunning, hcorrections,
    Option.bind_some, Bool.false_eq_true, if_false, hfeed]
  simp [exec, sentenceOps, hgga, hhpr]

/-- A sentence is queued while there is room. -/
theorem Reads.put (h : Reads s data sentence) {q : BoundedQueue RosEvent 1024}
    (hput : s.rosEvents.put (.nmea sentence) = some q) :
    exec (nodeStep cfg) s (readRound data) = some { s with rosEvents := q } := by
  have hs : s = { s with serial.code := [] } := by rw [← h.code]
  have hlast : exec (nodeStep cfg) { s with serial.code := [.put (.nmea sentence)] }
      [.serial .run] = some { s with rosEvents := q } := by
    simp only [exec_cons, nodeStep, serialStep, runOp, hput]
    rw [hs]
    rfl
  have hall := exec_append h.read hlast
  exact hall

/-- A sentence takes the place of the oldest event when there is no room. -/
theorem Reads.overflow (cfg : NodeConfig) (h : Reads s data sentence) {event : RosEvent}
    {rest : List RosEvent}
    (hitems : s.rosEvents.items = event :: rest) (hfull : rest.length = 1023) :
    ∃ es q, exec (nodeStep cfg) s es = some { s with rosEvents := q } ∧
      q.items = rest ++ [.nmea sentence] := by
  have hput : s.rosEvents.put (.nmea sentence) = none := by
    rw [BoundedQueue.put_eq_none]
    simp [BoundedQueue.isFull, hitems, hfull]
  let q : BoundedQueue RosEvent 1024 := ⟨rest, by omega⟩
  let q' : BoundedQueue RosEvent 1024 := ⟨rest ++ [.nmea sentence], by simp [hfull]⟩
  have hget : s.rosEvents.get = some (event, q) := BoundedQueue.get_eq_some.mpr hitems
  have hput' : q.put (.nmea sentence) = some q' :=
    BoundedQueue.put_eq_some.mpr ⟨by change rest.length < 1024; omega, rfl⟩
  have hs : s = { s with serial.code := [] } := by rw [← h.code]
  have hlast : exec (nodeStep cfg) { s with serial.code := [.put (.nmea sentence)] }
      [.serial .run, .serial .run, .serial .run] = some { s with rosEvents := q' } := by
    simp only [exec_cons, nodeStep, serialStep, runOp, hput, hget, hput', List.nil_append,
      List.cons_append, Option.bind_some]
    rw [hs]
    rfl
  exact ⟨_, q', exec_append h.read hlast, rfl⟩

/-- Sentences are queued one after the other while there is room. -/
theorem Reads.flood (cfg : NodeConfig) : ∀ (n : ℕ) (s : Node), Reads s data sentence →
    s.rosEvents.items.length + n ≤ 1024 →
    ∃ es q, exec (nodeStep cfg) s es = some { s with rosEvents := q } ∧
      q.items = s.rosEvents.items ++ List.replicate n (.nmea sentence)
  | 0, s, _, _ => ⟨[], s.rosEvents, rfl, by simp⟩
  | n + 1, s, h, hn => by
    obtain ⟨q, hput⟩ : ∃ q, s.rosEvents.put (.nmea sentence) = some q := by
      refine ⟨⟨s.rosEvents.items ++ [.nmea sentence], by simp; omega⟩, ?_⟩
      exact BoundedQueue.put_eq_some.mpr ⟨by omega, rfl⟩
    have hq := (BoundedQueue.put_eq_some.mp hput).2
    obtain ⟨es, q', hes, hq'⟩ := flood cfg n { s with rosEvents := q } (h.of_events q)
      (by simp [hq]; omega)
    refine ⟨readRound data ++ es, q', exec_append (h.put hput) hes, ?_⟩
    rw [hq', hq, List.replicate_succ, List.append_assoc, List.singleton_append]

/-- The timer publishes queued sentences, one a round. -/
theorem drain_rounds (cfg : NodeConfig) (rounds : ℕ) (rest : List RosEvent) : ∀ (n : ℕ) (s : Node),
    s.timer = .draining (n + rounds) →
    s.rosEvents.items = List.replicate n (.nmea sentence) ++ rest →
    ∃ es q published, exec (nodeStep cfg) s es =
        some { s with rosEvents := q, nmeaTopic := published, timer := .draining rounds } ∧
      q.items = rest
  | 0, s, htimer, hitems => by
    refine ⟨[], s.rosEvents, s.nmeaTopic, ?_, by simpa using hitems⟩
    rw [Nat.zero_add] at htimer
    rw [← htimer]
    rfl
  | n + 1, s, htimer, hitems => by
    rw [List.replicate_succ, List.cons_append] at hitems
    obtain ⟨q, hget⟩ : ∃ q, s.rosEvents.get = some (.nmea sentence, q) := by
      have hle := s.rosEvents.length_le
      rw [hitems] at hle
      exact ⟨⟨_, Nat.le_of_succ_le hle⟩, BoundedQueue.get_eq_some.mpr hitems⟩
    have hq : q.items = List.replicate n (.nmea sentence) ++ rest := by
      have := BoundedQueue.get_eq_some.mp hget
      rw [hitems] at this
      exact (List.cons.inj this).2.symm
    have hstep : nodeStep cfg s (.timer 0) = some { s with
        rosEvents := q, nmeaTopic := s.nmeaTopic ++ [sentence]
        timer := .draining (n + rounds) } := by
      rw [show n + 1 + rounds = (n + rounds) + 1 by omega] at htimer
      simp only [nodeStep, timerStep, htimer, hget, handleEvent]
    obtain ⟨es, q', published, hes, hq'⟩ := drain_rounds cfg rounds rest n { s with
      rosEvents := q, nmeaTopic := s.nmeaTopic ++ [sentence], timer := .draining (n + rounds) } rfl hq
    refine ⟨.timer 0 :: es, q', published, ?_, hq'⟩
    rw [exec_cons, hstep]
    exact hes

/-- The end of a drain when there is no HPR and the local pose is off. -/
theorem drain_end (hpose : cfg.pose.localPoseEnabled = false) {rounds : ℕ}
    (htimer : s.timer = .draining rounds) (hdone : rounds = 0 ∨ s.rosEvents.get = none)
    (hhpr : s.latestHpr = none) :
    exec (nodeStep cfg) s [.timer 0, .timer 0, .timer 0] = some { s with timer := .idle } := by
  have hexpire : ∀ s : Node, expirePendingLocalPoses cfg.pose s.clock s.poses = s.poses := by
    intro s
    simp [expirePendingLocalPoses, hpose]
  have hfirst : nodeStep cfg s (.timer 0) = some { s with timer := .expiring } := by
    simp only [nodeStep, timerStep, htimer]
    rcases hdone with rfl | hget
    · rfl
    · cases rounds with
      | zero => rfl
      | succ rounds => simp only [hget]
  rw [exec_cons, hfirst]
  simp only [exec_cons, nodeStep, timerStep, hexpire, hhpr, Option.bind_some]
  rfl

/-- The timer publishes everything when only sentences are queued, there is no
HPR and the local pose is off. -/
theorem drain_all (cfg : NodeConfig) (hpose : cfg.pose.localPoseEnabled = false) : ∀ (n : ℕ) (s : Node),
    s.timer = .idle → s.latestHpr = none →
    s.rosEvents.items = List.replicate n (.nmea sentence) →
    ∃ es q published, exec (nodeStep cfg) s es =
        some { s with rosEvents := q, nmeaTopic := published } ∧ q.items = [] := by
  intro n
  -- at most 200 events in one drain
  induction n using Nat.strong_induction_on with
  | _ n ih =>
    intro s htimer hhpr hitems
    have hidle : s.timer = .idle := htimer
    have hbegin : exec (nodeStep cfg) s [.timer 0] = some { s with timer := .draining 200 } := by
      simp only [exec_cons, nodeStep, timerStep, htimer, Option.bind_some]
      rfl
    by_cases hn : n ≤ 200
    · obtain ⟨es, q, published, hes, hq⟩ := drain_rounds cfg (200 - n) [] n
        { s with timer := .draining 200 } (by simp [Nat.add_sub_cancel' hn]) (by simpa using hitems)
      have hend := drain_end hpose (s := { s with
        rosEvents := q, nmeaTopic := published, timer := .draining (200 - n) }) rfl
        (.inr (BoundedQueue.get_eq_none.mpr hq)) hhpr
      refine ⟨_, q, published, (exec_append hbegin (exec_append hes hend)).trans ?_, hq⟩
      rw [← hidle]
    · obtain ⟨es, q, published, hes, hq⟩ := drain_rounds cfg 0
        (List.replicate (n - 200) (.nmea sentence)) 200 { s with timer := .draining 200 } rfl
        (by rw [← List.replicate_add, Nat.add_sub_cancel' (by omega)]; exact hitems)
      have hend := drain_end hpose (s := { s with
        rosEvents := q, nmeaTopic := published, timer := .draining 0 }) rfl (.inl rfl) hhpr
      obtain ⟨es', q', published', hes', hq'⟩ := ih (n - 200) (by omega)
        { s with rosEvents := q, nmeaTopic := published, timer := .idle } rfl hhpr hq
      have hall := exec_append hbegin (exec_append hes (exec_append hend hes'))
      refine ⟨_, q', published', hall.trans ?_, hq'⟩
      rw [← hidle]

/-- The caster closes the stream. -/
def ntripDown : List NodeEvent :=
  [.network .run, .network (.received []), .network .run, .network .run, .network .run]

/-- The caster accepts, the topics are published, and the caster closes. -/
def ntripUpDown : List NodeEvent :=
  serialUp ++ ntripUp ++ List.replicate 10 (.timer 0) ++ ntripDown

/-- **The connection topic can stay wrong.** Behind the caster's close 1024
sentences are read before the timer runs: the queue overflows twice, the second
time it loses the event that the connection is down, and when everything was
published the topic still shows a connection. -/
theorem status_diverges : ∃ tr s,
    Run (nodeStep nodeConfigExample) (fun _ _ => True) (.init 0) tr s ∧
      s.rosEvents.items = [] ∧ s.quiet ∧
      (s.topic .connection).getLast? = some true ∧ s.connectionState = false := by
  have hup : (exec (nodeStep nodeConfigExample) (.init 0) ntripUpDown).map (fun s => decide (
      s.serial.code = [] ∧ s.serial.mode = .session ∧ s.stopEvent = false ∧
      s.rtcmQueue.items = [] ∧ s.serial.framer.buffer = [] ∧
      s.serial.framer.maxBufferSize = some 16384 ∧ s.rosEvents.items.length = 2 ∧
      s.rosEvents.items.tail = [.connection false] ∧ s.timer = .idle ∧ s.latestHpr = none ∧
      s.network.code = [] ∧ s.connectionTopic = [false, true] ∧ s.connectionState = false)) =
      some true := by
    decide +kernel
  obtain ⟨s, hs, hstate⟩ := Option.map_eq_some_iff.mp hup
  simp only [decide_eq_true_eq] at hstate
  obtain ⟨hcode, hmode, hrunning, hrtcm, hbuffer, hmax, hlength, htail, htimer, hhpr, hnetwork,
    htopic, hfalse⟩ := hstate
  have hframer : s.serial.framer = .fresh 16384 := by
    rw [NmeaLineBuffer.fresh, ← hbuffer, ← hmax]
  have hreads : Reads s [0x24, 0x58, 0x0A] "$X".toList := by
    refine ⟨hcode, hmode, hrunning, BoundedQueue.get_eq_none.mpr hrtcm, ?_, by decide⟩
    rw [hframer]
    have hempty : ((NmeaLineBuffer.fresh 16384).feed [0x24, 0x58, 0x0A]).1.buffer = [] := by
      decide +kernel
    refine Prod.ext ?_ (by decide +kernel)
    change (⟨((NmeaLineBuffer.fresh 16384).feed [0x24, 0x58, 0x0A]).1.buffer, some 16384⟩ :
      NmeaLineBuffer) = _
    rw [hempty]
    rfl
  obtain ⟨event, hitems⟩ : ∃ event, s.rosEvents.items = [event, .connection false] := by
    cases hi : s.rosEvents.items with
    | nil => simp [hi] at hlength
    | cons event rest => exact ⟨event, by rw [← htail, hi, List.tail_cons]⟩
  -- the queue is filled, then the two oldest events are pushed out
  obtain ⟨es₁, q₁, h₁, hq₁⟩ := Reads.flood nodeConfigExample 1022 s hreads (by omega)
  have hitems₁ : q₁.items = event :: .connection false ::
      List.replicate 1022 (.nmea "$X".toList) := by
    rw [hq₁, hitems, List.cons_append, List.cons_append, List.nil_append]
  have hfull₁ : (RosEvent.connection false ::
      List.replicate 1022 (.nmea "$X".toList)).length = 1023 := by
    rw [List.length_cons, List.length_replicate]
  obtain ⟨es₂, q₂, h₂, hq₂⟩ := (hreads.of_events q₁).overflow nodeConfigExample hitems₁ hfull₁
  have hitems₂ : q₂.items = .connection false ::
      List.replicate 1023 (.nmea "$X".toList) := by
    rw [hq₂, List.cons_append, ← List.replicate_succ']
  obtain ⟨es₃, q₃, h₃, hq₃⟩ := (hreads.of_events q₂).overflow nodeConfigExample hitems₂
    List.length_replicate
  have hsentences : q₃.items = List.replicate 1024 (.nmea "$X".toList) := by
    rw [hq₃, ← List.replicate_succ']
  have hrounds := drain_all nodeConfigExample rfl 1024 { s with rosEvents := q₃ } htimer hhpr
    hsentences
  obtain ⟨es₄, q₄, published, h₄, hq₄⟩ := hrounds
  have hall := exec_append hs (exec_append h₁ (exec_append h₂ (exec_append h₃ h₄)))
  obtain ⟨tr, -, hrun⟩ := Run.of_exec hall
  refine ⟨tr, _, hrun, hq₄, ?_, ?_, hfalse⟩
  · intro k
    cases k with
    | connection => simp [Node.emitting, Node.ownCode, hnetwork]
    | device => simp [Node.emitting, Node.ownCode, hcode]
  · simp [Node.topic, htopic]

end Gnss
end SensorSupport
