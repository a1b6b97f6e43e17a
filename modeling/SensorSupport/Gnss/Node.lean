/-
# The GNSS node (`wtrtk_982dt_driver/gps_ntrip_py/gps_ntrip_node.py`)

Three threads share the node: the serial worker opens the port, writes queued
corrections to it and reads sentences; the network worker receives corrections
from the caster and queues them; the ROS timer drains the events the workers
emit and publishes. Each step is one action of one thread on the shared state:
a call on a queue, a flag set or read, a record stored or read, a reading of
the clock. What a thread does without touching shared state goes with the step
before it.

The straight-line parts of a worker are lists of operations (`Op`), of which a
step runs the first; where the environment decides how a call ends, the worker
is in a mode and the step names the outcome.

Key definitions: `NodeConfig`, `RosEvent`, `Op`, `Node`, `runOp`, `serialStep`,
`networkStep`, `timerStep`, `nodeStep`.
-/
import SensorSupport.Lib.BoundedQueue
import SensorSupport.Gnss.LocalPose
import SensorSupport.Gnss.Ntrip

namespace SensorSupport
namespace Gnss

/-- The parameters of the node, with the sentence parsers and the conversion of
a heading to radians. -/
structure NodeConfig where
  pose : PoseConfig
  serialPort : String
  ntripAddress : String
  attitudeTimeout : ℚ
  frameId : Text
  attitudeFrameId : Text
  parseGga : Text → Option GgaData
  parseHpr : Text → Option HprData
  headingToEnuYaw : PyFloat → PyFloat

/-- `_RosEvent`: the kind and its payload. -/
inductive RosEvent
  | nmea (sentence : Text)
  | gga (gga : GgaData)
  | hpr (hpr : HprData)
  | connection (connected : Bool)
  | deviceConnection (connected : Bool)
  | fixValid (valid : Bool)
  | localPoseInvalid
  | info (text : String)
  | warning (text : String)
  | error (text : String)
deriving DecidableEq

/-- A piece of correction data from one `recv`. `index` is its place among all
that were received, which the program does not keep. -/
structure Chunk where
  index : ℕ
  bytes : List UInt8
deriving DecidableEq

/-- An operation of a worker. `put`, `discard` and `putAgain` are the three
queue calls of `_emit`. -/
inductive Op
  | put (event : RosEvent)
  | discard (event : RosEvent)
  | putAgain (event : RosEvent)
  | serialReady (ready : Bool)
  | receiveGga (gga : GgaData)
  | storeGga (gga : GgaData) (receivedAt : ℚ)
  | ggaReady (ready : Bool)
  | receiveHpr (hpr : HprData)
  | storeHpr (hpr : HprData) (receivedAt : ℚ)
  | clearLatestGga
  | clearRtcmQueue
  | setNtripConnected (connected : Bool)
deriving DecidableEq

/-- Where the serial worker is when no operation is left: about to open the
port, at the head of the session loop, in `_write_queued_rtcm` before a
`get_nowait` or before the `write` of a chunk, or about to read. -/
inductive SerialMode
  | closed
  | session
  | writing
  | writingChunk (chunk : Chunk)
  | reading
deriving DecidableEq

/-- Where the network worker is when no operation is left: waiting for the
serial port, then for a GGA, connecting, reading the response header, about to
queue a chunk (`initial` when it came with the header), or in the stream loop
before its test or its `recv`. -/
inductive NetworkMode
  | waitSerial
  | waitGga
  | connecting
  | header (parser : NtripResponseParser)
  | queueing (chunk : Chunk) (initial : Bool)
  | streaming
  | receiving

/-- Where the timer thread is: idle, in `_drain_ros_events` with some rounds of
its loop left, in `_publish_gga` before and after it read the newest HPR, in
`_expire_pending_local_poses`, or in `_check_attitude_timeout` before and after
it read the newest HPR. -/
inductive TimerMode
  | idle
  | draining (rounds : ℕ)
  | matching (rounds : ℕ)
  | matchingWith (hpr : HprData) (receivedAt : ℚ) (rounds : ℕ)
  | expiring
  | checking
  | checkingAge (hpr : HprData) (receivedAt : ℚ)
deriving DecidableEq

/-- The serial worker. -/
structure SerialWorker where
  code : List Op
  mode : SerialMode
  framer : NmeaLineBuffer

/-- The network worker. -/
structure NetworkWorker where
  code : List Op
  mode : NetworkMode

/-- `NavSatFix`. -/
structure NavSatFix where
  stamp : Stamp
  frameId : Text
  statusFix : Bool
  latitude : PyFloat
  longitude : PyFloat
  altitude : PyFloat

/-- `GnssAttitude`. -/
structure GnssAttitude where
  stamp : Stamp
  frameId : Text
  sourceSentence : Text
  utcTime : Text
  rawHeadingDeg : PyFloat
  headingDeg : PyFloat
  pitchDeg : PyFloat
  rollDeg : PyFloat
  yawEnuRad : PyFloat
  solutionQuality : ℤ
  satellites : ℤ
  correctionAgeSec : PyFloat
  stationId : Text
  dataValid : Bool

/-- A published attitude, and whether it is that of a fresh HPR or of one that
timed out. -/
structure PublishedAttitude where
  message : GnssAttitude
  fresh : Bool

/-- The node: the shared state, the three threads, the messages published on
each topic, and the history of the serial sessions. `received` pairs a chunk
with the session it was received in, `written` with the one it was written in. -/
structure Node where
  clock : ℚ
  stopEvent : Bool
  serialReady : Bool
  ggaReady : Bool
  connectionState : Bool
  latestGga : Option (GgaData × ℚ)
  latestHpr : Option (HprData × ℚ)
  rosEvents : BoundedQueue RosEvent 1024
  rtcmQueue : BoundedQueue Chunk 256
  attitudeStalePublished : Bool
  poses : LocalPoses
  serial : SerialWorker
  network : NetworkWorker
  timer : TimerMode
  nmeaTopic : List Text
  fixTopic : List NavSatFix
  fixValidTopic : List Bool
  connectionTopic : List Bool
  deviceTopic : List Bool
  attitudeTopic : List PublishedAttitude
  sessions : ℕ
  received : List (Option ℕ × Chunk)
  written : List (ℕ × Chunk)

/-- After `__init__`, which publishes the three flags. -/
def Node.init (clock : ℚ) : Node where
  clock := clock
  stopEvent := false
  serialReady := false
  ggaReady := false
  connectionState := false
  latestGga := none
  latestHpr := none
  rosEvents := .empty
  rtcmQueue := .empty
  attitudeStalePublished := false
  poses := .init
  serial := ⟨[], .closed, .fresh 16384⟩
  network := ⟨[], .waitSerial⟩
  timer := .idle
  nmeaTopic := []
  fixTopic := []
  fixValidTopic := [false]
  connectionTopic := [false]
  deviceTopic := [false]
  attitudeTopic := []
  sessions := 0
  received := []
  written := []

/-! ### Operations of the workers -/

/-- One operation: what it continues with, and the shared state behind it. -/
def runOp (s : Node) : Op → List Op × Node
  | .put event =>
    match s.rosEvents.put event with
    | some q => ([], { s with rosEvents := q })
    | none => ([.discard event], s)
  | .discard event =>
    match s.rosEvents.get with
    | some (_, q) => ([.putAgain event], { s with rosEvents := q })
    | none => ([.putAgain event], s)
  | .putAgain event =>
    match s.rosEvents.put event with
    | some q => ([], { s with rosEvents := q })
    | none => ([], s)
  | .serialReady ready => ([.put (.deviceConnection ready)], { s with serialReady := ready })
  | .receiveGga gga => ([.storeGga gga s.clock, .ggaReady true, .put (.gga gga)], s)
  | .storeGga gga receivedAt => ([], { s with latestGga := some (gga, receivedAt) })
  | .ggaReady ready => ([], { s with ggaReady := ready })
  | .receiveHpr hpr => ([.storeHpr hpr s.clock, .put (.hpr hpr)], s)
  | .storeHpr hpr receivedAt => ([], { s with latestHpr := some (hpr, receivedAt) })
  | .clearLatestGga => ([], { s with latestGga := none })
  | .clearRtcmQueue =>
    match s.rtcmQueue.get with
    | some (_, q) => ([.clearRtcmQueue], { s with rtcmQueue := q })
    | none => ([], s)
  | .setNtripConnected connected =>
    if connected = s.connectionState then ([], s)
    else ([.put (.connection connected)], { s with connectionState := connected })

/-! ### The serial worker -/

/-- How a call of the serial worker ends, or `run` for a step that the
environment has no say in. -/
inductive SerialCall
  | run
  | opened
  | failed (error : String)
  | partlyWritten (count : ℕ) (error : String)
  | read (data : List UInt8)

/-- The operations for one sentence. -/
def sentenceOps (cfg : NodeConfig) (sentence : Text) : List Op :=
  .put (.nmea sentence) ::
    if isGgaSentence sentence then ((cfg.parseGga sentence).map .receiveGga).toList
    else if isHprSentence sentence then ((cfg.parseHpr sentence).map .receiveHpr).toList
    else []

/-- The `except` clause of `_serial_worker`, when an error was raised. -/
def serialError (cfg : NodeConfig) (s : Node) (error : Option String) : List Op :=
  match error with
  | some e => if s.stopEvent then [] else [.put (.error s!"串口 {cfg.serialPort} 异常：{e}")]
  | none => []

/-- The `finally` clause of `_serial_worker`. -/
def serialFinally : List Op :=
  [.serialReady false, .put (.fixValid false), .put .localPoseInvalid, .clearLatestGga,
    .ggaReady false, .clearRtcmQueue]

/-- The end of a session or of an attempt to open the port. -/
def leaveSerial (cfg : NodeConfig) (s : Node) (error : Option String) : Node :=
  { s with serial := { s.serial with code := serialError cfg s error ++ serialFinally,
                                     mode := .closed } }

/-- The open session, counted from 1. -/
def Node.session (s : Node) : Option ℕ :=
  match s.serial.mode with
  | .closed => none
  | _ => some s.sessions

/-- A step of `_serial_worker` without an operation left. -/
def serialCall (cfg : NodeConfig) (s : Node) : SerialMode → SerialCall → Option Node
  | .closed, .opened =>
    if s.stopEvent then none
    else
      let code := [.serialReady true, .put (.info s!"串口已连接：{cfg.serialPort}")]
      some { s with
        serial := ⟨code, .session, .fresh 16384⟩
        sessions := s.sessions + 1 }
  | .closed, .failed error => if s.stopEvent then none else some (leaveSerial cfg s (some error))
  | .session, .run =>
    if s.stopEvent then some (leaveSerial cfg s none)
    else some { s with serial.mode := .writing }
  | .session, .failed error => some (leaveSerial cfg s (some error))
  | .writing, .run =>
    if s.stopEvent then some { s with serial.mode := .reading }
    else
      match s.rtcmQueue.get with
      | some (chunk, q) =>
        some { s with rtcmQueue := q, serial.mode := .writingChunk chunk }
      | none => some { s with serial.mode := .reading }
  | .writingChunk chunk, .run =>
    some { s with
      written := s.written ++ [(s.sessions, chunk)]
      serial.mode := .writing }
  | .writingChunk chunk, .partlyWritten count error =>
    let cut : Chunk := { chunk with bytes := chunk.bytes.take count }
    let s' := { s with written := s.written ++ if count = 0 then [] else [(s.sessions, cut)] }
    some (leaveSerial cfg s' (some error))
  | .reading, .read data =>
    let fed := s.serial.framer.feed data
    some { s with serial := ⟨fed.2.flatMap (sentenceOps cfg), .session, fed.1⟩ }
  | .reading, .failed error => some (leaveSerial cfg s (some error))
  | _, _ => none

/-- A step of the serial worker. -/
def serialStep (cfg : NodeConfig) (s : Node) (call : SerialCall) : Option Node :=
  match s.serial.code with
  | op :: rest =>
    match call with
    | .run =>
      let r := runOp s op
      some { r.2 with serial.code := r.1 ++ rest }
    | _ => none
  | [] => serialCall cfg s s.serial.mode call

/-! ### The network worker -/

/-- How a call of the network worker ends, or `run` for a step that the
environment has no say in. -/
inductive NetworkCall
  | run
  | connected
  | failed (error : String)
  | timedOut
  | received (data : List UInt8)

/-- The `except` and `finally` clauses of `_network_worker`. -/
def leaveNetwork (s : Node) (error : Option String) : Node :=
  let report : List Op :=
    match error with
    | some e => if s.stopEvent then [] else [.put (.error s!"NTRIP 连接异常：{e}")]
    | none => []
  { s with network := ⟨report ++ [.setNtripConnected false], .waitSerial⟩ }

/-- The stream loop is entered: the node is connected. -/
def ntripConnectedOps (cfg : NodeConfig) : List Op :=
  [.setNtripConnected true, .put (.info s!"NTRIP 已连接：{cfg.ntripAddress}")]

/-- Correction data arrived and is about to be queued. -/
def receiveChunk (s : Node) (data : List UInt8) (initial : Bool) : Node :=
  let chunk : Chunk := ⟨s.received.length, data⟩
  { s with
    received := s.received ++ [(s.session, chunk)]
    network.mode := .queueing chunk initial }

/-- A step of `_network_worker` without an operation left. -/
def networkCall (cfg : NodeConfig) (s : Node) : NetworkMode → NetworkCall → Option Node
  | .waitSerial, .run =>
    if s.stopEvent then none
    else if s.serialReady then some { s with network.mode := .waitGga }
    else some s
  | .waitGga, .run =>
    some { s with network.mode := if s.ggaReady then .connecting else .waitSerial }
  | .connecting, .connected => some { s with network.mode := .header (.init 16384) }
  | .connecting, .failed error => some (leaveNetwork s (some error))
  | .header _, .run => if s.stopEvent then some (leaveNetwork s none) else none
  | .header parser, .received data =>
    if data = [] then some (leaveNetwork s (some "caster closed while sending response"))
    else
      match parser.feed data with
      | .error e => some (leaveNetwork s (some e))
      | .ok (parser', none) => some { s with network.mode := .header parser' }
      | .ok (_, some payload) =>
        if s.stopEvent then some (leaveNetwork s none)
        else if payload = [] then
          some { s with network := ⟨ntripConnectedOps cfg, .streaming⟩ }
        else some (receiveChunk s payload true)
  | .header _, .failed error => some (leaveNetwork s (some error))
  | .queueing chunk initial, .run =>
    match s.rtcmQueue.put chunk with
    | some q =>
      let code := if initial then ntripConnectedOps cfg else []
      some { s with rtcmQueue := q, network := ⟨code, .streaming⟩ }
    | none => none
  | .queueing _ _, .timedOut =>
    if s.rtcmQueue.isFull then
      some (leaveNetwork s (some "RTCM queue is full; serial output cannot keep up"))
    else none
  | .streaming, .run =>
    if s.stopEvent || !s.serialReady then some (leaveNetwork s none)
    else some { s with network.mode := .receiving }
  | .receiving, .timedOut => some { s with network.mode := .streaming }
  | .receiving, .received data =>
    if data = [] then some (leaveNetwork s (some "caster closed the correction stream"))
    else some (receiveChunk s data false)
  | .receiving, .failed error => some (leaveNetwork s (some error))
  | _, _ => none

/-- A step of the network worker. -/
def networkStep (cfg : NodeConfig) (s : Node) (call : NetworkCall) : Option Node :=
  match s.network.code with
  | op :: rest =>
    match call with
    | .run =>
      let r := runOp s op
      some { r.2 with network.code := r.1 ++ rest }
    | _ => none
  | [] => networkCall cfg s s.network.mode call

/-! ### The timer thread -/

/-- `_publish_hpr`. -/
def publishHpr (cfg : NodeConfig) (stamp : Stamp) (s : Node) (hpr : HprData) (fresh : Bool) :
    Node :=
  let heading := correctedHeading hpr.headingDeg cfg.pose.headingOffsetDeg
  let attitude : GnssAttitude := {
    stamp := stamp
    frameId := cfg.attitudeFrameId
    sourceSentence := hpr.sourceSentence
    utcTime := hpr.utcTime
    rawHeadingDeg := hpr.headingDeg
    headingDeg := heading
    pitchDeg := hpr.pitchDeg
    rollDeg := hpr.rollDeg
    yawEnuRad := cfg.headingToEnuYaw heading
    solutionQuality := hpr.solutionQuality
    satellites := hpr.satellites
    correctionAgeSec := hpr.correctionAgeSec
    stationId := hpr.stationId
    dataValid := fresh && dataIsValid hpr }
  { s with
    attitudeTopic := s.attitudeTopic ++ [⟨attitude, fresh⟩]
    attitudeStalePublished := if fresh then false else s.attitudeStalePublished }

/-- `_publish_gga` up to the reading of the newest HPR. -/
def publishGga (cfg : NodeConfig) (stamp : Stamp) (rounds : ℕ) (s : Node) (gga : GgaData) : Node :=
  let fix : NavSatFix :=
    ⟨stamp, cfg.frameId, hasFix gga, gga.latitude, gga.longitude, gga.altitude⟩
  let s' := { s with
    fixTopic := s.fixTopic ++ [fix]
    fixValidTopic := s.fixValidTopic ++ [hasFix gga] }
  if cfg.pose.localPoseEnabled then
    { s' with poses := appendPending s.clock stamp gga s.poses, timer := .matching rounds }
  else { s' with timer := .draining rounds }

/-- What `_drain_ros_events` does with an event. -/
def handleEvent (cfg : NodeConfig) (stamp : Stamp) (rounds : ℕ) (s : Node) : RosEvent → Node
  | .nmea sentence =>
    { s with nmeaTopic := s.nmeaTopic ++ [sentence], timer := .draining rounds }
  | .gga gga => publishGga cfg stamp rounds s gga
  | .hpr hpr =>
    let s' := publishHpr cfg stamp s hpr true
    { s' with
      poses := matchPendingLocalPoses cfg.pose hpr true s'.poses
      timer := .draining rounds }
  | .connection connected =>
    { s with connectionTopic := s.connectionTopic ++ [connected], timer := .draining rounds }
  | .deviceConnection connected =>
    { s with deviceTopic := s.deviceTopic ++ [connected], timer := .draining rounds }
  | .fixValid valid =>
    { s with fixValidTopic := s.fixValidTopic ++ [valid], timer := .draining rounds }
  | .localPoseInvalid =>
    { s with poses := localPoseInvalid cfg.pose stamp s.poses, timer := .draining rounds }
  | .info _ => { s with timer := .draining rounds }
  | .warning _ => { s with timer := .draining rounds }
  | .error _ => { s with timer := .draining rounds }

/-- A step of the timer thread. -/
def timerStep (cfg : NodeConfig) (s : Node) (stamp : Stamp) : Node :=
  match s.timer with
  | .idle => { s with timer := .draining 200 }
  | .draining 0 => { s with timer := .expiring }
  | .draining (rounds + 1) =>
    match s.rosEvents.get with
    | some (event, q) => handleEvent cfg stamp rounds { s with rosEvents := q } event
    | none => { s with timer := .expiring }
  | .matching rounds =>
    match s.latestHpr with
    | some (hpr, receivedAt) => { s with timer := .matchingWith hpr receivedAt rounds }
    | none => { s with timer := .draining rounds }
  | .matchingWith hpr receivedAt rounds =>
    let fresh := s.serialReady && decide (s.clock - receivedAt ≤ cfg.attitudeTimeout)
    { s with
      poses := matchPendingLocalPoses cfg.pose hpr fresh s.poses
      timer := .draining rounds }
  | .expiring =>
    { s with poses := expirePendingLocalPoses cfg.pose s.clock s.poses, timer := .checking }
  | .checking =>
    match s.latestHpr with
    | some (hpr, receivedAt) =>
      if s.attitudeStalePublished then { s with timer := .idle }
      else { s with timer := .checkingAge hpr receivedAt }
    | none => { s with timer := .idle }
  | .checkingAge hpr receivedAt =>
    if s.clock - receivedAt < cfg.attitudeTimeout then { s with timer := .idle }
    else
      let s' := publishHpr cfg stamp s hpr false
      { s' with
        poses := publishInvalidLocalPose cfg.pose stamp s'.poses
        attitudeStalePublished := true
        timer := .idle }

/-! ### The node -/

/-- What happens to the node: time passes, the node is stopped, or a thread
takes a step. -/
inductive NodeEvent
  | tick (now : ℚ)
  | stop
  | serial (call : SerialCall)
  | network (call : NetworkCall)
  | timer (stamp : Stamp)

/-- One event. The monotonic clock does not go back. -/
def nodeStep (cfg : NodeConfig) (s : Node) : NodeEvent → Option Node
  | .tick now => if s.clock ≤ now then some { s with clock := now } else none
  | .stop => some { s with stopEvent := true }
  | .serial call => serialStep cfg s call
  | .network call => networkStep cfg s call
  | .timer stamp => some (timerStep cfg s stamp)

/-! ### What a step leaves alone -/

variable {cfg : NodeConfig} {s s' : Node}

/-- An operation changes the queues, the flags and the records only. -/
theorem runOp_eq (s : Node) (op : Op) : (runOp s op).2 = { s with
    rosEvents := (runOp s op).2.rosEvents
    serialReady := (runOp s op).2.serialReady
    ggaReady := (runOp s op).2.ggaReady
    latestGga := (runOp s op).2.latestGga
    latestHpr := (runOp s op).2.latestHpr
    rtcmQueue := (runOp s op).2.rtcmQueue
    connectionState := (runOp s op).2.connectionState } := by
  cases op with
  | put event => simp only [runOp]; cases s.rosEvents.put event <;> rfl
  | discard event => simp only [runOp]; cases s.rosEvents.get <;> rfl
  | putAgain event => simp only [runOp]; cases s.rosEvents.put event <;> rfl
  | clearRtcmQueue => simp only [runOp]; cases s.rtcmQueue.get <;> rfl
  | setNtripConnected connected =>
    by_cases h : connected = s.connectionState
    · simp only [runOp, if_pos h]
    · simp only [runOp, if_neg h]
  | serialReady ready => rfl
  | receiveGga gga => rfl
  | storeGga gga receivedAt => rfl
  | ggaReady ready => rfl
  | receiveHpr hpr => rfl
  | storeHpr hpr receivedAt => rfl
  | clearLatestGga => rfl

/-- A call of the serial worker changes the worker, the correction queue and the
history of the sessions only. -/
theorem serialCall_eq {mode : SerialMode} {call : SerialCall}
    (h : serialCall cfg s mode call = some s') : s' = { s with
      serial := s'.serial, rtcmQueue := s'.rtcmQueue, sessions := s'.sessions,
      written := s'.written } := by
  unfold serialCall at h
  repeat' split at h
  all_goals cases h
  all_goals rfl

/-- A call of the network worker changes the worker, the correction queue and
the history of what was received only. -/
theorem networkCall_eq {mode : NetworkMode} {call : NetworkCall}
    (h : networkCall cfg s mode call = some s') : s' = { s with
      network := s'.network, rtcmQueue := s'.rtcmQueue, received := s'.received } := by
  unfold networkCall at h
  repeat' split at h
  all_goals cases h
  all_goals rfl

/-- A step of the serial worker calls out when nothing is left to run, and runs the
next operation otherwise. -/
theorem serialStep_cases {call : SerialCall} (h : serialStep cfg s call = some s') :
    s.serial.code = [] ∧ serialCall cfg s s.serial.mode call = some s' ∨
      ∃ op rest, s.serial.code = op :: rest ∧ call = .run ∧
        s' = { (runOp s op).2 with serial.code := (runOp s op).1 ++ rest } := by
  unfold serialStep at h
  cases hcode : s.serial.code with
  | nil =>
    simp only [hcode] at h
    exact .inl ⟨rfl, h⟩
  | cons op rest =>
    simp only [hcode] at h
    cases call with
    | run => exact .inr ⟨op, rest, rfl, rfl, (Option.some.inj h).symm⟩
    | opened => cases h
    | failed error => cases h
    | partlyWritten count error => cases h
    | read data => cases h

/-- The same of the network worker. -/
theorem networkStep_cases {call : NetworkCall} (h : networkStep cfg s call = some s') :
    s.network.code = [] ∧ networkCall cfg s s.network.mode call = some s' ∨
      ∃ op rest, s.network.code = op :: rest ∧ call = .run ∧
        s' = { (runOp s op).2 with network.code := (runOp s op).1 ++ rest } := by
  unfold networkStep at h
  cases hcode : s.network.code with
  | nil =>
    simp only [hcode] at h
    exact .inl ⟨rfl, h⟩
  | cons op rest =>
    simp only [hcode] at h
    cases call with
    | run => exact .inr ⟨op, rest, rfl, rfl, (Option.some.inj h).symm⟩
    | connected => cases h
    | failed error => cases h
    | timedOut => cases h
    | received data => cases h

theorem handleEvent_eq (stamp : Stamp) (rounds : ℕ) (s : Node) (event : RosEvent) :
    handleEvent cfg stamp rounds s event = { s with
      attitudeStalePublished := (handleEvent cfg stamp rounds s event).attitudeStalePublished
      poses := (handleEvent cfg stamp rounds s event).poses
      timer := (handleEvent cfg stamp rounds s event).timer
      nmeaTopic := (handleEvent cfg stamp rounds s event).nmeaTopic
      fixTopic := (handleEvent cfg stamp rounds s event).fixTopic
      fixValidTopic := (handleEvent cfg stamp rounds s event).fixValidTopic
      connectionTopic := (handleEvent cfg stamp rounds s event).connectionTopic
      deviceTopic := (handleEvent cfg stamp rounds s event).deviceTopic
      attitudeTopic := (handleEvent cfg stamp rounds s event).attitudeTopic } := by
  cases event with
  | gga gga =>
    simp only [handleEvent, publishGga]
    split <;> rfl
  | nmea sentence => rfl
  | hpr hpr => rfl
  | connection connected => rfl
  | deviceConnection connected => rfl
  | fixValid valid => rfl
  | localPoseInvalid => rfl
  | info text => rfl
  | warning text => rfl
  | error text => rfl

/-- The timer changes the event queue, the local poses, the stale flag and the
topics only. -/
theorem timerStep_eq (stamp : Stamp) (s : Node) : timerStep cfg s stamp = { s with
    rosEvents := (timerStep cfg s stamp).rosEvents
    attitudeStalePublished := (timerStep cfg s stamp).attitudeStalePublished
    poses := (timerStep cfg s stamp).poses
    timer := (timerStep cfg s stamp).timer
    nmeaTopic := (timerStep cfg s stamp).nmeaTopic
    fixTopic := (timerStep cfg s stamp).fixTopic
    fixValidTopic := (timerStep cfg s stamp).fixValidTopic
    connectionTopic := (timerStep cfg s stamp).connectionTopic
    deviceTopic := (timerStep cfg s stamp).deviceTopic
    attitudeTopic := (timerStep cfg s stamp).attitudeTopic } := by
  unfold timerStep
  cases htimer : s.timer with
  | draining rounds =>
    cases rounds with
    | zero => rfl
    | succ rounds =>
      simp only
      cases hget : s.rosEvents.get with
      | none => rfl
      | some x =>
        simp only
        rw [handleEvent_eq]
  | matching rounds => cases h : s.latestHpr <;> rfl
  | checking =>
    simp only
    cases h : s.latestHpr with
    | none => rfl
    | some x => simp only; split <;> rfl
  | checkingAge hpr receivedAt => simp only; split <;> rfl
  | idle => rfl
  | matchingWith hpr receivedAt rounds => rfl
  | expiring => rfl

/-! ### A node that is connected -/

/-- Parameters without a local pose and with parsers that accept every sentence. -/
def nodeConfigExample : NodeConfig where
  pose := { poseConfigExample with localPoseEnabled := false }
  serialPort := "/dev/ttyUSB0"
  ntripAddress := "caster:8002/RTCM33"
  attitudeTimeout := 5 / 2
  frameId := "gps".toList
  attitudeFrameId := "gps".toList
  parseGga := fun _ => some (ggaAt "120000.00".toList)
  parseHpr := fun _ => some (hprAt "120000.00".toList)
  headingToEnuYaw := fun _ => .nan

/-- The port is opened and `$GGA` read. -/
def serialUp : List NodeEvent :=
  .serial .opened :: List.replicate 5 (.serial .run) ++
    .serial (.read [0x24, 0x47, 0x47, 0x41, 0x0A]) :: List.replicate 5 (.serial .run)

/-- The caster accepts with `ICY 200 OK`. -/
def ntripUp : List NodeEvent :=
  [.network .run, .network .run, .network .connected,
    .network (.received
      [0x49, 0x43, 0x59, 0x20, 0x32, 0x30, 0x30, 0x20, 0x4F, 0x4B, 0x0D, 0x0A, 0x0D, 0x0A]),
    .network .run, .network .run, .network .run]

end Gnss
end SensorSupport
