/-
# The command table (`command_handler/general_command_handler.cpp`)

`SendCommand` takes a sequence number, lets the handler of the lidar's type
send the packet and registers the command in `commands_`; the handler of the
HAP registers it before the send as well. An ack removes the command that is
registered under its number, and a tick removes those past their deadline.
The steps between which another thread can get in are steps of the model:
every `SendCommand` call has a program counter, and datagrams and ticks come
at any time.

Key definitions: `GenerateSeq.getSeq`, `Command`, `GeneralCommandHandler`,
`GeneralCommandHandler.step`.
Key theorems: `GeneralCommandHandler.receive_eq`.
-/
import SensorSupport.Lib.Run
import SensorSupport.Livox.Protocol
import Mathlib.Tactic.Linarith

namespace SensorSupport
namespace Livox

/-! ### Constants -/

/-- `kCommandTypeCmd`. -/
def kCommandTypeCmd : UInt8 := 0

/-- `kCommandTypeAck`. -/
def kCommandTypeAck : UInt8 := 1

/-- `kCommandIDLidarSearch`. -/
def kCommandIDLidarSearch : UInt16 := 0x0000

/-- `kDetectionPort`. -/
def kDetectionPort : UInt16 := 56000

/-- `kPaLidarFaultPort`. -/
def kPaLidarFaultPort : UInt16 := 10001

/-- `KDefaultTimeOut`, in milliseconds. -/
def kDefaultTimeOut : ℕ := 1000

/-- `kLivoxLidarTypeMid360`. -/
def kLivoxLidarTypeMid360 : UInt8 := 9

/-- `kLivoxLidarTypeIndustrialHAP`. -/
def kLivoxLidarTypeIndustrialHAP : UInt8 := 10

/-- `kLivoxLidarTypePA`. -/
def kLivoxLidarTypePA : UInt8 := 16

/-- `kLivoxLidarTypeMid360s`. -/
def kLivoxLidarTypeMid360s : UInt8 := 35

/-- The lidar types `CreateCommandHandler` has a handler for. -/
def hasCommandHandler (devType : UInt8) : Bool :=
  devType = kLivoxLidarTypeIndustrialHAP || devType = kLivoxLidarTypeMid360 ||
    devType = kLivoxLidarTypeMid360s

/-- `GenerateSeq::GetSeq`: the next number, which is also the one returned. -/
def GenerateSeq.getSeq (value : UInt32) : UInt32 := if value = 65535 then 1 else value + 1

/-! ### Commands -/

/-- The `livox_status` a callback is invoked with. -/
inductive Status
  | success | sendFailed | timeout
  deriving DecidableEq, Repr

/-- `Command`. `id` is the `SendCommand` call that made it; the callback is
known by what it is bound to. The data is dropped when a command is registered. -/
structure Command (κ : Type) where
  id : ℕ
  seqNum : UInt32
  cmdId : UInt16
  cmdType : UInt8
  handle : UInt32
  timeOut : ℕ
  cb : κ

/-- A command and the time it is given up at. -/
structure Entry (κ : Type) where
  command : Command κ
  deadline : ℕ

/-- How a command is sent. `general` is `GeneralCommandHandler::SendCommand`;
`config` is the two-argument `SendCommand` of a lidar type's handler, with
which it sends a lidar its configuration. -/
inductive Route
  | general | config
  deriving DecidableEq, Repr

/-- The next action of a call: the handler's `AddCommand`, the UDP send, the
general `AddCommand`, or none. -/
inductive Pc
  | register | send | add | returned
  deriving DecidableEq, Repr

/-- A `SendCommand` call. `sent` is the outcome of its send and `deadline` that
of its last registration. -/
structure SendCall (κ : Type) where
  command : Command κ
  route : Route
  pc : Pc
  sent : Option Bool
  deadline : Option ℕ

/-- The invocation of a command's callback. -/
structure Callback (κ : Type) where
  command : Command κ
  status : Status
  handle : UInt32
  data : Option Ptr

/-- A datagram for one of the two `Handler` overloads; `devType` is the
argument that only the second one has. -/
structure Datagram where
  devType : Option UInt8
  handle : UInt32
  lidarPort : UInt16
  buf : Mem
  bufSize : UInt32

/-- `GeneralCommandHandler`, with the calls made so far and the callbacks
invoked. -/
structure GeneralCommandHandler (κ : Type) where
  seq : UInt32
  deviceDevType : UInt32 → Option UInt8
  lidarsCommandHandler : UInt8 → Bool
  commands : Std.TreeMap UInt32 (Entry κ)
  calls : List (SendCall κ)
  callbacks : List (Callback κ)

/-- The steps of the threads: a call begins, and registers, sends and adds its
command; a datagram is handled; the timer ticks; a lidar is detected. -/
inductive Event (κ : Type)
  | begin (handle : UInt32) (cmdId : UInt16) (cb : κ)
  | config (devType : UInt8) (handle : UInt32) (cmdId : UInt16) (cb : κ)
  | register (id : ℕ) (now : ℕ)
  | send (id : ℕ) (ok : Bool)
  | add (id : ℕ) (now : ℕ)
  | receive (d : Datagram)
  | tick (now : ℕ)
  | detected (handle : UInt32) (devType : UInt8)

namespace GeneralCommandHandler

open CommPort

variable {κ : Type} (crc : FastCRC) (s : GeneralCommandHandler κ)

/-- `Init`: with a configuration the handlers are there from the start, in
view mode they come with the lidars. -/
def init (isView : Bool) : GeneralCommandHandler κ where
  seq := 1
  deviceDevType := fun _ => none
  lidarsCommandHandler := fun devType => !isView && hasCommandHandler devType
  commands := ∅
  calls := []
  callbacks := []

/-- `GetLidarCommandHandler(dev_type)`: the handler is known by the type. -/
def getHandlerOfType (devType : UInt8) : Option UInt8 :=
  if s.lidarsCommandHandler devType then some devType else none

/-- `GetLidarCommandHandler(handle)`. -/
def getLidarCommandHandler (handle : UInt32) : Option UInt8 :=
  (s.deviceDevType handle).bind s.getHandlerOfType

/-- What `HandleDetectionData` does to the maps: the first type a lidar is
detected with stays. -/
def detected (handle : UInt32) (devType : UInt8) : GeneralCommandHandler κ where
  seq := s.seq
  deviceDevType := fun h =>
    if h = handle then (s.deviceDevType handle).or (some devType) else s.deviceDevType h
  lidarsCommandHandler := fun t =>
    s.lidarsCommandHandler t || (t = devType && hasCommandHandler devType)
  commands := s.commands
  calls := s.calls
  callbacks := s.callbacks

/-- The call's program counter when its handler takes over. Only the handler
of the HAP, and every handler for a configuration, registers the command. -/
def firstPc (route : Route) (devType : UInt8) : Pc :=
  if route = .config ∨ devType = kLivoxLidarTypeIndustrialHAP then .register else .send

/-- A call takes a number and makes its command. -/
def newCall (route : Route) (devType : UInt8) (handle : UInt32) (cmdId : UInt16) (cb : κ) :
    GeneralCommandHandler κ :=
  let seq := GenerateSeq.getSeq s.seq
  let command : Command κ :=
    ⟨s.calls.length, seq.toUInt16.toUInt32, cmdId, kCommandTypeCmd, handle, kDefaultTimeOut, cb⟩
  { s with seq, calls := s.calls ++ [⟨command, route, firstPc route devType, none, none⟩] }

/-- `SendCommand` up to the handler's. Without a handler it returns
`kLivoxLidarStatusSendFailed`. -/
def beginSend (handle : UInt32) (cmdId : UInt16) (cb : κ) : GeneralCommandHandler κ :=
  match s.getLidarCommandHandler handle with
  | none => { s with seq := GenerateSeq.getSeq s.seq }
  | some devType => s.newCall .general devType handle cmdId cb

/-- `AddCommand`. -/
def addCommand (command : Command κ) (now : ℕ) : GeneralCommandHandler κ :=
  if command.cmdType = kCommandTypeAck then s
  else { s with commands := s.commands.insert command.seqNum ⟨command, now + command.timeOut⟩ }

/-- An invocation of the callback. -/
def invoke (cb : Callback κ) : GeneralCommandHandler κ :=
  { s with callbacks := s.callbacks ++ [cb] }

/-- A call moves on. -/
def setCall (id : ℕ) (c : SendCall κ) : GeneralCommandHandler κ :=
  { s with calls := s.calls.set id c }

/-- The call's `AddCommand`, and the program counter behind it. -/
def register (id : ℕ) (c : SendCall κ) (pc : Pc) (now : ℕ) : GeneralCommandHandler κ :=
  (s.addCommand c.command now).setCall id
    { c with pc, deadline := some (now + c.command.timeOut) }

/-- The UDP send. A failed one invokes the callback. -/
def send (id : ℕ) (c : SendCall κ) (ok : Bool) : GeneralCommandHandler κ :=
  let pc := match c.route with
    | .general => Pc.add
    | .config => Pc.returned
  let s := if ok then s else s.invoke ⟨c.command, .sendFailed, c.command.handle, none⟩
  s.setCall id { c with pc, sent := some ok }

/-- An ack is matched: the entry is removed and its callback invoked. -/
def complete (seq : UInt32) (e : Entry κ) (status : Status) (handle : UInt32)
    (packet : CommPacket) : GeneralCommandHandler κ :=
  { s with commands := s.commands.erase seq }.invoke ⟨e.command, status, handle, packet.data⟩

/-- `Handler(handle, lidar_port, buf, buf_size)`. Detection and push messages
do nothing to the table. -/
def handler (handle : UInt32) (lidarPort : UInt16) (buf : Mem) (bufSize : UInt32) :
    GeneralCommandHandler κ :=
  match (parseCommStream crc buf bufSize).val with
  | none => s
  | some packet =>
    if lidarPort = kDetectionPort ∧ packet.cmdId = kCommandIDLidarSearch then s
    else if packet.cmdType = kCommandTypeAck then
      let seq := packet.seqNum
      match s.commands[seq]? with
      | none => s
      | some e => s.complete seq e .success handle packet
    else s

/-- `Handler(dev_type, handle, lidar_port, buf, buf_size)` with the handler's
`OnCommandAck`. A command that is not found has no callback. -/
def handlerOfType (devType : UInt8) (handle : UInt32) (lidarPort : UInt16) (buf : Mem)
    (bufSize : UInt32) : GeneralCommandHandler κ :=
  if devType = kLivoxLidarTypePA ∧ lidarPort = kPaLidarFaultPort then s
  else
    match (parseCommStream crc buf bufSize).val with
    | none => s
    | some packet =>
      if lidarPort = kDetectionPort ∧ packet.cmdId = kCommandIDLidarSearch then s
      else
        match s.getHandlerOfType devType with
        | none => s
        | some _ =>
          if packet.cmdType = kCommandTypeAck then
            let seq := packet.seqNum.toUInt16.toUInt32
            match s.commands[seq]? with
            | none => s
            | some e =>
              s.complete seq e (if packet.data = none then .timeout else .success) handle packet
          else s

/-- A datagram is handled. -/
def receive (d : Datagram) : GeneralCommandHandler κ :=
  match d.devType with
  | none => s.handler crc d.handle d.lidarPort d.buf d.bufSize
  | some devType => s.handlerOfType crc devType d.handle d.lidarPort d.buf d.bufSize

/-- The entries that are past their deadline, in the order of the map. -/
def timeoutCommands (now : ℕ) : List (Command κ) :=
  ((s.commands.toList.map Prod.snd).filter (·.deadline < now)).map Entry.command

/-- `CommandsHandle`. -/
def commandsHandle (now : ℕ) : GeneralCommandHandler κ :=
  { s with
    commands := s.commands.filter fun _ e => !(e.deadline < now)
    callbacks := s.callbacks ++
      (s.timeoutCommands now).map fun command => ⟨command, .timeout, command.handle, none⟩ }

/-- A step of some thread, when it can be taken. -/
def step : Event κ → Option (GeneralCommandHandler κ)
  | .begin handle cmdId cb => some (s.beginSend handle cmdId cb)
  | .config devType handle cmdId cb =>
    (s.getHandlerOfType devType).map fun t => s.newCall .config t handle cmdId cb
  | .register id now =>
    (s.calls[id]?).bind fun c => if c.pc = .register then some (s.register id c .send now) else none
  | .send id ok => (s.calls[id]?).bind fun c => if c.pc = .send then some (s.send id c ok) else none
  | .add id now =>
    (s.calls[id]?).bind fun c => if c.pc = .add then some (s.register id c .returned now) else none
  | .receive d => some (s.receive crc d)
  | .tick now => some (s.commandsHandle now)
  | .detected handle devType => some (s.detected handle devType)

/-! ### What a datagram does -/

/-- The ack in a datagram, with the number it is looked up under. -/
def ackPacket (d : Datagram) : Option (UInt32 × CommPacket) :=
  match (parseCommStream crc d.buf d.bufSize).val with
  | none => none
  | some packet =>
    if packet.cmdType ≠ kCommandTypeAck ∨
        d.lidarPort = kDetectionPort ∧ packet.cmdId = kCommandIDLidarSearch then none
    else
      match d.devType with
      | none => some (packet.seqNum, packet)
      | some devType =>
        if devType = kLivoxLidarTypePA ∧ d.lidarPort = kPaLidarFaultPort then none
        else (s.getHandlerOfType devType).map fun _ => (packet.seqNum.toUInt16.toUInt32, packet)

/-- The datagram holds the ack of the command: from its lidar, with its number
and its `cmd_id`. -/
def OwnAck (c : Command κ) (d : Datagram) : Prop :=
  ∃ packet, s.ackPacket crc d = some (c.seqNum, packet) ∧ d.handle = c.handle ∧
    packet.cmdId = c.cmdId

variable {crc s}

/-- A parsed packet has data. -/
theorem parseCommStream_data {buf : Mem} {bufSize : UInt32} {p : CommPacket}
    (h : (parseCommStream crc buf bufSize).val = some p) : p.data ≠ none := by
  obtain ⟨-, -, rfl⟩ := (parseCommStream_eq_some crc buf bufSize).mp h
  simp [framePacket]

/-- Both overloads complete the command that is registered under the number of
the ack, if there is one. -/
theorem receive_eq (d : Datagram) : s.receive crc d =
    match s.ackPacket crc d with
    | none => s
    | some (seq, packet) =>
      match s.commands[seq]? with
      | none => s
      | some e => s.complete seq e .success d.handle packet := by
  obtain ⟨devType, handle, lidarPort, buf, bufSize⟩ := d
  cases hp : (parseCommStream crc buf bufSize).val with
  | none => cases devType <;> simp [receive, handler, handlerOfType, ackPacket, hp]
  | some packet =>
    have hdata := parseCommStream_data hp
    by_cases hdet : lidarPort = kDetectionPort ∧ packet.cmdId = kCommandIDLidarSearch
    · cases devType <;> simp [receive, handler, handlerOfType, ackPacket, hp, hdet]
    by_cases hack : packet.cmdType = kCommandTypeAck
    swap
    · cases devType with
      | none => simp [receive, handler, ackPacket, hp, hdet, hack]
      | some t =>
        cases hh : s.getHandlerOfType t <;>
          simp [receive, handlerOfType, ackPacket, hp, hdet, hack, hh]
    cases devType with
    | none => simp [receive, handler, ackPacket, hp, hdet, hack]
    | some t =>
      by_cases hpa : t = kLivoxLidarTypePA ∧ lidarPort = kPaLidarFaultPort
      · simp [receive, handlerOfType, ackPacket, hp, hpa]
      · cases hh : s.getHandlerOfType t <;>
          simp [receive, handlerOfType, ackPacket, hp, hdet, hack, hpa, hh, hdata]

/-! ### Steps and lookups -/

/-- A step with the state it is taken in. -/
abbrev Step (κ : Type) := GeneralCommandHandler κ × Event κ

theorem compare_uint32 {a b : UInt32} : compare a b = .eq ↔ a = b :=
  Std.LawfulEqCmp.compare_eq_iff_eq

/-- A lookup behind an insertion. -/
theorem getElem?_insert {m : Std.TreeMap UInt32 (Entry κ)} {k n : UInt32} {e : Entry κ} :
    (m.insert k e)[n]? = if k = n then some e else m[n]? := by
  rw [Std.TreeMap.getElem?_insert]
  simp only [compare_uint32]

theorem getElem?_erase {m : Std.TreeMap UInt32 (Entry κ)} {k n : UInt32} :
    (m.erase k)[n]? = if k = n then none else m[n]? := by
  rw [Std.TreeMap.getElem?_erase]
  simp only [compare_uint32]

theorem getElem?_filter {m : Std.TreeMap UInt32 (Entry κ)} {n : UInt32} {p : Entry κ → Bool} :
    (m.filter fun _ e => p e)[n]? = (m[n]?).filter p :=
  Std.TreeMap.getElem?_filter'

/-- A call in a list in which one was replaced. -/
theorem getElem?_setCall {j : ℕ} {c' : SendCall κ} (hi : s.calls[i]? = some c) :
    (s.setCall i c').calls[j]? = if i = j then some c' else s.calls[j]? := by
  have hlt : i < s.calls.length := (List.getElem?_eq_some_iff.mp hi).1
  unfold setCall
  rw [List.getElem?_set]
  simp [hlt]

/-- The conditional step of a call. -/
theorem bind_if_eq_some {α β : Type} {o : Option α} {P : α → Prop} [DecidablePred P] {f : α → β}
    {b : β} :
    (o.bind fun a => if P a then some (f a) else none) = some b ↔ ∃ a, o = some a ∧ P a ∧ f a = b := by
  cases o with
  | none => simp
  | some a => by_cases h : P a <;> simp [h]

end GeneralCommandHandler

end Livox
end SensorSupport
