/-
# The upgrader of a lidar (`upgrade/livox_lidar_upgrader.cpp`)

An upgrade is driven by events: the start, and the event that each response
handler picks from the status and the contents of a response. The table gives
the action for an event, most of which send one command, whose response is
handled by the handler that belongs to the action.

`FsmEventHandler` ignores what the action returns, so an action that sends
nothing leaves the machine where the table put it.

Key definitions: `upgradeEventTable`, `LivoxLidarUpgrader`, `Request`,
`LivoxLidarUpgrader.fsmEventHandler`, `LivoxLidarUpgrader.responseHandler`.
Key theorems: `LivoxLidarUpgrader.outcome_responseEvent`,
`LivoxLidarUpgrader.responseHandler_cases`.
-/
import SensorSupport.Livox.Command
import SensorSupport.Livox.Firmware

namespace SensorSupport
namespace Livox

/-! ### Constants -/

/-- `kSystemIsNotReady`. -/
def kSystemIsNotReady : UInt8 := 2

/-- `EraseFirmware`. -/
def eraseFirmware : UInt8 := 0x34

/-- `kGeneralTryCountLimit`. -/
def kGeneralTryCountLimit : UInt32 := 10

/-- `kGetProcessTryCountLimit`. -/
def kGetProcessTryCountLimit : UInt32 := 30

/-- `kCommandIDLidarRebootDevice`. -/
def kCommandIDLidarRebootDevice : UInt16 := 0x0200

/-- `kCommandIDGeneralRequestUpgrade`. -/
def kCommandIDGeneralRequestUpgrade : UInt16 := 0x0400

/-- `kCommandIDGeneralXferFirmware`. -/
def kCommandIDGeneralXferFirmware : UInt16 := 0x0401

/-- `kCommandIDGeneralCompleteXferFirmware`. -/
def kCommandIDGeneralCompleteXferFirmware : UInt16 := 0x0402

/-- `kCommandIDGeneralRequestUpgradeProgress`. -/
def kCommandIDGeneralRequestUpgradeProgress : UInt16 := 0x0403

/-! ### The table -/

/-- `LivoxLidarFsmState`. -/
inductive FsmState
  | idle | request | xferFirmware | completeXferFirmware | getUpgradeProgress | complete | timeout | err
  deriving DecidableEq, Repr

/-- `LivoxLidarFsmEvent`. -/
inductive FsmEvent
  | requestUpgrade | xferFirmware | completeXferFirmware | getUpgradeProgress | complete | reinit
  | timeout | err
  deriving DecidableEq, Repr

/-- The state with the number of the event. -/
def FsmEvent.toState : FsmEvent → FsmState
  | .requestUpgrade => .idle
  | .xferFirmware => .request
  | .completeXferFirmware => .xferFirmware
  | .getUpgradeProgress => .completeXferFirmware
  | .complete => .getUpgradeProgress
  | .reinit => .complete
  | .timeout => .timeout
  | .err => .err

/-- The actions, `FnFsmEvent`. -/
inductive FnFsmEvent
  | startUpgrade | xferFirmware | completeXferFirmware | getUpgradeProgress | upgradeComplete
  deriving DecidableEq, Repr

/-- `FsmEventTable`. -/
structure FsmEventTable where
  state : FsmState
  event : FsmEvent
  eventHandler : Option FnFsmEvent
  nextState : FsmState

/-- `upgrade_event_table`. -/
def upgradeEventTable : List FsmEventTable := [
  ⟨.idle, .requestUpgrade, some .startUpgrade, .request⟩,
  ⟨.request, .requestUpgrade, some .startUpgrade, .request⟩,
  ⟨.request, .xferFirmware, some .xferFirmware, .xferFirmware⟩,
  ⟨.xferFirmware, .xferFirmware, some .xferFirmware, .xferFirmware⟩,
  ⟨.xferFirmware, .completeXferFirmware, some .completeXferFirmware, .completeXferFirmware⟩,
  ⟨.completeXferFirmware, .completeXferFirmware, some .completeXferFirmware, .completeXferFirmware⟩,
  ⟨.completeXferFirmware, .getUpgradeProgress, some .getUpgradeProgress, .getUpgradeProgress⟩,
  ⟨.getUpgradeProgress, .getUpgradeProgress, some .getUpgradeProgress, .getUpgradeProgress⟩,
  ⟨.getUpgradeProgress, .complete, some .upgradeComplete, .complete⟩,
  ⟨.complete, .complete, some .upgradeComplete, .complete⟩,
  ⟨.complete, .reinit, none, .idle⟩]

/-- The row for a state and an event. -/
def findRow (state : FsmState) (event : FsmEvent) : Option FsmEventTable :=
  upgradeEventTable.find? fun row => state = row.state && event = row.event

/-! ### Requests and responses -/

/-- `LivoxLidarStartUpgradeRequest`, with what `LivoxLidarStartUpgradeRequestV3`
adds. -/
structure StartUpgradeRequest where
  firmwareType : UInt8
  encryptType : UInt8
  firmwareLength : UInt32
  devType : UInt8
  v3 : Option (UInt32 × UInt64 × List UInt8)

/-- The commands an upgrade sends. -/
inductive Request
  | startUpgrade (request : StartUpgradeRequest)
  | xferFirmware (offset length : UInt32) (encryptType : UInt8) (data : List UInt8)
  | completeXferFirmware (checksumType : UInt8) (checksum : List UInt8)
  | getUpgradeProgress
  | requestReboot (timeout : UInt16)

/-- The action that sends a command, to which the handler of its response
belongs. -/
def Request.sender : Request → FnFsmEvent
  | .startUpgrade _ => .startUpgrade
  | .xferFirmware _ _ _ _ => .xferFirmware
  | .completeXferFirmware _ _ => .completeXferFirmware
  | .getUpgradeProgress => .getUpgradeProgress
  | .requestReboot _ => .upgradeComplete

/-- The `cmd_id` that `CommandImpl` sends a command with. -/
def Request.cmdId : Request → UInt16
  | .startUpgrade _ => kCommandIDGeneralRequestUpgrade
  | .xferFirmware _ _ _ _ => kCommandIDGeneralXferFirmware
  | .completeXferFirmware _ _ => kCommandIDGeneralCompleteXferFirmware
  | .getUpgradeProgress => kCommandIDGeneralRequestUpgradeProgress
  | .requestReboot _ => kCommandIDLidarRebootDevice

/-- The fields of the responses; only that to `GetUpgradeProgress` has a
progress. -/
structure Response where
  retCode : UInt8
  progress : UInt8

/-- `LivoxLidarUpgradeState`, which the observer is called with. -/
structure UpgradeState where
  state : FsmEvent
  progress : UInt8

/-! ### The upgrader -/

/-- `LivoxLidarUpgrader`. -/
structure LivoxLidarUpgrader where
  firmware : Firmware
  readOffset : UInt32
  readLength : UInt32
  handle : UInt32
  fsmState : FsmState
  progress : UInt8
  tryCount : UInt32

namespace LivoxLidarUpgrader

/-- The constructor. -/
def create (firmware : Firmware) (handle : UInt32) : LivoxLidarUpgrader :=
  ⟨firmware, 0, 1024, handle, .idle, 0, 0⟩

variable (u : LivoxLidarUpgrader)

/-- `IsUpgradeComplete`. -/
def isUpgradeComplete : Bool := u.fsmState = .idle

/-- `IsUpgradeError`. -/
def isUpgradeError : Bool := u.fsmState = .timeout || u.fsmState = .err

/-- `StartUpgrade`. -/
def startUpgrade : LivoxLidarUpgrader × Option Request :=
  let header := u.firmware.header
  let v3 :=
    if kEnlFileVersionV3 = u.firmware.firmwarePackageVersion then
      some (header.firmwareVersion, header.modifyTime, header.hwWhitelist.take 32)
    else none
  ({ u with readOffset := 0, progress := 0 },
    some (.startUpgrade ⟨header.firmwareType, header.encryptType, header.firmwareLength,
      header.deviceType, v3⟩))

/-- `XferFirmware`. -/
def xferFirmware : LivoxLidarUpgrader × Option Request :=
  let firmwareLength := u.firmware.header.firmwareLength
  if u.readOffset < firmwareLength then
    let readLength :=
      if u.readLength > firmwareLength - u.readOffset then firmwareLength - u.readOffset
      else u.readLength
    (u, some (.xferFirmware u.readOffset readLength u.firmware.header.encryptType
      ((u.firmware.data.drop u.readOffset.toNat).take readLength.toNat)))
  else (u, none)

/-- `CompleteXferFirmware`. The length of the checksum is cut to a byte, and
the checksum is copied from the header, where `hw_whitelist` is behind it. -/
def completeXferFirmware : LivoxLidarUpgrader × Option Request :=
  let header := u.firmware.header
  (u, some (.completeXferFirmware header.checksumType
    ((header.checksum ++ header.hwWhitelist).take header.checksumLength.toUInt8.toNat)))

/-- `GetUpgradeProgress`. -/
def getUpgradeProgress : LivoxLidarUpgrader × Option Request := (u, some .getUpgradeProgress)

/-- `UpgradeComplete`. -/
def upgradeComplete : LivoxLidarUpgrader × Option Request := (u, some (.requestReboot 100))

/-- The action behind a function pointer. -/
def run : FnFsmEvent → LivoxLidarUpgrader × Option Request
  | .startUpgrade => u.startUpgrade
  | .xferFirmware => u.xferFirmware
  | .completeXferFirmware => u.completeXferFirmware
  | .getUpgradeProgress => u.getUpgradeProgress
  | .upgradeComplete => u.upgradeComplete

/-- `LivoxLidarFsmStateChange`. -/
def livoxLidarFsmStateChange (event : FsmEvent) : LivoxLidarUpgrader :=
  { u with fsmState := event.toState }

/-- What `FsmEventHandler` does: the upgrader, the command it sent and what it
told the observer. -/
structure Handled where
  upgrader : LivoxLidarUpgrader
  request : Option Request
  report : UpgradeState

/-- `FsmEventHandler`. -/
def fsmEventHandler (event : FsmEvent) (progress : UInt8) : Handled :=
  let u := if event = .timeout ∨ event = .err then u.livoxLidarFsmStateChange event else u
  match findRow u.fsmState event with
  | none => ⟨u, none, ⟨event, progress⟩⟩
  | some row =>
    let u := { u with fsmState := row.nextState }
    match row.eventHandler with
    | none => ⟨u, none, ⟨event, progress⟩⟩
    | some f => ⟨(u.run f).1, (u.run f).2, ⟨event, progress⟩⟩

/-! ### Response handlers -/

/-- The part of the handlers for a status other than success: another try,
while the limit is not reached. -/
def failed (limit : UInt32) (retry giveUp : FsmEvent × UInt8) :
    LivoxLidarUpgrader × FsmEvent × UInt8 :=
  let tryCount := u.tryCount + 1
  if tryCount < limit then ({ u with tryCount }, retry) else ({ u with tryCount := 0 }, giveUp)

/-- `StartUpgradeResponseHandler` up to `FsmEventHandler`, as the handlers
below. -/
def startUpgradeResponseHandler (status : Status) (response : Response) :
    LivoxLidarUpgrader × FsmEvent × UInt8 :=
  if status = .success then
    let u := { u with tryCount := 0 }
    if response.retCode ≠ 0 then
      if response.retCode = kSystemIsNotReady then (u, .requestUpgrade, 10)
      else if response.retCode = eraseFirmware then (u, .requestUpgrade, 10)
      else (u, .err, 100)
    else (u, .xferFirmware, 20)
  else u.failed kGeneralTryCountLimit (.requestUpgrade, 10) (.err, 100)

/-- `XferFirmwareResponseHandler`. -/
def xferFirmwareResponseHandler (status : Status) (response : Response) :
    LivoxLidarUpgrader × FsmEvent × UInt8 :=
  if status = .success then
    let u := { u with tryCount := 0 }
    if response.retCode ≠ 0 then (u, .err, 100)
    else
      let u := { u with readOffset := u.readOffset + u.readLength }
      if u.readOffset < u.firmware.header.firmwareLength then (u, .xferFirmware, 20)
      else (u, .completeXferFirmware, 40)
  else u.failed kGeneralTryCountLimit (.xferFirmware, 20) (.err, 100)

/-- `CompleteXferFirmwareResponseHandler`. -/
def completeXferFirmwareResponseHandler (status : Status) (response : Response) :
    LivoxLidarUpgrader × FsmEvent × UInt8 :=
  if status = .success then
    let u := { u with tryCount := 0 }
    if response.retCode ≠ 0 then (u, .err, 100) else (u, .getUpgradeProgress, 50)
  else u.failed kGeneralTryCountLimit (.completeXferFirmware, 50) (.err, 100)

/-- `GetProgressResponseHandler`. -/
def getProgressResponseHandler (status : Status) (response : Response) :
    LivoxLidarUpgrader × FsmEvent × UInt8 :=
  if status = .success then
    let u := { u with tryCount := 0 }
    if response.retCode ≠ 0 then (u, .err, 100)
    else if response.progress < 100 then (u, .getUpgradeProgress, response.progress / 2 + 50)
    else (u, .complete, 100)
  else u.failed kGetProcessTryCountLimit (.getUpgradeProgress, u.progress / 2 + 50) (.err, 100)

/-- `UpgradeCompleteResponseHandler`. Its last try counts as a success. -/
def upgradeCompleteResponseHandler (status : Status) (response : Response) :
    LivoxLidarUpgrader × FsmEvent × UInt8 :=
  if status = .success then
    let u := { u with tryCount := 0 }
    if response.retCode ≠ 0 then (u, .err, 100) else (u, .reinit, 100)
  else u.failed kGeneralTryCountLimit (.complete, 100) (.reinit, 100)

/-- The handler that belongs to an action. -/
def responseEvent (f : FnFsmEvent) (status : Status) (response : Response) :
    LivoxLidarUpgrader × FsmEvent × UInt8 :=
  match f with
  | .startUpgrade => u.startUpgradeResponseHandler status response
  | .xferFirmware => u.xferFirmwareResponseHandler status response
  | .completeXferFirmware => u.completeXferFirmwareResponseHandler status response
  | .getUpgradeProgress => u.getProgressResponseHandler status response
  | .upgradeComplete => u.upgradeCompleteResponseHandler status response

/-- A response is handled. -/
def responseHandler (f : FnFsmEvent) (status : Status) (response : Response) : Handled :=
  let (u, event, progress) := u.responseEvent f status response
  u.fsmEventHandler event progress

end LivoxLidarUpgrader

/-! ### The chain of actions -/

namespace FnFsmEvent

/-- The state an action leads to. -/
def state : FnFsmEvent → FsmState
  | .startUpgrade => .request
  | .xferFirmware => .xferFirmware
  | .completeXferFirmware => .completeXferFirmware
  | .getUpgradeProgress => .getUpgradeProgress
  | .upgradeComplete => .complete

/-- The event that makes the action, and makes it again. -/
def event : FnFsmEvent → FsmEvent
  | .startUpgrade => .requestUpgrade
  | .xferFirmware => .xferFirmware
  | .completeXferFirmware => .completeXferFirmware
  | .getUpgradeProgress => .getUpgradeProgress
  | .upgradeComplete => .complete

/-- The action behind an action. -/
def next : FnFsmEvent → Option FnFsmEvent
  | .startUpgrade => some .xferFirmware
  | .xferFirmware => some .completeXferFirmware
  | .completeXferFirmware => some .getUpgradeProgress
  | .getUpgradeProgress => some .upgradeComplete
  | .upgradeComplete => none

/-- The event that leads on. -/
def nextEvent (f : FnFsmEvent) : FsmEvent := f.next.elim .reinit event

/-- The state it leads to. -/
def nextState (f : FnFsmEvent) : FsmState := f.next.elim .idle state

variable (f g : FnFsmEvent)

theorem state_injective : Function.Injective state := fun f g h => by
  cases f <;> cases g <;> first | rfl | cases h

/-- An upgrade that is neither idle nor over is in the state of an action. -/
theorem exists_state {state : FsmState} (hidle : state ≠ .idle) (htimeout : state ≠ .timeout)
    (herr : state ≠ .err) : ∃ f : FnFsmEvent, state = f.state := by
  cases state with
  | idle => exact absurd rfl hidle
  | request => exact ⟨.startUpgrade, rfl⟩
  | xferFirmware => exact ⟨.xferFirmware, rfl⟩
  | completeXferFirmware => exact ⟨.completeXferFirmware, rfl⟩
  | getUpgradeProgress => exact ⟨.getUpgradeProgress, rfl⟩
  | complete => exact ⟨.upgradeComplete, rfl⟩
  | timeout => exact absurd rfl htimeout
  | err => exact absurd rfl herr

theorem state_ne : f.state ≠ .idle ∧ f.state ≠ .timeout ∧ f.state ≠ .err := by
  cases f <;> simp [state]

theorem event_ne : f.event ≠ .timeout ∧ f.event ≠ .err := by
  cases f <;> simp [event]

theorem nextEvent_ne : f.nextEvent ≠ .timeout ∧ f.nextEvent ≠ .err := by
  cases f <;> simp [nextEvent, next, event]

/-- The table: an action is made again in its own state. -/
theorem findRow_event : findRow f.state f.event = some ⟨f.state, f.event, some f, f.state⟩ := by
  cases f <;> rfl

/-- The table: the action behind it follows. -/
theorem findRow_nextEvent :
    findRow f.state f.nextEvent = some ⟨f.state, f.nextEvent, f.next, f.nextState⟩ := by
  cases f <;> rfl

end FnFsmEvent

/-- The rows of the table: an event makes its own action, in the state the
action leads to, or it is the one that ends a complete upgrade. -/
theorem findRow_cases (state : FsmState) (event : FsmEvent) :
    findRow state event = none ∨
      findRow state event = some ⟨state, event, none, .idle⟩ ∨
      ∃ g : FnFsmEvent, event = g.event ∧
        findRow state event = some ⟨state, event, some g, g.state⟩ := by
  cases hrow : findRow state event with
  | none => exact .inl rfl
  | some row =>
    right
    unfold findRow at hrow
    have hmem := List.mem_of_find?_eq_some hrow
    obtain ⟨rfl, rfl⟩ : state = row.state ∧ event = row.event := by
      simpa using List.find?_some hrow
    simp only [upgradeEventTable, List.mem_cons, List.not_mem_nil, or_false] at hmem
    rcases hmem with rfl | rfl | rfl | rfl | rfl | rfl | rfl | rfl | rfl | rfl | rfl
    · exact .inr ⟨.startUpgrade, rfl, rfl⟩
    · exact .inr ⟨.startUpgrade, rfl, rfl⟩
    · exact .inr ⟨.xferFirmware, rfl, rfl⟩
    · exact .inr ⟨.xferFirmware, rfl, rfl⟩
    · exact .inr ⟨.completeXferFirmware, rfl, rfl⟩
    · exact .inr ⟨.completeXferFirmware, rfl, rfl⟩
    · exact .inr ⟨.getUpgradeProgress, rfl, rfl⟩
    · exact .inr ⟨.getUpgradeProgress, rfl, rfl⟩
    · exact .inr ⟨.upgradeComplete, rfl, rfl⟩
    · exact .inr ⟨.upgradeComplete, rfl, rfl⟩
    · exact .inl rfl

namespace LivoxLidarUpgrader

variable {u : LivoxLidarUpgrader} {event : FsmEvent} {progress : UInt8} {f : FnFsmEvent}
  {status : Status} {response : Response}

/-! ### What an event does -/

/-- An event of the table: its row gives the state and the action. -/
theorem fsmEventHandler_of_row (progress : UInt8) {row : FsmEventTable}
    (hrow : findRow u.fsmState event = some row)
    (hne : event ≠ .timeout ∧ event ≠ .err) :
    u.fsmEventHandler event progress =
      match row.eventHandler with
      | none => ⟨{ u with fsmState := row.nextState }, none, ⟨event, progress⟩⟩
      | some f => ⟨({ u with fsmState := row.nextState }.run f).1,
          ({ u with fsmState := row.nextState }.run f).2, ⟨event, progress⟩⟩ := by
  unfold fsmEventHandler
  rw [if_neg (not_or.mpr hne)]
  simp only [hrow]

/-- An event that the table does not have for the state. -/
theorem fsmEventHandler_of_no_row (hrow : findRow u.fsmState event = none)
    (hne : event ≠ .timeout ∧ event ≠ .err) :
    u.fsmEventHandler event progress = ⟨u, none, ⟨event, progress⟩⟩ := by
  unfold fsmEventHandler
  rw [if_neg (not_or.mpr hne)]
  simp only [hrow]

/-- The error ends the upgrade. -/
theorem fsmEventHandler_err :
    u.fsmEventHandler .err progress = ⟨{ u with fsmState := .err }, none, ⟨.err, progress⟩⟩ := rfl

/-- An action made in its state. -/
def act (u : LivoxLidarUpgrader) (f : FnFsmEvent) (report : UpgradeState) : Handled :=
  ⟨({ u with fsmState := f.state }.run f).1, ({ u with fsmState := f.state }.run f).2, report⟩

/-- What an event can do. -/
theorem fsmEventHandler_cases (u : LivoxLidarUpgrader) (event : FsmEvent) (progress : UInt8)
    (hne : event ≠ .timeout) :
    u.fsmEventHandler event progress = ⟨{ u with fsmState := .err }, none, ⟨event, progress⟩⟩ ∨
      event ≠ .err ∧ findRow u.fsmState event = none ∧
        u.fsmEventHandler event progress = ⟨u, none, ⟨event, progress⟩⟩ ∨
      u.fsmEventHandler event progress = ⟨{ u with fsmState := .idle }, none, ⟨event, progress⟩⟩ ∨
      ∃ g : FnFsmEvent, event = g.event ∧ findRow u.fsmState event ≠ none ∧
        u.fsmEventHandler event progress = u.act g ⟨event, progress⟩ := by
  by_cases herr : event = .err
  · subst herr
    exact .inl fsmEventHandler_err
  right
  rcases findRow_cases u.fsmState event with hrow | hrow | ⟨g, hg, hrow⟩
  · exact .inl ⟨herr, hrow, fsmEventHandler_of_no_row hrow ⟨hne, herr⟩⟩
  · exact .inr (.inl (fsmEventHandler_of_row progress hrow ⟨hne, herr⟩))
  · exact .inr (.inr ⟨g, hg, by simp [hrow], fsmEventHandler_of_row progress hrow ⟨hne, herr⟩⟩)

/-- The start of an upgrade. -/
theorem fsmEventHandler_idle (h : u.fsmState = .idle) :
    u.fsmEventHandler .requestUpgrade progress = u.act .startUpgrade ⟨.requestUpgrade, progress⟩ := by
  have hrow : findRow u.fsmState .requestUpgrade =
      some ⟨.idle, .requestUpgrade, some .startUpgrade, .request⟩ := by
    rw [h]
    rfl
  exact fsmEventHandler_of_row progress hrow ⟨nofun, nofun⟩

/-- Every action sends its command, but a transfer that has nothing to read. -/
theorem run_request (h : f = .xferFirmware → u.readOffset < u.firmware.header.firmwareLength) :
    ∃ request, (u.run f).2 = some request ∧ request.sender = f := by
  cases f with
  | xferFirmware =>
    rw [run, xferFirmware, if_pos (h rfl)]
    exact ⟨_, rfl, rfl⟩
  | startUpgrade | completeXferFirmware | getUpgradeProgress | upgradeComplete =>
    exact ⟨_, rfl, rfl⟩

/-- Every command is sent by the action it belongs to. -/
theorem run_sender {request : Request} (h : (u.run f).2 = some request) : request.sender = f := by
  cases f with
  | xferFirmware =>
    rw [run, xferFirmware] at h
    split at h <;> cases h
    rfl
  | startUpgrade | completeXferFirmware | getUpgradeProgress | upgradeComplete => cases h; rfl

/-- What an action keeps of the upgrader. -/
theorem run_keeps (u : LivoxLidarUpgrader) (f : FnFsmEvent) :
    (u.run f).1 = { u with readOffset := (u.run f).1.readOffset, progress := (u.run f).1.progress } ∧
      (f ≠ .startUpgrade → (u.run f).1 = u) ∧ ((u.run f).1.run f).2 = (u.run f).2 := by
  cases f with
  | startUpgrade => exact ⟨rfl, fun h => absurd rfl h, rfl⟩
  | xferFirmware =>
    have hsame : (u.run .xferFirmware).1 = u := by
      rw [run, xferFirmware]
      split <;> rfl
    exact ⟨by rw [hsame], fun _ => hsame, by rw [hsame]⟩
  | completeXferFirmware | getUpgradeProgress | upgradeComplete => exact ⟨rfl, fun _ => rfl, rfl⟩

theorem act_fsmState (u : LivoxLidarUpgrader) (f : FnFsmEvent) (report : UpgradeState) :
    (u.act f report).upgrader.fsmState = f.state := by
  rw [act, (run_keeps { u with fsmState := f.state } f).1]

/-- The chunk a transfer sends. -/
theorem run_xferFirmware {offset length : UInt32} {encryptType : UInt8} {data : List UInt8}
    (h : (u.run .xferFirmware).2 = some (.xferFirmware offset length encryptType data)) :
    offset = u.readOffset ∧
      u.readOffset.toNat < u.firmware.header.firmwareLength.toNat ∧
      length.toNat = min u.readLength.toNat
        (u.firmware.header.firmwareLength.toNat - u.readOffset.toNat) ∧
      data = (u.firmware.data.drop offset.toNat).take length.toNat := by
  rw [run, xferFirmware] at h
  split at h
  swap
  · cases h
  rename_i hlt
  have hlt' := UInt32.lt_iff_toNat_lt.mp hlt
  have hsub : (u.firmware.header.firmwareLength - u.readOffset).toNat =
      u.firmware.header.firmwareLength.toNat - u.readOffset.toNat :=
    UInt32.toNat_sub_of_le _ _ (UInt32.le_of_lt hlt)
  cases h
  refine ⟨rfl, hlt', ?_, rfl⟩
  split
  · rename_i hgt
    have hgt' := UInt32.lt_iff_toNat_lt.mp hgt
    omega
  · rename_i hle
    have hle' := UInt32.le_iff_toNat_le.mp (UInt32.not_lt.mp hle)
    omega

/-! ### What a response does -/

/-- What it takes for a response to lead on. -/
def Answered (u : LivoxLidarUpgrader) (f : FnFsmEvent) (status : Status) (response : Response) :
    Prop :=
  match f with
  | .startUpgrade | .completeXferFirmware => status = .success ∧ response.retCode = 0
  | .xferFirmware => status = .success ∧ response.retCode = 0 ∧
      ¬ u.readOffset + u.readLength < u.firmware.header.firmwareLength
  | .getUpgradeProgress => status = .success ∧ response.retCode = 0 ∧ 100 ≤ response.progress
  | .upgradeComplete => True

/-- The read offset behind a response. -/
def offsetAfter (u : LivoxLidarUpgrader) (f : FnFsmEvent) (status : Status) (response : Response) :
    UInt32 :=
  if f = .xferFirmware ∧ status = .success ∧ response.retCode = 0 then u.readOffset + u.readLength
  else u.readOffset

/-- What a response handler hands to `FsmEventHandler`: only the try count and
the read offset change, and the event is that of the action again, the one
that leads on, or the error. -/
def Outcome (u : LivoxLidarUpgrader) (f : FnFsmEvent) (status : Status) (response : Response)
    (r : LivoxLidarUpgrader × FsmEvent × UInt8) : Prop :=
  ∃ tryCount, r.1 = { u with tryCount, readOffset := u.offsetAfter f status response } ∧
    (r.2.1 = f.event ∨ r.2.1 = f.nextEvent ∧ u.Answered f status response ∨ r.2.1 = .err)

/-- A try that failed. -/
theorem outcome_failed {limit : UInt32} {retry giveUp : FsmEvent × UInt8} (hstatus : status ≠ .success)
    (hretry : retry.1 = f.event)
    (hgiveUp : giveUp.1 = f.nextEvent ∧ u.Answered f status response ∨ giveUp.1 = .err) :
    u.Outcome f status response (u.failed limit retry giveUp) := by
  have hoffset : u.offsetAfter f status response = u.readOffset :=
    if_neg fun h => hstatus h.2.1
  unfold Outcome
  rw [hoffset, failed]
  split
  · exact ⟨_, rfl, .inl hretry⟩
  · exact ⟨0, rfl, .inr hgiveUp⟩

/-- Every response handler. -/
theorem outcome_responseEvent (u : LivoxLidarUpgrader) (f : FnFsmEvent) (status : Status)
    (response : Response) :
    u.Outcome f status response (u.responseEvent f status response) := by
  by_cases hstatus : status = .success
  swap
  · cases f <;>
      simp only [responseEvent, startUpgradeResponseHandler, xferFirmwareResponseHandler,
        completeXferFirmwareResponseHandler, getProgressResponseHandler,
        upgradeCompleteResponseHandler, if_neg hstatus]
    case upgradeComplete => exact outcome_failed hstatus rfl (.inl ⟨rfl, trivial⟩)
    all_goals exact outcome_failed hstatus rfl (.inr rfl)
  by_cases hcode : response.retCode = 0
  swap
  · have hoffset : u.offsetAfter f status response = u.readOffset := if_neg fun h => hcode h.2.2
    unfold Outcome
    rw [hoffset]
    refine ⟨0, ?_⟩
    cases f with
    | startUpgrade =>
      simp only [responseEvent, startUpgradeResponseHandler, if_pos hstatus, if_pos hcode]
      split
      · exact ⟨rfl, .inl rfl⟩
      · split
        · exact ⟨rfl, .inl rfl⟩
        · exact ⟨rfl, .inr (.inr rfl)⟩
    | xferFirmware | completeXferFirmware | getUpgradeProgress | upgradeComplete =>
      simp only [responseEvent, xferFirmwareResponseHandler, completeXferFirmwareResponseHandler,
        getProgressResponseHandler, upgradeCompleteResponseHandler, if_pos hstatus, if_pos hcode,
        true_and, or_true]
  have hcode' : ¬ response.retCode ≠ 0 := not_not.mpr hcode
  cases f with
  | startUpgrade =>
    simp only [Outcome, responseEvent, startUpgradeResponseHandler, if_pos hstatus, if_neg hcode']
    exact ⟨0, rfl, .inr (.inl ⟨rfl, hstatus, hcode⟩)⟩
  | xferFirmware =>
    have hoffset : u.offsetAfter .xferFirmware status response = u.readOffset + u.readLength :=
      if_pos ⟨rfl, hstatus, hcode⟩
    simp only [Outcome, responseEvent, xferFirmwareResponseHandler, if_pos hstatus, if_neg hcode',
      hoffset]
    refine ⟨0, ?_⟩
    split
    · exact ⟨rfl, .inl rfl⟩
    · rename_i hend
      exact ⟨rfl, .inr (.inl ⟨rfl, hstatus, hcode, hend⟩)⟩
  | completeXferFirmware =>
    simp only [Outcome, responseEvent, completeXferFirmwareResponseHandler, if_pos hstatus,
      if_neg hcode']
    exact ⟨0, rfl, .inr (.inl ⟨rfl, hstatus, hcode⟩)⟩
  | getUpgradeProgress =>
    simp only [Outcome, responseEvent, getProgressResponseHandler, if_pos hstatus, if_neg hcode']
    refine ⟨0, ?_⟩
    split
    · exact ⟨rfl, .inl rfl⟩
    · rename_i hdone
      exact ⟨rfl, .inr (.inl ⟨rfl, hstatus, hcode, UInt8.not_lt.mp hdone⟩)⟩
  | upgradeComplete =>
    simp only [Outcome, responseEvent, upgradeCompleteResponseHandler, if_pos hstatus, if_neg hcode']
    exact ⟨0, rfl, .inr (.inl ⟨rfl, trivial⟩)⟩

/-- The handler of a response to the command of the state's action. -/
theorem responseHandler_cases (status : Status) (response : Response)
    (hstate : u.fsmState = f.state) : ∃ tryCount report u',
    u' = { u with tryCount, readOffset := u.offsetAfter f status response } ∧
    (u.responseHandler f status response = u'.act f report ∨
      u.Answered f status response ∧ (∃ g, f.next = some g ∧
        u.responseHandler f status response = u'.act g report) ∨
      u.Answered f status response ∧ f.next = none ∧
        u.responseHandler f status response = ⟨{ u' with fsmState := .idle }, none, report⟩ ∨
      u.responseHandler f status response = ⟨{ u' with fsmState := .err }, none, report⟩) := by
  obtain ⟨tryCount, hu, hevent⟩ :=
    u.outcome_responseEvent f status response
  generalize hr : u.responseEvent f status response = r at hu hevent
  obtain ⟨u', event, progress⟩ := r
  have hhandled : u.responseHandler f status response = u'.fsmEventHandler event progress := by
    unfold responseHandler
    rw [hr]
  have hstate' : u'.fsmState = f.state := by rw [show u' = _ from hu, hstate]
  simp only at hu hevent
  refine ⟨tryCount, ⟨event, progress⟩, u', hu, ?_⟩
  rw [hhandled]
  rcases hevent with rfl | ⟨rfl, hanswered⟩ | rfl
  · have hrow := f.findRow_event
    rw [← hstate'] at hrow
    exact .inl ((fsmEventHandler_of_row progress hrow f.event_ne).trans (by rw [act, hstate']))
  · have hrow := f.findRow_nextEvent
    rw [← hstate'] at hrow
    replace hrow := fsmEventHandler_of_row progress hrow f.nextEvent_ne
    cases hnext : f.next with
    | none =>
      rw [hnext] at hrow
      have hidle : f.nextState = .idle := by rw [FnFsmEvent.nextState, hnext]; rfl
      exact .inr (.inr (.inl ⟨hanswered, rfl, by rw [hrow, hidle]⟩))
    | some g =>
      rw [hnext] at hrow
      have hg : f.nextState = g.state := by rw [FnFsmEvent.nextState, hnext]; rfl
      exact .inr (.inl ⟨hanswered, g, rfl, by rw [hrow, hg, act]⟩)
  · exact .inr (.inr (.inr fsmEventHandler_err))

end LivoxLidarUpgrader

end Livox
end SensorSupport
