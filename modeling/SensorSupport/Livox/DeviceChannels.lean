/-
# The sockets of the device manager (`sdk_core/device_manager.cpp`, `livox_lidar_sdk.cpp`)

`LivoxLidarSdkInit` opens the two detection sockets and the channels of the configured lidars,
`OnData` opens those of a lidar that is discovered, and `LivoxLidarSdkUninit` closes them. Any
`CreateSocket` can fail, and what is called then returns at once.

An `Init` that fails leaves its sockets and its tables behind, and `LivoxLidarSdkUninit` does
nothing behind it. The channels are closed by the next session. The two detection sockets are
not: nobody names them any more (`socket_lifecycle`).

Key definitions: `DeviceManager`, `initCfg`, `initView`, `onDiscovery`, `destory`, `Accounted`.
Key theorems: `accounted_channels`, `openSession_inv`, `socket_lifecycle`.
-/
import Mathlib.Data.List.Nodup
import SensorSupport.Lib.Run

namespace SensorSupport
namespace Livox
namespace DeviceChannels

/-! ### Configurations -/

/-- `HostNetInfo`. -/
structure HostNetInfo where
  hostIp : List Char
  multicastIp : List Char
  cmdDataPort : UInt16
  pushMsgPort : UInt16
  pointDataPort : UInt16
  imuDataPort : UInt16
  logDataPort : UInt16
deriving DecidableEq

/-- `LivoxLidarCfg`; `handle` is `inet_addr` of its `lidar_ipaddr`. -/
structure LivoxLidarCfg where
  deviceType : UInt8
  handle : UInt32
  hostNetInfo : HostNetInfo
deriving DecidableEq

def kDetectionPort : UInt16 := 56000
def kHostDebugPointCloudPort : UInt16 := 44332
def kPaHostFaultPort : UInt16 := 42867
def kLogPort : UInt16 := 0
def kLivoxLidarTypeMid360 : UInt8 := 9
def kLivoxLidarTypePA : UInt8 := 16
def kLivoxLidarTypeMid360s : UInt8 := 35

/-- The host address that stands for any interface. -/
def localHost : List Char := ['l', 'o', 'c', 'a', 'l']

/-- The address that broadcasts arrive at. -/
def broadcastIp : List Char := "255.255.255.255".toList

/-- A socket, by the call of `CreateSocket` that made it. -/
abbrev Sock := ℕ

/-- What `CreateSocket` is asked to bind to. -/
structure Endpoint where
  port : UInt16
  netif : List Char
  multicastIp : List Char
deriving DecidableEq

/-- A key of the channel tables. -/
abbrev ChannelKey := List Char

/-- `host_ip + ":" + std::to_string(port)`. -/
def channelKey (hostIp : List Char) (port : UInt16) : ChannelKey :=
  hostIp ++ ':' :: Nat.toDigits 10 port.toNat

theorem append_cons_inj {c : Char} : ∀ {l l' r r' : List Char}, c ∉ l → c ∉ l' →
    l ++ c :: r = l' ++ c :: r' → l = l' ∧ r = r'
  | [], [], _, _, _, _, h => ⟨rfl, (List.cons.inj h).2⟩
  | [], _ :: _, _, _, _, hl', h => absurd ((List.cons.inj h).1 ▸ List.mem_cons_self) hl'
  | _ :: _, [], _, _, hl, _, h => absurd ((List.cons.inj h).1 ▸ List.mem_cons_self) hl
  | _ :: _, _ :: _, _, _, hl, hl', h => by
    obtain ⟨rfl, htail⟩ := List.cons.inj h
    obtain ⟨rfl, rfl⟩ := append_cons_inj (fun hmem => hl (List.mem_cons_of_mem _ hmem))
      (fun hmem => hl' (List.mem_cons_of_mem _ hmem)) htail
    exact ⟨rfl, rfl⟩

/-- A key tells the address and the port: no digit is a colon. -/
theorem channelKey_injective {hostIp hostIp' : List Char} {port port' : UInt16}
    (h : channelKey hostIp port = channelKey hostIp' port') : hostIp = hostIp' ∧ port = port' := by
  have hcolon : ∀ n, ':' ∉ (Nat.toDigits 10 n).reverse := fun n hmem => by
    have hdigit := Nat.isDigit_of_mem_toDigits (by decide) (by decide) (List.mem_reverse.mp hmem)
    exact absurd hdigit (by decide)
  have hreverse := congrArg List.reverse h
  simp only [channelKey, List.reverse_append, List.reverse_cons, List.append_assoc,
    List.singleton_append] at hreverse
  obtain ⟨hport, hip⟩ := append_cons_inj (hcolon _) (hcolon _) hreverse
  have hnat := congrArg (Nat.ofDigitChars 10 · 0) (List.reverse_inj.mp hport)
  simp only [Nat.ofDigitChars_ten_toDigits] at hnat
  exact ⟨List.reverse_inj.mp hip, UInt16.toNat_inj.mp hnat⟩

/-! ### The device manager -/

/-- `DeviceManager` with the sockets of the process. `next` counts the calls of
`CreateSocket`; the loops are lists of the sockets that were handed to them. -/
structure DeviceManager where
  next : ℕ
  opened : List (Sock × Endpoint)
  isInitialized : Bool
  isView : Bool
  masterSdk : Bool
  logEnable : Bool
  detectionHostIp : List Char
  detectionSocket : Option Sock
  detectionBroadcastSocket : Option Sock
  detectionThread : Bool
  socketVec : List Sock
  vecBroadcastSocket : List Sock
  channelInfo : ChannelKey → Option Sock
  customCommandChannel : ChannelKey → Option Sock
  commandChannel : List Sock
  dataChannel : List Sock
  typeLidarsCfgMap : UInt8 → Option LivoxLidarCfg
  customLidarsCfgMap : UInt32 → Option LivoxLidarCfg
  customLidarsCfg : List LivoxLidarCfg
  detectionLoop : List Sock
  cmdLoop : List Sock
  dataLoop : List Sock

namespace DeviceManager

/-- After the constructor. -/
def init : DeviceManager where
  next := 0
  opened := []
  isInitialized := false
  isView := false
  masterSdk := false
  logEnable := false
  detectionHostIp := []
  detectionSocket := none
  detectionBroadcastSocket := none
  detectionThread := false
  socketVec := []
  vecBroadcastSocket := []
  channelInfo _ := none
  customCommandChannel _ := none
  commandChannel := []
  dataChannel := []
  typeLidarsCfgMap _ := none
  customLidarsCfgMap _ := none
  customLidarsCfg := []
  detectionLoop := []
  cmdLoop := []
  dataLoop := []

section Creation

-- which calls of `CreateSocket` succeed
variable (avail : ℕ → Bool)

/-- `util::CreateSocket`. -/
def createSocket (s : DeviceManager) (e : Endpoint) : DeviceManager × Option Sock :=
  if avail s.next then
    ({ s with next := s.next + 1, opened := s.opened ++ [(s.next, e)] }, some s.next)
  else ({ s with next := s.next + 1 }, none)

/-- Goes on unless it failed. -/
def andThen (r : DeviceManager × Bool) (f : DeviceManager → DeviceManager × Bool) :
    DeviceManager × Bool :=
  if r.2 then f r.1 else r

/-- `CreateDetectionChannel`. -/
def createDetectionChannel (s : DeviceManager) : DeviceManager × Bool :=
  let (s, broadcast) := createSocket avail s ⟨kDetectionPort, broadcastIp, []⟩
  let s := { s with detectionBroadcastSocket := broadcast }
  match broadcast with
  | none => (s, false)
  | some broadcast =>
    let s := { s with detectionLoop := s.detectionLoop ++ [broadcast] }
    let key := channelKey s.detectionHostIp kDetectionPort
    let (s, sock) := createSocket avail s ⟨kDetectionPort, s.detectionHostIp, []⟩
    let s := { s with detectionSocket := sock }
    match sock with
    | none => (s, false)
    | some sock =>
      ({ s with
          detectionLoop := s.detectionLoop ++ [sock]
          channelInfo := Function.update s.channelInfo key (some sock)
          customCommandChannel :=
            if (s.customCommandChannel key).isNone then
              Function.update s.customCommandChannel key (some sock)
            else s.customCommandChannel }, true)

/-- The interface that a host address binds to. -/
def netifOf (hostIp : List Char) : List Char := if hostIp = localHost then [] else hostIp

/-- `CreateDataSocketAndAddDelegate`. -/
def createDataSocketAndAddDelegate (hostIp : List Char) (port : UInt16) (multicastIp : List Char)
    (s : DeviceManager) : DeviceManager × Bool :=
  if hostIp.isEmpty || port == 0 || port == kLogPort || port == kDetectionPort then (s, true)
  else if (s.channelInfo (channelKey hostIp port)).isSome then (s, true)
  else
    let (s, sock) := createSocket avail s ⟨port, netifOf hostIp, multicastIp⟩
    match sock with
    | none => (s, false)
    | some sock =>
      ({ s with
          socketVec := s.socketVec ++ [sock]
          channelInfo := Function.update s.channelInfo (channelKey hostIp port) (some sock)
          dataChannel := sock :: s.dataChannel
          dataLoop := s.dataLoop ++ [sock] }, true)

/-- `CreateCmdSocketAndAddDelegate`. -/
def createCmdSocketAndAddDelegate (hostIp : List Char) (port : UInt16) (s : DeviceManager) :
    DeviceManager × Bool :=
  if hostIp.isEmpty || port == 0 || port == kLogPort then (s, true)
  else
    let key := channelKey hostIp port
    match s.channelInfo key with
    | some sock =>
      ({ s with customCommandChannel :=
          if (s.customCommandChannel key).isNone then
            Function.update s.customCommandChannel key (some sock)
          else s.customCommandChannel }, true)
    | none =>
      let (s, sock) := createSocket avail s ⟨port, netifOf hostIp, []⟩
      match sock with
      | none => (s, false)
      | some sock =>
        ({ s with
            socketVec := s.socketVec ++ [sock]
            channelInfo := Function.update s.channelInfo key (some sock)
            commandChannel := sock :: s.commandChannel
            customCommandChannel := Function.update s.customCommandChannel key (some sock)
            cmdLoop := s.cmdLoop ++ [sock] }, true)

/-- The broadcast socket of `CreateCommandChannel`. -/
def createBroadcastSocket (port : UInt16) (s : DeviceManager) : DeviceManager × Bool :=
  let (s, sock) := createSocket avail s ⟨port, broadcastIp, []⟩
  match sock with
  | none => (s, false)
  | some sock =>
    ({ s with
        vecBroadcastSocket := s.vecBroadcastSocket ++ [sock]
        cmdLoop := s.cmdLoop ++ [sock] }, true)

/-- `CreateDataChannel`. -/
def createDataChannel (host : HostNetInfo) (s : DeviceManager) : DeviceManager × Bool :=
  let create := fun port => createDataSocketAndAddDelegate avail host.hostIp port host.multicastIp
  andThen (andThen (create host.pointDataPort s) (create host.imuDataPort))
    (create kHostDebugPointCloudPort)

/-- Goes on with a step that a condition asks for. -/
def andWhen (r : DeviceManager × Bool) (cond : Bool) (f : DeviceManager → DeviceManager × Bool) :
    DeviceManager × Bool :=
  andThen r fun s => if cond then f s else (s, true)

/-- The lidars whose `CreateCommandChannel` opens a broadcast socket. -/
def isMid360 (devType : UInt8) : Bool :=
  devType == kLivoxLidarTypeMid360 || devType == kLivoxLidarTypeMid360s

/-- `CreateCommandChannel`. -/
def createCommandChannel (devType : UInt8) (host : HostNetInfo) (s : DeviceManager) :
    DeviceManager × Bool :=
  let create := createCmdSocketAndAddDelegate avail host.hostIp
  let r := andWhen (s, true) s.masterSdk (create host.cmdDataPort)
  let r := andThen r (create host.pushMsgPort)
  let r := andWhen r (devType == kLivoxLidarTypePA) (create kPaHostFaultPort)
  let r := andWhen r (isMid360 devType) (createBroadcastSocket avail host.pushMsgPort)
  andWhen r s.logEnable (create host.logDataPort)

/-- The loop over the lidars in `CreateChannel` and in `OnData`. -/
def createChannels : List LivoxLidarCfg → DeviceManager → DeviceManager × Bool
  | [], s => (s, true)
  | cfg :: cfgs, s =>
    andThen (andThen (createDataChannel avail cfg.hostNetInfo s)
      (createCommandChannel avail cfg.deviceType cfg.hostNetInfo)) (createChannels cfgs)

/-! ### The calls -/

/-- `CreateIOThread`: the loops of a session that was there before are gone. -/
def createIOThread (s : DeviceManager) : DeviceManager :=
  { s with detectionLoop := [], cmdLoop := [], dataLoop := [] }

/-- `GetLidarConfigMap`. -/
def getLidarConfigMap (lidars customs : List LivoxLidarCfg) (s : DeviceManager) : DeviceManager :=
  { s with
    typeLidarsCfgMap := lidars.foldl
      (fun m cfg => Function.update m cfg.deviceType (some cfg)) s.typeLidarsCfgMap
    customLidarsCfgMap := customs.foldl
      (fun m cfg => Function.update m cfg.handle (some cfg)) s.customLidarsCfgMap }

/-- The configuration whose host the detection uses. -/
def detectionCfg (lidars customs : List LivoxLidarCfg) : Option LivoxLidarCfg :=
  lidars.head?.or customs.head?

/-- `Init` up to its first socket. -/
def prepareCfg (lidars customs : List LivoxLidarCfg) (masterSdk logEnable : Bool)
    (cfg : LivoxLidarCfg) (s : DeviceManager) : DeviceManager :=
  createIOThread (getLidarConfigMap lidars customs
    { s with
      isView := false
      masterSdk := masterSdk
      logEnable := logEnable
      customLidarsCfg := customs
      detectionHostIp := cfg.hostNetInfo.hostIp })

/-- The end of an `Init` that succeeded in `LivoxLidarSdkInit`. -/
def started (s : DeviceManager) : DeviceManager × Bool :=
  ({ s with detectionThread := true, isInitialized := true }, true)

/-- An `Init` from its first socket on. -/
def openSession (cfgs : List LivoxLidarCfg) (s : DeviceManager) : DeviceManager × Bool :=
  andThen (andThen (createDetectionChannel avail s) (createChannels avail cfgs)) started

/-- `Init` with a configuration, as `LivoxLidarSdkInit` calls it. -/
def initCfg (lidars customs : List LivoxLidarCfg) (masterSdk logEnable : Bool)
    (s : DeviceManager) : DeviceManager × Bool :=
  match detectionCfg lidars customs with
  | none => ({ s with isView := false, masterSdk := masterSdk, customLidarsCfg := customs }, false)
  | some cfg => openSession avail customs (prepareCfg lidars customs masterSdk logEnable cfg s)

/-- `Init` of a viewer up to its first socket. -/
def prepareView (hostIp : List Char) (logEnable : Bool) (s : DeviceManager) : DeviceManager :=
  createIOThread { s with isView := true, detectionHostIp := hostIp, logEnable := logEnable }

/-- `Init` of a viewer. -/
def initView (hostIp : List Char) (logEnable : Bool) (s : DeviceManager) : DeviceManager × Bool :=
  andThen (createDetectionChannel avail (prepareView hostIp logEnable s)) started

/-- The entries of a lidar that is discovered. -/
def addLidar (handle : UInt32) (devType : UInt8) (cfg : LivoxLidarCfg) (s : DeviceManager) :
    DeviceManager :=
  let cfg := { cfg with handle := handle }
  { s with
    typeLidarsCfgMap := Function.update s.typeLidarsCfgMap devType (some cfg)
    customLidarsCfgMap := Function.update s.customLidarsCfgMap handle (some cfg)
    customLidarsCfg := s.customLidarsCfg ++ [cfg] }

/-- `OnData` for an answer to the search from a lidar that is not known. -/
def onDiscovery (handle : UInt32) (devType : UInt8) (s : DeviceManager) : DeviceManager :=
  if s.isView || (s.customLidarsCfgMap handle).isSome then s
  else
    match s.typeLidarsCfgMap devType with
    | none => s
    | some cfg =>
      let s := s.addLidar handle devType cfg
      (createChannels avail s.customLidarsCfg s).1

/-- A channel of `CreateViewDataChannel`. -/
def createViewSocket (port : UInt16) (s : DeviceManager) : DeviceManager × Bool :=
  let key := channelKey s.detectionHostIp port
  if (s.channelInfo key).isSome then (s, true)
  else
    let (s, sock) := createSocket avail s ⟨port, s.detectionHostIp, []⟩
    match sock with
    | none => (s, false)
    | some sock =>
      ({ s with
          socketVec := s.socketVec ++ [sock]
          channelInfo := Function.update s.channelInfo key (some sock)
          dataLoop := s.dataLoop ++ [sock] }, true)

/-- `CreateViewDataChannel`. -/
def createViewDataChannel (pointPort imuPort : UInt16) (s : DeviceManager) : DeviceManager :=
  (andThen (createViewSocket avail pointPort s) (createViewSocket avail imuPort)).1

end Creation

/-- The sockets that `Destory` closes, in order. -/
def closes (s : DeviceManager) : List Sock :=
  s.socketVec ++ s.vecBroadcastSocket ++
    if s.detectionThread then s.detectionSocket.toList ++ s.detectionBroadcastSocket.toList else []

/-- `Destory`; it takes the delegates of the tables out of the loops. -/
def destory (s : DeviceManager) : DeviceManager :=
  { s with
    opened := s.opened.filter (·.1 ∉ s.closes)
    isView := false
    detectionHostIp := []
    detectionSocket := if s.detectionThread then none else s.detectionSocket
    detectionBroadcastSocket := if s.detectionThread then none else s.detectionBroadcastSocket
    detectionThread := false
    socketVec := []
    vecBroadcastSocket := []
    channelInfo := fun _ => none
    customCommandChannel := fun _ => none
    commandChannel := []
    dataChannel := []
    typeLidarsCfgMap := fun _ => none
    customLidarsCfgMap := fun _ => none
    customLidarsCfg := []
    detectionLoop := s.detectionLoop.filter fun sock =>
      sock ∉ s.detectionSocket.toList ++ s.detectionBroadcastSocket.toList
    cmdLoop := s.cmdLoop.filter (· ∉ s.commandChannel ++ s.vecBroadcastSocket)
    dataLoop := s.dataLoop.filter (· ∉ s.dataChannel) }

/-- `GetCmdChannel`, which `SendCommand` uses. -/
def getCmdChannel (s : DeviceManager) (handle : UInt32) : Option Sock :=
  (s.customLidarsCfgMap handle).bind fun cfg =>
    s.customCommandChannel (channelKey cfg.hostNetInfo.hostIp cfg.hostNetInfo.cmdDataPort)

/-- `GetLoggerCmdChannel`, which `SendLoggerCommand` uses. -/
def getLoggerCmdChannel (s : DeviceManager) (handle : UInt32) : Option Sock :=
  (s.customLidarsCfgMap handle).bind fun cfg =>
    s.customCommandChannel (channelKey cfg.hostNetInfo.hostIp cfg.hostNetInfo.logDataPort)

/-- The sockets of the loops. -/
def delegates (s : DeviceManager) : List Sock := s.detectionLoop ++ s.cmdLoop ++ s.dataLoop

end DeviceManager

/-- The calls of a program and what the loops call: `sock` is the socket that has data. -/
inductive ApiEvent
  | initCfg (lidars customs : List LivoxLidarCfg) (masterSdk logEnable : Bool)
  | initView (hostIp : List Char) (logEnable : Bool)
  | uninit
  | discovery (sock : Sock) (handle : UInt32) (devType : UInt8)
  | viewLidar (sock : Sock) (pointPort imuPort : UInt16)

namespace DeviceManager

section Steps

variable (avail : ℕ → Bool)

/-- A loop can call for the data of a socket. -/
def serves (s : DeviceManager) (sock : Sock) : Bool :=
  sock ∈ s.delegates && s.opened.any (·.1 == sock)

/-- One event, if it can happen. -/
def step (s : DeviceManager) : ApiEvent → Option DeviceManager
  | .initCfg lidars customs masterSdk logEnable =>
    some (if s.isInitialized then s else (initCfg avail lidars customs masterSdk logEnable s).1)
  | .initView hostIp logEnable =>
    some (if s.isInitialized then s else (initView avail hostIp logEnable s).1)
  | .uninit => some (if s.isInitialized then { s.destory with isInitialized := false } else s)
  | .discovery sock handle devType =>
    if s.serves sock then some (onDiscovery avail handle devType s) else none
  | .viewLidar sock pointPort imuPort =>
    if s.serves sock && s.isView then some (createViewDataChannel avail pointPort imuPort s)
    else none

/-- The sockets that `CreateDetectionChannel` opens when it makes the call `n` first. -/
def detectionSockets (n : ℕ) : List Sock :=
  if avail n then n :: if avail (n + 1) then [n + 1] else [] else []

/-- The detection sockets of an `Init` that fails. -/
def lostIn (x : DeviceManager × ApiEvent) : List Sock :=
  match x.2 with
  | .initCfg lidars customs masterSdk logEnable =>
    if x.1.isInitialized || (detectionCfg lidars customs).isNone ||
      (initCfg avail lidars customs masterSdk logEnable x.1).2 then []
    else detectionSockets avail x.1.next
  | .initView hostIp logEnable =>
    if x.1.isInitialized || (initView avail hostIp logEnable x.1).2 then []
    else detectionSockets avail x.1.next
  | _ => []

/-- The detection sockets of all that failed. -/
def lost (tr : List (DeviceManager × ApiEvent)) : List Sock := tr.flatMap (lostIn avail)

end Steps

/-! ### What the creation of channels keeps -/

section Keeps

variable {avail : ℕ → Bool} {P : DeviceManager → Prop} {s s' : DeviceManager}
  {r : DeviceManager × Bool} {f : DeviceManager → DeviceManager × Bool}

theorem andThen_keeps (hr : P r.1) (hf : ∀ s, P s → P (f s).1) : P (andThen r f).1 := by
  unfold andThen
  split
  · exact hf _ hr
  · exact hr

theorem andWhen_keeps {cond : Bool} (hr : P r.1) (hf : ∀ s, P s → P (f s).1) :
    P (andWhen r cond f).1 := by
  refine andThen_keeps hr fun s hs => ?_
  split
  · exact hf s hs
  · exact hs

variable
  (hdata : ∀ hostIp port multicastIp s, P s →
    P (createDataSocketAndAddDelegate avail hostIp port multicastIp s).1)
  (hcmd : ∀ hostIp port s, P s → P (createCmdSocketAndAddDelegate avail hostIp port s).1)
  (hbroadcast : ∀ port s, P s → P (createBroadcastSocket avail port s).1)

include hdata in
theorem createDataChannel_keeps (host : HostNetInfo) (h : P s) :
    P (createDataChannel avail host s).1 := by
  refine andThen_keeps (andThen_keeps ?_ ?_) ?_
  · exact hdata _ _ _ s h
  · exact hdata _ _ _
  · exact hdata _ _ _

include hcmd hbroadcast in
theorem createCommandChannel_keeps (devType : UInt8) (host : HostNetInfo) (h : P s) :
    P (createCommandChannel avail devType host s).1 := by
  unfold createCommandChannel
  refine andWhen_keeps (andWhen_keeps (andWhen_keeps (andThen_keeps (andWhen_keeps h ?_) ?_) ?_)
    ?_) ?_
  · exact hcmd _ _
  · exact hcmd _ _
  · exact hcmd _ _
  · exact hbroadcast _
  · exact hcmd _ _

include hdata hcmd hbroadcast in
/-- What the creation of a socket of each kind keeps is kept for all lidars. -/
theorem createChannels_keeps : ∀ (cfgs : List LivoxLidarCfg) {s : DeviceManager}, P s →
    P (createChannels avail cfgs s).1
  | [], _, h => h
  | _ :: cfgs, _, h =>
    andThen_keeps (andThen_keeps (createDataChannel_keeps hdata _ h)
      fun _ hs => createCommandChannel_keeps hcmd hbroadcast _ _ hs)
      fun _ hs => createChannels_keeps cfgs hs

end Keeps

/-! ### What the creation of a socket does -/

/-- A state behind a call of `CreateSocket` that succeeded. -/
def withSocket (s : DeviceManager) (e : Endpoint) : DeviceManager :=
  { s with next := s.next + 1, opened := s.opened ++ [(s.next, e)] }

/-- A state behind a call of `CreateSocket` that failed. -/
def withoutSocket (s : DeviceManager) : DeviceManager := { s with next := s.next + 1 }

section Cases

variable (avail : ℕ → Bool) (hostIp multicastIp : List Char) (port : UInt16) (s : DeviceManager)

theorem createSocket_eq (e : Endpoint) : createSocket avail s e =
    if avail s.next then (s.withSocket e, some s.next) else (s.withoutSocket, none) := rfl

theorem createDataSocket_cases :
    createDataSocketAndAddDelegate avail hostIp port multicastIp s = (s, true) ∨
    avail s.next = false ∧
      createDataSocketAndAddDelegate avail hostIp port multicastIp s = (s.withoutSocket, false) ∨
    avail s.next = true ∧ s.channelInfo (channelKey hostIp port) = none ∧
      createDataSocketAndAddDelegate avail hostIp port multicastIp s =
        ({ s.withSocket ⟨port, netifOf hostIp, multicastIp⟩ with
            socketVec := s.socketVec ++ [s.next]
            channelInfo := Function.update s.channelInfo (channelKey hostIp port) (some s.next)
            dataChannel := s.next :: s.dataChannel
            dataLoop := s.dataLoop ++ [s.next] }, true) := by
  unfold createDataSocketAndAddDelegate
  split
  · exact .inl rfl
  split
  · exact .inl rfl
  · rename_i hkey
    rw [Bool.not_eq_true, Option.isSome_eq_false_iff, Option.isNone_iff_eq_none] at hkey
    rw [createSocket_eq]
    cases havail : avail s.next with
    | true => exact .inr (.inr ⟨rfl, hkey, rfl⟩)
    | false => exact .inr (.inl ⟨rfl, rfl⟩)

/-- The table of the command channels with a channel that is there already. -/
def withCustom (s : DeviceManager) (key : ChannelKey) (sock : Sock) : DeviceManager :=
  { s with customCommandChannel :=
      if (s.customCommandChannel key).isNone then
        Function.update s.customCommandChannel key (some sock)
      else s.customCommandChannel }

theorem createCmdSocket_cases :
    createCmdSocketAndAddDelegate avail hostIp port s = (s, true) ∨
    (∃ sock, s.channelInfo (channelKey hostIp port) = some sock ∧
      createCmdSocketAndAddDelegate avail hostIp port s =
        (s.withCustom (channelKey hostIp port) sock, true)) ∨
    avail s.next = false ∧
      createCmdSocketAndAddDelegate avail hostIp port s = (s.withoutSocket, false) ∨
    avail s.next = true ∧ s.channelInfo (channelKey hostIp port) = none ∧
      createCmdSocketAndAddDelegate avail hostIp port s =
        ({ s.withSocket ⟨port, netifOf hostIp, []⟩ with
            socketVec := s.socketVec ++ [s.next]
            channelInfo := Function.update s.channelInfo (channelKey hostIp port) (some s.next)
            commandChannel := s.next :: s.commandChannel
            customCommandChannel :=
              Function.update s.customCommandChannel (channelKey hostIp port) (some s.next)
            cmdLoop := s.cmdLoop ++ [s.next] }, true) := by
  unfold createCmdSocketAndAddDelegate
  split
  · exact .inl rfl
  right
  cases hkey : s.channelInfo (channelKey hostIp port) with
  | some sock => exact .inl ⟨sock, rfl, by simp only [hkey]; rfl⟩
  | none =>
    simp only [hkey, createSocket_eq]
    cases havail : avail s.next with
    | true => exact .inr (.inr ⟨rfl, trivial, rfl⟩)
    | false => exact .inr (.inl ⟨rfl, rfl⟩)

theorem createBroadcastSocket_cases :
    avail s.next = false ∧ createBroadcastSocket avail port s = (s.withoutSocket, false) ∨
    avail s.next = true ∧ createBroadcastSocket avail port s =
      ({ s.withSocket ⟨port, broadcastIp, []⟩ with
          vecBroadcastSocket := s.vecBroadcastSocket ++ [s.next]
          cmdLoop := s.cmdLoop ++ [s.next] }, true) := by
  unfold createBroadcastSocket
  rw [createSocket_eq]
  cases havail : avail s.next with
  | true => exact .inr ⟨rfl, rfl⟩
  | false => exact .inl ⟨rfl, rfl⟩

theorem createViewSocket_cases :
    createViewSocket avail port s = (s, true) ∨
    avail s.next = false ∧ createViewSocket avail port s = (s.withoutSocket, false) ∨
    avail s.next = true ∧ s.channelInfo (channelKey s.detectionHostIp port) = none ∧
      createViewSocket avail port s =
        ({ s.withSocket ⟨port, s.detectionHostIp, []⟩ with
            socketVec := s.socketVec ++ [s.next]
            channelInfo :=
              Function.update s.channelInfo (channelKey s.detectionHostIp port) (some s.next)
            dataLoop := s.dataLoop ++ [s.next] }, true) := by
  unfold createViewSocket
  simp only
  split
  · exact .inl rfl
  · rename_i hkey
    rw [Bool.not_eq_true, Option.isSome_eq_false_iff, Option.isNone_iff_eq_none] at hkey
    rw [createSocket_eq]
    cases havail : avail s.next with
    | true => exact .inr (.inr ⟨rfl, hkey, rfl⟩)
    | false => exact .inr (.inl ⟨rfl, rfl⟩)

/-- `CreateDetectionChannel` fails at its first socket or at its second one, or opens both. -/
theorem createDetectionChannel_cases :
    avail s.next = false ∧
      createDetectionChannel avail s =
        ({ s.withoutSocket with detectionBroadcastSocket := none }, false) ∨
    (avail s.next = true ∧ avail (s.next + 1) = false ∧ ∃ s',
      createDetectionChannel avail s = (s', false) ∧
      s' = { (s.withSocket ⟨kDetectionPort, broadcastIp, []⟩).withoutSocket with
        detectionBroadcastSocket := some s.next
        detectionSocket := none
        detectionLoop := s.detectionLoop ++ [s.next] }) ∨
    avail s.next = true ∧ avail (s.next + 1) = true ∧ ∃ s',
      createDetectionChannel avail s = (s', true) ∧
      s' = { ({ s.withSocket ⟨kDetectionPort, broadcastIp, []⟩ with
            detectionBroadcastSocket := some s.next
            detectionSocket := some (s.next + 1)
            detectionLoop := s.detectionLoop ++ [s.next] ++ [s.next + 1]
            channelInfo := Function.update s.channelInfo
              (channelKey s.detectionHostIp kDetectionPort) (some (s.next + 1)) } : DeviceManager).withCustom
            (channelKey s.detectionHostIp kDetectionPort) (s.next + 1) with
          next := s.next + 2
          opened := s.opened ++ [(s.next, ⟨kDetectionPort, broadcastIp, []⟩)] ++
            [(s.next + 1, ⟨kDetectionPort, s.detectionHostIp, []⟩)] } := by
  unfold createDetectionChannel
  rw [createSocket_eq]
  cases havail : avail s.next with
  | false => exact .inl ⟨rfl, rfl⟩
  | true =>
    right
    simp only [if_true, createSocket_eq]
    have hnext : (s.withSocket ⟨kDetectionPort, broadcastIp, []⟩).next = s.next + 1 := rfl
    cases havail' : avail (s.next + 1) with
    | false =>
      refine .inl ⟨trivial, rfl, _, ?_, rfl⟩
      simp only [hnext, havail']
      rfl
    | true =>
      refine .inr ⟨trivial, rfl, _, ?_, rfl⟩
      simp only [hnext, havail']
      rfl

end Cases

/-! ### Every open socket is named -/

/-- The open sockets. -/
def socks (s : DeviceManager) : List Sock := s.opened.map Prod.fst

/-- The open sockets are those of the channels, the broadcast sockets, and `rest`. -/
structure Accounted (rest : List Sock) (s : DeviceManager) : Prop where
  fresh : ∀ sock ∈ s.socks, sock < s.next
  nodup : s.socks.Nodup
  perm : s.socks.Perm (s.socketVec ++ s.vecBroadcastSocket ++ rest)

section Accounted

variable (avail : ℕ → Bool) {s : DeviceManager} {rest : List Sock}

theorem socks_withSocket (s : DeviceManager) (e : Endpoint) :
    (s.withSocket e).socks = s.socks ++ [s.next] := by
  simp [socks, withSocket]

theorem Accounted.withoutSocket (h : Accounted rest s) : Accounted rest s.withoutSocket where
  fresh sock hsock := Nat.lt_succ_of_lt (h.fresh sock hsock)
  nodup := h.nodup
  perm := h.perm

/-- The sockets are of calls of `CreateSocket` that were made. -/
theorem fresh_withSocket (h : ∀ sock ∈ s.socks, sock < s.next) (e : Endpoint) :
    ∀ sock ∈ (s.withSocket e).socks, sock < (s.withSocket e).next := by
  intro sock hsock
  rw [socks_withSocket] at hsock
  rcases List.mem_append.mp hsock with hsock | hsock
  · exact Nat.lt_succ_of_lt (h sock hsock)
  · rw [List.mem_singleton.mp hsock]
    exact Nat.lt_succ_self _

/-- A socket that is opened is named by nothing yet. -/
theorem Accounted.withSocket (h : Accounted rest s) (e : Endpoint) :
    Accounted (s.next :: rest) (s.withSocket e) where
  fresh := fresh_withSocket h.fresh e
  nodup := by
    rw [socks_withSocket]
    refine h.nodup.append (List.nodup_singleton _) ?_
    rw [List.disjoint_singleton]
    exact fun hmem => Nat.lt_irrefl _ (h.fresh _ hmem)
  perm := by
    rw [socks_withSocket]
    exact (h.perm.append_right _).trans (by
      rw [List.append_assoc]
      exact (List.perm_append_singleton s.next rest).append_left _)

theorem Accounted.of_perm {rest' : List Sock} (h : Accounted rest s) (hrest : rest.Perm rest') :
    Accounted rest' s :=
  ⟨h.fresh, h.nodup, h.perm.trans (hrest.append_left _)⟩

theorem perm_channel (k : Sock) (socketVec vecBroadcast rest : List Sock) :
    (socketVec ++ vecBroadcast ++ k :: rest).Perm ((socketVec ++ [k]) ++ vecBroadcast ++ rest) := by
  rw [List.append_assoc, List.append_assoc, List.append_assoc]
  exact List.perm_middle.append_left socketVec

theorem perm_broadcast (k : Sock) (socketVec vecBroadcast rest : List Sock) :
    (socketVec ++ vecBroadcast ++ k :: rest).Perm (socketVec ++ (vecBroadcast ++ [k]) ++ rest) := by
  rw [List.append_assoc, List.append_assoc, List.append_assoc, List.singleton_append]

theorem accounted_data (hostIp : List Char) (port : UInt16) (multicastIp : List Char)
    (s : DeviceManager) (h : Accounted rest s) :
    Accounted rest (createDataSocketAndAddDelegate avail hostIp port multicastIp s).1 := by
  rcases createDataSocket_cases avail hostIp multicastIp port s with heq | ⟨-, heq⟩ | ⟨-, -, heq⟩
  · rw [heq]
    exact h
  · rw [heq]
    exact h.withoutSocket
  · rw [heq]
    have hnew := h.withSocket ⟨port, netifOf hostIp, multicastIp⟩
    exact ⟨hnew.fresh, hnew.nodup, hnew.perm.trans (perm_channel _ _ _ _)⟩

theorem accounted_cmd (hostIp : List Char) (port : UInt16) (s : DeviceManager)
    (h : Accounted rest s) : Accounted rest (createCmdSocketAndAddDelegate avail hostIp port s).1 := by
  rcases createCmdSocket_cases avail hostIp port s with heq | ⟨_, -, heq⟩ | ⟨-, heq⟩ | ⟨-, -, heq⟩
  · rw [heq]
    exact h
  · rw [heq]
    exact ⟨h.fresh, h.nodup, h.perm⟩
  · rw [heq]
    exact h.withoutSocket
  · rw [heq]
    have hnew := h.withSocket ⟨port, netifOf hostIp, []⟩
    exact ⟨hnew.fresh, hnew.nodup, hnew.perm.trans (perm_channel _ _ _ _)⟩

theorem accounted_broadcast (port : UInt16) (s : DeviceManager) (h : Accounted rest s) :
    Accounted rest (createBroadcastSocket avail port s).1 := by
  rcases createBroadcastSocket_cases avail port s with ⟨-, heq⟩ | ⟨-, heq⟩
  · rw [heq]
    exact h.withoutSocket
  · rw [heq]
    have hnew := h.withSocket ⟨port, broadcastIp, []⟩
    exact ⟨hnew.fresh, hnew.nodup, hnew.perm.trans (perm_broadcast _ _ _ _)⟩

theorem accounted_view (port : UInt16) (s : DeviceManager) (h : Accounted rest s) :
    Accounted rest (createViewSocket avail port s).1 := by
  rcases createViewSocket_cases avail port s with heq | ⟨-, heq⟩ | ⟨-, -, heq⟩
  · rw [heq]
    exact h
  · rw [heq]
    exact h.withoutSocket
  · rw [heq]
    have hnew := h.withSocket ⟨port, s.detectionHostIp, []⟩
    exact ⟨hnew.fresh, hnew.nodup, hnew.perm.trans (perm_channel _ _ _ _)⟩

theorem accounted_channels (cfgs : List LivoxLidarCfg) (h : Accounted rest s) :
    Accounted rest (createChannels avail cfgs s).1 :=
  createChannels_keeps (accounted_data avail) (accounted_cmd avail) (accounted_broadcast avail) cfgs h

/-- `CreateDetectionChannel` opens the detection sockets, and names both when it succeeds. -/
theorem accounted_detection (h : Accounted rest s) :
    Accounted (detectionSockets avail s.next ++ rest) (createDetectionChannel avail s).1 ∧
      ((createDetectionChannel avail s).2 = true →
        detectionSockets avail s.next =
          (createDetectionChannel avail s).1.detectionBroadcastSocket.toList ++
            (createDetectionChannel avail s).1.detectionSocket.toList) := by
  unfold detectionSockets
  rcases createDetectionChannel_cases avail s with
    ⟨havail, heq⟩ | ⟨havail, havail', s', heq, rfl⟩ | ⟨havail, havail', s', heq, rfl⟩
  · rw [heq, havail]
    exact ⟨⟨h.withoutSocket.fresh, h.nodup, h.perm⟩, fun hfalse => by cases hfalse⟩
  · rw [heq, havail, havail']
    have hnew := (h.withSocket ⟨kDetectionPort, broadcastIp, []⟩).withoutSocket
    exact ⟨⟨hnew.fresh, hnew.nodup, hnew.perm⟩, fun hfalse => by cases hfalse⟩
  · rw [heq, havail, havail']
    have hnew := ((h.withSocket ⟨kDetectionPort, broadcastIp, []⟩).withSocket
      ⟨kDetectionPort, s.detectionHostIp, []⟩).of_perm (List.Perm.swap _ _ _)
    exact ⟨⟨hnew.fresh, hnew.nodup, hnew.perm⟩, fun _ => rfl⟩

theorem detection_idle (s : DeviceManager) :
    (createDetectionChannel avail s).1.isInitialized = s.isInitialized ∧
      (createDetectionChannel avail s).1.detectionThread = s.detectionThread := by
  rcases createDetectionChannel_cases avail s with
    ⟨-, heq⟩ | ⟨-, -, s', heq, rfl⟩ | ⟨-, -, s', heq, rfl⟩ <;> rw [heq] <;> exact ⟨rfl, rfl⟩

end Accounted

/-! ### The sessions -/

section Sessions

variable (avail : ℕ → Bool) {s s' : DeviceManager} {lost : List Sock}

/-- What a session holds that the creation of channels does not change. -/
structure SameSession (s s' : DeviceManager) : Prop where
  isInitialized : s'.isInitialized = s.isInitialized
  detectionThread : s'.detectionThread = s.detectionThread
  detectionSocket : s'.detectionSocket = s.detectionSocket
  detectionBroadcastSocket : s'.detectionBroadcastSocket = s.detectionBroadcastSocket

theorem SameSession.refl (s : DeviceManager) : SameSession s s := ⟨rfl, rfl, rfl, rfl⟩

theorem sameSession_data (hostIp : List Char) (port : UInt16) (multicastIp : List Char)
    (s' : DeviceManager) (h : SameSession s s') :
    SameSession s (createDataSocketAndAddDelegate avail hostIp port multicastIp s').1 := by
  rcases createDataSocket_cases avail hostIp multicastIp port s' with heq | ⟨-, heq⟩ | ⟨-, -, heq⟩ <;>
    rw [heq] <;> exact ⟨h.1, h.2, h.3, h.4⟩

theorem sameSession_cmd (hostIp : List Char) (port : UInt16) (s' : DeviceManager)
    (h : SameSession s s') :
    SameSession s (createCmdSocketAndAddDelegate avail hostIp port s').1 := by
  rcases createCmdSocket_cases avail hostIp port s' with
    heq | ⟨_, -, heq⟩ | ⟨-, heq⟩ | ⟨-, -, heq⟩ <;> rw [heq] <;> exact ⟨h.1, h.2, h.3, h.4⟩

theorem sameSession_broadcast (port : UInt16) (s' : DeviceManager) (h : SameSession s s') :
    SameSession s (createBroadcastSocket avail port s').1 := by
  rcases createBroadcastSocket_cases avail port s' with ⟨-, heq⟩ | ⟨-, heq⟩ <;>
    rw [heq] <;> exact ⟨h.1, h.2, h.3, h.4⟩

theorem sameSession_view (port : UInt16) (s' : DeviceManager) (h : SameSession s s') :
    SameSession s (createViewSocket avail port s').1 := by
  rcases createViewSocket_cases avail port s' with heq | ⟨-, heq⟩ | ⟨-, -, heq⟩ <;>
    rw [heq] <;> exact ⟨h.1, h.2, h.3, h.4⟩

theorem sameSession_channels (cfgs : List LivoxLidarCfg) :
    SameSession s (createChannels avail cfgs s).1 :=
  createChannels_keeps (sameSession_data avail) (sameSession_cmd avail) (sameSession_broadcast avail)
    cfgs (.refl s)

/-- The detection sockets of a session. -/
def detection (s : DeviceManager) : List Sock :=
  if s.isInitialized then s.detectionBroadcastSocket.toList ++ s.detectionSocket.toList else []

/-- Every open socket is named or lost; the detection thread runs in a session. -/
structure SessionInv (lost : List Sock) (s : DeviceManager) : Prop where
  accounted : Accounted (s.detection ++ lost) s
  thread : s.detectionThread = s.isInitialized

theorem init_sessionInv : SessionInv [] .init :=
  ⟨⟨fun _ h => absurd h List.not_mem_nil, List.nodup_nil, .refl _⟩, rfl⟩

/-- An `Init` that opens its detection sockets succeeds with them, or loses them. -/
theorem openSession_inv (cfgs : List LivoxLidarCfg) (h : Accounted lost s)
    (hidle : s.isInitialized = false) (hthread : s.detectionThread = false) :
    SessionInv ((if (openSession avail cfgs s).2 then [] else detectionSockets avail s.next) ++ lost)
      (openSession avail cfgs s).1 := by
  obtain ⟨hdetection, hnames⟩ := accounted_detection avail h
  obtain ⟨hidle', hthread'⟩ := detection_idle avail s
  rw [hidle] at hidle'
  rw [hthread] at hthread'
  unfold openSession andThen
  cases hopened : (createDetectionChannel avail s).2 with
  | false =>
    simp only [Bool.false_eq_true, if_false, hopened]
    refine ⟨?_, by rw [hthread', hidle']⟩
    rw [detection, hidle']
    exact hdetection
  | true =>
    have hchannels := accounted_channels avail cfgs hdetection
    have hsame := sameSession_channels avail (s := (createDetectionChannel avail s).1) cfgs
    simp only [if_true]
    cases hall : (createChannels avail cfgs (createDetectionChannel avail s).1).2 with
    | false =>
      simp only [Bool.false_eq_true, if_false, hall]
      refine ⟨?_, by rw [hsame.detectionThread, hthread', hsame.isInitialized, hidle']⟩
      rw [detection, hsame.isInitialized, hidle']
      exact hchannels
    | true =>
      rw [hnames hopened, ← hsame.detectionSocket, ← hsame.detectionBroadcastSocket] at hchannels
      exact ⟨⟨hchannels.fresh, hchannels.nodup, hchannels.perm⟩, rfl⟩

theorem initView_eq (hostIp : List Char) (logEnable : Bool) :
    initView avail hostIp logEnable s = openSession avail [] (prepareView hostIp logEnable s) := by
  unfold initView openSession
  congr 1
  unfold andThen createChannels
  split
  · rename_i hopened
    exact Prod.ext rfl hopened
  · rfl

/-- Closing what is named leaves what is lost. -/
theorem destory_inv (h : SessionInv lost s) (hinit : s.isInitialized = true) :
    s.closes.Nodup ∧ (∀ sock ∈ s.closes, sock ∈ s.socks) ∧
      SessionInv lost { s.destory with isInitialized := false } ∧ s.destory.socks.Perm lost := by
  have hthread : s.detectionThread = true := h.thread.trans hinit
  have hperm : s.socks.Perm (s.closes ++ lost) := by
    refine h.accounted.perm.trans ?_
    rw [closes, detection, hinit, hthread, if_pos rfl, if_pos rfl, ← List.append_assoc]
    exact (List.perm_append_comm.append_left _).append_right _
  have hnodup := hperm.nodup_iff.mp h.accounted.nodup
  obtain ⟨hcloses, hlost, hdisjoint⟩ := List.nodup_append.mp hnodup
  have hsocks : s.destory.socks = s.socks.filter (· ∉ s.closes) := by
    unfold socks destory
    rw [List.filter_map]
    rfl
  have hleft : s.destory.socks.Perm lost := by
    rw [hsocks]
    refine (hperm.filter _).trans ?_
    rw [List.filter_append, List.filter_eq_nil_iff.mpr (by simp), List.nil_append,
      List.filter_eq_self.mpr]
    intro sock hsock
    simpa using fun hmem => hdisjoint sock hmem sock hsock rfl
  refine ⟨hcloses, fun sock hsock => hperm.mem_iff.mpr (List.mem_append_left _ hsock), ?_, hleft⟩
  refine ⟨⟨fun sock hsock => ?_, ?_, hleft⟩, rfl⟩
  · exact h.accounted.fresh sock (hperm.mem_iff.mpr (List.mem_append_right _ (hleft.mem_iff.mp hsock)))
  · exact hleft.nodup_iff.mpr hlost

theorem sessionInv_initCfg (lidars customs : List LivoxLidarCfg) (masterSdk logEnable : Bool)
    (h : SessionInv lost s) :
    SessionInv (lostIn avail (s, .initCfg lidars customs masterSdk logEnable) ++ lost)
      (if s.isInitialized then s else (initCfg avail lidars customs masterSdk logEnable s).1) := by
  simp only [lostIn]
  cases hinit : s.isInitialized with
  | true => simpa using h
  | false =>
    have haccounted := h.accounted
    have hthread := h.thread
    rw [detection, hinit, if_neg Bool.false_ne_true, List.nil_append] at haccounted
    rw [hinit] at hthread
    rcases Option.eq_none_or_eq_some (detectionCfg lidars customs) with hcfg | ⟨cfg, hcfg⟩
    · simp only [initCfg, hcfg, Bool.false_eq_true, if_false, Option.isNone_none, Bool.or_true,
        Bool.true_or, if_true, List.nil_append]
      exact ⟨⟨h.accounted.fresh, h.accounted.nodup, h.accounted.perm⟩, h.thread⟩
    · simp only [initCfg, hcfg, Bool.false_eq_true, if_false, Option.isNone_some, Bool.or_false,
        Bool.false_or]
      exact openSession_inv avail customs
        (s := prepareCfg lidars customs masterSdk logEnable cfg s)
        ⟨haccounted.fresh, haccounted.nodup, haccounted.perm⟩ hinit hthread

theorem sessionInv_initView (hostIp : List Char) (logEnable : Bool) (h : SessionInv lost s) :
    SessionInv (lostIn avail (s, .initView hostIp logEnable) ++ lost)
      (if s.isInitialized then s else (initView avail hostIp logEnable s).1) := by
  simp only [lostIn]
  cases hinit : s.isInitialized with
  | true => simpa using h
  | false =>
    have haccounted := h.accounted
    have hthread := h.thread
    rw [detection, hinit, if_neg Bool.false_ne_true, List.nil_append] at haccounted
    rw [hinit] at hthread
    simp only [Bool.false_eq_true, if_false, Bool.false_or, initView_eq]
    exact openSession_inv avail [] (s := prepareView hostIp logEnable s)
      ⟨haccounted.fresh, haccounted.nodup, haccounted.perm⟩ hinit hthread

/-- What opens channels in a session keeps the accounts. -/
theorem SessionInv.of_same (h : SessionInv lost s) (hsame : SameSession s s')
    (haccounted : ∀ rest, Accounted rest s → Accounted rest s') : SessionInv lost s' := by
  refine ⟨?_, by rw [hsame.detectionThread, hsame.isInitialized, h.thread]⟩
  have hdetection : s'.detection = s.detection := by
    rw [detection, detection, hsame.isInitialized, hsame.detectionSocket,
      hsame.detectionBroadcastSocket]
  rw [hdetection]
  exact haccounted _ h.accounted

theorem onDiscovery_keeps {P : DeviceManager → Prop} (handle : UInt32) (devType : UInt8)
    (hcfgs : ∀ types customs cfgs, P { s with
      typeLidarsCfgMap := types, customLidarsCfgMap := customs, customLidarsCfg := cfgs })
    (hchannels : ∀ cfgs s, P s → P (createChannels avail cfgs s).1) (h : P s) :
    P (onDiscovery avail handle devType s) := by
  unfold onDiscovery
  split
  · exact h
  split
  · exact h
  · exact hchannels _ _ (hcfgs _ _ _)

theorem sameSession_onDiscovery (handle : UInt32) (devType : UInt8) :
    SameSession s (onDiscovery avail handle devType s) :=
  onDiscovery_keeps avail handle devType (P := SameSession s) (fun _ _ _ => ⟨rfl, rfl, rfl, rfl⟩)
    (fun cfgs _ h => createChannels_keeps (sameSession_data avail) (sameSession_cmd avail)
      (sameSession_broadcast avail) cfgs h) (.refl s)

theorem sameSession_viewDataChannel (pointPort imuPort : UInt16) :
    SameSession s (createViewDataChannel avail pointPort imuPort s) :=
  andThen_keeps (sameSession_view avail _ _ (.refl s)) (sameSession_view avail _)

theorem sessionInv_step {e : ApiEvent} (h : SessionInv lost s) (hs : step avail s e = some s') :
    SessionInv (lostIn avail (s, e) ++ lost) s' := by
  cases e with
  | initCfg lidars customs masterSdk logEnable =>
    obtain rfl := Option.some.inj hs
    exact sessionInv_initCfg avail lidars customs masterSdk logEnable h
  | initView hostIp logEnable =>
    obtain rfl := Option.some.inj hs
    exact sessionInv_initView avail hostIp logEnable h
  | uninit =>
    obtain rfl := Option.some.inj hs
    cases hinit : s.isInitialized with
    | true => exact (destory_inv h hinit).2.2.1
    | false => exact h
  | discovery sock handle devType =>
    simp only [step, Option.ite_none_right_eq_some, Option.some.injEq] at hs
    obtain ⟨-, rfl⟩ := hs
    refine h.of_same (sameSession_onDiscovery avail handle devType) fun rest hrest => ?_
    exact onDiscovery_keeps avail handle devType (fun _ _ _ => ⟨hrest.fresh, hrest.nodup, hrest.perm⟩)
      (fun cfgs s' hs' => accounted_channels avail cfgs hs') hrest
  | viewLidar sock pointPort imuPort =>
    simp only [step, Option.ite_none_right_eq_some, Option.some.injEq] at hs
    obtain ⟨-, rfl⟩ := hs
    refine h.of_same (sameSession_viewDataChannel avail pointPort imuPort) fun rest hrest => ?_
    exact andThen_keeps (accounted_view avail _ _ hrest) (accounted_view avail _)

theorem run_sessionInv {Ok : DeviceManager → ApiEvent → Prop}
    {tr : List (DeviceManager × ApiEvent)} (h : Run (step avail) Ok .init tr s) :
    ∃ rest, rest.Perm (DeviceManager.lost avail tr) ∧ SessionInv rest s := by
  refine h.invariant
    (P := fun tr s => ∃ rest, rest.Perm (DeviceManager.lost avail tr) ∧ SessionInv rest s)
    ⟨[], .refl _, init_sessionInv⟩ fun tr s e s' ih _ hs => ?_
  obtain ⟨rest, hrest, hinv⟩ := ih
  refine ⟨_, ?_, sessionInv_step avail hinv hs⟩
  rw [DeviceManager.lost, List.flatMap_append, List.flatMap_singleton]
  exact List.perm_append_comm.trans (hrest.append_right _)

/-- **Every socket is closed once, but for the detection sockets of an `Init` that failed.** At
any time the open sockets are those that the tables name, those of the detection, and those that
were lost; what `LivoxLidarSdkUninit` closes is open, and is closed once. -/
theorem socket_lifecycle {tr : List (DeviceManager × ApiEvent)}
    (h : Run (step avail) (fun _ _ => True) .init tr s) :
    s.socks.Perm (s.socketVec ++ s.vecBroadcastSocket ++ s.detection ++ DeviceManager.lost avail tr) ∧
      (s.isInitialized = true →
        s.closes.Nodup ∧ (∀ sock ∈ s.closes, sock ∈ s.socks) ∧
          s.destory.socks.Perm (DeviceManager.lost avail tr)) := by
  obtain ⟨rest, hrest, hinv⟩ := run_sessionInv avail h
  refine ⟨?_, fun hinit => ?_⟩
  · rw [List.append_assoc _ s.detection]
    exact hinv.accounted.perm.trans ((hrest.append_left _).append_left _)
  · obtain ⟨hnodup, hopen, -, hleft⟩ := destory_inv hinv hinit
    exact ⟨hnodup, hopen, hleft.trans hrest⟩

/-- A Mid-360 and its host. -/
def demoCfg : LivoxLidarCfg where
  deviceType := kLivoxLidarTypeMid360
  handle := 0
  hostNetInfo :=
    { hostIp := "192.168.1.5".toList
      multicastIp := []
      cmdDataPort := 56101
      pushMsgPort := 56201
      pointDataPort := 56301
      imuDataPort := 56401
      logDataPort := 56501 }

/-- The fourth call of `CreateSocket` fails. -/
def demoAvail (n : ℕ) : Bool := n != 3

/-- An `Init` without logs that fails, one that succeeds, and a lidar that is discovered. -/
def demoEvents : List ApiEvent :=
  [.initCfg [demoCfg] [demoCfg] true false, .initCfg [demoCfg] [] true true,
    .discovery 5 0x0A01A8C0 kLivoxLidarTypeMid360]

theorem socket_lifecycle_demo : ∃ (tr : List (DeviceManager × ApiEvent)) (s : DeviceManager),
    tr.map Prod.snd = demoEvents ∧ s.closes.length = 9 ∧ s.closes.Nodup ∧
      s.destory.socks.Perm (DeviceManager.lost demoAvail tr) := by
  have hsome : ((exec (step demoAvail) .init demoEvents).any fun s =>
      s.isInitialized && s.closes.length == 9) = true := by decide +kernel
  obtain ⟨s, hs, htest⟩ := (Option.any_eq_true _ _).mp hsome
  rw [Bool.and_eq_true, beq_iff_eq] at htest
  obtain ⟨tr, htr, hrun⟩ := Run.of_exec hs
  obtain ⟨hnodup, -, hleft⟩ := (socket_lifecycle demoAvail hrun).2 htest.1
  exact ⟨tr, s, htr, htest.2, hnodup, hleft⟩

end Sessions

end DeviceManager

end DeviceChannels
end Livox
end SensorSupport
