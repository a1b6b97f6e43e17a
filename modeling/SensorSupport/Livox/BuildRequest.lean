/-
# Requests that set addresses (`command_handler/build_request.cpp`)

A request that sets the addresses of a lidar or of its host is a list of keys, each with
the length of its value, written by hand into a buffer: `IpToU8` turns the text of an
address into its four bytes, and a value is such addresses, or one with two ports. The
parser of the state info reads the same lists, and writes the addresses as texts again.

`build_parses` says that what is built is a list of the right number of entries with the
lengths of their values, and that the parser gives the texts and ports of the
configuration back. Only `BuildUpdateLidarCfgRequest` refuses a configuration with proper
addresses, when it has no port for its type of lidar (`build_unknownType`).

Key definitions: `ipToU8`, `ConfigRequest`, `ConfigRequest.build`, `ConfigRequest.settings`,
`IpSetting.Stored`.
Key theorems: `ipToU8_ipText`, `build_eq`, `parseKeys_settings`, `build_parses`.
-/
import Mathlib.Data.UInt
import SensorSupport.Livox.Command
import SensorSupport.Livox.StateInfo

namespace SensorSupport
namespace Livox
namespace BuildRequest

open ParseLidarStateInfo

/-! ### Texts of addresses -/

/-- Why there is no request: `false` is returned, or `std::stoi` throws. -/
inductive BuildFault
  | refused
  | thrown
deriving DecidableEq

/-- `std::isspace` -/
def isSpace (b : UInt8) : Bool := b = 0x20 || (0x09 ≤ b && b ≤ 0x0D)

/-- `std::isdigit` -/
def isDigit (b : UInt8) : Bool := 0x30 ≤ b && b ≤ 0x39

/-- `std::stoi`, which ignores what stands behind the digits. -/
def stoi (s : List UInt8) : Except BuildFault ℤ :=
  let s := s.dropWhile isSpace
  let negative := s.head? = some 0x2D
  let digits := (if negative ∨ s.head? = some 0x2B then s.tail else s).takeWhile isDigit
  let n : ℤ := digits.foldl (fun v d => 10 * v + ((d.toNat : ℤ) - 0x30)) 0
  let val := if negative then -n else n
  if digits = [] ∨ val < -2147483648 ∨ 2147483647 < val then .error .thrown else .ok val

/-- The pieces between the separators; an empty last one is left out. -/
def pieces (seq : UInt8) (src : List UInt8) : List (List UInt8) :=
  let ps := src.splitOn seq
  if ps.getLast? = some [] then ps.dropLast else ps

/-- The pieces are turned into bytes, of which there have to be four. -/
def piecesToU8 : List (List UInt8) → List UInt8 → Except BuildFault (List UInt8)
  | [], result => if result.length = 4 then .ok result else .error .refused
  | piece :: ps, result => do
    let val ← stoi piece
    if val < 0 ∨ 256 < val then .error .refused
    else piecesToU8 ps (result ++ [UInt8.ofNat val.toNat])

/-- `IpToU8` -/
def ipToU8 (src : List UInt8) (seq : UInt8) : Except BuildFault (List UInt8) :=
  piecesToU8 (pieces seq src) []

/-- The text of four bytes. -/
def ipText (bs : List UInt8) : List UInt8 := ([0x2E] : List UInt8).intercalate (bs.map toDigits)

/-- The text is a canonical dotted quad. -/
def Canonical (text : List UInt8) : Prop := ∃ bs, bs.length = 4 ∧ text = ipText bs

section Texts

/-- The digits of a byte are no dots, and `stoi` reads them back. -/
theorem toDigits_read (b : UInt8) : 0x2E ∉ toDigits b ∧ stoi (toDigits b) = .ok (b.toNat : ℤ) := by
  have hall : ∀ n < 256, 0x2E ∉ toDigits (UInt8.ofNat n) ∧
      stoi (toDigits (UInt8.ofNat n)) = .ok (n : ℤ) := by decide +kernel
  have hb := hall b.toNat b.toNat_lt
  rwa [UInt8.ofNat_toNat] at hb

theorem toDigits_ne_nil (b : UInt8) : toDigits b ≠ [] := by
  unfold toDigits
  rw [ne_eq, List.map_eq_nil_iff]
  exact Nat.toDigits_ne_nil

/-- The pieces of the text of some bytes are their digits. -/
theorem pieces_ipText {bs : List UInt8} (h : bs ≠ []) :
    pieces 0x2E (ipText bs) = bs.map toDigits := by
  have hsplit : (ipText bs).splitOn 0x2E = bs.map toDigits := by
    apply List.splitOn_intercalate
    · intro l hl
      obtain ⟨b, -, rfl⟩ := List.mem_map.mp hl
      exact (toDigits_read b).1
    · rwa [ne_eq, List.map_eq_nil_iff]
  unfold pieces
  dsimp only
  rw [hsplit, if_neg]
  rw [List.getLast?_map]
  intro hlast
  obtain ⟨b, -, hb⟩ := Option.map_eq_some_iff.mp hlast
  exact toDigits_ne_nil b hb

theorem piecesToU8_toDigits : ∀ (bs result : List UInt8), result.length + bs.length = 4 →
    piecesToU8 (bs.map toDigits) result = .ok (result ++ bs)
  | [], result, h => by
    rw [List.map_nil, piecesToU8, if_pos (by simpa using h), List.append_nil]
  | b :: bs, result, h => by
    have hlt := b.toNat_lt
    have hrest := piecesToU8_toDigits bs (result ++ [b]) (by
      rw [List.length_append, List.length_singleton]
      rw [List.length_cons] at h
      omega)
    rw [List.append_assoc, List.singleton_append] at hrest
    rw [List.map_cons, piecesToU8, (toDigits_read b).2]
    show (if (b.toNat : ℤ) < 0 ∨ 256 < (b.toNat : ℤ) then Except.error BuildFault.refused
      else piecesToU8 (bs.map toDigits) (result ++ [UInt8.ofNat (b.toNat : ℤ).toNat])) = _
    rw [if_neg (by omega), Int.toNat_natCast, UInt8.ofNat_toNat]
    exact hrest

/-- The text of four bytes is turned back into them. -/
theorem ipToU8_ipText {bs : List UInt8} (h : bs.length = 4) :
    ipToU8 (ipText bs) 0x2E = .ok bs := by
  have hne : bs ≠ [] := by
    rintro rfl
    cases h
  unfold ipToU8
  rw [pieces_ipText hne]
  exact piecesToU8_toDigits bs [] (by simpa using h)

end Texts

/-! ### The builders -/

/-- The host's addresses and ports of a configuration, of which `multicastIp` may be
empty. -/
structure HostNetInfo where
  hostIp : List UInt8
  multicastIp : List UInt8
  pushMsgPort : UInt16
  pointDataPort : UInt16
  imuDataPort : UInt16

structure LivoxLidarCfg where
  deviceType : UInt8
  hostNetInfo : HostNetInfo

structure ViewLidarIpInfo where
  handle : UInt32
  devType : UInt8
  hostIp : List UInt8
  lidarCmdPort : UInt16
  lidarPointPort : UInt16
  lidarImuDataPort : UInt16
  hostPointPort : UInt16
  hostImuDataPort : UInt16

structure LivoxLidarIpInfo where
  ipAddr : List UInt8
  netMask : List UInt8
  gwAddr : List UInt8

/-- `HostStateInfoIpInfo`, `HostPointIPInfo` and `HostImuDataIPInfo`. -/
structure HostIpInfo where
  hostIpAddr : List UInt8
  hostPort : UInt16
  lidarPort : UInt16

def kMid360LidarPushMsgPort : UInt16 := 56200
def kMid360LidarPointCloudPort : UInt16 := 56300
def kMid360LidarImuDataPort : UInt16 := 56400
def kHAPPointDataPort : UInt16 := 57000
def kHAPIMUPort : UInt16 := 58000
def kPaLidarPointCloudPort : UInt16 := 10000
def kMid360sLidarPointCloudPort : UInt16 := 56300
def kMid360sLidarImuDataPort : UInt16 := 56400

/-- `kMaxCommandBufferSize` -/
def kMaxCommandBufferSize : ℕ := 1400

def kKeyLidarIpCfg : UInt16 := 0x0004
def kKeyStateInfoHostIpCfg : UInt16 := 0x0005
def kKeyLidarPointDataHostIpCfg : UInt16 := 0x0006
def kKeyLidarImuHostIpCfg : UInt16 := 0x0007

/-- `req_buf` and `req_len`. -/
structure Request where
  buf : Mem
  len : UInt16

/-- The number of keys is written, and two bytes behind it are left out. -/
def putKeyNum (keyNum : UInt16) (req : Request) : Request where
  buf := req.buf.set req.len.toNat (leBytes 2 keyNum.toNat)
  len := 2 + 2

/-- `InitHostIpAddr` of a value at `off`. -/
def initHostIpAddr (hostIp : List UInt8) (off : ℕ) (buf : Mem) : Except BuildFault Mem := do
  let bs ← ipToU8 hostIp 0x2E
  return buf.set off (bs.take 4)

/-- `InitMulticastHostIpAddr` -/
def initMulticastHostIpAddr (multicastIp : List UInt8) (off : ℕ) (buf : Mem) :
    Except BuildFault Mem := initHostIpAddr multicastIp off buf

/-- The address of the host, or that of the group where there is one. -/
def initHostOrMulticast (net : HostNetInfo) (off : ℕ) (buf : Mem) : Except BuildFault Mem :=
  if net.multicastIp = [] then initHostIpAddr net.hostIp off buf
  else initMulticastHostIpAddr net.multicastIp off buf

/-- The head of an entry is written. -/
def putHead (key : UInt16) (length : UInt16) (req : Request) : Mem :=
  (req.buf.set req.len.toNat (leBytes 2 key.toNat)).set (req.len.toNat + 2)
    (leBytes 2 length.toNat)

/-- An entry with an address, as `addr` writes it, and two ports; without a port of the
lidar there is none. -/
def putHostIp (key : UInt16) (addr : ℕ → Mem → Except BuildFault Mem) (hostPort : UInt16)
    (lidarPort : Option UInt16) (req : Request) : Except BuildFault Request := do
  let off := req.len.toNat + 4
  let buf ← addr off (putHead key 8 req)
  match lidarPort with
  | none => .error .refused
  | some lidarPort =>
    let buf := buf.set (off + 4) (leBytes 2 hostPort.toNat)
    let buf := buf.set (off + 6) (leBytes 2 lidarPort.toNat)
    return ⟨buf, req.len + (5 - 1 + 8)⟩

/-- `BuildUpdateViewLidarCfgRequest` -/
def buildUpdateViewLidarCfgRequest (info : ViewLidarIpInfo) (req : Request) :
    Except BuildFault Request := do
  let keyNum := if info.devType = kLivoxLidarTypePA then 1 else 2
  let req := putKeyNum keyNum { req with len := 0 }
  let req ← putHostIp kKeyLidarPointDataHostIpCfg (initHostIpAddr info.hostIp) info.hostPointPort
    (some info.lidarPointPort) req
  if info.devType = kLivoxLidarTypePA then return req
  else
    putHostIp kKeyLidarImuHostIpCfg (initHostIpAddr info.hostIp) info.hostImuDataPort
      (some info.lidarImuDataPort) req

/-- `BuildUpdateMid360LidarCfgRequest`, which writes the address of the host even where
there is that of a group. -/
def buildUpdateMid360LidarCfgRequest (cfg : LivoxLidarCfg) (req : Request) :
    Except BuildFault Request := do
  let net := cfg.hostNetInfo
  let req := putKeyNum 3 req
  let req ← putHostIp kKeyStateInfoHostIpCfg
    (fun off buf => do
      let buf ← initHostIpAddr net.hostIp off buf
      initHostOrMulticast net off buf)
    net.pushMsgPort (some kMid360LidarPushMsgPort) req
  let req ← putHostIp kKeyLidarPointDataHostIpCfg (initHostOrMulticast net) net.pointDataPort
    (some kMid360LidarPointCloudPort) req
  putHostIp kKeyLidarImuHostIpCfg (initHostOrMulticast net) net.imuDataPort
    (some kMid360LidarImuDataPort) req

/-- `lidar_point_port` -/
def lidarPointPort (deviceType : UInt8) : Option UInt16 :=
  if deviceType = kLivoxLidarTypeIndustrialHAP then some kHAPPointDataPort
  else if deviceType = kLivoxLidarTypeMid360 then some kMid360LidarPointCloudPort
  else if deviceType = kLivoxLidarTypePA then some kPaLidarPointCloudPort
  else if deviceType = kLivoxLidarTypeMid360s then some kMid360sLidarPointCloudPort
  else none

/-- `lidar_imu_port` -/
def lidarImuPort (deviceType : UInt8) : Option UInt16 :=
  if deviceType = kLivoxLidarTypeIndustrialHAP then some kHAPIMUPort
  else if deviceType = kLivoxLidarTypeMid360 then some kMid360LidarImuDataPort
  else if deviceType = kLivoxLidarTypeMid360s then some kMid360sLidarImuDataPort
  else none

/-- `BuildUpdateLidarCfgRequest` -/
def buildUpdateLidarCfgRequest (cfg : LivoxLidarCfg) (req : Request) :
    Except BuildFault Request := do
  let net := cfg.hostNetInfo
  let keyNum := if cfg.deviceType = kLivoxLidarTypePA then 1 else 2
  let req := putKeyNum keyNum req
  let req ← putHostIp kKeyLidarPointDataHostIpCfg (initHostOrMulticast net) net.pointDataPort
    (lidarPointPort cfg.deviceType) req
  if cfg.deviceType = kLivoxLidarTypePA then return req
  else
    putHostIp kKeyLidarImuHostIpCfg (initHostOrMulticast net) net.imuDataPort
      (lidarImuPort cfg.deviceType) req

/-- `InitLidarIpinfoVal` -/
def initLidarIpinfoVal (ip : LivoxLidarIpInfo) (off : ℕ) (buf : Mem) : Except BuildFault Mem := do
  let ipaddr ← ipToU8 ip.ipAddr 0x2E
  let buf := buf.set off (ipaddr.take 4)
  let mask ← ipToU8 ip.netMask 0x2E
  let buf := buf.set (off + 4) (mask.take 4)
  let gateway ← ipToU8 ip.gwAddr 0x2E
  return buf.set (off + 8) (gateway.take 4)

/-- `BuildSetLidarIPInfoRequest` -/
def buildSetLidarIPInfoRequest (ip : LivoxLidarIpInfo) (req : Request) :
    Except BuildFault Request := do
  let req := putKeyNum 1 req
  let buf ← initLidarIpinfoVal ip (req.len.toNat + 4) (putHead kKeyLidarIpCfg 12 req)
  return ⟨buf, req.len + (5 - 1 + 12)⟩

/-- A request with one address and its ports. -/
def buildSetHostIpRequest (key : UInt16) (info : HostIpInfo) (req : Request) :
    Except BuildFault Request :=
  putHostIp key (initHostIpAddr info.hostIpAddr) info.hostPort (some info.lidarPort)
    (putKeyNum 1 req)

/-- `BuildSetHostStateInfoIPCfgRequest` -/
def buildSetHostStateInfoIPCfgRequest := buildSetHostIpRequest kKeyStateInfoHostIpCfg

/-- `BuildSetHostPointDataIPInfoRequest` -/
def buildSetHostPointDataIPInfoRequest := buildSetHostIpRequest kKeyLidarPointDataHostIpCfg

/-- `BuildSetHostImuDataIPInfoRequest` -/
def buildSetHostImuDataIPInfoRequest := buildSetHostIpRequest kKeyLidarImuHostIpCfg

/-! ### What a request sets -/

/-- The keys whose values are an address of the host and two ports. -/
inductive HostKey
  | stateInfo
  | pointData
  | imuData
deriving DecidableEq

namespace HostKey

def key : HostKey → UInt16
  | stateInfo => kKeyStateInfoHostIpCfg
  | pointData => kKeyLidarPointDataHostIpCfg
  | imuData => kKeyLidarImuHostIpCfg

/-- The field for the address in the state info. -/
def ipAddr : HostKey → StateField
  | stateInfo => .stateInfoHostIpAddr
  | pointData => .pointHostIpAddr
  | imuData => .imuHostIpAddr

/-- The field for the port of the host. -/
def hostPort : HostKey → StateField
  | stateInfo => .hostStateInfoPort
  | pointData => .hostPointDataPort
  | imuData => .hostImuDataPort

/-- The field for the port of the lidar. -/
def lidarPort : HostKey → StateField
  | stateInfo => .lidarStateInfoPort
  | pointData => .lidarPointDataPort
  | imuData => .lidarImuDataPort

end HostKey

/-- A setting of addresses. -/
inductive IpSetting
  | lidarIp (ip : LivoxLidarIpInfo)
  | hostIp (key : HostKey) (info : HostIpInfo)

namespace IpSetting

def key : IpSetting → UInt16
  | lidarIp _ => kKeyLidarIpCfg
  | hostIp k _ => k.key

/-- `sizeof` of the value: of `LivoxLidarIpInfoValue` or `HostIpInfoValue`. -/
def size : IpSetting → ℕ
  | lidarIp _ => 12
  | hostIp _ _ => 8

/-- The texts are canonical. -/
def Canonical : IpSetting → Prop
  | lidarIp ip => BuildRequest.Canonical ip.ipAddr ∧ BuildRequest.Canonical ip.netMask ∧
      BuildRequest.Canonical ip.gwAddr
  | hostIp _ info => BuildRequest.Canonical info.hostIpAddr

/-- A field of the state info holds a text, with its terminator. -/
def HoldsText (info : Mem) (field : StateField) (text : List UInt8) : Prop :=
  info.bytes field.off (text.length + 1) = text ++ [0]

/-- The state info holds the setting. -/
def Stored (info : Mem) : IpSetting → Prop
  | lidarIp ip => HoldsText info .lidarIpAddr ip.ipAddr ∧ HoldsText info .lidarNetMask ip.netMask ∧
      HoldsText info .lidarGwAddr ip.gwAddr
  | hostIp k h => HoldsText info k.ipAddr h.hostIpAddr ∧ info.u16 k.hostPort.off = h.hostPort ∧
      info.u16 k.lidarPort.off = h.lidarPort

end IpSetting

/-- The entries from `o` to the end of a request are these settings: each has its key, the
size of its value as length, and its value. -/
def Entries (buf : Mem) (last : ℕ) : ℕ → List IpSetting → Prop
  | o, [] => o = last
  | o, x :: settings => buf.u16 o = x.key ∧ (buf.u16 (o + 2)).toNat = x.size ∧
      Entries buf last (o + 4 + x.size) settings

/-- A request is a list of these settings: their number, and behind it the entries, which
end where the request does, in the buffer. -/
structure Request.WellFormed (req : Request) (settings : List IpSetting) : Prop where
  keyNum : (req.buf.u16 0).toNat = settings.length
  entries : Entries req.buf req.len.toNat 4 settings
  fits : req.len.toNat ≤ kMaxCommandBufferSize

/-- The requests with their configurations. -/
inductive ConfigRequest
  | updateViewLidarCfg (info : ViewLidarIpInfo)
  | updateMid360LidarCfg (cfg : LivoxLidarCfg)
  | updateLidarCfg (cfg : LivoxLidarCfg)
  | setLidarIPInfo (ip : LivoxLidarIpInfo)
  | setHostStateInfoIPCfg (info : HostIpInfo)
  | setHostPointDataIPInfo (info : HostIpInfo)
  | setHostImuDataIPInfo (info : HostIpInfo)

/-- The address that a configuration sets: that of the group where there is one. -/
def HostNetInfo.address (net : HostNetInfo) : List UInt8 :=
  if net.multicastIp = [] then net.hostIp else net.multicastIp

/-- The texts are canonical; there may be no group. -/
def HostNetInfo.Canonical (net : HostNetInfo) : Prop :=
  BuildRequest.Canonical net.hostIp ∧ (net.multicastIp = [] ∨ BuildRequest.Canonical net.multicastIp)

namespace ConfigRequest

def build : ConfigRequest → Request → Except BuildFault Request
  | updateViewLidarCfg info => buildUpdateViewLidarCfgRequest info
  | updateMid360LidarCfg cfg => buildUpdateMid360LidarCfgRequest cfg
  | updateLidarCfg cfg => buildUpdateLidarCfgRequest cfg
  | setLidarIPInfo ip => buildSetLidarIPInfoRequest ip
  | setHostStateInfoIPCfg info => buildSetHostStateInfoIPCfgRequest info
  | setHostPointDataIPInfo info => buildSetHostPointDataIPInfoRequest info
  | setHostImuDataIPInfo info => buildSetHostImuDataIPInfoRequest info

/-- The addresses of the configuration are canonical. -/
def Canonical : ConfigRequest → Prop
  | updateViewLidarCfg info => BuildRequest.Canonical info.hostIp
  | updateMid360LidarCfg cfg | updateLidarCfg cfg => cfg.hostNetInfo.Canonical
  | setLidarIPInfo ip => (IpSetting.lidarIp ip).Canonical
  | setHostStateInfoIPCfg info | setHostPointDataIPInfo info | setHostImuDataIPInfo info =>
    BuildRequest.Canonical info.hostIpAddr

/-- The types of lidars that `BuildUpdateLidarCfgRequest` has ports for. -/
def KnownType : ConfigRequest → Prop
  | updateLidarCfg cfg => cfg.deviceType ∈ [kLivoxLidarTypeIndustrialHAP, kLivoxLidarTypeMid360,
      kLivoxLidarTypePA, kLivoxLidarTypeMid360s]
  | _ => True

/-- What a configuration sets. -/
def settings : ConfigRequest → List IpSetting
  | updateViewLidarCfg info =>
    .hostIp .pointData ⟨info.hostIp, info.hostPointPort, info.lidarPointPort⟩ ::
      if info.devType = kLivoxLidarTypePA then []
      else [.hostIp .imuData ⟨info.hostIp, info.hostImuDataPort, info.lidarImuDataPort⟩]
  | updateMid360LidarCfg cfg =>
    let net := cfg.hostNetInfo
    [.hostIp .stateInfo ⟨net.address, net.pushMsgPort, kMid360LidarPushMsgPort⟩,
      .hostIp .pointData ⟨net.address, net.pointDataPort, kMid360LidarPointCloudPort⟩,
      .hostIp .imuData ⟨net.address, net.imuDataPort, kMid360LidarImuDataPort⟩]
  | updateLidarCfg cfg =>
    let net := cfg.hostNetInfo
    .hostIp .pointData ⟨net.address, net.pointDataPort, (lidarPointPort cfg.deviceType).getD 0⟩ ::
      if cfg.deviceType = kLivoxLidarTypePA then []
      else [.hostIp .imuData ⟨net.address, net.imuDataPort, (lidarImuPort cfg.deviceType).getD 0⟩]
  | setLidarIPInfo ip => [.lidarIp ip]
  | setHostStateInfoIPCfg info => [.hostIp .stateInfo info]
  | setHostPointDataIPInfo info => [.hostIp .pointData info]
  | setHostImuDataIPInfo info => [.hostIp .imuData info]

end ConfigRequest

/-! ### What the builders write -/

/-- The bytes of an address. -/
def octets (text : List UInt8) : List UInt8 :=
  match ipToU8 text 0x2E with
  | .ok bs => bs
  | .error _ => []

/-- The value of a setting. -/
def IpSetting.value : IpSetting → List UInt8
  | lidarIp ip => octets ip.ipAddr ++ octets ip.netMask ++ octets ip.gwAddr
  | hostIp _ h => octets h.hostIpAddr ++ leBytes 2 h.hostPort.toNat ++ leBytes 2 h.lidarPort.toNat

/-- The entry of a setting. -/
def IpSetting.encode (x : IpSetting) : List UInt8 :=
  leBytes 2 x.key.toNat ++ leBytes 2 x.size ++ x.value

section Build

variable {text : List UInt8} {buf : Mem} {req : Request}

/-- A canonical text is that of its bytes. -/
theorem Canonical.octets (h : Canonical text) : ipToU8 text 0x2E = .ok (octets text) ∧
    (octets text).length = 4 ∧ ipString (octets text) = text ++ [0] := by
  obtain ⟨bs, hlength, rfl⟩ := h
  have hip := ipToU8_ipText hlength
  have hoctets : BuildRequest.octets (ipText bs) = bs := by
    unfold BuildRequest.octets
    rw [hip]
  rw [hoctets]
  exact ⟨hip, hlength, rfl⟩

theorem Canonical.initHostIpAddr (h : Canonical text) (off : ℕ) (buf : Mem) :
    initHostIpAddr text off buf = .ok (buf.set off (BuildRequest.octets text)) := by
  obtain ⟨hip, hlength, -⟩ := h.octets
  unfold BuildRequest.initHostIpAddr
  rw [hip]
  show Except.ok (buf.set off ((BuildRequest.octets text).take 4)) = _
  rw [List.take_of_length_le (Nat.le_of_eq hlength)]

theorem HostNetInfo.Canonical.address {net : HostNetInfo} (h : net.Canonical) :
    BuildRequest.Canonical net.address := by
  unfold HostNetInfo.address
  split
  · exact h.1
  · exact h.2.resolve_left ‹_›

theorem HostNetInfo.Canonical.initHostOrMulticast {net : HostNetInfo} (h : net.Canonical) (off : ℕ)
    (buf : Mem) : initHostOrMulticast net off buf = .ok (buf.set off (octets net.address)) := by
  have haddress := h.address.initHostIpAddr off buf
  unfold HostNetInfo.address at haddress ⊢
  unfold BuildRequest.initHostOrMulticast
  split <;> rename_i hnone
  · rwa [if_pos hnone] at haddress
  · rwa [if_neg hnone] at haddress

/-- The head of an entry, and its value behind it. -/
theorem putHead_set (key length : UInt16) (req : Request) (value : List UInt8) :
    (putHead key length req).set (req.len.toNat + 4) value =
      req.buf.set req.len.toNat (leBytes 2 key.toNat ++ leBytes 2 length.toNat ++ value) := by
  have hhead : putHead key length req =
      req.buf.set req.len.toNat (leBytes 2 key.toNat ++ leBytes 2 length.toNat) := by
    have happend := req.buf.set_set_append req.len.toNat (leBytes 2 key.toNat)
      (leBytes 2 length.toNat)
    rwa [leBytes_length] at happend
  have happend := req.buf.set_set_append req.len.toNat
    (leBytes 2 key.toNat ++ leBytes 2 length.toNat) value
  rw [List.length_append, leBytes_length, leBytes_length] at happend
  rw [hhead]
  exact happend

/-- An entry with an address and two ports is written. -/
theorem putHostIp_eq {addr : ℕ → Mem → Except BuildFault Mem} (h : Canonical text)
    (haddr : ∀ off buf, addr off buf = .ok (buf.set off (octets text))) (k : HostKey)
    (hostPort lidarPort : UInt16) (req : Request) :
    putHostIp k.key addr hostPort (some lidarPort) req =
      .ok ⟨req.buf.set req.len.toNat (IpSetting.hostIp k ⟨text, hostPort, lidarPort⟩).encode,
        req.len + 12⟩ := by
  obtain ⟨-, hlength, -⟩ := h.octets
  unfold putHostIp
  dsimp only
  rw [haddr]
  show Except.ok (Request.mk ((((putHead k.key 8 req).set (req.len.toNat + 4) (octets text)).set
    (req.len.toNat + 4 + 4) (leBytes 2 hostPort.toNat)).set (req.len.toNat + 4 + 6)
    (leBytes 2 lidarPort.toNat)) (req.len + 12)) = _
  have hports := Mem.set_set_append (putHead k.key 8 req) (req.len.toNat + 4) (octets text)
    (leBytes 2 hostPort.toNat)
  have hvalue := Mem.set_set_append (putHead k.key 8 req) (req.len.toNat + 4)
    (octets text ++ leBytes 2 hostPort.toNat) (leBytes 2 lidarPort.toNat)
  rw [hlength] at hports
  rw [List.length_append, hlength, leBytes_length] at hvalue
  rw [hports, hvalue, putHead_set]
  rfl

/-- The values have their sizes. -/
theorem IpSetting.Canonical.encode_length {x : IpSetting} (h : x.Canonical) :
    x.value.length = x.size ∧ x.encode.length = 4 + x.size := by
  have hvalue : x.value.length = x.size := by
    cases x with
    | lidarIp ip =>
      obtain ⟨hip, hmask, hgw⟩ := h
      simp [IpSetting.value, IpSetting.size, hip.octets.2.1, hmask.octets.2.1, hgw.octets.2.1]
    | hostIp k info =>
      simp [IpSetting.value, IpSetting.size, BuildRequest.Canonical.octets h]
  refine ⟨hvalue, ?_⟩
  unfold IpSetting.encode
  rw [List.length_append, List.length_append, leBytes_length, leBytes_length, hvalue]

/-- The entries take at most 16 bytes each. -/
theorem encodes_length_le : ∀ {xs : List IpSetting}, (∀ x ∈ xs, x.Canonical) →
    (xs.flatMap IpSetting.encode).length ≤ 16 * xs.length
  | [], _ => Nat.le_refl 0
  | x :: xs, h => by
    have hrest := encodes_length_le fun y hy => h y (List.mem_cons_of_mem x hy)
    have hx := (h x List.mem_cons_self).encode_length.2
    have hsize : x.size ≤ 12 := by
      cases x with
      | lidarIp ip => exact Nat.le_refl 12
      | hostIp k info => exact (by decide : 8 ≤ 12)
    rw [List.flatMap_cons, List.length_append, List.length_cons]
    omega

/-- A request into which some settings are written. -/
def Request.written (buf : Mem) (keyNum : UInt16) (xs : List IpSetting) : Request where
  buf := (buf.set 0 (leBytes 2 keyNum.toNat)).set 4 (xs.flatMap IpSetting.encode)
  len := UInt16.ofNat (4 + (xs.flatMap IpSetting.encode).length)

theorem putKeyNum_eq (buf : Mem) (keyNum : UInt16) :
    putKeyNum keyNum ⟨buf, 0⟩ = .written buf keyNum [] := by
  have hnil : (buf.set 0 (leBytes 2 keyNum.toNat)).set 4 [] = buf.set 0 (leBytes 2 keyNum.toNat) := by
    funext k
    exact Mem.set_apply_of_disjoint _ _ _ _ (Nat.lt_or_ge k 4)
  show _ = Request.mk ((buf.set 0 (leBytes 2 keyNum.toNat)).set 4 []) _
  rw [hnil]
  rfl

/-- An entry behind those that were written. -/
theorem written_set {xs : List IpSetting} (hxs : ∀ x ∈ xs, x.Canonical) (hlength : xs.length ≤ 3)
    (buf : Mem) (keyNum : UInt16) (x : IpSetting) {size : UInt16}
    (hsize : x.encode.length = size.toNat) :
    Request.mk ((Request.written buf keyNum xs).buf.set (Request.written buf keyNum xs).len.toNat
      x.encode) ((Request.written buf keyNum xs).len + size) =
        .written buf keyNum (xs ++ [x]) := by
  have hle := encodes_length_le hxs
  have hlen : (Request.written buf keyNum xs).len.toNat =
      4 + (xs.flatMap IpSetting.encode).length := by
    show (UInt16.ofNat _).toNat = _
    rw [UInt16.toNat_ofNat']
    omega
  have hflat : (xs ++ [x]).flatMap IpSetting.encode =
      xs.flatMap IpSetting.encode ++ x.encode := by
    rw [List.flatMap_append, List.flatMap_singleton]
  unfold Request.written at hlen ⊢
  dsimp only at hlen ⊢
  rw [hlen, hflat, Mem.set_set_append]
  congr 1
  rw [List.length_append, hsize, ← Nat.add_assoc, UInt16.ofNat_add _ size.toNat, UInt16.ofNat_toNat]

theorem putHostIp_written {addr : ℕ → Mem → Except BuildFault Mem} (h : Canonical text)
    (haddr : ∀ off buf, addr off buf = .ok (buf.set off (octets text))) (k : HostKey)
    (hostPort lidarPort : UInt16) {xs : List IpSetting} (hxs : ∀ x ∈ xs, x.Canonical)
    (hlength : xs.length ≤ 3) (buf : Mem) (keyNum : UInt16) :
    putHostIp k.key addr hostPort (some lidarPort) (.written buf keyNum xs) =
      .ok (.written buf keyNum (xs ++ [.hostIp k ⟨text, hostPort, lidarPort⟩])) := by
  have hx : (IpSetting.hostIp k ⟨text, hostPort, lidarPort⟩).Canonical := h
  rw [putHostIp_eq h haddr, written_set hxs hlength buf keyNum _ hx.encode_length.2]

theorem none_canonical : ∀ x ∈ ([] : List IpSetting), x.Canonical := fun _ hx => nomatch hx

theorem one_canonical (k : HostKey) {info : HostIpInfo} (h : Canonical info.hostIpAddr) :
    ∀ x ∈ [IpSetting.hostIp k info], x.Canonical :=
  List.forall_mem_singleton.mpr (show (IpSetting.hostIp k info).Canonical from h)

/-- The first entry. -/
theorem putHostIp_first {addr : ℕ → Mem → Except BuildFault Mem} (h : Canonical text)
    (haddr : ∀ off buf, addr off buf = .ok (buf.set off (octets text))) (k : HostKey)
    (hostPort lidarPort : UInt16) (buf : Mem) (keyNum : UInt16) :
    putHostIp k.key addr hostPort (some lidarPort) (.written buf keyNum []) =
      .ok (.written buf keyNum [.hostIp k ⟨text, hostPort, lidarPort⟩]) :=
  putHostIp_written h haddr k hostPort lidarPort none_canonical (Nat.zero_le 3) buf keyNum

/-- There are few settings, and their addresses are canonical. -/
theorem ConfigRequest.Canonical.settings {c : ConfigRequest} (h : c.Canonical) :
    c.settings.length ≤ 3 ∧ ∀ x ∈ c.settings, x.Canonical := by
  have hone : 1 ≤ 3 := by decide
  have htwo : 2 ≤ 3 := by decide
  cases c with
  | updateViewLidarCfg info =>
    by_cases hpa : info.devType = kLivoxLidarTypePA
    · have hs : (ConfigRequest.updateViewLidarCfg info).settings = _ :=
        congrArg (List.cons _) (if_pos hpa)
      rw [hs]
      exact ⟨hone, List.forall_mem_singleton.mpr h⟩
    · have hs : (ConfigRequest.updateViewLidarCfg info).settings = _ :=
        congrArg (List.cons _) (if_neg hpa)
      rw [hs]
      exact ⟨htwo, List.forall_mem_cons.mpr ⟨h, List.forall_mem_singleton.mpr h⟩⟩
  | updateMid360LidarCfg cfg =>
    have haddress := HostNetInfo.Canonical.address h
    exact ⟨Nat.le_refl 3, List.forall_mem_cons.mpr ⟨haddress, List.forall_mem_cons.mpr
      ⟨haddress, List.forall_mem_singleton.mpr haddress⟩⟩⟩
  | updateLidarCfg cfg =>
    have haddress := HostNetInfo.Canonical.address h
    by_cases hpa : cfg.deviceType = kLivoxLidarTypePA
    · have hs : (ConfigRequest.updateLidarCfg cfg).settings = _ :=
        congrArg (List.cons _) (if_pos hpa)
      rw [hs]
      exact ⟨hone, List.forall_mem_singleton.mpr haddress⟩
    · have hs : (ConfigRequest.updateLidarCfg cfg).settings = _ :=
        congrArg (List.cons _) (if_neg hpa)
      rw [hs]
      exact ⟨htwo, List.forall_mem_cons.mpr ⟨haddress, List.forall_mem_singleton.mpr haddress⟩⟩
  | setLidarIPInfo ip => exact ⟨hone, List.forall_mem_singleton.mpr h⟩
  | setHostStateInfoIPCfg info => exact ⟨hone, List.forall_mem_singleton.mpr h⟩
  | setHostPointDataIPInfo info => exact ⟨hone, List.forall_mem_singleton.mpr h⟩
  | setHostImuDataIPInfo info => exact ⟨hone, List.forall_mem_singleton.mpr h⟩

theorem buildUpdateViewLidarCfgRequest_eq {info : ViewLidarIpInfo} (h : Canonical info.hostIp)
    (buf : Mem) :
    let settings := (ConfigRequest.updateViewLidarCfg info).settings
    buildUpdateViewLidarCfgRequest info ⟨buf, 0⟩ =
      .ok (.written buf (UInt16.ofNat settings.length) settings) := by
  intro settings
  have hfirst : ∀ n, putHostIp kKeyLidarPointDataHostIpCfg (initHostIpAddr info.hostIp)
      info.hostPointPort (some info.lidarPointPort) (.written buf n []) = _ :=
    putHostIp_first h h.initHostIpAddr .pointData info.hostPointPort info.lidarPointPort buf
  unfold buildUpdateViewLidarCfgRequest
  dsimp only
  rw [putKeyNum_eq, hfirst]
  by_cases hpa : info.devType = kLivoxLidarTypePA
  · have hs : settings = _ := congrArg (List.cons _) (if_pos hpa)
    rw [hs]
    simp only [hpa, if_true]
    rfl
  · have hs : settings = _ := congrArg (List.cons _) (if_neg hpa)
    rw [hs]
    simp only [hpa, if_false]
    exact putHostIp_written h h.initHostIpAddr .imuData _ _ (one_canonical .pointData h)
      (by decide : 1 ≤ 3) buf 2

/-- In the entry of the state info the address of the host is written first. -/
theorem HostNetInfo.Canonical.initTwice {net : HostNetInfo} (h : net.Canonical) (off : ℕ)
    (buf : Mem) :
    (do
      let buf ← BuildRequest.initHostIpAddr net.hostIp off buf
      BuildRequest.initHostOrMulticast net off buf) = .ok (buf.set off (octets net.address)) := by
  rw [h.1.initHostIpAddr]
  show BuildRequest.initHostOrMulticast net off (buf.set off (octets net.hostIp)) = _
  rw [h.initHostOrMulticast, Mem.set_set_self]
  rw [h.1.octets.2.1, h.address.octets.2.1]

theorem buildUpdateMid360LidarCfgRequest_eq {cfg : LivoxLidarCfg} (h : cfg.hostNetInfo.Canonical)
    (buf : Mem) :
    let settings := (ConfigRequest.updateMid360LidarCfg cfg).settings
    buildUpdateMid360LidarCfgRequest cfg ⟨buf, 0⟩ =
      .ok (.written buf (UInt16.ofNat settings.length) settings) := by
  intro settings
  have haddr := h.initHostOrMulticast
  have hstate : ∀ n, putHostIp kKeyStateInfoHostIpCfg (fun off buf => do
      let buf ← initHostIpAddr cfg.hostNetInfo.hostIp off buf
      initHostOrMulticast cfg.hostNetInfo off buf) cfg.hostNetInfo.pushMsgPort
      (some kMid360LidarPushMsgPort) (.written buf n []) = _ :=
    putHostIp_first h.address h.initTwice .stateInfo _ _ buf
  have hpoint : ∀ n, putHostIp kKeyLidarPointDataHostIpCfg (initHostOrMulticast cfg.hostNetInfo)
      cfg.hostNetInfo.pointDataPort (some kMid360LidarPointCloudPort) (.written buf n [.hostIp
        .stateInfo ⟨cfg.hostNetInfo.address, cfg.hostNetInfo.pushMsgPort,
          kMid360LidarPushMsgPort⟩]) = _ :=
    putHostIp_written h.address haddr .pointData _ _ (one_canonical .stateInfo h.address)
      (by decide : 1 ≤ 3) buf
  unfold buildUpdateMid360LidarCfgRequest
  dsimp only
  rw [putKeyNum_eq, hstate]
  show (putHostIp _ _ _ _ _ >>= _) = _
  rw [hpoint]
  have htwo : ∀ x ∈ [IpSetting.hostIp .stateInfo ⟨cfg.hostNetInfo.address,
      cfg.hostNetInfo.pushMsgPort, kMid360LidarPushMsgPort⟩, .hostIp .pointData
      ⟨cfg.hostNetInfo.address, cfg.hostNetInfo.pointDataPort, kMid360LidarPointCloudPort⟩],
      x.Canonical :=
    List.forall_mem_cons.mpr ⟨one_canonical .stateInfo h.address _ List.mem_cons_self,
      one_canonical .pointData h.address⟩
  exact putHostIp_written h.address haddr .imuData _ _ htwo (by decide : 2 ≤ 3) buf 3

/-- A type of lidar that is known has its ports. -/
theorem ports_of_known {deviceType : UInt8} (h : deviceType ∈ [kLivoxLidarTypeIndustrialHAP,
    kLivoxLidarTypeMid360, kLivoxLidarTypePA, kLivoxLidarTypeMid360s]) :
    lidarPointPort deviceType = some ((lidarPointPort deviceType).getD 0) ∧
      (deviceType ≠ kLivoxLidarTypePA →
        lidarImuPort deviceType = some ((lidarImuPort deviceType).getD 0)) := by
  simp only [List.mem_cons, List.not_mem_nil, or_false] at h
  rcases h with rfl | rfl | rfl | rfl <;> exact ⟨by decide, by decide⟩

theorem buildUpdateLidarCfgRequest_eq {cfg : LivoxLidarCfg} (h : cfg.hostNetInfo.Canonical)
    (hknown : (ConfigRequest.updateLidarCfg cfg).KnownType) (buf : Mem) :
    let settings := (ConfigRequest.updateLidarCfg cfg).settings
    buildUpdateLidarCfgRequest cfg ⟨buf, 0⟩ =
      .ok (.written buf (UInt16.ofNat settings.length) settings) := by
  intro settings
  obtain ⟨hpointPort, himuPort⟩ := ports_of_known hknown
  have haddr := h.initHostOrMulticast
  have hfirst : ∀ n, putHostIp kKeyLidarPointDataHostIpCfg (initHostOrMulticast cfg.hostNetInfo)
      cfg.hostNetInfo.pointDataPort (lidarPointPort cfg.deviceType) (.written buf n []) =
        .ok (.written buf n [.hostIp .pointData ⟨cfg.hostNetInfo.address,
          cfg.hostNetInfo.pointDataPort, (lidarPointPort cfg.deviceType).getD 0⟩]) := by
    intro n
    rw [hpointPort]
    exact putHostIp_first h.address haddr .pointData _ _ buf n
  unfold buildUpdateLidarCfgRequest
  dsimp only
  rw [putKeyNum_eq, hfirst]
  by_cases hpa : cfg.deviceType = kLivoxLidarTypePA
  · have hs : settings = _ := congrArg (List.cons _) (if_pos hpa)
    rw [hs]
    simp only [hpa, if_true]
    rfl
  · have hs : settings = _ := congrArg (List.cons _) (if_neg hpa)
    rw [hs]
    simp only [hpa, if_false]
    rw [himuPort hpa]
    exact putHostIp_written h.address haddr .imuData _ _ (one_canonical .pointData h.address)
      (by decide : 1 ≤ 3) buf 2

theorem buildSetLidarIPInfoRequest_eq {ip : LivoxLidarIpInfo}
    (h : (IpSetting.lidarIp ip).Canonical) (buf : Mem) :
    buildSetLidarIPInfoRequest ip ⟨buf, 0⟩ = .ok (.written buf 1 [.lidarIp ip]) := by
  obtain ⟨⟨hip, hipLength, -⟩, ⟨hmask, hmaskLength, -⟩, hgw, hgwLength, -⟩ :=
    And.intro h.1.octets (And.intro h.2.1.octets h.2.2.octets)
  have hvalue : ∀ off buf, initLidarIpinfoVal ip off buf =
      .ok (buf.set off (IpSetting.lidarIp ip).value) := by
    intro off buf
    unfold initLidarIpinfoVal
    rw [hip, hmask, hgw]
    show Except.ok (((buf.set off ((octets ip.ipAddr).take 4)).set (off + 4)
      ((octets ip.netMask).take 4)).set (off + 8) ((octets ip.gwAddr).take 4)) = _
    rw [List.take_of_length_le (Nat.le_of_eq hipLength),
      List.take_of_length_le (Nat.le_of_eq hmaskLength),
      List.take_of_length_le (Nat.le_of_eq hgwLength)]
    have htwo := buf.set_set_append off (octets ip.ipAddr) (octets ip.netMask)
    have hthree := buf.set_set_append off (octets ip.ipAddr ++ octets ip.netMask) (octets ip.gwAddr)
    rw [hipLength] at htwo
    rw [List.length_append, hipLength, hmaskLength] at hthree
    rw [htwo, hthree]
    rfl
  unfold buildSetLidarIPInfoRequest
  dsimp only
  rw [putKeyNum_eq, hvalue]
  show Except.ok (Request.mk ((putHead kKeyLidarIpCfg 12 _).set _ _) _) = _
  rw [putHead_set]
  exact congrArg Except.ok (written_set none_canonical (Nat.zero_le 3) buf 1 (.lidarIp ip)
    h.encode_length.2)

theorem buildSetHostIpRequest_eq (k : HostKey) {info : HostIpInfo} (h : Canonical info.hostIpAddr)
    (buf : Mem) :
    buildSetHostIpRequest k.key info ⟨buf, 0⟩ = .ok (.written buf 1 [.hostIp k info]) := by
  unfold buildSetHostIpRequest
  rw [putKeyNum_eq]
  exact putHostIp_first h h.initHostIpAddr k info.hostPort info.lidarPort buf 1

/-- A builder writes the settings of its configuration. -/
theorem build_eq {c : ConfigRequest} (h : c.Canonical) (hknown : c.KnownType) (buf : Mem) :
    c.build ⟨buf, 0⟩ = .ok (.written buf (UInt16.ofNat c.settings.length) c.settings) := by
  cases c with
  | updateViewLidarCfg info => exact buildUpdateViewLidarCfgRequest_eq h buf
  | updateMid360LidarCfg cfg => exact buildUpdateMid360LidarCfgRequest_eq h buf
  | updateLidarCfg cfg => exact buildUpdateLidarCfgRequest_eq h hknown buf
  | setLidarIPInfo ip => exact buildSetLidarIPInfoRequest_eq h buf
  | setHostStateInfoIPCfg info => exact buildSetHostIpRequest_eq .stateInfo h buf
  | setHostPointDataIPInfo info => exact buildSetHostIpRequest_eq .pointData h buf
  | setHostImuDataIPInfo info => exact buildSetHostIpRequest_eq .imuData h buf

end Build

/-! ### What the parser makes of it -/

namespace IpSetting

/-- The key as a name. -/
def paramKey : IpSetting → ParamKeyName
  | lidarIp _ => .kKeyLidarIpCfg
  | hostIp .stateInfo _ => .kKeyStateInfoHostIpCfg
  | hostIp .pointData _ => .kKeyLidarPointDataHostIpCfg
  | hostIp .imuData _ => .kKeyLidarImuHostIpCfg

/-- The state info with the setting. -/
def store (info : Mem) : IpSetting → Mem
  | lidarIp ip => ((info.set StateField.lidarIpAddr.off (ip.ipAddr ++ [0])).set
      StateField.lidarNetMask.off (ip.netMask ++ [0])).set StateField.lidarGwAddr.off
      (ip.gwAddr ++ [0])
  | hostIp k h => ((info.set k.ipAddr.off (h.hostIpAddr ++ [0])).set k.hostPort.off
      (leBytes 2 h.hostPort.toNat)).set k.lidarPort.off (leBytes 2 h.lidarPort.toNat)

/-- Where the fields of the setting begin, and how long they are. -/
def start : IpSetting → ℕ
  | lidarIp _ => StateField.lidarIpAddr.off
  | hostIp k _ => k.ipAddr.off

def extent : IpSetting → ℕ
  | lidarIp _ => 48
  | hostIp _ _ => 20

end IpSetting

section Parse

variable {data : Mem} {off : UInt16} {x y : IpSetting} {info : Mem}

/-- What an entry reads as. -/
theorem entry_reads (h : x.Canonical) {o : ℕ} (hdata : data.bytes o (4 + x.size) = x.encode) :
    data.u16 o = x.key ∧ data.u16 (o + 2) = UInt16.ofNat x.size ∧
      data.bytes (o + 4) x.size = x.value := by
  have hsize : x.size < 2 ^ 16 := by
    cases x with
    | lidarIp ip => exact (by decide : 12 < 2 ^ 16)
    | hostIp k info => exact (by decide : 8 < 2 ^ 16)
  have hsplit : data.bytes o (4 + x.size) =
      data.bytes o 2 ++ data.bytes (o + 2) 2 ++ data.bytes (o + 4) x.size := by
    rw [show 4 + x.size = 2 + 2 + x.size from rfl, Mem.bytes_add, Mem.bytes_add]
  unfold IpSetting.encode at hdata
  rw [hsplit] at hdata
  obtain ⟨hhead, hvalue⟩ := List.append_inj hdata (by
    rw [List.length_append, List.length_append, Mem.bytes_length, Mem.bytes_length,
      leBytes_length, leBytes_length])
  obtain ⟨hkey, hlength⟩ := List.append_inj hhead (by rw [Mem.bytes_length, leBytes_length])
  refine ⟨Mem.u16_of_bytes _ _ hkey, Mem.u16_of_bytes _ _ ?_, hvalue⟩
  rw [hlength, UInt16.toNat_ofNat', Nat.mod_eq_of_lt hsize]

/-- The helpers for an address and two ports take the value over. -/
theorem parseHostIp_store {k : HostKey} {h : HostIpInfo} (hcanon : Canonical h.hostIpAddr)
    (hoff : off.toNat + 8 < 2 ^ 16) (hdata : data.bytes off.toNat 8 = (IpSetting.hostIp k h).value) :
    (parseHostIp k.ipAddr k.hostPort k.lidarPort data off info).val =
      (IpSetting.hostIp k h).store info := by
  obtain ⟨-, hlength, htext⟩ := hcanon.octets
  have h4 : (off + 4).toNat = off.toNat + 4 := by
    rw [UInt16.toNat_add, show (4 : UInt16).toNat = 4 from rfl]
    omega
  have h6 : (off + 4 + 2).toNat = off.toNat + 6 := by
    rw [UInt16.toNat_add, h4, show (2 : UInt16).toNat = 2 from rfl]
    omega
  have hsplit : data.bytes off.toNat 8 = data.bytes off.toNat 4 ++ data.bytes (off.toNat + 4) 2 ++
      data.bytes (off.toNat + 6) 2 := by
    rw [show 8 = 4 + 2 + 2 from rfl, Mem.bytes_add, Mem.bytes_add]
  unfold IpSetting.value at hdata
  rw [hsplit] at hdata
  obtain ⟨hhead, hlidarPort⟩ := List.append_inj hdata (by
    rw [List.length_append, List.length_append, Mem.bytes_length, Mem.bytes_length, hlength,
      leBytes_length])
  obtain ⟨haddr, hhostPort⟩ := List.append_inj hhead (by rw [Mem.bytes_length, hlength])
  show ((info.set k.ipAddr.off (ipString (data.bytes off.toNat 4))).set k.hostPort.off
    (data.bytes (off + 4).toNat 2)).set k.lidarPort.off (data.bytes (off + 4 + 2).toNat 2) = _
  rw [h4, h6, haddr, hhostPort, hlidarPort, htext]
  rfl

/-- The helper for the addresses of the lidar takes the value over. -/
theorem parseLidarIpAddr_store {ip : LivoxLidarIpInfo} (hcanon : (IpSetting.lidarIp ip).Canonical)
    (hoff : off.toNat + 12 < 2 ^ 16)
    (hdata : data.bytes off.toNat 12 = (IpSetting.lidarIp ip).value) :
    (parseLidarIpAddr data off info).val = (IpSetting.lidarIp ip).store info := by
  obtain ⟨-, hipLength, hipText⟩ := hcanon.1.octets
  obtain ⟨-, hmaskLength, hmaskText⟩ := hcanon.2.1.octets
  obtain ⟨-, hgwLength, hgwText⟩ := hcanon.2.2.octets
  have h4 : (off + 4).toNat = off.toNat + 4 := by
    rw [UInt16.toNat_add, show (4 : UInt16).toNat = 4 from rfl]
    omega
  have h8 : (off + 4 + 4).toNat = off.toNat + 8 := by
    rw [UInt16.toNat_add, h4, show (4 : UInt16).toNat = 4 from rfl]
    omega
  have hsplit : data.bytes off.toNat 12 = data.bytes off.toNat 4 ++ data.bytes (off.toNat + 4) 4 ++
      data.bytes (off.toNat + 8) 4 := by
    rw [show 12 = 4 + 4 + 4 from rfl, Mem.bytes_add, Mem.bytes_add]
  unfold IpSetting.value at hdata
  rw [hsplit] at hdata
  obtain ⟨hhead, hgw⟩ := List.append_inj hdata (by
    rw [List.length_append, List.length_append, Mem.bytes_length, Mem.bytes_length, hipLength,
      hmaskLength])
  obtain ⟨hip, hmask⟩ := List.append_inj hhead (by rw [Mem.bytes_length, hipLength])
  show ((info.set StateField.lidarIpAddr.off (ipString (data.bytes off.toNat 4))).set
    StateField.lidarNetMask.off (ipString (data.bytes (off + 4).toNat 4))).set
    StateField.lidarGwAddr.off (ipString (data.bytes (off + 4 + 4).toNat 4)) = _
  rw [h4, h8, hip, hmask, hgw, hipText, hmaskText, hgwText]
  rfl

/-- The parser takes the value of an entry over, whatever length it is given. -/
theorem parseValue_store (h : x.Canonical) (hoff : off.toNat + x.size < 2 ^ 16)
    (hdata : data.bytes off.toNat x.size = x.value) (valLen : UInt16) (s : StateInfo) :
    (parseValue data x.key off valLen s).val = ⟨x.store s.info, insert x.paramKey s.keyMask⟩ := by
  cases x with
  | lidarIp ip =>
    show StateInfo.mk (parseLidarIpAddr data off s.info).val _ = _
    rw [parseLidarIpAddr_store h hoff hdata]
    rfl
  | hostIp k info =>
    have hparse : (parseHostIp k.ipAddr k.hostPort k.lidarPort data off s.info).val = _ :=
      parseHostIp_store h hoff hdata
    cases k with
    | stateInfo =>
      show StateInfo.mk (parseStateInfoHostIPCfg data off s.info).val _ = _
      exact congrArg (StateInfo.mk · _) hparse
    | pointData =>
      show StateInfo.mk (parsePointCloudHostIpCfg data off s.info).val _ = _
      exact congrArg (StateInfo.mk · _) hparse
    | imuData =>
      show StateInfo.mk (parseImuDataHostIpCfg data off s.info).val _ = _
      exact congrArg (StateInfo.mk · _) hparse

/-- The entries of a request as they stand behind each other. -/
theorem entries_of_bytes {buf : Mem} : ∀ (xs : List IpSetting) (o : ℕ), (∀ x ∈ xs, x.Canonical) →
    buf.bytes o (xs.flatMap IpSetting.encode).length = xs.flatMap IpSetting.encode →
    Entries buf (o + (xs.flatMap IpSetting.encode).length) o xs
  | [], _, _, _ => rfl
  | x :: xs, o, hxs, hbytes => by
    obtain ⟨hx, hrest⟩ := List.forall_mem_cons.mp hxs
    have hsize := hx.encode_length.2
    rw [List.flatMap_cons, List.length_append, hsize, Mem.bytes_add] at hbytes
    obtain ⟨hentry, htail⟩ := List.append_inj hbytes (by rw [Mem.bytes_length, hsize])
    obtain ⟨hkey, hlength, -⟩ := entry_reads hx hentry
    refine ⟨hkey, ?_, ?_⟩
    · rw [hlength]
      cases x <;> rfl
    · have ih := entries_of_bytes xs (o + (4 + x.size)) hrest htail
      rw [List.flatMap_cons, List.length_append, hsize, Nat.add_assoc o 4 x.size, ← Nat.add_assoc]
      exact ih

/-- The parser takes over the settings of a request, one after another. -/
theorem parseKeys_settings {data : Mem} {dataLen : UInt16} : ∀ (xs : List IpSetting)
    (offset : UInt16) (s : StateInfo), (∀ x ∈ xs, x.Canonical) →
    data.bytes offset.toNat (xs.flatMap IpSetting.encode).length = xs.flatMap IpSetting.encode →
    offset.toNat + (xs.flatMap IpSetting.encode).length ≤ dataLen.toNat →
    (parseKeys data dataLen xs.length offset s).val =
      (true, ⟨xs.foldl IpSetting.store s.info, xs.foldl (fun m x => insert x.paramKey m) s.keyMask⟩)
  | [], _, _, _, _, _ => rfl
  | x :: xs, offset, s, hxs, hbytes, hlen => by
    obtain ⟨hx, hrest⟩ := List.forall_mem_cons.mp hxs
    have hlt := dataLen.toNat_lt
    have hsize := hx.encode_length.2
    have hmin : 8 ≤ x.size ∧ x.size ≤ 12 := by
      cases x with
      | lidarIp ip => exact (by decide : 8 ≤ 12 ∧ 12 ≤ 12)
      | hostIp k info => exact (by decide : 8 ≤ 8 ∧ 8 ≤ 12)
    rw [List.flatMap_cons, List.length_append, hsize] at hbytes hlen
    rw [Mem.bytes_add] at hbytes
    obtain ⟨hentry, htail⟩ := List.append_inj hbytes (by rw [Mem.bytes_length, hsize])
    obtain ⟨hkey, hlength, hvalue⟩ := entry_reads hx hentry
    have htwo : (2 : UInt16).toNat = 2 := rfl
    have h2 : (offset + 2).toNat = offset.toNat + 2 := by
      rw [UInt16.toNat_add, htwo]
      omega
    have h4 : (offset + 2 + 2).toNat = offset.toNat + 4 := by
      rw [UInt16.toNat_add, h2, htwo]
      omega
    have hnext : (offset + 2 + 2 + UInt16.ofNat x.size).toNat = offset.toNat + (4 + x.size) := by
      rw [UInt16.toNat_add, h4, UInt16.toNat_ofNat']
      omega
    have hstore : (parseValue data x.key (offset + 2 + 2) (UInt16.ofNat x.size) s).val = _ :=
      parseValue_store hx (by omega) (h4 ▸ hvalue) (UInt16.ofNat x.size) s
    have ih : (parseKeys data dataLen xs.length (offset + 2 + 2 + UInt16.ofNat x.size)
        ⟨x.store s.info, insert x.paramKey s.keyMask⟩).val = _ :=
      parseKeys_settings xs _ _ hrest (by rwa [hnext]) (by rw [hnext]; omega)
    rw [List.length_cons, parseKeys, if_neg (by omega)]
    show (parseKeys data dataLen xs.length (offset + 2 + 2 + data.u16 (offset + 2).toNat)
      (parseValue data (data.u16 offset.toNat) (offset + 2 + 2) (data.u16 (offset + 2).toNat)
        s).val).val = _
    rw [h2, hkey, hlength, hstore]
    exact ih

/-- A canonical text fits a field of 16 bytes. -/
theorem Canonical.text_fits {text : List UInt8} (h : Canonical text) :
    (text ++ [0]).length ≤ 16 := by
  obtain ⟨-, hlength, htext⟩ := h.octets
  rw [← htext]
  exact ipString_fits hlength

/-- The fields of a setting stand behind each other. -/
theorem store_lidarIp (ip : LivoxLidarIpInfo) (info : Mem) :
    (IpSetting.lidarIp ip).store info = ((info.set 4 (ip.ipAddr ++ [0])).set 20
      (ip.netMask ++ [0])).set 36 (ip.gwAddr ++ [0]) := rfl

theorem store_hostIp (k : HostKey) (h : HostIpInfo) (info : Mem) :
    (IpSetting.hostIp k h).store info = ((info.set k.ipAddr.off (h.hostIpAddr ++ [0])).set
      (k.ipAddr.off + 16) (leBytes 2 h.hostPort.toNat)).set (k.ipAddr.off + 18)
      (leBytes 2 h.lidarPort.toNat) := by
  cases k <;> rfl

theorem stored_lidarIp (ip : LivoxLidarIpInfo) (info : Mem) :
    (IpSetting.lidarIp ip).Stored info ↔
      info.bytes 4 (ip.ipAddr ++ [0]).length = ip.ipAddr ++ [0] ∧
        info.bytes 20 (ip.netMask ++ [0]).length = ip.netMask ++ [0] ∧
        info.bytes 36 (ip.gwAddr ++ [0]).length = ip.gwAddr ++ [0] := by
  rw [List.length_append, List.length_append, List.length_append]
  rfl

theorem stored_hostIp (k : HostKey) (h : HostIpInfo) (info : Mem) :
    (IpSetting.hostIp k h).Stored info ↔
      info.bytes k.ipAddr.off (h.hostIpAddr ++ [0]).length = h.hostIpAddr ++ [0] ∧
        info.u16 (k.ipAddr.off + 16) = h.hostPort ∧ info.u16 (k.ipAddr.off + 18) = h.lidarPort := by
  rw [List.length_append]
  cases k <;> rfl

/-- The fields of a setting are all that it changes. -/
theorem store_apply (h : x.Canonical) {i : ℕ} (hi : i < x.start ∨ x.start + x.extent ≤ i)
    (info : Mem) : x.store info i = info i := by
  cases x with
  | lidarIp ip =>
    have hip := h.1.text_fits
    have hmask := h.2.1.text_fits
    have hgw := h.2.2.text_fits
    have hi : i < 4 ∨ 4 + 48 ≤ i := hi
    rw [store_lidarIp, Mem.set_apply_of_disjoint _ _ _ _ (by omega),
      Mem.set_apply_of_disjoint _ _ _ _ (by omega), Mem.set_apply_of_disjoint _ _ _ _ (by omega)]
  | hostIp k h' =>
    have hip := Canonical.text_fits h
    have hhostPort := leBytes_length 2 h'.hostPort.toNat
    have hlidarPort := leBytes_length 2 h'.lidarPort.toNat
    have hi : i < k.ipAddr.off ∨ k.ipAddr.off + 20 ≤ i := hi
    rw [store_hostIp, Mem.set_apply_of_disjoint _ _ _ _ (by omega),
      Mem.set_apply_of_disjoint _ _ _ _ (by omega), Mem.set_apply_of_disjoint _ _ _ _ (by omega)]

/-- Whether a setting is there depends on its fields only. -/
theorem stored_congr (h : x.Canonical) {info info' : Mem}
    (hsame : ∀ i, x.start ≤ i → i < x.start + x.extent → info' i = info i)
    (hstored : x.Stored info) : x.Stored info' := by
  have hbytes : ∀ off n, x.start ≤ off → off + n ≤ x.start + x.extent →
      info'.bytes off n = info.bytes off n := by
    intro off n hoff hn
    refine List.map_congr_left fun k hk => hsame _ (by omega) ?_
    rw [List.mem_range] at hk
    omega
  cases x with
  | lidarIp ip =>
    have hip := h.1.text_fits
    have hmask := h.2.1.text_fits
    have hgw := h.2.2.text_fits
    have hbytes : ∀ off n, 4 ≤ off → off + n ≤ 4 + 48 → info'.bytes off n = info.bytes off n :=
      hbytes
    rw [stored_lidarIp] at hstored ⊢
    rwa [hbytes _ _ (by omega) (by omega), hbytes _ _ (by omega) (by omega),
      hbytes _ _ (by omega) (by omega)]
  | hostIp k h' =>
    have hip := Canonical.text_fits h
    have hbytes : ∀ off n, k.ipAddr.off ≤ off → off + n ≤ k.ipAddr.off + 20 →
      info'.bytes off n = info.bytes off n := hbytes
    rw [stored_hostIp] at hstored ⊢
    unfold Mem.u16 at hstored ⊢
    rwa [hbytes _ _ (by omega) (by omega), hbytes _ _ (by omega) (by omega),
      hbytes _ _ (by omega) (by omega)]

/-- A setting that is stored is there. -/
theorem store_stored (h : x.Canonical) (info : Mem) : x.Stored (x.store info) := by
  cases x with
  | lidarIp ip =>
    have hip := h.1.text_fits
    have hmask := h.2.1.text_fits
    rw [stored_lidarIp, store_lidarIp]
    refine ⟨?_, ?_, Mem.bytes_set_self _ _ _⟩
    · rw [Mem.bytes_set_of_disjoint _ _ _ _ _ (by omega),
        Mem.bytes_set_of_disjoint _ _ _ _ _ (by omega), Mem.bytes_set_self]
    · rw [Mem.bytes_set_of_disjoint _ _ _ _ _ (by omega), Mem.bytes_set_self]
  | hostIp k h' =>
    have hip := Canonical.text_fits h
    have hhostPort := leBytes_length 2 h'.hostPort.toNat
    have hlidarPort := leBytes_length 2 h'.lidarPort.toNat
    rw [stored_hostIp, store_hostIp]
    refine ⟨?_, ?_, Mem.u16_set_self _ _ _⟩
    · rw [Mem.bytes_set_of_disjoint _ _ _ _ _ (by omega),
        Mem.bytes_set_of_disjoint _ _ _ _ _ (by omega), Mem.bytes_set_self]
    · rw [Mem.u16_set_of_disjoint _ _ _ _ (by omega), Mem.u16_set_self]

/-- A setting with another key leaves a setting alone. -/
theorem store_keeps (hx : x.Canonical) (hy : y.Canonical) (hkey : y.paramKey ≠ x.paramKey)
    (hstored : x.Stored info) : x.Stored (y.store info) := by
  have hapart : x.start + x.extent ≤ y.start ∨ y.start + y.extent ≤ x.start := by
    have hip : 4 + 48 ≤ 52 ∧ 4 + 48 ≤ 72 ∧ 4 + 48 ≤ 92 := by decide
    have hhost : 52 + 20 ≤ 72 ∧ 52 + 20 ≤ 92 ∧ 72 + 20 ≤ 92 := by decide
    rcases x with _ | ⟨k | k | k, h⟩ <;> rcases y with _ | ⟨k' | k' | k', h'⟩
    case lidarIp.lidarIp | hostIp.stateInfo.hostIp.stateInfo | hostIp.pointData.hostIp.pointData |
        hostIp.imuData.hostIp.imuData => exact absurd rfl hkey
    case lidarIp.hostIp.stateInfo => exact .inl hip.1
    case lidarIp.hostIp.pointData => exact .inl hip.2.1
    case lidarIp.hostIp.imuData => exact .inl hip.2.2
    case hostIp.stateInfo.lidarIp => exact .inr hip.1
    case hostIp.pointData.lidarIp => exact .inr hip.2.1
    case hostIp.imuData.lidarIp => exact .inr hip.2.2
    case hostIp.stateInfo.hostIp.pointData => exact .inl hhost.1
    case hostIp.stateInfo.hostIp.imuData => exact .inl hhost.2.1
    case hostIp.pointData.hostIp.imuData => exact .inl hhost.2.2
    case hostIp.pointData.hostIp.stateInfo => exact .inr hhost.1
    case hostIp.imuData.hostIp.stateInfo => exact .inr hhost.2.1
    case hostIp.imuData.hostIp.pointData => exact .inr hhost.2.2
  exact stored_congr hx (fun i hi hi' => store_apply hy (by omega) info) hstored

/-- Settings with other keys leave a setting alone. -/
theorem foldl_store_keeps : ∀ (ys : List IpSetting) (info : Mem), (∀ y ∈ ys, y.Canonical) →
    (∀ y ∈ ys, y.paramKey ≠ x.paramKey) → x.Canonical → x.Stored info →
      x.Stored (ys.foldl IpSetting.store info)
  | [], _, _, _, _, hstored => hstored
  | y :: ys, info, hys, hkeys, hx, hstored => by
    obtain ⟨hy, hys⟩ := List.forall_mem_cons.mp hys
    obtain ⟨hkey, hkeys⟩ := List.forall_mem_cons.mp hkeys
    exact foldl_store_keeps ys (y.store info) hys hkeys hx (store_keeps hx hy hkey hstored)

/-- Settings of different keys are all there in the end. -/
theorem foldl_store_stored : ∀ (xs : List IpSetting) (info : Mem), (∀ x ∈ xs, x.Canonical) →
    (xs.map IpSetting.paramKey).Nodup → ∀ x ∈ xs, x.Stored (xs.foldl IpSetting.store info)
  | [], _, _, _ => fun _ hx => nomatch hx
  | x :: xs, info, hxs, hnodup => by
    obtain ⟨hx, hxs⟩ := List.forall_mem_cons.mp hxs
    rw [List.map_cons, List.nodup_cons] at hnodup
    refine List.forall_mem_cons.mpr ⟨?_, foldl_store_stored xs (x.store info) hxs hnodup.2⟩
    refine foldl_store_keeps xs (x.store info) hxs ?_ hx (store_stored hx info)
    intro y hy heq
    exact hnodup.1 (heq ▸ List.mem_map_of_mem hy)

/-- A configuration sets each key once. -/
theorem settings_nodup (c : ConfigRequest) : (c.settings.map IpSetting.paramKey).Nodup := by
  cases c with
  | updateViewLidarCfg info =>
    by_cases hpa : info.devType = kLivoxLidarTypePA
    · have hs : (ConfigRequest.updateViewLidarCfg info).settings = _ :=
        congrArg (List.cons _) (if_pos hpa)
      rw [hs]
      exact List.nodup_singleton _
    · have hs : (ConfigRequest.updateViewLidarCfg info).settings = _ :=
        congrArg (List.cons _) (if_neg hpa)
      rw [hs]
      show [ParamKeyName.kKeyLidarPointDataHostIpCfg, .kKeyLidarImuHostIpCfg].Nodup
      decide
  | updateMid360LidarCfg cfg =>
    show [ParamKeyName.kKeyStateInfoHostIpCfg, .kKeyLidarPointDataHostIpCfg,
      .kKeyLidarImuHostIpCfg].Nodup
    decide
  | updateLidarCfg cfg =>
    by_cases hpa : cfg.deviceType = kLivoxLidarTypePA
    · have hs : (ConfigRequest.updateLidarCfg cfg).settings = _ :=
        congrArg (List.cons _) (if_pos hpa)
      rw [hs]
      exact List.nodup_singleton _
    · have hs : (ConfigRequest.updateLidarCfg cfg).settings = _ :=
        congrArg (List.cons _) (if_neg hpa)
      rw [hs]
      show [ParamKeyName.kKeyLidarPointDataHostIpCfg, .kKeyLidarImuHostIpCfg].Nodup
      decide
  | setLidarIPInfo ip => exact List.nodup_singleton _
  | setHostStateInfoIPCfg info => exact List.nodup_singleton _
  | setHostPointDataIPInfo info => exact List.nodup_singleton _
  | setHostImuDataIPInfo info => exact List.nodup_singleton _

/-- What is in a request that was written. -/
theorem written_reads (buf : Mem) (xs : List IpSetting) (hxs : ∀ x ∈ xs, x.Canonical)
    (hlength : xs.length ≤ 3) :
    let req := Request.written buf (UInt16.ofNat xs.length) xs
    req.buf.u16 0 = UInt16.ofNat xs.length ∧
      req.len.toNat = 4 + (xs.flatMap IpSetting.encode).length ∧
      req.buf.bytes 4 (xs.flatMap IpSetting.encode).length = xs.flatMap IpSetting.encode := by
  have hle := encodes_length_le hxs
  refine ⟨?_, ?_, Mem.bytes_set_self _ _ _⟩
  · show ((buf.set 0 _).set 4 _).u16 0 = _
    rw [Mem.u16_set_of_disjoint _ _ _ _ (by omega), Mem.u16_set_self]
  · show (UInt16.ofNat _).toNat = _
    rw [UInt16.toNat_ofNat']
    omega

/-- There are no ports for a lidar of another type. -/
theorem build_unknown {cfg : LivoxLidarCfg} (h : cfg.hostNetInfo.Canonical)
    (hunknown : ¬ (ConfigRequest.updateLidarCfg cfg).KnownType) (buf : Mem) :
    buildUpdateLidarCfgRequest cfg ⟨buf, 0⟩ = .error .refused := by
  have hport : lidarPointPort cfg.deviceType = none := by
    simp only [ConfigRequest.KnownType, List.mem_cons, List.not_mem_nil, or_false, not_or]
      at hunknown
    obtain ⟨hhap, hmid360, hpa, hmid360s⟩ := hunknown
    unfold lidarPointPort
    rw [if_neg hhap, if_neg hmid360, if_neg hpa, if_neg hmid360s]
  unfold buildUpdateLidarCfgRequest putHostIp
  dsimp only
  rw [h.initHostOrMulticast, hport]
  rfl

/-- **What is built is parsed back.** For every configuration with canonical addresses: a
request of a lidar whose type is known is a list of its settings, and the parser of the
state info accepts it and holds every address and port of the configuration then; for a
lidar of another type there is none. -/
theorem build_parses (c : ConfigRequest) (h : c.Canonical) (buf : Mem) :
    (c.KnownType → ∃ req, c.build ⟨buf, 0⟩ = .ok req ∧ req.WellFormed c.settings ∧
      ∀ s, (parseStateInfo req.buf req.len s).val.1 = true ∧
        ∀ x ∈ c.settings, x.Stored (parseStateInfo req.buf req.len s).val.2.info) ∧
    (¬ c.KnownType → c.build ⟨buf, 0⟩ = .error .refused) := by
  obtain ⟨hlength, hxs⟩ := h.settings
  constructor
  · intro hknown
    obtain ⟨hkeyNum, hlen, hbytes⟩ := written_reads buf c.settings hxs hlength
    have hnum : (UInt16.ofNat c.settings.length).toNat = c.settings.length := by
      rw [UInt16.toNat_ofNat']
      omega
    refine ⟨_, build_eq h hknown buf, ⟨?_, ?_, ?_⟩, fun s => ?_⟩
    · rw [hkeyNum, hnum]
    · rw [hlen]
      exact entries_of_bytes c.settings 4 hxs hbytes
    · have hle := encodes_length_le hxs
      rw [hlen]
      unfold kMaxCommandBufferSize
      omega
    · have hparse := parseKeys_settings c.settings 4 s hxs hbytes (Nat.le_of_eq hlen.symm)
      have hstate : (parseStateInfo (Request.written buf (UInt16.ofNat c.settings.length)
          c.settings).buf (Request.written buf (UInt16.ofNat c.settings.length) c.settings).len
          s).val = (true, ⟨c.settings.foldl IpSetting.store s.info,
            c.settings.foldl (fun m x => insert x.paramKey m) s.keyMask⟩) := by
        show (parseKeys _ _ (Mem.u16 _ 0).toNat 4 s).val = _
        rw [hkeyNum, hnum]
        exact hparse
      rw [hstate]
      exact ⟨rfl, foldl_store_stored c.settings s.info hxs (settings_nodup c)⟩
  · intro hunknown
    cases c with
    | updateLidarCfg cfg => exact build_unknown h hunknown buf
    | _ => exact absurd trivial hunknown

/-- The addresses of a Mid-360 and its host, which sends to a group. -/
theorem build_parses_mid360 :
    let net : HostNetInfo := ⟨ipText [192, 168, 1, 5], ipText [224, 1, 1, 5], 56201, 56301, 56401⟩
    let c := ConfigRequest.updateMid360LidarCfg ⟨kLivoxLidarTypeMid360, net⟩
    ∃ req, c.build ⟨fun _ => 0, 0⟩ = .ok req ∧ req.WellFormed c.settings ∧
      ∀ s, (parseStateInfo req.buf req.len s).val.1 = true ∧
        ∀ x ∈ c.settings, x.Stored (parseStateInfo req.buf req.len s).val.2.info := by
  intro net c
  have hcanonical : c.Canonical := ⟨⟨_, rfl, rfl⟩, .inr ⟨_, rfl, rfl⟩⟩
  exact (build_parses c hcanonical fun _ => 0).1 trivial

/-- There is no request for a lidar of another type, here a HAP. -/
theorem build_unknownType : ¬ ∀ (c : ConfigRequest) (buf : Mem), c.Canonical →
    ∃ req, c.build ⟨buf, 0⟩ = .ok req ∧ req.WellFormed c.settings ∧
      ∀ s, (parseStateInfo req.buf req.len s).val.1 = true ∧
        ∀ x ∈ c.settings, x.Stored (parseStateInfo req.buf req.len s).val.2.info := by
  intro hall
  have hnone : (ConfigRequest.updateLidarCfg
      ⟨15, ipText [192, 168, 1, 5], [], 56201, 56301, 56401⟩).build ⟨fun _ => 0, 0⟩ =
        .error .refused :=
    build_unknown ⟨⟨_, rfl, rfl⟩, .inl rfl⟩ (show (15 : UInt8) ∉ _ by decide) _
  obtain ⟨req, hreq, -⟩ := hall (.updateLidarCfg
    ⟨15, ipText [192, 168, 1, 5], [], 56201, 56301, 56401⟩) (fun _ => 0) ⟨⟨_, rfl, rfl⟩, .inl rfl⟩
  rw [hnone] at hreq
  cases hreq

end Parse

end BuildRequest
end Livox
end SensorSupport
