/-
# The channels of a session (`sdk_core/device_manager.cpp`)

The tables `channel_info_` and `custom_command_channel_` name a socket by a host address and a
port. As long as no `Init` fails each socket in them is open, bound to what its key says and
handed to a loop of the session, so commands, data and logs of a lidar go through such a channel
(`channels_served`). Whether the loop has room for it is another matter: `PollSetAdd` refuses the
50th descriptor. The tables that a failed `Init` leaves name sockets whose loops are gone
(`channel_not_served`).

Each lidar that is discovered has the channels of all lidars created again. A channel that is in
the tables is not; the broadcast socket of a Mid-360 is in no table, and is opened each time, if
`CreateSocket` succeeds (`broadcast_sockets`).

Key definitions: `Serves`, `Tables`, `InitsSucceed`, `Triangular`.
Key theorems: `channels_served`, `channel_not_served`, `broadcast_sockets`.
-/
import SensorSupport.Livox.DeviceChannels
import SensorSupport.Livox.IoLoop

namespace SensorSupport
namespace Livox
namespace DeviceChannels
namespace DeviceManager

/-! ### Every channel is served -/

/-- The channel of a host address and a port is an open socket bound to them, and was handed to a
loop of the session by `AddDelegate`. -/
def Serves (s : DeviceManager) (hostIp : List Char) (port : UInt16) (sock : Sock) : Prop :=
  (∃ e, (sock, e) ∈ s.opened ∧ e.port = port ∧ (e.netif = hostIp ∨ e.netif = netifOf hostIp)) ∧
    sock ∈ s.delegates

/-- The tables of a session. -/
structure Tables (s : DeviceManager) : Prop where
  fresh : ∀ sock ∈ s.socks, sock < s.next
  channel : ∀ hostIp port sock, s.channelInfo (channelKey hostIp port) = some sock →
    s.Serves hostIp port sock
  named : ∀ key sock, s.channelInfo key = some sock → sock ∈ s.socks
  injective : ∀ key key' sock, s.channelInfo key = some sock → s.channelInfo key' = some sock →
    key = key'
  custom : ∀ key sock, s.customCommandChannel key = some sock → s.channelInfo key = some sock

section Tables

variable (avail : ℕ → Bool) {s s' : DeviceManager} {hostIp : List Char} {port : UInt16}
  {key : ChannelKey} {e : Endpoint}

theorem Serves.mono {sock : Sock} (h : s.Serves hostIp port sock)
    (hopened : ∀ x ∈ s.opened, x ∈ s'.opened) (hdelegates : ∀ x ∈ s.delegates, x ∈ s'.delegates) :
    s'.Serves hostIp port sock := by
  obtain ⟨⟨e, he, hport, hnetif⟩, hloop⟩ := h
  exact ⟨⟨e, hopened _ he, hport, hnetif⟩, hdelegates _ hloop⟩

/-- What is in a table behind a new entry. -/
theorem update_cases {table : ChannelKey → Option Sock} {key' : ChannelKey} {sock sock' : Sock}
    (h : Function.update table key (some sock) key' = some sock') :
    table key' = some sock' ∨ key' = key ∧ sock' = sock := by
  by_cases hkey : key' = key
  · subst hkey
    rw [Function.update_self, Option.some.injEq] at h
    exact .inr ⟨rfl, h.symm⟩
  · rw [Function.update_of_ne hkey] at h
    exact .inl h

/-- What is in the table of the command channels behind a channel that was there already. -/
theorem withCustom_cases {key' : ChannelKey} {sock sock' : Sock}
    (h : (s.withCustom key sock).customCommandChannel key' = some sock') :
    s.customCommandChannel key' = some sock' ∨ key' = key ∧ sock' = sock := by
  simp only [withCustom] at h
  split at h
  · exact update_cases h
  · exact .inl h

/-- More sockets, and the same tables. -/
theorem Tables.mono (h : Tables s) (hchannel : s'.channelInfo = s.channelInfo)
    (hcustom : s'.customCommandChannel = s.customCommandChannel)
    (hfresh : ∀ sock ∈ s'.socks, sock < s'.next) (hopened : ∀ x ∈ s.opened, x ∈ s'.opened)
    (hdelegates : ∀ x ∈ s.delegates, x ∈ s'.delegates) : Tables s' where
  fresh := hfresh
  channel hostIp port sock hsock := (h.channel hostIp port sock (hchannel ▸ hsock)).mono hopened
    hdelegates
  named key sock hsock := by
    obtain ⟨x, hx, rfl⟩ := List.mem_map.mp (h.named key sock (hchannel ▸ hsock))
    exact List.mem_map_of_mem (hopened x hx)
  injective key key' sock hkey hkey' := h.injective key key' sock (hchannel ▸ hkey) (hchannel ▸ hkey')
  custom key sock hsock := hchannel ▸ h.custom key sock (hcustom ▸ hsock)

/-- A new channel with a new socket. -/
theorem Tables.insert (h : Tables s) (hnew : s.channelInfo (channelKey hostIp port) = none)
    (hchannel : s'.channelInfo =
      Function.update s.channelInfo (channelKey hostIp port) (some s.next))
    (hcustom : ∀ key sock, s'.customCommandChannel key = some sock →
      s.customCommandChannel key = some sock ∨ key = channelKey hostIp port ∧ sock = s.next)
    (hnext : s'.next = s.next + 1) (hopened : s'.opened = s.opened ++ [(s.next, e)])
    (hport : e.port = port) (hnetif : e.netif = hostIp ∨ e.netif = netifOf hostIp)
    (hdelegates : ∀ x, x ∈ s.delegates ∨ x = s.next → x ∈ s'.delegates) : Tables s' := by
  have hsocks : s'.socks = s.socks ++ [s.next] := by simp [socks, hopened]
  have hcases : ∀ key sock, s'.channelInfo key = some sock →
      s.channelInfo key = some sock ∨ key = channelKey hostIp port ∧ sock = s.next :=
    fun key sock hsock => update_cases (hchannel ▸ hsock)
  refine ⟨fun sock hsock => ?_, fun ip p sock hsock => ?_, fun key sock hsock => ?_,
    fun key key' sock hkey hkey' => ?_, fun key sock hsock => ?_⟩
  · rw [hsocks] at hsock
    rw [hnext]
    rcases List.mem_append.mp hsock with hsock | hsock
    · exact Nat.lt_succ_of_lt (h.fresh sock hsock)
    · rw [List.mem_singleton.mp hsock]
      exact Nat.lt_succ_self _
  · rcases hcases _ _ hsock with hold | ⟨hkey, rfl⟩
    · exact (h.channel ip p sock hold).mono
        (fun x hx => hopened ▸ List.mem_append_left _ hx) fun x hx => hdelegates x (.inl hx)
    · obtain ⟨rfl, rfl⟩ := channelKey_injective hkey
      exact ⟨⟨e, hopened ▸ List.mem_append_right _ (List.mem_singleton_self _), hport, hnetif⟩,
        hdelegates _ (.inr rfl)⟩
  · rw [hsocks]
    rcases hcases _ _ hsock with hold | ⟨-, rfl⟩
    · exact List.mem_append_left _ (h.named key sock hold)
    · exact List.mem_append_right _ (List.mem_singleton_self _)
  · rcases hcases _ _ hkey with hold | ⟨rfl, rfl⟩ <;> rcases hcases _ _ hkey' with hold' | ⟨rfl, hs⟩
    · exact h.injective key key' sock hold hold'
    · exact absurd (h.fresh _ (h.named _ _ hold)) (hs ▸ Nat.lt_irrefl _)
    · exact absurd (h.fresh _ (h.named _ _ hold')) (Nat.lt_irrefl _)
    · rfl
  · rcases hcustom key sock hsock with hold | ⟨rfl, rfl⟩
    · have hold' := h.custom key sock hold
      rw [hchannel, Function.update_of_ne]
      · exact hold'
      · rintro rfl
        rw [hnew] at hold'
        cases hold'
    · rw [hchannel, Function.update_self]

theorem tables_data (hostIp : List Char) (port : UInt16) (multicastIp : List Char)
    (s : DeviceManager) (h : Tables s) :
    Tables (createDataSocketAndAddDelegate avail hostIp port multicastIp s).1 := by
  rcases createDataSocket_cases avail hostIp multicastIp port s with
    heq | ⟨-, heq⟩ | ⟨-, hnew, heq⟩
  · rw [heq]
    exact h
  · rw [heq]
    exact h.mono rfl rfl (fun sock hsock => Nat.lt_succ_of_lt (h.fresh sock hsock))
      (fun _ hx => hx) fun _ hx => hx
  · rw [heq]
    refine h.insert hnew rfl (fun _ _ hsock => .inl hsock) rfl rfl rfl (.inr rfl) fun x hx => ?_
    simp only [delegates, withSocket, List.mem_append, List.mem_singleton] at hx ⊢
    tauto

theorem tables_cmd (hostIp : List Char) (port : UInt16) (s : DeviceManager) (h : Tables s) :
    Tables (createCmdSocketAndAddDelegate avail hostIp port s).1 := by
  rcases createCmdSocket_cases avail hostIp port s with
    heq | ⟨sock, hold, heq⟩ | ⟨-, heq⟩ | ⟨-, hnew, heq⟩
  · rw [heq]
    exact h
  · rw [heq]
    refine { h with custom := fun key sock' hsock' => ?_ }
    rcases withCustom_cases hsock' with hsock' | ⟨rfl, rfl⟩
    · exact h.custom key sock' hsock'
    · exact hold
  · rw [heq]
    exact h.mono rfl rfl (fun sock hsock => Nat.lt_succ_of_lt (h.fresh sock hsock))
      (fun _ hx => hx) fun _ hx => hx
  · rw [heq]
    refine h.insert hnew rfl (fun _ _ hsock => update_cases hsock) rfl rfl rfl (.inr rfl)
      fun x hx => ?_
    simp only [delegates, withSocket, List.mem_append, List.mem_singleton] at hx ⊢
    tauto

theorem tables_broadcast (port : UInt16) (s : DeviceManager) (h : Tables s) :
    Tables (createBroadcastSocket avail port s).1 := by
  rcases createBroadcastSocket_cases avail port s with ⟨-, heq⟩ | ⟨-, heq⟩
  · rw [heq]
    exact h.mono rfl rfl (fun sock hsock => Nat.lt_succ_of_lt (h.fresh sock hsock))
      (fun _ hx => hx) fun _ hx => hx
  · rw [heq]
    refine h.mono rfl rfl (fresh_withSocket h.fresh _) (fun x hx => List.mem_append_left _ hx)
      fun x hx => ?_
    simp only [delegates, withSocket, List.mem_append] at hx ⊢
    tauto

theorem tables_view (port : UInt16) (s : DeviceManager) (h : Tables s) :
    Tables (createViewSocket avail port s).1 := by
  rcases createViewSocket_cases avail port s with heq | ⟨-, heq⟩ | ⟨-, hnew, heq⟩
  · rw [heq]
    exact h
  · rw [heq]
    exact h.mono rfl rfl (fun sock hsock => Nat.lt_succ_of_lt (h.fresh sock hsock))
      (fun _ hx => hx) fun _ hx => hx
  · rw [heq]
    refine h.insert hnew rfl (fun _ _ hsock => .inl hsock) rfl rfl rfl (.inl rfl) fun x hx => ?_
    simp only [delegates, withSocket, List.mem_append, List.mem_singleton] at hx ⊢
    tauto

theorem tables_channels (cfgs : List LivoxLidarCfg) (h : Tables s) :
    Tables (createChannels avail cfgs s).1 :=
  createChannels_keeps (tables_data avail) (tables_cmd avail) (tables_broadcast avail) cfgs h

/-- Tables without a channel. -/
structure NoTables (s : DeviceManager) : Prop where
  channel : ∀ key, s.channelInfo key = none
  custom : ∀ key, s.customCommandChannel key = none
  fresh : ∀ sock ∈ s.socks, sock < s.next

theorem NoTables.tables (h : NoTables s) : Tables s where
  fresh := h.fresh
  channel hostIp port sock hsock := by simp [h.channel] at hsock
  named key sock hsock := by simp [h.channel] at hsock
  injective key key' sock hkey := by simp [h.channel] at hkey
  custom key sock hsock := by simp [h.custom] at hsock

/-- The first channel of a session is that of the detection. -/
theorem tables_detection (h : NoTables s) (hopened : (createDetectionChannel avail s).2 = true) :
    Tables (createDetectionChannel avail s).1 := by
  rcases createDetectionChannel_cases avail s with
    ⟨-, heq⟩ | ⟨-, -, s', heq, rfl⟩ | ⟨-, -, s', heq, rfl⟩
  · rw [heq] at hopened
    cases hopened
  · rw [heq] at hopened
    cases hopened
  · rw [heq]
    let s₁ : DeviceManager := { s.withSocket ⟨kDetectionPort, broadcastIp, []⟩ with
      detectionBroadcastSocket := some s.next
      detectionLoop := s.detectionLoop ++ [s.next] }
    have h₁ : Tables s₁ := NoTables.tables ⟨h.channel, h.custom, fresh_withSocket h.fresh _⟩
    refine h₁.insert (h.channel _) rfl (fun _ _ hsock => withCustom_cases hsock) rfl rfl rfl
      (.inl rfl) fun x hx => ?_
    simp only [delegates, withSocket, withCustom, s₁, List.mem_append, List.mem_singleton] at hx ⊢
    tauto

/-- An `Init` that gets to its first socket succeeds. -/
def InitsSucceed (s : DeviceManager) : ApiEvent → Prop
  | .initCfg lidars customs masterSdk logEnable =>
    s.isInitialized = true ∨ detectionCfg lidars customs = none ∨
      (initCfg avail lidars customs masterSdk logEnable s).2 = true
  | .initView hostIp logEnable =>
    s.isInitialized = true ∨ (initView avail hostIp logEnable s).2 = true
  | _ => True

instance : (e : ApiEvent) → Decidable (InitsSucceed avail s e)
  | .initCfg _ _ _ _ => inferInstanceAs (Decidable (_ ∨ _ ∨ _))
  | .initView _ _ => inferInstanceAs (Decidable (_ ∨ _))
  | .uninit | .discovery _ _ _ | .viewLidar _ _ _ => inferInstanceAs (Decidable True)

theorem lostIn_of_succeeds {e : ApiEvent} (h : InitsSucceed avail s e) : lostIn avail (s, e) = [] := by
  cases e with
  | initCfg lidars customs masterSdk logEnable =>
    simp only [lostIn]
    rw [if_pos]
    rcases h with h | h | h <;> simp [h]
  | initView hostIp logEnable =>
    simp only [lostIn]
    rw [if_pos]
    rcases h with h | h <;> simp [h]
  | _ => rfl

/-- The tables of a session are served, and without a session there are neither tables nor
sockets. -/
structure ServedInv (s : DeviceManager) : Prop where
  session : s.isInitialized = true → Tables s
  idle : s.isInitialized = false → NoTables s ∧ s.opened = []

theorem openSession_served (cfgs : List LivoxLidarCfg) (h : NoTables s)
    (hopened : (openSession avail cfgs s).2 = true) : ServedInv (openSession avail cfgs s).1 := by
  unfold openSession andThen at hopened ⊢
  cases hdetection : (createDetectionChannel avail s).2 with
  | false => simp [hdetection] at hopened
  | true =>
    simp only [hdetection, if_true] at hopened ⊢
    have hchannels := tables_channels avail cfgs (tables_detection avail h hdetection)
    cases hall : (createChannels avail cfgs (createDetectionChannel avail s).1).2 with
    | false => simp [hall] at hopened
    | true =>
      simp only [if_true, started]
      exact ⟨fun _ => ⟨hchannels.fresh, hchannels.channel, hchannels.named, hchannels.injective,
        hchannels.custom⟩, fun hidle => by cases hidle⟩

theorem servedInv_initCfg (lidars customs : List LivoxLidarCfg) (masterSdk logEnable : Bool)
    (h : ServedInv s) (hok : InitsSucceed avail s (.initCfg lidars customs masterSdk logEnable)) :
    ServedInv
      (if s.isInitialized then s else (initCfg avail lidars customs masterSdk logEnable s).1) := by
  cases hinit : s.isInitialized with
  | true => exact h
  | false =>
    obtain ⟨htables, hopened⟩ := h.idle hinit
    rcases hok with hok | hok | hok
    · rw [hinit] at hok
      cases hok
    · simp only [initCfg, hok, Bool.false_eq_true, if_false]
      exact ⟨fun hsession => absurd (hinit.symm.trans hsession) Bool.false_ne_true,
        fun _ => ⟨⟨htables.channel, htables.custom, htables.fresh⟩, hopened⟩⟩
    · unfold initCfg at hok ⊢
      rcases Option.eq_none_or_eq_some (detectionCfg lidars customs) with hcfg | ⟨cfg, hcfg⟩
      · simp [hcfg] at hok
      · simp only [hcfg, Bool.false_eq_true, if_false] at hok ⊢
        exact openSession_served avail customs
          (s := prepareCfg lidars customs masterSdk logEnable cfg s)
          ⟨htables.channel, htables.custom, htables.fresh⟩ hok

theorem servedInv_initView (hostIp : List Char) (logEnable : Bool) (h : ServedInv s)
    (hok : InitsSucceed avail s (.initView hostIp logEnable)) :
    ServedInv (if s.isInitialized then s else (initView avail hostIp logEnable s).1) := by
  cases hinit : s.isInitialized with
  | true => exact h
  | false =>
    obtain ⟨htables, -⟩ := h.idle hinit
    rcases hok with hok | hok
    · rw [hinit] at hok
      cases hok
    · simp only [initView_eq, Bool.false_eq_true, if_false] at hok ⊢
      exact openSession_served avail [] (s := prepareView hostIp logEnable s)
        ⟨htables.channel, htables.custom, htables.fresh⟩ hok

/-- What a loop calls for a socket happens in a session. -/
theorem ServedInv.tables_of_serves (h : ServedInv s) {sock : Sock} (hserves : s.serves sock = true) :
    s.isInitialized = true := by
  cases hinit : s.isInitialized with
  | true => rfl
  | false =>
    rw [serves, (h.idle hinit).2, List.any_nil, Bool.and_false] at hserves
    cases hserves

theorem servedInv_step {e : ApiEvent} (hsession : SessionInv [] s) (h : ServedInv s)
    (hok : InitsSucceed avail s e) (hs : step avail s e = some s') : ServedInv s' := by
  cases e with
  | initCfg lidars customs masterSdk logEnable =>
    obtain rfl := Option.some.inj hs
    exact servedInv_initCfg avail lidars customs masterSdk logEnable h hok
  | initView hostIp logEnable =>
    obtain rfl := Option.some.inj hs
    exact servedInv_initView avail hostIp logEnable h hok
  | uninit =>
    obtain rfl := Option.some.inj hs
    cases hinit : s.isInitialized with
    | false => exact h
    | true =>
      obtain ⟨-, -, -, hleft⟩ := destory_inv hsession hinit
      have hopened : s.destory.opened = [] := List.map_eq_nil_iff.mp hleft.eq_nil
      refine ⟨fun hfalse => (by cases hfalse), fun _ => ⟨⟨fun _ => rfl, fun _ => rfl, ?_⟩, hopened⟩⟩
      intro sock hsock
      rw [socks] at hsock
      change sock ∈ s.destory.socks at hsock
      rw [hleft.eq_nil] at hsock
      cases hsock
  | discovery sock handle devType =>
    simp only [step, Option.ite_none_right_eq_some, Option.some.injEq] at hs
    obtain ⟨hserves, rfl⟩ := hs
    have hinit := h.tables_of_serves hserves
    have htables := onDiscovery_keeps avail handle devType
      (fun _ _ _ => { h.session hinit with }) (fun cfgs s' hs' => tables_channels avail cfgs hs')
      (h.session hinit)
    refine ⟨fun _ => htables, fun hidle => ?_⟩
    rw [(sameSession_onDiscovery avail handle devType).isInitialized, hinit] at hidle
    cases hidle
  | viewLidar sock pointPort imuPort =>
    simp only [step, Option.ite_none_right_eq_some, Option.some.injEq, Bool.and_eq_true] at hs
    obtain ⟨⟨hserves, -⟩, rfl⟩ := hs
    have hinit := h.tables_of_serves hserves
    refine ⟨fun _ => andThen_keeps (tables_view avail _ _ (h.session hinit)) (tables_view avail _),
      fun hidle => ?_⟩
    rw [(sameSession_viewDataChannel avail pointPort imuPort).isInitialized, hinit] at hidle
    cases hidle

/-- Behind an `Init` that failed there is a session with a channel that was handed to none of its
loops. -/
theorem channel_not_served : ∃ (tr : List (DeviceManager × ApiEvent)) (s : DeviceManager) (sock : Sock),
    Run (step demoAvail) (fun _ _ => True) .init tr s ∧ s.isInitialized = true ∧
      s.channelInfo (channelKey demoCfg.hostNetInfo.hostIp demoCfg.hostNetInfo.pointDataPort) =
        some sock ∧ sock ∉ s.delegates := by
  have hsome : ((exec (step demoAvail) .init demoEvents).any fun s =>
      s.isInitialized && (s.channelInfo (channelKey demoCfg.hostNetInfo.hostIp
        demoCfg.hostNetInfo.pointDataPort)).any (· ∉ s.delegates)) = true := by decide +kernel
  obtain ⟨s, hs, htest⟩ := (Option.any_eq_true _ _).mp hsome
  rw [Bool.and_eq_true] at htest
  obtain ⟨sock, hsock, hnot⟩ := (Option.any_eq_true _ _).mp htest.2
  obtain ⟨tr, -, hrun⟩ := Run.of_exec hs
  exact ⟨tr, s, sock, hrun, htest.1, hsock, of_decide_eq_true hnot⟩

end Tables

/-! ### The broadcast sockets -/

section Broadcast

/-- Every call of `CreateSocket` succeeds. -/
abbrev allAvail : ℕ → Bool := fun _ => true

/-- What was called in `s` succeeded and opened `n` broadcast sockets. -/
def Opened (s : DeviceManager) (n : ℕ) (r : DeviceManager × Bool) : Prop :=
  r.2 = true ∧ r.1.vecBroadcastSocket.length = s.vecBroadcastSocket.length + n

variable {s s' : DeviceManager} {n m : ℕ} {r : DeviceManager × Bool}
  {f : DeviceManager → DeviceManager × Bool}

theorem Opened.andThen (h : Opened s n r) (hf : ∀ s, Opened s m (f s)) :
    Opened s (n + m) (andThen r f) := by
  obtain ⟨hr, hn⟩ := h
  obtain ⟨hfr, hm⟩ := hf r.1
  unfold DeviceManager.andThen
  rw [if_pos hr]
  exact ⟨hfr, by omega⟩

theorem Opened.andWhen {cond : Bool} (h : Opened s n r) (hf : ∀ s, Opened s m (f s)) :
    Opened s (n + if cond then m else 0) (andWhen r cond f) := by
  refine h.andThen fun s => ?_
  cases cond with
  | true => exact hf s
  | false => exact ⟨rfl, rfl⟩

theorem opened_data (hostIp : List Char) (port : UInt16) (multicastIp : List Char)
    (s : DeviceManager) :
    Opened s 0 (createDataSocketAndAddDelegate allAvail hostIp port multicastIp s) := by
  rcases createDataSocket_cases allAvail hostIp multicastIp port s with
    heq | ⟨hfail, -⟩ | ⟨-, -, heq⟩
  · exact heq ▸ ⟨rfl, rfl⟩
  · cases hfail
  · exact heq ▸ ⟨rfl, rfl⟩

theorem opened_cmd (hostIp : List Char) (port : UInt16) (s : DeviceManager) :
    Opened s 0 (createCmdSocketAndAddDelegate allAvail hostIp port s) := by
  rcases createCmdSocket_cases allAvail hostIp port s with
    heq | ⟨_, -, heq⟩ | ⟨hfail, -⟩ | ⟨-, -, heq⟩
  · exact heq ▸ ⟨rfl, rfl⟩
  · exact heq ▸ ⟨rfl, rfl⟩
  · cases hfail
  · exact heq ▸ ⟨rfl, rfl⟩

theorem opened_broadcast (port : UInt16) (s : DeviceManager) :
    Opened s 1 (createBroadcastSocket allAvail port s) := by
  rcases createBroadcastSocket_cases allAvail port s with ⟨hfail, -⟩ | ⟨-, heq⟩
  · cases hfail
  · exact heq ▸ ⟨rfl, List.length_append⟩

theorem Opened.andWhen_none {cond : Bool} (h : Opened s n r) (hf : ∀ s, Opened s 0 (f s)) :
    Opened s n (DeviceManager.andWhen r cond f) := by
  have hall : Opened s (n + if cond then 0 else 0) (DeviceManager.andWhen r cond f) := h.andWhen hf
  rwa [ite_self, Nat.add_zero] at hall

theorem opened_commandChannel (devType : UInt8) (host : HostNetInfo) (s : DeviceManager) :
    Opened s (if isMid360 devType then 1 else 0) (createCommandChannel allAvail devType host s) := by
  unfold createCommandChannel
  refine Opened.andWhen_none ?_ (opened_cmd _ _)
  rw [← Nat.zero_add (if isMid360 devType then 1 else 0)]
  refine Opened.andWhen (Opened.andWhen_none ?_ (opened_cmd _ _)) (opened_broadcast _)
  have hstart : Opened s 0 (s, true) := ⟨rfl, rfl⟩
  exact (hstart.andWhen_none (opened_cmd _ _)).andThen (opened_cmd _ _)

/-- The channels of a lidar have one broadcast socket, if it is a Mid-360. -/
theorem opened_channels : ∀ (cfgs : List LivoxLidarCfg) (s : DeviceManager),
    Opened s (cfgs.countP fun cfg => isMid360 cfg.deviceType) (createChannels allAvail cfgs s)
  | [], s => ⟨rfl, rfl⟩
  | cfg :: cfgs, s => by
    have hdata : Opened s 0 (createDataChannel allAvail cfg.hostNetInfo s) :=
      ((opened_data _ _ _ s).andThen (opened_data _ _ _)).andThen (opened_data _ _ _)
    have hall := (hdata.andThen (opened_commandChannel cfg.deviceType cfg.hostNetInfo)).andThen
      (opened_channels cfgs)
    rw [Nat.zero_add, Nat.add_comm, ← List.countP_cons] at hall
    exact hall

/-- The broadcast sockets of a session of lidars that were all discovered. -/
structure Triangular (s : DeviceManager) : Prop where
  types : ∀ devType cfg, s.typeLidarsCfgMap devType = some cfg → isMid360 cfg.deviceType = true
  lidars : ∀ cfg ∈ s.customLidarsCfg, isMid360 cfg.deviceType = true
  count : 2 * s.vecBroadcastSocket.length =
    s.customLidarsCfg.length * (s.customLidarsCfg.length + 1)

/-- The lidars are Mid-360s and are all discovered. -/
def DiscoversMid360 : ApiEvent → Prop
  | .initCfg lidars customs _ _ => customs = [] ∧ ∀ cfg ∈ lidars, isMid360 cfg.deviceType = true
  | .initView _ _ | .viewLidar _ _ _ => False
  | _ => True

/-- The creation of channels does not change the configurations. -/
theorem sameCfg_channels (avail : ℕ → Bool) (cfgs : List LivoxLidarCfg) (s : DeviceManager) :
    (createChannels avail cfgs s).1.typeLidarsCfgMap = s.typeLidarsCfgMap ∧
      (createChannels avail cfgs s).1.customLidarsCfg = s.customLidarsCfg := by
  refine createChannels_keeps
    (P := fun s' => s'.typeLidarsCfgMap = s.typeLidarsCfgMap ∧ s'.customLidarsCfg = s.customLidarsCfg)
    (fun hostIp port multicastIp s' h => ?_) (fun hostIp port s' h => ?_) (fun port s' h => ?_) cfgs
    ⟨rfl, rfl⟩
  · rcases createDataSocket_cases avail hostIp multicastIp port s' with
      heq | ⟨-, heq⟩ | ⟨-, -, heq⟩ <;> exact heq ▸ h
  · rcases createCmdSocket_cases avail hostIp port s' with
      heq | ⟨_, -, heq⟩ | ⟨-, heq⟩ | ⟨-, -, heq⟩ <;> exact heq ▸ h
  · rcases createBroadcastSocket_cases avail port s' with ⟨-, heq⟩ | ⟨-, heq⟩ <;> exact heq ▸ h

instance : (e : ApiEvent) → Decidable (DiscoversMid360 e)
  | .initCfg _ _ _ _ => inferInstanceAs (Decidable (_ ∧ _))
  | .initView _ _ | .viewLidar _ _ _ => inferInstanceAs (Decidable False)
  | .uninit | .discovery _ _ _ => inferInstanceAs (Decidable True)

theorem triangular_discovery (h : Triangular s) (handle : UInt32) (devType : UInt8) :
    Triangular (onDiscovery allAvail handle devType s) := by
  unfold onDiscovery
  split
  · exact h
  split
  · exact h
  · rename_i cfg hcfg
    simp only
    have hmid : isMid360 cfg.deviceType = true := h.types devType cfg hcfg
    obtain ⟨htypes, hcfgs⟩ := sameCfg_channels allAvail
      (s.addLidar handle devType cfg).customLidarsCfg (s.addLidar handle devType cfg)
    obtain ⟨-, hopened⟩ := opened_channels (s.addLidar handle devType cfg).customLidarsCfg
      (s.addLidar handle devType cfg)
    have hlidars : ∀ c ∈ (s.addLidar handle devType cfg).customLidarsCfg,
        isMid360 c.deviceType = true := by
      intro c hc
      rcases List.mem_append.mp hc with hc | hc
      · exact h.lidars c hc
      · rw [List.mem_singleton.mp hc]
        exact hmid
    have hlength : (s.addLidar handle devType cfg).customLidarsCfg.length =
      s.customLidarsCfg.length + 1 := List.length_append
    have hvec : (s.addLidar handle devType cfg).vecBroadcastSocket = s.vecBroadcastSocket := rfl
    refine ⟨fun devType' cfg' hcfg' => ?_, fun c hc => hlidars c (hcfgs ▸ hc), ?_⟩
    · rw [htypes, addLidar] at hcfg'
      by_cases hdev : devType' = devType
      · subst hdev
        simp only [Function.update_self, Option.some.injEq] at hcfg'
        exact hcfg' ▸ hmid
      · simp only [Function.update_of_ne hdev] at hcfg'
        exact h.types devType' cfg' hcfg'
    · rw [hopened, hcfgs, List.countP_eq_length.mpr hlidars, hlength, hvec, Nat.mul_add, h.count,
        ← Nat.add_mul, Nat.mul_comm]

/-- Without a session there are no lidars and no broadcast sockets. -/
structure BroadcastInv (s : DeviceManager) : Prop where
  triangular : Triangular s
  idle : s.isInitialized = false → s.vecBroadcastSocket = [] ∧ ∀ devType, s.typeLidarsCfgMap devType = none

theorem typeMap_mid360 : ∀ (lidars : List LivoxLidarCfg) (table : UInt8 → Option LivoxLidarCfg),
    (∀ devType cfg, table devType = some cfg → isMid360 cfg.deviceType = true) →
    (∀ cfg ∈ lidars, isMid360 cfg.deviceType = true) → ∀ devType cfg,
      lidars.foldl (fun (m : UInt8 → Option LivoxLidarCfg) cfg =>
        Function.update m cfg.deviceType (some cfg)) table devType = some cfg →
        isMid360 cfg.deviceType = true
  | [], _, htable, _, devType, cfg, hcfg => htable devType cfg hcfg
  | lidar :: lidars, table, htable, hlidars, devType, cfg, hcfg => by
    refine typeMap_mid360 lidars _ (fun t c hc => ?_)
      (fun c hc => hlidars c (List.mem_cons_of_mem _ hc)) devType cfg hcfg
    change Function.update table lidar.deviceType (some lidar) t = some c at hc
    by_cases ht : t = lidar.deviceType
    · subst ht
      rw [Function.update_self, Option.some.injEq] at hc
      exact hc ▸ hlidars lidar List.mem_cons_self
    · rw [Function.update_of_ne ht] at hc
      exact htable t c hc

theorem broadcastInv_initCfg {lidars : List LivoxLidarCfg} (masterSdk logEnable : Bool)
    (h : BroadcastInv s) (hlidars : ∀ cfg ∈ lidars, isMid360 cfg.deviceType = true) :
    BroadcastInv
      (if s.isInitialized then s else (initCfg allAvail lidars [] masterSdk logEnable s).1) := by
  cases hinit : s.isInitialized with
  | true => exact h
  | false =>
    obtain ⟨hvec, htypes⟩ := h.idle hinit
    simp only [Bool.false_eq_true, if_false]
    unfold initCfg
    rcases Option.eq_none_or_eq_some (detectionCfg lidars []) with hcfg | ⟨cfg, hcfg⟩
    · simp only [hcfg]
      refine ⟨⟨h.triangular.types, fun c hc => absurd hc List.not_mem_nil, ?_⟩,
        fun _ => ⟨hvec, htypes⟩⟩
      simp only [hvec]
      rfl
    · simp only [hcfg]
      rcases createDetectionChannel_cases allAvail (prepareCfg lidars [] masterSdk logEnable cfg s)
        with ⟨hfail, -⟩ | ⟨-, hfail, -⟩ | ⟨-, -, s', heq, rfl⟩
      · cases hfail
      · cases hfail
      · simp only [openSession, heq, DeviceManager.andThen, createChannels, started, if_true]
        refine ⟨⟨typeMap_mid360 lidars _ h.triangular.types hlidars,
          fun c hc => absurd hc List.not_mem_nil, ?_⟩, fun hidle => by cases hidle⟩
        change 2 * s.vecBroadcastSocket.length = _
        rw [hvec]
        rfl

/-- **The broadcast sockets grow with the square of the lidars.** As long as every call of
`CreateSocket` succeeds each discovery opens one for each Mid-360 that is known, so a session that
has discovered `n` of them has `n (n + 1) / 2`; from the tenth lidar on they are more than a loop
takes. -/
theorem broadcast_sockets {tr : List (DeviceManager × ApiEvent)}
    (h : Run (step allAvail) (fun _ e => DiscoversMid360 e) .init tr s) :
    2 * s.vecBroadcastSocket.length = s.customLidarsCfg.length * (s.customLidarsCfg.length + 1) ∧
      (10 ≤ s.customLidarsCfg.length → openMaxPoll < s.vecBroadcastSocket.length) := by
  have hinv : BroadcastInv s := by
    refine h.invariant (P := fun _ s => BroadcastInv s) ?_ fun _ s e s' ih hok hs => ?_
    · exact ⟨⟨fun _ _ hcfg => (by cases hcfg), fun _ hc => absurd hc List.not_mem_nil, rfl⟩,
        fun _ => ⟨rfl, fun _ => rfl⟩⟩
    · cases e with
      | initCfg lidars customs masterSdk logEnable =>
        obtain ⟨rfl, hlidars⟩ := hok
        obtain rfl := Option.some.inj hs
        exact broadcastInv_initCfg masterSdk logEnable ih hlidars
      | initView hostIp logEnable => exact hok.elim
      | uninit =>
        obtain rfl := Option.some.inj hs
        cases hinit : s.isInitialized with
        | false => exact ih
        | true =>
          exact ⟨⟨fun _ _ hcfg => (by cases hcfg), fun _ hc => absurd hc List.not_mem_nil, rfl⟩,
            fun _ => ⟨rfl, fun _ => rfl⟩⟩
      | discovery sock handle devType =>
        simp only [step, Option.ite_none_right_eq_some, Option.some.injEq] at hs
        obtain ⟨-, rfl⟩ := hs
        refine ⟨triangular_discovery ih.triangular handle devType, fun hidle => ?_⟩
        rw [(sameSession_onDiscovery allAvail handle devType).isInitialized] at hidle
        have hnone := (ih.idle hidle).2 devType
        unfold onDiscovery
        split
        · exact ih.idle hidle
        · rw [hnone]
          exact ih.idle hidle
      | viewLidar sock pointPort imuPort => exact hok.elim
  refine ⟨hinv.triangular.count, fun hten => ?_⟩
  have hcount := hinv.triangular.count
  have hmul : 10 * 11 ≤ s.customLidarsCfg.length * (s.customLidarsCfg.length + 1) :=
    Nat.mul_le_mul hten (Nat.succ_le_succ hten)
  unfold openMaxPoll
  omega

theorem broadcast_sockets_demo : ∃ (s : DeviceManager), s.customLidarsCfg.length = 3 ∧
    2 * s.vecBroadcastSocket.length = s.customLidarsCfg.length * (s.customLidarsCfg.length + 1) := by
  have hsome : ((exec (fun s e => if decide (DiscoversMid360 e) then step allAvail s e else none)
      .init (.initCfg [demoCfg] [] true true ::
        [1, 2, 3].map fun handle => .discovery 1 handle kLivoxLidarTypeMid360)).any
          fun s => s.customLidarsCfg.length == 3) = true := by decide +kernel
  obtain ⟨s, hs, htest⟩ := (Option.any_eq_true _ _).mp hsome
  obtain ⟨tr, -, hrun⟩ := Run.of_exec_test (fun _ _ => of_decide_eq_true) hs
  exact ⟨s, beq_iff_eq.mp htest, (broadcast_sockets hrun).1⟩

end Broadcast

end DeviceManager

end DeviceChannels
end Livox
end SensorSupport
