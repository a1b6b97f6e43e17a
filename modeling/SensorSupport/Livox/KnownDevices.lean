/-
# Which lidars are known (`command_handler/general_command_handler.cpp`)

A lidar comes into `devices_` when it is detected for the first time. `LivoxLidarInfoChange`
looks whether it finds the lidar, but has marked it as configured before it looks, with the
operator that inserts: the ack of a configuration from an address that was never detected adds
a lidar without a type and a serial number, and reports it to the user.

`devicesKnown_iff` says of every run that only detections make lidars known exactly if no such
ack comes.

Key definitions: `DetectedBy`, `infoChange`, `DevicesKnown`, `AnswersKnown`.
Key theorems: `queryFwTypeCallback_val`, `updateLidarCallback_val`, `next_cases`,
`devicesKnown_iff`, `devicesKnown_strayAck`.
-/
import SensorSupport.Livox.DetectionPayload

namespace SensorSupport
namespace Livox
namespace DetectedLidars

open CommPort BuildRequest

/-! ### What is to hold -/

/-- A detection of the lidar with a `ret_code` of 0 is handled. -/
def DetectedBy (crc : FastCRC) (handle : UInt32) (e : Event AckCallback) : Prop :=
  ∃ d packet data, e = .receive d ∧ d.handle = handle ∧ packetOf crc d = some packet ∧
    IsDetection d packet ∧ packet.cmdType ≠ kCommandTypeCmd ∧ packet.data = some data ∧
    packet.dataLen ≠ 0 ∧ data.mem data.off = 0

/-- The lidar is reported in a detection, as one that is in loader mode. -/
def loading (s : DetectedLidars) (handle : UInt32) (devType : UInt8) : Bool :=
  (s.devices handle).any fun device =>
    device.isGetLoaderMode && device.isLoaderMode && handle ≠ 0 &&
      (s.isView || (s.lidarsDevType handle).all (· = devType))

/-- A detection is passed on to `LivoxLidarInfoChange`. -/
def detectionReports (s : DetectedLidars) (handle : UInt32) (packet : CommPacket) : Bool :=
  packet.dataLen ≠ 0 && packet.data.any fun data =>
    (payloadByte data 0).val = 0 && s.verifyNetSegment (payloadBytes data 18 4).val &&
      s.loading handle (payloadByte data 1).val

/-- The firmware type that `QueryFwTypeCallback` takes over, when the query is successful. -/
def fwTypeOf (status : Status) (response : Option Ptr) : Option UInt8 :=
  response.bind fun response =>
    if status = .success ∧ (payloadByte response 0).val = 0 ∧
        (payloadU16 response 3).val = kKeyFwType ∧ (payloadU16 response 5).val = 1 then
      some (payloadByte response 7).val
    else none

/-- The ack of a command is passed on to `LivoxLidarInfoChange`. -/
def ackReports (cb : AckCallback) (response : Option Ptr) : Bool :=
  match cb, response with
  | .updateLidar devType, some response =>
    (payloadByte response 0).val = 0 && (payloadU16 response 1).val = 0 ||
      devType = kLivoxLidarTypeIndustrialHAP
  | _, _ => false

/-- The lidar that a step calls `LivoxLidarInfoChange` for. -/
def infoChange (crc : FastCRC) (s : DetectedLidars) : Event AckCallback → Option UInt32
  | .receive d =>
    match packetOf crc d with
    | none => none
    | some packet =>
      if IsDetection d packet then
        if packet.cmdType ≠ kCommandTypeCmd ∧ s.detectionReports d.handle packet then some d.handle
        else none
      else if (s.acked crc d).any fun c => ackReports c.cb packet.data then some d.handle
      else none
  | _ => none

/-- Only lidars are known that were detected, and `LivoxLidarInfoChange` of another one
neither makes it known nor reports it. -/
structure DevicesKnown (crc : FastCRC) (tr : List (DetectedLidars × Event AckCallback))
    (s : DetectedLidars) : Prop where
  detected : ∀ handle, s.devices handle ≠ none → ∃ x ∈ tr, DetectedBy crc handle x.2
  unknown : ∀ x ∈ tr, ∀ s' handle, next crc x.1 x.2 = some s' →
    infoChange crc x.1 x.2 = some handle → x.1.devices handle = none →
      s'.devices = x.1.devices ∧ s'.reported = x.1.reported

/-- What is passed on to `LivoxLidarInfoChange` is from a lidar that is known. -/
def AnswersKnown (crc : FastCRC) (s : DetectedLidars) (e : Event AckCallback) : Prop :=
  ∀ handle, infoChange crc s e = some handle → s.devices handle ≠ none

/-! ### What a step does -/

/-- The step calls `LivoxLidarInfoChange` when nothing else has changed yet. -/
def Informs (s : DetectedLidars) (handle : UInt32) (s' : DetectedLidars) : Prop :=
  ∃ s₁ : DetectedLidars, s₁.devices = s.devices ∧ s₁.reported = s.reported ∧
    s' = (s₁.livoxLidarInfoChange handle).val

/-- `is_update_cfg` of a lidar -/
def isUpdateCfg (s : DetectedLidars) (handle : UInt32) : Bool :=
  (s.devices handle).any DeviceInfo.isUpdateCfg

/-- The step marks and reports nothing, and only a new one of `new` comes to the known lidars. -/
structure Quiet (s : DetectedLidars) (new : UInt32 → Prop) (s' : DetectedLidars) : Prop where
  reported : s'.reported = s.reported
  devices : ∀ handle, s'.devices handle ≠ none → s.devices handle ≠ none ∨ new handle
  updated : ∀ handle, s'.isUpdateCfg handle = s.isUpdateCfg handle

section Steps

variable {crc : FastCRC} {s s' : DetectedLidars} {handle : UInt32} {new : UInt32 → Prop}

theorem isUpdateCfg_congr {handle' : UInt32} (h : s'.devices handle' = s.devices handle') :
    s'.isUpdateCfg handle' = s.isUpdateCfg handle' := congrArg (Option.any DeviceInfo.isUpdateCfg) h

theorem Quiet.of_eq (hdevices : s'.devices = s.devices) (hreported : s'.reported = s.reported) :
    Quiet s new s' :=
  ⟨hreported, fun _ h => .inl (hdevices ▸ h), fun _ => isUpdateCfg_congr (by rw [hdevices])⟩

theorem setDevice_of_ne {device : DeviceInfo} {handle' : UInt32} (h : handle' ≠ handle) :
    (s.setDevice handle device).devices handle' = s.devices handle' := Function.update_of_ne h _ _

theorem setDevice_self {device : DeviceInfo} :
    (s.setDevice handle device).devices handle = some device := Function.update_self ..

/-- One lidar is written. -/
theorem setDevice_quiet {device : DeviceInfo} (h : s.devices handle ≠ none ∨ new handle)
    (hupdated : device.isUpdateCfg = s.isUpdateCfg handle) :
    Quiet s new (s.setDevice handle device) := by
  refine ⟨rfl, fun handle' h' => ?_, fun handle' => ?_⟩
  · by_cases heq : handle' = handle
    · exact heq ▸ h
    · exact .inl (setDevice_of_ne heq ▸ h')
  · by_cases heq : handle' = handle
    · subst heq
      rw [← hupdated]
      unfold isUpdateCfg
      rw [setDevice_self, Option.any_some]
    · exact isUpdateCfg_congr (setDevice_of_ne heq)

theorem updateFwType_quiet (fwType : UInt8) : Quiet s new (s.updateFwType handle fwType) := by
  unfold updateFwType
  cases hdevice : s.devices handle with
  | none => exact .of_eq rfl rfl
  | some device =>
    have hknown : s.devices handle ≠ none := by
      rw [hdevice]
      exact Option.some_ne_none device
    refine setDevice_quiet (.inl hknown) ?_
    unfold isUpdateCfg
    rw [hdevice, Option.any_some]

/-- `LivoxLidarInfoChange` marks its lidar, and reports it the first time. -/
theorem livoxLidarInfoChange_val (s : DetectedLidars) (handle : UInt32) :
    let device := (s.devices handle).getD .new
    let marked := s.setDevice handle { device with isUpdateCfg := true, isCallback := true }
    (s.livoxLidarInfoChange handle).val = { marked with
      reported := if device.isCallback then s.reported
        else s.reported ++ [(handle, ⟨device.devType, device.sn, device.lidarIp⟩)] } := by
  unfold livoxLidarInfoChange
  simp only [Traced.val_bind, Traced.val_ite, Traced.val_pure]
  split <;> rfl

/-- `LivoxLidarInfoChange` makes its lidar known. -/
theorem Informs.known (h : Informs s handle s') : s'.devices handle ≠ none := by
  obtain ⟨s₁, -, -, rfl⟩ := h
  rw [livoxLidarInfoChange_val]
  dsimp only
  rw [setDevice_self]
  exact Option.some_ne_none _

/-- It makes no other lidar known. -/
theorem Informs.others (h : Informs s handle s') {handle' : UInt32} (hne : handle' ≠ handle) :
    s'.devices handle' = s.devices handle' := by
  obtain ⟨s₁, hdevices, -, rfl⟩ := h
  rw [livoxLidarInfoChange_val]
  dsimp only
  rw [setDevice_of_ne hne, hdevices]

/-- It reports no other lidar. -/
theorem Informs.reports (h : Informs s handle s') :
    ∀ r ∈ s'.reported, r ∈ s.reported ∨ r.1 = handle := by
  obtain ⟨s₁, -, hreported, rfl⟩ := h
  rw [livoxLidarInfoChange_val, ← hreported]
  dsimp only
  split
  · exact fun r hr => .inl hr
  · intro r hr
    rcases List.mem_append.mp hr with hr | hr
    · exact .inl hr
    · obtain rfl := List.mem_singleton.mp hr
      exact .inr rfl

/-- What a handler does to the lidars that is told whether it reports its lidar. -/
def InformsIf (s : DetectedLidars) (reports : Bool) (handle : UInt32) (new : UInt32 → Prop)
    (s' : DetectedLidars) : Prop :=
  if reports then Informs s handle s' else Quiet s new s'

theorem InformsIf.of_informs {reports : Bool} (h : Informs s handle s') (hreports : reports = true) :
    InformsIf s reports handle new s' := by
  unfold InformsIf
  rwa [if_pos hreports]

theorem InformsIf.of_quiet {reports : Bool} (h : Quiet s new s') (hreports : reports = false) :
    InformsIf s reports handle new s' := by
  unfold InformsIf
  rwa [if_neg (Bool.eq_false_iff.mp hreports)]

/-- Nothing of the lidars was changed before. -/
theorem InformsIf.of_eq {s₁ : DetectedLidars} {reports : Bool} (h : InformsIf s₁ reports handle new s')
    (hdevices : s₁.devices = s.devices) (hreported : s₁.reported = s.reported) :
    InformsIf s reports handle new s' := by
  cases reports with
  | true =>
    obtain ⟨s₂, hdevices₂, hreported₂, rfl⟩ := h
    exact ⟨s₂, hdevices₂.trans hdevices, hreported₂.trans hreported, rfl⟩
  | false =>
    exact ⟨h.reported.trans hreported, fun handle' h' => hdevices ▸ h.devices handle' h',
      fun handle' => (h.updated handle').trans (isUpdateCfg_congr (by rw [hdevices]))⟩

/-- The lidar is reported if it is in loader mode. -/
theorem informsIf_ite (loading : Bool) : InformsIf s loading handle new
    (if loading then s.livoxLidarInfoChange handle else pure s).val := by
  cases loading with
  | true => exact .of_informs ⟨s, rfl, rfl, rfl⟩ rfl
  | false => exact .of_quiet (.of_eq rfl rfl) rfl

/-- A known lidar is detected again. -/
theorem deviceManagerDetection_informsIf {device : DeviceInfo} (hdevice : s.devices handle = some device)
    (devType : UInt8) : InformsIf s (s.loading handle devType) handle new
      (s.deviceManagerDetection handle devType device).val := by
  unfold loading
  rw [hdevice, Option.any_some]
  unfold deviceManagerDetection
  dsimp only
  by_cases h0 : handle = 0
  · rw [if_pos h0]
    exact .of_quiet (.of_eq rfl rfl) (by simp [h0])
  rw [if_neg h0]
  cases hview : s.isView with
  | true => simpa [h0] using informsIf_ite (device.isGetLoaderMode && device.isLoaderMode)
  | false =>
    cases hdev : s.lidarsDevType handle with
    | none =>
      have hnoted : InformsIf { s with
          lidarsDevType := Function.update s.lidarsDevType handle (some devType) }
          (device.isGetLoaderMode && device.isLoaderMode) handle new _ := informsIf_ite _
      have hloading : InformsIf s _ handle new _ := hnoted.of_eq rfl rfl
      simpa [h0, hview] using hloading
    | some t =>
      by_cases ht : t = devType
      · simpa [h0, ht] using informsIf_ite (device.isGetLoaderMode && device.isLoaderMode)
      · simpa [h0, ht] using InformsIf.of_quiet (.of_eq rfl rfl) rfl

theorem createCommandHandler_loading {devType : UInt8}
    (h : s.createCommandHandler devType = some s') :
    s'.loading handle devType = s.loading handle devType := by
  unfold createCommandHandler at h
  split at h
  · cases h
  · obtain rfl := Option.some.inj h
    rfl

/-- The lidar of a detection is known from then on, when the program goes on. -/
theorem takeDetection_informsIf {devType : UInt8} {sn lidarIp : List UInt8} (hnew : new handle)
    (h : (s.takeDetection handle devType sn lidarIp).val = some s') :
    InformsIf s (s.verifyNetSegment lidarIp && s.loading handle devType) handle new s' := by
  unfold takeDetection at h
  cases hverify : s.verifyNetSegment lidarIp with
  | false =>
    rw [hverify, if_neg Bool.false_ne_true] at h
    obtain rfl := Option.some.inj h
    exact .of_quiet (.of_eq rfl rfl) rfl
  | true =>
    rw [hverify, if_pos rfl] at h
    rw [Bool.true_and]
    cases hcreated : s.createCommandHandler devType with
    | none =>
      rw [hcreated] at h
      cases h
    | some s₁ =>
      rw [hcreated] at h
      obtain ⟨hdevices, hreported⟩ := createCommandHandler_devices hcreated
      dsimp only at h
      rw [← createCommandHandler_loading hcreated]
      refine InformsIf.of_eq (?_ : InformsIf s₁ _ handle new s') hdevices hreported
      cases hdevice : s₁.devices handle with
      | some device =>
        rw [hdevice] at h
        obtain rfl := Option.some.inj h
        exact deviceManagerDetection_informsIf hdevice devType
      | none =>
        rw [hdevice] at h
        obtain rfl := getFirmwareType_eq h
        refine .of_quiet ?_ (by simp [loading, hdevice])
        have hquiet : Quiet s₁ new (s₁.setDevice handle
            ⟨sn, ipText lidarIp, devType, false, false, false, false⟩) :=
          setDevice_quiet (.inr hnew) (by simp [isUpdateCfg, hdevice])
        exact ⟨rfl, hquiet.devices, hquiet.updated⟩

theorem handleDetectionData_informsIf {packet : CommPacket}
    (hnew : ∀ data, packet.data = some data → packet.dataLen ≠ 0 → data.mem data.off = 0 →
      new handle) (h : (s.handleDetectionData handle packet).val = some s') :
    InformsIf s (s.detectionReports handle packet) handle new s' := by
  unfold handleDetectionData at h
  unfold detectionReports
  cases hdata : packet.data with
  | none =>
    rw [hdata] at h
    obtain rfl := Option.some.inj h
    exact .of_quiet (.of_eq rfl rfl) (by simp)
  | some data =>
    rw [hdata] at h
    dsimp only at h
    by_cases hlen : packet.dataLen = 0
    · rw [if_pos hlen] at h
      obtain rfl := Option.some.inj h
      exact .of_quiet (.of_eq rfl rfl) (by simp [hlen])
    · rw [if_neg hlen, Traced.val_bind] at h
      by_cases hret : data.mem data.off = 0
      · have hzero : ¬ (payloadByte data 0).val ≠ 0 := not_not.mpr hret
        rw [if_neg hzero] at h
        simpa [hlen, hret, payloadByte] using
          takeDetection_informsIf (hnew data hdata hlen hret) h
      · have hfailed : (payloadByte data 0).val ≠ 0 := hret
        rw [if_pos hfailed] at h
        obtain rfl := Option.some.inj h
        exact .of_quiet (.of_eq rfl rfl) (by simp [hret, payloadByte])

/-- `QueryFwTypeCallback` gives up, counts a failure or takes the type over. -/
theorem queryFwTypeCallback_val (s : DetectedLidars) (handle : UInt32) (status : Status)
    (response : Option Ptr) : (s.queryFwTypeCallback handle status response).val =
      if 10 < s.count then { s.updateFwType handle 1 with count := 0 }
      else
        match fwTypeOf status response with
        | none => s.fwTypeFailed
        | some fwType => { s.updateFwType handle fwType with count := 0 } := by
  unfold queryFwTypeCallback fwTypeOf
  by_cases hcount : 10 < s.count
  · rw [if_pos hcount, if_pos hcount]
    rfl
  rw [if_neg hcount, if_neg hcount]
  by_cases hstatus : status = .success
  swap
  · cases response <;> simp [hstatus]
  cases response with
  | none => simp
  | some response =>
    by_cases hret : (payloadByte response 0).val = 0
    swap
    · simp [hret]
    by_cases hkey : (payloadU16 response 3).val = kKeyFwType
    swap
    · simp [hkey, hret, hstatus]
    by_cases hlength : (payloadU16 response 5).val = 1
    swap
    · simp [hlength, hkey, hret, hstatus]
    simp only [hstatus, hret, hkey, hlength, ne_eq, not_true_eq_false, if_false, Traced.val_bind,
      and_self, if_true, Option.bind_some]
    rfl

/-- `UpdateLidarCallback` reports the lidar or does nothing. -/
theorem updateLidarCallback_val (s : DetectedLidars) (devType : UInt8) (handle : UInt32)
    (status : Status) (response : Option Ptr) :
    (s.updateLidarCallback devType handle status response).val =
      (if status = .success && ackReports (.updateLidar devType) response then
        s.livoxLidarInfoChange handle else pure s).val := by
  unfold updateLidarCallback ackReports
  by_cases hstatus : status = .success
  swap
  · simp [hstatus]
  cases response with
  | none => simp
  | some response =>
    simp only [hstatus, ne_eq, not_true_eq_false, if_false, Traced.val_bind, Traced.val_ite,
      decide_true, Bool.true_and]
    by_cases haccepted : (payloadByte response 0).val = 0 ∧ (payloadU16 response 1).val = 0
    · rw [if_pos haccepted, if_pos (by simp [haccepted])]
    · rw [if_neg haccepted]
      by_cases hHap : devType = kLivoxLidarTypeIndustrialHAP
      · rw [if_pos hHap, if_pos (by simp [hHap])]
      · rw [if_neg hHap, if_neg (by simpa [hHap] using haccepted)]

/-- What the callbacks of acks do. -/
theorem runCallback_informsIf (cb : Callback AckCallback) :
    InformsIf s (cb.status = .success && ackReports cb.command.cb cb.data) cb.handle new
      (s.runCallback cb).val := by
  unfold runCallback
  cases hcb : cb.command.cb with
  | other => exact .of_quiet (.of_eq rfl rfl) (Bool.and_false _)
  | queryFwType =>
    refine .of_quiet ?_ (Bool.and_false _)
    dsimp only
    rw [queryFwTypeCallback_val]
    split
    · have hquiet : Quiet s new (s.updateFwType cb.handle 1) := updateFwType_quiet 1
      exact ⟨hquiet.reported, hquiet.devices, hquiet.updated⟩
    · split
      · exact .of_eq rfl rfl
      · rename_i fwType _
        have hquiet : Quiet s new (s.updateFwType cb.handle fwType) := updateFwType_quiet fwType
        exact ⟨hquiet.reported, hquiet.devices, hquiet.updated⟩
  | updateLidar devType =>
    dsimp only
    rw [updateLidarCallback_val]
    exact informsIf_ite _

/-- Callbacks without a response report nothing. -/
theorem runCallbacks_quiet : ∀ (cbs : List (Callback AckCallback)) (s : DetectedLidars),
    (∀ cb ∈ cbs, cb.data = none) → Quiet s new (runCallbacks cbs s).val
  | [], _, _ => .of_eq rfl rfl
  | cb :: cbs, s, hnone => by
    have hcb : Quiet s new (s.runCallback cb).val := by
      have hinforms : InformsIf s _ cb.handle new _ := runCallback_informsIf cb
      have hno : (decide (cb.status = .success) && ackReports cb.command.cb cb.data) = false := by
        rw [hnone cb List.mem_cons_self]
        cases cb.command.cb <;> exact Bool.and_false _
      rw [hno] at hinforms
      exact hinforms
    have hcbs := runCallbacks_quiet cbs (s.runCallback cb).val fun cb' h =>
      hnone cb' (List.mem_cons_of_mem _ h)
    exact ⟨hcbs.reported.trans hcb.reported,
      fun handle h => (hcbs.devices handle h).elim (hcb.devices handle) .inr,
      fun handle => (hcbs.updated handle).trans (hcb.updated handle)⟩

/-- What a datagram does. -/
theorem receive_cases {d : Datagram} (h : (s.receive crc d).val = some s') :
    match infoChange crc s (.receive d) with
    | some handle => Informs s handle s'
    | none => Quiet s (DetectedBy crc · (.receive d)) s' := by
  unfold infoChange
  dsimp only
  cases hpacket : packetOf crc d with
  | none =>
    unfold receive at h
    rw [hpacket] at h
    obtain rfl := Option.some.inj h
    exact .of_eq rfl rfl
  | some packet =>
    dsimp only
    by_cases hdet : IsDetection d packet
    · rw [if_pos hdet]
      unfold receive at h
      rw [hpacket] at h
      dsimp only at h
      rw [if_pos hdet] at h
      by_cases hcmd : packet.cmdType = kCommandTypeCmd
      · rw [if_neg fun h => h.1 hcmd]
        rw [if_pos hcmd] at h
        obtain rfl := Option.some.inj h
        exact .of_eq rfl rfl
      · rw [if_neg hcmd] at h
        have hinforms : InformsIf s _ d.handle (DetectedBy crc · (.receive d)) s' :=
          handleDetectionData_informsIf (fun data hdata hlen hret =>
            ⟨d, packet, data, rfl, rfl, hpacket, hdet, hcmd, hdata, hlen, hret⟩) h
        cases hreports : s.detectionReports d.handle packet with
        | true =>
          rw [if_pos ⟨hcmd, rfl⟩]
          rw [hreports] at hinforms
          exact hinforms
        | false =>
          rw [if_neg fun h => nomatch h.2]
          rw [hreports] at hinforms
          exact hinforms
    · rw [if_neg hdet]
      obtain ⟨s₁, hdevices, -, hreported, hreceive⟩ := receive_ack (s := s) hpacket hdet
      rw [hreceive] at h
      obtain rfl := Option.some.inj h
      cases hc : s.acked crc d with
      | none => exact .of_eq hdevices hreported
      | some c =>
        rw [show (some c).toList.map (fun c => (⟨c, .success, d.handle, packet.data⟩ :
          Callback AckCallback)) = [⟨c, .success, d.handle, packet.data⟩] from rfl,
          runCallbacks_singleton, Option.any_some]
        have hinforms : InformsIf s (ackReports c.cb packet.data) d.handle
            (DetectedBy crc · (.receive d)) _ :=
          (runCallback_informsIf (s := s₁) ⟨c, .success, d.handle, packet.data⟩).of_eq hdevices
            hreported
        cases hreports : ackReports c.cb packet.data with
        | true =>
          rw [hreports] at hinforms
          rw [if_pos rfl]
          exact hinforms
        | false =>
          rw [hreports] at hinforms
          rw [if_neg Bool.false_ne_true]
          exact hinforms

/-- What a step does to the lidars: it calls `LivoxLidarInfoChange` for one of them, or reports
nothing and makes only those known that it detects. -/
theorem next_cases {e : Event AckCallback} (h : next crc s e = some s') :
    match infoChange crc s e with
    | some handle => Informs s handle s'
    | none => Quiet s (DetectedBy crc · e) s' := by
  obtain ⟨t, ht, hs'⟩ := Option.bind_eq_some_iff.mp h
  by_cases hreceive : ∃ d, e = .receive d
  · obtain ⟨d, rfl⟩ := hreceive
    obtain rfl := Option.some.inj ht
    exact receive_cases hs'
  · have hne : ∀ d, e ≠ .receive d := fun d hd => hreceive ⟨d, hd⟩
    have hdetected : ∀ handle devType, e ≠ .detected handle devType := by
      rintro handle devType rfl
      cases ht
    have hnone : infoChange crc s e = none := by
      cases e with
      | receive d => exact absurd rfl (hne d)
      | _ => rfl
    rw [step_table hne hdetected] at ht
    obtain ⟨table, htable, rfl⟩ := Option.map_eq_some_iff.mp ht
    obtain rfl := Option.some.inj hs'
    obtain ⟨new, hnew, hdata⟩ := step_callbacks hne htable
    unfold runNewCallbacks
    rw [hnone, hnew, List.drop_left]
    have hquiet : Quiet _ (DetectedBy crc · e) _ :=
      runCallbacks_quiet new { s with table := table } hdata
    exact ⟨hquiet.reported, hquiet.devices, hquiet.updated⟩

/-- The lidars that a step makes known are those it detects, if it reports known ones only. -/
theorem next_detected {e : Event AckCallback} (h : next crc s e = some s')
    (hknown : AnswersKnown crc s e) (handle : UInt32) (h' : s'.devices handle ≠ none) :
    s.devices handle ≠ none ∨ DetectedBy crc handle e := by
  have hcases := next_cases h
  cases hinfo : infoChange crc s e with
  | none =>
    rw [hinfo] at hcases
    exact hcases.devices handle h'
  | some reported =>
    rw [hinfo] at hcases
    by_cases heq : handle = reported
    · exact .inl (heq ▸ hknown reported hinfo)
    · exact .inl (Informs.others hcases heq ▸ h')

/-- In a run that reports known lidars only, the lidars that are known were detected. -/
theorem run_detected {isView : Bool} {hostIp : List UInt8} {memory : ℕ}
    {tr : List (DetectedLidars × Event AckCallback)}
    (h : Run (next crc) (AnswersKnown crc) (init isView hostIp memory) tr s) :
    ∀ handle, s.devices handle ≠ none → ∃ x ∈ tr, DetectedBy crc handle x.2 := by
  induction h with
  | nil => exact fun _ h => absurd rfl h
  | snoc _ hknown hnext ih =>
    intro handle h'
    rcases next_detected hnext hknown handle h' with hbefore | hnow
    · obtain ⟨x, hx, hdetected⟩ := ih handle hbefore
      exact ⟨x, List.mem_append_left _ hx, hdetected⟩
    · exact ⟨_, List.mem_append_right _ (List.mem_singleton_self _), hnow⟩

end Steps

/-- **Only detections make lidars known exactly if only known lidars are reported**, in every
run: if no ack of a configuration that is reported comes from another address. -/
theorem devicesKnown_iff (crc : FastCRC) (isView : Bool) (hostIp : List UInt8) (memory : ℕ)
    (tr : List (DetectedLidars × Event AckCallback)) (s : DetectedLidars)
    (h : Run (next crc) (fun _ _ => True) (init isView hostIp memory) tr s) :
    DevicesKnown crc tr s ↔ ∀ x ∈ tr, AnswersKnown crc x.1 x.2 := by
  constructor
  · intro hknown x hx handle hinfo hnone
    obtain ⟨s', hs'⟩ := h.step_of_mem x hx
    have hcases := next_cases hs'
    rw [hinfo] at hcases
    apply Informs.known hcases
    rw [(hknown.unknown x hx s' handle hs' hinfo hnone).1, hnone]
  · intro hknown
    refine ⟨run_detected (h.of_forall hknown), fun x hx s' handle _ hinfo hnone => ?_⟩
    exact absurd hnone (hknown x hx handle hinfo)

/-- An ack from a lidar of the type Mid-360. -/
def ackDatagram (handle : UInt32) (lidarPort : UInt16) (seq : UInt32) (cmdId : UInt16)
    (payload : List UInt8) : Datagram :=
  let packet : CommPacket := ⟨kLidarSdk, 0, seq, cmdId, kCommandTypeAck, 1,
    some ⟨memOf payload, 0⟩, UInt16.ofNat payload.length⟩
  ⟨some kLivoxLidarTypeMid360, handle, lidarPort, packed FastCRC.standard (memOf []) packet,
    (wireLen packet).toUInt32⟩

/-- The lidar 7 is detected, answers that it has a firmware type of 1, is detected again and
sent its configuration; the ack with the number of that command comes from the lidar 8. -/
def strayAck : List (Event AckCallback) := [
  .receive (ackDatagram 7 kDetectionPort 0 kCommandIDLidarSearch mid360Data),
  .begin 7 0x0101 .queryFwType, .send 0 true, .add 0 0,
  .receive (ackDatagram 7 56100 2 0x0101 [0, 1, 0, 0x10, 0x80, 1, 0, 1]),
  .receive (ackDatagram 7 kDetectionPort 0 kCommandIDLidarSearch mid360Data),
  .config kLivoxLidarTypeMid360 7 0x0100 (.updateLidar kLivoxLidarTypeMid360), .register 1 0,
  .send 1 true,
  .receive (ackDatagram 8 56100 3 0x0100 [0, 0, 0])]

/-- No datagram of them is a detection of the lidar 8. -/
theorem strayAck_notDetected : ∀ e ∈ strayAck, ¬ DetectedBy FastCRC.standard 8 e := by
  have hall : (strayAck.all fun
      | .receive d => d.handle ≠ 8 || d.lidarPort ≠ kDetectionPort
      | _ => true) = true := by decide +kernel
  rintro e he ⟨d, packet, data, rfl, hhandle, hpacket, hdet, -⟩
  have hd := List.all_eq_true.mp hall _ he
  simp [hhandle, hdet.1] at hd

/-- The lidar 8 is known in the end. -/
theorem strayAck_run : ∃ tr s,
    Run (next FastCRC.standard) (fun _ _ => True) (init false [] 8192) tr s ∧
      tr.map Prod.snd = strayAck ∧ s.devices 8 ≠ none := by
  have hexec : ((exec (next FastCRC.standard) (init false [] 8192) strayAck).map fun s =>
      (s.devices 8).isSome) = some true := by decide +kernel
  obtain ⟨s, hs, hend⟩ := Option.map_eq_some_iff.mp hexec
  obtain ⟨tr, htr, hrun⟩ := Run.of_exec hs
  exact ⟨tr, s, hrun, htr, Option.isSome_iff_ne_none.mp hend⟩

/-- The ack of the lidar 8 makes it known, which was never detected. -/
theorem devicesKnown_strayAck : ¬ ∀ (crc : FastCRC) (isView : Bool) (hostIp : List UInt8)
    (memory : ℕ) (tr : List (DetectedLidars × Event AckCallback)) (s : DetectedLidars),
    Run (next crc) (fun _ _ => True) (init isView hostIp memory) tr s → DevicesKnown crc tr s := by
  intro hall
  obtain ⟨tr, s, hrun, htr, hknown⟩ := strayAck_run
  obtain ⟨x, hx, hdetected⟩ := (hall _ _ _ _ tr s hrun).detected 8 hknown
  have hmem : x.2 ∈ strayAck := htr ▸ List.mem_map_of_mem hx
  exact strayAck_notDetected x.2 hmem hdetected

/-- In the run of the stray ack some step reports an unknown lidar. -/
theorem devicesKnown_iff_strayAck : ∃ tr s, tr.map Prod.snd = strayAck ∧
    (DevicesKnown FastCRC.standard tr s ↔ ∀ x ∈ tr, AnswersKnown FastCRC.standard x.1 x.2) := by
  obtain ⟨tr, s, hrun, htr, -⟩ := strayAck_run
  exact ⟨tr, s, htr, devicesKnown_iff FastCRC.standard false [] 8192 tr s hrun⟩

end DetectedLidars

end Livox
end SensorSupport
