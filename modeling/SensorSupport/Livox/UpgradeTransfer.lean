/-
# The transfer of a firmware

One upgrader and a lidar that answers every command once, in any way. The
chunks the lidar acknowledged are then the beginning of the image, up to the
read offset, the lidar is asked to complete the transfer when it has the whole
image, and the upgrader is idle again only behind a complete upgrade.

Key definitions: `Session`, `Covers`, `acked`, `Upgraded`, `Safe`.
Key theorems: `Session.safe`.
-/
import SensorSupport.Livox.Upgrader

namespace SensorSupport
namespace Livox

/-! ### Chunks of an image -/

/-- A chunk and where it belongs. -/
structure Chunk where
  offset : UInt32
  data : List UInt8

/-- The bytes of chunks, in order. -/
def bytesOf (chunks : List Chunk) : List UInt8 := chunks.flatMap Chunk.data

/-- The chunks follow each other from the start of the image, and are its first
`n` bytes. -/
structure Covers (image : List UInt8) (chunks : List Chunk) (n : ℕ) : Prop where
  consecutive : ∀ before c after, chunks = before ++ c :: after →
    c.offset.toNat = (bytesOf before).length
  bytes : bytesOf chunks = image.take n

theorem covers_nil (image : List UInt8) : Covers image [] 0 :=
  ⟨fun before c after h => by simp at h, rfl⟩

/-- The next piece of the image. -/
theorem Covers.concat {image : List UInt8} {chunks : List Chunk} {n k : ℕ} {c : Chunk}
    (h : Covers image chunks n) (hn : n ≤ image.length) (hoffset : c.offset.toNat = n)
    (hdata : c.data = (image.drop n).take k) : Covers image (chunks ++ [c]) (n + k) := by
  refine ⟨fun before x after heq => ?_, ?_⟩
  · rcases List.eq_nil_or_concat after with rfl | ⟨after, y, rfl⟩
    · obtain ⟨rfl, hx⟩ := List.append_inj' heq rfl
      cases hx
      rw [hoffset, h.bytes, List.length_take, Nat.min_eq_left hn]
    · have heq' : chunks ++ [c] = (before ++ x :: after) ++ [y] := by simpa using heq
      exact h.consecutive before x after (List.append_inj' heq' rfl).1
  · have hbytes := h.bytes
    rw [bytesOf] at hbytes ⊢
    rw [List.flatMap_append, hbytes, List.flatMap_singleton, hdata, ← List.take_add]

/-! ### Sessions -/

/-- An upgrader, whether its thread was started, and the command that is not
answered yet. -/
structure Session where
  upgrader : LivoxLidarUpgrader
  started : Bool
  outstanding : Option Request

/-- The thread runs, or the outstanding command is answered. -/
inductive SessionEvent
  | start
  | response (status : Status) (response : Response)

namespace Session

/-- The session of a new upgrader. -/
def init (firmware : Firmware) (handle : UInt32) : Session :=
  ⟨.create firmware handle, false, none⟩

/-- What an event does. -/
def step (s : Session) : SessionEvent → Option Session
  | .start =>
    if s.started then none
    else
      let handled := s.upgrader.fsmEventHandler .requestUpgrade 10
      some ⟨handled.upgrader, true, handled.request⟩
  | .response status response =>
    s.outstanding.map fun request =>
      let handled := s.upgrader.responseHandler request.sender status response
      ⟨handled.upgrader, s.started, handled.request⟩

/-- The chunk a step acknowledges. -/
def ackedChunk (x : Session × SessionEvent) : Option Chunk :=
  match x.1.outstanding, x.2 with
  | some (.xferFirmware offset _ _ data), .response .success response =>
    if response.retCode = 0 then some ⟨offset, data⟩ else none
  | _, _ => none

/-- The chunks acknowledged in a run. -/
def acked (tr : List (Session × SessionEvent)) : List Chunk := tr.filterMap ackedChunk

/-- The step acknowledges the end of the transfer. -/
def CompleteAcked (x : Session × SessionEvent) : Prop :=
  ∃ type checksum response, x.1.outstanding = some (.completeXferFirmware type checksum) ∧
    x.2 = .response .success response ∧ response.retCode = 0

/-- The step reports a progress of 100 or more. -/
def ProgressDone (x : Session × SessionEvent) : Prop :=
  ∃ response, x.1.outstanding = some .getUpgradeProgress ∧ x.2 = .response .success response ∧
    response.retCode = 0 ∧ 100 ≤ response.progress

/-- The end of the transfer was acknowledged, and then the progress reported. -/
def Upgraded (tr : List (Session × SessionEvent)) : Prop :=
  Occurs (fun before x => Occurs (fun _ y => CompleteAcked y) before ∧ ProgressDone x) tr

/-- What an upgrade promises in the states it reaches. -/
structure Safe (firmware : Firmware) (tr : List (Session × SessionEvent)) (s : Session) : Prop where
  covers : Covers firmware.data (acked tr)
    (min s.upgrader.readOffset.toNat firmware.header.firmwareLength.toNat)
  chunk : ∀ offset length encryptType data,
    s.outstanding = some (.xferFirmware offset length encryptType data) →
      data = (firmware.data.drop offset.toNat).take length.toNat ∧ 0 < length.toNat ∧
        offset.toNat + length.toNat ≤ firmware.header.firmwareLength.toNat
  complete : ∀ type checksum, s.outstanding = some (.completeXferFirmware type checksum) →
    bytesOf (acked tr) = firmware.data
  idle : s.started → s.upgrader.fsmState = .idle → Upgraded tr

/-! ### The invariant -/

variable {firmware : Firmware} {tr : List (Session × SessionEvent)} {s s' : Session}
  {f : FnFsmEvent} {status : Status} {response : Response} {request : Request}

/-- What is done when the upgrade is in the state of an action. -/
def Milestone (tr : List (Session × SessionEvent)) (u : LivoxLidarUpgrader) : FnFsmEvent → Prop
  | .startUpgrade => u.readOffset = 0 ∧ acked tr = []
  | .xferFirmware => True
  | .completeXferFirmware => u.firmware.header.firmwareLength.toNat ≤ u.readOffset.toNat
  | .getUpgradeProgress => Occurs (fun _ x => CompleteAcked x) tr
  | .upgradeComplete => Upgraded tr

/-- The invariant. In the state of an action its command is the outstanding
one, if it sends one at all. -/
structure Inv (firmware : Firmware) (tr : List (Session × SessionEvent)) (s : Session) : Prop where
  sameFirmware : s.upgrader.firmware = firmware
  readLength : s.upgrader.readLength = 1024
  covers : Covers firmware.data (acked tr)
    (min s.upgrader.readOffset.toNat firmware.header.firmwareLength.toNat)
  fresh : s.started = false → s.upgrader.fsmState = .idle ∧ s.upgrader.readOffset = 0 ∧
    acked tr = [] ∧ s.outstanding = none
  running : ∀ f : FnFsmEvent, s.upgrader.fsmState = f.state →
    s.outstanding = (s.upgrader.run f).2 ∧ Milestone tr s.upgrader f
  stopped : (∀ f : FnFsmEvent, s.upgrader.fsmState ≠ f.state) → s.outstanding = none
  idle : s.started = true → s.upgrader.fsmState = .idle → Upgraded tr

theorem inv_init (firmware : Firmware) (handle : UInt32) : Inv firmware [] (init firmware handle) where
  sameFirmware := rfl
  readLength := rfl
  covers := by
    simpa [init, LivoxLidarUpgrader.create, acked] using covers_nil firmware.data
  fresh _ := ⟨rfl, rfl, rfl, rfl⟩
  running f h := absurd h.symm f.state_ne.1
  stopped _ := rfl
  idle h := by cases h

/-- The outstanding command is that of the state's action. -/
theorem Inv.sender (h : Inv firmware tr s) (hr : s.outstanding = some request) :
    s.started = true ∧ s.upgrader.fsmState = request.sender.state := by
  have hstarted : s.started = true := by
    by_contra hnot
    simp [(h.fresh (by simpa using hnot)).2.2.2] at hr
  by_contra hnot
  have hstate : ∃ f : FnFsmEvent, s.upgrader.fsmState = f.state := by
    by_contra hnone
    simp [h.stopped fun f hf => hnone ⟨f, hf⟩] at hr
  obtain ⟨f, hf⟩ := hstate
  obtain rfl := LivoxLidarUpgrader.run_sender ((h.running f hf).1.symm.trans hr)
  exact hnot ⟨hstarted, hf⟩

/-- A step that acknowledges no chunk. -/
theorem acked_concat_of_none {x : Session × SessionEvent} (h : ackedChunk x = none) :
    acked (tr ++ [x]) = acked tr := by
  simp [acked, h]

/-- Only the acknowledgement of a chunk moves the read offset. -/
theorem ackedChunk_of_ne (hr : s.outstanding = some request)
    (h : ¬ (request.sender = .xferFirmware ∧ status = .success ∧ response.retCode = 0)) :
    ackedChunk (s, .response status response) = none := by
  cases request with
  | xferFirmware offset length encryptType data =>
    cases status <;> simp_all [ackedChunk, Request.sender]
  | startUpgrade | completeXferFirmware | getUpgradeProgress | requestReboot =>
    simp [ackedChunk, hr]

/-- The chunks behind a response. -/
theorem covers_response (status : Status) (response : Response)
    (hbound : firmware.header.firmwareLength.toNat ≤ 2 ^ 32 - 1024)
    (h : Inv firmware tr s) (hr : s.outstanding = some request) :
    Covers firmware.data (acked (tr ++ [(s, .response status response)]))
      (min (s.upgrader.offsetAfter request.sender status response).toNat
        firmware.header.firmwareLength.toNat) := by
  by_cases hack : request.sender = .xferFirmware ∧ status = .success ∧ response.retCode = 0
  swap
  · rw [acked_concat_of_none (ackedChunk_of_ne hr hack), LivoxLidarUpgrader.offsetAfter, if_neg hack]
    exact h.covers
  obtain ⟨hsender, rfl, hcode⟩ := hack
  cases request with
  | startUpgrade | completeXferFirmware | getUpgradeProgress | requestReboot => cases hsender
  | xferFirmware offset length encryptType data =>
    have hrun := (h.running _ (h.sender hr).2).1.symm.trans hr
    obtain ⟨rfl, hlt, hlength, rfl⟩ := LivoxLidarUpgrader.run_xferFirmware hrun
    have hchunk : ackedChunk (s, .response .success response) =
        some ⟨s.upgrader.readOffset, (s.upgrader.firmware.data.drop s.upgrader.readOffset.toNat).take
          length.toNat⟩ := by
      simp [ackedChunk, hr, hcode]
    have hacked : acked (tr ++ [(s, .response .success response)]) = acked tr ++
        [⟨s.upgrader.readOffset, (s.upgrader.firmware.data.drop s.upgrader.readOffset.toNat).take
          length.toNat⟩] := by
      simp [acked, hchunk]
    have hcovers := h.covers
    rw [h.readLength, h.sameFirmware] at hlength
    rw [h.sameFirmware] at hlt hacked
    rw [Nat.min_eq_left hlt.le] at hcovers
    have hoffset : (s.upgrader.readOffset + s.upgrader.readLength).toNat =
        s.upgrader.readOffset.toNat + 1024 := by
      have h1024 : (1024 : UInt32).toNat = 1024 := rfl
      rw [h.readLength, UInt32.toNat_add, h1024, Nat.mod_eq_of_lt (by omega)]
    have hend : min (s.upgrader.readOffset.toNat + 1024) firmware.header.firmwareLength.toNat =
        s.upgrader.readOffset.toNat + length.toNat := by
      have h1024 : (1024 : UInt32).toNat = 1024 := rfl
      omega
    rw [LivoxLidarUpgrader.offsetAfter, if_pos ⟨hsender, rfl, hcode⟩, hoffset, hend, hacked]
    exact hcovers.concat (by rw [firmware.data_length]; exact hlt.le) rfl rfl

/-- The state behind an action. -/
theorem inv_run {u : LivoxLidarUpgrader} {x : Session × SessionEvent}
    (hfirmware : u.firmware = firmware)
    (hlength : u.readLength = 1024)
    (hcovers : Covers firmware.data (acked (tr ++ [x]))
      (min u.readOffset.toNat firmware.header.firmwareLength.toNat))
    (hstart : f = .startUpgrade → acked (tr ++ [x]) = [])
    (hmilestone : f ≠ .startUpgrade → Milestone (tr ++ [x]) u f) :
    Inv firmware (tr ++ [x]) ⟨({ u with fsmState := f.state }.run f).1, true,
      ({ u with fsmState := f.state }.run f).2⟩ := by
  obtain ⟨hkeep, hsame, hagain⟩ := LivoxLidarUpgrader.run_keeps { u with fsmState := f.state } f
  have hstate : ({ u with fsmState := f.state }.run f).1.fsmState = f.state := by rw [hkeep]
  refine ⟨by rw [hkeep, ← hfirmware], by rw [hkeep, ← hlength], ?_, by simp, ?_, ?_, ?_⟩
  · by_cases hf : f = .startUpgrade
    · subst hf
      rw [hstart rfl]
      simpa [LivoxLidarUpgrader.run, LivoxLidarUpgrader.startUpgrade] using covers_nil firmware.data
    · rw [hsame hf]
      exact hcovers
  · intro g hg
    obtain rfl := FnFsmEvent.state_injective (hstate.symm.trans hg)
    refine ⟨hagain.symm, ?_⟩
    by_cases hf : f = .startUpgrade
    · subst hf
      exact ⟨rfl, hstart rfl⟩
    · rw [hsame hf]
      have hm := hmilestone hf
      cases f <;> exact hm
  · exact fun h => absurd hstate (h f)
  · exact fun _ hidle => absurd (hstate.symm.trans hidle) f.state_ne.1

/-- The thread runs. -/
theorem inv_start (h : Inv firmware tr s) (hstep : s.step .start = some s') :
    Inv firmware (tr ++ [(s, .start)]) s' := by
  rw [step] at hstep
  split at hstep
  · cases hstep
  rename_i hnot
  obtain ⟨hidle, hoffset, hacked, -⟩ := h.fresh (by simpa using hnot)
  have hnone : acked (tr ++ [(s, .start)]) = [] := by
    rw [acked_concat_of_none (by cases hr : s.outstanding <;> simp [ackedChunk, hr]), hacked]
  cases hstep
  rw [LivoxLidarUpgrader.fsmEventHandler_idle hidle]
  refine inv_run (f := .startUpgrade) h.sameFirmware h.readLength ?_ (fun _ => hnone)
    fun hne => absurd rfl hne
  rw [hnone, hoffset]
  simpa using covers_nil firmware.data

/-- The state behind an event without an action. -/
theorem inv_stop {u : LivoxLidarUpgrader} {x : Session × SessionEvent}
    (hfirmware : u.firmware = firmware)
    (hlength : u.readLength = 1024)
    (hcovers : Covers firmware.data (acked (tr ++ [x]))
      (min u.readOffset.toNat firmware.header.firmwareLength.toNat))
    (hstopped : ∀ f : FnFsmEvent, u.fsmState ≠ f.state)
    (hidle : u.fsmState = .idle → Upgraded (tr ++ [x])) :
    Inv firmware (tr ++ [x]) ⟨u, true, none⟩ :=
  ⟨hfirmware, hlength, hcovers, by simp, fun f hf => absurd hf (hstopped f), fun _ => rfl,
    fun _ => hidle⟩

/-- What was done stays done. -/
theorem Milestone.concat {u : LivoxLidarUpgrader} {x : Session × SessionEvent} {tryCount : UInt32}
    (h : Milestone tr u f) (hf : f ≠ .startUpgrade) :
    Milestone (tr ++ [x]) { u with tryCount, readOffset := u.offsetAfter f status response } f := by
  cases f with
  | startUpgrade => exact absurd rfl hf
  | xferFirmware => exact trivial
  | completeXferFirmware => simpa [Milestone, LivoxLidarUpgrader.offsetAfter] using h
  | getUpgradeProgress => exact occurs_concat.mpr (.inl h)
  | upgradeComplete => exact occurs_concat.mpr (.inl h)

/-- A response that leads on. -/
theorem Milestone.next {g : FnFsmEvent} {tryCount : UInt32} {u : LivoxLidarUpgrader}
    (hr : s.outstanding = some request)
    (h : Milestone tr u request.sender) (hnext : request.sender.next = some g)
    (hanswered : u.Answered request.sender status response) :
    Milestone (tr ++ [(s, .response status response)])
      { u with tryCount, readOffset := u.offsetAfter request.sender status response } g := by
  cases request with
  | startUpgrade request =>
    cases hnext
    exact trivial
  | xferFirmware offset length encryptType data =>
    cases hnext
    obtain ⟨hstatus, hcode, hend⟩ := hanswered
    have hoffset : u.offsetAfter .xferFirmware status response = u.readOffset + u.readLength :=
      if_pos ⟨rfl, hstatus, hcode⟩
    unfold Request.sender
    rw [Milestone, hoffset]
    exact UInt32.le_iff_toNat_le.mp (UInt32.not_lt.mp hend)
  | completeXferFirmware type checksum =>
    cases hnext
    obtain ⟨rfl, hcode⟩ := hanswered
    exact occurs_concat.mpr (.inr ⟨type, checksum, response, hr, rfl, hcode⟩)
  | getUpgradeProgress =>
    cases hnext
    obtain ⟨rfl, hcode, hdone⟩ := hanswered
    exact occurs_concat.mpr (.inr ⟨h, response, hr, rfl, hcode, hdone⟩)
  | requestReboot timeout => cases hnext

/-- A response is handled. -/
theorem inv_response (hbound : firmware.header.firmwareLength.toNat ≤ 2 ^ 32 - 1024)
    (h : Inv firmware tr s) (hr : s.outstanding = some request) :
    Inv firmware (tr ++ [(s, .response status response)])
      ⟨(s.upgrader.responseHandler request.sender status response).upgrader, s.started,
        (s.upgrader.responseHandler request.sender status response).request⟩ := by
  obtain ⟨hstarted, hstate⟩ := h.sender hr
  have hmilestone := (h.running _ hstate).2
  have hcovers := covers_response status response hbound h hr
  obtain ⟨tryCount, report, u', rfl, hcases⟩ := LivoxLidarUpgrader.responseHandler_cases
    status response hstate
  rw [hstarted]
  rcases hcases with hagain | ⟨hanswered, g, hnext, hon⟩ | ⟨-, hnone, hlast⟩ | herr
  · rw [hagain]
    refine inv_run h.sameFirmware h.readLength hcovers (fun hf => ?_) fun hf => hmilestone.concat hf
    rw [hf] at hmilestone
    rw [acked_concat_of_none (ackedChunk_of_ne hr (by simp [hf])), hmilestone.2]
  · rw [hon]
    refine inv_run h.sameFirmware h.readLength hcovers (fun hstart => ?_) fun _ =>
      Milestone.next hr hmilestone hnext hanswered
    cases hf : request.sender <;> rw [hf, hstart] at hnext <;> cases hnext
  · rw [hlast]
    have hcomplete : request.sender = .upgradeComplete := by
      cases hf : request.sender <;> rw [hf] at hnone <;> first | rfl | cases hnone
    rw [hcomplete] at hmilestone
    exact inv_stop h.sameFirmware h.readLength hcovers (fun f hf => f.state_ne.1 hf.symm)
      fun _ => occurs_concat.mpr (.inl hmilestone)
  · rw [herr]
    exact inv_stop h.sameFirmware h.readLength hcovers
      (fun f hf => f.state_ne.2.2 hf.symm) fun hidle => nomatch hidle

theorem inv_step (hbound : firmware.header.firmwareLength.toNat ≤ 2 ^ 32 - 1024)
    (h : Inv firmware tr s) {e : SessionEvent} (hstep : s.step e = some s') :
    Inv firmware (tr ++ [(s, e)]) s' := by
  cases e with
  | start => exact inv_start h hstep
  | response status response =>
    obtain ⟨request, hr, rfl⟩ := Option.map_eq_some_iff.mp hstep
    exact inv_response hbound h hr

/-- The invariant is safety. -/
theorem Inv.toSafe (h : Inv firmware tr s) : Safe firmware tr s := by
  refine ⟨h.covers, fun offset length encryptType data hr => ?_, fun type checksum hr => ?_, h.idle⟩
  · have hrun := (h.running _ (h.sender hr).2).1.symm.trans hr
    obtain ⟨rfl, hlt, hlength, rfl⟩ := LivoxLidarUpgrader.run_xferFirmware hrun
    have h1024 : (1024 : UInt32).toNat = 1024 := rfl
    rw [h.sameFirmware] at hlt hlength ⊢
    rw [h.readLength] at hlength
    exact ⟨rfl, by omega, by omega⟩
  · have hend := (h.running _ (h.sender hr).2).2
    have hbytes := h.covers.bytes
    unfold Request.sender at hend
    rw [Milestone, h.sameFirmware] at hend
    rw [Nat.min_eq_right hend, ← firmware.data_length, List.take_length] at hbytes
    exact hbytes

/-- **A firmware is transferred whole, in order and before it is completed**,
whatever the lidar answers. -/
theorem safe (firmware : Firmware) (handle : UInt32)
    (hbound : firmware.header.firmwareLength.toNat ≤ 2 ^ 32 - 1024)
    (tr : List (Session × SessionEvent)) (s : Session)
    (h : Run step (fun _ _ => True) (init firmware handle) tr s) : Safe firmware tr s :=
  Inv.toSafe (h.invariant (inv_init firmware handle) fun _ _ _ _ hi _ hs => inv_step hbound hi hs)

/-- A firmware of two chunks. -/
def twoChunks : Firmware where
  header := ⟨kEnlFileVersionV3, 1, 1500, 1, 10, 0, 0, 16, List.replicate 128 0,
    List.replicate 128 0, 0, 0⟩
  data := List.replicate 1500 7
  tail := List.replicate 16 0
  fileSize := 1802
  data_length := List.length_replicate

/-- The second chunk is lost once. -/
theorem safe_twoChunks : ∃ tr s, s.started = true ∧ s.upgrader.fsmState = .idle ∧
    Safe twoChunks tr s := by
  obtain ⟨s, hs, hstarted, hidle⟩ : ∃ s, exec step (init twoChunks 1)
      [.start, .response .success ⟨0, 0⟩, .response .success ⟨0, 0⟩, .response .timeout ⟨0, 0⟩,
        .response .success ⟨0, 0⟩, .response .success ⟨0, 0⟩, .response .success ⟨0, 100⟩,
        .response .success ⟨0, 0⟩] = some s ∧ s.started = true ∧ s.upgrader.fsmState = .idle :=
    ⟨_, rfl, rfl, rfl⟩
  obtain ⟨tr, -, hrun⟩ := Run.of_exec hs
  exact ⟨tr, s, hstarted, hidle, safe twoChunks 1 (by decide) tr s hrun⟩

end Session

end Livox
end SensorSupport
