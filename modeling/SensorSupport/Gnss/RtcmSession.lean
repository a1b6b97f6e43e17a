/-
# Corrections stay in their serial session

The network worker receives a chunk in one step and queues it in a later one;
the serial worker writes what is queued, and empties the queue when it leaves a
session. While a session is open, what was written in it, the chunk about to be
written, the queue and the chunk about to be queued are, in order, chunks
received in it (`SessionInv.current`); the steps of the session move chunks
along that list (`SessionInv.during`). A chunk that is queued behind the clear
of its session waits in the queue for the next port (`session_leak`).

Key definitions: `Node.writtenIn`, `Node.receivedIn`, `KeepsSession`, `SessionInv`.
Key theorems: `session_isolation`, `session_leak`.
-/
import Mathlib.Data.List.Nodup
import SensorSupport.Gnss.Node

namespace SensorSupport
namespace Gnss

namespace Node

/-- The chunks written in a session, in order. -/
def writtenIn (s : Node) (k : ℕ) : List Chunk :=
  s.written.filterMap fun x => if x.1 = k then some x.2 else none

/-- The chunks received in a session, in order. -/
def receivedIn (s : Node) (k : ℕ) : List Chunk :=
  s.received.filterMap fun x => if x.1 = some k then some x.2 else none

/-- The chunk the serial worker is about to write. -/
def inHand (s : Node) : List Chunk :=
  match s.serial.mode with
  | .writingChunk chunk => [chunk]
  | _ => []

/-- The chunk the network worker is about to queue, when it was received in
session `k`. -/
def waiting (s : Node) (k : ℕ) : List Chunk :=
  match s.network.mode with
  | .queueing chunk _ => if (some k, chunk) ∈ s.received then [chunk] else []
  | _ => []

end Node

/-- A chunk is queued while the session it was received in is open, or ahead of
a clear of the queue. -/
def QueuesOwn (s : Node) (chunk : Chunk) : Prop :=
  .clearRtcmQueue ∈ s.serial.code ∨ ∃ k, s.session = some k ∧ (some k, chunk) ∈ s.received

/-- A chunk is queued in its own session or ahead of a clear, and a write that
fails wrote nothing of its chunk or all of it. -/
def KeepsSession (s : Node) : NodeEvent → Prop
  | .network .run => ∀ chunk initial,
      s.network.code = [] → s.network.mode = .queueing chunk initial → QueuesOwn s chunk
  | .serial (.partlyWritten count _) => ∀ chunk,
      s.serial.mode = .writingChunk chunk → count = 0 ∨ chunk.bytes.take count = chunk.bytes
  | _ => True

/-- What holds between the chunks received and the chunks written. -/
structure SessionInv (s : Node) : Prop where
  index : s.received.map (fun x => x.2.index) = List.range s.received.length
  writtenBound : ∀ x ∈ s.written, x.1 ≤ s.sessions
  receivedBound : ∀ x ∈ s.received, ∀ k, x.1 = some k → k ≤ s.sessions
  clearing : Op.clearRtcmQueue ∈ s.serial.code → s.serial.mode = .closed
  cleared : s.serial.mode = .closed → Op.clearRtcmQueue ∉ s.serial.code →
    s.rtcmQueue.items = []
  isolated : ∀ k, (s.writtenIn k).Sublist (s.receivedIn k)
  current : s.serial.mode ≠ .closed → (s.writtenIn s.sessions ++ s.inHand ++
    s.rtcmQueue.items ++ s.waiting s.sessions).Sublist (s.receivedIn s.sessions)

/-! ### The two histories -/

variable {cfg : NodeConfig} {s s' : Node}

theorem writtenIn_eq (h : s'.written = s.written) (k : ℕ) : s'.writtenIn k = s.writtenIn k := by
  unfold Node.writtenIn
  rw [h]

theorem receivedIn_eq (h : s'.received = s.received) (k : ℕ) :
    s'.receivedIn k = s.receivedIn k := by
  unfold Node.receivedIn
  rw [h]

theorem writtenIn_concat {j : ℕ} {chunk : Chunk} (h : s'.written = s.written ++ [(j, chunk)])
    (k : ℕ) : s'.writtenIn k = s.writtenIn k ++ if j = k then [chunk] else [] := by
  unfold Node.writtenIn
  rw [h, List.filterMap_append]
  by_cases hj : j = k <;> simp [hj]

theorem receivedIn_concat {tag : Option ℕ} {chunk : Chunk}
    (h : s'.received = s.received ++ [(tag, chunk)]) (k : ℕ) :
    s'.receivedIn k = s.receivedIn k ++ if tag = some k then [chunk] else [] := by
  unfold Node.receivedIn
  rw [h, List.filterMap_append]
  by_cases htag : tag = some k <;> simp [htag]

theorem waiting_nil (h : ∀ chunk initial, s.network.mode ≠ .queueing chunk initial) (k : ℕ) :
    s.waiting k = [] := by
  unfold Node.waiting
  split
  · rename_i chunk initial hmode
    exact absurd hmode (h chunk initial)
  · rfl

theorem waiting_eq (hmode : s'.network.mode = s.network.mode)
    (hreceived : s'.received = s.received) (k : ℕ) : s'.waiting k = s.waiting k := by
  unfold Node.waiting
  rw [hmode, hreceived]

theorem inHand_eq (h : s'.serial.mode = s.serial.mode) : s'.inHand = s.inHand := by
  unfold Node.inHand
  rw [h]

theorem session_eq_some {k : ℕ} (h : s.session = some k) :
    s.serial.mode ≠ .closed ∧ k = s.sessions := by
  unfold Node.session at h
  split at h
  · cases h
  · exact ⟨by assumption, (Option.some.inj h).symm⟩

namespace SessionInv

theorem init (clock : ℚ) : SessionInv (.init clock) where
  index := rfl
  writtenBound := by simp [Node.init]
  receivedBound := by simp [Node.init]
  clearing := by simp [Node.init]
  cleared := by simp [Node.init, BoundedQueue.empty]
  isolated := by simp [Node.init, Node.writtenIn, Node.receivedIn]
  current := by simp [Node.init]

/-! ### One lemma for each kind of step -/

/-- A step that writes and receives nothing, takes chunks out of the queue at
most, and empties it when a clear ends. -/
theorem shrink (h : SessionInv s) (hreceived : s'.received = s.received)
    (hwritten : s'.written = s.written) (hsessions : s'.sessions = s.sessions)
    (hmode : s'.serial.mode = s.serial.mode)
    (hqueue : s'.rtcmQueue.items.Sublist s.rtcmQueue.items)
    (hwaiting : ∀ k, s'.waiting k = s.waiting k ∨ s'.waiting k = [])
    (hclearing : Op.clearRtcmQueue ∈ s'.serial.code → Op.clearRtcmQueue ∈ s.serial.code)
    (hcleared : Op.clearRtcmQueue ∈ s.serial.code → Op.clearRtcmQueue ∉ s'.serial.code →
      s'.rtcmQueue.items = []) : SessionInv s' := by
  refine {
    index := ?_, writtenBound := ?_, receivedBound := ?_, clearing := ?_, cleared := ?_
    isolated := ?_, current := ?_ }
  · rw [hreceived]
    exact h.index
  · rw [hwritten, hsessions]
    exact h.writtenBound
  · rw [hreceived, hsessions]
    exact h.receivedBound
  · intro hclear
    rw [hmode]
    exact h.clearing (hclearing hclear)
  · intro hclosed hclear
    by_cases hbefore : Op.clearRtcmQueue ∈ s.serial.code
    · exact hcleared hbefore hclear
    · have hnil := h.cleared (hmode ▸ hclosed) hbefore
      exact List.sublist_nil.mp (hnil ▸ hqueue)
  · intro k
    rw [writtenIn_eq hwritten, receivedIn_eq hreceived]
    exact h.isolated k
  · intro hopen
    rw [hsessions, writtenIn_eq hwritten, receivedIn_eq hreceived, inHand_eq hmode]
    refine List.Sublist.trans ?_ (h.current (hmode ▸ hopen))
    refine ((List.Sublist.refl _).append hqueue).append ?_
    rcases hwaiting s.sessions with hsame | hnil
    · rw [hsame]
    · rw [hnil]
      exact List.nil_sublist _

/-- The session is left: the clear of the queue lies ahead. -/
theorem leave (h : SessionInv s) (hreceived : s'.received = s.received)
    (hwritten : s'.written = s.written) (hsessions : s'.sessions = s.sessions)
    (hmode : s'.serial.mode = .closed) (hclear : Op.clearRtcmQueue ∈ s'.serial.code) :
    SessionInv s' := by
  refine {
    index := ?_, writtenBound := ?_, receivedBound := ?_, clearing := fun _ => hmode
    cleared := fun _ hnot => absurd hclear hnot, isolated := ?_
    current := fun hopen => absurd hmode hopen }
  · rw [hreceived]
    exact h.index
  · rw [hwritten, hsessions]
    exact h.writtenBound
  · rw [hreceived, hsessions]
    exact h.receivedBound
  · intro k
    rw [writtenIn_eq hwritten, receivedIn_eq hreceived]
    exact h.isolated k

/-- The port is opened: a session without chunks begins. -/
theorem opening (h : SessionInv s) (hcode : s.serial.code = []) (hmode : s.serial.mode = .closed)
    (hreceived : s'.received = s.received) (hwritten : s'.written = s.written)
    (hsessions : s'.sessions = s.sessions + 1) (hqueue : s'.rtcmQueue = s.rtcmQueue)
    (hnetwork : s'.network = s.network) (hmode' : s'.serial.mode = .session)
    (hclear : Op.clearRtcmQueue ∉ s'.serial.code) : SessionInv s' := by
  have hnew : ∀ x ∈ s.received, x.1 ≠ some (s.sessions + 1) := by
    intro x hx htag
    have := h.receivedBound x hx _ htag
    omega
  refine {
    index := ?_, writtenBound := ?_, receivedBound := ?_
    clearing := fun hin => absurd hin hclear, cleared := fun hclosed => ?_, isolated := ?_
    current := fun _ => ?_ }
  · rw [hreceived]
    exact h.index
  · intro x hx
    rw [hwritten] at hx
    have := h.writtenBound x hx
    omega
  · intro x hx k hk
    rw [hreceived] at hx
    have := h.receivedBound x hx k hk
    omega
  · rw [hmode'] at hclosed
    cases hclosed
  · intro k
    rw [writtenIn_eq hwritten, receivedIn_eq hreceived]
    exact h.isolated k
  · have hwrote : s'.writtenIn s'.sessions = [] := by
      unfold Node.writtenIn
      rw [hwritten, hsessions, List.filterMap_eq_nil_iff]
      intro x hx
      have := h.writtenBound x hx
      exact if_neg (by omega)
    have hhand : s'.inHand = [] := by
      unfold Node.inHand
      rw [hmode']
    have hitems : s'.rtcmQueue.items = [] := by
      rw [hqueue]
      exact h.cleared hmode (by simp [hcode])
    have hwait : s'.waiting s'.sessions = [] := by
      unfold Node.waiting
      rw [hnetwork, hreceived, hsessions]
      split
      · exact if_neg fun hin => hnew _ hin rfl
      · rfl
    rw [hwrote, hhand, hitems, hwait]
    exact List.nil_sublist _

/-- A step of an open session moves chunks towards what was written. -/
theorem during (h : SessionInv s) (hopen : s.serial.mode ≠ .closed)
    (hopen' : s'.serial.mode ≠ .closed) (hclear : Op.clearRtcmQueue ∉ s'.serial.code)
    (hreceived : s'.received = s.received) (hsessions : s'.sessions = s.sessions)
    (hnetwork : s'.network = s.network) (hbound : ∀ x ∈ s'.written, x.1 ≤ s.sessions)
    (hothers : ∀ k, k ≠ s.sessions → s'.writtenIn k = s.writtenIn k)
    (hflow : s'.writtenIn s.sessions ++ s'.inHand ++ s'.rtcmQueue.items =
      s.writtenIn s.sessions ++ s.inHand ++ s.rtcmQueue.items) : SessionInv s' := by
  have hwaiting : ∀ k, s'.waiting k = s.waiting k := waiting_eq (by rw [hnetwork]) hreceived
  have hcurrent : (s'.writtenIn s.sessions ++ s'.inHand ++ s'.rtcmQueue.items ++
      s'.waiting s.sessions).Sublist (s'.receivedIn s.sessions) := by
    rw [hflow, hwaiting, receivedIn_eq hreceived]
    exact h.current hopen
  refine {
    index := ?_, writtenBound := ?_, receivedBound := ?_
    clearing := fun hin => absurd hin hclear, cleared := fun hclosed => absurd hclosed hopen'
    isolated := ?_, current := fun _ => ?_ }
  · rw [hreceived]
    exact h.index
  · rw [hsessions]
    exact hbound
  · rw [hreceived, hsessions]
    exact h.receivedBound
  · intro k
    by_cases hk : k = s.sessions
    · subst hk
      simp only [List.append_assoc] at hcurrent
      exact (List.sublist_append_left _ _).trans hcurrent
    · rw [hothers k hk, receivedIn_eq hreceived]
      exact h.isolated k
  · rw [hsessions]
    exact hcurrent

/-- A step of an open session that writes nothing. -/
theorem turn (h : SessionInv s) (hopen : s.serial.mode ≠ .closed)
    (hopen' : s'.serial.mode ≠ .closed) (hclear : Op.clearRtcmQueue ∉ s'.serial.code)
    (hreceived : s'.received = s.received) (hwritten : s'.written = s.written)
    (hsessions : s'.sessions = s.sessions) (hnetwork : s'.network = s.network)
    (hflow : s'.inHand ++ s'.rtcmQueue.items = s.inHand ++ s.rtcmQueue.items) :
    SessionInv s' := by
  have hsame : ∀ k, s'.writtenIn k = s.writtenIn k := fun k => by
    unfold Node.writtenIn
    rw [hwritten]
  refine h.during hopen hopen' hclear hreceived hsessions hnetwork ?_ (fun k _ => hsame k) ?_
  · rw [hwritten]
    exact h.writtenBound
  · rw [hsame, List.append_assoc, hflow, List.append_assoc]

/-- The chunk in hand is written. -/
theorem wrote (h : SessionInv s) {chunk : Chunk} (hcode : s.serial.code = [])
    (hmode : s.serial.mode = .writingChunk chunk) : SessionInv { s with
      written := s.written ++ [(s.sessions, chunk)], serial.mode := .writing } := by
  refine h.during (by simp [hmode]) (by simp) (by simp [hcode]) rfl rfl rfl ?_ ?_ ?_
  · intro x hx
    rcases List.mem_append.mp hx with hx | hx
    · exact h.writtenBound x hx
    · rw [List.mem_singleton.mp hx]
  · intro k hk
    rw [writtenIn_concat rfl, if_neg (Ne.symm hk), List.append_nil]
  · rw [writtenIn_concat rfl, if_pos rfl]
    simp [Node.inHand, hmode]

/-- A chunk is received. -/
theorem receive (h : SessionInv s) (data : List UInt8) (initial : Bool)
    (hnone : ∀ chunk initial, s.network.mode ≠ .queueing chunk initial) :
    SessionInv (receiveChunk s data initial) := by
  have hfresh : ∀ k, (some k, (⟨s.received.length, data⟩ : Chunk)) ∉ s.received := by
    intro k hin
    have hmem := List.mem_map_of_mem (f := fun x : Option ℕ × Chunk => x.2.index) hin
    rw [h.index, List.mem_range] at hmem
    exact Nat.lt_irrefl _ hmem
  have hwaiting : ∀ k, (receiveChunk s data initial).waiting k =
      if s.session = some k then [⟨s.received.length, data⟩] else [] := by
    intro k
    have : (some k, (⟨s.received.length, data⟩ : Chunk)) ∈
        s.received ++ [(s.session, ⟨s.received.length, data⟩)] ↔ s.session = some k := by
      simp [hfresh k, eq_comm]
    simp only [Node.waiting, receiveChunk, this]
  have hreceived : ∀ k, (receiveChunk s data initial).receivedIn k = s.receivedIn k ++
      (receiveChunk s data initial).waiting k := by
    intro k
    rw [hwaiting]
    exact receivedIn_concat rfl k
  refine {
    index := ?_, writtenBound := h.writtenBound, receivedBound := ?_, clearing := h.clearing
    cleared := h.cleared, isolated := ?_, current := fun hopen => ?_ }
  · change (s.received ++ [(s.session, _)]).map _ = List.range (s.received ++ [_]).length
    rw [List.map_append, h.index, List.length_append, List.length_singleton, List.range_succ]
    rfl
  · intro x hx k hk
    rcases List.mem_append.mp hx with hx | hx
    · exact h.receivedBound x hx k hk
    · rw [List.mem_singleton.mp hx] at hk
      exact (session_eq_some hk).2.le
  · intro k
    rw [hreceived]
    exact (h.isolated k).trans (List.sublist_append_left _ _)
  · rw [hreceived]
    have hcurrent := h.current hopen
    rw [waiting_nil hnone, List.append_nil] at hcurrent
    exact hcurrent.append (List.Sublist.refl _)

/-- The chunk that was received last is queued. -/
theorem enqueue (h : SessionInv s) {chunk : Chunk} {initial : Bool} {code : List Op}
    {q : BoundedQueue Chunk 256} (hmode : s.network.mode = .queueing chunk initial)
    (hput : s.rtcmQueue.put chunk = some q) (hown : QueuesOwn s chunk) :
    SessionInv { s with rtcmQueue := q, network := ⟨code, .streaming⟩ } := by
  have hitems := (BoundedQueue.put_eq_some.mp hput).2
  refine {
    index := h.index, writtenBound := h.writtenBound, receivedBound := h.receivedBound
    clearing := h.clearing, cleared := ?_, isolated := h.isolated, current := ?_ }
  · intro hclosed hclear
    rcases hown with hin | ⟨k, hk, -⟩
    · exact absurd hin hclear
    · exact absurd hclosed (session_eq_some hk).1
  · intro hopen
    rcases hown with hin | ⟨k, hk, hchunk⟩
    · exact absurd (h.clearing hin) hopen
    · have hwaiting : s.waiting s.sessions = [chunk] := by
        rw [← (session_eq_some hk).2]
        simp only [Node.waiting, hmode, if_pos hchunk]
      have hcurrent := h.current hopen
      rw [hwaiting] at hcurrent
      change (s.writtenIn s.sessions ++ s.inHand ++ q.items ++ []).Sublist
        (s.receivedIn s.sessions)
      rwa [List.append_nil, hitems, ← List.append_assoc]

/-! ### Steps of the threads -/

/-- An operation takes chunks out of the correction queue at most. -/
theorem runOp_rtcmQueue (op : Op) :
    (runOp s op).2.rtcmQueue.items.Sublist s.rtcmQueue.items := by
  cases op with
  | put event => simp only [runOp]; cases s.rosEvents.put event <;> exact List.Sublist.refl _
  | discard event => simp only [runOp]; cases s.rosEvents.get <;> exact List.Sublist.refl _
  | putAgain event => simp only [runOp]; cases s.rosEvents.put event <;> exact List.Sublist.refl _
  | clearRtcmQueue =>
    simp only [runOp]
    cases hget : s.rtcmQueue.get with
    | none => exact List.Sublist.refl _
    | some x =>
      rw [BoundedQueue.get_eq_some.mp hget]
      exact List.sublist_cons_self _ _
  | setNtripConnected connected => simp only [runOp]; split <;> exact List.Sublist.refl _
  | serialReady ready => exact List.Sublist.refl _
  | receiveGga gga => exact List.Sublist.refl _
  | storeGga gga receivedAt => exact List.Sublist.refl _
  | ggaReady ready => exact List.Sublist.refl _
  | receiveHpr hpr => exact List.Sublist.refl _
  | storeHpr hpr receivedAt => exact List.Sublist.refl _
  | clearLatestGga => exact List.Sublist.refl _

/-- Only a clear continues with a clear. -/
theorem runOp_clear {op : Op} (h : Op.clearRtcmQueue ∈ (runOp s op).1) :
    op = .clearRtcmQueue := by
  cases op with
  | clearRtcmQueue => rfl
  | put event => simp only [runOp] at h; cases hput : s.rosEvents.put event <;> simp [hput] at h
  | discard event => simp only [runOp] at h; cases hget : s.rosEvents.get <;> simp [hget] at h
  | putAgain event =>
    simp only [runOp] at h
    cases hput : s.rosEvents.put event <;> simp [hput] at h
  | setNtripConnected connected => simp only [runOp] at h; split at h <;> simp at h
  | serialReady ready => simp [runOp] at h
  | receiveGga gga => simp [runOp] at h
  | storeGga gga receivedAt => simp [runOp] at h
  | ggaReady ready => simp [runOp] at h
  | receiveHpr hpr => simp [runOp] at h
  | storeHpr hpr receivedAt => simp [runOp] at h
  | clearLatestGga => simp [runOp] at h

/-- A clear that does not continue has emptied the queue. -/
theorem runOp_cleared (h : Op.clearRtcmQueue ∉ (runOp s .clearRtcmQueue).1) :
    (runOp s .clearRtcmQueue).2.rtcmQueue.items = [] := by
  simp only [runOp] at h ⊢
  cases hget : s.rtcmQueue.get with
  | none => exact BoundedQueue.get_eq_none.mp hget
  | some x => simp [hget] at h

/-- An operation of the serial worker. -/
theorem serialOp (h : SessionInv s) {op : Op} {rest : List Op} (hcode : s.serial.code = op :: rest) :
    SessionInv { (runOp s op).2 with serial.code := (runOp s op).1 ++ rest } := by
  have hserial : (runOp s op).2.serial = s.serial := by rw [runOp_eq]
  have hnetwork : (runOp s op).2.network = s.network := by rw [runOp_eq]
  have hreceived : (runOp s op).2.received = s.received := by rw [runOp_eq]
  apply h.shrink
  · exact hreceived
  · change (runOp s op).2.written = s.written
    rw [runOp_eq]
  · change (runOp s op).2.sessions = s.sessions
    rw [runOp_eq]
  · change (runOp s op).2.serial.mode = s.serial.mode
    rw [hserial]
  · exact runOp_rtcmQueue op
  · intro k
    have hmode : (runOp s op).2.network.mode = s.network.mode := by rw [hnetwork]
    exact .inl (waiting_eq hmode hreceived k)
  · intro hclear
    rw [hcode]
    rcases List.mem_append.mp hclear with hclear | hclear
    · exact runOp_clear hclear ▸ List.mem_cons_self
    · exact List.mem_cons_of_mem _ hclear
  · intro hclear hnot
    have hnot' := not_or.mp (mt List.mem_append.mpr hnot)
    rw [hcode] at hclear
    rcases List.mem_cons.mp hclear with rfl | hclear
    · exact runOp_cleared hnot'.1
    · exact absurd hclear hnot'.2

/-- An operation of the network worker. -/
theorem networkOp (h : SessionInv s) {op : Op} (rest : List Op) :
    SessionInv { (runOp s op).2 with network.code := (runOp s op).1 ++ rest } := by
  have hserial : (runOp s op).2.serial = s.serial := by rw [runOp_eq]
  have hnetwork : (runOp s op).2.network = s.network := by rw [runOp_eq]
  have hreceived : (runOp s op).2.received = s.received := by rw [runOp_eq]
  have hcode : (runOp s op).2.serial.code = s.serial.code := congrArg SerialWorker.code hserial
  apply h.shrink
  · exact hreceived
  · change (runOp s op).2.written = s.written
    rw [runOp_eq]
  · change (runOp s op).2.sessions = s.sessions
    rw [runOp_eq]
  · change (runOp s op).2.serial.mode = s.serial.mode
    rw [hserial]
  · exact runOp_rtcmQueue op
  · intro k
    have hmode : (runOp s op).2.network.mode = s.network.mode := by rw [hnetwork]
    exact .inl (waiting_eq hmode hreceived k)
  · intro hclear
    exact hcode ▸ hclear
  · intro hclear hnot
    exact absurd (hcode ▸ hclear) hnot

theorem clear_mem_serialFinally : Op.clearRtcmQueue ∈ serialFinally := by decide

theorem clear_mem_leaveSerial (s : Node) (error : Option String) :
    Op.clearRtcmQueue ∈ (leaveSerial cfg s error).serial.code :=
  List.mem_append_right _ clear_mem_serialFinally

theorem clear_not_mem_sentenceOps (sentence : Text) :
    Op.clearRtcmQueue ∉ sentenceOps cfg sentence := by
  intro h
  unfold sentenceOps at h
  rcases List.mem_cons.mp h with h | h
  · cases h
  · split at h
    · simp at h
    · split at h <;> simp at h

/-- The port is opened, or that fails. -/
theorem serialCall_closed (h : SessionInv s) {call : SerialCall} (hcode : s.serial.code = [])
    (hmode : s.serial.mode = .closed) (hs : Gnss.serialCall cfg s .closed call = some s') :
    SessionInv s' := by
  cases call with
  | opened =>
    simp only [Gnss.serialCall] at hs
    split at hs
    · cases hs
    · obtain rfl := Option.some.inj hs
      exact h.opening hcode hmode rfl rfl rfl rfl rfl rfl (by simp)
  | failed error =>
    simp only [Gnss.serialCall] at hs
    split at hs
    · cases hs
    · obtain rfl := Option.some.inj hs
      exact h.leave rfl rfl rfl rfl (clear_mem_leaveSerial _ _)
  | run | partlyWritten count error | read data => cases hs

/-- The loop of a session is at its start. -/
theorem serialCall_session (h : SessionInv s) {call : SerialCall} (hcode : s.serial.code = [])
    (hmode : s.serial.mode = .session) (hs : Gnss.serialCall cfg s .session call = some s') :
    SessionInv s' := by
  cases call with
  | run =>
    simp only [Gnss.serialCall] at hs
    split at hs
    · obtain rfl := Option.some.inj hs
      exact h.leave rfl rfl rfl rfl (clear_mem_leaveSerial _ _)
    · obtain rfl := Option.some.inj hs
      exact h.turn (by simp [hmode]) (by simp) (by simp [hcode]) rfl rfl rfl rfl
        (by simp [Node.inHand, hmode])
  | failed error =>
    obtain rfl := Option.some.inj hs
    exact h.leave rfl rfl rfl rfl (clear_mem_leaveSerial _ _)
  | opened | partlyWritten count error | read data => cases hs

/-- A chunk is taken from the queue, if there is one. -/
theorem serialCall_writing (h : SessionInv s) {call : SerialCall} (hcode : s.serial.code = [])
    (hmode : s.serial.mode = .writing) (hs : Gnss.serialCall cfg s .writing call = some s') :
    SessionInv s' := by
  cases call with
  | run =>
    simp only [Gnss.serialCall] at hs
    split at hs
    · obtain rfl := Option.some.inj hs
      exact h.turn (by simp [hmode]) (by simp) (by simp [hcode]) rfl rfl rfl rfl
        (by simp [Node.inHand, hmode])
    · cases hget : s.rtcmQueue.get with
      | none =>
        simp only [hget] at hs
        obtain rfl := Option.some.inj hs
        exact h.turn (by simp [hmode]) (by simp) (by simp [hcode]) rfl rfl rfl rfl
          (by simp [Node.inHand, hmode])
      | some x =>
        obtain ⟨chunk, q⟩ := x
        simp only [hget] at hs
        obtain rfl := Option.some.inj hs
        exact h.turn (by simp [hmode]) (by simp) (by simp [hcode]) rfl rfl rfl rfl
          (by simp [Node.inHand, hmode, BoundedQueue.get_eq_some.mp hget])
  | failed error | opened | partlyWritten count error | read data => cases hs

/-- The chunk in hand is written, or what a failed write has left of it. -/
theorem serialCall_writingChunk (h : SessionInv s) {call : SerialCall} {chunk : Chunk}
    (hcode : s.serial.code = []) (hmode : s.serial.mode = .writingChunk chunk)
    (hkeep : KeepsSession s (.serial call))
    (hs : Gnss.serialCall cfg s (.writingChunk chunk) call = some s') : SessionInv s' := by
  have hwrote := h.wrote hcode hmode
  cases call with
  | run =>
    obtain rfl := Option.some.inj hs
    exact hwrote
  | partlyWritten count error =>
    obtain rfl := Option.some.inj hs
    rcases hkeep chunk hmode with hzero | hall
    · exact h.leave rfl (by simp [leaveSerial, hzero]) rfl rfl (clear_mem_leaveSerial _ _)
    · by_cases hzero : count = 0
      · exact h.leave rfl (by simp [leaveSerial, hzero]) rfl rfl (clear_mem_leaveSerial _ _)
      · refine hwrote.leave rfl ?_ rfl rfl (clear_mem_leaveSerial _ _)
        simp [leaveSerial, hzero, hall]
  | failed error | opened | read data => cases hs

/-- Sentences are read. -/
theorem serialCall_reading (h : SessionInv s) {call : SerialCall}
    (hmode : s.serial.mode = .reading) (hs : Gnss.serialCall cfg s .reading call = some s') :
    SessionInv s' := by
  cases call with
  | read data =>
    obtain rfl := Option.some.inj hs
    refine h.turn (by simp [hmode]) (by simp) (fun hin => ?_) rfl rfl rfl rfl
      (by simp [Node.inHand, hmode])
    obtain ⟨sentence, -, hin⟩ := List.mem_flatMap.mp hin
    exact clear_not_mem_sentenceOps sentence hin
  | failed error =>
    obtain rfl := Option.some.inj hs
    exact h.leave rfl rfl rfl rfl (clear_mem_leaveSerial _ _)
  | run | opened | partlyWritten count error => cases hs

/-- A call of the serial worker. -/
theorem serialCall (h : SessionInv s) {call : SerialCall} (hcode : s.serial.code = [])
    (hkeep : KeepsSession s (.serial call))
    (hs : Gnss.serialCall cfg s s.serial.mode call = some s') : SessionInv s' := by
  cases hmode : s.serial.mode with
  | closed => exact h.serialCall_closed hcode hmode (hmode ▸ hs)
  | session => exact h.serialCall_session hcode hmode (hmode ▸ hs)
  | writing => exact h.serialCall_writing hcode hmode (hmode ▸ hs)
  | writingChunk chunk => exact h.serialCall_writingChunk hcode hmode hkeep (hmode ▸ hs)
  | reading => exact h.serialCall_reading hmode (hmode ▸ hs)

/-- What a call of the network worker does to the corrections. -/
theorem networkCall_cases {mode : NetworkMode} {call : NetworkCall}
    (hs : networkCall cfg s mode call = some s') :
    (s'.received = s.received ∧ s'.rtcmQueue = s.rtcmQueue ∧
      ((∀ chunk initial, s'.network.mode ≠ .queueing chunk initial) ∨ s' = s)) ∨
    (∃ data initial, s' = receiveChunk s data initial ∧
      ∀ chunk initial, mode ≠ .queueing chunk initial) ∨
    ∃ chunk initial q code, mode = .queueing chunk initial ∧ call = .run ∧
      s.rtcmQueue.put chunk = some q ∧
      s' = { s with rtcmQueue := q, network := ⟨code, .streaming⟩ } := by
  unfold networkCall at hs
  repeat' split at hs
  all_goals cases hs
  all_goals first
    | exact .inl ⟨rfl, rfl, .inr rfl⟩
    | exact .inl ⟨rfl, rfl, .inl (by simp [leaveNetwork])⟩
    | exact .inr (.inl ⟨_, _, rfl, by simp⟩)
    | exact .inr (.inr ⟨_, _, _, _, rfl, rfl, by assumption, rfl⟩)

/-- A call of the network worker. -/
theorem networkCall (h : SessionInv s) {call : NetworkCall} (hcode : s.network.code = [])
    (hkeep : KeepsSession s (.network call))
    (hs : Gnss.networkCall cfg s s.network.mode call = some s') : SessionInv s' := by
  rcases networkCall_cases hs with ⟨hreceived, hqueue, hmode⟩ | hreceive | hput
  · rcases hmode with hmode | rfl
    · have heq := networkCall_eq hs
      have hserial : s'.serial = s.serial := by rw [heq]
      apply h.shrink hreceived
      · rw [heq]
      · rw [heq]
      · rw [hserial]
      · rw [hqueue]
      · exact fun k => .inr (waiting_nil hmode k)
      · rw [hserial]
        exact id
      · rw [hserial]
        exact absurd
    · exact h
  · obtain ⟨data, initial, rfl, hnone⟩ := hreceive
    exact h.receive data initial hnone
  · obtain ⟨chunk, initial, q, code, hmode, rfl, hput, rfl⟩ := hput
    exact h.enqueue hmode hput (hkeep chunk initial hcode hmode)

/-- Every step that keeps the sessions apart keeps the invariant. -/
theorem step (h : SessionInv s) {e : NodeEvent} (hkeep : KeepsSession s e)
    (hs : nodeStep cfg s e = some s') : SessionInv s' := by
  have same : ∀ {s' : Node}, s' = { s' with
      received := s.received, written := s.written, sessions := s.sessions, serial := s.serial
      rtcmQueue := s.rtcmQueue, network := s.network } → SessionInv s' := by
    intro s' heq
    rw [heq]
    exact h.shrink rfl rfl rfl rfl (List.Sublist.refl _) (fun k => .inl rfl) id absurd
  cases e with
  | tick now =>
    change (if s.clock ≤ now then some { s with clock := now } else none) = some s' at hs
    split at hs
    · obtain rfl := Option.some.inj hs
      exact same rfl
    · cases hs
  | stop =>
    obtain rfl := Option.some.inj hs
    exact same rfl
  | timer stamp =>
    obtain rfl := Option.some.inj hs
    apply same
    rw [timerStep_eq]
  | serial call =>
    rcases serialStep_cases hs with ⟨hcode, hs⟩ | ⟨op, rest, hcode, rfl, rfl⟩
    · exact h.serialCall hcode hkeep hs
    · exact h.serialOp hcode
  | network call =>
    rcases networkStep_cases hs with ⟨hcode, hs⟩ | ⟨op, rest, hcode, rfl, rfl⟩
    · exact h.networkCall hcode hkeep hs
    · exact h.networkOp rest

end SessionInv

theorem written_mem {k : ℕ} {chunk : Chunk} (h : (k, chunk) ∈ s.written) :
    chunk ∈ s.writtenIn k :=
  List.mem_filterMap.mpr ⟨(k, chunk), h, if_pos rfl⟩

theorem received_mem {k : ℕ} {chunk : Chunk} (h : chunk ∈ s.receivedIn k) :
    (some k, chunk) ∈ s.received := by
  obtain ⟨⟨tag, chunk'⟩, hin, hx⟩ := List.mem_filterMap.mp h
  split at hx
  · rename_i htag
    obtain rfl := Option.some.inj hx
    rw [← (show tag = some k from htag)]
    exact hin
  · cases hx

/-- **Corrections stay in their session.** In every run in which a chunk is
queued in the session it was received in or ahead of a clear, and no write stops
inside a chunk: what is written to the port in a session are chunks received in
that session, in order and none twice, and no chunk that was received outside
it. -/
theorem session_isolation (cfg : NodeConfig) {clock : ℚ} {tr : List (Node × NodeEvent)} {s : Node}
    (h : Run (nodeStep cfg) KeepsSession (.init clock) tr s) :
    (s.received.map fun x => x.2.index).Nodup ∧
      (∀ k, (s.writtenIn k).Sublist (s.receivedIn k)) ∧
      ∀ k chunk, (k, chunk) ∈ s.written → ∀ tag, (tag, chunk) ∈ s.received → tag = some k := by
  have hinv : SessionInv s := by
    apply h.invariant
    · exact SessionInv.init clock
    · intro tr s e s' ih hkeep hs
      exact ih.step hkeep hs
  have hnodup : (s.received.map fun x => x.2.index).Nodup := by
    rw [hinv.index]
    exact List.nodup_range
  refine ⟨hnodup, hinv.isolated, ?_⟩
  intro k chunk hwritten tag htag
  have hreceived : (some k, chunk) ∈ s.received :=
    received_mem ((hinv.isolated k).subset (written_mem hwritten))
  exact congrArg Prod.fst (List.inj_on_of_nodup_map hnodup htag hreceived rfl)

/-- Does an event queue a chunk of the open session, if any, and fail no write? -/
def queuesOpen (s : Node) : NodeEvent → Bool
  | .network .run =>
    match s.network.mode, s.session with
    | .queueing chunk _, some k => decide ((some k, chunk) ∈ s.received)
    | .queueing _ _, none => false
    | _, _ => true
  | .serial (.partlyWritten _ _) => false
  | _ => true

theorem keepsSession_of_queuesOpen (s : Node) (e : NodeEvent) (h : queuesOpen s e = true) :
    KeepsSession s e := by
  cases e with
  | network call =>
    cases call with
    | run =>
      intro chunk initial _ hmode
      simp only [queuesOpen, hmode] at h
      cases hsession : s.session with
      | some k =>
        simp only [hsession, decide_eq_true_eq] at h
        exact .inr ⟨k, hsession, h⟩
      | none => simp [hsession] at h
    | connected => trivial
    | failed error => trivial
    | timedOut => trivial
    | received data => trivial
  | serial call =>
    cases call with
    | partlyWritten count error => cases h
    | run => trivial
    | opened => trivial
    | failed error => trivial
    | read data => trivial
  | tick now => trivial
  | stop => trivial
  | timer stamp => trivial

/-- A chunk comes in while the serial worker is at the head of its loop. -/
def chunkReceived : List NodeEvent :=
  serialUp ++ ntripUp ++ [.network .run, .network (.received [0xD3])]

/-- The serial worker writes what is queued. -/
def chunkWritten : List NodeEvent := List.replicate 3 (.serial .run)

theorem session_isolation_written : ∃ tr s,
    Run (nodeStep nodeConfigExample) KeepsSession (.init 0) tr s ∧
      s.written = [(1, ⟨0, [0xD3]⟩)] ∧ (s.writtenIn 1).Sublist (s.receivedIn 1) := by
  have hup : (exec (fun s e => if queuesOpen s e then nodeStep nodeConfigExample s e else none)
      (.init 0) (chunkReceived ++ .network .run :: chunkWritten)).map
        (fun s => decide (s.written = [(1, ⟨0, [0xD3]⟩)])) = some true := by
    decide +kernel
  obtain ⟨s, hs, hwritten⟩ := Option.map_eq_some_iff.mp hup
  obtain ⟨tr, -, hrun⟩ := Run.of_exec_test keepsSession_of_queuesOpen hs
  exact ⟨tr, s, hrun, of_decide_eq_true hwritten, (session_isolation nodeConfigExample hrun).2.1 1⟩

/-- The port fails, and is opened again. -/
def portReopened : List NodeEvent :=
  [.serial .run, .serial .run, .serial (.failed "device disconnected")] ++
    List.replicate 8 (.serial .run) ++ .serial .opened :: List.replicate 3 (.serial .run)

/-- **A chunk can leak into the next session.** It is received before the port
fails and queued behind the clear that ends the session: it is written to the
port of the next one. -/
theorem session_leak : ∃ tr s, Run (nodeStep nodeConfigExample) (fun _ _ => True) (.init 0) tr s ∧
    s.received = [(some 1, ⟨0, [0xD3]⟩)] ∧ s.written = [(2, ⟨0, [0xD3]⟩)] ∧
    ¬ (s.writtenIn 2).Sublist (s.receivedIn 2) := by
  have hup : (exec (nodeStep nodeConfigExample) (.init 0)
      (chunkReceived ++ portReopened ++ .network .run :: chunkWritten)).map (fun s => decide (
        s.received = [(some 1, ⟨0, [0xD3]⟩)] ∧ s.written = [(2, ⟨0, [0xD3]⟩)])) = some true := by
    decide +kernel
  obtain ⟨s, hs, hstate⟩ := Option.map_eq_some_iff.mp hup
  simp only [decide_eq_true_eq] at hstate
  obtain ⟨hreceived, hwritten⟩ := hstate
  obtain ⟨tr, -, hrun⟩ := Run.of_exec hs
  refine ⟨tr, s, hrun, hreceived, hwritten, ?_⟩
  simp [Node.writtenIn, Node.receivedIn, hreceived, hwritten]

end Gnss
end SensorSupport
