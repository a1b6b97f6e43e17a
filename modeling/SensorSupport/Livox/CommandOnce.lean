/-
# One callback for each command

`SendCommand` ignores the outcome of its handler's send and registers the
command whatever it was, and it registers it after the send. So a command
whose send failed stays registered after its `SendFailed`, a HAP command can
be acked or time out and then be registered again, and an ack that comes
between a send and the registration behind it is lost. In a run without these
steps every callback is invoked once, and with the right status.

The condition on the steps is `StepOk`, and `settled` the result for the runs
that keep it. The proof follows every call through three phases, `Pending`,
`Failed` and `Done` (`inv_step`).

Key definitions: `AckedAfterSend`, `AckedInTime`, `Expired`, `StepOk`, `Settled`.
Key theorems: `GeneralCommandHandler.settled`.
-/
import SensorSupport.Livox.CommandTable

namespace SensorSupport
namespace Livox
namespace GeneralCommandHandler

variable {κ : Type}

/-! ### What happened to a call -/

section Trace

variable (crc : FastCRC) (i : ℕ) (tr : List (Step κ))

/-- The statuses a call's callback was invoked with. -/
def callbacksOf (s : GeneralCommandHandler κ) (i : ℕ) : List Status := statusesOf s.callbacks i

/-- The step handles the call's ack, and its command was sent. -/
def SentAndAcked (x : Step κ) : Prop :=
  ∃ c d, x.1.calls[i]? = some c ∧ c.sent = some true ∧ x.2 = .receive d ∧ OwnAck crc x.1 c.command d

/-- The step is a tick past the call's deadline. -/
def ExpiredAt (x : Step κ) : Prop :=
  ∃ c t now, x.1.calls[i]? = some c ∧ c.deadline = some t ∧ x.2 = .tick now ∧ t < now

/-- The call's ack was handled after the send. -/
def AckedAfterSend : Prop := Occurs (fun _ x => SentAndAcked crc i x) tr

/-- A tick past the call's deadline has run. -/
def Expired : Prop := Occurs (fun _ x => ExpiredAt i x) tr

/-- The call's ack was handled after the send and before any tick past the
deadline. -/
def AckedInTime : Prop :=
  Occurs (fun before x => SentAndAcked crc i x ∧ ¬ Expired i before) tr

end Trace

/-- What a call is promised: at most one invocation of the callback, and once
the ack, a failed send or a tick past the deadline has settled a call that
returned, exactly one, with `success` exactly for an ack in time. -/
structure Settled (crc : FastCRC) (tr : List (Step κ)) (s : GeneralCommandHandler κ) (i : ℕ)
    (c : SendCall κ) : Prop where
  atMostOnce : (callbacksOf s i).length ≤ 1
  once : c.pc = .returned → AckedAfterSend crc i tr ∨ c.sent = some false ∨ Expired i tr →
    ∃ status, callbacksOf s i = [status] ∧ (status = .success ↔ AckedInTime crc i tr)

/-- The call returned with its packet on the way. -/
def Finished (s : GeneralCommandHandler κ) (i : ℕ) : Prop :=
  ∃ c, s.calls[i]? = some c ∧ c.pc = .returned ∧ c.sent = some true

/-- The steps that keep the promise. A new command's number is not one of an
earlier command. An ack or a tick takes an entry only after its `SendCommand`
has returned with the packet sent, the ack only when it is the command's own,
and no ack comes between a send and the registration behind it. -/
def StepOk (crc : FastCRC) (s : GeneralCommandHandler κ) : Event κ → Prop
  | .begin _ _ _ | .config _ _ _ _ =>
    ∀ c ∈ s.calls, c.command.seqNum ≠ (GenerateSeq.getSeq s.seq).toUInt16.toUInt32
  | .receive d =>
    (∀ n packet (e : Entry κ), s.ackPacket crc d = some (n, packet) → s.commands[n]? = some e →
      Finished s e.command.id ∧ OwnAck crc s e.command d) ∧
    ∀ c ∈ s.calls, c.pc = .add → c.sent = some true → ¬ OwnAck crc s c.command d
  | .tick now =>
    ∀ (n : UInt32) (e : Entry κ), s.commands[n]? = some e → e.deadline < now → Finished s e.command.id
  | _ => True

/-! ### The phases of a call -/

section Phases

variable (crc : FastCRC) (tr : List (Step κ)) (s : GeneralCommandHandler κ) (i : ℕ)
  (c : SendCall κ)

/-- Nothing has settled the call, and what it registered is registered. -/
structure Pending : Prop where
  pc : match c.pc with
    | .register => c.sent = none ∧ c.deadline = none
    | .send => c.sent = none ∧ (c.route = .config → c.deadline ≠ none)
    | .add => c.sent = some true
    | .returned => c.sent = some true ∧ c.deadline ≠ none
  registered : ∀ t, c.deadline = some t → s.entryOf i = some ⟨c.command, t⟩
  callbacks : callbacksOf s i = []
  notAcked : ¬ AckedAfterSend crc i tr
  notExpired : ¬ Expired i tr

/-- The send failed. -/
structure Failed : Prop where
  pc : c.pc = .add ∨ c.pc = .returned
  sent : c.sent = some false
  callbacks : callbacksOf s i = [.sendFailed]
  notAcked : ¬ AckedAfterSend crc i tr

/-- The ack or a tick settled the call. -/
structure Done : Prop where
  pc : c.pc = .returned
  sent : c.sent = some true
  removed : s.entryOf i = none
  outcome : callbacksOf s i = [.success] ∧ AckedInTime crc i tr ∨
    callbacksOf s i = [.timeout] ∧ Expired i tr ∧ ¬ AckedInTime crc i tr

/-- A call is in one of the phases. -/
def CallInv : Prop := Pending crc tr s i c ∨ Failed crc tr s i c ∨ Done crc tr s i c

end Phases

/-- The invariant of the runs that keep `StepOk`. -/
structure Inv (crc : FastCRC) (tr : List (Step κ)) (s : GeneralCommandHandler κ) : Prop where
  valid : Valid s
  distinct : ∀ (i j : ℕ) (c d : SendCall κ), s.calls[i]? = some c → s.calls[j]? = some d →
    c.command.seqNum = d.command.seqNum → i = j
  call : ∀ i c, s.calls[i]? = some c → CallInv crc tr s i c
  later : ∀ i : ℕ, s.calls[i]? = none → ¬ AckedAfterSend crc i tr ∧ ¬ Expired i tr

/-! ### One step -/

section Steps

variable {crc : FastCRC} {tr : List (Step κ)} {s s' : GeneralCommandHandler κ} {i : ℕ}
  {c c' : SendCall κ} {x : Step κ} {e : Event κ} {entry entry' : Option (Entry κ)}
  {new : List Status}

theorem ackedAfterSend_concat :
    AckedAfterSend crc i (tr ++ [x]) ↔ AckedAfterSend crc i tr ∨ SentAndAcked crc i x :=
  occurs_concat

theorem expired_concat : Expired i (tr ++ [x]) ↔ Expired i tr ∨ ExpiredAt i x := occurs_concat

theorem ackedInTime_concat : AckedInTime crc i (tr ++ [x]) ↔
    AckedInTime crc i tr ∨ SentAndAcked crc i x ∧ ¬ Expired i tr := occurs_concat

theorem AckedInTime.ackedAfterSend (h : AckedInTime crc i tr) : AckedAfterSend crc i tr :=
  h.mono fun _ _ hx => hx.1

/-- Only a datagram acks, and only a tick expires. -/
theorem quiet_of_event (crc : FastCRC) (s : GeneralCommandHandler κ) (i : ℕ)
    (hreceive : ∀ d, e ≠ .receive d) (htick : ∀ t, e ≠ .tick t) :
    ¬ SentAndAcked crc i (s, e) ∧ ¬ ExpiredAt i (s, e) :=
  ⟨fun ⟨_, d, _, _, hd, _⟩ => hreceive d hd, fun ⟨_, _, t, _, _, ht, _⟩ => htick t ht⟩

/-- Nothing acks a call whose packet was not sent. -/
theorem not_sentAndAcked (hc : s.calls[i]? = some c) (hsent : c.sent ≠ some true) :
    ¬ SentAndAcked crc i (s, e) := by
  rintro ⟨c', d, hc', hsent', -⟩
  obtain rfl : c' = c := Option.some.inj (hc'.symm.trans hc)
  exact hsent hsent'

/-- A pending call whose step leaves it pending. -/
theorem Pending.step (h : Pending crc tr s i c)
    (hquiet : ¬ SentAndAcked crc i (s, e) ∧ ¬ ExpiredAt i (s, e))
    (hpc : match c'.pc with
      | .register => c'.sent = none ∧ c'.deadline = none
      | .send => c'.sent = none ∧ (c'.route = .config → c'.deadline ≠ none)
      | .add => c'.sent = some true
      | .returned => c'.sent = some true ∧ c'.deadline ≠ none)
    (hregistered : ∀ t, c'.deadline = some t → s'.entryOf i = some ⟨c'.command, t⟩)
    (hcb : callbacksOf s' i = callbacksOf s i) : CallInv crc (tr ++ [(s, e)]) s' i c' :=
  .inl ⟨hpc, hregistered, hcb ▸ h.callbacks,
    ackedAfterSend_concat.not.mpr (not_or.mpr ⟨h.notAcked, hquiet.1⟩),
    expired_concat.not.mpr (not_or.mpr ⟨h.notExpired, hquiet.2⟩)⟩

/-- A failed call stays failed. -/
theorem Failed.step (h : Failed crc tr s i c) (hc : s.calls[i]? = some c)
    (hpc : c'.pc = .add ∨ c'.pc = .returned) (hsent : c'.sent = c.sent)
    (hcb : callbacksOf s' i = callbacksOf s i) : CallInv crc (tr ++ [(s, e)]) s' i c' :=
  .inr (.inl ⟨hpc, hsent ▸ h.sent, hcb ▸ h.callbacks, ackedAfterSend_concat.not.mpr
    (not_or.mpr ⟨h.notAcked, not_sentAndAcked hc (by simp [h.sent])⟩)⟩)

/-- A settled call stays settled. -/
theorem Done.step (h : Done crc tr s i c) (hentry : s'.entryOf i = s.entryOf i)
    (hcb : callbacksOf s' i = callbacksOf s i) : CallInv crc (tr ++ [(s, e)]) s' i c := by
  refine .inr (.inr ⟨h.pc, h.sent, hentry ▸ h.removed, ?_⟩)
  rw [hcb, ackedInTime_concat, expired_concat]
  rcases h.outcome with ⟨hst, hin⟩ | ⟨hst, hexp, hnot⟩
  · exact .inl ⟨hst, .inl hin⟩
  · exact .inr ⟨hst, .inl hexp, not_or.mpr ⟨hnot, fun h => h.2 hexp⟩⟩

/-- A pending call whose entry stays is not settled. -/
theorem Pending.quiet (h : Pending crc tr s i c) (hc : s.calls[i]? = some c) (hok : StepOk crc s e)
    (hreceive : ∀ d packet, e = .receive d →
      s.ackPacket crc d = some (c.command.seqNum, packet) → s.entryOf i = none)
    (htick : ∀ now a, e = .tick now → s.entryOf i = some a → ¬ a.deadline < now) :
    ¬ SentAndAcked crc i (s, e) ∧ ¬ ExpiredAt i (s, e) := by
  refine ⟨?_, ?_⟩
  · rintro ⟨c', d, hc', hsent, rfl, hown⟩
    obtain rfl : c' = c := Option.some.inj (hc'.symm.trans hc)
    obtain ⟨packet, hack, hrest⟩ := hown
    have hphase := h.pc
    cases hpc : c'.pc with
    | register => simp [hpc, hsent] at hphase
    | send => simp [hpc, hsent] at hphase
    | add => exact hok.2 c' (List.mem_of_getElem? hc) hpc hsent ⟨packet, hack, hrest⟩
    | returned =>
      rw [hpc] at hphase
      obtain ⟨t, ht⟩ := Option.ne_none_iff_exists'.mp hphase.2
      cases (hreceive d packet rfl hack).symm.trans (h.registered t ht)
  · rintro ⟨c', t, now, hc', hdl, rfl, hlt⟩
    obtain rfl : c' = c := Option.some.inj (hc'.symm.trans hc)
    exact htick now _ rfl (h.registered t hdl) hlt

/-- An entry that an ack or a tick takes is that of a pending call. -/
theorem CallInv.pending_of_finished {a : Entry κ} (h : CallInv crc tr s i c) (hc : s.calls[i]? = some c)
    (ha : s.entryOf i = some a) (hfin : Finished s i) :
    Pending crc tr s i c ∧ c.pc = .returned ∧ c.sent = some true := by
  obtain ⟨c', hc', hpc, hsent⟩ := hfin
  obtain rfl : c' = c := Option.some.inj (hc'.symm.trans hc)
  rcases h with hp | hf | hd
  · exact ⟨hp, hpc, hsent⟩
  · simp [hf.sent] at hsent
  · cases hd.removed.symm.trans ha

/-- A step of the call's, or one that takes its entry, leads to its next
phase. -/
theorem callInv_step (h : Inv crc tr s) (hc : s.calls[i]? = some c) (hok : StepOk crc s e)
    (hentry : s.entryOf i = entry) (hentry' : s'.entryOf i = entry')
    (hstep : CallStep crc s i c entry e c' entry' new)
    (hcb : callbacksOf s' i = callbacksOf s i ++ new) : CallInv crc (tr ++ [(s, e)]) s' i c' := by
  have hcall := h.call i c hc
  have hregistered : ∀ (t now : ℕ) (d : SendCall κ), d.deadline = some now →
      entry' = some ⟨d.command, now⟩ → d.deadline = some t → s'.entryOf i = some ⟨d.command, t⟩ := by
    rintro t now d hnow rfl ht
    cases hnow.symm.trans ht
    exact hentry'
  cases hstep with
  | same hreceive htick =>
    rw [List.append_nil] at hcb
    subst hentry
    rcases hcall with hp | hf | hd
    · have hquiet := hp.quiet hc hok hreceive htick
      exact hp.step hquiet hp.pc (fun t ht => hentry' ▸ hp.registered t ht) hcb
    · exact hf.step hc hf.pc rfl hcb
    · exact hd.step hentry' hcb
  | overwritten hd hj hseq hev => exact absurd (h.distinct _ _ _ _ hd hc hseq) hj
  | register hpc =>
    rw [List.append_nil] at hcb
    rcases hcall with hp | hf | hd
    · have hphase := hp.pc
      rw [hpc] at hphase
      exact hp.step (quiet_of_event crc s i (fun _ => by simp) fun _ => by simp)
        ⟨hphase.1, fun _ => Option.some_ne_none _⟩ (fun t => hregistered t _ _ rfl rfl) hcb
    · rcases hf.pc with h1 | h1 <;> cases hpc.symm.trans h1
    · cases hpc.symm.trans hd.pc
  | send hpc =>
    rename_i ok
    rcases hcall with hp | hf | hd
    · have hphase := hp.pc
      rw [hpc] at hphase
      have hquiet := quiet_of_event crc s i (e := Event.send i ok) (fun _ => by simp) fun _ => by simp
      cases ok with
      | true =>
        rw [if_pos rfl, List.append_nil] at hcb
        refine hp.step hquiet ?_ (fun t ht => hentry'.trans (hentry.symm.trans (hp.registered t ht))) hcb
        cases hroute : c.route with
        | general => rfl
        | config => exact ⟨rfl, hphase.2 hroute⟩
      | false =>
        refine .inr (.inl ⟨?_, rfl, by rw [hcb, hp.callbacks]; rfl,
          ackedAfterSend_concat.not.mpr (not_or.mpr ⟨hp.notAcked, hquiet.1⟩)⟩)
        cases c.route with
        | general => exact .inl rfl
        | config => exact .inr rfl
    · rcases hf.pc with h1 | h1 <;> cases hpc.symm.trans h1
    · cases hpc.symm.trans hd.pc
  | add hpc =>
    rw [List.append_nil] at hcb
    rcases hcall with hp | hf | hd
    · have hphase := hp.pc
      rw [hpc] at hphase
      exact hp.step (quiet_of_event crc s i (fun _ => by simp) fun _ => by simp)
        ⟨hphase, Option.some_ne_none _⟩ (fun t => hregistered t _ _ rfl rfl) hcb
    · exact hf.step hc (.inr rfl) rfl hcb
    · cases hpc.symm.trans hd.pc
  | complete he hack =>
    rename_i d packet a
    rw [he] at hentry
    obtain ⟨hn, rfl⟩ := (entryOf_eq_some hc).mp hentry
    obtain ⟨hfin, hown⟩ := hok.1 _ packet a hack hn
    obtain ⟨hp, hpc, hsent⟩ := hcall.pending_of_finished hc hentry hfin
    refine .inr (.inr ⟨hpc, hsent, hentry', .inl ⟨by rw [hcb, hp.callbacks]; rfl, ?_⟩⟩)
    exact ackedInTime_concat.mpr (.inr ⟨⟨c, d, hc, hsent, rfl,
      (h.valid.entryOf_spec hc hentry).1 ▸ hown⟩, hp.notExpired⟩)
  | expire he hlt =>
    rename_i now a
    rw [he] at hentry
    obtain ⟨hn, rfl⟩ := (entryOf_eq_some hc).mp hentry
    obtain ⟨hp, hpc, hsent⟩ := hcall.pending_of_finished hc hentry (hok _ a hn hlt)
    refine .inr (.inr ⟨hpc, hsent, hentry', .inr ⟨by rw [hcb, hp.callbacks]; rfl, ?_, ?_⟩⟩)
    · have hdeadline := (h.valid.entryOf_spec hc hentry).2
      exact expired_concat.mpr (.inr ⟨c, a.deadline, now, hc, hdeadline, rfl, hlt⟩)
    · rw [ackedInTime_concat]
      rintro (hin | ⟨⟨-, d, -, -, hd, -⟩, -⟩)
      · exact hp.notAcked hin.ackedAfterSend
      · cases hd

/-- A new call is pending. -/
theorem callInv_new (h : Inv crc tr s) (hnone : s.calls[i]? = none) (hc' : s'.calls[i]? = some c')
    (hstep : s.step crc e = some s') : CallInv crc (tr ++ [(s, e)]) s' i c' := by
  obtain ⟨-, hroute, hpc, hsent, hdl, -, hcallbacks⟩ := step_new hstep hnone hc'
  obtain ⟨hacked, hexpired⟩ := h.later i hnone
  obtain ⟨hnotAcked, hnotExpired⟩ : ¬ SentAndAcked crc i (s, e) ∧ ¬ ExpiredAt i (s, e) := by
    rcases hroute with ⟨⟨_, _, rfl⟩, -⟩ | ⟨⟨_, _, _, rfl⟩, -⟩ <;>
      exact quiet_of_event crc s i (fun _ => by simp) fun _ => by simp
  refine .inl ⟨?_, fun t ht => ?_, ?_, ?_, ?_⟩
  · rcases hpc with hpc | hpc <;> rw [hpc]
    · exact ⟨hsent, hdl⟩
    · refine ⟨hsent, fun hconfig => ?_⟩
      rcases hroute with ⟨-, hgeneral⟩ | ⟨-, hregister⟩
      · cases hgeneral.symm.trans hconfig
      · cases hregister.symm.trans hpc
  · cases hdl.symm.trans ht
  · rw [callbacksOf, hcallbacks, h.valid.statusesOf_eq_nil hnone]
  · exact ackedAfterSend_concat.not.mpr (not_or.mpr ⟨hacked, hnotAcked⟩)
  · exact expired_concat.not.mpr (not_or.mpr ⟨hexpired, hnotExpired⟩)

/-- A call behind a step was there, or is new and has a new number. -/
theorem call_of_step (h : Inv crc tr s) (hok : StepOk crc s e) (hstep : s.step crc e = some s')
    (hc' : s'.calls[i]? = some c') :
    (∃ c, s.calls[i]? = some c ∧ c'.command = c.command) ∨
      i = s.calls.length ∧ ∀ d ∈ s.calls, d.command.seqNum ≠ c'.command.seqNum := by
  cases hc : s.calls[i]? with
  | none =>
    obtain ⟨hi, hroute, -, -, -, hseq, -⟩ := step_new hstep hc hc'
    refine .inr ⟨hi, ?_⟩
    rw [hseq]
    rcases hroute with ⟨⟨_, _, rfl⟩, -⟩ | ⟨⟨_, _, _, rfl⟩, -⟩ <;> exact hok
  | some c =>
    obtain ⟨c'', _, hc'', -, hcall⟩ := step_call h.valid hc hstep
    obtain rfl : c' = c'' := Option.some.inj (hc'.symm.trans hc'')
    exact .inl ⟨c, rfl, hcall.command.1⟩

/-- Every step that meets the condition keeps the invariant. -/
theorem inv_step (h : Inv crc tr s) (hok : StepOk crc s e) (hstep : s.step crc e = some s') :
    Inv crc (tr ++ [(s, e)]) s' := by
  refine ⟨h.valid.step hstep, fun i j c d hc hd hseq => ?_, fun i c' hc' => ?_, fun i hi => ?_⟩
  · rcases call_of_step h hok hstep hc with ⟨c₀, hc₀, hcmd⟩ | ⟨rfl, hfresh⟩ <;>
      rcases call_of_step h hok hstep hd with ⟨d₀, hd₀, hcmd'⟩ | ⟨rfl, hfresh'⟩
    · exact h.distinct i j c₀ d₀ hc₀ hd₀ (by rw [← hcmd, ← hcmd', hseq])
    · exact absurd (hcmd ▸ hseq) (hfresh' c₀ (List.mem_of_getElem? hc₀))
    · exact absurd (hcmd' ▸ hseq).symm (hfresh d₀ (List.mem_of_getElem? hd₀))
    · rfl
  · cases hc : s.calls[i]? with
    | none => exact callInv_new h hc hc' hstep
    | some c =>
      obtain ⟨c'', new, hc'', hcallbacks, hcall⟩ := step_call h.valid hc hstep
      obtain rfl : c' = c'' := Option.some.inj (hc'.symm.trans hc'')
      exact callInv_step h hc hok rfl rfl hcall
        (by rw [callbacksOf, hcallbacks, statusesOf_append, callbacksOf])
  · have hnone : s.calls[i]? = none := by
      cases hc : s.calls[i]? with
      | none => rfl
      | some c =>
        obtain ⟨c', -, hc', -⟩ := step_call h.valid hc hstep
        cases hi.symm.trans hc'
    obtain ⟨hacked, hexpired⟩ := h.later i hnone
    refine ⟨ackedAfterSend_concat.not.mpr (not_or.mpr ⟨hacked, ?_⟩),
      expired_concat.not.mpr (not_or.mpr ⟨hexpired, ?_⟩)⟩
    · rintro ⟨c, d, hc, -⟩
      cases hnone.symm.trans hc
    · rintro ⟨c, t, now, hc, -⟩
      cases hnone.symm.trans hc

end Steps

/-! ### Runs -/

variable {crc : FastCRC} {tr : List (Step κ)} {s : GeneralCommandHandler κ}

theorem inv_init (isView : Bool) : Inv crc [] (init isView : GeneralCommandHandler κ) :=
  ⟨valid_init isView, by simp [init], by simp [init], fun _ _ => ⟨not_occurs_nil, not_occurs_nil⟩⟩

theorem inv_run {isView : Bool} (h : Run (step crc) (StepOk crc) (init isView) tr s) :
    Inv crc tr s :=
  h.invariant (inv_init isView) fun _ _ _ _ => inv_step

/-- The phases keep the promise. -/
theorem CallInv.toSettled {i : ℕ} {c : SendCall κ} (h : CallInv crc tr s i c) :
    Settled crc tr s i c := by
  rcases h with h | h | h
  · refine ⟨by simp [h.callbacks], fun hpc hsettled => ?_⟩
    have hphase := h.pc
    rw [hpc] at hphase
    rcases hsettled with hacked | hfailed | hexpired
    · exact absurd hacked h.notAcked
    · simp [hphase.1] at hfailed
    · exact absurd hexpired h.notExpired
  · exact ⟨by simp [h.callbacks], fun _ _ => ⟨_, h.callbacks,
      iff_of_false (by simp) fun hin => h.notAcked hin.ackedAfterSend⟩⟩
  · rcases h.outcome with ⟨hcb, hin⟩ | ⟨hcb, -, hnot⟩
    · exact ⟨by simp [hcb], fun _ _ => ⟨_, hcb, iff_of_true rfl hin⟩⟩
    · exact ⟨by simp [hcb], fun _ _ => ⟨_, hcb, iff_of_false (by simp) hnot⟩⟩

/-- **Every command's callback is invoked once, and with the right status**,
in a run whose steps keep `StepOk`. -/
theorem settled (crc : FastCRC) (isView : Bool) (tr : List (Step κ)) (s : GeneralCommandHandler κ)
    (h : Run (step crc) (StepOk crc) (init isView) tr s) (i : ℕ) (c : SendCall κ)
    (hc : s.calls[i]? = some c) : Settled crc tr s i c :=
  ((inv_run h).call i c hc).toSettled

/-- One command to a Mid360, and what comes before a tick. -/
def oneCommand (sent : Bool) : List (Event Unit) :=
  [.detected 1 kLivoxLidarTypeMid360, .begin 1 0x0100 (), .send 0 sent, .add 0 0]

/-- The run in which the command is sent. -/
theorem oneCommand_run :
    ∃ (tr : List (Step Unit)) (s : GeneralCommandHandler Unit) (c : SendCall Unit),
      tr.map Prod.snd = oneCommand true ∧
        Run (step FastCRC.standard) (StepOk FastCRC.standard) (init false) tr s ∧
        s.calls = [c] ∧ c.pc = .returned ∧ c.sent = some true ∧
        c.command = ⟨0, 2, 0x0100, kCommandTypeCmd, 1, kDefaultTimeOut, ()⟩ ∧
        s.commands = (∅ : Std.TreeMap UInt32 (Entry Unit)).insert 2 ⟨c.command, 1000⟩ ∧
        s.callbacks = [] := by
  have hinit : Run (step FastCRC.standard) (StepOk FastCRC.standard)
    (init false : GeneralCommandHandler Unit) [] (init false) := .nil
  have hdetected := hinit.snoc (e := Event.detected 1 kLivoxLidarTypeMid360) trivial rfl
  have hbegin := hdetected.snoc (e := Event.begin 1 0x0100 ()) (fun c hc => nomatch hc) rfl
  have hsend := hbegin.snoc (e := Event.send 0 true) trivial rfl
  exact ⟨_, _, _, rfl, hsend.snoc (e := Event.add 0 0) trivial rfl, rfl, rfl, rfl, rfl, rfl,
    rfl⟩

/-- A command that nobody answers. -/
theorem settled_unanswered :
    ∃ (tr : List (Step Unit)) (s : GeneralCommandHandler Unit) (c : SendCall Unit),
      tr.map Prod.snd = oneCommand true ++ [.tick 2000] ∧ s.calls = [c] ∧
        Settled FastCRC.standard tr s 0 c := by
  obtain ⟨tr, s, c, htr, hrun, hcalls, hpc, hsent, hcommand, hcommands, -⟩ := oneCommand_run
  refine ⟨_, s.commandsHandle 2000, c, ?_, hcalls,
    settled _ false _ _ (hrun.snoc (e := Event.tick 2000) ?_ rfl) 0 c ?_⟩
  · simp [htr]
  · intro n e he _
    rw [hcommands, getElem?_insert] at he
    split at he
    · cases he
      exact ⟨c, by simp [hcommand, hcalls], hpc, hsent⟩
    · simp at he
  · exact (congrArg (·[0]?) hcalls).trans rfl

/-- The callback of a command whose send failed is invoked again by a tick. -/
theorem settled_failedSend :
    ∃ (tr : List (Step Unit)) (s : GeneralCommandHandler Unit) (c : SendCall Unit),
      Run (step FastCRC.standard) (fun _ _ => True) (init false) tr s ∧
        tr.map Prod.snd = oneCommand false ++ [.tick 2000] ∧ s.calls = [c] ∧
          ¬ Settled FastCRC.standard tr s 0 c := by
  obtain ⟨s, hs⟩ : ∃ s, exec (step FastCRC.standard) (init false)
      (oneCommand false ++ [.tick 2000]) = some s := ⟨_, rfl⟩
  obtain ⟨tr, hevents, hrun⟩ := Run.of_exec hs
  cases hs
  refine ⟨tr, _, _, hrun, hevents, rfl, fun h => absurd h.atMostOnce (by decide +kernel)⟩

end GeneralCommandHandler
end Livox
end SensorSupport
