/-
# Which ack completes a command

The table is keyed by the sequence number, and nothing else of an ack is
compared with the command that is registered under its number: neither the
lidar the ack comes from nor its `cmd_id`. So a success is due to an ack with
the command's number, and that command is the one registered last under it.
This holds of every run, also when the numbers go around.

Key definitions: `LastRegistered`, `CompletedBy`, `Attributed`.
Key theorems: `GeneralCommandHandler.attributed`.
-/
import SensorSupport.Livox.CommandOnce

namespace SensorSupport
namespace Livox
namespace GeneralCommandHandler

open CommPort

variable {κ : Type}

section Trace

variable (crc : FastCRC) (n : UInt32) (e : Entry κ)

/-- The step registers an entry under a number. -/
def Registers (x : Step κ) : Prop :=
  ∃ id c now, x.1.calls[id]? = some c ∧ (x.2 = .register id now ∨ x.2 = .add id now) ∧
    n = c.command.seqNum ∧ e = ⟨c.command, now + c.command.timeOut⟩

/-- The step handles an ack with the number. -/
def AcksNumber (x : Step κ) : Prop :=
  ∃ d packet, x.2 = .receive d ∧ x.1.ackPacket crc d = some (n, packet)

/-- The entry is what was registered last under the number, and no ack with the
number was handled since. -/
def LastRegistered (tr : List (Step κ)) : Prop :=
  ∃ before x after, tr = before ++ x :: after ∧ Registers n e x ∧
    ∀ y ∈ after, (∀ e', ¬ Registers n e' y) ∧ ¬ AcksNumber crc n y

/-- The step invokes the callback because of an ack with the number its command
was registered last under. -/
def CompletedBy (cb : Callback κ) (before : List (Step κ)) (x : Step κ) : Prop :=
  ∃ d packet deadline, x.2 = .receive d ∧
    x.1.ackPacket crc d = some (cb.command.seqNum, packet) ∧ cb.handle = d.handle ∧
    cb.data = packet.data ∧ LastRegistered crc cb.command.seqNum ⟨cb.command, deadline⟩ before

end Trace

/-- What the table promises: every success is due to an ack with the command's
number, and a datagram without such an ack leaves the command registered and
its callback alone. -/
structure Attributed (crc : FastCRC) (tr : List (Step κ)) (s : GeneralCommandHandler κ) : Prop where
  success : ∀ cb ∈ s.callbacks, cb.status = .success → Occurs (CompletedBy crc cb) tr
  others : ∀ (d : Datagram) (n : UInt32) (e : Entry κ), s.commands[n]? = some e →
    (∀ packet, s.ackPacket crc d ≠ some (n, packet)) →
      (s.receive crc d).commands[n]? = some e ∧
        ∀ cb, (s.receive crc d).callbacks = s.callbacks ++ [cb] → cb.command.seqNum ≠ n

/-- The invariant of all runs, besides the validity of the table. -/
structure TableInv (crc : FastCRC) (tr : List (Step κ)) (s : GeneralCommandHandler κ) : Prop where
  entry : ∀ (n : UInt32) (e : Entry κ), s.commands[n]? = some e → LastRegistered crc n e tr
  success : ∀ cb ∈ s.callbacks, cb.status = .success → Occurs (CompletedBy crc cb) tr

section Steps

variable {crc : FastCRC} {tr : List (Step κ)} {s s' : GeneralCommandHandler κ} {n : UInt32}
  {e : Entry κ} {x : Step κ} {ev : Event κ}

/-- A step that neither registers nor acks under the number. -/
theorem LastRegistered.concat (h : LastRegistered crc n e tr) (hreg : ∀ e', ¬ Registers n e' x)
    (hack : ¬ AcksNumber crc n x) : LastRegistered crc n e (tr ++ [x]) := by
  obtain ⟨before, y, after, rfl, hy, hafter⟩ := h
  refine ⟨before, y, after ++ [x], by simp, hy, fun z hz => ?_⟩
  rcases List.mem_append.mp hz with hz | hz
  · exact hafter z hz
  · rw [List.mem_singleton.mp hz]
    exact ⟨hreg, hack⟩

theorem lastRegistered_of_registers (h : Registers n e x) : LastRegistered crc n e (tr ++ [x]) :=
  ⟨tr, x, [], rfl, h, by simp⟩

/-- Only two of the events register, and only a datagram acks. -/
theorem not_registers (hregister : ∀ id now, ev ≠ .register id now)
    (hadd : ∀ id now, ev ≠ .add id now) : ¬ Registers n e (s, ev) := by
  rintro ⟨id, c, now, -, h | h, -⟩
  · exact hregister id now h
  · exact hadd id now h

theorem not_acksNumber (hreceive : ∀ d, ev ≠ .receive d) : ¬ AcksNumber crc n (s, ev) :=
  fun ⟨d, _, h, _⟩ => hreceive d h

/-- A step that only removes entries, and adds no success. -/
theorem tableInv_of_subset (h : TableInv crc tr s)
    (hcommands : ∀ (n : UInt32) (e : Entry κ), s'.commands[n]? = some e → s.commands[n]? = some e)
    (hcallbacks : ∀ cb ∈ s'.callbacks, cb.status = .success → cb ∈ s.callbacks)
    (hregister : ∀ id now, ev ≠ .register id now) (hadd : ∀ id now, ev ≠ .add id now)
    (hack : ∀ (n : UInt32) (e : Entry κ), s'.commands[n]? = some e → ¬ AcksNumber crc n (s, ev)) :
    TableInv crc (tr ++ [(s, ev)]) s' := by
  refine ⟨fun n e he => ?_, fun cb hcb hst => ?_⟩
  · exact (h.entry n e (hcommands n e he)).concat (fun e' => not_registers hregister hadd) (hack n e he)
  · exact occurs_concat.mpr (.inl (h.success cb (hcallbacks cb hcb hst) hst))

/-- A registration. -/
theorem tableInv_register {id : ℕ} {c : SendCall κ} {pc : Pc} {now : ℕ} (hv : Valid s)
    (h : TableInv crc tr s) (hc : s.calls[id]? = some c)
    (hev : ev = .register id now ∨ ev = .add id now) :
    TableInv crc (tr ++ [(s, ev)]) (s.register id c pc now) := by
  refine ⟨fun n e he => ?_, fun cb hcb hst => ?_⟩
  · rw [register_commands _ _ _ _ (hv.call id c hc).2] at he
    by_cases hn : c.command.seqNum = n
    · rw [if_pos hn] at he
      cases he
      exact lastRegistered_of_registers ⟨id, c, now, hc, hev, hn.symm, rfl⟩
    · rw [if_neg hn] at he
      refine (h.entry n e he).concat ?_ (not_acksNumber fun d hd => ?_)
      · rintro e' ⟨id', c', now', hc', hev', rfl, -⟩
        have hid : id' = id := by
          rcases hev with rfl | rfl <;> rcases hev' with hev' | hev' <;> cases hev' <;> rfl
        obtain rfl : c' = c := Option.some.inj (hc'.symm.trans (hid ▸ hc))
        exact hn rfl
      · rcases hev with rfl | rfl <;> cases hd
  · rw [register_callbacks] at hcb
    exact occurs_concat.mpr (.inl (h.success cb hcb hst))

/-- A datagram. -/
theorem tableInv_receive {d : Datagram} (hv : Valid s) (h : TableInv crc tr s) :
    TableInv crc (tr ++ [(s, .receive d)]) (s.receive crc d) := by
  have hacks : ∀ n, AcksNumber crc n (s, (.receive d : Event κ)) →
      ∃ packet, s.ackPacket crc d = some (n, packet) := by
    rintro n ⟨d', packet, hd, hp⟩
    cases hd
    exact ⟨packet, hp⟩
  have hskip : (∀ (n : UInt32) (e : Entry κ), s.commands[n]? = some e →
      ∀ packet, s.ackPacket crc d ≠ some (n, packet)) → TableInv crc (tr ++ [(s, .receive d)]) s := by
    intro hother
    refine tableInv_of_subset h (fun _ _ => id) (fun _ hcb _ => hcb) (fun _ _ => by simp)
      (fun _ _ => by simp) fun n e he hack => ?_
    obtain ⟨packet, hpacket⟩ := hacks n hack
    exact hother n e he packet hpacket
  rw [receive_eq]
  cases hp : s.ackPacket crc d with
  | none => exact hskip fun _ _ _ _ hpacket => by cases hp.symm.trans hpacket
  | some ack =>
    obtain ⟨seq, packet⟩ := ack
    simp only
    cases he : s.commands[seq]? with
    | none =>
      refine hskip fun n e hn packet' hpacket => ?_
      cases hp.symm.trans hpacket
      cases he.symm.trans hn
    | some e =>
      obtain ⟨-, -, -, -, rfl⟩ := hv.entry seq e he
      have hlast := h.entry _ e he
      refine ⟨fun n e' he' => ?_, fun cb hcb hst => ?_⟩
      · have hcommands : (s.commands.erase e.command.seqNum)[n]? = some e' := he'
        rw [getElem?_erase] at hcommands
        split at hcommands
        · cases hcommands
        · rename_i hne
          refine (h.entry n e' hcommands).concat (fun _ => not_registers (by simp) (by simp)) ?_
          intro hack
          obtain ⟨packet', hpacket⟩ := hacks n hack
          exact hne (Prod.mk.inj (Option.some.inj (hp.symm.trans hpacket))).1
      · rw [occurs_concat]
        rcases List.mem_append.mp hcb with hcb | hcb
        · exact .inl (h.success cb hcb hst)
        · rw [List.mem_singleton.mp hcb]
          exact .inr ⟨d, packet, e.deadline, rfl, hp, rfl, rfl, hlast⟩

theorem tableInv_step (hv : Valid s) (h : TableInv crc tr s) (hstep : s.step crc ev = some s') :
    TableInv crc (tr ++ [(s, ev)]) s' := by
  cases ev with
  | begin handle cmdId cb =>
    cases hstep
    refine tableInv_of_subset h (fun n e he => ?_) (fun cb hcb _ => ?_) (fun _ _ => by simp)
      (fun _ _ => by simp) fun _ _ _ => not_acksNumber fun _ => by simp
    · rw [beginSend] at he
      cases hhandler : s.getLidarCommandHandler handle <;> rw [hhandler] at he <;> exact he
    · unfold beginSend at hcb
      cases hhandler : s.getLidarCommandHandler handle <;> rw [hhandler] at hcb <;> exact hcb
  | config devType handle cmdId cb =>
    obtain ⟨t, -, rfl⟩ := Option.map_eq_some_iff.mp hstep
    exact tableInv_of_subset h (fun _ _ => id) (fun _ hcb _ => hcb) (fun _ _ => by simp)
      (fun _ _ => by simp) fun _ _ _ => not_acksNumber fun _ => by simp
  | register id now =>
    obtain ⟨c, hc, -, rfl⟩ := bind_if_eq_some.mp hstep
    exact tableInv_register hv h hc (.inl rfl)
  | send id ok =>
    obtain ⟨c, hc, -, rfl⟩ := bind_if_eq_some.mp hstep
    refine tableInv_of_subset h (fun n e he => send_commands ▸ he) (fun cb hcb hst => ?_) (by simp)
      (by simp) fun _ _ _ => not_acksNumber (by simp)
    rw [send_callbacks, List.mem_append] at hcb
    refine hcb.resolve_right fun hcb => ?_
    cases ok with
    | true => cases hcb
    | false =>
      rw [List.mem_singleton.mp hcb] at hst
      cases hst
  | add id now =>
    obtain ⟨c, hc, -, rfl⟩ := bind_if_eq_some.mp hstep
    exact tableInv_register hv h hc (.inr rfl)
  | receive d =>
    cases hstep
    exact tableInv_receive hv h
  | tick now =>
    cases hstep
    refine tableInv_of_subset h (fun n e he => ?_) (fun cb hcb hst => ?_) (by simp) (by simp)
      fun _ _ _ => not_acksNumber (by simp)
    · rw [commandsHandle_commands] at he
      exact (Option.filter_eq_some_iff.mp he).1
    · rcases List.mem_append.mp hcb with hcb | hcb
      · exact hcb
      · obtain ⟨command, -, rfl⟩ := List.mem_map.mp hcb
        cases hst
  | detected handle devType =>
    cases hstep
    exact tableInv_of_subset h (fun _ _ => id) (fun _ hcb _ => hcb) (by simp) (by simp)
      fun _ _ _ => not_acksNumber (by simp)

theorem tableInv_run {isView : Bool} (h : Run (step crc) (fun _ _ => True) (init isView) tr s) :
    Valid s ∧ TableInv crc tr s := by
  induction h with
  | nil => exact ⟨valid_init isView, by simp [init], by simp [init]⟩
  | snoc _ _ hstep ih => exact ⟨ih.1.step hstep, tableInv_step ih.1 ih.2 hstep⟩

/-- A datagram without an ack of the number. -/
theorem receive_other {d : Datagram} (h : Valid s) (he : s.commands[n]? = some e)
    (hother : ∀ packet, s.ackPacket crc d ≠ some (n, packet)) :
    (s.receive crc d).commands[n]? = some e ∧
      ∀ cb, (s.receive crc d).callbacks = s.callbacks ++ [cb] → cb.command.seqNum ≠ n := by
  rw [receive_eq]
  cases hp : s.ackPacket crc d with
  | none => exact ⟨he, by simp⟩
  | some ack =>
    obtain ⟨seq, packet⟩ := ack
    have hne : seq ≠ n := fun hn => hother packet (hn ▸ hp)
    simp only
    cases hseq : s.commands[seq]? with
    | none => exact ⟨he, by simp⟩
    | some e' =>
      refine ⟨?_, fun cb hcb => ?_⟩
      · exact getElem?_erase.trans (by rw [if_neg hne, he])
      · obtain rfl := List.singleton_inj.mp (List.append_cancel_left hcb)
        obtain ⟨-, -, -, -, rfl⟩ := h.entry seq e' hseq
        exact hne

end Steps

/-- **Only an ack with its number completes a command**, the number being the
one the command is registered last under, in every run. -/
theorem attributed (crc : FastCRC) (isView : Bool) (tr : List (Step κ)) (s : GeneralCommandHandler κ)
    (h : Run (step crc) (fun _ _ => True) (init isView) tr s) : Attributed crc tr s :=
  have ⟨hvalid, hinv⟩ := tableInv_run h
  ⟨hinv.success, fun _ _ _ => receive_other hvalid⟩

/-- An ack of some other command, with the number 2. -/
def foreignAck : CommPacket := ⟨kLidarSdk, 0, 2, 0x0101, kCommandTypeAck, 1, some ⟨memOf [0], 0⟩, 1⟩

/-- `foreignAck` from the lidar 7. -/
def foreignDatagram : Datagram :=
  ⟨none, 7, 56100, packed FastCRC.standard (memOf []) foreignAck, 25⟩

theorem ackPacket_foreign (s : GeneralCommandHandler Unit) :
    s.ackPacket FastCRC.standard foreignDatagram =
      some (2, framePacket (packed FastCRC.standard (memOf []) foreignAck)) := by
  have hparse := (parse_packed FastCRC.standard (memOf [])
    (show Packable foreignAck from ⟨rfl, fun _ => rfl⟩) (by decide)).1
  have hwire : (wireLen foreignAck).toUInt32 = 25 := by decide
  have hf := packed_hasFields FastCRC.standard (memOf []) foreignAck
  have htype : (framePacket (packed FastCRC.standard (memOf []) foreignAck)).cmdType =
      kCommandTypeAck := hf.cmdType
  have hseq : (framePacket (packed FastCRC.standard (memOf []) foreignAck)).seqNum = 2 := hf.seqNum
  have hport : (56100 : UInt16) ≠ kDetectionPort := by decide
  rw [hwire] at hparse
  simp only [ackPacket, foreignDatagram, hparse, htype, hseq, hport, ne_eq, not_true_eq_false,
    false_and, or_self, if_false]

/-- The run in which `foreignAck` completes a command to the lidar 1. -/
theorem foreignAck_run :
    ∃ (tr : List (Step Unit)) (s : GeneralCommandHandler Unit) (cb : Callback Unit),
      Run (step FastCRC.standard) (fun _ _ => True) (init false) tr s ∧
        tr.map Prod.snd = oneCommand true ++ [.receive foreignDatagram] ∧
        s.callbacks = [cb] ∧ cb.status = .success ∧ cb.command.handle = 1 := by
  obtain ⟨tr, s, c, htr, hrun, -, -, -, hcommand, hcommands, hcallbacks⟩ := oneCommand_run
  have he : s.commands[(2 : UInt32)]? = some ⟨c.command, 1000⟩ := by
    rw [hcommands, getElem?_insert, if_pos rfl]
  refine ⟨_, s.receive FastCRC.standard foreignDatagram, ⟨c.command, .success, 7,
      (framePacket (packed FastCRC.standard (memOf []) foreignAck)).data⟩,
    (hrun.mono fun _ _ _ => trivial).snoc (e := Event.receive foreignDatagram) trivial rfl,
    ?_, ?_, rfl, ?_⟩
  · rw [List.map_append, htr]
    rfl
  · rw [receive_eq, ackPacket_foreign]
    simp only [he, complete, invoke, hcallbacks, List.nil_append]
    rfl
  · rw [hcommand]

theorem attributed_oneSuccess :
    ∃ (tr : List (Step Unit)) (s : GeneralCommandHandler Unit) (cb : Callback Unit),
      s.callbacks = [cb] ∧ cb.status = .success ∧ Attributed FastCRC.standard tr s := by
  obtain ⟨tr, s, cb, hrun, -, hcb, hst, -⟩ := foreignAck_run
  exact ⟨tr, s, cb, hcb, hst, attributed FastCRC.standard false tr s hrun⟩

/-- An ack of another command, from another lidar, completes a command. -/
theorem attributed_foreignAck :
    ∃ (tr : List (Step Unit)) (s : GeneralCommandHandler Unit) (cb : Callback Unit),
      Run (step FastCRC.standard) (fun _ _ => True) (init false) tr s ∧
        cb ∈ s.callbacks ∧ cb.status = .success ∧
        ¬ Occurs (fun _ x => ∃ d, x.2 = .receive d ∧ OwnAck FastCRC.standard x.1 cb.command d) tr := by
  obtain ⟨tr, s, cb, hrun, htr, hcb, hst, hhandle⟩ := foreignAck_run
  refine ⟨tr, s, cb, hrun, by simp [hcb], hst, fun h => ?_⟩
  obtain ⟨-, x, hx, d, hd, -, -, hfrom, -⟩ := h.exists_mem
  have hmem := List.mem_map_of_mem (f := Prod.snd) hx
  rw [htr, hd] at hmem
  obtain rfl : d = foreignDatagram := by simpa [oneCommand] using hmem
  rw [hhandle] at hfrom
  exact absurd hfrom (by decide)

end GeneralCommandHandler
end Livox
end SensorSupport
