/-
# What a step does to a call

The entries of the table point back to the calls that registered them
(`Valid`), so every call has at most one entry, `entryOf`. `CallStep` lists
what one step can do to a call, its entry and its callbacks: the call takes a
step of its own, another call registers under the same number, an ack or a
tick takes the entry, or nothing happens to it.

Key definitions: `statusesOf`, `Valid`, `entryOf`, `CallStep`.
Key theorems: `Valid.step`, `step_call`, `step_new`.
-/
import SensorSupport.Livox.Command

namespace SensorSupport
namespace Livox
namespace GeneralCommandHandler

variable {κ : Type}

/-- The statuses of a call's callbacks. -/
def statusesOf (callbacks : List (Callback κ)) (i : ℕ) : List Status :=
  (callbacks.filter (·.command.id = i)).map Callback.status

@[simp] theorem statusesOf_append (cbs cbs' : List (Callback κ)) (i : ℕ) :
    statusesOf (cbs ++ cbs') i = statusesOf cbs i ++ statusesOf cbs' i := by
  simp [statusesOf]

@[simp] theorem statusesOf_nil (i : ℕ) : statusesOf ([] : List (Callback κ)) i = [] := rfl

theorem statusesOf_singleton (cb : Callback κ) (i : ℕ) :
    statusesOf [cb] i = if cb.command.id = i then [cb.status] else [] := by
  by_cases h : cb.command.id = i <;> simp [statusesOf, h]

/-- The entries are calls' commands under their numbers, and the callbacks are
calls' callbacks. -/
structure Valid (s : GeneralCommandHandler κ) : Prop where
  call : ∀ (i : ℕ) (c : SendCall κ), s.calls[i]? = some c →
    c.command.id = i ∧ c.command.cmdType = kCommandTypeCmd
  entry : ∀ (n : UInt32) (e : Entry κ), s.commands[n]? = some e →
    ∃ c, s.calls[e.command.id]? = some c ∧ c.command = e.command ∧ c.deadline = some e.deadline ∧
      n = e.command.seqNum
  callback : ∀ cb ∈ s.callbacks, ∃ c, s.calls[cb.command.id]? = some c ∧ c.command = cb.command

/-- The entry of a call. -/
def entryOf (s : GeneralCommandHandler κ) (i : ℕ) : Option (Entry κ) :=
  (s.calls[i]?).bind fun c => (s.commands[c.command.seqNum]?).filter fun e => e.command.id = i

/-- What a step does to a call with an entry: the call, the entry and the new
statuses behind it. -/
inductive CallStep (crc : FastCRC) (s : GeneralCommandHandler κ) (i : ℕ) (c : SendCall κ)
    (entry : Option (Entry κ)) : Event κ → SendCall κ → Option (Entry κ) → List Status → Prop
  | same {ev : Event κ}
      (hreceive : ∀ d packet, ev = .receive d →
        s.ackPacket crc d = some (c.command.seqNum, packet) → entry = none)
      (htick : ∀ now e, ev = .tick now → entry = some e → ¬ e.deadline < now) :
      CallStep crc s i c entry ev c entry []
  | overwritten {ev : Event κ} {j now : ℕ} {d : SendCall κ} (hd : s.calls[j]? = some d) (hj : j ≠ i)
      (hseq : d.command.seqNum = c.command.seqNum) (hev : ev = .register j now ∨ ev = .add j now) :
      CallStep crc s i c entry ev c none []
  | register {now : ℕ} (hpc : c.pc = .register) :
      CallStep crc s i c entry (.register i now)
        { c with pc := .send, deadline := some (now + c.command.timeOut) }
        (some ⟨c.command, now + c.command.timeOut⟩) []
  | send {ok : Bool} (hpc : c.pc = .send) :
      CallStep crc s i c entry (.send i ok)
        { c with pc := match c.route with
                   | .general => .add
                   | .config => .returned
                 sent := some ok }
        entry (if ok then [] else [.sendFailed])
  | add {now : ℕ} (hpc : c.pc = .add) :
      CallStep crc s i c entry (.add i now)
        { c with pc := .returned, deadline := some (now + c.command.timeOut) }
        (some ⟨c.command, now + c.command.timeOut⟩) []
  | complete {d : Datagram} {packet : CommPacket} {e : Entry κ} (he : entry = some e)
      (hack : s.ackPacket crc d = some (c.command.seqNum, packet)) :
      CallStep crc s i c entry (.receive d) c none [.success]
  | expire {now : ℕ} {e : Entry κ} (he : entry = some e) (hlt : e.deadline < now) :
      CallStep crc s i c entry (.tick now) c none [.timeout]

section Operations

variable {crc : FastCRC} {s : GeneralCommandHandler κ} {i j now : ℕ} {c d : SendCall κ}
  {e : Entry κ} {n : UInt32}

theorem entryOf_eq (hc : s.calls[i]? = some c) :
    s.entryOf i = (s.commands[c.command.seqNum]?).filter fun e => e.command.id = i := by
  unfold entryOf
  rw [hc, Option.bind_some]

/-- A call's entry is its command under its number. -/
theorem entryOf_eq_some (hc : s.calls[i]? = some c) :
    s.entryOf i = some e ↔ s.commands[c.command.seqNum]? = some e ∧ e.command.id = i := by
  rw [entryOf_eq hc, Option.filter_eq_some_iff, decide_eq_true_eq]

theorem Valid.entryOf_eq_some_iff (h : Valid s) :
    s.entryOf i = some e ↔ ∃ n : UInt32, s.commands[n]? = some e ∧ e.command.id = i := by
  constructor
  · intro he
    obtain ⟨c, hc, he⟩ := Option.bind_eq_some_iff.mp he
    obtain ⟨he, hid⟩ := Option.filter_eq_some_iff.mp he
    exact ⟨_, he, by simpa using hid⟩
  · rintro ⟨n, he, rfl⟩
    obtain ⟨c, hc, hcmd, -, rfl⟩ := h.entry n e he
    exact (entryOf_eq_some hc).mpr ⟨by rw [hcmd, he], rfl⟩

/-- The call of an entry. -/
theorem Valid.entryOf_spec (h : Valid s) (hc : s.calls[i]? = some c) (he : s.entryOf i = some e) :
    e.command = c.command ∧ c.deadline = some e.deadline := by
  obtain ⟨hn, rfl⟩ := (entryOf_eq_some hc).mp he
  obtain ⟨c', hc', hcmd, hdl, -⟩ := h.entry _ e hn
  obtain rfl : c' = c := Option.some.inj (hc'.symm.trans hc)
  exact ⟨hcmd.symm, hdl⟩

/-! ### The operations -/

/-- What a registration does to the table. -/
theorem register_commands (i : ℕ) (pc : Pc) (now : ℕ) (n : UInt32)
    (hcmd : c.command.cmdType = kCommandTypeCmd) :
    (s.register i c pc now).commands[n]? =
      if c.command.seqNum = n then some ⟨c.command, now + c.command.timeOut⟩
      else s.commands[n]? := by
  have hne : c.command.cmdType ≠ kCommandTypeAck := by
    rw [hcmd]
    decide
  unfold register
  rw [setCall, addCommand, if_neg hne]
  exact getElem?_insert

theorem register_callbacks {pc : Pc} : (s.register i c pc now).callbacks = s.callbacks := by
  unfold register
  rw [setCall, addCommand]
  split <;> rfl

theorem register_calls (pc : Pc) (now j : ℕ) (hc : s.calls[i]? = some c) :
    (s.register i c pc now).calls[j]? =
      if i = j then some { c with pc, deadline := some (now + c.command.timeOut) }
      else s.calls[j]? := by
  have hsame : (s.addCommand c.command now).calls = s.calls := by
    unfold addCommand
    split <;> rfl
  unfold register
  rw [getElem?_setCall (hsame ▸ hc), hsame]

theorem send_commands {ok : Bool} : (s.send i c ok).commands = s.commands := by
  cases ok <;> rfl

theorem send_callbacks {ok : Bool} : (s.send i c ok).callbacks = s.callbacks ++
    if ok then [] else [⟨c.command, .sendFailed, c.command.handle, none⟩] := by
  cases ok
  · rfl
  · exact (List.append_nil _).symm

theorem send_calls (ok : Bool) (j : ℕ) (hc : s.calls[i]? = some c) :
    (s.send i c ok).calls[j]? =
      if i = j then some { c with
        pc := match c.route with
          | .general => .add
          | .config => .returned
        sent := some ok }
      else s.calls[j]? := by
  cases ok <;> exact getElem?_setCall hc

theorem newCall_calls {route : Route} {devType : UInt8} {handle : UInt32} {cmdId : UInt16} {cb : κ} :
    (s.newCall route devType handle cmdId cb).calls = s.calls ++
      [⟨⟨s.calls.length, (GenerateSeq.getSeq s.seq).toUInt16.toUInt32, cmdId, kCommandTypeCmd, handle,
        kDefaultTimeOut, cb⟩, route, firstPc route devType, none, none⟩] := rfl

/-- A tick keeps the entries that are not past their deadline. -/
theorem commandsHandle_commands :
    (s.commandsHandle now).commands[n]? = (s.commands[n]?).filter fun e => !(e.deadline < now) :=
  getElem?_filter

/-- The one element of a duplicate-free list that passes a filter. -/
theorem filter_eq_singleton {α : Type} {l : List α} {p : α → Bool} {a : α} (hl : l.Nodup)
    (ha : a ∈ l) (hpa : p a) (hall : ∀ b ∈ l, p b → b = a) : l.filter p = [a] := by
  have hmem : a ∈ l.filter p := List.mem_filter.mpr ⟨ha, hpa⟩
  have hrep := List.eq_replicate_of_mem fun b hb =>
    hall b (List.mem_of_mem_filter hb) (List.mem_filter.mp hb).2
  have hle : (l.filter p).length ≤ 1 := List.nodup_replicate.mp (hrep ▸ hl.filter p)
  have hpos := List.length_pos_of_mem hmem
  rw [hrep, show (l.filter p).length = 1 by omega]
  rfl

/-- What a tick invokes: the callback of a call whose entry is past its
deadline. -/
theorem Valid.statusesOf_timeouts (h : Valid s) :
    statusesOf ((s.timeoutCommands now).map fun command => ⟨command, .timeout, command.handle, none⟩) i =
      match s.entryOf i with
      | none => []
      | some e => if e.deadline < now then [.timeout] else [] := by
  have hmem : ∀ x, x ∈ s.commands.toList ↔ s.commands[x.1]? = some x.2 := fun x =>
    Std.TreeMap.mem_toList_iff_getElem?_eq_some
  have hlist : statusesOf ((s.timeoutCommands now).map
      fun command => ⟨command, .timeout, command.handle, none⟩) i =
        (s.commands.toList.filter fun x => x.2.command.id = i ∧ x.2.deadline < now).map
          fun _ => .timeout := by
    simp only [statusesOf, timeoutCommands, List.filter_map, List.map_map, List.filter_filter]
    simp [Function.comp_def]
  have hentry : ∀ x ∈ s.commands.toList, x.2.command.id = i → s.entryOf i = some x.2 :=
    fun x hx hid => h.entryOf_eq_some_iff.mpr ⟨x.1, (hmem x).mp hx, hid⟩
  rw [hlist]
  cases he : s.entryOf i with
  | none =>
    rw [List.filter_eq_nil_iff.mpr]
    · rfl
    · intro x hx
      simp only [decide_eq_true_eq, not_and]
      intro hid
      simp [hentry x hx hid] at he
  | some e =>
    obtain ⟨n, hn, hid⟩ := h.entryOf_eq_some_iff.mp he
    simp only
    split
    · rename_i hlt
      rw [filter_eq_singleton (a := (n, e))]
      · rfl
      · exact Std.TreeMap.distinct_keys_toList.imp fun hne heq => hne (by simp [heq])
      · exact (hmem _).mpr hn
      · simp [hid, hlt]
      · rintro ⟨n', e'⟩ hx hp
        simp only [decide_eq_true_eq] at hp
        obtain rfl : e = e' := Option.some.inj (he.symm.trans (hentry _ hx hp.1))
        obtain ⟨-, -, -, -, rfl⟩ := h.entry n e hn
        obtain ⟨-, -, -, -, rfl⟩ := h.entry n' e ((hmem _).mp hx)
        rfl
    · rename_i hlt
      rw [List.filter_eq_nil_iff.mpr]
      · rfl
      · rintro ⟨n', e'⟩ hx
        simp only [decide_eq_true_eq, not_and]
        intro hid'
        obtain rfl : e = e' := Option.some.inj (he.symm.trans (hentry _ hx hid'))
        exact hlt

end Operations

/-! ### Steps -/

section Steps

variable {crc : FastCRC} {s s' : GeneralCommandHandler κ} {i i₀ now : ℕ} {c c₀ : SendCall κ}
  {ev : Event κ}

/-- A call begins. -/
theorem step_begin (crc : FastCRC) (s : GeneralCommandHandler κ) (handle : UInt32) (cmdId : UInt16)
    (cb : κ) : s.step crc (.begin handle cmdId cb) = some (s.beginSend handle cmdId cb) := rfl

theorem valid_init (isView : Bool) : Valid (init isView : GeneralCommandHandler κ) :=
  ⟨by simp [init], by simp [init], by simp [init]⟩

/-- A step that keeps the calls' commands and deadlines, adds no entries, and
invokes callbacks of calls only. -/
theorem Valid.of_calls (h : Valid s)
    (hcalls : ∀ (i : ℕ) (c : SendCall κ), s.calls[i]? = some c → ∃ c', s'.calls[i]? = some c' ∧
      c'.command = c.command ∧ c'.deadline = c.deadline)
    (hnew : ∀ (i : ℕ) (c' : SendCall κ), s'.calls[i]? = some c' →
      c'.command.id = i ∧ c'.command.cmdType = kCommandTypeCmd)
    (hcommands : ∀ (n : UInt32) (e : Entry κ), s'.commands[n]? = some e → s.commands[n]? = some e)
    (hcallbacks : ∀ cb ∈ s'.callbacks, cb ∈ s.callbacks ∨
      ∃ c, s.calls[cb.command.id]? = some c ∧ c.command = cb.command) : Valid s' := by
  refine ⟨hnew, fun n e he => ?_, fun cb hcb => ?_⟩
  · obtain ⟨c, hc, hcmd, hdl, hn⟩ := h.entry n e (hcommands n e he)
    obtain ⟨c', hc', hcmd', hdl'⟩ := hcalls _ c hc
    exact ⟨c', hc', hcmd'.trans hcmd, hdl'.trans hdl, hn⟩
  · obtain ⟨c, hc, hcmd⟩ := (hcallbacks cb hcb).elim (h.callback cb) id
    obtain ⟨c', hc', hcmd', -⟩ := hcalls _ c hc
    exact ⟨c', hc', hcmd'.trans hcmd⟩

theorem Valid.newCall (h : Valid s) {route : Route} {devType : UInt8} {handle : UInt32}
    {cmdId : UInt16} {cb : κ} : Valid (s.newCall route devType handle cmdId cb) := by
  refine h.of_calls (fun i c hc => ⟨c, ?_, rfl, rfl⟩) (fun i c hc => ?_) (fun _ _ => id)
    fun cb hcb => .inl hcb
  · rw [newCall_calls, List.getElem?_append_left (List.getElem?_eq_some_iff.mp hc).1, hc]
  · rw [newCall_calls, List.getElem?_append] at hc
    split at hc
    · exact h.call i c hc
    · obtain ⟨hi, rfl⟩ := List.getElem?_eq_some_iff.mp hc
      rw [List.length_singleton] at hi
      simp only [List.getElem_singleton]
      exact ⟨by omega, trivial⟩

theorem Valid.register (h : Valid s) (hc : s.calls[i]? = some c) {pc : Pc} :
    Valid (s.register i c pc now) := by
  obtain ⟨hid, htype⟩ := h.call i c hc
  have hcalls : ∀ (j : ℕ) (d : SendCall κ), s.calls[j]? = some d →
      ∃ d', (s.register i c pc now).calls[j]? = some d' ∧ d'.command = d.command := by
    intro j d hd
    rw [register_calls _ _ _ hc]
    split
    · rename_i hj
      subst hj
      obtain rfl := Option.some.inj (hc.symm.trans hd)
      exact ⟨_, rfl, rfl⟩
    · exact ⟨d, hd, rfl⟩
  refine ⟨fun j d hd => ?_, fun n e he => ?_, fun cb hcb => ?_⟩
  · rw [register_calls _ _ _ hc] at hd
    split at hd
    · rename_i hj
      subst hj
      cases hd
      exact ⟨hid, htype⟩
    · exact h.call j d hd
  · rw [register_commands _ _ _ _ htype] at he
    split at he
    · rename_i hn
      cases he
      refine ⟨{ c with pc, deadline := some (now + c.command.timeOut) }, ?_, rfl, rfl, hn.symm⟩
      rw [register_calls _ _ _ hc, if_pos hid.symm]
    · rename_i hne
      obtain ⟨d, hd, hcmd, hdl, hn⟩ := h.entry n e he
      refine ⟨d, ?_, hcmd, hdl, hn⟩
      rw [register_calls _ _ _ hc, if_neg, hd]
      -- The call's own entry would be under its number.
      rintro rfl
      obtain rfl := Option.some.inj (hc.symm.trans hd)
      exact hne (by rw [hcmd, hn])
  · rw [register_callbacks] at hcb
    obtain ⟨d, hd, hcmd⟩ := h.callback cb hcb
    obtain ⟨d', hd', hcmd'⟩ := hcalls _ d hd
    exact ⟨d', hd', hcmd'.trans hcmd⟩

theorem Valid.send (h : Valid s) (hc : s.calls[i]? = some c) {ok : Bool} : Valid (s.send i c ok) := by
  obtain ⟨hid, htype⟩ := h.call i c hc
  refine h.of_calls (fun j d hd => ?_) (fun j d hd => ?_) (fun n e he => send_commands ▸ he)
    fun cb hcb => ?_
  · rw [send_calls _ _ hc]
    split
    · rename_i hj
      subst hj
      obtain rfl := Option.some.inj (hc.symm.trans hd)
      exact ⟨_, rfl, rfl, rfl⟩
    · exact ⟨d, hd, rfl, rfl⟩
  · rw [send_calls _ _ hc] at hd
    split at hd
    · rename_i hj
      subst hj
      cases hd
      exact ⟨hid, htype⟩
    · exact h.call j d hd
  · rw [send_callbacks, List.mem_append] at hcb
    refine hcb.imp_right fun hcb => ?_
    cases ok with
    | true => cases hcb
    | false =>
      rw [List.mem_singleton.mp hcb]
      exact ⟨c, hid ▸ hc, rfl⟩

/-- A removal of entries whose callbacks are invoked. -/
theorem Valid.remove (h : Valid s) (hcalls : s'.calls = s.calls)
    (hcommands : ∀ (n : UInt32) (e : Entry κ), s'.commands[n]? = some e → s.commands[n]? = some e)
    (hcallbacks : ∀ cb ∈ s'.callbacks, cb ∈ s.callbacks ∨
      ∃ (n : UInt32) (e : Entry κ), s.commands[n]? = some e ∧ e.command = cb.command) : Valid s' := by
  refine h.of_calls (fun i c hc => ⟨c, hcalls ▸ hc, rfl, rfl⟩) (fun i c hc => h.call i c (hcalls ▸ hc))
    hcommands fun cb hcb => (hcallbacks cb hcb).imp_right ?_
  rintro ⟨n, e, he, hcmd⟩
  obtain ⟨c, hc, hcmd', -⟩ := h.entry n e he
  exact ⟨c, hcmd ▸ hc, hcmd'.trans hcmd⟩

/-- Every step keeps the table valid. -/
theorem Valid.step (h : Valid s) (hstep : s.step crc ev = some s') : Valid s' := by
  cases ev with
  | begin handle cmdId cb =>
    cases hstep
    unfold beginSend
    cases s.getLidarCommandHandler handle with
    | none => exact ⟨h.call, h.entry, h.callback⟩
    | some devType => exact h.newCall
  | config devType handle cmdId cb =>
    obtain ⟨t, -, rfl⟩ := Option.map_eq_some_iff.mp hstep
    exact h.newCall
  | register id now =>
    obtain ⟨c, hc, -, rfl⟩ := bind_if_eq_some.mp hstep
    exact h.register hc
  | send id ok =>
    obtain ⟨c, hc, -, rfl⟩ := bind_if_eq_some.mp hstep
    exact h.send hc
  | add id now =>
    obtain ⟨c, hc, -, rfl⟩ := bind_if_eq_some.mp hstep
    exact h.register hc
  | receive d =>
    cases hstep
    rw [receive_eq]
    cases s.ackPacket crc d with
    | none => exact h
    | some ack =>
      obtain ⟨n, packet⟩ := ack
      simp only
      cases he : s.commands[n]? with
      | none => exact h
      | some e =>
        refine h.remove rfl (fun m e' he' => ?_) fun cb hcb => ?_
        · have hcommands : (s.commands.erase n)[m]? = some e' := he'
          rw [getElem?_erase] at hcommands
          split at hcommands
          · cases hcommands
          · exact hcommands
        · rcases List.mem_append.mp hcb with hcb | hcb
          · exact .inl hcb
          · rw [List.mem_singleton.mp hcb]
            exact .inr ⟨n, e, he, rfl⟩
  | tick now =>
    cases hstep
    refine h.remove rfl (fun n e he => ?_) fun cb hcb => ?_
    · rw [commandsHandle_commands] at he
      exact (Option.filter_eq_some_iff.mp he).1
    · rcases List.mem_append.mp hcb with hcb | hcb
      · exact .inl hcb
      · obtain ⟨command, hcommand, rfl⟩ := List.mem_map.mp hcb
        obtain ⟨e, he, rfl⟩ := List.mem_map.mp hcommand
        obtain ⟨x, hx, rfl⟩ := List.mem_map.mp (List.mem_of_mem_filter he)
        exact .inr ⟨x.1, x.2, Std.TreeMap.mem_toList_iff_getElem?_eq_some.mp hx, rfl⟩
  | detected handle devType =>
    cases hstep
    exact ⟨h.call, h.entry, h.callback⟩

/-! ### What a step does to a call -/

/-- The entry of a call, seen in another state in which the call has the same
command. -/
theorem entryOf_congr {c' : SendCall κ} (hc : s.calls[i]? = some c) (hc' : s'.calls[i]? = some c')
    (hcmd : c'.command = c.command)
    (hcommands : s'.commands[c.command.seqNum]? = s.commands[c.command.seqNum]?) :
    s'.entryOf i = s.entryOf i := by
  rw [entryOf_eq hc, entryOf_eq hc', hcmd, hcommands]

/-- The entries behind a registration. -/
theorem entryOf_register (pc : Pc) (now : ℕ) (h : Valid s) (hc₀ : s.calls[i₀]? = some c₀)
    (hc : s.calls[i]? = some c) : (s.register i₀ c₀ pc now).entryOf i =
      if i₀ = i then some ⟨c₀.command, now + c₀.command.timeOut⟩
      else if c₀.command.seqNum = c.command.seqNum then none
      else s.entryOf i := by
  obtain ⟨hid, htype⟩ := h.call i₀ c₀ hc₀
  have hcall := register_calls pc now i hc₀
  have hcommands := register_commands (s := s) i₀ pc now c.command.seqNum htype
  by_cases hi : i₀ = i
  · subst hi
    obtain rfl := Option.some.inj (hc.symm.trans hc₀)
    rw [if_pos rfl] at hcall hcommands
    rw [if_pos rfl, entryOf_eq_some hcall]
    exact ⟨hcommands, hid⟩
  · rw [if_neg hi, hc] at hcall
    rw [if_neg hi]
    by_cases hseq : c₀.command.seqNum = c.command.seqNum
    · rw [if_pos hseq] at hcommands
      rw [if_pos hseq, entryOf_eq hcall, hcommands]
      simp [Option.filter, hid, hi]
    · rw [if_neg hseq] at hcommands
      rw [if_neg hseq, entryOf_congr hc hcall rfl hcommands]

/-- A registration, by the handler or behind the send. -/
theorem callStep_register (crc : FastCRC) (pc : Pc) (h : Valid s) (hc₀ : s.calls[i₀]? = some c₀)
    (hc : s.calls[i]? = some c) (hev : ev = .register i₀ now ∨ ev = .add i₀ now)
    (hown : i₀ = i → CallStep crc s i c (s.entryOf i) ev
      { c with pc, deadline := some (now + c.command.timeOut) }
      (some ⟨c.command, now + c.command.timeOut⟩) []) :
    ∃ c', (s.register i₀ c₀ pc now).calls[i]? = some c' ∧ CallStep crc s i c (s.entryOf i) ev c'
      ((s.register i₀ c₀ pc now).entryOf i) [] := by
  have hcall := register_calls pc now i hc₀
  rw [entryOf_register pc now h hc₀ hc]
  by_cases hi : i₀ = i
  · subst hi
    obtain rfl := Option.some.inj (hc.symm.trans hc₀)
    rw [if_pos rfl] at hcall
    rw [if_pos rfl]
    exact ⟨_, hcall, hown rfl⟩
  · rw [if_neg hi, hc] at hcall
    refine ⟨c, hcall, ?_⟩
    rw [if_neg hi]
    split
    · rename_i hseq
      exact .overwritten hc₀ hi hseq hev
    · refine .same (fun d packet hd => ?_) fun t e ht => ?_
      · rcases hev with rfl | rfl <;> cases hd
      · rcases hev with rfl | rfl <;> cases ht

/-- Nothing happens to a call in a step of another call's that registers
nothing, or in the step of a new one. -/
theorem callStep_same {entry : Option (Entry κ)} (hreceive : ∀ d, ev ≠ .receive d)
    (htick : ∀ t, ev ≠ .tick t) : CallStep crc s i c entry ev c entry [] :=
  .same (fun d _ hd => absurd hd (hreceive d)) fun t _ ht => absurd ht (htick t)

/-- A new call changes nothing for the others. -/
theorem newCall_oldCall (route : Route) (devType : UInt8) (handle : UInt32) (cmdId : UInt16) (cb : κ)
    (hc : s.calls[i]? = some c) : (s.newCall route devType handle cmdId cb).calls[i]? = some c ∧
      (s.newCall route devType handle cmdId cb).entryOf i = s.entryOf i := by
  have hc' : (s.newCall route devType handle cmdId cb).calls[i]? = some c := by
    rw [newCall_calls, List.getElem?_append_left (List.getElem?_eq_some_iff.mp hc).1, hc]
  exact ⟨hc', entryOf_congr hc hc' rfl rfl⟩

theorem beginSend_oldCall (handle : UInt32) (cmdId : UInt16) (cb : κ) (hc : s.calls[i]? = some c) :
    (s.beginSend handle cmdId cb).calls[i]? = some c ∧
      (s.beginSend handle cmdId cb).entryOf i = s.entryOf i := by
  unfold beginSend
  split
  · exact ⟨hc, rfl⟩
  · exact newCall_oldCall _ _ _ _ _ hc

theorem callStep_newCall {route : Route} {devType : UInt8} {handle : UInt32} {cmdId : UInt16} {cb : κ}
    (hc : s.calls[i]? = some c) (hreceive : ∀ d, ev ≠ .receive d) (htick : ∀ t, ev ≠ .tick t) :
    ∃ c' new, (s.newCall route devType handle cmdId cb).calls[i]? = some c' ∧
      (s.newCall route devType handle cmdId cb).callbacks = s.callbacks ++ new ∧
      CallStep crc s i c (s.entryOf i) ev c' ((s.newCall route devType handle cmdId cb).entryOf i)
        (statusesOf new i) := by
  obtain ⟨hc', hentry⟩ := newCall_oldCall route devType handle cmdId cb hc
  rw [hentry]
  exact ⟨c, [], hc', (List.append_nil _).symm, callStep_same hreceive htick⟩

/-- A datagram. -/
theorem callStep_receive {d : Datagram} (h : Valid s) (hc : s.calls[i]? = some c) :
    ∃ c' new, (s.receive crc d).calls[i]? = some c' ∧
      (s.receive crc d).callbacks = s.callbacks ++ new ∧
      CallStep crc s i c (s.entryOf i) (.receive d) c' ((s.receive crc d).entryOf i)
        (statusesOf new i) := by
  have hskip : (∀ packet, s.ackPacket crc d = some (c.command.seqNum, packet) → s.entryOf i = none) →
      CallStep crc s i c (s.entryOf i) (.receive d) c (s.entryOf i) [] := fun hnone =>
    .same (fun d' packet hd => by cases hd; exact hnone packet) fun t e ht => by cases ht
  rw [receive_eq]
  cases hack : s.ackPacket crc d with
  | none => exact ⟨c, [], hc, (List.append_nil _).symm, hskip fun packet hp => by simp [hack] at hp⟩
  | some ack =>
    obtain ⟨n, packet⟩ := ack
    simp only
    cases he : s.commands[n]? with
    | none =>
      refine ⟨c, [], hc, (List.append_nil _).symm, hskip fun packet' hp => ?_⟩
      cases hack.symm.trans hp
      rw [entryOf_eq hc, he]
      rfl
    | some e =>
      obtain ⟨c₀, hc₀, hcmd, -, rfl⟩ := h.entry n e he
      have hcommands : (s.complete e.command.seqNum e .success d.handle packet).commands[c.command.seqNum]? =
          if e.command.seqNum = c.command.seqNum then none else s.commands[c.command.seqNum]? :=
        getElem?_erase
      have hc' : (s.complete e.command.seqNum e .success d.handle packet).calls[i]? = some c := hc
      refine ⟨c, [⟨e.command, .success, d.handle, packet.data⟩], hc', rfl, ?_⟩
      rw [statusesOf_singleton]
      by_cases hid : e.command.id = i
      · have hown := h.entryOf_eq_some_iff.mpr ⟨_, he, hid⟩
        subst hid
        obtain rfl := Option.some.inj (hc.symm.trans hc₀)
        rw [if_pos rfl, entryOf_eq hc', hcommands, if_pos (by rw [hcmd])]
        exact .complete hown (hcmd ▸ hack)
      · rw [if_neg hid]
        by_cases hseq : e.command.seqNum = c.command.seqNum
        · have hnone : s.entryOf i = none := by
            rw [entryOf_eq hc, ← hseq, he]
            simp [Option.filter, hid]
          have hnone' : (s.complete e.command.seqNum e .success d.handle packet).entryOf i = none := by
            rw [entryOf_eq hc', hcommands, if_pos hseq]
            rfl
          rw [hnone', ← hnone]
          exact hskip fun _ _ => hnone
        · rw [if_neg hseq] at hcommands
          rw [entryOf_congr hc hc' rfl hcommands]
          refine hskip fun packet' hp => absurd ?_ hseq
          exact (Prod.mk.inj (Option.some.inj (hack.symm.trans hp))).1

/-- A tick. -/
theorem callStep_tick (h : Valid s) (hc : s.calls[i]? = some c) :
    ∃ c' new, (s.commandsHandle now).calls[i]? = some c' ∧
      (s.commandsHandle now).callbacks = s.callbacks ++ new ∧
      CallStep crc s i c (s.entryOf i) (.tick now) c' ((s.commandsHandle now).entryOf i)
        (statusesOf new i) := by
  have hc' : (s.commandsHandle now).calls[i]? = some c := hc
  refine ⟨c, _, hc', rfl, ?_⟩
  have hentry : (s.commandsHandle now).entryOf i =
      (s.entryOf i).filter fun e => !(e.deadline < now) := by
    rw [entryOf_eq hc', entryOf_eq hc, commandsHandle_commands, Option.filter_filter, Option.filter_filter]
    simp only [Bool.and_comm]
  rw [h.statusesOf_timeouts, hentry]
  cases he : s.entryOf i with
  | none => exact .same (fun _ _ hd => by cases hd) fun _ _ _ he' => by cases he'
  | some e =>
    simp only
    by_cases hlt : e.deadline < now
    · rw [if_pos hlt, Option.filter_some_neg (by simp [hlt])]
      exact .expire rfl hlt
    · rw [if_neg hlt, Option.filter_some_pos (by simpa using hlt)]
      refine .same (fun _ _ hd => by cases hd) fun t e' ht he' => ?_
      cases ht
      cases he'
      exact hlt

/-- Every step, seen from a call. -/
theorem step_call (h : Valid s) (hc : s.calls[i]? = some c) (hstep : s.step crc ev = some s') :
    ∃ c' new, s'.calls[i]? = some c' ∧ s'.callbacks = s.callbacks ++ new ∧
      CallStep crc s i c (s.entryOf i) ev c' (s'.entryOf i) (statusesOf new i) := by
  cases ev with
  | begin handle cmdId cb =>
    cases hstep
    unfold beginSend
    cases s.getLidarCommandHandler handle with
    | none =>
      exact ⟨c, [], hc, (List.append_nil _).symm, callStep_same (fun _ => by simp) fun _ => by simp⟩
    | some devType => exact callStep_newCall hc (fun _ => by simp) fun _ => by simp
  | config devType handle cmdId cb =>
    obtain ⟨t, -, rfl⟩ := Option.map_eq_some_iff.mp hstep
    exact callStep_newCall hc (fun _ => by simp) fun _ => by simp
  | register id now =>
    obtain ⟨d, hd, hpc, rfl⟩ := bind_if_eq_some.mp hstep
    obtain ⟨c', hc', hcall⟩ := callStep_register crc .send h hd hc (.inl rfl)
      fun hid => by
        subst hid
        obtain rfl := Option.some.inj (hc.symm.trans hd)
        exact .register hpc
    exact ⟨c', [], hc', by rw [register_callbacks, List.append_nil], hcall⟩
  | send id ok =>
    obtain ⟨d, hd, hpc, rfl⟩ := bind_if_eq_some.mp hstep
    have hcall := send_calls ok i hd
    have hid := (h.call id d hd).1
    by_cases hi : id = i
    · subst hi
      obtain rfl := Option.some.inj (hc.symm.trans hd)
      rw [if_pos rfl] at hcall
      refine ⟨_, _, hcall, send_callbacks, ?_⟩
      rw [entryOf_congr hc hcall rfl (by rw [send_commands])]
      have hnew : statusesOf (if ok then [] else [⟨c.command, .sendFailed, c.command.handle, none⟩]) id =
          if ok then [] else [.sendFailed] := by
        cases ok
        · simp [statusesOf_singleton, hid]
        · rfl
      rw [hnew]
      exact .send hpc
    · rw [if_neg hi, hc] at hcall
      refine ⟨c, _, hcall, send_callbacks, ?_⟩
      rw [entryOf_congr hc hcall rfl (by rw [send_commands])]
      have hnew : statusesOf (if ok then [] else [⟨d.command, .sendFailed, d.command.handle, none⟩]) i =
          [] := by
        cases ok
        · simp [statusesOf_singleton, hid, hi]
        · rfl
      rw [hnew]
      exact callStep_same (fun _ => by simp) fun _ => by simp
  | add id now =>
    obtain ⟨d, hd, hpc, rfl⟩ := bind_if_eq_some.mp hstep
    obtain ⟨c', hc', hcall⟩ := callStep_register crc .returned h hd hc (.inr rfl)
      fun hid => by
        subst hid
        cases hc.symm.trans hd
        exact .add hpc
    exact ⟨c', [], hc', by rw [register_callbacks, List.append_nil], hcall⟩
  | receive d =>
    cases hstep
    exact callStep_receive h hc
  | tick now =>
    cases hstep
    exact callStep_tick h hc
  | detected handle devType =>
    cases hstep
    exact ⟨c, [], hc, (List.append_nil _).symm, callStep_same (fun _ => by simp) fun _ => by simp⟩

/-- A call that a step makes. -/
theorem step_new {c' : SendCall κ} (hstep : s.step crc ev = some s') (hnone : s.calls[i]? = none)
    (hc' : s'.calls[i]? = some c') : i = s.calls.length ∧
      ((∃ handle cmdId, ev = .begin handle cmdId c'.command.cb) ∧ c'.route = .general ∨
        (∃ devType handle cmdId, ev = .config devType handle cmdId c'.command.cb) ∧
          c'.pc = .register) ∧
      (c'.pc = .register ∨ c'.pc = .send) ∧ c'.sent = none ∧ c'.deadline = none ∧
      c'.command.seqNum = (GenerateSeq.getSeq s.seq).toUInt16.toUInt32 ∧
      s'.callbacks = s.callbacks := by
  have hold : (∀ j : ℕ, s.calls[j]? = none → s'.calls[j]? = none) → False := fun h => by
    cases (h i hnone).symm.trans hc'
  have hnew : ∀ (route : Route) (devType : UInt8) (handle : UInt32) (cmdId : UInt16) (cb : κ),
      (s.newCall route devType handle cmdId cb).calls[i]? = some c' → i = s.calls.length ∧
        c' = ⟨⟨s.calls.length, (GenerateSeq.getSeq s.seq).toUInt16.toUInt32, cmdId, kCommandTypeCmd,
          handle, kDefaultTimeOut, cb⟩, route, firstPc route devType, none, none⟩ := by
    intro route devType handle cmdId cb h
    rw [newCall_calls, List.getElem?_append_right (List.getElem?_eq_none_iff.mp hnone),
      List.getElem?_singleton] at h
    split at h
    · rename_i hi
      have hlen := List.getElem?_eq_none_iff.mp hnone
      cases h
      exact ⟨by omega, rfl⟩
    · cases h
  have hpc : ∀ (route : Route) (devType : UInt8),
      firstPc route devType = .register ∨ firstPc route devType = .send := by
    intro route devType
    rw [firstPc]
    split
    · exact .inl rfl
    · exact .inr rfl
  have hset : ∀ (j : ℕ) (d d' : SendCall κ) (calls : ℕ → Option (SendCall κ)), s.calls[j]? = some d →
      (∀ k, calls k = if j = k then some d' else s.calls[k]?) → ∀ k, s.calls[k]? = none →
        calls k = none := by
    intro j d d' calls hd hcalls k hk
    rw [hcalls, if_neg, hk]
    rintro rfl
    simp [hd] at hk
  cases ev with
  | begin handle cmdId cb =>
    cases hstep
    rw [beginSend] at hc' ⊢
    cases hhandler : s.getLidarCommandHandler handle with
    | none =>
      rw [hhandler] at hc'
      cases hnone.symm.trans hc'
    | some devType =>
      simp only [hhandler] at hc' ⊢
      obtain ⟨hi, rfl⟩ := hnew _ _ _ _ _ hc'
      exact ⟨hi, .inl ⟨⟨handle, cmdId, rfl⟩, rfl⟩, hpc _ _, rfl, rfl, rfl, rfl⟩
  | config devType handle cmdId cb =>
    obtain ⟨t, -, rfl⟩ := Option.map_eq_some_iff.mp hstep
    obtain ⟨hi, rfl⟩ := hnew _ _ _ _ _ hc'
    exact ⟨hi, .inr ⟨⟨devType, handle, cmdId, rfl⟩, rfl⟩, .inl rfl, rfl, rfl, rfl, rfl⟩
  | register id now =>
    obtain ⟨d, hd, -, rfl⟩ := bind_if_eq_some.mp hstep
    exact (hold (hset id d _ _ hd fun k => register_calls _ _ k hd)).elim
  | send id ok =>
    obtain ⟨d, hd, -, rfl⟩ := bind_if_eq_some.mp hstep
    exact (hold (hset id d _ _ hd fun k => send_calls _ k hd)).elim
  | add id now =>
    obtain ⟨d, hd, -, rfl⟩ := bind_if_eq_some.mp hstep
    exact (hold (hset id d _ _ hd fun k => register_calls _ _ k hd)).elim
  | receive d =>
    cases hstep
    refine (hold fun j hj => ?_).elim
    rw [receive_eq]
    cases s.ackPacket crc d with
    | none => exact hj
    | some ack =>
      obtain ⟨n, packet⟩ := ack
      simp only
      cases s.commands[n]? <;> exact hj
  | tick now =>
    cases hstep
    exact (hold fun j hj => hj).elim
  | detected handle devType =>
    cases hstep
    exact (hold fun j hj => hj).elim

/-- What is not a call has no callbacks. -/
theorem Valid.statusesOf_eq_nil (h : Valid s) (hnone : s.calls[i]? = none) :
    statusesOf s.callbacks i = [] := by
  unfold statusesOf
  rw [List.map_eq_nil_iff, List.filter_eq_nil_iff]
  intro cb hcb hid
  obtain ⟨c, hc, -⟩ := h.callback cb hcb
  rw [of_decide_eq_true hid, hnone] at hc
  cases hc

/-- A lidar keeps its command handler. -/
theorem step_getLidarCommandHandler {handle : UInt32} {devType : UInt8}
    (hstep : s.step crc ev = some s') (h : s.getLidarCommandHandler handle = some devType) :
    s'.getLidarCommandHandler handle = some devType := by
  have hsame : s'.deviceDevType = s.deviceDevType → s'.lidarsCommandHandler = s.lidarsCommandHandler →
      s'.getLidarCommandHandler handle = some devType := by
    intro hdevice hlidars
    unfold getLidarCommandHandler getHandlerOfType at h ⊢
    rw [hdevice, hlidars]
    exact h
  cases ev with
  | begin handle cmdId cb =>
    cases hstep
    apply hsame <;> (rw [beginSend]; cases s.getLidarCommandHandler handle <;> rfl)
  | config t handle cmdId cb =>
    obtain ⟨t, -, rfl⟩ := Option.map_eq_some_iff.mp hstep
    exact hsame rfl rfl
  | register id now | add id now =>
    obtain ⟨d, -, -, rfl⟩ := bind_if_eq_some.mp hstep
    apply hsame <;> (rw [register, setCall, addCommand]; split <;> rfl)
  | send id ok =>
    obtain ⟨d, -, -, rfl⟩ := bind_if_eq_some.mp hstep
    apply hsame <;> cases ok <;> rfl
  | receive d =>
    cases hstep
    rw [receive_eq]
    cases s.ackPacket crc d with
    | none => exact h
    | some ack =>
      obtain ⟨n, packet⟩ := ack
      simp only
      cases s.commands[n]? <;> exact h
  | tick now =>
    cases hstep
    exact hsame rfl rfl
  | detected h' t =>
    cases hstep
    obtain ⟨t', ht', hhandler⟩ := Option.bind_eq_some_iff.mp h
    unfold getHandlerOfType at hhandler
    split at hhandler
    · rename_i hlidar
      cases hhandler
      have hdevice : (s.detected h' t).deviceDevType handle = some devType := by
        simp only [detected]
        split
        · rename_i hh
          rw [← hh, ht']
          rfl
        · exact ht'
      unfold getLidarCommandHandler
      rw [hdevice, Option.bind_some, getHandlerOfType, if_pos]
      simp [detected, hlidar]
    · cases hhandler

/-- The step of a call keeps its command and its route. -/
theorem CallStep.command {entry entry' : Option (Entry κ)} {c' : SendCall κ} {new : List Status}
    (h : CallStep crc s i c entry ev c' entry' new) : c'.command = c.command ∧ c'.route = c.route := by
  cases h <;> exact ⟨rfl, rfl⟩

end Steps

end GeneralCommandHandler
end Livox
end SensorSupport
