/-
# Datagrams in fragments (`driver/input/jumbo.hpp`)

A UDP datagram comes in one frame or more, the fragments in order. `Jumbo` takes the fragments
with the id that it has and the offset up to which the buffer is filled, and of another id the
first one.

So a datagram is missed when its id is the one that `Jumbo` has and the buffer is not empty:
when an earlier datagram with the id was not completed, and for id 0 always behind the first
datagram that came in fragments, as `ip_id_` is then 0 and `buf_off_` is not (`reported_iff`).
A datagram may then still be reported, from where the earlier one stopped.

Key definitions: `UdpDatagram`, `Carries`, `Cut`, `Jumbo.reports`, `ReportedExactly`, `DatagramReady`.
Key theorems: `reports_rest`, `reports_resumed`, `reports_other`, `reported_iff`.
-/
import Mathlib.Data.List.GetD
import SensorSupport.Rs.Jumbo

namespace SensorSupport
namespace Rs

/-! ### Datagrams and frames -/

/-- A UDP datagram, with its header. -/
structure UdpDatagram where
  bytes : List UInt8
  header_le : 8 ≤ bytes.length
  length_eq : (u16At (memOf bytes) 4).toNat = bytes.length

namespace UdpDatagram

def destPort (d : UdpDatagram) : UInt16 := u16At (memOf d.bytes) 2

def payload (d : UdpDatagram) : List UInt8 := d.bytes.drop 8

end UdpDatagram

/-- A frame carries some bytes of a datagram, from an offset on. -/
structure Carries (frame : Mem) (ipId : UInt16) (off : ℕ) (more : Bool) (data : List UInt8) :
    Prop where
  ethType : u16At frame 12 = 0x0800
  protocol : frame 23 = 0x11
  totLen : (u16At frame 16).toNat = (Jumbo.ipHdrSize (frame 14)).toNat + data.length
  id : u16At frame 18 = ipId
  fragOff : 8 * (u16At frame 20 &&& 0x1FFF).toNat = off
  moreFrags : decide ((u16At frame 20 >>> 13 &&& 0x01) ≠ 0) = more
  data : frame.bytes (14 + (Jumbo.ipHdrSize (frame 14)).toNat) data.length = data

/-- Frames that carry the bytes of a datagram from an offset on, in order. -/
inductive Cut (ipId : UInt16) : ℕ → List Mem → List UInt8 → Prop
  | last {frame : Mem} {off : ℕ} {data : List UInt8} (h : Carries frame ipId off false data) :
    Cut ipId off [frame] data
  | more {frame : Mem} {frames : List Mem} {off : ℕ} {data rest : List UInt8}
    (h : Carries frame ipId off true data) (hdata : data ≠ [])
    (hrest : Cut ipId (off + data.length) frames rest) : Cut ipId off (frame :: frames) (data ++ rest)

/-! ### Reports -/

/-- What `new_fragment` gives for some frames. -/
def Jumbo.reports (s : Jumbo) : List Mem → List (Option UdpData)
  | [] => []
  | frame :: frames =>
    let r := (s.newFragment frame).val
    r.2 :: r.1.reports frames

/-- The port, the length and the bytes are those of the datagram. -/
def Reports (d : UdpDatagram) (udp : UdpData) : Prop :=
  udp.udpPort = d.destPort ∧ udp.udpDataLen.toNat = d.payload.length ∧
    udp.udpData.bytes d.payload.length = d.payload

/-- The datagram is reported with its last frame, and nothing before. -/
def ReportedExactly (s : Jumbo) (frames : List Mem) (d : UdpDatagram) : Prop :=
  ∃ udp, s.reports frames = List.replicate (frames.length - 1) none ++ [some udp] ∧ Reports d udp

/-- The id is another one, or the buffer is empty; or it is filled up to where a fragment
begins, with what the datagram has there. -/
def DatagramReady (ipId : UInt16) (frames : List Mem) (d : UdpDatagram) (s : Jumbo) : Prop :=
  ipId ≠ s.ipId ∨ s.bufOff = 0 ∨
    (∃ frame ∈ frames, (ipFragment frame).fragOff = s.bufOff) ∧ u16At s.buf 2 = d.destPort ∧
      s.buf.bytes 8 (s.bufOff.toNat - 8) = d.payload.take (s.bufOff.toNat - 8)

/-- The report of a datagram that is in memory. -/
def reportOf (mem : Mem) (i len : ℕ) : UdpData :=
  ⟨u16At mem (i + 2), ⟨mem, i + 8⟩, UInt64.ofNat len - 8⟩

section Frames

variable {frame : Mem} {frames : List Mem} {ipId : UInt16} {off : ℕ} {more : Bool}
  {data rest pre : List UInt8} {s : Jumbo}

/-! ### One frame -/

theorem Carries.fragOff_toNat (h : Carries frame ipId off more data) :
    (ipFragment frame).fragOff.toNat = off := by
  have hle : (u16At frame 20 &&& 0x1FFF).toNat ≤ 0x1FFF := by
    rw [UInt16.toNat_and]
    exact Nat.and_le_right
  have hoff := h.fragOff
  show ((u16At frame 20 &&& 0x1FFF) * 8).toNat = off
  rw [UInt16.toNat_mul]
  show (u16At frame 20 &&& 0x1FFF).toNat * 8 % 65536 = off
  omega

theorem Carries.dataLen_toNat (h : Carries frame ipId off more data) :
    (ipFragment frame).dataLen.toNat = data.length := by
  have htot := h.totLen
  have hle : Jumbo.ipHdrSize (frame 14) ≤ u16At frame 16 := by
    rw [UInt16.le_iff_toNat_le]
    omega
  show (u16At frame 16 - Jumbo.ipHdrSize (frame 14)).toNat = data.length
  rw [UInt16.toNat_sub_of_le _ _ hle]
  omega

theorem Carries.bytes (h : Carries frame ipId off more data) :
    frame.bytes (ipFragment frame).data (ipFragment frame).dataLen.toNat = data := by
  rw [h.dataLen_toNat]
  exact h.data

/-- Bytes in memory as those of a list. -/
theorem u16At_of_bytes {m : Mem} {i k n : ℕ} {bs : List UInt8} (h : m.bytes i n = bs)
    (hk : k + 1 < n) : u16At m (i + k) = u16At (memOf bs) k := by
  have hget : ∀ j < n, memOf bs j = m (i + j) := by
    intro j hj
    rw [← h]
    unfold memOf Mem.bytes
    rw [List.getD_eq_getElem _ _ (by rw [List.length_map, List.length_range]; exact hj),
      List.getElem_map, List.getElem_range]
  unfold u16At
  rw [hget k (by omega), hget (k + 1) hk, Nat.add_assoc]

/-- The data are put behind what is there. -/
theorem bytes_set_append {m : Mem} {pre data : List UInt8} (h : m.bytes 0 pre.length = pre) :
    (m.set pre.length data).bytes 0 (pre ++ data).length = pre ++ data := by
  rw [List.length_append, Mem.bytes_add, Mem.bytes_set_of_disjoint _ _ _ _ _ (.inl (by omega)), h,
    Nat.zero_add, Mem.bytes_set_self]

/-- The datagram in the buffer, as far as it came. -/
structure Filled (ipId : UInt16) (pre : List UInt8) (s : Jumbo) : Prop where
  id : s.ipId = ipId
  off : s.bufOff.toNat = pre.length
  bytes : s.buf.bytes 0 pre.length = pre

/-- The next fragment is put behind the bytes in the buffer. -/
theorem copy_filled (hs : Filled ipId pre s) (h : Carries frame ipId off more data)
    (hlen : (pre ++ data).length < 65536) :
    Filled ipId (pre ++ data) (s.copy frame (ipFragment frame)).val := by
  rw [copy_val, h.bytes, hs.off]
  constructor
  · exact hs.id
  · show (s.bufOff + (ipFragment frame).dataLen).toNat = _
    rw [List.length_append] at hlen ⊢
    rw [UInt16.toNat_add, hs.off, h.dataLen_toNat]
    exact Nat.mod_eq_of_lt hlen
  · exact bytes_set_append hs.bytes

/-- The fragment at the offset up to which the buffer is filled. -/
theorem newFragment_next (hs : Filled ipId pre s) (h : Carries frame ipId pre.length more data) :
    (s.newFragment frame).val =
      if more then ((s.copy frame (ipFragment frame)).val, none)
      else ({ (s.copy frame (ipFragment frame)).val with ipId := 0 },
        some (reportOf (s.copy frame (ipFragment frame)).val.buf 0
          (s.copy frame (ipFragment frame)).val.bufOff.toNat)) := by
  have hoff : (ipFragment frame).fragOff = s.bufOff :=
    UInt16.toNat_inj.mp (h.fragOff_toNat.trans hs.off.symm)
  rw [newFragment_val h.ethType h.protocol, addFragment_next (h.id.trans hs.id.symm) hoff]
  show (if decide _ = true then _ else _) = _
  rw [h.moreFrags]
  rfl

/-- A fragment with the id at another offset. -/
theorem newFragment_skip (hid : s.ipId = ipId) (h : Carries frame ipId off more data)
    (hoff : s.bufOff.toNat ≠ off) : (s.newFragment frame).val = (s, none) := by
  have hne : (ipFragment frame).fragOff ≠ s.bufOff := by
    intro heq
    apply hoff
    rw [← heq, h.fragOff_toNat]
  rw [newFragment_val h.ethType h.protocol,
    addFragment_other (fun _ => hne) (absurd (h.id.trans hid.symm))]
  rfl

/-- The first fragment of a datagram with another id. -/
theorem newFragment_first (hid : ipId ≠ s.ipId) (h : Carries frame ipId 0 more data) :
    (s.newFragment frame).val =
      if more then
        ((Jumbo.copy frame (ipFragment frame) { s with ipId := ipId, bufOff := 0 }).val, none)
      else (s, some (reportOf frame (ipFragment frame).data (ipFragment frame).dataLen.toNat)) := by
  have hoff : (ipFragment frame).fragOff = 0 := UInt16.toNat_inj.mp h.fragOff_toNat
  have hne : (ipFragment frame).ipId ≠ s.ipId := fun heq => hid (h.id.symm.trans heq)
  rw [newFragment_val h.ethType h.protocol, addFragment_first hne hoff]
  show (if decide _ = true then ((Jumbo.copy frame (ipFragment frame) { s with
    ipId := u16At frame 18, bufOff := 0 }).val, none) else _) = _
  rw [h.moreFrags, h.id]
  rfl

/-! ### The rest of a datagram -/

theorem cut_ne_nil (h : Cut ipId off frames rest) : frames ≠ [] := by
  cases h <;> exact List.cons_ne_nil _ _

/-- One more frame before those that end with a report. -/
theorem reports_cons {s' : Jumbo} {udp : UdpData} (hne : frames ≠ [])
    (hnext : (s.newFragment frame).val = (s', none))
    (h : s'.reports frames = List.replicate (frames.length - 1) none ++ [some udp]) :
    s.reports (frame :: frames) =
      List.replicate ((frame :: frames).length - 1) none ++ [some udp] := by
  obtain ⟨n, hn⟩ : ∃ n, frames.length = n + 1 :=
    Nat.exists_eq_add_one.mpr (List.length_pos_iff.mpr hne)
  unfold Jumbo.reports
  dsimp only
  rw [hnext, h, List.length_cons, Nat.add_sub_cancel, hn, Nat.add_sub_cancel,
    List.replicate_succ, List.cons_append]

/-- **When the buffer is filled up to the first of the frames, the datagram is reported with the
last one, from the buffer.** -/
theorem reports_rest (hcut : Cut ipId off frames rest) (hs : Filled ipId pre s)
    (hoff : pre.length = off) (hlen : (pre ++ rest).length < 65536) :
    ∃ mem, s.reports frames =
        List.replicate (frames.length - 1) none ++ [some (reportOf mem 0 (pre ++ rest).length)] ∧
      mem.bytes 0 (pre ++ rest).length = pre ++ rest := by
  induction hcut generalizing s pre with
  | last h =>
    subst hoff
    have hcopy := copy_filled hs h hlen
    refine ⟨_, ?_, hcopy.bytes⟩
    unfold Jumbo.reports
    dsimp only
    rw [newFragment_next hs h, hcopy.off]
    rfl
  | @more frame frames off data rest h hdata hrest ih =>
    subst hoff
    rw [← List.append_assoc] at hlen ⊢
    have hcopy : Filled ipId (pre ++ data) (s.copy frame (ipFragment frame)).val := by
      apply copy_filled hs h
      rw [List.length_append] at hlen
      omega
    obtain ⟨mem, hreports, hbytes⟩ := ih hcopy List.length_append hlen
    exact ⟨mem, reports_cons (cut_ne_nil hrest) (newFragment_next hs h) hreports, hbytes⟩

/-! ### All of a datagram -/

/-- Some frames are reported as a datagram with these bytes, with the last one. -/
def ReportsBytes (s : Jumbo) (frames : List Mem) (bytes : List UInt8) : Prop :=
  ∃ mem i, s.reports frames =
      List.replicate (frames.length - 1) none ++ [some (reportOf mem i bytes.length)] ∧
    mem.bytes i bytes.length = bytes

/-- A datagram with the id of `Jumbo`, from the fragment at which the buffer ends. -/
theorem reports_here (hcut : Cut ipId off frames rest) (hid : s.ipId = ipId)
    (hoff : s.bufOff.toNat = off) (hlen : off + rest.length < 65536) :
    ReportsBytes s frames (s.buf.bytes 0 off ++ rest) := by
  have hpre : (s.buf.bytes 0 off).length = off := Mem.bytes_length ..
  have hfilled : Filled ipId (s.buf.bytes 0 off) s :=
    ⟨hid, hoff.trans hpre.symm, by rw [hpre]⟩
  obtain ⟨mem, hreports, hbytes⟩ := reports_rest hcut hfilled hpre
    (by rw [List.length_append, hpre]; exact hlen)
  exact ⟨mem, 0, hreports, hbytes⟩

/-- **A datagram with the id of `Jumbo` is reported from the fragment at which the buffer ends, or
not at all.** -/
theorem reports_resumed (hcut : Cut ipId off frames rest) (hid : s.ipId = ipId)
    (hlen : off + rest.length < 65536) :
    ((∃ frame ∈ frames, (ipFragment frame).fragOff = s.bufOff) ∧
        (off ≤ s.bufOff.toNat ∧ s.bufOff.toNat ≤ off + rest.length) ∧
        ReportsBytes s frames
          (s.buf.bytes 0 s.bufOff.toNat ++ rest.drop (s.bufOff.toNat - off))) ∨
      (¬ ∃ frame ∈ frames, (ipFragment frame).fragOff = s.bufOff) ∧
        s.reports frames = List.replicate frames.length none := by
  -- at the fragment where the buffer ends the rest follows
  have hhere : ∀ {frame : Mem} {frames : List Mem} {off : ℕ} {more : Bool} {data rest : List UInt8},
      Carries frame ipId off more data → Cut ipId off (frame :: frames) rest →
      s.bufOff.toNat = off → off + rest.length < 65536 →
      (∃ frame' ∈ frame :: frames, (ipFragment frame').fragOff = s.bufOff) ∧
        (off ≤ s.bufOff.toNat ∧ s.bufOff.toNat ≤ off + rest.length) ∧
        ReportsBytes s (frame :: frames)
          (s.buf.bytes 0 s.bufOff.toNat ++ rest.drop (s.bufOff.toNat - off)) := by
    intro frame frames off more data rest h hcut hoff hlen
    have hfrag : (ipFragment frame).fragOff = s.bufOff :=
      UInt16.toNat_inj.mp (h.fragOff_toNat.trans hoff.symm)
    have hreports := reports_here hcut hid hoff hlen
    rw [hoff, Nat.sub_self, List.drop_zero]
    exact ⟨⟨frame, List.mem_cons_self, hfrag⟩, by omega, hreports⟩
  have hother : ∀ {frame : Mem} {off : ℕ} {more : Bool} {data : List UInt8},
      Carries frame ipId off more data → s.bufOff.toNat ≠ off →
      (ipFragment frame).fragOff ≠ s.bufOff := by
    intro frame off more data h hoff heq
    exact hoff ((congrArg UInt16.toNat heq).symm.trans h.fragOff_toNat)
  induction hcut with
  | @last frame off data h =>
    by_cases hoff : s.bufOff.toNat = off
    · exact .inl (hhere h (.last h) hoff hlen)
    · refine .inr ⟨?_, ?_⟩
      · rintro ⟨frame', hmem, hfrag⟩
        rw [List.mem_singleton.mp hmem] at hfrag
        exact hother h hoff hfrag
      · unfold Jumbo.reports
        dsimp only
        rw [newFragment_skip hid h hoff]
        rfl
  | @more frame frames off data rest h hdata hrest ih =>
    rw [List.length_append, ← Nat.add_assoc] at hlen
    by_cases hoff : s.bufOff.toNat = off
    · refine .inl (hhere h (.more h hdata hrest) hoff ?_)
      rw [List.length_append, ← Nat.add_assoc]
      exact hlen
    · have hskip := newFragment_skip hid h hoff
      rcases ih hlen with ⟨⟨frame', hmem, hfrag⟩, hle, mem, i, hreports, hbytes⟩ |
        ⟨hnone, hreports⟩
      · have hle' : off ≤ s.bufOff.toNat ∧ s.bufOff.toNat ≤ off + (data ++ rest).length := by
          rw [List.length_append]
          omega
        refine .inl ⟨⟨frame', List.mem_cons_of_mem _ hmem, hfrag⟩, hle', mem, i, ?_⟩
        have hdrop : (data ++ rest).drop (s.bufOff.toNat - off) =
            rest.drop (s.bufOff.toNat - (off + data.length)) := by
          rw [List.drop_append, List.drop_eq_nil_of_le (by omega), List.nil_append, Nat.sub_sub]
        rw [hdrop]
        exact ⟨reports_cons (cut_ne_nil hrest) hskip hreports, hbytes⟩
      · refine .inr ⟨?_, ?_⟩
        · rintro ⟨frame', hmem, hfrag⟩
          rcases List.mem_cons.mp hmem with rfl | hmem
          · exact hother h hoff hfrag
          · exact hnone ⟨frame', hmem, hfrag⟩
        · unfold Jumbo.reports
          dsimp only
          rw [hskip, hreports]
          rfl

/-- **A datagram with another id is reported.** -/
theorem reports_other (hcut : Cut ipId 0 frames rest) (hid : ipId ≠ s.ipId)
    (hlen : rest.length < 65536) : ReportsBytes s frames rest := by
  cases hcut with
  | @last frame _ _ h =>
    refine ⟨frame, (ipFragment frame).data, ?_, h.data⟩
    unfold Jumbo.reports
    dsimp only
    rw [newFragment_first hid h, h.dataLen_toNat]
    rfl
  | @more frame frames _ data rest h hdata hrest =>
    have hempty : Filled ipId [] { s with ipId := ipId, bufOff := 0 } := ⟨rfl, rfl, rfl⟩
    have hcopy : Filled ipId data
        (Jumbo.copy frame (ipFragment frame) { s with ipId := ipId, bufOff := 0 }).val := by
      apply copy_filled hempty h
      rw [List.length_append] at hlen
      rw [List.nil_append]
      omega
    obtain ⟨mem, hreports, hbytes⟩ := reports_rest hrest hcopy (Nat.zero_add _).symm hlen
    exact ⟨mem, 0, reports_cons (cut_ne_nil hrest) (newFragment_first hid h) hreports, hbytes⟩

theorem UdpDatagram.length_lt (d : UdpDatagram) : d.bytes.length < 65536 := by
  have hlt := (u16At (memOf d.bytes) 4).toNat_lt
  rw [d.length_eq] at hlt
  exact hlt

/-- The report is that of a datagram exactly when the port and the payload in the bytes are. -/
theorem reports_iff {d : UdpDatagram} {bytes : List UInt8}
    (hlen : bytes.length = d.bytes.length) (h : ReportsBytes s frames bytes) :
    ReportedExactly s frames d ↔
      u16At (memOf bytes) 2 = d.destPort ∧ bytes.drop 8 = d.payload := by
  obtain ⟨mem, i, hreports, hbytes⟩ := h
  have hheader := d.header_le
  have hlt := d.length_lt
  have hpayload : d.payload.length = bytes.length - 8 := by
    unfold UdpDatagram.payload
    rw [List.length_drop, hlen]
  have hport : u16At mem (i + 2) = u16At (memOf bytes) 2 := u16At_of_bytes hbytes (by omega)
  have hdata : mem.bytes (i + 8) d.payload.length = bytes.drop 8 := by
    have hsplit : bytes.length = 8 + d.payload.length := by omega
    rw [hsplit, Mem.bytes_add] at hbytes
    rw [← hbytes, List.drop_left' (Mem.bytes_length ..)]
  have hudp : Reports d (reportOf mem i bytes.length) ↔
      u16At (memOf bytes) 2 = d.destPort ∧ bytes.drop 8 = d.payload := by
    have hdataLen : (UInt64.ofNat bytes.length - 8).toNat = d.payload.length := by
      rw [udpDataLen_toNat (by omega) (by omega), hpayload]
    unfold Reports reportOf Ptr.bytes
    rw [hport, hdata, and_iff_right hdataLen]
  rw [← hudp]
  constructor
  · rintro ⟨udp, heq, hreport⟩
    have hsame := List.append_cancel_left (hreports.symm.trans heq)
    rw [List.singleton_inj, Option.some_inj] at hsame
    rwa [hsame]
  · exact fun hreport => ⟨_, hreports, hreport⟩

/-- The buffer ends at the offset of a fragment, which counts octets. -/
theorem bufOff_cases (h : ∃ frame ∈ frames, (ipFragment frame).fragOff = s.bufOff) :
    s.bufOff = 0 ∨ 8 ≤ s.bufOff.toNat := by
  obtain ⟨frame, -, hfrag⟩ := h
  have hoff : s.bufOff.toNat = (u16At frame 20 &&& 0x1FFF).toNat * 8 % 65536 := by
    rw [← hfrag]
    show ((u16At frame 20 &&& 0x1FFF) * 8).toNat = _
    rw [UInt16.toNat_mul]
    rfl
  by_cases hzero : s.bufOff.toNat = 0
  · exact .inl (UInt16.toNat_inj.mp hzero)
  · right
    omega

/-- What the buffer has and the rest of a datagram are the datagram, as far as the report goes,
when the port and the payload in the buffer are. -/
theorem resumed_iff {d : UdpDatagram} {n : ℕ} (h : 8 ≤ n) (m : Mem) :
    (u16At (memOf (m.bytes 0 n ++ d.bytes.drop n)) 2 = d.destPort ∧
        (m.bytes 0 n ++ d.bytes.drop n).drop 8 = d.payload) ↔
      u16At m 2 = d.destPort ∧ m.bytes 8 (n - 8) = d.payload.take (n - 8) := by
  have hbytes : m.bytes 0 n = m.bytes 0 8 ++ m.bytes 8 (n - 8) := by
    have hsplit := Mem.bytes_add m 0 8 (n - 8)
    rwa [Nat.add_sub_cancel' h] at hsplit
  have hport : u16At (memOf (m.bytes 0 n ++ d.bytes.drop n)) 2 = u16At m 2 := by
    have hpre : ∀ k < n, memOf (m.bytes 0 n ++ d.bytes.drop n) k = memOf (m.bytes 0 n) k :=
      fun k hk => List.getD_append _ _ _ _ (by rw [Mem.bytes_length]; exact hk)
    have hmem : u16At m (0 + 2) = u16At (memOf (m.bytes 0 n)) 2 := u16At_of_bytes rfl (by omega)
    rw [Nat.zero_add] at hmem
    rw [hmem]
    unfold u16At
    rw [hpre 2 (by omega), hpre 3 (by omega)]
  have hrest : d.bytes.drop n = d.payload.drop (n - 8) := by
    unfold UdpDatagram.payload
    rw [List.drop_drop, Nat.add_sub_cancel' h]
  have hdata : (m.bytes 0 n ++ d.bytes.drop n).drop 8 =
      m.bytes 8 (n - 8) ++ d.payload.drop (n - 8) := by
    rw [hbytes, List.append_assoc, List.drop_left' (Mem.bytes_length ..), hrest]
  rw [hport, hdata]
  apply and_congr_right
  intro _
  constructor
  · intro heq
    apply (List.append_left_inj (d.payload.drop (n - 8))).mp
    rw [heq, List.take_append_drop]
  · intro heq
    rw [heq, List.take_append_drop]

/-- The first frame has the offset of the bytes. -/
theorem cut_first (hcut : Cut ipId off frames rest) :
    ∃ frame ∈ frames, (ipFragment frame).fragOff.toNat = off := by
  cases hcut with
  | last h => exact ⟨_, List.mem_cons_self, h.fragOff_toNat⟩
  | more h => exact ⟨_, List.mem_cons_self, h.fragOff_toNat⟩

/-- **A datagram is reported exactly when its id is another one than that of `Jumbo`, or the
buffer is empty, or what it has is the datagram up to a fragment.** -/
theorem reported_iff_ready {d : UdpDatagram} (hcut : Cut ipId 0 frames d.bytes) (s : Jumbo) :
    ReportedExactly s frames d ↔ DatagramReady ipId frames d s := by
  unfold DatagramReady
  by_cases hid : ipId = s.ipId
  · rw [or_iff_right (not_not_intro hid)]
    rcases reports_resumed hcut hid.symm (by rw [Nat.zero_add]; exact d.length_lt) with
      ⟨hfrag, hle, hreports⟩ | ⟨hnone, hreports⟩
    · rw [Nat.sub_zero] at hreports
      have hlen : (s.buf.bytes 0 s.bufOff.toNat ++ d.bytes.drop s.bufOff.toNat).length =
          d.bytes.length := by
        rw [List.length_append, Mem.bytes_length, List.length_drop]
        omega
      rw [reports_iff hlen hreports, and_iff_right hfrag]
      rcases bufOff_cases hfrag with hzero | h8
      · rw [hzero]
        exact iff_of_true ⟨rfl, rfl⟩ (.inl rfl)
      · have hne : s.bufOff ≠ 0 := by
          intro hzero
          rw [hzero] at h8
          exact absurd h8 (by decide)
        rw [resumed_iff h8, or_iff_right hne]
    · have hne : s.bufOff ≠ 0 := by
        intro hzero
        obtain ⟨frame, hmem, hoff⟩ := cut_first hcut
        exact hnone ⟨frame, hmem, UInt16.toNat_inj.mp (by rw [hoff, hzero]; rfl)⟩
      rw [or_iff_right hne]
      refine iff_of_false ?_ (fun h => hnone h.1)
      rintro ⟨udp, heq, -⟩
      rw [hreports] at heq
      have hmem : some udp ∈ List.replicate frames.length none := by
        rw [heq]
        exact List.mem_append_right _ List.mem_cons_self
      exact nomatch List.eq_of_mem_replicate hmem
  · exact iff_of_true ((reports_iff rfl (reports_other hcut hid d.length_lt)).mpr ⟨rfl, rfl⟩)
      (.inl hid)

end Frames

/-- **This is so behind any frames.** -/
theorem reported_iff (buf : Mem) (history : List Mem) (d : UdpDatagram) (ipId : UInt16)
    (frames : List Mem) (hcut : Cut ipId 0 frames d.bytes) :
    ReportedExactly (Jumbo.run buf history) frames d ↔
      DatagramReady ipId frames d (Jumbo.run buf history) := reported_iff_ready hcut _

/-- A datagram for port 6699 with four bytes. -/
def smallDatagram : UdpDatagram where
  bytes := [0x1A, 0x2B, 0x1A, 0x2B, 0x00, 0x0C, 0x00, 0x00, 1, 2, 3, 4]
  header_le := by decide
  length_eq := by decide

/-- Its frame, with id 0. -/
def smallFrame : Mem :=
  memOf (List.replicate 12 0 ++ [0x08, 0x00] ++
    [0x45, 0x00, 0x00, 0x20, 0x00, 0x00, 0x40, 0x00, 0x40, 0x11] ++ List.replicate 10 0 ++
    smallDatagram.bytes)

theorem smallFrame_carries : Carries smallFrame 0 0 false smallDatagram.bytes := by
  constructor <;> decide

/-- A fragment of a datagram; with the flags 0x20 more of them follow. -/
def smallFragment (ipId flags fragOff : UInt8) (data : List UInt8) : Mem :=
  memOf (List.replicate 12 0 ++ [0x08, 0x00] ++
    [0x45, 0x00, 0x00, UInt8.ofNat (20 + data.length), 0x00, ipId, flags, fragOff, 0x40, 0x11] ++
    List.replicate 10 0 ++ data)

/-- The datagram in two fragments, with id 1. -/
def twoFragments : List Mem :=
  [smallFragment 1 0x20 0 (smallDatagram.bytes.take 8), smallFragment 1 0 1 [1, 2, 3, 4]]

theorem twoFragments_cut : Cut 1 0 twoFragments smallDatagram.bytes := by
  have hfirst : Carries (smallFragment 1 0x20 0 (smallDatagram.bytes.take 8)) 1 0 true
      (smallDatagram.bytes.take 8) := by
    constructor <;> decide
  have hlast : Carries (smallFragment 1 0 1 [1, 2, 3, 4]) 1 8 false [1, 2, 3, 4] := by
    constructor <;> decide
  exact .more hfirst (by decide) (.last hlast)

/-- Two fragments behind the first one of a datagram that was left incomplete. -/
theorem reported_iff_small :
    ReportedExactly (Jumbo.run (fun _ => 0) [smallFragment 7 0x20 0 (List.replicate 16 0xAA)])
      twoFragments smallDatagram :=
  (reported_iff _ _ smallDatagram 1 twoFragments twoFragments_cut).mpr (.inl (by decide))

/-- The second datagram with id 0 is missed. -/
theorem missed_id_zero : ¬ ∀ (buf : Mem) (history : List Mem) (d : UdpDatagram) (ipId : UInt16)
    (frames : List Mem), Cut ipId 0 frames d.bytes →
      ReportedExactly (Jumbo.run buf history) frames d := by
  intro hall
  have hcut : Cut 0 0 [smallFrame] smallDatagram.bytes := .last smallFrame_carries
  rcases (reported_iff_ready hcut _).mp (hall (fun _ => 0) [smallFrame] smallDatagram 0 _ hcut) with
    hid | hzero | ⟨⟨frame, hmem, hfrag⟩, -⟩
  · exact hid (by decide)
  · exact absurd hzero (by decide)
  · rw [List.mem_singleton.mp hmem] at hfrag
    exact absurd hfrag (by decide)

end Rs
end SensorSupport
