/-
# Jumbo packets (`driver/input/jumbo.hpp`, `driver/input/input_pcap_jumbo.hpp`)

Where the datagrams of a lidar are cut into IP fragments, `InputPcapJumbo` takes whole Ethernet
frames from a file and `Jumbo` puts the fragments together. It keeps one datagram: its IP id,
and the bytes so far. The id is 0 when there is none.

`new_fragment` takes all lengths from the frame, and does not look at how much of it was
captured. `FrameFits` says of which frames it reads and writes only what is there
(`newFragment_fits`).

Key definitions: `Jumbo`, `Jumbo.addFragment`, `Jumbo.newFragment`, `Jumbo.run`, `FrameFits`.
Key theorems: `copy_fits`, `addFragment_fits`, `newFragment_fits`, `recvPacket_fits`.
-/
import SensorSupport.Lib.Memory
import SensorSupport.Rs.SeqDecoder

namespace SensorSupport
namespace Rs

/-- `IP_LEN`, the size of the buffer, and of that of a packet. -/
def IP_LEN : ℕ := 65536

/-! ### Accesses -/

/-- What `new_fragment` does: it reads a byte of the frame, writes a byte of its buffer, or
subtracts a length from another. A payload is copied to a packet. -/
inductive JumboAccess
  | read (i : ℕ)
  | write (i : ℕ)
  | subtract (a b : ℕ)
  | copy (len : ℕ)

/-- The byte was captured or is in the buffer, the difference is not below zero, or the copy
fits. -/
def JumboAccess.InBounds (size : ℕ) : JumboAccess → Prop
  | read i => i < size
  | write i => i < IP_LEN
  | subtract a b => b ≤ a
  | copy len => len ≤ IP_LEN

/-- A byte of a frame. -/
def frameByte (frame : Mem) (i : ℕ) : Traced JumboAccess UInt8 := (frame.read8 i).mapLog .read

/-- A number of a frame, by `ntohs`. -/
def frameU16 (frame : Mem) (i : ℕ) : Traced JumboAccess UInt16 :=
  ⟨u16At frame i, [.read i, .read (i + 1)]⟩

/-- `ip_len - ip_hdr_size` -/
def subtractHeader (len hdrSize : UInt16) : Traced JumboAccess UInt16 :=
  ⟨len - hdrSize, [.subtract len.toNat hdrSize.toNat]⟩

/-- A length without `UDP_HDR_LEN`, as `size_t`. -/
def subtractUdpHeader (len : UInt16) : Traced JumboAccess UInt64 :=
  ⟨UInt64.ofNat len.toNat - 8, [.subtract len.toNat 8]⟩

/-! ### Reassembly -/

structure Jumbo where
  ipId : UInt16
  buf : Mem
  bufOff : UInt16

/-- The fields of an IP header: the id, the offset in bytes, whether more fragments follow, and
where the data are. -/
structure IpFragment where
  ipId : UInt16
  fragOff : UInt16
  moreFrags : Bool
  data : ℕ
  dataLen : UInt16

/-- What `new_fragment` gives for a complete datagram. -/
structure UdpData where
  udpPort : UInt16
  udpData : Ptr
  udpDataLen : UInt64

namespace Jumbo

/-- The constructor; the buffer has any contents. -/
def init (buf : Mem) : Jumbo := ⟨0, buf, 0⟩

/-- The data of a fragment are put behind those in the buffer. -/
def copy (frame : Mem) (f : IpFragment) (s : Jumbo) : Traced JumboAccess Jumbo := do
  let bytes ← (frame.readBytes f.data f.dataLen.toNat).mapLog .read
  let buf ← (s.buf.write s.bufOff.toNat bytes).mapLog .write
  pure { s with buf, bufOff := s.bufOff + f.dataLen }

/-- The rest of `new_fragment`, behind the header. -/
def addFragment (frame : Mem) (f : IpFragment) (s : Jumbo) :
    Traced JumboAccess (Jumbo × Option UdpData) :=
  if f.ipId = s.ipId then
    if f.fragOff = s.bufOff then do
      let s ← s.copy frame f
      if f.moreFrags then pure (s, none)
      else do
        let udpDataLen ← subtractUdpHeader s.bufOff
        pure ({ s with ipId := 0 }, some ⟨u16At s.buf 2, ⟨s.buf, 8⟩, udpDataLen⟩)
    else pure (s, none)
  else if f.fragOff = 0 then
    if f.moreFrags then do
      let s ← copy frame f { s with ipId := f.ipId, bufOff := 0 }
      pure (s, none)
    else do
      let udpPort ← frameU16 frame (f.data + 2)
      let udpDataLen ← subtractUdpHeader f.dataLen
      pure (s, some ⟨udpPort, ⟨frame, f.data + 8⟩, udpDataLen⟩)
  else pure (s, none)

/-- `ip_hdr_size` -/
def ipHdrSize (version : UInt8) : UInt16 := (version &&& 0xF).toUInt16 * 4

/-- `new_fragment` -/
def newFragment (frame : Mem) (s : Jumbo) : Traced JumboAccess (Jumbo × Option UdpData) := do
  let ethType ← frameU16 frame 12
  if ethType ≠ 0x0800 then pure (s, none)
  else do
    let protocol ← frameByte frame 23
    if protocol ≠ 0x11 then pure (s, none)
    else do
      let version ← frameByte frame 14
      let ipLen ← frameU16 frame 16
      let ipDataLen ← subtractHeader ipLen (ipHdrSize version)
      let ipId ← frameU16 frame 18
      let fOff ← frameU16 frame 20
      addFragment frame
        ⟨ipId, (fOff &&& 0x1FFF) * 8, (fOff >>> 13 &&& 0x01) ≠ 0, 14 + (ipHdrSize version).toNat,
          ipDataLen⟩ s

/-- The state behind some frames. -/
def run (buf : Mem) (frames : List Mem) : Jumbo :=
  frames.foldl (fun s frame => (s.newFragment frame).val.1) (.init buf)

end Jumbo

/-- What `recvPacket` of `InputPcapJumbo` does with a frame: a payload for one of the ports is
copied to a packet. -/
def recvPacketJumbo (msopPort difopPort : UInt16) (frame : Mem) (s : Jumbo) :
    Traced JumboAccess (Jumbo × Option UdpData) := do
  let r ← s.newFragment frame
  match r.2 with
  | none => pure r
  | some udp =>
    if udp.udpPort = msopPort ∨ udp.udpPort = difopPort then ⟨r, [.copy udp.udpDataLen.toNat]⟩
    else pure (r.1, none)

/-! ### Bounds -/

/-- The data of a fragment are in the frame. -/
def DataCaptured (f : IpFragment) (size : ℕ) : Prop :=
  f.dataLen.toNat = 0 ∨ f.data + f.dataLen.toNat ≤ size

/-- A fragment whose data are captured and have room in the buffer, if they are copied, and
which completes a datagram only with its UDP header. -/
def FragmentFits (f : IpFragment) (size : ℕ) (s : Jumbo) : Prop :=
  if f.ipId = s.ipId then
    f.fragOff = s.bufOff →
      DataCaptured f size ∧ (f.dataLen.toNat = 0 ∨ s.bufOff.toNat + f.dataLen.toNat ≤ IP_LEN) ∧
        (f.moreFrags = false → 8 ≤ (s.bufOff + f.dataLen).toNat)
  else
    f.fragOff = 0 →
      if f.moreFrags then DataCaptured f size else f.data + 4 ≤ size ∧ 8 ≤ f.dataLen.toNat

/-- The fragment in a frame. -/
def ipFragment (frame : Mem) : IpFragment where
  ipId := u16At frame 18
  fragOff := (u16At frame 20 &&& 0x1FFF) * 8
  moreFrags := (u16At frame 20 >>> 13 &&& 0x01) ≠ 0
  data := 14 + (Jumbo.ipHdrSize (frame 14)).toNat
  dataLen := u16At frame 16 - Jumbo.ipHdrSize (frame 14)

/-- A frame of which the Ethernet header is captured, that of IP as far as it is looked at, and
whose total length is not below the length of that header. -/
def FrameFits (frame : Mem) (size : ℕ) (s : Jumbo) : Prop :=
  14 ≤ size ∧
    (u16At frame 12 = 0x0800 → 24 ≤ size ∧
      (frame 23 = 0x11 → Jumbo.ipHdrSize (frame 14) ≤ u16At frame 16 ∧
        FragmentFits (ipFragment frame) size s))

instance (f : IpFragment) (size : ℕ) : Decidable (DataCaptured f size) :=
  inferInstanceAs (Decidable (_ ∨ _))

instance (f : IpFragment) (size : ℕ) (s : Jumbo) : Decidable (FragmentFits f size s) :=
  inferInstanceAs (Decidable (ite (f.ipId = s.ipId) _ _))

instance (frame : Mem) (size : ℕ) (s : Jumbo) : Decidable (FrameFits frame size s) :=
  inferInstanceAs (Decidable (_ ∧ _))

section Bounds

variable {frame : Mem} {size : ℕ} {s : Jumbo} {f : IpFragment}

@[simp] theorem all_frameByte {i : ℕ} :
    (frameByte frame i).All (JumboAccess.InBounds size) ↔ i < size := by
  unfold frameByte
  rw [Traced.all_mapLog, Mem.all_read8]
  rfl

@[simp] theorem all_frameU16 {i : ℕ} :
    (frameU16 frame i).All (JumboAccess.InBounds size) ↔ i + 1 < size := by
  unfold frameU16 Traced.All
  rw [List.forall_mem_cons, List.forall_mem_singleton]
  exact and_iff_right_of_imp (Nat.lt_of_succ_lt ·)

@[simp] theorem all_subtractHeader {len hdrSize : UInt16} :
    (subtractHeader len hdrSize).All (JumboAccess.InBounds size) ↔ hdrSize ≤ len :=
  List.forall_mem_singleton

@[simp] theorem all_subtractUdpHeader {len : UInt16} :
    (subtractUdpHeader len).All (JumboAccess.InBounds size) ↔ 8 ≤ len.toNat :=
  List.forall_mem_singleton

/-- The header is taken off a length that is not below it. -/
theorem udpDataLen_toNat {len : ℕ} (h : 8 ≤ len) (hlt : len < 65536) :
    (UInt64.ofNat len - 8).toNat = len - 8 := by
  have hcast : (UInt64.ofNat len).toNat = len := by
    rw [UInt64.toNat_ofNat']
    omega
  have hle : (8 : UInt64) ≤ UInt64.ofNat len := by
    rw [UInt64.le_iff_toNat_le, hcast]
    exact h
  rw [UInt64.toNat_sub_of_le _ _ hle, hcast]
  rfl

/-- **The data are copied within the frame and the buffer.** -/
theorem copy_fits : (s.copy frame f).All (JumboAccess.InBounds size) ↔
    DataCaptured f size ∧ (f.dataLen.toNat = 0 ∨ s.bufOff.toNat + f.dataLen.toNat ≤ IP_LEN) := by
  have hread : JumboAccess.InBounds size ∘ JumboAccess.read = (· < size) := rfl
  have hwrite : JumboAccess.InBounds size ∘ JumboAccess.write = (· < IP_LEN) := rfl
  unfold Jumbo.copy DataCaptured
  simp [hread, hwrite]

/-- The state with the data of a fragment. -/
theorem copy_val : (s.copy frame f).val =
    { s with
      buf := s.buf.set s.bufOff.toNat (frame.bytes f.data f.dataLen.toNat)
      bufOff := s.bufOff + f.dataLen } := rfl

/-- The next fragment of the datagram in the buffer, and the datagram when it is the last one. -/
theorem addFragment_next (hid : f.ipId = s.ipId) (hoff : f.fragOff = s.bufOff) :
    (s.addFragment frame f).val =
      if f.moreFrags then ((s.copy frame f).val, none)
      else ({ (s.copy frame f).val with ipId := 0 },
        some ⟨u16At (s.copy frame f).val.buf 2, ⟨(s.copy frame f).val.buf, 8⟩,
          UInt64.ofNat (s.bufOff + f.dataLen).toNat - 8⟩) := by
  unfold Jumbo.addFragment
  rw [if_pos hid, if_pos hoff]
  cases f.moreFrags <;> rfl

/-- The first fragment of another datagram, or all of it. -/
theorem addFragment_first (hid : f.ipId ≠ s.ipId) (hoff : f.fragOff = 0) :
    (s.addFragment frame f).val =
      if f.moreFrags then
        ((Jumbo.copy frame f { s with ipId := f.ipId, bufOff := 0 }).val, none)
      else (s, some ⟨u16At frame (f.data + 2), ⟨frame, f.data + 8⟩,
        UInt64.ofNat f.dataLen.toNat - 8⟩) := by
  unfold Jumbo.addFragment
  rw [if_neg hid, if_pos hoff]
  cases f.moreFrags <;> rfl

/-- Other fragments are left out. -/
theorem addFragment_other (hid : f.ipId = s.ipId → f.fragOff ≠ s.bufOff)
    (hid' : f.ipId ≠ s.ipId → f.fragOff ≠ 0) : s.addFragment frame f = pure (s, none) := by
  unfold Jumbo.addFragment
  by_cases h : f.ipId = s.ipId
  · rw [if_pos h, if_neg (hid h)]
  · rw [if_neg h, if_neg (hid' h)]

/-- **What is done with a fragment is within bounds exactly when it fits.** -/
theorem addFragment_inBounds :
    (s.addFragment frame f).All (JumboAccess.InBounds size) ↔ FragmentFits f size s := by
  unfold FragmentFits
  by_cases hid : f.ipId = s.ipId
  · rw [if_pos hid]
    by_cases hoff : f.fragOff = s.bufOff
    · unfold Jumbo.addFragment
      rw [if_pos hid, if_pos hoff, Traced.all_bind, copy_fits]
      cases f.moreFrags <;> simp [hoff, and_assoc, copy_val]
    · rw [addFragment_other (fun _ => hoff) (absurd hid)]
      exact iff_of_true (Traced.all_pure _) (absurd · hoff)
  · rw [if_neg hid]
    by_cases hoff : f.fragOff = 0
    · have hroom : f.dataLen.toNat = 0 ∨ f.dataLen.toNat ≤ IP_LEN :=
        .inr (Nat.le_of_lt f.dataLen.toNat_lt)
      unfold Jumbo.addFragment
      rw [if_neg hid, if_pos hoff]
      cases f.moreFrags with
      | true => simp [hoff, copy_fits, hroom]
      | false =>
        have hheader : f.data + 2 + 1 < size ↔ f.data + 4 ≤ size := by omega
        simp [hoff, hheader]
    · rw [addFragment_other (fun heq => absurd heq hid) (fun _ => hoff)]
      exact iff_of_true (Traced.all_pure _) (absurd · hoff)

/-- The payload of a fragment that fits is not longer than a packet. -/
theorem addFragment_len (h : FragmentFits f size s) :
    ∀ udp ∈ (s.addFragment frame f).val.2, udp.udpDataLen.toNat ≤ IP_LEN := by
  have hfits : ∀ {len : UInt16}, 8 ≤ len.toNat → (UInt64.ofNat len.toNat - 8).toNat ≤ IP_LEN := by
    intro len hlen
    have hlt := len.toNat_lt
    rw [udpDataLen_toNat hlen hlt]
    unfold IP_LEN
    omega
  unfold FragmentFits at h
  by_cases hid : f.ipId = s.ipId
  · rw [if_pos hid] at h
    by_cases hoff : f.fragOff = s.bufOff
    · obtain ⟨-, -, hlen⟩ := h hoff
      rw [addFragment_next hid hoff]
      cases hmore : f.moreFrags with
      | true => exact fun udp hudp => nomatch hudp
      | false =>
        rintro udp ⟨⟩
        exact hfits (hlen hmore)
    · rw [addFragment_other (fun _ => hoff) (absurd hid)]
      exact fun udp hudp => nomatch hudp
  · rw [if_neg hid] at h
    by_cases hoff : f.fragOff = 0
    · have hlen := h hoff
      rw [addFragment_first hid hoff]
      cases hmore : f.moreFrags with
      | true => exact fun udp hudp => nomatch hudp
      | false =>
        rw [hmore] at hlen
        rintro udp ⟨⟩
        exact hfits hlen.2
    · rw [addFragment_other (fun heq => absurd heq hid) (fun _ => hoff)]
      exact fun udp hudp => nomatch hudp

/-! ### Frames -/

/-- What `new_fragment` is to do with a frame of which so many bytes were captured: it stays
within bounds, and the payload fits a packet. -/
def NewFragmentOk (frame : Mem) (size : ℕ) (s : Jumbo) : Prop :=
  (s.newFragment frame).All (JumboAccess.InBounds size) ∧
    ∀ udp ∈ (s.newFragment frame).val.2, udp.udpDataLen.toNat ≤ IP_LEN

@[simp] theorem val_frameU16 {i : ℕ} : (frameU16 frame i).val = u16At frame i := rfl

@[simp] theorem val_frameByte {i : ℕ} : (frameByte frame i).val = frame i := rfl

/-- The fragment of a UDP datagram is added. -/
theorem newFragment_val (hip : u16At frame 12 = 0x0800) (hudp : frame 23 = 0x11) :
    (s.newFragment frame).val = (s.addFragment frame (ipFragment frame)).val := by
  unfold Jumbo.newFragment
  rw [Traced.val_bind, val_frameU16, if_neg (not_not_intro hip), Traced.val_bind, val_frameByte,
    if_neg (not_not_intro hudp)]
  rfl

/-- Other frames are left out. -/
theorem newFragment_none (h : u16At frame 12 = 0x0800 → frame 23 ≠ 0x11) :
    (s.newFragment frame).val = (s, none) := by
  unfold Jumbo.newFragment
  rw [Traced.val_bind, val_frameU16]
  by_cases hip : u16At frame 12 = 0x0800
  · rw [if_neg (not_not_intro hip), Traced.val_bind, val_frameByte, if_pos (h hip)]
    rfl
  · rw [if_pos hip]
    rfl

theorem newFragment_inBounds :
    (s.newFragment frame).All (JumboAccess.InBounds size) ↔ FrameFits frame size s := by
  unfold Jumbo.newFragment FrameFits
  rw [Traced.all_bind, all_frameU16, val_frameU16]
  apply and_congr Iff.rfl
  by_cases hip : u16At frame 12 = 0x0800
  · rw [if_neg (not_not_intro hip), Traced.all_bind, all_frameByte, val_frameByte,
      forall_prop_of_true hip]
    apply and_congr_right
    intro hsize
    by_cases hudp : frame 23 = 0x11
    · rw [if_neg (not_not_intro hudp), forall_prop_of_true hudp]
      simp only [Traced.all_bind, all_frameByte, all_frameU16, all_subtractHeader]
      constructor
      · rintro ⟨-, -, hlen, -, -, hfragment⟩
        exact ⟨hlen, addFragment_inBounds.mp hfragment⟩
      · rintro ⟨hlen, hfragment⟩
        -- the fields are all below byte 24
        exact ⟨by omega, by omega, hlen, by omega, by omega, addFragment_inBounds.mpr hfragment⟩
    · rw [if_pos hudp]
      exact iff_of_true (Traced.all_pure _) (absurd · hudp)
  · rw [if_pos hip]
    exact iff_of_true (Traced.all_pure _) (absurd · hip)

/-- **`new_fragment` stays within bounds exactly for the frames that fit.** -/
theorem newFragment_fits_iff : NewFragmentOk frame size s ↔ FrameFits frame size s := by
  unfold NewFragmentOk
  rw [newFragment_inBounds]
  apply and_iff_left_of_imp
  intro hfits
  by_cases h : u16At frame 12 = 0x0800 ∧ frame 23 = 0x11
  · rw [newFragment_val h.1 h.2]
    exact addFragment_len ((hfits.2 h.1).2 h.2).2
  · rw [newFragment_none (not_and.mp h)]
    exact fun udp hudp => nomatch hudp

/-- **`new_fragment` stays within bounds exactly for the frames that fit, behind any frames.** -/
theorem newFragment_fits (buf : Mem) (frames : List Mem) (frame : Mem) (size : ℕ) :
    NewFragmentOk frame size (Jumbo.run buf frames) ↔
      FrameFits frame size (Jumbo.run buf frames) := newFragment_fits_iff

/-- A payload that fits is copied to its packet. -/
theorem recvPacket_fits {msopPort difopPort : UInt16} (h : FrameFits frame size s) :
    (recvPacketJumbo msopPort difopPort frame s).All (JumboAccess.InBounds size) := by
  obtain ⟨haccess, hlen⟩ := newFragment_fits_iff.mpr h
  unfold recvPacketJumbo
  rw [Traced.all_bind]
  refine ⟨haccess, ?_⟩
  cases hudp : (s.newFragment frame).val.2 with
  | none => exact Traced.all_pure _
  | some udp =>
    dsimp only
    rw [Traced.all_ite]
    split
    · exact List.forall_mem_singleton.mpr (hlen udp hudp)
    · exact Traced.all_pure _

end Bounds

/-- The first fragment of a datagram, of which 42 bytes were captured: the IP header says that
it has 1500. -/
def cutFrame : Mem :=
  memOf (List.replicate 12 0 ++ [0x08, 0x00] ++
    [0x45, 0x00, 0x05, 0xDC, 0x00, 0x01, 0x20, 0x00, 0x40, 0x11] ++ List.replicate 18 0)

theorem newFragment_behind : ¬ ∀ (buf : Mem) (frames : List Mem) (frame : Mem) (size : ℕ),
    NewFragmentOk frame size (Jumbo.run buf frames) := by
  intro hall
  exact absurd (newFragment_fits_iff.mp (hall (fun _ => 0) [] cutFrame 42)) (by decide)

end Rs
end SensorSupport
