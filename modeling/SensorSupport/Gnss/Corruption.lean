/-
# One changed byte in a stream of sentences (`wtrtk_982dt_driver/gps_ntrip_py/nmea.py`)

A stream of frames, `$`, a body, `*`, the XOR of the body in two digits, CR and LF, reaches
the driver with one byte changed. A changed body has another XOR. What hits a frame behind
its `*` leaves the body, which is all that is parsed. In the other places the line has no
`*`, or there is no line. As long as no line end is changed the framer trims nothing, since
the stream would have fit (`scan_changed`). A frame without its line end runs into the next
one, and may be trimmed there; each frame that is left is one of few (`piece_changed`).

So each sentence that is accepted of the changed stream parses to what one of the frames
does (`corruption_harmless`).

Key definitions: `NmeaFrame`, `Disturbed`.
Key theorems: `scan_changed`, `piece_changed`, `parse_disturbed`, `corruption_harmless`.
-/
import Mathlib.Data.Nat.Bitwise
import SensorSupport.Gnss.Parsers

namespace SensorSupport
namespace Gnss

open Framing

/-! ### Frames -/

/-- `b'*'`. -/
def star : UInt8 := 0x2A

/-- CR and LF. -/
def lineEnd : List UInt8 := [0x0D, newline]

/-- The hexadecimal digit of a number, in upper case. -/
def upperHexDigit (n : ℕ) : UInt8 := if n < 10 then UInt8.ofNat (48 + n) else UInt8.ofNat (55 + n)

/-- A frame: its body is printable ASCII without `$` and `*`. -/
structure NmeaFrame where
  body : List UInt8
  printable : ∀ b ∈ body, 0x20 ≤ b ∧ b ≤ 0x7E
  noDollar : dollar ∉ body
  noStar : star ∉ body

namespace NmeaFrame

/-- The XOR of the body. -/
def checksum (f : NmeaFrame) : ℕ := f.body.foldl (fun n b => n ^^^ b.toNat) 0

/-- What lies behind the star. -/
def tail (f : NmeaFrame) : List UInt8 :=
  upperHexDigit (f.checksum / 16) :: upperHexDigit (f.checksum % 16) :: lineEnd

/-- The bytes of a frame. -/
def bytes (f : NmeaFrame) : List UInt8 := dollar :: (f.body ++ star :: f.tail)

/-- The text of a frame. -/
def text (f : NmeaFrame) : Text :=
  '$' :: (decodeAscii f.body ++
    ['*', Char.ofNat (upperHexDigit (f.checksum / 16)).toNat,
      Char.ofNat (upperHexDigit (f.checksum % 16)).toNat])

end NmeaFrame

section Frames

variable {f : NmeaFrame} {frames : List NmeaFrame} {p q x y t : List UInt8} {b b' : UInt8}

theorem NmeaFrame.noNewline (f : NmeaFrame) : newline ∉ f.body := fun hmem =>
  absurd (f.printable _ hmem).1 (by decide)

theorem checksum_lt (f : NmeaFrame) : f.checksum < 128 := by
  have hfold : ∀ (body : List UInt8) (n : ℕ), (∀ b ∈ body, b.toNat < 2 ^ 7) → n < 2 ^ 7 →
      body.foldl (fun n b => n ^^^ b.toNat) n < 2 ^ 7 := by
    intro body
    induction body with
    | nil => exact fun _ _ hn => hn
    | cons b bs ih =>
      intro n hbody hn
      exact ih _ (fun c hc => hbody c (List.mem_cons_of_mem _ hc))
        (Nat.xor_lt_two_pow hn (hbody b List.mem_cons_self))
  refine hfold f.body 0 (fun b hb => ?_) (by decide)
  have hle := UInt8.le_iff_toNat_le.mp (f.printable b hb).2
  exact Nat.lt_of_le_of_lt hle (by decide)

theorem upperHexDigit_ne {n : ℕ} (hn : n < 16) :
    upperHexDigit n ≠ dollar ∧ upperHexDigit n ≠ star ∧ upperHexDigit n ≠ newline ∧
      upperHexDigit n < 0x80 ∧ hexDigitValue (Char.ofNat (upperHexDigit n).toNat) = some n := by
  have hall : (List.range 16).all (fun n => upperHexDigit n ≠ dollar ∧ upperHexDigit n ≠ star ∧
      upperHexDigit n ≠ newline ∧ upperHexDigit n < 0x80 ∧
      hexDigitValue (Char.ofNat (upperHexDigit n).toNat) = some n) = true := by
    decide +kernel
  exact of_decide_eq_true (List.all_eq_true.mp hall n (List.mem_range.mpr hn))

/-- The digits of a frame. -/
theorem NmeaFrame.digits (f : NmeaFrame) : f.checksum / 16 < 16 ∧ f.checksum % 16 < 16 := by
  have := checksum_lt f
  omega

theorem tail_noDollar (f : NmeaFrame) : dollar ∉ f.tail := by
  obtain ⟨hhigh, hlow⟩ := f.digits
  simp only [NmeaFrame.tail, lineEnd, List.mem_cons, List.not_mem_nil, or_false, not_or]
  exact ⟨(upperHexDigit_ne hhigh).1.symm, (upperHexDigit_ne hlow).1.symm, by decide, by decide⟩

theorem tail_noStar (f : NmeaFrame) : star ∉ f.tail := by
  obtain ⟨hhigh, hlow⟩ := f.digits
  simp only [NmeaFrame.tail, lineEnd, List.mem_cons, List.not_mem_nil, or_false, not_or]
  exact ⟨(upperHexDigit_ne hhigh).2.1.symm, (upperHexDigit_ne hlow).2.1.symm, by decide, by decide⟩

/-- The one line end of a frame is its last byte. -/
theorem tail_eq (f : NmeaFrame) : ∃ t, f.tail = t ++ [newline] ∧ newline ∉ t := by
  obtain ⟨hhigh, hlow⟩ := f.digits
  refine ⟨[upperHexDigit (f.checksum / 16), upperHexDigit (f.checksum % 16), 0x0D], rfl, ?_⟩
  simp only [List.mem_cons, List.not_mem_nil, or_false, not_or]
  exact ⟨(upperHexDigit_ne hhigh).2.2.1.symm, (upperHexDigit_ne hlow).2.2.1.symm, by decide⟩

theorem bytes_eq (f : NmeaFrame) :
    ∃ c, f.bytes = dollar :: (c ++ [newline]) ∧ newline ∉ c ∧ dollar ∉ c := by
  obtain ⟨t, ht, hnot⟩ := tail_eq f
  have hdollar := tail_noDollar f
  rw [ht] at hdollar
  refine ⟨f.body ++ star :: t, by simp [NmeaFrame.bytes, ht], ?_, ?_⟩
  · simp only [List.mem_append, List.mem_cons, not_or]
    exact ⟨f.noNewline, by decide, hnot⟩
  · simp only [List.mem_append, List.mem_cons, not_or]
    exact ⟨f.noDollar, by decide, fun hmem => hdollar (List.mem_append_left _ hmem)⟩

theorem stream_isFrame (frames : List NmeaFrame) :
    ∀ raw ∈ frames.map NmeaFrame.bytes, IsFrame dollar newline raw := by
  intro raw hraw
  obtain ⟨f, -, rfl⟩ := List.mem_map.mp hraw
  obtain ⟨c, hc, hnot, -⟩ := bytes_eq f
  exact ⟨c, hc, hnot⟩

/-- The frames of a stream of frames. -/
theorem scan_stream (frames : List NmeaFrame) :
    scan dollar newline none (frames.flatMap NmeaFrame.bytes) =
      (none, frames.map NmeaFrame.bytes) := by
  rw [List.flatMap_def]
  exact scan_frames dollar newline (stream_isFrame frames)

/-! ### What is decoded -/

theorem decodeAscii_append (a b : List UInt8) :
    decodeAscii (a ++ b) = decodeAscii a ++ decodeAscii b := by
  simp [decodeAscii]

theorem decodeAscii_cons (hb : b < 0x80) (t : List UInt8) :
    decodeAscii (b :: t) = Char.ofNat b.toNat :: decodeAscii t := by
  simp [decodeAscii, hb]

theorem decodeAscii_cons_of_not (hb : ¬ b < 0x80) (t : List UInt8) :
    decodeAscii (b :: t) = decodeAscii t := by
  simp [decodeAscii, hb]

theorem toNat_ofByte (hb : b < 0x80) : (Char.ofNat b.toNat).toNat = b.toNat := by
  have hlt : b.toNat < 128 := UInt8.lt_iff_toNat_lt.mp hb
  have hall : (List.range 128).all (fun n => (Char.ofNat n).toNat = n) = true := by decide +kernel
  exact of_decide_eq_true (List.all_eq_true.mp hall b.toNat (List.mem_range.mpr hlt))

/-- A star is decoded of a star. -/
theorem star_of_decode {raw : List UInt8} (h : '*' ∈ decodeAscii raw) : star ∈ raw := by
  obtain ⟨b, hb, hchar⟩ := List.mem_map.mp h
  obtain ⟨hmem, hascii⟩ := List.mem_filter.mp hb
  have hvalue := toNat_ofByte (of_decide_eq_true hascii)
  rw [hchar] at hvalue
  have hstar : b = star := UInt8.toNat_inj.mp hvalue.symm
  exact hstar ▸ hmem

theorem xorOf_append (s s' : Text) : xorOf (s ++ s') = xorOf s ^^^ xorOf s' := by
  have hfold : ∀ (s : Text) (n : ℕ),
      s.foldl (fun actual character => actual ^^^ character.toNat) n = n ^^^ xorOf s := by
    intro s
    induction s with
    | nil => exact fun n => (Nat.xor_zero n).symm
    | cons c s ih =>
      intro n
      unfold xorOf
      rw [List.foldl_cons, List.foldl_cons, ih, ih, Nat.zero_xor, Nat.xor_assoc]
  rw [xorOf, List.foldl_append, hfold s']
  rfl

/-- The XOR of what is decoded of a byte. -/
theorem xorOf_decode_cons (b : UInt8) (t : List UInt8) :
    xorOf (decodeAscii (b :: t)) = (if b < 0x80 then b.toNat else 0) ^^^ xorOf (decodeAscii t) := by
  by_cases hb : b < 0x80
  · rw [decodeAscii_cons hb, if_pos hb, ← List.singleton_append, xorOf_append]
    simp [xorOf, toNat_ofByte hb]
  · rw [decodeAscii_cons_of_not hb, if_neg hb, Nat.zero_xor]

theorem body_ascii (f : NmeaFrame) : ∀ b ∈ f.body, b < 0x80 := fun b hb =>
  UInt8.lt_of_le_of_lt (f.printable b hb).2 (by decide)

/-- The XOR of the decoded body is the checksum. -/
theorem xorOf_body (f : NmeaFrame) : xorOf (decodeAscii f.body) = f.checksum := by
  have hfold : ∀ (body : List UInt8) (n : ℕ), (∀ b ∈ body, b < 0x80) →
      body.foldl (fun n b => n ^^^ b.toNat) n = n ^^^ xorOf (decodeAscii body) := by
    intro body
    induction body with
    | nil => exact fun n _ => (Nat.xor_zero n).symm
    | cons b body ih =>
      intro n hbody
      rw [List.foldl_cons, ih _ fun c hc => hbody c (List.mem_cons_of_mem _ hc),
        xorOf_decode_cons, if_pos (hbody b List.mem_cons_self), Nat.xor_assoc]
  rw [NmeaFrame.checksum, hfold f.body 0 (body_ascii f), Nat.zero_xor]

/-- A changed byte changes the XOR. -/
theorem xorOf_changed (hbody : f.body = x ++ b :: y) (hne : b' ≠ b) :
    xorOf (decodeAscii (x ++ b' :: y)) ≠ f.checksum := by
  intro heq
  rw [← xorOf_body f, hbody, decodeAscii_append, decodeAscii_append, xorOf_append, xorOf_append,
    xorOf_decode_cons, xorOf_decode_cons] at heq
  have hmem : b ∈ f.body := by simp [hbody]
  have hvalue := Nat.xor_left_injective (Nat.xor_right_injective heq)
  rw [if_pos (body_ascii f b hmem)] at hvalue
  by_cases hb' : b' < 0x80
  · rw [if_pos hb'] at hvalue
    exact hne (UInt8.toNat_inj.mp hvalue)
  · rw [if_neg hb'] at hvalue
    have hlow := UInt8.le_iff_toNat_le.mp (f.printable b hmem).1
    rw [← hvalue] at hlow
    exact absurd hlow (by decide)

/-- A `$` before the body changes the XOR. -/
theorem xorOf_dollar (f : NmeaFrame) : xorOf (decodeAscii (dollar :: f.body)) ≠ f.checksum := by
  rw [xorOf_decode_cons, xorOf_body]
  intro heq
  have hzero := Nat.xor_left_injective (heq.trans (Nat.zero_xor _).symm)
  exact absurd hzero (by decide)

/-! ### The changed frame -/

/-- What the framer makes of a stream of frames with a changed byte: a frame whose body is
whole, a line without a star, or the checksum of a frame behind a body of another XOR. -/
inductive Disturbed (frames : List NmeaFrame) : List UInt8 → Prop
  | whole {f : NmeaFrame} {t : List UInt8} : f ∈ frames →
      Disturbed frames (dollar :: (f.body ++ star :: t))
  | noStar {raw : List UInt8} : star ∉ raw → Disturbed frames raw
  | changed {f : NmeaFrame} {body : List UInt8} : xorOf (decodeAscii body) ≠ f.checksum →
      Disturbed frames (dollar :: (body ++ star :: f.tail))

/-- A byte of a stream of frames is one of a frame. -/
theorem stream_split : ∀ {frames : List NmeaFrame} {pre post : List UInt8},
    frames.flatMap NmeaFrame.bytes = pre ++ b :: post → ∃ fs f fs' p q,
      frames = fs ++ f :: fs' ∧ f.bytes = p ++ b :: q ∧
      pre = fs.flatMap NmeaFrame.bytes ++ p ∧ post = q ++ fs'.flatMap NmeaFrame.bytes
  | [], pre, post, h => by simp at h
  | f :: frames, pre, post, h => by
    rw [List.flatMap_cons] at h
    rcases List.append_eq_append_iff.mp h with ⟨p, rfl, hrest⟩ | ⟨q, hbytes, hpost⟩
    · obtain ⟨fs, f', fs', p', q, rfl, hf', rfl, hpost⟩ := stream_split hrest
      exact ⟨f :: fs, f', fs', p', q, rfl, hf', by simp, hpost⟩
    · cases q with
      | nil =>
        have hrest : frames.flatMap NmeaFrame.bytes = [] ++ b :: post := hpost.symm
        obtain ⟨fs, f', fs', p', q, rfl, hf', hpre, hpost⟩ := stream_split hrest
        rw [List.append_nil] at hbytes
        exact ⟨f :: fs, f', fs', p', q, rfl, hf', by
          rw [List.flatMap_cons, List.append_assoc, ← hpre, hbytes, List.append_nil], hpost⟩
      | cons c q =>
        obtain ⟨rfl, rfl⟩ := List.cons.inj hpost
        exact ⟨[], f, frames, pre, q, rfl, hbytes, rfl, rfl⟩

/-- What ends at the first line end behind a body and a star begins with them. -/
theorem whole_of_cut {a rest z : List UInt8}
    (h : f.body ++ star :: z = a ++ newline :: rest) : ∃ t, a = f.body ++ star :: t := by
  rcases List.append_eq_append_iff.mp h with ⟨c, rfl, hc⟩ | ⟨c, hbody, hc⟩
  · cases c with
    | nil => exact absurd (List.cons.inj hc).1 (by decide)
    | cons d c =>
      obtain ⟨rfl, -⟩ := List.cons.inj hc
      exact ⟨c, rfl⟩
  · cases c with
    | nil => exact absurd (List.cons.inj hc).1 (by decide)
    | cons d c =>
      obtain ⟨rfl, -⟩ := List.cons.inj hc
      exact absurd (hbody ▸ List.mem_append_right a List.mem_cons_self) f.noNewline

/-- Behind a byte of a frame that is no line end there is one. -/
theorem newline_behind (hbytes : f.bytes = p ++ b :: q) (hb : b ≠ newline) : newline ∈ q := by
  obtain ⟨c, hc, -, -⟩ := bytes_eq f
  have hlast := congrArg List.getLast? (hbytes.symm.trans hc)
  rw [← List.cons_append, List.getLast?_concat, List.getLast?_append_cons] at hlast
  cases q with
  | nil => exact absurd (Option.some.inj hlast) hb
  | cons d q =>
    rw [List.getLast?_cons_cons] at hlast
    exact List.mem_of_getLast? hlast

/-- What the scanner makes of a line by itself: disturbed lines. -/
def ChangedScan (frames : List NmeaFrame) (line : List UInt8) : Prop :=
  ∃ out, scan dollar newline none line = (none, out) ∧ ∀ raw ∈ out, Disturbed frames raw

/-- A changed byte behind the star. -/
theorem changed_tail (hf : f ∈ frames) (htail : f.tail = x ++ b :: q) (hq : newline ∈ q)
    (b' : UInt8) : ChangedScan frames (dollar :: (f.body ++ star :: (x ++ b' :: q))) := by
  obtain ⟨u, hu, hnot⟩ := tail_eq f
  have hbegins : u = x ++ (b :: q).dropLast := by
    have hlast := congrArg List.dropLast (hu.symm.trans htail)
    rwa [List.dropLast_concat, List.dropLast_append_cons] at hlast
  have hx : newline ∉ f.body ++ star :: x := by
    simp only [List.mem_append, List.mem_cons, not_or]
    exact ⟨f.noNewline, by decide, fun hmem => hnot (hbegins ▸ List.mem_append_left _ hmem)⟩
  have hdollar : dollar ∉ q := fun hmem => tail_noDollar f (by simp [htail, hmem])
  have hline : f.body ++ star :: (x ++ b' :: q) = (f.body ++ star :: x) ++ b' :: q := by simp
  obtain ⟨a, rest, hcut, -, hscan⟩ := scan_disturbed dollar newline b' hx hdollar hq
  rw [← hline] at hscan hcut
  refine ⟨_, hscan, fun raw hraw => ?_⟩
  obtain rfl := List.mem_singleton.mp hraw
  obtain ⟨t, rfl⟩ := whole_of_cut hcut
  rw [List.append_assoc, List.cons_append]
  exact .whole hf

/-- A changed star. -/
theorem changed_star (frames : List NmeaFrame) (f : NmeaFrame) (hne : b' ≠ star) :
    ChangedScan frames (dollar :: (f.body ++ b' :: f.tail)) := by
  obtain ⟨u, hu, -⟩ := tail_eq f
  obtain ⟨a, rest, hcut, -, hscan⟩ :=
    scan_disturbed dollar newline b' f.noNewline (tail_noDollar f) (by simp [hu])
  refine ⟨_, hscan, fun raw hraw => ?_⟩
  obtain rfl := List.mem_singleton.mp hraw
  have hline : star ∉ f.body ++ b' :: f.tail := by simp [f.noStar, tail_noStar f, Ne.symm hne]
  rw [hcut] at hline
  refine .noStar ?_
  simp only [List.mem_cons, List.mem_append, List.not_mem_nil, or_false, not_or]
  exact ⟨by decide, fun hmem => hline (List.mem_append_left _ hmem), by decide⟩

/-- A changed byte of the body. -/
theorem changed_body (frames : List NmeaFrame) (hbody : f.body = x ++ b :: y) (hne : b' ≠ b) :
    ChangedScan frames (dollar :: (x ++ b' :: (y ++ star :: f.tail))) := by
  obtain ⟨u, hu, hnot⟩ := tail_eq f
  have hx : newline ∉ x := fun hmem => f.noNewline (by simp [hbody, hmem])
  have hy : newline ∉ y := fun hmem => f.noNewline (by simp [hbody, hmem])
  have hdollar : dollar ∉ y ++ star :: f.tail := by
    simp only [List.mem_append, List.mem_cons, not_or]
    exact ⟨fun hmem => f.noDollar (by simp [hbody, hmem]), by decide, tail_noDollar f⟩
  obtain ⟨a, rest, hcut, ha, hscan⟩ :=
    scan_disturbed dollar newline b' hx hdollar (by simp [hu])
  refine ⟨_, hscan, fun raw hraw => ?_⟩
  obtain rfl := List.mem_singleton.mp hraw
  by_cases hb' : b' = newline
  · -- the line ends at the changed byte
    subst hb'
    rw [← cut_unique newline ha hx hcut]
    refine .noStar ?_
    simp only [List.mem_cons, List.mem_append, List.not_mem_nil, or_false, not_or]
    exact ⟨by decide, fun hmem => f.noStar (by simp [hbody, hmem]), by decide⟩
  · have hline : newline ∉ x ++ b' :: (y ++ star :: u) := by
      simp only [List.mem_append, List.mem_cons, not_or]
      exact ⟨hx, Ne.symm hb', hy, by decide, hnot⟩
    have hall : (x ++ b' :: (y ++ star :: u)) ++ newline :: [] = a ++ newline :: rest := by
      rw [← hcut, hu]
      simp
    rw [← cut_unique newline ha hline hall]
    have hraw' : dollar :: (x ++ b' :: (y ++ star :: u) ++ [newline]) =
        dollar :: (x ++ b' :: y ++ star :: f.tail) := by simp [hu]
    rw [hraw']
    exact .changed (xorOf_changed hbody hne)

/-- **A changed frame** that keeps its line end. -/
theorem scan_changedFrame (hf : f ∈ frames) (hbytes : f.bytes = p ++ b :: q) (hne : b' ≠ b)
    (hb : b ≠ newline) : ChangedScan frames (p ++ b' :: q) := by
  have hq := newline_behind hbytes hb
  cases p with
  | nil =>
    obtain ⟨rfl, rfl⟩ := List.cons.inj hbytes
    refine ⟨[], ?_, fun _ hraw => absurd hraw List.not_mem_nil⟩
    refine scan_skip dollar newline _ ?_
    simp only [List.nil_append, List.mem_append, List.mem_cons, not_or]
    exact ⟨Ne.symm hne, f.noDollar, by decide, tail_noDollar f⟩
  | cons c x =>
    obtain ⟨rfl, hline⟩ := List.cons.inj hbytes
    rcases List.append_eq_append_iff.mp hline with ⟨c, rfl, hc⟩ | ⟨y, hbody, hy⟩
    · cases c with
      | nil =>
        obtain ⟨rfl, rfl⟩ := List.cons.inj hc
        simpa using changed_star frames f hne
      | cons d c =>
        obtain ⟨rfl, htail⟩ := List.cons.inj hc
        simpa using changed_tail hf htail hq b'
    · cases y with
      | nil =>
        obtain ⟨rfl, rfl⟩ := List.cons.inj hy
        rw [List.append_nil] at hbody
        simpa [← hbody] using changed_star frames f hne
      | cons d y =>
        obtain ⟨rfl, rfl⟩ := List.cons.inj hy
        simpa using changed_body frames hbody hne

/-- **The changed stream**, when no line end is changed. -/
theorem scan_changed {pre post : List UInt8} (h : frames.flatMap NmeaFrame.bytes = pre ++ b :: post)
    (hne : b' ≠ b) (hb : b ≠ newline) :
    ∀ raw ∈ (scan dollar newline none (pre ++ b' :: post)).2, Disturbed frames raw := by
  obtain ⟨fs, f, fs', p, q, rfl, hbytes, rfl, rfl⟩ := stream_split h
  have hframe : ∀ f' ∈ fs ++ f :: fs', Disturbed (fs ++ f :: fs') f'.bytes := fun _ => .whole
  have hf : f ∈ fs ++ f :: fs' := by simp
  obtain ⟨out, hscan, hout⟩ := scan_changedFrame hf hbytes hne hb
  have hstream : fs.flatMap NmeaFrame.bytes ++ p ++ b' :: (q ++ fs'.flatMap NmeaFrame.bytes) =
      fs.flatMap NmeaFrame.bytes ++ ((p ++ b' :: q) ++ fs'.flatMap NmeaFrame.bytes) := by simp
  rw [hstream, scan_append, scan_stream, scan_append, hscan, scan_stream]
  intro raw hraw
  rcases List.mem_append.mp hraw with hraw | hraw
  · obtain ⟨f', hf', rfl⟩ := List.mem_map.mp hraw
    exact hframe f' (List.mem_append_left _ hf')
  rcases List.mem_append.mp hraw with hraw | hraw
  · exact hout raw hraw
  · obtain ⟨f', hf', rfl⟩ := List.mem_map.mp hraw
    exact hframe f' (by simp [hf'])

/-! ### A changed line end -/

variable {a u v rest : List UInt8}

/-- A frame in a stream that begins with frames is one of these or lies behind them. -/
theorem frame_of_stream (ha : newline ∉ a) : ∀ {fs : List NmeaFrame} {u : List UInt8},
    u ++ dollar :: (a ++ newline :: v) = fs.flatMap NmeaFrame.bytes ++ rest →
      (∃ f ∈ fs, dollar :: (a ++ [newline]) = f.bytes) ∨
        ∃ u', u' ++ dollar :: (a ++ newline :: v) = rest
  | [], u, h => .inr ⟨u, h⟩
  | f :: fs, u, h => by
    obtain ⟨c, hc, hnot, hdollar⟩ := bytes_eq f
    have hcons : (f :: fs).flatMap NmeaFrame.bytes ++ rest =
        dollar :: (c ++ newline :: (fs.flatMap NmeaFrame.bytes ++ rest)) := by simp [hc]
    rcases frame_cases dollar newline (by decide) ha hnot hdollar (h.trans hcons) with
      rfl | ⟨u', hu'⟩
    · exact .inl ⟨f, List.mem_cons_self, hc.symm⟩
    · rcases frame_of_stream ha hu' with ⟨f', hf', heq⟩ | hbehind
      · exact .inl ⟨f', List.mem_cons_of_mem _ hf', heq⟩
      · exact .inr hbehind

/-- A frame whose line end is another byte takes the next one with it, whatever part of the
two is left. -/
theorem merged_frame {fs' : List NmeaFrame} (hf : f ∈ frames) (hfs' : fs' ⊆ frames)
    (ht : newline ∉ t ∧ dollar ∉ t) (hb' : b' ≠ newline) (ha : newline ∉ a)
    (h : u ++ dollar :: (a ++ newline :: v) =
      dollar :: (f.body ++ star :: (t ++ b' :: fs'.flatMap NmeaFrame.bytes))) :
    Disturbed frames (dollar :: (a ++ [newline])) := by
  have hhead : newline ∉ f.body ++ star :: t ∧ dollar ∉ f.body ++ star :: t := by
    simp only [List.mem_append, List.mem_cons, not_or]
    exact ⟨⟨f.noNewline, by decide, ht.1⟩, f.noDollar, by decide, ht.2⟩
  have hsplit : f.body ++ star :: (t ++ b' :: fs'.flatMap NmeaFrame.bytes) =
      (f.body ++ star :: t) ++ b' :: fs'.flatMap NmeaFrame.bytes := by simp
  rw [hsplit] at h
  cases fs' with
  | nil =>
    have hnot : newline ∉ dollar :: ((f.body ++ star :: t) ++ [b']) := by
      rw [List.mem_cons, List.mem_append, List.mem_singleton]
      rintro (hmem | hmem | hmem)
      exacts [absurd hmem (by decide), hhead.1 hmem, hb' hmem.symm]
    have hmem : newline ∈ u ++ dollar :: (a ++ newline :: v) := by simp
    exact absurd (h ▸ hmem) hnot
  | cons f₂ fs' =>
    obtain ⟨c, hc, hnot, -⟩ := bytes_eq f₂
    have hcons : (f₂ :: fs').flatMap NmeaFrame.bytes =
        dollar :: (c ++ newline :: fs'.flatMap NmeaFrame.bytes) := by simp [hc]
    cases u with
    | nil =>
      have hline : newline ∉ (f.body ++ star :: t) ++ b' :: dollar :: c := by
        rw [List.mem_append, List.mem_cons, List.mem_cons]
        rintro (hmem | hmem | hmem | hmem)
        exacts [hhead.1 hmem, hb' hmem.symm, absurd hmem (by decide), hnot hmem]
      have hall : ((f.body ++ star :: t) ++ b' :: dollar :: c) ++
          newline :: fs'.flatMap NmeaFrame.bytes = a ++ newline :: v := by
        rw [(List.cons.inj h).2, hcons]
        simp
      rw [← cut_unique newline ha hline hall]
      have hwhole : Disturbed frames
          (dollar :: (f.body ++ star :: (t ++ b' :: dollar :: c ++ [newline]))) := .whole hf
      simpa using hwhole
    | cons x u =>
      obtain ⟨u', hu'⟩ := start_behind dollar hhead.2 (List.cons.inj h).2
      cases u' with
      | nil =>
        -- the changed byte starts the next frame too early
        obtain ⟨-, hnext⟩ := List.cons.inj hu'
        have hline : newline ∉ dollar :: c := by
          rw [List.mem_cons]
          rintro (hmem | hmem)
          exacts [absurd hmem (by decide), hnot hmem]
        rw [hcons, ← List.cons_append] at hnext
        rw [← cut_unique newline ha hline hnext.symm]
        have hchanged : Disturbed frames (dollar :: (dollar :: f₂.body ++ star :: f₂.tail)) :=
          .changed (xorOf_dollar f₂)
        rw [List.cons_append, ← hc]
        exact hchanged
      | cons y u' =>
        have hbehind : u' ++ dollar :: (a ++ newline :: v) =
            (f₂ :: fs').flatMap NmeaFrame.bytes ++ [] := by
          rw [List.append_nil]
          exact (List.cons.inj hu').2
        rcases frame_of_stream ha hbehind with ⟨f', hf', heq⟩ | ⟨w, hw⟩
        · rw [heq]
          exact .whole (hfs' hf')
        · simp at hw

/-- **The changed stream**, when a line end is changed: each frame in it. -/
theorem piece_changed {pre post raw : List UInt8}
    (h : frames.flatMap NmeaFrame.bytes = pre ++ newline :: post) (hne : b' ≠ newline)
    (hraw : IsFrame dollar newline raw) (hpiece : raw <:+: pre ++ b' :: post) :
    Disturbed frames raw := by
  obtain ⟨fs, f, fs', p, q, rfl, hbytes, rfl, rfl⟩ := stream_split h
  obtain ⟨a, rfl, ha⟩ := hraw
  obtain ⟨u, v, huv⟩ := hpiece
  obtain ⟨t, ht, hnot⟩ := tail_eq f
  have hdollar : dollar ∉ t := fun hmem => tail_noDollar f (by simp [ht, hmem])
  have hline : newline ∉ dollar :: (f.body ++ star :: t) := by
    simp only [List.mem_cons, List.mem_append, not_or]
    exact ⟨by decide, f.noNewline, by decide, hnot⟩
  have hlast : dollar :: (f.body ++ star :: t) ++ [newline] = p ++ newline :: q := by
    rw [← hbytes, NmeaFrame.bytes, ht]
    simp
  obtain ⟨rfl, rfl⟩ := cut_last newline hline hlast
  have hstream : u ++ dollar :: (a ++ newline :: v) = fs.flatMap NmeaFrame.bytes ++
      dollar :: (f.body ++ star :: (t ++ b' :: fs'.flatMap NmeaFrame.bytes)) := by
    simpa using huv
  rcases frame_of_stream ha hstream with ⟨f', hf', heq⟩ | ⟨u', hu'⟩
  · rw [heq]
    exact .whole (List.mem_append_left _ hf')
  · refine merged_frame (by simp) (fun f' hf' => ?_) ⟨hnot, hdollar⟩ hne ha hu'
    exact List.mem_append_right _ (List.mem_cons_of_mem _ hf')

/-! ### What is parsed -/

variable {py : Python} {D : Type} {ofFields : Text → List Text → Except ValueError D}
  {store : Text → D → D} {raw : List UInt8} {line : Text} {d : D}

/-- The conversion of the fields stores the sentence, and does not look at it. -/
def StoresSentence (ofFields : Text → List Text → Except ValueError D) (store : Text → D → D) :
    Prop :=
  ∀ sentence sentence' fields,
    ofFields sentence fields = (ofFields sentence' fields).map (store sentence)

theorem sentence_eq_some (h : sentence raw = some line) : line = strip (decodeAscii raw) := by
  unfold sentence at h
  dsimp only at h
  by_cases hhead : (strip (decodeAscii raw)).head? = some '$'
  · rw [if_pos hhead] at h
    exact (Option.some.inj h).symm
  · rw [if_neg hhead] at h
    cases h

/-- The digits of a frame as text. -/
theorem NmeaFrame.textDigits (f : NmeaFrame) :
    hexDigitValue (Char.ofNat (upperHexDigit (f.checksum / 16)).toNat) =
      some (f.checksum / 16) ∧
    hexDigitValue (Char.ofNat (upperHexDigit (f.checksum % 16)).toNat) =
      some (f.checksum % 16) :=
  ⟨(upperHexDigit_ne f.digits.1).2.2.2.2, (upperHexDigit_ne f.digits.2).2.2.2.2⟩

theorem decode_tail (f : NmeaFrame) : decodeAscii f.tail =
    Char.ofNat (upperHexDigit (f.checksum / 16)).toNat ::
      Char.ofNat (upperHexDigit (f.checksum % 16)).toNat :: ['\r', '\n'] := by
  unfold NmeaFrame.tail
  rw [decodeAscii_cons (upperHexDigit_ne f.digits.1).2.2.2.1,
    decodeAscii_cons (upperHexDigit_ne f.digits.2).2.2.2.1]
  rfl

/-- Of the decoded tail the line end is stripped. -/
theorem rstrip_tail (f : NmeaFrame) :
    (decodeAscii f.tail).rdropWhile Python.ascii.isSpace =
      [Char.ofNat (upperHexDigit (f.checksum / 16)).toNat,
        Char.ofNat (upperHexDigit (f.checksum % 16)).toNat] := by
  rw [decode_tail]
  exact (Python.rdropWhile_append
    (s := [Char.ofNat (upperHexDigit (f.checksum / 16)).toNat])
    (isSpace_hexDigit f.textDigits.2 .ascii)).trans rfl

theorem strip_digits (py : Python) (f : NmeaFrame) (body : Text) :
    py.strip ('$' :: (body ++ ['*', Char.ofNat (upperHexDigit (f.checksum / 16)).toNat,
      Char.ofNat (upperHexDigit (f.checksum % 16)).toNat])) =
    '$' :: (body ++ ['*', Char.ofNat (upperHexDigit (f.checksum / 16)).toNat,
      Char.ofNat (upperHexDigit (f.checksum % 16)).toNat]) := by
  have hends := Python.strip_of_ends
    (s := body ++ ['*', Char.ofNat (upperHexDigit (f.checksum / 16)).toNat]) py.isSpace_dollar
    (isSpace_hexDigit f.textDigits.2 py)
  simpa using hends

/-- What is parsed of a line with the body of a frame is parsed of the frame. -/
theorem parse_whole (hstore : StoresSentence ofFields store) {t : Text}
    (hline : py.strip line = '$' :: (decodeAscii f.body ++ '*' :: t))
    (hd : parseSentence py ofFields line true = .ok d) :
    ∃ d', parseSentence py ofFields f.text true = .ok d' ∧ d = store (py.strip line) d' := by
  have hstar : '*' ∉ decodeAscii f.body := fun hmem => f.noStar (star_of_decode hmem)
  obtain ⟨-, hfields⟩ := parseSentence_eq_ok.mp hd
  have hbody : bodyOf (py.strip line) = decodeAscii f.body := by rw [hline, bodyOf_eq hstar]
  rw [hbody, hstore _ f.text] at hfields
  have htext : py.strip f.text = f.text := strip_digits py f _
  cases hd' : ofFields f.text ((decodeAscii f.body).splitOn ',') with
  | error e =>
    rw [hd'] at hfields
    cases hfields
  | ok d' =>
    rw [hd'] at hfields
    refine ⟨d', parseSentence_eq_ok.mpr ⟨?_, ?_⟩, (Except.ok.inj hfields).symm⟩
    · rw [htext]
      refine (checksumIsValid_eq _ f.textDigits.1 f.textDigits.2).mpr ?_
      rw [xorOf_body]
      omega
    · rw [htext, show bodyOf f.text = decodeAscii f.body from bodyOf_eq hstar _]
      exact hd'

/-- **A line of the changed stream** that is accepted parses to what a frame does. -/
theorem parse_disturbed (hstore : StoresSentence ofFields store) (hraw : Disturbed frames raw)
    (hline : sentence raw = some line) (hd : parseSentence py ofFields line true = .ok d) :
    ∃ f ∈ frames, ∃ d', parseSentence py ofFields f.text true = .ok d' ∧
      d = store (py.strip line) d' := by
  have hline := sentence_eq_some hline
  have hdollar : Char.ofNat dollar.toNat = '$' := by decide
  have hstar : Char.ofNat star.toNat = '*' := by decide
  cases hraw with
  | @whole f t hf =>
    have hwhole : py.strip line = '$' :: (decodeAscii f.body ++
        '*' :: ((decodeAscii t).rdropWhile Python.ascii.isSpace).rdropWhile py.isSpace) := by
      rw [hline, decodeAscii_cons (by decide), decodeAscii_append, decodeAscii_cons (by decide),
        hdollar, hstar]
      change py.strip (Python.ascii.strip _) = _
      rw [Python.strip_star, Python.strip_star]
    exact ⟨f, hf, parse_whole hstore hwhole hd⟩
  | noStar hnot =>
    obtain ⟨hvalid, -⟩ := parseSentence_eq_ok.mp hd
    rw [checksumIsValid_noStar] at hvalid
    · cases hvalid
    · intro hmem
      have hmem := Python.ascii.strip_subset _ (hline ▸ py.strip_subset line hmem)
      exact hnot (star_of_decode hmem)
  | @changed f body hother =>
    exfalso
    obtain ⟨hhigh, hlow⟩ := f.textDigits
    have htext : line = '$' :: (decodeAscii body ++
        ['*', Char.ofNat (upperHexDigit (f.checksum / 16)).toNat,
          Char.ofNat (upperHexDigit (f.checksum % 16)).toNat]) := by
      rw [hline, decodeAscii_cons (by decide), decodeAscii_append, decodeAscii_cons (by decide),
        hdollar, hstar]
      change Python.ascii.strip _ = _
      rw [Python.strip_star, rstrip_tail]
    obtain ⟨hvalid, -⟩ := parseSentence_eq_ok.mp hd
    rw [htext, strip_digits, checksumIsValid_eq _ hhigh hlow] at hvalid
    refine hother (hvalid.trans ?_)
    omega

theorem ggaOfFields_stores (py : Python) :
    StoresSentence (ggaOfFields py) fun sentence d => { d with sentence := sentence } := by
  intro sentence sentence' fields
  unfold ggaOfFields
  by_cases hcomplete : (!isComplete py "GGA" 10 fields) = true
  · rw [if_pos hcomplete, if_pos hcomplete]
    rfl
  · rw [if_neg hcomplete, if_neg hcomplete]
    cases optionalInt py (fieldAt fields 6) <;> try rfl
    cases optionalInt py (fieldAt fields 7) <;> try rfl
    cases coordinate py (fieldAt fields 2) (fieldAt fields 3) 2 <;> try rfl
    cases coordinate py (fieldAt fields 4) (fieldAt fields 5) 3 <;> try rfl
    cases optionalFloat py (fieldAt fields 8) <;> try rfl
    cases optionalFloat py (fieldAt fields 9) <;> rfl

theorem hprOfFields_stores (py : Python) :
    StoresSentence (hprOfFields py) fun sentence d => { d with sentence := sentence } := by
  intro sentence sentence' fields
  unfold hprOfFields
  by_cases hcomplete : (!isComplete py "HPR" 9 fields) = true
  · rw [if_pos hcomplete, if_pos hcomplete]
    rfl
  · rw [if_neg hcomplete, if_neg hcomplete]
    cases hprNumbers py fields with
    | error e => rfl
    | ok r =>
      obtain ⟨heading, pitch, roll, solutionQuality, satellites, correctionAge⟩ := r
      dsimp only [bind, Except.bind]
      split_ifs <;> rfl

/-- **The framer on a changed stream.** If the stream fits where a `feed` call ends, each
sentence is of a disturbed line. -/
theorem feedAll_changed {maxBufferSize : ℕ} {chunks : List (List UInt8)} {pre post : List UInt8}
    (hstream : frames.flatMap NmeaFrame.bytes = pre ++ b :: post) (hne : b' ≠ b)
    (hchunks : chunks.flatten = pre ++ b' :: post)
    (hfit : ∀ k < chunks.length, 0 < k → (openTail dollar newline
      ((frames.flatMap NmeaFrame.bytes).take (chunks.take k).flatten.length)).length ≤
        maxBufferSize) :
    ∀ line ∈ ((NmeaLineBuffer.fresh maxBufferSize).feedAll chunks).2,
      ∃ raw, Disturbed frames raw ∧ sentence raw = some line := by
  intro line hline
  by_cases hb : b = newline
  · subst hb
    obtain ⟨raw, hframe, hpiece, hsentence⟩ :=
      NmeaLineBuffer.feedAll_pieces chunks (p := []) List.suffix_rfl line hline
    rw [List.nil_append, hchunks] at hpiece
    exact ⟨raw, piece_changed hstream hne hframe hpiece, hsentence⟩
  · have hfit' : ∀ k < chunks.length, 0 < k →
        (openTail dollar newline (chunks.take k).flatten).length ≤ maxBufferSize := by
      intro k hk hpos
      have hwhole : (chunks.take k).flatten ++ (chunks.drop k).flatten = pre ++ b' :: post := by
        rw [← List.flatten_append, List.take_append_drop, hchunks]
      have hbegins : (chunks.take k).flatten =
          (pre ++ b' :: post).take (chunks.take k).flatten.length := by
        rw [← hwhole, List.take_left]
      have hopen := hfit k hk hpos
      rw [List.flatMap_def, openTail_frames dollar newline (by decide) _ (stream_isFrame frames),
        ← List.flatMap_def, hstream] at hopen
      rw [hbegins]
      exact (openTail_length_le dollar newline _).trans
        ((lastLine_changed newline pre post hb b' _).trans hopen)
    rw [NmeaLineBuffer.feed_chunks maxBufferSize chunks hfit'] at hline
    change line ∈ (feedLoop none ([] ++ chunks.flatten)).2 at hline
    rw [List.nil_append, feedLoop_snd, hchunks] at hline
    obtain ⟨raw, hraw, hsentence⟩ := List.mem_filterMap.mp hline
    exact ⟨raw, scan_changed hstream hne hb raw hraw, hsentence⟩

/-- **Corruption never becomes data.** When one byte of a stream of frames is changed, each
sentence that the framer returns and a parser accepts has the values of one of the frames.
The frames stay below the limit: where a `feed` call ends, the frame that is not complete
would fit. The values are those of the same texts of the fields, so it does not matter that
they are exact here and rounded to doubles in Python. -/
theorem corruption_harmless (py : Python) (maxBufferSize : ℕ) {chunks : List (List UInt8)}
    {pre post : List UInt8} (hstream : frames.flatMap NmeaFrame.bytes = pre ++ b :: post)
    (hne : b' ≠ b) (hchunks : chunks.flatten = pre ++ b' :: post)
    (hfit : ∀ k < chunks.length, 0 < k → (openTail dollar newline
      ((frames.flatMap NmeaFrame.bytes).take (chunks.take k).flatten.length)).length ≤
        maxBufferSize) :
    ∀ line ∈ ((NmeaLineBuffer.fresh maxBufferSize).feedAll chunks).2,
      (∀ d, parseGga py line true = .ok d → ∃ f ∈ frames, ∃ d',
        parseGga py f.text true = .ok d' ∧ d = { d' with sentence := d.sentence }) ∧
      (∀ d, parseHpr py line true = .ok d → ∃ f ∈ frames, ∃ d',
        parseHpr py f.text true = .ok d' ∧ d = { d' with sentence := d.sentence }) := by
  intro line hline
  obtain ⟨raw, hdisturbed, hsentence⟩ := feedAll_changed hstream hne hchunks hfit line hline
  constructor
  · intro d hd
    obtain ⟨f, hf, d', hd', rfl⟩ :=
      parse_disturbed (ggaOfFields_stores py) hdisturbed hsentence hd
    exact ⟨f, hf, d', hd', rfl⟩
  · intro d hd
    obtain ⟨f, hf, d', hd', rfl⟩ :=
      parse_disturbed (hprOfFields_stores py) hdisturbed hsentence hd
    exact ⟨f, hf, d', hd', rfl⟩

end Frames

/-- A GGA without a position. -/
def bareFrame : NmeaFrame where
  body := [0x47, 0x50, 0x47, 0x47, 0x41] ++ List.replicate 9 0x2C
  printable := by
    have hall : (([0x47, 0x50, 0x47, 0x47, 0x41] : List UInt8) ++ List.replicate 9 0x2C).all
        (fun b => 0x20 ≤ b ∧ b ≤ 0x7E) = true := by decide +kernel
    exact fun b hb => of_decide_eq_true (List.all_eq_true.mp hall b hb)
  noDollar := by decide
  noStar := by decide

/-- Its CR is changed to a space: the sentence is returned, and is the frame's. -/
theorem corruption_harmless_space :
    ((NmeaLineBuffer.fresh 128).feedAll
      [dollar :: (bareFrame.body ++ [star, 0x37, 0x41, 0x20, newline])]).2 = [bareFrame.text] ∧
    ∀ line ∈ ((NmeaLineBuffer.fresh 128).feedAll
        [dollar :: (bareFrame.body ++ [star, 0x37, 0x41, 0x20, newline])]).2,
      (∀ d, parseGga .ascii line true = .ok d → ∃ f ∈ [bareFrame], ∃ d',
        parseGga .ascii f.text true = .ok d' ∧ d = { d' with sentence := d.sentence }) ∧
      (∀ d, parseHpr .ascii line true = .ok d → ∃ f ∈ [bareFrame], ∃ d',
        parseHpr .ascii f.text true = .ok d' ∧ d = { d' with sentence := d.sentence }) := by
  have hstream : [bareFrame].flatMap NmeaFrame.bytes =
      (dollar :: (bareFrame.body ++ [star, 0x37, 0x41])) ++ 0x0D :: [newline] := by decide
  have hne : (0x20 : UInt8) ≠ 0x0D := by decide
  refine ⟨?_, corruption_harmless .ascii 128 hstream hne (by rfl) (by simp)⟩
  change (feedLoop (some 128) _).2 ++ [] = _
  rw [feedLoop_snd]
  decide +kernel

end Gnss
end SensorSupport
