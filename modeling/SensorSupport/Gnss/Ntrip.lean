/-
# The NTRIP response parser (`wtrtk_982dt_driver/gps_ntrip_py/ntrip.py`)

`NtripResponseParser.feed` collects the caster's answer until it can tell
the header from the RTCM bytes behind it: an HTTP header ends at the first
blank line, an ICY answer at its status line unless a blank line or header
lines follow it. The parser decides about ICY from the bytes it has, so a cut
behind the status line can pass header bytes on as RTCM, and the size limit
counts whatever was received together with the header.

`feedAll_agrees_iff` says exactly which cuts are harmless.
-/
import SensorSupport.Lib.Incremental
import SensorSupport.Gnss.Nmea

namespace SensorSupport
namespace Gnss

open Incremental

/-- `b'\r\n'`. -/
def crlf : List UInt8 := [0x0D, 0x0A]

/-- `b'\r\n\r\n'`. -/
def blankLine : List UInt8 := crlf ++ crlf

/-- `bytes.decode('latin-1')`. -/
def decodeLatin1 (raw : List UInt8) : Text := raw.map fun b => Char.ofNat b.toNat

/-- `str.isspace` on a Latin-1 character. -/
def isLatin1Space (c : Char) : Bool := isSpace c || c.toNat = 0x85 || c.toNat = 0xA0

/-- `str.split()`. -/
def splitWords (s : Text) : List Text := (s.splitOnP isLatin1Space).filter (· ≠ [])

/-- `str.upper()` on a Latin-1 character. Three of them leave Latin-1. -/
def upperLatin1 (c : Char) : Text :=
  let n := c.toNat
  if (0x61 ≤ n ∧ n ≤ 0x7A) ∨ (0xE0 ≤ n ∧ n ≤ 0xFE ∧ n ≠ 0xF7) then [Char.ofNat (n - 32)]
  else if n = 0xDF then ['S', 'S']
  else if n = 0xFF then [Char.ofNat 0x178]
  else if n = 0xB5 then [Char.ofNat 0x39C]
  else [c]

/-- `status_ok`: the second word of the status line is `200`. -/
def statusOk (firstLine : Text) : Bool := (splitWords firstLine)[1]? = some "200".toList

/-- `first_line.startswith('HTTP/')`. -/
def isHttp (firstLine : Text) : Bool := "HTTP/".toList.isPrefixOf firstLine

/-- `first_line.upper().startswith('ICY ')`. -/
def isIcy (firstLine : Text) : Bool := "ICY ".toList.isPrefixOf (firstLine.flatMap upperLatin1)

/-- `_looks_like_ascii_header`. -/
def looksLikeAsciiHeader (data : List UInt8) : Bool :=
  let firstLine := match findSub crlf data with
    | some i => data.take i
    | none => data
  if firstLine = [] ∨ (0x3A : UInt8) ∉ firstLine then false
  else firstLine.all fun byte => byte = 0x09 || (32 ≤ byte && byte ≤ 126)

/-- What `feed` makes of the extended buffer: an error, `none` while the
header is incomplete, or the payload behind it. -/
def header (maxHeaderSize : ℕ) (buffer : List UInt8) : Except String (Option (List UInt8)) :=
  if maxHeaderSize < buffer.length then .error "NTRIP response header is too large"
  else
    match findSub crlf buffer with
    | none => .ok none
    | some firstLineEnd =>
      let firstLine := decodeLatin1 (buffer.take firstLineEnd)
      if !statusOk firstLine then
        .error ("NTRIP caster rejected request: " ++ String.ofList (firstLine.take 200))
      else if isHttp firstLine then
        match findSub blankLine buffer with
        | none => .ok none
        | some headerEnd => .ok (some (buffer.drop (headerEnd + 4)))
      else if isIcy firstLine then
        let afterStatus := buffer.drop (firstLineEnd + 2)
        if crlf <+: afterStatus then .ok (some (afterStatus.drop 2))
        else if afterStatus ≠ [] ∧ looksLikeAsciiHeader afterStatus then
          match findSub blankLine buffer with
          | none => .ok none
          | some headerEnd => .ok (some (buffer.drop (headerEnd + 4)))
        else .ok (some afterStatus)
      else .error ("unsupported NTRIP response: " ++ String.ofList (firstLine.take 200))

/-- `NtripResponseParser`. -/
structure NtripResponseParser where
  buffer : List UInt8
  maxHeaderSize : ℕ
  complete : Bool

namespace NtripResponseParser

/-- `__init__`. -/
def init (maxHeaderSize : ℕ) : NtripResponseParser := ⟨[], maxHeaderSize, false⟩

/-- `feed`. An error is a raised `NtripResponseError`. -/
def feed (self : NtripResponseParser) (data : List UInt8) :
    Except String (NtripResponseParser × Option (List UInt8)) :=
  if self.complete then .ok (self, some data)
  else
    match header self.maxHeaderSize (self.buffer ++ data) with
    | .error e => .error e
    | .ok none => .ok ({ self with buffer := self.buffer ++ data }, none)
    | .ok (some payload) => .ok ({ self with buffer := [], complete := true }, some payload)

/-- A list of `feed` calls: the first error, or the bytes returned, with
`None` counted as no bytes. -/
def feedAll : NtripResponseParser → List (List UInt8) → Except String (List UInt8)
  | _, [] => .ok []
  | self, c :: cs =>
    match self.feed c with
    | .error e => .error e
    | .ok (self', out) => (feedAll self' cs).map (out.getD [] ++ ·)

theorem feedAll_complete {self : NtripResponseParser} (h : self.complete = true) :
    ∀ chunks, self.feedAll chunks = .ok chunks.flatten
  | [] => rfl
  | c :: cs => by simp [feedAll, feed, h, feedAll_complete h cs, Except.map]

/-- The `feed` calls of an undecided parser are a run of its verdicts. -/
theorem feedAll_eq_run : ∀ (chunks : List (List UInt8)) (self : NtripResponseParser),
    self.complete = false →
    self.feedAll chunks = run (header self.maxHeaderSize) self.buffer chunks
  | [], _, _ => rfl
  | c :: cs, self, h => by
    obtain ⟨buffer, maxHeaderSize, complete⟩ := self
    subst h
    unfold feedAll
    rw [run, feed]
    simp only [Bool.false_eq_true, ↓reduceIte]
    cases hv : header maxHeaderSize (buffer ++ c) with
    | error e => rfl
    | ok v =>
      cases v with
      | none =>
        have ih := feedAll_eq_run cs ⟨buffer ++ c, maxHeaderSize, false⟩ rfl
        simp only [Option.getD_none, List.nil_append]
        rw [ih]
        cases run (header maxHeaderSize) (buffer ++ c) cs <;> rfl
      | some p =>
        simp only [Option.getD_some]
        rw [feedAll_complete rfl]
        rfl

end NtripResponseParser

/-! ### Accepted answers -/

/-- The bytes hold the whole header of an accepted answer, with its payload
behind it: an HTTP header up to its blank line, an ICY status line with a
blank line or with header lines up to theirs, or a bare ICY status line. -/
inductive HasPayload (bytes : List UInt8) : List UInt8 → Prop
  | http {i h : ℕ} : findSub crlf bytes = some i → statusOk (decodeLatin1 (bytes.take i)) →
      isHttp (decodeLatin1 (bytes.take i)) → findSub blankLine bytes = some h →
      HasPayload bytes (bytes.drop (h + 4))
  | icyBlank {i : ℕ} : findSub crlf bytes = some i → statusOk (decodeLatin1 (bytes.take i)) →
      ¬ isHttp (decodeLatin1 (bytes.take i)) → isIcy (decodeLatin1 (bytes.take i)) →
      crlf <+: bytes.drop (i + 2) → HasPayload bytes (bytes.drop (i + 4))
  | icyLines {i h : ℕ} : findSub crlf bytes = some i → statusOk (decodeLatin1 (bytes.take i)) →
      ¬ isHttp (decodeLatin1 (bytes.take i)) → isIcy (decodeLatin1 (bytes.take i)) →
      ¬ crlf <+: bytes.drop (i + 2) → looksLikeAsciiHeader (bytes.drop (i + 2)) →
      findSub blankLine bytes = some h → HasPayload bytes (bytes.drop (h + 4))
  | icyBare {i : ℕ} : findSub crlf bytes = some i → statusOk (decodeLatin1 (bytes.take i)) →
      ¬ isHttp (decodeLatin1 (bytes.take i)) → isIcy (decodeLatin1 (bytes.take i)) →
      ¬ crlf <+: bytes.drop (i + 2) → ¬ looksLikeAsciiHeader (bytes.drop (i + 2)) →
      HasPayload bytes (bytes.drop (i + 2))

theorem looksLikeAsciiHeader_ne_nil {data : List UInt8} (h : looksLikeAsciiHeader data) :
    data ≠ [] := by
  rintro rfl
  cases h

/-- The verdicts with a payload are the accepted answers within the limit. -/
theorem header_eq_some {maxHeaderSize : ℕ} {bytes p : List UInt8} :
    header maxHeaderSize bytes = .ok (some p) ↔
      bytes.length ≤ maxHeaderSize ∧ HasPayload bytes p := by
  constructor
  · intro h
    unfold header at h
    split at h
    · cases h
    rename_i hlen
    refine ⟨Nat.le_of_not_lt hlen, ?_⟩
    split at h
    · cases h
    rename_i i hi
    simp only [Bool.not_eq_true'] at h
    split at h
    · cases h
    rename_i hok
    rw [Bool.not_eq_false] at hok
    split at h
    · rename_i hh
      split at h
      · cases h
      · rename_i e he
        cases h
        exact .http hi hok hh he
    rename_i hh
    split at h
    · rename_i hicy
      split at h
      · rename_i hblank
        cases h
        rw [List.drop_drop]
        exact .icyBlank hi hok hh hicy hblank
      rename_i hblank
      split at h
      · rename_i hlook
        split at h
        · cases h
        · rename_i e he
          cases h
          exact .icyLines hi hok hh hicy hblank hlook.2 he
      · rename_i hlook
        cases h
        refine .icyBare hi hok hh hicy hblank fun hl => hlook ⟨looksLikeAsciiHeader_ne_nil hl, hl⟩
    · cases h
  · rintro ⟨hlen, h⟩
    unfold header
    rw [if_neg (Nat.not_lt.mpr hlen)]
    cases h with
    | http hi hok hh he => simp [hi, hok, hh, he]
    | icyBlank hi hok hh hicy hblank => simp [hi, hok, hh, hicy, hblank, List.drop_drop]
    | icyLines hi hok hh hicy hblank hlook he =>
      have hne := looksLikeAsciiHeader_ne_nil hlook
      have hlines : bytes.drop (_ + 2) ≠ [] ∧ looksLikeAsciiHeader (bytes.drop (_ + 2)) = true :=
        ⟨hne, hlook⟩
      simp only [hi, hok, hh, hicy, hblank, if_pos hlines, he]
      rfl
    | icyBare hi hok hh hicy hblank hlook => simp [hi, hok, hh, hicy, hblank, hlook]

/-- A bare ICY answer: what follows the status line is neither a blank line
nor does it look like a header line. -/
def BareIcy (bytes : List UInt8) : Prop :=
  ∃ i, findSub crlf bytes = some i ∧ ¬ isHttp (decodeLatin1 (bytes.take i)) ∧
    isIcy (decodeLatin1 (bytes.take i)) ∧ ¬ crlf <+: bytes.drop (i + 2) ∧
    ¬ looksLikeAsciiHeader (bytes.drop (i + 2))

/-! ### Growing answers -/

/-- A line end stays where it is when more bytes come, and so does what is
behind it. -/
theorem crlf_drop_append {P x : List UInt8} {i : ℕ} (hi : findSub crlf P = some i) :
    (P ++ x).drop (i + 2) = P.drop (i + 2) ++ x :=
  drop_append_of_findSub hi (by simp [crlf])

theorem blankLine_drop_append {P x : List UInt8} {h : ℕ} (he : findSub blankLine P = some h) :
    (P ++ x).drop (h + 4) = P.drop (h + 4) ++ x :=
  drop_append_of_findSub he (by simp [blankLine, crlf])

/-- The first line end is not behind the first blank line. -/
theorem crlf_le_blankLine {P : List UInt8} {h : ℕ} (he : findSub blankLine P = some h) :
    ∃ i ≤ h, findSub crlf P = some i :=
  findSub_of_drop ((List.prefix_append crlf crlf).trans (findSub_drop he))

/-- With a blank line somewhere, the line behind the first one is complete. -/
theorem secondLine_complete {P : List UInt8} {i h : ℕ} (hi : findSub crlf P = some i)
    (he : findSub blankLine P = some h) : ∃ j, findSub crlf (P.drop (i + 2)) = some j := by
  obtain ⟨t, ht⟩ := findSub_drop he
  obtain ⟨i', hle, hi'⟩ := crlf_le_blankLine he
  obtain rfl : i = i' := by simpa [hi] using hi'
  obtain ⟨u, hu⟩ := findSub_drop hi
  -- The blank line is two line ends; its second one is behind the first line.
  have hsecond : crlf <+: P.drop (h + 2) := by
    rw [← List.drop_drop, ← ht]
    exact ⟨t, by simp [blankLine, crlf]⟩
  have hdrop : crlf <+: (P.drop (i + 2)).drop (h - i) := by
    rwa [List.drop_drop, show i + 2 + (h - i) = h + 2 by omega]
  obtain ⟨j, -, hj⟩ := findSub_of_drop hdrop
  exact ⟨j, hj⟩

/-- A complete line is not turned into a blank one by more bytes. -/
theorem not_blank_append {D x : List UInt8} {j : ℕ} (hj : findSub crlf D = some j)
    (h : ¬ crlf <+: D) : ¬ crlf <+: D ++ x := by
  intro hx
  have hstart : crlf <+: (D ++ x).drop 0 := by simpa using hx
  obtain ⟨k, hk, hf⟩ := findSub_of_drop hstart
  rw [findSub_append hj, Nat.le_zero.mp hk] at hf
  have hd := findSub_drop hj
  rw [Option.some.inj hf] at hd
  exact h (by simpa using hd)

/-- A complete line goes on looking the way it does. -/
theorem looksLikeAsciiHeader_append {D x : List UInt8} {j : ℕ} (hj : findSub crlf D = some j) :
    looksLikeAsciiHeader (D ++ x) = looksLikeAsciiHeader D := by
  simp only [looksLikeAsciiHeader, hj, findSub_append hj, take_append_of_findSub hj]

/-- An accepted answer that is not a bare ICY one keeps its payload. -/
theorem HasPayload.append {P p : List UInt8} (h : HasPayload P p) (hb : ¬ BareIcy P)
    (x : List UInt8) : HasPayload (P ++ x) (p ++ x) ∧ ¬ BareIcy (P ++ x) := by
  cases h with
  | @http i h hi hok hh he =>
    have htake := take_append_of_findSub (r := x) hi
    rw [← blankLine_drop_append he]
    refine ⟨.http (findSub_append hi) (htake ▸ hok) (htake ▸ hh) (findSub_append he), ?_⟩
    rintro ⟨i', hi', hn, -⟩
    obtain rfl : i = i' := by simpa [findSub_append hi] using hi'
    exact hn (htake ▸ hh)
  | @icyBlank i hi hok hh hicy hblank =>
    have htake := take_append_of_findSub (r := x) hi
    have hblank' : crlf <+: (P ++ x).drop (i + 2) := by
      rw [crlf_drop_append hi]
      exact hblank.trans (List.prefix_append _ _)
    have hdrop : (P ++ x).drop (i + 4) = P.drop (i + 4) ++ x := by
      refine List.drop_append_of_le_length ?_
      have := hblank.length_le
      have := findSub_le hi
      simp only [crlf, List.length_cons, List.length_nil, List.length_drop] at *
      omega
    rw [← hdrop]
    refine ⟨.icyBlank (findSub_append hi) (htake ▸ hok) (htake ▸ hh) (htake ▸ hicy) hblank', ?_⟩
    rintro ⟨i', hi', -, -, hn, -⟩
    obtain rfl : i = i' := by simpa [findSub_append hi] using hi'
    exact hn hblank'
  | @icyLines i h hi hok hh hicy hblank hlook he =>
    have htake := take_append_of_findSub (r := x) hi
    obtain ⟨j, hj⟩ := secondLine_complete hi he
    have hlook' : looksLikeAsciiHeader ((P ++ x).drop (i + 2)) := by
      rw [crlf_drop_append hi, looksLikeAsciiHeader_append hj]
      exact hlook
    rw [← blankLine_drop_append he]
    refine ⟨.icyLines (findSub_append hi) (htake ▸ hok) (htake ▸ hh) (htake ▸ hicy) ?_ hlook'
      (findSub_append he), ?_⟩
    · rw [crlf_drop_append hi]
      exact not_blank_append hj hblank
    · rintro ⟨i', hi', -, -, -, hn⟩
      obtain rfl : i = i' := by simpa [findSub_append hi] using hi'
      exact hn hlook'
  | @icyBare i hi hok hh hicy hblank hlook => exact absurd ⟨i, hi, hh, hicy, hblank, hlook⟩ hb

/-- A rejected answer stays rejected. -/
theorem header_error_append {maxHeaderSize : ℕ} {P : List UInt8} {e : String}
    (h : header maxHeaderSize P = .error e) (x : List UInt8) :
    ∃ e', header maxHeaderSize (P ++ x) = .error e' := by
  by_cases hlen : maxHeaderSize < (P ++ x).length
  · exact ⟨_, by rw [header, if_pos hlen]⟩
  have hP : ¬ maxHeaderSize < P.length := fun hP => hlen (by simp; omega)
  unfold header at h
  rw [if_neg hP] at h
  unfold header
  rw [if_neg hlen]
  cases hi : findSub crlf P with
  | none => simp [hi] at h
  | some i =>
    simp only [hi, findSub_append hi, take_append_of_findSub hi] at h ⊢
    -- The status line is the same, so the branch is.
    split at h
    · rename_i hok
      exact ⟨_, by rw [if_pos hok]⟩
    rename_i hok
    rw [if_neg hok]
    split at h
    · split at h <;> cases h
    rename_i hh
    rw [if_neg hh]
    split at h
    · split at h
      · cases h
      split at h
      · split at h <;> cases h
      · cases h
    rename_i hicy
    exact ⟨_, by rw [if_neg hicy]⟩

/-- A bare ICY answer that turns out not to be one is not the answer that
was promised: the header bytes after the status line went out as payload. -/
theorem agrees_bareIcy_iff {maxHeaderSize : ℕ} {P p x : List UInt8}
    (hlen : (P ++ x).length ≤ maxHeaderSize) (hp : HasPayload P p) (hb : BareIcy P) :
    Agrees (.ok (p ++ x)) (run (header maxHeaderSize) [] [P ++ x]) ↔ BareIcy (P ++ x) := by
  obtain ⟨i, hi, hh, hicy, hblank, hlook⟩ := hb
  obtain ⟨hok, rfl⟩ : statusOk (decodeLatin1 (P.take i)) ∧ p = P.drop (i + 2) := by
    cases hp <;> simp_all
  have htake := take_append_of_findSub (r := x) hi
  have hbare : BareIcy (P ++ x) ↔ ¬ crlf <+: (P ++ x).drop (i + 2) ∧
      ¬ looksLikeAsciiHeader ((P ++ x).drop (i + 2)) := by
    refine ⟨?_, fun h => ⟨i, findSub_append hi, htake ▸ hh, htake ▸ hicy, h⟩⟩
    rintro ⟨i', hi', -, -, h⟩
    obtain rfl : i = i' := by simpa [findSub_append hi] using hi'
    exact h
  have hlong : i + 2 ≤ P.length := findSub_le hi
  rw [hbare, ← crlf_drop_append hi, run_singleton, List.nil_append, header,
    if_neg (Nat.not_lt.mpr hlen)]
  simp only [findSub_append hi, htake, hok, hh, hicy, Bool.not_true, Bool.false_eq_true, ↓reduceIte]
  -- The payload is what follows the status line; every other branch takes less of it.
  by_cases hblank' : crlf <+: (P ++ x).drop (i + 2)
  · have hshort := hblank'.length_le
    rw [if_pos hblank']
    refine iff_of_false (fun h => ?_) fun h => h.1 hblank'
    have := congrArg List.length h
    simp only [crlf, List.length_cons, List.length_nil, List.length_drop] at *
    omega
  rw [if_neg hblank']
  by_cases hlook' : looksLikeAsciiHeader ((P ++ x).drop (i + 2)) = true
  · have hne := looksLikeAsciiHeader_ne_nil hlook'
    rw [if_pos ⟨hne, hlook'⟩]
    refine iff_of_false (fun h => ?_) fun h => h.2 hlook'
    cases he : findSub blankLine (P ++ x) with
    | none =>
      rw [he] at h
      exact hne h
    | some e =>
      rw [he] at h
      obtain ⟨i', hle, hi'⟩ := crlf_le_blankLine he
      obtain rfl : i = i' := by simpa [findSub_append hi] using hi'
      have hin := findSub_le he
      have := congrArg List.length h
      simp only [blankLine, crlf, List.length_append, List.length_cons, List.length_nil,
        List.length_drop] at *
      omega
  · rw [if_neg fun h => hlook' h.2]
    exact iff_of_true rfl ⟨hblank', hlook'⟩

/-- What a cut promises about the whole stream `S`: an accepted answer in the
bytes `P` up to it stays within the limit and, if it is a bare ICY one, stays
one. -/
def CutOk (maxHeaderSize : ℕ) (P S : List UInt8) : Prop :=
  P.length ≤ maxHeaderSize → (∃ p, HasPayload P p) →
    S.length ≤ maxHeaderSize ∧ (BareIcy P → BareIcy S)

theorem not_header_eq_some {maxHeaderSize : ℕ} {P : List UInt8}
    (h : ∀ p, header maxHeaderSize P ≠ .ok (some p)) (hlen : P.length ≤ maxHeaderSize) :
    ¬ ∃ p, HasPayload P p := by
  rintro ⟨p, hp⟩
  exact h p (header_eq_some.mpr ⟨hlen, hp⟩)

/-- The outcome at one cut behind an accepted answer. -/
theorem agrees_iff_cutOk {maxHeaderSize : ℕ} {P x p : List UInt8}
    (hv : header maxHeaderSize P = .ok (some p)) :
    Agrees (.ok (p ++ x)) (run (header maxHeaderSize) [] [P ++ x]) ↔
      CutOk maxHeaderSize P (P ++ x) := by
  obtain ⟨hlen, hp⟩ := header_eq_some.mp hv
  by_cases hS : (P ++ x).length ≤ maxHeaderSize
  · by_cases hb : BareIcy P
    · rw [agrees_bareIcy_iff hS hp hb]
      exact ⟨fun h _ _ => ⟨hS, fun _ => h⟩, fun h => (h hlen ⟨p, hp⟩).2 hb⟩
    · have hpx := header_eq_some.mpr ⟨hS, (hp.append hb x).1⟩
      rw [run_singleton, List.nil_append, hpx]
      exact iff_of_true rfl fun _ _ => ⟨hS, fun h => absurd h hb⟩
  · rw [run_singleton, List.nil_append, header, if_pos (Nat.lt_of_not_le hS)]
    exact iff_of_false (fun h => h) fun h => hS (h hlen ⟨p, hp⟩).1

/-- A cut that keeps its promise is followed by cuts that do. -/
theorem CutOk.later {maxHeaderSize : ℕ} {P y z p : List UInt8}
    (hv : header maxHeaderSize P = .ok (some p)) (h : CutOk maxHeaderSize P (P ++ y ++ z)) :
    CutOk maxHeaderSize (P ++ y) (P ++ y ++ z) := by
  obtain ⟨hlen, hp⟩ := header_eq_some.mp hv
  obtain ⟨hS, hbare⟩ := h hlen ⟨p, hp⟩
  refine fun _ _ => ⟨hS, fun hy => ?_⟩
  by_cases hb : BareIcy P
  · exact hbare hb
  · exact absurd hy (hp.append hb y).2

/-- **The chunks of a stream give the outcome of the whole stream exactly when
every cut keeps its promise.** -/
theorem feedAll_agrees_iff (maxHeaderSize : ℕ) (chunks : List (List UInt8)) :
    Agrees ((NtripResponseParser.init maxHeaderSize).feedAll chunks)
        ((NtripResponseParser.init maxHeaderSize).feedAll [chunks.flatten]) ↔
      ∀ k < chunks.length, 0 < k →
        CutOk maxHeaderSize (chunks.take k).flatten chunks.flatten := by
  rw [NtripResponseParser.feedAll_eq_run _ _ rfl, NtripResponseParser.feedAll_eq_run _ _ rfl]
  have hnil : header maxHeaderSize [] = .ok none := by simp [header, findSub, crlf]
  have herr : ∀ P x e, header maxHeaderSize P = .error e →
      ∃ e', header maxHeaderSize (P ++ x) = .error e' := fun _ x _ h => header_error_append h x
  have hopen : ∀ P S, (∀ p, header maxHeaderSize P ≠ .ok (some p)) → CutOk maxHeaderSize P S :=
    fun _ _ h hlen hp => absurd hp (not_header_eq_some h hlen)
  exact run_agrees_iff (CutOk maxHeaderSize) herr hopen (fun _ _ _ => agrees_iff_cutOk)
    (fun _ _ _ _ => CutOk.later) chunks [] hnil

/-- `b'ICY 200 OK\r\n'`. -/
def icyOk : List UInt8 :=
  [0x49, 0x43, 0x59, 0x20, 0x32, 0x30, 0x30, 0x20, 0x4F, 0x4B, 0x0D, 0x0A]

/-- An ICY answer with a blank line, cut in front of the blank line: its bytes
come out as payload. -/
theorem feedAll_blankLine_cut :
    ¬ Agrees ((NtripResponseParser.init 16384).feedAll [icyOk, [0x0D, 0x0A, 0xD3]])
      ((NtripResponseParser.init 16384).feedAll [[icyOk, [0x0D, 0x0A, 0xD3]].flatten]) := by
  have hcut : (NtripResponseParser.init 16384).feedAll [icyOk, [0x0D, 0x0A, 0xD3]] =
      .ok [0x0D, 0x0A, 0xD3] := by rfl
  have hwhole : (NtripResponseParser.init 16384).feedAll [[icyOk, [0x0D, 0x0A, 0xD3]].flatten] =
      .ok [0xD3] := by rfl
  rw [hcut, hwhole]
  simp [Agrees]

end Gnss
end SensorSupport
