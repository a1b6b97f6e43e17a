/-
# NMEA framing (`wtrtk_982dt_driver/gps_ntrip_py/nmea.py`)

`NmeaLineBuffer.feed` appends the received bytes to a buffer and then takes
complete `$...\n` lines out of it: it drops what precedes the first `$`,
looks for the line end behind it, and stops when one of the two is missing,
trimming the buffer when it has outgrown `max_buffer_size`.

The loop is the scanner of `Lib.Framing` on the buffer (`feedLoop_snd`), and
what it retains leads the scanner back to the same state as long as nothing
was trimmed (`scan_feedLoop_fst`), so where the stream is cut does not matter
(`feed_chunks`).
-/
import SensorSupport.Lib.Framing

namespace SensorSupport
namespace Gnss

open Framing

/-- A Python `str`. -/
abbrev Text := List Char

/-- `b'$'`. -/
def dollar : UInt8 := 0x24

/-- `b'\n'`. -/
def newline : UInt8 := 0x0A

/-- `bytearray.find(b, from)`, with `none` for -1. -/
def find (b : UInt8) (buf : List UInt8) (start : ℕ) : Option ℕ :=
  ((buf.drop start).idxOf? b).map (· + start)

/-- `bytearray.rfind(b)`, with `none` for -1. -/
def rfind (b : UInt8) (buf : List UInt8) : Option ℕ :=
  (buf.reverse.idxOf? b).map (buf.length - 1 - ·)

/-- `bytes.decode('ascii', errors='ignore')`. -/
def decodeAscii (raw : List UInt8) : Text :=
  (raw.filter (· < 0x80)).map fun b => Char.ofNat b.toNat

/-- `str.isspace` on an ASCII character: space, `\t` to `\r`, and the four
separators `\x1c` to `\x1f`. -/
def isSpace (c : Char) : Bool :=
  c.toNat = 0x20 || (0x09 ≤ c.toNat && c.toNat ≤ 0x0D) || (0x1C ≤ c.toNat && c.toNat ≤ 0x1F)

/-- `str.strip()`. -/
def strip (s : Text) : Text := ((s.dropWhile isSpace).reverse.dropWhile isSpace).reverse

/-- The line a raw line is appended as, if it is. -/
def sentence (raw : List UInt8) : Option Text :=
  let line := strip (decodeAscii raw)
  if line.head? = some '$' then some line else none

/-- `NmeaLineBuffer`. A size limit of `none` is a buffer without one. -/
structure NmeaLineBuffer where
  buffer : List UInt8
  maxBufferSize : Option ℕ

namespace NmeaLineBuffer

/-- A buffer nothing was fed to, of the given size. -/
def fresh (maxBufferSize : ℕ) : NmeaLineBuffer := ⟨[], some maxBufferSize⟩

/-- `__init__`. -/
def init (maxBufferSize : ℕ) : Except String NmeaLineBuffer :=
  if maxBufferSize < 128 then .error "max_buffer_size must be at least 128 bytes"
  else .ok (fresh maxBufferSize)

/-- A fresh buffer without a size limit. -/
def unlimited : NmeaLineBuffer := ⟨[], none⟩

end NmeaLineBuffer

/-- `len(self._buffer) > self._max_buffer_size`. -/
def exceeds (limit : Option ℕ) (n : ℕ) : Bool := limit.any (· < n)

/-- The trimming of a buffer that starts at a `$` and holds no line end. -/
def trim (limit : Option ℕ) (buf : List UInt8) : List UInt8 :=
  if exceeds limit buf.length then
    match rfind dollar buf with
    | some newestStart =>
      if 0 < newestStart then buf.drop newestStart
      else if exceeds limit buf.length then [] else buf
    | none => if exceeds limit buf.length then [] else buf
  else buf

/-- `while self._buffer`: the retained buffer and the sentences. -/
def feedLoop (limit : Option ℕ) (buf : List UInt8) : List UInt8 × List Text :=
  if _hne : buf = [] then ([], [])
  else
    match find dollar buf 0 with
    | none => (if exceeds limit buf.length then [] else buf, [])
    | some start =>
      match find newline (buf.drop start) 1 with
      | none => (trim limit (buf.drop start), [])
      | some stop =>
        let t := feedLoop limit ((buf.drop start).drop (stop + 1))
        (t.1, (sentence ((buf.drop start).take (stop + 1))).toList ++ t.2)
termination_by buf.length
decreasing_by
  have := List.length_pos_of_ne_nil _hne
  simp only [List.length_drop]
  omega

namespace NmeaLineBuffer

/-- `feed`. -/
def feed (self : NmeaLineBuffer) (data : List UInt8) : NmeaLineBuffer × List Text :=
  let r := feedLoop self.maxBufferSize (self.buffer ++ data)
  ({ self with buffer := r.1 }, r.2)

/-- A list of `feed` calls: the buffer after them and their sentence lists,
concatenated. -/
def feedAll : NmeaLineBuffer → List (List UInt8) → NmeaLineBuffer × List Text
  | self, [] => (self, [])
  | self, c :: cs =>
    let r := self.feed c
    let t := feedAll r.1 cs
    (t.1, r.2 ++ t.2)

end NmeaLineBuffer

/-! ### The searches -/

theorem find_zero_none {b : UInt8} {buf : List UInt8} (h : find b buf 0 = none) : b ∉ buf := by
  simpa [find, List.idxOf?_eq_none_iff] using h

/-- What a successful search says: the bytes before the match are not `b`. -/
theorem find_zero_some {b : UInt8} {buf : List UInt8} {i : ℕ} (h : find b buf 0 = some i) :
    b ∉ buf.take i ∧ buf.drop i = b :: buf.drop (i + 1) ∧
      buf.take (i + 1) = buf.take i ++ [b] := by
  induction buf generalizing i with
  | nil => simp [find] at h
  | cons x xs ih =>
    simp only [find, List.drop_zero, Nat.add_zero, Option.map_id', List.idxOf?_cons] at h ih
    by_cases hx : x = b
    · simp only [hx, BEq.rfl, ↓reduceIte, Option.some.injEq] at h
      subst h hx
      simp
    · simp only [beq_iff_eq, hx, ↓reduceIte, Option.map_eq_some_iff] at h
      obtain ⟨j, hj, rfl⟩ := h
      obtain ⟨h1, h2, h3⟩ := ih hj
      exact ⟨by simpa [Ne.symm hx] using h1, by simpa using h2, by simpa using h3⟩

theorem find_one {b x : UInt8} (xs : List UInt8) :
    find b (x :: xs) 1 = (find b xs 0).map (· + 1) := by
  simp [find]

/-! ### The loop is the scanner -/

/-- The three ways through the loop body, on what the scanner sees. -/
theorem feedLoop_cases (buf : List UInt8) :
    (dollar ∉ buf ∧
      ∀ limit, feedLoop limit buf = (if exceeds limit buf.length then [] else buf, [])) ∨
    (∃ noise body, buf = noise ++ dollar :: body ∧ dollar ∉ noise ∧ newline ∉ body ∧
      ∀ limit, feedLoop limit buf = (trim limit (dollar :: body), [])) ∨
    (∃ noise body rest, buf = noise ++ dollar :: (body ++ newline :: rest) ∧ dollar ∉ noise ∧
      newline ∉ body ∧ ∀ limit, feedLoop limit buf = ((feedLoop limit rest).1,
        (sentence (dollar :: (body ++ [newline]))).toList ++ (feedLoop limit rest).2)) := by
  by_cases hne : buf = []
  · subst hne
    left
    unfold feedLoop
    simp
  have hloop := fun limit => feedLoop.eq_1 limit buf
  simp only [dif_neg hne] at hloop
  cases hs : find dollar buf 0 with
  | none =>
    simp only [hs] at hloop
    exact .inl ⟨find_zero_none hs, hloop⟩
  | some start =>
    obtain ⟨hnoise, hdrop, -⟩ := find_zero_some hs
    have hbuf : buf = buf.take start ++ dollar :: buf.drop (start + 1) := by
      rw [← hdrop, List.take_append_drop]
    right
    simp only [hs, hdrop, find_one] at hloop
    generalize buf.drop (start + 1) = w at hbuf hloop
    cases he : find newline w 0 with
    | none =>
      simp only [he, Option.map_none] at hloop
      exact .inl ⟨_, _, hbuf, hnoise, find_zero_none he, hloop⟩
    | some e =>
      obtain ⟨hbody, hrest, htake⟩ := find_zero_some he
      have hline : w = w.take e ++ newline :: w.drop (e + 1) := by
        rw [← hrest, List.take_append_drop]
      simp only [he, Option.map_some, List.take_succ_cons, List.drop_succ_cons, htake] at hloop
      exact .inr ⟨_, _, _, hline ▸ hbuf, hnoise, hbody, hloop⟩

/-- The sentences of one `feed` are the scanner's frames, whatever the limit. -/
theorem feedLoop_snd (limit : Option ℕ) (buf : List UInt8) :
    (feedLoop limit buf).2 = (scan dollar newline none buf).2.filterMap sentence := by
  induction hn : buf.length using Nat.strongRecOn generalizing buf with
  | ind n ih =>
    rcases feedLoop_cases buf with ⟨h, e⟩ | ⟨noise, body, rfl, h1, h2, e⟩ |
      ⟨noise, body, rest, rfl, h1, h2, e⟩
    · simp [e, scan_skip dollar newline buf h]
    · simp [e, scan_append, scan_skip dollar newline noise h1, scan_open dollar newline body h2]
    · have hrest := ih rest.length (by subst hn; simp; omega) rest rfl
      simp only [e, scan_append, scan_skip dollar newline noise h1,
        scan_frame dollar newline body rest h2, hrest, List.nil_append]
      cases hs : sentence (dollar :: (body ++ [newline])) <;> simp [hs]

/-- What one `feed` retains leads the scanner to the state it is in, unless
that state was too long and got trimmed. -/
theorem scan_feedLoop_fst (limit : Option ℕ) (buf : List UInt8)
    (hfit : exceeds limit (openTail dollar newline buf).length = false) :
    scan dollar newline none (feedLoop limit buf).1 = ((scan dollar newline none buf).1, []) := by
  rw [← (scan_fst_eq_openTail dollar newline (by decide) buf).1] at hfit
  induction hn : buf.length using Nat.strongRecOn generalizing buf with
  | ind n ih =>
    rcases feedLoop_cases buf with ⟨h, e⟩ | ⟨noise, body, rfl, h1, h2, e⟩ |
      ⟨noise, body, rest, rfl, h1, h2, e⟩
    · rw [e, scan_skip dollar newline buf h]
      show scan dollar newline none (if exceeds limit buf.length then [] else buf) = (none, [])
      split
      · rfl
      · exact scan_skip dollar newline buf h
    · have hscan : scan dollar newline none (noise ++ dollar :: body) =
          (some (dollar :: body), []) := by
        simp [scan_append, scan_skip dollar newline noise h1, scan_open dollar newline body h2]
      rw [hscan, Option.getD_some] at hfit
      rw [e, hscan, trim, hfit]
      exact scan_open dollar newline body h2
    · have hscan : (scan dollar newline none (noise ++ dollar :: (body ++ newline :: rest))).1 =
          (scan dollar newline none rest).1 := by
        simp [scan_append, scan_skip dollar newline noise h1,
          scan_frame dollar newline body rest h2]
      rw [hscan] at hfit
      rw [e, hscan]
      exact ih rest.length (by subst hn; simp; omega) rest hfit rfl

/-- Trimming keeps an end of the buffer. -/
theorem trim_suffix (limit : Option ℕ) (buf : List UInt8) : trim limit buf <:+ buf := by
  unfold trim
  split_ifs
  · cases rfind dollar buf with
    | none => exact List.nil_suffix
    | some newestStart =>
      dsimp only
      split_ifs
      · exact List.drop_suffix _ _
      · exact List.nil_suffix
  · exact List.suffix_rfl

/-- What one `feed` retains is an end of the buffer. -/
theorem feedLoop_suffix (limit : Option ℕ) (buf : List UInt8) : (feedLoop limit buf).1 <:+ buf := by
  induction hn : buf.length using Nat.strongRecOn generalizing buf with
  | ind n ih =>
    rcases feedLoop_cases buf with ⟨-, e⟩ | ⟨noise, body, rfl, -, -, e⟩ |
      ⟨noise, body, rest, rfl, -, -, e⟩
    · rw [e]
      dsimp only
      split_ifs
      · exact List.nil_suffix
      · exact List.suffix_rfl
    · rw [e]
      exact (trim_suffix limit _).trans (List.suffix_append noise _)
    · rw [e]
      have hrest := ih rest.length (by subst hn; simp; omega) rest rfl
      exact hrest.trans ⟨noise ++ dollar :: (body ++ [newline]), by simp⟩

/-! ### Chunks -/

namespace NmeaLineBuffer

/-- After the bytes `p`, the buffer `self` leads the scanner to the state it
is in after `p`. -/
def Follows (self : NmeaLineBuffer) (p : List UInt8) : Prop :=
  scan dollar newline none self.buffer = ((scan dollar newline none p).1, [])

theorem Follows.scan_append {self : NmeaLineBuffer} {p : List UInt8} (h : self.Follows p)
    (c : List UInt8) :
    scan dollar newline none (self.buffer ++ c) =
      scan dollar newline (scan dollar newline none p).1 c := by
  rw [Framing.scan_append, h, List.nil_append]

/-- One `feed` goes on following the stream if the tail it leaves open fits. -/
theorem Follows.feed {self : NmeaLineBuffer} {p : List UInt8} (h : self.Follows p)
    (c : List UInt8)
    (hfit : exceeds self.maxBufferSize (openTail dollar newline (p ++ c)).length = false) :
    (self.feed c).1.Follows (p ++ c) := by
  have hst : (scan dollar newline none (self.buffer ++ c)).1 =
      (scan dollar newline none (p ++ c)).1 := by
    rw [h.scan_append, Framing.scan_append]
  have htail := (scan_fst_eq_openTail dollar newline (by decide) (self.buffer ++ c)).1
  rw [hst, (scan_fst_eq_openTail dollar newline (by decide) (p ++ c)).1] at htail
  have := scan_feedLoop_fst self.maxBufferSize (self.buffer ++ c) (htail ▸ hfit)
  rwa [hst] at this

/-- The sentences of the `feed` calls that follow `p` are the scanner's, as
long as the tail open between two calls fits. -/
theorem feedAll_follows (limit : Option ℕ) : ∀ (chunks : List (List UInt8))
    (self : NmeaLineBuffer) (p : List UInt8), self.maxBufferSize = limit → self.Follows p →
    (∀ k < chunks.length, 0 < k →
      exceeds limit (openTail dollar newline (p ++ (chunks.take k).flatten)).length = false) →
    (self.feedAll chunks).2 =
      (scan dollar newline (scan dollar newline none p).1 chunks.flatten).2.filterMap sentence
  | [], _, _, _, _, _ => by simp [feedAll]
  | c :: cs, self, p, hl, h, hfit => by
    have hhead : (self.feed c).2 =
        (scan dollar newline (scan dollar newline none p).1 c).2.filterMap sentence := by
      rw [← h.scan_append]
      exact feedLoop_snd _ _
    simp only [feedAll, List.flatten_cons, Framing.scan_append, List.filterMap_append, hhead]
    congr 1
    by_cases hcs : cs = []
    · subst hcs
      simp [feedAll]
    · have hc := hfit 1 (by simpa using List.length_pos_of_ne_nil hcs) Nat.one_pos
      simp only [List.take_succ_cons, List.take_zero, List.flatten_singleton] at hc
      have hf : (self.feed c).1.Follows (p ++ c) := h.feed c (hl ▸ hc)
      have ih := feedAll_follows limit cs (self.feed c).1 (p ++ c) hl hf fun k hk hk0 => by
        have := hfit (k + 1) (by simpa using hk) (Nat.succ_pos k)
        rwa [List.take_succ_cons, List.flatten_cons, ← List.append_assoc] at this
      rw [ih, Framing.scan_append]

/-- Whatever is trimmed, each sentence is of a frame of the stream. -/
theorem feedAll_pieces : ∀ (chunks : List (List UInt8)) {self : NmeaLineBuffer} {p : List UInt8},
    self.buffer <:+ p → ∀ line ∈ (self.feedAll chunks).2,
      ∃ raw, IsFrame dollar newline raw ∧ raw <:+: p ++ chunks.flatten ∧ sentence raw = some line
  | [], _, _, _, _, hline => by cases hline
  | c :: cs, self, p, h, line, hline => by
    have hbuffer : self.buffer ++ c <:+ p ++ c := List.suffix_append_self_iff.mpr h
    rcases List.mem_append.mp hline with hline | hline
    · change line ∈ (feedLoop self.maxBufferSize (self.buffer ++ c)).2 at hline
      rw [feedLoop_snd] at hline
      obtain ⟨raw, hraw, hsentence⟩ := List.mem_filterMap.mp hline
      obtain ⟨hframe, hpiece⟩ := (scan_pieces dollar newline _).2 raw hraw
      refine ⟨raw, hframe, ?_, hsentence⟩
      rw [List.flatten_cons, ← List.append_assoc]
      exact (hpiece.trans hbuffer.isInfix).trans (List.infix_append [] _ _)
    · have hkept := (feedLoop_suffix self.maxBufferSize (self.buffer ++ c)).trans hbuffer
      rw [List.flatten_cons, ← List.append_assoc]
      exact feedAll_pieces cs hkept line hline

/-- **The framer is independent of the chunks.** If between two `feed` calls
the unterminated tail of the stream is never longer than the buffer may be,
the calls return the sentences one `feed` of the whole stream returns to a
buffer without a limit. -/
theorem feed_chunks (maxBufferSize : ℕ) (chunks : List (List UInt8))
    (hfit : ∀ k < chunks.length, 0 < k →
      (openTail dollar newline (chunks.take k).flatten).length ≤ maxBufferSize) :
    ((fresh maxBufferSize).feedAll chunks).2 = (unlimited.feed chunks.flatten).2 := by
  rw [feedAll_follows (some maxBufferSize) chunks (fresh maxBufferSize) [] rfl rfl
    fun k hk hk0 => by simpa [exceeds] using hfit k hk hk0]
  exact (feedLoop_snd none chunks.flatten).symm

/-- Cut behind the noise and the `$`, and between CR and LF. -/
theorem feed_chunks_cut :
    ((fresh 128).feedAll [[0x78, 0x24], [0x47, 0x0D], [0x0A, 0x24]]).2 =
      (unlimited.feed [0x78, 0x24, 0x47, 0x0D, 0x0A, 0x24]).2 :=
  feed_chunks 128 [[0x78, 0x24], [0x47, 0x0D], [0x0A, 0x24]] (by decide)

end NmeaLineBuffer

end Gnss
end SensorSupport
