/-
# What the NMEA framer retains (`wtrtk_982dt_driver/gps_ntrip_py/nmea.py`)

`NmeaLineBuffer` should retain no more bytes than `max_buffer_size`, and should throw no
sentence away whose line end it has. `feed` trims what is left when no line end is left in
it: from the newest `$` on, if there is more than one, and to nothing otherwise. The trimmed
buffer is not measured again, so it is too long when what lies behind the newest `$` is.

After a `feed` the buffer is within the limit exactly when the newest `$` of what is open
is its first byte or has not too much behind it (`memoryBound_iff`). A complete sentence is
never thrown away (`keepsSentences_feed`), and the limit is exceeded by no more than the
data of the last call (`retained_le`).

Key definitions: `LastStartFits`, `KeepsSentences`.
Key theorems: `feedLoop_bounded_iff`, `keepsSentences_feed`, `memoryBound_iff`, `retained_le`.
-/
import SensorSupport.Gnss.Nmea

namespace SensorSupport
namespace Gnss

open Framing

variable {maxBufferSize : ℕ} {buf t x y : List UInt8}

/-! ### Trimming -/

/-- The newest `$` of an open tail is its first byte, or what begins with it is within the
limit. -/
def LastStartFits (maxBufferSize : ℕ) (t : List UInt8) : Prop :=
  ∀ x y, t = x ++ dollar :: y → dollar ∉ y → x = [] ∨ (dollar :: y).length ≤ maxBufferSize

theorem idxOf?_append_cons {b : UInt8} (y : List UInt8) :
    ∀ {x : List UInt8}, b ∉ x → (x ++ b :: y).idxOf? b = some x.length
  | [], _ => by simp [List.idxOf?_cons]
  | a :: x, hx => by
    have hne : a ≠ b := fun heq => hx (heq ▸ List.mem_cons_self)
    have hrest := idxOf?_append_cons y fun hmem => hx (List.mem_cons_of_mem a hmem)
    simp [List.idxOf?_cons, hne, hrest]

theorem rfind_eq (x : List UInt8) (hy : dollar ∉ y) :
    rfind dollar (x ++ dollar :: y) = some x.length := by
  have hreverse : (x ++ dollar :: y).reverse = y.reverse ++ dollar :: x.reverse := by simp
  have hnot : dollar ∉ y.reverse := fun hmem => hy (List.mem_reverse.mp hmem)
  rw [rfind, hreverse, idxOf?_append_cons _ hnot, Option.map_some, Option.some.injEq]
  simp only [List.length_append, List.length_cons, List.length_reverse]
  omega

/-- The newest `$`. -/
theorem exists_lastStart (h : dollar ∈ t) : ∃ x y, t = x ++ dollar :: y ∧ dollar ∉ y := by
  obtain ⟨y, x, hreverse, hnot⟩ := List.eq_append_cons_of_mem (List.mem_reverse.mpr h)
  refine ⟨x.reverse, y.reverse, ?_, fun hmem => hnot (List.mem_reverse.mp hmem)⟩
  have := congrArg List.reverse hreverse
  simpa using this

theorem lastStart_unique {x' y' : List UInt8} (hy : dollar ∉ y) (hy' : dollar ∉ y')
    (h : x ++ dollar :: y = x' ++ dollar :: y') : x = x' ∧ y = y' := by
  have hindex := (rfind_eq x hy).symm.trans (h ▸ rfind_eq x' hy')
  obtain ⟨rfl, hrest⟩ := List.append_inj h (Option.some.inj hindex)
  exact ⟨rfl, (List.cons.inj hrest).2⟩

/-- What is trimmed to. -/
theorem trim_eq (maxBufferSize : ℕ) (x : List UInt8) (hy : dollar ∉ y) :
    trim (some maxBufferSize) (x ++ dollar :: y) =
      if (x ++ dollar :: y).length ≤ maxBufferSize then x ++ dollar :: y
      else if x = [] then [] else dollar :: y := by
  unfold trim
  simp only [exceeds, Option.any_some, rfind_eq x hy, decide_eq_true_eq, List.drop_left]
  by_cases hlong : maxBufferSize < (x ++ dollar :: y).length
  · rw [if_pos hlong, if_neg (Nat.not_le.mpr hlong)]
    cases x with
    | nil => rw [if_neg (show ¬ 0 < ([] : List UInt8).length by simp), if_pos hlong, if_pos rfl]
    | cons z x =>
      rw [if_pos (show 0 < (z :: x).length by simp), if_neg (List.cons_ne_nil z x)]
  · rw [if_neg hlong, if_pos (Nat.not_lt.mp hlong)]

theorem trim_length_le (x : List UInt8) (hy : dollar ∉ y) :
    (trim (some maxBufferSize) (x ++ dollar :: y)).length ≤ maxBufferSize ↔
      x = [] ∨ (dollar :: y).length ≤ maxBufferSize := by
  rw [trim_eq maxBufferSize x hy]
  by_cases hfits : (x ++ dollar :: y).length ≤ maxBufferSize
  · rw [if_pos hfits]
    have hsuffix := (List.suffix_append x (dollar :: y)).length_le
    exact iff_of_true hfits (.inr (Nat.le_trans hsuffix hfits))
  · rw [if_neg hfits]
    by_cases hx : x = []
    · simp [hx]
    · simp [hx]

/-! ### One `feed` -/

theorem openTail_open (noise : List UInt8) (hnoise : dollar ∉ noise) (hbody : newline ∉ y) :
    openTail dollar newline (noise ++ dollar :: y) = dollar :: y := by
  rw [← (scan_fst_eq_openTail dollar newline (by decide) _).1, scan_append,
    scan_skip dollar newline noise hnoise, scan_open dollar newline y hbody]
  rfl

theorem openTail_noise (h : dollar ∉ buf) : openTail dollar newline buf = [] := by
  rw [← (scan_fst_eq_openTail dollar newline (by decide) _).1, scan_skip dollar newline buf h]
  rfl

theorem openTail_frame (noise rest : List UInt8) (hnoise : dollar ∉ noise) (hbody : newline ∉ y) :
    openTail dollar newline (noise ++ dollar :: (y ++ newline :: rest)) =
      openTail dollar newline rest := by
  rw [← (scan_fst_eq_openTail dollar newline (by decide) _).1,
    ← (scan_fst_eq_openTail dollar newline (by decide) _).1, scan_append,
    scan_skip dollar newline noise hnoise, scan_frame dollar newline y rest hbody]

/-- **What one pass of the loop retains** is within the limit when the newest `$` of the open
tail fits. -/
theorem feedLoop_bounded_iff (maxBufferSize : ℕ) (buf : List UInt8) :
    (feedLoop (some maxBufferSize) buf).1.length ≤ maxBufferSize ↔
      LastStartFits maxBufferSize (openTail dollar newline buf) := by
  induction hn : buf.length using Nat.strongRecOn generalizing buf with
  | ind n ih =>
    rcases feedLoop_cases buf with ⟨h, e⟩ | ⟨noise, body, rfl, h1, h2, e⟩ |
      ⟨noise, body, rest, rfl, h1, h2, e⟩
    · have hfits : LastStartFits maxBufferSize [] := fun x y hxy => by simp at hxy
      rw [e, openTail_noise h]
      refine iff_of_true ?_ hfits
      by_cases hlong : maxBufferSize < buf.length
      · rw [if_pos (show exceeds (some maxBufferSize) buf.length = true from decide_eq_true hlong)]
        exact Nat.zero_le _
      · have hexceeds : ¬ exceeds (some maxBufferSize) buf.length = true := by
          simpa [exceeds] using hlong
        rw [if_neg hexceeds]
        exact Nat.not_lt.mp hlong
    · rw [e, openTail_open noise h1 h2]
      obtain ⟨x, y, hxy, hy⟩ := exists_lastStart (t := dollar :: body) List.mem_cons_self
      dsimp only
      rw [hxy, trim_length_le x hy]
      constructor
      · intro hfits x' y' heq hy'
        obtain ⟨rfl, rfl⟩ := lastStart_unique hy hy' heq
        exact hfits
      · exact fun hfits => hfits x y rfl hy
    · rw [e, openTail_frame noise rest h1 h2]
      exact ih rest.length (by subst hn; simp; omega) rest rfl

/-- Trimming throws no sentence away: a `feed` returns what it returns without a limit, and
retains an end of what it retains then, in which no sentence is complete. -/
def KeepsSentences (self : NmeaLineBuffer) (data : List UInt8) : Prop :=
  (self.feed data).2 = (feedLoop none (self.buffer ++ data)).2 ∧
    (self.feed data).1.buffer <:+ (feedLoop none (self.buffer ++ data)).1 ∧
    ∀ raw, raw <:+: (feedLoop none (self.buffer ++ data)).1 → ¬ IsFrame dollar newline raw

/-- What the loop leaves without a limit has no frame. -/
theorem feedLoop_none_noFrame (buf : List UInt8) :
    ∀ raw, raw <:+: (feedLoop none buf).1 → ¬ IsFrame dollar newline raw := by
  induction hn : buf.length using Nat.strongRecOn generalizing buf with
  | ind n ih =>
    rcases feedLoop_cases buf with ⟨h, e⟩ | ⟨noise, body, rfl, -, h2, e⟩ |
      ⟨noise, body, rest, rfl, -, -, e⟩
    · rw [e]
      rintro raw hpiece ⟨a, rfl, -⟩
      exact h (hpiece.subset List.mem_cons_self)
    · rw [e]
      rintro raw hpiece ⟨a, rfl, -⟩
      have hmem : newline ∈ dollar :: body := hpiece.subset (by simp)
      rcases List.mem_cons.mp hmem with hmem | hmem
      exacts [absurd hmem (by decide), h2 hmem]
    · rw [e]
      exact ih rest.length (by subst hn; simp; omega) rest rfl

/-- What is retained is an end of what is retained without a limit. -/
theorem feedLoop_suffix_none (limit : Option ℕ) (buf : List UInt8) :
    (feedLoop limit buf).1 <:+ (feedLoop none buf).1 := by
  induction hn : buf.length using Nat.strongRecOn generalizing buf with
  | ind n ih =>
    rcases feedLoop_cases buf with ⟨h, e⟩ | ⟨noise, body, rfl, h1, h2, e⟩ |
      ⟨noise, body, rest, rfl, h1, h2, e⟩
    · rw [e none]
      exact feedLoop_suffix limit buf
    · rw [e, e]
      exact trim_suffix limit _
    · rw [e, e]
      exact ih rest.length (by subst hn; simp; omega) rest rfl

/-- **A complete sentence is never thrown away.** -/
theorem keepsSentences_feed (self : NmeaLineBuffer) (data : List UInt8) :
    KeepsSentences self data := by
  refine ⟨?_, feedLoop_suffix_none self.maxBufferSize _, feedLoop_none_noFrame _⟩
  exact (feedLoop_snd _ _).trans (feedLoop_snd none _).symm

/-- What is too long begins with the newest `$`, and is not the whole buffer. -/
theorem feedLoop_long (maxBufferSize : ℕ) (buf : List UInt8) :
    (feedLoop (some maxBufferSize) buf).1.length ≤ maxBufferSize ∨
      ∃ u y, u ≠ [] ∧ dollar ∉ y ∧ buf = u ++ dollar :: y ∧
        (feedLoop (some maxBufferSize) buf).1 = dollar :: y := by
  by_cases hfits : (feedLoop (some maxBufferSize) buf).1.length ≤ maxBufferSize
  · exact .inl hfits
  refine .inr ?_
  induction hn : buf.length using Nat.strongRecOn generalizing buf with
  | ind n ih =>
    rcases feedLoop_cases buf with ⟨h, -⟩ | ⟨noise, body, rfl, h1, h2, e⟩ |
      ⟨noise, body, rest, rfl, h1, h2, e⟩
    · refine absurd ((feedLoop_bounded_iff maxBufferSize buf).mpr ?_) hfits
      rw [openTail_noise h]
      exact fun x y hxy => by simp at hxy
    · rw [e] at hfits ⊢
      obtain ⟨x, y, hxy, hy⟩ := exists_lastStart (t := dollar :: body) List.mem_cons_self
      dsimp only at hfits ⊢
      rw [hxy] at hfits ⊢
      rw [trim_length_le x hy, not_or] at hfits
      have hlong : ¬ (x ++ dollar :: y).length ≤ maxBufferSize := fun hshort =>
        hfits.2 (Nat.le_trans (List.suffix_append x (dollar :: y)).length_le hshort)
      refine ⟨noise ++ x, y, by simp [hfits.1], hy, (List.append_assoc _ _ _).symm, ?_⟩
      rw [trim_eq maxBufferSize x hy, if_neg hlong, if_neg hfits.1]
    · rw [e] at hfits ⊢
      obtain ⟨u, y, hu, hy, rfl, hretained⟩ :=
        ih rest.length (by subst hn; simp; omega) rest hfits rfl
      exact ⟨noise ++ dollar :: (body ++ newline :: u), y, by simp, hy, by simp, hretained⟩

/-! ### Every run -/

/-- The framer after some `feed` calls. -/
def framerAfter (maxBufferSize : ℕ) (fed : List (List UInt8)) : NmeaLineBuffer :=
  ((NmeaLineBuffer.fresh maxBufferSize).feedAll fed).1

theorem feedAll_concat : ∀ (fed : List (List UInt8)) (self : NmeaLineBuffer) (data : List UInt8),
    (self.feedAll (fed ++ [data])).1 = ((self.feedAll fed).1.feed data).1
  | [], _, _ => rfl
  | c :: fed, self, data => feedAll_concat fed (self.feed c).1 data

theorem feedAll_maxBufferSize : ∀ (fed : List (List UInt8)) (self : NmeaLineBuffer),
    (self.feedAll fed).1.maxBufferSize = self.maxBufferSize
  | [], _ => rfl
  | c :: fed, self => feedAll_maxBufferSize fed (self.feed c).1

/-- One more `feed`. -/
theorem framerAfter_concat (maxBufferSize : ℕ) (fed : List (List UInt8)) (data : List UInt8) :
    (framerAfter maxBufferSize (fed ++ [data])).buffer =
      (feedLoop (some maxBufferSize) ((framerAfter maxBufferSize fed).buffer ++ data)).1 := by
  have hlimit : (framerAfter maxBufferSize fed).maxBufferSize = some maxBufferSize :=
    feedAll_maxBufferSize fed _
  rw [← hlimit, framerAfter, feedAll_concat]
  rfl

/-- **The memory bound.** After every `feed` of a run the buffer is within the limit, and
nothing complete was thrown away, exactly when in every call the newest `$` of what is open
fits. -/
theorem memoryBound_iff (maxBufferSize : ℕ) (calls : List (List UInt8)) :
    (∀ fed data, fed ++ [data] <+: calls →
      (framerAfter maxBufferSize (fed ++ [data])).buffer.length ≤ maxBufferSize ∧
        KeepsSentences (framerAfter maxBufferSize fed) data) ↔
    ∀ fed data, fed ++ [data] <+: calls → LastStartFits maxBufferSize
      (openTail dollar newline ((framerAfter maxBufferSize fed).buffer ++ data)) := by
  have hcall : ∀ fed data,
      ((framerAfter maxBufferSize (fed ++ [data])).buffer.length ≤ maxBufferSize ∧
        KeepsSentences (framerAfter maxBufferSize fed) data) ↔ LastStartFits maxBufferSize
          (openTail dollar newline ((framerAfter maxBufferSize fed).buffer ++ data)) := by
    intro fed data
    rw [framerAfter_concat, feedLoop_bounded_iff]
    exact and_iff_left (keepsSentences_feed _ _)
  simp only [hcall]

/-- A second `$`, and 128 bytes behind it. -/
def secondStart : List UInt8 := dollar :: dollar :: List.replicate 128 0x41

/-- They are retained by a framer of 128 bytes. -/
theorem memoryBound_secondStart : ¬ ∀ (maxBufferSize : ℕ) (calls : List (List UInt8)),
    128 ≤ maxBufferSize → ∀ fed data, fed ++ [data] <+: calls →
      (framerAfter maxBufferSize (fed ++ [data])).buffer.length ≤ maxBufferSize ∧
        KeepsSentences (framerAfter maxBufferSize fed) data := by
  intro hall
  have hbound := (hall 128 [secondStart] (Nat.le_refl _) [] secondStart List.prefix_rfl).1
  rw [framerAfter_concat, feedLoop_bounded_iff] at hbound
  have htail : openTail dollar newline ([] ++ secondStart) =
      [dollar] ++ dollar :: List.replicate 128 0x41 := by decide +kernel
  rcases hbound [dollar] (List.replicate 128 0x41) htail (by decide +kernel) with h | h
  · cases h
  · simp at h

/-- Between two calls the buffer is within the limit, or has one `$`, at its start. -/
theorem framerAfter_settled (maxBufferSize : ℕ) (fed : List (List UInt8)) :
    (framerAfter maxBufferSize fed).buffer.length ≤ maxBufferSize ∨
      ∃ y, dollar ∉ y ∧ (framerAfter maxBufferSize fed).buffer = dollar :: y := by
  induction fed using List.reverseRecOn with
  | nil => exact .inl (Nat.zero_le _)
  | append_singleton fed data _ =>
    rw [framerAfter_concat]
    rcases feedLoop_long maxBufferSize ((framerAfter maxBufferSize fed).buffer ++ data) with
      h | ⟨u, y, -, hy, -, h⟩
    · exact .inl h
    · exact .inr ⟨y, hy, h⟩

/-- **What is retained** exceeds the limit by no more than the data of the last call. -/
theorem retained_le (maxBufferSize : ℕ) (fed : List (List UInt8)) (data : List UInt8) :
    (framerAfter maxBufferSize (fed ++ [data])).buffer.length ≤ maxBufferSize + data.length := by
  rw [framerAfter_concat]
  rcases feedLoop_long maxBufferSize ((framerAfter maxBufferSize fed).buffer ++ data) with
    h | ⟨u, y, hu, hy, hbuffer, h⟩
  · omega
  rw [h]
  rcases framerAfter_settled maxBufferSize fed with hshort | ⟨y', hy', hbuffer'⟩
  · have hlength := congrArg List.length hbuffer
    simp only [List.length_append] at hlength
    omega
  · rw [hbuffer'] at hbuffer
    cases u with
    | nil => exact absurd rfl hu
    | cons z u =>
      obtain ⟨u', rfl⟩ := start_behind dollar hy' (List.cons.inj hbuffer).2.symm
      simp only [List.length_append]
      omega

end Gnss
end SensorSupport
