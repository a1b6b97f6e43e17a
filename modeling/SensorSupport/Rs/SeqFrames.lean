/-
# Frames of numbered packets (`decoder/split_strategy.hpp`)

The packets of a frame are numbered from 1 and arrive in that order, some of them lost.
`SplitStrategyBySeq` follows the numbers as long as no more than `RANGE` of them are missing in
one place; behind a longer gap it stays where it was until the numbers go back.

So a frame whose numbers are followed past `2 * RANGE + 1` is split from the next one, and from
no packet but its first (`splits_iff`); where the only such number comes behind a long gap, the
next frame is not split (`splits_behind_gap`).

Key definitions: `SeqFrame`, `FollowedFrame`, `feedFrames`, `Trailing`.
Key theorems: `newPacket_trailing`, `feed_trailing`, `newPacket_first`, `feedFrames_ready`,
`splits_iff`.
-/
import SensorSupport.Rs.SplitStrategy

namespace SensorSupport
namespace Rs

open Detector

/-- `RANGE` -/
def RANGE : ℕ := 10

/-- What is delivered of a frame of `n` packets. -/
structure SeqFrame where
  n : ℕ
  seqs : List UInt16
  n_lt : n < 65536 - RANGE
  numbered : ∀ seq ∈ seqs, 1 ≤ seq.toNat ∧ seq.toNat ≤ n
  increasing : seqs.Pairwise (· < ·)
  low : ∃ seq ∈ seqs, seq.toNat ≤ RANGE
  high : ∃ seq ∈ seqs, 2 * RANGE + 1 < seq.toNat

/-- A frame that is followed up to some number above `2 * RANGE + 1`: no more than `RANGE`
lie between the packets up to it. -/
structure FollowedFrame extends SeqFrame where
  followed : ∃ pre seq post, seqs = pre ++ seq :: post ∧ 2 * RANGE + 1 < seq.toNat ∧
    (pre ++ [seq]).IsChain (fun a b => b.toNat ≤ a.toNat + RANGE)

/-- The splitter behind some frames and some packets of the next one. -/
def feedFrames (frames : List SeqFrame) (seqs : List UInt16) : SplitStrategyBySeq :=
  (feed SplitStrategyBySeq.newPacket (frames.flatMap SeqFrame.seqs ++ seqs) .init).1

/-- The packet `seq` of a frame, behind `frames` and the packets `pre`, splits exactly when it is
the first one of a frame that is not the first one. -/
def SplitsOk (frames : List SeqFrame) (pre : List UInt16) (seq : UInt16) : Prop :=
  ((feedFrames frames pre).newPacket seq).2 = true ↔ frames ≠ [] ∧ pre = []

/-! ### Within a frame -/

/-- The numbers to come are increasing, and none of them is behind the previous one. -/
structure Trailing (s : SplitStrategyBySeq) (seqs : List UInt16) : Prop where
  inRange : s.InRange
  pos : 0 < s.prevSeq.toNat
  ahead : ∀ seq ∈ seqs, s.prevSeq.toNat ≤ seq.toNat ∧ seq.toNat < 65536 - RANGE
  increasing : seqs.Pairwise (· < ·)

section Frame

variable {s : SplitStrategyBySeq} {seq : UInt16} {seqs pre post : List UInt16}

/-- A number that is not behind is taken when it is in the safe range. -/
theorem newPacket_ahead (h : s.InRange) (hpos : 0 < s.prevSeq.toNat)
    (hle : s.prevSeq.toNat ≤ seq.toNat) (hlt : seq.toNat < 65536 - RANGE) :
    (s.newPacket seq).2 = false ∧ (s.newPacket seq).1.prevSeq.toNat =
      if seq.toNat ≤ s.prevSeq.toNat + RANGE then seq.toNat else s.prevSeq.toNat := by
  have hrange : RANGE = 10 := rfl
  obtain ⟨hsplit, hprev⟩ := newPacket_eq h seq
  constructor
  · rw [hsplit]
    apply decide_eq_false
    rw [UInt16.lt_iff_toNat_lt, safeMin_toNat]
    omega
  · rw [hprev, nextSeq_toNat]
    split_ifs <;> omega

/-- **A packet of a frame does not split, and the numbers behind it are ahead again.** -/
theorem newPacket_trailing (h : Trailing s (seq :: seqs)) :
    Trailing (s.newPacket seq).1 seqs ∧ (s.newPacket seq).2 = false ∧
      s.prevSeq.toNat ≤ (s.newPacket seq).1.prevSeq.toNat := by
  obtain ⟨hle, hlt⟩ := h.ahead seq List.mem_cons_self
  obtain ⟨hsplit, hprev⟩ := newPacket_ahead h.inRange h.pos hle hlt
  obtain ⟨hfirst, hrest⟩ := List.pairwise_cons.mp h.increasing
  have hbetween : s.prevSeq.toNat ≤ (s.newPacket seq).1.prevSeq.toNat ∧
      (s.newPacket seq).1.prevSeq.toNat ≤ seq.toNat := by
    rw [hprev]
    split <;> omega
  refine ⟨?_, hsplit, hbetween.1⟩
  constructor
  · exact newPacket_inRange s seq
  · have hpos := h.pos
    omega
  · intro later hlater
    have hahead := h.ahead later (List.mem_cons_of_mem _ hlater)
    have hlt : seq.toNat < later.toNat := UInt16.lt_iff_toNat_lt.mp (hfirst later hlater)
    omega
  · exact hrest

theorem Trailing.of_append (h : Trailing s (pre ++ post)) : Trailing s pre :=
  ⟨h.inRange, h.pos, fun seq hseq => h.ahead seq (List.mem_append_left post hseq),
    (List.pairwise_append.mp h.increasing).1⟩

theorem feed_trailing (h : Trailing s (pre ++ post)) :
    Trailing (feed SplitStrategyBySeq.newPacket pre s).1 post ∧
      s.prevSeq.toNat ≤ (feed SplitStrategyBySeq.newPacket pre s).1.prevSeq.toNat := by
  induction pre generalizing s with
  | nil => exact ⟨h, Nat.le_refl _⟩
  | cons seq pre ih =>
    obtain ⟨hnext, -, hle⟩ := newPacket_trailing h
    obtain ⟨hend, hle'⟩ := ih hnext
    exact ⟨hend, Nat.le_trans hle hle'⟩

/-- Numbers without a long gap are followed. -/
theorem feed_followed (h : Trailing s pre)
    (hchain : (s.prevSeq :: pre).IsChain (fun a b => b.toNat ≤ a.toNat + RANGE)) :
    (feed SplitStrategyBySeq.newPacket pre s).1.prevSeq = pre.getLastD s.prevSeq := by
  induction pre generalizing s with
  | nil => rfl
  | cons seq pre ih =>
    obtain ⟨hnear, hrest⟩ := List.isChain_cons_cons.mp hchain
    obtain ⟨hle, hlt⟩ := h.ahead seq List.mem_cons_self
    have hprev : (s.newPacket seq).1.prevSeq = seq := by
      have hnat := (newPacket_ahead h.inRange h.pos hle hlt).2
      rw [if_pos hnear] at hnat
      exact UInt16.toNat_inj.mp hnat
    have hnext := ih (newPacket_trailing h).1 (hprev.symm ▸ hrest)
    rw [hprev] at hnext
    cases pre with
    | nil => exact hnext
    | cons seq' pre => exact hnext

end Frame

/-! ### From frame to frame -/

section Frames

variable {s : SplitStrategyBySeq}

/-- The lowest number of a frame comes first. -/
theorem SeqFrame.seqs_eq (f : SeqFrame) :
    ∃ first rest, f.seqs = first :: rest ∧ 1 ≤ first.toNat ∧ first.toNat ≤ RANGE := by
  obtain ⟨low, hmem, hlow⟩ := f.low
  have hinc := f.increasing
  have hnumbered := f.numbered
  cases hseqs : f.seqs with
  | nil =>
    rw [hseqs] at hmem
    exact absurd hmem List.not_mem_nil
  | cons first rest =>
    rw [hseqs] at hmem hinc hnumbered
    have hone := (hnumbered first List.mem_cons_self).1
    refine ⟨first, rest, rfl, hone, ?_⟩
    rcases List.mem_cons.mp hmem with rfl | hrest
    · exact hlow
    · have hlt := UInt16.lt_iff_toNat_lt.mp ((List.pairwise_cons.mp hinc).1 low hrest)
      omega

/-- Between two frames: nothing was delivered yet, or the previous number is high. -/
def Ready (s : SplitStrategyBySeq) : Prop :=
  s.InRange ∧ (s.prevSeq.toNat = 0 ∨ 2 * RANGE + 1 < s.prevSeq.toNat)

/-- The first packet of a frame splits, unless it is the very first one. -/
theorem newPacket_first (h : Ready s) {first : UInt16} {rest : List UInt16} {f : SeqFrame}
    (hf : f.seqs = first :: rest) :
    ((s.newPacket first).2 = true ↔ s.prevSeq.toNat ≠ 0) ∧
      (s.newPacket first).1.prevSeq = first ∧ Trailing (s.newPacket first).1 rest := by
  have hrange : RANGE = 10 := rfl
  obtain ⟨first', rest', hf', hone, hlow⟩ := f.seqs_eq
  obtain ⟨rfl, rfl⟩ := List.cons.inj (hf.symm.trans hf')
  obtain ⟨hsplit, hprev⟩ := newPacket_eq h.1 first
  have htaken : (s.newPacket first).1.prevSeq = first := by
    apply UInt16.toNat_inj.mp
    rw [hprev, nextSeq_toNat]
    rcases h.2 with hzero | hhigh
    · rw [hzero]
      split_ifs <;> omega
    · rw [if_pos (by omega)]
  have hinc := f.increasing
  rw [hf] at hinc
  obtain ⟨hfirst, hrest⟩ := List.pairwise_cons.mp hinc
  refine ⟨?_, htaken, ?_⟩
  · rw [hsplit, decide_eq_true_iff, UInt16.lt_iff_toNat_lt, safeMin_toNat]
    rcases h.2 with hzero | hhigh <;> omega
  · constructor
    · exact newPacket_inRange s first
    · rw [htaken]
      exact hone
    · intro seq hseq
      have hbounds := f.numbered seq (hf ▸ List.mem_cons_of_mem _ hseq)
      have hlt : first.toNat < seq.toNat := UInt16.lt_iff_toNat_lt.mp (hfirst seq hseq)
      have hn := f.n_lt
      rw [htaken]
      omega
    · exact hrest

/-- **Behind a followed frame the previous number is high.** -/
theorem feed_ready (h : Ready s) (f : FollowedFrame) :
    Ready (feed SplitStrategyBySeq.newPacket f.seqs s).1 ∧
      2 * RANGE + 1 < (feed SplitStrategyBySeq.newPacket f.seqs s).1.prevSeq.toNat := by
  obtain ⟨first, rest, hf, hone, hlow⟩ := f.seqs_eq
  obtain ⟨-, htaken, htrail⟩ := newPacket_first h hf
  obtain ⟨pre, seq, post, hseqs, hhigh, hchain⟩ := f.followed
  cases pre with
  | nil =>
    -- the first number is low
    obtain ⟨rfl, -⟩ := List.cons.inj (hf.symm.trans hseqs)
    have hrange : RANGE = 10 := rfl
    omega
  | cons first' pre =>
    obtain ⟨rfl, hrest⟩ := List.cons.inj (hf.symm.trans hseqs)
    have hsplit : rest = (pre ++ [seq]) ++ post := hrest.trans (List.append_cons pre seq post)
    rw [hsplit] at htrail
    have hreached := feed_followed htrail.of_append (htaken.symm ▸ hchain)
    rw [List.getLastD_concat] at hreached
    obtain ⟨hend, -⟩ := feed_trailing htrail
    rw [← List.append_nil post] at hend
    obtain ⟨hend, hle⟩ := feed_trailing hend
    rw [hreached] at hle
    have hfeed : (feed SplitStrategyBySeq.newPacket f.seqs s).1 =
        (feed SplitStrategyBySeq.newPacket post (feed SplitStrategyBySeq.newPacket (pre ++ [seq])
          (s.newPacket first).1).1).1 := by
      rw [← feed_append, ← hsplit, hf]
      rfl
    rw [hfeed]
    exact ⟨⟨hend.inRange, .inr (Nat.lt_of_lt_of_le hhigh hle)⟩, Nat.lt_of_lt_of_le hhigh hle⟩

theorem init_ready : Ready .init := ⟨init_inRange, .inl rfl⟩

theorem feedFrames_ready (frames : List FollowedFrame) :
    Ready (feedFrames (frames.map FollowedFrame.toSeqFrame) []) ∧
      ((feedFrames (frames.map FollowedFrame.toSeqFrame) []).prevSeq.toNat ≠ 0 ↔ frames ≠ []) := by
  have hfeed : ∀ (frames : List FollowedFrame) (s : SplitStrategyBySeq), Ready s →
      Ready (feed SplitStrategyBySeq.newPacket (frames.flatMap fun f => f.seqs) s).1 ∧
        (frames ≠ [] → (feed SplitStrategyBySeq.newPacket (frames.flatMap fun f => f.seqs)
          s).1.prevSeq.toNat ≠ 0) := by
    intro frames
    induction frames with
    | nil => exact fun s h => ⟨h, fun hne => absurd rfl hne⟩
    | cons f frames ih =>
      intro s h
      obtain ⟨hready, hhigh⟩ := feed_ready h f
      rw [List.flatMap_cons, feed_append]
      obtain ⟨hend, hne⟩ := ih _ hready
      refine ⟨hend, fun _ => ?_⟩
      cases frames with
      | nil =>
        have hpos := Nat.ne_of_gt (Nat.lt_of_le_of_lt (Nat.zero_le _) hhigh)
        exact hpos
      | cons f' frames => exact hne (List.cons_ne_nil f' frames)
  have hmap : ∀ frames : List FollowedFrame,
      (frames.map FollowedFrame.toSeqFrame).flatMap SeqFrame.seqs =
        frames.flatMap fun f => f.seqs := fun frames => List.flatMap_map ..
  obtain ⟨hready, hne⟩ := hfeed frames .init init_ready
  unfold feedFrames
  rw [hmap, List.append_nil]
  refine ⟨hready, fun hzero => ?_, hne⟩
  rintro rfl
  exact hzero rfl

/-- **Behind followed frames, a frame is split from them at its first packet, and nowhere
else.** -/
theorem splits_iff (frames : List FollowedFrame) (f : SeqFrame) (pre post : List UInt16)
    (seq : UInt16) (hf : f.seqs = pre ++ seq :: post) :
    SplitsOk (frames.map FollowedFrame.toSeqFrame) pre seq := by
  obtain ⟨hready, hne⟩ := feedFrames_ready frames
  have hframes : frames.map FollowedFrame.toSeqFrame ≠ [] ↔ frames ≠ [] := by
    rw [ne_eq, List.map_eq_nil_iff]
  unfold SplitsOk
  rw [hframes]
  cases pre with
  | nil =>
    rw [(newPacket_first hready hf).1, hne]
    exact (and_iff_left rfl).symm
  | cons first pre =>
    have hfeed : feedFrames (frames.map FollowedFrame.toSeqFrame) (first :: pre) =
        (feed SplitStrategyBySeq.newPacket pre
          ((feedFrames (frames.map FollowedFrame.toSeqFrame) []).newPacket first).1).1 := by
      unfold feedFrames
      rw [List.append_nil, feed_append]
      rfl
    have htrail := (newPacket_first hready hf).2.2
    obtain ⟨hrest, -⟩ := feed_trailing htrail
    obtain ⟨-, hquiet, -⟩ := newPacket_trailing hrest
    rw [hfeed, hquiet]
    simp

/-- What is delivered of a frame with 1 and 22 only. -/
def gapFrame : SeqFrame :=
  ⟨22, [1, 22], by decide, by simp, by decide, by decide, by decide⟩

/-- Behind a gap of 20 numbers the next frame is not split. -/
theorem splits_behind_gap : ¬ ∀ (frames : List SeqFrame) (f : SeqFrame) (pre post : List UInt16)
    (seq : UInt16), f.seqs = pre ++ seq :: post → SplitsOk frames pre seq := by
  intro hall
  have hsplit := (hall [gapFrame] gapFrame [] [22] 1 rfl).mpr ⟨List.cons_ne_nil _ _, rfl⟩
  exact absurd hsplit (by decide)

/-- What is delivered of a frame with every tenth number. -/
def sparseFrame : FollowedFrame :=
  ⟨⟨30, [3, 13, 23, 30], by decide, by simp, by decide, by decide, by decide⟩,
    ⟨[3, 13], 23, [30], by decide⟩⟩

theorem splits_sparseFrame : SplitsOk [sparseFrame.toSeqFrame] [] 3 :=
  splits_iff [sparseFrame] sparseFrame.toSeqFrame [] [13, 23, 30] 3 rfl

end Frames

end Rs
end SensorSupport
