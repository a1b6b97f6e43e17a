/-
# Splitting frames (`rs_driver/driver/decoder/split_strategy.hpp`)

A splitter says where a frame ends. It is given the azimuth of each block and
compares it with the split angle (`SplitStrategyByAngle`) or counts the blocks
(`SplitStrategyByNum`); or it is given the sequence number of each packet and
waits for it to go back (`SplitStrategyBySeq`).

Fed with a list of blocks, a count is the count of the list modulo the frame, and
what an angle was before the first block does not matter behind it.

Key definitions: `SplitStrategy.newBlock`, `SplitStrategyBySeq.newPacket`.
Key theorems: `feed_byNum`, `feedFirst_byNum`, `feed_byAngle`, `newPacket_eq`.
-/
import Mathlib.Algebra.Order.Group.Int
import SensorSupport.Lib.Detector

namespace SensorSupport
namespace Rs

open Detector

/-- `SplitStrategyByAngle`. -/
structure SplitStrategyByAngle where
  splitAngle : ℤ
  prevAngle : ℤ
deriving DecidableEq

/-- A block crosses the split angle. -/
def SplitStrategyByAngle.newBlock (s : SplitStrategyByAngle) (angle : ℤ) :
    SplitStrategyByAngle × Bool :=
  let prevAngle := if angle < s.prevAngle then s.prevAngle - 36000 else s.prevAngle
  let v := decide (prevAngle < s.splitAngle ∧ s.splitAngle ≤ angle)
  ({ s with prevAngle := angle }, v)

/-- The variable that `max_blks_` points to. -/
inductive MaxBlks
  | splitBlksPerFrame
  | numBlksSplit
deriving DecidableEq

/-- `SplitStrategyByNum`. -/
structure SplitStrategyByNum where
  maxBlks : MaxBlks
  blks : UInt16
deriving DecidableEq

/-- A block completes a frame of `max` blocks. -/
def SplitStrategyByNum.newBlock (max : UInt16) (s : SplitStrategyByNum) :
    SplitStrategyByNum × Bool :=
  let blks := s.blks + 1
  if max ≤ blks then ({ s with blks := 0 }, true) else ({ s with blks := blks }, false)

/-- `SplitStrategy`. -/
inductive SplitStrategy
  | byAngle (s : SplitStrategyByAngle)
  | byNum (s : SplitStrategyByNum)
deriving DecidableEq

/-- `newBlock`, where `deref` reads the variable that `max_blks_` points to. -/
def SplitStrategy.newBlock (deref : MaxBlks → UInt16) : SplitStrategy → ℤ → SplitStrategy × Bool
  | .byAngle s, angle =>
    let r := s.newBlock angle
    (.byAngle r.1, r.2)
  | .byNum s, _ =>
    let r := s.newBlock (deref s.maxBlks)
    (.byNum r.1, r.2)

/-- `SplitStrategyBySeq`. -/
structure SplitStrategyBySeq where
  prevSeq : UInt16
  safeSeqMin : UInt16
  safeSeqMax : UInt16
  maxSeq : UInt16
  looped : Bool
deriving DecidableEq

/-- The lowest number that is not taken for a rewind. -/
def safeMin (prevSeq : UInt16) : UInt16 := if 10 < prevSeq then prevSeq - 10 else 0

def SplitStrategyBySeq.setSafeRange (s : SplitStrategyBySeq) : SplitStrategyBySeq :=
  { s with safeSeqMin := safeMin s.prevSeq, safeSeqMax := s.prevSeq + 10 }

/-- The constructor. -/
def SplitStrategyBySeq.init : SplitStrategyBySeq :=
  SplitStrategyBySeq.setSafeRange ⟨0, 0, 0, 0, false⟩

/-- The branches of `newPacket`: a rewind, a number behind, one in the safe range,
and one ahead of it. -/
def SplitStrategyBySeq.follow (s : SplitStrategyBySeq) (seq : UInt16) : SplitStrategyBySeq × Bool :=
  if seq < s.safeSeqMin then ({ s with prevSeq := seq, looped := true }, true)
  else if seq < s.prevSeq then (s, false)
  else if seq ≤ s.safeSeqMax then ({ s with prevSeq := seq }, false)
  else (if s.prevSeq = 0 then { s with prevSeq := seq } else s, false)

/-- A packet rewinds the sequence numbers. -/
def SplitStrategyBySeq.newPacket (s : SplitStrategyBySeq) (seq : UInt16) :
    SplitStrategyBySeq × Bool :=
  let s := if s.maxSeq < seq then { s with maxSeq := seq } else s
  let r := s.follow seq
  (r.1.setSafeRange, r.2)

/-- `maxSeq`. -/
def SplitStrategyBySeq.highest (s : SplitStrategyBySeq) : UInt16 :=
  if s.looped then s.maxSeq else 0

/-! ### By number -/

section ByNum

variable (deref : MaxBlks → UInt16) {s : SplitStrategyByNum}

/-- The number of blocks in a frame: a limit of 0 splits at every block, as 1 does. -/
def frameBlks (deref : MaxBlks → UInt16) (s : SplitStrategyByNum) : ℕ :=
  max (deref s.maxBlks).toNat 1

/-- The number of blocks up to the one that ends the frame. -/
def leftBlks (deref : MaxBlks → UInt16) (s : SplitStrategyByNum) : ℕ :=
  max ((deref s.maxBlks).toNat - s.blks.toNat) 1

theorem leftBlks_pos (s : SplitStrategyByNum) : 0 < leftBlks deref s :=
  Nat.lt_of_lt_of_le Nat.one_pos (Nat.le_max_right _ _)

/-- A block ends the frame or counts towards its end. -/
theorem newBlock_byNum (hblks : s.blks.toNat < 65535) (angle : ℤ) :
    ∃ s', SplitStrategy.newBlock deref (.byNum s) angle =
        (.byNum s', decide (leftBlks deref s = 1)) ∧
      s'.maxBlks = s.maxBlks ∧ s'.blks.toNat < 65535 ∧
      s'.blks.toNat = (if leftBlks deref s = 1 then 0 else s.blks.toNat + 1) ∧
      leftBlks deref s' =
        if leftBlks deref s = 1 then frameBlks deref s else leftBlks deref s - 1 := by
  have hmax := (deref s.maxBlks).toNat_lt
  have hsum : (s.blks + 1).toNat = s.blks.toNat + 1 := by
    rw [UInt16.toNat_add, UInt16.toNat_one]
    omega
  unfold leftBlks frameBlks
  by_cases hfull : deref s.maxBlks ≤ s.blks + 1
  · have hle := UInt16.le_iff_toNat_le.mp hfull
    have hone : max ((deref s.maxBlks).toNat - s.blks.toNat) 1 = 1 := by omega
    refine ⟨{ s with blks := 0 }, ?_, rfl, Nat.zero_lt_succ _, ?_, ?_⟩
    · simp only [SplitStrategy.newBlock, SplitStrategyByNum.newBlock, if_pos hfull]
      rw [decide_eq_true hone]
    · rw [if_pos hone]
      rfl
    · rw [if_pos hone]
      rfl
  · have hlt : ¬ (deref s.maxBlks).toNat ≤ (s.blks + 1).toNat := fun hle =>
      hfull (UInt16.le_iff_toNat_le.mpr hle)
    have hmore : max ((deref s.maxBlks).toNat - s.blks.toNat) 1 ≠ 1 := by omega
    refine ⟨{ s with blks := s.blks + 1 }, ?_, rfl, ?_, ?_, ?_⟩
    · simp only [SplitStrategy.newBlock, SplitStrategyByNum.newBlock, if_neg hfull]
      rw [decide_eq_false hmore]
    · change (s.blks + 1).toNat < 65535
      omega
    · rw [if_neg hmore]
      exact hsum
    · rw [if_neg hmore]
      change max ((deref s.maxBlks).toNat - (s.blks + 1).toNat) 1 = _
      omega

theorem frameBlks_congr {t : SplitStrategyByNum} (h : t.maxBlks = s.maxBlks) :
    frameBlks deref t = frameBlks deref s := by
  unfold frameBlks
  rw [h]

/-- A list of blocks is counted modulo the frame from the first end on. -/
theorem feed_byNum (hblks : s.blks.toNat < 65535) (angles : List ℤ) :
    ∃ s', feed (SplitStrategy.newBlock deref) angles (.byNum s) =
        (.byNum s', decide (leftBlks deref s ≤ angles.length)) ∧
      s'.maxBlks = s.maxBlks ∧ s'.blks.toNat < 65535 ∧
      s'.blks.toNat = if leftBlks deref s ≤ angles.length then
          (angles.length - leftBlks deref s) % frameBlks deref s
        else s.blks.toNat + angles.length := by
  induction angles generalizing s with
  | nil =>
    have hpos := leftBlks_pos deref s
    refine ⟨s, ?_, rfl, hblks, ?_⟩
    · rw [List.length_nil, decide_eq_false (by omega)]
      rfl
    · rw [List.length_nil, if_neg (by omega)]
      rfl
  | cons angle angles ih =>
    have hpos := leftBlks_pos deref s
    obtain ⟨s₁, hstep, hmax₁, hlt₁, hblks₁, hleft₁⟩ := newBlock_byNum deref hblks angle
    obtain ⟨s₂, hrest, hmax₂, hlt₂, hblks₂⟩ := ih hlt₁
    refine ⟨s₂, ?_, hmax₂.trans hmax₁, hlt₂, ?_⟩
    · rw [feed_cons, hstep, hrest, hleft₁, List.length_cons, ← Bool.decide_or]
      congr 1
      rw [decide_eq_decide]
      split <;> omega
    · rw [hblks₂, hleft₁, hblks₁, frameBlks_congr deref hmax₁, List.length_cons]
      by_cases hone : leftBlks deref s = 1
      · rw [hone, if_pos rfl, if_pos rfl, Nat.zero_add, Nat.add_sub_cancel,
          if_pos (Nat.le_add_left 1 angles.length)]
        split
        · exact (Nat.mod_eq_sub_mod ‹_›).symm
        · exact (Nat.mod_eq_of_lt (Nat.lt_of_not_le ‹_›)).symm
      · rw [if_neg hone, if_neg hone]
        by_cases hend : leftBlks deref s ≤ angles.length + 1
        · rw [if_pos hend, if_pos (by omega)]
          congr 1
          omega
        · rw [if_neg hend, if_neg (by omega)]
          omega

/-- Up to the end of a frame, the count starts again there. -/
theorem feedFirst_byNum (hblks : s.blks.toNat < 65535) (angles : List ℤ) :
    ∃ s', (feedFirst (SplitStrategy.newBlock deref) angles (.byNum s)).1 = .byNum s' ∧
      s'.maxBlks = s.maxBlks ∧
      s'.blks.toNat = if leftBlks deref s ≤ angles.length then 0
        else s.blks.toNat + angles.length := by
  induction angles generalizing s with
  | nil =>
    have hpos := leftBlks_pos deref s
    refine ⟨s, rfl, rfl, ?_⟩
    rw [List.length_nil, if_neg (by omega)]
    rfl
  | cons angle angles ih =>
    have hpos := leftBlks_pos deref s
    obtain ⟨s₁, hstep, hmax₁, hlt₁, hblks₁, hleft₁⟩ := newBlock_byNum deref hblks angle
    rw [List.length_cons]
    by_cases hone : leftBlks deref s = 1
    · have hfire : (SplitStrategy.newBlock deref (.byNum s) angle).2 = true := by
        rw [hstep]
        exact decide_eq_true hone
      rw [feedFirst_fire hfire, hstep]
      refine ⟨s₁, rfl, hmax₁, ?_⟩
      rw [hblks₁, if_pos hone, if_pos (by omega)]
    · have hquiet : (SplitStrategy.newBlock deref (.byNum s) angle).2 = false := by
        rw [hstep]
        exact decide_eq_false hone
      obtain ⟨s₂, hrest, hmax₂, hblks₂⟩ := ih hlt₁
      rw [feedFirst_quiet hquiet, hstep]
      refine ⟨s₂, hrest, hmax₂.trans hmax₁, ?_⟩
      rw [hblks₂, hleft₁, hblks₁, if_neg hone, if_neg hone]
      split <;> split <;> omega

end ByNum

/-! ### By angle -/

section ByAngle

variable (deref : MaxBlks → UInt16) {s t : SplitStrategyByAngle}

/-- Behind a list of blocks the split angle is the same. -/
theorem feed_byAngle (s : SplitStrategyByAngle) (angles : List ℤ) :
    ∃ s', (feed (SplitStrategy.newBlock deref) angles (.byAngle s)).1 = .byAngle s' ∧
      s'.splitAngle = s.splitAngle := by
  induction angles generalizing s with
  | nil => exact ⟨s, rfl, rfl⟩
  | cons angle angles ih => exact ih _

theorem feedFirst_byAngle (s : SplitStrategyByAngle) (angles : List ℤ) :
    ∃ s', (feedFirst (SplitStrategy.newBlock deref) angles (.byAngle s)).1 = .byAngle s' ∧
      s'.splitAngle = s.splitAngle := by
  induction angles generalizing s with
  | nil => exact ⟨s, rfl, rfl⟩
  | cons angle angles ih =>
    cases hfire : (SplitStrategy.newBlock deref (.byAngle s) angle).2 with
    | true =>
      rw [feedFirst_fire hfire]
      exact ⟨_, rfl, rfl⟩
    | false =>
      rw [feedFirst_quiet hfire]
      exact ih _

/-- The number of blocks in a frame does not matter. -/
theorem feed_byAngle_congr (deref' : MaxBlks → UInt16) (angles : List ℤ) :
    feed (SplitStrategy.newBlock deref) angles (.byAngle s) =
      feed (SplitStrategy.newBlock deref') angles (.byAngle s) := by
  induction angles generalizing s with
  | nil => rfl
  | cons angle angles ih =>
    rw [feed_cons, feed_cons]
    simp only [SplitStrategy.newBlock, ih]

/-- Two splitters agree on whether there is a split when they do on the first block, or
when a later block makes one. -/
theorem feed_byAngle_fires (hangle : s.splitAngle = t.splitAngle) {angles : List ℤ} :
    (feed (SplitStrategy.newBlock deref) angles (.byAngle s)).2 =
        (feed (SplitStrategy.newBlock deref) angles (.byAngle t)).2 ↔
      ∀ angle ∈ angles.head?, (s.newBlock angle).2 = (t.newBlock angle).2 ∨
        (feed (SplitStrategy.newBlock deref) angles.tail (.byAngle (s.newBlock angle).1)).2 =
          true := by
  cases angles with
  | nil => exact ⟨fun _ _ hnone => (nomatch hnone), fun _ => rfl⟩
  | cons angle angles =>
    -- behind the first block both are in the same state
    have hstate : (s.newBlock angle).1 = (t.newBlock angle).1 := by
      simp only [SplitStrategyByAngle.newBlock, hangle]
    have hhead : ∀ b, b ∈ (angle :: angles).head? ↔ b = angle := by
      intro b
      rw [List.head?_cons, Option.mem_some_iff, eq_comm]
    rw [feed_cons, feed_cons]
    simp only [hhead, forall_eq, List.tail_cons, SplitStrategy.newBlock, ← hstate]
    cases (feed (SplitStrategy.newBlock deref) angles (.byAngle (s.newBlock angle).1)).2 with
    | true => simp
    | false => simp

end ByAngle

/-! ### By sequence number -/

section BySeq

variable {s : SplitStrategyBySeq} {seq : UInt16}

/-- The safe range belongs to the previous number. -/
def SplitStrategyBySeq.InRange (s : SplitStrategyBySeq) : Prop :=
  s.safeSeqMin = safeMin s.prevSeq ∧ s.safeSeqMax = s.prevSeq + 10

/-- The previous number behind a packet. -/
def nextSeq (prevSeq seq : UInt16) : UInt16 :=
  if seq < safeMin prevSeq then seq
  else if seq < prevSeq then prevSeq
  else if seq ≤ prevSeq + 10 then seq
  else if prevSeq = 0 then seq
  else prevSeq

theorem safeMin_toNat (prevSeq : UInt16) : (safeMin prevSeq).toNat = prevSeq.toNat - 10 := by
  unfold safeMin
  split
  · have hlt : (10 : UInt16).toNat < prevSeq.toNat := UInt16.lt_iff_toNat_lt.mp ‹_›
    rw [UInt16.toNat_sub_of_le _ _ (UInt16.le_iff_toNat_le.mpr (Nat.le_of_lt hlt))]
    rfl
  · have hle : prevSeq.toNat ≤ (10 : UInt16).toNat :=
      Nat.le_of_not_lt fun hlt => ‹¬ _› (UInt16.lt_iff_toNat_lt.mpr hlt)
    exact (Nat.sub_eq_zero_of_le hle).symm

theorem nextSeq_toNat (prevSeq seq : UInt16) : (nextSeq prevSeq seq).toNat =
    if seq.toNat < prevSeq.toNat - 10 then seq.toNat
    else if seq.toNat < prevSeq.toNat then prevSeq.toNat
    else if seq.toNat ≤ (prevSeq.toNat + 10) % 65536 then seq.toNat
    else if prevSeq.toNat = 0 then seq.toNat
    else prevSeq.toNat := by
  have hmax : (prevSeq + 10).toNat = (prevSeq.toNat + 10) % 65536 := UInt16.toNat_add _ _
  have hzero : prevSeq = 0 ↔ prevSeq.toNat = 0 := UInt16.toNat_inj.symm
  unfold nextSeq
  simp only [UInt16.lt_iff_toNat_lt, UInt16.le_iff_toNat_le, safeMin_toNat, hmax, hzero]
  split_ifs <;> rfl

theorem init_inRange : SplitStrategyBySeq.init.InRange := ⟨rfl, rfl⟩

theorem newPacket_inRange (s : SplitStrategyBySeq) (seq : UInt16) :
    (s.newPacket seq).1.InRange := ⟨rfl, rfl⟩

theorem follow_eq (h : s.InRange) (seq : UInt16) :
    (s.follow seq).2 = decide (seq < safeMin s.prevSeq) ∧
      (s.follow seq).1.prevSeq = nextSeq s.prevSeq seq := by
  obtain ⟨hmin, hmax⟩ := h
  unfold SplitStrategyBySeq.follow nextSeq
  rw [hmin, hmax]
  by_cases hlow : seq < safeMin s.prevSeq
  · rw [if_pos hlow, if_pos hlow, decide_eq_true hlow]
    exact ⟨rfl, rfl⟩
  · rw [if_neg hlow, if_neg hlow, decide_eq_false hlow]
    split
    · exact ⟨rfl, rfl⟩
    · split
      · exact ⟨rfl, rfl⟩
      · split <;> exact ⟨rfl, rfl⟩

/-- A packet splits below the safe range, and only the previous number decides. -/
theorem newPacket_eq (h : s.InRange) (seq : UInt16) :
    (s.newPacket seq).2 = decide (seq < safeMin s.prevSeq) ∧
      (s.newPacket seq).1.prevSeq = nextSeq s.prevSeq seq := by
  unfold SplitStrategyBySeq.newPacket
  by_cases hnew : s.maxSeq < seq
  · have hraised : SplitStrategyBySeq.InRange { s with maxSeq := seq } := h
    simp only [if_pos hnew]
    exact follow_eq hraised seq
  · simp only [if_neg hnew]
    exact follow_eq h seq

end BySeq

end Rs
end SensorSupport
