/-
# `isNewFrame` and `decodeMsopPkt` (`rs_driver/driver/decoder/decoder.hpp`)

For every packet `isNewFrame` says whether a frame begins in it, and `decodeMsopPkt`
whether it split a frame; each has a splitter of its own. The two stay in step when
every packet leaves them so, and then they say the same of all packets.

A packet does not in which a counted frame ends before the last block, as
`isNewFrame` does not count the rest (`newFrame_ne_split`). Nor do packets of which
one loop reads more than the other: those of RSAIRY and RSFAIRY with an id that is
half wrong, those of a surface that RSEMX does not have, and nearly all of
RSM1_Jumbo, of whose 63 numbers `isNewFrame` reads one. By angle all is well as long as
the azimuths go forward (`newFrame_eq_split_forward`).

Key definitions: `InStep`, `BlocksAlike`, `GoForward`, `SplitsAlike`, `SeqAlike`.
Key theorems: `newFrame_eq_split`, `newFrame_eq_split_forward`, `newFrame_ne_split`.
-/
import SensorSupport.Lib.Run
import SensorSupport.Rs.AzimuthCircle
import SensorSupport.Rs.MechDecoder
import SensorSupport.Rs.SeqDecoder

namespace SensorSupport
namespace Rs

open Detector

variable {P : Type}

/-! ### Splitters of blocks -/

/-- The splitters of the decoder and of `isNewFrame` count alike, or have the same
split angle. -/
def InStep : SplitStrategy → SplitStrategy → Prop
  | .byAngle s, .byAngle t => s.splitAngle = t.splitAngle
  | .byNum s, .byNum t => s = t ∧ s.blks.toNat < 65535
  | _, _ => False

/-- Blocks that both are given. By number, no frame ends among them, or one does for
both and the last block is the end of one for the decoder. By angle, the first block
crosses the split angle for both or for none, or a later one does. The frame may have
another length for the decoder (`deref`) than for `isNewFrame` (`deref'`). -/
def BlocksAlike (deref deref' : MaxBlks → UInt16) (angles : List ℤ) :
    SplitStrategy → SplitStrategy → Prop
  | .byNum s, _ =>
    angles.length < min (leftBlks deref s) (leftBlks deref' s) ∨
      leftBlks deref' s ≤ angles.length ∧ leftBlks deref s ≤ angles.length ∧
        frameBlks deref s ∣ angles.length - leftBlks deref s
  | .byAngle s, .byAngle t =>
    ∀ angle ∈ angles.head?, (s.newBlock angle).2 = (t.newBlock angle).2 ∨
      (feed (SplitStrategy.newBlock deref) angles.tail (.byAngle (s.newBlock angle).1)).2 = true
  | _, _ => True

section Blocks

variable {deref deref' : MaxBlks → UInt16} {angles : List ℤ}

theorem inStep_makeStrategy (param : RSDecoderParam) :
    InStep param.makeStrategy param.makeStrategy := by
  unfold RSDecoderParam.makeStrategy
  split
  · exact ⟨rfl, Nat.zero_lt_succ _⟩
  · exact ⟨rfl, Nat.zero_lt_succ _⟩
  · rfl

/-- Counting: both say the same, and count the same behind the blocks. -/
theorem inStep_byNum {s : SplitStrategyByNum} (hblks : s.blks.toNat < 65535)
    (halike : BlocksAlike deref deref' angles (.byNum s) (.byNum s)) :
    (feedFirst (SplitStrategy.newBlock deref') angles (.byNum s)).2 =
        (feed (SplitStrategy.newBlock deref) angles (.byNum s)).2 ∧
      InStep (feed (SplitStrategy.newBlock deref) angles (.byNum s)).1
        (feedFirst (SplitStrategy.newBlock deref') angles (.byNum s)).1 := by
  obtain ⟨s₁, hfeed, hmax₁, hlt₁, hblks₁⟩ := feed_byNum deref hblks angles
  obtain ⟨s₂, hfeed', -⟩ := feed_byNum deref' hblks angles
  obtain ⟨s₃, hfirst, hmax₃, hblks₃⟩ := feedFirst_byNum deref' hblks angles
  have hcount : decide (leftBlks deref' s ≤ angles.length) =
      decide (leftBlks deref s ≤ angles.length) ∧ s₁.blks.toNat = s₃.blks.toNat := by
    rw [hblks₁, hblks₃, decide_eq_decide]
    rcases halike with hnone | ⟨hend', hend, hlast⟩
    · rw [if_neg (by omega), if_neg (by omega)]
      omega
    · rw [if_pos hend, if_pos hend', Nat.mod_eq_zero_of_dvd hlast]
      omega
  have hstate : s₁ = s₃ := by
    obtain ⟨max₁, blks₁⟩ := s₁
    obtain ⟨max₃, blks₃⟩ := s₃
    have hmax : max₁ = max₃ := hmax₁.trans hmax₃.symm
    have hblks : blks₁ = blks₃ := UInt16.toNat_inj.mp hcount.2
    rw [hmax, hblks]
  rw [feedFirst_fires, hfeed, hfeed', hfirst]
  exact ⟨hcount.1, hstate, hlt₁⟩

/-- Blocks that are alike for both are said the same of, and keep them in step. -/
theorem InStep.feed {s t : SplitStrategy} (h : InStep s t)
    (halike : BlocksAlike deref deref' angles s t) :
    (feedFirst (SplitStrategy.newBlock deref') angles t).2 =
        (feed (SplitStrategy.newBlock deref) angles s).2 ∧
      InStep (feed (SplitStrategy.newBlock deref) angles s).1
        (feedFirst (SplitStrategy.newBlock deref') angles t).1 := by
  match s, t with
  | .byNum s, .byNum t =>
    obtain ⟨rfl, hblks⟩ := h
    exact inStep_byNum hblks halike
  | .byAngle s, .byAngle t =>
    have hangle : s.splitAngle = t.splitAngle := h
    obtain ⟨s₁, hfeed, hs₁⟩ := feed_byAngle deref s angles
    obtain ⟨t₁, hfirst, ht₁⟩ := feedFirst_byAngle deref' t angles
    constructor
    · rw [feedFirst_fires, feed_byAngle_congr deref' deref]
      exact ((feed_byAngle_fires deref hangle).mpr halike).symm
    · rw [hfeed, hfirst]
      exact hs₁.trans (hangle.trans ht₁.symm)

end Blocks

/-! ### Azimuths that go forward -/

section Azimuths

open SensorSupport.Circle

variable {deref deref' : MaxBlks → UInt16} {s t : SplitStrategyByAngle} {angle : ℤ}

/-- An azimuth of less than a round. -/
def IsReduced (angle : ℤ) : Prop := 0 ≤ angle ∧ angle < RS_ONE_ROUND

/-- The blocks go on from those before, by less than a round: none goes back, and no round is
lost between the block at which `isNewFrame` returned and the last one of the packet. -/
def GoForward (angles : List ℤ) (s t : SplitStrategyByAngle) : Prop :=
  (∀ angle ∈ angles, IsReduced angle) ∧
    forward RS_ONE_ROUND t.prevAngle s.prevAngle + sweep RS_ONE_ROUND s.prevAngle angles <
      RS_ONE_ROUND

/-- The splitter of `isNewFrame` waits behind a block that came after the split angle, and not
after the one behind which the splitter of the decoder waits. -/
structure Trails (s t : SplitStrategyByAngle) : Prop where
  splitAngle : s.splitAngle = t.splitAngle
  splitReduced : IsReduced s.splitAngle
  prevReduced : IsReduced s.prevAngle
  preReduced : IsReduced t.prevAngle
  behind : forward RS_ONE_ROUND s.splitAngle t.prevAngle ≤
    forward RS_ONE_ROUND s.splitAngle s.prevAngle

theorem one_round_pos : 0 < RS_ONE_ROUND := by decide

/-- A block splits when it comes behind the split angle sooner than the previous one did. -/
theorem newBlock_sooner (hsplit : IsReduced s.splitAngle) (hprev : IsReduced s.prevAngle)
    (hangle : IsReduced angle) : (s.newBlock angle).2 = true ↔ s.splitAngle ≤ angle ∧
      forward RS_ONE_ROUND s.splitAngle angle <
        forward RS_ONE_ROUND s.splitAngle s.prevAngle := by
  obtain ⟨split, prev⟩ := s
  obtain ⟨hsplit₀, hsplit⟩ := hsplit
  obtain ⟨hprev₀, hprev⟩ := hprev
  obtain ⟨hangle₀, hangle⟩ := hangle
  dsimp only at hsplit₀ hsplit hprev₀ hprev ⊢
  rw [newBlock_crosses]
  rcases lt_or_ge angle split with hbefore | hbehind
  · omega
  · rw [forward_of_le hsplit₀ hangle hbehind]
    rcases lt_or_ge prev split with hless | hmore
    · rw [forward_of_lt hsplit hprev₀ hless]
      split <;> omega
    · rw [forward_of_le hsplit₀ hprev hmore]
      split <;> omega

/-- The decoder goes on, and stays ahead of what it was ahead of. -/
theorem feed_ahead (deref : MaxBlks → UInt16) (pre : ℤ) : ∀ (angles : List ℤ)
    (s : SplitStrategyByAngle),
    IsReduced s.prevAngle → (∀ angle ∈ angles, IsReduced angle) →
    forward RS_ONE_ROUND s.splitAngle pre ≤ forward RS_ONE_ROUND s.splitAngle s.prevAngle →
    forward RS_ONE_ROUND s.splitAngle s.prevAngle + sweep RS_ONE_ROUND s.prevAngle angles <
      RS_ONE_ROUND →
    ∃ s', (feed (SplitStrategy.newBlock deref) angles (.byAngle s)).1 = .byAngle s' ∧
      s'.splitAngle = s.splitAngle ∧ IsReduced s'.prevAngle ∧
      forward RS_ONE_ROUND s.splitAngle pre ≤ forward RS_ONE_ROUND s.splitAngle s'.prevAngle
  | [], s, hprev, _, hpre, _ => ⟨s, rfl, rfl, hprev, hpre⟩
  | angle :: angles, s, _, hangles, hpre, hsweep => by
    obtain ⟨hangle, hrest⟩ := List.forall_mem_cons.mp hangles
    have hnext := forward_add_cases (n := RS_ONE_ROUND) (a := s.splitAngle) (b := s.prevAngle)
      one_round_pos angle
    have hway := forward_nonneg (n := RS_ONE_ROUND) (a := s.prevAngle) (b := angle) one_round_pos
    have hlast := sweep_nonneg one_round_pos angles angle
    have hstart := forward_nonneg (n := RS_ONE_ROUND) (a := s.splitAngle) (b := angle) one_round_pos
    rw [sweep] at hsweep
    exact feed_ahead deref pre angles (s.newBlock angle).1 hangle hrest
      (show forward RS_ONE_ROUND s.splitAngle pre ≤ forward RS_ONE_ROUND s.splitAngle angle by
        omega)
      (show forward RS_ONE_ROUND s.splitAngle angle + sweep RS_ONE_ROUND angle angles < _ by omega)

/-- The first block is said the same of by both. -/
theorem Trails.alike (h : Trails s t) {angles : List ℤ} (hforward : GoForward angles s t) :
    BlocksAlike deref deref' angles (.byAngle s) (.byAngle t) := by
  intro angle hhead
  obtain ⟨hangles, hsweep⟩ := hforward
  cases angles with
  | nil => cases hhead
  | cons first angles =>
    obtain rfl : first = angle := Option.some.inj hhead
    have hfirst := hangles first List.mem_cons_self
    left
    rw [Bool.eq_iff_iff, newBlock_sooner h.splitReduced h.prevReduced hfirst,
      newBlock_sooner (h.splitAngle ▸ h.splitReduced) h.preReduced hfirst, ← h.splitAngle]
    have hbehind := h.behind
    have hpass := forward_add_cases (n := RS_ONE_ROUND) (a := s.splitAngle) (b := t.prevAngle)
      one_round_pos s.prevAngle
    have hnext := forward_add_cases (n := RS_ONE_ROUND) (a := s.splitAngle) (b := s.prevAngle)
      one_round_pos first
    have hlt := forward_lt (n := RS_ONE_ROUND) (a := t.prevAngle) (b := s.prevAngle) one_round_pos
    have hway := forward_nonneg (n := RS_ONE_ROUND) (a := s.prevAngle) (b := first) one_round_pos
    have hlast := sweep_nonneg one_round_pos angles first
    rw [sweep] at hsweep
    omega

/-- And so it is behind the blocks. -/
theorem Trails.feed (deref deref' : MaxBlks → UInt16) : ∀ {angles : List ℤ}
    {s t : SplitStrategyByAngle}, Trails s t → GoForward angles s t →
    ∃ s' t', (feed (SplitStrategy.newBlock deref) angles (.byAngle s)).1 = .byAngle s' ∧
      (feedFirst (SplitStrategy.newBlock deref') angles (.byAngle t)).1 = .byAngle t' ∧
      Trails s' t'
  | [], s, t, h, _ => ⟨s, t, rfl, rfl, h⟩
  | angle :: angles, s, t, h, ⟨hangles, hsweep⟩ => by
    obtain ⟨hangle, hrest⟩ := List.forall_mem_cons.mp hangles
    have hlast := sweep_nonneg one_round_pos angles angle
    have hpass := forward_nonneg (n := RS_ONE_ROUND) (a := t.prevAngle) (b := s.prevAngle)
      one_round_pos
    have hnext := forward_nonneg (n := RS_ONE_ROUND) (a := s.prevAngle) (b := angle) one_round_pos
    rw [sweep] at hsweep
    cases hfire : (t.newBlock angle).2 with
    | true =>
      -- `isNewFrame` waits behind this block, and the decoder goes on from it
      have hfirst : (SplitStrategy.newBlock deref' (.byAngle t) angle).2 = true := hfire
      rw [feedFirst_fire hfirst]
      obtain ⟨-, hsooner⟩ :=
        (newBlock_sooner (h.splitAngle ▸ h.splitReduced) h.preReduced hangle).mp hfire
      rw [← h.splitAngle] at hsooner
      have hway := forward_add_cases (n := RS_ONE_ROUND) (a := t.prevAngle) (b := s.prevAngle)
        one_round_pos angle
      have hover := forward_add_cases (n := RS_ONE_ROUND) (a := s.splitAngle) (b := t.prevAngle)
        one_round_pos angle
      have hpre := forward_lt (n := RS_ONE_ROUND) (a := s.splitAngle) (b := t.prevAngle)
        one_round_pos
      have hway₀ := forward_nonneg (n := RS_ONE_ROUND) (a := t.prevAngle) (b := angle) one_round_pos
      obtain ⟨s', hfeed, hsplit, hprev, hahead⟩ := feed_ahead deref angle
        angles (s.newBlock angle).1 hangle hrest (Int.le_refl _)
        (show forward RS_ONE_ROUND s.splitAngle angle + sweep RS_ONE_ROUND angle angles < _ by
          omega)
      have hsplit : s'.splitAngle = s.splitAngle := hsplit
      refine ⟨s', (t.newBlock angle).1, hfeed, rfl, hsplit.trans h.splitAngle,
        hsplit ▸ h.splitReduced, hprev, hangle, ?_⟩
      rw [hsplit]
      exact hahead
    | false =>
      have hquiet : (SplitStrategy.newBlock deref' (.byAngle t) angle).2 = false := hfire
      rw [feedFirst_quiet hquiet]
      have hboth : Trails (s.newBlock angle).1 (t.newBlock angle).1 :=
        ⟨h.splitAngle, h.splitReduced, hangle, hangle, Int.le_refl _⟩
      refine Trails.feed deref deref' hboth ⟨hrest, ?_⟩
      change forward RS_ONE_ROUND angle angle + sweep RS_ONE_ROUND angle angles < _
      have hstay : forward RS_ONE_ROUND angle angle = 0 := by simp [forward]
      omega

end Azimuths

/-! ### Mechanical decoders -/

/-- How much of the block id `decodeMsopPkt` compares. -/
def MechType.idLen : MechType → ℕ
  | .rs16 | .rs32 | .rsbp | .rshelios | .rshelios16p => 2
  | .rs48 | .rs80 | .rs128 | .rsp48 | .rsp80 | .rsp128 => 1
  | .rsairy | .rsfairy => 2
  | .rsairyliteEth => 0

/-- One packet, for which both are called, or a DIFOP packet. -/
def mechStep (t : MechType) (param : RSDecoderParam) (s : Paired (DecoderMech P)) :
    DriverEvent P t.constParam → Option (Paired (DecoderMech P))
  | .msop pkt => some (s.ask (isNewFrame t param pkt) (decodeMsopPkt t param pkt))
  | .difop setting => some { s with state := { s.state with setting := setting } }

/-- RSAIRY and RSFAIRY: both read the same blocks, and none when there are 192
channels; and the blocks are alike for both. -/
def ModelAlike {c : RSDecoderConstParam} (getLidarModel : UInt8 → LidarModel × ℕ)
    (initialized : LidarModel → DifopSetting → Bool) (param : RSDecoderParam) (pkt : MsopPkt P c)
    (s : DecoderMech P) : Prop :=
  pkt.dataType0 = 0 →
    accepted c 1 pkt.blocks = accepted c 2 pkt.blocks ∧
      ((s.initModel getLidarModel initialized pkt).lidarModel = .channel192 →
        accepted c 2 pkt.blocks = []) ∧
      BlocksAlike ((s.initModel getLidarModel initialized pkt).deref param) (s.deref param)
        (accepted c 2 pkt.blocks) s.splitStrategy s.preSplitStrategy

/-- A packet is alike for both. -/
def SplitsAlike : (t : MechType) → RSDecoderParam → Paired (DecoderMech P) →
    DriverEvent P t.constParam → Prop
  | _, _, _, .difop _ => True
  | .rsairy, param, s, .msop pkt =>
    ModelAlike getRsairyModel rsairyInitialized param pkt s.state
  | .rsfairy, param, s, .msop pkt =>
    ModelAlike getRsfairyModel rsfairyInitialized param pkt s.state
  | t, param, s, .msop pkt =>
    BlocksAlike (s.state.deref param) (s.state.deref param)
      (accepted t.constParam t.idLen pkt.blocks) s.state.splitStrategy s.state.preSplitStrategy

section Mech

variable {c : RSDecoderConstParam} {idLen height : ℕ} {param : RSDecoderParam}
  {s : DecoderMech P}

/-- `isNewFrame` and `decodeMsopPkt` say the same of a packet, and stay in step. -/
def Agree (first second : DecoderMech P → DecoderMech P × Bool) (s : DecoderMech P) : Prop :=
  (first s).2 = (second (first s).1).2 ∧
    InStep (second (first s).1).1.splitStrategy (second (first s).1).1.preSplitStrategy

/-- Decoding, behind an `isNewFrame` whose splitter was in the state `t`. -/
theorem decodeBlocks_inStep {deref' : MaxBlks → UInt16} {t : SplitStrategy}
    (blocks : List (MsopBlock P)) (h : InStep s.splitStrategy t)
    (halike : BlocksAlike (s.deref param) deref' (accepted c idLen blocks) s.splitStrategy t)
    (hpre : s.preSplitStrategy =
      (feedFirst (SplitStrategy.newBlock deref') (accepted c idLen blocks) t).1) :
    (feedFirst (SplitStrategy.newBlock deref') (accepted c idLen blocks) t).2 =
        (s.decodeBlocks c idLen param height blocks).2 ∧
      InStep (s.decodeBlocks c idLen param height blocks).1.splitStrategy
        (s.decodeBlocks c idLen param height blocks).1.preSplitStrategy := by
  have hdecode : SameModel s (s.decodeBlocks c idLen param height blocks).1 ∧ _ :=
    decodeBlocks_eq blocks s
  obtain ⟨hsame, hfeed⟩ := hdecode
  obtain ⟨hverdict, hinStep⟩ := h.feed halike
  rw [← hfeed] at hverdict hinStep
  rw [hsame.preSplitStrategy, hpre]
  exact ⟨hverdict, hinStep⟩

theorem agree_fixed (pkt : MsopPkt P c) (h : InStep s.splitStrategy s.preSplitStrategy)
    (halike : BlocksAlike (s.deref param) (s.deref param) (accepted c idLen pkt.blocks)
      s.splitStrategy s.preSplitStrategy) :
    Agree (DecoderMech.isNewFrameFixed c idLen param pkt)
      (DecoderMech.decodeFixed c idLen height param pkt) s := by
  unfold Agree DecoderMech.isNewFrameFixed DecoderMech.decodeFixed
  rw [isNewFrameBlocks_eq]
  exact decodeBlocks_inStep pkt.blocks h halike rfl

/-- Reading the model of the lidar leaves the splitters alone. -/
theorem initModel_splitters (getLidarModel : UInt8 → LidarModel × ℕ)
    (initialized : LidarModel → DifopSetting → Bool) (pkt : MsopPkt P c) (s : DecoderMech P)
    (pre : SplitStrategy) :
    (s.initModel getLidarModel initialized pkt).splitStrategy = s.splitStrategy ∧
      ({ s with preSplitStrategy := pre } : DecoderMech P).initModel getLidarModel initialized pkt =
        { s.initModel getLidarModel initialized pkt with preSplitStrategy := pre } := by
  unfold DecoderMech.initModel
  by_cases hready : s.bInit = true
  · rw [if_pos hready, if_pos hready]
    exact ⟨rfl, rfl⟩
  · rw [if_neg hready, if_neg hready]
    exact ⟨rfl, rfl⟩

theorem agree_byModel {getLidarModel : UInt8 → LidarModel × ℕ}
    {initialized : LidarModel → DifopSetting → Bool} (pkt : MsopPkt P c)
    (h : InStep s.splitStrategy s.preSplitStrategy)
    (halike : ModelAlike getLidarModel initialized param pkt s) :
    Agree (DecoderMech.isNewFrameByModel c param pkt)
      (DecoderMech.decodeByModel c getLidarModel initialized param pkt) s := by
  unfold Agree DecoderMech.isNewFrameByModel DecoderMech.decodeByModel
  by_cases htype : pkt.dataType0 = 0
  · obtain ⟨hread, hmodel, hblocks⟩ := halike htype
    have hzero : ¬ 0 < pkt.dataType0 := by rw [htype]; decide
    rw [if_neg hzero, if_neg (not_not.mpr htype)]
    unfold DecoderMech.isNewFrameFixed
    rw [isNewFrameBlocks_eq, hread]
    generalize hpre : feedFirst (SplitStrategy.newBlock (s.deref param))
      (accepted c 2 pkt.blocks) s.preSplitStrategy = pre
    obtain ⟨hsplit, hcomm⟩ := initModel_splitters getLidarModel initialized pkt s pre.1
    change pre.2 = _ ∧ _
    rw [hcomm]
    generalize s.initModel getLidarModel initialized pkt = s' at hmodel hblocks hsplit ⊢
    rw [← hsplit] at h hblocks
    by_cases hlidar : s'.lidarModel = .channel192
    · have hnone := hmodel hlidar
      rw [hnone] at hpre
      subst hpre
      dsimp only
      rw [if_pos hlidar]
      exact ⟨rfl, h⟩
    · dsimp only
      rw [if_neg hlidar]
      subst hpre
      exact decodeBlocks_inStep pkt.blocks h hblocks rfl
  · have hpos : 0 < pkt.dataType0 := UInt8.pos_iff_ne_zero.mpr htype
    rw [if_pos hpos, if_pos htype]
    exact ⟨rfl, h⟩

/-- The two logs agree, and the splitters are in step. -/
structure MechInStep (p : Paired (DecoderMech P)) : Prop where
  logs : p.first = p.second
  splitters : InStep p.state.splitStrategy p.state.preSplitStrategy

theorem agree_mech (t : MechType) {p : Paired (DecoderMech P)} {pkt : MsopPkt P t.constParam}
    (h : InStep p.state.splitStrategy p.state.preSplitStrategy)
    (halike : SplitsAlike t param p (.msop pkt)) :
    Agree (isNewFrame t param pkt) (decodeMsopPkt t param pkt) p.state := by
  cases t with
  | rsairy => exact agree_byModel pkt h halike
  | rsfairy => exact agree_byModel pkt h halike
  | _ => exact agree_fixed pkt h halike

theorem MechInStep.step {t : MechType} {p p' : Paired (DecoderMech P)}
    {e : DriverEvent P t.constParam} (h : MechInStep p) (halike : SplitsAlike t param p e)
    (hstep : mechStep t param p e = some p') : MechInStep p' := by
  cases e with
  | difop setting =>
    cases hstep
    exact ⟨h.logs, h.splitters⟩
  | msop pkt =>
    cases hstep
    obtain ⟨hverdict, hinStep⟩ := agree_mech t h.splitters halike
    exact ⟨Paired.ask_agrees h.logs hverdict, hinStep⟩

/-- By angle: the blocks of each packet go forward. -/
def PacketsGoForward (t : MechType) (p : Paired (DecoderMech P)) : DriverEvent P t.constParam → Prop
  | .difop _ => True
  | .msop pkt => ∀ s q, p.state.splitStrategy = .byAngle s → p.state.preSplitStrategy = .byAngle q →
      GoForward (accepted t.constParam t.idLen pkt.blocks) s q

/-- The logs agree, and the splitter of `isNewFrame` trails that of the decoder. -/
structure Following (p : Paired (DecoderMech P)) : Prop where
  agree : MechInStep p
  trails : ∃ s q, p.state.splitStrategy = .byAngle s ∧ p.state.preSplitStrategy = .byAngle q ∧
    Trails s q

/-- The decoders that know their channels differ in numbers only. -/
theorem fixed_eq {t : MechType} (hairy : t ≠ .rsairy) (hfairy : t ≠ .rsfairy)
    (param : RSDecoderParam) (pkt : MsopPkt P t.constParam) : ∃ height,
    isNewFrame t param pkt = DecoderMech.isNewFrameFixed t.constParam t.idLen param pkt ∧
      decodeMsopPkt t param pkt = DecoderMech.decodeFixed t.constParam t.idLen height param pkt := by
  cases t with
  | rsairy => exact absurd rfl hairy
  | rsfairy => exact absurd rfl hfairy
  | _ => exact ⟨_, rfl, rfl⟩

theorem splitsAlike_fixed {t : MechType} (hairy : t ≠ .rsairy) (hfairy : t ≠ .rsfairy)
    {p : Paired (DecoderMech P)} {pkt : MsopPkt P t.constParam}
    (halike : BlocksAlike (p.state.deref param) (p.state.deref param)
      (accepted t.constParam t.idLen pkt.blocks) p.state.splitStrategy p.state.preSplitStrategy) :
    SplitsAlike t param p (.msop pkt) := by
  cases t with
  | rsairy => exact absurd rfl hairy
  | rsfairy => exact absurd rfl hfairy
  | _ => exact halike

theorem Following.step {t : MechType} (hairy : t ≠ .rsairy) (hfairy : t ≠ .rsfairy)
    {p p' : Paired (DecoderMech P)} {e : DriverEvent P t.constParam} (h : Following p)
    (hforward : PacketsGoForward t p e) (hstep : mechStep t param p e = some p') :
    Following p' := by
  obtain ⟨s, q, hs, hq, htrails⟩ := h.trails
  cases e with
  | difop setting =>
    cases hstep
    exact ⟨⟨h.agree.logs, h.agree.splitters⟩, s, q, hs, hq, htrails⟩
  | msop pkt =>
    have hgo := hforward s q hs hq
    refine ⟨h.agree.step (splitsAlike_fixed hairy hfairy ?_) hstep, ?_⟩
    · rw [hs, hq]
      exact htrails.alike hgo
    · obtain ⟨height, hnew, hdecode⟩ := fixed_eq hairy hfairy param pkt
      cases hstep
      unfold Paired.ask
      dsimp only
      rw [hnew, hdecode]
      unfold DecoderMech.isNewFrameFixed DecoderMech.decodeFixed
      dsimp only
      rw [isNewFrameBlocks_eq]
      obtain ⟨s', q', hs', hq', htrails'⟩ :=
        Trails.feed (p.state.deref param) (p.state.deref param) htrails hgo
      rw [← hs] at hs'
      rw [← hq] at hq'
      generalize (feedFirst (SplitStrategy.newBlock (p.state.deref param))
        (accepted t.constParam t.idLen pkt.blocks) p.state.preSplitStrategy).1 = pre at hq' ⊢
      let asked : DecoderMech P := { p.state with preSplitStrategy := pre }
      have hblocks : SameModel asked
          (asked.decodeBlocks t.constParam t.idLen param height pkt.blocks).1 ∧ _ :=
        decodeBlocks_eq pkt.blocks asked
      obtain ⟨hsame, hfeed⟩ := hblocks
      exact ⟨s', q', (congrArg Prod.fst hfeed).trans hs', hsame.preSplitStrategy.trans hq', htrails'⟩

end Mech

/-! ### Sequence-number decoders -/

/-- One packet, for which both are called. -/
def seqStep (t : SeqType) (s : Paired SeqDecoder) (pkt : SeqPkt) : Option (Paired SeqDecoder) :=
  some (s.ask (t.isNewFrame pkt) (t.decodeMsopPkt pkt))

/-- A splitter ignores a number: it makes no split, and waits behind the same number. -/
def Ignored (prevSeq seq : UInt16) : Prop := ¬ seq < safeMin prevSeq ∧ nextSeq prevSeq seq = prevSeq

/-- RSEMX: the surface is one of the two or the number ignored, and counting from 0 and
from 1 makes no difference: the number is not 0 (which is ignored behind 2 up to 10), not
one that jumps ahead behind 1, as only there the decoder waits behind 0, and not one
behind 65526, where the safe range of `isNewFrame` is the first to overflow. -/
def RsemxAlike (packet : ℕ → UInt8) (s : SeqDecoder) : Prop :=
  if 2 ≤ packet 27 then Ignored s.preSeq (u16At packet 4)
  else
    (u16At packet 4 = 0 → 2 ≤ s.preSeq ∧ s.preSeq ≤ 10) ∧
      ¬ (s.preSeq = 1 ∧ 11 < u16At packet 4) ∧ ¬ (s.preSeq = 65526 ∧ 65526 < u16At packet 4)

/-- RSM1_Jumbo: the decoder reads the first of the numbers or it is ignored, and the
others that it reads are ignored. -/
def JumboAlike (pkt : SeqPkt) (s : SeqDecoder) : Prop :=
  (pkt.size = 62152 ∧ SeqDecoder.hasMsopId pkt.data = true ∨ Ignored s.preSeq (u16At pkt.data 4)) ∧
    (pkt.size = 62152 → ∀ i ∈ List.range' 1 62,
      SeqDecoder.hasMsopId (SeqDecoder.innerPkt pkt.data i) = true →
        Ignored (nextSeq s.preSeq (u16At pkt.data 4)) (u16At (SeqDecoder.innerPkt pkt.data i) 4))

/-- A packet is alike for both. -/
def SeqAlike : SeqType → Paired SeqDecoder → SeqPkt → Prop
  | .rsemx, s, pkt => RsemxAlike pkt.data s.state
  | .rsm1Jumbo, s, pkt => JumboAlike pkt s.state
  | _, _, _ => True

/-- The splitters wait behind the same number; RSEMX starts with 0 for both, and then
`isNewFrame` is one ahead. -/
def SeqInStep (t : SeqType) (s : SeqDecoder) : Prop :=
  match t with
  | .rsemx => s.preSeq = 0 ∧ s.prevSeq = 0 ∨ s.preSeq.toNat = s.prevSeq.toNat + 1
  | _ => s.preSeq = s.prevSeq

section Seq

variable {s : SeqDecoder}

/-- Numbers that are both one ahead compare alike. -/
theorem shifted_lt {n p d : ℕ} (hn : n ≠ 0) (hp : p = d + 1) (k : ℕ) :
    n < p - k ↔ n - 1 < d - k := by omega

/-- Counting from 0 and from 1. -/
theorem seq_shifted {pre prev seq : UInt16} (h : pre = 0 ∧ prev = 0 ∨ pre.toNat = prev.toNat + 1)
    (hzero : seq = 0 → 2 ≤ pre ∧ pre ≤ 10) (hjump : ¬ (pre = 1 ∧ 11 < seq))
    (htop : ¬ (pre = 65526 ∧ 65526 < seq)) :
    (seq < safeMin pre ↔ seq - 1 < safeMin prev) ∧
      (nextSeq pre seq = 0 ∧ nextSeq prev (seq - 1) = 0 ∨
        (nextSeq pre seq).toNat = (nextSeq prev (seq - 1)).toNat + 1) := by
  have hpre := pre.toNat_lt
  have hseq := seq.toNat_lt
  simp only [UInt16.lt_iff_toNat_lt, UInt16.le_iff_toNat_le, ← UInt16.toNat_inj, safeMin_toNat,
    nextSeq_toNat, UInt16.toNat_ofNat] at h hzero hjump htop ⊢
  by_cases hnone : seq.toNat = 0
  · -- 0 becomes the highest number, which both ignore
    have hlast : (seq - 1).toNat = 65535 := by
      rw [UInt16.toNat_sub, UInt16.toNat_one, hnone]
    obtain ⟨hlow, hhigh⟩ := hzero hnone
    rw [hlast, hnone]
    refine ⟨by omega, .inr ?_⟩
    rw [if_neg (by omega), if_pos (by omega), if_neg (by omega), if_neg (by omega),
      if_neg (by omega), if_neg (by omega)]
    omega
  · have hsub : (seq - 1).toNat = seq.toNat - 1 := by
      rw [UInt16.toNat_sub, UInt16.toNat_one]
      omega
    rw [hsub]
    generalize pre.toNat = p at *
    generalize prev.toNat = d at *
    generalize seq.toNat = n at *
    rcases h with ⟨rfl, rfl⟩ | hp
    · -- the first number
      refine ⟨by omega, .inr ?_⟩
      simp only [Nat.zero_mod, Nat.zero_sub, Nat.not_lt_zero, if_false, if_true, ite_self]
      omega
    · have hrewindIff := shifted_lt hnone hp 10
      have hbehindIff : n < p ↔ n - 1 < d := shifted_lt hnone hp 0
      refine ⟨hrewindIff, .inr ?_⟩
      by_cases hrewind : n < p - 10
      · rw [if_pos hrewind, if_pos (hrewindIff.mp hrewind)]
        omega
      rw [if_neg hrewind, if_neg (hrewindIff.not.mp hrewind)]
      by_cases hbehind : n < p
      · rw [if_pos hbehind, if_pos (hbehindIff.mp hbehind)]
        exact hp
      rw [if_neg hbehind, if_neg (hbehindIff.not.mp hbehind)]
      by_cases hsafe : n ≤ (p + 10) % 65536
      · have hsafe' : n - 1 ≤ (d + 10) % 65536 := by omega
        rw [if_pos hsafe, if_pos hsafe']
        omega
      · rw [if_neg hsafe]
        split_ifs <;> omega

/-- `isNewFrame` and `decodeMsopPkt` say the same of a packet, and stay in step. -/
def SeqAgree (t : SeqType) (pkt : SeqPkt) (s : SeqDecoder) : Prop :=
  let r := t.isNewFrame pkt s
  let r' := t.decodeMsopPkt pkt r.1
  r.2 = r'.2 ∧ r'.1.InRange ∧ SeqInStep t r'.1

/-- Both give their splitters the one number of the packet. -/
theorem agree_of_gives {t : SeqType} {pkt : SeqPkt} (h : s.InRange) (hsame : s.preSeq = s.prevSeq)
    (hgives : SeqDecoder.Gives (u16At pkt.data 4) (t.decodeMsopPkt pkt))
    (ht : ∀ s : SeqDecoder, s.preSeq = s.prevSeq → SeqInStep t s) : SeqAgree t pkt s := by
  obtain ⟨hrange, hpre, hprev, hverdict⟩ := isNewFrameCommon_eq h pkt.data
  obtain ⟨hrange', hprev', hpre', hverdict'⟩ := hgives _ hrange
  refine ⟨?_, hrange', ht _ ?_⟩
  · rw [hprev, ← hsame] at hverdict'
    exact hverdict.trans hverdict'.symm
  · rw [hprev, ← hsame] at hprev'
    exact (hpre'.trans hpre).trans hprev'.symm

/-- `isNewFrame` ignores the number of a packet that the decoder does not read. -/
theorem agree_of_ignored {t : SeqType} {pkt : SeqPkt} (h : s.InRange)
    (hignored : Ignored s.preSeq (u16At pkt.data 4))
    (hskip : ∀ s, t.decodeMsopPkt pkt s = (s, false))
    (ht : ∀ s' : SeqDecoder, s'.preSeq = s.preSeq → s'.prevSeq = s.prevSeq → SeqInStep t s') :
    SeqAgree t pkt s := by
  obtain ⟨hrange, hpre, hprev, hverdict⟩ := isNewFrameCommon_eq h pkt.data
  unfold SeqAgree
  dsimp only
  rw [hskip]
  refine ⟨?_, hrange, ht _ (hpre.trans hignored.2) hprev⟩
  exact hverdict.trans (decide_eq_false hignored.1)

theorem agree_rsemx {pkt : SeqPkt} (h : s.InRange) (hinStep : SeqInStep .rsemx s)
    (halike : RsemxAlike pkt.data s) : SeqAgree .rsemx pkt s := by
  unfold RsemxAlike at halike
  by_cases hsurface : 2 ≤ pkt.data 27
  · rw [if_pos hsurface] at halike
    refine agree_of_ignored h halike (fun s => if_pos hsurface) ?_
    intro s' hpre hprev
    unfold SeqInStep at hinStep ⊢
    rwa [hpre, hprev]
  · rw [if_neg hsurface] at halike
    obtain ⟨hzero, hjump, htop⟩ := halike
    obtain ⟨hiff, hshifted⟩ := seq_shifted hinStep hzero hjump htop
    obtain ⟨hrange, hpre, hprev, hverdict⟩ := isNewFrameCommon_eq h pkt.data
    obtain ⟨hrange', hprev', hpre', hverdict'⟩ :=
      splitPacket_gives (u16At pkt.data 4 - 1) _ hrange
    unfold SeqAgree
    have hdecode : ∀ s, SeqType.rsemx.decodeMsopPkt pkt s = s.splitPacket (u16At pkt.data 4 - 1) :=
      fun s => if_neg hsurface
    dsimp only
    rw [hdecode]
    refine ⟨?_, hrange', ?_⟩
    · rw [hprev] at hverdict'
      exact hverdict.trans ((decide_eq_decide.mpr hiff).trans hverdict'.symm)
    · rw [hprev] at hprev'
      rw [hpre] at hpre'
      unfold SeqInStep
      rw [← hpre', ← hprev'] at hshifted
      exact hshifted

/-- Both splitters wait behind the same number. -/
def BothBehind (prevSeq : UInt16) (s : SeqDecoder) : Prop :=
  s.InRange ∧ s.preSeq = prevSeq ∧ s.prevSeq = prevSeq

/-- An inner packet that is not read, or whose number is ignored. -/
theorem inner_ignored {prevSeq : UInt16} {packet : ℕ → UInt8}
    (hignored : SeqDecoder.hasMsopId packet = true → Ignored prevSeq (u16At packet 4))
    (h : BothBehind prevSeq s) :
    BothBehind prevSeq (s.decodeInner packet).1 ∧ (s.decodeInner packet).2 = false := by
  unfold SeqDecoder.decodeInner
  cases hid : SeqDecoder.hasMsopId packet with
  | true =>
    obtain ⟨hrange, hpre, hprev⟩ := h
    obtain ⟨hrange', hprev', hpre', hverdict⟩ := splitPacket_gives (u16At packet 4) s hrange
    obtain ⟨hquiet, hnext⟩ := hignored hid
    rw [if_pos rfl]
    rw [hprev] at hprev' hverdict
    exact ⟨⟨hrange', hpre'.trans hpre, hprev'.trans hnext⟩, hverdict.trans (decide_eq_false hquiet)⟩
  | false =>
    rw [if_neg (by decide)]
    exact ⟨h, rfl⟩

/-- The first inner packet, whose number `isNewFrame` reads. -/
theorem inner_first {packet : ℕ → UInt8} (h : s.InRange) (hsame : s.preSeq = s.prevSeq)
    (hread : SeqDecoder.hasMsopId packet = true ∨ Ignored s.preSeq (u16At packet 4)) :
    BothBehind (nextSeq s.preSeq (u16At packet 4))
        ((s.isNewFrameCommon packet).1.decodeInner packet).1 ∧
      ((s.isNewFrameCommon packet).1.decodeInner packet).2 = (s.isNewFrameCommon packet).2 := by
  obtain ⟨hrange, hpre, hprev, hverdict⟩ := isNewFrameCommon_eq h packet
  unfold SeqDecoder.decodeInner
  cases hid : SeqDecoder.hasMsopId packet with
  | true =>
    obtain ⟨hrange', hprev', hpre', hverdict'⟩ := splitPacket_gives (u16At packet 4) _ hrange
    rw [if_pos rfl]
    rw [hprev, ← hsame] at hprev' hverdict'
    exact ⟨⟨hrange', hpre'.trans hpre, hprev'⟩, hverdict'.trans hverdict.symm⟩
  | false =>
    obtain ⟨hquiet, hnext⟩ := hread.resolve_left (by rw [hid]; decide)
    rw [if_neg (by decide)]
    refine ⟨⟨hrange, hpre, ?_⟩, (hverdict.trans (decide_eq_false hquiet)).symm⟩
    rw [hnext, hprev, hsame]

theorem agree_jumbo {pkt : SeqPkt} (h : s.InRange) (hsame : s.preSeq = s.prevSeq)
    (halike : JumboAlike pkt s) : SeqAgree .rsm1Jumbo pkt s := by
  obtain ⟨hfirst, hrest⟩ := halike
  by_cases hsize : pkt.size = 62152
  · have hread := hfirst.imp_left And.right
    obtain ⟨hbehind, hverdict⟩ := inner_first h hsame hread
    have hdecode : ∀ s, SeqType.rsm1Jumbo.decodeMsopPkt pkt s =
        feed (fun s i => s.decodeInner (SeqDecoder.innerPkt pkt.data i)) (0 :: List.range' 1 62) s :=
      fun s => if_neg (not_not.mpr hsize)
    have hzero : SeqDecoder.innerPkt pkt.data 0 = pkt.data := by
      funext k
      exact congrArg pkt.data (Nat.zero_add k)
    obtain ⟨⟨hrange, hpre, hprev⟩, hquiet⟩ :=
      feed_quiet (fun i hi s hs => inner_ignored (hrest hsize i hi) hs) hbehind
    unfold SeqAgree
    dsimp only
    rw [hdecode, feed_cons, hzero]
    refine ⟨?_, hrange, hpre.trans hprev.symm⟩
    exact hverdict.symm.trans ((congrArg _ hquiet).trans (Bool.or_false _)).symm
  · refine agree_of_ignored h (hfirst.resolve_left fun hread => hsize hread.1)
      (fun s => if_pos hsize) ?_
    intro s' hpre hprev
    exact hpre.trans (hsame.trans hprev.symm)

/-- The two logs agree, and the splitters are in step. -/
structure SeqLogs (t : SeqType) (p : Paired SeqDecoder) : Prop where
  logs : p.first = p.second
  inRange : p.state.InRange
  splitters : SeqInStep t p.state

theorem agree_seq (t : SeqType) {p : Paired SeqDecoder} {pkt : SeqPkt} (h : SeqLogs t p)
    (halike : SeqAlike t p pkt) : SeqAgree t pkt p.state := by
  cases t with
  | rsemx => exact agree_rsemx h.inRange h.splitters halike
  | rsm1Jumbo => exact agree_jumbo h.inRange h.splitters halike
  | rsm1 => exact agree_of_gives h.inRange h.splitters (decodeRsm1_gives _) fun _ hs => hs
  | _ => exact agree_of_gives h.inRange h.splitters (splitPacket_gives _) fun _ hs => hs

theorem SeqLogs.step {t : SeqType} {p p' : Paired SeqDecoder} {pkt : SeqPkt} (h : SeqLogs t p)
    (halike : SeqAlike t p pkt) (hstep : seqStep t p pkt = some p') : SeqLogs t p' := by
  obtain ⟨hverdict, hrange, hinStep⟩ := agree_seq t h halike
  cases hstep
  exact ⟨Paired.ask_agrees h.logs hverdict, hrange, hinStep⟩

end Seq

/-! ### Runs -/

/-- **`isNewFrame` and `decodeMsopPkt` say the same of every packet.** They do in every
run from the constructor whose packets are alike for both, with any DIFOP packets in
between. -/
theorem newFrame_eq_split (P : Type) :
    (∀ (t : MechType) (param : RSDecoderParam) (setting : DifopSetting)
      (tr : List (Paired (DecoderMech P) × DriverEvent P t.constParam))
      (s : Paired (DecoderMech P)),
      Run (mechStep t param) (SplitsAlike t param) (.start (.init param setting)) tr s →
        s.first = s.second) ∧
    ∀ (t : SeqType) (tr : List (Paired SeqDecoder × SeqPkt)) (s : Paired SeqDecoder),
      Run (seqStep t) (SeqAlike t) (.start .init) tr s → s.first = s.second := by
  constructor
  · intro t param setting tr s h
    have hinv : MechInStep s := by
      apply h.invariant
      · exact ⟨rfl, inStep_makeStrategy param⟩
      · intro tr s e s' ih halike hstep
        exact ih.step halike hstep
    exact hinv.logs
  · intro t tr s h
    have hinv : SeqLogs t s := by
      apply h.invariant
      · refine ⟨rfl, SeqDecoder.inRange_init, ?_⟩
        cases t with
        | rsemx => exact .inl ⟨rfl, rfl⟩
        | _ => rfl
      · intro tr s pkt s' ih halike hstep
        exact ih.step halike hstep
    exact hinv.logs

/-- **By angle they agree as long as the azimuths go forward.** No block goes back, and between
the block at which `isNewFrame` returned and the last block of the next packet no round is lost. -/
theorem newFrame_eq_split_forward {t : MechType} (hairy : t ≠ .rsairy) (hfairy : t ≠ .rsfairy)
    {param : RSDecoderParam} (hmode : param.splitFrameMode = .splitByAngle)
    (hsplit : param.splitAngle.toNat < 36000) {setting : DifopSetting}
    {tr : List (Paired (DecoderMech P) × DriverEvent P t.constParam)} {s : Paired (DecoderMech P)}
    (h : Run (mechStep t param) (PacketsGoForward t) (.start (.init param setting)) tr s) :
    s.first = s.second := by
  have hinv : Following s := by
    apply h.invariant
    · have hstart : param.makeStrategy = .byAngle ⟨param.splitAngle.toNat, param.splitAngle.toNat⟩ := by
        simp only [RSDecoderParam.makeStrategy, hmode]
      have hreduced : IsReduced param.splitAngle.toNat :=
        ⟨Int.natCast_nonneg _, Int.ofNat_lt.mpr hsplit⟩
      exact ⟨⟨rfl, inStep_makeStrategy param⟩, _, _, hstart, hstart, rfl, hreduced, hreduced, hreduced,
        Int.le_refl _⟩
    · intro tr s e s' ih hforward hstep
      exact ih.step hairy hfairy hforward hstep
  exact hinv.agree.logs

instance (deref deref' : MaxBlks → UInt16) (angles : List ℤ) :
    ∀ s t : SplitStrategy, Decidable (BlocksAlike deref deref' angles s t)
  | .byNum _, _ => inferInstanceAs (Decidable (_ ∨ _ ∧ _ ∧ _))
  | .byAngle _, .byAngle _ => inferInstanceAs (Decidable (∀ angle ∈ _, _ ∨ _))
  | .byAngle _, .byNum _ => .isTrue trivial

instance (param : RSDecoderParam) (s : Paired (DecoderMech P)) :
    ∀ e : DriverEvent P MechType.rs16.constParam, Decidable (SplitsAlike .rs16 param s e)
  | .msop _ => inferInstanceAs (Decidable (BlocksAlike _ _ _ _ _))
  | .difop _ => .isTrue trivial

instance (prevSeq seq : UInt16) : Decidable (Ignored prevSeq seq) :=
  inferInstanceAs (Decidable (_ ∧ _))

instance (s : Paired SeqDecoder) (pkt : SeqPkt) : Decidable (SeqAlike .rsemx s pkt) :=
  inferInstanceAs (Decidable (@ite Prop _ _ _ _))

/-- Frames of a number of blocks. -/
def byBlksParam (numBlksSplit : UInt16) : RSDecoderParam :=
  ⟨true, false, .splitByCustomBlks, 0, numBlksSplit⟩

/-- The constructor's setting of RS16. -/
def rs16Setting : DifopSetting := ⟨1801, 1801, false, false, 0⟩

/-- A packet of RS16 whose blocks are right. -/
def rs16Pkt : MsopPkt ℕ rs16 where
  size := 1248
  id := rs16.msopId
  dataType0 := 0
  dataType1 := 0
  lidarMode := 0
  blocks := List.replicate 12 ⟨rs16.blockId, 0, List.replicate 32 ⟨none, 0⟩⟩
  blocks_length := List.length_replicate
  channels_length := by
    intro block hblock
    rw [List.eq_of_mem_replicate hblock]
    exact List.length_replicate

/-- A packet of RSEMX with a number, of the first surface. -/
def rsemxPkt (seq : UInt8) : SeqPkt := ⟨fun i => if i = 5 then seq else 0, 812⟩

theorem newFrame_eq_split_runs :
    (∃ tr, ∃ s : Paired (DecoderMech ℕ), Run (mechStep .rs16 (byBlksParam 24))
      (SplitsAlike .rs16 (byBlksParam 24)) (.start (.init (byBlksParam 24) rs16Setting)) tr s ∧
      s.second = [false, true, false] ∧ s.first = s.second) ∧
    ∃ tr, ∃ s : Paired SeqDecoder, Run (seqStep .rsemx) (SeqAlike .rsemx) (.start .init) tr s ∧
      s.second = [false, false, false, true] ∧ s.first = s.second := by
  constructor
  · have hend : (exec (fun s e => if decide (SplitsAlike .rs16 (byBlksParam 24) s e) then
        mechStep .rs16 (byBlksParam 24) s e else none)
        (.start (.init (byBlksParam 24) rs16Setting)) (List.replicate 3 (.msop rs16Pkt))).map
        (fun s => decide (s.second = [false, true, false])) = some true := by
      decide +kernel
    obtain ⟨s, hs, hstate⟩ := Option.map_eq_some_iff.mp hend
    obtain ⟨tr, -, hrun⟩ := Run.of_exec_test (fun _ _ => of_decide_eq_true) hs
    exact ⟨tr, s, hrun, of_decide_eq_true hstate,
      (newFrame_eq_split ℕ).1 .rs16 (byBlksParam 24) rs16Setting tr s hrun⟩
  · have hend : (exec (fun s pkt => if decide (SeqAlike .rsemx s pkt) then
        seqStep .rsemx s pkt else none) (.start .init)
        [rsemxPkt 1, rsemxPkt 11, rsemxPkt 20, rsemxPkt 1]).map
        (fun s => decide (s.second = [false, false, false, true])) = some true := by
      decide +kernel
    obtain ⟨s, hs, hstate⟩ := Option.map_eq_some_iff.mp hend
    obtain ⟨tr, -, hrun⟩ := Run.of_exec_test (fun _ _ => of_decide_eq_true) hs
    exact ⟨tr, s, hrun, of_decide_eq_true hstate, (newFrame_eq_split ℕ).2 .rsemx tr s hrun⟩

/-- **A frame that `isNewFrame` misses.** The frames of RS16 have 13 blocks and its
packets 12: the first frame ends at the first block of the second packet, of which
`isNewFrame` does not count the other 11, so that for it the third packet makes 12
blocks where the decoder ends the next frame. -/
theorem newFrame_ne_split : ∃ tr, ∃ s : Paired (DecoderMech ℕ),
    Run (mechStep .rs16 (byBlksParam 13)) (fun _ _ => True)
      (.start (.init (byBlksParam 13) rs16Setting)) tr s ∧
    s.first = [false, true, false] ∧ s.second = [false, true, true] ∧ s.first ≠ s.second := by
  have hend : (exec (mechStep .rs16 (byBlksParam 13))
      (.start (.init (byBlksParam 13) rs16Setting)) (List.replicate 3 (.msop rs16Pkt))).map
      (fun s => decide (s.first = [false, true, false] ∧ s.second = [false, true, true] ∧
        s.first ≠ s.second)) = some true := by
    decide +kernel
  obtain ⟨s, hs, hstate⟩ := Option.map_eq_some_iff.mp hend
  obtain ⟨tr, -, hrun⟩ := Run.of_exec hs
  exact ⟨tr, s, hrun, of_decide_eq_true hstate⟩

end Rs
end SensorSupport
