/-
# RSM1 publishes a cloud for each frame (`rs_driver/driver/decoder/decoder_RSM1.hpp`)

`decodeMsopPkt` of RSM1 ends a frame twice: before a packet whose number goes back,
and behind the packet with the highest number it has seen, once a number went back.
The lidar numbers the packets of a frame from 1 to `n`, and they are delivered without
loss, each at most `RANGE` places from its own.

A packet with the highest number that comes before another one of its frame ends the
frame too early: the rest goes into a cloud of its own (`rsm1_splits_early`). A number
that goes back by more than the safe range inside a frame splits it, too. Where the
last packet comes last, and numbers go back only from frame to frame, each frame
behind the first is one cloud (`rsm1_oneCloudPerFrame`); in particular where no
packet comes behind one whose number is higher by `RANGE` or more
(`rsm1_oneCloudPerFrame_close`).

The driver is followed packet by packet: its clouds are batches of packets, of which
each stands for its 125 points.

Key definitions: `FrameFeed`, `Deliverable`, `PktClouds`, `OneCloudPerFrame`, `FrameOk`.
Key theorems: `next_refines`, `rsm1_oneCloudPerFrame`, `rsm1_splits_early`.
-/
import Mathlib.Data.List.Flatten
import Mathlib.Data.List.Perm.Subperm
import SensorSupport.Rs.FramePartition

namespace SensorSupport
namespace Rs

variable {P : Type} {param : RSDecoderParam}

/-! ### The lidar and its driver -/

/-- The number of a packet. -/
def SeqMsopPkt.pktSeq (pkt : SeqMsopPkt P) : UInt16 := u16At pkt.data 4

def SeqMsopPkt.number (pkt : SeqMsopPkt P) : ℕ := pkt.pktSeq.toNat

/-- The points of a packet of RSM1. -/
def rsm1Points (param : RSDecoderParam) (pkt : SeqMsopPkt P) : List P := pkt.points rsm1 param 1 0

/-- The complete frames, the packets of the current one, and the driver they were
delivered to. -/
structure FrameFeed (P : Type) (param : RSDecoderParam) where
  complete : List (List (SeqMsopPkt P))
  frame : List (SeqMsopPkt P)
  driver : LidarDriver (P := P) (SeqType.rsm1.decoder param)

/-- A packet of a frame of `n` that was not delivered yet, at most `RANGE` places from
its own. -/
structure Deliverable (n : ℕ) (frame : List (SeqMsopPkt P)) (pkt : SeqMsopPkt P) : Prop where
  size : pkt.size = 1210
  id : (List.range 4).map pkt.data = rsm1.msopId
  first : 1 ≤ pkt.number
  last : pkt.number ≤ n
  once : pkt.number ∉ frame.map SeqMsopPkt.number
  ahead : pkt.number ≤ frame.length + 1 + 10
  behind : frame.length + 1 ≤ pkt.number + 10

instance (n : ℕ) (frame : List (SeqMsopPkt P)) (pkt : SeqMsopPkt P) :
    Decidable (Deliverable n frame pkt) :=
  decidable_of_iff (pkt.size = 1210 ∧ (List.range 4).map pkt.data = rsm1.msopId ∧
      1 ≤ pkt.number ∧ pkt.number ≤ n ∧ pkt.number ∉ frame.map SeqMsopPkt.number ∧
      pkt.number ≤ frame.length + 1 + 10 ∧ frame.length + 1 ≤ pkt.number + 10)
    ⟨fun ⟨h₁, h₂, h₃, h₄, h₅, h₆, h₇⟩ => ⟨h₁, h₂, h₃, h₄, h₅, h₆, h₇⟩,
      fun h => ⟨h.1, h.2, h.3, h.4, h.5, h.6, h.7⟩⟩

namespace FrameFeed

/-- Nothing was delivered; the angles of an RSM1 are ready from the start. -/
def init : FrameFeed P param := ⟨[], [], ⟨(SeqDecoder.init, true), .init⟩⟩

/-- A packet is delivered; with the last one the frame is complete. -/
def deliver (n : ℕ) (s : FrameFeed P param) (pkt : SeqMsopPkt P) : Option (FrameFeed P param) :=
  if Deliverable n s.frame pkt then
    let driver := s.driver.processMsopPkt param pkt
    let frame := s.frame ++ [pkt]
    if frame.length = n then some ⟨s.complete ++ [frame], [], driver⟩
    else some ⟨s.complete, frame, driver⟩
  else none

def decoder (s : FrameFeed P param) : SeqDecoder × Bool := s.driver.decoder

def strategy (s : FrameFeed P param) : SplitStrategyBySeq := s.decoder.1.splitStrategy

/-- The points of the clouds that were published, and of the current one. -/
def clouds (s : FrameFeed P param) : Batches P := s.driver.cloud.batches

end FrameFeed

/-- Behind the first frame every frame is one cloud, and the clouds before are of the
first frame. -/
def OneCloudPerFrame (s : FrameFeed P param) : Prop :=
  ∀ first later, s.complete = first :: later → ∃ early : List (List P),
    s.driver.cloud.putClouds.map (·.points) =
        early ++ later.map (fun frame => frame.flatMap (rsm1Points param)) ∧
      early.flatten.Sublist (first.flatMap (rsm1Points param))

/-! ### Clouds of packets -/

/-- The splitter, and the packets of the clouds. -/
structure PktClouds (P : Type) where
  strategy : SplitStrategyBySeq
  clouds : Batches (SeqMsopPkt P)

namespace PktClouds

def init : PktClouds P := ⟨.init, [], []⟩

/-- What `decodeMsopPkt` does to the clouds. -/
def ops (strategy : SplitStrategyBySeq) (pkt : SeqMsopPkt P) : List (BatchOp (SeqMsopPkt P)) :=
  let r := strategy.newPacket pkt.pktSeq
  (if r.2 then [.cut] else []) ++ [.add pkt] ++
    if r.1.highest = pkt.pktSeq then [.cut] else []

/-- A cloud of more than 5000000 points is cleared. -/
def clearOver (clouds : Batches (SeqMsopPkt P)) : Batches (SeqMsopPkt P) :=
  if 5000000 < 125 * clouds.current.length then { clouds with current := [] } else clouds

def next (s : PktClouds P) (pkt : SeqMsopPkt P) : PktClouds P :=
  ⟨(s.strategy.newPacket pkt.pktSeq).1, (clearOver s.clouds).run (ops s.strategy pkt)⟩

end PktClouds

/-- The clouds of the driver are those of the packets. -/
structure Refines (s : FrameFeed P param) (p : PktClouds P) : Prop where
  strategy : s.strategy = p.strategy
  clouds : s.clouds = p.clouds.expand (rsm1Points param)
  ready : s.decoder.2 = true

theorem rsm1Points_length (hdense : param.densePoints = false) (pkt : SeqMsopPkt P) :
    (rsm1Points param pkt).length = 125 := by
  have hone : ∀ channel : RSChannel P, (DecoderMech.channelPoint param channel).length = 1 := by
    intro channel
    unfold DecoderMech.channelPoint
    rw [hdense]
    cases channel.measured <;> rfl
  simp [rsm1Points, SeqMsopPkt.points, rsm1, List.length_flatMap, hone]

theorem flatMap_rsm1Points_length (hdense : param.densePoints = false)
    (pkts : List (SeqMsopPkt P)) :
    (pkts.flatMap (rsm1Points param)).length = 125 * pkts.length := by
  induction pkts with
  | nil => rfl
  | cons pkt pkts ih =>
    rw [List.flatMap_cons, List.length_append, rsm1Points_length hdense, ih, List.length_cons]
    omega

theorem rsm1Points_ne (hdense : param.densePoints = false) (pkt : SeqMsopPkt P) :
    rsm1Points param pkt ≠ [] := by
  apply List.ne_nil_of_length_pos
  rw [rsm1Points_length hdense]
  omega

section Refines

variable {s : FrameFeed P param} {p : PktClouds P} {n : ℕ} {pkt : SeqMsopPkt P}

theorem clearOver_batches (hdense : param.densePoints = false) {d : DriverCloud P}
    {clouds : Batches (SeqMsopPkt P)} (h : d.batches = clouds.expand (rsm1Points param)) :
    d.clearOver.batches = (PktClouds.clearOver clouds).expand (rsm1Points param) := by
  have hlength : d.pointCloud.length = 125 * clouds.current.length := by
    rw [← flatMap_rsm1Points_length hdense]
    exact congrArg (fun b => b.current.length) h
  unfold DriverCloud.clearOver PktClouds.clearOver
  rw [hlength]
  split
  · exact congrArg (fun b => (⟨b.done, []⟩ : Batches P)) h
  · exact h

/-- An optional cut. -/
theorem cutIf_expand (hdense : param.densePoints = false) (c : Prop) [Decidable c]
    (b : Batches (SeqMsopPkt P)) :
    (b.run (if c then [.cut] else [])).expand (rsm1Points param) =
      (b.expand (rsm1Points param)).run (if c then [.cut] else []) := by
  split
  · exact Batches.cut_expand (rsm1Points_ne hdense) b
  · rfl

theorem rsm1Calls_op (height : ℕ) (points : List P) (data : ℕ → UInt8) (d : SeqDecoder) :
    (d.rsm1Calls height points data).map CloudCall.op =
      (if (d.splitPacket (u16At data 4)).2 then [.cut] else []) ++ points.map .add ++
        if (d.splitPacket (u16At data 4)).1.splitStrategy.highest = u16At data 4 then [.cut]
        else [] := by
  unfold SeqDecoder.rsm1Calls SeqDecoder.splitCalls
  rw [List.map_append, List.map_append, List.map_map]
  congr 1
  · congr 1
    split <;> rfl
  · split <;> rfl

theorem check_rsm1 (hready : s.decoder.2 = true) (h : Deliverable n s.frame pkt) :
    (SeqType.rsm1.decoder param).checkMsopPkt pkt s.driver.decoder = true := by
  have hcheck : (SeqType.rsm1.decoder param).checkMsopPkt pkt s.driver.decoder =
      if param.waitForDifop && !s.decoder.2 then false
      else if pkt.size ≠ 1210 then false
      else (List.range 4).map pkt.data == rsm1.msopId := rfl
  rw [hcheck, hready, h.size, h.id]
  simp

/-- **A packet of the driver is a packet of its clouds.** -/
theorem next_refines (hdense : param.densePoints = false) (h : Refines s p)
    (hpkt : Deliverable n s.frame pkt) {s' : FrameFeed P param}
    (hdriver : s'.driver = s.driver.processMsopPkt param pkt) : Refines s' (p.next pkt) := by
  have hcheck := check_rsm1 h.ready hpkt
  have hprocess : s.driver.processMsopPkt param pkt =
      ⟨((s.decoder.1.decodeRsm1 pkt.data).1, s.decoder.2),
        s.driver.cloud.clearOver.calls param
          (s.decoder.1.rsm1Calls 5 (rsm1Points param pkt) pkt.data)⟩ := by
    unfold LidarDriver.processMsopPkt
    dsimp only
    rw [if_pos hcheck]
    rfl
  have hdecoder : s'.decoder = ((s.decoder.1.decodeRsm1 pkt.data).1, s.decoder.2) := by
    unfold FrameFeed.decoder
    rw [hdriver, hprocess]
    rfl
  have hstrategy : (s.decoder.1.decodeRsm1 pkt.data).1.splitStrategy =
      (p.strategy.newPacket pkt.pktSeq).1 := by
    rw [← h.strategy]
    unfold SeqDecoder.decodeRsm1
    dsimp only
    split <;> rfl
  refine ⟨?_, ?_, ?_⟩
  · unfold FrameFeed.strategy
    rw [hdecoder]
    exact hstrategy
  · unfold FrameFeed.clouds
    rw [hdriver, hprocess]
    dsimp only
    rw [calls_batches, rsm1Calls_op, clearOver_batches hdense h.clouds]
    unfold PktClouds.next PktClouds.ops
    dsimp only
    rw [Batches.run_append, Batches.run_append, Batches.run_append, Batches.run_append,
      cutIf_expand hdense, Batches.run_cons, Batches.run_nil, Batches.add_expand,
      cutIf_expand hdense, ← h.strategy]
    rfl
  · rw [hdecoder]
    exact h.ready

end Refines

/-! ### The splitter -/

section Splitter

variable {strategy : SplitStrategyBySeq} {pkt : SeqMsopPkt P}

theorem newPacket_split (strategy : SplitStrategyBySeq) (seq : UInt16) :
    (strategy.newPacket seq).2 = decide (seq < strategy.safeSeqMin) := by
  unfold SplitStrategyBySeq.newPacket SplitStrategyBySeq.follow
  split <;> dsimp only <;> split_ifs <;> simp_all

theorem newPacket_looped (strategy : SplitStrategyBySeq) (seq : UInt16) :
    (strategy.newPacket seq).1.looped = (strategy.looped || (strategy.newPacket seq).2) := by
  unfold SplitStrategyBySeq.newPacket SplitStrategyBySeq.follow SplitStrategyBySeq.setSafeRange
  split <;> dsimp only <;> split_ifs <;> simp

theorem newPacket_maxSeq (strategy : SplitStrategyBySeq) (seq : UInt16) :
    (strategy.newPacket seq).1.maxSeq.toNat = max strategy.maxSeq.toNat seq.toNat := by
  unfold SplitStrategyBySeq.newPacket SplitStrategyBySeq.follow SplitStrategyBySeq.setSafeRange
  split
  · have hlt := UInt16.lt_iff_toNat_lt.mp ‹_›
    dsimp only
    split_ifs <;> dsimp only <;> omega
  · have hle : ¬ strategy.maxSeq.toNat < seq.toNat := fun hlt =>
      ‹¬ _› (UInt16.lt_iff_toNat_lt.mpr hlt)
    dsimp only
    split_ifs <;> dsimp only <;> omega

/-- A packet that goes back ends the frame before it. -/
theorem ops_back (h : pkt.pktSeq < strategy.safeSeqMin) (hhigh :
    (strategy.newPacket pkt.pktSeq).1.highest ≠ pkt.pktSeq) :
    PktClouds.ops strategy pkt = [.cut, .add pkt] := by
  unfold PktClouds.ops
  dsimp only
  rw [newPacket_split, if_pos (decide_eq_true h), if_neg hhigh]
  rfl

/-- A packet that ends no frame. -/
theorem ops_quiet (h : ¬ pkt.pktSeq < strategy.safeSeqMin) (hhigh :
    (strategy.newPacket pkt.pktSeq).1.highest ≠ pkt.pktSeq) :
    PktClouds.ops strategy pkt = [.add pkt] := by
  unfold PktClouds.ops
  dsimp only
  rw [newPacket_split, if_neg (by rw [decide_eq_true_eq]; exact h), if_neg hhigh]
  rfl

/-- The packet with the highest number ends the frame behind it. -/
theorem ops_highest (h : ¬ pkt.pktSeq < strategy.safeSeqMin) (hhigh :
    (strategy.newPacket pkt.pktSeq).1.highest = pkt.pktSeq) :
    PktClouds.ops strategy pkt = [.add pkt, .cut] := by
  unfold PktClouds.ops
  dsimp only
  rw [newPacket_split, if_neg (by rw [decide_eq_true_eq]; exact h), if_pos hhigh]
  rfl

/-- Before a number went back, none is the highest. -/
theorem highest_unlooped (h : (strategy.newPacket pkt.pktSeq).1.looped = false)
    (hfirst : 1 ≤ pkt.number) : (strategy.newPacket pkt.pktSeq).1.highest ≠ pkt.pktSeq := by
  unfold SplitStrategyBySeq.highest
  rw [h, if_neg (by decide)]
  intro hzero
  unfold SeqMsopPkt.number at hfirst
  rw [← hzero] at hfirst
  exact Nat.not_succ_le_zero 0 hfirst

/-- Behind the first frame the highest number is that of its last packet. -/
theorem highest_looped {n : ℕ} (htop : strategy.maxSeq.toNat = n)
    (hlooped : (strategy.newPacket pkt.pktSeq).1.looped = true) (hlast : pkt.number ≤ n) :
    (strategy.newPacket pkt.pktSeq).1.highest = pkt.pktSeq ↔ pkt.number = n := by
  have hmax := newPacket_maxSeq strategy pkt.pktSeq
  unfold SplitStrategyBySeq.highest
  rw [hlooped, if_pos rfl, ← UInt16.toNat_inj, hmax, htop]
  unfold SeqMsopPkt.number at hlast ⊢
  omega

end Splitter

/-! ### Frames -/

/-- The numbers of the packets of a frame. -/
structure FrameNumbers (n : ℕ) (frame : List (SeqMsopPkt P)) : Prop where
  nodup : (frame.map SeqMsopPkt.number).Nodup
  range : ∀ pkt ∈ frame, 1 ≤ pkt.number ∧ pkt.number ≤ n

theorem FrameNumbers.append {n : ℕ} {frame : List (SeqMsopPkt P)} {pkt : SeqMsopPkt P}
    (h : FrameNumbers n frame) (hpkt : Deliverable n frame pkt) :
    FrameNumbers n (frame ++ [pkt]) where
  nodup := by
    rw [List.map_append, List.map_singleton]
    apply List.nodup_append.mpr ⟨h.nodup, by simp, ?_⟩
    intro k hk k' hk' heq
    rw [List.mem_singleton.mp hk'] at heq
    rw [heq] at hk
    exact hpkt.once hk
  range := by
    intro pkt' hpkt'
    rcases List.mem_append.mp hpkt' with hold | hnew
    · exact h.range pkt' hold
    · rw [List.mem_singleton.mp hnew]
      exact ⟨hpkt.first, hpkt.last⟩

/-- A complete frame has every number. -/
theorem FrameNumbers.complete {n : ℕ} {frame : List (SeqMsopPkt P)} (h : FrameNumbers n frame)
    (hlength : frame.length = n) {k : ℕ} (hfirst : 1 ≤ k) (hlast : k ≤ n) :
    ∃ pkt ∈ frame, pkt.number = k := by
  have hsub : frame.map SeqMsopPkt.number ⊆ (List.range n).map (· + 1) := by
    intro k hk
    obtain ⟨pkt, hpkt, rfl⟩ := List.mem_map.mp hk
    obtain ⟨hfirst, hlast⟩ := h.range pkt hpkt
    exact List.mem_map.mpr ⟨pkt.number - 1, List.mem_range.mpr (by omega), by omega⟩
  have hperm := (List.subperm_of_subset h.nodup hsub).perm_of_length_le (by simp [hlength])
  have hmem : k ∈ (List.range n).map (· + 1) :=
    List.mem_map.mpr ⟨k - 1, List.mem_range.mpr (by omega), by omega⟩
  exact List.mem_map.mp (hperm.mem_iff.mpr hmem)

/-! ### What the clouds hold -/

section Phases

variable {n : ℕ} {frame first : List (SeqMsopPkt P)} {later : List (List (SeqMsopPkt P))}
  {p : PktClouds P} {pkt : SeqMsopPkt P}

/-- In the first frame. -/
structure Learning (n : ℕ) (frame : List (SeqMsopPkt P)) (p : PktClouds P) : Prop where
  stream : p.clouds.stream = frame
  unlooped : p.strategy.looped = false → p.clouds.done = []
  seen : ∀ pkt ∈ frame, pkt.number ≤ p.strategy.maxSeq.toNat
  top : p.strategy.maxSeq.toNat ≤ n

/-- Behind a frame, before the next one. -/
structure Between (n : ℕ) (first : List (SeqMsopPkt P)) (later : List (List (SeqMsopPkt P)))
    (p : PktClouds P) : Prop where
  clouds : ∃ early, p.clouds.done = early ++ later ∧
    (early.flatten ++ p.clouds.current).Sublist first
  waiting : later ≠ [] → p.clouds.current = []
  unlooped : p.strategy.looped = false → p.clouds.current ≠ []
  top : p.strategy.maxSeq.toNat = n

/-- In a frame behind the first one. -/
structure Within (n : ℕ) (first : List (SeqMsopPkt P)) (later : List (List (SeqMsopPkt P)))
    (frame : List (SeqMsopPkt P)) (p : PktClouds P) : Prop where
  clouds : ∃ early, p.clouds.done = early ++ later ∧ early.flatten.Sublist first
  current : p.clouds.current = frame
  looped : p.strategy.looped = true
  top : p.strategy.maxSeq.toNat = n
  notLast : ∀ pkt ∈ frame, pkt.number ≠ n

theorem clearOver_small {clouds : Batches (SeqMsopPkt P)} (h : clouds.current.length ≤ 40000) :
    PktClouds.clearOver clouds = clouds := if_neg (by omega)

theorem clearOver_done (clouds : Batches (SeqMsopPkt P)) :
    (PktClouds.clearOver clouds).done = clouds.done := by
  unfold PktClouds.clearOver
  split <;> rfl

theorem clearOver_current (clouds : Batches (SeqMsopPkt P)) :
    (PktClouds.clearOver clouds).current.Sublist clouds.current := by
  unfold PktClouds.clearOver
  split
  · exact List.nil_sublist _
  · exact List.Sublist.refl _

theorem added_ops (strategy : SplitStrategyBySeq) (pkt : SeqMsopPkt P) :
    BatchOp.added (PktClouds.ops strategy pkt) = [pkt] := by
  unfold PktClouds.ops
  rw [BatchOp.added_append, BatchOp.added_append]
  split <;> split <;> rfl

theorem Learning.next (h : Learning n frame p) (hlength : frame.length ≤ 40000)
    (hpkt : Deliverable n frame pkt) : Learning n (frame ++ [pkt]) (p.next pkt) := by
  have hmax := newPacket_maxSeq p.strategy pkt.pktSeq
  have hsmall : p.clouds.current.length ≤ 40000 := by
    have hle := congrArg List.length h.stream
    rw [Batches.stream, List.length_append] at hle
    omega
  have hlast : pkt.pktSeq.toNat ≤ n := hpkt.last
  unfold PktClouds.next
  rw [clearOver_small hsmall]
  refine ⟨?_, ?_, ?_, ?_⟩
  · dsimp only
    rw [Batches.run_stream, h.stream, added_ops]
  · dsimp only
    intro hlooped
    have hquiet := hlooped
    rw [newPacket_looped, Bool.or_eq_false_iff, newPacket_split, decide_eq_false_iff_not] at hquiet
    rw [ops_quiet hquiet.2 (highest_unlooped hlooped hpkt.first)]
    exact h.unlooped hquiet.1
  · dsimp only
    intro pkt' hpkt'
    rw [hmax]
    rcases List.mem_append.mp hpkt' with hold | hnew
    · exact Nat.le_trans (h.seen pkt' hold) (Nat.le_max_left _ _)
    · rw [List.mem_singleton.mp hnew]
      exact Nat.le_max_right _ _
  · dsimp only
    rw [hmax]
    exact Nat.max_le.mpr ⟨h.top, hlast⟩

/-- The first frame is complete. -/
theorem Learning.between (h : Learning n frame p) (hnumbers : FrameNumbers n frame)
    (hlength : frame.length = n) (hn : 1 ≤ n) : Between n frame [] p := by
  refine ⟨⟨p.clouds.done, (List.append_nil _).symm, ?_⟩, fun hnone => absurd rfl hnone, ?_, ?_⟩
  · have hstream : p.clouds.done.flatten ++ p.clouds.current = frame := h.stream
    rw [hstream]
  · intro hlooped hcurrent
    have hstream := h.stream
    rw [Batches.stream, h.unlooped hlooped, hcurrent] at hstream
    rw [← hlength, ← hstream] at hn
    exact Nat.not_succ_le_zero 0 hn
  · obtain ⟨pkt, hpkt, hnumber⟩ := hnumbers.complete hlength hn (Nat.le_refl n)
    exact Nat.le_antisymm h.top (hnumber ▸ h.seen pkt hpkt)

/-- The first packet of a frame. -/
theorem Between.next (h : Between n first later p)
    (hback : pkt.pktSeq < p.strategy.safeSeqMin ∨ p.clouds.current = [])
    (hlast : pkt.number < n) : Within n first later [pkt] (p.next pkt) := by
  obtain ⟨early, hdone, hsub⟩ := h.clouds
  have hlooped : (p.strategy.newPacket pkt.pktSeq).1.looped = true := by
    rw [newPacket_looped, newPacket_split]
    rcases hback with hback | hempty
    · rw [decide_eq_true hback, Bool.or_true]
    · cases hloop : p.strategy.looped with
      | true => rfl
      | false => exact absurd hempty (h.unlooped hloop)
  have hhigh : (p.strategy.newPacket pkt.pktSeq).1.highest ≠ pkt.pktSeq := by
    rw [Ne, highest_looped h.top hlooped (Nat.le_of_lt hlast)]
    exact Nat.ne_of_lt hlast
  have htop : (p.strategy.newPacket pkt.pktSeq).1.maxSeq.toNat = n := by
    rw [newPacket_maxSeq, h.top]
    exact Nat.max_eq_left (Nat.le_of_lt hlast)
  have hnotLast : ∀ pkt' ∈ [pkt], pkt'.number ≠ n := by
    intro pkt' hpkt'
    rw [List.mem_singleton.mp hpkt']
    exact Nat.ne_of_lt hlast
  have hdone' := (clearOver_done p.clouds).trans hdone
  have hsub' : (early.flatten ++ (PktClouds.clearOver p.clouds).current).Sublist first :=
    ((List.Sublist.refl _).append (clearOver_current p.clouds)).trans hsub
  unfold PktClouds.next
  by_cases hcurrent : (PktClouds.clearOver p.clouds).current = []
  · -- nothing is in the cloud, and none is published
    have hrun : (PktClouds.clearOver p.clouds).run (PktClouds.ops p.strategy pkt) =
        ⟨early ++ later, [pkt]⟩ := by
      have hadd : (PktClouds.clearOver p.clouds).apply (.add pkt) = ⟨early ++ later, [pkt]⟩ := by
        unfold Batches.apply
        dsimp only
        rw [hcurrent, hdone']
        rfl
      by_cases hlt : pkt.pktSeq < p.strategy.safeSeqMin
      · rw [ops_back hlt hhigh, Batches.run_cons, Batches.apply_cut_nil hcurrent]
        exact hadd
      · rw [ops_quiet hlt hhigh]
        exact hadd
    rw [hrun]
    refine ⟨⟨early, rfl, ?_⟩, rfl, hlooped, htop, hnotLast⟩
    rw [hcurrent, List.append_nil] at hsub'
    exact hsub'
  · -- the rest of the first frame is published
    have hlt : pkt.pktSeq < p.strategy.safeSeqMin := by
      refine hback.resolve_right fun hempty => hcurrent ?_
      exact List.eq_nil_of_sublist_nil (hempty ▸ clearOver_current p.clouds)
    have hlater : later = [] := by
      by_contra hsome
      exact hcurrent (List.eq_nil_of_sublist_nil
        (h.waiting hsome ▸ clearOver_current p.clouds))
    rw [ops_back hlt hhigh, Batches.run_cons, Batches.apply_cut hcurrent]
    refine ⟨⟨early ++ [(PktClouds.clearOver p.clouds).current], ?_, ?_⟩, rfl, hlooped, htop,
      hnotLast⟩
    · change (PktClouds.clearOver p.clouds).done ++ [(PktClouds.clearOver p.clouds).current] =
        early ++ [(PktClouds.clearOver p.clouds).current] ++ later
      rw [hdone', hlater, List.append_nil, List.append_nil]
    · rw [List.flatten_append, List.flatten_singleton]
      exact hsub'

/-- What a packet inside a frame has in common with the last one. -/
theorem Within.step (h : Within n first later frame p) (hlast : pkt.number ≤ n) :
    (p.strategy.newPacket pkt.pktSeq).1.looped = true ∧
      (p.strategy.newPacket pkt.pktSeq).1.maxSeq.toNat = n := by
  refine ⟨?_, ?_⟩
  · rw [newPacket_looped, h.looped, Bool.true_or]
  · rw [newPacket_maxSeq, h.top]
    exact Nat.max_eq_left hlast

/-- A packet inside a frame. -/
theorem Within.next (h : Within n first later frame p) (hlength : frame.length ≤ 40000)
    (hback : ¬ pkt.pktSeq < p.strategy.safeSeqMin) (hlast : pkt.number < n) :
    Within n first later (frame ++ [pkt]) (p.next pkt) := by
  obtain ⟨early, hdone, hsub⟩ := h.clouds
  obtain ⟨hlooped, htop⟩ := h.step (Nat.le_of_lt hlast)
  have hhigh : (p.strategy.newPacket pkt.pktSeq).1.highest ≠ pkt.pktSeq := by
    rw [Ne, highest_looped h.top hlooped (Nat.le_of_lt hlast)]
    exact Nat.ne_of_lt hlast
  unfold PktClouds.next
  rw [clearOver_small (h.current ▸ hlength), ops_quiet hback hhigh]
  refine ⟨⟨early, hdone, hsub⟩, congrArg (· ++ [pkt]) h.current, hlooped, htop, ?_⟩
  intro pkt' hpkt'
  rcases List.mem_append.mp hpkt' with hold | hnew
  · exact h.notLast pkt' hold
  · rw [List.mem_singleton.mp hnew]
    exact Nat.ne_of_lt hlast

/-- The last packet of a frame. -/
theorem Within.last (h : Within n first later frame p) (hlength : frame.length ≤ 40000)
    (hback : ¬ pkt.pktSeq < p.strategy.safeSeqMin) (hlast : pkt.number = n) :
    Between n first (later ++ [frame ++ [pkt]]) (p.next pkt) := by
  obtain ⟨early, hdone, hsub⟩ := h.clouds
  obtain ⟨hlooped, htop⟩ := h.step (Nat.le_of_eq hlast)
  have hhigh := (highest_looped h.top hlooped (Nat.le_of_eq hlast)).mpr hlast
  have hrun : p.clouds.run [.add pkt, .cut] = ⟨p.clouds.done ++ [frame ++ [pkt]], []⟩ := by
    rw [Batches.run_cons, Batches.run_cons, Batches.run_nil, Batches.apply_cut]
    · unfold Batches.apply
      dsimp only
      rw [h.current]
    · exact List.append_ne_nil_of_right_ne_nil _ (List.cons_ne_nil _ _)
  unfold PktClouds.next
  rw [clearOver_small (h.current ▸ hlength), ops_highest hback hhigh, hrun]
  refine ⟨⟨early, ?_, ?_⟩, fun _ => rfl, ?_, htop⟩
  · rw [hdone, List.append_assoc]
  · rw [List.append_nil]
    exact hsub
  · intro hunlooped
    rw [hlooped] at hunlooped
    cases hunlooped

end Phases

/-! ### Runs -/

/-- The number of a packet goes back. -/
def FrameFeed.Rewinds (s : FrameFeed P param) (pkt : SeqMsopPkt P) : Prop :=
  pkt.pktSeq < s.strategy.safeSeqMin

/-- Behind the first frame: numbers go back with the first packet of a frame, unless
nothing is in the cloud, and with no other; and the last packet comes last. -/
def FrameOk (n : ℕ) (s : FrameFeed P param) (pkt : SeqMsopPkt P) : Prop :=
  s.complete ≠ [] →
    (if s.frame = [] then s.Rewinds pkt ∨ s.driver.cloud.pointCloud = [] else ¬ s.Rewinds pkt) ∧
      (pkt.number = n → s.frame.length + 1 = n)

/-- The packets of a run in the clouds. -/
def pktClouds (tr : List (FrameFeed P param × SeqMsopPkt P)) : PktClouds P :=
  (tr.map Prod.snd).foldl PktClouds.next .init

/-- The first frame, the time between two frames, and a later frame. -/
inductive Phase (n : ℕ) :
    List (List (SeqMsopPkt P)) → List (SeqMsopPkt P) → PktClouds P → Prop
  | learning {frame p} : Learning n frame p → Phase n [] frame p
  | between {first later p} : Between n first later p → Phase n (first :: later) [] p
  | within {first later frame p} : frame ≠ [] → Within n first later frame p →
      Phase n (first :: later) frame p

/-- What a run keeps. -/
structure FeedInv (n : ℕ) (s : FrameFeed P param) (p : PktClouds P) : Prop where
  refines : Refines s p
  numbers : FrameNumbers n s.frame
  short : s.frame.length < n
  phase : Phase n s.complete s.frame p

section Runs

variable {n : ℕ} {s s' : FrameFeed P param} {p : PktClouds P} {pkt : SeqMsopPkt P}
  {tr : List (FrameFeed P param × SeqMsopPkt P)}

/-- A packet is delivered: it completes the frame, or it does not. -/
theorem deliver_cases (h : s.deliver n pkt = some s') :
    Deliverable n s.frame pkt ∧ s'.driver = s.driver.processMsopPkt param pkt ∧
      (s.frame.length + 1 = n ∧ s'.complete = s.complete ++ [s.frame ++ [pkt]] ∧ s'.frame = [] ∨
        s.frame.length + 1 ≠ n ∧ s'.complete = s.complete ∧ s'.frame = s.frame ++ [pkt]) := by
  unfold FrameFeed.deliver at h
  split at h
  · rename_i hpkt
    dsimp only at h
    rw [List.length_append, List.length_singleton] at h
    split at h
    · rename_i hfull
      cases h
      exact ⟨hpkt, rfl, .inl ⟨hfull, rfl, rfl⟩⟩
    · rename_i hmore
      cases h
      exact ⟨hpkt, rfl, .inr ⟨hmore, rfl, rfl⟩⟩
  · cases h

theorem pktClouds_concat (tr : List (FrameFeed P param × SeqMsopPkt P)) (s : FrameFeed P param)
    (pkt : SeqMsopPkt P) : pktClouds (tr ++ [(s, pkt)]) = (pktClouds tr).next pkt := by
  unfold pktClouds
  rw [List.map_append, List.foldl_append]
  rfl

/-- In every run the clouds are those of the packets. -/
theorem run_refines (hdense : param.densePoints = false)
    {Ok : FrameFeed P param → SeqMsopPkt P → Prop}
    (h : Run (FrameFeed.deliver n) Ok .init tr s) : Refines s (pktClouds tr) := by
  induction h with
  | nil => exact ⟨rfl, rfl, rfl⟩
  | snoc _ _ hstep ih =>
    obtain ⟨hpkt, hdriver, -⟩ := deliver_cases hstep
    rw [pktClouds_concat]
    exact next_refines hdense ih hpkt hdriver

/-- Nothing is in the cloud of the driver when no packet is in the cloud. -/
theorem Refines.empty (hdense : param.densePoints = false) (h : Refines s p) :
    s.driver.cloud.pointCloud = [] ↔ p.clouds.current = [] := by
  rw [← Batches.current_expand_nil (rsm1Points_ne hdense) p.clouds, ← h.clouds]
  rfl

/-- How many points the clouds have. -/
theorem Refines.lengths (hdense : param.densePoints = false) (h : Refines s p) :
    s.driver.cloud.putClouds.map (fun cloud => cloud.points.length) =
      p.clouds.done.map fun batch => 125 * batch.length := by
  have hclouds : s.driver.cloud.putClouds.map (·.points) =
      p.clouds.done.map fun batch => batch.flatMap (rsm1Points param) :=
    congrArg Batches.done h.clouds
  have hbatch : (fun batch : List (SeqMsopPkt P) => 125 * batch.length) =
      List.length ∘ fun batch => batch.flatMap (rsm1Points param) :=
    (funext (flatMap_rsm1Points_length hdense)).symm
  rw [hbatch, ← List.map_map, ← hclouds, List.map_map]
  rfl

/-- Behind the second frame the last cloud has its points. -/
theorem OneCloudPerFrame.lengths (hdense : param.densePoints = false) (h : OneCloudPerFrame s)
    {m k : ℕ} (hcomplete : s.complete.map List.length = [m, k]) : ∃ early,
      s.driver.cloud.putClouds.map (fun cloud => cloud.points.length) = early ++ [125 * k] := by
  match hframes : s.complete with
  | [first, second] =>
    rw [hframes] at hcomplete
    cases hcomplete
    obtain ⟨early, hclouds, -⟩ := h first [second] hframes
    refine ⟨early.map List.length, ?_⟩
    have hlengths := congrArg (List.map List.length) hclouds
    rw [List.map_map, List.map_append, List.map_singleton, List.map_singleton,
      flatMap_rsm1Points_length hdense] at hlengths
    exact hlengths
  | [] | [_] | _ :: _ :: _ :: _ =>
    rw [hframes] at hcomplete
    cases hcomplete

theorem Phase.step (hn : 30 < n) (hlimit : n ≤ 40001) {complete : List (List (SeqMsopPkt P))}
    {frame : List (SeqMsopPkt P)} (h : Phase n complete frame p)
    (hnumbers : FrameNumbers n (frame ++ [pkt])) (hpkt : Deliverable n frame pkt)
    (hshort : frame.length < n)
    (hok : complete ≠ [] →
      (if frame = [] then pkt.pktSeq < p.strategy.safeSeqMin ∨ p.clouds.current = []
        else ¬ pkt.pktSeq < p.strategy.safeSeqMin) ∧
        (pkt.number = n → frame.length + 1 = n)) :
    (frame.length + 1 = n → Phase n (complete ++ [frame ++ [pkt]]) [] (p.next pkt)) ∧
      (frame.length + 1 ≠ n → Phase n complete (frame ++ [pkt]) (p.next pkt)) := by
  have hsome : frame ++ [pkt] ≠ [] := List.append_ne_nil_of_right_ne_nil _ (List.cons_ne_nil _ _)
  have hlength : frame.length ≤ 40000 := by omega
  cases h with
  | learning hlearning =>
    have hnext := hlearning.next hlength hpkt
    refine ⟨?_, fun _ => .learning hnext⟩
    intro hfull
    exact .between (hnext.between hnumbers (by rw [List.length_append]; exact hfull) (by omega))
  | @between first later _ hbetween =>
    obtain ⟨hback, hlast⟩ := hok (List.cons_ne_nil _ _)
    rw [if_pos rfl] at hback
    have hmore : ([] : List (SeqMsopPkt P)).length + 1 ≠ n := by
      rw [List.length_nil]
      omega
    refine ⟨fun hfull => absurd hfull hmore, fun _ => .within hsome (hbetween.next hback ?_)⟩
    exact Nat.lt_of_le_of_ne hpkt.last (mt hlast hmore)
  | @within first later _ _ hframe hwithin =>
    obtain ⟨hback, hlast⟩ := hok (List.cons_ne_nil _ _)
    rw [if_neg hframe] at hback
    refine ⟨?_, ?_⟩
    · intro hfull
      -- the last number is missing, and the frame has all
      obtain ⟨pkt', hpkt', hnumber⟩ := hnumbers.complete (k := n)
        (by rw [List.length_append]; exact hfull) (by omega) (Nat.le_refl n)
      have hnew : pkt.number = n := by
        rcases List.mem_append.mp hpkt' with hold | hnew
        · exact absurd hnumber (hwithin.notLast pkt' hold)
        · rw [← List.mem_singleton.mp hnew]
          exact hnumber
      exact .between (hwithin.last hlength hback hnew)
    · intro hmore
      exact .within hsome (hwithin.next hlength hback
        (Nat.lt_of_le_of_ne hpkt.last (mt hlast hmore)))

theorem FeedInv.step (hdense : param.densePoints = false) (hn : 30 < n) (hlimit : n ≤ 40001)
    (h : FeedInv n s p) (hok : FrameOk n s pkt) (hstep : s.deliver n pkt = some s') :
    FeedInv n s' (p.next pkt) := by
  obtain ⟨hpkt, hdriver, hcases⟩ := deliver_cases hstep
  have hrefines := next_refines hdense h.refines hpkt hdriver
  have hnumbers := h.numbers.append hpkt
  obtain ⟨hfull, hmore⟩ := h.phase.step hn hlimit hnumbers hpkt h.short (by
    rw [← h.refines.strategy, ← h.refines.empty hdense]
    exact hok)
  rcases hcases with ⟨hlength, hcomplete, hframe⟩ | ⟨hlength, hcomplete, hframe⟩
  · refine ⟨hrefines, ?_, ?_, ?_⟩
    · rw [hframe]
      exact ⟨List.nodup_nil, fun _ hnone => (nomatch hnone)⟩
    · rw [hframe, List.length_nil]
      omega
    · rw [hcomplete, hframe]
      exact hfull hlength
  · refine ⟨hrefines, ?_, ?_, ?_⟩
    · rw [hframe]
      exact hnumbers
    · have hshort := h.short
      rw [hframe, List.length_append, List.length_singleton]
      omega
    · rw [hcomplete, hframe]
      exact hmore hlength

theorem FeedInv.oneCloudPerFrame (h : FeedInv n s p) : OneCloudPerFrame s := by
  intro first later hcomplete
  have hclouds : ∃ early, p.clouds.done = early ++ later ∧ early.flatten.Sublist first := by
    have hphase := h.phase
    rw [hcomplete] at hphase
    generalize s.frame = frame at hphase
    cases hphase with
    | between hbetween =>
      obtain ⟨early, hdone, hsub⟩ := hbetween.clouds
      exact ⟨early, hdone, (List.sublist_append_left _ _).trans hsub⟩
    | within _ hwithin => exact hwithin.clouds
  obtain ⟨early, hdone, hsub⟩ := hclouds
  refine ⟨early.map fun batch => batch.flatMap (rsm1Points param), ?_, ?_⟩
  · have hput : s.driver.cloud.putClouds.map (·.points) =
        p.clouds.done.map fun batch => batch.flatMap (rsm1Points param) :=
      congrArg Batches.done h.refines.clouds
    rw [hput, hdone, List.map_append]
  · rw [Batches.flatten_expand]
    exact hsub.flatMap _

theorem run_feedInv (hdense : param.densePoints = false) (hn : 30 < n) (hlimit : n ≤ 40001)
    (h : Run (FrameFeed.deliver n) (FrameOk n) .init tr s) : FeedInv n s (pktClouds tr) := by
  induction h with
  | nil =>
    refine ⟨⟨rfl, rfl, rfl⟩, ⟨List.nodup_nil, fun _ hnone => (nomatch hnone)⟩, ?_, ?_⟩
    · exact Nat.lt_trans (Nat.zero_lt_succ 29) hn
    · exact .learning ⟨rfl, fun _ => rfl, fun _ hnone => (nomatch hnone), Nat.zero_le n⟩
  | snoc _ hok hstep ih =>
    rw [pktClouds_concat]
    exact ih.step hdense hn hlimit hok hstep

/-- **One cloud for each frame.** In every run in which, behind the first frame, the
numbers go back with the first packet of a frame and with no other, and the last packet
comes last. A frame of more than 40001 packets does not fit into a cloud. -/
theorem rsm1_oneCloudPerFrame (hdense : param.densePoints = false) (hn : 30 < n)
    (hlimit : n ≤ 40001) (h : Run (FrameFeed.deliver n) (FrameOk n) .init tr s) :
    OneCloudPerFrame s := (run_feedInv hdense hn hlimit h).oneCloudPerFrame

instance (s : FrameFeed P param) (pkt : SeqMsopPkt P) : Decidable (s.Rewinds pkt) :=
  inferInstanceAs (Decidable (_ < _))

instance (n : ℕ) (s : FrameFeed P param) (pkt : SeqMsopPkt P) : Decidable (FrameOk n s pkt) :=
  inferInstanceAs (Decidable (_ → _ ∧ _))

end Runs

/-- A packet of RSM1 with a number, of which nothing was in the sections. -/
def rsm1Pkt (number : ℕ) : SeqMsopPkt Unit where
  data i := (rsm1.msopId ++ [0, number.toUInt8]).getD i 0
  size := 1210
  channel _ _ _ _ := ⟨none, ()⟩

/-- Two frames of 31 packets, two of which change places. -/
theorem rsm1_oneCloudPerFrame_swap :
    ∃ (tr : List (FrameFeed Unit fiveBlksParam × SeqMsopPkt Unit))
      (s : FrameFeed Unit fiveBlksParam),
      Run (FrameFeed.deliver 31) (FrameOk 31) .init tr s ∧
      s.complete.map (·.map SeqMsopPkt.number) =
        [List.range' 1 31, [1, 2, 3, 5, 4] ++ List.range' 6 26] ∧ OneCloudPerFrame s := by
  have hend : (exec (fun (s : FrameFeed Unit fiveBlksParam) pkt =>
      if decide (FrameOk 31 s pkt) then s.deliver 31 pkt else none) .init
      ((List.range' 1 31 ++ [1, 2, 3, 5, 4] ++ List.range' 6 26).map rsm1Pkt)).map
      (fun s => decide (s.complete.map (·.map SeqMsopPkt.number) =
        [List.range' 1 31, [1, 2, 3, 5, 4] ++ List.range' 6 26])) = some true := by
    decide +kernel
  obtain ⟨s, hs, hstate⟩ := Option.map_eq_some_iff.mp hend
  obtain ⟨tr, -, hrun⟩ := Run.of_exec_test (fun _ _ => of_decide_eq_true) hs
  exact ⟨tr, s, hrun, of_decide_eq_true hstate,
    rsm1_oneCloudPerFrame rfl (by decide) (by decide) hrun⟩

/-! ### A frame in two clouds -/

/-- **The last packet comes before another one.** The last two packets of the second
frame change places: the frame ends behind the first of them, and the other is a cloud
of its own when the next frame begins. -/
theorem rsm1_splits_early :
    ∃ (tr : List (FrameFeed Unit fiveBlksParam × SeqMsopPkt Unit))
      (s : FrameFeed Unit fiveBlksParam),
      Run (FrameFeed.deliver 31) (fun _ _ => True) .init tr s ∧
      s.complete.map (·.map SeqMsopPkt.number) =
        [List.range' 1 31, List.range' 1 29 ++ [31, 30]] ∧
      s.driver.cloud.putClouds.map (fun cloud => cloud.points.length) = [3875, 3750, 125] ∧
      ¬ OneCloudPerFrame s := by
  have hend : (exec (FrameFeed.deliver 31) (.init : FrameFeed Unit fiveBlksParam)
      ((List.range' 1 31 ++ List.range' 1 29 ++ [31, 30, 1]).map rsm1Pkt)).map
      (fun s => decide (s.complete.map (·.map SeqMsopPkt.number) =
        [List.range' 1 31, List.range' 1 29 ++ [31, 30]] ∧
          s.complete.map List.length = [31, 31])) = some true := by
    decide +kernel
  obtain ⟨s, hs, hstate⟩ := Option.map_eq_some_iff.mp hend
  obtain ⟨tr, htr, hrun⟩ := Run.of_exec hs
  obtain ⟨hnumbers, hlengths⟩ := of_decide_eq_true hstate
  have hput : s.driver.cloud.putClouds.map (fun cloud => cloud.points.length) =
      [3875, 3750, 125] := by
    rw [(run_refines rfl hrun).lengths rfl]
    unfold pktClouds
    rw [htr]
    decide +kernel
  refine ⟨tr, s, hrun, hnumbers, hput, ?_⟩
  intro hone
  obtain ⟨early, hearly⟩ := hone.lengths rfl hlengths
  rw [hput] at hearly
  have hlast := congrArg List.getLast? hearly
  rw [List.getLast?_append] at hlast
  cases hlast

/-! ### Packets that stay close -/

section Close

variable {n : ℕ} {s s' : FrameFeed P param} {pkt : SeqMsopPkt P}
  {tr : List (FrameFeed P param × SeqMsopPkt P)}

/-- The packets that are lower by `RANGE` or more are there, and behind the first frame
the last packet comes last. -/
structure Close (n : ℕ) (s : FrameFeed P param) (pkt : SeqMsopPkt P) : Prop where
  lower : ∀ k, 1 ≤ k → k + 10 ≤ pkt.number → k ∈ s.frame.map SeqMsopPkt.number
  last : s.complete ≠ [] → pkt.number = n → s.frame.length + 1 = n

/-- The splitter is behind the highest packet of the frame. -/
structure CloseInv (n : ℕ) (s : FrameFeed P param) : Prop where
  inRange : s.strategy.InRange
  learning : s.frame = [] → s.complete = [] → s.strategy.prevSeq.toNat = 0
  between : s.frame = [] → s.complete ≠ [] → s.strategy.prevSeq.toNat = n
  seen : ∀ pkt ∈ s.frame, pkt.number ≤ s.strategy.prevSeq.toNat
  highest : s.frame ≠ [] → ∃ pkt ∈ s.frame, pkt.number = s.strategy.prevSeq.toNat
  lower : s.frame ≠ [] → ∀ k, 1 ≤ k → k + 10 ≤ s.strategy.prevSeq.toNat →
    k ∈ s.frame.map SeqMsopPkt.number

theorem rewinds_iff (h : s.strategy.InRange) :
    s.Rewinds pkt ↔ pkt.number < s.strategy.prevSeq.toNat - 10 := by
  unfold FrameFeed.Rewinds SeqMsopPkt.number
  rw [h.1, UInt16.lt_iff_toNat_lt, safeMin_toNat]

/-- The first packet of a frame: it goes back behind a frame, and is the highest. -/
theorem CloseInv.first (h : CloseInv n s) (hn : 30 < n) (hframe : s.frame = [])
    (hclose : Close n s pkt) : (s.complete ≠ [] → s.Rewinds pkt) ∧
      (nextSeq s.strategy.prevSeq pkt.pktSeq).toNat = pkt.number := by
  have hlow : pkt.number ≤ 10 := by
    by_contra hhigh
    have hone := hclose.lower 1 (Nat.le_refl 1) (by omega)
    rw [hframe] at hone
    cases hone
  have hnext := nextSeq_toNat s.strategy.prevSeq pkt.pktSeq
  rw [rewinds_iff h.inRange, hnext]
  unfold SeqMsopPkt.number at hlow ⊢
  by_cases hcomplete : s.complete = []
  · rw [h.learning hframe hcomplete]
    refine ⟨fun hsome => absurd hcomplete hsome, ?_⟩
    rw [if_neg (by omega), if_neg (by omega), if_pos (by omega)]
  · rw [h.between hframe hcomplete]
    exact ⟨fun _ => by omega, if_pos (by omega)⟩

/-- A packet inside a frame does not go back, and may be the highest. -/
theorem CloseInv.inside (h : CloseInv n s) (hlimit : n ≤ 40001) (hnumbers : FrameNumbers n s.frame)
    (hframe : s.frame ≠ []) (hpkt : Deliverable n s.frame pkt) (hclose : Close n s pkt) :
    ¬ s.Rewinds pkt ∧ (nextSeq s.strategy.prevSeq pkt.pktSeq).toNat =
      max s.strategy.prevSeq.toNat pkt.number := by
  obtain ⟨top, htop, hprev⟩ := h.highest hframe
  have hrange := (hnumbers.range top htop).2
  have hne : pkt.number ≠ s.strategy.prevSeq.toNat := by
    intro heq
    exact hpkt.once (List.mem_map.mpr ⟨top, htop, hprev.trans heq.symm⟩)
  have hnear : s.strategy.prevSeq.toNat < pkt.number + 10 := by
    by_contra hfar
    exact hpkt.once (h.lower hframe pkt.number hpkt.first (by omega))
  have hahead : pkt.number ≤ s.strategy.prevSeq.toNat + 10 := by
    by_contra hfar
    obtain ⟨other, hother, hnumber⟩ :=
      List.mem_map.mp (hclose.lower (pkt.number - 10) (by omega) (by omega))
    have hseen := h.seen other hother
    omega
  have hnext := nextSeq_toNat s.strategy.prevSeq pkt.pktSeq
  rw [rewinds_iff h.inRange, hnext]
  unfold SeqMsopPkt.number at hne hnear hahead ⊢
  refine ⟨by omega, ?_⟩
  rw [if_neg (by omega)]
  by_cases hlt : pkt.pktSeq.toNat < s.strategy.prevSeq.toNat
  · rw [if_pos hlt]
    omega
  · rw [if_neg hlt, if_pos (by omega)]
    omega

/-- The splitter behind the packets of the frame, whether or not it is complete. -/
theorem CloseInv.frame (h : CloseInv n s) (hn : 30 < n) (hlimit : n ≤ 40001)
    (hnumbers : FrameNumbers n s.frame) (hpkt : Deliverable n s.frame pkt)
    (hclose : Close n s pkt) :
    (∀ pkt' ∈ s.frame ++ [pkt],
        pkt'.number ≤ (nextSeq s.strategy.prevSeq pkt.pktSeq).toNat) ∧
      (∃ pkt' ∈ s.frame ++ [pkt],
        pkt'.number = (nextSeq s.strategy.prevSeq pkt.pktSeq).toNat) ∧
      ∀ k, 1 ≤ k → k + 10 ≤ (nextSeq s.strategy.prevSeq pkt.pktSeq).toNat →
        k ∈ (s.frame ++ [pkt]).map SeqMsopPkt.number := by
  have hnew : pkt ∈ s.frame ++ [pkt] := List.mem_append_right _ List.mem_cons_self
  rw [List.map_append]
  by_cases hframe : s.frame = []
  · rw [(h.first hn hframe hclose).2]
    refine ⟨?_, ⟨pkt, hnew, rfl⟩, fun k hk hlow => List.mem_append_left _ (hclose.lower k hk hlow)⟩
    intro pkt' hpkt'
    rw [hframe] at hpkt'
    rw [List.mem_singleton.mp hpkt']
  · obtain ⟨top, htop, hprev⟩ := h.highest hframe
    rw [(h.inside hlimit hnumbers hframe hpkt hclose).2]
    refine ⟨?_, ?_, ?_⟩
    · intro pkt' hpkt'
      rcases List.mem_append.mp hpkt' with hold | hlast
      · exact Nat.le_trans (h.seen pkt' hold) (Nat.le_max_left _ _)
      · rw [List.mem_singleton.mp hlast]
        exact Nat.le_max_right _ _
    · rcases Nat.le_total s.strategy.prevSeq.toNat pkt.number with hle | hle
      · exact ⟨pkt, hnew, (Nat.max_eq_right hle).symm⟩
      · exact ⟨top, List.mem_append_left _ htop, hprev.trans (Nat.max_eq_left hle).symm⟩
    · intro k hk hlow
      rcases Nat.le_total s.strategy.prevSeq.toNat pkt.number with hle | hle
      · rw [Nat.max_eq_right hle] at hlow
        exact List.mem_append_left _ (hclose.lower k hk hlow)
      · rw [Nat.max_eq_left hle] at hlow
        exact List.mem_append_left _ (h.lower hframe k hk hlow)

theorem CloseInv.step (h : CloseInv n s) (hn : 30 < n) (hlimit : n ≤ 40001)
    (hnumbers : FrameNumbers n s.frame) (hpkt : Deliverable n s.frame pkt)
    (hclose : Close n s pkt) (hstep : s.deliver n pkt = some s')
    (hstrategy : s'.strategy = (s.strategy.newPacket pkt.pktSeq).1) : CloseInv n s' := by
  obtain ⟨-, -, hcases⟩ := deliver_cases hstep
  obtain ⟨hseen, ⟨top, htop, hprev⟩, hlower⟩ := h.frame hn hlimit hnumbers hpkt hclose
  have hnumbers' := hnumbers.append hpkt
  have hnext : s'.strategy.prevSeq = nextSeq s.strategy.prevSeq pkt.pktSeq := by
    rw [hstrategy]
    exact (newPacket_eq h.inRange pkt.pktSeq).2
  have hrange : s'.strategy.InRange := by
    rw [hstrategy]
    exact newPacket_inRange _ _
  rw [← hnext] at hseen hprev hlower
  rcases hcases with ⟨hlength, hcomplete, hframe⟩ | ⟨hlength, hcomplete, hframe⟩
  · -- the frame is complete, and its highest packet is the last one
    refine ⟨hrange, ?_, ?_, ?_, ?_, ?_⟩
    · intro _ hnone
      rw [hcomplete] at hnone
      exact absurd hnone (List.append_ne_nil_of_right_ne_nil _ (List.cons_ne_nil _ _))
    · intro _ _
      obtain ⟨last, hlast, hnumber⟩ := hnumbers'.complete (k := n)
        (by rw [List.length_append]; exact hlength) (by omega) (Nat.le_refl n)
      apply Nat.le_antisymm
      · rw [← hprev]
        exact (hnumbers'.range top htop).2
      · rw [← hnumber]
        exact hseen last hlast
    · intro pkt' hpkt'
      rw [hframe] at hpkt'
      cases hpkt'
    · exact fun hsome => absurd hframe hsome
    · exact fun hsome => absurd hframe hsome
  · have hsome : s'.frame ≠ [] := by
      rw [hframe]
      exact List.append_ne_nil_of_right_ne_nil _ (List.cons_ne_nil _ _)
    refine ⟨hrange, fun hnone => absurd hnone hsome, fun hnone => absurd hnone hsome, ?_, ?_, ?_⟩
    · rw [hframe]
      exact hseen
    · rw [hframe]
      exact fun _ => ⟨top, htop, hprev⟩
    · rw [hframe]
      exact fun _ => hlower

/-- Packets that stay close go back from frame to frame only. -/
theorem CloseInv.frameOk (h : CloseInv n s) (hn : 30 < n) (hlimit : n ≤ 40001)
    (hnumbers : FrameNumbers n s.frame) (hpkt : Deliverable n s.frame pkt)
    (hclose : Close n s pkt) : FrameOk n s pkt := by
  intro hcomplete
  refine ⟨?_, hclose.last hcomplete⟩
  split
  · rename_i hframe
    exact .inl ((h.first hn hframe hclose).1 hcomplete)
  · rename_i hframe
    exact (h.inside hlimit hnumbers hframe hpkt hclose).1

/-- **One cloud for each frame of packets that stay close.** No packet comes behind one
that is higher by `RANGE` or more, and the last one comes last. -/
theorem rsm1_oneCloudPerFrame_close (hdense : param.densePoints = false) (hn : 30 < n)
    (hlimit : n ≤ 40001) (h : Run (FrameFeed.deliver n) (Close n) .init tr s) :
    OneCloudPerFrame s := by
  have hrun : Run (FrameFeed.deliver n) (FrameOk n) .init tr s ∧ CloseInv n s := by
    induction h with
    | nil =>
      refine ⟨.nil, init_inRange, fun _ _ => rfl, fun _ hsome => absurd rfl hsome,
        fun _ hnone => (nomatch hnone), fun hsome => absurd rfl hsome, fun hsome => absurd rfl hsome⟩
    | snoc hbefore hclose hstep ih =>
      obtain ⟨hok, hinv⟩ := ih
      obtain ⟨hpkt, hdriver, -⟩ := deliver_cases hstep
      have hfeed := run_feedInv hdense hn hlimit hok
      refine ⟨hok.snoc (hinv.frameOk hn hlimit hfeed.numbers hpkt hclose) hstep, ?_⟩
      apply hinv.step hn hlimit hfeed.numbers hpkt hclose hstep
      rw [(next_refines hdense hfeed.refines hpkt hdriver).strategy, hfeed.refines.strategy]
      rfl
  exact (run_feedInv hdense hn hlimit hrun.1).oneCloudPerFrame

end Close

end Rs
end SensorSupport
