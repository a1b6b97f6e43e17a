/-
# Block iterators (`rs_driver/driver/decoder/block_iterator.hpp`)

The constructor of an iterator fills two tables, with the way from each block to the next one and
with the time of the block from the start of the packet, and `get` reads them. Blocks that belong
together, as those of two returns, have the same entries: the iterator goes from group to group,
and compares the azimuths of their first blocks. The last group has no next one, and a gap of
more than a degree is the blind zone; both have constants for their way.

The tables have 16 entries. With at most 16 blocks in whole groups all of them are written, and
are those of the iterator for single blocks on a packet with one block for each group. A time may
be a number of any kind: the iterators only add.

Key definitions: `BlockTable`, `groupLoop`, `groupIterator`, `Agrees`.
Key theorems: `groupLoop_filled`, `groupIterator_get`, `blockIterators_agree`.
-/
import SensorSupport.Rs.TrigonLookups

namespace SensorSupport
namespace Rs

variable {T : Type}

/-- `MAX_BLOCKS_PER_PKT` -/
def maxBlocksPerPkt : ℕ := 16

/-- The constants of `BlockIterator`. -/
structure BlockParam (T : Type) where
  blockDuration : T
  blockAzDuration : ℕ
  fovBlindDuration : T

/-- `az_diffs` and `tss`, whose entries are not initialized. -/
structure BlockTable (T : Type) where
  azDiffs : List (Option ℤ)
  tss : List (Option T)

namespace BlockTable

def empty : BlockTable T :=
  ⟨List.replicate maxBlocksPerPkt none, List.replicate maxBlocksPerPkt none⟩

/-- The entries of a block are written. -/
def write (blk : ℕ) (azDiff : ℤ) (ts : T) (table : BlockTable T) : BlockTable T :=
  ⟨table.azDiffs.set blk (some azDiff), table.tss.set blk (some ts)⟩

/-- The entries of `k` blocks are written, from `blk` on. -/
def writeGroup (k blk : ℕ) (azDiff : ℤ) (ts : T) (table : BlockTable T) : BlockTable T :=
  (List.range k).foldl (fun table i => table.write (blk + i) azDiff ts) table

/-- `get`, of entries that have been written. -/
def get (table : BlockTable T) (blk : ℕ) : Option (ℤ × T) :=
  match table.azDiffs.getD blk none, table.tss.getD blk none with
  | some azDiff, some ts => some (azDiff, ts)
  | _, _ => none

end BlockTable

/-- The way from an azimuth to the next and the time for it, both constants across the blind
zone. -/
def wayTo (p : BlockParam T) (az next : UInt16) : ℤ × T :=
  let azDiff : ℤ := next.toNat - az.toNat
  let azDiff := if azDiff < 0 then azDiff + 36000 else azDiff
  if 100 < azDiff then (p.blockAzDuration, p.fovBlindDuration) else (azDiff, p.blockDuration)

section Loop

variable [Add T]

/-- The loop over groups of `k` blocks, from block `blk` and time `tss` on: block and time of the
last group, and the tables without it. -/
def groupLoop (k : ℕ) (p : BlockParam T) (azs : List UInt16) :
    ℕ → ℕ → T → BlockTable T → ℕ × T × BlockTable T
  | 0, blk, tss, table => (blk, tss, table)
  | fuel + 1, blk, tss, table =>
    if (blk : ℤ) < azs.length - k then
      let way := wayTo p (azs.getD blk 0) (azs.getD (blk + k) 0)
      groupLoop k p azs fuel (blk + k) (tss + way.2) (table.writeGroup k blk way.1 tss)
    else (blk, tss, table)

variable [Zero T]

/-- The constructors, for groups of `k` blocks. A packet is the azimuths of its blocks, in host
byte order. -/
def groupIterator (k : ℕ) (p : BlockParam T) (azs : List UInt16) : BlockTable T :=
  let r := groupLoop k p azs azs.length 0 0 .empty
  r.2.2.writeGroup k r.1 p.blockAzDuration r.2.1

/-- `SingleReturnBlockIterator` -/
def singleReturnBlockIterator (p : BlockParam T) (azs : List UInt16) : BlockTable T :=
  groupIterator 1 p azs

/-- `DualReturnBlockIterator` -/
def dualReturnBlockIterator (p : BlockParam T) (azs : List UInt16) : BlockTable T :=
  groupIterator 2 p azs

/-- `TwoInOneBlockIterator` -/
def twoInOneBlockIterator (p : BlockParam T) (azs : List UInt16) : BlockTable T :=
  groupIterator 2 p azs

/-- `FourInOneBlockIterator` -/
def fourInOneBlockIterator (p : BlockParam T) (azs : List UInt16) : BlockTable T :=
  groupIterator 4 p azs

/-- The time of a group. -/
def groupTs (k : ℕ) (p : BlockParam T) (azs : List UInt16) : ℕ → T
  | 0 => 0
  | j + 1 => groupTs k p azs j + (wayTo p (azs.getD (j * k) 0) (azs.getD (j * k + k) 0)).2

end Loop

/-- The blocks of each group have the same azimuth. -/
def SharesAzimuth (k : ℕ) (azs : List UInt16) : Prop :=
  ∀ blk < azs.length, azs.getD blk 0 = azs.getD (blk / k * k) 0

/-- The packet that keeps block `keep j` of each group `j`. -/
def keepOne (k : ℕ) (keep : ℕ → ℕ) (azs : List UInt16) : List UInt16 :=
  (List.range (azs.length / k)).map fun j => azs.getD (j * k + keep j) 0

/-- The iterator has entries for all blocks, those that `SingleReturnBlockIterator` has for their
groups in any packet that keeps one block of each. -/
def Agrees [Add T] [Zero T] (k : ℕ) (iterator : BlockParam T → List UInt16 → BlockTable T)
    (p : BlockParam T) (azs : List UInt16) : Prop :=
  azs.length ≤ maxBlocksPerPkt → k ∣ azs.length → SharesAzimuth k azs →
    ∀ keep : ℕ → ℕ, (∀ j, keep j < k) → ∀ blk < azs.length,
      ∃ entry, (iterator p azs).get blk = some entry ∧
        (singleReturnBlockIterator p (keepOne k keep azs)).get (blk / k) = some entry

section Filled

variable {table : BlockTable T}

/-- The tables have entries for 16 blocks. -/
def BlockTable.Sized (table : BlockTable T) : Prop :=
  table.azDiffs.length = maxBlocksPerPkt ∧ table.tss.length = maxBlocksPerPkt

theorem sized_empty : (BlockTable.empty : BlockTable T).Sized :=
  ⟨List.length_replicate, List.length_replicate⟩

theorem BlockTable.Sized.write (h : table.Sized) (blk : ℕ) (azDiff : ℤ) (ts : T) :
    (table.write blk azDiff ts).Sized :=
  ⟨List.length_set.trans h.1, List.length_set.trans h.2⟩

/-- A block that is written, and the others. -/
theorem get_write (h : table.Sized) {blk : ℕ} (hblk : blk < maxBlocksPerPkt) (azDiff : ℤ) (ts : T)
    (i : ℕ) :
    (table.write blk azDiff ts).get i = if i = blk then some (azDiff, ts) else table.get i := by
  unfold BlockTable.get BlockTable.write
  dsimp only
  rw [List.getD_eq_getElem?_getD, List.getD_eq_getElem?_getD, List.getElem?_set,
    List.getElem?_set, h.1, h.2]
  by_cases hi : i = blk
  · subst hi
    simp [hblk]
  · rw [if_neg (Ne.symm hi), if_neg (Ne.symm hi), if_neg hi]
    rfl

/-- The blocks of a group, and the others. -/
theorem get_writeGroup (h : table.Sized) {k blk : ℕ} (hk : blk + k ≤ maxBlocksPerPkt) (azDiff : ℤ)
    (ts : T) :
    (table.writeGroup k blk azDiff ts).Sized ∧ ∀ i,
      (table.writeGroup k blk azDiff ts).get i =
        if blk ≤ i ∧ i < blk + k then some (azDiff, ts) else table.get i := by
  induction k with
  | zero => exact ⟨h, fun i => (if_neg (by omega)).symm⟩
  | succ k ih =>
    obtain ⟨hsized, hget⟩ := ih (by omega)
    have hlast : table.writeGroup (k + 1) blk azDiff ts =
        (table.writeGroup k blk azDiff ts).write (blk + k) azDiff ts := by
      unfold BlockTable.writeGroup
      rw [List.range_succ, List.foldl_append]
      rfl
    rw [hlast]
    refine ⟨hsized.write .., fun i => ?_⟩
    rw [get_write hsized (by omega), hget]
    by_cases hi : i = blk + k
    · rw [if_pos hi, if_pos (by omega)]
    · rw [if_neg hi]
      by_cases hin : blk ≤ i ∧ i < blk + k
      · rw [if_pos hin, if_pos (by omega)]
      · rw [if_neg hin, if_neg (by omega)]

end Filled

section Iterators

variable [Add T] [Zero T] {k : ℕ} {p : BlockParam T} {azs : List UInt16}

/-- The entries of a block. -/
def blockEntry (k : ℕ) (p : BlockParam T) (azs : List UInt16) (blk : ℕ) : ℤ × T :=
  (groupAzDiffs k p.blockAzDuration azs blk, groupTs k p azs (blk / k))

/-- The groups before group `j` are filled. -/
structure FilledTo (k : ℕ) (p : BlockParam T) (azs : List UInt16) (j : ℕ) (table : BlockTable T) :
    Prop where
  sized : table.Sized
  get : ∀ blk < j * k, table.get blk = some (blockEntry k p azs blk)

omit [Add T] [Zero T] in
theorem wayTo_fst (p : BlockParam T) (az next : UInt16) :
    (wayTo p az next).1 = azDiffTo p.blockAzDuration az next := by
  unfold wayTo azDiffTo
  dsimp only
  split <;> · split <;> rfl

/-- A group is filled. -/
theorem FilledTo.writeGroup {j : ℕ} {table : BlockTable T} (h : FilledTo k p azs j table)
    (hk : 0 < k) (hj : j * k + k ≤ maxBlocksPerPkt) :
    FilledTo k p azs (j + 1) (table.writeGroup k (j * k) (groupAzDiffs k p.blockAzDuration azs
      (j * k)) (groupTs k p azs j)) := by
  obtain ⟨hsized, hget⟩ := get_writeGroup h.sized hj
    (groupAzDiffs k p.blockAzDuration azs (j * k)) (groupTs k p azs j)
  refine ⟨hsized, fun blk hblk => ?_⟩
  rw [Nat.add_mul, Nat.one_mul] at hblk
  rw [hget]
  by_cases hin : j * k ≤ blk ∧ blk < j * k + k
  · have hgroup : blk / k = j := by
      rw [Nat.div_eq_iff hk]
      omega
    rw [if_pos hin]
    unfold blockEntry groupAzDiffs
    rw [hgroup, Nat.mul_div_cancel j hk]
  · rw [if_neg hin]
    exact h.get blk (by omega)

/-- **The loop fills all groups but the last.** -/
theorem groupLoop_filled {m : ℕ} (hk : 0 < k) (hm : azs.length = m * k)
    (h16 : azs.length ≤ maxBlocksPerPkt) {fuel j : ℕ} {table : BlockTable T}
    (hj : j ≤ m - 1) (hfuel : m - 1 ≤ j + fuel) (h : FilledTo k p azs j table) :
    ∃ table', groupLoop k p azs fuel (j * k) (groupTs k p azs j) table =
        ((m - 1) * k, groupTs k p azs (m - 1), table') ∧ FilledTo k p azs (m - 1) table' := by
  induction fuel generalizing j table with
  | zero =>
    obtain rfl : j = m - 1 := by omega
    exact ⟨table, rfl, h⟩
  | succ fuel ih =>
    unfold groupLoop
    by_cases hlt : j < m - 1
    · have hnext : j * k + k < azs.length := by
        have hle := Nat.mul_le_mul_right k (show j + 2 ≤ m by omega)
        rw [Nat.add_mul] at hle
        omega
      have hgroup : groupAzDiffs k p.blockAzDuration azs (j * k) =
          (wayTo p (azs.getD (j * k) 0) (azs.getD (j * k + k) 0)).1 := by
        unfold groupAzDiffs
        rw [Nat.mul_div_cancel j hk, if_pos hnext, wayTo_fst]
      have hfilled := h.writeGroup hk (by omega)
      rw [hgroup] at hfilled
      rw [if_pos (by omega)]
      have hrest := ih (by omega) (by omega) hfilled
      rwa [Nat.add_mul, Nat.one_mul] at hrest
    · obtain rfl : j = m - 1 := by omega
      have hlast : ¬ (((m - 1) * k : ℕ) : ℤ) < azs.length - k := by
        cases m with
        | zero => omega
        | succ m =>
          rw [Nat.add_mul] at hm
          rw [Nat.add_sub_cancel]
          omega
      rw [if_neg hlast]
      exact ⟨table, rfl, h⟩

/-- **The entries of all blocks are written.** -/
theorem groupIterator_get (hk : 0 < k) (h16 : azs.length ≤ maxBlocksPerPkt) (hdvd : k ∣ azs.length)
    {blk : ℕ} (hblk : blk < azs.length) :
    (groupIterator k p azs).get blk = some (blockEntry k p azs blk) := by
  obtain ⟨m, hm⟩ := hdvd
  rw [Nat.mul_comm] at hm
  have hpos : 0 < m := by
    rcases Nat.eq_zero_or_pos m with rfl | hpos
    · omega
    · exact hpos
  have hle : m ≤ azs.length := by
    rw [hm]
    exact Nat.le_mul_of_pos_right m hk
  have hstart : FilledTo k p azs 0 .empty := ⟨sized_empty, fun blk h => by omega⟩
  obtain ⟨table, hloop, hfilled⟩ : ∃ table, groupLoop k p azs azs.length (0 * k)
      (groupTs k p azs 0) .empty = ((m - 1) * k, groupTs k p azs (m - 1), table) ∧ _ :=
    groupLoop_filled hk hm h16 (Nat.zero_le _) (by omega) hstart
  rw [Nat.zero_mul] at hloop
  have hlast : (m - 1) * k + k = azs.length := by
    rw [hm, Nat.sub_mul, Nat.one_mul]
    exact Nat.sub_add_cancel (Nat.le_mul_of_pos_left k hpos)
  have htail : groupAzDiffs k p.blockAzDuration azs ((m - 1) * k) = p.blockAzDuration := by
    unfold groupAzDiffs
    rw [Nat.mul_div_cancel _ hk, if_neg (by omega)]
  have hall := hfilled.writeGroup hk (by omega)
  rw [htail, Nat.sub_add_cancel hpos] at hall
  unfold groupIterator
  rw [show groupLoop k p azs azs.length 0 0 .empty = _ from hloop]
  exact hall.get blk (hm ▸ hblk)

/-! ### One block of each group -/

theorem keepOne_length (k : ℕ) (keep : ℕ → ℕ) (azs : List UInt16) :
    (keepOne k keep azs).length = azs.length / k := by
  rw [keepOne, List.length_map, List.length_range]

/-- The azimuth that is kept is that of the first block. -/
theorem keepOne_getD (hdvd : k ∣ azs.length) (hshares : SharesAzimuth k azs) {keep : ℕ → ℕ}
    (hkeep : ∀ j, keep j < k) {j : ℕ} (hj : j < azs.length / k) :
    (keepOne k keep azs).getD j 0 = azs.getD (j * k) 0 := by
  have hk : 0 < k := Nat.zero_lt_of_lt (hkeep j)
  have hblk : j * k + keep j < azs.length := by
    have hle := Nat.mul_le_mul_right k (Nat.succ_le_of_lt hj)
    rw [Nat.div_mul_cancel hdvd, Nat.succ_mul] at hle
    have hlast := hkeep j
    omega
  have hgroup : (j * k + keep j) / k = j := by
    rw [Nat.add_comm, Nat.add_mul_div_right _ _ hk, Nat.div_eq_of_lt (hkeep j), Nat.zero_add]
  have hkept : (keepOne k keep azs).getD j 0 = azs.getD (j * k + keep j) 0 := by
    unfold keepOne
    rw [List.getD_eq_getElem _ _ (by rwa [List.length_map, List.length_range]), List.getElem_map,
      List.getElem_range]
  rw [hkept, hshares _ hblk, hgroup]

/-- The times of the groups are those of the blocks that are kept. -/
theorem groupTs_keepOne (hdvd : k ∣ azs.length) (hshares : SharesAzimuth k azs) {keep : ℕ → ℕ}
    (hkeep : ∀ j, keep j < k) {j : ℕ} (hj : j < azs.length / k) :
    groupTs 1 p (keepOne k keep azs) j = groupTs k p azs j := by
  induction j with
  | zero => rfl
  | succ j ih =>
    unfold groupTs
    rw [ih (by omega), Nat.mul_one, keepOne_getD hdvd hshares hkeep (by omega),
      keepOne_getD hdvd hshares hkeep hj, Nat.succ_mul]

theorem blockEntry_keepOne (hdvd : k ∣ azs.length) (hshares : SharesAzimuth k azs)
    {keep : ℕ → ℕ} (hkeep : ∀ j, keep j < k) {blk : ℕ} (hblk : blk / k < azs.length / k) :
    blockEntry 1 p (keepOne k keep azs) (blk / k) = blockEntry k p azs blk := by
  have hk : 0 < k := Nat.zero_lt_of_lt (hkeep 0)
  have hnext : blk / k + 1 < azs.length / k ↔ blk / k * k + k < azs.length := by
    rw [← Nat.mul_lt_mul_right hk, Nat.div_mul_cancel hdvd, Nat.add_mul, Nat.one_mul]
  have hway : groupAzDiffs 1 p.blockAzDuration (keepOne k keep azs) (blk / k) =
      groupAzDiffs k p.blockAzDuration azs blk := by
    unfold groupAzDiffs
    rw [Nat.div_one, Nat.mul_one, keepOne_length]
    by_cases h : blk / k + 1 < azs.length / k
    · dsimp only
      rw [if_pos h, if_pos (hnext.mp h), keepOne_getD hdvd hshares hkeep hblk,
        keepOne_getD hdvd hshares hkeep h, Nat.add_mul, Nat.one_mul]
    · exact (if_neg h).trans (if_neg fun h' => h (hnext.mpr h')).symm
  unfold blockEntry
  rw [hway, Nat.div_one, groupTs_keepOne hdvd hshares hkeep hblk]

/-- The iterator for groups of `k` blocks agrees with that for single blocks. -/
theorem groupIterator_agrees (hk : 0 < k) (p : BlockParam T) (azs : List UInt16) :
    Agrees k (groupIterator k) p azs := by
  intro h16 hdvd hshares keep hkeep blk hblk
  have hgroup : blk / k < azs.length / k := by
    rw [Nat.div_lt_iff_lt_mul hk, Nat.div_mul_cancel hdvd]
    exact hblk
  have hkept : (keepOne k keep azs).length ≤ maxBlocksPerPkt := by
    rw [keepOne_length]
    exact Nat.le_trans (Nat.div_le_self ..) h16
  refine ⟨blockEntry k p azs blk, groupIterator_get hk h16 hdvd hblk, ?_⟩
  rw [← blockEntry_keepOne hdvd hshares hkeep hgroup]
  refine groupIterator_get Nat.one_pos hkept (one_dvd _) ?_
  rwa [keepOne_length]

/-- **The iterators for two returns, two blocks and four blocks agree with that for one return on
the packet that keeps one block of each group, and all entries that are read were written.** -/
theorem blockIterators_agree (p : BlockParam T) (azs : List UInt16) :
    Agrees 1 singleReturnBlockIterator p azs ∧ Agrees 2 dualReturnBlockIterator p azs ∧
      Agrees 2 twoInOneBlockIterator p azs ∧ Agrees 4 fourInOneBlockIterator p azs :=
  ⟨groupIterator_agrees (by decide) p azs, groupIterator_agrees (by decide) p azs,
    groupIterator_agrees (by decide) p azs, groupIterator_agrees (by decide) p azs⟩

/-- A packet of two returns that goes over zero and over the blind zone. -/
def dualReturnPacket : List UInt16 := [35980, 35980, 0, 0, 20, 20, 300, 300]

/-- The iterator for two returns, and that for one on the second blocks. -/
theorem blockIterators_agree_dual :
    let p : BlockParam ℕ := ⟨55, 20, 900⟩
    (dualReturnBlockIterator p dualReturnPacket).get 5 = some (20, 110) ∧
      ∀ blk < 8, ∃ entry, (dualReturnBlockIterator p dualReturnPacket).get blk = some entry ∧
        (singleReturnBlockIterator p [35980, 0, 20, 300]).get (blk / 2) = some entry := by
  intro p
  obtain ⟨-, hdual, -⟩ := blockIterators_agree p dualReturnPacket
  have hshares : SharesAzimuth 2 dualReturnPacket := by
    unfold SharesAzimuth
    decide
  exact ⟨by decide, hdual (by decide) (by decide) hshares (fun _ => 1) fun _ => by decide⟩

end Iterators

end Rs
end SensorSupport
