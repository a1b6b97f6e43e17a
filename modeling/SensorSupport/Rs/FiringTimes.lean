/-
# Firing times (`rs_driver/driver/decoder/decoder_RS*.hpp`, `block_iterator.hpp`)

The channels of a block are fired one behind the other, and the lidar turns on meanwhile.
`CHAN_AZIS` says for each channel which part of the block has passed when it is fired: its
firing time by the time of a block. `BLOCK_DURATION`, with the rounds per second, says how many
blocks a round has and by which azimuth they differ.

The arithmetic is that of `float` and `double`. Times are written in nanoseconds, so that
`2.26f` microseconds are 2260.

Key definitions: `micros`, `blockDuration`, `chanAzis`, `singleChanAzis`, `dualChanAzis`,
`blksOf`, `azDiffOf`.
Key theorems: `chanAzis_bounds`, `singleChanAzis_bounds`, `blockDuration_le`, `azDiffOf_le`.
-/
import SensorSupport.Lib.FloatRounding

namespace SensorSupport
namespace Rs

open FloatRounding

/-- A `float` literal, in nanoseconds. -/
def micros (t : ℕ) : ℚ := single (t / 1000)

/-- `BLOCK_DURATION`: `blk_ts / 1000000`. -/
def blockDuration (blkTs : ℕ) : ℚ := single (micros blkTs / 1000000)

/-- `CHAN_AZIS`: `firing_tss[i] / blk_ts`. -/
def chanAzis (blkTs : ℕ) (firingTss : List ℕ) : List ℚ :=
  firingTss.map fun t => single (micros t / micros blkTs)

/-- `calcChannel` of `Rs16SingleReturnBlockIterator`. -/
def singleChanAzis (blkTs : ℕ) (firingTss : List ℕ) : List ℚ :=
  firingTss.map fun t => single (micros t / single (micros blkTs * 2))

/-- `calcChannel` of `Rs16DualReturnBlockIterator`. -/
def dualChanAzis (blkTs : ℕ) (firingTss : List ℕ) : List ℚ :=
  chanAzis blkTs ((List.range 32).map fun chan => firingTss.getD (chan % 16) 0)

/-- `blks_per_frame_`; the cast cuts off the fraction. -/
def blksOf (rps : UInt16) (duration : ℚ) : UInt16 :=
  UInt16.ofNat ⌊double (1 / double (rps.toNat * duration))⌋.toNat

/-- `block_az_diff_`, by `std::round`. -/
def azDiffOf (rps : UInt16) (duration : ℚ) : UInt16 :=
  UInt16.ofNat ⌊double (36000 * rps.toNat * duration) + 1 / 2⌋.toNat

/-- `block_az_diff_` of RSAIRYLITE_ETH, by a cast. -/
def azDiffLiteOf (rps : UInt16) (duration : ℚ) : UInt16 :=
  UInt16.ofNat ⌊double (36000 * rps.toNat * duration)⌋.toNat

/-! ### The tables -/

/-- Each time for `n` channels. -/
def each (n : ℕ) (ts : List ℕ) : List ℕ := ts.flatMap (List.replicate n)

/-- Times with the number of their channels. -/
def times (ts : List (ℕ × ℕ)) : List ℕ := ts.flatMap fun t => List.replicate t.1 t.2

def rs16Tss : List ℕ :=
  [0, 2800, 5600, 8400, 11200, 14000, 16800, 19600, 22400, 25200, 28000, 30800, 33600, 36400,
    39200, 42000, 55500, 58300, 61100, 63900, 66700, 69500, 72300, 75100, 77900, 80700, 83500,
    86300, 89100, 91900, 94700, 97500]

def rs32Tss : List ℕ :=
  [0, 2880, 5760, 8640, 11520, 14400, 17280, 20160, 23040, 25920, 28800, 31680, 34560, 37440,
    40320, 44640, 1440, 4320, 7200, 10080, 12960, 15840, 18720, 21600, 24480, 27360, 30240, 33120,
    36000, 38880, 41760, 46080]

def rsbpTss : List ℕ :=
  [0, 2560, 5120, 7680, 10240, 12800, 15360, 17920, 25680, 28240, 30800, 33360, 35920, 38480,
    41040, 43600, 1280, 3840, 6400, 8960, 11520, 14080, 16640, 19200, 26960, 29520, 32080, 34640,
    37200, 39760, 42320, 44880]

def rsbpV4Tss : List ℕ :=
  [0, 1670, 3340, 5000, 6670, 8340, 10010, 11680, 13340, 15010, 16680, 18350, 20020, 21680, 23350,
    25020, 26690, 28360, 30020, 31690, 33360, 35030, 36700, 38360, 40030, 41700, 43370, 45040,
    46700, 48370, 50040, 51710]

def rsheliosTss : List ℕ :=
  [0, 1730, 3460, 5190, 6920, 8650, 10380, 12110, 13840, 15570, 17300, 19030, 20760, 22490, 24220,
    25950, 27680, 29410, 31140, 32870, 34600, 36330, 38060, 39790, 41520, 43250, 44980, 46710,
    48440, 50170, 51900, 53630]

def rs48Tss : List ℕ :=
  let half :=
    times [(1, 0), (1, 3236), (1, 6472), (1, 9708), (2, 12944), (2, 16180), (2, 19416), (2, 22652),
      (1, 25888), (1, 29124), (1, 32360), (1, 35596), (2, 38832), (2, 42068), (2, 45304),
      (2, 48540)]
  half ++ half

def rs80Tss : List ℕ :=
  times [(3, 0), (2, 3236), (4, 6472), (3, 9708), (3, 12944), (3, 16180), (3, 19416), (2, 22652),
    (2, 25888), (2, 29124), (2, 32360), (2, 35596), (2, 38832), (2, 42068), (2, 45304),
    (3, 48540), (3, 0), (3, 3236), (3, 6472), (2, 9708), (4, 12944), (2, 16180), (3, 19416),
    (3, 22652), (2, 25888), (2, 29124), (2, 32360), (3, 35596), (2, 38832), (1, 42068),
    (2, 45304), (3, 48540)]

def rs128Tss : List ℕ :=
  let half :=
    each 4 [0, 3236, 6472, 9708, 12944, 16180, 19416, 22652, 25888, 29124, 32360, 35596, 38832,
      42068, 45304, 48540]
  half ++ half

def rsp48Tss : List ℕ :=
  each 2 [0, 1217, 2434, 3652, 4869, 6086, 7304, 8521, 9739, 11323, 12907, 14924, 16941, 18959,
    20976, 23127, 25278, 27428, 29579, 31963, 34347, 36498, 38648, 40666]

def rsp80Tss : List ℕ :=
  times [(4, 0), (4, 1217), (2, 2434), (3, 3652), (2, 4869), (2, 6086), (2, 7304), (2, 8521),
    (2, 9739), (2, 11323), (2, 12907), (2, 14924), (4, 16941), (4, 18959), (4, 20976), (4, 23127),
    (4, 25278), (4, 27428), (4, 29579), (4, 31963), (4, 34347), (4, 36498), (2, 38648),
    (2, 40666), (1, 42683), (1, 50603), (3, 52187), (2, 53771)]

def rsp80vTss : List ℕ :=
  each 4 [0, 1217, 2434, 3652, 4869, 6086, 7304, 8521, 9739, 11323, 12907, 14924, 16941, 18959,
    20976, 23127, 25278, 27428, 29579, 31963]

def rsp128Tss : List ℕ :=
  times [(4, 0), (4, 1130), (4, 2130), (4, 3260), (4, 4260), (4, 5380), (4, 6380), (4, 7510),
    (4, 8510), (4, 10010), (4, 11380), (4, 13310), (4, 15110), (4, 17040), (4, 18850), (5, 21140),
    (4, 23310), (4, 25610), (4, 27780), (4, 30070), (4, 32240), (4, 34540), (4, 36700),
    (4, 38640), (4, 40440), (4, 41940), (4, 43300), (4, 44800), (4, 46170), (4, 47660),
    (4, 49030), (2, 50530), (1, 53771)]

def rsairyMTss : List ℕ :=
  each 8 [0, 7616, 16184, 24752, 33320, 42840, 52360, 61880, 71400, 79968, 88536, 97104]

def rsairy48LTss : List ℕ :=
  each 4 [0, 7616, 16184, 24752, 33320, 42840, 52360, 61880, 71400, 79968, 88536, 97104]

def rsairySideTss : List ℕ :=
  each 8 [0, 11424, 22848, 34272, 45696, 54264, 62832, 71400, 79016, 85680, 92344, 99008]

def rsairyNormalTss : List ℕ :=
  each 8 [0, 5712, 12376, 19040, 25704, 33320, 41888, 50456, 59024, 70448, 81872, 93296]

def rsfairyTss : List ℕ :=
  times [(32, 0), (16, 8160), (16, 31008), (32, 53856)]

def rsfairy48Tss : List ℕ :=
  each 8 [0, 5280, 14080, 28160, 42240, 51040]

def rsairyliteEthTss : List ℕ :=
  each 6 [0, 21460, 64380, 107300]
/-! ### Bounds -/

section Bounds

variable {blkTs : ℕ} {firingTss : List ℕ} {t n : ℕ}

theorem micros_nonneg (t : ℕ) : 0 ≤ micros t := single_nonneg (by positivity)

/-- Whole microseconds are exact. -/
theorem micros_mul (h : n < 2 ^ 24) : micros (1000 * n) = n := by
  unfold micros
  have hdiv : ((1000 * n : ℕ) : ℚ) / 1000 = n := by
    push_cast
    rw [mul_comm, mul_div_assoc, div_self (by norm_num), mul_one]
  rw [hdiv, single_natCast h]

theorem micros_mono {t' : ℕ} (h : t ≤ t') : micros t ≤ micros t' := by
  apply single_mono (by positivity)
  have hcast : (t : ℚ) ≤ t' := by exact_mod_cast h
  linarith

/-- The quotient of two floats, the first one of which is not the greater one. -/
theorem single_div_bounds {x y : ℚ} (hx : 0 ≤ x) (h : x ≤ y) (hy : 0 < y) :
    0 ≤ single (x / y) ∧ single (x / y) ≤ 1 := by
  have hdiv : 0 ≤ x / y := div_nonneg hx hy.le
  refine ⟨single_nonneg hdiv, ?_⟩
  have hone : single 1 = 1 := by exact_mod_cast single_natCast (n := 1) (by norm_num)
  rw [← hone]
  exact single_mono hdiv ((div_le_one hy).mpr h)

/-- **A channel is fired within its block.** -/
theorem chanAzis_bounds (hblk : 1000 ≤ blkTs) (h : ∀ t ∈ firingTss, t ≤ blkTs) :
    ∀ a ∈ chanAzis blkTs firingTss, 0 ≤ a ∧ a ≤ 1 := by
  intro a ha
  obtain ⟨t, ht, rfl⟩ := List.mem_map.mp ha
  have hone : micros (1000 * 1) = (1 : ℕ) := micros_mul (by norm_num)
  have hpos : micros (1000 * 1) ≤ micros blkTs := micros_mono hblk
  rw [hone] at hpos
  push_cast at hpos
  exact single_div_bounds (micros_nonneg t) (micros_mono (h t ht)) (by linarith)

theorem singleChanAzis_bounds (hn : n < 2 ^ 22) (hpos : 0 < n) (hblk : 1000 * n ≤ blkTs)
    (h : ∀ t ∈ firingTss, t ≤ 1000 * (2 * n)) :
    ∀ a ∈ singleChanAzis blkTs firingTss, 0 ≤ a ∧ a ≤ 1 := by
  intro a ha
  obtain ⟨t, ht, rfl⟩ := List.mem_map.mp ha
  have hlow : (n : ℚ) ≤ micros blkTs := by
    rw [← micros_mul (by omega : n < 2 ^ 24)]
    exact micros_mono hblk
  have htwo : ((2 * n : ℕ) : ℚ) ≤ single (micros blkTs * 2) := by
    rw [← single_natCast (by omega : 2 * n < 2 ^ 24)]
    apply single_mono (by positivity)
    push_cast
    linarith
  have hle : micros t ≤ ((2 * n : ℕ) : ℚ) := by
    rw [← micros_mul (by omega : 2 * n < 2 ^ 24)]
    exact micros_mono (h t ht)
  have hcast : (0 : ℚ) < ((2 * n : ℕ) : ℚ) := by exact_mod_cast (by omega : 0 < 2 * n)
  exact single_div_bounds (micros_nonneg t) (hle.trans htwo) (hcast.trans_le htwo)

/-- The duration of a block is below a power of two. -/
theorem blockDuration_le {e : ℤ} (hn : n < 2 ^ 24) (hblk : blkTs ≤ 1000 * n)
    (h : (n : ℚ) / 1000000 ≤ 2 ^ e) : 0 ≤ blockDuration blkTs ∧ blockDuration blkTs ≤ 2 ^ e := by
  have hmicros : micros blkTs ≤ n := by
    rw [← micros_mul hn]
    exact micros_mono hblk
  have hnonneg : 0 ≤ micros blkTs / 1000000 := div_nonneg (micros_nonneg blkTs) (by norm_num)
  refine ⟨single_nonneg hnonneg, ?_⟩
  have hle : micros blkTs / 1000000 ≤ 2 ^ e := by linarith
  unfold blockDuration
  rw [← single_two_zpow e]
  exact single_mono hnonneg hle

/-- A bound on the way of a block bounds what it is rounded to. -/
theorem azDiff_floor_le {x r : ℚ} {b : ℕ} (hb : b < 2 ^ 53) (hx : 0 ≤ x) (h : x ≤ b) (hr : r < 1) :
    ⌊double x + r⌋.toNat ≤ b := by
  have hdouble : double x ≤ b := by
    rw [← double_natCast hb]
    exact double_mono hx h
  have hfloor : ⌊double x + r⌋ < (b : ℤ) + 1 := by
    apply Int.floor_lt.mpr
    push_cast
    linarith
  omega

theorem azDiffOf_le {rps : UInt16} {duration : ℚ} {b : ℕ} (hb : b < 65536)
    (hduration : 0 ≤ duration) (h : 36000 * rps.toNat * duration ≤ b) :
    (azDiffOf rps duration).toNat ≤ b ∧ (azDiffLiteOf rps duration).toNat ≤ b := by
  have hnonneg : 0 ≤ 36000 * (rps.toNat : ℚ) * duration := by positivity
  have hround := azDiff_floor_le (r := 1 / 2) (by omega) hnonneg h (by norm_num)
  have hcut := azDiff_floor_le (r := 0) (by omega) hnonneg h (by norm_num)
  rw [add_zero] at hcut
  unfold azDiffOf azDiffLiteOf
  rw [UInt16.toNat_ofNat_of_lt' (Nat.lt_of_le_of_lt hround hb),
    UInt16.toNat_ofNat_of_lt' (Nat.lt_of_le_of_lt hcut hb)]
  exact ⟨hround, hcut⟩

end Bounds

end Rs
end SensorSupport
