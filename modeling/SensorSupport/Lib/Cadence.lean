/-
# Publications at a fixed pace

Times arrive in batches. What has arrived is published when the last time of a batch
lies in a window at a multiple of the period and is old enough, counted from the first
time since the last publication. When the batches follow each other closely, every
window has a batch that ends in it; whether one of these is old enough depends on how
late in its window the last publication was, and how far behind it the next batch.

The windows are published one after the other, each once, when the age and twice the
gap between the batches exceed the period by 1 at most (`run_oncePerWindow`). With
a greater age a window is left out (`skip_not_oncePerWindow`).

Key definitions: `Batch`, `Steady`, `Windows`, `OncePerWindow`, `skipTimes`.
Key theorems: `run_oncePerWindow`, `skip_not_oncePerWindow`.
-/
import Mathlib.Data.List.Chain
import Mathlib.Data.List.Induction
import Mathlib.Tactic.Common

namespace SensorSupport

/-- A batch of times: its first and its last. -/
structure Batch where
  first : ℕ
  last : ℕ
  first_le : first ≤ last

/-- Each batch begins behind the one before, and ends `gap` behind its end at most. -/
def Steady (gap : ℕ) (bs : List Batch) : Prop :=
  bs.IsChain fun b b' => b.last < b'.first ∧ b'.last ≤ b.last + gap

/-- The windows at the multiples of a period, and the age at which is published. -/
structure Windows where
  period : ℕ
  width : ℕ
  age : ℕ

/-- The first time since the last publication, and the last times of what was published. -/
structure Published where
  base : Option ℕ
  times : List ℕ

namespace Windows

/-- `t` lies in the window at `k` periods. -/
def InWindow (w : Windows) (k t : ℕ) : Prop := k * w.period ≤ t ∧ t < k * w.period + w.width

instance (w : Windows) (k t : ℕ) : Decidable (w.InWindow k t) :=
  inferInstanceAs (Decidable (_ ∧ _))

/-- There is a publication at `last`, of what has arrived since `base`. -/
def due (w : Windows) (base last : ℕ) : Bool :=
  decide (last % w.period < w.width) && decide (w.width ≤ last) && decide (w.age ≤ last - base)

/-- A batch arrives. -/
def step (w : Windows) (p : Published) (b : Batch) : Published :=
  let base := p.base.getD b.first
  if w.due base b.last then ⟨none, p.times ++ [b.last]⟩ else ⟨some base, p.times⟩

/-- Batches arrive one after the other. -/
def run (w : Windows) (bs : List Batch) : Published := bs.foldl w.step ⟨none, []⟩

/-- Up to the time `latest`, every publication is in a window, no window has two, and
each that starts behind a publication and is over has one. -/
structure OncePerWindow (w : Windows) (times : List ℕ) (latest : ℕ) : Prop where
  inside : ∀ t ∈ times, ∃ k, w.InWindow k t
  atMost : ∀ k, times.countP (w.InWindow k) ≤ 1
  reached : ∀ k, (∃ t ∈ times, t < k * w.period) → k * w.period + w.width ≤ latest →
    times.countP (w.InWindow k) = 1

end Windows

variable {w : Windows} {gap k t latest : ℕ} {p : Published} {bs : List Batch} {b : Batch}

theorem Windows.run_concat (w : Windows) (bs : List Batch) (b : Batch) :
    w.run (bs ++ [b]) = w.step (w.run bs) b := by
  unfold run
  rw [List.foldl_append]
  rfl

theorem Steady.init (h : Steady gap (bs ++ [b])) : Steady gap bs :=
  (List.isChain_append.mp h).1

/-- What the last batch is to the one before. -/
theorem Steady.next {b' : Batch} (h : Steady gap (bs ++ [b] ++ [b'])) :
    b.last < b'.first ∧ b'.last ≤ b.last + gap :=
  (List.isChain_append.mp h).2.2 b (by simp) b' (by simp)

/-- What has arrived since the last publication began before the next batch ends. -/
theorem run_base_le (h : Steady gap (bs ++ [b])) : (w.run bs).base.getD b.first ≤ b.last := by
  have hb := b.first_le
  induction bs using List.reverseRecOn generalizing b with
  | nil => exact hb
  | append_singleton bs b' ih =>
    have hle := ih h.init b'.first_le
    have hnext := h.next.1
    rw [Windows.run_concat]
    unfold Windows.step
    dsimp only
    split
    · exact hb
    · rw [Option.getD_some]
      omega

/-- A time within a period behind a multiple of it. -/
theorem div_mod_of_between {period : ℕ} (h : k * period ≤ t) (h' : t < k * period + period) :
    t / period = k ∧ t % period = t - k * period := by
  have hdiv : t / period = k := by
    apply Nat.div_eq_of_lt_le h
    rwa [Nat.succ_mul]
  refine ⟨hdiv, ?_⟩
  have := Nat.div_add_mod' t period
  rw [hdiv] at this
  omega

theorem Windows.inWindow_iff (hwidth : w.width ≤ w.period) :
    w.InWindow k t ↔ t / w.period = k ∧ t % w.period < w.width := by
  have hsplit := Nat.div_add_mod' t w.period
  constructor
  · rintro ⟨hle, hlt⟩
    obtain ⟨hdiv, hmod⟩ := div_mod_of_between hle (by omega)
    exact ⟨hdiv, by omega⟩
  · rintro ⟨rfl, hlt⟩
    exact ⟨by omega, by omega⟩

/-! ### One window after the other -/

/-- The windows published are `times.length` ones in a row, of which `k` is the last and has
the publication at `t`. Behind it the next window is not over, and what has arrived in it
was not old enough. -/
structure Following (w : Windows) (gap latest k t : ℕ) (p : Published) : Prop where
  windows : ∃ k₀, p.times.map (· / w.period) = List.range' k₀ p.times.length ∧
    k₀ + p.times.length = k + 1
  inside : ∀ t ∈ p.times, t % w.period < w.width
  last : w.InWindow k t
  published : p.base = none → latest = t
  waiting : ∀ base ∈ p.base, t < base ∧ base ≤ t + gap ∧ base ≤ latest ∧
    latest < (k + 1) * w.period + w.width ∧
    ((k + 1) * w.period ≤ latest → latest - base < w.age)

section Following

variable (hgap : gap ≤ w.width) (hwidth : w.width ≤ w.period) (hage : w.width ≤ w.age)

include hwidth in
/-- The first publication. -/
theorem following_first {base : ℕ} (hdue : w.due base t = true) :
    Following w gap t (t / w.period) t ⟨none, [t]⟩ := by
  simp only [Windows.due, Bool.and_eq_true, decide_eq_true_eq] at hdue
  refine ⟨⟨t / w.period, rfl, rfl⟩, ?_, ?_, fun _ => rfl, by simp⟩
  · simpa using hdue.1.1
  · exact (Windows.inWindow_iff hwidth).mpr ⟨rfl, hdue.1.1⟩

include hwidth in
/-- As long as nothing was published, a batch is the first publication or leaves it so. -/
theorem publish_or_wait (h : p.times = []) :
    (w.step p b).times = [] ∨ ∃ k t, Following w gap b.last k t (w.step p b) := by
  unfold Windows.step
  dsimp only
  split
  · rename_i hdue
    rw [h]
    exact .inr ⟨_, _, following_first hwidth hdue⟩
  · exact .inl h

include hgap hwidth hage in
/-- **The next batch** is published in the next window, or this one is not over. -/
theorem Following.step (h : Following w gap latest k t p) (hdrift : w.age + 2 * gap ≤ w.period + 1)
    (hfirst : latest < b.first) (hlast : b.last ≤ latest + gap) :
    ∃ k t, Following w gap b.last k t (w.step p b) := by
  obtain ⟨⟨k₀, hwindows, hlength⟩, hinside, ⟨hle, hlt⟩, hpublished, hwaiting⟩ := h
  have hnext : (k + 1) * w.period = k * w.period + w.period := Nat.succ_mul k w.period
  have hb := b.first_le
  -- what has arrived began close behind the last publication
  have hbase : t < p.base.getD b.first ∧ p.base.getD b.first ≤ t + gap ∧
      p.base.getD b.first ≤ b.last := by
    cases hp : p.base with
    | none =>
      have := hpublished hp
      rw [Option.getD_none]
      omega
    | some base =>
      have := hwaiting base hp
      rw [Option.getD_some]
      omega
  -- the batch before lies in the next window when this one is behind it
  have hover : b.last < (k + 1) * w.period + w.width := by
    by_contra hnot
    cases hp : p.base with
    | none =>
      have := hpublished hp
      omega
    | some base =>
      have := hwaiting base hp
      omega
  unfold Windows.step
  dsimp only
  generalize p.base.getD b.first = base at hbase ⊢
  cases hdue : w.due base b.last with
  | true =>
    simp only [Windows.due, Bool.and_eq_true, decide_eq_true_eq] at hdue
    have hin : (k + 1) * w.period ≤ b.last := by
      by_contra hnot
      have hsame : k * w.period ≤ b.last := by omega
      have hmod := (div_mod_of_between hsame (by omega)).2
      omega
    have hdiv := (div_mod_of_between hin (by omega)).1
    refine ⟨k + 1, b.last, ⟨k₀, ?_, ?_⟩, ?_, ⟨hin, hover⟩, fun _ => rfl, by simp⟩
    · rw [if_pos rfl, List.map_append, hwindows, List.map_singleton, hdiv, List.length_append,
        List.length_singleton, List.range'_1_concat, hlength]
    · rw [if_pos rfl, List.length_append, List.length_singleton]
      omega
    · intro t ht
      rw [if_pos rfl, List.mem_append, List.mem_singleton] at ht
      rcases ht with ht | rfl
      · exact hinside t ht
      · exact hdue.1.1
  | false =>
    refine ⟨k, t, ⟨k₀, hwindows, hlength⟩, hinside, ⟨hle, hlt⟩, fun hnone => by simp at hnone, ?_⟩
    intro base' hbase'
    obtain rfl : base = base' := by simpa using hbase'
    refine ⟨hbase.1, hbase.2.1, hbase.2.2, hover, fun hin => ?_⟩
    by_contra hold
    have hmod := (div_mod_of_between hin (by omega)).2
    have : w.due base b.last = true := by
      simp only [Windows.due, Bool.and_eq_true, decide_eq_true_eq]
      omega
    rw [this] at hdue
    cases hdue

include hgap hwidth hage in
/-- Batches that follow each other closely: nothing is published yet, or the windows are
published one after the other. -/
theorem run_following (hdrift : w.age + 2 * gap ≤ w.period + 1) (hbs : Steady gap bs)
    (hlatest : bs.getLast?.map Batch.last = some latest) :
    (w.run bs).times = [] ∨ ∃ k t, Following w gap latest k t (w.run bs) := by
  induction bs using List.reverseRecOn generalizing latest with
  | nil => exact .inl rfl
  | append_singleton bs b ih =>
    obtain rfl : b.last = latest := by simpa using hlatest
    rw [Windows.run_concat]
    rcases List.eq_nil_or_concat' bs with rfl | ⟨bs', b', rfl⟩
    · exact publish_or_wait hwidth rfl
    · have hlatest' : (bs' ++ [b']).getLast?.map Batch.last = some b'.last := by simp
      rcases ih hbs.init hlatest' with hempty | ⟨k, t, hfollowing⟩
      · exact publish_or_wait hwidth hempty
      · exact .inr (hfollowing.step hgap hwidth hage hdrift hbs.next.1 hbs.next.2)

include hwidth in
/-- Windows in a row are published once each. -/
theorem Following.oncePerWindow (h : Following w gap latest k t p) :
    w.OncePerWindow p.times latest := by
  obtain ⟨⟨k₀, hwindows, hlength⟩, hinside, hlast, hpublished, hwaiting⟩ := h
  have hcount : ∀ j, p.times.countP (w.InWindow j) =
      if k₀ ≤ j ∧ j < k₀ + p.times.length then 1 else 0 := by
    intro j
    rw [← List.count_range_1', ← hwindows, List.count, List.countP_map]
    apply List.countP_congr
    intro t ht
    simp [Windows.inWindow_iff hwidth, hinside t ht]
  refine ⟨fun t ht => ⟨_, (Windows.inWindow_iff hwidth).mpr ⟨rfl, hinside t ht⟩⟩, fun j => ?_, ?_⟩
  · rw [hcount]
    split <;> omega
  · rintro j ⟨t', ht', hbehind⟩ hover
    have hmem : t' / w.period ∈ List.range' k₀ p.times.length := by
      rw [← hwindows]
      exact List.mem_map_of_mem ht'
    have hfirst := (List.mem_range'_1.mp hmem).1
    have hlater : t' / w.period < j := Nat.div_lt_of_lt_mul (Nat.mul_comm j _ ▸ hbehind)
    rw [hcount, if_pos]
    refine ⟨by omega, ?_⟩
    by_contra hnot
    have hle : (k + 1) * w.period ≤ j * w.period := Nat.mul_le_mul_right _ (by omega)
    have hnext : (k + 1) * w.period = k * w.period + w.period := Nat.succ_mul k w.period
    cases hp : p.base with
    | none =>
      have := hpublished hp
      have := hlast.2
      omega
    | some base =>
      have := hwaiting base hp
      omega

end Following

/-- **No window is left out and none is published twice** when the age and twice the gap
exceed the period by 1 at most. -/
theorem run_oncePerWindow (hgap : gap ≤ w.width) (hwidth : w.width ≤ w.period)
    (hage : w.width ≤ w.age) (hdrift : w.age + 2 * gap ≤ w.period + 1) (hbs : Steady gap bs)
    (hlatest : bs.getLast?.map Batch.last = some latest) :
    w.OncePerWindow (w.run bs).times latest := by
  rcases run_following hgap hwidth hage hdrift hbs hlatest with hempty | ⟨k, t, hfollowing⟩
  · rw [hempty]
    exact ⟨by simp, by simp, by simp⟩
  · exact hfollowing.oncePerWindow hwidth

/-! ### A window that is left out -/

/-- A batch of one time. -/
def Batch.single (t : ℕ) : Batch := ⟨t, t, le_refl t⟩

/-- The first publication comes as late in its window as can be, the next batch as late
behind it, and a batch as early in the end of the next window as can be. -/
def skipTimes (w : Windows) (gap : ℕ) : List ℕ :=
  let t := w.period + w.width - 1
  List.range' (t - w.age) (w.age + 1) ++
    (List.range' (t + gap) (w.period + 2 - 2 * gap) ++ [2 * w.period + w.width])

/-- Times that are not old enough are waited for. -/
theorem foldl_step_wait {base : ℕ} {times : List ℕ} : ∀ {ts : List ℕ},
    (∀ t ∈ ts, w.due base t = false) →
    (ts.map Batch.single).foldl w.step ⟨some base, times⟩ = ⟨some base, times⟩
  | [], _ => rfl
  | t :: ts, h => by
    have hstep : w.step ⟨some base, times⟩ (.single t) = ⟨some base, times⟩ := by
      have := h t List.mem_cons_self
      simp [Windows.step, Batch.single, this]
    rw [List.map_cons, List.foldl_cons, hstep]
    exact foldl_step_wait fun t ht => h t (List.mem_cons_of_mem _ ht)

/-- Times in a row behind a publication. -/
theorem foldl_step_range' (base : ℕ) {n : ℕ} (times : List ℕ) (hn : 0 < n)
    (h : ∀ t, base ≤ t → t < base + n → w.due base t = false) :
    ((List.range' base n).map Batch.single).foldl w.step ⟨none, times⟩ = ⟨some base, times⟩ := by
  obtain ⟨n, rfl⟩ := Nat.exists_eq_succ_of_ne_zero hn.ne'
  have hfirst : w.step ⟨none, times⟩ (.single base) = ⟨some base, times⟩ := by
    have := h base (le_refl base) (by omega)
    simp [Windows.step, Batch.single, this]
  rw [List.range'_succ, List.map_cons, List.foldl_cons, hfirst]
  apply foldl_step_wait
  intro t ht
  have := List.mem_range'_1.mp ht
  exact h t (by omega) (by omega)

/-- What is not old enough is not due. -/
theorem Windows.due_of_young {base : ℕ} (h : base ≤ t) (h' : t < base + w.age) :
    w.due base t = false := by
  have : ¬ w.age ≤ t - base := by omega
  simp [Windows.due, this]

/-- What lies behind a window is not due. -/
theorem Windows.due_of_outside {base : ℕ} (h : k * w.period ≤ t) (h' : t < k * w.period + w.period)
    (hout : k * w.period + w.width ≤ t) : w.due base t = false := by
  have : ¬ t % w.period < w.width := by
    rw [(div_mod_of_between h h').2]
    omega
  simp [Windows.due, this]

section Skip

variable (hgap : 0 < gap) (hperiod : 2 * gap ≤ w.period) (hwidth : 0 < w.width)
  (hwidth' : w.width < w.period) (hage : 0 < w.age) (hage' : w.age ≤ w.period)
  (hdrift : w.period + 1 < w.age + 2 * gap)

include hperiod hwidth hwidth' hage hage' hdrift in
/-- Only the first of the two windows is published. -/
theorem run_skipTimes :
    (w.run ((skipTimes w gap).map .single)).times = [w.period + w.width - 1] := by
  set t := w.period + w.width - 1 with ht
  have hstart : t - w.age + w.age = t := by omega
  have hdue : w.due (t - w.age) t = true := by
    have hmod : t % w.period = t - 1 * w.period := (div_mod_of_between (by omega) (by omega)).2
    simp only [Windows.due, Bool.and_eq_true, decide_eq_true_eq]
    omega
  have hbefore := foldl_step_range' (w := w) (t - w.age) [] hage
    fun x hx hx' => Windows.due_of_young hx hx'
  have hpublish : w.step ⟨some (t - w.age), []⟩ (.single t) = ⟨none, [t]⟩ := by
    simp [Windows.step, Batch.single, hdue]
  have hbetween := foldl_step_range' (w := w) (n := w.period + 2 - 2 * gap) (t + gap) [t]
    (by omega) fun x hx hx' => Windows.due_of_young hx (by omega)
  have hbehind : w.due (t + gap) (2 * w.period + w.width) = false :=
    Windows.due_of_outside (k := 2) (by omega) (by omega) (by omega)
  have hlast : w.step ⟨some (t + gap), [t]⟩ (.single (2 * w.period + w.width)) =
      ⟨some (t + gap), [t]⟩ := by
    simp [Windows.step, Batch.single, hbehind]
  unfold Windows.run skipTimes
  simp only [← ht, List.range'_1_concat, hstart, List.map_append, List.map_singleton,
    List.foldl_append, List.foldl_cons, List.foldl_nil, hbefore, hpublish, hbetween, hlast]

include hgap hperiod hwidth hage' in
theorem skipTimes_steady : Steady gap ((skipTimes w gap).map .single) := by
  have hrow : ∀ start n : ℕ, (List.range' start n).IsChain fun x y => x < y ∧ y ≤ x + gap := by
    intro start n
    apply (List.isChain_range' start n 1).imp
    rintro x y rfl
    omega
  unfold Steady
  rw [List.isChain_map]
  unfold skipTimes
  dsimp only [Batch.single]
  refine List.isChain_append.mpr ⟨hrow _ _, List.isChain_append.mpr ⟨hrow _ _, ?_, ?_⟩, ?_⟩
  · exact List.isChain_singleton _
  · intro x hx y hy
    rw [List.getLast?_range', if_neg (by omega), Option.mem_some_iff] at hx
    obtain rfl : 2 * w.period + w.width = y := by simpa using hy
    omega
  · intro x hx y hy
    rw [List.getLast?_range', if_neg (by omega), Option.mem_some_iff] at hx
    rw [List.head?_append, List.head?_range', if_neg (by omega), Option.some_or,
      Option.mem_some_iff] at hy
    omega

include hperiod hwidth hage' in
theorem skipTimes_le : ∀ t ∈ skipTimes w gap, t ≤ 2 * w.period + w.width := by
  intro t ht
  simp only [skipTimes, List.mem_append, List.mem_range'_1, List.mem_singleton] at ht
  omega

theorem skipTimes_getLast? : (skipTimes w gap).getLast? = some (2 * w.period + w.width) := by
  simp [skipTimes]

include hperiod hwidth hwidth' hage hage' hdrift in
/-- **A window is left out** with a greater age. -/
theorem skip_not_oncePerWindow :
    ¬ w.OncePerWindow (w.run ((skipTimes w gap).map .single)).times (2 * w.period + w.width) := by
  intro h
  have hreached := h.reached 2
  rw [run_skipTimes hperiod hwidth hwidth' hage hage' hdrift] at hreached
  have hone := hreached ⟨_, List.mem_singleton_self _, by omega⟩ (le_refl _)
  rw [List.countP_singleton] at hone
  split at hone
  · rename_i hin
    have := (of_decide_eq_true hin).1
    omega
  · cases hone

end Skip

end SensorSupport
