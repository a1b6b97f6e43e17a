/-
# Retries of firmware-type queries (`command_handler/general_command_handler.cpp`)

A query of a firmware type that fails is made again. `QueryFwTypeCallback` counts the failures and
gives up behind the eleventh, with the type 1; but the counter is one static variable, so lidars
that fail use up each other's retries, and one that succeeds gives the others new ones.

A lidar with a counter of its own is `FwQuery`, whose outcomes are those of its own queries. The
static counter is that of a lidar that had the outcomes of all of them (`CountInv`). In a run every
lidar does what one with a counter of its own does exactly if, at each outcome, the failures of all
are as few or as many as those of the lidar itself (`fwTypeRetries_run`), as they are when one lidar
fails at a time (`countsOwn_of_oneFails`).

Key definitions: `FwQuery`, `ownQuery`, `OwnRetries`, `CountsOwn`, `CountInv`, `RetryInv`.
Key theorems: `retryInv_step`, `countsOwn_of_ownRetries`, `fwTypeRetries_run`,
`countsOwn_of_oneFails`, `fwTypeRetries_shared`.
-/
import Mathlib.Tactic.IntervalCases
import SensorSupport.Livox.ConfiguredLidars

namespace SensorSupport
namespace Livox

open CommPort BuildRequest DetectedLidars

/-! ### A lidar by itself -/

/-- The failures of a lidar's queries since the last success, its retries and what is known of its
type. -/
structure FwQuery where
  failures : ℕ
  retries : ℕ
  loaderMode : Option Bool

/-- An outcome, which is the type that was received if there is one. -/
def FwQuery.step (q : FwQuery) (outcome : Option UInt8) : FwQuery :=
  if 10 < q.failures then ⟨0, q.retries, some false⟩
  else
    match outcome with
    | none => ⟨q.failures + 1, q.retries + 1, q.loaderMode⟩
    | some fwType => ⟨0, q.retries, some (decide (fwType = 0))⟩

/-- A lidar behind the outcomes of its queries. -/
def ownQuery (outcomes : List (Option UInt8)) : FwQuery := outcomes.foldl FwQuery.step ⟨0, 0, none⟩

/-- The queries of a lidar go on until one is successful or the retries are used up. -/
structure Progress (outcomes : List (Option UInt8)) : Prop where
  retries : (ownQuery outcomes).retries ≤ 11
  pending : (ownQuery outcomes).loaderMode = none →
    outcomes.length = (ownQuery outcomes).retries ∧
      (ownQuery outcomes).failures = (ownQuery outcomes).retries
  done : (ownQuery outcomes).loaderMode ≠ none →
    outcomes.length = (ownQuery outcomes).retries + 1

theorem ownQuery_concat (outcomes : List (Option UInt8)) (outcome : Option UInt8) :
    ownQuery (outcomes ++ [outcome]) = (ownQuery outcomes).step outcome := by
  unfold ownQuery
  rw [List.foldl_append]
  rfl

theorem progress_nil : Progress [] :=
  ⟨Nat.zero_le _, fun _ => ⟨rfl, rfl⟩, fun h => absurd rfl h⟩

/-- An outcome while there is a query. -/
theorem Progress.concat {outcomes : List (Option UInt8)} (h : Progress outcomes)
    (hopen : outcomes.length ≤ (ownQuery outcomes).retries) (outcome : Option UInt8) :
    Progress (outcomes ++ [outcome]) := by
  have hnone : (ownQuery outcomes).loaderMode = none := by
    by_contra hdone
    have hlen := h.done hdone
    omega
  obtain ⟨hlen, hfailures⟩ := h.pending hnone
  have hretries := h.retries
  have hlength : (outcomes ++ [outcome]).length = outcomes.length + 1 := by simp
  by_cases hfull : 10 < (ownQuery outcomes).failures
  · have hstep : ownQuery (outcomes ++ [outcome]) = ⟨0, (ownQuery outcomes).retries, some false⟩ := by
      rw [ownQuery_concat]
      exact if_pos hfull
    constructor <;> rw [hstep]
    · exact hretries
    · exact fun h => nomatch h
    · exact fun _ => by rw [hlength, hlen]
  · cases outcome with
    | none =>
      have hstep : ownQuery (outcomes ++ [none]) = ⟨(ownQuery outcomes).failures + 1,
          (ownQuery outcomes).retries + 1, (ownQuery outcomes).loaderMode⟩ := by
        rw [ownQuery_concat, FwQuery.step, if_neg hfull]
      constructor <;> rw [hstep]
      · dsimp only
        omega
      · exact fun _ => ⟨by rw [hlength, hlen], by rw [hfailures]⟩
      · exact fun h => absurd hnone h
    | some fwType =>
      have hstep : ownQuery (outcomes ++ [some fwType]) =
          ⟨0, (ownQuery outcomes).retries, some (decide (fwType = 0))⟩ := by
        rw [ownQuery_concat, FwQuery.step, if_neg hfull]
      constructor <;> rw [hstep]
      · exact hretries
      · exact fun h => nomatch h
      · exact fun _ => by rw [hlength, hlen]

namespace LidarSetup

/-! ### What is to hold -/

/-- A lidar as if it were the only one. -/
def own (s : LidarSetup) (handle : UInt32) : FwQuery := ownQuery (s.outcomesOf handle)

/-- Each lidar has the retries and the type that it had by itself. Its query is made again until it
is successful or the retries are used up. -/
structure OwnRetries (s : LidarSetup) : Prop where
  retries : ∀ handle, s.retried.count handle = (s.own handle).retries
  loaderMode : ∀ handle, s.lidars.loaderMode handle = (s.own handle).loaderMode
  bounded : ∀ handle, s.retried.count handle ≤ 11
  repeated : ∀ handle ∈ s.queried, s.isQueried handle = true ↔ s.lidars.loaderMode handle = none

/-- The failures of all lidars since the last success of any, or since one was given up. -/
def failuresOfAll (s : LidarSetup) : ℕ := (ownQuery (s.outcomes.map Prod.snd)).failures

/-- The outcome of a query is that of the lidar that was asked. All lidars have failed more than ten
times when this one has, and not before, unless it answers that it is not in loader mode. -/
def CountsOwn (s : LidarSetup) : SetupEvent → Prop
  | .callback cb => cb.command.cb = .queryFwType → cb.handle = cb.command.handle ∧
      ((10 < s.failuresOfAll ↔ 10 < (s.own cb.command.handle).failures) ∨
        (fwTypeOf cb.status cb.data).any (· ≠ 0))
  | _ => True

instance (s : LidarSetup) (e : SetupEvent) : Decidable (CountsOwn s e) :=
  match e with
  | .callback _ => inferInstanceAs (Decidable (_ → _ ∧ (_ ∨ _)))
  | .detection _ _ => .isTrue trivial
  | .custom _ _ => .isTrue trivial

/-- One lidar fails at a time: when a query has an outcome, no other lidar has failed since its own
last success. -/
def OneFails (s : LidarSetup) : SetupEvent → Prop
  | .callback cb => cb.command.cb = .queryFwType → cb.handle = cb.command.handle ∧
      ∀ handle ≠ cb.command.handle, (s.own handle).failures = 0
  | _ => True

/-- The counter counts the failures of all lidars. -/
structure CountInv (s : LidarSetup) : Prop where
  count : s.lidars.count = Int8.ofNat s.failuresOfAll
  bounded : s.failuresOfAll ≤ 11

/-- Lidars are known that are asked, and asked for the first time once. -/
structure RetryInv (s : LidarSetup) : Prop where
  known : ∀ handle, handle ∈ s.queried ∨ handle ∈ s.retried → s.lidars.devices handle ≠ none
  retries : ∀ handle, s.retried.count handle = (s.own handle).retries
  loaderMode : ∀ handle, s.lidars.loaderMode handle = (s.own handle).loaderMode
  progress : ∀ handle, Progress (s.outcomesOf handle)
  first : ∀ handle, s.queried.count handle ≤ 1
  unasked : ∀ handle, handle ∉ s.queried → s.outcomesOf handle = []

/-- What `QueryFwTypeCallback` makes of a counter and an outcome: the type it takes over, if any. -/
def takenOf (n : ℕ) (outcome : Option UInt8) : Option UInt8 := if 10 < n then some 1 else outcome

/-- The callback does to the lidar what the outcome does to it by itself, when its counter and that
of the lidar come to the same, and only then. -/
theorem step_agrees {n : ℕ} {q : FwQuery} {outcome : Option UInt8} :
    (10 < n ↔ 10 < q.failures) ∨ outcome.any (· ≠ 0) ↔
      (q.step outcome).retries =
          (if 10 < n ∨ outcome.isSome then q.retries else q.retries + 1) ∧
        (q.step outcome).loaderMode =
          (takenOf n outcome).elim q.loaderMode fun fwType => some (decide (fwType = 0)) := by
  unfold FwQuery.step takenOf
  by_cases hcount : 10 < n <;> by_cases hfailures : 10 < q.failures <;> cases outcome <;>
    simp [hcount, hfailures]

/-- Every outcome does something to a lidar whose type is not known. -/
theorem step_acts (q : FwQuery) (outcome : Option UInt8) :
    (q.step outcome).retries ≠ q.retries ∨ (q.step outcome).loaderMode ≠ none := by
  unfold FwQuery.step
  split
  · exact .inr (Option.some_ne_none _)
  · cases outcome with
    | none => exact .inl (Nat.succ_ne_self _)
    | some fwType => exact .inr (Option.some_ne_none _)

theorem step_failures (q : FwQuery) (outcome : Option UInt8) : (q.step outcome).failures =
    if 10 < q.failures ∨ outcome.isSome then 0 else q.failures + 1 := by
  unfold FwQuery.step
  by_cases hfull : 10 < q.failures
  · simp [hfull]
  · cases outcome <;> simp [hfull]

/-! ### Steps -/

section Steps

variable {s s' : LidarSetup} {e : SetupEvent} {handle : UInt32}

/-- The query has one more outcome. -/
theorem outcomesOf_concat {asked : UInt32} {outcome : Option UInt8}
    (h : s'.outcomes = s.outcomes ++ [(asked, outcome)]) (handle : UInt32) :
    s'.outcomesOf handle =
      if asked = handle then s.outcomesOf handle ++ [outcome] else s.outcomesOf handle := by
  unfold outcomesOf
  rw [h, List.filter_append, List.map_append]
  by_cases heq : asked = handle
  · simp [heq]
  · simp [heq]

theorem retryInv_init (masterSdk : Option Bool) (hostIp : List UInt8) (memory : ℕ) :
    RetryInv (init masterSdk hostIp memory) := by
  constructor
  · rintro handle (h | h) <;> exact absurd h List.not_mem_nil
  · exact fun _ => rfl
  · exact fun _ => rfl
  · exact fun _ => progress_nil
  · exact fun _ => Nat.zero_le _
  · exact fun _ _ => rfl

/-- A lidar that has a query without an outcome has not come to the end of its outcomes. -/
theorem RetryInv.open (h : RetryInv s) (hqueried : s.isQueried handle = true) :
    handle ∈ s.queried ∧ (s.outcomesOf handle).length ≤ (s.own handle).retries := by
  have hlen : (s.outcomesOf handle).length < s.queried.count handle + s.retried.count handle :=
    of_decide_eq_true hqueried
  rw [h.retries] at hlen
  have hmem : handle ∈ s.queried := by
    by_contra hnot
    rw [List.count_eq_zero_of_not_mem hnot, own, h.unasked handle hnot] at hlen
    exact absurd hlen (Nat.not_lt_zero _)
  have hfirst := h.first handle
  exact ⟨hmem, by omega⟩

/-- A step without the outcome of a query, which may ask a lidar for the first time. -/
structure QuietStep (s s' : LidarSetup) : Prop where
  grows : Grows s.lidars s'.lidars
  keeps : KeepsTypes s.lidars s'.lidars
  retried : s'.retried = s.retried
  outcomes : s'.outcomes = s.outcomes
  queried : s'.queried = s.queried ∨ ∃ handle, s.lidars.devices handle = none ∧
    s'.lidars.devices handle ≠ none ∧ s'.queried = s.queried ++ [handle]

/-- The event is the outcome of a query. -/
def IsQueryOutcome (e : SetupEvent) : Prop :=
  ∃ cb, e = .callback cb ∧ cb.command.cb = .queryFwType

theorem countsOwn_of_other (h : ¬ IsQueryOutcome e) : CountsOwn s e := by
  cases e with
  | detection handle packet => trivial
  | custom handle cfg => trivial
  | callback cb => exact fun hcb => absurd ⟨cb, rfl, hcb⟩ h

/-- Any other step is quiet. -/
theorem quietStep (hstep : s.step e = some s') (hother : ¬ IsQueryOutcome e) : QuietStep s s' := by
  cases e with
  | detection handle packet =>
    obtain ⟨hlidars, devType, hdet⟩ := handleDetectionData_step hstep
    obtain ⟨hgrows, hkeeps⟩ := handleDetectionData_grows hlidars
    exact ⟨hgrows, hkeeps, hdet.retried, hdet.outcomes, hdet.queried.imp_right fun h => ⟨handle, h⟩⟩
  | custom handle cfg =>
    obtain rfl := Option.some.inj hstep
    exact ⟨.refl _, .refl _, rfl, rfl, .inl rfl⟩
  | callback cb =>
    change s.callback cb = some s' at hstep
    have hgrows : Grows s.lidars s'.lidars := callback_lidars hstep ▸ runCallback_grows s.lidars cb
    unfold callback at hstep
    cases hcb : cb.command.cb with
    | queryFwType => exact absurd ⟨cb, rfl, hcb⟩ hother
    | updateLidar devType =>
      rw [hcb] at hstep
      dsimp only at hstep
      split at hstep
      · obtain rfl := Option.some.inj hstep
        exact ⟨hgrows, updateLidarCallback_keepsTypes .., rfl, rfl, .inl rfl⟩
      · cases hstep
    | other =>
      rw [hcb] at hstep
      obtain rfl := Option.some.inj hstep
      exact ⟨.refl _, .refl _, rfl, rfl, .inl rfl⟩

theorem QuietStep.own (h : QuietStep s s') (handle : UInt32) :
    s'.outcomesOf handle = s.outcomesOf handle ∧ s'.own handle = s.own handle := by
  unfold LidarSetup.own outcomesOf
  rw [h.outcomes]
  exact ⟨rfl, rfl⟩

theorem QuietStep.failuresOfAll (h : QuietStep s s') : s'.failuresOfAll = s.failuresOfAll := by
  unfold LidarSetup.failuresOfAll
  rw [h.outcomes]

theorem QuietStep.retryInv (hquiet : QuietStep s s') (h : RetryInv s) : RetryInv s' := by
  have hown := fun handle => (hquiet.own handle).1
  have hgrows := hquiet.grows
  refine ⟨fun handle' hmem => ?_, fun handle => ?_, fun handle => ?_, fun handle => ?_,
    fun handle' => ?_, fun handle' hnot => ?_⟩
  · rw [hquiet.retried] at hmem
    rcases hquiet.queried with hqueried | ⟨handle, -, hnew, hqueried⟩
    · exact hgrows.known (h.known handle' (hqueried ▸ hmem))
    · rw [hqueried, List.mem_append, List.mem_singleton] at hmem
      rcases hmem with (hold | rfl) | hold
      · exact hgrows.known (h.known handle' (.inl hold))
      · exact hnew
      · exact hgrows.known (h.known handle' (.inr hold))
  · rw [hquiet.retried, h.retries, (hquiet.own handle).2]
  · rw [hquiet.keeps.loaderMode, h.loaderMode, (hquiet.own handle).2]
  · rw [hown]
    exact h.progress handle
  · rcases hquiet.queried with hqueried | ⟨handle, hnew, -, hqueried⟩
    · rw [hqueried]
      exact h.first handle'
    · rw [hqueried, List.count_append]
      by_cases heq : handle' = handle
      · subst heq
        have hzero : s.queried.count handle' = 0 :=
          List.count_eq_zero_of_not_mem fun hmem => h.known handle' (.inl hmem) hnew
        rw [hzero, List.count_singleton_self]
      · have hzero : [handle].count handle' = 0 :=
          List.count_eq_zero_of_not_mem fun hmem => heq (List.mem_singleton.mp hmem)
        rw [hzero]
        exact h.first handle'
  · rw [hown]
    apply h.unasked handle'
    rcases hquiet.queried with hqueried | ⟨handle, -, -, hqueried⟩
    · exact hqueried ▸ hnot
    · exact fun hmem => hnot (hqueried ▸ List.mem_append_left _ hmem)

/-- What the callback of a query does, which looks at the failures of all lidars. -/
structure QueryStep (s : LidarSetup) (cb : Callback AckCallback) (s' : LidarSetup) : Prop where
  grows : Grows s.lidars s'.lidars
  isQueried : s.isQueried cb.command.handle = true
  queried : s'.queried = s.queried
  outcomes : s'.outcomes = s.outcomes ++ [(cb.command.handle, fwTypeOf cb.status cb.data)]
  retried : s'.retried =
    if 10 < s.failuresOfAll ∨ (fwTypeOf cb.status cb.data).isSome then s.retried
    else s.retried ++ [cb.handle]
  loaderMode : ∀ handle, s'.lidars.loaderMode handle =
    (takenOf s.failuresOfAll (fwTypeOf cb.status cb.data)).elim (s.lidars.loaderMode handle)
      fun fwType =>
        if handle = cb.handle ∧ s.lidars.devices cb.handle ≠ none then some (decide (fwType = 0))
        else s.lidars.loaderMode handle
  count : s'.lidars.count =
    if 10 < s.failuresOfAll ∨ (fwTypeOf cb.status cb.data).isSome then 0 else s.lidars.count + 1

theorem CountInv.lt_iff (h : CountInv s) : 10 < s.lidars.count ↔ 10 < s.failuresOfAll := by
  have hbounded := h.bounded
  rw [h.count]
  generalize s.failuresOfAll = n at hbounded ⊢
  interval_cases n <;> decide

theorem query_step {cb : Callback AckCallback} (hcount : CountInv s)
    (hcb : cb.command.cb = .queryFwType) (hstep : s.callback cb = some s') :
    QueryStep s cb s' := by
  have hgrows : Grows s.lidars s'.lidars := callback_lidars hstep ▸ runCallback_grows s.lidars cb
  unfold callback at hstep
  rw [hcb] at hstep
  dsimp only at hstep
  split at hstep
  swap
  · cases hstep
  rename_i hqueried
  obtain rfl := Option.some.inj hstep
  refine ⟨hgrows, hqueried, rfl, rfl, ?_, fun handle => ?_, ?_⟩
  · simp only [queryFwTypeCallback, hcount.lt_iff]
  · refine (queryFwTypeCallback_loaderMode ..).trans ?_
    unfold takenType takenOf
    simp only [hcount.lt_iff]
    cases (if 10 < s.failuresOfAll then some 1 else fwTypeOf cb.status cb.data) with
    | none => rfl
    | some fwType => rfl
  · simp only [queryFwTypeCallback, queryFwTypeCallback_val, hcount.lt_iff]
    by_cases hfull : 10 < s.failuresOfAll
    · simp [hfull]
    · cases fwTypeOf cb.status cb.data <;> simp [hfull, fwTypeFailed]

/-- The failures of all behind one more outcome. -/
theorem QueryStep.failuresOfAll {cb : Callback AckCallback} (h : QueryStep s cb s') :
    s'.failuresOfAll =
      if 10 < s.failuresOfAll ∨ (fwTypeOf cb.status cb.data).isSome then 0
      else s.failuresOfAll + 1 := by
  unfold LidarSetup.failuresOfAll
  rw [h.outcomes, List.map_append, List.map_singleton, ownQuery_concat]
  exact step_failures _ _

/-- A lidar behind one more outcome, if it is its own. -/
theorem QueryStep.own {cb : Callback AckCallback} (h : QueryStep s cb s') (handle : UInt32) :
    s'.own handle = if cb.command.handle = handle then
      (s.own handle).step (fwTypeOf cb.status cb.data) else s.own handle := by
  unfold LidarSetup.own
  rw [outcomesOf_concat h.outcomes]
  split
  · exact ownQuery_concat _ _
  · rfl

/-- The callback of a query keeps the retries and types of the lidars their own. -/
theorem retryInv_query {cb : Callback AckCallback} (h : RetryInv s)
    (hcb : cb.command.cb = .queryFwType) (hcounts : CountsOwn s (.callback cb))
    (hquery : QueryStep s cb s') : RetryInv s' := by
  obtain ⟨hhandle, hcounts⟩ := hcounts hcb
  obtain ⟨hasked, hopen⟩ := h.open hquery.isQueried
  obtain ⟨hretries, hloader⟩ := step_agrees.mp hcounts
  refine ⟨fun handle hmem => ?_, fun handle => ?_, fun handle => ?_, fun handle => ?_,
    fun handle => ?_, fun handle hnot => ?_⟩
  · rw [hquery.queried, hquery.retried] at hmem
    rcases hmem with hmem | hmem
    · exact hquery.grows.known (h.known handle (.inl hmem))
    · split at hmem
      · exact hquery.grows.known (h.known handle (.inr hmem))
      · rcases List.mem_append.mp hmem with hmem | hmem
        · exact hquery.grows.known (h.known handle (.inr hmem))
        · obtain rfl := List.mem_singleton.mp hmem
          exact hquery.grows.known (h.known cb.handle (.inl (hhandle.symm ▸ hasked)))
  · rw [hquery.own, hquery.retried, hhandle]
    by_cases heq : cb.command.handle = handle
    · subst heq
      rw [if_pos rfl, hretries]
      split
      · exact h.retries _
      · rw [List.count_append, h.retries, List.count_singleton_self]
    · rw [if_neg heq]
      refine Eq.trans ?_ (h.retries handle)
      split
      · rfl
      · rw [List.count_append, List.count_eq_zero_of_not_mem (a := handle)
          (l := [cb.command.handle]) fun hmem => heq (List.mem_singleton.mp hmem).symm, Nat.add_zero]
  · rw [hquery.own, hquery.loaderMode, hhandle]
    by_cases heq : cb.command.handle = handle
    · subst heq
      have hknown : s.lidars.devices cb.command.handle ≠ none := h.known _ (.inl hasked)
      rw [if_pos rfl, hloader, h.loaderMode]
      simp only [hknown, ne_eq, not_false_eq_true, and_self, if_true]
    · have hne : ¬ (handle = cb.command.handle ∧ s.lidars.devices cb.command.handle ≠ none) :=
        fun hsame => heq hsame.1.symm
      rw [if_neg heq, ← h.loaderMode]
      simp only [if_neg hne]
      cases takenOf s.failuresOfAll (fwTypeOf cb.status cb.data) <;> rfl
  · rw [outcomesOf_concat hquery.outcomes]
    split
    · rename_i heq
      rw [← heq]
      exact (h.progress _).concat hopen _
    · exact h.progress handle
  · rw [hquery.queried]
    exact h.first handle
  · rw [hquery.queried] at hnot
    have hne : cb.command.handle ≠ handle := fun heq => hnot (heq ▸ hasked)
    rw [outcomesOf_concat hquery.outcomes, if_neg hne]
    exact h.unasked handle hnot

/-- The counter behind a step: a query that failed is counted, and the others reset it. -/
theorem countInv_step (h : CountInv s) (hstep : s.step e = some s') : CountInv s' := by
  by_cases houtcome : IsQueryOutcome e
  · obtain ⟨cb, rfl, hcb⟩ := houtcome
    have hquery := query_step h hcb hstep
    have hbounded := h.bounded
    have hcount := hquery.count
    rw [h.count] at hcount
    constructor
    · rw [hcount, hquery.failuresOfAll]
      split
      · rfl
      · generalize s.failuresOfAll = n at hbounded
        interval_cases n <;> rfl
    · rw [hquery.failuresOfAll]
      split <;> omega
  · have hquiet := quietStep hstep houtcome
    constructor
    · rw [hquiet.keeps.count, hquiet.failuresOfAll, h.count]
    · rw [hquiet.failuresOfAll]
      exact h.bounded

/-- **A step keeps the retries and types of the lidars their own**, if all lidars together have
failed too often when the lidar itself has. -/
theorem retryInv_step (h : RetryInv s) (hcount : CountInv s) (hcounts : CountsOwn s e)
    (hstep : s.step e = some s') : RetryInv s' := by
  by_cases houtcome : IsQueryOutcome e
  · obtain ⟨cb, rfl, hcb⟩ := houtcome
    exact retryInv_query h hcb hcounts (query_step hcount hcb hstep)
  · exact (quietStep hstep houtcome).retryInv h

end Steps

/-! ### Runs -/

section Runs

variable {masterSdk : Option Bool} {hostIp : List UInt8} {memory : ℕ}
  {tr : List (LidarSetup × SetupEvent)} {s : LidarSetup}

theorem countInv_run {Ok : LidarSetup → SetupEvent → Prop}
    (h : Run step Ok (init masterSdk hostIp memory) tr s) : CountInv s := by
  induction h with
  | nil => exact ⟨rfl, Nat.zero_le _⟩
  | snoc _ _ hstep ih => exact countInv_step ih hstep

theorem retryInv_run (h : Run step CountsOwn (init masterSdk hostIp memory) tr s) : RetryInv s := by
  induction h with
  | nil => exact retryInv_init masterSdk hostIp memory
  | snoc hrun hcounts hstep ih => exact retryInv_step ih (countInv_run hrun) hcounts hstep

/-- A query without an outcome is there until the type of the lidar is known. -/
theorem RetryInv.repeated (h : RetryInv s) {handle : UInt32} (hasked : handle ∈ s.queried) :
    s.isQueried handle = true ↔ s.lidars.loaderMode handle = none := by
  have hprogress := h.progress handle
  have hfirst := h.first handle
  have hasked' : 0 < s.queried.count handle := List.count_pos_iff.mpr hasked
  rw [h.loaderMode, isQueried, decide_eq_true_iff, h.retries]
  constructor
  · intro hopen
    by_contra hdone
    have hlen := hprogress.done hdone
    unfold own at hopen
    omega
  · intro hnone
    have hlen := (hprogress.pending hnone).1
    unfold own
    omega

theorem RetryInv.ownRetries (h : RetryInv s) : OwnRetries s where
  retries := h.retries
  loaderMode := h.loaderMode
  bounded handle := h.retries handle ▸ (h.progress handle).retries
  repeated _ hasked := h.repeated hasked

/-- **A step that keeps the retries and types of the lidars their own** is one behind which all
lidars together have failed too often when the lidar itself has. -/
theorem countsOwn_of_ownRetries {s' : LidarSetup} {e : SetupEvent} (h : RetryInv s)
    (hcount : CountInv s) (hstep : s.step e = some s') (hown : OwnRetries s') : CountsOwn s e := by
  cases e with
  | detection handle packet => trivial
  | custom handle cfg => trivial
  | callback cb =>
    intro hcb
    have hquery := query_step hcount hcb hstep
    obtain ⟨hasked, hopen⟩ := h.open hquery.isQueried
    have hself : s'.own cb.command.handle = _ := hquery.own cb.command.handle
    rw [if_pos rfl] at hself
    have hretries := hown.retries cb.command.handle
    have hloader := hown.loaderMode cb.command.handle
    rw [hself, hquery.retried] at hretries
    rw [hself, hquery.loaderMode] at hloader
    -- otherwise the lidar that was asked is left alone, which its outcome does not do
    have hhandle : cb.handle = cb.command.handle := by
      by_contra hne
      have hnone : (s.own cb.command.handle).loaderMode = none := by
        by_contra hdone
        have hlen := (h.progress cb.command.handle).done hdone
        unfold own at hopen
        omega
      rcases step_acts (s.own cb.command.handle) (fwTypeOf cb.status cb.data) with hacts | hacts
      · apply hacts
        rw [← hretries, ← h.retries]
        split
        · rfl
        · rw [List.count_append, List.count_eq_zero_of_not_mem (l := [cb.handle])
            fun hmem => hne (List.mem_singleton.mp hmem).symm, Nat.add_zero]
      · apply hacts
        have hother : ¬ (cb.command.handle = cb.handle ∧ s.lidars.devices cb.handle ≠ none) :=
          fun hsame => hne hsame.1.symm
        rw [← hloader, h.loaderMode, hnone]
        simp only [if_neg hother]
        cases takenOf s.failuresOfAll (fwTypeOf cb.status cb.data) <;> rfl
    have hknown : s.lidars.devices cb.command.handle ≠ none := h.known _ (.inl hasked)
    refine ⟨hhandle, step_agrees.mpr ⟨?_, ?_⟩⟩
    · rw [← hretries, hhandle]
      split
      · exact h.retries _
      · rw [List.count_append, h.retries, List.count_singleton_self]
    · rw [← hloader, hhandle, h.loaderMode]
      simp only [hknown, ne_eq, not_false_eq_true, and_self, if_true]

/-- In a run that keeps the retries and types of the lidars their own each step does. -/
theorem countsOwn_run (h : Run step (fun _ _ => True) (init masterSdk hostIp memory) tr s)
    (hown : ∀ x ∈ tr, OwnRetries x.1) (hend : OwnRetries s) : ∀ x ∈ tr, CountsOwn x.1 x.2 := by
  induction h with
  | nil => exact fun x hx => absurd hx List.not_mem_nil
  | @snoc tr s s' e hrun _ hstep ih =>
    have hbefore := ih (fun x hx => hown x (List.mem_append_left _ hx))
      (hown (s, e) (List.mem_append_right _ (List.mem_singleton_self _)))
    intro x hx
    rcases List.mem_append.mp hx with hx | hx
    · exact hbefore x hx
    · obtain rfl := List.mem_singleton.mp hx
      exact countsOwn_of_ownRetries (retryInv_run (hrun.of_forall hbefore)) (countInv_run hrun) hstep
        hend

/-- **One lidar that fails at a time** has the counter for itself. -/
theorem countsOwn_of_oneFails (h : Run step OneFails (init masterSdk hostIp memory) tr s) :
    ∀ x ∈ tr, CountsOwn x.1 x.2 := by
  have hinv : CountInv s ∧ (∀ x ∈ tr, CountsOwn x.1 x.2) ∧
      ∃ failing, s.failuresOfAll = (s.own failing).failures ∧
        ∀ handle ≠ failing, (s.own handle).failures = 0 := by
    apply h.invariant
    · exact ⟨⟨rfl, Nat.zero_le _⟩, fun x hx => absurd hx List.not_mem_nil, 0, rfl, fun _ _ => rfl⟩
    · rintro tr s e s' ⟨hcount, htr, failing, hfailing, hothers⟩ hone hstep
      have hconcat : CountsOwn s e → ∀ x ∈ tr ++ [(s, e)], CountsOwn x.1 x.2 := by
        intro hcounts x hx
        rcases List.mem_append.mp hx with hx | hx
        · exact htr x hx
        · obtain rfl := List.mem_singleton.mp hx
          exact hcounts
      by_cases houtcome : IsQueryOutcome e
      · obtain ⟨cb, rfl, hcb⟩ := houtcome
        obtain ⟨hhandle, hquiet⟩ := hone hcb
        have hall : s.failuresOfAll = (s.own cb.command.handle).failures := by
          by_cases heq : failing = cb.command.handle
          · exact heq ▸ hfailing
          · rw [hfailing, hquiet failing heq, hothers _ (Ne.symm heq)]
        have hq := query_step hcount hcb hstep
        refine ⟨countInv_step hcount hstep, hconcat fun _ => ⟨hhandle, .inl (by rw [hall])⟩,
          cb.command.handle, ?_, fun handle hne => ?_⟩
        · rw [hq.failuresOfAll, hq.own, if_pos rfl, step_failures, hall]
        · rw [hq.own, if_neg (Ne.symm hne)]
          exact hquiet handle hne
      · have hquiet := quietStep hstep houtcome
        refine ⟨countInv_step hcount hstep, hconcat (countsOwn_of_other houtcome), failing, ?_,
          fun handle hne => ?_⟩
        · rw [hquiet.failuresOfAll, (hquiet.own failing).2, hfailing]
        · rw [(hquiet.own handle).2]
          exact hothers handle hne
  exact hinv.2.1

end Runs

/-- The query of a lidar gets no answer in time. -/
def timeoutOf (handle : UInt32) : SetupEvent :=
  .callback ⟨⟨0, 1, 0, kCommandTypeCmd, handle, kDefaultTimeOut, .queryFwType⟩, .timeout, handle,
    none⟩

/-- The query of the lidar 7 fails ten times; then it answers that it is in loader mode. Before
that the query of the lidar 8 has some outcomes. -/
def loaderAtLast (others : List SetupEvent) : List SetupEvent :=
  [detectionOf 7 kLivoxLidarTypeMid360, detectionOf 8 kLivoxLidarTypeMid360] ++ others ++
    List.replicate 10 (timeoutOf 7) ++ [answerOf 7 .queryFwType [0, 1, 0, 0x10, 0x80, 1, 0, 0]]

/-- The queries of two lidars fail; the lidar 8 says that its type is 1, when it has failed some times,
and then the lidar 7 that it is in loader mode. -/
def bothFail (failures : ℕ) : List SetupEvent :=
  [detectionOf 7 kLivoxLidarTypeMid360, detectionOf 8 kLivoxLidarTypeMid360, timeoutOf 7] ++
    List.replicate failures (timeoutOf 8) ++ [timeoutOf 7] ++
    [answerOf 8 .queryFwType [0, 1, 0, 0x10, 0x80, 1, 0, 1], timeoutOf 7,
      answerOf 7 .queryFwType [0, 1, 0, 0x10, 0x80, 1, 0, 0]]

end LidarSetup

end Livox
end SensorSupport
