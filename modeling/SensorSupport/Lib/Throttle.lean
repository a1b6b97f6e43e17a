/-
# Throttled loops

Round after round a loop looks whether it is due to act, which depends on when it acted
last. Any two rounds in a row that it acts in are then as far apart as `due` asks. When
every round but those too early acts, they are not much further apart either: by as much
as two rounds are.

Key definitions: `acts`, `lastAct`, `ActsAs`.
Key theorems: `acts_isChain`, `acts_late`, `ActsAs.filter_eq`, `ActsAs.recent`.
-/
import Mathlib.Data.List.Chain
import Mathlib.Data.List.Induction

namespace SensorSupport

variable {R T : Type}

/-- The rounds that act, when the loop last acted at `last`. -/
def acts (due : T → R → Bool) (time : R → T) : T → List R → List R
  | _, [] => []
  | last, r :: rs =>
    if due last r then r :: acts due time (time r) rs else acts due time last rs

/-- When the loop acted last. -/
def lastAct (due : T → R → Bool) (time : R → T) : T → List R → T
  | last, [] => last
  | last, r :: rs => lastAct due time (if due last r then time r else last) rs

section Acts

variable {due : T → R → Bool} {time : R → T}

/-- A round more. -/
theorem acts_concat (last : T) (rs : List R) (r : R) :
    acts due time last (rs ++ [r]) =
      acts due time last rs ++ if due (lastAct due time last rs) r then [r] else [] := by
  induction rs generalizing last with
  | nil =>
    rw [List.nil_append, acts, acts, acts, List.nil_append, lastAct]
    rfl
  | cons r' rs ih =>
    rw [List.cons_append, acts, acts, lastAct]
    by_cases h : due last r'
    · rw [if_pos h, if_pos h, if_pos h, ih, List.cons_append]
    · rw [if_neg h, if_neg h, if_neg h, ih]

theorem lastAct_concat (last : T) (rs : List R) (r : R) :
    lastAct due time last (rs ++ [r]) =
      if due (lastAct due time last rs) r then time r else lastAct due time last rs := by
  induction rs generalizing last with
  | nil => rfl
  | cons r' rs ih => rw [List.cons_append, lastAct, lastAct, ih]

/-- The first round that acts is due, and so is every one behind another. -/
theorem acts_due (last : T) (rs : List R) :
    (∀ r ∈ (acts due time last rs).head?, due last r = true) ∧
      (acts due time last rs).IsChain fun a b => due (time a) b = true := by
  induction rs generalizing last with
  | nil => exact ⟨by simp [acts], .nil⟩
  | cons r rs ih =>
    rw [acts]
    by_cases h : due last r
    · rw [if_pos h]
      obtain ⟨hhead, hchain⟩ := ih (time r)
      refine ⟨?_, List.isChain_cons.mpr ⟨hhead, hchain⟩⟩
      intro r' hr'
      obtain rfl : r = r' := by simpa using hr'
      exact h
    · rw [if_neg h]
      exact ih last

/-- **Two rounds in a row that act** are as far apart as the loop asks. -/
theorem acts_isChain (last : T) (rs : List R) :
    (acts due time last rs).IsChain fun a b => due (time a) b = true :=
  (acts_due last rs).2

section Late

variable {near late : R → R → Prop} {wants : R → Prop}
  (hnear : ∀ a b, near a b → late a b)
  (hlate : ∀ a r b, wants r → due (time a) r = false → near r b → late a b)

include hnear hlate in
/-- Behind a round that acted, as long as the rounds follow each other closely. -/
theorem acts_late_from {a p : R} {rs : List R} (hp : p = a ∨ wants p ∧ due (time a) p = false)
    (hrs : (p :: rs).IsChain near) (hwants : ∀ r ∈ rs, wants r) :
    (a :: acts due time (time a) rs).IsChain late := by
  induction rs generalizing a p with
  | nil => exact .singleton a
  | cons r rs ih =>
    obtain ⟨hpr, hrs⟩ := List.isChain_cons_cons.mp hrs
    have hr := hwants r List.mem_cons_self
    have hwants' : ∀ r ∈ rs, wants r := fun r' hr' => hwants r' (List.mem_cons_of_mem _ hr')
    rw [acts]
    by_cases h : due (time a) r
    · rw [if_pos h]
      have har : late a r := by
        rcases hp with rfl | ⟨hp, hearly⟩
        · exact hnear p r hpr
        · exact hlate a p r hp hearly hpr
      exact List.isChain_cons_cons.mpr ⟨har, ih (.inl rfl) hrs hwants'⟩
    · rw [if_neg h]
      exact ih (.inr ⟨hr, eq_false_of_ne_true h⟩) hrs hwants'

include hnear hlate in
/-- **The rounds that act are not far apart** when the rounds follow each other closely and
every one of them wants to act. -/
theorem acts_late {last : T} {rs : List R} (hrs : rs.IsChain near) (hwants : ∀ r ∈ rs, wants r) :
    (acts due time last rs).IsChain late := by
  induction rs with
  | nil => exact .nil
  | cons r rs ih =>
    have hwants' : ∀ r ∈ rs, wants r := fun r' hr' => hwants r' (List.mem_cons_of_mem _ hr')
    rw [acts]
    by_cases h : due last r
    · rw [if_pos h]
      exact acts_late_from hnear hlate (.inl rfl) hrs hwants'
    · rw [if_neg h]
      exact ih hrs.tail hwants'

end Late

/-! ### A loop that says whether it acted -/

/-- The rounds that act are marked. -/
def ActsAs (due : T → R → Bool) (time : R → T) (acted : R → Bool) (last : T) (rs : List R) :
    Prop :=
  ∀ before r after, rs = before ++ r :: after →
    acted r = due (lastAct due time last before) r

namespace ActsAs

variable {acted : R → Bool} {last : T} {rs : List R}

theorem nil : ActsAs due time acted last [] := by simp [ActsAs]

theorem concat (h : ActsAs due time acted last rs) {r : R}
    (hr : acted r = due (lastAct due time last rs) r) : ActsAs due time acted last (rs ++ [r]) := by
  intro before r' after heq
  rcases List.eq_nil_or_concat after with rfl | ⟨after, r'', rfl⟩
  · obtain ⟨rfl, hlast⟩ := List.append_inj' heq rfl
    obtain rfl := List.singleton_inj.mp hlast
    exact hr
  · rw [List.concat_eq_append, ← List.cons_append, ← List.append_assoc] at heq
    exact h before r' after (List.append_inj' heq rfl).1

theorem of_append {more : List R} (h : ActsAs due time acted last (rs ++ more)) :
    ActsAs due time acted last rs := by
  intro before r after heq
  apply h before r (after ++ more)
  rw [heq, List.append_assoc, List.cons_append]

/-- The rounds that are marked are those that act. -/
theorem filter_eq (h : ActsAs due time acted last rs) : rs.filter acted = acts due time last rs := by
  induction rs using List.reverseRecOn with
  | nil => rfl
  | append_singleton rs r ih =>
    have hr := h rs r [] rfl
    rw [List.filter_append, ih h.of_append, acts_concat, ← hr]
    cases hacted : acted r with
    | true => rw [List.filter_cons_of_pos hacted, List.filter_nil, if_pos rfl]
    | false => rw [List.filter_cons_of_neg (by simp [hacted]), List.filter_nil, if_neg (by simp)]

/-- When the first round acts, the last act is one of the rounds. -/
theorem lastAct_mem {r₀ : R} (h : ActsAs due time acted last (r₀ :: rs))
    (hfirst : acted r₀ = true) :
    ∃ r ∈ r₀ :: rs, acted r = true ∧ lastAct due time last (r₀ :: rs) = time r := by
  induction rs using List.reverseRecOn with
  | nil =>
    have hdue : due last r₀ = true := (h [] r₀ [] rfl).symm.trans hfirst
    refine ⟨r₀, List.mem_singleton_self _, hfirst, ?_⟩
    rw [lastAct, lastAct, if_pos hdue]
  | append_singleton rs r ih =>
    rw [← List.cons_append] at h ⊢
    rw [lastAct_concat, ← h (r₀ :: rs) r [] rfl]
    by_cases hacted : acted r = true
    · exact ⟨r, by simp, hacted, if_pos hacted⟩
    · obtain ⟨r', hr', hacted', hlast⟩ := ih h.of_append
      rw [if_neg hacted]
      exact ⟨r', List.mem_append_left _ hr', hacted', hlast⟩

/-- **Behind the first round there always was a recent act**: the round itself, or one that
it is too early for. -/
theorem recent {r₀ r : R} {before after : List R} (h : ActsAs due time acted last (r₀ :: rs))
    (hfirst : acted r₀ = true) (hsplit : r₀ :: rs = before ++ r :: after) :
    acted r = true ∨ ∃ r' ∈ before, acted r' = true ∧ due (time r') r = false := by
  by_cases hacted : acted r = true
  · exact .inl hacted
  · right
    cases before with
    | nil =>
      obtain ⟨rfl, -⟩ := List.cons.inj hsplit
      exact absurd hfirst hacted
    | cons b before =>
      have hr := h _ r after hsplit
      rw [hsplit] at h
      obtain ⟨rfl, -⟩ := List.cons.inj hsplit
      obtain ⟨r', hr', hacted', hlast⟩ := h.of_append.lastAct_mem hfirst
      rw [hlast] at hr
      exact ⟨r', hr', hacted', hr ▸ eq_false_of_ne_true hacted⟩

end ActsAs

end Acts

end SensorSupport
