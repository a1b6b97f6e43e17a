/-
# Runs of a transition system

A system is a partial step function. A run records the steps taken, each with
the state it was taken in, so that "what happened before" is a statement about
a list. `Run` carries a condition on the steps, which a theorem about runs
assumes, and `Occurs` says that some step of a run has a property that may
look at the steps before it.

Key definitions: `Run`, `exec`, `stepsOf`, `Occurs`.
Key theorems: `Run.invariant`, `Run.mono`, `Run.of_forall`, `Run.of_append`,
`Run.of_exec_test`, `Run.of_exec`, `Run.exec`, `Run.stepsOf`, `Run.simulate`,
`exec_related`, `exec_flatMap_rel`, `occurs_concat`.
-/
import Mathlib.Data.List.Induction
import Mathlib.Tactic.Common

namespace SensorSupport

variable {S E : Type}

/-- The runs from `s₀` whose steps meet the condition `Ok`: the steps taken
and the state reached. -/
inductive Run (step : S → E → Option S) (Ok : S → E → Prop) (s₀ : S) : List (S × E) → S → Prop
  | nil : Run step Ok s₀ [] s₀
  | snoc {tr : List (S × E)} {s s' : S} {e : E} : Run step Ok s₀ tr s → Ok s e →
      step s e = some s' → Run step Ok s₀ (tr ++ [(s, e)]) s'

namespace Run

variable {step : S → E → Option S} {Ok Ok' : S → E → Prop} {s₀ s : S} {tr : List (S × E)}

/-- What holds at the start and is kept by every step holds in every state
reached, together with the steps that led there. -/
theorem invariant {P : List (S × E) → S → Prop} (h : Run step Ok s₀ tr s) (hinit : P [] s₀)
    (hstep : ∀ tr s e s', P tr s → Ok s e → step s e = some s' → P (tr ++ [(s, e)]) s') :
    P tr s := by
  induction h with
  | nil => exact hinit
  | snoc _ hok he ih => exact hstep _ _ _ _ ih hok he

/-- A weaker condition on the steps allows more runs. -/
theorem mono (h : Run step Ok s₀ tr s) (hok : ∀ s e, Ok s e → Ok' s e) :
    Run step Ok' s₀ tr s := by
  induction h with
  | nil => exact .nil
  | snoc _ hs he ih => exact .snoc ih (hok _ _ hs) he

/-- Each step of a run can be taken. -/
theorem step_of_mem (h : Run step Ok s₀ tr s) : ∀ x ∈ tr, ∃ s', step x.1 x.2 = some s' := by
  induction h with
  | nil => exact fun _ hx => absurd hx List.not_mem_nil
  | snoc _ _ he ih =>
    intro x hx
    rcases List.mem_append.mp hx with hx | hx
    · exact ih x hx
    · obtain rfl := List.mem_singleton.mp hx
      exact ⟨_, he⟩

/-- Each step of a run meets its condition. -/
theorem ok_of_mem (h : Run step Ok s₀ tr s) : ∀ x ∈ tr, Ok x.1 x.2 := by
  induction h with
  | nil => exact fun _ hx => absurd hx List.not_mem_nil
  | snoc _ hok _ ih =>
    intro x hx
    rcases List.mem_append.mp hx with hx | hx
    · exact ih x hx
    · obtain rfl := List.mem_singleton.mp hx
      exact hok

/-- A condition that the steps of a run meet. -/
theorem of_forall (h : Run step Ok s₀ tr s) (hok : ∀ x ∈ tr, Ok' x.1 x.2) :
    Run step Ok' s₀ tr s := by
  induction h with
  | nil => exact .nil
  | snoc _ _ he ih =>
    exact .snoc (ih fun x hx => hok x (List.mem_append_left _ hx))
      (hok _ (List.mem_append_right _ (List.mem_singleton_self _))) he

/-- The steps before one of a run are a run up to its state. -/
theorem of_append {e : E} {before after : List (S × E)} {s' : S}
    (h : Run step Ok s₀ tr s') (htr : tr = before ++ (s, e) :: after) :
    Run step Ok s₀ before s ∧ Ok s e ∧ ∃ s₁, step s e = some s₁ := by
  induction h generalizing after with
  | nil => simp at htr
  | snoc hrun hok he ih =>
    rcases List.eq_nil_or_concat after with rfl | ⟨after, z, rfl⟩
    · obtain ⟨rfl, hlast⟩ := List.append_inj' htr rfl
      cases hlast
      exact ⟨hrun, hok, _, he⟩
    · rw [List.concat_eq_append, ← List.cons_append, ← List.append_assoc] at htr
      exact ih (List.append_inj' htr rfl).1

end Run

/-- The state behind a list of events, when each of them can happen. -/
def exec (step : S → E → Option S) (s₀ : S) (es : List E) : Option S := es.foldlM step s₀

theorem exec_cons (step : S → E → Option S) (s₀ : S) (e : E) (es : List E) :
    exec step s₀ (e :: es) = (step s₀ e).bind fun s => exec step s es := by
  unfold exec
  rw [List.foldlM_cons]
  rfl

theorem exec_append {step : S → E → Option S} {s₀ s s' : S} {es es' : List E}
    (h : exec step s₀ es = some s) (h' : exec step s es' = some s') :
    exec step s₀ (es ++ es') = some s' := by
  unfold exec at h h' ⊢
  rw [List.foldlM_append, h]
  exact h'

theorem exec_append_eq (step : S → E → Option S) (s₀ : S) (es es' : List E) :
    exec step s₀ (es ++ es') = (exec step s₀ es).bind fun s => exec step s es' :=
  List.foldlM_append

/-- A list of events that pass a test, each when it happens, is a run whose
steps meet the condition that is tested. -/
theorem Run.of_exec_test {step : S → E → Option S} {Ok : S → E → Prop} {test : S → E → Bool}
    {s₀ s : S} {es : List E} (htest : ∀ s e, test s e = true → Ok s e)
    (h : exec (fun s e => if test s e then step s e else none) s₀ es = some s) :
    ∃ tr, tr.map Prod.snd = es ∧ Run step Ok s₀ tr s := by
  induction es using List.reverseRecOn generalizing s with
  | nil =>
    cases h
    exact ⟨[], rfl, .nil⟩
  | append_singleton es e ih =>
    unfold exec at h
    rw [List.foldlM_append] at h
    obtain ⟨s', hs', he⟩ := Option.bind_eq_some_iff.mp h
    obtain ⟨tr, rfl, hrun⟩ := ih hs'
    rw [List.foldlM_cons] at he
    split at he
    · rename_i hok
      exact ⟨tr ++ [(s', e)], by simp, hrun.snoc (htest s' e hok) (by simpa using he)⟩
    · cases he

/-- A list of events that can happen is a run. -/
theorem Run.of_exec {step : S → E → Option S} {s₀ s : S} {es : List E}
    (h : exec step s₀ es = some s) :
    ∃ tr, tr.map Prod.snd = es ∧ Run step (fun _ _ => True) s₀ tr s :=
  Run.of_exec_test (fun _ _ _ => trivial)
    (show exec (fun s e => if true then step s e else none) s₀ es = some s from h)

/-- Events that can happen and meet the condition prolong a run. -/
theorem Run.exec {step : S → E → Option S} {Ok : S → E → Prop} {s₀ : S} :
    ∀ {es : List E} {tr : List (S × E)} {s s' : S}, Run step Ok s₀ tr s →
      exec step s es = some s' → (∀ s, ∀ e ∈ es, Ok s e) → ∃ tr', Run step Ok s₀ tr' s'
  | [], tr, s, s', h, hexec, _ => by
    cases hexec
    exact ⟨tr, h⟩
  | e :: es, tr, s, s', h, hexec, hok => by
    rw [exec_cons] at hexec
    obtain ⟨s₁, he, hes⟩ := Option.bind_eq_some_iff.mp hexec
    exact (h.snoc (hok s e List.mem_cons_self) he).exec hes
      fun s e' he' => hok s e' (List.mem_cons_of_mem _ he')

/-- The steps of a list of events, as far as they can happen. -/
def stepsOf (step : S → E → Option S) : S → List E → List (S × E)
  | _, [] => []
  | s, e :: es => (s, e) :: (step s e).elim [] fun s' => stepsOf step s' es

/-- The steps of events that can happen prolong a run. -/
theorem Run.stepsOf {step : S → E → Option S} {s₀ : S} :
    ∀ {es : List E} {tr : List (S × E)} {s s' : S}, Run step (fun _ _ => True) s₀ tr s →
      SensorSupport.exec step s es = some s' →
      Run step (fun _ _ => True) s₀ (tr ++ SensorSupport.stepsOf step s es) s'
  | [], tr, s, s', h, hexec => by
    cases hexec
    rw [SensorSupport.stepsOf, List.append_nil]
    exact h
  | e :: es, tr, s, s', h, hexec => by
    rw [exec_cons] at hexec
    obtain ⟨s₁, he, hes⟩ := Option.bind_eq_some_iff.mp hexec
    have hrest := (h.snoc trivial he).stepsOf hes
    rw [List.append_assoc] at hrest
    have hsteps : SensorSupport.stepsOf step s (e :: es) =
        [(s, e)] ++ SensorSupport.stepsOf step s₁ es := by
      simp [SensorSupport.stepsOf, he]
    rwa [hsteps]

/-- Two systems that are given the same events keep a relation that every step keeps. -/
theorem exec_related {T : Type} {step : S → E → Option S} {step' : T → E → Option T}
    {R : S → T → Prop} : ∀ {es : List E} {s s' : S} {t t' : T},
      (∀ e ∈ es, ∀ s s' t t', R s t → step s e = some s' → step' t e = some t' → R s' t') →
      R s t → exec step s es = some s' → exec step' t es = some t' → R s' t'
  | [], s, s', t, t', _, h, hs, ht => by
    cases hs
    cases ht
    exact h
  | e :: es, s, s', t, t', hstep, h, hs, ht => by
    rw [exec_cons] at hs ht
    obtain ⟨s₁, hs₁, hs⟩ := Option.bind_eq_some_iff.mp hs
    obtain ⟨t₁, ht₁, ht⟩ := Option.bind_eq_some_iff.mp ht
    refine exec_related (fun e' he' => hstep e' (List.mem_cons_of_mem _ he')) ?_ hs ht
    exact hstep e List.mem_cons_self s s₁ t t₁ h hs₁ ht₁

/-- A system of which each event is several events of another moves as that one does, and
is stuck where that one is. -/
theorem exec_flatMap_rel {T E' : Type} {step : S → E → Option S} {step' : T → E' → Option T}
    {f : E → List E'} {R : S → T → Prop}
    (hstep : ∀ e s t, R s t → Option.Rel R (step s e) (exec step' t (f e))) :
    ∀ {es : List E} {s : S} {t : T}, R s t →
      Option.Rel R (exec step s es) (exec step' t (es.flatMap f))
  | [], _, _, h => .some h
  | e :: es, s, t, h => by
    rw [exec_cons, List.flatMap_cons, exec_append_eq]
    have hrel := hstep e s t h
    generalize step s e = r, exec step' t (f e) = r' at hrel ⊢
    cases hrel with
    | none => exact .none
    | some h' => exact exec_flatMap_rel hstep h'

/-- A system that another one simulates: an event of it is one of the other, or nothing that
the other sees. -/
theorem Run.simulate {T E' : Type} {step : S → E → Option S} {Ok : S → E → Prop}
    {step' : T → E' → Option T} {s₀ s : S} {tr : List (S × E)} (f : S → T) (g : S → E → Option E')
    (hstep : ∀ s e s', Ok s e → step s e = some s' →
      (g s e).elim (some (f s)) (step' (f s)) = some (f s'))
    (h : Run step Ok s₀ tr s) :
    Run step' (fun _ _ => True) (f s₀) (tr.filterMap fun x => (g x.1 x.2).map (f x.1, ·)) (f s) := by
  induction h with
  | nil => exact .nil
  | @snoc tr s s' e hrun hok he ih =>
    have hsim := hstep s e s' hok he
    rw [List.filterMap_append]
    cases hg : g s e with
    | none =>
      rw [hg] at hsim
      rw [← Option.some.inj hsim]
      simpa [hg] using ih
    | some e' =>
      rw [hg] at hsim
      simpa [hg] using ih.snoc trivial hsim

/-- Some step has the property `P`, which may look at the steps before it. -/
def Occurs {σ : Type} (P : List σ → σ → Prop) (tr : List σ) : Prop :=
  ∃ before x after, tr = before ++ x :: after ∧ P before x

section Occurs

variable {σ : Type} {P Q : List σ → σ → Prop} {tr : List σ} {x : σ}

@[simp] theorem not_occurs_nil : ¬ Occurs P [] := by
  rintro ⟨before, x, after, h, -⟩
  simp at h

/-- One more step: the property occurred, or occurs now. -/
theorem occurs_concat : Occurs P (tr ++ [x]) ↔ Occurs P tr ∨ P tr x := by
  constructor
  · rintro ⟨before, y, after, h, hP⟩
    rcases List.eq_nil_or_concat after with rfl | ⟨after, z, rfl⟩
    · obtain ⟨rfl, hy⟩ := List.append_inj' h rfl
      cases hy
      exact .inr hP
    · have h' : tr ++ [x] = (before ++ y :: after) ++ [z] := by simpa using h
      obtain ⟨rfl, -⟩ := List.append_inj' h' rfl
      exact .inl ⟨before, y, after, rfl, hP⟩
  · rintro (⟨before, y, after, rfl, hP⟩ | hP)
    · exact ⟨before, y, after ++ [x], by simp, hP⟩
    · exact ⟨tr, x, [], rfl, hP⟩

theorem Occurs.mono (h : Occurs P tr) (hPQ : ∀ before x, P before x → Q before x) :
    Occurs Q tr := by
  obtain ⟨before, x, after, htr, hP⟩ := h
  exact ⟨before, x, after, htr, hPQ before x hP⟩

theorem Occurs.exists_mem (h : Occurs P tr) : ∃ before, ∃ x ∈ tr, P before x := by
  obtain ⟨before, x, after, rfl, hP⟩ := h
  exact ⟨before, x, by simp, hP⟩

end Occurs

end SensorSupport
