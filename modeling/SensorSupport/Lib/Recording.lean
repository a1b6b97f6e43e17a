/-
# Recordings

A machine works off its inputs one after the other, and some of its outputs go on a tape.
A second machine works off the tape. When the inputs that leave nothing on the tape change
nothing that can be seen, and every other one leaves one entry from which the second machine
does the same, the second one shows what the first one showed, up to where it is.

A step is a relation: it may depend on more than its input, such as the time.

Key definitions: `Works`, `Replays`.
Key theorems: `Replays.works`.
-/
import Mathlib.Data.List.Infix

namespace SensorSupport

variable {S S' A B O O' V : Type}

/-- From `init` the inputs were worked off, and gave the outputs. -/
inductive Works (step : S → A → S → List O → Prop) (init : S) : List A → S → List O → Prop
  | nil : Works step init [] init []
  | concat {as : List A} {s t : S} {os out : List O} {a : A} (h : Works step init as s os)
      (hs : step s a t out) : Works step init (as ++ [a]) t (os ++ out)

namespace Works

variable {step : S → A → S → List O → Prop} {init s : S} {as : List A} {os : List O} {a : A}

theorem nil_inv (h : Works step init [] s os) : s = init ∧ os = [] := by
  generalize has : ([] : List A) = as at h
  cases h with
  | nil => exact ⟨rfl, rfl⟩
  | concat _ _ => simp at has

/-- The last input was worked off behind the ones before. -/
theorem concat_inv (h : Works step init (as ++ [a]) s os) :
    ∃ t before out, Works step init as t before ∧ step t a s out ∧ os = before ++ out := by
  generalize has : as ++ [a] = inputs at h
  cases h with
  | nil => simp at has
  | concat h hs =>
    obtain ⟨rfl, rfl⟩ := List.append_inj' has rfl |>.imp_right List.singleton_inj.mp
    exact ⟨_, _, _, h, hs, rfl⟩

end Works

/-- The second machine does with the tape of the first one what can be seen of that. -/
structure Replays (step : S → A → S → List O → Prop) (step' : S' → B → S' → List O' → Prop)
    (tape : O → Option B) (see : O → Option V) (see' : O' → Option V) (R : S → S' → Prop) :
    Prop where
  quiet : ∀ {s a t out s'}, step s a t out → out.filterMap tape = [] → R s s' →
    R t s' ∧ out.filterMap see = []
  taped : ∀ {s a t out b s' t' out'}, step s a t out → out.filterMap tape = [b] → R s s' →
    step' s' b t' out' → R t t' ∧ out'.filterMap see' = out.filterMap see
  once : ∀ {s a t out}, step s a t out → (out.filterMap tape).length ≤ 1

section Replays

variable {step : S → A → S → List O → Prop} {step' : S' → B → S' → List O' → Prop}
  {tape : O → Option B} {see : O → Option V} {see' : O' → Option V} {R : S → S' → Prop}
  {init s : S} {init' s' : S'} {as : List A} {os : List O} {bs : List B} {os' : List O'}

/-- **A replay shows what the recording showed**, as far as it has got; and when it has worked
off all of the tape, everything, and the machines are related. -/
theorem Replays.works (h : Replays step step' tape see see' R) (hinit : R init init')
    (hlive : Works step init as s os) (hreplay : Works step' init' bs s' os')
    (htape : bs <+: os.filterMap tape) :
    os'.filterMap see' <+: os.filterMap see ∧
      (bs = os.filterMap tape → R s s' ∧ os'.filterMap see' = os.filterMap see) := by
  induction hlive generalizing bs s' os' with
  | nil =>
    obtain rfl := List.prefix_nil.mp htape
    obtain ⟨rfl, rfl⟩ := hreplay.nil_inv
    exact ⟨List.prefix_rfl, fun _ => ⟨hinit, rfl⟩⟩
  | @concat as s t os out a _ hs ih =>
    rw [List.filterMap_append] at htape ⊢
    rw [List.filterMap_append]
    match hout : out.filterMap tape with
    | [] =>
      rw [hout, List.append_nil] at htape
      obtain ⟨hpre, hall⟩ := ih hreplay htape
      rw [List.append_nil]
      refine ⟨hpre.trans (List.prefix_append _ _), fun hbs => ?_⟩
      obtain ⟨hrelated, hseen⟩ := hall hbs
      obtain ⟨hrelated, hnone⟩ := h.quiet hs hout hrelated
      exact ⟨hrelated, by rw [hseen, hnone, List.append_nil]⟩
    | [b] =>
      rw [hout] at htape
      rcases List.prefix_concat_iff.mp htape with rfl | hbefore
      · -- the entry that this input left is the last one that was replayed
        obtain ⟨t', before, out', hearlier, hs', rfl⟩ := hreplay.concat_inv
        obtain ⟨hrelated, hseen⟩ := (ih hearlier List.prefix_rfl).2 rfl
        obtain ⟨hrelated, hstep⟩ := h.taped hs hout hrelated hs'
        have hsame : (before ++ out').filterMap see' = os.filterMap see ++ out.filterMap see := by
          rw [List.filterMap_append, hseen, hstep]
        exact ⟨hsame ▸ List.prefix_rfl, fun _ => ⟨hrelated, hsame⟩⟩
      · refine ⟨(ih hreplay hbefore).1.trans (List.prefix_append _ _), fun hbs => ?_⟩
        have hlength := hbefore.length_le
        rw [hbs, List.length_append, List.length_singleton] at hlength
        omega
    | _ :: _ :: _ =>
      have honce := h.once hs
      rw [hout] at honce
      simp at honce

end Replays

end SensorSupport
