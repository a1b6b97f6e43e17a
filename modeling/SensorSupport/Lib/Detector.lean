/-
# Detectors

A detector reads items one by one and says of each whether it fires. Fed with a
list it fires when it does on some item. It may also be read up to its first fire
only, which leaves it in the state behind that item. A system that asks two
detectors of every item, one behind the other, keeps what each said (`Paired`).

Key definitions: `feed`, `feedFirst`, `verdicts`, `Paired`.
Key theorems: `feedFirst_fires`, `feed_quiet`, `Paired.ask_agrees`.
-/
import Mathlib.Data.List.Basic

namespace SensorSupport
namespace Detector

variable {σ ι : Type} (step : σ → ι → σ × Bool)

/-- All items are read. -/
def feed : List ι → σ → σ × Bool
  | [], s => (s, false)
  | i :: items, s =>
    let r := step s i
    let rest := feed items r.1
    (rest.1, r.2 || rest.2)

/-- The items are read up to the first one it fires on. -/
def feedFirst : List ι → σ → σ × Bool
  | [], s => (s, false)
  | i :: items, s =>
    let r := step s i
    if r.2 then r else feedFirst items r.1

/-- Whether it fires, for each item. -/
def verdicts : List ι → σ → List Bool
  | [], _ => []
  | i :: items, s =>
    let r := step s i
    r.2 :: verdicts items r.1

variable {step}

theorem feed_cons (i : ι) (items : List ι) (s : σ) : feed step (i :: items) s =
    ((feed step items (step s i).1).1, (step s i).2 || (feed step items (step s i).1).2) := rfl

/-- The rest of a list is read from where its beginning leaves the detector. -/
theorem feed_append (pre post : List ι) (s : σ) :
    (feed step (pre ++ post) s).1 = (feed step post (feed step pre s).1).1 := by
  induction pre generalizing s with
  | nil => rfl
  | cons i pre ih => exact ih _

theorem feedFirst_fire {s : σ} {i : ι} (h : (step s i).2 = true) (items : List ι) :
    feedFirst step (i :: items) s = step s i := if_pos h

theorem feedFirst_quiet {s : σ} {i : ι} (h : (step s i).2 = false) (items : List ι) :
    feedFirst step (i :: items) s = feedFirst step items (step s i).1 := by
  have hno : ¬ (step s i).2 = true := by rw [h]; decide
  exact if_neg hno

/-- Both ways it fires on the same lists. -/
theorem feedFirst_fires (items : List ι) (s : σ) :
    (feedFirst step items s).2 = (feed step items s).2 := by
  induction items generalizing s with
  | nil => rfl
  | cons i items ih =>
    rw [feed_cons]
    cases h : (step s i).2 with
    | true => rw [feedFirst_fire h, h, Bool.true_or]
    | false => rw [feedFirst_quiet h, ih, Bool.false_or]

/-- A condition under which it does not fire, and which the items keep. -/
theorem feed_quiet {Inv : σ → Prop} {items : List ι} {s : σ}
    (hstep : ∀ i ∈ items, ∀ s, Inv s → Inv (step s i).1 ∧ (step s i).2 = false) (h : Inv s) :
    Inv (feed step items s).1 ∧ (feed step items s).2 = false := by
  induction items generalizing s with
  | nil => exact ⟨h, rfl⟩
  | cons i items ih =>
    obtain ⟨hnext, hquiet⟩ := hstep i List.mem_cons_self s h
    obtain ⟨hend, hrest⟩ := ih (fun i' hi' => hstep i' (List.mem_cons_of_mem _ hi')) hnext
    rw [feed_cons, hquiet, hrest]
    exact ⟨hend, rfl⟩

/-! ### Two detectors -/

/-- A state that two detectors share, and what they said so far. -/
structure Paired (σ : Type) where
  state : σ
  first : List Bool
  second : List Bool

namespace Paired

/-- Nothing was said. -/
def start (s : σ) : Paired σ := ⟨s, [], []⟩

/-- Both are asked. -/
def ask (first second : σ → σ × Bool) (p : Paired σ) : Paired σ :=
  let r := first p.state
  let r' := second r.1
  ⟨r'.1, p.first ++ [r.2], p.second ++ [r'.2]⟩

variable {first second : σ → σ × Bool} {p : Paired σ}

/-- They said the same, and say the same. -/
theorem ask_agrees (h : p.first = p.second)
    (hsame : (first p.state).2 = (second (first p.state).1).2) :
    (p.ask first second).first = (p.ask first second).second := by
  change p.first ++ [(first p.state).2] = p.second ++ [(second (first p.state).1).2]
  rw [h, hsame]

end Paired

end Detector
end SensorSupport
