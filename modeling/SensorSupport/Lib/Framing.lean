/-
# Delimited frames of a stream

A frame starts at the first start mark after the previous frame and ends at
the first end mark after that. The scanner below reads a stream one element
at a time: outside a frame it skips to the next start mark, inside one it
collects up to the end mark. Its state is what it has collected, so reading a
stream in pieces is reading it at once (`scan_append`).

Key definitions: `Framing.next`, `Framing.scan`, `Framing.IsFrame`, `Framing.openTail`.
Key theorems: `Framing.scan_append`, `Framing.scan_frames`, `Framing.scan_disturbed`,
`Framing.scan_pieces`, `Framing.scan_fst_eq_openTail`, `Framing.lastLine_changed`.
-/
import Mathlib.Data.List.Basic
import Mathlib.Data.List.Induction
import Mathlib.Tactic.Common

namespace SensorSupport
namespace Framing

variable {α : Type} [DecidableEq α] (start stop : α)

/-- One element: `none` is outside a frame, `some acc` inside one that holds
`acc`. The second component is the frame the element ends. -/
def next : Option (List α) → α → Option (List α) × Option (List α)
  | none, x => (if x = start then some [x] else none, none)
  | some acc, x => if x = stop then (none, some (acc ++ [x])) else (some (acc ++ [x]), none)

/-- The state and the frames after reading a stream from a state. -/
def scan : Option (List α) → List α → Option (List α) × List (List α)
  | s, [] => (s, [])
  | s, x :: xs =>
    let r := next start stop s x
    let t := scan r.1 xs
    (t.1, r.2.toList ++ t.2)

@[simp] theorem scan_nil (s : Option (List α)) : scan start stop s [] = (s, []) := rfl

theorem scan_cons (s : Option (List α)) (x : α) (xs : List α) :
    scan start stop s (x :: xs) =
      ((scan start stop (next start stop s x).1 xs).1,
        (next start stop s x).2.toList ++ (scan start stop (next start stop s x).1 xs).2) := rfl

/-- Reading two pieces is reading their concatenation: the state carries
over the cut. -/
theorem scan_append (s : Option (List α)) (a b : List α) :
    scan start stop s (a ++ b) =
      ((scan start stop (scan start stop s a).1 b).1,
        (scan start stop s a).2 ++ (scan start stop (scan start stop s a).1 b).2) := by
  induction a generalizing s with
  | nil => simp
  | cons x xs ih => simp only [List.cons_append, scan_cons, ih, List.append_assoc]

/-- Outside a frame nothing without a start mark is read. -/
theorem scan_skip (a : List α) (h : start ∉ a) : scan start stop none a = (none, []) := by
  induction a with
  | nil => rfl
  | cons x xs ih =>
    have hx : ¬ x = start := fun e => h (e ▸ List.mem_cons_self)
    have hxs : start ∉ xs := fun e => h (List.mem_cons_of_mem _ e)
    simp [scan_cons, next, hx, ih hxs]

/-- Inside a frame everything without an end mark is collected. -/
theorem scan_collect (acc a : List α) (h : stop ∉ a) :
    scan start stop (some acc) a = (some (acc ++ a), []) := by
  induction a generalizing acc with
  | nil => simp
  | cons x xs ih =>
    have hx : ¬ x = stop := fun e => h (e ▸ List.mem_cons_self)
    have hxs : stop ∉ xs := fun e => h (List.mem_cons_of_mem _ e)
    simp [scan_cons, next, hx, ih _ hxs]

/-- A start mark with no end mark behind it opens a frame. -/
theorem scan_open (a : List α) (h : stop ∉ a) :
    scan start stop none (start :: a) = (some (start :: a), []) := by
  simp [scan_cons, next, scan_collect start stop [start] a h]

/-- A whole frame, and then the rest of the stream. -/
theorem scan_frame (a b : List α) (h : stop ∉ a) :
    scan start stop none (start :: (a ++ stop :: b)) =
      ((scan start stop none b).1, (start :: (a ++ [stop])) :: (scan start stop none b).2) := by
  have hopen := scan_open start stop a h
  rw [← List.cons_append, scan_append, hopen]
  simp [scan_cons, next]

omit [DecidableEq α] in
/-- What precedes the first end mark. -/
theorem cut_unique {a b x y : List α} (ha : stop ∉ a) (hx : stop ∉ x)
    (h : x ++ stop :: y = a ++ stop :: b) : x = a := by
  rcases List.append_eq_append_iff.mp h with ⟨c, rfl, hc⟩ | ⟨c, rfl, hc⟩
  · cases c with
    | nil => exact (List.append_nil _).symm
    | cons d c =>
      obtain ⟨rfl, -⟩ := List.cons.inj hc
      exact absurd (List.mem_append_right _ List.mem_cons_self) ha
  · cases c with
    | nil => exact List.append_nil _
    | cons d c =>
      obtain ⟨rfl, -⟩ := List.cons.inj hc
      exact absurd (List.mem_append_right _ List.mem_cons_self) hx

omit [DecidableEq α] in
/-- The one end mark is the last element. -/
theorem cut_last {w x y : List α} (hw : stop ∉ w) (h : w ++ [stop] = x ++ stop :: y) :
    x = w ∧ y = [] := by
  rcases List.append_eq_append_iff.mp h with ⟨c, rfl, hc⟩ | ⟨c, rfl, hc⟩
  · have hlength := congrArg List.length hc
    simp only [List.length_append, List.length_cons, List.length_nil] at hlength
    obtain rfl := List.length_eq_zero_iff.mp (show c.length = 0 by omega)
    exact ⟨List.append_nil _, List.length_eq_zero_iff.mp (by omega)⟩
  · cases c with
    | nil => exact ⟨(List.append_nil _).symm, (List.cons.inj hc).2⟩
    | cons d c =>
      obtain ⟨rfl, -⟩ := List.cons.inj hc
      exact absurd (List.mem_append_right _ List.mem_cons_self) hw

/-- A frame: a start mark, and one end mark, behind everything else. -/
def IsFrame (raw : List α) : Prop := ∃ a, raw = start :: (a ++ [stop]) ∧ stop ∉ a

/-- Whole frames are read one by one. -/
theorem scan_frames : ∀ {frames : List (List α)}, (∀ f ∈ frames, IsFrame start stop f) →
    scan start stop none frames.flatten = (none, frames)
  | [], _ => rfl
  | f :: fs, h => by
    obtain ⟨a, rfl, ha⟩ := h f List.mem_cons_self
    have hrest := scan_frames fun f hf => h f (List.mem_cons_of_mem _ hf)
    have hflatten : ((start :: (a ++ [stop])) :: fs).flatten =
        start :: (a ++ stop :: fs.flatten) := by simp
    rw [hflatten, scan_frame start stop a _ ha, hrest]

/-- A start mark, any element between some that end no frame and some that start none, and
an end mark among these: one frame, up to the first end mark. -/
theorem scan_disturbed {x y : List α} (z : α) (hx : stop ∉ x) (hy : start ∉ y)
    (hstop : stop ∈ y) :
    ∃ a rest, x ++ z :: y = a ++ stop :: rest ∧ stop ∉ a ∧
      scan start stop none (start :: (x ++ z :: y)) = (none, [start :: (a ++ [stop])]) := by
  by_cases hz : z = stop
  · subst hz
    refine ⟨x, y, rfl, hx, ?_⟩
    rw [scan_frame start z x y hx, scan_skip start z y hy]
  · obtain ⟨y₁, y₂, rfl, hy₁⟩ := List.eq_append_cons_of_mem hstop
    have ha : stop ∉ x ++ z :: y₁ := by simp [hx, Ne.symm hz, hy₁]
    have hskip := scan_skip start stop y₂ fun hmem => hy (by simp [hmem])
    have heq : x ++ z :: (y₁ ++ stop :: y₂) = (x ++ z :: y₁) ++ stop :: y₂ := by simp
    refine ⟨x ++ z :: y₁, y₂, heq, ha, ?_⟩
    rw [heq, scan_frame start stop _ y₂ ha, hskip]

/-- **What is read is a piece of the stream.** A collected frame ends it, and what was read
are frames in it. -/
theorem scan_pieces (l : List α) :
    (∀ acc, (scan start stop none l).1 = some acc →
      ∃ a, acc = start :: a ∧ stop ∉ a ∧ acc <:+ l) ∧
    ∀ raw ∈ (scan start stop none l).2, IsFrame start stop raw ∧ raw <:+: l := by
  induction l using List.reverseRecOn with
  | nil => simp
  | append_singleton l x ih =>
    obtain ⟨ihacc, ihraw⟩ := ih
    have hkept : ∀ raw ∈ (scan start stop none l).2, IsFrame start stop raw ∧ raw <:+: l ++ [x] :=
      fun raw hraw => ⟨(ihraw raw hraw).1, (ihraw raw hraw).2.trans (List.infix_append [] l [x])⟩
    rw [scan_append, scan_cons, scan_nil]
    simp only [List.append_nil, List.mem_append, Option.mem_toList]
    cases hs : (scan start stop none l).1 with
    | none =>
      refine ⟨fun acc hacc => ?_, fun raw hraw => hkept raw (hraw.resolve_right (by simp [next]))⟩
      by_cases hx : x = start
      · subst hx
        simp only [next, if_true, Option.some.injEq] at hacc
        exact ⟨[], hacc.symm, List.not_mem_nil, hacc ▸ List.suffix_append l [x]⟩
      · simp [next, hx] at hacc
    | some cur =>
      obtain ⟨a, rfl, ha, hsuffix⟩ := ihacc cur hs
      have hlonger : start :: a ++ [x] <:+ l ++ [x] := List.suffix_append_self_iff.mpr hsuffix
      by_cases hx : x = stop
      · subst hx
        simp only [next, if_true, reduceCtorEq, false_implies, implies_true, true_and]
        rintro raw (hraw | hraw)
        · exact hkept raw hraw
        · obtain rfl := Option.some.inj hraw
          exact ⟨⟨a, rfl, ha⟩, hlonger.isInfix⟩
      · simp only [next, if_neg hx, Option.some.injEq, reduceCtorEq, or_false]
        refine ⟨fun acc hacc => ⟨a ++ [x], hacc.symm, ?_, hacc ▸ hlonger⟩, hkept⟩
        simp [ha, Ne.symm hx]

omit [DecidableEq α] in
/-- A start mark lies behind what has none. -/
theorem start_behind {c u t rest : List α} (hc : start ∉ c) (h : u ++ start :: t = c ++ rest) :
    ∃ u', u' ++ start :: t = rest := by
  rcases List.append_eq_append_iff.mp h with ⟨w, rfl, hw⟩ | ⟨w, rfl, hw⟩
  · cases w with
    | nil => exact ⟨[], hw⟩
    | cons y w =>
      obtain ⟨rfl, -⟩ := List.cons.inj hw
      exact absurd (List.mem_append_right _ List.mem_cons_self) hc
  · exact ⟨w, hw.symm⟩

omit [DecidableEq α] in
/-- A frame in a stream that begins with a frame is that one or lies behind it. -/
theorem frame_cases {a c u v rest : List α} (hne : start ≠ stop) (ha : stop ∉ a) (hc : stop ∉ c)
    (hstart : start ∉ c) (h : u ++ start :: (a ++ stop :: v) = start :: (c ++ stop :: rest)) :
    a = c ∨ ∃ u', u' ++ start :: (a ++ stop :: v) = rest := by
  cases u with
  | nil => exact .inl (cut_unique stop hc ha (List.cons.inj h).2)
  | cons x u =>
    have hbehind : u ++ start :: (a ++ stop :: v) = (c ++ [stop]) ++ rest := by
      rw [List.append_assoc, List.singleton_append]
      exact (List.cons.inj h).2
    refine .inr (start_behind start ?_ hbehind)
    simp [hstart, hne]

/-- What follows the last end mark. -/
def lastLine (l : List α) : List α := (l.reverse.takeWhile (· ≠ stop)).reverse

/-- What a stream leaves open: what follows its last end mark, from the first
start mark in it on. -/
def openTail (l : List α) : List α :=
  (l.reverse.takeWhile (· ≠ stop)).reverse.dropWhile (· ≠ start)

theorem openTail_eq (l : List α) :
    openTail start stop l = (lastLine stop l).dropWhile (· ≠ start) := rfl

theorem openTail_length_le (l : List α) :
    (openTail start stop l).length ≤ (lastLine stop l).length :=
  (List.dropWhile_suffix _).length_le

theorem openTail_concat_stop (l : List α) : openTail start stop (l ++ [stop]) = [] := by
  simp [openTail]

theorem openTail_concat (l : List α) (x : α) (hx : x ≠ stop) :
    openTail start stop (l ++ [x]) =
      if (openTail start stop l).isEmpty then (if x = start then [x] else [])
      else openTail start stop l ++ [x] := by
  simp only [openTail, List.reverse_append, List.reverse_cons, List.reverse_nil, List.nil_append,
    List.cons_append, List.takeWhile_cons, ne_eq, hx, not_false_eq_true, decide_true, ↓reduceIte]
  rw [List.dropWhile_append]
  by_cases hs : x = start <;> simp [hs]

/-- **The scanner's state is the open tail of the stream.** -/
theorem scan_fst_eq_openTail (hne : start ≠ stop) (l : List α) :
    (scan start stop none l).1.getD [] = openTail start stop l ∧
      (scan start stop none l).1 ≠ some [] := by
  induction l using List.reverseRecOn with
  | nil => simp [openTail]
  | append_singleton l x ih =>
    obtain ⟨ih, ihne⟩ := ih
    rw [scan_append]
    by_cases hx : x = stop
    · subst hx
      rw [openTail_concat_stop]
      cases (scan start x none l).1 <;> simp [scan_cons, next, Ne.symm hne]
    · rw [openTail_concat start stop l x hx, ← ih]
      cases hs : (scan start stop none l).1 with
      | none => by_cases hst : x = start <;> simp [scan_cons, next, hst]
      | some acc =>
        have hacc : acc ≠ [] := fun e => ihne (by rw [hs, e])
        simp [scan_cons, next, hx, hacc]

/-! ### The last line -/

theorem lastLine_append (a : List α) {b : List α} (h : stop ∉ b) :
    lastLine stop (a ++ b) = lastLine stop a ++ b := by
  have hall : ∀ x ∈ b.reverse, decide (x ≠ stop) = true := by
    rintro x hx
    simp only [decide_eq_true_eq]
    rintro rfl
    exact h (List.mem_reverse.mp hx)
  rw [lastLine, List.reverse_append, List.takeWhile_append_of_pos hall, List.reverse_append,
    List.reverse_reverse, lastLine]

theorem lastLine_self {l : List α} (h : stop ∉ l) : lastLine stop l = l :=
  lastLine_append stop [] h

theorem lastLine_concat_stop (a : List α) : lastLine stop (a ++ [stop]) = [] := by
  simp [lastLine]

/-- What precedes an end mark is in no last line. -/
theorem lastLine_of_stop (a b : List α) : lastLine stop (a ++ stop :: b) = lastLine stop b := by
  induction b using List.reverseRecOn with
  | nil => rw [lastLine_concat_stop, lastLine_self stop List.not_mem_nil]
  | append_singleton b x ih =>
    rw [← List.cons_append, ← List.append_assoc]
    by_cases hx : x = stop
    · subst hx
      rw [lastLine_concat_stop, lastLine_concat_stop]
    · have hnot : stop ∉ [x] := by simpa using Ne.symm hx
      rw [lastLine_append stop _ hnot, lastLine_append stop _ hnot, ih]

/-- An element that ends no frame is changed: no last line gets longer. -/
theorem lastLine_changed (a b : List α) {z : α} (hz : z ≠ stop) (z' : α) (n : ℕ) :
    (lastLine stop ((a ++ z' :: b).take n)).length ≤
      (lastLine stop ((a ++ z :: b).take n)).length := by
  rw [List.take_append, List.take_append]
  generalize n - a.length = m
  generalize a.take n = a
  cases m with
  | zero => simp
  | succ m =>
    rw [List.take_succ_cons, List.take_succ_cons]
    by_cases hb : stop ∈ b.take m
    · obtain ⟨c, d, hcd, -⟩ := List.eq_append_cons_of_mem hb
      have hsplit : ∀ x, a ++ x :: b.take m = (a ++ x :: c) ++ stop :: d := by simp [hcd]
      have hrest : ∀ x, lastLine stop (a ++ x :: b.take m) = lastLine stop d := fun x =>
        (congrArg _ (hsplit x)).trans (lastLine_of_stop stop _ _)
      exact Nat.le_of_eq (by rw [hrest, hrest])
    · have hsplit : ∀ x, a ++ x :: b.take m = (a ++ [x]) ++ b.take m := by simp
      have hkept : stop ∉ [z] := by simpa using Ne.symm hz
      rw [hsplit, hsplit, lastLine_append stop _ hb, lastLine_append stop _ hb,
        lastLine_append stop a hkept, List.length_append, List.length_append]
      refine Nat.add_le_add_right ?_ _
      by_cases hz' : z' = stop
      · subst hz'
        rw [lastLine_concat_stop]
        exact Nat.zero_le _
      · have hkept' : stop ∉ [z'] := by simpa using Ne.symm hz'
        rw [lastLine_append stop a hkept']
        simp

/-- Of whole frames, cut anywhere, the last line is open. -/
theorem openTail_frames (hne : start ≠ stop) : ∀ {frames : List (List α)} (n : ℕ),
    (∀ f ∈ frames, IsFrame start stop f) →
      openTail start stop (frames.flatten.take n) = lastLine stop (frames.flatten.take n)
  | [], n, _ => by simp [openTail_eq, lastLine]
  | f :: fs, 0, _ => rfl
  | f :: fs, n + 1, h => by
    obtain ⟨a, rfl, ha⟩ := h f List.mem_cons_self
    have hflatten : ((start :: (a ++ [stop])) :: fs).flatten =
        start :: (a ++ stop :: fs.flatten) := by simp
    rw [hflatten, List.take_succ_cons, List.take_append, openTail_eq]
    generalize n - a.length = m
    cases m with
    | zero =>
      have hnot : stop ∉ start :: (a.take n ++ (stop :: fs.flatten).take 0) := by
        simp only [List.take_zero, List.append_nil, List.mem_cons, not_or]
        exact ⟨hne.symm, fun hmem => ha (List.mem_of_mem_take hmem)⟩
      rw [lastLine_self stop hnot, List.dropWhile_cons_of_neg (by simp)]
    | succ m =>
      have hrest := openTail_frames hne m fun f hf => h f (List.mem_cons_of_mem _ hf)
      rw [List.take_succ_cons, ← List.cons_append, lastLine_of_stop, ← openTail_eq, hrest]

end Framing
end SensorSupport
