/-
# Input file streams

A stream that reads a file: the file behind it, the place it has come to and
the two flags that its operations set. A read that finds too few items gives
what there is and fails the stream; a failed stream gives nothing any more,
and only opening a file clears it. Opening does nothing but fail while a file
is open.

Key definitions: `InputStream`, `InputStream.openAtEnd`, `InputStream.read`,
`InputStream.fill`.
Key theorems: `InputStream.read_read`, `InputStream.read_failed`.
-/
import Mathlib.Data.List.Basic
import Mathlib.Tactic.Common

namespace SensorSupport

/-- A stream that reads the items of a file. -/
structure InputStream (α : Type) where
  file : Option (List α)
  pos : ℕ
  eof : Bool
  fail : Bool

namespace InputStream

variable {α : Type} (s : InputStream α) {n m : ℕ}

/-- A stream that opened nothing yet. -/
def closed : InputStream α := ⟨none, 0, false, false⟩

/-- Is no flag set? -/
def good : Bool := !s.eof && !s.fail

/-- Is there a file behind the stream? -/
def isOpen : Bool := s.file.isSome

/-- The items that were not read yet. -/
def rest : List α := (s.file.getD []).drop s.pos

/-- Opens what a path leads to and goes to its end. -/
def openAtEnd (target : Option (List α)) : InputStream α :=
  match s.file, target with
  | none, some items => ⟨some items, items.length, false, false⟩
  | _, _ => { s with fail := true }

/-- Closes the file. The flags stay as they are. -/
def close : InputStream α :=
  match s.file with
  | none => { s with fail := true }
  | some _ => { s with file := none }

/-- The place the stream has come to, unless it is not good. -/
def tell : Option ℕ × InputStream α :=
  if s.good then (s.file.map fun _ => s.pos, s) else (none, { s with fail := true })

/-- Goes to a place. A stream that has failed stays where it is. -/
def seek (pos : ℕ) : InputStream α :=
  if s.fail then { s with eof := false } else { s with pos := pos, eof := false }

/-- Reads `n` items, or what there is of them. -/
def read (n : ℕ) : List α × InputStream α :=
  if s.good then
    let items := s.rest.take n
    (items, { s with
      pos := s.pos + items.length
      eof := decide (items.length < n)
      fail := decide (items.length < n) })
  else ([], { s with fail := true })

/-- A buffer after a read into it. What was not read stays as it was. -/
def fill (items buffer : List α) : List α := items ++ buffer.drop items.length

@[simp] theorem fill_nil (buffer : List α) : fill [] buffer = buffer := rfl

theorem fill_of_length {items buffer : List α} (h : items.length = buffer.length) :
    fill items buffer = items := by
  rw [fill, h, List.drop_length, List.append_nil]

theorem fill_length (items buffer : List α) (h : items.length ≤ buffer.length) :
    (fill items buffer).length = buffer.length := by
  rw [fill, List.length_append, List.length_drop]
  omega

theorem read_length_le (n : ℕ) : (s.read n).1.length ≤ n := by
  unfold read
  split
  · exact List.length_take_le n s.rest
  · exact Nat.zero_le n

/-- A read does not change the length of the buffer. -/
theorem fill_read_length {buffer : List α} (h : buffer.length = n) :
    (fill (s.read n).1 buffer).length = n := by
  rw [fill_length _ _ (h ▸ s.read_length_le n), h]

variable {s}

theorem isOpen_eq_false : s.isOpen = false ↔ s.file = none := by
  simp [isOpen]

theorem openAtEnd_closed (h : s.isOpen = false) (items : List α) :
    s.openAtEnd (some items) = ⟨some items, items.length, false, false⟩ := by
  simp [openAtEnd, isOpen_eq_false.mp h]

theorem openAtEnd_missing (h : s.isOpen = false) : s.openAtEnd none = { s with fail := true } := by
  simp [openAtEnd, isOpen_eq_false.mp h]

/-- A stream that is open already opens nothing. -/
theorem openAtEnd_open (h : s.isOpen = true) (target : Option (List α)) :
    s.openAtEnd target = { s with fail := true } := by
  obtain ⟨items, hitems⟩ := Option.isSome_iff_exists.mp h
  simp [openAtEnd, hitems]

theorem close_isOpen : s.close.isOpen = false := by
  unfold close
  cases h : s.file with
  | none => rfl
  | some _ => rfl

theorem good_iff : s.good = true ↔ s.eof = false ∧ s.fail = false := by
  simp [good]

theorem read_fst (h : s.good = true) (n : ℕ) : (s.read n).1 = s.rest.take n := by
  rw [read, if_pos h]

/-- A read of as many items as there are leaves the stream good behind them. -/
theorem read_snd (h : s.good = true) (hn : n ≤ s.rest.length) :
    (s.read n).2 = { s with pos := s.pos + n } := by
  obtain ⟨heof, hfail⟩ := good_iff.mp h
  have hlength : (s.rest.take n).length = n := List.length_take_of_le hn
  rw [read, if_pos h]
  simp only [hlength, Nat.lt_irrefl, decide_false, heof, hfail]

/-- A failed stream gives nothing. -/
theorem read_failed (h : s.fail = true) (n : ℕ) : s.read n = ([], s) := by
  have hgood : ¬ s.good = true := fun hg => by simp [(good_iff.mp hg).2] at h
  rw [read, if_neg hgood]
  simp [← h]

theorem read_short (h : s.good = true) (hn : s.rest.length < n) : (s.read n).2.fail = true := by
  rw [read, if_pos h, List.take_of_length_le (Nat.le_of_lt hn)]
  exact decide_eq_true hn

/-- **What a second read gives** are the items behind those asked for first,
also when there were too few of them. -/
theorem read_read (h : s.good = true) (n m : ℕ) :
    ((s.read n).2.read m).1 = (s.rest.drop n).take m := by
  by_cases hn : n ≤ s.rest.length
  · rw [read_snd h hn, read_fst (show good { s with pos := s.pos + n } = true from h)]
    simp only [rest, List.drop_drop]
  · have hlt : s.rest.length < n := Nat.not_le.mp hn
    rw [read_failed (read_short h hlt), List.drop_eq_nil_of_le (Nat.le_of_lt hlt), List.take_nil]

theorem seek_failed (h : s.fail = true) (pos : ℕ) : s.seek pos = { s with eof := false } := by
  rw [seek, if_pos h]

end InputStream

end SensorSupport
