/-
# Requests of lines

A request is a request line, header lines and a blank line, each ended by CR LF, and what is
behind them is its body. The request line is three words, and a header line a name and a value.
A request is read back as it was written (`parse_write`) when its words have no space, its names no
colon, and nothing in its lines is a CR or a LF: then nothing that is put into a line can end it.

Key definitions: `HttpRequest`, `HttpRequest.lines`, `HttpRequest.write`, `HttpRequest.parse`,
`HttpRequest.WellFormed`.
Key theorems: `HttpRequest.readHead_lines`, `HttpRequest.parse_write`.
-/
import Mathlib.Data.List.Basic
import Mathlib.Data.Nat.Notation

namespace SensorSupport

structure HttpRequest where
  method : List UInt8
  target : List UInt8
  version : List UInt8
  headers : List (List UInt8 × List UInt8)
  body : List UInt8
deriving DecidableEq

namespace HttpRequest

/-- The end of a line. -/
def eol : List UInt8 := [0x0D, 0x0A]

/-- `name: value` -/
def headerLine (header : List UInt8 × List UInt8) : List UInt8 :=
  header.1 ++ [0x3A, 0x20] ++ header.2

def requestLine (r : HttpRequest) : List UInt8 :=
  r.method ++ [0x20] ++ r.target ++ [0x20] ++ r.version

def lines (r : HttpRequest) : List (List UInt8) := r.requestLine :: r.headers.map headerLine

def write (r : HttpRequest) : List UInt8 := r.lines.flatMap (· ++ eol) ++ eol ++ r.body

/-- The lines up to the first blank one, and what is behind it; `line` is what was read of the
present line. -/
def readHead (line : List UInt8) : List UInt8 → Option (List (List UInt8) × List UInt8)
  | [] => none
  | [_] => none
  | b :: c :: rest =>
    if b = 0x0D ∧ c = 0x0A then
      if line = [] then some ([], rest)
      else (readHead [] rest).map fun head => (line :: head.1, head.2)
    else readHead (line ++ [b]) (c :: rest)

/-- The words of a request line. -/
def words (line : List UInt8) : Option (List UInt8 × List UInt8 × List UInt8) :=
  match line.splitOn 0x20 with
  | [method, target, version] => some (method, target, version)
  | _ => none

/-- A header line is cut at its first colon; the space behind it is left out. -/
def parseHeader (line : List UInt8) : Option (List UInt8 × List UInt8) :=
  match line.dropWhile (· ≠ 0x3A) with
  | _ :: space :: value => if space = 0x20 then some (line.takeWhile (· ≠ 0x3A), value) else none
  | _ => none

def parse (bytes : List UInt8) : Option HttpRequest := do
  let head ← readHead [] bytes
  match head.1 with
  | [] => none
  | first :: rest =>
    let (method, target, version) ← words first
    let headers ← rest.mapM parseHeader
    return { method, target, version, headers, body := head.2 }

/-- No part of a request has a byte that its place in the request gives a meaning to. -/
structure WellFormed (r : HttpRequest) : Prop where
  method : 0x20 ∉ r.method
  target : 0x20 ∉ r.target
  version : 0x20 ∉ r.version
  names : ∀ header ∈ r.headers, 0x3A ∉ header.1
  oneLine : ∀ line ∈ r.lines, 0x0D ∉ line ∧ 0x0A ∉ line

/-! ### Lines -/

/-- A line without a CR is read up to its end. -/
theorem readHead_line : ∀ (text line rest : List UInt8), 0x0D ∉ text → line ++ text ≠ [] →
    readHead line (text ++ eol ++ rest) =
      (readHead [] rest).map fun head => ((line ++ text) :: head.1, head.2)
  | [], line, rest, _, hne => by
    rw [List.append_nil] at hne ⊢
    simp [eol, readHead, hne]
  | [b], line, rest, hcr, hne => by
    have hb : b ≠ 0x0D := fun h => hcr (by simp [h])
    simp [eol, readHead, hb]
  | b :: c :: text, line, rest, hcr, hne => by
    have hb : b ≠ 0x0D := fun h => hcr (by simp [h])
    have ih := readHead_line (c :: text) (line ++ [b]) rest (fun h => hcr (List.mem_cons_of_mem _ h))
      (by simp)
    simpa [readHead, hb] using ih

/-- **Lines are read back**, whatever is behind the blank one. -/
theorem readHead_lines : ∀ (lines : List (List UInt8)) (body : List UInt8),
    (∀ line ∈ lines, line ≠ [] ∧ 0x0D ∉ line) →
    readHead [] (lines.flatMap (· ++ eol) ++ eol ++ body) = some (lines, body)
  | [], body, _ => by simp [eol, readHead]
  | line :: lines, body, h => by
    have hline := h line List.mem_cons_self
    have ih := readHead_lines lines body fun l hl => h l (List.mem_cons_of_mem _ hl)
    rw [List.flatMap_cons, List.append_assoc, List.append_assoc,
      readHead_line line [] _ hline.2 (by simpa using hline.1), ← List.append_assoc, ih]
    rfl

/-! ### The parts of a line -/

theorem words_requestLine {r : HttpRequest} (h : r.WellFormed) :
    words r.requestLine = some (r.method, r.target, r.version) := by
  have hline : r.requestLine = [0x20].intercalate [r.method, r.target, r.version] := by
    simp [requestLine, List.intercalate, List.intersperse]
  have hsplit : r.requestLine.splitOn 0x20 = [r.method, r.target, r.version] := by
    rw [hline]
    refine List.splitOn_intercalate _ (fun word hword => ?_) (List.cons_ne_nil _ _)
    simp only [List.mem_cons, List.not_mem_nil, or_false] at hword
    rcases hword with rfl | rfl | rfl
    · exact h.method
    · exact h.target
    · exact h.version
  simp [words, hsplit]

theorem parseHeader_headerLine {header : List UInt8 × List UInt8} (h : 0x3A ∉ header.1) :
    parseHeader (headerLine header) = some header := by
  have hname : ∀ b ∈ header.1, decide (b ≠ 0x3A) = true := by
    intro b hb
    refine decide_eq_true fun hcolon => h ?_
    rwa [← hcolon]
  have hdrop : (headerLine header).dropWhile (· ≠ 0x3A) = 0x3A :: 0x20 :: header.2 := by
    rw [headerLine, List.append_assoc, List.dropWhile_append_of_pos hname]
    rfl
  have htake : (headerLine header).takeWhile (· ≠ 0x3A) = header.1 := by
    rw [headerLine, List.append_assoc, List.takeWhile_append_of_pos hname]
    simp
  rw [parseHeader, hdrop, htake]
  rfl

theorem mapM_parseHeader : ∀ headers : List (List UInt8 × List UInt8),
    (∀ header ∈ headers, 0x3A ∉ header.1) →
    (headers.map headerLine).mapM parseHeader = some headers
  | [], _ => rfl
  | header :: headers, h => by
    rw [List.map_cons, List.mapM_cons, parseHeader_headerLine (h _ List.mem_cons_self),
      mapM_parseHeader headers fun header hmem => h header (List.mem_cons_of_mem _ hmem)]
    rfl

theorem headerLine_ne_nil (header : List UInt8 × List UInt8) : headerLine header ≠ [] := by
  simp [headerLine]

/-- **A request is read back as it was written.** -/
theorem parse_write {r : HttpRequest} (h : r.WellFormed) : parse r.write = some r := by
  have hlines : ∀ line ∈ r.lines, line ≠ [] ∧ 0x0D ∉ line := by
    intro line hline
    refine ⟨?_, (h.oneLine line hline).1⟩
    rcases List.mem_cons.mp hline with rfl | hline
    · simp [requestLine]
    · obtain ⟨header, -, rfl⟩ := List.mem_map.mp hline
      exact headerLine_ne_nil header
  unfold parse write
  rw [readHead_lines r.lines r.body hlines]
  simp only [lines, Option.bind_eq_bind, Option.bind_some, words_requestLine h,
    mapM_parseHeader r.headers h.names]
  rfl

end HttpRequest
end SensorSupport
