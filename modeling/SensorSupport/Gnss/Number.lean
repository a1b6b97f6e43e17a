/-
# Python's `int` and `float` on a text

The parsers of the driver hand fields of a sentence to `int` and `float`. Both
strip white space (less of it than `str.strip`), take a sign and accept single
underscores between digits; `int` also reads hexadecimal digits, `float` a fraction, an
exponent and the names of the values that are not finite. A finite result is kept as the
rational number the text writes, where Python rounds it to a double; `none` is `ValueError`.

Key definitions: `PyFloat`, `pyInt`, `pyInt16`, `pyFloat`.
-/
import SensorSupport.Gnss.Nmea
import Mathlib.Data.Rat.Defs
import Mathlib.Algebra.Order.Ring.Rat

namespace SensorSupport
namespace Gnss

/-- A Python `float`: a finite value, an infinity or not a number. -/
inductive PyFloat
  | fin (value : ℚ)
  | inf (negative : Bool)
  | nan
deriving DecidableEq, Repr

namespace PyFloat

/-- `math.isfinite`. -/
def isFinite : PyFloat → Bool
  | fin _ => true
  | inf _ => false
  | nan => false

/-- `-value`. -/
def neg : PyFloat → PyFloat
  | fin q => fin (-q)
  | inf negative => inf !negative
  | nan => nan

end PyFloat

/-- The white space around a number: space, and `\t` to `\r`. -/
def isNumberSpace (c : Char) : Bool := c.toNat = 0x20 || (0x09 ≤ c.toNat && c.toNat ≤ 0x0D)

/-- The text of a number without the white space around it. -/
def stripNumber (s : Text) : Text :=
  ((s.dropWhile isNumberSpace).reverse.dropWhile isNumberSpace).reverse

/-- The value of a decimal digit. -/
def digitValue (c : Char) : Option ℕ :=
  if '0' ≤ c ∧ c ≤ '9' then some (c.toNat - 48) else none

/-- The value of a hexadecimal digit. -/
def hexDigitValue (c : Char) : Option ℕ :=
  if '0' ≤ c ∧ c ≤ '9' then some (c.toNat - 48)
  else if 'a' ≤ c ∧ c ≤ 'f' then some (c.toNat - 87)
  else if 'A' ≤ c ∧ c ≤ 'F' then some (c.toNat - 55)
  else none

/-- The longest run of digits, with single underscores between digits, and
what follows it. -/
def takeDigitsOf (value : Char → Option ℕ) (afterDigit : Bool) : Text → List ℕ × Text
  | [] => ([], [])
  | c :: cs =>
    match value c with
    | some d => (d :: (takeDigitsOf value true cs).1, (takeDigitsOf value true cs).2)
    | none =>
      if c = '_' ∧ afterDigit ∧ (cs.head?.bind value).isSome then takeDigitsOf value false cs
      else ([], c :: cs)

/-- A run of decimal digits. -/
def takeDigits : Bool → Text → List ℕ × Text := takeDigitsOf digitValue

/-- The number a run of digits writes. -/
def ofDigits (ds : List ℕ) : ℕ := ds.foldl (fun n d => 10 * n + d) 0

/-- Is there a minus sign in front, and what follows the sign? -/
def takeSign : Text → Bool × Text
  | '-' :: cs => (true, cs)
  | '+' :: cs => (false, cs)
  | cs => (false, cs)

/-- `int(text)`. -/
def pyInt (s : Text) : Option ℤ :=
  let t := takeSign (stripNumber s)
  match takeDigits false t.2 with
  | (d :: ds, []) => some (if t.1 then -(ofDigits (d :: ds) : ℤ) else ofDigits (d :: ds))
  | _ => none

/-- A text without the prefix `0x` and an underscore behind it. -/
def dropHexPrefix : Text → Text
  | '0' :: 'x' :: '_' :: cs | '0' :: 'X' :: '_' :: cs => cs
  | '0' :: 'x' :: cs | '0' :: 'X' :: cs => cs
  | cs => cs

/-- `int(text, 16)`. -/
def pyInt16 (s : Text) : Option ℤ :=
  let t := takeSign (stripNumber s)
  match takeDigitsOf hexDigitValue false (dropHexPrefix t.2) with
  | (d :: ds, []) =>
    let n : ℤ := ((d :: ds).foldl (fun n d => 16 * n + d) 0 : ℕ)
    some (if t.1 then -n else n)
  | _ => none

/-- The exponent of a decimal number: the text behind the digits. -/
def takeExponent : Text → Option ℤ
  | [] => some 0
  | c :: cs =>
    if c = 'e' ∨ c = 'E' then
      let t := takeSign cs
      match takeDigits false t.2 with
      | (d :: ds, []) => some (if t.1 then -(ofDigits (d :: ds) : ℤ) else ofDigits (d :: ds))
      | _ => none
    else none

/-- A decimal number: digits with a point among them, then an exponent. -/
def decimal (s : Text) : Option ℚ :=
  let whole := takeDigits false s
  let fraction :=
    match whole.2 with
    | '.' :: cs => takeDigits false cs
    | cs => ([], cs)
  if whole.1 ++ fraction.1 = [] then none
  else (takeExponent fraction.2).map fun exponent =>
    (ofDigits (whole.1 ++ fraction.1) : ℚ) * 10 ^ (exponent - (fraction.1.length : ℤ))

/-- `float(text)`, before the rounding to a double. -/
def pyFloat (s : Text) : Option PyFloat :=
  let t := takeSign (stripNumber s)
  let word := t.2.map Char.toLower
  let value :=
    if word = "inf".toList ∨ word = "infinity".toList then some (PyFloat.inf false)
    else if word = "nan".toList then some .nan
    else (decimal t.2).map .fin
  if t.1 then value.map .neg else value

example : pyInt "07".toList = some 7 := by decide
example : pyInt "1_".toList = none := by decide
example : pyInt16 "+f".toList = some 15 := by decide

end Gnss
end SensorSupport
