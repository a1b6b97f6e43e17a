/-
# The sentence parsers (`wtrtk_982dt_driver/gps_ntrip_py/nmea.py`, `hpr.py`)

`parse_gga` and `parse_hpr` check the checksum of a sentence, cut the fields out of it and
convert them. The two cuts are apart: `checksum_is_valid` takes what precedes the last `*`,
the parsers what precedes the first. The numbers are exact where Python computes with doubles.

Key definitions: `checksumIsValid`, `coordinate`, `parseGga`, `parseHpr`.
Key theorem: `parseSentence_eq_ok`.
-/
import Mathlib.Algebra.Order.Field.Rat
import SensorSupport.Gnss.PyText
import SensorSupport.Gnss.Sentences

namespace SensorSupport
namespace Gnss

/-- A `ValueError`: of `int` or `float`, with a text, or of a field of a sentence. -/
inductive ValueError
  | number
  | message (text : String)
  | field (kind : String) (error : ValueError)
deriving DecidableEq, Repr

namespace PyFloat

/-- `a + b`. -/
def add : PyFloat → PyFloat → PyFloat
  | fin a, fin b => fin (a + b)
  | fin _, inf negative | inf negative, fin _ => inf negative
  | inf negative, inf negative' => if negative = negative' then inf negative else nan
  | nan, _ | _, nan => nan

/-- `low <= value <= high`, with numbers for the bounds. -/
def within (low high : ℚ) : PyFloat → Bool
  | fin value => low ≤ value && value ≤ high
  | inf _ | nan => false

end PyFloat

/-! ### The checksum -/

/-- `text.rsplit('*', 1)` of a text with a `*`. -/
def rsplitStar (s : Text) : Text × Text :=
  ((s.rdropWhile (· ≠ '*')).dropLast, s.rtakeWhile (· ≠ '*'))

/-- The characters of a text, one after the other `^=` into 0. -/
def xorOf (s : Text) : ℕ := s.foldl (fun actual character => actual ^^^ character.toNat) 0

/-- `checksum_is_valid`. -/
def checksumIsValid (py : Python) (sentence : Text) : Bool :=
  let sentence := py.strip sentence
  if sentence.head? ≠ some '$' ∨ '*' ∉ sentence then false
  else
    let (body, checksumText) := rsplitStar sentence.tail
    if checksumText.length < 2 then false
    else
      match py.int16 (checksumText.take 2) with
      | none => false
      | some expected => (xorOf body : ℤ) = expected

/-! ### The parsers -/

/-- What the parsers cut into fields. -/
def bodyOf (sentence : Text) : Text :=
  if sentence.head? = some '$' then sentence.tail.takeWhile (· ≠ '*') else sentence

/-- A parser: the checksum of a sentence, then its fields. -/
def parseSentence {D : Type} (py : Python) (ofFields : Text → List Text → Except ValueError D)
    (sentence : Text) (validateChecksum : Bool) : Except ValueError D :=
  let sentence := py.strip sentence
  if validateChecksum && !checksumIsValid py sentence then
    .error (.message "invalid or missing NMEA checksum")
  else ofFields sentence ((bodyOf sentence).splitOn ',')

/-- `int(text)`. -/
def intField (py : Python) (text : Text) : Except ValueError ℤ :=
  match py.int text with
  | some n => .ok n
  | none => .error .number

/-- `float(text)`. -/
def floatField (py : Python) (text : Text) : Except ValueError PyFloat :=
  match py.float text with
  | some x => .ok x
  | none => .error .number

/-- `_optional_int`. -/
def optionalInt (py : Python) (value : Text) : Except ValueError ℤ :=
  if value = [] then .ok 0 else intField py value

/-- `_optional_float`. -/
def optionalFloat (py : Python) (value : Text) : Except ValueError PyFloat :=
  if value = [] then .ok .nan else floatField py value

/-- `_coordinate`. -/
def coordinate (py : Python) (value hemisphere : Text) (degreeDigits : ℕ) :
    Except ValueError PyFloat :=
  if value = [] then .ok .nan
  else if value.length < degreeDigits + 3 then .error (.message "coordinate is too short")
  else do
    let degrees ← floatField py (value.take degreeDigits)
    let minutes ← floatField py (value.drop degreeDigits)
    match minutes with
    | .fin m =>
      if ¬ (0 ≤ m ∧ m < 60) then
        .error (.message "coordinate minutes are outside [0, 60)")
      else
        let hemisphere := py.upper hemisphere
        if hemisphere ∉ [['N'], ['S'], ['E'], ['W']] then
          .error (.message "invalid coordinate hemisphere")
        else
          let result := degrees.add (.fin (m / 60))
          if hemisphere = ['S'] ∨ hemisphere = ['W'] then .ok result.neg else .ok result
    | .inf _ | .nan => .error (.message "coordinate minutes are outside [0, 60)")

/-- Field `i` of a sentence with so many. -/
def fieldAt (fields : List Text) (i : ℕ) : Text := fields.getD i []

/-- The name of a sentence ends in its kind, and it has so many fields. -/
def isComplete (py : Python) (kind : String) (count : ℕ) (fields : List Text) : Bool :=
  count ≤ fields.length && kind.toList.isSuffixOf (py.upper (fieldAt fields 0))

/-- The `try` of a parser: an error in it is one of a field. -/
def tryFields {D : Type} (kind : String) : Except ValueError D → Except ValueError D
  | .ok d => .ok d
  | .error error => .error (.field kind error)

/-- `parse_gga` behind the checksum. -/
def ggaOfFields (py : Python) (sentence : Text) (fields : List Text) :
    Except ValueError GgaData :=
  if !isComplete py "GGA" 10 fields then .error (.message "not a complete GGA sentence")
  else tryFields "GGA" do
    let fixQuality ← optionalInt py (fieldAt fields 6)
    let satellites ← optionalInt py (fieldAt fields 7)
    let latitude ← coordinate py (fieldAt fields 2) (fieldAt fields 3) 2
    let longitude ← coordinate py (fieldAt fields 4) (fieldAt fields 5) 3
    let hdop ← optionalFloat py (fieldAt fields 8)
    let altitude ← optionalFloat py (fieldAt fields 9)
    pure {
      sentence := sentence
      utcTime := fieldAt fields 1
      latitude := latitude
      longitude := longitude
      fixQuality := fixQuality
      satellites := satellites
      hdop := hdop
      altitude := altitude }

/-- `parse_gga`. -/
def parseGga (py : Python) : Text → Bool → Except ValueError GgaData :=
  parseSentence py (ggaOfFields py)

/-- The `try` of `parse_hpr`: heading, pitch, roll, quality, satellites and age. -/
def hprNumbers (py : Python) (fields : List Text) :
    Except ValueError (PyFloat × PyFloat × PyFloat × ℤ × ℤ × PyFloat) :=
  tryFields "HPR" do
    let heading ← optionalFloat py (fieldAt fields 2)
    let pitch ← optionalFloat py (fieldAt fields 3)
    let roll ← optionalFloat py (fieldAt fields 4)
    let solutionQuality ← optionalInt py (fieldAt fields 5)
    let satellites ← optionalInt py (fieldAt fields 6)
    let correctionAge ← optionalFloat py (fieldAt fields 7)
    pure (heading, pitch, roll, solutionQuality, satellites, correctionAge)

/-- `parse_hpr` behind the checksum. -/
def hprOfFields (py : Python) (sentence : Text) (fields : List Text) :
    Except ValueError HprData :=
  if !isComplete py "HPR" 9 fields then .error (.message "not a complete HPR sentence")
  else do
    let (heading, pitch, roll, solutionQuality, satellites, correctionAge) ← hprNumbers py fields
    if heading.isFinite && !heading.within 0 360 then
      .error (.message "HPR heading is outside [0, 360]")
    else if pitch.isFinite && !pitch.within (-90) 90 then
      .error (.message "HPR pitch is outside [-90, 90]")
    else if roll.isFinite && !roll.within (-90) 90 then
      .error (.message "HPR roll is outside [-90, 90]")
    else if ¬ (0 ≤ solutionQuality ∧ solutionQuality ≤ 255) then
      .error (.message "HPR solution quality is outside uint8 range")
    else if ¬ (0 ≤ satellites ∧ satellites ≤ 65535) then
      .error (.message "HPR satellite count is outside uint16 range")
    else
      .ok {
        sentence := sentence
        sourceSentence := py.upper (fieldAt fields 0)
        utcTime := fieldAt fields 1
        headingDeg := heading
        pitchDeg := pitch
        rollDeg := roll
        solutionQuality := solutionQuality
        satellites := satellites
        correctionAgeSec := correctionAge
        stationId := fieldAt fields 8 }

/-- `parse_hpr`. -/
def parseHpr (py : Python) : Text → Bool → Except ValueError HprData :=
  parseSentence py (hprOfFields py)

section Parse

variable {py : Python} {D : Type} {ofFields : Text → List Text → Except ValueError D}
  {s body t : Text} {d : D} {high low : Char} {a b : ℕ}

/-- A conversion in sequence with the rest of them. -/
theorem bind_eq_ok {ε A B : Type} {x : Except ε A} {f : A → Except ε B} {b : B} :
    (x >>= f) = .ok b ↔ ∃ a, x = .ok a ∧ f a = .ok b := by
  cases x <;> simp [bind, Except.bind]

theorem tryFields_eq_ok {kind : String} {x : Except ValueError D} :
    tryFields kind x = .ok d ↔ x = .ok d := by
  cases x <;> simp [tryFields]

/-- What a parser accepts has a valid checksum and fields that convert. -/
theorem parseSentence_eq_ok : parseSentence py ofFields s true = .ok d ↔
    checksumIsValid py (py.strip s) = true ∧
      ofFields (py.strip s) ((bodyOf (py.strip s)).splitOn ',') = .ok d := by
  unfold parseSentence
  cases hvalid : checksumIsValid py (py.strip s) <;> simp [hvalid]

/-- The cut at the last star. -/
theorem rsplitStar_eq (body : Text) (ht : '*' ∉ t) : rsplitStar (body ++ '*' :: t) = (body, t) := by
  have hdrop : ∀ t : Text, '*' ∉ t →
      (body ++ '*' :: t).rdropWhile (· ≠ '*') = body ++ ['*'] ∧
        (body ++ '*' :: t).rtakeWhile (· ≠ '*') = t := by
    intro t ht
    induction t using List.reverseRecOn with
    | nil =>
      exact ⟨List.rdropWhile_concat_neg _ _ _ (by simp),
        List.rtakeWhile_concat_neg _ _ _ (by simp)⟩
    | append_singleton t x ih =>
      have hx : x ≠ '*' := by
        rintro rfl
        exact ht (by simp)
      obtain ⟨ihdrop, ihtake⟩ := ih fun hmem => ht (List.mem_append_left _ hmem)
      rw [← List.cons_append, ← List.append_assoc]
      rw [List.rdropWhile_concat_pos _ _ _ (by simp [hx]),
        List.rtakeWhile_concat_pos _ _ _ (by simp [hx]), ihdrop, ihtake]
      exact ⟨rfl, rfl⟩
  unfold rsplitStar
  rw [(hdrop t ht).1, (hdrop t ht).2, List.dropLast_concat]

/-- The cut at the first star. -/
theorem bodyOf_eq (hbody : '*' ∉ body) (t : Text) : bodyOf ('$' :: (body ++ '*' :: t)) = body := by
  unfold bodyOf
  rw [if_pos (by rfl), List.tail_cons, List.takeWhile_append_of_pos]
  · simp
  · intro c hc
    simp only [decide_eq_true_eq]
    rintro rfl
    exact hbody hc

/-- The checksum of a sentence that ends in a star and two digits is that of what lies
between. -/
theorem checksumIsValid_eq (body : Text) (hhigh : hexDigitValue high = some a)
    (hlow : hexDigitValue low = some b) :
    checksumIsValid py ('$' :: (body ++ ['*', high, low])) = true ↔ xorOf body = 16 * a + b := by
  have hstrip : py.strip ('$' :: (body ++ ['*', high, low])) =
      '$' :: (body ++ ['*', high, low]) := by
    have hends := Python.strip_of_ends (s := body ++ ['*', high]) py.isSpace_dollar
      (isSpace_hexDigit hlow py)
    simpa using hends
  have hstar : '*' ∉ [high, low] := by
    simp [Ne.symm (hexDigit_ne_star hhigh), Ne.symm (hexDigit_ne_star hlow)]
  unfold checksumIsValid
  simp only [hstrip, List.tail_cons, rsplitStar_eq body hstar, int16_hex py hhigh hlow,
    List.take, List.length_cons, List.length_nil]
  simp
  norm_cast

/-- Without a star there is no checksum. -/
theorem checksumIsValid_noStar (h : '*' ∉ s) : checksumIsValid py s = false := by
  unfold checksumIsValid
  dsimp only
  rw [if_pos (.inr fun hmem => h (py.strip_subset s hmem))]

end Parse

end Gnss
end SensorSupport
