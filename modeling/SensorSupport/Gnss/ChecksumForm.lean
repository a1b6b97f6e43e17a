/-
# What a valid checksum says of a sentence (`wtrtk_982dt_driver/gps_ntrip_py/nmea.py`)

A sentence that a parser accepts should be `$`, a body without `*`, `*` and two
hexadecimal digits with the XOR of the body, and its fields should be those of that body.
`checksum_is_valid` looks at the two characters behind the last `*` only, and lets `int`
read them; what follows them is ignored, and the parsers cut at the first `*`.

An accepted sentence has the form exactly when it has one `*` and two hexadecimal digits
end it (`checksumForm_iff`).

Key definitions: `HasForm`, `EndsInDigits`.
Key theorems: `hasForm_iff`, `checksumForm_iff`, `checksumForm_twoStars`.
-/
import SensorSupport.Gnss.Parsers

namespace SensorSupport
namespace Gnss

variable {py : Python} {D : Type} {ofFields : Text → List Text → Except ValueError D}
  {s : Text} {d : D}

/-- A sentence is `$`, a body without stars, a star and the XOR of the body in two digits,
and the fields of the body are those that were converted. -/
def HasForm (py : Python) (ofFields : Text → List Text → Except ValueError D) (s : Text) (d : D) :
    Prop :=
  ∃ body high low a b, py.strip s = '$' :: (body ++ ['*', high, low]) ∧ '*' ∉ body ∧
    hexDigitValue high = some a ∧ hexDigitValue low = some b ∧ xorOf body = 16 * a + b ∧
    ofFields (py.strip s) (body.splitOn ',') = .ok d

/-- A sentence has one star, with two hexadecimal digits behind it, and no more. -/
def EndsInDigits (py : Python) (s : Text) : Prop :=
  ∃ body high low, py.strip s = '$' :: (body ++ ['*', high, low]) ∧ '*' ∉ body ∧
    (hexDigitValue high).isSome ∧ (hexDigitValue low).isSome

/-- **An accepted sentence** has the form when one star and two digits end it. -/
theorem hasForm_iff (h : parseSentence py ofFields s true = .ok d) :
    HasForm py ofFields s d ↔ EndsInDigits py s := by
  constructor
  · rintro ⟨body, high, low, a, b, hs, hbody, hhigh, hlow, -, -⟩
    exact ⟨body, high, low, hs, hbody, by simp [hhigh], by simp [hlow]⟩
  · rintro ⟨body, high, low, hs, hbody, hhigh, hlow⟩
    obtain ⟨a, ha⟩ := Option.isSome_iff_exists.mp hhigh
    obtain ⟨b, hb⟩ := Option.isSome_iff_exists.mp hlow
    obtain ⟨hvalid, hfields⟩ := parseSentence_eq_ok.mp h
    refine ⟨body, high, low, a, b, hs, hbody, ha, hb, ?_, ?_⟩
    · rw [hs] at hvalid
      exact (checksumIsValid_eq body ha hb).mp hvalid
    · rw [hs, bodyOf_eq hbody] at hfields
      rwa [hs]

/-- **Checksum acceptance.** What `parse_gga` or `parse_hpr` accepts has the form of a
sentence, with the fields of its body, exactly when it has one star and two hexadecimal
digits end it. -/
theorem checksumForm_iff (py : Python) (s : Text) :
    (∀ d, parseGga py s true = .ok d → (HasForm py (ggaOfFields py) s d ↔ EndsInDigits py s)) ∧
    (∀ d, parseHpr py s true = .ok d → (HasForm py (hprOfFields py) s d ↔ EndsInDigits py s)) :=
  ⟨fun _ h => hasForm_iff h, fun _ h => hasForm_iff h⟩

/-- A GGA without a position, in its form. -/
def bareGga : Text := "$GPGGA,,,,,,,,,*7A".toList

/-- What is parsed of it. -/
def bareGgaData (sentence : Text) : GgaData := ⟨sentence, [], .nan, .nan, 0, 0, .nan, .nan⟩

theorem parseGga_bareGga : parseGga .ascii bareGga true = .ok (bareGgaData bareGga) := by
  decide +kernel

/-- It is accepted, and has the form. -/
theorem checksumForm_bareGga : parseGga .ascii bareGga true = .ok (bareGgaData bareGga) ∧
    (HasForm .ascii (ggaOfFields .ascii) bareGga (bareGgaData bareGga) ↔
      EndsInDigits .ascii bareGga) :=
  ⟨parseGga_bareGga, (checksumForm_iff .ascii bareGga).1 _ parseGga_bareGga⟩

/-- A GGA whose checksum is that of a longer text, up to its second star. -/
def twoStars : Text := "$GPGGA,,,,,,,,,*,1*4D".toList

/-- It is accepted, and the fields are those up to the first star. -/
theorem checksumForm_twoStars : ¬ ∀ (py : Python) (s : Text) (d : GgaData),
    parseGga py s true = .ok d → HasForm py (ggaOfFields py) s d := by
  intro hall
  have haccepted : parseGga .ascii twoStars true = .ok (bareGgaData twoStars) := by
    decide +kernel
  obtain ⟨body, high, low, a, b, hs, hbody, hhigh, hlow, -, -⟩ := hall _ _ _ haccepted
  have hcount := congrArg (List.count '*') hs
  have htwo : (Python.ascii.strip twoStars).count '*' = 2 := by decide +kernel
  rw [htwo] at hcount
  simp [List.count_eq_zero_of_not_mem hbody, hexDigit_ne_star hhigh,
    hexDigit_ne_star hlow] at hcount

end Gnss
end SensorSupport
