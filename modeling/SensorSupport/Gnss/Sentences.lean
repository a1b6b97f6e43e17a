/-
# Parsed sentences (`wtrtk_982dt_driver/gps_ntrip_py/nmea.py`, `hpr.py`)

The records that the GGA and HPR parsers return, and what the node asks of
them: whether a GGA has a fix, whether an HPR is a usable attitude, and the
heading with the mounting offset applied.

Key definitions: `GgaData`, `HprData`, `hasFix`, `dataIsValid`, `correctedHeading`,
`isGgaSentence`, `isHprSentence`.
-/
import SensorSupport.Gnss.Number
import Mathlib.Data.Rat.Floor

namespace SensorSupport
namespace Gnss

/-- `GgaData`. -/
structure GgaData where
  sentence : Text
  utcTime : Text
  latitude : PyFloat
  longitude : PyFloat
  fixQuality : ℤ
  satellites : ℤ
  hdop : PyFloat
  altitude : PyFloat
deriving DecidableEq, Repr

/-- `HprData`. -/
structure HprData where
  sentence : Text
  sourceSentence : Text
  utcTime : Text
  headingDeg : PyFloat
  pitchDeg : PyFloat
  rollDeg : PyFloat
  solutionQuality : ℤ
  satellites : ℤ
  correctionAgeSec : PyFloat
  stationId : Text
deriving DecidableEq, Repr

/-- `has_fix` in `_publish_gga`. -/
def hasFix (gga : GgaData) : Bool :=
  0 < gga.fixQuality && gga.latitude.isFinite && gga.longitude.isFinite

/-- `VALID_SOLUTION_QUALITIES`. -/
def validSolutionQualities : List ℤ := [1, 2, 4, 5, 6, 7, 8, 9]

/-- `data_is_valid`. -/
def dataIsValid (data : HprData) : Bool :=
  validSolutionQualities.contains data.solutionQuality && data.headingDeg.isFinite &&
    data.pitchDeg.isFinite && data.rollDeg.isFinite

/-- `corrected_heading`, with Python's `%`. -/
def correctedHeading (rawHeadingDeg offsetDeg : PyFloat) : PyFloat :=
  match rawHeadingDeg, offsetDeg with
  | .fin raw, .fin offset => .fin (raw + offset - 360 * ⌊(raw + offset) / 360⌋)
  | _, _ => .nan

/-- `sentence.split(',', 1)[0].lstrip('$').upper()`. -/
def identifier (sentence : Text) : Text :=
  ((sentence.takeWhile (· ≠ ',')).dropWhile (· = '$')).map Char.toUpper

/-- `_is_gga_sentence`. -/
def isGgaSentence (sentence : Text) : Bool := "GGA".toList.isSuffixOf (identifier sentence)

/-- `_is_hpr_sentence`. -/
def isHprSentence (sentence : Text) : Bool := "HPR".toList.isSuffixOf (identifier sentence)

end Gnss
end SensorSupport
