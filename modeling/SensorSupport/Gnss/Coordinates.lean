/-
# The coordinates of an accepted sentence (`wtrtk_982dt_driver/gps_ntrip_py/nmea.py`)

A coordinate that `parse_gga` accepts should be absent, or degrees within the range of its
axis, written as digits of degrees and minutes, with the sign of one of the two directions
of the axis. `_coordinate` leaves the digits to `float`, which reads more than digits; it
takes any of the four directions for either axis; and it compares the minutes with 60, but
the degrees with nothing.

A coordinate of an accepted sentence is physical exactly when its fields are of the layout,
of a direction of the axis, and within its range (`coordinates_iff`).

Key definitions: `IsLayout`, `angleOf`, `Axis`, `Axis.Physical`, `Axis.Suits`.
Key theorems: `coordinate_layout`, `physical_iff`, `coordinates_iff`.
-/
import SensorSupport.Gnss.Parsers

namespace SensorSupport
namespace Gnss

/-! ### The text of a coordinate -/

/-- A coordinate is digits of degrees, two of minutes, a point, and digits of a fraction. -/
structure IsLayout (degreeDigits : ℕ) (value degrees minutes fraction : Text) : Prop where
  text : value = degrees ++ (minutes ++ '.' :: fraction)
  degreesLength : degrees.length = degreeDigits
  minutesLength : minutes.length = 2
  degreesDigits : AllDigits degrees
  minutesDigits : AllDigits minutes
  fractionDigits : AllDigits fraction

/-- The minutes that a coordinate writes. -/
def minutesOf (minutes fraction : Text) : ℚ := numberOf (minutes ++ fraction) / 10 ^ fraction.length

/-- The angle that a coordinate writes, in degrees. -/
def angleOf (degrees minutes fraction : Text) : ℚ :=
  numberOf degrees + minutesOf minutes fraction / 60

/-- An axis: how many digits of degrees there are, its directions, and its range in
degrees. -/
structure Axis where
  degreeDigits : ℕ
  positive : Char
  negative : Char
  range : ℚ
  degreeDigits_pos : 0 < degreeDigits
  positive_name : positive = 'N' ∨ positive = 'E'
  negative_name : negative = 'S' ∨ negative = 'W'

/-- North and south. -/
def latitudeAxis : Axis := ⟨2, 'N', 'S', 90, by decide, by decide, by decide⟩

/-- East and west. -/
def longitudeAxis : Axis := ⟨3, 'E', 'W', 180, by decide, by decide, by decide⟩

namespace Axis

variable (axis : Axis) (py : Python) (value hemisphere : Text)

/-- What is read of a coordinate is physical: nothing of an absent one, else the angle of a
layout, with the sign of its direction, within the range of the axis. -/
def Physical (result : PyFloat) : Prop :=
  value = [] ∧ result = .nan ∨
  ∃ degrees minutes fraction angle, IsLayout axis.degreeDigits value degrees minutes fraction ∧
    result = .fin angle ∧ -axis.range ≤ angle ∧ angle ≤ axis.range ∧
    (py.upper hemisphere = [axis.positive] ∧ angle = angleOf degrees minutes fraction ∨
      py.upper hemisphere = [axis.negative] ∧ angle = -angleOf degrees minutes fraction)

/-- A coordinate suits an axis: it is absent, or a layout within the range, of one of the
directions. -/
def Suits : Prop :=
  value = [] ∨
  (py.upper hemisphere = [axis.positive] ∨ py.upper hemisphere = [axis.negative]) ∧
    ∃ degrees minutes fraction, IsLayout axis.degreeDigits value degrees minutes fraction ∧
      angleOf degrees minutes fraction ≤ axis.range

end Axis

/-! ### What is read of it -/

section Coordinate

variable {py : Python} {value hemisphere degrees minutes fraction : Text} {degreeDigits : ℕ}
  {result : PyFloat} {axis : Axis}

theorem angleOf_nonneg (degrees minutes fraction : Text) : 0 ≤ angleOf degrees minutes fraction := by
  unfold angleOf minutesOf
  positivity

theorem coordinate_nil (h : coordinate py [] hemisphere degreeDigits = .ok result) :
    result = .nan := (Except.ok.inj h).symm

/-- **What `_coordinate` reads of a layout** is its angle, with the sign of the direction. -/
theorem coordinate_layout (hlayout : IsLayout degreeDigits value degrees minutes fraction)
    (hpos : 0 < degreeDigits) (h : coordinate py value hemisphere degreeDigits = .ok result) :
    result = if py.upper hemisphere = ['S'] ∨ py.upper hemisphere = ['W']
      then .fin (-angleOf degrees minutes fraction) else .fin (angleOf degrees minutes fraction) := by
  obtain ⟨rfl, rfl, hminutes, hdegreesDigits, hminutesDigits, hfraction⟩ := hlayout
  have hdegrees : degrees ≠ [] := List.ne_nil_of_length_pos hpos
  have hminutes' : minutes ≠ [] := List.ne_nil_of_length_pos (by omega)
  have hne : degrees ++ (minutes ++ '.' :: fraction) ≠ [] := by simp
  have hlength : ¬ (degrees ++ (minutes ++ '.' :: fraction)).length < degrees.length + 3 := by
    simp only [List.length_append, List.length_cons]
    omega
  unfold coordinate floatField at h
  rw [if_neg hne, if_neg hlength, List.take_left, List.drop_left,
    float_digits py hdegrees hdegreesDigits,
    float_decimal py hminutes' hminutesDigits hfraction] at h
  dsimp only [bind, Except.bind] at h
  split_ifs at h with hrange hname hsign
  · rw [if_pos hsign]
    exact (Except.ok.inj h).symm
  · rw [if_neg hsign]
    exact (Except.ok.inj h).symm

/-- The directions of an axis are told apart by what the sign is read of. -/
theorem Axis.sign_positive (axis : Axis) (h : py.upper hemisphere = [axis.positive]) :
    ¬ (py.upper hemisphere = ['S'] ∨ py.upper hemisphere = ['W']) := by
  rw [h]
  rcases axis.positive_name with hname | hname <;> simp [hname]

theorem Axis.sign_negative (axis : Axis) (h : py.upper hemisphere = [axis.negative]) :
    py.upper hemisphere = ['S'] ∨ py.upper hemisphere = ['W'] := by
  rw [h]
  rcases axis.negative_name with hname | hname <;> simp [hname]

/-- **One coordinate** that is accepted is physical when it suits its axis. -/
theorem physical_iff (h : coordinate py value hemisphere axis.degreeDigits = .ok result) :
    axis.Physical py value hemisphere result ↔ axis.Suits py value hemisphere := by
  constructor
  · rintro (⟨habsent, -⟩ | ⟨degrees, minutes, fraction, angle, hlayout, -, hlow, hhigh, hsign⟩)
    · exact .inl habsent
    · rcases hsign with ⟨hname, rfl⟩ | ⟨hname, rfl⟩
      · exact .inr ⟨.inl hname, degrees, minutes, fraction, hlayout, hhigh⟩
      · exact .inr ⟨.inr hname, degrees, minutes, fraction, hlayout, neg_le_neg_iff.mp hlow⟩
  · rintro (rfl | ⟨hname, degrees, minutes, fraction, hlayout, hrange⟩)
    · exact .inl ⟨rfl, coordinate_nil h⟩
    · have hread := coordinate_layout hlayout axis.degreeDigits_pos h
      have hangle := angleOf_nonneg degrees minutes fraction
      refine .inr ⟨degrees, minutes, fraction, ?_⟩
      rcases hname with hname | hname
      · rw [if_neg (axis.sign_positive hname)] at hread
        exact ⟨_, hlayout, hread, by linarith, hrange, .inl ⟨hname, rfl⟩⟩
      · rw [if_pos (axis.sign_negative hname)] at hread
        exact ⟨_, hlayout, hread, by linarith, by linarith, .inr ⟨hname, rfl⟩⟩

end Coordinate

/-! ### The sentence -/

variable {py : Python} {s : Text} {validateChecksum : Bool} {d : GgaData}

/-- The fields that a sentence is cut into. -/
def fieldsOf (py : Python) (s : Text) : List Text := (bodyOf (py.strip s)).splitOn ','

/-- What an accepted sentence holds is what is read of its coordinates. -/
theorem coordinates_read (h : parseGga py s validateChecksum = .ok d) :
    coordinate py (fieldAt (fieldsOf py s) 2) (fieldAt (fieldsOf py s) 3) 2 = .ok d.latitude ∧
      coordinate py (fieldAt (fieldsOf py s) 4) (fieldAt (fieldsOf py s) 5) 3 =
        .ok d.longitude := by
  have hfields : ggaOfFields py (py.strip s) (fieldsOf py s) = .ok d := by
    unfold parseGga parseSentence at h
    dsimp only at h
    split_ifs at h
    exact h
  unfold ggaOfFields at hfields
  split_ifs at hfields
  simp only [tryFields_eq_ok, bind_eq_ok] at hfields
  obtain ⟨_, _, _, _, latitude, hlatitude, longitude, hlongitude, _, _, _, _, hd⟩ := hfields
  obtain rfl := Except.ok.inj hd
  exact ⟨hlatitude, hlongitude⟩

/-- **Accepted positions.** The coordinates of an accepted sentence are physical exactly when
they suit their axes. -/
theorem coordinates_iff (py : Python) (s : Text) (validateChecksum : Bool) :
    ∀ d, parseGga py s validateChecksum = .ok d →
      (latitudeAxis.Physical py (fieldAt (fieldsOf py s) 2) (fieldAt (fieldsOf py s) 3)
            d.latitude ∧
          longitudeAxis.Physical py (fieldAt (fieldsOf py s) 4) (fieldAt (fieldsOf py s) 5)
            d.longitude ↔
        latitudeAxis.Suits py (fieldAt (fieldsOf py s) 2) (fieldAt (fieldsOf py s) 3) ∧
          longitudeAxis.Suits py (fieldAt (fieldsOf py s) 4) (fieldAt (fieldsOf py s) 5)) := by
  intro d h
  obtain ⟨hlatitude, hlongitude⟩ := coordinates_read h
  exact and_congr (physical_iff hlatitude) (physical_iff hlongitude)

/-- A sentence with both coordinates. -/
def positioned : Text := "$GNGGA,092725.00,4717.11399,N,00833.91590,E,1,08,1.01,499.6*7B".toList

/-- What is parsed of it. -/
def positionedData : GgaData :=
  ⟨positioned, "092725.00".toList, .fin (283711399 / 6000000), .fin (1713053 / 200000), 1, 8,
    .fin (101 / 100), .fin (2498 / 5)⟩

/-- Its coordinates are read, and suit their axes. -/
theorem coordinates_positioned : parseGga .ascii positioned true = .ok positionedData ∧
    (latitudeAxis.Physical .ascii (fieldAt (fieldsOf .ascii positioned) 2)
          (fieldAt (fieldsOf .ascii positioned) 3) positionedData.latitude ∧
        longitudeAxis.Physical .ascii (fieldAt (fieldsOf .ascii positioned) 4)
          (fieldAt (fieldsOf .ascii positioned) 5) positionedData.longitude ↔
      latitudeAxis.Suits .ascii (fieldAt (fieldsOf .ascii positioned) 2)
          (fieldAt (fieldsOf .ascii positioned) 3) ∧
        longitudeAxis.Suits .ascii (fieldAt (fieldsOf .ascii positioned) 4)
          (fieldAt (fieldsOf .ascii positioned) 5)) := by
  have haccepted : parseGga .ascii positioned true = .ok positionedData := by decide +kernel
  exact ⟨haccepted, coordinates_iff .ascii positioned true _ haccepted⟩

/-- A latitude of 99 degrees. -/
def beyondPole : Text := "$GNGGA,,9900.0,N,,,1,08,1.0,2.0*0E".toList

/-- What is parsed of it. -/
def beyondPoleData : GgaData := ⟨beyondPole, [], .fin 99, .nan, 1, 8, .fin 1, .fin 2⟩

/-- It is accepted. -/
theorem coordinates_beyondPole : ¬ ∀ (py : Python) (s : Text) (d : GgaData),
    parseGga py s true = .ok d →
      latitudeAxis.Physical py (fieldAt (fieldsOf py s) 2) (fieldAt (fieldsOf py s) 3)
          d.latitude ∧
        longitudeAxis.Physical py (fieldAt (fieldsOf py s) 4) (fieldAt (fieldsOf py s) 5)
          d.longitude := by
  intro hall
  have haccepted : parseGga .ascii beyondPole true = .ok beyondPoleData := by decide +kernel
  rcases (hall .ascii beyondPole beyondPoleData haccepted).1 with
    ⟨-, habsent⟩ | ⟨degrees, minutes, fraction, angle, -, hread, -, hhigh, -⟩
  · cases habsent
  · obtain rfl := PyFloat.fin.inj hread
    exact absurd hhigh (by decide)

end Gnss
end SensorSupport
