/-
# Time from an RMC sentence (`command_handler/command_impl.cpp`)

`SetLivoxLidarRmcSyncTime` sends a lidar the time that `ParseGPRMC` makes of a sentence: `Split`
cuts it at its commas, field 1 is the time and field 9 the date, and digits of both are put into a
text for `StringToTimestamp`. The check for nine fields lets field 9 be looked at where there are
only fields 0 to 8, and the year is all that stands behind the month.

`StringToTimestamp` is a parameter. What is read beyond the fields is `none`.

Key definitions: `split`, `readGPRMC`, `parseGPRMC`, `gprmcTime`, `GprmcExact`, `GprmcOk`.
Key theorems: `split_field`, `gprmcTime_eq_some`, `readGPRMC_iff`, `gprmcExact_iff`.
-/
import SensorSupport.Livox.BuildRequest

namespace SensorSupport
namespace Livox

/-- `Split`: `std::getline` gives no empty part behind the last pattern. -/
def split (str : List UInt8) (pattern : UInt8) : List (List UInt8) :=
  BuildRequest.pieces pattern str

/-- `std::string::substr` -/
def substr (s : List UInt8) (pos n : ℕ) : List UInt8 := (s.drop pos).take n

/-- The local variables of `ParseGPRMC`. -/
structure GprmcTime where
  year : List UInt8
  month : List UInt8
  day : List UInt8
  hour : List UInt8
  minute : List UInt8
  second : List UInt8
deriving DecidableEq

/-- What `ParseGPRMC` takes from a sentence, if it does not return 0. -/
def readGPRMC (gprmc : List UInt8) : Option (Option GprmcTime) :=
  let gprmcVec := split gprmc 0x2C
  if gprmcVec.length < 9 then some none
  else
    match gprmcVec[1]? with
    | none => none
    | some time =>
      if time.length < 6 then some none
      else
        match gprmcVec[9]? with
        | none => none
        | some date =>
          if date.length < 6 then some none
          else
            some (some {
              year := date.drop 4
              month := substr date 2 2
              day := substr date 0 2
              hour := substr time 0 2
              minute := substr time 2 2
              second := substr time 4 2 })

/-- `%Y-%m-%d %H:%M:%S` -/
def timeFormat : List UInt8 := "%Y-%m-%d %H:%M:%S".toUTF8.toList

/-- The text that is formatted. -/
def GprmcTime.text (t : GprmcTime) : List UInt8 :=
  [0x32, 0x30] ++ t.year ++ [0x2D] ++ t.month ++ [0x2D] ++ t.day ++ [0x20] ++ t.hour ++ [0x3A] ++
    t.minute ++ [0x3A] ++ t.second

/-- Nanoseconds from the seconds of a time stamp. -/
def nanoseconds (seconds : ℤ) : UInt64 := UInt64.ofInt (seconds * 1000) * 1000 * 1000

/-- `ParseGPRMC` -/
def parseGPRMC (stringToTimestamp : List UInt8 → List UInt8 → ℤ) (gprmc : List UInt8) :
    Option UInt64 :=
  (readGPRMC gprmc).map fun t =>
    match t with
    | none => 0
    | some t => nanoseconds (stringToTimestamp timeFormat t.text)

/-! ### What is asked of it -/

/-- The pairs of digits of two fields of at least six characters. -/
def digitPairs (time date : List UInt8) : Option GprmcTime :=
  if 6 ≤ time.length ∧ 6 ≤ date.length then
    some {
      year := substr date 4 2
      month := substr date 2 2
      day := substr date 0 2
      hour := substr time 0 2
      minute := substr time 2 2
      second := substr time 4 2 }
  else none

/-- The time that a sentence has in its fields 1 and 9. -/
def gprmcTime (gprmc : List UInt8) : Option GprmcTime :=
  match (gprmc.splitOn 0x2C)[1]?, (gprmc.splitOn 0x2C)[9]? with
  | some time, some date => digitPairs time date
  | _, _ => none

/-- Only fields that exist are looked at, and the sentence is converted when it has a time, to
that time. -/
structure GprmcExact (stringToTimestamp : List UInt8 → List UInt8 → ℤ) (gprmc : List UInt8) :
    Prop where
  time : readGPRMC gprmc = some (gprmcTime gprmc)
  converted : parseGPRMC stringToTimestamp gprmc =
    some ((gprmcTime gprmc).elim 0 fun t => nanoseconds (stringToTimestamp timeFormat t.text))

/-- There are not just nine fields of which field 1 is long enough, and a field 9 has six
characters if it is long enough itself. -/
def GprmcOk (gprmc : List UInt8) : Prop :=
  ∀ time, (split gprmc 0x2C)[1]? = some time → 6 ≤ time.length →
    (split gprmc 0x2C).length ≠ 9 ∧
      ∀ date, (split gprmc 0x2C)[9]? = some date → 6 ≤ date.length → date.length = 6

section Fields

variable {gprmc : List UInt8}

/-- A field that is not empty is a part. -/
theorem split_field {str field : List UInt8} {pattern : UInt8} {i : ℕ} (hne : field ≠ []) :
    (split str pattern)[i]? = some field ↔ (str.splitOn pattern)[i]? = some field := by
  unfold split BuildRequest.pieces
  dsimp only
  split
  · rename_i hlast
    obtain ⟨parts, hparts⟩ : ∃ parts, str.splitOn pattern = parts ++ [[]] :=
      List.getLast?_eq_some_iff.mp hlast
    rw [hparts, List.dropLast_concat]
    rcases Nat.lt_or_ge i parts.length with hlt | hge
    · rw [List.getElem?_append_left hlt]
    · rw [List.getElem?_append_right hge, List.getElem?_eq_none hge]
      constructor
      · exact nofun
      · intro h
        have hmem := List.mem_of_getElem? h
        exact absurd (List.mem_singleton.mp hmem) hne
  · exact Iff.rfl

theorem digitPairs_long {time date : List UInt8} {t : GprmcTime} (h : digitPairs time date = some t) :
    6 ≤ time.length ∧ 6 ≤ date.length := by
  by_contra hshort
  rw [digitPairs, if_neg hshort] at h
  exact nomatch h

/-- The time of a sentence comes from two parts that are long enough. -/
theorem gprmcTime_eq_some {t : GprmcTime} :
    gprmcTime gprmc = some t ↔ ∃ time date, (split gprmc 0x2C)[1]? = some time ∧
      (split gprmc 0x2C)[9]? = some date ∧ digitPairs time date = some t := by
  have hne : ∀ {field : List UInt8}, 6 ≤ field.length → field ≠ [] := by
    rintro _ h rfl
    exact absurd h (by decide)
  unfold gprmcTime
  constructor
  · intro h
    split at h
    · rename_i time date htime hdate
      obtain ⟨hlong, hlong'⟩ := digitPairs_long h
      exact ⟨time, date, (split_field (hne hlong)).mpr htime, (split_field (hne hlong')).mpr hdate,
        h⟩
    · exact nomatch h
  · rintro ⟨time, date, htime, hdate, h⟩
    obtain ⟨hlong, hlong'⟩ := digitPairs_long h
    rw [(split_field (hne hlong)).mp htime, (split_field (hne hlong')).mp hdate]
    exact h

/-- Without two parts that are long enough there is no time. -/
theorem gprmcTime_eq_none (h : ∀ time date, (split gprmc 0x2C)[1]? = some time →
    (split gprmc 0x2C)[9]? = some date → 6 ≤ time.length → ¬ 6 ≤ date.length) :
    gprmcTime gprmc = none := by
  apply Option.eq_none_iff_forall_not_mem.mpr
  intro t ht
  obtain ⟨time, date, htime, hdate, hpairs⟩ := gprmcTime_eq_some.mp ht
  obtain ⟨hlong, hlong'⟩ := digitPairs_long hpairs
  exact h time date htime hdate hlong hlong'

end Fields

section Sentences

variable {gprmc time date : List UInt8}

/-- A sentence with too few parts is refused. -/
theorem readGPRMC_few (h : (split gprmc 0x2C).length < 9) : readGPRMC gprmc = some none :=
  if_pos h

/-- A sentence with a short field 1 is refused. -/
theorem readGPRMC_short (h : ¬ (split gprmc 0x2C).length < 9)
    (htime : (split gprmc 0x2C)[1]? = some time) (hshort : time.length < 6) :
    readGPRMC gprmc = some none := by
  unfold readGPRMC
  dsimp only
  rw [if_neg h, htime]
  exact if_pos hshort

/-- With nine parts, field 9 is looked at all the same. -/
theorem readGPRMC_nine (hlen : (split gprmc 0x2C).length = 9)
    (htime : (split gprmc 0x2C)[1]? = some time) (hlong : 6 ≤ time.length) :
    readGPRMC gprmc = none := by
  have hdate : (split gprmc 0x2C)[9]? = none := List.getElem?_eq_none (by omega)
  unfold readGPRMC
  dsimp only
  rw [if_neg (by omega), htime]
  dsimp only
  rw [if_neg (by omega), hdate]

/-- With a field 9, its length decides. -/
theorem readGPRMC_date (htime : (split gprmc 0x2C)[1]? = some time) (hlong : 6 ≤ time.length)
    (hdate : (split gprmc 0x2C)[9]? = some date) :
    readGPRMC gprmc = some (if date.length < 6 then none else
      (digitPairs time date).map fun t => { t with year := date.drop 4 }) := by
  have hlen := (List.getElem?_eq_some_iff.mp hdate).1
  unfold readGPRMC
  dsimp only
  rw [if_neg (by omega), htime]
  dsimp only
  rw [if_neg (by omega), hdate]
  dsimp only
  by_cases hshort : date.length < 6
  · rw [if_pos hshort, if_pos hshort]
  · rw [if_neg hshort, if_neg hshort, digitPairs, if_pos ⟨hlong, by omega⟩]
    rfl

/-- **What a sentence is converted to is its time exactly when there are not just nine fields of
which field 1 is long enough, and a field 9 that is long enough has six characters.** -/
theorem readGPRMC_iff (gprmc : List UInt8) :
    readGPRMC gprmc = some (gprmcTime gprmc) ↔ GprmcOk gprmc := by
  by_cases hfew : (split gprmc 0x2C).length < 9
  · have hnone : gprmcTime gprmc = none := by
      apply gprmcTime_eq_none
      intro time date _ hdate
      rw [List.getElem?_eq_none (by omega)] at hdate
      exact nomatch hdate
    rw [readGPRMC_few hfew, hnone]
    refine iff_of_true rfl fun time _ _ => ⟨by omega, fun date hdate => ?_⟩
    rw [List.getElem?_eq_none (by omega)] at hdate
    exact nomatch hdate
  · obtain ⟨time, htime⟩ : ∃ time, (split gprmc 0x2C)[1]? = some time :=
      ⟨_, List.getElem?_eq_getElem (by omega)⟩
    by_cases hlong : 6 ≤ time.length
    · by_cases hnine : (split gprmc 0x2C).length = 9
      · rw [readGPRMC_nine hnine htime hlong]
        exact iff_of_false nofun fun hok => (hok time htime hlong).1 hnine
      · obtain ⟨date, hdate⟩ : ∃ date, (split gprmc 0x2C)[9]? = some date :=
          ⟨_, List.getElem?_eq_getElem (by omega)⟩
        have hok : GprmcOk gprmc ↔ (6 ≤ date.length → date.length = 6) := by
          unfold GprmcOk
          rw [htime, hdate]
          constructor
          · exact fun hok => (hok time rfl hlong).2 date rfl
          · rintro h _ ⟨⟩ -
            exact ⟨hnine, by rintro _ ⟨⟩; exact h⟩
        rw [readGPRMC_date htime hlong hdate, hok]
        by_cases hshort : date.length < 6
        · have hnone : gprmcTime gprmc = none := by
            apply gprmcTime_eq_none
            rintro _ _ - h - hlong'
            obtain rfl := Option.some.inj (hdate.symm.trans h)
            omega
          rw [if_pos hshort, hnone]
          exact iff_of_true rfl fun h => by omega
        · have hpairs : digitPairs time date = some _ := if_pos ⟨hlong, by omega⟩
          rw [if_neg hshort, gprmcTime_eq_some.mpr ⟨time, date, htime, hdate, hpairs⟩, hpairs]
          constructor
          · intro h _
            have hyear := congrArg GprmcTime.year (Option.some.inj (Option.some.inj h))
            have hlen := congrArg List.length hyear
            dsimp only [substr] at hlen
            rw [List.length_take, List.length_drop] at hlen
            omega
          · intro h
            have hyear : date.drop 4 = substr date 4 2 := by
              symm
              apply List.take_of_length_le
              rw [List.length_drop]
              omega
            rw [hyear]
            rfl
    · have hnone : gprmcTime gprmc = none := by
        apply gprmcTime_eq_none
        rintro _ _ h - hlong' -
        obtain rfl := Option.some.inj (htime.symm.trans h)
        exact hlong hlong'
      rw [readGPRMC_short hfew htime (by omega), hnone]
      refine iff_of_true rfl ?_
      rintro _ h hlong'
      obtain rfl := Option.some.inj (htime.symm.trans h)
      exact absurd hlong' hlong

/-- **A sentence is converted exactly, with any `StringToTimestamp`.** -/
theorem gprmcExact_iff (stringToTimestamp : List UInt8 → List UInt8 → ℤ) (gprmc : List UInt8) :
    GprmcExact stringToTimestamp gprmc ↔ GprmcOk gprmc := by
  rw [← readGPRMC_iff]
  constructor
  · exact GprmcExact.time
  · intro h
    refine ⟨h, ?_⟩
    unfold parseGPRMC
    rw [h]
    cases gprmcTime gprmc <;> rfl

end Sentences

/-- `$GPRMC,123519,,,,,,,,`: field 9 is looked at, and there is none. -/
theorem readGPRMC_nineFields : ¬ ∀ (stringToTimestamp : List UInt8 → List UInt8 → ℤ)
    (gprmc : List UInt8), GprmcExact stringToTimestamp gprmc := by
  intro hall
  have htime := (hall (fun _ _ => 0) ([0x24, 0x47, 0x50, 0x52, 0x4D, 0x43, 0x2C, 0x31, 0x32, 0x33,
    0x35, 0x31, 0x39] ++ List.replicate 8 0x2C)).time
  revert htime
  decide +kernel

end Livox
end SensorSupport
