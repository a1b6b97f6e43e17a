/-
# Channel angles (`rs_driver/driver/decoder/chan_angles.hpp`)

Every channel of a mechanical lidar has a vertical and a horizontal calibration angle, in
hundredths of a degree, and a place among the channels from the lowest one up. They are loaded
from a file with a line for each channel, or from a DIFOP packet. A load builds vectors of its
own and puts them in place when nothing was wrong with them.

`std::stof`, with the product by 100 and the cast that follow it, is a parameter; it gives
`none` where it throws.

Key definitions: `ChanAngles`, `ChanAngles.load`, `genUserChan`, `Calibrated`.
Key theorems: `load_cases`, `loadFromDifop_checked`, `load_calibrated`, `userChans_perm`,
`chanAngles_run`.
-/
import Mathlib.Data.Int.Order.Basic
import Mathlib.Data.List.GetD
import Mathlib.Data.Nat.Basic
import SensorSupport.Lib.Ranking

namespace SensorSupport
namespace Rs

/-- The text of a file. -/
abbrev FileText := List Char

/-- `RSCalibrationAngle`; `value` is in host byte order. -/
structure RSCalibrationAngle where
  sign : UInt8
  value : UInt16

structure ChanAngles where
  chanNum : UInt16
  vertAngles : List ℤ
  horizAngles : List ℤ
  userChans : List UInt16

/-- `angleCheck` -/
def angleCheck (v : ℤ) : Bool := -9000 ≤ v ∧ v < 18000

/-- `genUserChan`: how many channels look further down. -/
def genUserChan (vertAngles : List ℤ) : List UInt16 :=
  vertAngles.map fun angle =>
    vertAngles.foldl (fun chan v => if v < angle then chan + 1 else chan) 0

/-- The lines that `std::getline` reads from a file. -/
def fileLines (text : FileText) : List FileText :=
  let lines := text.splitOn '\n'
  if lines.getLast? = some [] then lines.dropLast else lines

namespace ChanAngles

/-- The constructor. -/
def init (chanNum : UInt16) : ChanAngles :=
  ⟨chanNum, List.replicate chanNum.toNat 0, List.replicate chanNum.toNat 0,
    List.replicate chanNum.toNat 0⟩

/-- The new vectors are put in place. -/
def swap (s : ChanAngles) (vertAngles horizAngles : List ℤ) : ChanAngles :=
  { s with vertAngles, horizAngles, userChans := genUserChan vertAngles }

/-! ### From a file -/

/-- What a load returns, unless something in it throws. -/
inductive Outcome
  | ret (code : ℤ)
  | thrown
deriving DecidableEq

section File

variable (stof : FileText → Option ℤ)

/-- A line: the vertical angle, and the horizontal one behind a comma. -/
def readLine (line : FileText) : Option (ℤ × ℤ) :=
  match stof line, line.dropWhile (· ≠ ',') with
  | none, _ => none
  | some vert, [] => some (vert, 0)
  | some vert, _ :: rest => (stof rest).map (vert, ·)

/-- The loop of `loadFromFile` over `size` channels. -/
def readLines : ℕ → List FileText → List ℤ → List ℤ → Outcome × List ℤ × List ℤ
  | 0, _, vertAngles, horizAngles => (.ret 0, vertAngles, horizAngles)
  | _ + 1, [], vertAngles, horizAngles => (.ret (-1), vertAngles, horizAngles)
  | size + 1, line :: lines, vertAngles, horizAngles =>
    match readLine stof line with
    | none => (.thrown, vertAngles, horizAngles)
    | some (vert, horiz) => readLines size lines (vertAngles ++ [vert]) (horizAngles ++ [horiz])

/-- `loadFromFile`; a file that does not open has no text. -/
def loadFromFile (file : Option FileText) (s : ChanAngles) : ChanAngles × Outcome :=
  match file with
  | none => (s, .ret (-1))
  | some text =>
    match readLines stof s.chanNum.toNat (fileLines text) [] [] with
    | (.ret 0, vertAngles, horizAngles) =>
      if vertAngles.length ≠ s.chanNum.toNat then (s, .ret (-1))
      else (s.swap vertAngles horizAngles, .ret 0)
    | (outcome, _, _) => (s, outcome)

end File

/-! ### From a DIFOP packet -/

/-- The angle that sign and value make. -/
def signedAngle (negative : Bool) (value : ℕ) : ℤ := if negative then -value else value

/-- The loop of `loadFromDifop` over the channels from `i` on. -/
def readDifop (vertAngleArr horizAngleArr : ℕ → RSCalibrationAngle) :
    ℕ → ℕ → List ℤ → List ℤ → Option (List ℤ × List ℤ)
  | 0, _, vertAngles, horizAngles => some (vertAngles, horizAngles)
  | size + 1, i, vertAngles, horizAngles =>
    let vert := vertAngleArr i
    let horiz := horizAngleArr i
    let v := signedAngle (vert.sign ≠ 0) vert.value.toNat
    let h := signedAngle (horiz.sign ≠ 0) horiz.value.toNat
    if vert.sign = 0xFF then none
    else if !angleCheck v then none
    else if !angleCheck h then none
    else readDifop vertAngleArr horizAngleArr size (i + 1) (vertAngles ++ [v]) (horizAngles ++ [h])

/-- `loadFromDifop` -/
def loadFromDifop (vertAngleArr horizAngleArr : ℕ → RSCalibrationAngle) (s : ChanAngles) :
    ChanAngles × Outcome :=
  match readDifop vertAngleArr horizAngleArr s.chanNum.toNat 0 [] [] with
  | none => (s, .ret (-1))
  | some (vertAngles, horizAngles) =>
    if 0 < vertAngles.length then (s.swap vertAngles horizAngles, .ret 0) else (s, .ret (-1))

/-! ### From an AIRYLITE packet -/

/-- The byte at an index below the size. -/
def byteAt (packet : List UInt8) (i : ℕ) : UInt8 := packet.getD i 0

/-- The angle of channel `i`: its value, and its bit among the signs. -/
def airyliteAngle (packet : List UInt8) (valIdx symbIdx i : ℕ) : ℤ :=
  let symbBlock := i / 8
  let symbMove := i - symbBlock * 8
  let v := (byteAt packet (valIdx + i * 2)).toNat * 256 + (byteAt packet (valIdx + i * 2 + 1)).toNat
  let sign := (byteAt packet (symbIdx + symbBlock)).toNat >>> symbMove &&& 0x01
  signedAngle (sign ≠ 0) v

/-- The check of `loadFromDifopAIRYLITE`. -/
def airyliteCheck (v : ℤ) : Bool := -9000 ≤ v ∧ v < 9000

/-- `loadFromDifopAIRYLITE`; the packet may be a null pointer. -/
def loadFromDifopAIRYLITE (packet : Option (List UInt8)) (s : ChanAngles) : ChanAngles × Outcome :=
  match packet with
  | none => (s, .ret (-1))
  | some packet =>
    if packet.length < 99 + (24 - 1) / 8 + 1 then (s, .ret (-1))
    else
      let vertAngles := (List.range 24).map (airyliteAngle packet 0 48)
      let horizAngles := (List.range 24).map (airyliteAngle packet 51 99)
      if (vertAngles ++ horizAngles).all airyliteCheck then
        (s.swap vertAngles horizAngles, .ret 0)
      else (s, .ret (-1))

/-! ### The angles of a channel -/

/-- `toUserChan` -/
def toUserChan (s : ChanAngles) (chan : ℕ) : UInt16 := s.userChans.getD chan 0

/-- `vertAdjust` -/
def vertAdjust (s : ChanAngles) (chan : ℕ) : ℤ := s.vertAngles.getD chan 0

/-- `horizAdjust` -/
def horizAdjust (s : ChanAngles) (chan : ℕ) (horiz : ℤ) : ℤ := horiz + s.horizAngles.getD chan 0

/-! ### Loads -/

/-- What angles are loaded from. -/
inductive Load
  | file (text : Option FileText)
  | difop (vertAngleArr horizAngleArr : ℕ → RSCalibrationAngle)
  | airylite (packet : Option (List UInt8))

variable (stof : FileText → Option ℤ)

def load (s : ChanAngles) : Load → ChanAngles × Outcome
  | .file text => s.loadFromFile stof text
  | .difop vertAngleArr horizAngleArr => s.loadFromDifop vertAngleArr horizAngleArr
  | .airylite packet => s.loadFromDifopAIRYLITE packet

/-- The angles behind some loads. -/
def run (chanNum : UInt16) (loads : List Load) : ChanAngles :=
  loads.foldl (fun s l => (s.load stof l).1) (init chanNum)

/-- For how many channels a load brings angles. -/
def Load.chans (chanNum : ℕ) : Load → ℕ
  | .airylite _ => 24
  | _ => chanNum

/-- The loads of AIRYLITE are for its 24 channels. -/
def LiteOnly24 (chanNum : UInt16) (loads : List Load) : Prop :=
  ∀ packet, .airylite packet ∈ loads → chanNum = 24

/-- There is an angle of each kind and a place for every channel, and the place is how many
channels look further down. -/
structure Calibrated (s : ChanAngles) : Prop where
  vert : s.vertAngles.length = s.chanNum.toNat
  horiz : s.horizAngles.length = s.chanNum.toNat
  users : s.userChans = genUserChan s.vertAngles

end ChanAngles

open ChanAngles

section Loads

variable {stof : FileText → Option ℤ} {s : ChanAngles}

theorem genUserChan_eq (vertAngles : List ℤ) :
    genUserChan vertAngles = vertAngles.map fun v => UInt16.ofNat (rank vertAngles v) := by
  have hcount : ∀ (angle : ℤ) (vs : List ℤ) (chan : UInt16),
      vs.foldl (fun chan v => if v < angle then chan + 1 else chan) chan =
        chan + UInt16.ofNat (rank vs angle) := by
    intro angle vs
    induction vs with
    | nil => exact fun chan => (UInt16.add_zero chan).symm
    | cons v vs ih =>
      intro chan
      rw [List.foldl_cons, ih]
      unfold rank
      rw [List.countP_cons]
      by_cases h : v < angle
      · simp only [h, decide_true, if_true]
        rw [UInt16.ofNat_add, UInt16.add_assoc, UInt16.add_comm 1]
        rfl
      · simp [h]
  unfold genUserChan
  apply List.map_congr_left
  intro angle _
  rw [hcount, UInt16.zero_add]

/-! ### One load -/

/-- The loop adds an angle of each kind for every line. -/
theorem readLines_length {size : ℕ} {lines : List FileText} {vs hs vs' hs' : List ℤ}
    (h : readLines stof size lines vs hs = (.ret 0, vs', hs')) :
    vs'.length = vs.length + size ∧ hs'.length = hs.length + size := by
  induction size generalizing lines vs hs with
  | zero =>
    obtain ⟨hvs, hhs⟩ : vs = vs' ∧ hs = hs' := by simpa [readLines] using h
    rw [← hvs, ← hhs]
    exact ⟨rfl, rfl⟩
  | succ size ih =>
    cases lines with
    | nil => simp [readLines] at h
    | cons line lines =>
      rw [readLines] at h
      cases hline : readLine stof line with
      | none => simp [hline] at h
      | some angles =>
        rw [hline] at h
        obtain ⟨hv, hh⟩ := ih h
        rw [hv, hh, List.length_append, List.length_append]
        constructor <;> · rw [List.length_singleton]; omega

/-- The angles that `angleCheck` lets through. -/
def Checked (vs hs : List ℤ) : Prop :=
  (∀ v ∈ vs, -9000 ≤ v ∧ v < 18000) ∧ ∀ h ∈ hs, -9000 ≤ h ∧ h < 18000

theorem checked_nil : Checked [] [] :=
  ⟨fun _ hv => absurd hv List.not_mem_nil, fun _ hh => absurd hh List.not_mem_nil⟩

theorem Checked.concat {vs hs : List ℤ} (h : Checked vs hs) {v w : ℤ} (hv : angleCheck v = true)
    (hw : angleCheck w = true) : Checked (vs ++ [v]) (hs ++ [w]) := by
  have hv' : -9000 ≤ v ∧ v < 18000 := of_decide_eq_true hv
  have hw' : -9000 ≤ w ∧ w < 18000 := of_decide_eq_true hw
  constructor
  · intro x hx
    rcases List.mem_append.mp hx with hx | hx
    · exact h.1 x hx
    · rwa [List.mem_singleton.mp hx]
  · intro x hx
    rcases List.mem_append.mp hx with hx | hx
    · exact h.2 x hx
    · rwa [List.mem_singleton.mp hx]

/-- The loop adds a checked angle of each kind for every channel. -/
theorem readDifop_spec {vertAngleArr horizAngleArr : ℕ → RSCalibrationAngle} {size i : ℕ}
    {vs hs vs' hs' : List ℤ} (hchecked : Checked vs hs)
    (h : readDifop vertAngleArr horizAngleArr size i vs hs = some (vs', hs')) :
    vs'.length = vs.length + size ∧ hs'.length = hs.length + size ∧ Checked vs' hs' := by
  induction size generalizing i vs hs with
  | zero =>
    obtain ⟨hvs, hhs⟩ : vs = vs' ∧ hs = hs' := by simpa [readDifop] using h
    rw [← hvs, ← hhs]
    exact ⟨rfl, rfl, hchecked⟩
  | succ size ih =>
    unfold readDifop at h
    dsimp only at h
    split at h
    · cases h
    · split at h
      · cases h
      · rename_i hv
        split at h
        · cases h
        · rename_i hw
          obtain ⟨hvs, hhs, hrest⟩ :=
            ih (hchecked.concat (by simpa using hv) (by simpa using hw)) h
          rw [List.length_append, List.length_singleton] at hvs hhs
          exact ⟨by omega, by omega, hrest⟩

/-- What a load gives: it fails and leaves everything alone, or puts an angle of each kind in
place for each of `n` channels. -/
def FailsOrSwaps (s : ChanAngles) (n : ℕ) (r : ChanAngles × Outcome) : Prop :=
  (r.2 ≠ .ret 0 ∧ r.1 = s) ∨
    ∃ vs hs, r = (s.swap vs hs, .ret 0) ∧ vs.length = n ∧ hs.length = n

theorem failsOrSwaps_error (s : ChanAngles) (n : ℕ) : FailsOrSwaps s n (s, .ret (-1)) :=
  .inl ⟨(show Outcome.ret (-1) ≠ .ret 0 by decide), rfl⟩

theorem loadFromFile_cases (stof : FileText → Option ℤ) (s : ChanAngles) (file : Option FileText) :
    FailsOrSwaps s s.chanNum.toNat (s.loadFromFile stof file) := by
  unfold loadFromFile
  cases file with
  | none => exact failsOrSwaps_error s _
  | some text =>
    dsimp only
    split
    · rename_i vs hs hread
      obtain ⟨hv, hh⟩ := readLines_length hread
      rw [List.length_nil, Nat.zero_add] at hv hh
      rw [if_neg (not_not_intro hv)]
      exact .inr ⟨vs, hs, rfl, hv, hh⟩
    · rename_i outcome vs hs hne hread
      refine .inl ⟨?_, rfl⟩
      rintro (rfl : outcome = .ret 0)
      exact hne rfl

theorem loadFromDifop_cases (s : ChanAngles) (vertAngleArr horizAngleArr : ℕ → RSCalibrationAngle) :
    FailsOrSwaps s s.chanNum.toNat (s.loadFromDifop vertAngleArr horizAngleArr) := by
  unfold loadFromDifop
  cases hread : readDifop vertAngleArr horizAngleArr s.chanNum.toNat 0 [] [] with
  | none => exact failsOrSwaps_error s _
  | some angles =>
    obtain ⟨vs, hs⟩ := angles
    obtain ⟨hv, hh, -⟩ := readDifop_spec checked_nil hread
    rw [List.length_nil, Nat.zero_add] at hv hh
    dsimp only
    by_cases hpos : 0 < vs.length
    · rw [if_pos hpos]
      exact .inr ⟨vs, hs, rfl, hv, hh⟩
    · rw [if_neg hpos]
      exact failsOrSwaps_error s _

theorem loadFromDifopAIRYLITE_cases (s : ChanAngles) (packet : Option (List UInt8)) :
    FailsOrSwaps s 24 (s.loadFromDifopAIRYLITE packet) := by
  unfold loadFromDifopAIRYLITE
  cases packet with
  | none => exact failsOrSwaps_error s _
  | some packet =>
    dsimp only
    split
    · exact failsOrSwaps_error s _
    · split
      · refine .inr ⟨_, _, rfl, ?_, ?_⟩ <;> exact List.length_map ..
      · exact failsOrSwaps_error s _

/-- **A load fails and leaves everything alone, or replaces all vectors.** -/
theorem load_cases (stof : FileText → Option ℤ) (s : ChanAngles) (l : Load) :
    FailsOrSwaps s (l.chans s.chanNum.toNat) (s.load stof l) := by
  cases l with
  | file text => exact loadFromFile_cases stof s text
  | difop vertAngleArr horizAngleArr => exact loadFromDifop_cases s vertAngleArr horizAngleArr
  | airylite packet => exact loadFromDifopAIRYLITE_cases s packet

/-! ### Checked angles -/

/-- **A DIFOP packet brings angles that were checked.** -/
theorem loadFromDifop_checked (h : Checked s.vertAngles s.horizAngles)
    (vertAngleArr horizAngleArr : ℕ → RSCalibrationAngle) :
    Checked (s.loadFromDifop vertAngleArr horizAngleArr).1.vertAngles
      (s.loadFromDifop vertAngleArr horizAngleArr).1.horizAngles := by
  unfold loadFromDifop
  cases hread : readDifop vertAngleArr horizAngleArr s.chanNum.toNat 0 [] [] with
  | none => exact h
  | some angles =>
    obtain ⟨-, -, hangles⟩ := readDifop_spec checked_nil hread
    dsimp only
    split
    · exact hangles
    · exact h

theorem loadFromDifopAIRYLITE_checked (h : Checked s.vertAngles s.horizAngles)
    (packet : Option (List UInt8)) :
    Checked (s.loadFromDifopAIRYLITE packet).1.vertAngles
      (s.loadFromDifopAIRYLITE packet).1.horizAngles := by
  unfold loadFromDifopAIRYLITE
  cases packet with
  | none => exact h
  | some packet =>
    dsimp only
    split
    · exact h
    · split
      · rename_i hall
        have hlite : ∀ v ∈ (List.range 24).map (airyliteAngle packet 0 48) ++
            (List.range 24).map (airyliteAngle packet 51 99), -9000 ≤ v ∧ v < 18000 := by
          intro v hv
          have hcheck : -9000 ≤ v ∧ v < 9000 := of_decide_eq_true (List.all_eq_true.mp hall v hv)
          omega
        exact ⟨fun v hv => hlite v (List.mem_append_left _ hv),
          fun v hv => hlite v (List.mem_append_right _ hv)⟩
      · exact h

theorem init_checked (chanNum : UInt16) :
    Checked (ChanAngles.init chanNum).vertAngles (ChanAngles.init chanNum).horizAngles := by
  constructor <;>
  · intro v hv
    rw [List.eq_of_mem_replicate hv]
    decide

/-- The angles of a channel are checked ones, or 0 behind the last channel. -/
theorem Checked.getD {vs hs : List ℤ} (h : Checked vs hs) (chan : ℕ) :
    (-9000 ≤ vs.getD chan 0 ∧ vs.getD chan 0 < 18000) ∧
      -9000 ≤ hs.getD chan 0 ∧ hs.getD chan 0 < 18000 := by
  have hget : ∀ {l : List ℤ}, (∀ v ∈ l, -9000 ≤ v ∧ v < 18000) →
      -9000 ≤ l.getD chan 0 ∧ l.getD chan 0 < 18000 := by
    intro l hl
    rcases Nat.lt_or_ge chan l.length with hlt | hge
    · rw [List.getD_eq_getElem _ _ hlt]
      exact hl _ (List.getElem_mem hlt)
    · rw [List.getD_eq_default _ _ hge]
      decide
  exact ⟨hget h.1, hget h.2⟩

/-! ### All loads -/

theorem init_calibrated (chanNum : UInt16) : Calibrated (ChanAngles.init chanNum) := by
  constructor
  · exact List.length_replicate
  · exact List.length_replicate
  · show List.replicate chanNum.toNat 0 = _
    have hnone : rank (List.replicate chanNum.toNat (0 : ℤ)) 0 = 0 := by
      unfold rank
      rw [List.countP_eq_zero]
      intro v hv
      rw [List.eq_of_mem_replicate hv]
      decide
    rw [genUserChan_eq]
    unfold ChanAngles.init
    rw [List.map_replicate, hnone]
    rfl

theorem load_calibrated (h : Calibrated s) {l : Load}
    (hlite : ∀ packet, l = .airylite packet → s.chanNum = 24) :
    Calibrated (s.load stof l).1 ∧ (s.load stof l).1.chanNum = s.chanNum := by
  have hchans : l.chans s.chanNum.toNat = s.chanNum.toNat := by
    cases l with
    | airylite packet =>
      rw [hlite packet rfl]
      rfl
    | file text => rfl
    | difop vertAngleArr horizAngleArr => rfl
  rcases load_cases stof s l with ⟨-, hsame⟩ | ⟨vs, hs, hswap, hv, hh⟩
  · rw [hsame]
    exact ⟨h, rfl⟩
  · rw [hchans] at hv hh
    rw [hswap]
    exact ⟨⟨hv, hh, rfl⟩, rfl⟩

theorem run_calibrated {chanNum : UInt16} {loads : List Load} (hlite : LiteOnly24 chanNum loads) :
    Calibrated (run stof chanNum loads) ∧ (run stof chanNum loads).chanNum = chanNum := by
  have hfold : ∀ (loads : List Load) (s : ChanAngles), LiteOnly24 s.chanNum loads →
      Calibrated s → Calibrated (loads.foldl (fun s l => (s.load stof l).1) s) ∧
        (loads.foldl (fun s l => (s.load stof l).1) s).chanNum = s.chanNum := by
    intro loads
    induction loads with
    | nil => exact fun s _ h => ⟨h, rfl⟩
    | cons l loads ih =>
      intro s hlite h
      obtain ⟨hnext, hnum⟩ : Calibrated (s.load stof l).1 ∧ _ := load_calibrated h
        (fun packet hl => hlite packet (hl ▸ List.mem_cons_self))
      have hrest := ih (s.load stof l).1
        (fun packet hmem => hnum ▸ hlite packet (List.mem_cons_of_mem l hmem)) hnext
      rw [hnum] at hrest
      exact hrest
  exact hfold loads (.init chanNum) hlite (init_calibrated chanNum)

/-! ### The places of the channels -/

theorem rank_lt_chans (h : Calibrated s) {v : ℤ} (hv : v ∈ s.vertAngles) :
    rank s.vertAngles v < 65536 := by
  have hlt := rank_lt_length hv
  have hnum := s.chanNum.toNat_lt
  rw [h.vert] at hlt
  omega

/-- The places are the ranks of the vertical angles. -/
theorem userChans_eq (h : Calibrated s) :
    s.userChans.map UInt16.toNat = s.vertAngles.map (rank s.vertAngles) := by
  rw [h.users, genUserChan_eq, List.map_map]
  apply List.map_congr_left
  intro v hv
  exact UInt16.toNat_ofNat_of_lt' (rank_lt_chans h hv)

theorem userChans_perm (h : Calibrated s) (hdistinct : s.vertAngles.Nodup) :
    (s.userChans.map UInt16.toNat).Perm (List.range s.chanNum.toNat) := by
  rw [userChans_eq h, ← h.vert]
  exact ranks_perm hdistinct

/-- The place of a channel is how many channels look further down. -/
theorem toUserChan_toNat (h : Calibrated s) {chan : ℕ} (hchan : chan < s.chanNum.toNat) :
    (s.toUserChan chan).toNat = rank s.vertAngles (s.vertAdjust chan) ∧
      s.vertAdjust chan ∈ s.vertAngles := by
  have hvert : chan < s.vertAngles.length := h.vert ▸ hchan
  have hget : s.vertAdjust chan = s.vertAngles[chan] := List.getD_eq_getElem _ _ hvert
  have hmem : s.vertAdjust chan ∈ s.vertAngles := hget ▸ List.getElem_mem hvert
  refine ⟨?_, hmem⟩
  have huser : chan < (s.vertAngles.map fun v => UInt16.ofNat (rank s.vertAngles v)).length := by
    rw [List.length_map]
    exact hvert
  unfold toUserChan
  rw [h.users, genUserChan_eq, List.getD_eq_getElem _ _ huser, List.getElem_map, ← hget]
  exact UInt16.toNat_ofNat_of_lt' (rank_lt_chans h hmem)

/-- What is asked of the vectors: their sizes, the places and their order, and that a load
that fails leaves them alone. -/
structure VectorsOk (stof : FileText → Option ℤ) (chanNum : UInt16) (s : ChanAngles) : Prop where
  sizes : s.vertAngles.length = chanNum.toNat ∧ s.horizAngles.length = chanNum.toNat ∧
    s.userChans.length = chanNum.toNat
  place : ∀ chan < chanNum.toNat, (s.toUserChan chan).toNat = rank s.vertAngles (s.vertAdjust chan)
  order : ∀ chan < chanNum.toNat, ∀ chan' < chanNum.toNat,
    s.toUserChan chan < s.toUserChan chan' ↔ s.vertAdjust chan < s.vertAdjust chan'
  perm : s.vertAngles.Nodup → (s.userChans.map UInt16.toNat).Perm (List.range chanNum.toNat)
  failed : ∀ l, (s.load stof l).2 ≠ .ret 0 →
    (s.load stof l).1.vertAngles = s.vertAngles ∧ (s.load stof l).1.horizAngles = s.horizAngles ∧
      (s.load stof l).1.userChans = s.userChans

/-- **After any loads the vectors have an entry for each channel, the places rank the vertical
angles, and a failed load changes nothing.** -/
theorem chanAngles_run (stof : FileText → Option ℤ) (chanNum : UInt16) (loads : List Load)
    (hlite : LiteOnly24 chanNum loads) : VectorsOk stof chanNum (run stof chanNum loads) := by
  obtain ⟨hcal, hnum⟩ : Calibrated (run stof chanNum loads) ∧ _ := run_calibrated hlite
  generalize run stof chanNum loads = s at hcal hnum
  subst hnum
  constructor
  · refine ⟨hcal.vert, hcal.horiz, ?_⟩
    rw [hcal.users, genUserChan_eq, List.length_map, hcal.vert]
  · exact fun chan hchan => (toUserChan_toNat hcal hchan).1
  · intro chan hchan chan' hchan'
    obtain ⟨hplace, hmem⟩ := toUserChan_toNat hcal hchan
    obtain ⟨hplace', -⟩ := toUserChan_toNat hcal hchan'
    rw [UInt16.lt_iff_toNat_lt, hplace, hplace', rank_lt_rank_iff hmem]
  · exact userChans_perm hcal
  · intro l hfailed
    rcases load_cases stof s l with ⟨-, hsame⟩ | ⟨vs, hs, hswap, -⟩
    · rw [hsame]
      exact ⟨rfl, rfl, rfl⟩
    · exact absurd (congrArg Prod.snd hswap) hfailed

/-- A reader of the line `1`. -/
def stofOne (text : FileText) : Option ℤ := if text = ['1'] then some 100 else none

/-- A file of 24 lines, a packet of zeros, and a null pointer. -/
theorem chanAngles_run_lite :
    VectorsOk stofOne 24
      (run stofOne 24
        [.file (some (List.replicate 24 ['1', '\n']).flatten),
          .airylite (some (List.replicate 102 0)), .airylite none]) :=
  chanAngles_run stofOne 24 _ fun _ _ => rfl

end Loads

end Rs
end SensorSupport
