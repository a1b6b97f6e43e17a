/-
# Extrinsic parameters (`livox_ros_driver2/src/comm/pub_handler.h`, `pub_handler.cpp`)

The points of a lidar are turned and shifted by its extrinsic parameters, in one of three loops,
after the type of the packet: cartesian points in mm, cartesian points in cm, and spherical
points. Here the arithmetic is exact, over any field of characteristic zero; with rounding it is
the arithmetic of `Livox/PubHandler` (`packetPoints_rounded`).

The rotation is the one by roll, pitch and yaw (`extParam_rotation`), and it is the same in the
three loops (`coordinates_eq`). Two things are wrong. Without parameters set a point is to stay
where it is, but the default matrix has a second 1 in its second row and adds z to y. And a
translation is divided by 1000 in two of the loops and by 100 in that of the points in cm, so it
cannot be meant for all: `comm.h` says it is in mm, and `LdsLidar` divides it by 10 for a lidar
that is to send points in cm.

Key definitions: `Exact.LidarPubHandler`, `Exact.coordinates`, `Exact.ExtrinsicsOk`,
`Exact.Harmless`.
Key theorems: `Exact.coordinates_eq`, `Exact.after_rounded`, `Exact.extrinsicsOk_iff`.
-/
import Mathlib.Data.Int.CharZero
import Mathlib.Tactic.FieldSimp
import Mathlib.Tactic.LinearCombination
import SensorSupport.Lib.Memory
import SensorSupport.Lib.RigidMotion
import SensorSupport.Livox.PubHandler

namespace SensorSupport
namespace Livox
namespace Exact

open Matrix

/-! ### The code -/

/-- The sine and the cosine of the C library. -/
structure Trig (K : Type) where
  sin : K → K
  cos : K → K

/-- `ExtParameter`: angles in degrees. -/
structure ExtParameter (K : Type) where
  roll : K
  pitch : K
  yaw : K
  x : Int32
  y : Int32
  z : Int32

/-- `ExtParameterDetailed` -/
structure ExtParameterDetailed (K : Type) where
  trans : Fin 3 → K
  rotation : Matrix (Fin 3) (Fin 3) K

/-- `PointXyzlt` -/
@[ext] structure PointXyzlt (K : Type) where
  x : K
  y : K
  z : K
  intensity : K
  tag : UInt8
  line : UInt8
  offsetTime : UInt64

/-- The data types of packets with points. -/
inductive PointDataType
  | cartesianHigh
  | cartesianLow
  | spherical
deriving DecidableEq

/-- `sizeof` of a raw point. -/
def PointDataType.size : PointDataType → ℕ
  | .cartesianHigh => 14
  | .cartesianLow => 8
  | .spherical => 10

variable {K : Type} [Field K]

/-- `PI` -/
def pi : K := 314159265358979323846 / 100000000000000000000

/-- `LidarPubHandler`, with the default of `extrinsic_`. -/
structure LidarPubHandler (K : Type) [Field K] where
  pointsClouds : List (PointXyzlt K) := []
  extrinsic : ExtParameterDetailed K := ⟨![0, 0, 0], !![1, 0, 0; 0, 1, 1; 0, 0, 1]⟩
  isSetExtrinsicParams : Bool := false

/-- What `SetLidarsExtParam` makes of the parameters. -/
def extParam (trig : Trig K) (param : ExtParameter K) : ExtParameterDetailed K :=
  let cosRoll := trig.cos (param.roll * pi / 180)
  let cosPitch := trig.cos (param.pitch * pi / 180)
  let cosYaw := trig.cos (param.yaw * pi / 180)
  let sinRoll := trig.sin (param.roll * pi / 180)
  let sinPitch := trig.sin (param.pitch * pi / 180)
  let sinYaw := trig.sin (param.yaw * pi / 180)
  { trans := ![(param.x.toInt : K), (param.y.toInt : K), (param.z.toInt : K)]
    rotation := !![cosPitch * cosYaw, sinRoll * sinPitch * cosYaw - cosRoll * sinYaw,
          cosRoll * sinPitch * cosYaw + sinRoll * sinYaw;
        cosPitch * sinYaw, sinRoll * sinPitch * sinYaw + cosRoll * cosYaw,
          cosRoll * sinPitch * sinYaw - sinRoll * cosYaw;
        -sinPitch, sinRoll * cosPitch, cosRoll * cosPitch] }

/-- `LidarPubHandler::SetLidarsExtParam` -/
def LidarPubHandler.setLidarsExtParam (trig : Trig K) (handler : LidarPubHandler K)
    (param : ExtParameter K) : LidarPubHandler K :=
  if handler.isSetExtrinsicParams then handler
  else { handler with extrinsic := extParam trig param, isSetExtrinsicParams := true }

/-- The coordinates of a `LivoxLidarCartesianHighRawPoint`. -/
def highRaw (raw : List UInt8) : Fin 3 → K := fun column =>
  ((UInt32.ofNat (leValue ((raw.drop (4 * column.val)).take 4))).toInt32.toInt : K)

/-- The coordinates of a `LivoxLidarCartesianLowRawPoint`. -/
def lowRaw (raw : List UInt8) : Fin 3 → K := fun column =>
  ((UInt16.ofNat (leValue ((raw.drop (2 * column.val)).take 2))).toInt16.toInt : K)

/-- One point of the cartesian loops, which differ in the unit of their raw points. -/
def cartesianPoint (perMetre : K) (extrinsic : ExtParameterDetailed K) (extrinsicEnable : Bool)
    (raw : Fin 3 → K) : Fin 3 → K :=
  if extrinsicEnable then ![raw 0 / perMetre, raw 1 / perMetre, raw 2 / perMetre]
  else
    ![(raw 0 * extrinsic.rotation 0 0 + raw 1 * extrinsic.rotation 0 1 +
        raw 2 * extrinsic.rotation 0 2 + extrinsic.trans 0) / perMetre,
      (raw 0 * extrinsic.rotation 1 0 + raw 1 * extrinsic.rotation 1 1 +
        raw 2 * extrinsic.rotation 1 2 + extrinsic.trans 1) / perMetre,
      (raw 0 * extrinsic.rotation 2 0 + raw 1 * extrinsic.rotation 2 1 +
        raw 2 * extrinsic.rotation 2 2 + extrinsic.trans 2) / perMetre]

/-- `src_x`, `src_y` and `src_z` of a `LivoxLidarSpherPoint`. -/
def sphericalSrc (trig : Trig K) (raw : List UInt8) : Fin 3 → K :=
  let radius : K := (leValue (raw.take 4) : K) / 1000
  let theta : K := (leValue ((raw.drop 4).take 2) : K) / 100 / 180 * pi
  let phi : K := (leValue ((raw.drop 6).take 2) : K) / 100 / 180 * pi
  ![radius * trig.sin theta * trig.cos phi, radius * trig.sin theta * trig.sin phi,
    radius * trig.cos theta]

/-- One point of the spherical loop. -/
def sphericalPoint (extrinsic : ExtParameterDetailed K) (extrinsicEnable : Bool) (src : Fin 3 → K) :
    Fin 3 → K :=
  if extrinsicEnable then ![src 0, src 1, src 2]
  else
    ![src 0 * extrinsic.rotation 0 0 + src 1 * extrinsic.rotation 0 1 +
        src 2 * extrinsic.rotation 0 2 + extrinsic.trans 0 / 1000,
      src 0 * extrinsic.rotation 1 0 + src 1 * extrinsic.rotation 1 1 +
        src 2 * extrinsic.rotation 1 2 + extrinsic.trans 1 / 1000,
      src 0 * extrinsic.rotation 2 0 + src 1 * extrinsic.rotation 2 1 +
        src 2 * extrinsic.rotation 2 2 + extrinsic.trans 2 / 1000]

/-- The coordinates of the point that is made of the bytes of a raw point. -/
def coordinates (trig : Trig K) (type : PointDataType) (extrinsic : ExtParameterDetailed K)
    (extrinsicEnable : Bool) (raw : List UInt8) : Fin 3 → K :=
  match type with
  | .cartesianHigh => cartesianPoint 1000 extrinsic extrinsicEnable (highRaw raw)
  | .cartesianLow => cartesianPoint 100 extrinsic extrinsicEnable (lowRaw raw)
  | .spherical => sphericalPoint extrinsic extrinsicEnable (sphericalSrc trig raw)

/-- Raw point `i` of a packet. -/
def rawPoint (type : PointDataType) (pkt : RawPacket) (i : ℕ) : List UInt8 :=
  (pkt.rawData.drop (i * type.size)).take type.size

/-- Point `i` of a packet with its coordinates; the reflectivity and the tag are last in the raw
point. -/
def pointOf (type : PointDataType) (pkt : RawPacket) (i : ℕ) (xyz : Fin 3 → K) : PointXyzlt K :=
  let raw := rawPoint type pkt i
  { x := xyz 0
    y := xyz 1
    z := xyz 2
    intensity := ((raw.getD (type.size - 2) 0).toNat : K)
    tag := raw.getD (type.size - 1) 0
    line := (i.toUInt32 % pkt.lineNum.toUInt32).toUInt8
    offsetTime := pkt.timeStamp + i.toUInt64 * pkt.pointInterval }

/-- The loops over the points of a packet: what they append. -/
def processPoints (trig : Trig K) (type : PointDataType) (extrinsic : ExtParameterDetailed K)
    (pkt : RawPacket) : List (PointXyzlt K) :=
  (List.range pkt.pointNum.toNat).map fun i =>
    pointOf type pkt i
      (coordinates trig type extrinsic pkt.extrinsicEnable (rawPoint type pkt i))

/-- `ProcessCartesianHighPoint` -/
def processCartesianHighPoint (trig : Trig K) :
    ExtParameterDetailed K → RawPacket → List (PointXyzlt K) := processPoints trig .cartesianHigh

/-- `ProcessCartesianLowPoint` -/
def processCartesianLowPoint (trig : Trig K) :
    ExtParameterDetailed K → RawPacket → List (PointXyzlt K) := processPoints trig .cartesianLow

/-- `ProcessSphericalPoint` -/
def processSphericalPoint (trig : Trig K) :
    ExtParameterDetailed K → RawPacket → List (PointXyzlt K) := processPoints trig .spherical

/-- `LidarPubHandler::PointCloudProcess` and `LivoxLidarPointCloudProcess` -/
def LidarPubHandler.pointCloudProcess (trig : Trig K) (handler : LidarPubHandler K)
    (pkt : RawPacket) : LidarPubHandler K :=
  let points :=
    match pkt.lidarType with
    | .livox =>
      match pkt.dataType with
      | 1 => processCartesianHighPoint trig handler.extrinsic pkt
      | 2 => processCartesianLowPoint trig handler.extrinsic pkt
      | 3 => processSphericalPoint trig handler.extrinsic pkt
      | _ => []
    | _ => []
  { handler with pointsClouds := handler.pointsClouds ++ points }

/-- The calls of a handler. -/
inductive HandlerCall (K : Type)
  | setLidarsExtParam (param : ExtParameter K)
  | pointCloudProcess (pkt : RawPacket)
  | getLidarPointClouds

/-- A call of the handler. -/
def LidarPubHandler.call (trig : Trig K) (handler : LidarPubHandler K) :
    HandlerCall K → LidarPubHandler K
  | .setLidarsExtParam param => handler.setLidarsExtParam trig param
  | .pointCloudProcess pkt => handler.pointCloudProcess trig pkt
  | .getLidarPointClouds => { handler with pointsClouds := [] }

/-- A new handler behind some calls. -/
def after (trig : Trig K) (calls : List (HandlerCall K)) : LidarPubHandler K :=
  calls.foldl (LidarPubHandler.call trig) {}

/-! ### What is to happen -/

/-- The parameters of a lidar: those of the first call that sets some. -/
def paramsOf (calls : List (HandlerCall K)) : Option (ExtParameter K) :=
  calls.findSome? fun
    | .setLidarsExtParam param => some param
    | _ => none

/-- The type of a packet with points. -/
def pointType (pkt : RawPacket) : Option PointDataType :=
  match pkt.lidarType with
  | .livox =>
    match pkt.dataType with
    | 1 => some .cartesianHigh
    | 2 => some .cartesianLow
    | 3 => some .spherical
    | _ => none
  | _ => none

/-- A raw point in metres. -/
def metres (trig : Trig K) : PointDataType → List UInt8 → Fin 3 → K
  | .cartesianHigh, raw => fun column => highRaw raw column / 1000
  | .cartesianLow, raw => fun column => lowRaw raw column / 100
  | .spherical, raw => sphericalSrc trig raw

/-- The units that a translation may have. -/
inductive TransUnit
  | millimetre
  | centimetre
deriving DecidableEq

def TransUnit.perMetre : TransUnit → K
  | .millimetre => 1000
  | .centimetre => 100

def translation (param : ExtParameter K) : Fin 3 → K :=
  ![(param.x.toInt : K), (param.y.toInt : K), (param.z.toInt : K)]

/-- The rotation by the angles of the parameters. -/
def rotation (trig : Trig K) (param : ExtParameter K) : Matrix (Fin 3) (Fin 3) K :=
  let radians (degrees : K) := degrees * pi / 180
  rotZYX (trig.cos (radians param.roll)) (trig.sin (radians param.roll))
    (trig.cos (radians param.pitch)) (trig.sin (radians param.pitch))
    (trig.cos (radians param.yaw)) (trig.sin (radians param.yaw))

/-- How the points of a packet are to be moved: by the parameters, in metres; and not at all
without parameters, or when the lidar has moved them. -/
def motion (trig : Trig K) (unit : TransUnit) (extrinsicEnable : Bool) :
    Option (ExtParameter K) → Motion K
  | none => 1
  | some param =>
    if extrinsicEnable then 1
    else ⟨rotation trig param, fun row => translation param row / unit.perMetre⟩

/-- The points that are to be made of a packet. -/
def expected (trig : Trig K) (unit : TransUnit) (params : Option (ExtParameter K))
    (pkt : RawPacket) : List (PointXyzlt K) :=
  match pointType pkt with
  | none => []
  | some type => (List.range pkt.pointNum.toNat).map fun i =>
    pointOf type pkt i
      ((motion trig unit pkt.extrinsicEnable params).apply (metres trig type (rawPoint type pkt i)))

/-- The translation of the lidar has one unit, with which the points of all its packets are where
they are to be. -/
def ExtrinsicsOk (trig : Trig K) (calls : List (HandlerCall K)) : Prop :=
  ∃ unit, ∀ before pkt, before ++ [.pointCloudProcess pkt] <+: calls →
    (after trig (before ++ [.pointCloudProcess pkt])).pointsClouds =
      (after trig before).pointsClouds ++ expected trig unit (paramsOf before) pkt

/-- The unit that a loop takes the translation to have. -/
def PointDataType.unit : PointDataType → TransUnit
  | .cartesianHigh => .millimetre
  | .cartesianLow => .centimetre
  | .spherical => .millimetre

/-- No point of the packet is above or below the lidar. -/
def Level (trig : Trig K) (pkt : RawPacket) : Prop :=
  pkt.extrinsicEnable = true ∨ ∀ type, pointType pkt = some type →
    ∀ i < pkt.pointNum.toNat, metres trig type (rawPoint type pkt i) 2 = 0

/-- The packet has points of the type, which the driver moves. -/
structure Moved (pkt : RawPacket) (type : PointDataType) : Prop where
  type : pointType pkt = some type
  extrinsicEnable : pkt.extrinsicEnable = false
  points : 0 < pkt.pointNum.toNat

/-- Where the two slips do no harm: the packets before the parameters have level points only, and
the translation is zero or those behind have one unit. -/
structure Harmless (trig : Trig K) (calls : List (HandlerCall K)) : Prop where
  unset : ∀ before pkt, before ++ [.pointCloudProcess pkt] <+: calls → paramsOf before = none →
    Level trig pkt
  set : ∀ param, paramsOf calls = some param → translation param = 0 ∨
    ∃ unit, ∀ before pkt type, before ++ [.pointCloudProcess pkt] <+: calls →
      paramsOf before = some param → Moved pkt type → type.unit = unit

/-! ### The arithmetic -/

/-- The rotation in the code is the one by roll, pitch and yaw. -/
theorem extParam_rotation (trig : Trig K) (param : ExtParameter K) :
    (extParam trig param).rotation = rotation trig param := by
  unfold rotation
  rw [rotZYX_eq]
  rfl

/-- **The three loops apply a motion to the points in metres.** They differ in the unit of its
translation. -/
theorem coordinates_eq (trig : Trig K) (type : PointDataType) (extrinsic : ExtParameterDetailed K)
    (extrinsicEnable : Bool) (raw : List UInt8) :
    coordinates trig type extrinsic extrinsicEnable raw =
      if extrinsicEnable then metres trig type raw
      else (Motion.mk extrinsic.rotation fun row =>
        extrinsic.trans row / type.unit.perMetre).apply (metres trig type raw) := by
  cases extrinsicEnable with
  | true =>
    ext row
    cases type <;> fin_cases row <;> rfl
  | false =>
    ext row
    rw [if_neg Bool.false_ne_true, Motion.apply_row]
    cases type <;> fin_cases row <;>
      simp [coordinates, cartesianPoint, sphericalPoint, metres, PointDataType.unit,
        TransUnit.perMetre] <;> ring

/-- **With parameters the distances between a lidar's points are those between its raw points.** -/
theorem coordinates_dist (trig : Trig K) (htrig : ∀ x, trig.cos x ^ 2 + trig.sin x ^ 2 = 1)
    (param : ExtParameter K) (type : PointDataType) (raw raw' : List UInt8) :
    let point := coordinates trig type (extParam trig param) false raw
    let point' := coordinates trig type (extParam trig param) false raw'
    (point - point') ⬝ᵥ (point - point') =
      (metres trig type raw - metres trig type raw') ⬝ᵥ
        (metres trig type raw - metres trig type raw') := by
  intro point point'
  let m : Motion K := ⟨(extParam trig param).rotation, fun row =>
    (extParam trig param).trans row / type.unit.perMetre⟩
  have horthogonal : m.rotation ∈ orthogonalGroup (Fin 3) K := by
    rw [show m.rotation = rotation trig param from extParam_rotation trig param]
    exact rotZYX_orthogonal (htrig _) (htrig _) (htrig _)
  show (coordinates trig type (extParam trig param) false raw -
    coordinates trig type (extParam trig param) false raw') ⬝ᵥ
      (coordinates trig type (extParam trig param) false raw -
        coordinates trig type (extParam trig param) false raw') = _
  simp only [coordinates_eq, Bool.false_eq_true, if_false]
  exact Motion.apply_dist (m := m) horthogonal _ _

/-- The parameters that a handler works with. -/
def detailed (trig : Trig K) : Option (ExtParameter K) → ExtParameterDetailed K
  | none => ({} : LidarPubHandler K).extrinsic
  | some param => extParam trig param

/-- The default leaves alone the level points only. -/
theorem default_apply_iff (v : Fin 3 → K) (unit : TransUnit) :
    (Motion.mk (({} : LidarPubHandler K).extrinsic.rotation) fun row =>
      ({} : LidarPubHandler K).extrinsic.trans row / unit.perMetre).apply v = v ↔ v 2 = 0 := by
  have hrow : ∀ row, (Motion.mk (({} : LidarPubHandler K).extrinsic.rotation) fun row =>
      ({} : LidarPubHandler K).extrinsic.trans row / unit.perMetre).apply v row =
        v row + if row = 1 then v 2 else 0 := by
    intro row
    rw [Motion.apply_row]
    fin_cases row <;> simp
  constructor
  · intro h
    have hy := (hrow 1).symm.trans (congrFun h 1)
    rw [if_pos rfl] at hy
    exact add_eq_left.mp hy
  · intro hz
    ext row
    rw [hrow, hz, ite_self, add_zero]

/-! ### One packet -/

/-- The points that a packet appends. -/
def packetPoints (trig : Trig K) (extrinsic : ExtParameterDetailed K) (pkt : RawPacket) :
    List (PointXyzlt K) :=
  match pointType pkt with
  | none => []
  | some type => processPoints trig type extrinsic pkt

theorem pointCloudProcess_eq (trig : Trig K) (handler : LidarPubHandler K) (pkt : RawPacket) :
    handler.pointCloudProcess trig pkt = { handler with
      pointsClouds := handler.pointsClouds ++ packetPoints trig handler.extrinsic pkt } := by
  unfold LidarPubHandler.pointCloudProcess packetPoints pointType
  cases pkt.lidarType with
  | industry | vehicle | direct => rfl
  | livox =>
    dsimp only
    split <;> rfl

theorem pointOf_inj {type : PointDataType} {pkt : RawPacket} {i : ℕ} {v w : Fin 3 → K} :
    pointOf type pkt i v = pointOf type pkt i w ↔ v = w := by
  constructor
  · intro h
    unfold pointOf at h
    obtain ⟨hx, hy, hz, -⟩ := PointXyzlt.mk.inj h
    ext row
    fin_cases row
    · exact hx
    · exact hy
    · exact hz
  · exact fun h => h ▸ rfl

/-- Two units make the same of a translation only when it is zero. -/
theorem translation_eq_iff [CharZero K] (v : Fin 3 → K) (unit unit' : TransUnit) :
    ((fun row => v row / unit.perMetre) = fun row => v row / unit'.perMetre) ↔
      v = 0 ∨ unit = unit' := by
  have hne : ∀ x : K, x / 1000 = x / 100 → x = 0 := by
    intro x h
    have h10 : x = 10 * x := by
      field_simp at h
      linear_combination (1 / 100 : K) * h
    have h9 : (9 : K) * x = 0 := by linear_combination -h10
    exact (mul_eq_zero.mp h9).resolve_left (by norm_num)
  constructor
  · intro h
    have hrow := congrFun h
    cases unit <;> cases unit'
    · exact .inr rfl
    · exact .inl (funext fun row => hne _ (hrow row))
    · exact .inl (funext fun row => hne _ (hrow row).symm)
    · exact .inr rfl
  · rintro (rfl | rfl)
    · ext row
      rw [Pi.zero_apply, zero_div, zero_div]
    · rfl

/-- **A point without parameters is right when it is level; with parameters, when the translation
is zero or has the unit of the loop.** -/
theorem coordinates_eq_iff [CharZero K] (trig : Trig K) (unit : TransUnit) (type : PointDataType)
    (params : Option (ExtParameter K)) (raw : List UInt8) :
    coordinates trig type (detailed trig params) false raw =
        (motion trig unit false params).apply (metres trig type raw) ↔
      match params with
      | none => metres trig type raw 2 = 0
      | some param => translation param = 0 ∨ type.unit = unit := by
  rw [coordinates_eq, if_neg Bool.false_ne_true]
  cases params with
  | none =>
    rw [show motion trig unit false none = 1 from rfl, Motion.one_apply]
    exact default_apply_iff _ type.unit
  | some param =>
    rw [Motion.apply_eq_iff (extParam_rotation trig param)]
    exact translation_eq_iff (translation param) type.unit unit

/-- A point that the lidar has moved stays where it is. -/
theorem coordinates_enabled (trig : Trig K) (unit : TransUnit) (type : PointDataType)
    (params : Option (ExtParameter K)) (raw : List UInt8) :
    coordinates trig type (detailed trig params) true raw =
      (motion trig unit true params).apply (metres trig type raw) := by
  have hone : motion trig unit true params = 1 := by cases params <;> rfl
  rw [coordinates_eq, if_pos rfl, hone, Motion.one_apply]

/-- **A packet without parameters is right when its points are level; with parameters, when the
translation is zero or has the unit of the loop.** -/
theorem packetPoints_eq_iff [CharZero K] (trig : Trig K) (unit : TransUnit)
    (params : Option (ExtParameter K)) (pkt : RawPacket) :
    packetPoints trig (detailed trig params) pkt = expected trig unit params pkt ↔
      match params with
      | none => Level trig pkt
      | some param => translation param = 0 ∨ ∀ type, Moved pkt type → type.unit = unit := by
  unfold packetPoints expected
  cases htype : pointType pkt with
  | none =>
    cases params with
    | none => exact iff_of_true rfl (.inr fun type h => nomatch htype.symm.trans h)
    | some param => exact iff_of_true rfl (.inr fun type h => nomatch htype.symm.trans h.type)
  | some type =>
    dsimp only
    unfold processPoints
    simp only [List.map_inj_left, List.mem_range, pointOf_inj]
    cases henable : pkt.extrinsicEnable with
    | true =>
      have hpoints : ∀ i < pkt.pointNum.toNat,
          coordinates trig type (detailed trig params) true (rawPoint type pkt i) =
            (motion trig unit true params).apply (metres trig type (rawPoint type pkt i)) :=
        fun i _ => coordinates_enabled trig unit type params (rawPoint type pkt i)
      cases params with
      | none => exact iff_of_true hpoints (.inl henable)
      | some param =>
        exact iff_of_true hpoints (.inr fun t h => nomatch henable.symm.trans h.extrinsicEnable)
    | false =>
      simp only [coordinates_eq_iff]
      cases params with
      | none =>
        constructor
        · intro h
          refine .inr fun t ht i hi => ?_
          cases htype.symm.trans ht
          exact h i hi
        · intro h i hi
          exact h.resolve_left (by rw [henable]; decide) type htype i hi
      | some param =>
        constructor
        · intro h
          by_cases hzero : translation param = 0
          · exact .inl hzero
          · refine .inr fun t ht => ?_
            cases htype.symm.trans ht.type
            exact (h 0 ht.points).resolve_left hzero
        · rintro (hzero | hunit) i hi
          · exact .inl hzero
          · exact .inr (hunit type ⟨htype, henable, by omega⟩)

/-! ### All calls -/

section Calls

variable {trig : Trig K} {calls before : List (HandlerCall K)} {call : HandlerCall K}

theorem after_concat (trig : Trig K) (calls : List (HandlerCall K)) (call : HandlerCall K) :
    after trig (calls ++ [call]) = (after trig calls).call trig call := List.foldl_append

omit [Field K] in
theorem paramsOf_append (calls calls' : List (HandlerCall K)) :
    paramsOf (calls ++ calls') = (paramsOf calls).or (paramsOf calls') := List.findSome?_append

omit [Field K] in
/-- Parameters that are set stay. -/
theorem paramsOf_prefix {param : ExtParameter K} (h : before <+: calls)
    (hbefore : paramsOf before = some param) : paramsOf calls = some param := by
  obtain ⟨later, rfl⟩ := h
  rw [paramsOf_append, hbefore]
  rfl

/-- A handler works with the first parameters set, and else with the default. -/
theorem after_extrinsic (trig : Trig K) (calls : List (HandlerCall K)) :
    (after trig calls).extrinsic = detailed trig (paramsOf calls) ∧
      (after trig calls).isSetExtrinsicParams = (paramsOf calls).isSome := by
  induction calls using List.reverseRecOn with
  | nil => exact ⟨rfl, rfl⟩
  | append_singleton calls call ih =>
    obtain ⟨hextrinsic, hset⟩ := ih
    rw [after_concat, paramsOf_append]
    cases call with
    | setLidarsExtParam param =>
      show ((after trig calls).setLidarsExtParam trig param).extrinsic = _ ∧
        ((after trig calls).setLidarsExtParam trig param).isSetExtrinsicParams = _
      unfold LidarPubHandler.setLidarsExtParam
      rw [hset]
      cases hparams : paramsOf calls with
      | none => exact ⟨rfl, rfl⟩
      | some first =>
        rw [hparams] at hextrinsic hset
        exact ⟨hextrinsic, hset⟩
    | pointCloudProcess pkt =>
      show ((after trig calls).pointCloudProcess trig pkt).extrinsic = _ ∧
        ((after trig calls).pointCloudProcess trig pkt).isSetExtrinsicParams = _
      rw [pointCloudProcess_eq, show paramsOf [.pointCloudProcess pkt] = (none : Option (ExtParameter K))
        from rfl, Option.or_none]
      exact ⟨hextrinsic, hset⟩
    | getLidarPointClouds =>
      rw [show paramsOf [.getLidarPointClouds] = (none : Option (ExtParameter K)) from rfl,
        Option.or_none]
      exact ⟨hextrinsic, hset⟩

/-- What a packet appends behind some calls. -/
theorem after_packet (trig : Trig K) (before : List (HandlerCall K)) (pkt : RawPacket) :
    (after trig (before ++ [.pointCloudProcess pkt])).pointsClouds =
      (after trig before).pointsClouds ++
        packetPoints trig (detailed trig (paramsOf before)) pkt := by
  have hcall : after trig (before ++ [.pointCloudProcess pkt]) =
      (after trig before).pointCloudProcess trig pkt := after_concat trig before _
  rw [hcall, pointCloudProcess_eq, (after_extrinsic trig before).1]

/-- **A lidar's points are where they are to be exactly when neither of the two slips does harm.** -/
theorem extrinsicsOk_iff [CharZero K] (trig : Trig K) (calls : List (HandlerCall K)) :
    ExtrinsicsOk trig calls ↔ Harmless trig calls := by
  have hpacket : ∀ unit before pkt, (after trig (before ++ [.pointCloudProcess pkt])).pointsClouds =
      (after trig before).pointsClouds ++ expected trig unit (paramsOf before) pkt ↔
        packetPoints trig (detailed trig (paramsOf before)) pkt =
          expected trig unit (paramsOf before) pkt := by
    intro unit before pkt
    rw [after_packet, List.append_cancel_left_eq]
  unfold ExtrinsicsOk
  simp only [hpacket, packetPoints_eq_iff]
  constructor
  · rintro ⟨unit, hall⟩
    refine ⟨fun before pkt hprefix hnone => ?_, fun param hparam => ?_⟩
    · have h := hall before pkt hprefix
      rw [hnone] at h
      exact h
    · by_cases hzero : translation param = 0
      · exact .inl hzero
      · refine .inr ⟨unit, fun before pkt type hprefix hbefore hmoved => ?_⟩
        have h := hall before pkt hprefix
        rw [hbefore] at h
        exact h.resolve_left hzero type hmoved
  · intro h
    cases hparams : paramsOf calls with
    | none =>
      refine ⟨.millimetre, fun before pkt hprefix => ?_⟩
      cases hbefore : paramsOf before with
      | none => exact h.unset before pkt hprefix hbefore
      | some param =>
        have hcalls := paramsOf_prefix ((List.prefix_append _ _).trans hprefix) hbefore
        cases hparams.symm.trans hcalls
    | some param =>
      obtain ⟨unit, hunit⟩ : ∃ unit, translation param = 0 ∨ ∀ before pkt type,
          before ++ [.pointCloudProcess pkt] <+: calls → paramsOf before = some param →
            Moved pkt type → type.unit = unit := by
        rcases h.set param hparams with hzero | ⟨unit, hunit⟩
        · exact ⟨.millimetre, .inl hzero⟩
        · exact ⟨unit, .inr hunit⟩
      refine ⟨unit, fun before pkt hprefix => ?_⟩
      cases hbefore : paramsOf before with
      | none => exact h.unset before pkt hprefix hbefore
      | some param' =>
        have hcalls := paramsOf_prefix ((List.prefix_append _ _).trans hprefix) hbefore
        cases hparams.symm.trans hcalls
        exact hunit.imp_right fun hunit type => hunit before pkt type hprefix hbefore

end Calls

/-! ### With rounding -/

/-- A point with the bits of its coordinates. -/
def rounded (round : K → UInt32) (point : PointXyzlt K) : Livox.PointXyzlt where
  x := round point.x
  y := round point.y
  z := round point.z
  intensity := round point.intensity
  tag := point.tag
  line := point.line
  offsetTime := point.offsetTime

/-- The arithmetic of the driver with some rounding at its end. -/
def roundedArith (trig : Trig K) (round : K → UInt32) : PointArith (ExtParameter K) where
  high params enable raw :=
    let xyz := coordinates trig .cartesianHigh (detailed trig params) enable raw
    (round (xyz 0), round (xyz 1), round (xyz 2))
  low params enable raw :=
    let xyz := coordinates trig .cartesianLow (detailed trig params) enable raw
    (round (xyz 0), round (xyz 1), round (xyz 2))
  spher params enable raw :=
    let xyz := coordinates trig .spherical (detailed trig params) enable raw
    (round (xyz 0), round (xyz 1), round (xyz 2))
  intensity reflectivity := round (reflectivity.toNat : K)

theorem pointType_of_other {pkt : RawPacket} (hhigh : pkt.dataType ≠ 1) (hlow : pkt.dataType ≠ 2)
    (hspher : pkt.dataType ≠ 3) : pointType pkt = none := by
  unfold pointType
  split
  · split
    · contradiction
    · contradiction
    · contradiction
    · rfl
  · rfl

/-- **The points that the driver publishes are the exact points, rounded.** -/
theorem packetPoints_rounded (trig : Trig K) (round : K → UInt32) (params : Option (ExtParameter K))
    (pkt : RawPacket) : Livox.packetPoints (roundedArith trig round) params pkt =
      (packetPoints trig (detailed trig params) pkt).map (rounded round) := by
  have hhigh : Livox.processCartesianHighPoint (roundedArith trig round) params pkt =
      (processPoints trig .cartesianHigh (detailed trig params) pkt).map (rounded round) := by
    unfold processPoints
    rw [List.map_map]
    rfl
  have hlow : Livox.processCartesianLowPoint (roundedArith trig round) params pkt =
      (processPoints trig .cartesianLow (detailed trig params) pkt).map (rounded round) := by
    unfold processPoints
    rw [List.map_map]
    rfl
  have hspher : Livox.processSphericalPoint (roundedArith trig round) params pkt =
      (processPoints trig .spherical (detailed trig params) pkt).map (rounded round) := by
    unfold processPoints
    rw [List.map_map]
    rfl
  unfold Livox.packetPoints packetPoints
  rw [hhigh, hlow, hspher]
  cases hlidar : pkt.lidarType with
  | industry | vehicle | direct => simp [pointType, hlidar]
  | livox =>
    dsimp only
    split
    · rename_i hdata
      simp [pointType, hlidar, hdata]
    · rename_i hdata
      simp [pointType, hlidar, hdata]
    · rename_i hdata
      simp [pointType, hlidar, hdata]
    · rename_i h₁ h₂ h₃
      rw [pointType_of_other h₁ h₂ h₃, List.map_nil]

/-- A call of the handler that knows its parameters only as such. -/
def roundedCall (trig : Trig K) (round : K → UInt32)
    (handler : Livox.LidarPubHandler (ExtParameter K)) :
    HandlerCall K → Livox.LidarPubHandler (ExtParameter K)
  | .setLidarsExtParam param => handler.setLidarsExtParam param
  | .pointCloudProcess pkt => handler.pointCloudProcess (roundedArith trig round) pkt
  | .getLidarPointClouds => { handler with pointsClouds := [] }

/-- **The handler of the publisher is this one with its points rounded.** -/
theorem after_rounded (trig : Trig K) (round : K → UInt32) (calls : List (HandlerCall K)) :
    calls.foldl (roundedCall trig round) {} =
      ⟨(after trig calls).pointsClouds.map (rounded round), paramsOf calls⟩ := by
  induction calls using List.reverseRecOn with
  | nil => rfl
  | append_singleton calls call ih =>
    rw [List.foldl_append, ih, after_concat, paramsOf_append]
    obtain ⟨hextrinsic, hset⟩ := after_extrinsic trig calls
    cases call with
    | setLidarsExtParam param =>
      show Livox.LidarPubHandler.setLidarsExtParam _ param = _
      unfold Livox.LidarPubHandler.setLidarsExtParam LidarPubHandler.call
      dsimp only
      unfold LidarPubHandler.setLidarsExtParam
      rw [hset]
      cases paramsOf calls <;> rfl
    | pointCloudProcess pkt =>
      show Livox.LidarPubHandler.pointCloudProcess _ _ pkt = _
      unfold Livox.LidarPubHandler.pointCloudProcess LidarPubHandler.call
      dsimp only
      rw [pointCloudProcess_eq, packetPoints_rounded, hextrinsic, List.map_append,
        show paramsOf [.pointCloudProcess pkt] = (none : Option (ExtParameter K)) from rfl,
        Option.or_none]
    | getLidarPointClouds =>
      rw [show paramsOf [.getLidarPointClouds] = (none : Option (ExtParameter K)) from rfl,
        Option.or_none]
      rfl

/-- A lidar that stands upright, 1 m above the ground. -/
def upright : ExtParameter ℚ := ⟨0, 0, 0, 0, 0, 1000⟩

/-- The sine and the cosine of zero. -/
def zeroTrig : Trig ℚ := ⟨fun _ => 0, fun _ => 1⟩

/-- One point 1 m above the lidar. -/
def overhead : RawPacket where
  lidarType := .livox
  handle := 1
  extrinsicEnable := false
  pointNum := 1
  dataType := 1
  lineNum := 4
  timeStamp := 0
  pointInterval := 0
  rawData := [0, 0, 0, 0, 0, 0, 0, 0, 0xe8, 3, 0, 0, 0, 0]

/-- The points of a lidar that only sends them in mm. -/
theorem extrinsicsOk_upright : ExtrinsicsOk zeroTrig
    [.setLidarsExtParam upright, .pointCloudProcess overhead] := by
  rw [extrinsicsOk_iff]
  have hbefore : ∀ before pkt, before ++ [.pointCloudProcess pkt] <+:
      [HandlerCall.setLidarsExtParam upright, .pointCloudProcess overhead] →
        paramsOf before = some upright ∧ pkt = overhead := by
    intro before pkt hprefix
    cases before with
    | nil => simp at hprefix
    | cons call before =>
      cases before with
      | nil =>
        simp only [List.cons_append, List.nil_append, List.cons_prefix_cons] at hprefix
        obtain ⟨rfl, heq, -⟩ := hprefix
        cases heq
        exact ⟨rfl, rfl⟩
      | cons call' before => simp at hprefix
  refine ⟨fun before pkt hprefix hnone => ?_, fun param _ => .inr ⟨.millimetre, ?_⟩⟩
  · rw [(hbefore before pkt hprefix).1] at hnone
    cases hnone
  · intro before pkt type hprefix _ hmoved
    obtain rfl := (hbefore before pkt hprefix).2
    cases hmoved.type
    rfl

/-- Without parameters the point overhead is published 1 m beside its place. -/
theorem default_overhead : ¬ ∀ (trig : Trig ℚ) (calls : List (HandlerCall ℚ)),
    ExtrinsicsOk trig calls := by
  intro hall
  obtain ⟨unit, h⟩ := hall zeroTrig [.pointCloudProcess overhead]
  have hpacket := h [] overhead (List.prefix_refl _)
  rw [after_packet, List.append_cancel_left_eq] at hpacket
  rcases (packetPoints_eq_iff zeroTrig unit none overhead).mp hpacket with henable | hlevel
  · cases henable
  · have hz := hlevel .cartesianHigh rfl 0 (by decide)
    revert hz
    decide +kernel

end Exact
end Livox
end SensorSupport
