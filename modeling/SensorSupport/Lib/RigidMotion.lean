/-
# Rotations and translations of space

A motion of space turns a point by a matrix and adds a vector. The rotation about an axis is
given by the cosine and the sine of its angle, so any commutative ring does; where their squares
add up to one the matrix is orthogonal, and so is the rotation by roll, pitch and yaw
(`rotZYX_orthogonal`). A motion by an orthogonal matrix keeps distances (`Motion.apply_dist`).

Key definitions: `Motion`, `Motion.apply`, `rotX`, `rotY`, `rotZ`, `rotZYX`.
Key theorems: `Motion.apply_dist`, `rotZYX_orthogonal`.
-/
import Mathlib.LinearAlgebra.Matrix.Notation
import Mathlib.LinearAlgebra.UnitaryGroup
import Mathlib.Tactic.Ring

open Matrix

namespace SensorSupport

/-- A rotation, or any other matrix, and a translation. -/
@[ext] structure Motion (K : Type) where
  rotation : Matrix (Fin 3) (Fin 3) K
  translation : Fin 3 → K

variable {K : Type} [CommRing K]

/-! ### Motions -/

namespace Motion

/-- The motion that moves nothing. -/
instance : One (Motion K) := ⟨⟨1, 0⟩⟩

/-- Where a motion moves a point. -/
def apply (m : Motion K) (v : Fin 3 → K) : Fin 3 → K := m.rotation *ᵥ v + m.translation

@[simp] theorem one_apply (v : Fin 3 → K) : (1 : Motion K).apply v = v := by
  show (1 : Matrix (Fin 3) (Fin 3) K) *ᵥ v + 0 = v
  rw [one_mulVec, add_zero]

/-- A coordinate is a row of the matrix with the point, and its part of the vector. -/
theorem apply_row (m : Motion K) (v : Fin 3 → K) (row : Fin 3) : m.apply v row =
    v 0 * m.rotation row 0 + v 1 * m.rotation row 1 + v 2 * m.rotation row 2 +
      m.translation row := by
  have hsum : (m.rotation *ᵥ v) row = ∑ column, m.rotation row column * v column := rfl
  unfold apply
  rw [Pi.add_apply, hsum, Fin.sum_univ_three]
  ring

/-- Motions by one matrix differ by their vectors. -/
theorem apply_eq_iff {m m' : Motion K} (h : m.rotation = m'.rotation) (v : Fin 3 → K) :
    m.apply v = m'.apply v ↔ m.translation = m'.translation := by
  unfold apply
  rw [h, add_right_inj]

/-- **A motion by an orthogonal matrix keeps distances.** -/
theorem apply_dist {m : Motion K} (h : m.rotation ∈ orthogonalGroup (Fin 3) K) (v w : Fin 3 → K) :
    (m.apply v - m.apply w) ⬝ᵥ (m.apply v - m.apply w) = (v - w) ⬝ᵥ (v - w) := by
  have hdiff : m.apply v - m.apply w = m.rotation *ᵥ (v - w) := by
    unfold apply
    rw [add_sub_add_right_eq_sub, mulVec_sub]
  have hone : m.rotationᵀ * m.rotation = 1 := (mem_orthogonalGroup_iff' _ _).mp h
  calc (m.apply v - m.apply w) ⬝ᵥ (m.apply v - m.apply w)
      = (m.rotation *ᵥ (v - w)) ⬝ᵥ (m.rotation *ᵥ (v - w)) := by rw [hdiff]
    _ = ((m.rotationᵀ * m.rotation) *ᵥ (v - w)) ⬝ᵥ (v - w) := by
      rw [dotProduct_mulVec, ← mulVec_transpose, mulVec_mulVec]
    _ = (v - w) ⬝ᵥ (v - w) := by rw [hone, one_mulVec]

end Motion

/-! ### Rotations -/

/-- The rotation about the first axis. -/
def rotX (cos sin : K) : Matrix (Fin 3) (Fin 3) K := !![1, 0, 0; 0, cos, -sin; 0, sin, cos]

/-- The rotation about the second axis. -/
def rotY (cos sin : K) : Matrix (Fin 3) (Fin 3) K := !![cos, 0, sin; 0, 1, 0; -sin, 0, cos]

/-- The rotation about the third axis. -/
def rotZ (cos sin : K) : Matrix (Fin 3) (Fin 3) K := !![cos, -sin, 0; sin, cos, 0; 0, 0, 1]

/-- The rotation by a roll, then a pitch, then a yaw. -/
def rotZYX (cosRoll sinRoll cosPitch sinPitch cosYaw sinYaw : K) : Matrix (Fin 3) (Fin 3) K :=
  rotZ cosYaw sinYaw * rotY cosPitch sinPitch * rotX cosRoll sinRoll

variable {cos sin : K}

theorem rotX_orthogonal (h : cos ^ 2 + sin ^ 2 = 1) : rotX cos sin ∈ orthogonalGroup (Fin 3) K := by
  rw [mem_orthogonalGroup_iff']
  ext i j
  fin_cases i <;> fin_cases j <;> simp [rotX, mul_apply, Fin.sum_univ_three] <;> grind

theorem rotY_orthogonal (h : cos ^ 2 + sin ^ 2 = 1) : rotY cos sin ∈ orthogonalGroup (Fin 3) K := by
  rw [mem_orthogonalGroup_iff']
  ext i j
  fin_cases i <;> fin_cases j <;> simp [rotY, mul_apply, Fin.sum_univ_three] <;> grind

theorem rotZ_orthogonal (h : cos ^ 2 + sin ^ 2 = 1) : rotZ cos sin ∈ orthogonalGroup (Fin 3) K := by
  rw [mem_orthogonalGroup_iff']
  ext i j
  fin_cases i <;> fin_cases j <;> simp [rotZ, mul_apply, Fin.sum_univ_three] <;> grind

/-- **The rotation by three angles is orthogonal.** -/
theorem rotZYX_orthogonal {cosRoll sinRoll cosPitch sinPitch cosYaw sinYaw : K}
    (hroll : cosRoll ^ 2 + sinRoll ^ 2 = 1) (hpitch : cosPitch ^ 2 + sinPitch ^ 2 = 1)
    (hyaw : cosYaw ^ 2 + sinYaw ^ 2 = 1) :
    rotZYX cosRoll sinRoll cosPitch sinPitch cosYaw sinYaw ∈ orthogonalGroup (Fin 3) K :=
  mul_mem (mul_mem (rotZ_orthogonal hyaw) (rotY_orthogonal hpitch)) (rotX_orthogonal hroll)

/-- The entries of the rotation by three angles. -/
theorem rotZYX_eq (cosRoll sinRoll cosPitch sinPitch cosYaw sinYaw : K) :
    rotZYX cosRoll sinRoll cosPitch sinPitch cosYaw sinYaw =
      !![cosPitch * cosYaw, sinRoll * sinPitch * cosYaw - cosRoll * sinYaw,
          cosRoll * sinPitch * cosYaw + sinRoll * sinYaw;
        cosPitch * sinYaw, sinRoll * sinPitch * sinYaw + cosRoll * cosYaw,
          cosRoll * sinPitch * sinYaw - sinRoll * cosYaw;
        -sinPitch, sinRoll * cosPitch, cosRoll * cosPitch] := by
  unfold rotZYX rotX rotY rotZ
  ext i j
  fin_cases i <;> fin_cases j <;> simp [mul_apply, Fin.sum_univ_three] <;> ring

end SensorSupport
