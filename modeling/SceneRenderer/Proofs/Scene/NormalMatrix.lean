import Mathlib.LinearAlgebra.Matrix.Adjugate
import Mathlib.LinearAlgebra.Matrix.NonsingularInverse
import SceneRenderer.Proofs.Numeric.Exact
import SceneRenderer.Scene.State

/-!
Matrices that carry normals. In exact arithmetic the adjugate and the inverse are those of linear
algebra, so that normals are carried by the transposed inverse of every matrix whose determinant is
farther from zero than epsilon. The others count as singular and leave normals as they are; some of
them have an inverse (`exists_invertible_replaced`).

The main statement is `normalMatrix_carriesNormals`.
-/

set_option autoImplicit false
set_option relaxedAutoImplicit false

namespace SceneRenderer

/-! ### Matrices of linear algebra -/

namespace Mat4

variable {α : Type}

/-- The entries by row and column. -/
def toMatrix (m : Mat4 α) : Matrix (Fin 4) (Fin 4) α :=
  !![m.x.x, m.y.x, m.z.x, m.w.x;
    m.x.y, m.y.y, m.z.y, m.w.y;
    m.x.z, m.y.z, m.z.z, m.w.z;
    m.x.w, m.y.w, m.z.w, m.w.w]

theorem toMatrix_transpose (m : Mat4 α) : m.transpose.toMatrix = m.toMatrix.transpose := by
  ext row column
  fin_cases row <;> fin_cases column <;> simp [toMatrix, transpose]

variable (m : Mat4 ℝ)

theorem toMatrix_identity : (identity : Mat4 ℝ).toMatrix = 1 := by
  ext row column
  fin_cases row <;> fin_cases column <;> simp [toMatrix, identity]

theorem determinant_eq_det : m.determinant = m.toMatrix.det := by
  simp [Matrix.det_succ_row_zero, Fin.sum_univ_succ, Fin.succAbove, toMatrix, determinant,
    firstCofactors, minor, Vec4.get, Vec4.pairedDot]
  ring

theorem toMatrix_adjugate : m.adjugate.toMatrix = m.toMatrix.adjugate := by
  ext row column
  simp only [adjugate, minorLanes, pivotLanes, minor, Vec4.get, Vec4.mk_add_mk, Vec4.mk_sub_mk,
    Vec4.mk_mul_mk, Scalar.exact_one, Matrix.adjugate_fin_succ_eq_det_submatrix,
    Matrix.det_fin_three]
  fin_cases row <;> fin_cases column
  all_goals
    simp [toMatrix, Fin.succAbove]
    ring

/-- The first column of the matrix meets the first row of its adjugate in the determinant. -/
theorem pairedDot_adjugate :
    m.x.pairedDot ⟨m.adjugate.x.x, m.adjugate.y.x, m.adjugate.z.x, m.adjugate.w.x⟩ =
      m.determinant := by
  simp only [adjugate, minorLanes, pivotLanes, minor, Vec4.get, Vec4.mk_add_mk, Vec4.mk_sub_mk,
    Vec4.mk_mul_mk, Scalar.exact_one, Vec4.pairedDot, determinant, firstCofactors]
  ring

theorem toMatrix_inverse : m.inverse.toMatrix = m.toMatrix⁻¹ := by
  have hscaled : m.inverse.toMatrix = (1 / m.determinant) • m.adjugate.toMatrix := by
    rw [← pairedDot_adjugate]
    ext row column
    fin_cases row <;> fin_cases column <;>
      simp [inverse, toMatrix, Vec4.scale, mul_comm]
  rw [hscaled, determinant_eq_det, toMatrix_adjugate, Matrix.inv_def, Ring.inverse_eq_inv, one_div]

/-! ### Normals -/

/-- The transposed inverse, by which normals stay upright on what the matrix carries. -/
def CarriesNormals (n m : Mat4 ℝ) : Prop :=
  n.toMatrix = m.toMatrix⁻¹.transpose ∧ n.toMatrix.transpose * m.toMatrix = 1

variable {m}

theorem normalMatrix_of_le (hm : |m.toMatrix.det| ≤ Scalar.epsilon) :
    m.normalMatrix = identity := by
  rw [normalMatrix, determinant_eq_det]
  exact if_pos hm

theorem carriesNormals_of_lt (hm : Scalar.epsilon < |m.toMatrix.det|) :
    m.normalMatrix.CarriesNormals m := by
  have hepsilon : (0 : ℝ) < Scalar.epsilon := by
    change (0 : ℝ) < 1 / 2 ^ 23
    norm_num
  have hunit : IsUnit m.toMatrix.det := isUnit_iff_ne_zero.mpr (abs_pos.mp (hepsilon.trans hm))
  have hnormal : m.normalMatrix.toMatrix = m.toMatrix⁻¹.transpose := by
    rw [← toMatrix_inverse, ← toMatrix_transpose, normalMatrix, determinant_eq_det]
    exact congrArg toMatrix (if_neg (not_le.mpr hm))
  refine ⟨hnormal, ?_⟩
  rw [hnormal, Matrix.transpose_transpose, Matrix.nonsing_inv_mul _ hunit]

variable (m)

/-- Normals are carried by the transposed inverse of a matrix whose determinant is farther from zero
than epsilon, and are left as they are by the others; so for models and for views. -/
theorem normalMatrix_carriesNormals (id : TransformId) (projection : Mat4 ℝ) :
    (Scalar.epsilon < |m.toMatrix.det| →
      m.normalMatrix.CarriesNormals m ∧ (Transform.mk id m).normalMatrix.CarriesNormals m ∧
        (Camera.mk m projection).viewNormalMatrix.CarriesNormals m) ∧
    (|m.toMatrix.det| ≤ Scalar.epsilon →
      m.normalMatrix = identity ∧ (Transform.mk id m).normalMatrix = identity ∧
        (Camera.mk m projection).viewNormalMatrix = identity) := by
  constructor
  · intro hm
    exact ⟨carriesNormals_of_lt hm, carriesNormals_of_lt hm, carriesNormals_of_lt hm⟩
  · intro hm
    exact ⟨normalMatrix_of_le hm, normalMatrix_of_le hm, normalMatrix_of_le hm⟩

/-- A quarter turn about the third axis at a scale. -/
def turned (scale : ℝ) : Mat4 ℝ :=
  ⟨⟨0, scale, 0, 0⟩, ⟨-scale, 0, 0, 0⟩, ⟨0, 0, scale, 0⟩, ⟨0, 0, 0, 1⟩⟩

theorem det_turned (scale : ℝ) : (turned scale).toMatrix.det = scale ^ 3 := by
  rw [← determinant_eq_det]
  simp only [turned, determinant, firstCofactors, minor, Vec4.get, Vec4.pairedDot]
  ring

theorem normalMatrix_carriesNormals_turned :
    Scalar.epsilon < |(turned 2).toMatrix.det| ∧ (turned 2).normalMatrix.CarriesNormals (turned 2) ∧
      (Transform.mk ⟨1⟩ (turned 2)).normalMatrix.CarriesNormals (turned 2) ∧
        (Camera.mk (turned 2) .identity).viewNormalMatrix.CarriesNormals (turned 2) := by
  have hdet : Scalar.epsilon < |(turned 2).toMatrix.det| := by
    rw [det_turned]
    change (1 / 2 ^ 23 : ℝ) < _
    norm_num
  exact ⟨hdet, (normalMatrix_carriesNormals (turned 2) ⟨1⟩ .identity).1 hdet⟩

/-- A small turned model has an inverse, and its normals are not turned. -/
theorem exists_invertible_replaced : ∃ m : Mat4 ℝ, m.toMatrix.det ≠ 0 ∧
    m.normalMatrix = identity ∧ ¬m.normalMatrix.CarriesNormals m ∧
    (∀ id, ¬(Transform.mk id m).normalMatrix.CarriesNormals m) ∧
    ∀ projection, ¬(Camera.mk m projection).viewNormalMatrix.CarriesNormals m := by
  have hdet : |(turned (1 / 256)).toMatrix.det| ≤ Scalar.epsilon := by
    rw [det_turned]
    change _ ≤ (1 / 2 ^ 23 : ℝ)
    norm_num
  have hreplaced : ¬(turned (1 / 256)).normalMatrix.CarriesNormals (turned (1 / 256)) := by
    rintro ⟨-, hone⟩
    rw [normalMatrix_of_le hdet, toMatrix_identity, Matrix.transpose_one, one_mul] at hone
    have hcorner := congrFun (congrFun hone 0) 0
    simp [toMatrix, turned] at hcorner
  refine ⟨turned (1 / 256), ?_, normalMatrix_of_le hdet, hreplaced, fun _ ↦ hreplaced,
    fun _ ↦ hreplaced⟩
  rw [det_turned]
  norm_num

end Mat4

end SceneRenderer
