import Mathlib.Analysis.Real.Sqrt
import SceneRenderer.Packing.Normals
import SceneRenderer.Proofs.Numeric.Exact

/-!
Octahedral coordinates keep directions. A direction is divided by the sum of its absolute
coordinates, which leads to the octahedron, and the normalization ahead of that changes nothing.
Folding is undone by folding again (`fold_fold`), so that the point of the octahedron is found from
its coordinates (`onOctahedron_toSquare`) in both halves and wherever they meet.

The main statement is `decodeOctahedral_encodeOctahedral`.
-/

set_option autoImplicit false
set_option relaxedAutoImplicit false

namespace SceneRenderer

noncomputable section

/-! ### Directions -/

namespace Vec3

variable {d : Vec3 ℝ} {r : ℝ}

/-- The sum of the absolute coordinates. -/
def taxicab (d : Vec3 ℝ) : ℝ := |d.x| + |d.y| + |d.z|

theorem exists_ne_zero (hd : d ≠ zero) : d.x ≠ 0 ∨ d.y ≠ 0 ∨ d.z ≠ 0 := by
  obtain ⟨x, y, z⟩ := d
  by_contra! hnone
  obtain ⟨rfl, rfl, rfl⟩ := hnone
  exact hd (by simp [zero, splat])

theorem taxicab_pos (hd : d ≠ zero) : 0 < d.taxicab := by
  unfold taxicab
  rcases exists_ne_zero hd with hx | hy | hz <;> positivity

theorem dot_self_pos (hd : d ≠ zero) : 0 < d.dot d := by
  have hsquares : d.dot d = d.x ^ 2 + d.y ^ 2 + d.z ^ 2 := by
    rw [dot, sq, sq, sq]
  rw [hsquares]
  rcases exists_ne_zero hd with hx | hy | hz <;> positivity

theorem scale_one_div (d : Vec3 ℝ) (r : ℝ) : d.scale (1 / r) = d.divBy r := by
  simp only [scale, divBy, mul_one_div]

theorem scale_scale (d : Vec3 ℝ) (r s : ℝ) : (d.scale r).scale s = d.scale (r * s) := by
  simp only [scale, mul_assoc]

theorem scale_ne_zero (hd : d ≠ zero) (hr : 0 < r) : d.scale r ≠ zero := by
  obtain ⟨x, y, z⟩ := d
  simpa [scale, zero, splat, hr.ne'] using hd

theorem dot_scale (d : Vec3 ℝ) (r : ℝ) : (d.scale r).dot (d.scale r) = r ^ 2 * d.dot d := by
  simp only [dot, scale]
  ring

theorem taxicab_scale (d : Vec3 ℝ) (hr : 0 < r) : (d.scale r).taxicab = d.taxicab * r := by
  simp only [taxicab, scale, abs_mul, abs_of_pos hr]
  ring

/-- Only the direction is left on the octahedron. -/
theorem divBy_taxicab_scale (d : Vec3 ℝ) (hr : 0 < r) :
    (d.scale r).divBy (d.scale r).taxicab = d.divBy d.taxicab := by
  rw [taxicab_scale d hr]
  simp only [divBy, scale, mul_div_mul_right _ _ hr.ne']

theorem taxicab_divBy (hd : d ≠ zero) : (d.divBy d.taxicab).taxicab = 1 := by
  have hpos := taxicab_pos hd
  rw [← scale_one_div, taxicab_scale d (one_div_pos.mpr hpos), mul_one_div_cancel hpos.ne']

theorem normalizeOrZero_eq (hd : d ≠ zero) : d.normalizeOrZero = d.divBy √(d.dot d) := by
  have hpos : (0 : ℝ) < 1 / √(d.dot d) := one_div_pos.mpr (Real.sqrt_pos.mpr (dot_self_pos hd))
  have hsqrt : Scalar.sqrt (d.dot d) = √(d.dot d) := rfl
  have hfinite : Scalar.isFinite (1 / √(d.dot d)) = true := rfl
  rw [← scale_one_div, normalizeOrZero]
  simp only [Scalar.exact_one, Scalar.exact_zero, hsqrt, hfinite, hpos, decide_true, Bool.and_self,
    if_true]

/-- Vectors of one direction are normalized alike. -/
theorem normalizeOrZero_scale (hd : d ≠ zero) (hr : 0 < r) :
    (d.scale r).normalizeOrZero = d.normalizeOrZero := by
  have hlength : r * (1 / (r * √(d.dot d))) = 1 / √(d.dot d) := by
    rw [mul_one_div, div_mul_cancel_left₀ hr.ne', one_div]
  rw [normalizeOrZero_eq (scale_ne_zero hd hr), normalizeOrZero_eq hd, dot_scale,
    Real.sqrt_mul (sq_nonneg r), Real.sqrt_sq hr.le, ← scale_one_div, ← scale_one_div, scale_scale,
    hlength]

theorem dot_normalizeOrZero (hd : d ≠ zero) : d.normalizeOrZero.dot d.normalizeOrZero = 1 := by
  have hpos := dot_self_pos hd
  rw [normalizeOrZero_eq hd, ← scale_one_div, dot_scale, div_pow, Real.sq_sqrt hpos.le, one_pow,
    one_div_mul_cancel hpos.ne']

end Vec3

/-! ### Folding -/

theorem Scalar.signOf_of_nonneg {x : ℝ} (hx : 0 ≤ x) : signOf x = 1 := by
  simp [signOf, hx]

theorem Scalar.signOf_of_neg {x : ℝ} (hx : x < 0) : signOf x = -1 := by
  simp [signOf, hx]

namespace Packing

/-- Inside of the square a folded coordinate keeps its sign, also where it is zero. -/
theorem fold_coordinate {u v : ℝ} (hv : |v| < 1) :
    |(1 - |v|) * Scalar.signOf u| = 1 - |v| ∧
      Scalar.signOf ((1 - |v|) * Scalar.signOf u) = Scalar.signOf u ∧
      |u| * Scalar.signOf u = u := by
  have hpos : 0 < 1 - |v| := sub_pos.mpr hv
  rcases le_or_gt 0 u with hu | hu
  · rw [Scalar.signOf_of_nonneg hu, mul_one, mul_one, abs_of_pos hpos, abs_of_nonneg hu]
    exact ⟨rfl, Scalar.signOf_of_nonneg hpos.le, rfl⟩
  · rw [Scalar.signOf_of_neg hu, mul_neg_one, mul_neg_one, abs_neg, abs_of_pos hpos, abs_of_neg hu,
      neg_neg]
    exact ⟨rfl, Scalar.signOf_of_neg (neg_neg_of_pos hpos), rfl⟩

section Fold

variable {p : Vec2 ℝ} (hx : |p.x| < 1) (hy : |p.y| < 1)

include hx hy

theorem abs_fold : |(fold p).x| = 1 - |p.y| ∧ |(fold p).y| = 1 - |p.x| := by
  simp only [fold, Scalar.exact_abs, Scalar.exact_one]
  exact ⟨(fold_coordinate hy).1, (fold_coordinate hx).1⟩

theorem fold_fold : fold (fold p) = p := by
  obtain ⟨u, v⟩ := p
  obtain ⟨habs, hsign, hu⟩ := fold_coordinate (u := u) hy
  obtain ⟨habs', hsign', hv⟩ := fold_coordinate (u := v) hx
  simp [fold, habs, habs', hsign, hsign', hu, hv]

end Fold

/-! ### The octahedron -/

/-- The coordinates of a point of the octahedron. -/
def toSquare (q : Vec3 ℝ) : Vec2 ℝ := if q.z < 0 then fold ⟨q.x, q.y⟩ else ⟨q.x, q.y⟩

section Point

variable {q : Vec3 ℝ} (hq : q.taxicab = 1)

include hq

/-- In the lower half no other coordinate reaches one, so that folding can be undone. -/
theorem abs_lt_one_of_neg (hz : q.z < 0) : |q.x| < 1 ∧ |q.y| < 1 := by
  have hx := abs_nonneg q.x
  have hy := abs_nonneg q.y
  have hlower := abs_pos.mpr hz.ne
  unfold Vec3.taxicab at hq
  constructor <;> linarith

theorem abs_toSquare_le : |(toSquare q).x| ≤ 1 ∧ |(toSquare q).y| ≤ 1 := by
  have hx := abs_nonneg q.x
  have hy := abs_nonneg q.y
  unfold toSquare
  split
  · rename_i hz
    obtain ⟨hu, hv⟩ := abs_lt_one_of_neg hq hz
    obtain ⟨hfold, hfold'⟩ := abs_fold (p := ⟨q.x, q.y⟩) hu hv
    rw [hfold, hfold']
    constructor <;> linarith
  · have hz := abs_nonneg q.z
    unfold Vec3.taxicab at hq
    constructor <;> linarith

/-- A point of the octahedron is found from its coordinates. -/
theorem onOctahedron_toSquare : onOctahedron (toSquare q) = q := by
  unfold toSquare
  split
  · rename_i hz
    obtain ⟨hu, hv⟩ := abs_lt_one_of_neg hq hz
    obtain ⟨hfold, hfold'⟩ := abs_fold (p := ⟨q.x, q.y⟩) hu hv
    have hheight : 1 - |(fold ⟨q.x, q.y⟩ : Vec2 ℝ).x| - |(fold ⟨q.x, q.y⟩ : Vec2 ℝ).y| = q.z := by
      have hlower := abs_of_neg hz
      unfold Vec3.taxicab at hq
      rw [hfold, hfold']
      linarith
    simp [onOctahedron, hheight, hz, fold_fold (p := ⟨q.x, q.y⟩) hu hv]
  · rename_i hz
    have hheight : 1 - |q.x| - |q.y| = q.z := by
      have hupper := abs_of_nonneg (not_lt.mp hz)
      unfold Vec3.taxicab at hq
      linarith
    simp [onOctahedron, hheight, hz]

end Point

/-! ### Coordinates of a direction -/

/-- The normalization ahead of the projection does not change its coordinates. -/
theorem encodeOctahedral_eq {d : Vec3 ℝ} (hd : d ≠ .zero) :
    encodeOctahedral d = toSquare (d.divBy d.taxicab) := by
  have hr : 0 < 1 / √(d.dot d) := one_div_pos.mpr (Real.sqrt_pos.mpr (Vec3.dot_self_pos hd))
  have hpos := Vec3.taxicab_pos (Vec3.scale_ne_zero hd hr)
  rw [← Vec3.divBy_taxicab_scale d hr, encodeOctahedral, Vec3.normalizeOrZero_eq hd,
    ← Vec3.scale_one_div]
  generalize d.scale (1 / √(d.dot d)) = e at hpos
  have hnorm : |e.x| + |e.y| + |e.z| = e.taxicab := rfl
  have hz : e.z / e.taxicab < 0 ↔ e.z < 0 := by
    rw [div_lt_iff₀ hpos, zero_mul]
  simp only [Scalar.exact_abs, hnorm, Scalar.exact_zero, beq_iff_eq, hpos.ne', if_false, toSquare,
    Vec3.divBy, hz]

/-- The coordinates of a direction lie in the square between minus one and one, and lead back to the
direction: first to its point on the octahedron, then to its unit vector. -/
theorem decodeOctahedral_encodeOctahedral (d : Vec3 ℝ) (hd : d ≠ .zero) :
    (|(encodeOctahedral d).x| ≤ 1 ∧ |(encodeOctahedral d).y| ≤ 1) ∧
      onOctahedron (encodeOctahedral d) = d.divBy (|d.x| + |d.y| + |d.z|) ∧
      decodeOctahedral (encodeOctahedral d) = d.divBy √(d.dot d) ∧
      (decodeOctahedral (encodeOctahedral d)).dot (decodeOctahedral (encodeOctahedral d)) = 1 := by
  have hq := Vec3.taxicab_divBy hd
  have hdecode : decodeOctahedral (encodeOctahedral d) = d.normalizeOrZero := by
    rw [encodeOctahedral_eq hd, decodeOctahedral, onOctahedron_toSquare hq, ← Vec3.scale_one_div,
      Vec3.normalizeOrZero_scale hd (one_div_pos.mpr (Vec3.taxicab_pos hd))]
  rw [hdecode, Vec3.dot_normalizeOrZero hd, Vec3.normalizeOrZero_eq hd, encodeOctahedral_eq hd,
    onOctahedron_toSquare hq]
  exact ⟨abs_toSquare_le hq, rfl, rfl, rfl⟩

/-- A direction of the lower half, on a fold. -/
theorem decodeOctahedral_encodeOctahedral_fold :
    (⟨0, -3, -4⟩ : Vec3 ℝ) ≠ .zero ∧
      onOctahedron (encodeOctahedral (⟨0, -3, -4⟩ : Vec3 ℝ)) = ⟨0, -3 / 7, -4 / 7⟩ ∧
      decodeOctahedral (encodeOctahedral (⟨0, -3, -4⟩ : Vec3 ℝ)) = ⟨0, -3 / 5, -4 / 5⟩ := by
  have hd : (⟨0, -3, -4⟩ : Vec3 ℝ) ≠ .zero := by
    simp [Vec3.zero, Vec3.splat]
  obtain ⟨-, hpoint, hunit, -⟩ := decodeOctahedral_encodeOctahedral ⟨0, -3, -4⟩ hd
  have hsum : |(0 : ℝ)| + |(-3 : ℝ)| + |(-4 : ℝ)| = 7 := by norm_num
  have hlength : √((⟨0, -3, -4⟩ : Vec3 ℝ).dot ⟨0, -3, -4⟩) = 5 := by
    rw [Vec3.dot, Real.sqrt_eq_iff_mul_self_eq_of_pos (by norm_num)]
    norm_num
  refine ⟨hd, ?_, ?_⟩
  · rw [hpoint, hsum]
    simp [Vec3.divBy]
  · rw [hunit, hlength]
    simp [Vec3.divBy]

end Packing

end

end SceneRenderer
