import Mathlib.Analysis.Real.Sqrt
import Mathlib.Data.Rat.Sqrt
import SceneRenderer.Numeric.Vector
import SceneRenderer.Proofs.Numeric.Precision

/-!
Exact arithmetic. The operations of an ordered field take the place of rounded ones, so that a law
of the geometry code stands apart from the rounding of its steps. Thresholds stay those of single
precision (`exactValue_limits`), and every number that is stored lies within them
(`abs_exactValue_le`).
-/

set_option autoImplicit false
set_option relaxedAutoImplicit false

namespace SceneRenderer

/-! ### Fields -/

namespace Scalar

variable {K : Type} [Field K] [LinearOrder K] [FloorRing K]

/-- Drops the fraction. -/
def truncate (x : K) : ℤ := if 0 ≤ x then ⌊x⌋ else ⌈x⌉

/-- The nearest whole number; a half goes away from zero. -/
def roundAway (x : K) : ℤ := if 0 ≤ x then ⌊x + 1 / 2⌋ else ⌈x - 1 / 2⌉

/-- The arithmetic of an ordered field with some square root. -/
@[reducible]
def exact (root : K → K) : Scalar K where
  decLt := inferInstance
  decLe := inferInstance
  abs x := |x|
  sqrt := root
  round x := roundAway x
  largest := (2 ^ 24 - 1) * 2 ^ 104
  epsilon := 1 / 2 ^ 23
  isFinite _ := true
  ofInt8 b := b.toInt
  ofUInt16 w := w.toNat
  toInt8 x := Int8.ofInt (max (-128) (min (truncate x) 127))
  toUInt8 x := UInt8.ofNat (min (truncate x).toNat 255)
  toUInt16 x := UInt16.ofNat (min (truncate x).toNat 65535)

noncomputable instance : Scalar ℝ := exact Real.sqrt

instance : Scalar ℚ := exact Rat.sqrt

section Rules

variable (root : K → K)

@[simp]
theorem exact_zero : @OfScientific.ofScientific K (exact root).toOfScientific 0 true 1 = 0 := by
  norm_num

@[simp]
theorem exact_one : @OfScientific.ofScientific K (exact root).toOfScientific 10 true 1 = 1 := by
  norm_num

@[simp]
theorem exact_steps :
    @OfScientific.ofScientific K (exact root).toOfScientific 655350 true 1 = 65535 := by
  norm_num

@[simp]
theorem exact_abs (x : K) : @Scalar.abs K (exact root) x = |x| := rfl

theorem exact_lesser (a b : K) : @Scalar.lesser K (exact root) a b = min a b :=
  (min_def_lt a b).symm

theorem exact_greater (a b : K) : @Scalar.greater K (exact root) a b = max a b := by
  rw [max_comm, max_def_lt]
  rfl

end Rules

end Scalar

/-! ### Components -/

section Components

variable {α : Type} [Scalar α] (x y z w x' y' z' w' : α)

@[simp]
theorem Vec2.mk_sub_mk : (⟨x, y⟩ - ⟨x', y'⟩ : Vec2 α) = ⟨x - x', y - y'⟩ := rfl

@[simp]
theorem Vec3.mk_sub_mk : (⟨x, y, z⟩ - ⟨x', y', z'⟩ : Vec3 α) = ⟨x - x', y - y', z - z'⟩ := rfl

@[simp]
theorem Vec3.mk_add_mk : (⟨x, y, z⟩ + ⟨x', y', z'⟩ : Vec3 α) = ⟨x + x', y + y', z + z'⟩ := rfl

@[simp]
theorem Vec4.mk_add_mk :
    (⟨x, y, z, w⟩ + ⟨x', y', z', w'⟩ : Vec4 α) = ⟨x + x', y + y', z + z', w + w'⟩ := rfl

@[simp]
theorem Vec4.mk_sub_mk :
    (⟨x, y, z, w⟩ - ⟨x', y', z', w'⟩ : Vec4 α) = ⟨x - x', y - y', z - z', w - w'⟩ := rfl

@[simp]
theorem Vec4.mk_mul_mk :
    (⟨x, y, z, w⟩ * ⟨x', y', z', w'⟩ : Vec4 α) = ⟨x * x', y * y', z * z', w * w'⟩ := rfl

end Components

/-! ### Stored numbers -/

open Float.Model (UnpackedFloat)
open Float.Model.UnpackedFloat (unpackExponent)

/-- The number that is stored. Zero stands for what is infinite or undefined. -/
def exactValue (x : Float32) : ℚ :=
  match x.toModel.unpack with
  | .finite sign mantissa exponent _ => (sign.apply mantissa : ℤ) * 2 ^ exponent
  | _ => 0

theorem canonical_of_unpack_finite {x : Float32} {sign : Float.Model.UnpackedFloat.Sign}
    {mantissa : ℕ} {exponent : ℤ} {hpos : 0 < mantissa}
    (hx : x.toModel.unpack = .finite sign mantissa exponent hpos) :
    Canonical .binary32 (.finite sign mantissa exponent hpos) := by
  obtain ⟨⟨bits, _⟩⟩ := x
  change UnpackedFloat.unpack .binary32 bits.toBitVec = _ at hx
  have hfinite : @unpackExponent .binary32 bits.toBitVec ≠ -1#8 := by
    intro hinfinite
    simp only [UnpackedFloat.unpack, hinfinite, if_true] at hx
    split at hx <;> cases hx
  rw [← hx]
  exact (pack_unpack (by decide) hfinite).1

/-- Stored numbers lie within the greatest finite one. -/
theorem abs_exactValue_le (x : Float32) : |exactValue x| ≤ Scalar.largest := by
  have hlargest : (Scalar.largest : ℚ) = (2 ^ 24 - 1) * 2 ^ 104 := rfl
  unfold exactValue
  split
  · rename_i sign mantissa exponent hpos hx
    obtain ⟨hlog, -, hmax, -⟩ := canonical_of_unpack_finite hx
    have hmantissa : mantissa < 2 ^ 24 := (Nat.log2_lt hpos.ne').mp (Nat.lt_succ_of_le hlog)
    have hexponent : exponent ≤ 104 := hmax
    have hsign : |((sign.apply mantissa : ℤ) : ℚ)| = mantissa := by
      cases sign <;> simp [Float.Model.UnpackedFloat.Sign.apply]
    have hfirst : (mantissa : ℚ) ≤ 2 ^ 24 - 1 := by
      rw [le_sub_iff_add_le]
      exact_mod_cast hmantissa
    have hsecond : (2 : ℚ) ^ exponent ≤ 2 ^ 104 := by
      exact_mod_cast zpow_le_zpow_right₀ (by norm_num : (1 : ℚ) ≤ 2) hexponent
    rw [abs_mul, hsign, abs_of_pos (by positivity : (0 : ℚ) < 2 ^ exponent), hlargest]
    exact mul_le_mul hfirst hsecond (by positivity) (by norm_num)
  · rw [abs_zero, hlargest]
    norm_num

/-- The thresholds of exact arithmetic are the numbers that are stored for them. -/
theorem exactValue_limits :
    exactValue Scalar.largest = Scalar.largest ∧ exactValue Scalar.epsilon = Scalar.epsilon := by
  have hlargest : exactValue (Float32.ofBits 0x7f7fffff) =
      ((2 ^ 24 - 1 : ℤ) : ℚ) * 2 ^ (104 : ℤ) := rfl
  have hepsilon : exactValue (Float32.ofBits 0x34000000) =
      ((2 ^ 23 : ℤ) : ℚ) * 2 ^ (-46 : ℤ) := rfl
  constructor
  · refine hlargest.trans ?_
    change _ = ((2 ^ 24 - 1) * 2 ^ 104 : ℚ)
    norm_num
  · refine hepsilon.trans ?_
    change _ = (1 / 2 ^ 23 : ℚ)
    norm_num

end SceneRenderer
