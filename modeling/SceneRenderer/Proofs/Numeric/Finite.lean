import Mathlib.Algebra.GroupWithZero.Nat
import Mathlib.Data.Nat.Log
import SceneRenderer.Proofs.Numeric.Precision

/-!
Finite, infinite and zero numbers in single precision. Rounding a number of 32 bits leaves an
exponent far below the greatest one, so that the result is finite. A number is determined by its
unpacked form (`eq_of_unpack_eq`), so that there are two infinities and two zeros; and every number
but the undefined one equals itself.
-/

set_option autoImplicit false
set_option relaxedAutoImplicit false

namespace SceneRenderer

open Float.Model (Format UnpackedFloat totalExponent)
open Float.Model.UnpackedFloat hiding unpack pack round

/-! ### Rounding -/

theorem mantissaBits_binary32 : Format.binary32.mantissaBits = 24 := rfl

theorem mantissa_shiftRight_le (em : ExtendedMantissa) (n : Nat) :
    (em >>> n).mantissa ≤ em.mantissa := by
  change (n.repeat ExtendedMantissa.shiftRightOne em).mantissa ≤ em.mantissa
  induction n with
  | zero => exact Nat.le_refl _
  | succ n ih => exact (Nat.div_le_self _ 2).trans ih

theorem roundedMantissa_le (em : ExtendedMantissa) : em.roundedMantissa ≤ em.mantissa + 1 := by
  obtain ⟨mantissa, roundBit, stickyBit⟩ := em
  cases roundBit <;> cases stickyBit
  all_goals
    simp only [ExtendedMantissa.roundedMantissa, ExtendedMantissa.accuracy,
      Accuracy.roundToNearestEven]
    omega

theorem mantissa_ofMantissaAndAccuracy (mantissa : Nat) (accuracy : Accuracy) :
    (ExtendedMantissa.ofMantissaAndAccuracy mantissa accuracy).mantissa = mantissa := by
  rcases accuracy with _ | _ | _ | _ <;> rfl

/-- Dropping bits raises the exponent by no more than there are bits. -/
theorem shiftToTargetExponent_le {mantissa bits : Nat} (exponent : Int) (accuracy : Accuracy)
    (hmantissa : mantissa < 2 ^ bits) (hbits : 24 ≤ bits) :
    (shiftToTargetExponent .binary32 mantissa exponent accuracy).1.mantissa ≤ mantissa ∧
      (shiftToTargetExponent .binary32 mantissa exponent accuracy).2 ≤
        max (exponent + bits - 24) (-149) := by
  constructor
  · refine (mantissa_shiftRight_le _ _).trans ?_
    rw [mantissa_ofMantissaAndAccuracy]
  · have hlog : mantissa.log2 < bits := by
      by_cases hzero : mantissa = 0
      · rw [hzero, Nat.log2_zero]
        omega
      · exact (Nat.log2_lt hzero).mpr hmantissa
    simp only [shiftToTargetExponent, shiftToExponent, Format.targetExponent, totalExponent,
      mantissaBits_binary32, Format.minExponent]
    omega

/-! ### Finite numbers -/

/-- A number with an exponent below the greatest one. -/
def BelowInfinity : UnpackedFloat → Prop
  | .zero _ => True
  | .finite _ _ exponent _ => exponent < 105
  | _ => False

theorem isFinite_unpack {b : BitVec 32} (h : @unpackExponent .binary32 b ≠ -1#8) :
    (UnpackedFloat.unpack .binary32 b).isFinite = true := by
  unfold UnpackedFloat.unpack
  dsimp only
  rw [if_neg h]
  by_cases hexponent : @unpackExponent .binary32 b = 0#8
  · rw [if_pos hexponent]
    by_cases hmantissa : @unpackMantissa .binary32 b = 0#23
    · rw [dif_pos hmantissa]
      rfl
    · rw [dif_neg hmantissa]
      rfl
  · rw [if_neg hexponent]
    rfl

theorem isFinite_pack {u : UnpackedFloat} (hu : BelowInfinity u) :
    (Float32.Model.pack u).isFinite = true := by
  have hunpack {sign : Sign} {exponent : BitVec 8} {mantissa : BitVec 23} (h : exponent ≠ -1#8) :
      (UnpackedFloat.unpack .binary32 (packComponents .binary32 sign exponent mantissa)).isFinite =
        true := by
    refine isFinite_unpack ?_
    rwa [unpackExponent_packComponents]
  change (UnpackedFloat.unpack .binary32 (UnpackedFloat.pack .binary32 u)).isFinite = true
  cases u with
  | infinity sign => exact hu.elim
  | notANumber => exact hu.elim
  | zero sign => exact hunpack (by decide)
  | finite sign mantissa exponent hpos =>
    have hexponent : exponent < 105 := hu
    have hbias : (Format.binary32.exponentBias : Int) = 127 := rfl
    have hbiased : (exponent + 127 + 23).toNat < 255 := by omega
    have hcode : BitVec.ofNat 8 (exponent + 127 + 23).toNat ≠ -1#8 := by
      intro heq
      have hcode := congrArg BitVec.toNat heq
      rw [BitVec.toNat_ofNat, Nat.mod_eq_of_lt (by omega)] at hcode
      exact absurd hcode hbiased.ne
    unfold UnpackedFloat.pack
    dsimp only
    rw [hbias]
    split_ifs
    · omega
    · exact hunpack hcode
    · exact hunpack (by decide)

theorem belowInfinity_roundWithAccuracy (sign : Sign) {mantissa : Nat} {exponent : Int}
    (hmantissa : mantissa < 2 ^ 55) (hexponent : exponent ≤ 0) :
    BelowInfinity (roundWithAccuracy .binary32 sign mantissa exponent .exact) := by
  obtain ⟨hm, he⟩ := shiftToTargetExponent_le exponent .exact hmantissa (by decide)
  unfold roundWithAccuracy
  dsimp only
  generalize shiftToTargetExponent .binary32 mantissa exponent .exact = first at *
  have hrounded : first.1.roundedMantissa < 2 ^ 56 := by
    have := roundedMantissa_le first.1
    omega
  obtain ⟨-, hlast⟩ := shiftToTargetExponent_le first.2 .exact hrounded (by decide)
  generalize shiftToTargetExponent .binary32 first.1.roundedMantissa first.2 .exact = last at *
  by_cases hzero : last.1.mantissa = 0
  · rw [dif_pos hzero]
    trivial
  · rw [dif_neg hzero]
    change last.2 < 105
    omega

theorem belowInfinity_round (sign : Sign) {mantissa : Nat} (hmantissa : mantissa < 2 ^ 32) :
    BelowInfinity (UnpackedFloat.round .binary32 sign mantissa 0) := by
  simp only [UnpackedFloat.round, decreaseExponent]
  refine belowInfinity_roundWithAccuracy sign ?_ (by omega)
  have hshift : (0 - Format.binary32.targetExponent (totalExponent mantissa 0)).toNat ≤ 23 := by
    simp only [Format.targetExponent, totalExponent, mantissaBits_binary32]
    omega
  rw [Nat.shiftLeft_eq]
  calc mantissa * 2 ^ (0 - Format.binary32.targetExponent (totalExponent mantissa 0)).toNat
    _ ≤ mantissa * 2 ^ 23 := Nat.mul_le_mul_left _ (Nat.pow_le_pow_right (by decide) hshift)
    _ < 2 ^ 55 := by omega

/-- Whole numbers are finite. -/
theorem isFinite_toFloat32 (n : UInt32) : n.toFloat32.isFinite = true := by
  refine isFinite_pack ?_
  rw [UnpackedFloat.ofUInt32, UnpackedFloat.ofNat, UnpackedFloat.ofInt, UnpackedFloat.normalize]
  have hn := n.toNat_lt
  split
  · exact belowInfinity_round _ (by omega)
  · trivial
  · exact belowInfinity_round _ (by omega)

theorem not_isNaN_of_isFinite {x : Float32} (hx : x.isFinite = true) :
    x.isNaN = false ∧ x.isInf = false := by
  change x.toModel.unpack.isFinite = true at hx
  change x.toModel.unpack.isNaN = false ∧ x.toModel.unpack.isInf = false
  cases h : x.toModel.unpack with
  | zero sign => exact ⟨rfl, rfl⟩
  | finite sign mantissa exponent hpos => exact ⟨rfl, rfl⟩
  | infinity sign => rw [h] at hx; exact absurd hx Bool.false_ne_true
  | notANumber => rw [h] at hx; exact absurd hx Bool.false_ne_true

/-! ### Infinities and zeros -/

variable {spec : Format} {x y : Float32}

/-- Valid bits are packed again as they were unpacked, infinite and undefined numbers included. -/
theorem pack_unpack_of_valid (hspec : 1 < spec.exponentBits) {b : BitVec spec.numBits}
    (hvalid : spec.Valid b) : UnpackedFloat.pack spec (UnpackedFloat.unpack spec b) = b := by
  by_cases hexponent : unpackExponent b = -1#_
  · by_cases hmantissa : unpackMantissa b = 0#_
    · obtain ⟨sign, exponent, mantissa, rfl⟩ := exists_packComponents b
      rw [unpackExponent_packComponents] at hexponent
      rw [unpackMantissa_packComponents] at hmantissa
      subst hexponent hmantissa
      simp only [UnpackedFloat.unpack, unpackExponent_packComponents,
        unpackMantissa_packComponents, unpackSign_packComponents, ofBitVec_toBitVec, if_true]
      rfl
    · have hundefined : UnpackedFloat.unpack spec b = .notANumber := by
        simp only [UnpackedFloat.unpack, if_pos hexponent, if_neg hmantissa]
      rw [hundefined, hvalid.eq_packedNaN hexponent hmantissa]
      rfl
  · exact (pack_unpack hspec hexponent).2

theorem eq_of_unpack_eq (h : x.toModel.unpack = y.toModel.unpack) : x = y := by
  obtain ⟨⟨xBits, hx⟩⟩ := x
  obtain ⟨⟨yBits, hy⟩⟩ := y
  change UnpackedFloat.unpack .binary32 xBits.toBitVec =
    UnpackedFloat.unpack .binary32 yBits.toBitVec at h
  have hbits : xBits = yBits := by
    rw [← UInt32.toBitVec_inj, ← pack_unpack_of_valid (by decide) hx, h,
      pack_unpack_of_valid (by decide) hy]
  subst hbits
  rfl

theorem isFinite_of_not_isNaN (hnan : x.isNaN = false) (hinf : x.isInf = false) :
    x.isFinite = true := by
  change x.toModel.unpack.isNaN = false at hnan
  change x.toModel.unpack.isInf = false at hinf
  change x.toModel.unpack.isFinite = true
  cases hunpack : x.toModel.unpack with
  | notANumber => rw [hunpack] at hnan; exact absurd hnan.symm Bool.false_ne_true
  | infinity sign => rw [hunpack] at hinf; exact absurd hinf.symm Bool.false_ne_true
  | zero | finite => rfl

/-- There are two infinite numbers. -/
theorem eq_ofBits_of_isInf (hx : x.isInf = true) :
    x = Float32.ofBits 0x7f800000 ∨ x = Float32.ofBits 0xff800000 := by
  change x.toModel.unpack.isInf = true at hx
  cases hunpack : x.toModel.unpack with
  | infinity sign =>
    cases sign with
    | positive => exact .inl (eq_of_unpack_eq (hunpack.trans (by rfl)))
    | negative => exact .inr (eq_of_unpack_eq (hunpack.trans (by rfl)))
  | notANumber | zero | finite => rw [hunpack] at hx; exact absurd hx Bool.false_ne_true

/-- There are two numbers that equal zero. -/
theorem eq_ofBits_of_beq_zero (hx : (x == 0) = true) :
    x = Float32.ofBits 0 ∨ x = Float32.ofBits 0x80000000 := by
  change (x.toModel.unpack.compare (.zero .positive) == some .eq) = true at hx
  cases hunpack : x.toModel.unpack with
  | zero sign =>
    cases sign with
    | positive => exact .inl (eq_of_unpack_eq (hunpack.trans (by rfl)))
    | negative => exact .inr (eq_of_unpack_eq (hunpack.trans (by rfl)))
  | notANumber => rw [hunpack] at hx; exact absurd hx Bool.false_ne_true
  | infinity sign | finite sign =>
    rw [hunpack] at hx
    cases sign <;> exact absurd hx Bool.false_ne_true

theorem beq_self_of_not_isNaN (hx : x.isNaN = false) : (x == x) = true := by
  change x.toModel.unpack.isNaN = false at hx
  change (x.toModel.unpack.compare x.toModel.unpack == some .eq) = true
  cases hunpack : x.toModel.unpack with
  | notANumber => rw [hunpack] at hx; exact absurd hx.symm Bool.false_ne_true
  | zero sign => rfl
  | infinity sign => cases sign <;> rfl
  | finite sign mantissa exponent hpos =>
    cases sign <;> simp [UnpackedFloat.compare]

end SceneRenderer
