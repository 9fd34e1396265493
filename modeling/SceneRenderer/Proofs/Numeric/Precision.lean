import Mathlib
import SceneRenderer.Numeric.Scalar

/-!
Widening and narrowing. A format unpacks every number in one form, with a mantissa of all its bits
or with the least exponent, and packs that form again (`pack_unpack`, `unpack_pack`). Single
precision has fewer bits and smaller exponents than double precision, so that a widened number loses
nothing and narrowing brings it back (`narrow_widen`).
-/

set_option autoImplicit false
set_option relaxedAutoImplicit false

namespace SceneRenderer

open Float.Model (Format UnpackedFloat totalExponent)
open Float.Model.UnpackedFloat hiding unpack pack round

variable {spec : Format}

/-! ### Rounding what is exact -/

theorem log2_mul_two_pow {mantissa : Nat} (hpos : 0 < mantissa) (places : Nat) :
    (mantissa * 2 ^ places).log2 = mantissa.log2 + places := by
  rw [Nat.log2_eq_log_two, Nat.log2_eq_log_two]
  induction places with
  | zero => rw [Nat.pow_zero, Nat.mul_one, Nat.add_zero]
  | succ places ih =>
    have hmul := Nat.mul_pos hpos (Nat.two_pow_pos places)
    rw [Nat.pow_succ, ← Nat.mul_assoc, Nat.log_mul_base (by decide) hmul.ne', ih]
    rfl

theorem totalExponent_mul_two_pow {mantissa : Nat} (hpos : 0 < mantissa) (exponent : Int)
    (places : Nat) :
    totalExponent (mantissa * 2 ^ places) (exponent - places) =
        totalExponent mantissa exponent := by
  unfold totalExponent
  rw [log2_mul_two_pow hpos]
  omega

/-- Zeros are dropped without a trace. -/
theorem shiftRight_mul_two_pow (mantissa places : Nat) :
    (⟨mantissa * 2 ^ places, false, false⟩ : ExtendedMantissa) >>> places =
      ⟨mantissa, false, false⟩ := by
  change places.repeat ExtendedMantissa.shiftRightOne _ = _
  induction places generalizing mantissa with
  | zero => rw [Nat.pow_zero, Nat.mul_one]; rfl
  | succ places ih =>
    rw [Nat.repeat, Nat.pow_succ', ← Nat.mul_assoc, ih, ExtendedMantissa.shiftRightOne]
    simp

theorem roundWithAccuracy_mul_two_pow (sign : Sign) {mantissa : Nat} (hpos : 0 < mantissa)
    {exponent : Int} (htarget : spec.targetExponent (totalExponent mantissa exponent) = exponent)
    (places : Nat) :
    roundWithAccuracy spec sign (mantissa * 2 ^ places) (exponent - places) .exact =
      .finite sign mantissa exponent hpos := by
  have hfirst : shiftToTargetExponent spec (mantissa * 2 ^ places) (exponent - places) .exact =
      (⟨mantissa, false, false⟩, exponent) := by
    have hshift : (exponent - (exponent - (places : Int))).toNat = places := by omega
    simp only [shiftToTargetExponent, shiftToExponent, totalExponent_mul_two_pow hpos, htarget,
      hshift, ExtendedMantissa.ofMantissaAndAccuracy, shiftRight_mul_two_pow, Prod.mk.injEq,
      true_and]
    omega
  have hsecond : shiftToTargetExponent spec mantissa exponent .exact =
      (⟨mantissa, false, false⟩, exponent) := by
    simp only [shiftToTargetExponent, shiftToExponent, htarget, Int.sub_self]
    exact Prod.ext rfl (Int.add_zero _)
  have hrounded : (⟨mantissa, false, false⟩ : ExtendedMantissa).roundedMantissa = mantissa := rfl
  simp only [roundWithAccuracy, hfirst, hrounded, hsecond]
  exact dif_neg hpos.ne'

section Round

variable (sign : Sign) {mantissa : Nat} (hpos : 0 < mantissa) {exponent : Int} {places : Nat}

include hpos

/-- A number in the form of the format is found from one with zeros behind it. -/
theorem round_of_smaller
    (htarget : spec.targetExponent (totalExponent mantissa exponent) = exponent) :
    UnpackedFloat.round spec sign (mantissa * 2 ^ places) (exponent - places) =
      .finite sign mantissa exponent hpos := by
  have hshift : (exponent - places - exponent).toNat = 0 := by omega
  simp only [UnpackedFloat.round, totalExponent_mul_two_pow hpos, htarget, decreaseExponent, hshift,
    Nat.shiftLeft_zero]
  simpa using roundWithAccuracy_mul_two_pow sign hpos htarget places

/-- A number that needs zeros behind it to be in the form of the format gets them. -/
theorem round_of_greater
    (htarget : spec.targetExponent (totalExponent mantissa exponent) = exponent - places) :
    UnpackedFloat.round spec sign mantissa exponent =
      .finite sign (mantissa * 2 ^ places) (exponent - places)
        (Nat.mul_pos hpos (Nat.two_pow_pos _)) := by
  have hshift : (exponent - (exponent - (places : Int))).toNat = places := by omega
  simp only [UnpackedFloat.round, htarget, decreaseExponent, hshift, Nat.shiftLeft_eq]
  have hkept : spec.targetExponent
      (totalExponent (mantissa * 2 ^ places) (exponent - places)) = exponent - places := by
    rw [totalExponent_mul_two_pow hpos, htarget]
  simpa using roundWithAccuracy_mul_two_pow sign (Nat.mul_pos hpos (Nat.two_pow_pos _)) hkept 0

end Round

/-! ### Forms that a format packs -/

/-- A finite number in the form in which it is unpacked: the mantissa has all its bits, or the
exponent is the least one. -/
def Canonical (spec : Format) : UnpackedFloat → Prop
  | .zero _ => True
  | .finite _ mantissa exponent _ =>
    mantissa.log2 ≤ spec.mantissaBitsWithoutImplicit ∧ spec.minExponent ≤ exponent ∧
      exponent ≤ spec.exponentBias - spec.mantissaBitsWithoutImplicit ∧
      (mantissa.log2 = spec.mantissaBitsWithoutImplicit ∨ exponent = spec.minExponent)
  | _ => False

theorem targetExponent_of_canonical {sign : Sign} {mantissa : Nat} {exponent : Int}
    {hpos : 0 < mantissa}
    (h : Canonical spec (.finite sign mantissa exponent hpos)) :
    spec.targetExponent (totalExponent mantissa exponent) = exponent := by
  obtain ⟨hlog, hmin, -, hform⟩ := h
  simp only [Format.targetExponent, totalExponent, Format.mantissaBits]
  omega

/-- Going to double precision and back leads to the same number. -/
theorem nearest_nearest {x : UnpackedFloat} (hx : Canonical .binary32 x) :
    Canonical .binary64 (nearest .binary64 x) ∧
      nearest .binary32 (nearest .binary64 x) = x := by
  cases x with
  | infinity sign => exact hx.elim
  | notANumber => exact hx.elim
  | zero sign => exact ⟨trivial, rfl⟩
  | finite sign mantissa exponent hpos =>
    have htarget := targetExponent_of_canonical hx
    obtain ⟨hlog, hmin, hmax, -⟩ := hx
    have hbits : Format.binary32.mantissaBitsWithoutImplicit = 23 := rfl
    have hleast : Format.binary32.minExponent = -149 := rfl
    have hgreatest : (Format.binary32.exponentBias : Int) = 127 := rfl
    have hbits' : Format.binary64.mantissaBitsWithoutImplicit = 52 := rfl
    have hleast' : Format.binary64.minExponent = -1074 := rfl
    have hgreatest' : (Format.binary64.exponentBias : Int) = 1023 := rfl
    have hwide : Format.binary64.targetExponent (totalExponent mantissa exponent) =
        exponent - (52 - mantissa.log2 : Nat) := by
      simp only [Format.targetExponent, totalExponent, Format.mantissaBits]
      omega
    have hwidened : nearest .binary64 (.finite sign mantissa exponent hpos) = _ :=
      round_of_greater sign hpos hwide
    rw [hwidened]
    refine ⟨?_, round_of_smaller sign hpos htarget⟩
    simp only [Canonical, log2_mul_two_pow hpos]
    omega

/-! ### Packing -/

theorem two_pow_exponentBits (spec : Format) :
    2 ^ spec.exponentBits = 2 * spec.exponentBias + 2 := by
  obtain ⟨bits, hbits⟩ := Nat.exists_eq_add_one.mpr spec.he
  have hpos := Nat.two_pow_pos bits
  rw [Format.exponentBias, hbits, Nat.pow_succ, Nat.add_sub_cancel]
  omega

theorem minExponent_eq (spec : Format) :
    spec.minExponent = 1 - spec.exponentBias - spec.mantissaBitsWithoutImplicit := by
  have hpos := Nat.two_pow_pos (spec.exponentBits - 1)
  have hcast : ((2 ^ (spec.exponentBits - 1) : Nat) : Int) = 2 ^ (spec.exponentBits - 1) :=
    Int.natCast_pow 2 _
  rw [Format.minExponent, Format.exponentBias, Format.mantissaBits, ← hcast]
  omega

theorem unpackSign_packComponents (sign : Sign) (exponent : BitVec spec.exponentBits)
    (mantissa : BitVec spec.mantissaBitsWithoutImplicit) :
    unpackSign (packComponents spec sign exponent mantissa) = sign.toBitVec := by
  ext i hi
  obtain rfl : i = 0 := by omega
  simp [unpackSign, packComponents, BitVec.getLsbD_append, BitVec.getElem_append]

theorem ofBitVec_toBitVec (sign : Sign) : Sign.ofBitVec sign.toBitVec = sign := by
  cases sign <;> rfl

/-- Bits are put together of a sign, an exponent and a mantissa. -/
theorem exists_packComponents (b : BitVec spec.numBits) :
    ∃ sign exponent mantissa, b = packComponents spec sign exponent mantissa := by
  refine ⟨.ofBitVec (unpackSign b), unpackExponent b, unpackMantissa b, ?_⟩
  have hsign : ∀ v : BitVec 1, (Sign.ofBitVec v).toBitVec = v := by decide
  ext i hi
  simp only [packComponents, hsign, unpackSign, unpackExponent, unpackMantissa,
    BitVec.getElem_append, BitVec.getElem_cast, BitVec.extractLsb, BitVec.getElem_extractLsb']
  rw [← BitVec.getLsbD_eq_getElem hi]
  split
  · rw [Nat.zero_add]
  · split
    · congr 1
      omega
    · congr 1
      omega

theorem toNat_pos_of_ne_zero {n : Nat} {v : BitVec n} (h : v ≠ 0#_) : 0 < v.toNat :=
  Nat.pos_of_ne_zero fun hzero ↦ h (BitVec.eq_of_toNat_eq (by rw [hzero, BitVec.toNat_zero]))

theorem zero_ne_neg_one (spec : Format) : (0#_ : BitVec spec.exponentBits) ≠ -1#_ := by
  have hpower := two_pow_exponentBits spec
  rw [ne_eq, ← BitVec.toNat_inj, BitVec.neg_one_eq_allOnes, BitVec.toNat_allOnes, BitVec.toNat_zero]
  omega

section Components

variable (sign : Sign) {exponent : BitVec spec.exponentBits}
  {mantissa : BitVec spec.mantissaBitsWithoutImplicit}

theorem unpack_zero :
    UnpackedFloat.unpack spec (packComponents spec sign 0#_ 0#_) = .zero sign := by
  simp only [UnpackedFloat.unpack, unpackExponent_packComponents, unpackMantissa_packComponents,
    unpackSign_packComponents, ofBitVec_toBitVec, if_neg (zero_ne_neg_one spec), if_true, dif_pos]

theorem unpack_subnormal (hmantissa : mantissa ≠ 0#_) :
    UnpackedFloat.unpack spec (packComponents spec sign 0#_ mantissa) =
      .finite sign mantissa.toNat spec.minExponent (toNat_pos_of_ne_zero hmantissa) := by
  have hleast : (0 : Int) - (spec.exponentBias + spec.mantissaBitsWithoutImplicit) + 1 =
      spec.minExponent := by
    rw [minExponent_eq]
    omega
  simp only [UnpackedFloat.unpack, unpackExponent_packComponents, unpackMantissa_packComponents,
    unpackSign_packComponents, ofBitVec_toBitVec, if_neg (zero_ne_neg_one spec), if_true,
    dif_neg hmantissa, BitVec.toNat_zero, Int.natCast_zero, hleast]

theorem unpack_normal (hzero : exponent ≠ 0#_) (hfinite : exponent ≠ -1#_) :
    UnpackedFloat.unpack spec (packComponents spec sign exponent mantissa) =
      .finite sign (2 ^ spec.mantissaBitsWithoutImplicit + mantissa.toNat)
        (exponent.toNat - (spec.exponentBias + spec.mantissaBitsWithoutImplicit))
        (Nat.add_pos_left (Nat.two_pow_pos _) _) := by
  have himplicit : (1#1 ++ mantissa).toNat =
      2 ^ spec.mantissaBitsWithoutImplicit + mantissa.toNat := by
    rw [BitVec.toNat_append, ← Nat.shiftLeft_add_eq_or_of_lt mantissa.isLt, Nat.shiftLeft_eq]
    simp
  simp only [UnpackedFloat.unpack, unpackExponent_packComponents, unpackMantissa_packComponents,
    unpackSign_packComponents, ofBitVec_toBitVec, if_neg hfinite, if_neg hzero, himplicit]

end Components

/-- What is not infinite is unpacked as a number in the form of the format, and packed again. -/
theorem pack_unpack (hspec : 1 < spec.exponentBits) {b : BitVec spec.numBits}
    (hfinite : unpackExponent b ≠ -1#_) :
    Canonical spec (UnpackedFloat.unpack spec b) ∧
      UnpackedFloat.pack spec (UnpackedFloat.unpack spec b) = b := by
  obtain ⟨sign, exponent, mantissa, rfl⟩ := exists_packComponents b
  rw [unpackExponent_packComponents] at hfinite
  have hpower := two_pow_exponentBits spec
  have hleast := minExponent_eq spec
  have hbits : spec.mantissaBits = spec.mantissaBitsWithoutImplicit + 1 := Nat.add_comm _ _
  have hexponent : exponent.toNat + 1 < 2 ^ spec.exponentBits := by
    have hlt := exponent.isLt
    have hne : exponent.toNat ≠ 2 ^ spec.exponentBits - 1 := by
      rwa [ne_eq, ← BitVec.toNat_allOnes, BitVec.toNat_inj, ← BitVec.neg_one_eq_allOnes]
    omega
  have hfour : 2 ^ 2 ≤ 2 ^ spec.exponentBits := Nat.pow_le_pow_right (by decide) hspec
  by_cases hzero : exponent = 0#_
  · subst hzero
    by_cases hnone : mantissa = 0#_
    · rw [hnone, unpack_zero]
      exact ⟨trivial, rfl⟩
    · have hlog : mantissa.toNat.log2 < spec.mantissaBitsWithoutImplicit :=
        (Nat.log2_lt (toNat_pos_of_ne_zero hnone).ne').mpr mantissa.isLt
      rw [unpack_subnormal sign hnone]
      refine ⟨⟨hlog.le, le_rfl, by omega, .inr rfl⟩, ?_⟩
      unfold UnpackedFloat.pack
      dsimp only
      rw [if_neg (by omega), if_neg (by omega), BitVec.ofNat_toNat, BitVec.setWidth_eq]
  · have hpos := toNat_pos_of_ne_zero hzero
    have hlog : (2 ^ spec.mantissaBitsWithoutImplicit + mantissa.toNat).log2 =
        spec.mantissaBitsWithoutImplicit := by
      have hlt := mantissa.isLt
      rw [Nat.log2_eq_iff (by omega), Nat.pow_succ]
      omega
    rw [unpack_normal sign hzero hfinite]
    refine ⟨⟨hlog.le, by omega, by omega, .inl hlog⟩, ?_⟩
    unfold UnpackedFloat.pack
    dsimp only
    rw [if_neg (by omega), if_pos (by omega)]
    congr
    · apply BitVec.eq_of_toNat_eq
      rw [BitVec.toNat_ofNat, Nat.mod_eq_of_lt (by omega)]
      omega
    · apply BitVec.eq_of_toNat_eq
      rw [BitVec.toNat_ofNat, Nat.add_mod_left, Nat.mod_eq_of_lt mantissa.isLt]

/-- A number in the form of the format is unpacked as it was packed. -/
theorem unpack_pack {x : UnpackedFloat} (hx : Canonical spec x) :
    UnpackedFloat.unpack spec (UnpackedFloat.pack spec x) = x := by
  cases x with
  | infinity sign => exact hx.elim
  | notANumber => exact hx.elim
  | zero sign => exact unpack_zero sign
  | finite sign mantissa exponent hpos =>
    obtain ⟨hlog, hmin, hmax, hform⟩ := hx
    have hpower := two_pow_exponentBits spec
    have hleast := minExponent_eq spec
    have hbits : spec.mantissaBits = spec.mantissaBitsWithoutImplicit + 1 := Nat.add_comm _ _
    have hlow := Nat.log2_self_le hpos.ne'
    have hhigh : mantissa < 2 ^ (mantissa.log2 + 1) := Nat.lt_log2_self
    unfold UnpackedFloat.pack
    dsimp only
    rw [if_neg (by omega)]
    by_cases hnormal : mantissa.log2 = spec.mantissaBitsWithoutImplicit
    · obtain ⟨code, hcode⟩ := Int.eq_ofNat_of_zero_le
        (show 0 ≤ exponent + spec.exponentBias + spec.mantissaBitsWithoutImplicit by omega)
      have hexponent : (BitVec.ofNat spec.exponentBits code).toNat = code := by
        rw [BitVec.toNat_ofNat, Nat.mod_eq_of_lt (by omega)]
      have hzero : BitVec.ofNat spec.exponentBits code ≠ 0#_ := by
        rw [ne_eq, ← BitVec.toNat_inj, hexponent, BitVec.toNat_zero]
        omega
      have hfinite : BitVec.ofNat spec.exponentBits code ≠ -1#_ := by
        rw [ne_eq, ← BitVec.toNat_inj, hexponent, BitVec.neg_one_eq_allOnes, BitVec.toNat_allOnes]
        omega
      rw [hnormal] at hlow hhigh
      have hmantissa : 2 ^ spec.mantissaBitsWithoutImplicit +
          (BitVec.ofNat spec.mantissaBitsWithoutImplicit mantissa).toNat = mantissa := by
        rw [BitVec.toNat_ofNat, Nat.mod_eq_sub_mod hlow, Nat.mod_eq_of_lt (by
          rw [Nat.pow_succ] at hhigh; omega)]
        omega
      rw [if_pos (by omega), hcode, Int.toNat_natCast, unpack_normal sign hzero hfinite]
      congr 1
      rw [hexponent]
      omega
    · have hmantissa :
          (BitVec.ofNat spec.mantissaBitsWithoutImplicit mantissa).toNat = mantissa := by
        rw [BitVec.toNat_ofNat, Nat.mod_eq_of_lt]
        exact hhigh.trans_le (Nat.pow_le_pow_right (by decide) (by omega))
      have hnone : BitVec.ofNat spec.mantissaBitsWithoutImplicit mantissa ≠ 0#_ := by
        rw [ne_eq, ← BitVec.toNat_inj, hmantissa, BitVec.toNat_zero]
        exact hpos.ne'
      rw [if_neg (by omega), unpack_subnormal sign hnone]
      congr 1
      exact (hform.resolve_left hnormal).symm

/-- A finite number of single precision is the same number after it was widened. -/
theorem narrow_widen {x : Float32} (hx : x.isFinite = true) : narrow (widen x) = x := by
  obtain ⟨⟨bits, hvalid⟩⟩ := x
  have hfinite : @unpackExponent .binary32 bits.toBitVec ≠ -1#8 := by
    intro hinfinite
    change (UnpackedFloat.unpack .binary32 bits.toBitVec).isFinite = true at hx
    simp only [UnpackedFloat.unpack, hinfinite, if_true] at hx
    split at hx <;> cases hx
  obtain ⟨hform, hpack⟩ := pack_unpack (by decide) hfinite
  obtain ⟨hwide, hback⟩ := nearest_nearest hform
  have hbits : (Float32.Model.pack (nearest .binary32 (UnpackedFloat.unpack .binary64
      (UnpackedFloat.pack .binary64 (nearest .binary64
        (UnpackedFloat.unpack .binary32 bits.toBitVec)))))).toBits = bits := by
    rw [unpack_pack hwide, hback]
    exact congrArg UInt32.ofBitVec hpack
  exact congrArg Float32.ofModel (Float32.Model.mk.injEq .. |>.mpr hbits)

end SceneRenderer
