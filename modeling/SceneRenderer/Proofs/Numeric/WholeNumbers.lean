import SceneRenderer.Numeric.Shortest
import SceneRenderer.Proofs.Numeric.Finite
import SceneRenderer.Proofs.Numeric.Precision

/-!
Whole numbers as literals. A number of 24 bits is exact in single precision, and no other whole
number is as near to it, so that its literal denotes it. A number with more bits is rounded to an
even one, and the literal denotes an even number too, whatever digits are the shortest.
-/

set_option autoImplicit false
set_option relaxedAutoImplicit false

namespace SceneRenderer

open Float.Model (Format UnpackedFloat totalExponent)
open Float.Model.UnpackedFloat hiding unpack pack round

/-! ### Rounding whole numbers -/

theorem mantissa_shiftRight (em : ExtendedMantissa) (places : Nat) :
    (em >>> places).mantissa = em.mantissa / 2 ^ places := by
  change (places.repeat ExtendedMantissa.shiftRightOne em).mantissa = _
  induction places with
  | zero => exact (Nat.div_one _).symm
  | succ places ih =>
    show (places.repeat ExtendedMantissa.shiftRightOne em).mantissa / 2 = _
    rw [ih, Nat.div_div_eq_div_mul, Nat.pow_succ]

theorem le_roundedMantissa (em : ExtendedMantissa) : em.mantissa ≤ em.roundedMantissa := by
  obtain ⟨mantissa, roundBit, stickyBit⟩ := em
  cases roundBit <;> cases stickyBit
  all_goals
    simp only [ExtendedMantissa.roundedMantissa, ExtendedMantissa.accuracy,
      Accuracy.roundToNearestEven]
    omega

/-- The leading 24 bits. -/
theorem leading_bits {mantissa : Nat} (hlong : 2 ^ 23 ≤ mantissa) :
    2 ^ 23 ≤ mantissa / 2 ^ (mantissa.log2 - 23) ∧
      mantissa / 2 ^ (mantissa.log2 - 23) < 2 ^ 24 := by
  have hne : mantissa ≠ 0 := by omega
  have hlog : 23 ≤ mantissa.log2 := (Nat.le_log2 hne).mpr hlong
  have hlow := Nat.log2_self_le hne
  have hhigh : mantissa < 2 ^ (mantissa.log2 + 1) := Nat.lt_log2_self
  have hpower : 2 ^ mantissa.log2 = 2 ^ 23 * 2 ^ (mantissa.log2 - 23) := by
    rw [← Nat.pow_add, Nat.add_sub_cancel' hlog]
  have hpos := Nat.two_pow_pos (mantissa.log2 - 23)
  constructor
  · rw [Nat.le_div_iff_mul_le hpos, ← hpower]
    exact hlow
  · rw [Nat.div_lt_iff_lt_mul hpos, Nat.pow_succ 2 23, Nat.mul_right_comm, ← hpower, ← Nat.pow_succ]
    exact hhigh

/-- Of a long mantissa the leading bits are kept. -/
theorem shiftToTargetExponent_of_long {mantissa : Nat} (hlong : 2 ^ 23 ≤ mantissa) {exponent : Int}
    (hexponent : 0 ≤ exponent) :
    (shiftToTargetExponent .binary32 mantissa exponent .exact).1.mantissa =
        mantissa / 2 ^ (mantissa.log2 - 23) ∧
      (shiftToTargetExponent .binary32 mantissa exponent .exact).2 =
        exponent + (mantissa.log2 - 23 : Nat) := by
  have hlog : 23 ≤ mantissa.log2 := (Nat.le_log2 (by omega)).mpr hlong
  have hshift :
      (Format.binary32.targetExponent (totalExponent mantissa exponent) - exponent).toNat =
      mantissa.log2 - 23 := by
    simp only [Format.targetExponent, totalExponent, mantissaBits_binary32, Format.minExponent]
    omega
  simp only [shiftToTargetExponent, shiftToExponent, hshift]
  exact ⟨mantissa_shiftRight _ _, trivial⟩

/-- A number with more than 24 bits is rounded to a multiple of a power of two. -/
theorem round_of_long (sign : Sign) {mantissa : Nat} (hlong : 2 ^ 24 ≤ mantissa)
    (hbits : mantissa < 2 ^ 32) :
    ∃ kept exponent hpos, UnpackedFloat.round .binary32 sign mantissa 0 =
      .finite sign kept exponent hpos ∧ 2 ^ 23 ≤ kept ∧ kept < 2 ^ 24 ∧ 1 ≤ exponent ∧
        exponent ≤ 10 := by
  have hlog : 24 ≤ mantissa.log2 := (Nat.le_log2 (by omega)).mpr hlong
  have hlog' : mantissa.log2 < 32 := (Nat.log2_lt (by omega)).mpr hbits
  have hshift : (0 - Format.binary32.targetExponent (totalExponent mantissa 0)).toNat = 0 := by
    simp only [Format.targetExponent, totalExponent, mantissaBits_binary32, Format.minExponent]
    omega
  obtain ⟨hfirst, hexponent⟩ :=
    shiftToTargetExponent_of_long (show 2 ^ 23 ≤ mantissa by omega) (le_refl 0)
  obtain ⟨hlow, hhigh⟩ := leading_bits (show 2 ^ 23 ≤ mantissa by omega)
  rw [← hfirst] at hlow hhigh
  have hrounded := le_roundedMantissa
    (shiftToTargetExponent .binary32 mantissa 0 .exact).1
  have hrounded' := roundedMantissa_le
    (shiftToTargetExponent .binary32 mantissa 0 .exact).1
  generalize hem : shiftToTargetExponent .binary32 mantissa 0 .exact = first at *
  obtain ⟨em, e⟩ := first
  dsimp only at *
  have hlong' : 2 ^ 23 ≤ em.roundedMantissa := hlow.trans hrounded
  have hlogRounded : em.roundedMantissa.log2 < 25 := (Nat.log2_lt (by omega)).mpr (by omega)
  obtain ⟨hlast, hlastExponent⟩ :=
    shiftToTargetExponent_of_long hlong' (show 0 ≤ e by omega)
  obtain ⟨hlow', hhigh'⟩ := leading_bits hlong'
  rw [← hlast] at hlow' hhigh'
  generalize hem' : shiftToTargetExponent .binary32 em.roundedMantissa e .exact = last at *
  refine ⟨last.1.mantissa, last.2, Nat.lt_of_lt_of_le (by decide) hlow', ?_, hlow',
    hhigh', by omega, by omega⟩
  simp only [UnpackedFloat.round, decreaseExponent, hshift, Nat.shiftLeft_zero]
  show roundWithAccuracy .binary32 sign mantissa 0 .exact = _
  simp only [roundWithAccuracy, hem, hem']
  exact dif_neg (by omega)

/-- A whole number in single precision: all 24 bits of the mantissa are in use, a number of 24 bits
is exact, and any other one is a multiple of a power of two. -/
theorem unpack_toFloat32 {n : UInt32} (hn : 0 < n.toNat) :
    ∃ mantissa exponent hpos,
      n.toFloat32.toModel.unpack = .finite .positive mantissa exponent hpos ∧
      exponent ≤ 10 ∧ mantissa < 2 ^ 24 ∧
      (n.toNat < 2 ^ 24 → ∃ places : Nat, exponent = -places ∧ mantissa = n.toNat * 2 ^ places) ∧
      (2 ^ 24 ≤ n.toNat → 1 ≤ exponent) := by
  have hround : UnpackedFloat.ofUInt32 .binary32 n =
      UnpackedFloat.round .binary32 .positive n.toNat 0 := by
    rw [UnpackedFloat.ofUInt32, UnpackedFloat.ofNat, UnpackedFloat.ofInt, UnpackedFloat.normalize,
      show compare (n.toNat : Int) 0 = .gt from Int.compare_eq_gt.mpr (by omega)]
    rfl
  have hunpack {u : UnpackedFloat} (hu : Canonical .binary32 u)
      (heq : UnpackedFloat.round .binary32 .positive n.toNat 0 = u) :
      n.toFloat32.toModel.unpack = u := by
    change UnpackedFloat.unpack .binary32
      (UnpackedFloat.pack .binary32 (UnpackedFloat.ofUInt32 .binary32 n)) = u
    rw [hround, heq]
    exact unpack_pack hu
  have hbits : Format.binary32.mantissaBitsWithoutImplicit = 23 := rfl
  have hleast : Format.binary32.minExponent = -149 := rfl
  have hgreatest : (Format.binary32.exponentBias : Int) = 127 := rfl
  rcases Nat.lt_or_ge n.toNat (2 ^ 24) with hshort | hlong
  · have hlog : n.toNat.log2 < 24 := (Nat.log2_lt (by omega)).mpr hshort
    have hexact := @round_of_greater .binary32 .positive _ hn 0 (23 - n.toNat.log2) (by
        simp only [Format.targetExponent, totalExponent, mantissaBits_binary32, hleast]
        omega)
    have hlog' := log2_mul_two_pow hn (23 - n.toNat.log2)
    refine ⟨_, _, _, hunpack ?_ hexact, by omega, ?_, fun _ ↦ ⟨23 - n.toNat.log2, by omega, rfl⟩,
      fun hlong ↦ by omega⟩
    · simp only [Canonical, hleast, hgreatest]
      omega
    · exact (Nat.log2_lt (Nat.mul_pos hn (Nat.two_pow_pos _)).ne').mp (by omega)
  · obtain ⟨kept, exponent, hpos, hround, hlow, hhigh, hone, hten⟩ :=
      round_of_long .positive hlong n.toNat_lt
    refine ⟨kept, exponent, hpos, hunpack ?_ hround, hten, hhigh, fun hshort ↦ by omega,
      fun _ ↦ hone⟩
    have hlog : kept.log2 = 23 := (Nat.log2_eq_iff hpos.ne').mpr ⟨hlow, hhigh⟩
    simp only [Canonical, hleast, hgreatest]
    omega

/-! ### The encoding -/

theorem toNat_packComponents (sign : Sign) (exponent : BitVec 8) (mantissa : BitVec 23) :
    (packComponents .binary32 sign exponent mantissa).toNat =
      (sign.toBitVec.toNat * 2 ^ 8 + exponent.toNat) * 2 ^ 23 + mantissa.toNat := by
  change (sign.toBitVec ++ exponent ++ mantissa).toNat = _
  rw [BitVec.toNat_append, ← Nat.shiftLeft_add_eq_or_of_lt mantissa.isLt, BitVec.toNat_append,
    ← Nat.shiftLeft_add_eq_or_of_lt exponent.isLt, Nat.shiftLeft_eq, Nat.shiftLeft_eq]

/-- A finite number is read off its encoding as it is unpacked. -/
theorem BinaryNumber.ofBits_toBits {x : Float32} {mantissa : Nat} {exponent : Int} {hpos}
    (hx : x.toModel.unpack = .finite .positive mantissa exponent hpos) :
    x.toBits < 0x80000000 ∧ (BinaryNumber.ofBits x.toBits).mantissa = mantissa ∧
      (BinaryNumber.ofBits x.toBits).exponent = exponent := by
  obtain ⟨sign, biased, fraction, hbits⟩ : ∃ sign biased fraction,
      x.toBits.toBitVec = packComponents .binary32 sign biased fraction := exists_packComponents _
  change BitVec 8 at biased
  change BitVec 23 at fraction
  change UnpackedFloat.unpack .binary32 x.toBits.toBitVec = _ at hx
  have hnat :
      x.toBits.toNat = (sign.toBitVec.toNat * 2 ^ 8 + biased.toNat) * 2 ^ 23 + fraction.toNat :=
    (congrArg BitVec.toNat hbits).trans (toNat_packComponents sign biased fraction)
  have hfinite : biased ≠ -1#8 := by
    intro hinfinite
    have hspecial := congrArg UnpackedFloat.isFinite hx
    simp only [UnpackedFloat.unpack, hbits, unpackExponent_packComponents, hinfinite, if_true]
      at hspecial
    split at hspecial <;> exact absurd hspecial Bool.false_ne_true
  rw [hbits] at hx
  have hbiased := biased.isLt
  have hfraction := fraction.isLt
  have hlow : x.toBits.toNat % 0x800000 = fraction.toNat := by omega
  have hhigh : x.toBits.toNat >>> 23 % 0x100 = biased.toNat := by
    rw [Nat.shiftRight_eq_div_pow]
    omega
  have hread : UnpackedFloat.unpack .binary32 (packComponents .binary32 sign biased fraction) =
      .finite .positive mantissa exponent hpos → sign = .positive ∧
      (BinaryNumber.ofBits x.toBits).mantissa = mantissa ∧
        (BinaryNumber.ofBits x.toBits).exponent = exponent := by
    intro hx
    unfold BinaryNumber.ofBits
    simp only [hlow, hhigh]
    by_cases hzero : biased = 0#_
    · subst hzero
      by_cases hnone : fraction = 0#_
      · subst hnone
        rw [unpack_zero] at hx
        cases hx
      · rw [@unpack_subnormal .binary32 sign _ hnone] at hx
        cases hx
        exact ⟨rfl, rfl, rfl⟩
    · have hcode : biased.toNat ≠ 0 := fun h ↦ hzero (BitVec.eq_of_toNat_eq h)
      rw [@unpack_normal .binary32 sign _ _ hzero hfinite] at hx
      cases hx
      rw [if_neg hcode]
      exact ⟨rfl, rfl, rfl⟩
  obtain ⟨rfl, hvalue⟩ := hread hx
  refine ⟨UInt32.lt_iff_toNat_lt.mpr ?_, hvalue⟩
  have hsign : Sign.positive.toBitVec.toNat = 0 := rfl
  rw [hsign] at hnat
  show x.toBits.toNat < 0x80000000
  omega

/-! ### The shortest digits -/

namespace BinaryNumber

variable {b : BinaryNumber} {value : Nat}

/-- The number is a whole one. -/
def IsWhole (b : BinaryNumber) (value : Nat) : Prop :=
  b.mantissa * 2 ^ b.exponent.toNat = value * 2 ^ (-b.exponent).toNat

/-- On the grids of whole numbers, a unit is so many parts. -/
def unit (b : BinaryNumber) : Nat := 2 ^ (2 - b.exponent).toNat

/-- A quarter of the last place is so many parts. -/
def quarter (b : BinaryNumber) : Nat := 2 ^ (b.exponent - 2).toNat

theorem commonUnit_natCast (b : BinaryNumber) (p : Nat) :
    b.commonUnit p = (10 ^ p * b.unit, b.quarter) := by
  have hnone : (-(p : Int)).toNat = 0 := by omega
  unfold commonUnit unit quarter
  rw [hnone, Int.toNat_natCast]
  exact Prod.ext rfl (Nat.mul_one _)

theorem IsWhole.parts (hb : b.IsWhole value) : 4 * b.mantissa * b.quarter = value * b.unit := by
  unfold IsWhole at hb
  unfold unit quarter
  rcases lt_or_ge b.exponent 2 with hlow | hhigh
  · have hquarter : (b.exponent - 2).toNat = 0 := by omega
    rw [hquarter, Nat.pow_zero, Nat.mul_one]
    rcases lt_or_ge b.exponent 1 with hnone | hone
    · have hunit : (2 - b.exponent).toNat = (-b.exponent).toNat + 2 := by omega
      rw [show b.exponent.toNat = 0 by omega, Nat.pow_zero, Nat.mul_one] at hb
      rw [hb, hunit, Nat.pow_add]
      ring
    · rw [show b.exponent.toNat = 1 by omega, show (-b.exponent).toNat = 0 by omega] at hb
      rw [show (2 - b.exponent).toNat = 1 by omega]
      omega
  · have hunit : (2 - b.exponent).toNat = 0 := by omega
    rw [show (-b.exponent).toNat = 0 by omega, Nat.pow_zero, Nat.mul_one,
      show b.exponent.toNat = (b.exponent - 2).toNat + 2 by omega, Nat.pow_add] at hb
    rw [hunit, Nat.pow_zero, Nat.mul_one, ← hb]
    ring

/-- A whole number is on the grid of whole numbers. -/
theorem IsWhole.onGrid?_zero (hb : b.IsWhole value) (hpos : 0 < b.mantissa) :
    b.onGrid? 0 = some ⟨value, 0⟩ := by
  have hunit : 0 < b.unit := Nat.two_pow_pos _
  have hquarter : 0 < b.quarter := Nat.two_pow_pos _
  have hcommon : b.commonUnit 0 = (b.unit, b.quarter) :=
    (b.commonUnit_natCast 0).trans (Prod.ext (Nat.one_mul _) rfl)
  have hparts := hb.parts
  have hbelow : 4 * b.mantissa * b.quarter / b.unit = value := by
    rw [hparts, Nat.mul_div_cancel _ hunit]
  have hless {n : Nat} (hn : n < 4 * b.mantissa) : n * b.quarter < value * b.unit :=
    hparts ▸ Nat.mul_lt_mul_of_pos_right hn hquarter
  have hmore : value * b.unit < (4 * b.mantissa + 2) * b.quarter :=
    hparts ▸ Nat.mul_lt_mul_of_pos_right (by omega) hquarter
  have hdown : b.rounds 0 value = true := by
    unfold rounds
    rw [hcommon]
    dsimp only
    have hlow : (4 * b.mantissa - if b.closeBelow then 1 else 2) * b.quarter < value * b.unit :=
      hless (by split <;> omega)
    split
    · simp [hlow.le, hmore.le]
    · simp [hlow, hmore]
  unfold onGrid?
  rw [hcommon]
  dsimp only
  rw [hbelow, hdown, hparts]
  have hnear : ¬ value * b.unit - value * b.unit ≥ (value + 1) * b.unit - value * b.unit := by
    rw [Nat.succ_mul]
    omega
  simp only [hnear, decide_false, Bool.not_true, Bool.or_false, Bool.and_false, Bool.false_eq_true,
    if_false, if_true]

theorem onGrid?_eq_some {p : Int} {d : DecimalNumber} (hd : b.onGrid? p = some d) :
    d.exponent = p ∧ b.rounds p d.digits = true := by
  unfold onGrid? at hd
  dsimp only at hd
  split at hd
  · rename_i hup
    rw [← Option.some.inj hd]
    exact ⟨rfl, (Bool.and_eq_true_iff.mp hup).1⟩
  · split at hd
    · rename_i hdown
      rw [← Option.some.inj hd]
      exact ⟨rfl, hdown⟩
    · cases hd

/-- What rounds to a number is within half of its last place. -/
theorem rounds_natCast {p digits : Nat} (hrounds : b.rounds p digits = true) :
    (4 * b.mantissa - 2) * b.quarter ≤ digits * 10 ^ p * b.unit ∧
      digits * 10 ^ p * b.unit ≤ (4 * b.mantissa + 2) * b.quarter := by
  unfold rounds at hrounds
  rw [commonUnit_natCast] at hrounds
  dsimp only at hrounds
  rw [← Nat.mul_assoc] at hrounds
  have hlow : (4 * b.mantissa - 2) * b.quarter ≤
      (4 * b.mantissa - if b.closeBelow then 1 else 2) * b.quarter :=
    Nat.mul_le_mul_right _ (by split <;> omega)
  split at hrounds
  all_goals
    obtain ⟨hleft, hright⟩ := Bool.and_eq_true_iff.mp hrounds
    have hleft := of_decide_eq_true hleft
    have hright := of_decide_eq_true hright
    omega

theorem grids_eq : grids = (List.range 39).map (fun i : Nat ↦ (39 : Int) - i) ++
    0 :: (List.range 50).map fun i : Nat ↦ -(i : Int) - 1 := by decide

/-- The shortest digits of a whole number stand for it, or for one with zeros behind it that rounds
to it. -/
theorem IsWhole.shortest (hb : b.IsWhole value) (hpos : 0 < b.mantissa) :
    b.shortest = ⟨value, 0⟩ ∨
      ∃ p digits : Nat, 0 < p ∧ b.shortest = ⟨digits, p⟩ ∧ b.rounds p digits = true := by
  unfold BinaryNumber.shortest
  rw [grids_eq, List.findSome?_append]
  rcases hcoarse : ((List.range 39).map fun i : Nat ↦ (39 : Int) - i).findSome? b.onGrid? with _ | d
  · left
    rw [Option.none_or, List.findSome?_cons, hb.onGrid?_zero hpos]
    rfl
  · right
    obtain ⟨q, hq, hgrid⟩ := List.exists_of_findSome?_eq_some hcoarse
    obtain ⟨i, hi, rfl⟩ := List.mem_map.mp hq
    rw [List.mem_range] at hi
    obtain ⟨hexponent, hrounds⟩ := onGrid?_eq_some hgrid
    have hp : (39 : Int) - i = (39 - i : Nat) := by omega
    rw [hp] at hexponent hrounds
    exact ⟨39 - i, d.digits, by omega, by rw [← hexponent]; rfl, hrounds⟩

/-- What the shortest digits stand for: the number, if its last place is no greater than one, and
otherwise an even number. -/
theorem IsWhole.exists_shortest (hb : b.IsWhole value) (hpos : 0 < b.mantissa) :
    ∃ p digits written : Nat, b.shortest = ⟨digits, p⟩ ∧ digits * 10 ^ p = written ∧ 0 < written ∧
      written ≤ 2 * value ∧ (b.exponent ≤ 0 → written = value) ∧
      (1 ≤ b.exponent → written % 2 = 0) := by
  have hunit : 0 < b.unit := Nat.two_pow_pos _
  have hquarter : 0 < b.quarter := Nat.two_pow_pos _
  have hparts := hb.parts
  rcases hb.shortest hpos with hshortest | ⟨p, digits, hp, hshortest, hrounds⟩
  · have hvalue : 0 < value := by
      refine Nat.pos_of_ne_zero fun hzero ↦ ?_
      rw [hzero, Nat.zero_mul] at hparts
      exact absurd hparts (Nat.mul_pos (by omega) hquarter).ne'
    refine ⟨0, value, value, hshortest, Nat.mul_one _, hvalue, by omega, fun _ ↦ rfl, fun hone ↦ ?_⟩
    unfold IsWhole at hb
    rw [show (-b.exponent).toNat = 0 by omega, Nat.pow_zero, Nat.mul_one,
      show b.exponent.toNat = (b.exponent - 1).toNat + 1 by omega, Nat.pow_succ,
      ← Nat.mul_assoc] at hb
    rw [← hb, Nat.mul_mod_left]
  · obtain ⟨hlow, hhigh⟩ := rounds_natCast hrounds
    refine ⟨p, digits, _, hshortest, rfl, ?_, ?_, fun hfine ↦ ?_, fun _ ↦ ?_⟩
    · refine Nat.pos_of_ne_zero fun hzero ↦ ?_
      rw [hzero, Nat.zero_mul] at hlow
      exact absurd (Nat.mul_pos (by omega) hquarter) hlow.not_gt
    · refine Nat.le_of_mul_le_mul_right (hhigh.trans ?_) hunit
      calc (4 * b.mantissa + 2) * b.quarter
        _ ≤ 2 * (4 * b.mantissa) * b.quarter := Nat.mul_le_mul_right _ (by omega)
        _ = 2 * value * b.unit := by rw [Nat.mul_assoc, hparts, Nat.mul_assoc]
    · -- Half of the last place is less than a half.
      have hone : b.quarter = 1 := by
        rw [quarter, show (b.exponent - 2).toNat = 0 by omega, Nat.pow_zero]
      have hfour : 4 ≤ b.unit := by
        rw [unit, show (2 - b.exponent).toNat = (-b.exponent).toNat + 2 by omega, Nat.pow_add]
        exact Nat.le_mul_of_pos_left 4 (Nat.two_pow_pos _)
      rw [hone, Nat.mul_one] at hlow hhigh hparts
      refine Nat.le_antisymm (Nat.lt_succ_iff.mp ?_) (Nat.lt_succ_iff.mp ?_)
      · refine Nat.lt_of_mul_lt_mul_right (a := b.unit) ?_
        rw [Nat.succ_mul]
        omega
      · refine Nat.lt_of_mul_lt_mul_right (a := b.unit) ?_
        rw [Nat.succ_mul]
        omega
    · obtain ⟨p, rfl⟩ := Nat.exists_eq_add_one.mpr hp
      rw [Nat.pow_succ, ← Nat.mul_assoc]
      omega

end BinaryNumber

/-! ### Literals -/

theorem toDigits_mul_ten_pow {digits : Nat} (hpos : 0 < digits) (p : Nat) :
    Nat.toDigits 10 (digits * 10 ^ p) = Nat.toDigits 10 digits ++ List.replicate p '0' := by
  induction p with
  | zero => rw [Nat.pow_zero, Nat.mul_one, List.replicate_zero, List.append_nil]
  | succ p ih =>
    have hmore : 0 < digits * 10 ^ p := Nat.mul_pos hpos (Nat.pow_pos (by decide))
    rw [Nat.pow_succ, ← Nat.mul_assoc, Nat.toDigits_of_base_le (by decide) (by omega),
      Nat.mul_div_cancel _ (by decide), Nat.mul_mod_left, ih, List.replicate_succ',
      List.append_assoc]
    rfl

/-- A whole number that is not too great is written with all its digits. -/
theorem DecimalNumber.write_whole {digits p written : Nat} (hwritten : digits * 10 ^ p = written)
    (hpos : 0 < written) (hsmall : written < 10 ^ 16) :
    NumberStyle.literal.scientific (DecimalNumber.mk digits p).magnitude = false ∧
      (DecimalNumber.mk digits p).positional = toString written ++ ".0" := by
  have hdigits : 0 < digits := Nat.pos_of_mul_pos_right (hwritten ▸ hpos)
  have hall := toDigits_mul_ten_pow hdigits p
  rw [hwritten] at hall
  have hlength : (Nat.toDigits 10 written).length ≤ 16 :=
    (Nat.length_toDigits_le_iff (by decide) (by decide)).mpr hsmall
  rw [hall, List.length_append, List.length_replicate] at hlength
  have hsome : 0 < (Nat.toDigits 10 digits).length := Nat.length_toDigits_pos
  constructor
  · simp only [NumberStyle.literal, magnitude, Bool.or_eq_false_iff, decide_eq_false_iff_not]
    omega
  · have hexponent : 0 ≤ (p : Int) := Int.natCast_nonneg p
    simp only [positional, hexponent, if_true, Int.toNat_natCast]
    rw [← hall]
    exact String.toList_inj.mp (by simp)

/-- A whole number is written with a point and a zero behind it. With 24 bits it is written as it
is, and otherwise an even number is written. -/
theorem write_toFloat32 (n : UInt32) :
    ∃ written : Nat, NumberStyle.literal.write n.toFloat32 = toString written ++ ".0" ∧
      (n.toNat < 2 ^ 24 → written = n.toNat) ∧ (2 ^ 24 ≤ n.toNat → written % 2 = 0) := by
  rcases Nat.eq_zero_or_pos n.toNat with hzero | hpos
  · obtain rfl : n = 0 := UInt32.toNat_inj.mp hzero
    exact ⟨0, by rfl, fun _ ↦ rfl, fun _ ↦ rfl⟩
  · obtain ⟨mantissa, exponent, hmantissa, hunpack, hten, hbits, hshort, hlong⟩ :=
      unpack_toFloat32 hpos
    obtain ⟨hsign, hread, hread'⟩ := BinaryNumber.ofBits_toBits hunpack
    obtain ⟨hnan, hinf⟩ := not_isNaN_of_isFinite (isFinite_toFloat32 n)
    have hnonzero : (n.toFloat32 == 0) = false := by
      change (n.toFloat32.toModel.unpack.compare (.zero .positive) == some .eq) = false
      rw [hunpack]
      rfl
    obtain ⟨value, hvalue, hsmall, hexact⟩ : ∃ value,
        (BinaryNumber.ofBits n.toFloat32.toBits).IsWhole value ∧ value < 2 ^ 34 ∧
          (n.toNat < 2 ^ 24 → exponent ≤ 0 ∧ value = n.toNat) := by
      unfold BinaryNumber.IsWhole
      rw [hread, hread']
      rcases Nat.lt_or_ge n.toNat (2 ^ 24) with hless | hmore
      · obtain ⟨places, rfl, rfl⟩ := hshort hless
        refine ⟨n.toNat, ?_, by omega, fun _ ↦ ⟨by omega, rfl⟩⟩
        rw [show (-(places : Int)).toNat = 0 by omega, Int.neg_neg, Int.toNat_natCast, Nat.pow_zero,
          Nat.mul_one]
      · refine ⟨mantissa * 2 ^ exponent.toNat, ?_, ?_, fun hless ↦ by omega⟩
        · rw [show (-exponent).toNat = 0 by have := hlong hmore; omega, Nat.pow_zero, Nat.mul_one]
        · calc mantissa * 2 ^ exponent.toNat
            _ ≤ mantissa * 2 ^ 10 :=
              Nat.mul_le_mul_left _ (Nat.pow_le_pow_right (by decide) (by omega))
            _ < 2 ^ 34 := by omega
    obtain ⟨p, digits, written, hshortest, hwritten, hsome, hbound, hfine, hcoarse⟩ :=
      hvalue.exists_shortest (by omega)
    rw [hread'] at hfine hcoarse
    obtain ⟨hstyle, htext⟩ := DecimalNumber.write_whole hwritten hsome (by omega)
    refine ⟨written, ?_, fun hless ↦ ?_, fun hmore ↦ hcoarse (hlong hmore)⟩
    · simp only [NumberStyle.write, hnan, hinf, hnonzero, hsign, hshortest, hstyle, htext,
        Bool.false_eq_true, if_false, if_true]
      exact String.empty_append
    · obtain ⟨hexponent, hsame⟩ := hexact hless
      exact (hfine hexponent).trans hsame

end SceneRenderer
