import Linework.Decimal.Binary
import Mathlib

/-!
# Zeros and infinities of binary64

A float is worked with in an unpacked form: a sign, a mantissa and an exponent. A positive mantissa with an
exponent within range stays positive when it is rounded, so a difference is a zero only of equal numbers;
and as canonical forms are unique, numbers that are not equal have canonical forms that differ.
-/

namespace Linework.Decimal

open Float.Model Float.Model.UnpackedFloat

/-- A mantissa and an exponent that binary64 has room for, large exponents apart. -/
structure Fits (mantissa : Nat) (exponent : Int) : Prop where
  positive : 0 < mantissa
  short : mantissa < 2 ^ 53
  above : -1074 ≤ exponent

/-- The mantissa and the exponent that a number of binary64 is unpacked to: of all that fit, those with
the longest mantissa. -/
structure Canonical (mantissa : Nat) (exponent : Int) : Prop extends Fits mantissa exponent where
  full : exponent = -1074 ∨ 2 ^ 52 ≤ mantissa
  below : exponent ≤ 971

variable {mantissa mantissa' : Nat} {exponent exponent' : Int}

/-! ## Canonical forms are unique -/

theorem Canonical.unique (first : Canonical mantissa exponent) (second : Canonical mantissa' exponent')
    (ordered : exponent ≤ exponent') (same : mantissa = mantissa' * 2 ^ (exponent' - exponent).toNat) :
    exponent = exponent' ∧ mantissa = mantissa' := by
  rcases ordered.eq_or_lt with rfl | less
  · exact ⟨rfl, by simpa using same⟩
  · exfalso
    have long : 2 ^ 52 ≤ mantissa' := by
      rcases second.full with least | long
      · have above := first.above
        omega
      · exact long
    have twice : 2 ^ 1 ≤ 2 ^ (exponent' - exponent).toNat :=
      Nat.pow_le_pow_right (by decide) (by omega)
    have tooLong : 2 ^ 52 * 2 ^ 1 ≤ mantissa := by
      rw [same]
      exact Nat.mul_le_mul long twice
    have short := first.short
    omega

/-- Two canonical forms of one value, compared at the lesser of their exponents. -/
theorem Canonical.unique_of_shiftLeft (first : Canonical mantissa exponent)
    (second : Canonical mantissa' exponent')
    (same : mantissa <<< (exponent - min exponent exponent').toNat =
      mantissa' <<< (exponent' - min exponent exponent').toNat) :
    exponent = exponent' ∧ mantissa = mantissa' := by
  rcases le_total exponent exponent' with ordered | ordered
  · rw [min_eq_left ordered] at same
    exact first.unique second ordered (by simpa [Nat.shiftLeft_eq] using same)
  · rw [min_eq_right ordered] at same
    obtain ⟨exponents, mantissas⟩ :=
      second.unique first ordered (by simpa [Nat.shiftLeft_eq] using same.symm)
    exact ⟨exponents.symm, mantissas.symm⟩

/-- An integer other than zero has one sign and one magnitude. -/
theorem apply_injective {sign sign' : Sign} {n n' : Nat} (positive : 0 < n) (positive' : 0 < n')
    (same : sign.apply n = sign'.apply n') : sign = sign' ∧ n = n' := by
  cases sign with
  | negative =>
      cases sign' with
      | negative => exact ⟨rfl, by simpa [Sign.apply] using same⟩
      | positive =>
          simp only [Sign.apply] at same
          omega
  | positive =>
      cases sign' with
      | negative =>
          simp only [Sign.apply] at same
          omega
      | positive => exact ⟨rfl, by simpa [Sign.apply] using same⟩

/-! ## Rounding -/

theorem mantissa_shiftRight (number : ExtendedMantissa) (count : Nat) :
    (number >>> count).mantissa = number.mantissa / 2 ^ count := by
  induction count with
  | zero => simp [HShiftRight.hShiftRight, Nat.repeat]
  | succ count ih =>
      change (ExtendedMantissa.shiftRightOne (number >>> count)).mantissa = _
      rw [ExtendedMantissa.shiftRightOne, ih, Nat.div_div_eq_div_mul, ← Nat.pow_succ]

@[simp]
theorem mantissa_ofMantissaAndAccuracy (mantissa : Nat) (accuracy : Accuracy) :
    (ExtendedMantissa.ofMantissaAndAccuracy mantissa accuracy).mantissa = mantissa := by
  cases accuracy with
  | exact => rfl
  | inexact order => cases order <;> rfl

theorem le_roundedMantissa (number : ExtendedMantissa) :
    number.mantissa ≤ number.roundedMantissa := by
  unfold ExtendedMantissa.roundedMantissa Accuracy.roundToNearestEven
  split <;> omega

/-- Shifting to the target exponent drops digits only where there are more than fit. -/
theorem fits_shiftToTargetExponent (accuracy : Accuracy) (positive : 0 < mantissa)
    (above : -1074 ≤ exponent) :
    Fits (shiftToTargetExponent Format.binary64 mantissa exponent accuracy).1.mantissa
      (shiftToTargetExponent Format.binary64 mantissa exponent accuracy).2 := by
  have target : Format.binary64.targetExponent (totalExponent mantissa exponent) =
      max ((mantissa.log2 : Int) + 1 + exponent - 53) (-1074) := rfl
  simp only [shiftToTargetExponent, shiftToExponent, mantissa_shiftRight,
    mantissa_ofMantissaAndAccuracy, target]
  have least : 2 ^ mantissa.log2 ≤ mantissa := Nat.log2_self_le positive.ne'
  have most : mantissa < 2 ^ (mantissa.log2 + 1) := Nat.lt_log2_self
  generalize mantissa.log2 = size at least most
  generalize shift : (max ((size : Int) + 1 + exponent - 53) (-1074) - exponent).toNat = count
  have fewer : count ≤ size := by omega
  have enough : size + 1 ≤ 53 + count := by omega
  constructor
  · apply Nat.div_pos
    · exact (Nat.pow_le_pow_right (by decide) fewer).trans least
    · exact Nat.two_pow_pos _
  · rw [Nat.div_lt_iff_lt_mul (Nat.two_pow_pos _), ← Nat.pow_add]
    exact most.trans_le (Nat.pow_le_pow_right (by decide) enough)
  · omega

/-- A number with an exponent within range does not vanish when it is rounded. -/
theorem exists_roundWithAccuracy (sign : Sign) (accuracy : Accuracy) (positive : 0 < mantissa)
    (above : -1074 ≤ exponent) :
    ∃ mantissa' exponent' positive', Fits mantissa' exponent' ∧
      roundWithAccuracy Format.binary64 sign mantissa exponent accuracy =
        .finite sign mantissa' exponent' positive' := by
  have cut := fits_shiftToTargetExponent accuracy positive above
  have rounded := cut.positive.trans_le (le_roundedMantissa _)
  have fits := fits_shiftToTargetExponent .exact rounded cut.above
  exact ⟨_, _, fits.positive, fits, dif_neg fits.positive.ne'⟩

theorem shiftLeft_pos (positive : 0 < mantissa) (count : Nat) : 0 < mantissa <<< count := by
  rw [Nat.shiftLeft_eq]
  exact Nat.mul_pos positive (Nat.two_pow_pos _)

theorem exists_round (sign : Sign) (positive : 0 < mantissa) (above : -1074 ≤ exponent) :
    ∃ mantissa' exponent' positive', Fits mantissa' exponent' ∧
      UnpackedFloat.round Format.binary64 sign mantissa exponent =
        .finite sign mantissa' exponent' positive' := by
  unfold UnpackedFloat.round decreaseExponent
  have least : -1074 ≤ Format.binary64.targetExponent (totalExponent mantissa exponent) :=
    le_max_right _ _
  apply exists_roundWithAccuracy sign .exact
  · exact shiftLeft_pos positive _
  · omega

/-! ## Differences -/

/-- Whether a number is a zero. -/
def isZero : UnpackedFloat → Bool
  | .zero _ => true
  | _ => false

/-- A mantissa and an exponent, where there are any, are canonical. -/
def IsCanonical : UnpackedFloat → Prop
  | .finite _ mantissa exponent _ => Canonical mantissa exponent
  | _ => True

/-- A mantissa and an exponent, where there are any, fit. -/
def IsRounded : UnpackedFloat → Prop
  | .finite _ mantissa exponent _ => Fits mantissa exponent
  | _ => True

theorem isRounded_normalize (zeroSign : Sign) (n : Int) (above : -1074 ≤ exponent) :
    IsRounded (UnpackedFloat.normalize Format.binary64 n exponent zeroSign) ∧
      (isZero (UnpackedFloat.normalize Format.binary64 n exponent zeroSign) → n = 0) := by
  unfold UnpackedFloat.normalize
  split
  · rename_i less
    have negative : n < 0 := Int.compare_eq_lt.mp less
    obtain ⟨mantissa', exponent', positive', fits, rounded⟩ :=
      exists_round .negative (show 0 < (-n).toNat by omega) above
    rw [rounded]
    exact ⟨fits, nofun⟩
  · rename_i equal
    exact ⟨trivial, fun _ => Int.compare_eq_eq.mp equal⟩
  · rename_i greater
    have positive : 0 < n := Int.compare_eq_gt.mp greater
    obtain ⟨mantissa', exponent', positive', fits, rounded⟩ :=
      exists_round .positive (show 0 < n.toNat by omega) above
    rw [rounded]
    exact ⟨fits, nofun⟩

theorem compare_self_finite (sign : Sign) (positive : 0 < mantissa) :
    (UnpackedFloat.finite sign mantissa exponent positive).compare
      (.finite sign mantissa exponent positive) = some .eq := by
  unfold UnpackedFloat.compare
  cases sign <;> dsimp only <;> simp

theorem isRounded_sub_finite (sign sign' : Sign) (first : Canonical mantissa exponent)
    (second : Canonical mantissa' exponent') :
    let number := UnpackedFloat.finite sign mantissa exponent first.positive
    let other := UnpackedFloat.finite sign' mantissa' exponent' second.positive
    IsRounded (UnpackedFloat.sub Format.binary64 number other) ∧
      (isZero (UnpackedFloat.sub Format.binary64 number other) →
        number.compare other = some .eq) := by
  intro number other
  have above : -1074 ≤ min exponent exponent' := le_min first.above second.above
  unfold UnpackedFloat.sub decreaseExponent
  obtain ⟨rounded, vanishes⟩ := isRounded_normalize .positive
    (sign.apply ↑(mantissa <<< (exponent - min exponent exponent').toNat) -
      sign'.apply ↑(mantissa' <<< (exponent' - min exponent exponent').toNat)) above
  constructor
  · exact rounded
  · intro zero
    obtain ⟨rfl, shifted⟩ := apply_injective (shiftLeft_pos first.positive _)
      (shiftLeft_pos second.positive _) (Int.sub_eq_zero.mp (vanishes zero))
    obtain ⟨rfl, rfl⟩ := first.unique_of_shiftLeft second shifted
    exact compare_self_finite sign first.positive

/-- A difference is rounded, and it is a zero only of equal numbers. -/
theorem isRounded_sub {first second : UnpackedFloat} (firstCanonical : IsCanonical first)
    (secondCanonical : IsCanonical second) :
    IsRounded (UnpackedFloat.sub Format.binary64 first second) ∧
      (isZero (UnpackedFloat.sub Format.binary64 first second) →
        first.compare second = some .eq) := by
  have notZero {p : Prop} (zero : false = true) : p := absurd zero Bool.false_ne_true
  cases first with
  | notANumber => exact ⟨trivial, notZero⟩
  | infinity sign =>
      cases second with
      | infinity sign' =>
          unfold UnpackedFloat.sub
          dsimp only
          split <;> exact ⟨trivial, notZero⟩
      | notANumber | zero | finite => exact ⟨trivial, notZero⟩
  | zero sign =>
      cases second with
      | zero sign' =>
          unfold UnpackedFloat.sub
          dsimp only
          split <;> exact ⟨trivial, fun _ => rfl⟩
      | infinity | notANumber => exact ⟨trivial, notZero⟩
      | finite => exact ⟨secondCanonical.toFits, notZero⟩
  | finite sign =>
      cases second with
      | infinity | notANumber => exact ⟨trivial, notZero⟩
      | zero => exact ⟨firstCanonical.toFits, notZero⟩
      | finite sign' => exact isRounded_sub_finite sign sign' firstCanonical secondCanonical

/-! ## Bits -/

variable {bits : BitVec Format.binary64.numBits} {sign : Sign}
  {field : BitVec Format.binary64.exponentBits}
  {fraction : BitVec Format.binary64.mantissaBitsWithoutImplicit}

theorem exponentBias_binary64 : Format.binary64.exponentBias = 1023 := by
  decide

theorem toNat_one_append : (1#1 ++ fraction).toNat = 2 ^ 52 + fraction.toNat := by
  rw [BitVec.toNat_append, ← Nat.shiftLeft_add_eq_or_of_lt fraction.isLt]
  rfl

theorem canonical_unpack {positive : 0 < mantissa}
    (unpacked : UnpackedFloat.unpack Format.binary64 bits = .finite sign mantissa exponent positive) :
    Canonical mantissa exponent := by
  have short : (unpackMantissa bits).toNat < 2 ^ 52 := BitVec.isLt _
  have few : (unpackExponent bits).toNat < 2048 := BitVec.isLt _
  unfold UnpackedFloat.unpack at unpacked
  simp only [exponentBias_binary64] at unpacked
  split at unpacked
  · split at unpacked <;> cases unpacked
  · rename_i notFull
    have fewer : (unpackExponent bits).toNat ≠ 2047 :=
      fun full => notFull (BitVec.eq_of_toNat_eq full)
    split at unpacked
    · rename_i subnormal
      split at unpacked
      · cases unpacked
      · cases unpacked
        rw [subnormal]
        exact ⟨⟨positive, by omega, by decide⟩, .inl (by decide), by decide⟩
    · rename_i normal
      have some : (unpackExponent bits).toNat ≠ 0 :=
        fun none => normal (BitVec.eq_of_toNat_eq none)
      cases unpacked
      rw [toNat_one_append]
      change Canonical _ ((unpackExponent bits).toNat - ((1023 : Nat) + (52 : Nat) : Int))
      refine ⟨⟨?_, ?_, ?_⟩, .inr ?_, ?_⟩ <;> omega

/-- What is packed from a field for the exponent and a fraction is a zero only if both are. -/
theorem eq_zero_of_isZero_packComponents
    (zero : isZero (UnpackedFloat.unpack Format.binary64
      (packComponents Format.binary64 sign field fraction))) : field = 0 ∧ fraction = 0 := by
  unfold UnpackedFloat.unpack at zero
  simp only [unpackMantissa_packComponents, unpackExponent_packComponents] at zero
  split at zero
  · split at zero <;> cases zero
  · split at zero
    · split at zero
      · constructor <;> assumption
      · cases zero
    · cases zero

theorem isZero_unpack_pack_finite (sign : Sign) (fits : Fits mantissa exponent) :
    isZero (UnpackedFloat.unpack Format.binary64
      (UnpackedFloat.pack Format.binary64
        (.finite sign mantissa exponent fits.positive))) = false := by
  obtain ⟨positive, short, above⟩ := fits
  rw [Bool.eq_false_iff]
  intro zero
  unfold UnpackedFloat.pack at zero
  simp only [exponentBias_binary64] at zero
  split at zero
  · obtain ⟨noField, _⟩ := eq_zero_of_isZero_packComponents zero
    exact absurd noField (by decide)
  · split at zero
    · obtain ⟨noField, _⟩ := eq_zero_of_isZero_packComponents zero
      have vanished := congrArg BitVec.toNat noField
      rw [BitVec.toNat_ofNat] at vanished
      change _ = (0 : Nat) at vanished
      omega
    · rename_i subnormal
      obtain ⟨_, noFraction⟩ := eq_zero_of_isZero_packComponents zero
      have vanished := congrArg BitVec.toNat noFraction
      rw [BitVec.toNat_ofNat] at vanished
      change _ = (0 : Nat) at vanished
      have notLonger : mantissa.log2 < 53 := (Nat.log2_lt positive.ne').mpr short
      have notFull : mantissa.log2 + 1 ≠ 53 := subnormal
      have shorter : mantissa < 2 ^ 52 := (Nat.log2_lt positive.ne').mp (by omega)
      rw [Nat.mod_eq_of_lt shorter] at vanished
      exact positive.ne' vanished

theorem isZero_of_isZero_pack {number : UnpackedFloat} (rounded : IsRounded number)
    (zero : isZero (Float.Model.pack number).unpack) : isZero number := by
  cases number with
  | zero => rfl
  | finite sign =>
      have notZero := isZero_unpack_pack_finite sign rounded
      exact absurd zero (Bool.eq_false_iff.mp notZero)
  | infinity | notANumber =>
      obtain ⟨noField, _⟩ := eq_zero_of_isZero_packComponents zero
      exact absurd noField (by decide)

theorem toNat_unpackExponent : (unpackExponent bits).toNat = bits.toNat / 2 ^ 52 % 2048 := by
  unfold unpackExponent
  simp [BitVec.extractLsb, BitVec.extractLsb'_toNat, Nat.shiftRight_eq_div_pow]

theorem unpackExponent_eq_full_iff : unpackExponent bits = -1 ↔ bits.toNat / 2 ^ 52 % 2048 = 2047 := by
  rw [← BitVec.toNat_inj, toNat_unpackExponent]
  rfl

theorem isFinite_unpack_iff :
    (UnpackedFloat.unpack Format.binary64 bits).isFinite ↔ bits.toNat / 2 ^ 52 % 2048 ≠ 2047 := by
  rw [ne_eq, ← unpackExponent_eq_full_iff]
  unfold UnpackedFloat.unpack
  constructor
  · intro finite full
    simp only [full] at finite
    split at finite <;> split at finite <;> contradiction
  · intro notFull
    simp only
    split
    · contradiction
    · split
      · split <;> rfl
      · rfl

theorem isFinite_unpack_packComponents :
    (UnpackedFloat.unpack Format.binary64
      (packComponents Format.binary64 sign field fraction)).isFinite ↔ field ≠ -1 := by
  unfold UnpackedFloat.unpack
  simp only [unpackMantissa_packComponents, unpackExponent_packComponents]
  split
  · rename_i full
    split <;> exact iff_of_false Bool.false_ne_true (not_not.mpr full)
  · rename_i notFull
    split
    · split <;> exact iff_of_true rfl notFull
    · exact iff_of_true rfl notFull

theorem isFinite_unpack_pack_finite (sign : Sign) (positive : 0 < mantissa) :
    (UnpackedFloat.unpack Format.binary64
      (UnpackedFloat.pack Format.binary64 (.finite sign mantissa exponent positive))).isFinite ↔
        exponent ≤ 971 := by
  unfold UnpackedFloat.pack
  simp only [exponentBias_binary64]
  by_cases infinite : 972 ≤ exponent
  · rw [if_pos (by omega)]
    exact iff_of_false (isFinite_unpack_packComponents.not.mpr (by decide)) (by omega)
  · rw [if_neg (by omega)]
    refine iff_of_true ?_ (by omega)
    split
    · apply isFinite_unpack_packComponents.mpr
      intro full
      have biased := congrArg BitVec.toNat full
      rw [BitVec.toNat_ofNat] at biased
      change _ = (2047 : Nat) at biased
      omega
    · exact isFinite_unpack_packComponents.mpr (by decide)

/-! ## Floats -/

theorem isCanonical_unpack (x : Float) : IsCanonical x.toModel.unpack := by
  cases unpacked : x.toModel.unpack with
  | finite => exact canonical_unpack unpacked
  | infinity | zero | notANumber => trivial

theorem beq_zero (x : Float) : (x == 0) = isZero x.toModel.unpack := by
  have zero : (0 : Float).toModel.unpack = .zero .positive := rfl
  change UnpackedFloat.beq x.toModel.unpack (0 : Float).toModel.unpack = _
  rw [zero]
  cases x.toModel.unpack with
  | finite sign | infinity sign => cases sign <;> rfl
  | zero | notANumber => rfl

/-- The difference of two numbers that are not equal is not zero. -/
theorem sub_beq_zero {x y : Float} (less : ¬x ≥ y) : (y - x == 0) = false := by
  rw [beq_zero, Bool.eq_false_iff]
  intro zero
  obtain ⟨rounded, equal⟩ := isRounded_sub (isCanonical_unpack y) (isCanonical_unpack x)
  have same := equal (isZero_of_isZero_pack rounded zero)
  apply less
  have below : UnpackedFloat.le y.toModel.unpack x.toModel.unpack = true := by
    rw [UnpackedFloat.le, same]
    rfl
  exact decide_eq_true below

/-- A positive number is not zero. -/
theorem beq_zero_of_pos {x : Float} (positive : x > 0) : (x == 0) = false := by
  rw [beq_zero, Bool.eq_false_iff]
  intro zero
  have zeroUnpacked : (0 : Float).toModel.unpack = .zero .positive := rfl
  have less : UnpackedFloat.lt (0 : Float).toModel.unpack x.toModel.unpack = true :=
    of_decide_eq_true positive
  rw [zeroUnpacked] at less
  cases unpacked : x.toModel.unpack with
  | zero =>
      rw [unpacked] at less
      cases less
  | finite | infinity | notANumber =>
      rw [unpacked] at zero
      cases zero

/-- The field for the exponent of a finite number is not full. -/
theorem field_ne_of_isFinite {x : Float} (finite : x.isFinite) :
    x.toBits.toNat / 2 ^ 52 % 2048 ≠ 2047 :=
  isFinite_unpack_iff.mp finite

/-- Bits whose field for the exponent is not full make a finite number. -/
theorem isFinite_ofBits {bits : UInt64} (notFull : bits.toNat / 2 ^ 52 % 2048 ≠ 2047) :
    (Float.ofBits bits).isFinite := by
  have finite : (UnpackedFloat.unpack Format.binary64 bits.toBitVec).isFinite :=
    isFinite_unpack_iff.mpr notFull
  change (Float.Model.pack (UnpackedFloat.unpack Format.binary64 bits.toBitVec)).unpack.isFinite
  cases unpacked : UnpackedFloat.unpack Format.binary64 bits.toBitVec with
  | zero => exact isFinite_unpack_packComponents.mpr (by decide)
  | finite sign _ _ positive =>
      exact (isFinite_unpack_pack_finite sign positive).mpr (canonical_unpack unpacked).below
  | infinity | notANumber =>
      rw [unpacked] at finite
      cases finite

theorem isInf_of_isFinite {x : Float} (finite : x.isFinite) : x.isInf = false := by
  have unpacked : x.toModel.unpack.isFinite := finite
  change x.toModel.unpack.isInf = false
  cases number : x.toModel.unpack with
  | zero | finite | notANumber => rfl
  | infinity =>
      rw [number] at unpacked
      cases unpacked

end Linework.Decimal
