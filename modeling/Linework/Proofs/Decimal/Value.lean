import Linework.Proofs.Decimal.Rounding

/-!
# Exact values

Finite numbers compare as their exact values do. A difference, a quotient or a product of two of them is finite
just if the exact one is below the overflow, and the difference of a greater number and a lesser one is positive.
-/

namespace Linework.Decimal

open Float.Model Float.Model.UnpackedFloat

/-- The exact value of a number that was taken apart. -/
def Binary.value (b : Binary) : ℚ :=
  (if b.negative then -1 else 1) * (b.mantissa * 2 ^ b.exponent)

/-- The exact value of a finite number. -/
def exactValue (x : Float) : ℚ :=
  (Binary.ofFloat x).value

/-! ## Values of unpacked numbers -/

/-- The exact value of an unpacked number; infinities and NaN have none. -/
def unpackedValue : UnpackedFloat → ℚ
  | .finite sign mantissa exponent _ => sign.apply mantissa * 2 ^ exponent
  | _ => 0

variable {mantissa mantissa' : Nat} {exponent exponent' : Int}

theorem unpackedValue_zero (sign : Sign) : unpackedValue (.zero sign) = 0 :=
  rfl

theorem unpackedValue_positive {positive : 0 < mantissa} :
    unpackedValue (.finite .positive mantissa exponent positive) = mantissa * 2 ^ exponent :=
  rfl

theorem unpackedValue_negative {positive : 0 < mantissa} :
    unpackedValue (.finite .negative mantissa exponent positive) = -(mantissa * 2 ^ exponent) := by
  simp [unpackedValue, Sign.apply]

theorem scaled_pos (exponent : Int) (positive : 0 < mantissa) : (0 : ℚ) < mantissa * 2 ^ exponent :=
  mul_pos (by exact_mod_cast positive) (zpow_pos (by norm_num) exponent)

section Bits

variable {bits : BitVec Format.binary64.numBits}

theorem toNat_unpackMantissa : (unpackMantissa bits).toNat = bits.toNat % 2 ^ 52 := by
  unfold unpackMantissa
  simp [BitVec.extractLsb, BitVec.extractLsb'_toNat]

theorem toNat_unpackSign : (unpackSign bits).toNat = bits.toNat / 2 ^ 63 := by
  have top : bits.toNat < 2 ^ 64 := bits.isLt
  unfold unpackSign
  simp [BitVec.extractLsb, BitVec.extractLsb'_toNat, Nat.shiftRight_eq_div_pow]
  omega

theorem apply_unpackSign (n : Nat) : ((Sign.ofBitVec (unpackSign bits)).apply n : ℚ) =
    (if bits.toNat / 2 ^ 63 == 1 then -1 else 1) * n := by
  by_cases negative : bits.toNat / 2 ^ 63 = 1
  · have one : unpackSign bits = 1#1 := BitVec.eq_of_toNat_eq (toNat_unpackSign.trans negative)
    rw [one, if_pos (beq_iff_eq.mpr negative)]
    simp [Sign.ofBitVec, Sign.apply]
  · have top : bits.toNat < 2 ^ 64 := bits.isLt
    have positive : bits.toNat / 2 ^ 63 = 0 := by omega
    have none : unpackSign bits = 0#1 := BitVec.eq_of_toNat_eq (toNat_unpackSign.trans positive)
    rw [none, if_neg (beq_iff_eq.not.mpr negative)]
    simp [Sign.ofBitVec, Sign.apply]

end Bits

/-- What a float is unpacked to has the exact value of its parts. -/
theorem unpackedValue_unpack {x : Float} (finite : x.isFinite) :
    unpackedValue x.toModel.unpack = exactValue x := by
  obtain ⟨bits, same⟩ : ∃ bits : BitVec Format.binary64.numBits, x.toBits.toBitVec = bits := ⟨_, rfl⟩
  have natural : x.toBits.toNat = bits.toNat := congrArg BitVec.toNat same
  have notFull : bits.toNat / 2 ^ 52 % 2048 ≠ 2047 := natural ▸ field_ne_of_isFinite finite
  have kept : ¬unpackExponent bits = -1#_ := unpackExponent_eq_full_iff.not.mpr notFull
  change unpackedValue (UnpackedFloat.unpack Format.binary64 x.toBits.toBitVec) = _
  rw [same]
  unfold exactValue Binary.value Binary.ofFloat UnpackedFloat.unpack
  simp only [natural, exponentBias_binary64]
  rw [if_neg kept]
  by_cases least : bits.toNat / 2 ^ 52 % 2048 = 0
  · have subnormal : unpackExponent bits = 0#_ := BitVec.eq_of_toNat_eq (toNat_unpackExponent.trans least)
    have parts : (bits.toNat / Nat.pow 2 52 % 2048 == 0) = true := beq_iff_eq.mpr least
    rw [if_pos subnormal, if_pos parts]
    split
    · rename_i zero
      have none : bits.toNat % Nat.pow 2 52 = 0 :=
        toNat_unpackMantissa.symm.trans (congrArg BitVec.toNat zero)
      simp [unpackedValue, none]
    · rw [unpackedValue, apply_unpackSign, toNat_unpackMantissa, subnormal, mul_assoc]
      rfl
  · have normal : ¬unpackExponent bits = 0#_ := fun zero =>
      least (toNat_unpackExponent.symm.trans (congrArg BitVec.toNat zero))
    have parts : ¬(bits.toNat / Nat.pow 2 52 % 2048 == 0) = true := beq_iff_eq.not.mpr least
    rw [if_neg normal, if_neg parts, unpackedValue, apply_unpackSign, toNat_one_append,
      toNat_unpackMantissa, toNat_unpackExponent, mul_assoc, Nat.add_comm]
    rfl

/-! ## Comparisons -/

/-- Of two canonical forms, the one with the lesser exponent has the lesser value. -/
theorem Canonical.lt_of_exponent_lt (first : Canonical mantissa exponent)
    (second : Canonical mantissa' exponent') (less : exponent < exponent') :
    (mantissa : ℚ) * 2 ^ exponent < mantissa' * 2 ^ exponent' := by
  have long : 2 ^ 52 ≤ mantissa' := by
    rcases second.full with least | long
    · have above := first.above
      omega
    · exact long
  have short : ((mantissa : Nat) : ℚ) < ((2 ^ 53 : Nat) : ℚ) := by exact_mod_cast first.short
  have longer : ((2 ^ 52 : Nat) : ℚ) ≤ (mantissa' : ℚ) := by exact_mod_cast long
  calc (mantissa : ℚ) * 2 ^ exponent < ((2 ^ 53 : Nat) : ℚ) * 2 ^ exponent :=
        mul_lt_mul_of_pos_right short (zpow_pos (by norm_num) exponent)
    _ = ((2 ^ 52 : Nat) : ℚ) * 2 ^ (exponent + (1 : Nat)) := by
      rw [two_zpow_add, ← mul_assoc]
      norm_num
    _ ≤ ((2 ^ 52 : Nat) : ℚ) * 2 ^ exponent' :=
      mul_le_mul_of_nonneg_left (two_zpow_le (by omega)) (by positivity)
    _ ≤ mantissa' * 2 ^ exponent' :=
      mul_le_mul_of_nonneg_right longer (zpow_nonneg (by norm_num) exponent')

/-- Canonical forms compare as their values do. -/
theorem Canonical.compare_eq (first : Canonical mantissa exponent) (second : Canonical mantissa' exponent') :
    (compare exponent exponent').then (compare mantissa mantissa') =
      compare ((mantissa : ℚ) * 2 ^ exponent) (mantissa' * 2 ^ exponent') := by
  rcases lt_trichotomy exponent exponent' with less | rfl | greater
  · rw [compare_lt_iff_lt.mpr less, compare_lt_iff_lt.mpr (first.lt_of_exponent_lt second less)]
    rfl
  · have positive : (0 : ℚ) < 2 ^ exponent := zpow_pos (by norm_num) exponent
    rw [compare_eq_iff_eq.mpr rfl, Ordering.eq_then, ← cmp_eq_compare, ← cmp_eq_compare,
      cmp_mul_pos_right positive, Nat.strictMono_cast.cmp_map_eq]
  · rw [compare_gt_iff_gt.mpr greater, compare_gt_iff_gt.mpr (second.lt_of_exponent_lt first greater)]
    rfl

/-- Finite numbers compare as their exact values do. -/
theorem compare_unpackedValue {first second : UnpackedFloat} (firstFinite : first.isFinite)
    (secondFinite : second.isFinite) (firstCanonical : IsCanonical first)
    (secondCanonical : IsCanonical second) :
    first.compare second = some (compare (unpackedValue first) (unpackedValue second)) := by
  cases first with
  | infinity | notANumber => cases firstFinite
  | zero sign =>
      cases second with
      | infinity | notANumber => cases secondFinite
      | zero sign' => exact congrArg some (compare_eq_iff_eq.mpr rfl).symm
      | finite sign' mantissa exponent positive =>
          cases sign' with
          | positive => exact congrArg some (compare_lt_iff_lt.mpr (scaled_pos _ positive)).symm
          | negative =>
              rw [unpackedValue_negative]
              exact congrArg some (compare_gt_iff_gt.mpr (neg_neg_of_pos (scaled_pos _ positive))).symm
  | finite sign mantissa exponent positive =>
      cases second with
      | infinity | notANumber => cases secondFinite
      | zero sign' =>
          cases sign with
          | positive => exact congrArg some (compare_gt_iff_gt.mpr (scaled_pos _ positive)).symm
          | negative =>
              rw [unpackedValue_negative]
              exact congrArg some (compare_lt_iff_lt.mpr (neg_neg_of_pos (scaled_pos _ positive))).symm
      | finite sign' mantissa' exponent' positive' =>
          have magnitudes := firstCanonical.compare_eq secondCanonical
          cases sign with
          | positive =>
              cases sign' with
              | positive => exact congrArg some magnitudes
              | negative =>
                  rw [unpackedValue_negative]
                  have less := (neg_neg_of_pos (scaled_pos exponent' positive')).trans (scaled_pos exponent positive)
                  exact congrArg some (compare_gt_iff_gt.mpr less).symm
          | negative =>
              cases sign' with
              | positive =>
                  rw [unpackedValue_negative]
                  have less := (neg_neg_of_pos (scaled_pos exponent positive)).trans (scaled_pos exponent' positive')
                  exact congrArg some (compare_lt_iff_lt.mpr less).symm
              | negative =>
                  rw [unpackedValue_negative, unpackedValue_negative, ← cmp_eq_compare,
                    StrictAnti.cmp_map_eq fun _ _ => neg_lt_neg, ← cmp_swap, cmp_eq_compare, ← magnitudes]
                  rfl

section Floats

variable {x y : Float}

theorem le_iff_exactValue (xFinite : x.isFinite) (yFinite : y.isFinite) :
    x ≤ y ↔ exactValue x ≤ exactValue y := by
  have compared := compare_unpackedValue xFinite yFinite (isCanonical_unpack x) (isCanonical_unpack y)
  have unfolded : x ≤ y ↔ UnpackedFloat.le x.toModel.unpack y.toModel.unpack = true := decide_eq_true_iff
  rw [unfolded, UnpackedFloat.le, compared, unpackedValue_unpack xFinite, unpackedValue_unpack yFinite]
  exact Ordering.isLE_iff_ne_gt.trans compare_le_iff_le

theorem lt_iff_exactValue (xFinite : x.isFinite) (yFinite : y.isFinite) :
    x < y ↔ exactValue x < exactValue y := by
  have compared := compare_unpackedValue xFinite yFinite (isCanonical_unpack x) (isCanonical_unpack y)
  have unfolded : x < y ↔ UnpackedFloat.lt x.toModel.unpack y.toModel.unpack = true := decide_eq_true_iff
  rw [unfolded, UnpackedFloat.lt, compared, unpackedValue_unpack xFinite, unpackedValue_unpack yFinite]
  simp only [beq_iff_eq, Option.some.injEq]
  exact compare_lt_iff_lt

end Floats

/-! ## Positive results -/

/-- Whether a number is above zero. -/
def isPositive : UnpackedFloat → Bool
  | .finite .positive .. => true
  | .infinity .positive => true
  | _ => false

theorem pos_iff_isPositive (x : Float) : 0 < x ↔ isPositive x.toModel.unpack := by
  have zero : (0 : Float).toModel.unpack = .zero .positive := rfl
  have unfolded : 0 < x ↔ UnpackedFloat.lt (0 : Float).toModel.unpack x.toModel.unpack = true :=
    decide_eq_true_iff
  rw [unfolded, zero]
  cases x.toModel.unpack with
  | finite sign | infinity sign => cases sign <;> exact Iff.rfl
  | zero | notANumber => exact Iff.rfl

section Packing

variable {sign : Sign} {field : BitVec Format.binary64.exponentBits}
  {fraction : BitVec Format.binary64.mantissaBitsWithoutImplicit}

theorem exists_packComponents (sign : Sign) (exponent : Int) (positive : 0 < mantissa) :
    ∃ field fraction, UnpackedFloat.pack Format.binary64 (.finite sign mantissa exponent positive) =
      packComponents Format.binary64 sign field fraction := by
  unfold UnpackedFloat.pack
  simp only
  split
  · exact ⟨_, _, rfl⟩
  · split <;> exact ⟨_, _, rfl⟩

theorem isPositive_unpack_packComponents
    (finite : (UnpackedFloat.unpack Format.binary64
      (packComponents Format.binary64 .positive field fraction)).isFinite)
    (notZero : isZero (UnpackedFloat.unpack Format.binary64
      (packComponents Format.binary64 .positive field fraction)) = false) :
    isPositive (UnpackedFloat.unpack Format.binary64
      (packComponents Format.binary64 .positive field fraction)) := by
  have kept : ¬field = -1#_ := isFinite_unpack_packComponents.mp finite
  unfold UnpackedFloat.unpack at notZero ⊢
  simp only [unpackMantissa_packComponents, unpackExponent_packComponents, unpackSign_packComponents,
    Sign.ofBitVec_toBitVec] at notZero ⊢
  rw [if_neg kept] at notZero ⊢
  split at notZero <;> rename_i exponents
  · rw [if_pos exponents]
    split at notZero <;> rename_i digits
    · cases notZero
    · rw [dif_neg digits]
      rfl
  · rw [if_neg exponents]
    rfl

theorem isPositive_unpack_pack_finite (fits : Fits mantissa exponent) :
    isPositive (UnpackedFloat.unpack Format.binary64 (UnpackedFloat.pack Format.binary64
      (.finite .positive mantissa exponent fits.positive))) := by
  by_cases below : exponent ≤ 971
  · have finite := (isFinite_unpack_pack_finite .positive fits.positive).mpr below
    have notZero := isZero_unpack_pack_finite .positive fits
    obtain ⟨field, fraction, packed⟩ := exists_packComponents .positive exponent fits.positive
    rw [packed] at finite notZero ⊢
    exact isPositive_unpack_packComponents finite notZero
  · unfold UnpackedFloat.pack
    simp only [exponentBias_binary64]
    rw [if_pos (by omega)]
    rfl

end Packing

/-- The number of an exact value, as it is packed: positive, and finite just below the overflow. -/
structure Packs (number : UnpackedFloat) (exact : ℚ) : Prop where
  positive : isPositive (UnpackedFloat.unpack Format.binary64 (UnpackedFloat.pack Format.binary64 number))
  finite_iff : (UnpackedFloat.unpack Format.binary64
    (UnpackedFloat.pack Format.binary64 number)).isFinite ↔ exact < overflow

/-- Canonical numbers are packed as they are. -/
theorem Canonical.packs (canonical : Canonical mantissa exponent) :
    Packs (.finite .positive mantissa exponent canonical.positive) (mantissa * 2 ^ exponent) := by
  have positive : (0 : ℚ) < 2 ^ exponent := zpow_pos (by norm_num) exponent
  have short : ((mantissa + 1 : Nat) : ℚ) ≤ ((2 ^ 53 : Nat) : ℚ) := by exact_mod_cast canonical.short
  push_cast at short
  have small : (mantissa : ℚ) * 2 ^ exponent < overflow := by
    have power : (2 : ℚ) ^ (971 : Int) = 2 ^ 1 * 2 ^ (970 : Int) := two_zpow_add 970 1
    calc (mantissa : ℚ) * 2 ^ exponent ≤ (2 ^ 53 - 1) * 2 ^ (971 : Int) :=
          mul_le_mul (by linarith) (two_zpow_le canonical.below) positive.le (by norm_num)
      _ < overflow := by
        rw [overflow_eq, power, ← mul_assoc]
        exact mul_lt_mul_of_pos_right (by norm_num) (zpow_pos (by norm_num) 970)
  constructor
  · exact isPositive_unpack_pack_finite canonical.toFits
  · exact iff_of_true ((isFinite_unpack_pack_finite .positive canonical.positive).mpr canonical.below) small

theorem log2_shiftLeft (positive : 0 < mantissa) (count : Nat) :
    (mantissa <<< count).log2 = mantissa.log2 + count := by
  have shifted := (shiftLeft_pos positive count).ne'
  rw [Nat.log2_eq_iff shifted, Nat.shiftLeft_eq, Nat.add_right_comm, pow_add, pow_add]
  have least := Nat.log2_self_le positive.ne'
  have most := mantissa.lt_log2_self
  exact ⟨Nat.mul_le_mul_right _ least, Nat.mul_lt_mul_of_pos_right most (Nat.two_pow_pos count)⟩

/-- A positive number is rounded to a positive one. -/
theorem packs_round (positive : 0 < mantissa) (above : -1074 ≤ exponent) :
    Packs (UnpackedFloat.round Format.binary64 .positive mantissa exponent) (mantissa * 2 ^ exponent) := by
  constructor
  · obtain ⟨mantissa', exponent', positive', fits, rounded⟩ := exists_round .positive positive above
    rw [rounded]
    exact isPositive_unpack_pack_finite fits
  · unfold UnpackedFloat.round decreaseExponent
    simp only [targetExponent_eq]
    generalize lowered : (exponent - targetOf mantissa exponent).toNat = count
    have room : exponent - count ≤ targetOf (mantissa <<< count) (exponent - count) := by
      unfold targetOf at lowered ⊢
      rw [log2_shiftLeft positive]
      omega
    have value : ((mantissa <<< count : Nat) : ℚ) * 2 ^ (exponent - count) = mantissa * 2 ^ exponent := by
      have power : (2 : ℚ) ^ exponent = 2 ^ count * 2 ^ (exponent - count) := by
        rw [← two_zpow_add, Int.sub_add_cancel]
      rw [power, Nat.shiftLeft_eq]
      push_cast
      ring
    rw [← value]
    exact isFinite_roundWithAccuracy .positive (approximates_exact _) room

/-- A value over a lesser exponent. -/
theorem apply_shiftLeft (sign : Sign) (mantissa : Nat) {exponent lesser : Int} (ordered : lesser ≤ exponent) :
    ((sign.apply (mantissa <<< (exponent - lesser).toNat : Nat) : Int) : ℚ) * 2 ^ lesser =
      sign.apply mantissa * 2 ^ exponent := by
  have power : (2 : ℚ) ^ exponent = 2 ^ (exponent - lesser).toNat * 2 ^ lesser := by
    rw [← two_zpow_add, Int.toNat_of_nonneg (by omega)]
    congr 1
    omega
  cases sign <;> simp only [Sign.apply, Nat.shiftLeft_eq, power] <;> push_cast <;> ring

/-- The difference of two finite numbers. -/
theorem packs_sub {first second : UnpackedFloat} (firstFinite : first.isFinite)
    (secondFinite : second.isFinite) (firstCanonical : IsCanonical first)
    (secondCanonical : IsCanonical second) (less : unpackedValue first < unpackedValue second) :
    Packs (UnpackedFloat.sub Format.binary64 second first) (unpackedValue second - unpackedValue first) := by
  cases second with
  | infinity | notANumber => cases secondFinite
  | zero sign =>
      cases first with
      | infinity | notANumber => cases firstFinite
      | zero sign' => exact absurd less (lt_irrefl _)
      | finite sign' mantissa exponent positive =>
          cases sign' with
          | positive => exact absurd less (scaled_pos exponent positive).le.not_gt
          | negative =>
              rw [unpackedValue_negative, unpackedValue_zero, sub_neg_eq_add, zero_add]
              exact firstCanonical.packs
  | finite sign mantissa exponent positive =>
      cases first with
      | infinity | notANumber => cases firstFinite
      | zero sign' =>
          cases sign with
          | positive =>
              rw [unpackedValue_positive, unpackedValue_zero, sub_zero]
              exact secondCanonical.packs
          | negative =>
              rw [unpackedValue_negative] at less
              exact absurd less (neg_neg_of_pos (scaled_pos exponent positive)).le.not_gt
      | finite sign' mantissa' exponent' positive' =>
          have above : -1074 ≤ min exponent exponent' := le_min secondCanonical.above firstCanonical.above
          generalize lesser : min exponent exponent' = least at above
          generalize difference : sign.apply (mantissa <<< (exponent - least).toNat : Nat) -
            sign'.apply (mantissa' <<< (exponent' - least).toNat : Nat) = n
          have value : unpackedValue (.finite sign mantissa exponent positive) -
              unpackedValue (.finite sign' mantissa' exponent' positive') = n * 2 ^ least := by
            rw [← difference, Int.cast_sub, sub_mul, apply_shiftLeft sign mantissa (by omega),
              apply_shiftLeft sign' mantissa' (by omega)]
            rfl
          have some : 0 < n := by
            have sum := sub_pos.mpr less
            rw [value] at sum
            exact_mod_cast (mul_pos_iff_of_pos_right (zpow_pos (by norm_num) least)).mp sum
          have natural : ((n.toNat : Nat) : ℚ) = n := by exact_mod_cast Int.toNat_of_nonneg some.le
          have result : UnpackedFloat.sub Format.binary64 (.finite sign mantissa exponent positive)
              (.finite sign' mantissa' exponent' positive') =
                UnpackedFloat.round Format.binary64 .positive n.toNat least := by
            unfold UnpackedFloat.sub decreaseExponent UnpackedFloat.normalize
            simp only [lesser, difference, Int.compare_eq_gt.mpr some]
          rw [result, value, ← natural]
          exact packs_round (by omega) above

/-! ## Quotients -/

/-- A quotient of naturals, with the accuracy that its rest gives. -/
theorem approximates_div {num den : Nat} (positive : 0 < den) :
    Approximates (ExtendedMantissa.ofMantissaAndAccuracy (num / den) (accuracyOfFraction (num % den) den))
      (num / den : ℚ) := by
  have less : num % den < den := Nat.mod_lt num positive
  have whole : (num : ℚ) = den * (num / den : Nat) + (num % den : Nat) := by
    exact_mod_cast (Nat.div_add_mod num den).symm
  have some : (0 : ℚ) < den := by exact_mod_cast positive
  have split : (num / den : ℚ) = (num / den : Nat) + (num % den : Nat) / den := by
    rw [whole, add_div, mul_div_cancel_left₀ _ some.ne']
  rw [split]
  generalize num / den = quotient
  generalize num % den = rest at less
  have restLess : (rest : ℚ) / den < 1 := (div_lt_one some).mpr (by exact_mod_cast less)
  have restNonneg : (0 : ℚ) ≤ rest / den := by positivity
  have half : den ≤ 2 * rest ↔ (1 / 2 : ℚ) ≤ rest / den := by
    rw [le_div_iff₀ some, ← Nat.cast_le (α := ℚ)]
    push_cast
    constructor <;> intro _ <;> linarith
  constructor
  · rw [mantissa_ofMantissaAndAccuracy]
    linarith
  · rw [mantissa_ofMantissaAndAccuracy]
    linarith
  · rw [mantissa_ofMantissaAndAccuracy, add_le_add_iff_left, ← half]
    unfold accuracyOfFraction
    split
    · rename_i none
      exact iff_of_false Bool.false_ne_true (by omega)
    · rcases lt_trichotomy (2 * rest) den with below | same | above
      · rw [compare_lt_iff_lt.mpr below]
        exact iff_of_false Bool.false_ne_true (by omega)
      · rw [compare_eq_iff_eq.mpr same]
        exact iff_of_true rfl same.ge
      · rw [compare_gt_iff_gt.mpr above]
        exact iff_of_true rfl above.le

/-- A quotient is worked out to 53 digits at least, unless its exponent is the least one. -/
theorem quotient_room (positive : 0 < mantissa) (positive' : 0 < mantissa') {shift : Nat} {target : Int}
    (lowered : target ≤ max ((mantissa.log2 : Int) + exponent - (mantissa'.log2 + exponent') - 53) (-1074))
    (moved : target + shift = exponent - exponent') :
    target ≤ targetOf ((mantissa <<< shift) / mantissa') target := by
  unfold targetOf
  rcases le_or_gt target (-1074) with least | above
  · omega
  · have digits : mantissa'.log2 + 1 + 52 ≤ (mantissa <<< shift).log2 := by
      rw [log2_shiftLeft positive]
      omega
    have most : mantissa' < 2 ^ (mantissa'.log2 + 1) := Nat.lt_log2_self
    have long : 2 ^ 52 ≤ (mantissa <<< shift) / mantissa' := by
      rw [Nat.le_div_iff_mul_le positive']
      calc 2 ^ 52 * mantissa' ≤ 2 ^ 52 * 2 ^ (mantissa'.log2 + 1) := Nat.mul_le_mul_left _ most.le
        _ = 2 ^ (mantissa'.log2 + 1 + 52) := by rw [← Nat.pow_add, Nat.add_comm]
        _ ≤ mantissa <<< shift := (Nat.le_log2 (shiftLeft_pos positive shift).ne').mp digits
    have enough : 52 ≤ ((mantissa <<< shift) / mantissa').log2 :=
      (Nat.le_log2 (by omega)).mpr long
    omega

/-- The quotient of two positive numbers is finite just if the exact one is below the overflow. -/
theorem isFinite_div_finite (positive : 0 < mantissa) (positive' : 0 < mantissa') :
    (UnpackedFloat.unpack Format.binary64 (UnpackedFloat.pack Format.binary64
      (UnpackedFloat.div Format.binary64 (.finite .positive mantissa exponent positive)
        (.finite .positive mantissa' exponent' positive')))).isFinite ↔
      (mantissa * 2 ^ exponent : ℚ) / (mantissa' * 2 ^ exponent') < overflow := by
  unfold UnpackedFloat.div divCore
  simp only
  have least : Format.binary64.targetExponent (totalExponent mantissa exponent -
      totalExponent mantissa' exponent') =
        max ((mantissa.log2 : Int) + 1 + exponent - (mantissa'.log2 + 1 + exponent') - 53) (-1074) := rfl
  rw [least]
  generalize lowered : min (exponent - exponent') (max ((mantissa.log2 : Int) + 1 + exponent -
    (mantissa'.log2 + 1 + exponent') - 53) (-1074)) = target
  generalize shifted : (exponent - exponent' - target).toNat = shift
  have moved : target + shift = exponent - exponent' := by omega
  have room := quotient_room positive positive' (by omega) moved
  have value : ((mantissa <<< shift : Nat) / mantissa' : ℚ) * 2 ^ target =
      (mantissa * 2 ^ exponent) / (mantissa' * 2 ^ exponent') := by
    have power : (2 : ℚ) ^ exponent = 2 ^ shift * 2 ^ target * 2 ^ exponent' := by
      rw [← two_zpow_add, moved, ← zpow_add₀ two_ne_zero, Int.sub_add_cancel]
    have some : (2 : ℚ) ^ exponent' ≠ 0 := zpow_ne_zero _ two_ne_zero
    rw [power, Nat.shiftLeft_eq, ← mul_assoc, ← mul_assoc, mul_div_mul_right _ _ some]
    push_cast
    ring
  rw [← value]
  exact isFinite_roundWithAccuracy _ (approximates_div positive') room

section Floats

variable {x y : Float}

theorem packs_float_sub (xFinite : x.isFinite) (yFinite : y.isFinite) (less : x < y) :
    Packs (UnpackedFloat.sub Format.binary64 y.toModel.unpack x.toModel.unpack)
      (exactValue y - exactValue x) := by
  have values := (lt_iff_exactValue xFinite yFinite).mp less
  rw [← unpackedValue_unpack xFinite, ← unpackedValue_unpack yFinite] at values ⊢
  exact packs_sub xFinite yFinite (isCanonical_unpack x) (isCanonical_unpack y) values

/-- The difference of a greater number and a lesser one is positive. -/
theorem sub_pos_of_lt (xFinite : x.isFinite) (yFinite : y.isFinite) (less : x < y) : 0 < y - x :=
  (pos_iff_isPositive (y - x)).mpr (packs_float_sub xFinite yFinite less).positive

/-- It is finite just if the exact difference is below the overflow. -/
theorem isFinite_sub_iff (xFinite : x.isFinite) (yFinite : y.isFinite) (less : x < y) :
    (y - x).isFinite ↔ exactValue y - exactValue x < overflow :=
  (packs_float_sub xFinite yFinite less).finite_iff

theorem exists_unpack_of_pos (finite : x.isFinite) (positive : 0 < x) :
    ∃ mantissa exponent some, x.toModel.unpack = .finite .positive mantissa exponent some := by
  have above := (pos_iff_isPositive x).mp positive
  have notInfinite : x.toModel.unpack.isFinite := finite
  cases unpacked : x.toModel.unpack with
  | finite sign mantissa exponent some =>
      cases sign with
      | positive => exact ⟨mantissa, exponent, some, rfl⟩
      | negative =>
          rw [unpacked] at above
          cases above
  | infinity | zero | notANumber =>
      rw [unpacked] at above notInfinite
      first | cases above | cases notInfinite

/-- The quotient of positive numbers is finite just if the exact one is below the overflow. -/
theorem isFinite_div_iff (xFinite : x.isFinite) (yFinite : y.isFinite) (xPositive : 0 < x)
    (yPositive : 0 < y) : (x / y).isFinite ↔ exactValue x / exactValue y < overflow := by
  obtain ⟨mantissa, exponent, some, unpacked⟩ := exists_unpack_of_pos xFinite xPositive
  obtain ⟨mantissa', exponent', some', unpacked'⟩ := exists_unpack_of_pos yFinite yPositive
  rw [← unpackedValue_unpack xFinite, ← unpackedValue_unpack yFinite, unpacked, unpacked',
    unpackedValue_positive, unpackedValue_positive, ← isFinite_div_finite some some', ← unpacked, ← unpacked']
  rfl

/-! ### Products -/

theorem product_room (first : Canonical mantissa exponent) (second : Canonical mantissa' exponent') :
    exponent + exponent' ≤ targetOf (mantissa * mantissa') (exponent + exponent') := by
  unfold targetOf
  rcases le_or_gt (exponent + exponent') (-1074) with least | above
  · omega
  · have long : 2 ^ 52 ≤ mantissa * mantissa' := by
      rcases first.full with least | long
      · rcases second.full with least' | long
        · omega
        · exact long.trans (Nat.le_mul_of_pos_left _ first.positive)
      · exact long.trans (Nat.le_mul_of_pos_right _ second.positive)
    have digits : 52 ≤ (mantissa * mantissa').log2 :=
      (Nat.le_log2 (Nat.mul_pos first.positive second.positive).ne').mpr long
    omega

theorem abs_unpackedValue (sign : Sign) {positive : 0 < mantissa} :
    |unpackedValue (.finite sign mantissa exponent positive)| = mantissa * 2 ^ exponent := by
  have some := scaled_pos exponent positive
  cases sign with
  | positive => rw [unpackedValue_positive, abs_of_pos some]
  | negative => rw [unpackedValue_negative, abs_neg, abs_of_pos some]

theorem overflow_pos : 0 < overflow := by
  rw [overflow_eq]
  exact mul_pos (by norm_num) (zpow_pos (by norm_num) 970)

theorem isFinite_mul_unpacked {first second : UnpackedFloat} (firstFinite : first.isFinite)
    (secondFinite : second.isFinite) (firstCanonical : IsCanonical first)
    (secondCanonical : IsCanonical second) :
    (UnpackedFloat.unpack Format.binary64 (UnpackedFloat.pack Format.binary64
      (UnpackedFloat.mul Format.binary64 first second))).isFinite ↔
        |unpackedValue first * unpackedValue second| < overflow := by
  have zero (sign : Sign) : (UnpackedFloat.unpack Format.binary64
      (UnpackedFloat.pack Format.binary64 (.zero sign))).isFinite :=
    isFinite_unpack_packComponents.mpr (by decide)
  cases first with
  | infinity | notANumber => cases firstFinite
  | zero sign =>
      rw [unpackedValue_zero, zero_mul, abs_zero]
      cases second with
      | infinity | notANumber => cases secondFinite
      | zero | finite => exact iff_of_true (zero _) overflow_pos
  | finite sign mantissa exponent positive =>
      cases second with
      | infinity | notANumber => cases secondFinite
      | zero sign' =>
          rw [unpackedValue_zero, mul_zero, abs_zero]
          exact iff_of_true (zero _) overflow_pos
      | finite sign' mantissa' exponent' positive' =>
          have value : ((mantissa * mantissa' : Nat) : ℚ) * 2 ^ (exponent + exponent') =
              mantissa * 2 ^ exponent * (mantissa' * 2 ^ exponent') := by
            rw [zpow_add₀ two_ne_zero]
            push_cast
            ring
          rw [abs_mul, abs_unpackedValue, abs_unpackedValue, ← value]
          exact isFinite_roundWithAccuracy _ (approximates_exact _)
            (product_room firstCanonical secondCanonical)

/-- The product of finite numbers is finite just if the exact one is below the overflow. -/
theorem isFinite_mul_iff (xFinite : x.isFinite) (yFinite : y.isFinite) :
    (x * y).isFinite ↔ |exactValue x * exactValue y| < overflow := by
  rw [← unpackedValue_unpack xFinite, ← unpackedValue_unpack yFinite,
    ← isFinite_mul_unpacked xFinite yFinite (isCanonical_unpack x) (isCanonical_unpack y)]
  rfl

end Floats

end Linework.Decimal
