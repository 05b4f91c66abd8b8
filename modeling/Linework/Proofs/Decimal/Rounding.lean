import Linework.Proofs.Decimal.Unpacked

/-!
# Where rounding leaves the range

A number is rounded by shifting its mantissa to the right; one of the digits that are kept of what is shifted
out says whether this is a half or more. A rounded number is infinite just if the exact one has come to the
place halfway between the greatest finite number and the next power of two.
-/

namespace Linework.Decimal

open Float.Model Float.Model.UnpackedFloat

/-! ## Mantissas with what has been shifted out -/

/-- A mantissa is the integral part of an exact number, and its first digit says whether a half of one or more
is left. -/
structure Approximates (number : ExtendedMantissa) (exact : ℚ) : Prop where
  le : (number.mantissa : ℚ) ≤ exact
  lt : exact < number.mantissa + 1
  half : number.roundBit = true ↔ (number.mantissa : ℚ) + 1 / 2 ≤ exact

variable {number : ExtendedMantissa} {exact : ℚ}

theorem approximates_exact (mantissa : Nat) :
    Approximates (ExtendedMantissa.ofMantissaAndAccuracy mantissa .exact) mantissa := by
  constructor
  · exact le_rfl
  · exact lt_add_one (mantissa : ℚ)
  · simp [ExtendedMantissa.ofMantissaAndAccuracy]

theorem Approximates.shiftRightOne (approximates : Approximates number exact) :
    Approximates number.shiftRightOne (exact / 2) := by
  obtain ⟨le, lt, _⟩ := approximates
  have parts : ((number.mantissa % 2 : Nat) : ℚ) + 2 * ((number.mantissa / 2 : Nat) : ℚ) = number.mantissa := by
    exact_mod_cast Nat.mod_add_div number.mantissa 2
  rcases Nat.mod_two_eq_zero_or_one number.mantissa with even | odd
  · rw [even, Nat.cast_zero] at parts
    constructor <;> simp only [ExtendedMantissa.shiftRightOne, even]
    · linarith
    · linarith
    · constructor
      · intro full
        contradiction
      · intro reached
        linarith
  · rw [odd, Nat.cast_one] at parts
    constructor <;> simp only [ExtendedMantissa.shiftRightOne, odd]
    · linarith
    · linarith
    · constructor
      · intro _
        linarith
      · intro _
        rfl

theorem Approximates.shiftRight (approximates : Approximates number exact) (count : Nat) :
    Approximates (number >>> count) (exact / 2 ^ count) := by
  induction count with
  | zero => simpa [HShiftRight.hShiftRight, Nat.repeat] using approximates
  | succ count ih =>
      rw [pow_succ, ← div_div]
      exact ih.shiftRightOne

/-- Rounding goes up by one at most, and from an odd mantissa just if a half or more is left. -/
theorem roundedMantissa_cases (number : ExtendedMantissa) :
    (number.roundBit = false ∧ number.roundedMantissa = number.mantissa) ∨
      (number.roundBit = true ∧ number.roundedMantissa ≤ number.mantissa + 1 ∧
        (number.mantissa % 2 = 1 → number.roundedMantissa = number.mantissa + 1)) := by
  obtain ⟨mantissa, roundBit, stickyBit⟩ := number
  cases roundBit with
  | false => cases stickyBit <;> exact .inl ⟨rfl, rfl⟩
  | true =>
      cases stickyBit with
      | false =>
          refine .inr ⟨rfl, ?_⟩
          change mantissa + mantissa % 2 ≤ mantissa + 1 ∧
            (mantissa % 2 = 1 → mantissa + mantissa % 2 = mantissa + 1)
          omega
      | true => exact .inr ⟨rfl, le_rfl, fun _ => rfl⟩

/-- Rounding a mantissa of 53 digits carries into another digit just from a half below it on. -/
theorem Approximates.carries_iff (approximates : Approximates number exact)
    (short : number.mantissa < 2 ^ 53) :
    number.roundedMantissa = 2 ^ 53 ↔ (2 : ℚ) ^ 53 - 1 / 2 ≤ exact := by
  obtain ⟨_, lt, half⟩ := approximates
  by_cases longest : number.mantissa = 2 ^ 53 - 1
  · have value : (number.mantissa : ℚ) + 1 / 2 = 2 ^ 53 - 1 / 2 := by
      rw [longest]
      norm_num
    rw [← value, ← half]
    rcases roundedMantissa_cases number with ⟨down, same⟩ | ⟨up, _, odd⟩
    · have kept : number.roundedMantissa ≠ 2 ^ 53 := by omega
      exact iff_of_false kept (by simp [down])
    · have carried : number.roundedMantissa = 2 ^ 53 := by
        rw [odd (by omega)]
        omega
      exact iff_of_true carried up
  · have shorter : number.mantissa + 1 ≤ 2 ^ 53 - 1 := by omega
    have less : exact < (2 : ℚ) ^ 53 - 1 := by
      have bound : ((number.mantissa + 1 : Nat) : ℚ) ≤ ((2 ^ 53 - 1 : Nat) : ℚ) := by
        exact_mod_cast shorter
      push_cast at bound
      linarith
    constructor
    · intro carried
      rcases roundedMantissa_cases number with ⟨_, same⟩ | ⟨_, most, _⟩ <;> omega
    · intro reached
      linarith

theorem roundedMantissa_le {number : ExtendedMantissa} (short : number.mantissa < 2 ^ 53) :
    number.roundedMantissa ≤ 2 ^ 53 := by
  rcases roundedMantissa_cases number with ⟨_, same⟩ | ⟨_, most, _⟩ <;> omega

/-! ## The exponent of a rounded number -/

/-- The exponent that leaves a mantissa no more than 53 digits, or the least one of all. -/
def targetOf (mantissa : Nat) (exponent : Int) : Int :=
  max ((mantissa.log2 : Int) + 1 + exponent - 53) (-1074)

theorem targetExponent_eq (mantissa : Nat) (exponent : Int) :
    Format.binary64.targetExponent (totalExponent mantissa exponent) = targetOf mantissa exponent :=
  rfl

variable {mantissa : Nat} {exponent : Int}

theorem div_two_pow_lt (mantissa : Nat) (exponent : Int) :
    mantissa / 2 ^ (targetOf mantissa exponent - exponent).toNat < 2 ^ 53 := by
  have most : mantissa < 2 ^ (mantissa.log2 + 1) := Nat.lt_log2_self
  have enough : mantissa.log2 + 1 ≤ 53 + (targetOf mantissa exponent - exponent).toNat := by
    unfold targetOf
    omega
  rw [Nat.div_lt_iff_lt_mul (Nat.two_pow_pos _), ← Nat.pow_add]
  exact most.trans_le (Nat.pow_le_pow_right (by decide) enough)

/-- A mantissa that is shifted to another exponent than the least one keeps all of 53 digits. -/
theorem le_div_two_pow (room : exponent ≤ targetOf mantissa exponent)
    (above : -1074 < targetOf mantissa exponent) :
    2 ^ 52 ≤ mantissa / 2 ^ (targetOf mantissa exponent - exponent).toNat := by
  have digits : mantissa.log2 = 52 + (targetOf mantissa exponent - exponent).toNat := by
    unfold targetOf at room above ⊢
    omega
  have some : mantissa ≠ 0 := by
    rintro rfl
    have none : Nat.log2 0 = 0 := by decide
    omega
  rw [Nat.le_div_iff_mul_le (Nat.two_pow_pos _), ← Nat.pow_add, ← digits]
  exact Nat.log2_self_le some

/-- Rounded mantissas are shifted once more just if they have been carried into another digit. -/
theorem targetOf_rounded (short : mantissa ≤ 2 ^ 53) (above : -1074 ≤ exponent) :
    max (targetOf mantissa exponent) exponent = if mantissa = 2 ^ 53 then exponent + 1 else exponent := by
  unfold targetOf
  split
  · rename_i carried
    rw [carried, Nat.log2_two_pow]
    omega
  · rename_i kept
    have less : mantissa.log2 < 53 := by
      rcases Nat.eq_zero_or_pos mantissa with rfl | positive
      · decide
      · exact (Nat.log2_lt positive.ne').mpr (by omega)
    omega

/-! ## Where numbers become infinite -/

/-- The least exact number that is rounded to an infinite one. -/
def overflow : ℚ :=
  2 ^ (1024 : Int) - 2 ^ (970 : Int)

variable {target : Int}

theorem two_zpow_add (exponent : Int) (count : Nat) :
    (2 : ℚ) ^ (exponent + count) = 2 ^ count * 2 ^ exponent := by
  rw [zpow_add₀ two_ne_zero, zpow_natCast, mul_comm]

theorem overflow_eq : overflow = (2 ^ 54 - 1) * 2 ^ (970 : Int) := by
  have power : (2 : ℚ) ^ (1024 : Int) = 2 ^ 54 * 2 ^ (970 : Int) := two_zpow_add 970 54
  rw [overflow, power, sub_mul, one_mul]

theorem two_zpow_le (ordered : exponent ≤ target) : (2 : ℚ) ^ exponent ≤ 2 ^ target :=
  zpow_le_zpow_right₀ (by norm_num) ordered

/-- A rounded number has an exponent within range just if the exact one is below the overflow. -/
theorem Approximates.exponent_le_iff (approximates : Approximates number exact)
    (short : number.mantissa < 2 ^ 53) (full : -1074 < target → 2 ^ 52 ≤ number.mantissa) :
    (if number.roundedMantissa = 2 ^ 53 then target + 1 else target) ≤ 971 ↔
      exact * 2 ^ target < overflow := by
  have positive : (0 : ℚ) < 2 ^ target := zpow_pos (by norm_num) target
  rcases lt_trichotomy target 971 with below | rfl | above
  · have size : exact < 2 ^ 53 := by
      have bound : ((number.mantissa + 1 : Nat) : ℚ) ≤ ((2 ^ 53 : Nat) : ℚ) := by exact_mod_cast short
      push_cast at bound
      exact approximates.lt.trans_le bound
    have small : exact * 2 ^ target < overflow := by
      calc exact * 2 ^ target < 2 ^ 53 * 2 ^ target := mul_lt_mul_of_pos_right size positive
        _ ≤ 2 ^ 53 * 2 ^ (970 : Int) := mul_le_mul_of_nonneg_left (two_zpow_le (by omega)) (by norm_num)
        _ ≤ overflow := by
          rw [overflow_eq]
          exact mul_le_mul_of_nonneg_right (by norm_num) (zpow_nonneg (by norm_num) 970)
    have fits : (if number.roundedMantissa = 2 ^ 53 then target + 1 else target) ≤ 971 := by
      split <;> omega
    exact iff_of_true fits small
  · have carries := approximates.carries_iff short
    have bound : overflow = (2 ^ 53 - 1 / 2) * 2 ^ (971 : Int) := by
      have power : (2 : ℚ) ^ (971 : Int) = 2 ^ 1 * 2 ^ (970 : Int) := two_zpow_add 970 1
      rw [overflow_eq, power, ← mul_assoc]
      norm_num
    rw [bound, mul_lt_mul_iff_left₀ positive, ← not_le, ← carries]
    split
    · rename_i carried
      simp [carried]
    · rename_i kept
      exact iff_of_true le_rfl kept
  · have long : ((2 ^ 52 : Nat) : ℚ) ≤ (number.mantissa : ℚ) := by exact_mod_cast full (by omega)
    have large : overflow ≤ exact * 2 ^ target := by
      calc overflow ≤ ((2 ^ 52 : Nat) : ℚ) * 2 ^ (972 : Int) := by
            have power : (2 : ℚ) ^ (972 : Int) = 2 ^ 2 * 2 ^ (970 : Int) := two_zpow_add 970 2
            rw [overflow_eq, power, ← mul_assoc]
            exact mul_le_mul_of_nonneg_right (by norm_num) (zpow_nonneg (by norm_num) 970)
        _ ≤ ((2 ^ 52 : Nat) : ℚ) * 2 ^ target := mul_le_mul_of_nonneg_left (two_zpow_le above) (by positivity)
        _ ≤ exact * 2 ^ target := mul_le_mul_of_nonneg_right (long.trans approximates.le) positive.le
    have unfit : ¬(if number.roundedMantissa = 2 ^ 53 then target + 1 else target) ≤ 971 := by
      split <;> omega
    exact iff_of_false unfit (not_lt.mpr large)

section Whole

variable {accuracy : Accuracy}

theorem shiftToTargetExponent_snd (mantissa : Nat) (exponent : Int) (accuracy : Accuracy) :
    (shiftToTargetExponent Format.binary64 mantissa exponent accuracy).2 =
      max (targetOf mantissa exponent) exponent := by
  change exponent + ((targetOf mantissa exponent - exponent).toNat : Int) = _
  omega

/-- Rounding leaves a zero, or the mantissa and the exponent that the rounded mantissa is shifted to. -/
theorem roundWithAccuracy_cases (sign : Sign) (mantissa : Nat) (exponent : Int) (accuracy : Accuracy) :
    let first := shiftToTargetExponent Format.binary64 mantissa exponent accuracy
    let last := shiftToTargetExponent Format.binary64 first.1.roundedMantissa first.2 .exact
    (last.1.mantissa = 0 ∧ roundWithAccuracy Format.binary64 sign mantissa exponent accuracy = .zero sign) ∨
      ∃ positive, roundWithAccuracy Format.binary64 sign mantissa exponent accuracy =
        .finite sign last.1.mantissa last.2 positive := by
  intro first last
  by_cases none : last.1.mantissa = 0
  · exact .inl ⟨none, dif_pos none⟩
  · exact .inr ⟨Nat.pos_of_ne_zero none, dif_neg none⟩

/-- A number is rounded to a finite one just if it is below the overflow. -/
theorem isFinite_roundWithAccuracy (sign : Sign)
    (approximates : Approximates (ExtendedMantissa.ofMantissaAndAccuracy mantissa accuracy) exact)
    (room : exponent ≤ targetOf mantissa exponent) :
    (UnpackedFloat.unpack Format.binary64 (UnpackedFloat.pack Format.binary64
      (roundWithAccuracy Format.binary64 sign mantissa exponent accuracy))).isFinite ↔
        exact * 2 ^ exponent < overflow := by
  obtain ⟨shift, shifted⟩ : ∃ shift, (targetOf mantissa exponent - exponent).toNat = shift := ⟨_, rfl⟩
  obtain ⟨number, cut⟩ : ∃ number, ExtendedMantissa.ofMantissaAndAccuracy mantissa accuracy >>> shift = number :=
    ⟨_, rfl⟩
  have moved : exponent + shift = targetOf mantissa exponent := by omega
  have least : -1074 ≤ exponent + shift := moved ▸ le_max_right _ _
  have part : number.mantissa = mantissa / 2 ^ (targetOf mantissa exponent - exponent).toNat := by
    rw [← cut, mantissa_shiftRight, mantissa_ofMantissaAndAccuracy, shifted]
  have short : number.mantissa < 2 ^ 53 := part ▸ div_two_pow_lt mantissa exponent
  have full : -1074 < exponent + shift → 2 ^ 52 ≤ number.mantissa := by
    rw [part, moved]
    exact le_div_two_pow room
  have represents : Approximates number (exact / 2 ^ shift) := cut ▸ approximates.shiftRight shift
  have scaled : exact * 2 ^ exponent = exact / 2 ^ shift * 2 ^ (exponent + (shift : Int)) := by
    rw [two_zpow_add, ← mul_assoc, div_mul_cancel₀ _ (by positivity)]
  have first : shiftToTargetExponent Format.binary64 mantissa exponent accuracy =
      (number, exponent + shift) := by
    rw [← cut, ← shifted]
    rfl
  rw [scaled, ← represents.exponent_le_iff short full]
  obtain ⟨none, rounded⟩ | ⟨positive, rounded⟩ := roundWithAccuracy_cases sign mantissa exponent accuracy
  · -- Only a number with the least exponent vanishes.
    rw [first] at none
    have vanished : number.roundedMantissa = 0 := by
      by_contra some
      exact (fits_shiftToTargetExponent .exact (Nat.pos_of_ne_zero some) least).positive.ne' none
    have few : number.mantissa = 0 := Nat.le_zero.mp (vanished ▸ le_roundedMantissa number)
    rw [rounded, vanished]
    refine iff_of_true (isFinite_unpack_packComponents.mpr (by decide)) ?_
    rw [if_neg (by decide)]
    omega
  · rw [rounded, isFinite_unpack_pack_finite, shiftToTargetExponent_snd, first,
      targetOf_rounded (roundedMantissa_le short) least]

end Whole

end Linework.Decimal
