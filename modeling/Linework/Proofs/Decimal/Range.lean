import Linework.Proofs.Decimal.Rounding

/-!
# The range of floats

The quotients that are at most as large as the greatest finite number. A float nearest to one of them is not
infinite, and the integer nearest to a finite number is one of them: so a number can be divided into whole
steps, and the steps counted in floats again. A finite number that is rounded to decimal places is one as well.
-/

namespace Linework.Decimal

/-! ## Exact values -/

theorem scaled_of_neg {base : Nat} {exponent : Int} (negative : exponent < 0) :
    scaled base exponent = (1, base ^ exponent.natAbs) :=
  if_pos negative

theorem scaled_of_nonneg {base : Nat} {exponent : Int} (nonnegative : ¬exponent < 0) :
    scaled base exponent = (base ^ exponent.natAbs, 1) :=
  if_neg nonnegative

theorem roundDivEven_le {num den bound : Nat} (below : num ≤ bound * den) :
    roundDivEven num den ≤ bound := by
  unfold roundDivEven
  simp only
  rcases den.eq_zero_or_pos with rfl | positive
  · simp [Nat.le_zero.mp below]
  · have whole : num / den ≤ bound := Nat.div_le_of_le_mul (by rwa [Nat.mul_comm])
    split
    · exact whole
    · rename_i uneven
      rcases whole.eq_or_lt with full | less
      · have division := Nat.div_add_mod num den
        rw [full, Nat.mul_comm] at division
        have left : num % den = 0 := by omega
        simp [left, positive] at uneven
      · exact less

theorem Binary.ofFloat_mantissa (x : Float) : (Binary.ofFloat x).mantissa ≤ 2 ^ 53 - 1 := by
  unfold Binary.ofFloat
  have fraction : x.toBits.toNat % Nat.pow 2 52 < 2 ^ 52 := Nat.mod_lt _ (Nat.two_pow_pos 52)
  have implicit : Nat.pow 2 52 = 2 ^ 52 := rfl
  simp only
  split
  · change x.toBits.toNat % Nat.pow 2 52 ≤ _
    omega
  · change x.toBits.toNat % Nat.pow 2 52 + Nat.pow 2 52 ≤ _
    omega

theorem Binary.ofFloat_exponent {x : Float} (finite : x.isFinite) :
    (Binary.ofFloat x).exponent ≤ 971 := by
  have notFull := field_ne_of_isFinite finite
  unfold Binary.ofFloat
  simp only
  split
  · change (-1074 : Int) ≤ 971
    decide
  · change ((x.toBits.toNat / 2 ^ 52 % 2048 : Nat) : Int) - 1075 ≤ 971
    omega

/-- A number's exact value is at most its longest mantissa with its greatest exponent. -/
theorem Binary.ratio_le {b : Binary} {longest top : Nat} (mantissa : b.mantissa ≤ longest)
    (exponent : b.exponent ≤ top) : b.ratio.1 ≤ longest * 2 ^ top * b.ratio.2 := by
  unfold Binary.ratio
  by_cases fraction : b.exponent < 0
  · rw [scaled_of_neg fraction]
    calc b.mantissa * 1 ≤ longest * 2 ^ top := Nat.mul_le_mul mantissa Nat.one_le_two_pow
      _ ≤ longest * 2 ^ top * 2 ^ b.exponent.natAbs := Nat.le_mul_of_pos_right _ (Nat.two_pow_pos _)
  · rw [scaled_of_nonneg fraction]
    simp only [Nat.mul_one]
    exact Nat.mul_le_mul mantissa (Nat.pow_le_pow_right (by decide) (by omega))

/-! ## Integers within range -/

/-- An integer is at most as large as some number with the longest mantissa. -/
def InRange (n : Int) : Prop :=
  ∃ top ≤ 971, n.natAbs ≤ (2 ^ 53 - 1) * 2 ^ top

theorem inRange_of_lt {n : Int} (small : n.natAbs < 2 ^ 53) : InRange n :=
  ⟨0, Nat.zero_le _, by omega⟩

/-- The integer nearest to a finite number is within range. -/
theorem inRange_nearestInt {x : Float} (finite : x.isFinite) : InRange (nearestInt x) := by
  have rounded : roundDivEven (Binary.ofFloat x).ratio.1 (Binary.ofFloat x).ratio.2 ≤
      (2 ^ 53 - 1) * 2 ^ 971 :=
    roundDivEven_le (Binary.ratio_le (Binary.ofFloat_mantissa x) (Binary.ofFloat_exponent finite))
  refine ⟨971, le_rfl, ?_⟩
  unfold nearestInt
  simp only
  split
  · rw [Int.natAbs_neg]
    exact rounded
  · exact rounded

/-! ## Quotients over powers of two -/

theorem scaled_two_div (exponent : Int) :
    ((scaled 2 exponent).1 : ℚ) / (scaled 2 exponent).2 = 2 ^ exponent := by
  by_cases negative : exponent < 0
  · rw [scaled_of_neg negative, ← Int.neg_neg exponent, zpow_neg, Int.natAbs_neg,
      ← Int.natAbs_of_nonneg (by omega : 0 ≤ -exponent), zpow_natCast, Int.natAbs_natCast]
    push_cast
    rw [one_div]
  · obtain ⟨count, rfl⟩ := Int.eq_ofNat_of_zero_le (not_lt.mp negative)
    rw [scaled_of_nonneg negative, zpow_natCast, Int.natAbs_natCast]
    push_cast
    rw [div_one]

theorem scaled_two_pos (exponent : Int) : 0 < (scaled 2 exponent).2 := by
  by_cases negative : exponent < 0
  · rw [scaled_of_neg negative]
    exact Nat.two_pow_pos _
  · rw [scaled_of_nonneg negative]
    exact Nat.one_pos

variable {num den : Nat}

/-- A quotient over a power of two. -/
def overPower (num den : Nat) (exponent : Int) : Nat × Nat :=
  (num * (scaled 2 (-exponent)).1, den * (scaled 2 (-exponent)).2)

theorem overPower_div (num den : Nat) (exponent : Int) :
    ((overPower num den exponent).1 : ℚ) / (overPower num den exponent).2 = num / den / 2 ^ exponent := by
  unfold overPower
  push_cast
  rw [mul_div_mul_comm, scaled_two_div, zpow_neg, div_eq_mul_inv]
  rfl

theorem overPower_pos (positive : 0 < den) (exponent : Int) : 0 < (overPower num den exponent).2 :=
  Nat.mul_pos positive (scaled_two_pos _)

theorem roundDivEven_overPower_le (positive : 0 < den) {exponent : Int} {bound : Nat}
    (small : (num / den / 2 ^ exponent : ℚ) ≤ bound) :
    roundDivEven (overPower num den exponent).1 (overPower num den exponent).2 ≤ bound := by
  have some : (0 : ℚ) < (overPower num den exponent).2 := by exact_mod_cast overPower_pos positive exponent
  rw [← overPower_div, div_le_iff₀ some] at small
  exact roundDivEven_le (by exact_mod_cast small)

theorem overPower_div_lt_iff (positive : 0 < den) {exponent : Int} {bound : Nat} :
    (overPower num den exponent).1 / (overPower num den exponent).2 < bound ↔
      (num / den / 2 ^ exponent : ℚ) < bound := by
  have some : (0 : ℚ) < (overPower num den exponent).2 := by exact_mod_cast overPower_pos positive exponent
  rw [Nat.div_lt_iff_lt_mul (overPower_pos positive exponent), ← overPower_div, div_lt_iff₀ some]
  exact_mod_cast Iff.rfl

/-- The exponent that brings the first digits of a quotient to the 53rd place or the 52nd. -/
def guess (num den : Nat) : Int :=
  (num.log2 : Int) - den.log2 - 52

theorem guess_bounds (some : 0 < num) (positive : 0 < den) :
    (2 : ℚ) ^ 51 ≤ num / den / 2 ^ guess num den ∧ (num / den / 2 ^ guess num den : ℚ) < 2 ^ 53 := by
  have numLeast : ((2 ^ num.log2 : Nat) : ℚ) ≤ num := by exact_mod_cast Nat.log2_self_le some.ne'
  have numMost : (num : ℚ) < ((2 ^ (num.log2 + 1) : Nat) : ℚ) := by exact_mod_cast num.lt_log2_self
  have denLeast : ((2 ^ den.log2 : Nat) : ℚ) ≤ den := by exact_mod_cast Nat.log2_self_le positive.ne'
  have denMost : (den : ℚ) < ((2 ^ (den.log2 + 1) : Nat) : ℚ) := by exact_mod_cast den.lt_log2_self
  push_cast [pow_succ] at numLeast numMost denLeast denMost
  have power : (2 : ℚ) ^ guess num den = 2 ^ num.log2 / 2 ^ den.log2 / 2 ^ 52 := by
    rw [guess, zpow_sub₀ two_ne_zero, zpow_sub₀ two_ne_zero, zpow_natCast, zpow_natCast]
    rfl
  have denPos : (0 : ℚ) < den := by exact_mod_cast positive
  have top : (0 : ℚ) < 2 ^ num.log2 := by positivity
  have bottom : (0 : ℚ) < 2 ^ den.log2 := by positivity
  have quotient : (num / den / 2 ^ guess num den : ℚ) =
      num * 2 ^ den.log2 * 2 ^ 52 / (den * 2 ^ num.log2) := by
    rw [power]
    field_simp
  rw [quotient, le_div_iff₀ (mul_pos denPos top), div_lt_iff₀ (mul_pos denPos top)]
  generalize (2 : ℚ) ^ num.log2 = above at *
  generalize (2 : ℚ) ^ den.log2 = below at *
  constructor
  · have least : den * above ≤ 2 * (num * below) := by
      calc (den : ℚ) * above ≤ below * 2 * num := mul_le_mul denMost.le numLeast top.le (by positivity)
        _ = 2 * (num * below) := by ring
    linarith
  · have most : num * below < 2 * (den * above) := by
      calc (num : ℚ) * below < above * 2 * den := mul_lt_mul numMost denLeast bottom (by positivity)
        _ = 2 * (den * above) := by ring
    linarith

/-- The exponent that brings them to the 53rd place. -/
def leading (num den : Nat) : Int :=
  if (overPower num den (guess num den)).1 / (overPower num den (guess num den)).2 < 2 ^ 52 then
    guess num den - 1
  else guess num den

theorem leading_bounds (some : 0 < num) (positive : 0 < den) :
    (2 : ℚ) ^ 52 ≤ num / den / 2 ^ leading num den ∧ (num / den / 2 ^ leading num den : ℚ) < 2 ^ 53 := by
  obtain ⟨least, most⟩ := guess_bounds some positive
  unfold leading
  split
  · rename_i short
    have less : (num / den / 2 ^ guess num den : ℚ) < 2 ^ 52 := by
      exact_mod_cast (overPower_div_lt_iff positive).mp short
    have twice : (num / den / 2 ^ (guess num den - 1) : ℚ) = 2 * (num / den / 2 ^ guess num den) := by
      rw [zpow_sub_one₀ two_ne_zero]
      field_simp
    rw [twice]
    constructor <;> linarith
  · rename_i long
    have more : (2 : ℚ) ^ 52 ≤ num / den / 2 ^ guess num den := by
      exact_mod_cast not_lt.mp ((overPower_div_lt_iff positive).not.mp long)
    exact ⟨more, most⟩

/-! ## Nearest floats -/

/-- The greatest finite number. -/
def greatest : Nat :=
  (2 ^ 53 - 1) * 2 ^ 971

theorem cast_greatest : (greatest : ℚ) = (2 ^ 53 - 1) * 2 ^ (971 : Int) := by
  have power : (2 : ℚ) ^ (971 : Int) = ((2 ^ 971 : Nat) : ℚ) := by
    rw [Nat.cast_pow]
    exact zpow_natCast 2 971
  rw [greatest, Nat.cast_mul, power, Nat.cast_sub Nat.one_le_two_pow, Nat.cast_pow 2 53, Nat.cast_one,
    Nat.cast_ofNat]

theorem ratioBits_of_pos (some : 0 < num) :
    let exponent := max (-1074) (leading num den)
    ratioBits num den = min ((exponent + 1074).toNat * 2 ^ 52 +
      roundDivEven (overPower num den exponent).1 (overPower num den exponent).2) (2047 * 2 ^ 52) := by
  intro exponent
  have notZero : ¬(num == 0) = true := by simpa using some.ne'
  unfold ratioBits
  rw [if_neg notZero]
  exact (min_def_lt _ _).symm

/-- A quotient within range has bits of a finite number. Only at the greatest exponent does it matter that
rounding does not carry into another digit. -/
theorem ratioBits_lt (positive : 0 < den) (small : num ≤ greatest * den) :
    ratioBits num den < 2047 * 2 ^ 52 := by
  rcases num.eq_zero_or_pos with rfl | some
  · have none : ratioBits 0 den = 0 := rfl
    rw [none]
    exact Nat.mul_pos (by decide) (Nat.two_pow_pos 52)
  · obtain ⟨least, most⟩ := leading_bounds some positive
    have power (exponent : Int) : (0 : ℚ) < 2 ^ exponent := zpow_pos (by norm_num) exponent
    have bounded : (num / den : ℚ) ≤ (2 ^ 53 - 1) * 2 ^ (971 : Int) := by
      rw [div_le_iff₀ (by exact_mod_cast positive)]
      rw [← cast_greatest]
      exact_mod_cast small
    rw [ratioBits_of_pos some, min_lt_iff]
    left
    rcases le_or_gt (max (-1074) (leading num den)) 970 with below | above
    · have rounded : roundDivEven (overPower num den (max (-1074) (leading num den))).1
          (overPower num den (max (-1074) (leading num den))).2 ≤ 2 ^ 53 := by
        apply roundDivEven_overPower_le positive
        push_cast
        refine le_trans ?_ most.le
        exact div_le_div_of_nonneg_left (by positivity) (power _) (two_zpow_le (le_max_right _ _))
      omega
    · have same : max (-1074) (leading num den) = leading num den := by omega
      rw [same] at above ⊢
      have last : leading num den = 971 := by
        have notMore : ¬972 ≤ leading num den := by
          intro more
          have twice : (2 : ℚ) ^ (972 : Int) = 2 ^ 1 * 2 ^ (971 : Int) := two_zpow_add 971 1
          have large : (2 : ℚ) ^ 52 * 2 ^ (972 : Int) ≤ num / den := by
            rw [le_div_iff₀ (power _)] at least
            exact (mul_le_mul_of_nonneg_left (two_zpow_le more) (by positivity)).trans least
          rw [twice, ← mul_assoc] at large
          have less := mul_lt_mul_of_pos_right (by norm_num : (2 : ℚ) ^ 53 - 1 < 2 ^ 52 * 2 ^ 1) (power 971)
          exact (bounded.trans_lt less).not_ge large
        omega
      have rounded : roundDivEven (overPower num den (leading num den)).1
          (overPower num den (leading num den)).2 ≤ 2 ^ 53 - 1 := by
        apply roundDivEven_overPower_le positive
        have digits : ((2 ^ 53 - 1 : Nat) : ℚ) = 2 ^ 53 - 1 := by norm_num
        rw [last, digits, div_le_iff₀ (power 971)]
        exact bounded
      omega

/-- The float nearest to a quotient within range is finite. -/
theorem isFinite_ofRatio (negative : Bool) (positive : 0 < den) (small : num ≤ greatest * den) :
    (ofRatio negative num den).isFinite := by
  have bits : ratioBits num den < 2047 * 2 ^ 52 := ratioBits_lt positive small
  have sign : Nat.pow 2 63 = 2 ^ 63 := rfl
  unfold ofRatio
  apply isFinite_ofBits
  rw [UInt64.toNat_ofNat']
  cases negative with
  | false =>
      simp only [Bool.false_eq_true, if_false]
      omega
  | true =>
      simp only [if_true, sign]
      omega

/-- The float nearest to an integer within range is not infinite. -/
theorem isInf_ofInt {n : Int} (inRange : InRange n) : (ofInt n).isInf = false := by
  obtain ⟨top, bounded, small⟩ := inRange
  have most : n.natAbs ≤ greatest * 1 := by
    rw [Nat.mul_one]
    refine small.trans (Nat.mul_le_mul_left _ ?_)
    gcongr
    exact one_le_two
  exact isInf_of_isFinite (isFinite_ofRatio _ Nat.one_pos most)

/-- What is rounded to decimal places is finite just if it was so before. -/
theorem isFinite_roundPlaces {x : Float} {places : Int} (decimal : 0 ≤ places) :
    (roundPlaces x places).isFinite ↔ x.isFinite := by
  unfold roundPlaces
  split
  · rfl
  · rename_i rounds
    have finite : x.isFinite := by
      by_contra infinite
      simp [infinite] at rounds
    simp only
    rw [if_neg (by omega), scaled_of_nonneg (by omega)]
    refine iff_of_true (isFinite_ofRatio _ (Nat.pow_pos (by decide)) ?_) finite
    rw [Nat.mul_one, Nat.mul_one]
    apply roundDivEven_le
    rw [Nat.mul_right_comm]
    exact Nat.mul_le_mul_right _ (Binary.ratio_le (Binary.ofFloat_mantissa x) (Binary.ofFloat_exponent finite))

end Linework.Decimal
