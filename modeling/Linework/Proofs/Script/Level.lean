import Linework.Proofs.Script.Near

/-!
# Where the margins of lines end

What stands behind the margin of a line does not depend on the margin. So the lines of two texts that differ
in their margins alone have the same content, and where all lines begin with blanks no margin of a line with
content is empty.
-/

namespace Linework.Script

open Linework.Text

variable {chars chars' rest : List Char} {fresh : Bool} {c : Char} {continued : Nat} {margin : Margin}

/-- Two texts that are near, but for the margins of their first lines. -/
def Aligned (chars chars' : List Char) : Prop :=
  Near false (chars.dropWhile isGap) (chars'.dropWhile isGap)

theorem Near.aligned (near : Near fresh chars chars') : Aligned chars chars' :=
  near.dropWhile rfl rfl rfl

/-- What stands behind a margin does not depend on the column that it is measured from. -/
theorem measureMargin_snd (continued continued' : Nat) (margin margin' : Margin) (chars : List Char) :
    (measureMargin continued margin chars).2 = (measureMargin continued' margin' chars).2 := by
  fun_induction measureMargin continued margin chars generalizing continued' margin' with
  | case1 continued margin rest ih => exact ih continued' _
  | case2 continued margin rest ih => exact ih continued' _
  | case3 continued margin rest ih => exact ih continued' _
  | case4 continued margin c rest ih => exact ih _ margin'
  | case5 continued margin rest noSpace noTab noFeed noMark =>
      rw [measureMargin]
      all_goals assumption

theorem measureMargin_suffix (continued : Nat) (margin : Margin) (chars : List Char) :
    (measureMargin continued margin chars).2 <:+ chars := by
  fun_induction measureMargin continued margin chars with
  | case1 continued margin rest ih => exact ih.trans (List.suffix_cons _ _)
  | case2 continued margin rest ih => exact ih.trans (List.suffix_cons _ _)
  | case3 continued margin rest ih => exact ih.trans (List.suffix_cons _ _)
  | case4 continued margin c rest ih =>
      exact ih.trans ((List.suffix_cons _ _).trans (List.suffix_cons _ _))
  | case5 => exact List.suffix_rfl

theorem measureMargin_dropWhile (continued : Nat) (margin : Margin) (chars : List Char) :
    (measureMargin continued margin (chars.dropWhile isGap)).2 = (measureMargin continued margin chars).2 := by
  induction chars generalizing continued margin with
  | nil => rfl
  | cons c rest ih =>
      cases gap : isGap c with
      | false => rw [List.dropWhile_cons_of_neg (by simp [gap])]
      | true =>
          rw [List.dropWhile_cons_of_pos gap, ih]
          simp only [isGap, Bool.or_eq_true, beq_iff_eq, or_assoc] at gap
          rcases gap with rfl | rfl | rfl <;> exact measureMargin_snd ..

theorem any_head_measureMargin (continued : Nat) (margin : Margin) (chars : List Char) :
    (measureMargin continued margin chars).2.head?.any isGap = false := by
  fun_induction measureMargin continued margin chars with
  | case1 continued margin others ih => exact ih
  | case2 continued margin others ih => exact ih
  | case3 continued margin others ih => exact ih
  | case4 continued margin d others ih => exact ih
  | case5 continued margin others noSpace noTab noFeed noMark =>
      cases others with
      | nil => rfl
      | cons c others =>
          have space : c ≠ ' ' := fun same => noSpace others (by rw [same])
          have tab : c ≠ '\t' := fun same => noTab others (by rw [same])
          have feed : c ≠ '\x0c' := fun same => noFeed others (by rw [same])
          simp [isGap, space, tab, feed]

/-- A margin goes on behind a mark that continues it. -/
theorem measureMargin_ne_continued (continued : Nat) (margin : Margin) (chars : List Char) :
    (measureMargin continued margin chars).2 ≠ '\\' :: '\n' :: c :: rest := by
  fun_induction measureMargin continued margin chars with
  | case1 continued margin others ih => exact ih
  | case2 continued margin others ih => exact ih
  | case3 continued margin others ih => exact ih
  | case4 continued margin d others ih => exact ih
  | case5 continued margin others noSpace noTab noFeed noMark => exact noMark c rest

/-- Margins of lines that begin with blanks are not empty. -/
theorem measureMargin_pos (padded : isPadded fresh chars)
    (positive : fresh ∨ (0 < margin.column ∧ 0 < margin.plain) ∨ 0 < continued)
    (begins : (measureMargin continued margin chars).2 = c :: rest) (solid : isBlank c = false) :
    0 < (measureMargin continued margin chars).1.column ∧
      0 < (measureMargin continued margin chars).1.plain := by
  fun_induction measureMargin continued margin chars generalizing fresh with
  | case1 continued margin others ih =>
      exact ih (isPadded_tail padded) (.inr (.inl ⟨Nat.succ_pos _, Nat.succ_pos _⟩)) begins
  | case2 continued margin others ih =>
      exact ih (isPadded_tail padded)
        (.inr (.inl ⟨Nat.mul_pos (Nat.succ_pos _) (by decide), Nat.succ_pos _⟩)) begins
  | case3 continued margin others ih => exact ih (isPadded_tail padded) (.inl rfl) begins
  | case4 continued margin d others ih =>
      exact ih (isPadded_tail (isPadded_tail padded)) (.inl rfl) begins
  | case5 continued margin others noSpace noTab noFeed noMark =>
      subst begins
      cases fresh with
      | true =>
          rw [isPadded, solid] at padded
          contradiction
      | false =>
          split
          case isTrue isZero =>
            have isZero : continued = 0 := beq_iff_eq.mp isZero
            exact (positive.resolve_left Bool.false_ne_true).resolve_right (by omega)
          case isFalse noZero =>
            have noZero : continued ≠ 0 := fun isZero => noZero (beq_iff_eq.mpr isZero)
            exact ⟨Nat.pos_of_ne_zero noZero, Nat.pos_of_ne_zero noZero⟩

theorem measureMargin_of_head (noGap : chars.head?.any isGap = false)
    (noMark : chars.head?.any (· == '\\') = false) : (measureMargin continued margin chars).2 = chars := by
  unfold measureMargin
  split
  · contradiction
  · contradiction
  · contradiction
  · contradiction
  · rfl

theorem any_head_dropWhile (passes : Char → Bool) (chars : List Char) :
    (chars.dropWhile passes).head?.any passes = false := by
  have first := List.head?_dropWhile_not passes chars
  cases head : (chars.dropWhile passes).head? with
  | none => rfl
  | some c =>
      rw [head] at first
      exact first

theorem dropWhile_of_head {passes : Char → Bool} (stops : chars.head?.any passes = false) :
    chars.dropWhile passes = chars := by
  cases chars with
  | nil => rfl
  | cons c rest => exact List.dropWhile_cons_of_neg (Bool.eq_false_iff.mp stops)

/-- Texts that are aligned are near behind their margins. -/
theorem Aligned.measureMargin (aligned : Aligned chars chars') (continued' : Nat) (margin' : Margin)
    (noMark : (measureMargin continued margin chars).2.head?.any (· == '\\') = false) :
    Near false (measureMargin continued margin chars).2 (measureMargin continued' margin' chars').2 := by
  fun_induction Script.measureMargin continued margin chars generalizing chars' continued' margin' with
  | case1 continued margin others ih => exact ih aligned _ _ noMark
  | case2 continued margin others ih => exact ih aligned _ _ noMark
  | case3 continued margin others ih => exact ih aligned _ _ noMark
  | case4 continued margin d others ih =>
      obtain ⟨_, same, behind⟩ := Near.cons_of_not_ends aligned (by decide)
      obtain ⟨others', rfl, onward⟩ := behind.cons
      obtain ⟨d', others', rfl⟩ := List.exists_cons_of_ne_nil onward.ne_nil
      rw [← measureMargin_dropWhile continued' margin' chars', same]
      exact ih onward.aligned _ _ noMark
  | case5 continued margin others noSpace noTab noFeed goesOn =>
      have stands : (Script.measureMargin continued margin others).2 = others := by
        rw [Script.measureMargin] <;> assumption
      have noGap : others.head?.any isGap = false := by
        rw [← stands]
        exact any_head_measureMargin continued margin others
      have near : Near false others (chars'.dropWhile isGap) := by
        rw [← dropWhile_of_head noGap]
        exact aligned
      rw [← measureMargin_dropWhile, measureMargin_of_head (any_head_dropWhile isGap chars')]
      · exact near
      · rw [near.any_head (.beq (by decide))]
        exact noMark

theorem Aligned.near_of_stops (aligned : Aligned chars chars') (stops : (Script.measureMargin 0 ⟨0, 0⟩ chars).2 = rest)
    (noMark : rest.head?.any (· == '\\') = false) :
    Near false rest (Script.measureMargin 0 ⟨0, 0⟩ chars').2 := by
  subst stops
  exact aligned.measureMargin 0 ⟨0, 0⟩ noMark

end Linework.Script
