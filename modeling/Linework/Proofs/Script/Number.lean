import Linework.Proofs.Script.Near

/-!
# Numbers at the front of texts that are cut alike

A number is cut by looking at a few characters at a time, none of which is a blank or a line end. So what is
cut from the front of one of two texts that differ in their margins is cut from the front of the other.
-/

namespace Linework.Script

open Linework.Decimal

variable {chars chars' rest : List Char} {c : Char} {base : Nat}

/-- A reading that takes the same from the front of texts that are near. -/
structure Tracks {α : Type} (read : List Char → Option (α × List Char)) : Prop where
  track : ∀ {chars chars' value rest}, Near false chars chars' → read chars = some (value, rest) →
    ∃ rest', read chars' = some (value, rest') ∧ Near false rest rest' ∧ rest'.length ≤ chars'.length

theorem Tracks.bind {α β : Type} {read : List Char → Option (α × List Char)}
    {go : α × List Char → Option (β × List Char)} (first : Tracks read)
    (onward : ∀ found, Tracks fun between => go (found, between)) :
    Tracks fun chars => (read chars).bind go where
  track near success := by
    obtain ⟨⟨found, between⟩, firstRead, success⟩ := Option.bind_eq_some_iff.mp success
    obtain ⟨between', firstRead', nearBetween, shorter⟩ := first.track near firstRead
    obtain ⟨rest', read', nearRest, shorterStill⟩ := (onward found).track nearBetween success
    exact ⟨rest', Option.bind_eq_some_iff.mpr ⟨_, firstRead', read'⟩, nearRest,
      Nat.le_trans shorterStill shorter⟩

theorem solid_isDigitOf : Solid (isDigitOf base) where
  fails c member := by
    have solid : Solid fun c => (digitOf? c).isSome := .of_all (by decide)
    have none : digitOf? c = none := by simpa using solid.fails c member
    rw [isDigitOf, none]
    rfl

/-- Digits end where neither a digit nor an underscore follows. -/
theorem digitsFrom?_of_head (digits : List Char)
    (ends : chars.head?.any (fun c => isDigitOf base c || c == '_') = false) :
    digitsFrom? base digits chars = some (digits.reverse, chars) := by
  cases chars with
  | nil => rfl
  | cons c chars =>
      rw [List.head?_cons, Option.any_some, Bool.or_eq_false_iff] at ends
      rw [digitsFrom?, ends.1, ends.2, if_neg Bool.false_ne_true, if_neg Bool.false_ne_true]
      rintro d rest rfl
      exact absurd ends.2 (by decide)

theorem tracks_digitsFrom? (digits : List Char) : Tracks (digitsFrom? base digits) where
  track {chars chars' found rest} near read := by
    have solid : Solid fun c => isDigitOf base c || c == '_' := solid_isDigitOf.or (.beq (by decide))
    fun_induction digitsFrom? base digits chars generalizing chars' with
    | case1 digits c chars isDigit ih =>
        obtain ⟨_, rfl, behind⟩ := near.cons_of_not_ends (by decide)
        obtain ⟨chars', rfl, onward⟩ := behind.cons_of_solid solid_isDigitOf isDigit
        obtain ⟨rest', read', nearRest, shorter⟩ := ih onward read
        refine ⟨rest', ?_, nearRest, by simp only [List.length_cons]; omega⟩
        rw [digitsFrom?, if_pos isDigit, read']
    | case2 digits c chars noDigit => contradiction
    | case3 digits c chars noMark isDigit ih =>
        obtain ⟨chars', rfl, onward⟩ := near.cons_of_solid solid_isDigitOf isDigit
        obtain ⟨rest', read', nearRest, shorter⟩ := ih onward read
        refine ⟨rest', ?_, nearRest, by simp only [List.length_cons]; omega⟩
        rw [digitsFrom?, if_pos isDigit, read']
        rintro _ _ rfl _
        exact absurd isDigit (by simp [isDigitOf, (by decide : digitOf? '_' = none)])
    | case4 => contradiction
    | case5 digits c chars noMark noDigit noUnderscore =>
        obtain ⟨rfl, rfl⟩ := Prod.mk.inj (Option.some.inj read)
        refine ⟨chars', digitsFrom?_of_head digits ?_, near, Nat.le_refl _⟩
        rw [near.any_head solid]
        simp [noDigit, noUnderscore]
    | case6 digits =>
        obtain ⟨rfl, rfl⟩ := Prod.mk.inj (Option.some.inj read)
        exact ⟨chars', digitsFrom?_of_head digits (near.any_head solid), near, Nat.le_refl _⟩

theorem endsNumber_of_near (near : Near false chars chars') (ends : endsNumber chars) : endsNumber chars' := by
  cases chars with
  | nil =>
      obtain ⟨c, rest, rfl, blank⟩ := near.trails_of_nil.exists_cons
      have noWord : isWordChar c = false := by
        rcases isOpenBlank_iff.mp blank with rfl | rfl | rfl | rfl <;> decide
      simp [endsNumber, noWord]
  | cons c chars =>
      have follows : ∀ word ∈ wordsBehindNumbers,
          word.toList.isPrefixOf chars' = word.toList.isPrefixOf (c :: chars) := fun word member =>
        near.isPrefixOf (not_isBlank_of_all (by decide +kernel) member)
      obtain ⟨rest', rfl, _⟩ := near.cons
      rw [endsNumber, Bool.or_eq_true, List.any_eq_true] at ends ⊢
      refine ends.imp id ?_
      rintro ⟨word, member, stands⟩
      exact ⟨word, member, (follows word member).trans stands⟩

theorem tracks_intLexeme? (digits : List Char) : Tracks (intLexeme? base digits) where
  track {chars chars' lexeme rest} near read := by
    unfold intLexeme? at read ⊢
    split at read
    · contradiction
    case isFalse fits =>
      obtain ⟨rfl, rfl⟩ := Prod.mk.inj (Option.some.inj read)
      rw [Bool.or_eq_true, not_or, Bool.not_eq_true, Bool.not_eq_false'] at fits
      refine ⟨chars', if_neg ?_, near, Nat.le_refl _⟩
      rw [Bool.or_eq_true, not_or, Bool.not_eq_true, Bool.not_eq_false']
      exact ⟨endsNumber_of_near near fits.1, fits.2⟩

theorem solid_isPlainDigit : Solid isPlainDigit :=
  .of_all (by decide)

theorem tracks_digitsInt? : Tracks (digitsInt? base) where
  track {chars chars' lexeme rest} near read := by
    unfold digitsInt? at read ⊢
    rw [near.any_head solid_isDigitOf]
    split at read
    · contradiction
    case isFalse begins =>
      rw [if_neg begins]
      refine Tracks.track (.bind (tracks_digitsFrom? []) fun digits => ⟨fun near read => ?_⟩) near read
      dsimp only at read ⊢
      rw [near.any_head solid_isPlainDigit]
      split at read
      · contradiction
      case isFalse goesOn =>
        rw [if_neg goesOn]
        exact (tracks_intLexeme? digits).track near read

/-- A reading that passes a mark first if it is there. -/
theorem tracks_of_mark {α : Type} (mark : Char) {behind otherwise read : List Char → Option (α × List Char)}
    (solid : mark ∉ blanks) (first : Tracks behind)
    (second : Tracks otherwise) (isMarked : ∀ rest, read (mark :: rest) = behind rest)
    (isBare : ∀ chars, chars.head? ≠ some mark → read chars = otherwise chars) : Tracks read where
  track {chars chars' value rest} near success := by
    by_cases marked : chars.head? = some mark
    · obtain ⟨others, rfl⟩ := List.head?_eq_some_iff.mp marked
      obtain ⟨others', rfl, onward⟩ := near.cons_of_solid (.beq solid) (beq_self_eq_true mark)
      rw [isMarked] at success
      obtain ⟨rest', success', nearRest, shorter⟩ := first.track onward success
      exact ⟨rest', (isMarked others').trans success', nearRest, Nat.le_succ_of_le shorter⟩
    · have bare : chars'.head? ≠ some mark := by
        intro marked'
        obtain ⟨others', rfl⟩ := List.head?_eq_some_iff.mp marked'
        obtain ⟨others, rfl, _⟩ := near.cons_right_of_solid (.beq solid) (beq_self_eq_true mark)
        exact marked rfl
      rw [isBare chars marked] at success
      rw [isBare chars' bare]
      exact second.track near success

theorem tracks_basedInt? : Tracks (basedInt? base) := by
  have digits : Tracks (digitsInt? base) := tracks_digitsInt?
  refine tracks_of_mark '_' (by decide) digits digits (fun _ => rfl) ?_
  intro chars bare
  unfold basedInt?
  split
  · exact absurd rfl bare
  · rfl

theorem tracks_plainNumber? (digits : List Char) (places : Nat) (isInt : Bool) :
    Tracks (plainNumber? digits places isInt) where
  track {chars chars' lexeme rest} near read := by
    cases isInt with
    | true => exact (tracks_intLexeme? digits).track near read
    | false =>
        change (if endsNumber chars then _ else _) = _ at read
        split at read
        case isTrue ends =>
          obtain ⟨rfl, rfl⟩ := Prod.mk.inj (Option.some.inj read)
          exact ⟨chars', if_pos (endsNumber_of_near near ends), near, Nat.le_refl _⟩
        · contradiction

theorem tracks_scaledNumber? (digits : List Char) (places : Nat) (negative : Bool) :
    Tracks (scaledNumber? digits places negative) := by
  refine .bind (tracks_digitsFrom? []) fun exponent => ⟨fun {chars chars' lexeme rest} near read => ?_⟩
  dsimp only at read ⊢
  split at read
  case isTrue ends =>
    obtain ⟨rfl, rfl⟩ := Prod.mk.inj (Option.some.inj read)
    exact ⟨chars', if_pos (endsNumber_of_near near ends), near, Nat.le_refl _⟩
  · contradiction

/-- Whether an exponent may begin with a character. -/
def beginsExponent (c : Char) : Bool :=
  c == '+' || c == '-' || isPlainDigit c

theorem solid_isExponentMark : Solid isExponentMark :=
  .of_all (by decide)

theorem solid_beginsExponent : Solid beginsExponent :=
  .of_all (by decide)

/-- A number has no exponent unless a mark and the beginning of an exponent follow. -/
theorem exponentFrom?_of_bare {digits : List Char} {places : Nat} {isInt : Bool}
    (bare : ∀ mark sign rest, chars = mark :: sign :: rest → isExponentMark mark → ¬beginsExponent sign) :
    exponentFrom? digits places isInt chars = plainNumber? digits places isInt chars := by
  unfold exponentFrom?
  split
  case h_1 mark sign rest =>
    split
    · rfl
    case isFalse marked =>
      have noSign := bare mark sign rest rfl (by simpa using marked)
      simp only [beginsExponent, Bool.or_eq_true, not_or, Bool.not_eq_true] at noSign
      simp [noSign]
  case h_2 => rfl

theorem tracks_exponentFrom? (digits : List Char) (places : Nat) (isInt : Bool) :
    Tracks (exponentFrom? digits places isInt) where
  track {chars chars' lexeme rest} near read := by
    by_cases begins : ∃ mark sign others, chars = mark :: sign :: others ∧ isExponentMark mark ∧
        beginsExponent sign
    · obtain ⟨mark, sign, chars, rfl, isMark, isSign⟩ := begins
      obtain ⟨_, rfl, behind⟩ := near.cons_of_solid solid_isExponentMark isMark
      obtain ⟨chars', rfl, onward⟩ := behind.cons_of_solid solid_beginsExponent isSign
      unfold exponentFrom? at read ⊢
      dsimp only at read ⊢
      rw [isMark, if_neg (by simp)] at read ⊢
      rw [onward.any_head solid_isPlainDigit]
      split at read
      case isTrue signed =>
        rw [if_pos signed]
        split at read
        case isTrue digit =>
          rw [if_pos digit]
          obtain ⟨rest', read', nearRest, shorter⟩ :=
            (tracks_scaledNumber? digits places (sign == '-')).track onward read
          exact ⟨rest', read', nearRest, by simp only [List.length_cons]; omega⟩
        · contradiction
      case isFalse bare =>
        have digit : isPlainDigit sign := (Bool.or_eq_true_iff.mp isSign).resolve_left bare
        rw [if_pos digit] at read
        rw [if_neg bare, if_pos digit]
        obtain ⟨rest', read', nearRest, shorter⟩ :=
          (tracks_scaledNumber? digits places false).track behind read
        exact ⟨rest', read', nearRest, Nat.le_succ_of_le shorter⟩
    · have bare : ∀ mark sign rest, chars' = mark :: sign :: rest → isExponentMark mark →
          ¬beginsExponent sign := by
        rintro mark sign rest' rfl isMark isSign
        obtain ⟨_, rfl, behind⟩ := near.cons_right_of_solid solid_isExponentMark isMark
        obtain ⟨others, rfl, _⟩ := behind.cons_right_of_solid solid_beginsExponent isSign
        exact begins ⟨mark, sign, others, rfl, isMark, isSign⟩
      rw [exponentFrom?_of_bare fun mark sign others same isMark isSign =>
        begins ⟨mark, sign, others, same, isMark, isSign⟩] at read
      rw [exponentFrom?_of_bare bare]
      exact (tracks_plainNumber? digits places isInt).track near read

theorem tracks_fractionFrom? (whole : List Char) : Tracks (fractionFrom? whole) where
  track {chars chars' lexeme rest} near read := by
    unfold fractionFrom? at read ⊢
    rw [near.any_head solid_isPlainDigit]
    split at read
    case isTrue begins =>
      rw [if_pos begins]
      exact Tracks.track (.bind (tracks_digitsFrom? []) fun fraction => tracks_exponentFrom? _ _ _) near read
    case isFalse bare =>
      rw [if_neg bare]
      exact (tracks_exponentFrom? _ _ _).track near read

theorem tracks_wholeFrom? (whole : List Char) : Tracks (wholeFrom? whole) where
  track {chars chars' lexeme rest} near read := by
    unfold wholeFrom? at read ⊢
    rw [near.any_head solid_isExponentMark]
    dsimp only at read ⊢
    generalize chars.head?.any isExponentMark = exponent at read ⊢
    refine Tracks.track (.bind (tracks_exponentFrom? _ _ _) fun lexeme =>
      ⟨fun {chars chars' _ _} near read => ?_⟩) near read
    dsimp only at read ⊢
    split at read
    · split at read
      · contradiction
      case isFalse fits =>
        obtain ⟨rfl, rfl⟩ := Prod.mk.inj (Option.some.inj read)
        exact ⟨chars', if_neg fits, near, Nat.le_refl _⟩
    case h_2 noInt =>
      split at read
      case isTrue scaled =>
        obtain ⟨rfl, rfl⟩ := Prod.mk.inj (Option.some.inj read)
        exact ⟨chars', by simp [scaled], near, Nat.le_refl _⟩
      · contradiction

theorem isDigitOf_ten (digit : isPlainDigit c) : isDigitOf 10 c := by
  have bounds := digit
  rw [isPlainDigit, Bool.and_eq_true, decide_eq_true_eq, decide_eq_true_eq, Char.le_def, Char.le_def,
    UInt32.le_iff_toNat_le, UInt32.le_iff_toNat_le] at bounds
  have value : c.toNat - 48 < 10 := by
    have upper : c.toNat ≤ 57 := bounds.2
    omega
  simpa [isDigitOf, digitOf?, digit] using value

/-- Whether a number may begin with a character. -/
def beginsNumber (c : Char) : Bool :=
  isPlainDigit c || c == '.'

theorem tracks_decimal? (begins : beginsNumber c) : Tracks fun chars => decimal? (c :: chars) where
  track {chars chars' lexeme rest} near read := by
    unfold decimal? at read ⊢
    by_cases isPoint : c = '.'
    · subst isPoint
      exact (tracks_fractionFrom? []).track near read
    have digit : isDigitOf 10 c := by
      rw [beginsNumber, Bool.or_eq_true, beq_iff_eq] at begins
      exact isDigitOf_ten (begins.resolve_right isPoint)
    have first : ∀ chars, digitsFrom? 10 [] (c :: chars) = digitsFrom? 10 [c] chars := by
      intro chars
      rw [digitsFrom?, if_pos digit]
      rintro _ _ rfl _
      exact absurd digit (by decide)
    split at read
    case h_1 same => exact absurd (List.cons.inj same).1 isPoint
    split
    case h_1 same => exact absurd (List.cons.inj same).1 isPoint
    rw [first] at read ⊢
    refine Tracks.track (.bind (tracks_digitsFrom? [c]) fun whole => ?_) near read
    refine tracks_of_mark '.' (by decide) (tracks_fractionFrom? whole) (tracks_wholeFrom? whole)
      (fun _ => rfl) ?_
    intro chars bare
    dsimp only
    split
    · exact absurd rfl bare
    · rfl

theorem tracks_number? (begins : beginsNumber c) : Tracks fun chars => number? (c :: chars) where
  track {chars chars' lexeme rest} near read := by
    have solid : Solid fun c => (baseOf? c).isSome := .of_all (by decide)
    have decimal : ∀ chars, ¬(c = '0' ∧ chars.head?.any fun c => (baseOf? c).isSome) →
        number? (c :: chars) = decimal? (c :: chars) := by
      intro chars bare
      unfold number?
      split
      case h_1 mark rest same =>
        obtain ⟨rfl, rfl⟩ := List.cons.inj same
        have noBase : baseOf? mark = none := by simpa using bare
        rw [noBase]
      · rfl
    by_cases based : c = '0' ∧ chars.head?.any fun c => (baseOf? c).isSome
    · obtain ⟨rfl, isBased⟩ := based
      obtain ⟨mark, chars, rfl⟩ := List.exists_cons_of_ne_nil (l := chars) (by rintro rfl; contradiction)
      obtain ⟨chars', rfl, onward⟩ := near.cons_of_solid solid isBased
      have isMark : (baseOf? mark).isSome := isBased
      obtain ⟨base, isBase⟩ := Option.isSome_iff_exists.mp isMark
      have same : ∀ chars, number? ('0' :: mark :: chars) = basedInt? base chars := by
        intro chars
        rw [number?, isBase]
      rw [same] at read ⊢
      obtain ⟨rest', read', nearRest, shorter⟩ := tracks_basedInt?.track onward read
      exact ⟨rest', read', nearRest, Nat.le_succ_of_le shorter⟩
    · have bare := based
      rw [← near.any_head solid] at bare
      rw [decimal chars based] at read
      rw [decimal chars' bare]
      exact (tracks_decimal? begins).track near read

end Linework.Script
