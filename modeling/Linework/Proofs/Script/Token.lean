import Linework.Proofs.Script.Local
import Linework.Proofs.Script.Number
import Mathlib.Data.List.Find

/-!
# Lexemes at the front of texts that are cut alike

What is cut from the front of the text of an expression is cut from the front of the same text in a block, as
long as it is no literal with a line end in it: the margin of the line behind would be a part of the literal.
-/

namespace Linework.Script

open Linework.Text Linework.Decimal

variable {chars chars' rest : List Char} {c : Char}

/-! ## What is cut may stand in an expression -/

section Inner

variable {base places : Nat} {digits : List Char} {isInt : Bool} {lexeme : Lexeme}

theorem isInner_of_intLexeme? (read : intLexeme? base digits chars = some (lexeme, rest)) :
    lexeme.isInner := by
  grind [intLexeme?, Lexeme.isInner]

theorem isInner_of_basedInt? (read : basedInt? base chars = some (lexeme, rest)) : lexeme.isInner := by
  have digits : ∀ {chars}, digitsInt? base chars = some (lexeme, rest) → lexeme.isInner := by
    grind [digitsInt?, Option.bind_eq_some_iff, isInner_of_intLexeme?]
  grind [basedInt?.eq_def]

theorem isInner_of_exponentFrom? (read : exponentFrom? digits places isInt chars = some (lexeme, rest)) :
    lexeme.isInner := by
  have plain : ∀ {chars}, plainNumber? digits places isInt chars = some (lexeme, rest) → lexeme.isInner := by
    grind [plainNumber?, isInner_of_intLexeme?, Lexeme.isInner]
  have scaled : ∀ {negative chars}, scaledNumber? digits places negative chars = some (lexeme, rest) →
      lexeme.isInner := by
    grind [scaledNumber?, Option.bind_eq_some_iff, Lexeme.isInner]
  grind [exponentFrom?.eq_def]

theorem isInner_of_decimal? (read : decimal? chars = some (lexeme, rest)) : lexeme.isInner := by
  have fraction : ∀ {digits chars}, fractionFrom? digits chars = some (lexeme, rest) → lexeme.isInner := by
    grind [fractionFrom?, Option.bind_eq_some_iff, isInner_of_exponentFrom?]
  have whole : ∀ {digits chars}, wholeFrom? digits chars = some (lexeme, rest) → lexeme.isInner := by
    grind [wholeFrom?, Option.bind_eq_some_iff, isInner_of_exponentFrom?, Lexeme.isInner]
  grind [decimal?.eq_def, Option.bind_eq_some_iff]

theorem isInner_of_number? (read : number? chars = some (lexeme, rest)) : lexeme.isInner := by
  grind [number?.eq_def, isInner_of_decimal?, isInner_of_basedInt?]

theorem isInner_of_literal? {flags : Bool × Bool} {quote : Char}
    (read : literal? flags quote chars = some (lexeme, rest)) : lexeme.isInner := by
  grind [literal?, Option.map_eq_some_iff, Lexeme.isInner]

theorem isInner_of_word? (read : word? chars = some (lexeme, rest)) : lexeme.isInner := by
  grind [word?, wordLexeme?, isInner_of_literal?, Option.map_eq_some_iff, Lexeme.isInner]

theorem isInner_of_token? (read : token? c chars = some (lexeme, rest)) :
    lexeme.isInner ∨ lexeme = .stray := by
  grind [token?, isInner_of_number?, isInner_of_word?, isInner_of_literal?, Lexeme.isInner]

end Inner

/-! ## Literals -/

/-- Whether a lexeme is a literal that holds a line end. -/
def Lexeme.spansLines : Lexeme → Bool
  | .literal value => value.body.any endsLine
  | _ => false

theorem solid_isLiteralQuote : Solid isLiteralQuote :=
  .of_all (by decide)

variable {quote : Char} {body : List Char}

theorem singleBody?_of_near (isQuote : isLiteralQuote quote) (near : Near false chars chars')
    (read : singleBody? quote chars = some (body, rest)) (short : ∀ c ∈ body, endsLine c = false) :
    ∃ rest', singleBody? quote chars' = some (body, rest') ∧ Near false rest rest' ∧
      rest'.length ≤ chars'.length := by
  fun_induction singleBody? quote chars generalizing chars' body with
  | case1 => contradiction
  | case2 c chars ih =>
      obtain ⟨⟨inside, between⟩, readInside, same⟩ := Option.map_eq_some_iff.mp read
      obtain ⟨rfl, rfl⟩ := Prod.mk.inj same
      obtain ⟨first, second, others⟩ := by simpa using short
      obtain ⟨_, rfl, behind⟩ := near.cons_of_not_ends first
      obtain ⟨chars', rfl, onward⟩ := behind.cons_of_not_ends second
      obtain ⟨rest', read', nearRest, shorter⟩ := ih onward readInside others
      refine ⟨rest', ?_, nearRest, by simp only [List.length_cons]; omega⟩
      rw [singleBody?, read']
      rfl
  | case3 c chars noEscape closes =>
      obtain ⟨rfl, rfl⟩ := Prod.mk.inj (Option.some.inj read)
      have isQuote : isLiteralQuote c := beq_iff_eq.mp closes ▸ isQuote
      obtain ⟨chars', rfl, onward⟩ := near.cons_of_solid solid_isLiteralQuote isQuote
      refine ⟨chars', ?_, onward, by simp⟩
      rw [singleBody?, if_pos closes]
      rintro _ _ rfl _
      exact absurd isQuote (by decide)
  | case4 => contradiction
  | case5 c chars noEscape open' goesOn ih =>
      obtain ⟨⟨inside, between⟩, readInside, same⟩ := Option.map_eq_some_iff.mp read
      obtain ⟨rfl, rfl⟩ := Prod.mk.inj same
      obtain ⟨first, others⟩ := List.forall_mem_cons.mp short
      obtain ⟨chars', rfl, onward⟩ := near.cons_of_not_ends first
      obtain ⟨rest', read', nearRest, shorter⟩ := ih onward readInside others
      refine ⟨rest', ?_, nearRest, Nat.le_succ_of_le shorter⟩
      rw [singleBody?, if_neg open', if_neg goesOn, read']
      · rfl
      · rintro d others rfl rfl
        simp at goesOn

/-- Two quotes stand in front of both texts or of none. -/
theorem Near.two_quotes (isQuote : isLiteralQuote quote) (near : Near false chars chars') :
    [quote, quote].isPrefixOf chars' = [quote, quote].isPrefixOf chars :=
  near.isPrefixOf (by simp [solid_isLiteralQuote.not_isBlank isQuote])

theorem Near.drop_quotes (isQuote : isLiteralQuote quote) (near : Near false chars chars')
    (stand : [quote, quote].isPrefixOf chars) : Near false (chars.drop 2) (chars'.drop 2) :=
  @Near.drop _ _ [quote, quote] near (by simp [solid_isLiteralQuote.not_isBlank isQuote]) stand

theorem tripleBody?_of_near (isQuote : isLiteralQuote quote) (near : Near false chars chars')
    (read : tripleBody? quote chars = some (body, rest)) (short : ∀ c ∈ body, endsLine c = false) :
    ∃ rest', tripleBody? quote chars' = some (body, rest') ∧ Near false rest rest' ∧
      rest'.length ≤ chars'.length := by
  fun_induction tripleBody? quote chars generalizing chars' body with
  | case1 => contradiction
  | case2 c chars ih =>
      obtain ⟨⟨inside, between⟩, readInside, same⟩ := Option.map_eq_some_iff.mp read
      obtain ⟨rfl, rfl⟩ := Prod.mk.inj same
      obtain ⟨first, second, others⟩ := by simpa using short
      obtain ⟨_, rfl, behind⟩ := near.cons_of_not_ends first
      obtain ⟨chars', rfl, onward⟩ := behind.cons_of_not_ends second
      obtain ⟨rest', read', nearRest, shorter⟩ := ih onward readInside others
      refine ⟨rest', ?_, nearRest, by simp only [List.length_cons]; omega⟩
      rw [tripleBody?, read']
      rfl
  | case3 c chars noEscape closes =>
      obtain ⟨rfl, rfl⟩ := Prod.mk.inj (Option.some.inj read)
      obtain ⟨same, stand⟩ := Bool.and_eq_true_iff.mp closes
      have isFirst : isLiteralQuote c := beq_iff_eq.mp same ▸ isQuote
      obtain ⟨chars', rfl, onward⟩ := near.cons_of_solid solid_isLiteralQuote isFirst
      refine ⟨chars'.drop 2, ?_, onward.drop_quotes isQuote stand, ?_⟩
      · rw [tripleBody?, onward.two_quotes isQuote, if_pos closes]
        rintro _ _ rfl _
        exact absurd isFirst (by decide)
      · simp only [List.length_drop, List.length_cons]
        omega
  | case4 c chars noEscape goesOn ih =>
      obtain ⟨⟨inside, between⟩, readInside, same⟩ := Option.map_eq_some_iff.mp read
      obtain ⟨rfl, rfl⟩ := Prod.mk.inj same
      obtain ⟨first, others⟩ := List.forall_mem_cons.mp short
      obtain ⟨chars', rfl, onward⟩ := near.cons_of_not_ends first
      obtain ⟨rest', read', nearRest, shorter⟩ := ih onward readInside others
      refine ⟨rest', ?_, nearRest, Nat.le_succ_of_le shorter⟩
      rw [tripleBody?, onward.two_quotes isQuote, if_neg goesOn, read']
      · rfl
      · rintro d others' rfl rfl
        cases chars with
        | nil => contradiction
        | cons d others => exact noEscape d others rfl rfl

theorem literal?_of_near {flags : Bool × Bool} {lexeme : Lexeme} (isQuote : isLiteralQuote quote)
    (near : Near false chars chars') (read : literal? flags quote chars = some (lexeme, rest))
    (short : lexeme.spansLines = false) :
    ∃ rest', literal? flags quote chars' = some (lexeme, rest') ∧ Near false rest rest' ∧
      rest'.length ≤ chars'.length := by
  obtain ⟨⟨body, between⟩, readBody, same⟩ := Option.map_eq_some_iff.mp read
  obtain ⟨rfl, rfl⟩ := Prod.mk.inj same
  have short : ∀ c ∈ body, endsLine c = false := by simpa [Lexeme.spansLines] using short
  have readBody' : ∃ rest', literalBody? quote chars' = some (body, rest') ∧ Near false between rest' ∧
      rest'.length ≤ chars'.length := by
    unfold literalBody? at readBody ⊢
    rw [near.two_quotes isQuote]
    split at readBody
    case isTrue stand =>
      rw [if_pos stand]
      obtain ⟨rest', read', nearRest, shorter⟩ :=
        tripleBody?_of_near isQuote (near.drop_quotes isQuote stand) readBody short
      exact ⟨rest', read', nearRest, Nat.le_trans shorter (by simp)⟩
    case isFalse single =>
      rw [if_neg single]
      exact singleBody?_of_near isQuote near readBody short
  obtain ⟨rest', readBody', nearRest, shorter⟩ := readBody'
  exact ⟨rest', Option.map_eq_some_iff.mpr ⟨_, readBody', rfl⟩, nearRest, shorter⟩

/-! ## Words -/

theorem solid_isNameContinue : Solid isNameContinue := by
  have ascii : blanks.all fun c => !(isAsciiLetter c || isAsciiDigit c || c == '_') := by decide +kernel
  -- The ranges are walked through as a list: each access to an array counts from its beginning.
  have beyond : blanks.all fun c =>
      !nameContinueRanges.toList.any fun range => range.1 ≤ c.toNat && c.toNat ≤ range.2 := by decide +kernel
  refine ⟨fun c member => ?_⟩
  unfold isNameContinue Ranges.covers
  rw [← Array.any_toList]
  split
  · exact (Bool.not_eq_true' _).mp (List.all_eq_true.mp ascii c member)
  · exact (Bool.not_eq_true' _).mp (List.all_eq_true.mp beyond c member)

/-- A word with a blank in it is none. -/
theorem wordLexeme?_eq_none {word : List Char} (member : c ∈ word) (blank : isBlank c) :
    wordLexeme? word = none := by
  have noKeyword : keywords.contains (String.ofList word) = false := by
    rw [Bool.eq_false_iff]
    intro isKeyword
    have noBlank := not_isBlank_of_all (by decide +kernel) (List.contains_iff_mem.mp isKeyword) c
      (by simpa using member)
    rw [blank] at noBlank
    contradiction
  have noName : word.all isNameContinue = false := by
    rw [Bool.eq_false_iff]
    intro all
    rw [List.all_eq_true] at all
    exact absurd (all c member) (by simp [solid_isNameContinue.fails c (mem_blanks blank)])
  unfold wordLexeme?
  dsimp only
  rw [noKeyword, noName, Bool.and_false]
  rfl

theorem literalFlags?_eq_none {word : List Char} (member : c ∈ word) (blank : isBlank c) :
    literalFlags? word = none := by
  have solid : Solid fun c => c.toLower == 'u' || c.toLower == 'r' || c.toLower == 'f' := .of_all (by decide)
  have differs := solid.fails c (mem_blanks blank)
  have isMember := List.mem_map_of_mem (f := Char.toLower) member
  unfold literalFlags?
  split <;> simp_all

/-- No word holds a blank. -/
theorem not_isBlank_of_word? {lexeme : Lexeme} (read : word? chars = some (lexeme, rest))
    (member : c ∈ chars.takeWhile isWordChar) : isBlank c = false := by
  rw [Bool.eq_false_iff]
  intro blank
  unfold word? at read
  dsimp only at read
  rw [literalFlags?_eq_none member blank, wordLexeme?_eq_none member blank] at read
  split at read
  · contradiction
  · rw [ite_self] at read
    contradiction

theorem word?_of_near {lexeme : Lexeme} (near : Near false (c :: chars) (c :: chars')) (begins : isWordChar c)
    (read : word? (c :: chars) = some (lexeme, rest)) (short : lexeme.spansLines = false) :
    ∃ rest', word? (c :: chars') = some (lexeme, rest') ∧ Near false rest rest' ∧
      rest'.length ≤ chars'.length := by
  have blank : ∀ c, isOpenBlank c → isWordChar c = false := by
    intro c isBlank
    rcases isOpenBlank_iff.mp isBlank with rfl | rfl | rfl | rfl <;> decide
  have noEnd : ∀ d ∈ (c :: chars).takeWhile isWordChar, endsLine d = false := by
    exact fun d member => not_endsLine (not_isBlank_of_word? read member)
  obtain ⟨sameWord, nearRest⟩ := near.takeWhile blank noEnd
  have shorter : ((c :: chars').dropWhile isWordChar).length ≤ chars'.length := by
    rw [List.dropWhile_cons_of_pos begins]
    exact (List.dropWhile_suffix isWordChar).length_le
  unfold word? at read ⊢
  dsimp only at read ⊢
  rw [sameWord]
  generalize (c :: chars).takeWhile isWordChar = word at read
  generalize (c :: chars).dropWhile isWordChar = others at read nearRest
  generalize (c :: chars').dropWhile isWordChar = others' at nearRest shorter
  have isWord : ∀ {rest}, (wordLexeme? word).map (fun lexeme => (lexeme, others)) = some (lexeme, rest) →
      ∃ rest', (wordLexeme? word).map (fun lexeme => (lexeme, others')) = some (lexeme, rest') ∧
        Near false rest rest' ∧ rest'.length ≤ chars'.length := by
    intro rest read
    obtain ⟨found, isFound, same⟩ := Option.map_eq_some_iff.mp read
    obtain ⟨rfl, rfl⟩ := Prod.mk.inj same
    exact ⟨others', Option.map_eq_some_iff.mpr ⟨_, isFound, rfl⟩, nearRest, shorter⟩
  cases others with
  | nil =>
      obtain ⟨c, rest, rfl, isBlank⟩ := nearRest.trails_of_nil.exists_cons
      dsimp only at read ⊢
      rw [solid_isLiteralQuote.of_blank isBlank, if_neg Bool.false_ne_true]
      exact isWord read
  | cons quote others =>
      obtain ⟨behind', rfl, _⟩ := nearRest.cons
      dsimp only at read ⊢
      cases flags : if isLiteralQuote quote then literalFlags? word else none with
      | none =>
          rw [flags] at read
          exact isWord read
      | some flags' =>
          rw [flags] at read
          obtain ⟨isQuote, _⟩ := Option.ite_none_right_eq_some.mp flags
          obtain ⟨_, same, onward⟩ := nearRest.cons_of_solid solid_isLiteralQuote isQuote
          obtain rfl := (List.cons.inj same).2
          obtain ⟨rest', read', nearRest, shorterStill⟩ := literal?_of_near isQuote onward read short
          exact ⟨rest', read', nearRest, Nat.le_trans shorterStill (Nat.le_of_succ_le shorter)⟩

/-! ## Lexemes -/

theorem solid_of_mem_marks {symbol : String} (isMark : symbol ∈ marks) : ∀ c ∈ symbol.toList, isBlank c = false :=
  not_isBlank_of_all (by decide +kernel) isMark

theorem ne_empty_of_mem_marks {symbol : String} (isMark : symbol ∈ marks) : symbol ≠ "" := by
  have nonempty : marks.all (· != "") := by decide +kernel
  simpa using List.all_eq_true.mp nonempty symbol isMark

theorem takeMark?_of_near {symbol : String} (near : Near false chars chars')
    (read : takeMark? chars = some (symbol, rest)) :
    ∃ rest', takeMark? chars' = some (symbol, rest') ∧ Near false rest rest' ∧
      rest'.length < chars'.length := by
  obtain ⟨found, isFound, same⟩ := Option.map_eq_some_iff.mp read
  obtain ⟨rfl, rfl⟩ := Prod.mk.inj same
  have sameMark : marks.find? (fun symbol => symbol.toList.isPrefixOf chars') =
      marks.find? (fun symbol => symbol.toList.isPrefixOf chars) := by
    refine List.find?_congr fun symbol member => ?_
    exact near.isPrefixOf (solid_of_mem_marks member)
  have isMark := List.mem_of_find?_eq_some isFound
  have stands := List.find?_some isFound
  refine ⟨chars'.drop found.length, ?_, ?_, ?_⟩
  · rw [takeMark?, sameMark, isFound]
    rfl
  · rw [← String.length_toList]
    exact near.drop (solid_of_mem_marks isMark) stands
  · have nonempty : found.length ≠ 0 := fun empty =>
      ne_empty_of_mem_marks isMark (String.length_eq_zero_iff.mp empty)
    have some' : chars'.length ≠ 0 := fun empty => near.ne_nil (List.length_eq_zero_iff.mp empty)
    rw [List.length_drop]
    omega

/-- A lexeme of an expression begins with no blank. -/
theorem not_isBlank_of_token? {lexeme : Lexeme} (read : token? c chars = some (lexeme, rest))
    (isInner : lexeme.isInner) : isBlank c = false := by
  have solid : Solid beginsNumber := .of_all (by decide)
  unfold token? at read
  split at read
  case isTrue begins =>
    refine solid.not_isBlank ?_
    rw [beginsNumber, Bool.or_eq_true]
    exact (Bool.or_eq_true_iff.mp begins).imp id fun isPoint => (Bool.and_eq_true_iff.mp isPoint).1
  split at read
  case isTrue isQuote => exact solid_isLiteralQuote.not_isBlank isQuote
  split at read
  case isTrue begins =>
    refine not_isBlank_of_word? read ?_
    rw [List.takeWhile_cons_of_pos begins]
    exact List.mem_cons_self
  split at read
  case h_1 symbol others isMark =>
    obtain ⟨found, isFound, _⟩ := Option.map_eq_some_iff.mp isMark
    have nonempty := ne_empty_of_mem_marks (List.mem_of_find?_eq_some isFound)
    have noBlank := solid_of_mem_marks (List.mem_of_find?_eq_some isFound)
    have stands := List.find?_some isFound
    cases first : found.toList with
    | nil => exact absurd (String.toList_eq_nil_iff.mp first) nonempty
    | cons d others =>
        rw [first, List.isPrefixOf, Bool.and_eq_true, beq_iff_eq] at stands
        rw [first, stands.1] at noBlank
        exact noBlank c List.mem_cons_self
  case h_2 =>
    split at read
    · obtain ⟨rfl, _⟩ := Prod.mk.inj (Option.some.inj read)
      contradiction
    · contradiction

theorem token?_of_near {lexeme : Lexeme} (near : Near false (c :: chars) (c :: chars'))
    (read : token? c chars = some (lexeme, rest)) (isInner : lexeme.isInner)
    (short : lexeme.spansLines = false) :
    ∃ rest', token? c chars' = some (lexeme, rest') ∧ Near false rest rest' ∧
      rest'.length ≤ chars'.length := by
  have noEnd : endsLine c = false := not_endsLine (not_isBlank_of_token? read isInner)
  obtain ⟨_, same, behind⟩ := near.cons_of_not_ends noEnd
  obtain rfl := (List.cons.inj same).2
  unfold token? at read ⊢
  rw [behind.any_head solid_isPlainDigit]
  split at read
  case isTrue begins =>
    have isFirst : beginsNumber c := by
      rw [beginsNumber, Bool.or_eq_true]
      exact (Bool.or_eq_true_iff.mp begins).imp id fun isPoint => (Bool.and_eq_true_iff.mp isPoint).1
    rw [if_pos begins]
    exact (tracks_number? isFirst).track behind read
  case isFalse noNumber =>
    rw [if_neg noNumber]
    split at read
    case isTrue isQuote =>
      rw [if_pos isQuote]
      exact literal?_of_near isQuote behind read short
    case isFalse noQuote =>
      rw [if_neg noQuote]
      split at read
      case isTrue begins =>
        rw [if_pos begins]
        exact word?_of_near near begins read short
      case isFalse noWord =>
        rw [if_neg noWord]
        split at read
        case h_1 symbol others isMark =>
          obtain ⟨rfl, rfl⟩ := Prod.mk.inj (Option.some.inj read)
          obtain ⟨rest', isMark', nearRest, shorter⟩ := takeMark?_of_near near isMark
          rw [isMark']
          exact ⟨rest', rfl, nearRest, Nat.le_of_lt_succ shorter⟩
        case h_2 =>
          split at read
          · obtain ⟨rfl, _⟩ := Prod.mk.inj (Option.some.inj read)
            contradiction
          · contradiction

end Linework.Script
