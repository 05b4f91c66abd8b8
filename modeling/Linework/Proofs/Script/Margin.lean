import Linework.Script.Layout
import Mathlib.Data.List.Forall2

/-!
# Texts apart from their margins

A block is dedented and indented before it is read. This changes nothing but blanks at the beginnings of
lines: the margins. Lines begin here at the beginning of a text and behind each character that indenting takes
for a line end, also where that character stands inside of a comment or a literal. In the end every line
begins with a blank.
-/

namespace Linework.Script

open Linework.Text

variable {before after after' chars margin line line' : List Char} {lines lines' : List (List Char)}
  {fresh : Bool} {c : Char}

/-! ## Dropping margins -/

/-- A text without the margins of its lines; its beginning is the beginning of a line if it is `fresh`. -/
def dropMargins : Bool → List Char → List Char
  | _, [] => []
  | fresh, c :: rest =>
    if fresh && isMarginBlank c then dropMargins true rest else c :: dropMargins (endsLine c) rest

theorem isMarginBlank_iff : isMarginBlank c ↔ c = ' ' ∨ c = '\t' := by
  simp [isMarginBlank]

theorem isMarginBlank_of_endsLine (ends : endsLine c) : isMarginBlank c = false := by
  rw [Bool.eq_false_iff]
  intro blank
  rcases isMarginBlank_iff.mp blank with rfl | rfl <;> exact absurd ends (by decide)

theorem dropMargins_cons_of_not_blank (solid : isMarginBlank c = false) :
    dropMargins fresh (c :: after) = c :: dropMargins (endsLine c) after := by
  rw [dropMargins, solid, Bool.and_false, if_neg Bool.false_ne_true]

theorem dropMargins_false_cons : dropMargins false (c :: after) = c :: dropMargins (endsLine c) after :=
  rfl

theorem dropMargins_margin (blank : ∀ c ∈ margin, isMarginBlank c) :
    dropMargins true (margin ++ after) = dropMargins true after := by
  induction margin with
  | nil => rfl
  | cons c margin ih =>
      obtain ⟨first, others⟩ := List.forall_mem_cons.mp blank
      rw [List.cons_append, dropMargins, first, Bool.and_self, if_pos rfl, ih others]

/-- What stands behind a line end can be compared apart from what stands before it. -/
theorem dropMargins_congr (ends : endsLine c) (same : dropMargins true after = dropMargins true after') :
    dropMargins fresh (before ++ c :: after) = dropMargins fresh (before ++ c :: after') := by
  induction before generalizing fresh with
  | nil =>
      rw [List.nil_append, List.nil_append, dropMargins_cons_of_not_blank (isMarginBlank_of_endsLine ends),
        dropMargins_cons_of_not_blank (isMarginBlank_of_endsLine ends), ends, same]
  | cons first before ih =>
      rw [List.cons_append, List.cons_append, dropMargins, dropMargins]
      split
      · exact ih
      · rw [ih]

/-! ## Line ends brought to one -/

theorem unifyLineEnds_append (noReturn : '\r' ∉ before) :
    unifyLineEnds (before ++ after) = before ++ unifyLineEnds after := by
  induction before with
  | nil => rfl
  | cons first before ih =>
      obtain ⟨differs, others⟩ := not_or.mp (mt List.mem_cons.mpr noReturn)
      rw [List.cons_append, unifyLineEnds, ih others]
      · rfl
      · exact fun _ same _ => differs same.symm
      · exact fun same => differs same.symm

/-- A line feed is a line end of its own, or the last character of one. -/
theorem exists_unifyLineEnds_append_newline (line : List Char) :
    ∃ unified, ∀ after, unifyLineEnds (line ++ '\n' :: after) = unified ++ '\n' :: unifyLineEnds after := by
  fun_induction unifyLineEnds line with
  | case1 rest ih =>
      obtain ⟨unified, ih⟩ := ih
      exact ⟨'\n' :: unified, fun after => congrArg ('\n' :: ·) (ih after)⟩
  | case2 rest noFeed ih =>
      obtain ⟨unified, ih⟩ := ih
      cases rest with
      | nil => exact ⟨[], fun after => rfl⟩
      | cons c rest =>
          refine ⟨'\n' :: unified, fun after => ?_⟩
          rw [List.cons_append, List.cons_append, unifyLineEnds, ← List.cons_append, ih]
          · rfl
          · rintro rest' ⟨⟩
            exact noFeed rest rfl
  | case3 c rest noPair noReturn ih =>
      obtain ⟨unified, ih⟩ := ih
      refine ⟨c :: unified, fun after => ?_⟩
      rw [List.cons_append, unifyLineEnds, ih]
      · rfl
      · exact fun _ same _ => noReturn same
      · exact noReturn
  | case4 => exact ⟨[], fun after => rfl⟩

/-! ## Dedenting -/

theorem joinLines_cons (line : List Char) (lines : List (List Char)) (nonempty : lines ≠ []) :
    joinLines (line :: lines) = line ++ '\n' :: joinLines lines := by
  cases lines with
  | nil => contradiction
  | cons next lines => rfl

theorem splitLines_ne_nil (chars : List Char) : splitLines chars ≠ [] := by
  fun_cases splitLines chars <;> simp_all

theorem joinLines_splitLines (chars : List Char) : joinLines (splitLines chars) = chars := by
  fun_induction splitLines chars with
  | case1 => rfl
  | case2 c rest isNewline ih =>
      rw [joinLines_cons _ _ (splitLines_ne_nil rest), ih, beq_iff_eq.mp isNewline]
      rfl
  | case3 c rest _ none _ => exact absurd none (splitLines_ne_nil rest)
  | case4 c rest _ line lines split ih =>
      rw [split] at ih
      cases lines with
      | nil =>
          rw [← ih]
          rfl
      | cons next lines =>
          rw [joinLines_cons _ _ (List.cons_ne_nil _ _)] at ih ⊢
          rw [← ih]
          rfl

/-- A line is another one with less of its margin. -/
def IsDedented (line line' : List Char) : Prop :=
  ∃ margin, (∀ c ∈ margin, isMarginBlank c) ∧ line = margin ++ line'

/-- Lines that are dedented in whatever way differ in their margins alone. -/
theorem dropMargins_joinLines (dedented : List.Forall₂ IsDedented lines lines') :
    dropMargins true (unifyLineEnds (joinLines lines ++ after)) =
      dropMargins true (unifyLineEnds (joinLines lines' ++ after)) := by
  have noReturn : ∀ {margin : List Char}, (∀ c ∈ margin, isMarginBlank c) → '\r' ∉ margin :=
    fun blank member => absurd (blank _ member) (by decide)
  induction dedented with
  | nil => rfl
  | @cons line line' lines lines' first others ih =>
      obtain ⟨margin, blank, rfl⟩ := first
      cases others with
      | nil =>
          change dropMargins true (unifyLineEnds ((margin ++ line' ++ []) ++ after)) =
            dropMargins true (unifyLineEnds ((line' ++ []) ++ after))
          rw [List.append_nil, List.append_nil, List.append_assoc, unifyLineEnds_append (noReturn blank),
            dropMargins_margin blank]
      | cons next others =>
          obtain ⟨unified, unify⟩ := exists_unifyLineEnds_append_newline line'
          rw [joinLines_cons _ _ (List.cons_ne_nil _ _), joinLines_cons _ _ (List.cons_ne_nil _ _),
            List.append_assoc, List.append_assoc, List.append_assoc, unifyLineEnds_append (noReturn blank),
            dropMargins_margin blank, List.cons_append, List.cons_append, unify, unify]
          exact dropMargins_congr (by decide) ih

theorem all_commonStart {as bs : List Char} (blank : ∀ c ∈ as, isMarginBlank c) :
    ∀ c ∈ commonStart as bs, isMarginBlank c := by
  fun_induction commonStart as bs with
  | case1 a as b bs _ ih =>
      obtain ⟨first, others⟩ := List.forall_mem_cons.mp blank
      exact List.forall_mem_cons.mpr ⟨first, ih others⟩
  | case2 => exact nofun
  | case3 => exact nofun

/-- The shared margin holds nothing but blanks. -/
theorem all_sharedMargin (lines : List (List Char)) : ∀ c ∈ sharedMargin lines, isMarginBlank c := by
  have all_foldl : ∀ (others : List (List Char)) {first : List Char}, (∀ c ∈ first, isMarginBlank c) →
      ∀ c ∈ others.foldl commonStart first, isMarginBlank c := by
    intro others
    induction others with
    | nil => exact id
    | cons other others ih => exact fun blank => ih (all_commonStart blank)
  unfold sharedMargin
  dsimp only
  split
  · exact nofun
  case h_2 first others margins =>
    have isMargin : first ∈ (lines.filter (!·.isEmpty)).map (·.takeWhile isMarginBlank) := by
      rw [margins]
      exact List.mem_cons_self
    obtain ⟨line, _, rfl⟩ := List.mem_map.mp isMargin
    exact all_foldl others (List.all_eq_true.mp List.all_takeWhile)

theorem isDedented_dropStart (blank : ∀ c ∈ margin, isMarginBlank c) (line : List Char) :
    IsDedented line (dropStart margin line) := by
  unfold dropStart
  split
  case isTrue isStart =>
    obtain ⟨rest, rfl⟩ := List.isPrefixOf_iff_prefix.mp isStart
    exact ⟨margin, blank, by rw [List.drop_left]⟩
  case isFalse => exact ⟨[], nofun, rfl⟩

/-- Dedenting changes nothing but margins. -/
theorem dropMargins_dedent (chars after : List Char) :
    dropMargins true (unifyLineEnds (dedent chars ++ after)) =
      dropMargins true (unifyLineEnds (chars ++ after)) := by
  have dedented : ∀ {margin : List Char}, (∀ c ∈ margin, isMarginBlank c) → ∀ line : List Char,
      IsDedented line (dropStart margin (if line.all isMarginBlank then [] else line)) := by
    intro margin blank line
    split
    case isTrue blankLine =>
      obtain ⟨margin', blank', empty⟩ := isDedented_dropStart blank []
      exact ⟨line, List.all_eq_true.mp blankLine, by
        rw [(List.append_eq_nil_iff.mp empty.symm).2, List.append_nil]⟩
    case isFalse => exact isDedented_dropStart blank line
  nth_rewrite 2 [← joinLines_splitLines chars]
  unfold dedent
  dsimp only
  rw [List.map_map]
  refine (dropMargins_joinLines ?_).symm
  rw [List.forall₂_map_right_iff, List.forall₂_same]
  exact fun line _ => dedented (all_sharedMargin _) line

/-! ## Indenting -/

/-- A text, and the same with a margin before each line. The lines begin with blanks then, be it that the
margin holds some or that they do. -/
inductive Indented : List Char → List Char → Prop where
  | done : Indented [] []
  | line {margin body text text' : List Char} {c : Char} (blank : ∀ d ∈ margin, isMarginBlank d)
      (noEnd : ∀ d ∈ body, endsLine d = false) (ends : endsLine c)
      (padded : ∀ d ∈ (margin ++ body).head?, isBlank d) (rest : Indented text text') :
      Indented (body ++ c :: text) (margin ++ body ++ c :: text')

theorem isBlank_of_endsLine (ends : endsLine c) : isBlank c := by
  simp only [endsLine, Bool.or_eq_true, Bool.and_eq_true, decide_eq_true_eq, beq_iff_eq] at ends
  simp only [isBlank, Ranges.covers, blankRanges, List.any_toArray, List.any_cons, List.any_nil,
    Bool.or_eq_true, Bool.and_eq_true, decide_eq_true_eq]
  omega

/-- What indenting does to a line, given as its content and its end. -/
theorem exists_indentLine (body lineEnd : List Char) :
    ∃ margin, (∀ d ∈ margin, isMarginBlank d) ∧ (∀ d ∈ (margin ++ body).head?, isBlank d) ∧
      indentLine (body ++ lineEnd) = margin ++ body ++ lineEnd := by
  unfold indentLine
  split
  case isTrue blank =>
    refine ⟨[], nofun, ?_, rfl⟩
    intro d head
    exact List.all_eq_true.mp blank d (List.mem_append_left _ (List.mem_of_mem_head? head))
  case isFalse =>
    refine ⟨[' ', ' ', ' ', ' '], by simp [isMarginBlank], ?_, rfl⟩
    rintro d ⟨⟩
    decide +kernel

/-- The first of the lines begins as the text does. -/
theorem exists_linesWithEnds (line : List Char) (nonempty : chars ≠ []) :
    ∃ more lines, linesWithEnds line chars = (line.reverse ++ more) :: lines ∧
      more.head? = chars.head? := by
  fun_induction linesWithEnds line chars with
  | case1 => contradiction
  | case2 => contradiction
  | case3 line rest ih => exact ⟨['\r', '\n'], _, by simp; rfl, rfl⟩
  | case4 line c rest noPair ends ih => exact ⟨[c], _, by simp; rfl, rfl⟩
  | case5 line c rest noPair goesOn ih =>
      cases rest with
      | nil => exact ⟨[c], [], by simp [linesWithEnds], rfl⟩
      | cons d rest =>
          obtain ⟨more, lines, split, head⟩ := ih (List.cons_ne_nil _ _)
          exact ⟨c :: more, lines, by simp [split], rfl⟩

/-- The lines put together are the text. -/
theorem flatMap_indentLine_head {first : Char} (differs : first ≠ '\n') (rest : List Char) :
    ((linesWithEnds [] (first :: rest)).flatMap indentLine ++ after).head? ≠ some '\n' := by
  obtain ⟨more, lines, split, head⟩ := exists_linesWithEnds [] (List.cons_ne_nil first rest)
  obtain ⟨more, rfl⟩ := List.head?_eq_some_iff.mp head
  rw [split]
  simp [indentLine]
  split
  · simpa using differs
  · simp

theorem unifyLineEnds_return (noFeed : after.head? ≠ some '\n') :
    unifyLineEnds ('\r' :: after) = '\n' :: unifyLineEnds after := by
  rw [unifyLineEnds]
  rintro rest rfl
  exact noFeed rfl

theorem unifyLineEnds_cons (noReturn : c ≠ '\r') :
    unifyLineEnds (c :: after) = c :: unifyLineEnds after :=
  @unifyLineEnds_append [c] after (by simpa using Ne.symm noReturn)

/-- The first of several lines is indented. What is indented with its content may be its end or a part of it. -/
theorem indented_line {body rest rest' : List Char} (lineEnd text text' : List Char)
    (noEnd : ∀ d ∈ body, endsLine d = false) (ends : endsLine c)
    (unify : unifyLineEnds (lineEnd ++ text) = c :: rest)
    (unify' : unifyLineEnds (lineEnd ++ text') = c :: rest') (others : Indented rest rest') :
    Indented (unifyLineEnds (body ++ lineEnd ++ text))
      (unifyLineEnds (indentLine (body ++ lineEnd) ++ text')) := by
  obtain ⟨margin, blank, padded, indents⟩ := exists_indentLine body lineEnd
  have bodyNoReturn : '\r' ∉ body := fun member => absurd (noEnd _ member) (by decide)
  have noReturn : '\r' ∉ margin ++ body := by
    rw [List.mem_append, not_or]
    exact ⟨fun member => absurd (blank _ member) (by decide), bodyNoReturn⟩
  rw [indents, List.append_assoc, List.append_assoc, unifyLineEnds_append bodyNoReturn,
    unifyLineEnds_append noReturn, unify, unify']
  exact .line blank noEnd ends padded others

theorem indented_linesWithEnds {line : List Char} (noEnd : ∀ d ∈ line.reverse, endsLine d = false) :
    Indented (unifyLineEnds (line.reverse ++ chars ++ ['\n']))
      (unifyLineEnds ((linesWithEnds line chars).flatMap indentLine ++ ['\n'])) := by
  have isNewline : endsLine '\n' := by decide
  fun_induction linesWithEnds line chars with
  | case1 line empty =>
      rw [List.isEmpty_iff.mp empty]
      exact @Indented.line [] [] _ _ _ nofun nofun isNewline nofun .done
  | case2 line nonempty =>
      have whole := indented_line [] ['\n'] ['\n'] noEnd isNewline rfl rfl .done
      simpa using whole
  | case3 line rest ih =>
      have whole := indented_line ['\r', '\n'] (rest ++ ['\n']) _ noEnd isNewline rfl rfl (ih nofun)
      simpa using whole
  | case4 line c rest noPair ends ih =>
      have others := ih nofun
      by_cases isReturn : c = '\r'
      · subst isReturn
        cases rest with
        | nil =>
            have whole := indented_line ['\r'] ['\n'] ['\n'] noEnd isNewline rfl rfl .done
            simpa [linesWithEnds] using whole
        | cons d rest =>
            have noFeed : d ≠ '\n' := by
              rintro rfl
              exact noPair rest rfl rfl
            have whole := indented_line ['\r'] (d :: rest ++ ['\n']) _ noEnd isNewline
              (unifyLineEnds_return (by simpa using noFeed))
              (unifyLineEnds_return (flatMap_indentLine_head noFeed rest)) others
            simpa using whole
      · have whole := indented_line [c] (rest ++ ['\n']) _ noEnd ends
          (unifyLineEnds_cons isReturn) (unifyLineEnds_cons isReturn) others
        simpa using whole
  | case5 line c rest noPair goesOn ih =>
      have noEnd' : ∀ d ∈ (c :: line).reverse, endsLine d = false := by
        rw [List.reverse_cons, List.forall_mem_append, List.forall_mem_singleton]
        exact ⟨noEnd, by simpa using goesOn⟩
      simpa using ih noEnd'

theorem indented_indent (chars : List Char) :
    Indented (unifyLineEnds (chars ++ ['\n'])) (unifyLineEnds (indent chars ++ ['\n'])) :=
  @indented_linesWithEnds chars [] nofun

/-- Indenting changes nothing but margins. -/
theorem Indented.dropMargins_eq (indented : Indented after after') :
    dropMargins true after' = dropMargins true after := by
  induction indented with
  | done => rfl
  | @line margin body text text' c blank noEnd ends padded rest ih =>
      rw [List.append_assoc, dropMargins_margin blank]
      exact dropMargins_congr ends ih

/-! ## Lines that begin with blanks -/

/-- Whether all lines begin with blanks; the beginning of the text is the beginning of a line if it is
`fresh`. -/
def isPadded : Bool → List Char → Bool
  | _, [] => true
  | fresh, c :: rest => (!fresh || isBlank c) && isPadded (endsLine c) rest

theorem isPadded_tail (padded : isPadded fresh (c :: chars)) : isPadded (endsLine c) chars :=
  (Bool.and_eq_true_iff.mp padded).2

theorem isPadded_line (noEnd : ∀ d ∈ before, endsLine d = false) (ends : endsLine c)
    (blank : fresh → ∀ d ∈ before.head?, isBlank d) (rest : isPadded true after) :
    isPadded fresh (before ++ c :: after) := by
  induction before generalizing fresh with
  | nil => simp [isPadded, ends, isBlank_of_endsLine ends, rest]
  | cons d before ih =>
      obtain ⟨first, others⟩ := List.forall_mem_cons.mp noEnd
      have isFirst : (!fresh || isBlank d) = true := by
        cases fresh with
        | false => rfl
        | true => exact blank rfl d rfl
      rw [List.cons_append, isPadded, isFirst, first, Bool.true_and]
      exact ih others fun isFresh => nomatch isFresh

theorem isPadded_of_suffix (suffix : after <:+ chars) (padded : isPadded fresh chars) :
    isPadded false after := by
  induction chars generalizing fresh with
  | nil =>
      rw [List.suffix_nil.mp suffix]
      rfl
  | cons c chars ih =>
      have behind := isPadded_tail padded
      rcases List.suffix_cons_iff.mp suffix with rfl | suffix
      · exact behind
      · exact ih suffix behind

theorem Indented.isPadded (indented : Indented after after') : isPadded true after' := by
  induction indented with
  | done => rfl
  | @line margin body text text' c blank noEnd ends padded rest ih =>
      refine isPadded_line ?_ ends (fun _ => padded) ih
      rw [List.forall_mem_append]
      refine ⟨fun d member => ?_, noEnd⟩
      rcases isMarginBlank_iff.mp (blank d member) with rfl | rfl <;> decide

/-! ## The text of a block -/

/-- The text that a block is read as differs from the block in its margins alone. -/
theorem dropMargins_block (chars : List Char) :
    dropMargins true (unifyLineEnds (indent (dedent chars) ++ ['\n'])) =
      dropMargins true (unifyLineEnds (chars ++ ['\n'])) :=
  (indented_indent (dedent chars)).dropMargins_eq.trans (dropMargins_dedent chars ['\n'])

theorem isPadded_block (chars : List Char) :
    isPadded true (unifyLineEnds (indent (dedent chars) ++ ['\n'])) :=
  (indented_indent (dedent chars)).isPadded

/-! ## Characters that stay -/

theorem mem_of_mem_dropMargins (member : c ∈ dropMargins fresh chars) : c ∈ chars := by
  induction chars generalizing fresh with
  | nil => exact member
  | cons first rest ih =>
      rw [dropMargins] at member
      split at member
      · exact List.mem_cons_of_mem _ (ih member)
      · rcases List.mem_cons.mp member with rfl | member
        · exact List.mem_cons_self
        · exact List.mem_cons_of_mem _ (ih member)

theorem mem_dropMargins (solid : isMarginBlank c = false) (member : c ∈ chars) :
    c ∈ dropMargins fresh chars := by
  induction chars generalizing fresh with
  | nil => exact member
  | cons first rest ih =>
      rw [dropMargins]
      rcases List.mem_cons.mp member with rfl | member
      · rw [solid, Bool.and_false, if_neg Bool.false_ne_true]
        exact List.mem_cons_self
      · split
        · exact ih member
        · exact List.mem_cons_of_mem _ (ih member)

/-- Passing over blanks and dropping margins go together. -/
theorem dropWhile_dropMargins {passes : Char → Bool} (space : passes ' ') (tab : passes '\t') :
    (dropMargins fresh chars).dropWhile passes = dropMargins false (chars.dropWhile passes) := by
  induction chars generalizing fresh with
  | nil => rfl
  | cons first rest ih =>
      rw [dropMargins]
      split
      case isTrue blank =>
        have passed : passes first := by
          rcases isMarginBlank_iff.mp (Bool.and_eq_true_iff.mp blank).2 with rfl | rfl <;> assumption
        rw [ih, List.dropWhile_cons_of_pos passed]
      case isFalse =>
        cases passed : passes first with
        | true => rw [List.dropWhile_cons_of_pos passed, List.dropWhile_cons_of_pos passed, ih]
        | false =>
            rw [List.dropWhile_cons_of_neg (by simp [passed]),
              List.dropWhile_cons_of_neg (by simp [passed]), dropMargins_false_cons]

theorem not_mem_unifyLineEnds (chars : List Char) : '\r' ∉ unifyLineEnds chars := by
  fun_induction unifyLineEnds chars with
  | case1 rest ih => simpa using ih
  | case2 rest _ ih => simpa using ih
  | case3 c rest _ noReturn ih =>
      rw [List.mem_cons, not_or]
      exact ⟨fun same => noReturn same.symm, ih⟩
  | case4 => exact nofun

/-- Line ends are all that is changed when they are brought to one. -/
theorem mem_unifyLineEnds (noFeed : c ≠ '\n') (noReturn : c ≠ '\r') :
    c ∈ unifyLineEnds chars ↔ c ∈ chars := by
  fun_induction unifyLineEnds chars with
  | case1 rest ih => simp [noFeed, noReturn, ih]
  | case2 rest _ ih => simp [noFeed, noReturn, ih]
  | case3 d rest _ _ ih => simp [ih]
  | case4 => exact Iff.rfl

/-- Line ends are brought to one on both sides of a place where none stands. -/
theorem unifyLineEnds_append_of_head (noFeed : after.head? ≠ some '\n') :
    unifyLineEnds (before ++ after) = unifyLineEnds before ++ unifyLineEnds after := by
  fun_induction unifyLineEnds before with
  | case1 rest ih => exact congrArg ('\n' :: ·) ih
  | case2 rest noPair ih =>
      rw [List.cons_append, unifyLineEnds_return, ih]
      · rfl
      · cases rest with
        | nil => exact noFeed
        | cons d rest =>
            rintro ⟨⟩
            exact noPair rest rfl
  | case3 d rest _ noReturn ih =>
      rw [List.cons_append, unifyLineEnds_cons fun same => noReturn same, ih]
      rfl
  | case4 => rfl

theorem unifyLineEnds_append_of_last (noLast : before.getLast? ≠ some '\r') :
    unifyLineEnds (before ++ after) = unifyLineEnds before ++ unifyLineEnds after := by
  have others : ∀ {d : Char} {rest : List Char}, (d :: rest).getLast? ≠ some '\r' →
      rest.getLast? ≠ some '\r' := by
    intro d rest noLast last
    rw [List.getLast?_cons, last] at noLast
    exact noLast rfl
  fun_induction unifyLineEnds before with
  | case1 rest ih => exact congrArg ('\n' :: ·) (ih (others (others noLast)))
  | case2 rest noPair ih =>
      cases rest with
      | nil => exact absurd rfl noLast
      | cons d rest =>
          rw [List.cons_append, unifyLineEnds_return, ih (others noLast)]
          · rfl
          · rintro ⟨⟩
            exact noPair rest rfl
  | case3 d rest _ noReturn ih =>
      rw [List.cons_append, unifyLineEnds_cons fun same => noReturn same, ih (others noLast)]
      rfl
  | case4 => rfl

end Linework.Script
