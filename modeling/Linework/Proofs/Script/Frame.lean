import Linework.Proofs.Script.Cut
import Linework.Script.Fragment
import Mathlib.Data.List.DropRight

/-!
# An expression as a block

A block that is an expression with blanks around it is framed before it is read: its outer line ends are
removed, its lines are dedented and indented, and a line end is put behind them. Then it is read as a block of one
statement, which is the expression.
-/

namespace Linework.Script

open Linework.Text

variable {lead core trail chars rest : List Char} {passes : Char → Bool} {c : Char}

/-! ## Trimmed texts -/

theorem dropWhile_append_of_head (stops : rest.head?.any passes = false) :
    (lead ++ rest).dropWhile passes = lead.dropWhile passes ++ rest := by
  induction lead with
  | nil => exact dropWhile_of_head stops
  | cons c lead ih =>
      cases passed : passes c with
      | true => rw [List.cons_append, List.dropWhile_cons_of_pos passed, List.dropWhile_cons_of_pos passed, ih]
      | false =>
          rw [List.cons_append, List.dropWhile_cons_of_neg (by simp [passed]),
            List.dropWhile_cons_of_neg (by simp [passed]), List.cons_append]

/-- A text between two others keeps its place when they are trimmed. -/
theorem trimBy_append (nonempty : core ≠ []) (first : core.head?.any passes = false)
    (last : core.getLast?.any passes = false) :
    trimBy passes (lead ++ core ++ trail) =
      lead.dropWhile passes ++ core ++ trail.rdropWhile passes := by
  have first' : (core ++ trail).head?.any passes = false := by
    rwa [List.head?_append_of_ne_nil _ nonempty]
  have last' : (core.reverse ++ (lead.dropWhile passes).reverse).head?.any passes = false := by
    rwa [List.head?_append_of_ne_nil _ (List.reverse_ne_nil_iff.mpr nonempty), List.head?_reverse]
  rw [trimBy, List.append_assoc, dropWhile_append_of_head first', ← List.append_assoc, List.reverse_append,
    List.reverse_append, dropWhile_append_of_head last', List.reverse_append, List.reverse_append,
    List.reverse_reverse, List.reverse_reverse]
  rfl

/-- The blanks around a text. -/
theorem exists_trimBy (passes : Char → Bool) (chars : List Char) :
    ∃ trail, chars = chars.takeWhile passes ++ trimBy passes chars ++ trail ∧
      ∀ c ∈ trail, c ∈ chars.reverse.takeWhile passes := by
  refine ⟨((chars.dropWhile passes).reverse.takeWhile passes).reverse, ?_, ?_⟩
  · rw [trimBy, List.append_assoc, ← List.reverse_append, List.takeWhile_append_dropWhile, List.reverse_reverse,
      List.takeWhile_append_dropWhile]
  · intro c member
    have whole := congrArg List.reverse (List.takeWhile_append_dropWhile (p := passes) (l := chars))
    rw [List.reverse_append] at whole
    rw [← whole, List.takeWhile_append]
    rw [List.mem_reverse] at member
    split
    · exact List.mem_append_left _ ((List.takeWhile_prefix _).mem member)
    · exact member

theorem any_getLast_trimBy (passes : Char → Bool) (chars : List Char) :
    (trimBy passes chars).getLast?.any passes = false := by
  rw [trimBy, List.getLast?_reverse]
  exact any_head_dropWhile ..

theorem any_head_trimBy (passes : Char → Bool) (chars : List Char) :
    (trimBy passes chars).head?.any passes = false := by
  have isPrefix : trimBy passes chars <+: chars.dropWhile passes := List.rdropWhile_prefix _ _
  have first := any_head_dropWhile passes chars
  cases trimmed : trimBy passes chars with
  | nil => rfl
  | cons c rest =>
      rw [trimmed] at isPrefix
      obtain ⟨others, same⟩ := isPrefix
      rw [← same] at first
      exact first

/-! ## Blanks around an expression -/

/-- A blank that the grammar passes, or a part of a line end. -/
def isPlainBlank (c : Char) : Bool :=
  isOpenBlank c || c == '\r'

/-- Whether the blanks around a text are all plain. -/
def hasPlainEnds (chars : List Char) : Bool :=
  (chars.takeWhile isBlank).all isPlainBlank && (chars.reverse.takeWhile isBlank).all isPlainBlank

theorem isOpenBlank_of_unifyLineEnds (plain : ∀ c ∈ chars, isPlainBlank c) :
    ∀ c ∈ unifyLineEnds chars, isOpenBlank c := by
  intro c member
  by_cases isNewline : c = '\n'
  · subst isNewline
    rfl
  · have noReturn : c ≠ '\r' := by
      rintro rfl
      exact not_mem_unifyLineEnds chars member
    have isPlain := plain c ((mem_unifyLineEnds isNewline noReturn).mp member)
    rw [isPlainBlank, Bool.or_eq_true, beq_iff_eq] at isPlain
    exact isPlain.resolve_right noReturn

theorem trails_unifyLineEnds (plain : ∀ c ∈ trail, isPlainBlank c) :
    Trails (unifyLineEnds (trail ++ ['\n'])) := by
  refine ⟨isOpenBlank_of_unifyLineEnds ?_, ?_⟩
  · rw [List.forall_mem_append, List.forall_mem_singleton]
    exact ⟨plain, by decide⟩
  · obtain ⟨unified, unify⟩ := exists_unifyLineEnds_append_newline trail
    rw [unify]
    exact List.mem_append_right _ List.mem_cons_self

theorem ne_of_isBlank (solid : isBlank c = false) {d : Char} (blank : isBlank d) : c ≠ d := by
  rintro rfl
  rw [blank] at solid
  contradiction

/-- The text that a block with an expression is read as is near to the text of the expression. -/
theorem near_block (leadPlain : ∀ c ∈ lead, isPlainBlank c) (trailPlain : ∀ c ∈ trail, isPlainBlank c)
    (nonempty : core ≠ []) (first : core.head?.any isBlank = false) (last : core.getLast?.any isBlank = false) :
    Near false (unifyLineEnds core)
      ((unifyLineEnds (indent (dedent (lead ++ core ++ trail)) ++ ['\n'])).dropWhile isOpenBlank) := by
  have isReturn : isBlank '\r' := isBlank_of_endsLine (by decide)
  have noLast : core.getLast? ≠ some '\r' := by
    intro isLast
    rw [isLast, Option.any_some, isReturn] at last
    contradiction
  obtain ⟨c, rest, rfl⟩ := List.exists_cons_of_ne_nil nonempty
  have noFeed : c ≠ '\n' := ne_of_isBlank first (isBlank_of_endsLine (by decide))
  have content : isOpenBlank c = false := not_isOpenBlank first
  have unified : unifyLineEnds (lead ++ c :: rest ++ trail ++ ['\n']) =
      unifyLineEnds lead ++ (unifyLineEnds (c :: rest) ++ unifyLineEnds (trail ++ ['\n'])) := by
    have noFeed : (c :: rest ++ (trail ++ ['\n'])).head? ≠ some '\n' := by simpa using noFeed
    rw [List.append_assoc, List.append_assoc, unifyLineEnds_append_of_head noFeed,
      unifyLineEnds_append_of_last noLast]
  refine ⟨unifyLineEnds (trail ++ ['\n']), trails_unifyLineEnds trailPlain, ?_⟩
  have dropped := congrArg (List.dropWhile isOpenBlank) (dropMargins_block (lead ++ c :: rest ++ trail))
  rw [dropWhile_dropMargins (by decide) (by decide), dropWhile_dropMargins (by decide) (by decide)] at dropped
  rw [dropped, unified, unifyLineEnds_cons (ne_of_isBlank first isReturn),
    List.dropWhile_append_of_pos (isOpenBlank_of_unifyLineEnds leadPlain), List.cons_append,
    List.dropWhile_cons_of_neg (by simp [content])]

/-! ## Reading -/

theorem not_contains_block (absent : '\x00' ∉ chars) : '\x00' ∉ indent (dedent chars) ++ ['\n'] := by
  intro member
  have unified := (mem_unifyLineEnds (by decide) (by decide)).mpr member
  have dropped := @mem_dropMargins _ true _ (by decide) unified
  rw [dropMargins_block] at dropped
  have kept := (mem_unifyLineEnds (by decide) (by decide)).mp (mem_of_mem_dropMargins dropped)
  rw [List.mem_append, List.mem_singleton] at kept
  exact kept.elim absent (by decide)

/-- The lexemes of an expression are begun by one that begins a value. -/
theorem begins_of_wholeExpression {depth : Nat} {lexemes left : List Lexeme} {value : Expr}
    (success : wholeExpression depth lexemes = .ok (value, left)) :
    ∃ lexeme ∈ lexemes.head?, lexeme.beginsValue := by
  obtain ⟨found, between, read, _⟩ := Reading.bind_eq_ok.mp success
  exact (begins_sequence depth).begins read

theorem isInner_of_beginsValue {lexeme : Lexeme} (begins : lexeme.beginsValue) : lexeme.isInner := by
  cases lexeme <;> first | rfl | contradiction

/-- No value begins with an equals sign. -/
theorem beginsValue_of_equals {lexeme : Lexeme} (head : lexeme ∈ (lexemes ('=' :: chars)).head?) :
    lexeme.beginsValue = false := by
  have cut : lexemes ('=' :: chars) =
      (piece ⟨[⟨0, 0⟩], [], false⟩ '=' chars).onward (2 * chars.length + 2) := rfl
  have behind : bracketsBehind? [] '=' = some [] := rfl
  rw [cut, piece_of_content (by decide), behind] at head
  cases taken : takeMark? ('=' :: chars) with
  | none =>
      have isStray : token? '=' chars = some (.stray, chars) := by
        rw [token?.eq_def, taken]
        rfl
      rw [isStray] at head
      obtain rfl := Option.some.inj head
      rfl
  | some found =>
      obtain ⟨symbol, rest⟩ := found
      have isToken : token? '=' chars = some (.mark symbol, rest) := by
        rw [token?.eq_def, taken]
        rfl
      rw [isToken] at head
      obtain rfl := Option.some.inj head
      obtain ⟨mark, isMark, same⟩ := Option.map_eq_some_iff.mp taken
      obtain rfl := (Prod.mk.inj same).1
      have marked : ∀ mark ∈ marks, ['='].isPrefixOf mark.toList → (Lexeme.mark mark).beginsValue = false := by
        decide +kernel
      have nonempty := ne_empty_of_mem_marks (List.mem_of_find?_eq_some isMark)
      refine marked mark (List.mem_of_find?_eq_some isMark) ?_
      have stands := List.find?_some isMark
      cases first : mark.toList with
      | nil => exact absurd (String.toList_eq_nil_iff.mp first) nonempty
      | cons d others =>
          rw [first, List.isPrefixOf, Bool.and_eq_true, beq_iff_eq] at stands
          rw [stands.1]
          rfl

theorem readWhole_eq_ok {α : Type} {reading : Reading α} {value : α} :
    readWhole reading chars = .ok value ↔
      '\x00' ∉ chars ∧ ∃ left, reading (lexemes (unifyLineEnds chars)) = .ok (value, left) := by
  unfold readWhole
  by_cases null : '\x00' ∈ chars
  · simp [null]
  · rw [if_neg (by simpa using null)]
    dsimp only
    cases reading (lexemes (unifyLineEnds chars)) with
    | error flaw => simp
    | ok found =>
        obtain ⟨found, left⟩ := found
        simp [null]

theorem readExpression_equals {expr : Expr} : readExpression ('=' :: chars) ≠ .ok expr := by
  intro read
  obtain ⟨_, left, success⟩ := readWhole_eq_ok.mp read
  obtain ⟨lexeme, isHead, begins⟩ := begins_of_wholeExpression success
  rw [unifyLineEnds_cons (by decide)] at isHead
  rw [beginsValue_of_equals isHead] at begins
  contradiction

theorem isBlank_of_isLineEnd (isEnd : isLineEnd c) : isBlank c := by
  rw [isLineEnd, Bool.or_eq_true, beq_iff_eq, beq_iff_eq] at isEnd
  rcases isEnd with rfl | rfl <;> exact isBlank_of_endsLine (by decide)

theorem any_isLineEnd {found : Option Char} (solid : found.any isBlank = false) : found.any isLineEnd = false := by
  cases found with
  | none => rfl
  | some c =>
      rw [Option.any_some, Bool.eq_false_iff] at solid ⊢
      exact fun isEnd => solid (isBlank_of_isLineEnd isEnd)

theorem any_head_unifyLineEnds (solid : chars.head?.any isBlank = false) :
    (unifyLineEnds chars).head?.any isGap = false := by
  cases chars with
  | nil => rfl
  | cons c rest =>
      rw [unifyLineEnds_cons (ne_of_isBlank solid (isBlank_of_endsLine (by decide)))]
      exact (Bool.or_eq_false_iff.mp (not_isOpenBlank solid)).1

theorem ne_nil_of_readExpression {expr : Expr} (read : readExpression chars = .ok expr) : chars ≠ [] := by
  rintro rfl
  obtain ⟨_, left, success⟩ := readWhole_eq_ok.mp read
  obtain ⟨lexeme, isHead, begins⟩ := begins_of_wholeExpression success
  obtain rfl := Option.some.inj isHead
  contradiction

/-- What is read as an expression is read as a block of one statement when plain blanks surround it. -/
theorem readIndented_of_readExpression {expr : Expr} (leadPlain : ∀ c ∈ lead, isPlainBlank c)
    (trailPlain : ∀ c ∈ trail, isPlainBlank c) (first : core.head?.any isBlank = false)
    (last : core.getLast?.any isBlank = false)
    (short : ∀ lexeme ∈ lexemes (unifyLineEnds core), lexeme.spansLines = false)
    (read : readExpression core = .ok expr) :
    readIndented (dedent (lead ++ core ++ trail)) = .ok [.expression expr] := by
  obtain ⟨depth, isDepth⟩ : ∃ depth, maxDescent = depth + 1 :=
    Nat.exists_eq_succ_of_ne_zero (Nat.ne_of_gt (Nat.pow_pos (by decide)))
  obtain ⟨absent, left, success⟩ := readWhole_eq_ok.mp read
  obtain ⟨lexeme, isHead, begins⟩ := begins_of_wholeExpression success
  rw [isDepth] at success
  have nonempty := ne_nil_of_readExpression read
  have isInner : (lexemes (unifyLineEnds core)).head?.any Lexeme.isInner := by
    rw [Option.mem_def.mp isHead]
    exact isInner_of_beginsValue begins
  have absent : '\x00' ∉ lead ++ core ++ trail := by
    rw [List.mem_append, List.mem_append, not_or, not_or]
    exact ⟨⟨fun member => absurd (leadPlain _ member) (by decide), absent⟩,
      fun member => absurd (trailPlain _ member) (by decide)⟩
  have cut := lexemes_of_near (near_block leadPlain trailPlain nonempty first last) (any_head_unifyLineEnds first)
    (isPadded_block _) isInner (sequence_of_wholeExpression success).1 short
  refine readWhole_eq_ok.mpr ⟨not_contains_block absent, [.stop], ?_⟩
  rw [cut, isDepth]
  exact wholeBlock_of_wholeExpression success

theorem readBlock_of_readExpression {expr : Expr} (plain : hasPlainEnds chars)
    (short : ∀ lexeme ∈ lexemes (unifyLineEnds (trimBy isBlank chars)), lexeme.spansLines = false)
    (read : readExpression (trimBy isBlank chars) = .ok expr) : readBlock chars = .ok [.expression expr] := by
  obtain ⟨leadPlain, trailPlain⟩ := Bool.and_eq_true_iff.mp plain
  rw [List.all_eq_true] at leadPlain trailPlain
  obtain ⟨trail, whole, trailBlank⟩ := exists_trimBy isBlank chars
  have first := any_head_trimBy isBlank chars
  have last := any_getLast_trimBy isBlank chars
  have trimmed : trimLines chars = (chars.takeWhile isBlank).dropWhile isLineEnd ++ trimBy isBlank chars ++
      trail.rdropWhile isLineEnd := by
    have around := @trimBy_append (chars.takeWhile isBlank) _ trail isLineEnd (ne_nil_of_readExpression read)
      (any_isLineEnd first) (any_isLineEnd last)
    rwa [← whole] at around
  have block : readIndented (dedent (trimLines chars)) = .ok [.expression expr] := by
    rw [trimmed]
    refine readIndented_of_readExpression ?_ ?_ first last short read
    · exact fun c member => leadPlain c ((List.dropWhile_suffix _).mem member)
    · exact fun c member => trailPlain c (trailBlank c ((List.rdropWhile_prefix _ _).mem member))
  unfold readBlock
  dsimp only
  rw [block]

end Linework.Script
