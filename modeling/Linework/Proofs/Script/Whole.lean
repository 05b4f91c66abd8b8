import Linework.Proofs.Script.Local
import Linework.Script.Block

/-!
# An expression on its own and as a block

A block of one statement, which is an expression, is read as what its lexemes are read as on their own. No
statement but the expression begins as an expression does, and behind the expression comes the end of its
line, at which no statement goes on.
-/

namespace Linework.Script

open Reading

variable {α β : Type} {lexemes left : List Lexeme} {value : Expr} {depth : Nat}

/-! ## Readings that take nothing -/

/-- What a reading goes on with when one before it succeeds. -/
theorem bind_of_ok {reading : Reading α} {go : α → Reading β} {first : α} {between : List Lexeme}
    (firstRead : reading lexemes = .ok (first, between)) :
    (reading >>= go) lexemes = go first between := by
  change (reading lexemes).bind (fun found => go found.1 found.2) = _
  rw [firstRead]
  rfl

theorem bind_next {go : Lexeme → Reading β} :
    (next >>= go) lexemes = go (lexemes.headD .stop) lexemes :=
  rfl

theorem seesMark_eq_false {symbol : String} (absent : lexemes.head? ≠ some (.mark symbol)) :
    seesMark symbol lexemes = .ok (false, lexemes) := by
  rcases lexemes with _ | ⟨lexeme, lexemes⟩
  · rfl
  · cases lexeme with
    | mark found =>
        have differs : (found == symbol) = false := by simpa using absent
        change Except.ok (found == symbol, _) = _
        rw [differs]
    | _ => rfl

theorem takeMark_eq_false {symbol : String} (absent : lexemes.head? ≠ some (.mark symbol)) :
    takeMark symbol lexemes = .ok (false, lexemes) :=
  bind_of_ok (seesMark_eq_false absent)

theorem takeWord_eq_false {word : String} (absent : lexemes.head? ≠ some (.keyword word)) :
    takeWord word lexemes = .ok (false, lexemes) := by
  have notSeen : seesWord word lexemes = .ok (false, lexemes) := by
    rcases lexemes with _ | ⟨lexeme, lexemes⟩
    · rfl
    · cases lexeme with
      | keyword found =>
          have differs : (found == word) = false := by simpa using absent
          change Except.ok (found == word, _) = _
          rw [differs]
      | _ => rfl
  exact bind_of_ok notSeen

theorem takeOperator_eq_none {table : List (String × α)}
    (absent : ∀ entry ∈ table, lexemes.head? ≠ some (.mark entry.1)) :
    takeOperator table lexemes = .ok (none, lexemes) := by
  rcases lexemes with _ | ⟨lexeme, lexemes⟩
  · rfl
  · cases lexeme with
    | mark symbol =>
        have notFound : table.lookup symbol = none := by
          rw [List.lookup_eq_none_iff]
          intro entry member
          have differs : symbol ≠ entry.1 := by simpa using absent entry member
          simpa using differs
        unfold takeOperator
        rw [bind_next]
        dsimp only [List.headD_cons]
        rw [notFound]
        rfl
    | _ => rfl

/-! ## How expressions begin -/

/-- Whether an expression without a star may begin with a lexeme. -/
def Lexeme.beginsValue : Lexeme → Bool
  | .mark symbol => symbol != "*" && beginsExpr (.mark symbol)
  | lexeme => beginsExpr lexeme

/-- A reading that succeeds only where an expression begins. -/
structure Begins (reading : Reading α) : Prop where
  begins : ∀ {lexemes value left}, reading lexemes = .ok (value, left) →
    ∃ lexeme ∈ lexemes.head?, lexeme.beginsValue

namespace Begins

theorem fail : Begins (fail : Reading α) where
  begins success := nomatch success

theorem bind {reading : Reading α} {go : α → Reading β} (begins : Begins reading) :
    Begins (reading >>= go) where
  begins success := by
    obtain ⟨first, between, firstRead, _⟩ := bind_eq_ok.mp success
    exact begins.begins firstRead

/-- A keyword that may stand in front of an expression. -/
theorem takeWord {word : String} {go : Bool → Reading β} (isFirst : (Lexeme.keyword word).beginsValue)
    (otherwise : Begins (go false)) : Begins (takeWord word >>= go) where
  begins {lexemes value left} success := by
    by_cases present : lexemes.head? = some (.keyword word)
    · exact ⟨_, present, isFirst⟩
    · rw [bind_of_ok (takeWord_eq_false present)] at success
      exact otherwise.begins success

/-- Operators that may stand in front of an expression. -/
theorem takeOperator {γ : Type} {table : List (String × γ)} {go : Option γ → Reading β}
    (areFirst : ∀ entry ∈ table, (Lexeme.mark entry.1).beginsValue) (otherwise : Begins (go none)) :
    Begins (takeOperator table >>= go) where
  begins {lexemes value left} success := by
    by_cases present : ∃ entry ∈ table, lexemes.head? = some (.mark entry.1)
    · obtain ⟨entry, member, present⟩ := present
      exact ⟨_, present, areFirst entry member⟩
    · rw [bind_of_ok (takeOperator_eq_none fun entry member same => present ⟨entry, member, same⟩)] at success
      exact otherwise.begins success

/-- A reading that looks at the next lexeme, and fails unless an expression begins with it. -/
theorem next {go : Lexeme → Reading β}
    (others : ∀ lexeme, lexeme.beginsValue = false → go lexeme = Reading.fail) :
    Begins (Reading.next >>= go) where
  begins {lexemes value left} success := by
    rw [bind_next] at success
    cases begins : (lexemes.headD .stop).beginsValue with
    | false =>
        rw [others _ begins] at success
        exact nomatch success
    | true =>
        rcases lexemes with _ | ⟨lexeme, lexemes⟩
        · exact nomatch begins
        · exact ⟨lexeme, rfl, begins⟩

end Begins

theorem begins_atom (depth : Nat) : Begins (atom depth) := by
  cases depth with
  | zero => exact .fail
  | succ depth =>
      rw [atom]
      refine .next ?_
      intro lexeme others
      split
      case h_8 symbol =>
        have absent : symbol ≠ "..." ∧ symbol ≠ "(" ∧ symbol ≠ "[" ∧ symbol ≠ "\x7b" := by
          refine ⟨?_, ?_, ?_, ?_⟩ <;> (rintro rfl; revert others; decide)
        simp [absent]
      case h_9 => rfl
      all_goals contradiction

theorem begins_factor (depth : Nat) : Begins (factor depth) := by
  cases depth with
  | zero => exact .fail
  | succ depth =>
      rw [factor]
      exact .takeOperator (by decide) (begins_atom depth).bind

theorem begins_binary (depth : Nat) (levels : List (List (String × BinaryOp))) :
    Begins (binary depth levels) := by
  induction depth generalizing levels with
  | zero => exact .fail
  | succ depth ih =>
      cases levels with
      | nil => exact begins_factor depth
      | cons level stronger =>
          rw [binary]
          exact (ih stronger).bind

theorem begins_inversion (depth : Nat) : Begins (inversion depth) := by
  cases depth with
  | zero => exact .fail
  | succ depth =>
      rw [inversion]
      exact .takeWord (by decide) (begins_binary depth operatorLevels).bind

theorem begins_expression (depth : Nat) : Begins (expression depth) := by
  have conjunctions : ∀ depth, Begins (conjunction depth) := by
    intro depth
    cases depth with
    | zero => exact .fail
    | succ depth =>
        rw [conjunction]
        exact (begins_inversion depth).bind
  have disjunctions : ∀ depth, Begins (disjunction depth) := by
    intro depth
    cases depth with
    | zero => exact .fail
    | succ depth =>
        rw [disjunction]
        exact (conjunctions depth).bind
  cases depth with
  | zero => exact .fail
  | succ depth =>
      rw [expression]
      exact .takeWord (by decide) (disjunctions depth).bind

theorem begins_item (depth : Nat) : Begins (item depth .plain) := by
  cases depth with
  | zero => exact .fail
  | succ depth =>
      unfold item
      exact begins_expression depth

theorem begins_sequence (depth : Nat) : Begins (sequence depth .plain) := by
  cases depth with
  | zero => exact .fail
  | succ depth =>
      rw [sequence]
      exact (begins_item depth).bind

/-! ## Sequences on their own and in statements -/

theorem not_star (begins : ∃ lexeme ∈ lexemes.head?, lexeme.beginsValue) :
    lexemes.head? ≠ some (.mark "*") := by
  obtain ⟨lexeme, head, begins⟩ := begins
  rw [Option.mem_def.mp head]
  rintro ⟨⟩
  contradiction

/-- An item that bears no star is read as one that may bear one. -/
theorem item_star_of_plain {found : Expr × List Lexeme} (success : item depth .plain lexemes = .ok found) :
    item depth .star lexemes = .ok found := by
  cases depth with
  | zero => exact nomatch success
  | succ depth =>
      have begins := (begins_item (depth + 1)).begins success
      unfold item
      exact (bind_of_ok (takeMark_eq_false (not_star begins))).trans success

theorem items_star_of_plain {before : List Expr} {found : List Expr × List Lexeme}
    (success : items depth .plain before lexemes = .ok found) :
    items depth .star before lexemes = .ok found := by
  induction depth generalizing before lexemes with
  | zero => exact nomatch success
  | succ depth ih =>
      rw [items] at success ⊢
      obtain ⟨taken, between, takenRead, success⟩ := bind_eq_ok.mp success
      rw [bind_of_ok takenRead]
      cases taken with
      | false => exact success
      | true =>
          change (if beginsExpr (between.headD .stop) || false then
            (do items depth .plain (before ++ [← item depth .plain])) else pure before : Reading _) _ = _
            at success
          change (if beginsExpr (between.headD .stop) || false then
            (do items depth .star (before ++ [← item depth .star])) else pure before : Reading _) _ = _
          split at success
          case isTrue begins =>
            rw [if_pos begins]
            obtain ⟨first, between', firstRead, success⟩ := bind_eq_ok.mp success
            rw [bind_of_ok (item_star_of_plain firstRead)]
            exact ih success
          case isFalse ends =>
            rw [if_neg ends]
            exact success

/-! ## Statements that are expressions -/

/-- At the end of a line a value is a statement. -/
theorem assignmentFrom_of_newline {isName : Bool} {expr : Expr} (ends : left.head? = some .newline)
    (whole : requireWhole expr left = .ok (value, left)) :
    assignmentFrom depth isName expr left = .ok (.expression value, left) := by
  have noMark : ∀ symbol, left.head? ≠ some (.mark symbol) := by
    intro symbol
    rw [ends]
    exact nofun
  unfold assignmentFrom
  refine (bind_of_ok (takeOperator_eq_none fun entry _ => noMark entry.1)).trans ?_
  refine (bind_of_ok (takeMark_eq_false (noMark "="))).trans ?_
  refine (bind_of_ok (takeMark_eq_false (noMark ":"))).trans ?_
  exact bind_of_ok whole

/-- An assignment goes on from its first item, whatever lexeme it begins with. -/
theorem assignment_eq {first : Expr} {between : List Lexeme}
    (firstRead : item depth .star lexemes = .ok (first, between)) :
    ∃ isName, assignment depth lexemes = (do
      let first ← if ← seesMark "," then Expr.tuple <$> items depth .star [first] else pure first
      assignmentFrom depth isName first : Reading Statement) between := by
  have onward : ∀ isName : Bool, (do
      let first ← item depth .star
      let first ← if ← seesMark "," then Expr.tuple <$> items depth .star [first] else pure first
      assignmentFrom depth isName first : Reading Statement) lexemes = _ :=
    fun isName => bind_of_ok firstRead
  unfold assignment
  rw [bind_next]
  cases lexemes.headD .stop with
  | name text => exact ⟨true, onward true⟩
  | _ => exact ⟨false, onward false⟩

/-- A sequence up to the end of its line is a statement. -/
theorem assignment_of_sequence (success : sequence (depth + 1) .plain lexemes = .ok (value, left))
    (ends : left.head? = some .newline) : assignment depth lexemes = .ok (.expression value, left) := by
  rw [sequence] at success
  obtain ⟨first, between, firstRead, success⟩ := bind_eq_ok.mp success
  obtain ⟨isTuple, between', seen, success⟩ := bind_eq_ok.mp success
  obtain ⟨isName, unfolded⟩ := assignment_eq (item_star_of_plain firstRead)
  rw [unfolded]
  refine (bind_of_ok seen).trans ?_
  cases isTuple with
  | true =>
      obtain ⟨read, between'', itemsRead, success⟩ := bind_eq_ok.mp success
      obtain ⟨rfl, rfl⟩ := Prod.mk.inj (Except.ok.inj success)
      have tupleRead : (Expr.tuple <$> items depth .star [first]) between' = .ok (.tuple read, between'') := by
        rw [map_eq_pure_bind]
        exact bind_of_ok (items_star_of_plain itemsRead)
      exact (bind_of_ok tupleRead).trans (assignmentFrom_of_newline ends rfl)
  | false =>
      obtain ⟨rfl, alike⟩ := (idle_requireWhole first).alike success
      refine assignmentFrom_of_newline ends ?_
      exact success

/-- Of the statements, an expression begins no other than itself. -/
theorem simpleStatement_eq (begins : ∃ lexeme ∈ lexemes.head?, lexeme.beginsValue) :
    simpleStatement depth lexemes = assignment depth lexemes := by
  obtain ⟨lexeme, head, begins⟩ := begins
  obtain ⟨rest, rfl⟩ := List.head?_eq_some_iff.mp head
  unfold simpleStatement
  rw [bind_next, List.headD_cons]
  split <;> first | contradiction | rfl

theorem statement_eq (begins : ∃ lexeme ∈ lexemes.head?, lexeme.beginsValue) :
    statement (depth + 1) lexemes = simpleStatements depth lexemes := by
  obtain ⟨lexeme, head, begins⟩ := begins
  obtain ⟨rest, rfl⟩ := List.head?_eq_some_iff.mp head
  rw [statement, bind_next, List.headD_cons]
  split <;> first | contradiction | rfl

/-- A sequence on a line of its own is a block. -/
theorem statements_of_sequence {rest : List Lexeme}
    (success : sequence (depth + 1) .plain lexemes = .ok (value, .newline :: .dedent :: rest)) :
    statements (depth + 3) lexemes = .ok ([.expression value], .dedent :: rest) := by
  have begins := (begins_sequence (depth + 1)).begins success
  have simple : simpleStatement depth lexemes =
      .ok (.expression value, .newline :: .dedent :: rest) := by
    rw [simpleStatement_eq begins]
    exact assignment_of_sequence success rfl
  have line : simpleStatements (depth + 1) lexemes = .ok ([.expression value], .dedent :: rest) := by
    rw [simpleStatements]
    exact bind_of_ok simple
  rw [statements]
  exact bind_of_ok ((statement_eq begins).trans line)

/-! ## Whole readings -/

/-- Whether a lexeme is the end of a line. -/
def Lexeme.isNewline : Lexeme → Bool
  | .newline => true
  | _ => false

/-- Lexemes with which a reading of one expression may end. -/
def Ended (lexemes : List Lexeme) : Prop :=
  (lexemes.dropWhile Lexeme.isNewline).headD .stop = .stop

theorem skipNewlines_eq (success : skipNewlines depth lexemes = .ok ((), left)) :
    left = lexemes.dropWhile Lexeme.isNewline := by
  induction depth generalizing lexemes with
  | zero => exact nomatch success
  | succ depth ih =>
      rw [skipNewlines, bind_next] at success
      rcases lexemes with _ | ⟨lexeme, lexemes⟩
      · cases success
        rfl
      · cases lexeme with
        | newline =>
            have goesOn : skipNewlines depth lexemes = .ok ((), left) := success
            exact (ih goesOn).trans rfl
        | _ =>
            cases success
            rfl

theorem finished_eq (success : finished lexemes = .ok ((), left)) :
    lexemes.headD .stop = .stop := by
  unfold finished at success
  rw [bind_next] at success
  cases head : lexemes.headD .stop with
  | stop => rfl
  | _ =>
      rw [head] at success
      exact nomatch success

/-- The lexemes of an expression on its own: inner ones, and behind them nothing but ends of lines. -/
theorem sequence_of_wholeExpression (success : wholeExpression depth lexemes = .ok (value, left)) :
    Ended (lexemes.dropWhile Lexeme.isInner) ∧ ∀ after, Outer after →
      sequence depth .plain (lexemes.takeWhile Lexeme.isInner ++ after) = .ok (value, after) := by
  obtain ⟨found, between, read, success⟩ := bind_eq_ok.mp success
  obtain ⟨_, between', skipped, success⟩ := bind_eq_ok.mp success
  obtain ⟨_, between'', ended, success⟩ := bind_eq_ok.mp success
  obtain ⟨rfl, rfl⟩ := Prod.mk.inj (Except.ok.inj success)
  have stops := finished_eq ended
  rw [skipNewlines_eq skipped] at stops
  have inner : Inner (lexemes.takeWhile Lexeme.isInner) :=
    List.all_eq_true.mp List.all_takeWhile
  have outer : Outer (lexemes.dropWhile Lexeme.isInner) := by
    cases behind : lexemes.dropWhile Lexeme.isInner with
    | nil => trivial
    | cons lexeme rest =>
        have head := List.head?_dropWhile_not Lexeme.isInner lexemes
        rw [behind] at head
        exact head
  rw [← List.takeWhile_append_dropWhile (p := Lexeme.isInner) (l := lexemes)] at read
  obtain ⟨rest, restInner, rfl, alike⟩ :=
    ((localGrammar depth).sequence .plain).alike inner outer read
  cases rest with
  | nil => exact ⟨stops, alike⟩
  | cons lexeme rest =>
      have isInner := (inner_cons.mp restInner).1
      cases lexeme <;> contradiction

/-- An expression on its own is read as a block of one line, too. -/
theorem wholeBlock_of_wholeExpression
    (success : wholeExpression (depth + 1) lexemes = .ok (value, left)) :
    wholeBlock (depth + 3)
        (.indent :: (lexemes.takeWhile Lexeme.isInner ++ [.newline, .dedent, .stop])) =
      .ok ([.expression value], [.stop]) := by
  obtain ⟨_, alike⟩ := sequence_of_wholeExpression success
  have read := alike [.newline, .dedent, .stop] rfl
  unfold wholeBlock
  refine (bind_of_ok (rfl : indented (.indent :: _) = .ok ((), _))).trans ?_
  exact bind_of_ok (statements_of_sequence read)

end Linework.Script
