import Linework.Script.Grammar

/-!
# Expressions end at their own lexemes

An expression consists of names, keywords, numbers, literals and marks. The end of a line, a change of the
margin and a flaw are none of these. The grammar of expressions never passes such a lexeme, and it does not
look at which one stands behind an expression: what it makes of the lexemes before is the same for all.
-/

namespace Linework.Script

/-- Whether a lexeme may stand in an expression. -/
def Lexeme.isInner : Lexeme → Bool
  | .name _ | .keyword _ | .int _ | .float _ | .literal _ | .mark _ => true
  | _ => false

/-- Lexemes that may all stand in an expression. -/
def Inner (lexemes : List Lexeme) : Prop :=
  ∀ lexeme ∈ lexemes, lexeme.isInner

/-- Lexemes of which the first, if there is one, cannot stand in an expression. -/
def Outer : List Lexeme → Prop
  | [] => True
  | lexeme :: _ => lexeme.isInner = false

theorem Inner.nil : Inner [] :=
  fun _ member => nomatch member

theorem inner_cons {lexeme : Lexeme} {rest : List Lexeme} :
    Inner (lexeme :: rest) ↔ lexeme.isInner ∧ Inner rest :=
  List.forall_mem_cons

theorem inner_append {before after : List Lexeme} : Inner (before ++ after) ↔ Inner before ∧ Inner after :=
  List.forall_mem_append

namespace Reading

variable {α β : Type} {heads : List Lexeme} {lexeme lexeme' : Lexeme}

theorem bind_eq_ok {reading : Reading α} {go : α → Reading β} {lexemes left : List Lexeme} {value : β} :
    (reading >>= go) lexemes = .ok (value, left) ↔
      ∃ first between, reading lexemes = .ok (first, between) ∧ go first between = .ok (value, left) := by
  change (reading lexemes).bind (fun found => go found.1 found.2) = _ ↔ _
  cases reading lexemes with
  | error flaw => simp [Except.bind]
  | ok found =>
      constructor
      · intro success
        exact ⟨found.1, found.2, rfl, success⟩
      · rintro ⟨first, between, same, success⟩
        cases same
        exact success

/-- When a reading of inner lexemes that begin with `heads` succeeds, it leaves the lexemes behind them, and it
would do the same with others there. -/
structure LocalAt (heads : List Lexeme) (reading : Reading α) : Prop where
  alike : ∀ {before after value left}, Inner before → Outer after →
    reading (heads ++ before ++ after) = .ok (value, left) →
    ∃ rest, Inner rest ∧ left = rest ++ after ∧
      ∀ after', Outer after' → reading (heads ++ before ++ after') = .ok (value, rest ++ after')

/-- A reading that leaves the lexemes behind inner ones, whatever they are. -/
abbrev Local (reading : Reading α) : Prop :=
  LocalAt [] reading

/-- A reading that neither takes lexemes nor looks at them. -/
structure Idle (reading : Reading α) : Prop where
  alike : ∀ {lexemes value left}, reading lexemes = .ok (value, left) →
    left = lexemes ∧ ∀ lexemes', reading lexemes' = .ok (value, lexemes')

/-! ## Readings made of others -/

namespace Idle

theorem pure (value : α) : Idle (pure value : Reading α) where
  alike success := by
    obtain ⟨rfl, rfl⟩ := Prod.mk.inj (Except.ok.inj success)
    exact ⟨rfl, fun _ => rfl⟩

theorem refuse : Idle (refuse : Reading α) where
  alike success := nomatch success

theorem fail : Idle (fail : Reading α) where
  alike success := nomatch success

theorem bind {reading : Reading α} {go : α → Reading β} (idle : Idle reading)
    (onward : ∀ value, Idle (go value)) : Idle (reading >>= go) where
  alike success := by
    obtain ⟨first, between, firstRead, goneOn⟩ := bind_eq_ok.mp success
    obtain ⟨rfl, firstAlike⟩ := idle.alike firstRead
    obtain ⟨rfl, alike⟩ := (onward first).alike goneOn
    exact ⟨rfl, fun lexemes' => bind_eq_ok.mpr ⟨first, lexemes', firstAlike lexemes', alike lexemes'⟩⟩

end Idle

namespace LocalAt

theorem behind {reading : Reading α} (isLocal : Local reading) (inner : Inner heads) :
    LocalAt heads reading where
  alike beforeInner outer success :=
    isLocal.alike (inner_append.mpr ⟨inner, beforeInner⟩) outer success

theorem pure (inner : Inner heads) (value : α) : LocalAt heads (pure value : Reading α) where
  alike {before after found left} beforeInner outer success := by
    obtain ⟨rfl, rfl⟩ := Prod.mk.inj (Except.ok.inj success)
    exact ⟨heads ++ before, inner_append.mpr ⟨inner, beforeInner⟩, rfl, fun after' _ => rfl⟩

theorem fail : LocalAt heads (fail : Reading α) where
  alike _ _ success := nomatch success

theorem refuse : LocalAt heads (refuse : Reading α) where
  alike _ _ success := nomatch success

theorem fail_bind {go : α → Reading β} : LocalAt heads (Reading.fail >>= go) where
  alike _ _ success := nomatch success

theorem refuse_bind {go : α → Reading β} : LocalAt heads (Reading.refuse >>= go) where
  alike _ _ success := nomatch success

theorem bind {reading : Reading α} {go : α → Reading β} (isLocal : LocalAt heads reading)
    (onward : ∀ value, Local (go value)) : LocalAt heads (reading >>= go) where
  alike beforeInner outer success := by
    obtain ⟨first, between, firstRead, success⟩ := bind_eq_ok.mp success
    obtain ⟨middle, middleInner, rfl, firstAlike⟩ := isLocal.alike beforeInner outer firstRead
    obtain ⟨rest, restInner, rfl, alike⟩ := (onward first).alike middleInner outer success
    exact ⟨rest, restInner, rfl, fun after' outer' =>
      bind_eq_ok.mpr ⟨first, middle ++ after', firstAlike after' outer', alike after' outer'⟩⟩

theorem map {reading : Reading α} (isLocal : LocalAt heads reading) (make : α → β) :
    LocalAt heads (make <$> reading) := by
  rw [map_eq_pure_bind]
  exact isLocal.bind fun value => .pure .nil _

theorem skip {go : Unit → Reading β} (isLocal : LocalAt heads (go ())) :
    LocalAt (lexeme :: heads) (skip >>= go) where
  alike beforeInner outer success := isLocal.alike beforeInner outer success

theorem of_idle {reading : Reading α} (idle : Idle reading) : Local reading where
  alike {before _ _ _} beforeInner _ success := by
    obtain ⟨rfl, alike⟩ := idle.alike success
    exact ⟨before, beforeInner, rfl, fun after' _ => alike _⟩

theorem bind_idle {reading : Reading α} {go : α → Reading β} (idle : Idle reading)
    (onward : ∀ value, LocalAt heads (go value)) : LocalAt heads (reading >>= go) where
  alike beforeInner outer success := by
    obtain ⟨first, between, firstRead, success⟩ := bind_eq_ok.mp success
    obtain ⟨rfl, firstAlike⟩ := idle.alike firstRead
    obtain ⟨rest, restInner, rfl, alike⟩ := (onward first).alike beforeInner outer success
    exact ⟨rest, restInner, rfl, fun after' outer' =>
      bind_eq_ok.mpr ⟨first, _, firstAlike _, alike after' outer'⟩⟩

/-- A reading that looks at the next lexeme, where all that cannot stand in an expression are alike. -/
theorem next {go : Lexeme → Reading β} (other : Reading β) (otherLocal : Local other)
    (isOther : ∀ lexeme, lexeme.isInner = false → go lexeme = other)
    (isLocal : ∀ lexeme, lexeme.isInner → LocalAt [lexeme] (go lexeme)) :
    Local (Reading.next >>= go) where
  alike {before after value left} beforeInner outer success := by
    cases before with
    | nil =>
        have unfolded : ∀ {rest}, Outer rest → (Reading.next >>= go) rest = other rest := by
          intro rest outer
          cases rest with
          | nil => exact congrFun (isOther .stop rfl) _
          | cons lexeme rest => exact congrFun (isOther lexeme outer) _
        obtain ⟨rest, restInner, leaves, alike⟩ :=
          otherLocal.alike .nil outer ((unfolded outer).symm.trans success)
        exact ⟨rest, restInner, leaves, fun after' outer' =>
          (unfolded outer').trans (alike after' outer')⟩
    | cons lexeme before =>
        obtain ⟨isInner, beforeInner⟩ := inner_cons.mp beforeInner
        exact (isLocal lexeme isInner).alike beforeInner outer success

/-- A reading that looks at the lexeme behind the next one. -/
theorem second {go : Lexeme → Reading β} (other : Reading β) (otherLocal : LocalAt [lexeme] other)
    (isOther : ∀ lexeme, lexeme.isInner = false → go lexeme = other)
    (isLocal : ∀ lexeme', lexeme'.isInner → LocalAt [lexeme, lexeme'] (go lexeme')) :
    LocalAt [lexeme] (Reading.second >>= go) where
  alike {before after value left} beforeInner outer success := by
    cases before with
    | nil =>
        have unfolded : ∀ {rest}, Outer rest →
            (Reading.second >>= go) (lexeme :: rest) = other (lexeme :: rest) := by
          intro rest outer
          cases rest with
          | nil => exact congrFun (isOther .stop rfl) _
          | cons lexeme' rest => exact congrFun (isOther lexeme' outer) _
        obtain ⟨rest, restInner, leaves, alike⟩ :=
          otherLocal.alike .nil outer ((unfolded outer).symm.trans success)
        exact ⟨rest, restInner, leaves, fun after' outer' =>
          (unfolded outer').trans (alike after' outer')⟩
    | cons lexeme' before =>
        obtain ⟨isInner, beforeInner⟩ := inner_cons.mp beforeInner
        exact (isLocal lexeme' isInner).alike beforeInner outer success

end LocalAt

/-! ## Readings of single lexemes -/

theorem inner_head (inner : lexeme.isInner) : Inner [lexeme] :=
  inner_cons.mpr ⟨inner, .nil⟩

theorem local_seesMark (symbol : String) : Local (seesMark symbol) := by
  refine .next (pure false) (.pure .nil _) ?_ ?_
  · intro lexeme outer
    cases lexeme <;> first | rfl | contradiction
  · intro lexeme inner
    cases lexeme <;> exact .pure (inner_head inner) _

theorem local_seesWord (word : String) : Local (seesWord word) := by
  refine .next (pure false) (.pure .nil _) ?_ ?_
  · intro lexeme outer
    cases lexeme <;> first | rfl | contradiction
  · intro lexeme inner
    cases lexeme <;> exact .pure (inner_head inner) _

theorem takeMark_eq (symbol : String) :
    takeMark symbol = next >>= fun lexeme =>
      match lexeme with
      | .mark found => if found == symbol then skip >>= fun _ => pure true else pure false
      | _ => pure false := by
  funext lexemes
  rcases lexemes with _ | ⟨lexeme, lexemes⟩
  · rfl
  · cases lexeme <;> rfl

theorem takeWord_eq (word : String) :
    takeWord word = next >>= fun lexeme =>
      match lexeme with
      | .keyword found => if found == word then skip >>= fun _ => pure true else pure false
      | _ => pure false := by
  funext lexemes
  rcases lexemes with _ | ⟨lexeme, lexemes⟩
  · rfl
  · cases lexeme <;> rfl

theorem local_takeMark (symbol : String) : Local (takeMark symbol) := by
  rw [takeMark_eq]
  refine .next (pure false) (.pure .nil _) ?_ ?_
  · intro lexeme outer
    cases lexeme <;> first | rfl | contradiction
  · intro lexeme inner
    cases lexeme with
    | mark found =>
        dsimp only
        split
        · exact .skip (.pure .nil _)
        · exact .pure (inner_head inner) _
    | _ => exact .pure (inner_head inner) _

theorem local_takeWord (word : String) : Local (takeWord word) := by
  rw [takeWord_eq]
  refine .next (pure false) (.pure .nil _) ?_ ?_
  · intro lexeme outer
    cases lexeme <;> first | rfl | contradiction
  · intro lexeme inner
    cases lexeme with
    | keyword found =>
        dsimp only
        split
        · exact .skip (.pure .nil _)
        · exact .pure (inner_head inner) _
    | _ => exact .pure (inner_head inner) _

theorem local_mark (symbol : String) : Local (mark symbol) := by
  refine (local_takeMark symbol).bind fun taken => ?_
  cases taken with
  | false => exact .fail
  | true => exact .pure .nil _

theorem local_word (word : String) : Local (Reading.word word) := by
  refine (local_takeWord word).bind fun taken => ?_
  cases taken with
  | false => exact .fail
  | true => exact .pure .nil _

theorem local_name : Local name := by
  refine .next fail .fail ?_ ?_
  · intro lexeme outer
    cases lexeme <;> first | rfl | contradiction
  · intro lexeme inner
    cases lexeme with
    | name text => exact .skip (.pure .nil _)
    | _ => exact .fail

theorem local_takeOperator (table : List (String × β)) : Local (takeOperator table) := by
  refine .next (pure none) (.pure .nil _) ?_ ?_
  · intro lexeme outer
    cases lexeme <;> first | rfl | contradiction
  · intro lexeme inner
    cases lexeme with
    | mark symbol =>
        dsimp only
        cases table.lookup symbol with
        | none => exact .pure (inner_head inner) _
        | some value => exact .skip (.pure .nil _)
    | _ => exact .pure (inner_head inner) _

end Reading

open Reading

/-- Whether `not` comes next is all that a comparison depends on before it looks further. -/
theorem seesWord_bind_eq (word : String) {β : Type} (onward other : Reading β) :
    (do if ← seesWord word then onward else other) = next >>= fun lexeme =>
      match lexeme with
      | .keyword found => if found == word then onward else other
      | _ => other := by
  funext lexemes
  rcases lexemes with _ | ⟨lexeme, lexemes⟩
  · rfl
  · cases lexeme <;> rfl

theorem local_takeComparison : Local takeComparison := by
  rw [takeComparison]
  refine (local_takeOperator comparisonMarks).bind fun comparison => ?_
  cases comparison with
  | some comparison => exact .pure .nil _
  | none =>
      refine (local_takeWord "in").bind fun isIn => ?_
      split
      · exact .pure .nil _
      refine (local_takeWord "is").bind fun isSame => ?_
      split
      · refine (local_takeWord "not").bind fun isNot => ?_
        split <;> exact .pure .nil _
      rw [seesWord_bind_eq]
      refine .next (pure none) (.pure .nil _) ?_ ?_
      · intro lexeme outer
        cases lexeme <;> first | rfl | contradiction
      · intro lexeme inner
        cases lexeme with
        | keyword found =>
            dsimp only
            split
            · refine .second (pure none) (.pure (inner_head inner) _) ?_ ?_
              · intro lexeme outer
                cases lexeme <;> first | rfl | contradiction
              · intro lexeme' inner'
                split
                · exact .skip (.skip (.pure .nil _))
                · exact .pure (inner_cons.mpr ⟨inner, inner_head inner'⟩) _
            · exact .pure (inner_head inner) _
        | _ => exact .pure (inner_head inner) _

theorem idle_requireDistinct (names : List String) : Idle (requireDistinct names) := by
  induction names with
  | nil => exact .pure _
  | cons name rest ih =>
      rw [requireDistinct]
      split
      · exact .refuse
      · exact ih

theorem idle_requireTarget (depth : Nat) (expr : Expr) : Idle (requireTarget depth expr) := by
  rw [requireTarget]
  split
  · exact .pure _
  · exact .refuse

theorem idle_requireWhole (expr : Expr) : Idle (requireWhole expr) := by
  cases expr with
  | starred value => exact .refuse
  | _ => exact .pure _

/-! ## The grammar of expressions -/

/-- In a descent of `depth` the readings of the grammar leave what stands behind an expression. -/
structure LocalGrammar (depth : Nat) : Prop where
  expression : Local (expression depth)
  namedExpression : Local (namedExpression depth)
  disjunction : Local (disjunction depth)
  conjunction : Local (conjunction depth)
  inversion : Local (inversion depth)
  links : Local (links depth)
  binary : ∀ levels, Local (binary depth levels)
  binaryRest : ∀ level stronger left, Local (binaryRest depth level stronger left)
  factor : Local (factor depth)
  primary : ∀ value, Local (primary depth value)
  arguments : ∀ before, Local (arguments depth before)
  closeArguments : ∀ before, Local (closeArguments depth before)
  argument : ∀ before, Local (argument depth before)
  parameters : ∀ closing annotated, Local (parameters depth closing annotated)
  parametersFrom : ∀ closing annotated scan before,
    Local (parametersFrom depth closing annotated scan before)
  nextParameter : ∀ closing annotated scan before,
    Local (nextParameter depth closing annotated scan before)
  declared : ∀ annotated, Local (declared depth annotated)
  item : ∀ kind, Local (item depth kind)
  index : Local (index depth)
  bound : Local (bound depth)
  items : ∀ kind before, Local (items depth kind before)
  sequence : ∀ kind, Local (sequence depth kind)
  clauses : Local (clauses depth)
  conditions : Local (conditions depth)
  atom : Local (atom depth)
  parenthesized : Local (parenthesized depth)
  listDisplay : Local (listDisplay depth)
  braced : Local (braced depth)
  entries : ∀ before, Local (entries depth before)
  moreEntries : ∀ before, Local (moreEntries depth before)
  literals : ∀ before, Local (literals depth before)
  fields : ∀ parts, Idle (fields depth parts)

namespace LocalGrammar

variable {depth : Nat}

theorem zero : LocalGrammar 0 where
  expression := .fail
  namedExpression := .fail
  disjunction := .fail
  conjunction := .fail
  inversion := .fail
  links := .fail
  binary _ := .fail
  binaryRest _ _ _ := .fail
  factor := .fail
  primary _ := .fail
  arguments _ := .fail
  closeArguments _ := .fail
  argument _ := .fail
  parameters _ _ := .fail
  parametersFrom _ _ _ _ := .fail
  nextParameter _ _ _ _ := .fail
  declared _ := .fail
  item _ := .fail
  index := .fail
  bound := .fail
  items _ _ := .fail
  sequence _ := .fail
  clauses := .fail
  conditions := .fail
  atom := .fail
  parenthesized := .fail
  listDisplay := .fail
  braced := .fail
  entries _ := .fail
  moreEntries _ := .fail
  literals _ := .fail
  fields _ := .fail

theorem expression_succ (ih : LocalGrammar depth) : Local (Script.expression (depth + 1)) := by
  rw [Script.expression]
  refine (local_takeWord "lambda").bind fun isLambda => ?_
  split
  · refine (ih.parameters _ _).bind fun parameters => ?_
    refine (local_mark ":").bind fun _ => ?_
    exact ih.expression.bind fun body => .pure .nil _
  · refine ih.disjunction.bind fun value => ?_
    refine (local_takeWord "if").bind fun isChoice => ?_
    split
    · refine ih.disjunction.bind fun condition => ?_
      refine (local_word "else").bind fun _ => ?_
      exact ih.expression.bind fun otherwise => .pure .nil _
    · exact .pure .nil _

theorem disjunction_succ (ih : LocalGrammar depth) : Local (Script.disjunction (depth + 1)) := by
  rw [Script.disjunction]
  refine ih.conjunction.bind fun left => ?_
  refine (local_takeWord "or").bind fun isEither => ?_
  split
  · exact ih.disjunction.bind fun right => .pure .nil _
  · exact .pure .nil _

theorem conjunction_succ (ih : LocalGrammar depth) : Local (Script.conjunction (depth + 1)) := by
  rw [Script.conjunction]
  refine ih.inversion.bind fun left => ?_
  refine (local_takeWord "and").bind fun isBoth => ?_
  split
  · exact ih.conjunction.bind fun right => .pure .nil _
  · exact .pure .nil _

theorem inversion_succ (ih : LocalGrammar depth) : Local (Script.inversion (depth + 1)) := by
  rw [Script.inversion]
  refine (local_takeWord "not").bind fun isNot => ?_
  split
  · exact ih.inversion.bind fun value => .pure .nil _
  · refine (ih.binary _).bind fun first => ?_
    refine ih.links.bind fun links => ?_
    split <;> exact .pure .nil _

theorem links_succ (ih : LocalGrammar depth) : Local (Script.links (depth + 1)) := by
  rw [Script.links]
  refine local_takeComparison.bind fun comparison => ?_
  cases comparison with
  | none => exact .pure .nil _
  | some comparison =>
      refine (ih.binary _).bind fun value => ?_
      exact ih.links.bind fun links => .pure .nil _

theorem binary_succ (ih : LocalGrammar depth) (levels : List (List (String × BinaryOp))) :
    Local (Script.binary (depth + 1) levels) := by
  cases levels with
  | nil => exact ih.factor
  | cons level stronger =>
      rw [Script.binary]
      exact (ih.binary _).bind fun first => ih.binaryRest _ _ _

theorem binaryRest_succ (ih : LocalGrammar depth) (level : List (String × BinaryOp))
    (stronger : List (List (String × BinaryOp))) (left : Expr) :
    Local (Script.binaryRest (depth + 1) level stronger left) := by
  rw [Script.binaryRest]
  refine (local_takeOperator level).bind fun op => ?_
  cases op with
  | none => exact .pure .nil _
  | some op => exact (ih.binary _).bind fun right => ih.binaryRest _ _ _

theorem factor_succ (ih : LocalGrammar depth) : Local (Script.factor (depth + 1)) := by
  rw [Script.factor]
  refine (local_takeOperator unaryMarks).bind fun op => ?_
  cases op with
  | some op => exact ih.factor.bind fun value => .pure .nil _
  | none =>
      refine ih.atom.bind fun value => ?_
      refine (ih.primary value).bind fun base => ?_
      refine (local_takeMark "**").bind fun isPower => ?_
      split
      · exact ih.factor.bind fun exponent => .pure .nil _
      · exact .pure .nil _

theorem namedExpression_succ (ih : LocalGrammar depth) : Local (Script.namedExpression (depth + 1)) := by
  rw [Script.namedExpression]
  refine .next (Script.expression depth) ih.expression ?_ ?_
  · intro lexeme outer
    cases lexeme <;> first | rfl | contradiction
  · intro lexeme inner
    refine .second (Script.expression depth) (ih.expression.behind (inner_head inner)) ?_ ?_
    · intro lexeme' outer
      cases lexeme <;> cases lexeme' <;> first | rfl | contradiction
    · intro lexeme' inner'
      split
      · exact .skip (.skip (ih.expression.bind fun value => .pure .nil _))
      · exact ih.expression.behind (inner_cons.mpr ⟨inner, inner_head inner'⟩)

theorem primary_succ (ih : LocalGrammar depth) (value : Expr) :
    Local (Script.primary (depth + 1) value) := by
  rw [Script.primary]
  refine (local_takeMark ".").bind fun isAttribute => ?_
  split
  · exact local_name.bind fun name => ih.primary _
  refine (local_takeMark "(").bind fun isCall => ?_
  split
  · refine (ih.arguments []).bind fun arguments => ?_
    exact .bind_idle (idle_requireDistinct _) fun _ => ih.primary _
  refine (local_takeMark "[").bind fun isItem => ?_
  split
  · refine (ih.sequence _).bind fun index => ?_
    exact (local_mark "]").bind fun _ => ih.primary _
  · exact .pure .nil _

theorem arguments_succ (ih : LocalGrammar depth) (before : List Argument) :
    Local (Script.arguments (depth + 1) before) := by
  rw [Script.arguments]
  refine (local_takeMark ")").bind fun closes => ?_
  split
  · exact .pure .nil _
  · exact (ih.argument before).bind fun argument => ih.closeArguments _

theorem closeArguments_succ (ih : LocalGrammar depth) (before : List Argument) :
    Local (Script.closeArguments (depth + 1) before) := by
  rw [Script.closeArguments]
  refine (local_takeMark ",").bind fun goesOn => ?_
  split
  · exact ih.arguments _
  · exact (local_mark ")").bind fun _ => .pure .nil _

/-- The argument that begins with neither star nor name. -/
theorem local_plainArgument (ih : LocalGrammar depth) (before : List Argument) :
    Local (do
      let value ← Script.namedExpression depth
      unless allowsPositional before do refuse
      if ← seesWord "for" then
        let clauses ← Script.clauses depth
        unless before.isEmpty && (← seesMark ")") do refuse
        return Argument.value (.comprehension .stream value none clauses)
      else return .value value) := by
  refine ih.namedExpression.bind fun value => ?_
  dsimp only
  split
  · refine (local_seesWord "for").bind fun isStream => ?_
    split
    · refine ih.clauses.bind fun clauses => ?_
      refine (local_seesMark ")").bind fun closes => ?_
      split
      · exact .pure .nil _
      · exact .refuse_bind
    · exact .pure .nil _
  · exact .refuse_bind

theorem argument_succ (ih : LocalGrammar depth) (before : List Argument) :
    Local (Script.argument (depth + 1) before) := by
  rw [Script.argument]
  refine (local_takeMark "*").bind fun isUnpacked => ?_
  split
  · dsimp only
    split
    · exact ih.expression.bind fun values => .pure .nil _
    · exact .refuse_bind
  refine (local_takeMark "**").bind fun isUnpackedNamed => ?_
  split
  · exact ih.expression.bind fun values => .pure .nil _
  refine .next _ (ih.local_plainArgument before) ?_ ?_
  · intro lexeme outer
    cases lexeme <;> first | rfl | contradiction
  · intro lexeme inner
    refine .second _ ((ih.local_plainArgument before).behind (inner_head inner)) ?_ ?_
    · intro lexeme' outer
      cases lexeme <;> cases lexeme' <;> first | rfl | contradiction
    · intro lexeme' inner'
      split
      · exact .skip (.skip (ih.expression.bind fun value => .pure .nil _))
      · exact (ih.local_plainArgument before).behind (inner_cons.mpr ⟨inner, inner_head inner'⟩)

theorem parameters_succ (ih : LocalGrammar depth) (closing : String) (annotated : Bool) :
    Local (Script.parameters (depth + 1) closing annotated) := by
  rw [Script.parameters]
  refine (ih.parametersFrom _ _ _ _).bind fun read => ?_
  exact .bind_idle (idle_requireDistinct _) fun _ => .pure .nil _

theorem parametersFrom_succ (ih : LocalGrammar depth) (closing : String) (annotated : Bool)
    (scan : ParameterScan) (before : List Parameter) :
    Local (Script.parametersFrom (depth + 1) closing annotated scan before) := by
  rw [Script.parametersFrom]
  refine (local_seesMark closing).bind fun closes => ?_
  split
  · split
    · exact .refuse
    · exact .pure .nil _
  refine (local_takeMark "/").bind fun isSlash => ?_
  split
  · split
    · exact .refuse
    · exact ih.nextParameter _ _ _ _
  refine (local_takeMark "**").bind fun isNamedRest => ?_
  split
  · dsimp only
    split
    · exact .refuse_bind
    refine local_name.bind fun name => ?_
    refine (ih.declared annotated).bind fun declared => ?_
    refine (local_seesMark "=").bind fun hasDefault => ?_
    split
    · exact .refuse_bind
    refine ((local_takeMark ",").map _).bind fun _ => ?_
    refine (local_seesMark closing).bind fun closes => ?_
    split
    · exact .pure .nil _
    · exact .fail_bind
  refine (local_takeMark "*").bind fun isRest => ?_
  split
  · split
    · exact .refuse
    refine (local_takeMark ",").bind fun isBare => ?_
    split
    · exact ih.parametersFrom _ _ _ _
    refine local_name.bind fun name => ?_
    exact (ih.declared annotated).bind fun declared => ih.nextParameter _ _ _ _
  refine local_name.bind fun name => ?_
  refine (ih.declared annotated).bind fun declared => ?_
  refine (local_takeMark "=").bind fun hasDefault => ?_
  split
  · exact ih.expression.bind fun default => ih.nextParameter _ _ _ _
  split
  · exact .refuse
  · exact ih.nextParameter _ _ _ _

theorem nextParameter_succ (ih : LocalGrammar depth) (closing : String) (annotated : Bool)
    (scan : ParameterScan) (before : List Parameter) :
    Local (Script.nextParameter (depth + 1) closing annotated scan before) := by
  rw [Script.nextParameter]
  refine (local_takeMark ",").bind fun goesOn => ?_
  split
  · exact ih.parametersFrom _ _ _ _
  refine (local_seesMark closing).bind fun closes => ?_
  dsimp only
  split
  · split
    · exact .refuse
    · exact .pure .nil _
  · exact .fail_bind

theorem declared_succ (ih : LocalGrammar depth) (annotated : Bool) :
    Local (Script.declared (depth + 1) annotated) := by
  rw [Script.declared]
  split
  · refine (local_takeMark ":").bind fun isDeclared => ?_
    split
    · exact ih.expression.map some
    · exact .pure .nil _
  · exact .pure .nil _

theorem item_succ (ih : LocalGrammar depth) (kind : ItemKind) : Local (Script.item (depth + 1) kind) := by
  have go : ∀ {plain : Reading Expr}, Local plain → ∀ starred : Bool, Local (if starred then
      (do return .starred (← Script.binary depth operatorLevels)) else plain) := by
    intro plain isLocal starred
    split
    · exact (ih.binary _).bind fun value => .pure .nil _
    · exact isLocal
  unfold Script.item
  cases kind with
  | plain => exact go ih.expression false
  | star => exact (local_takeMark "*").bind (go ih.expression)
  | display => exact (local_takeMark "*").bind (go ih.namedExpression)
  | target => exact (local_takeMark "*").bind (go (ih.binary _))
  | index => exact (local_takeMark "*").bind (go ih.index)

theorem index_succ (ih : LocalGrammar depth) : Local (Script.index (depth + 1)) := by
  rw [Script.index]
  dsimp only
  have go : ∀ {start : Option Expr} {otherwise : Reading Expr}, Local otherwise → Local (do
      if ← takeMark ":" then
        let stop ← Script.bound depth
        let step ← if ← takeMark ":" then Script.bound depth else pure none
        return Expr.slice start stop step
      else otherwise) := by
    intro start otherwise isLocal
    refine (local_takeMark ":").bind fun isSlice => ?_
    split
    · refine ih.bound.bind fun stop => ?_
      refine (local_takeMark ":").bind fun hasStep => ?_
      dsimp only
      split
      · exact ih.bound.bind fun step => .pure .nil _
      · exact .pure .nil _
    · exact isLocal
  refine (local_seesMark ":").bind fun isOpen => ?_
  split
  · exact go .fail
  · rw [map_eq_pure_bind, bind_assoc]
    exact ih.namedExpression.bind fun value => go (.pure .nil value)

theorem bound_succ (ih : LocalGrammar depth) : Local (Script.bound (depth + 1)) := by
  rw [Script.bound]
  refine .next (pure none) (.pure .nil _) ?_ ?_
  · intro lexeme outer
    cases lexeme <;> first | rfl | contradiction
  · intro lexeme inner
    split
    · exact (ih.expression.behind (inner_head inner)).bind fun value => .pure .nil _
    · exact .pure (inner_head inner) _

theorem items_succ (ih : LocalGrammar depth) (kind : ItemKind) (before : List Expr) :
    Local (Script.items (depth + 1) kind before) := by
  have go : ∀ begins : Bool, Local (do
      let slice ← if kind == .index then seesMark ":" else pure false
      if begins || slice then
        Script.items depth kind (before ++ [← Script.item depth kind])
      else return before) := by
    intro begins
    have onward : ∀ slice : Bool, Local (if (begins || slice) = true then
        (do Script.items depth kind (before ++ [← Script.item depth kind])) else pure before) := by
      intro slice
      split
      · exact (ih.item kind).bind fun item => ih.items _ _
      · exact .pure .nil _
    dsimp only
    split
    · exact (local_seesMark ":").bind onward
    · exact onward false
  rw [Script.items]
  refine (local_takeMark ",").bind fun goesOn => ?_
  split
  · refine .next _ (go false) ?_ ?_
    · intro lexeme outer
      cases lexeme <;> first | rfl | contradiction
    · intro lexeme inner
      exact (go (beginsExpr lexeme)).behind (inner_head inner)
  · exact .pure .nil _

theorem sequence_succ (ih : LocalGrammar depth) (kind : ItemKind) :
    Local (Script.sequence (depth + 1) kind) := by
  rw [Script.sequence]
  refine (ih.item kind).bind fun first => ?_
  refine (local_seesMark ",").bind fun isTuple => ?_
  split
  · exact (ih.items _ _).bind fun items => .pure .nil _
  · split
    · exact .pure .nil _
    · exact .of_idle (idle_requireWhole _)

theorem clauses_succ (ih : LocalGrammar depth) : Local (Script.clauses (depth + 1)) := by
  rw [Script.clauses]
  refine (local_takeWord "for").bind fun isClause => ?_
  split
  · refine (ih.sequence _).bind fun target => ?_
    refine .bind_idle (idle_requireTarget _ _) fun _ => ?_
    refine (local_word "in").bind fun _ => ?_
    refine ih.disjunction.bind fun source => ?_
    refine ih.conditions.bind fun conditions => ?_
    exact ih.clauses.bind fun clauses => .pure .nil _
  · exact .pure .nil _

theorem conditions_succ (ih : LocalGrammar depth) : Local (Script.conditions (depth + 1)) := by
  rw [Script.conditions]
  refine (local_takeWord "if").bind fun isCondition => ?_
  split
  · refine ih.disjunction.bind fun condition => ?_
    exact ih.conditions.bind fun conditions => .pure .nil _
  · exact .pure .nil _

theorem atom_succ (ih : LocalGrammar depth) : Local (Script.atom (depth + 1)) := by
  rw [Script.atom]
  refine .next Reading.fail .fail ?_ ?_
  · intro lexeme outer
    cases lexeme <;> first | rfl | contradiction
  · intro lexeme inner
    split
    · exact .skip (.pure .nil _)
    · exact .skip (.pure .nil _)
    · exact .skip (.pure .nil _)
    · exact (ih.literals []).behind (inner_head inner)
    · exact .skip (.pure .nil _)
    · exact .skip (.pure .nil _)
    · exact .skip (.pure .nil _)
    · split
      · exact .skip (.pure .nil _)
      split
      · exact .skip ih.parenthesized
      split
      · exact .skip ih.listDisplay
      split
      · exact .skip ih.braced
      · exact .fail
    · exact .fail

theorem parenthesized_succ (ih : LocalGrammar depth) : Local (Script.parenthesized (depth + 1)) := by
  rw [Script.parenthesized]
  refine (local_takeMark ")").bind fun isEmpty => ?_
  split
  · exact .pure .nil _
  refine (ih.item _).bind fun first => ?_
  refine (local_seesWord "for").bind fun isStream => ?_
  split
  · refine .bind_idle (idle_requireWhole _) fun first => ?_
    refine ih.clauses.bind fun clauses => ?_
    exact (local_mark ")").bind fun _ => .pure .nil _
  refine (local_seesMark ",").bind fun isTuple => ?_
  split
  · refine (ih.items _ _).bind fun items => ?_
    exact (local_mark ")").bind fun _ => .pure .nil _
  · exact (local_mark ")").bind fun _ => .of_idle (idle_requireWhole _)

theorem listDisplay_succ (ih : LocalGrammar depth) : Local (Script.listDisplay (depth + 1)) := by
  rw [Script.listDisplay]
  refine (local_takeMark "]").bind fun isEmpty => ?_
  split
  · exact .pure .nil _
  refine (ih.item _).bind fun first => ?_
  refine (local_seesWord "for").bind fun isComprehension => ?_
  split
  · refine .bind_idle (idle_requireWhole _) fun first => ?_
    refine ih.clauses.bind fun clauses => ?_
    exact (local_mark "]").bind fun _ => .pure .nil _
  · refine (ih.items _ _).bind fun items => ?_
    exact (local_mark "]").bind fun _ => .pure .nil _

theorem braced_succ (ih : LocalGrammar depth) : Local (Script.braced (depth + 1)) := by
  rw [Script.braced]
  refine (local_takeMark _).bind fun isEmpty => ?_
  split
  · exact .pure .nil _
  refine (local_seesMark "**").bind fun isUnpacked => ?_
  split
  · refine (ih.entries []).bind fun entries => ?_
    exact (local_mark _).bind fun _ => .pure .nil _
  refine (ih.item _).bind fun first => ?_
  refine (local_takeMark ":").bind fun isMap => ?_
  split
  · refine .bind_idle (idle_requireWhole _) fun first => ?_
    refine ih.expression.bind fun value => ?_
    refine (local_seesWord "for").bind fun isComprehension => ?_
    split
    · refine ih.clauses.bind fun clauses => ?_
      exact (local_mark _).bind fun _ => .pure .nil _
    · refine (ih.moreEntries _).bind fun entries => ?_
      exact (local_mark _).bind fun _ => .pure .nil _
  refine (local_seesWord "for").bind fun isComprehension => ?_
  split
  · refine .bind_idle (idle_requireWhole _) fun first => ?_
    refine ih.clauses.bind fun clauses => ?_
    exact (local_mark _).bind fun _ => .pure .nil _
  · refine (ih.items _ _).bind fun items => ?_
    exact (local_mark _).bind fun _ => .pure .nil _

theorem entries_succ (ih : LocalGrammar depth) (before : List DictItem) :
    Local (Script.entries (depth + 1) before) := by
  rw [Script.entries]
  refine (local_takeMark "**").bind fun isUnpacked => ?_
  split
  · exact (ih.binary _).bind fun map => ih.moreEntries _
  · refine ih.expression.bind fun key => ?_
    refine (local_mark ":").bind fun _ => ?_
    exact ih.expression.bind fun value => ih.moreEntries _

theorem moreEntries_succ (ih : LocalGrammar depth) (before : List DictItem) :
    Local (Script.moreEntries (depth + 1) before) := by
  have go : ∀ begins : Bool, Local (do
      let unpacked ← seesMark "**"
      if begins || unpacked then Script.entries depth before else return before) := by
    intro begins
    refine (local_seesMark "**").bind fun unpacked => ?_
    split
    · exact ih.entries before
    · exact .pure .nil _
  rw [Script.moreEntries]
  refine (local_takeMark ",").bind fun goesOn => ?_
  split
  · refine .next _ (go false) ?_ ?_
    · intro lexeme outer
      cases lexeme <;> first | rfl | contradiction
    · intro lexeme inner
      exact (go (beginsExpr lexeme)).behind (inner_head inner)
  · exact .pure .nil _

theorem literals_succ (ih : LocalGrammar depth) (before : List Part) :
    Local (Script.literals (depth + 1) before) := by
  have onward : ∀ {lexeme : Lexeme} parts,
      LocalAt [lexeme] (do skip; Script.literals depth (before ++ parts)) :=
    fun parts => .skip (ih.literals _)
  rw [Script.literals]
  refine .next (pure (literals.joined before)) (.pure .nil _) ?_ ?_
  · intro lexeme outer
    cases lexeme <;> first | rfl | contradiction
  · intro lexeme inner
    split
    · dsimp only
      split
      · split
        · exact .bind_idle (ih.fields _) onward
        · exact .refuse_bind
      · split
        · exact onward _
        · exact .refuse_bind
    · exact .pure (inner_head inner) _

theorem fields_succ (ih : LocalGrammar depth) (parts : List RawPart) :
    Idle (Script.fields (depth + 1) parts) := by
  rcases parts with _ | ⟨text | ⟨source, shown, conversion, spec⟩, rest⟩
  · exact .pure _
  · rw [Script.fields]
    exact (ih.fields rest).bind fun parts => .pure _
  · have onward : ∀ finish : List Part → List Part → List Part, Idle (do
        let spec ← Script.fields depth spec
        return finish spec (← Script.fields depth rest)) :=
      fun finish => (ih.fields spec).bind fun spec => (ih.fields rest).bind fun rest => .pure _
    unfold Script.fields
    dsimp only
    split
    · exact .bind .refuse fun value => onward _
    · split
      · exact .bind (.pure _) fun value => onward _
      · exact .bind .refuse fun value => onward _

theorem succ (ih : LocalGrammar depth) : LocalGrammar (depth + 1) where
  expression := ih.expression_succ
  namedExpression := ih.namedExpression_succ
  disjunction := ih.disjunction_succ
  conjunction := ih.conjunction_succ
  inversion := ih.inversion_succ
  links := ih.links_succ
  binary := ih.binary_succ
  binaryRest := ih.binaryRest_succ
  factor := ih.factor_succ
  primary := ih.primary_succ
  arguments := ih.arguments_succ
  closeArguments := ih.closeArguments_succ
  argument := ih.argument_succ
  parameters := ih.parameters_succ
  parametersFrom := ih.parametersFrom_succ
  nextParameter := ih.nextParameter_succ
  declared := ih.declared_succ
  item := ih.item_succ
  index := ih.index_succ
  bound := ih.bound_succ
  items := ih.items_succ
  sequence := ih.sequence_succ
  clauses := ih.clauses_succ
  conditions := ih.conditions_succ
  atom := ih.atom_succ
  parenthesized := ih.parenthesized_succ
  listDisplay := ih.listDisplay_succ
  braced := ih.braced_succ
  entries := ih.entries_succ
  moreEntries := ih.moreEntries_succ
  literals := ih.literals_succ
  fields := ih.fields_succ

end LocalGrammar

/-- The grammar of expressions leaves what stands behind an expression, whatever it is. -/
theorem localGrammar (depth : Nat) : LocalGrammar depth := by
  induction depth with
  | zero => exact .zero
  | succ depth ih => exact ih.succ

end Linework.Script
