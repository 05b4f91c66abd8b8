import Linework.Script.Evaluation

/-!
# The place of an expression

The path of a place is what the full names of functions begin with that are defined there. An expression that
defines no function has the same value, and the same effects, at two places that differ in their paths alone.
The functions that it calls may define functions: their places have paths of their own.
-/

namespace Linework.Script

open Run

/-! ## Expressions without functions -/

mutual

/-- Whether an expression defines no function. -/
def Expr.isFunctionFree : Expr → Bool
  | .null | .bool _ | .int _ | .float _ | .text _ | .ellipsis | .name _ => true
  | .tuple items | .list items | .set items => areFunctionFree items
  | .dict items => areEntriesFunctionFree items
  | .starred value | .unary _ value | .attribute value _ | .bind _ value => value.isFunctionFree
  | .binary _ left right | .both left right | .either left right =>
    left.isFunctionFree && right.isFunctionFree
  | .compare first links => first.isFunctionFree && areLinksFunctionFree links
  | .choice condition value otherwise =>
    condition.isFunctionFree && value.isFunctionFree && otherwise.isFunctionFree
  | .lambda .. => false
  | .call callee arguments => callee.isFunctionFree && areArgumentsFunctionFree arguments
  | .item value index => value.isFunctionFree && index.isFunctionFree
  | .slice start stop step =>
    isOptionFunctionFree start && isOptionFunctionFree stop && isOptionFunctionFree step
  -- A generator is named after its place, as functions are.
  | .comprehension .stream .. => false
  | .comprehension _ element value clauses =>
    element.isFunctionFree && isOptionFunctionFree value && areClausesFunctionFree clauses
  | .layout parts => arePartsFunctionFree parts

/-- Whether an expression that may be left out defines no function. -/
def isOptionFunctionFree : Option Expr → Bool
  | none => true
  | some expr => expr.isFunctionFree

/-- Whether no expression of several defines a function. -/
def areFunctionFree : List Expr → Bool
  | [] => true
  | expr :: rest => expr.isFunctionFree && areFunctionFree rest

/-- Whether the entries of a map display define no function. -/
def areEntriesFunctionFree : List DictItem → Bool
  | [] => true
  | .entry key value :: rest => key.isFunctionFree && value.isFunctionFree && areEntriesFunctionFree rest
  | .unpacked map :: rest => map.isFunctionFree && areEntriesFunctionFree rest

/-- Whether the links of a chain of comparisons define no function. -/
def areLinksFunctionFree : List Link → Bool
  | [] => true
  | .mk _ value :: rest => value.isFunctionFree && areLinksFunctionFree rest

/-- Whether the arguments of a call define no function. -/
def areArgumentsFunctionFree : List Argument → Bool
  | [] => true
  | .value value :: rest | .named _ value :: rest | .unpacked value :: rest | .unpackedNamed value :: rest =>
    value.isFunctionFree && areArgumentsFunctionFree rest

/-- Whether the clauses of a comprehension define no function. -/
def areClausesFunctionFree : List Clause → Bool
  | [] => true
  | .mk target source conditions :: rest =>
    target.isFunctionFree && source.isFunctionFree && areFunctionFree conditions
      && areClausesFunctionFree rest

/-- Whether the parts of a text define no function. -/
def arePartsFunctionFree : List Part → Bool
  | [] => true
  | .text _ :: rest => arePartsFunctionFree rest
  | .field value _ spec :: rest =>
    value.isFunctionFree && arePartsFunctionFree spec && arePartsFunctionFree rest

end

theorem areFunctionFree_append {before after : List Expr} :
    areFunctionFree (before ++ after) = (areFunctionFree before && areFunctionFree after) := by
  induction before with
  | nil => rfl
  | cons expr before ih => simp [areFunctionFree, ih, Bool.and_assoc]

/-- The parts of a chain of targets define no function when the chain does not. -/
theorem areFunctionFree_splitStarred {targets : List Expr} (free : areFunctionFree targets) :
    areFunctionFree (splitStarred targets).1 ∧
      ∀ starred after, (splitStarred targets).2 = some (starred, after) →
        areFunctionFree (starred :: after) := by
  fun_induction splitStarred targets with
  | case1 => simp [areFunctionFree]
  | case2 target rest =>
      simp only [areFunctionFree, Expr.isFunctionFree] at free ⊢
      simpa using free
  | case3 target rest _ before starred split ih =>
      rw [areFunctionFree, Bool.and_eq_true] at free
      obtain ⟨restFree, starredFree⟩ := ih free.2
      rw [split] at restFree starredFree
      exact ⟨by rw [areFunctionFree, free.1]; exact restFree, starredFree⟩

/-! ## Two places -/

/-- In `fuel` steps nothing depends on which of two paths a place has, unless a function is defined. -/
structure PathFree (path path' : String) (fuel : Nat) : Prop where
  eval : ∀ {scopes calls handling} {expr : Expr}, expr.isFunctionFree →
    eval fuel ⟨scopes, calls, path, handling⟩ expr = eval fuel ⟨scopes, calls, path', handling⟩ expr
  evalOptional : ∀ {scopes calls handling expr}, isOptionFunctionFree expr →
    evalOptional fuel ⟨scopes, calls, path, handling⟩ expr =
      evalOptional fuel ⟨scopes, calls, path', handling⟩ expr
  evalItems : ∀ {scopes calls handling refusal exprs}, areFunctionFree exprs →
    evalItems fuel ⟨scopes, calls, path, handling⟩ refusal exprs =
      evalItems fuel ⟨scopes, calls, path', handling⟩ refusal exprs
  evalSet : ∀ {scopes calls handling exprs}, areFunctionFree exprs →
    evalSet fuel ⟨scopes, calls, path, handling⟩ exprs =
      evalSet fuel ⟨scopes, calls, path', handling⟩ exprs
  evalEntries : ∀ {scopes calls handling made found items}, areEntriesFunctionFree items →
    evalEntries fuel ⟨scopes, calls, path, handling⟩ made found items =
      evalEntries fuel ⟨scopes, calls, path', handling⟩ made found items
  evalLinks : ∀ {scopes calls handling left links}, areLinksFunctionFree links →
    evalLinks fuel ⟨scopes, calls, path, handling⟩ left links =
      evalLinks fuel ⟨scopes, calls, path', handling⟩ left links
  evalParts : ∀ {scopes calls handling parts}, arePartsFunctionFree parts →
    evalParts fuel ⟨scopes, calls, path, handling⟩ parts =
      evalParts fuel ⟨scopes, calls, path', handling⟩ parts
  evalArguments : ∀ {scopes calls handling callee found arguments}, areArgumentsFunctionFree arguments →
    evalArguments fuel ⟨scopes, calls, path, handling⟩ callee found arguments =
      evalArguments fuel ⟨scopes, calls, path', handling⟩ callee found arguments
  evalComprehension : ∀ {scopes calls handling collection} {element : Expr} {value clauses},
    element.isFunctionFree → isOptionFunctionFree value → areClausesFunctionFree clauses →
    evalComprehension fuel ⟨scopes, calls, path, handling⟩ collection element value clauses =
      evalComprehension fuel ⟨scopes, calls, path', handling⟩ collection element value clauses
  rounds : ∀ {scopes calls handling} {element : Expr} {value source} {target : Expr}
    {conditions clauses found}, element.isFunctionFree → isOptionFunctionFree value →
    target.isFunctionFree → areFunctionFree conditions → areClausesFunctionFree clauses →
    rounds fuel ⟨scopes, calls, path, handling⟩ element value source target conditions clauses found =
      rounds fuel ⟨scopes, calls, path', handling⟩ element value source target conditions clauses found
  round : ∀ {scopes calls handling} {element : Expr} {value clauses found},
    element.isFunctionFree → isOptionFunctionFree value → areClausesFunctionFree clauses →
    round fuel ⟨scopes, calls, path, handling⟩ element value clauses found =
      round fuel ⟨scopes, calls, path', handling⟩ element value clauses found
  holdsAll : ∀ {scopes calls handling conditions}, areFunctionFree conditions →
    holdsAll fuel ⟨scopes, calls, path, handling⟩ conditions =
      holdsAll fuel ⟨scopes, calls, path', handling⟩ conditions
  call : ∀ {scopes calls handling callee arguments},
    call fuel ⟨scopes, calls, path, handling⟩ callee arguments =
      call fuel ⟨scopes, calls, path', handling⟩ callee arguments
  callFunction : ∀ {scopes calls handling function arguments},
    callFunction fuel ⟨scopes, calls, path, handling⟩ function arguments =
      callFunction fuel ⟨scopes, calls, path', handling⟩ function arguments
  instantiate : ∀ {scopes calls handling cls name arguments},
    instantiate fuel ⟨scopes, calls, path, handling⟩ cls name arguments =
      instantiate fuel ⟨scopes, calls, path', handling⟩ cls name arguments
  assign : ∀ {scopes calls handling} {target : Expr} {value}, target.isFunctionFree →
    assign fuel ⟨scopes, calls, path, handling⟩ target value =
      assign fuel ⟨scopes, calls, path', handling⟩ target value
  assignAll : ∀ {scopes calls handling targets values}, areFunctionFree targets →
    assignAll fuel ⟨scopes, calls, path, handling⟩ targets values =
      assignAll fuel ⟨scopes, calls, path', handling⟩ targets values

namespace PathFree

variable {path path' : String} {fuel : Nat}

theorem zero : PathFree path path' 0 where
  eval _ := by simp only [Script.eval]
  evalOptional _ := by simp only [Script.evalOptional]
  evalItems _ := by simp only [Script.evalItems]
  evalSet _ := by simp only [Script.evalSet]
  evalEntries _ := by simp only [Script.evalEntries]
  evalLinks _ := by simp only [Script.evalLinks]
  evalParts _ := by simp only [Script.evalParts]
  evalArguments _ := by simp only [Script.evalArguments]
  evalComprehension _ _ _ := by simp only [Script.evalComprehension]
  rounds _ _ _ _ _ := by simp only [Script.rounds]
  round _ _ _ := by simp only [Script.round]
  holdsAll _ := by simp only [Script.holdsAll]
  call {_ _ _ _ _} := by simp only [Script.call]
  callFunction {_ _ _ _ _} := by simp only [Script.callFunction]
  instantiate {_ _ _ _ _ _} := by simp only [Script.instantiate]
  assign _ := by simp only [Script.assign]
  assignAll _ := by simp only [Script.assignAll]

variable {scopes : List Nat} {calls : Nat} {handling : Option Value}

theorem eval_succ (ih : PathFree path path' fuel) {expr : Expr} (free : expr.isFunctionFree) :
    Script.eval (fuel + 1) ⟨scopes, calls, path, handling⟩ expr =
      Script.eval (fuel + 1) ⟨scopes, calls, path', handling⟩ expr := by
  cases expr with
  | null | bool | int | float | text | ellipsis => simp only [Script.eval]
  | name => simp only [Script.eval, lookup]
  | tuple items | list items => simp only [Script.eval, ih.evalItems free]
  | set items => simp only [Script.eval, ih.evalSet free]
  | dict items => simp only [Script.eval, ih.evalEntries free]
  | starred value | unary op value | «attribute» value name =>
      have valueFree : value.isFunctionFree := free
      simp only [Script.eval, ih.eval valueFree]
  | bind name value =>
      have valueFree : value.isFunctionFree := free
      simp only [Script.eval, ih.eval valueFree, storeOutside]
  | binary op left right | both left right | either left right | item left right =>
      obtain ⟨leftFree, rightFree⟩ := Bool.and_eq_true_iff.mp free
      simp only [Script.eval, ih.eval leftFree, ih.eval rightFree]
  | compare first links =>
      obtain ⟨firstFree, linksFree⟩ := Bool.and_eq_true_iff.mp free
      simp only [Script.eval, ih.eval firstFree, ih.evalLinks linksFree]
  | choice condition value otherwise =>
      obtain ⟨bothFree, otherwiseFree⟩ := Bool.and_eq_true_iff.mp free
      obtain ⟨conditionFree, valueFree⟩ := Bool.and_eq_true_iff.mp bothFree
      simp only [Script.eval, ih.eval conditionFree, ih.eval valueFree, ih.eval otherwiseFree]
  | lambda => contradiction
  | call callee arguments =>
      obtain ⟨calleeFree, argumentsFree⟩ := Bool.and_eq_true_iff.mp free
      simp only [Script.eval, ih.eval calleeFree, ih.evalArguments argumentsFree, ih.call]
  | slice start stop step =>
      obtain ⟨boundsFree, stepFree⟩ := Bool.and_eq_true_iff.mp free
      obtain ⟨startFree, stopFree⟩ := Bool.and_eq_true_iff.mp boundsFree
      simp only [Script.eval, ih.evalOptional startFree, ih.evalOptional stopFree, ih.evalOptional stepFree]
  | comprehension collection element value clauses =>
      cases collection with
      | stream => contradiction
      | list | set | dict =>
          obtain ⟨foundFree, clausesFree⟩ := Bool.and_eq_true_iff.mp free
          obtain ⟨elementFree, valueFree⟩ := Bool.and_eq_true_iff.mp foundFree
          simp only [Script.eval, ih.evalComprehension elementFree valueFree clausesFree]
  | layout parts => simp only [Script.eval, ih.evalParts free]

theorem evalItems_succ (ih : PathFree path path' fuel) {refusal : String → Failure} {exprs : List Expr}
    (free : areFunctionFree exprs) :
    Script.evalItems (fuel + 1) ⟨scopes, calls, path, handling⟩ refusal exprs =
      Script.evalItems (fuel + 1) ⟨scopes, calls, path', handling⟩ refusal exprs := by
  cases exprs with
  | nil => simp only [Script.evalItems]
  | cons expr rest =>
      obtain ⟨exprFree, restFree⟩ := Bool.and_eq_true_iff.mp free
      cases expr with
      | starred inner =>
          have innerFree : inner.isFunctionFree := exprFree
          simp only [Script.evalItems, ih.eval innerFree, ih.evalItems restFree]
      | _ => simp only [Script.evalItems, ih.eval exprFree, ih.evalItems restFree]

theorem evalEntries_succ (ih : PathFree path path' fuel) {made found : List (Value × Value)}
    {items : List DictItem} (free : areEntriesFunctionFree items) :
    Script.evalEntries (fuel + 1) ⟨scopes, calls, path, handling⟩ made found items =
      Script.evalEntries (fuel + 1) ⟨scopes, calls, path', handling⟩ made found items := by
  rcases items with _ | ⟨⟨key, value⟩ | map, rest⟩
  · simp only [Script.evalEntries]
  · obtain ⟨entryFree, restFree⟩ := Bool.and_eq_true_iff.mp free
    obtain ⟨keyFree, valueFree⟩ := Bool.and_eq_true_iff.mp entryFree
    simp only [Script.evalEntries, ih.eval keyFree, ih.eval valueFree, ih.evalEntries restFree]
  · obtain ⟨mapFree, restFree⟩ := Bool.and_eq_true_iff.mp free
    simp only [Script.evalEntries, ih.eval mapFree, ih.evalEntries restFree]

theorem evalLinks_succ (ih : PathFree path path' fuel) {left : Value} {links : List Link}
    (free : areLinksFunctionFree links) :
    Script.evalLinks (fuel + 1) ⟨scopes, calls, path, handling⟩ left links =
      Script.evalLinks (fuel + 1) ⟨scopes, calls, path', handling⟩ left links := by
  rcases links with _ | ⟨⟨comparison, value⟩, rest⟩
  · simp only [Script.evalLinks]
  · obtain ⟨valueFree, restFree⟩ := Bool.and_eq_true_iff.mp free
    simp only [Script.evalLinks, ih.eval valueFree, ih.evalLinks restFree]

theorem evalParts_succ (ih : PathFree path path' fuel) {parts : List Part}
    (free : arePartsFunctionFree parts) :
    Script.evalParts (fuel + 1) ⟨scopes, calls, path, handling⟩ parts =
      Script.evalParts (fuel + 1) ⟨scopes, calls, path', handling⟩ parts := by
  rcases parts with _ | ⟨text | ⟨value, conversion, spec⟩, rest⟩
  · simp only [Script.evalParts]
  · have restFree : arePartsFunctionFree rest := free
    simp only [Script.evalParts, ih.evalParts restFree]
  · obtain ⟨fieldFree, restFree⟩ := Bool.and_eq_true_iff.mp free
    obtain ⟨valueFree, specFree⟩ := Bool.and_eq_true_iff.mp fieldFree
    simp only [Script.evalParts, ih.eval valueFree, ih.evalParts specFree, ih.evalParts restFree]

theorem evalArguments_succ (ih : PathFree path path' fuel) {callee : Value} {found : Arguments}
    {arguments : List Argument} (free : areArgumentsFunctionFree arguments) :
    Script.evalArguments (fuel + 1) ⟨scopes, calls, path, handling⟩ callee found arguments =
      Script.evalArguments (fuel + 1) ⟨scopes, calls, path', handling⟩ callee found arguments := by
  rcases arguments with _ | ⟨value | ⟨name, value⟩ | value | value, rest⟩
  · simp only [Script.evalArguments]
  all_goals
    obtain ⟨valueFree, restFree⟩ := Bool.and_eq_true_iff.mp free
    simp only [Script.evalArguments, ih.eval valueFree, ih.evalArguments restFree]

theorem evalComprehension_succ (ih : ∀ path path', PathFree path path' fuel) {collection : Collection}
    {element : Expr} {value : Option Expr} {clauses : List Clause} (elementFree : element.isFunctionFree)
    (valueFree : isOptionFunctionFree value) (clausesFree : areClausesFunctionFree clauses) :
    Script.evalComprehension (fuel + 1) ⟨scopes, calls, path, handling⟩ collection element value clauses =
      Script.evalComprehension (fuel + 1) ⟨scopes, calls, path', handling⟩ collection element value
        clauses := by
  rcases clauses with _ | ⟨⟨target, source, conditions⟩, rest⟩
  · simp only [Script.evalComprehension]
  · obtain ⟨clauseFree, restFree⟩ := Bool.and_eq_true_iff.mp clausesFree
    obtain ⟨loopFree, conditionsFree⟩ := Bool.and_eq_true_iff.mp clauseFree
    obtain ⟨targetFree, sourceFree⟩ := Bool.and_eq_true_iff.mp loopFree
    have inside := ih (path ++ collection.scopeName ++ ".") (path' ++ collection.scopeName ++ ".")
    simp only [Script.evalComprehension, (ih path path').eval sourceFree,
      inside.rounds elementFree valueFree targetFree conditionsFree restFree]

theorem round_succ (ih : PathFree path path' fuel) {element : Expr} {value : Option Expr}
    {clauses : List Clause} {found : Array (Value × Value)} (elementFree : element.isFunctionFree)
    (valueFree : isOptionFunctionFree value) (clausesFree : areClausesFunctionFree clauses) :
    Script.round (fuel + 1) ⟨scopes, calls, path, handling⟩ element value clauses found =
      Script.round (fuel + 1) ⟨scopes, calls, path', handling⟩ element value clauses found := by
  rcases clauses with _ | ⟨⟨target, source, conditions⟩, rest⟩
  · simp only [Script.round, ih.eval elementFree, ih.evalOptional valueFree]
  · obtain ⟨clauseFree, restFree⟩ := Bool.and_eq_true_iff.mp clausesFree
    obtain ⟨loopFree, conditionsFree⟩ := Bool.and_eq_true_iff.mp clauseFree
    obtain ⟨targetFree, sourceFree⟩ := Bool.and_eq_true_iff.mp loopFree
    simp only [Script.round, ih.eval sourceFree,
      ih.rounds elementFree valueFree targetFree conditionsFree restFree]

theorem holdsAll_succ (ih : PathFree path path' fuel) {conditions : List Expr}
    (free : areFunctionFree conditions) :
    Script.holdsAll (fuel + 1) ⟨scopes, calls, path, handling⟩ conditions =
      Script.holdsAll (fuel + 1) ⟨scopes, calls, path', handling⟩ conditions := by
  cases conditions with
  | nil => simp only [Script.holdsAll]
  | cons condition rest =>
      obtain ⟨conditionFree, restFree⟩ := Bool.and_eq_true_iff.mp free
      simp only [Script.holdsAll, ih.eval conditionFree, ih.holdsAll restFree]

theorem assign_succ (ih : PathFree path path' fuel) {target : Expr} {value : Value}
    (free : target.isFunctionFree) :
    Script.assign (fuel + 1) ⟨scopes, calls, path, handling⟩ target value =
      Script.assign (fuel + 1) ⟨scopes, calls, path', handling⟩ target value := by
  cases target with
  | name => simp only [Script.assign, store]
  | «attribute» object name =>
      have objectFree : object.isFunctionFree := free
      simp only [Script.assign, ih.eval objectFree]
  | item object index =>
      obtain ⟨objectFree, indexFree⟩ := Bool.and_eq_true_iff.mp free
      simp only [Script.assign, ih.eval objectFree, ih.eval indexFree]
  | tuple targets | list targets =>
      obtain ⟨beforeFree, starredFree⟩ := areFunctionFree_splitStarred free
      simp only [Script.assign]
      rcases split : splitStarred targets with ⟨before, _ | ⟨starred, after⟩⟩ <;>
        rw [split] at beforeFree starredFree
      · simp only [ih.assignAll beforeFree]
      · have allFree : areFunctionFree (before ++ starred :: after) := by
          rw [areFunctionFree_append, beforeFree, starredFree starred after rfl]
          rfl
        simp only [ih.assignAll allFree]
  | _ => simp only [Script.assign]

theorem assignAll_succ (ih : PathFree path path' fuel) {targets : List Expr} {values : List Value}
    (free : areFunctionFree targets) :
    Script.assignAll (fuel + 1) ⟨scopes, calls, path, handling⟩ targets values =
      Script.assignAll (fuel + 1) ⟨scopes, calls, path', handling⟩ targets values := by
  rcases targets with _ | ⟨target, targets⟩
  · simp only [Script.assignAll]
  · obtain ⟨targetFree, targetsFree⟩ := Bool.and_eq_true_iff.mp free
    cases values with
    | nil => simp only [Script.assignAll]
    | cons value values => simp only [Script.assignAll, ih.assign targetFree, ih.assignAll targetsFree]

theorem succ (ih : ∀ path path', PathFree path path' fuel) : PathFree path path' (fuel + 1) where
  eval := (ih path path').eval_succ
  evalOptional {_ _ _ expr} free := by
    cases expr with
    | none => simp only [Script.evalOptional]
    | some expr =>
        have exprFree : expr.isFunctionFree := free
        simp only [Script.evalOptional, (ih path path').eval exprFree]
  evalItems := (ih path path').evalItems_succ
  evalSet free := by simp only [Script.evalSet, (ih path path').evalItems free]
  evalEntries := (ih path path').evalEntries_succ
  evalLinks := (ih path path').evalLinks_succ
  evalParts := (ih path path').evalParts_succ
  evalArguments := (ih path path').evalArguments_succ
  evalComprehension := evalComprehension_succ ih
  rounds elementFree valueFree targetFree conditionsFree clausesFree := by
    simp only [Script.rounds, (ih path path').assign targetFree, (ih path path').holdsAll conditionsFree,
      (ih path path').round elementFree valueFree clausesFree,
      (ih path path').rounds elementFree valueFree targetFree conditionsFree clausesFree]
  round := (ih path path').round_succ
  holdsAll := (ih path path').holdsAll_succ
  call {_ _ _ _ _} := by
    simp only [Script.call, (ih path path').call, (ih path path').callFunction, (ih path path').instantiate]
  -- The place inside of a function has the name of the function for its path.
  callFunction {_ _ _ _ _} := by simp only [Script.callFunction]
  instantiate {_ _ _ _ _ _} := by simp only [Script.instantiate, (ih path path').call]
  assign := (ih path path').assign_succ
  assignAll := (ih path path').assignAll_succ

end PathFree

theorem pathFree (path path' : String) (fuel : Nat) : PathFree path path' fuel := by
  induction fuel generalizing path path' with
  | zero => exact .zero
  | succ fuel ih => exact .succ ih

/-- An expression that defines no function has the same value whatever the path of its place is. -/
theorem eval_path {fuel : Nat} {site : Site} {expr : Expr} (path : String) (free : expr.isFunctionFree) :
    eval fuel { site with path := path } expr = eval fuel site expr :=
  (pathFree path site.path fuel).eval free

end Linework.Script
