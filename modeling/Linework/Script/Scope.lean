import Linework.Script.Tree

/-!
# Scopes

Which names a body binds, which of them are shared with all fragments, and which bodies make no sense
for how they declare names or leave loops. The number that a function takes bounds how deep trees nest.
-/

namespace Linework.Script

/-- The default and the annotation of a parameter. -/
def Parameter.exprs : Parameter → List Expr
  | .mk _ _ default declared => default.toList ++ declared.toList

/-- The expression of an argument. -/
def Argument.expr : Argument → Expr
  | .value expr | .named _ expr | .unpacked expr | .unpackedNamed expr => expr

/-- The expressions of the parts of a text, in at most `depth` layers of layout. -/
def Part.exprs : Nat → Part → List Expr
  | _, .text _ => []
  | 0, .field value .. => [value]
  | depth + 1, .field value _ spec => value :: spec.flatMap (Part.exprs depth)

namespace Expr

/-- The expressions in an expression that are evaluated in the same scope. -/
def inScope : Expr → List Expr
  | .null | .bool _ | .int _ | .float _ | .text _ | .ellipsis | .name _ => []
  | .tuple items | .list items | .set items => items
  | .dict items => items.flatMap fun
    | .entry key value => [key, value]
    | .unpacked map => [map]
  | .starred value | .unary _ value | .attribute value _ | .bind _ value => [value]
  | .binary _ left right | .both left right | .either left right => [left, right]
  | .compare first links => first :: links.map fun (.mk _ value) => value
  | .choice condition value otherwise => [condition, value, otherwise]
  | .lambda parameters _ => parameters.flatMap Parameter.exprs
  | .call callee arguments => callee :: arguments.map Argument.expr
  | .item value index => [value, index]
  | .slice start stop step => start.toList ++ stop.toList ++ step.toList
  | .comprehension _ _ _ clauses =>
    match clauses with
    | .mk _ source _ :: _ => [source]
    | [] => []
  | .layout parts => parts.flatMap (Part.exprs 2)

/-- The expressions of a comprehension that are evaluated for each of its rounds. -/
def inRounds : Expr → List Expr
  | .comprehension _ element value clauses =>
    element :: value.toList
      ++ (clauses.drop 1).map (fun (.mk _ source _) => source)
      ++ clauses.flatMap fun (.mk target _ conditions) => target :: conditions
  | _ => []

/-- The names that a target binds. -/
def targetNames : Nat → Expr → List String
  | 0, _ => []
  | _ + 1, .name id => [id]
  | depth + 1, .tuple items | depth + 1, .list items => items.flatMap (targetNames depth)
  | depth + 1, .starred value => targetNames depth value
  | _ + 1, _ => []

/-- The names that an expression binds in its own scope; those in the rounds of comprehensions count when
`throughRounds` is set, and those in the defaults of nested functions too. -/
def boundNames (throughRounds : Bool) : Nat → Expr → List String
  | 0, _ => []
  | depth + 1, expr =>
    let own : List String :=
      match expr with
      | .bind id _ => [id]
      | _ => []
    let inner :=
      match expr with
      | .lambda .. => if throughRounds then expr.inScope else []
      | .comprehension .. => if throughRounds then expr.inScope ++ expr.inRounds else []
      | _ => expr.inScope
    own ++ inner.flatMap (boundNames throughRounds depth)

/-- The names that an expression mentions in its own scope. -/
def mentions : Nat → Expr → List String
  | 0, _ => []
  | depth + 1, expr =>
    let own : List String :=
      match expr with
      | .name id | .bind id _ => [id]
      | _ => []
    own ++ expr.inScope.flatMap (mentions depth)

/-- Whether an expression binds a name, be it inside of a nested function. -/
def binds : Nat → Expr → Bool
  | 0, _ => false
  | _ + 1, .bind .. => true
  | depth + 1, .lambda parameters body => ((lambda parameters body).inScope ++ [body]).any (binds depth)
  | depth + 1, expr => (expr.inScope ++ expr.inRounds).any (binds depth)

/-- Whether no comprehension in an expression binds a name where it must not: one of its loops' own names,
or any name in the source of a loop or in the body of a class. -/
def bindsWell (inClass : Bool) : Nat → Expr → Bool
  | 0, _ => true
  | depth + 1, expr =>
    let well :=
      match expr with
      | .comprehension _ _ _ clauses =>
        let loopNames := clauses.flatMap fun (.mk target _ _) => target.targetNames (depth + 1)
        let sources := clauses.map fun (.mk _ source _) => source
        let bound := expr.inRounds.flatMap (boundNames true depth)
        sources.all (!binds depth ·)
          && (!inClass || bound.isEmpty)
          && bound.all (!loopNames.contains ·)
      | _ => true
    let body :=
      match expr with
      | .lambda _ body => [body]
      | _ => []
    well && (expr.inScope ++ expr.inRounds).all (bindsWell inClass depth)
      && body.all (bindsWell false depth)

end Expr

/-! ### Layers -/

/-- Whether an expression has at most so many layers. -/
def Expr.fits : Nat → Expr → Bool
  | 0, _ => false
  | layers + 1, expr =>
    let body : List Expr :=
      match expr with
      | .lambda _ body => [body]
      | _ => []
    (expr.inScope ++ expr.inRounds ++ body).all (fits layers)

namespace Statement

/-- The expressions of a statement that are evaluated in its scope, those of nested blocks left out. -/
def exprs : Statement → List Expr
  | .expression value => [value]
  | .assign targets value => value :: targets
  | .augment target _ value => [target, value]
  | .annotate target declared value _ => declared :: value.toList ++ [target]
  | .delete targets => targets
  | .leave value => value.toList
  | .throw exception cause => exception.toList ++ cause.toList
  | .check condition message => condition :: message.toList
  | .choose condition _ _ | .repeatWhile condition _ _ => [condition]
  | .forEach target source _ _ => [source, target]
  | .guard _ handlers _ _ => handlers.flatMap fun (.mk kind _ _) => kind.toList
  | .define _ parameters result _ decorators =>
    decorators ++ parameters.flatMap Parameter.exprs ++ result.toList
  | .defineClass _ arguments _ decorators => decorators ++ arguments.map Argument.expr
  | .pass | .leaveLoop | .nextRound | .declareGlobal _ | .declareOuter _ | .load _ | .loadFrom .. => []

/-- The blocks of a statement that belong to its scope. -/
def blocks : Statement → List (List Statement)
  | .choose _ body otherwise | .repeatWhile _ body otherwise | .forEach _ _ body otherwise =>
    [body, otherwise]
  | .guard body handlers otherwise cleanup =>
    body :: handlers.map (fun (.mk _ _ body) => body) ++ [otherwise, cleanup]
  | _ => []

/-- Whether a statement has at most so many layers. -/
def fits : Nat → Statement → Bool
  | 0, _ => false
  | layers + 1, statement =>
    let body : List Statement :=
      match statement with
      | .define _ _ _ body _ | .defineClass _ _ body _ => body
      | _ => []
    statement.exprs.all (Expr.fits layers)
      && (body :: statement.blocks).all fun block => block.all (fits layers)

/-- The names that a statement binds itself, by its own form. -/
def ownNames (depth : Nat) : Statement → List String
  | .assign targets _ | .delete targets => targets.flatMap (Expr.targetNames depth)
  | .augment target .. | .annotate target .. | .forEach target .. => target.targetNames depth
  | .load names | .loadFrom _ names => names.map ImportedName.bound
  | .define name .. | .defineClass name .. => [name]
  | _ => []

/-- The names that the handlers of a statement bind. -/
def handlerNames : Statement → List String
  | .guard _ handlers _ _ => handlers.flatMap fun (.mk _ name _) => name.toList
  | _ => []

/-- Whether a statement defines a function or a class. -/
def isDefinition : Statement → Bool
  | .define .. | .defineClass .. => true
  | _ => false

/-- The names that a statement assigns in a fragment, which all fragments share. Names that only a
handler, a comprehension or the head of a definition binds stay in the fragment. -/
def assigned : Nat → Statement → List String
  | 0, _ => []
  | depth + 1, statement =>
    let fromExprs :=
      if statement.isDefinition then []
      else statement.exprs.flatMap (Expr.boundNames false depth)
    statement.ownNames depth ++ fromExprs
      ++ statement.blocks.flatMap fun block => block.flatMap (assigned depth)

/-- All names that a statement binds in its scope. -/
def bound : Nat → Statement → List String
  | 0, _ => []
  | depth + 1, statement =>
    statement.ownNames depth ++ statement.handlerNames
      ++ statement.exprs.flatMap (Expr.boundNames true depth)
      ++ statement.blocks.flatMap fun block => block.flatMap (bound depth)

/-- The names that a statement declares to be shared with all fragments. -/
def declaredGlobal : Nat → Statement → List String
  | 0, _ => []
  | _ + 1, .declareGlobal names => names
  | depth + 1, statement =>
    statement.blocks.flatMap fun block => block.flatMap (declaredGlobal depth)

/-- The names that a statement declares to belong to an outer function. -/
def declaredOuter : Nat → Statement → List String
  | 0, _ => []
  | _ + 1, .declareOuter names => names
  | depth + 1, statement =>
    statement.blocks.flatMap fun block => block.flatMap (declaredOuter depth)

end Statement

/-- How the names of a body are resolved: those shared with all fragments, those of outer functions, and
those of its own. -/
structure ScopeNames where
  shared : List String
  outer : List String
  own : List String

/-- The names of the body of a function. -/
def bodyNames (depth : Nat) (parameters : List String) (body : List Statement) : ScopeNames :=
  let shared := body.flatMap (Statement.declaredGlobal depth)
  let outer := body.flatMap (Statement.declaredOuter depth)
  let bound := (parameters ++ body.flatMap (Statement.bound depth)).eraseDups
  ⟨shared, outer, bound.filter fun name => !shared.contains name && !outer.contains name⟩

/-- The names of a fragment: whatever it assigns is shared. -/
def fragmentNames (depth : Nat) (body : List Statement) : ScopeNames :=
  let shared := body.flatMap (Statement.assigned depth) ++ body.flatMap (Statement.declaredGlobal depth)
  let bound := (body.flatMap (Statement.bound depth)).eraseDups
  ⟨shared, [], bound.filter (!shared.contains ·)⟩

/-! ### Bodies that make no sense -/

/-- Where a body stands. -/
structure BodyPlace where
  inClass : Bool := false
  inLoop : Bool := false
  /-- The own names of the functions around it. -/
  around : List String := []
  /-- The names that the body shares or takes from outer functions. -/
  names : ScopeNames

/-- Whether a declaration of names comes before every mention of them: the names mentioned up to and with
a statement, or nothing when one was mentioned too early. -/
def declaresInTime : Nat → List String → List Statement → Option (List String)
  | 0, seen, _ => some seen
  | _ + 1, seen, [] => some seen
  | depth + 1, seen, statement :: rest => do
    let seen ←
      match statement with
      | .declareGlobal names | .declareOuter names =>
        if names.any seen.contains then none else some seen
      | .guard body handlers otherwise cleanup => do
        -- The block for success is studied before the handlers.
        let seen ← [body, otherwise].foldlM (declaresInTime depth) seen
        let seen ← handlers.foldlM (fun seen (.mk kind name block) =>
          let own := kind.toList.flatMap fun kind => kind.mentions depth ++ kind.boundNames true depth
          declaresInTime depth (name.toList ++ own ++ seen) block) seen
        declaresInTime depth seen cleanup
      -- A name may be declared behind an import of it.
      | .load _ | .loadFrom .. => some seen
      | _ =>
        let own := statement.ownNames depth
          ++ statement.exprs.flatMap fun expr => expr.mentions depth ++ expr.boundNames true depth
        statement.blocks.foldlM (declaresInTime depth) (own ++ seen)
    declaresInTime depth seen rest

mutual

/-- Whether the statements of a body make sense where they stand. -/
def makesSense : Nat → BodyPlace → List Statement → Bool
  | 0, _, _ => true
  | _ + 1, _, [] => true
  | depth + 1, place, statement :: rest =>
    statement.exprs.all (Expr.bindsWell place.inClass (depth + 1))
      && statementMakesSense depth place statement && makesSense depth place rest

/-- Whether a statement makes sense where it stands. -/
def statementMakesSense : Nat → BodyPlace → Statement → Bool
  | 0, _, _ => true
  | depth + 1, place, statement =>
    match statement with
    | .leave _ => !place.inClass
    | .leaveLoop | .nextRound => place.inLoop
    | .declareOuter names => names.all place.around.contains
    | .annotate (.name name) _ _ isSimple =>
      !(isSimple && (place.names.shared.contains name || place.names.outer.contains name))
    | .repeatWhile _ body otherwise | .forEach _ _ body otherwise =>
      makesSense depth { place with inLoop := true } body && makesSense depth place otherwise
    | .define _ parameters _ body _ =>
      let names := parameters.map fun (.mk name ..) => name
      let scope := bodyNames depth names body
      let around := if place.inClass then place.around else place.names.own ++ place.around
      (declaresInTime depth names body).isSome
        && makesSense depth ⟨false, false, around.filter (!scope.shared.contains ·), scope⟩ body
    | .defineClass _ _ body _ =>
      let scope := bodyNames depth [] body
      let around := if place.inClass then place.around else place.names.own ++ place.around
      (declaresInTime depth [] body).isSome && makesSense depth ⟨true, false, around, scope⟩ body
    | other => other.blocks.all (makesSense depth place)

end

/-- Whether a fragment makes sense. -/
def fragmentMakesSense (depth : Nat) (body : List Statement) : Bool :=
  (declaresInTime depth [] body).isSome && makesSense depth { names := fragmentNames depth body } body

end Linework.Script
