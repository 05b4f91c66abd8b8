import Linework.Script.Grammar
import Linework.Script.Layout
import Linework.Text.Part

/-!
# The grammar of statements

A fragment is either one expression or a block of statements. A block is read as the body of a
definition, so all of its lines are indented.
-/

namespace Linework.Script

open Reading

/-- The assignments that combine a target with a value. -/
def augmentMarks : List (String × BinaryOp) := [
  ("+=", .add), ("-=", .sub), ("*=", .mul), ("/=", .div), ("//=", .floorDiv), ("%=", .mod), ("**=", .pow),
  ("@=", .matMul), ("<<=", .shiftLeft), (">>=", .shiftRight), ("&=", .bitAnd), ("|=", .bitOr),
  ("^=", .bitXor)]

/-- Whether an expression may be deleted. -/
def isDeletable (depth : Nat) (expr : Expr) : Bool :=
  match depth with
  | 0 => false
  | depth + 1 =>
    match expr with
    | .name _ | .attribute .. | .item .. => true
    | .tuple items | .list items => items.all (isDeletable depth)
    | _ => false

/-- Whether a flaw that is certain stands in a sequence. -/
def hasCertainFlaw (lexemes : List Lexeme) : Bool :=
  lexemes.any fun
    | .flawed _ certain => certain
    | _ => false

/-- A change of margin must come next, which begins a block. Where it is missing the fragment is refused
for its indentation, unless its lexemes are flawed for certain. -/
def indented : Reading Unit := fun rest =>
  match rest with
  | .indent :: rest => .ok ((), rest)
  | .flawed flaw _ :: _ => .error flaw
  | _ => .error (if hasCertainFlaw rest then .ungrammatical else .indentation)

/-- Names with commas between them, in at most `depth` steps. -/
def names : Nat → Reading (List String)
  | 0 => fail
  | depth + 1 => do
    let first ← name
    if ← takeMark "," then return first :: (← names depth) else return [first]

/-- Names with points between them. -/
def dottedName : Nat → Reading (List String)
  | 0 => fail
  | depth + 1 => do
    let first ← name
    if ← takeMark "." then return first :: (← dottedName depth) else return [first]

/-- The other name that an imported name is given. -/
def importAlias : Reading (Option String) := do
  if ← takeWord "as" then return some (← name) else return none

/-- The modules of an import. -/
def importedModules : Nat → Reading (List ImportedName)
  | 0 => fail
  | depth + 1 => do
    let first : ImportedName := ⟨← dottedName depth, ← importAlias⟩
    if ← takeMark "," then return first :: (← importedModules depth) else return [first]

/-- The names imported from a module; in brackets the last comma may stand alone. -/
def importedNames (bracketed : Bool) : Nat → Reading (List ImportedName)
  | 0 => fail
  | depth + 1 => do
    let first : ImportedName := ⟨[← name], ← importAlias⟩
    if ← takeMark "," then
      if bracketed && (← seesMark ")") then return [first]
      else return first :: (← importedNames bracketed depth)
    else return [first]

/-- An import of names of a module. -/
def importFrom (depth : Nat) : Reading Statement := do
  let path ← dottedName depth
  word "import"
  if ← takeMark "*" then refuse
  else if ← takeMark "(" then
    let names ← importedNames true depth
    mark ")"
    return .loadFrom (".".intercalate path) names
  else return .loadFrom (".".intercalate path) (← importedNames false depth)

/-- The values on the right of an assignment: each but the last is a target too. -/
def assignedValues : Nat → List Expr → Reading Statement
  | 0, _ => fail
  | depth + 1, targets => do
    let value ← sequence depth .star
    if ← takeMark "=" then
      requireTarget depth value
      assignedValues depth (targets ++ [value])
    else return .assign targets value

/-- Go on behind the first value of an expression or an assignment; `isName` when it begins with a name. -/
def assignmentFrom (depth : Nat) (isName : Bool) (first : Expr) : Reading Statement := do
  match ← takeOperator augmentMarks with
  | some op =>
    match first with
    | .name _ | .attribute .. | .item .. => return .augment first op (← sequence depth .star)
    | _ => refuse
  | none =>
    if ← takeMark "=" then
      requireTarget depth first
      assignedValues depth [first]
    else if ← takeMark ":" then
      match first with
      | .name _ | .attribute .. | .item .. =>
        let declared ← expression depth
        let value ← if ← takeMark "=" then some <$> sequence depth .star else pure none
        let isBare := match first with
          | .name _ => isName
          | _ => false
        return .annotate first declared value isBare
      | _ => refuse
    else return .expression (← requireWhole first)

/-- An expression or an assignment. -/
def assignment (depth : Nat) : Reading Statement := do
  let isName ← match ← next with
    | .name _ => pure true
    | _ => pure false
  let first ← item depth .star
  let first ← if ← seesMark "," then Expr.tuple <$> items depth .star [first] else pure first
  assignmentFrom depth isName first

/-- Whether a simple statement is over. -/
def seesStatementEnd : Reading Bool := do
  return (← seesLineEnd) || (← seesMark ";")

/-- A statement that holds no others. -/
def simpleStatement (depth : Nat) : Reading Statement := do
  match ← next with
  | .keyword "pass" =>
    skip
    return .pass
  | .keyword "break" =>
    skip
    return .leaveLoop
  | .keyword "continue" =>
    skip
    return .nextRound
  | .keyword "return" =>
    skip
    if ← seesStatementEnd then return .leave none else return .leave (some (← sequence depth .star))
  | .keyword "raise" =>
    skip
    if ← seesStatementEnd then return .throw none none
    else
      let exception ← expression depth
      if ← takeWord "from" then return .throw (some exception) (some (← expression depth))
      else return .throw (some exception) none
  | .keyword "assert" =>
    skip
    let condition ← expression depth
    if ← takeMark "," then return .check condition (some (← expression depth))
    else return .check condition none
  | .keyword "del" =>
    skip
    let target ← sequence depth .target
    unless isDeletable depth target do refuse
    match target with
    | .tuple (first :: rest) => return .delete (first :: rest)
    | _ => return .delete [target]
  | .keyword "global" =>
    skip
    return .declareGlobal (← names depth)
  | .keyword "nonlocal" =>
    skip
    return .declareOuter (← names depth)
  | .keyword "import" =>
    skip
    return .load (← importedModules depth)
  | .keyword "from" =>
    skip
    importFrom depth
  | _ => assignment depth

/-- Simple statements on one line, with semicolons between them. -/
def simpleStatements : Nat → Reading (List Statement)
  | 0 => fail
  | depth + 1 => do
    let first ← simpleStatement depth
    if ← takeMark ";" then
      match ← next with
      | .newline =>
        skip
        return [first]
      | _ => return first :: (← simpleStatements depth)
    else
      match ← next with
      | .newline =>
        skip
        return [first]
      | _ => fail

/-- Whether a handler takes every exception. -/
def isCatchAll : Handler → Bool
  | .mk none .. => true
  | _ => false

mutual

/-- Statements up to the end of their block. -/
def statements : Nat → Reading (List Statement)
  | 0 => fail
  | depth + 1 => do
    let first ← statement depth
    match ← next with
    | .dedent | .stop => return first
    | _ => return first ++ (← statements depth)

/-- One statement that holds others, or a line of simple ones. -/
def statement : Nat → Reading (List Statement)
  | 0 => fail
  | depth + 1 => do
    match ← next with
    | .keyword "if" =>
      skip
      return [← branches depth]
    | .keyword "while" =>
      skip
      let condition ← namedExpression depth
      let body ← block depth
      return [.repeatWhile condition body (← otherwise depth)]
    | .keyword "for" =>
      skip
      let target ← sequence depth .target
      requireTarget depth target
      word "in"
      let source ← sequence depth .star
      let body ← block depth
      return [.forEach target source body (← otherwise depth)]
    | .keyword "try" =>
      skip
      return [← guarded depth]
    | .keyword "def" => return [← definition depth []]
    | .keyword "class" => return [← definition depth []]
    | .mark "@" => return [← definition depth (← decorators depth)]
    | _ => simpleStatements depth

/-- The decorators before a definition. -/
def decorators : Nat → Reading (List Expr)
  | 0 => fail
  | depth + 1 => do
    if ← takeMark "@" then
      let first ← namedExpression depth
      match ← next with
      | .newline =>
        skip
        return first :: (← decorators depth)
      | _ => fail
    else return []

/-- The definition of a function or a class. -/
def definition : Nat → List Expr → Reading Statement
  | 0, _ => fail
  | depth + 1, decorators => do
    if ← takeWord "def" then
      let name ← name
      mark "("
      let parameters ← parameters depth ")" true
      mark ")"
      let result ← if ← takeMark "->" then some <$> expression depth else pure none
      return .define name parameters result (← block depth) decorators
    else
      word "class"
      let name ← name
      let arguments ← if ← takeMark "(" then arguments depth [] else pure []
      requireDistinct (namedArguments arguments)
      return .defineClass name arguments (← block depth) decorators

/-- The rest of a choice behind its first keyword. -/
def branches : Nat → Reading Statement
  | 0 => fail
  | depth + 1 => do
    let condition ← namedExpression depth
    let body ← block depth
    if ← takeWord "elif" then return .choose condition body [← branches depth]
    else return .choose condition body (← otherwise depth)

/-- The block behind `else`, if there is one. -/
def otherwise : Nat → Reading (List Statement)
  | 0 => fail
  | depth + 1 => do
    if ← takeWord "else" then block depth else return []

/-- The rest of a guarded block behind its first keyword. -/
def guarded : Nat → Reading Statement
  | 0 => fail
  | depth + 1 => do
    let body ← block depth
    let handlers ← handlers depth
    let otherwise ← if handlers.isEmpty then pure [] else otherwise depth
    let cleanup ← if ← takeWord "finally" then block depth else pure []
    if handlers.isEmpty && cleanup.isEmpty then refuse
    else if handlers.dropLast.any isCatchAll then refuse
    else return .guard body handlers otherwise cleanup

/-- The handlers of a guarded block. -/
def handlers : Nat → Reading (List Handler)
  | 0 => fail
  | depth + 1 => do
    if ← takeWord "except" then
      if ← seesMark ":" then
        let body ← block depth
        return .mk none none body :: (← handlers depth)
      else
        let kind ← expression depth
        let name ← if ← takeWord "as" then some <$> name else pure none
        let body ← block depth
        return .mk (some kind) name body :: (← handlers depth)
    else return []

/-- A block behind its colon: indented lines, or simple statements on the same line. -/
def block : Nat → Reading (List Statement)
  | 0 => fail
  | depth + 1 => do
    mark ":"
    match ← next with
    | .newline =>
      skip
      indented
      let body ← statements depth
      match ← next with
      | .dedent =>
        skip
        return body
      | _ => fail
    | _ => simpleStatements depth

end

/-! ### Fragments -/

/-- Pass the ends of lines. -/
def skipNewlines : Nat → Reading Unit
  | 0 => fail
  | depth + 1 => do
    match ← next with
    | .newline =>
      skip
      skipNewlines depth
    | _ => return ()

/-- The whole sequence must have been read. -/
def finished : Reading Unit := do
  match ← next with
  | .stop => return ()
  | _ => fail

/-- A sequence of lexemes as one expression. -/
def wholeExpression (depth : Nat) : Reading Expr := do
  let value ← sequence depth .plain
  skipNewlines depth
  finished
  return value

/-- A sequence of lexemes as an indented block. -/
def wholeBlock (depth : Nat) : Reading (List Statement) := do
  indented
  let body ← statements depth
  match ← next with
  | .dedent => skip
  | _ => fail
  finished
  return body

/-- The words of coroutines, generators and contexts. -/
def unmodelledWords : List String := ["async", "await", "with", "yield"]

/-- Escapes by name, and those that stand for halves of surrogate pairs. -/
def unmodelledEscapes : List String := ["\\N", "\\ud", "\\uD", "\\U0000d", "\\U0000D"]

/-- Whether lexemes may belong to parts of the language that are not modelled: coroutines, generators, contexts,
patterns, groups of exceptions, imports from packages, and texts of bytes. -/
def mayBeUnmodelled : List Lexeme → Bool
  | [] => false
  | lexeme :: rest =>
    mayBeUnmodelled rest ||
      match lexeme, rest with
      | .keyword "except", .mark "*" :: _ => true
      | .keyword "from", .mark "." :: _ | .keyword "from", .mark "..." :: _ => true
      | .keyword word, _ => unmodelledWords.contains word
      | .name name, .literal _ :: _ => ["b", "br", "rb"].contains name.toLower
      | .name name, _ => name == "match"
      | .literal literal, _ => literal.hasFields && Text.containsOneOf unmodelledWords literal.body
      | _, _ => false

/-- Whether a numeral of an imaginary number may stand in a text. -/
def mayHoldImaginary : List Char → Bool
  | c :: d :: rest => ((Decimal.isPlainDigit c || c == '.') && (d == 'j' || d == 'J')) || mayHoldImaginary (d :: rest)
  | _ => false

/-- Read characters, which must not hold the null character. -/
def readWhole {α : Type} (reading : Reading α) (chars : List Char) : Except Flaw α :=
  if chars.contains '\x00' then .error .nullCharacter
  else
    let found := lexemes (Text.unifyLineEnds chars)
    match reading found with
    | .ok (value, _) => .ok value
    | .error flaw =>
      let mayBeScript := mayBeUnmodelled found || mayHoldImaginary chars
        || Text.containsOneOf unmodelledEscapes chars
      .error (if mayBeScript then .unmodelled else flaw)

/-- Read one expression. -/
def readExpression (chars : List Char) : Except Flaw Expr :=
  readWhole (wholeExpression maxDescent) chars

/-- Read a block that has been dedented. Its expressions lie two steps deeper than one on its own. -/
def readIndented (chars : List Char) : Except Flaw (List Statement) :=
  readWhole (wholeBlock (maxDescent + 2)) (indent chars ++ ['\n'])

/-- Read a block. When its margins do not fit, its first line is taken to stand apart from the others. -/
def readBlock (chars : List Char) : Except Flaw (List Statement) :=
  let chars := trimLines chars
  match readIndented (dedent chars) with
  | .error .indentation | .error .tabs => readIndented (dedentRest chars)
  | result => result

end Linework.Script
