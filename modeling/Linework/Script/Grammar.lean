import Linework.Script.Escape
import Linework.Script.Reading

/-!
# The grammar of expressions

Expressions are read by descent, one function for each level of binding strength. The number that each
function takes bounds how deep the descent may go; no fragment goes as deep as `maxDescent`.
-/

namespace Linework.Script

open Reading

/-- The binary operators by binding strength, the weakest first. -/
def operatorLevels : List (List (String × BinaryOp)) := [
  [("|", .bitOr)],
  [("^", .bitXor)],
  [("&", .bitAnd)],
  [("<<", .shiftLeft), (">>", .shiftRight)],
  [("+", .add), ("-", .sub)],
  [("*", .mul), ("/", .div), ("//", .floorDiv), ("%", .mod), ("@", .matMul)]]

/-- The operators before a value. -/
def unaryMarks : List (String × UnaryOp) := [("+", .plus), ("-", .minus), ("~", .invert)]

/-- The comparisons that are marks. -/
def comparisonMarks : List (String × Comparison) := [
  ("==", .eq), ("!=", .ne), ("<", .lt), ("<=", .le), (">", .gt), (">=", .ge)]

/-- The comparison that comes next, if one does. -/
def takeComparison : Reading (Option Comparison) := do
  match ← takeOperator comparisonMarks with
  | some comparison => return some comparison
  | none =>
    if ← takeWord "in" then return some .isIn
    else if ← takeWord "is" then
      if ← takeWord "not" then return some .isNotSame else return some .isSame
    else if ← seesWord "not" then
      match ← second with
      | .keyword "in" =>
        skip
        skip
        return some .isNotIn
      | _ => return none
    else return none

/-- What a sequence of items consists of. -/
inductive ItemKind where
  | plain
  /-- Items may be starred. -/
  | star
  /-- Items may be starred, or bind a name. -/
  | display
  /-- Targets of a loop, which end before `in`. -/
  | target
  /-- Indices, which may be slices. -/
  | index
deriving DecidableEq

/-- Whether an expression may begin with a lexeme. -/
def beginsExpr : Lexeme → Bool
  | .name _ | .int _ | .float _ | .literal _ => true
  | .mark symbol => ["(", "[", "\x7b", "+", "-", "~", "...", "*"].contains symbol
  | .keyword word => ["None", "True", "False", "not", "lambda"].contains word
  | _ => false

/-- Whether an expression may be assigned to. -/
def isTarget (depth : Nat) (expr : Expr) : Bool :=
  match depth with
  | 0 => false
  | depth + 1 =>
    match expr with
    | .name _ | .attribute .. | .item .. => true
    | .tuple items | .list items =>
      items.all (isItemTarget depth) && (items.filter isStarred).length ≤ 1
    | _ => false
where
  /-- Whether an item may be assigned to. -/
  isItemTarget (depth : Nat) : Expr → Bool
    | .starred value => isTarget depth value
    | other => isTarget depth other
  /-- Whether an item takes all values that are left. -/
  isStarred : Expr → Bool
    | .starred _ => true
    | _ => false

/-- Refuse an expression that cannot be assigned to. -/
def requireTarget (depth : Nat) (expr : Expr) : Reading Unit := do
  unless isTarget depth expr do refuse

/-- Refuse an expression that is starred on its own. -/
def requireWhole (expr : Expr) : Reading Expr := do
  match expr with
  | .starred _ => refuse
  | _ => return expr

/-- Where a parameter stands among the parameters. -/
structure ParameterScan where
  /-- Parameters before have defaults. -/
  sawDefault : Bool := false
  /-- The mark has been passed behind which parameters are given by name only. -/
  sawStar : Bool := false
  /-- A bare mark awaits a parameter. -/
  awaitsNamed : Bool := false
  /-- The parameters before the mark `/`, in reverse. -/
  sawSlash : Bool := false

/-- Make all parameters so far positional. -/
def makePositional : Parameter → Parameter
  | .mk name _ default declared => .mk name .positional default declared

/-- Refuse a name that is given twice. -/
def requireDistinct : List String → Reading Unit
  | [] => return ()
  | name :: rest => if rest.contains name then refuse else requireDistinct rest

/-- The names of the named arguments. -/
def namedArguments (arguments : List Argument) : List String :=
  arguments.filterMap fun
    | .named name _ => some name
    | _ => none

/-- Whether arguments by position may follow these arguments. -/
def allowsPositional (arguments : List Argument) : Bool :=
  arguments.all fun
    | .named .. | .unpackedNamed _ => false
    | _ => true

/-- Whether unpacked arguments may follow these arguments. -/
def allowsUnpacked (arguments : List Argument) : Bool :=
  arguments.all fun
    | .unpackedNamed _ => false
    | _ => true

mutual

/-- An expression. -/
def expression : Nat → Reading Expr
  | 0 => fail
  | depth + 1 => do
    if ← takeWord "lambda" then
      let parameters ← parameters depth ":" false
      mark ":"
      return .lambda parameters (← expression depth)
    else
      let value ← disjunction depth
      if ← takeWord "if" then
        let condition ← disjunction depth
        word "else"
        return .choice condition value (← expression depth)
      else return value

/-- An expression that may bind a name. -/
def namedExpression : Nat → Reading Expr
  | 0 => fail
  | depth + 1 => do
    match ← next, ← second with
    | .name text, .mark ":=" =>
      skip
      skip
      return .bind text (← expression depth)
    | _, _ => expression depth

/-- Values with `or` between them. -/
def disjunction : Nat → Reading Expr
  | 0 => fail
  | depth + 1 => do
    let left ← conjunction depth
    if ← takeWord "or" then return .either left (← disjunction depth) else return left

/-- Values with `and` between them. -/
def conjunction : Nat → Reading Expr
  | 0 => fail
  | depth + 1 => do
    let left ← inversion depth
    if ← takeWord "and" then return .both left (← conjunction depth) else return left

/-- A value that may be negated. -/
def inversion : Nat → Reading Expr
  | 0 => fail
  | depth + 1 => do
    if ← takeWord "not" then return .unary .not (← inversion depth)
    else
      let first ← binary depth operatorLevels
      match ← links depth with
      | [] => return first
      | links => return .compare first links

/-- The links of a chain of comparisons. -/
def links : Nat → Reading (List Link)
  | 0 => fail
  | depth + 1 => do
    match ← takeComparison with
    | some comparison =>
      let value ← binary depth operatorLevels
      return .mk comparison value :: (← links depth)
    | none => return []

/-- Values with operators of the given levels between them. -/
def binary : Nat → List (List (String × BinaryOp)) → Reading Expr
  | 0, _ => fail
  | depth + 1, [] => factor depth
  | depth + 1, level :: stronger => do
    let first ← binary depth stronger
    binaryRest depth level stronger first

/-- Further operators of a level, which bind to the left. -/
def binaryRest : Nat → List (String × BinaryOp) → List (List (String × BinaryOp)) → Expr →
    Reading Expr
  | 0, _, _, _ => fail
  | depth + 1, level, stronger, left => do
    match ← takeOperator level with
    | some op =>
      let right ← binary depth stronger
      binaryRest depth level stronger (.binary op left right)
    | none => return left

/-- A value with signs before it, or raised to a power. -/
def factor : Nat → Reading Expr
  | 0 => fail
  | depth + 1 => do
    match ← takeOperator unaryMarks with
    | some op => return .unary op (← factor depth)
    | none =>
      let base ← primary depth (← atom depth)
      if ← takeMark "**" then return .binary .pow base (← factor depth) else return base

/-- What follows a value directly: attributes, indices and calls. -/
def primary : Nat → Expr → Reading Expr
  | 0, _ => fail
  | depth + 1, value => do
    if ← takeMark "." then primary depth (.attribute value (← name))
    else if ← takeMark "(" then
      let arguments ← arguments depth []
      requireDistinct (namedArguments arguments)
      primary depth (.call value arguments)
    else if ← takeMark "[" then
      let index ← sequence depth .index
      mark "]"
      primary depth (.item value index)
    else return value

/-- The arguments of a call up to and with the closing bracket, after those already read. -/
def arguments : Nat → List Argument → Reading (List Argument)
  | 0, _ => fail
  | depth + 1, before => do
    if ← takeMark ")" then return before
    else
      let argument ← argument depth before
      closeArguments depth (before ++ [argument])

/-- Go on behind an argument. -/
def closeArguments : Nat → List Argument → Reading (List Argument)
  | 0, _ => fail
  | depth + 1, before => do
    if ← takeMark "," then arguments depth before
    else
      mark ")"
      return before

/-- An argument that follows the given ones. -/
def argument : Nat → List Argument → Reading Argument
  | 0, _ => fail
  | depth + 1, before => do
    if ← takeMark "*" then
      unless allowsUnpacked before do refuse
      return .unpacked (← expression depth)
    else if ← takeMark "**" then return .unpackedNamed (← expression depth)
    else
      match ← next, ← second with
      | .name text, .mark "=" =>
        skip
        skip
        return .named text (← expression depth)
      | _, _ =>
        let value ← namedExpression depth
        unless allowsPositional before do refuse
        if ← seesWord "for" then
          let clauses ← clauses depth
          unless before.isEmpty && (← seesMark ")") do refuse
          return .value (.comprehension .stream value none clauses)
        else return .value value

/-- The parameters before a closing mark. -/
def parameters : Nat → String → Bool → Reading (List Parameter)
  | 0, _, _ => fail
  | depth + 1, closing, annotated => do
    let read ← parametersFrom depth closing annotated {} []
    requireDistinct (read.map Parameter.name)
    return read

/-- The parameters that are left, after those already read. -/
def parametersFrom : Nat → String → Bool → ParameterScan → List Parameter →
    Reading (List Parameter)
  | 0, _, _, _, _ => fail
  | depth + 1, closing, annotated, scan, before => do
    if ← seesMark closing then
      if scan.awaitsNamed then refuse else return before
    else if ← takeMark "/" then
      if scan.sawSlash || scan.sawStar || before.isEmpty then refuse
      else nextParameter depth closing annotated { scan with sawSlash := true } (before.map makePositional)
    else if ← takeMark "**" then
      if scan.awaitsNamed then refuse
      let name ← name
      let declared ← declared depth annotated
      if ← seesMark "=" then refuse
      discard (takeMark ",")
      unless ← seesMark closing do fail
      return before ++ [.mk name .namedRest none declared]
    else if ← takeMark "*" then
      if scan.sawStar then refuse
      else if ← takeMark "," then
        parametersFrom depth closing annotated { scan with sawStar := true, awaitsNamed := true } before
      else
        let name ← name
        let declared ← declared depth annotated
        nextParameter depth closing annotated { scan with sawStar := true }
          (before ++ [.mk name .rest none declared])
    else
      let name ← name
      let declared ← declared depth annotated
      let kind : ParameterKind := if scan.sawStar then .named else .either
      if ← takeMark "=" then
        let default ← expression depth
        nextParameter depth closing annotated
          { scan with sawDefault := scan.sawDefault || !scan.sawStar, awaitsNamed := false }
          (before ++ [.mk name kind (some default) declared])
      else if scan.sawDefault && !scan.sawStar then refuse
      else
        nextParameter depth closing annotated { scan with awaitsNamed := false }
          (before ++ [.mk name kind none declared])

/-- Go on behind a parameter. -/
def nextParameter : Nat → String → Bool → ParameterScan → List Parameter →
    Reading (List Parameter)
  | 0, _, _, _, _ => fail
  | depth + 1, closing, annotated, scan, before => do
    if ← takeMark "," then parametersFrom depth closing annotated scan before
    else
      unless ← seesMark closing do fail
      if scan.awaitsNamed then refuse else return before

/-- The annotation of a parameter, where there may be one. -/
def declared : Nat → Bool → Reading (Option Expr)
  | 0, _ => fail
  | depth + 1, annotated => do
    if annotated then
      if ← takeMark ":" then return some (← expression depth) else return none
    else return none

/-- An item of a sequence. -/
def item : Nat → ItemKind → Reading Expr
  | 0, _ => fail
  | depth + 1, kind => do
    let starred ← if kind == .plain then pure false else takeMark "*"
    if starred then return .starred (← binary depth operatorLevels)
    else
      match kind with
      | .plain | .star => expression depth
      | .display => namedExpression depth
      | .target => binary depth operatorLevels
      | .index => index depth

/-- An index or a slice. -/
def index : Nat → Reading Expr
  | 0 => fail
  | depth + 1 => do
    let start ← if ← seesMark ":" then pure none else some <$> namedExpression depth
    if ← takeMark ":" then
      let stop ← bound depth
      let step ← if ← takeMark ":" then bound depth else pure none
      return .slice start stop step
    else
      match start with
      | some value => return value
      | none => fail

/-- A bound of a slice, which may be left out. -/
def bound : Nat → Reading (Option Expr)
  | 0 => fail
  | depth + 1 => do
    if beginsExpr (← next) then return some (← expression depth) else return none

/-- Items with commas between them, after those already read; the last comma may stand alone. -/
def items : Nat → ItemKind → List Expr → Reading (List Expr)
  | 0, _, _ => fail
  | depth + 1, kind, before => do
    if ← takeMark "," then
      let ahead ← next
      let slice ← if kind == .index then seesMark ":" else pure false
      if beginsExpr ahead || slice then items depth kind (before ++ [← item depth kind])
      else return before
    else return before

/-- One item, or a sequence of items with commas between them. -/
def sequence : Nat → ItemKind → Reading Expr
  | 0, _ => fail
  | depth + 1, kind => do
    let first ← item depth kind
    if ← seesMark "," then return .tuple (← items depth kind [first])
    else
      match kind, first with
      | .index, .starred _ => return .tuple [first]
      | _, _ => requireWhole first

/-- The clauses of a comprehension. -/
def clauses : Nat → Reading (List Clause)
  | 0 => fail
  | depth + 1 => do
    if ← takeWord "for" then
      let target ← sequence depth .target
      requireTarget depth target
      word "in"
      let source ← disjunction depth
      let conditions ← conditions depth
      return .mk target source conditions :: (← clauses depth)
    else return []

/-- The conditions of a clause. -/
def conditions : Nat → Reading (List Expr)
  | 0 => fail
  | depth + 1 => do
    if ← takeWord "if" then
      let condition ← disjunction depth
      return condition :: (← conditions depth)
    else return []

/-- A value without anything before or behind it. -/
def atom : Nat → Reading Expr
  | 0 => fail
  | depth + 1 => do
    match ← next with
    | .name text =>
      skip
      return .name text
    | .int value =>
      skip
      return .int value
    | .float value =>
      skip
      return .float value
    | .literal _ => literals depth []
    | .keyword "None" =>
      skip
      return .null
    | .keyword "True" =>
      skip
      return .bool true
    | .keyword "False" =>
      skip
      return .bool false
    | .mark symbol =>
      if symbol == "..." then
        skip
        return .ellipsis
      else if symbol == "(" then
        skip
        parenthesized depth
      else if symbol == "[" then
        skip
        listDisplay depth
      else if symbol == "\x7b" then
        skip
        braced depth
      else fail
    | _ => fail

/-- A tuple, a stream or a value in parentheses. -/
def parenthesized : Nat → Reading Expr
  | 0 => fail
  | depth + 1 => do
    if ← takeMark ")" then return .tuple []
    else
      let first ← item depth .display
      if ← seesWord "for" then
        let first ← requireWhole first
        let clauses ← clauses depth
        mark ")"
        return .comprehension .stream first none clauses
      else if ← seesMark "," then
        let items ← items depth .display [first]
        mark ")"
        return .tuple items
      else
        mark ")"
        requireWhole first

/-- A list or a comprehension of one. -/
def listDisplay : Nat → Reading Expr
  | 0 => fail
  | depth + 1 => do
    if ← takeMark "]" then return .list []
    else
      let first ← item depth .display
      if ← seesWord "for" then
        let first ← requireWhole first
        let clauses ← clauses depth
        mark "]"
        return .comprehension .list first none clauses
      else
        let items ← items depth .display [first]
        mark "]"
        return .list items

/-- A map, a set or a comprehension of one. -/
def braced : Nat → Reading Expr
  | 0 => fail
  | depth + 1 => do
    if ← takeMark "\x7d" then return .dict []
    else if ← seesMark "**" then
      let entries ← entries depth []
      mark "\x7d"
      return .dict entries
    else
      let first ← item depth .display
      if ← takeMark ":" then
        let first ← requireWhole first
        let value ← expression depth
        if ← seesWord "for" then
          let clauses ← clauses depth
          mark "\x7d"
          return .comprehension .dict first (some value) clauses
        else
          let entries ← moreEntries depth [.entry first value]
          mark "\x7d"
          return .dict entries
      else if ← seesWord "for" then
        let first ← requireWhole first
        let clauses ← clauses depth
        mark "\x7d"
        return .comprehension .set first none clauses
      else
        let items ← items depth .display [first]
        mark "\x7d"
        return .set items

/-- The entries of a map, after those already read. -/
def entries : Nat → List DictItem → Reading (List DictItem)
  | 0, _ => fail
  | depth + 1, before => do
    if ← takeMark "**" then
      let map ← binary depth operatorLevels
      moreEntries depth (before ++ [.unpacked map])
    else
      let key ← expression depth
      mark ":"
      let value ← expression depth
      moreEntries depth (before ++ [.entry key value])

/-- Go on behind an entry of a map. -/
def moreEntries : Nat → List DictItem → Reading (List DictItem)
  | 0, _ => fail
  | depth + 1, before => do
    if ← takeMark "," then
      let ahead ← next
      let unpacked ← seesMark "**"
      if beginsExpr ahead || unpacked then entries depth before else return before
    else return before

/-- Literals that stand next to each other, which make one text, after the parts already read. -/
def literals : Nat → List Part → Reading Expr
  | 0, _ => fail
  | depth + 1, before => do
    match ← next with
    | .literal value =>
      let parts ←
        if value.hasFields then
          match parts? value.isRaw value.body with
          | some raw => fields depth raw
          | none => refuse
        else
          match unescape? value.isRaw value.body with
          | some text => pure [.text text]
          | none => refuse
      skip
      literals depth (before ++ parts)
    | _ => return joined before
where
  /-- The expression of parts: a text if none of them is a field. -/
  joined (parts : List Part) : Expr :=
    match plainText? parts with
    | some text => .text text
    | none => .layout parts
  /-- The text of parts none of which is a field. -/
  plainText? : List Part → Option String
    | [] => some ""
    | .text text :: rest => (plainText? rest).map (text ++ ·)
    | .field .. :: _ => none

/-- Read the expressions of the parts of a literal. -/
def fields : Nat → List RawPart → Reading (List Part)
  | 0, _ => fail
  | _ + 1, [] => return []
  | depth + 1, .text text :: rest => return .text text :: (← fields depth rest)
  | depth + 1, .field source shown conversion spec :: rest => do
    let value ←
      if source.all isFieldBlank then refuse
      else
        match (sequence depth .star).run (lexemes ('(' :: source ++ [')'])) with
        | .ok (value, _) => pure value
        | .error _ => refuse
    let spec ← fields depth spec
    let conversion : Conversion :=
      match conversion with
      | none => .none
      | some 's' => .plain
      | some 'a' => .asciiSource
      | some _ => .source
    let before : List Part :=
      match shown with
      | some text => [.text text]
      | none => []
    return before ++ .field value conversion spec :: (← fields depth rest)

end

/-- A descent that no fragment exceeds. -/
def maxDescent : Nat := Nat.pow 2 40

end Linework.Script
