import Linework.Script.Mathematics
import Linework.Script.Method

/-!
# Built-in functions and types

What scripts can call by name without having defined it. Some functions call functions that they are
given; how to do so is their first argument.
-/

namespace Linework.Script

open Linework.Decimal Linework.Text

/-- How to call a value with arguments by position. -/
abbrev Apply := Value → List Value → Run Value

/-- The names of the built-in types. -/
def typeNames : List String := [
  "bool", "int", "float", "str", "list", "tuple", "dict", "set", "range", "object", "type", "enumerate",
  "zip", "map", "filter", "reversed"]

/-- The names of the built-in functions. -/
def functionNames : List String := [
  "abs", "all", "any", "callable", "chr", "divmod", "isinstance", "len", "max", "min", "ord", "pow", "print",
  "repr", "round", "sorted", "sum"]

/-- The built-in names that are beyond what is modelled. -/
def unknownNames : List String := [
  "BaseExceptionGroup", "BlockingIOError", "BrokenPipeError", "BytesWarning", "ChildProcessError",
  "ConnectionAbortedError", "ConnectionError", "ConnectionRefusedError", "ConnectionResetError", "Ellipsis",
  "EncodingWarning", "EnvironmentError", "ExceptionGroup", "FileExistsError", "FutureWarning", "IOError",
  "ImportWarning", "InterruptedError", "IsADirectoryError", "NotADirectoryError", "NotImplemented",
  "PendingDeprecationWarning", "ProcessLookupError", "ResourceWarning", "SyntaxWarning",
  "UnicodeDecodeError", "UnicodeEncodeError", "UnicodeTranslateError", "UnicodeWarning", "__build_class__",
  "__debug__", "__doc__", "__import__", "__loader__", "__name__", "__package__", "__spec__", "__builtins__",
  "aiter", "anext", "ascii", "bin", "breakpoint", "bytearray", "bytes", "classmethod", "compile", "complex",
  "delattr", "dir", "eval", "exec", "exit", "format", "frozenset", "getattr",
  "globals", "hasattr", "hash", "help", "hex", "id", "input", "issubclass", "iter", "locals",
  "memoryview", "next", "oct", "open", "property", "quit", "setattr", "slice", "staticmethod", "super",
  "vars"]

/-- What a name stands for that scripts have not bound. -/
def builtin? (name : String) : Option Value :=
  if typeNames.contains name || isKnownKind name then some (.type name)
  else if functionNames.contains name then some (.primitive name)
  else none

/-- The arguments of a call. -/
structure Arguments where
  positional : List Value
  named : List (String × Value) := []

namespace Builtin

open Run

/-- Refuse arguments by name. -/
def noNamed (name : String) (arguments : Arguments) : Run Unit := do
  unless arguments.named.isEmpty do fail (Failure.takesNoNamed name)

/-- The only argument of a function. -/
def one (name : String) (arguments : Arguments) : Run Value := do
  noNamed name arguments
  match arguments.positional with
  | [value] => return value
  | other => fail (Failure.takesOne name other.length)

/-- The argument of a function that may be left out. -/
def atMostOne (name : String) (arguments : Arguments) : Run (Option Value) := do
  noNamed name arguments
  match arguments.positional with
  | [] => return none
  | [value] => return some value
  | other => fail (Failure.expectedAtMost name 1 other.length)

/-- Refuse names of arguments that a function does not know. -/
def knownNames (name : String) (known : List String) (arguments : Arguments) : Run Unit := do
  match arguments.named.find? fun (given, _) => !known.contains given with
  | some (given, _) => fail (Failure.invalidNamed name given)
  | none => return ()

/-! ### Numbers -/

/-- The value of a digit in any base, or more than any base. -/
def anyDigit (c : Char) : Nat :=
  match digitValue? c with
  | some value => value
  | none =>
    if 'a' ≤ c && c ≤ 'z' then c.toNat - 87 else if 'A' ≤ c && c ≤ 'Z' then c.toNat - 55 else 99

/-- The digits behind the mark of a base. -/
def dropBaseMark (base : Nat) (chars : List Char) : Nat × List Char :=
  let mark : Nat :=
    match chars with
    | '0' :: c :: _ =>
      if c == 'x' || c == 'X' then 16 else if c == 'o' || c == 'O' then 8
      else if c == 'b' || c == 'B' then 2 else 0
    | _ => 0
  if mark != 0 && (base == 0 || base == mark) then
    let rest := chars.drop 2
    (mark, if rest.head? == some '_' then rest.drop 1 else rest)
  else (if base == 0 then 10 else base, chars)

/-- Digits of a base with single underscores between them, or nothing. -/
def cleanDigits? (base : Nat) (afterDigit : Bool) : List Char → Option (List Nat)
  | [] => if afterDigit then some [] else none
  | '_' :: rest => if afterDigit then cleanDigits? base false rest else none
  | c :: rest =>
    if anyDigit c < base then (cleanDigits? base true rest).map (anyDigit c :: ·) else none

/-- Read a text as an integer of a base; base zero stands for the base that the text marks. -/
def textToInteger (text : String) (base : Nat) : Except Failure Int :=
  let (negative, chars) := takeSign (trimBy isBlankAround text.toList)
  let (found, chars) := dropBaseMark base chars
  match cleanDigits? found false chars with
  | none => .error (Failure.badInteger base text)
  | some digits =>
    let leadingZero := base == 0 && found == 10 && digits.head? == some 0 && digits.any (· != 0)
    if leadingZero then .error (Failure.badInteger base text)
    else if !([2, 4, 8, 16, 32].contains found) && maxIntegerDigits < digits.length then
      .error (Failure.tooManyDigitsRead digits.length)
    else
      let n : Nat := digits.foldl (fun n digit => n * found + digit) 0
      .ok (if negative then -(n : Int) else n)

/-- Make an integer. -/
def integer (arguments : Arguments) : Run Value := do
  let count := arguments.positional.length + arguments.named.length
  if count > 2 then fail (Failure.takesAtMost "int" 2 count)
  else
    knownNames "int" ["base"] arguments
    let base := arguments.positional[1]?.orElse fun _ => arguments.named.lookup "base"
    match arguments.positional.head?, base with
    | none, none => return .int 0
    | none, some _ => fail (Failure.typeError "int() missing string argument")
    | some value, some base =>
      match base.index?, value with
      | none, _ => fail (Failure.notInteger (← typeName base))
      | some base, value =>
        if base < 0 || base == 1 || base > 36 then
          fail (Failure.valueError "int() base must be >= 2 and <= 36, or 0")
        else
          match value with
          | .text text => return .int (← lift (textToInteger text base.toNat))
          | _ => fail (Failure.typeError "int() can't convert non-string with explicit base")
    | some (.text text), none => return .int (← lift (textToInteger text 10))
    | some value, none =>
      match value.number? with
      | some (.int n) => return .int n
      | some (.float x) =>
        if x.isNaN then fail Failure.nanInteger
        else if x.isInf then fail Failure.infiniteInteger
        else return .int (truncate x)
      | none => fail (Failure.noInteger (← typeName value))

/-- Make a float. -/
def float (arguments : Arguments) : Run Value := do
  match ← atMostOne "float" arguments with
  | none => return .float 0.0
  | some (.text text) =>
    match readFloat? text with
    | some x => return .float x
    | none => fail (Failure.badFloat text)
  | some value =>
    match value.number? with
    | some number => return .float (← lift (numberToFloat number))
    | none => fail (Failure.noFloat (← typeName value))

/-- The magnitude of a number. -/
def absolute (arguments : Arguments) : Run Value := do
  let value ← one "abs" arguments
  match value.number? with
  | some (.int n) => return .int n.natAbs
  | some (.float x) => return .float x.abs
  | none => fail (Failure.typeError ("bad operand type for abs(): '" ++ (← typeName value) ++ "'"))

/-- An integer rounded to tens, hundreds and so on, a half to the even multiple. -/
def roundInt (n : Int) (zeros : Nat) : Int :=
  let unit : Nat := Nat.pow 10 zeros
  let rounded : Int := (roundDivEven n.natAbs unit * unit : Nat)
  if n < 0 then -rounded else rounded

/-- Round a number, to an integer or to a number of places. -/
def round (arguments : Arguments) : Run Value := do
  let count := arguments.positional.length + arguments.named.length
  if count > 2 then fail (Failure.takesAtMost "round" 2 count)
  else
    let number := arguments.positional.head?.orElse fun _ => arguments.named.lookup "number"
    let places := (arguments.positional[1]?.orElse fun _ => arguments.named.lookup "ndigits").getD .null
    match number with
    | none => fail (Failure.missingBuiltin "round" "number" 1)
    | some value =>
      knownNames "round" ["number", "ndigits"] arguments
      match value.number?, places with
      | none, _ =>
        fail (Failure.typeError ("type " ++ (← typeName value) ++ " doesn't define __round__ method"))
      | some (.int n), .null => return .int n
      | some (.float x), .null =>
        if x.isNaN then fail Failure.nanInteger
        else if x.isInf then fail Failure.infiniteInteger
        else return .int (nearestInt x)
      | some number, places =>
        match places.index?, number with
        | none, _ => fail (Failure.notInteger (← typeName places))
        | some places, .int n =>
          return .int (if places ≥ 0 then n else roundInt n (min places.natAbs 100000))
        | some places, .float x =>
          let rounded := roundPlaces x places
          if rounded.isInf && x.isFinite then
            fail (Failure.ofMessage "OverflowError" "rounded value too large to represent")
          else return .float rounded

/-- The quotient and the remainder of two values. -/
def quotientAndRest (arguments : Arguments) : Run Value := do
  noNamed "divmod" arguments
  match arguments.positional with
  | [left, right] =>
    match left.number?, right.number? with
    | some (.int a), some (.int b) =>
      if b == 0 then fail (Failure.zeroDivision "integer division or modulo by zero")
      else return .tuple [.int (a.fdiv b), .int (a.fmod b)]
    | some a, some b =>
      let x ← lift (numberToFloat a)
      let y ← lift (numberToFloat b)
      if y == 0 then fail (Failure.zeroDivision "float divmod()")
      else return .tuple [.float (divideDown x y).1, ← lift (numberMod (.float x) (.float y))]
    | _, _ => fail (Failure.badOperands "divmod()" (← typeName left) (← typeName right))
  | other => fail (Failure.expectedCount "divmod" 2 other.length)

/-- Raise a value to a power, perhaps within the remainders of a third. -/
def power (arguments : Arguments) : Run Value := do
  unless arguments.named.isEmpty do fail Failure.unknown
  match arguments.positional with
  | [base, exponent] => operator false .pow base exponent
  | [base, exponent, .null] => operator false .pow base exponent
  | [base, exponent, modulus] =>
    match base.index?, exponent.index?, modulus.index? with
    | some base, some exponent, some modulus =>
      if exponent < 0 || modulus == 0 || bitLength base * exponent.toNat > maxBits then fail Failure.unknown
      else return .int ((Int.pow base exponent.toNat).fmod modulus)
    | _, _, _ => fail Failure.unknown
  | other =>
    if other.length > 3 then fail (Failure.takesAtMost "pow" 3 other.length)
    else fail (Failure.missingBuiltin "pow" (if other.isEmpty then "base" else "exp") (other.length + 1))

/-! ### Sequences -/

/-- Make a range. -/
def range (arguments : Arguments) : Run Value := do
  noNamed "range" arguments
  let count := arguments.positional.length
  if count == 0 then fail (Failure.expectedAtLeast "range" 1 0)
  if count > 3 then fail (Failure.expectedAtMost "range" 3 count)
  let bounds ← arguments.positional.mapM fun value => do
    match value.index? with
    | some n => return n
    | none => fail (Failure.notInteger (← typeName value))
  match bounds with
  | [start, stop] => return .range start stop 1
  | [start, stop, step] =>
    if step == 0 then fail Failure.zeroRangeStep else return .range start stop step
  | _ => return .range 0 (bounds.headD 0) 1

/-- Put a value into the sorted front part of an array, behind all items that are not greater: the place,
found between `low` and `high` in at most `steps` steps. -/
def insertionPlace (less : Value → Value → Run Bool) (items : Array (Value × Value)) (key : Value) :
    Nat → Nat → Nat → Run Nat
  | 0, low, _ => return low
  | steps + 1, low, high => do
    if low < high then
      let middle := low + (high - low) / 2
      match items[middle]? with
      | some (other, _) =>
        if ← less key other then insertionPlace less items key steps low middle
        else insertionPlace less items key steps (middle + 1) high
      | none => return low
    else return low

/-- How long the run is in which each item compares with the one before it as given. -/
def runLength (less : Value → Value → Run Bool) (descending : Bool) (previous : Value) :
    List (Value × Value) → Run Nat
  | [] => return 0
  | (key, _) :: rest => do
    if (← less key previous) == descending then
      return (← runLength less descending key rest) + 1
    else return 0

/-- Insert items into a sorted array one after the other. -/
def insertAll (less : Value → Value → Run Bool) (sorted : Array (Value × Value)) :
    List (Value × Value) → Run (Array (Value × Value))
  | [] => return sorted
  | (key, value) :: rest => do
    let place ← insertionPlace less sorted key (sorted.size + 1) 0 sorted.size
    insertAll less (sorted.insertIdx! place (key, value)) rest

/-- Sort items by their keys; items with equal keys keep their order. The run that the items begin with
is taken as it is, or reversed when each of its keys is less than the one before. -/
def sortByKey (less : Value → Value → Run Bool) (items : List (Value × Value)) :
    Run (List (Value × Value)) := do
  match items with
  | first :: second :: rest =>
    let descending ← less second.1 first.1
    let count := (← runLength less descending second.1 rest) + 2
    let start := items.take count
    let start := if descending then start.reverse else start
    return (← insertAll less start.toArray (items.drop count)).toList
  | _ => return items

/-- Whether a value is less than another. -/
def less (first second : Value) : Run Bool := do
  lift ((← get).ordered .lt first second)

/-- The keys of items: the items themselves, or what a function makes of them. -/
def keyed (apply : Apply) (key : Value) (items : List Value) : Run (List (Value × Value)) := do
  match key with
  | .null => return items.map fun item => (item, item)
  | _ => items.mapM fun item => do return (← apply key [item], item)

/-- A sorted list of the items of a value. -/
def sorted (apply : Apply) (arguments : Arguments) : Run Value := do
  match arguments.positional with
  | [value] =>
    let items ← itemsOf value
    knownNames "sort" ["key", "reverse"] arguments
    let reverse := (← indexArgument ((arguments.named.lookup "reverse").getD (.bool false))) != 0
    let items := if reverse then items.reverse else items
    let keys ← keyed apply ((arguments.named.lookup "key").getD .null) items
    let result := (← sortByKey less keys).map (·.2)
    list (if reverse then result.reverse else result)
  | other => fail (Failure.expectedCount "sorted" 1 other.length)

/-- The first item whose key no other key exceeds in the given direction. -/
def extremeOf (comparison : Comparison) (best : Value × Value) : List (Value × Value) → Run Value
  | [] => return best.2
  | item :: rest => do
    let better ← lift ((← get).ordered comparison item.1 best.1)
    extremeOf comparison (if better then item else best) rest

/-- The greatest or the least of some values. -/
def extreme (apply : Apply) (name : String) (comparison : Comparison) (arguments : Arguments) :
    Run Value := do
  if arguments.positional.isEmpty then fail (Failure.expectedAtLeast name 1 0)
  knownNames name ["key", "default"] arguments
  let key := (arguments.named.lookup "key").getD .null
  let default := arguments.named.lookup "default"
  match arguments.positional with
  | [value] =>
    match ← keyed apply key (← itemsOf value), default with
    | best :: rest, _ => extremeOf comparison best rest
    | [], some value => return value
    | [], none => fail (Failure.valueError (name ++ "() arg is an empty sequence"))
  | values =>
    if default.isSome then
      fail (Failure.typeError ("Cannot specify a default for " ++ name
        ++ "() with multiple positional arguments"))
    else
      match ← keyed apply key values with
      | best :: rest => extremeOf comparison best rest
      | [] => return .null

/-- Add up the items of a value. -/
def sum (arguments : Arguments) : Run Value := do
  let count := arguments.positional.length + arguments.named.length
  match arguments.positional with
  | [] => fail (Failure.takesAtLeastPositional "sum" 1 0)
  | value :: rest =>
    if count > 2 then fail (Failure.takesAtMost "sum" 2 count)
    else
      knownNames "sum" ["start"] arguments
      let start := (rest.head?.orElse fun _ => arguments.named.lookup "start").getD (.int 0)
      let items ← itemsOf value
      match start with
      | .text _ => fail (Failure.typeError "sum() can't sum strings [use ''.join(seq) instead]")
      | _ => items.foldlM (operator false .add) start

/-- The entries of a map made from a map or pairs, and from named arguments. -/
def mapEntries (arguments : Arguments) : Run (List (Value × Value)) := do
  match arguments.positional with
  | [] => putEntries [] (namedEntries arguments.named)
  | [value] => putEntries [] ((← entriesOf value) ++ namedEntries arguments.named)
  | other => fail (Failure.expectedAtMost "dict" 1 other.length)

/-- The items of an argument that may be left out. -/
def optionalItems (name : String) (arguments : Arguments) : Run (List Value) := do
  match ← atMostOne name arguments with
  | some value => itemsOf value
  | none => return []

/-! ### Texts -/

/-- Make a text. -/
def text (arguments : Arguments) : Run Value := do
  let count := arguments.positional.length + arguments.named.length
  if count > 3 then fail (Failure.takesAtMost "str" 3 count)
  else
    knownNames "str" ["object", "encoding", "errors"] arguments
    match arguments.positional.head?.orElse fun _ => arguments.named.lookup "object" with
    | none => return .text ""
    | some value =>
      if count > 1 then fail Failure.unknown else return .text (← lift ((← get).plain value))

/-- What stands between or behind printed values. -/
def printMark (name default : String) (arguments : Arguments) : Run String := do
  match arguments.named.lookup name with
  | none | some .null => return default
  | some (.text text) => return text
  | some value =>
    fail (Failure.typeError (name ++ " must be None or a string, not " ++ (← typeName value)))

/-- Print values. -/
def print (arguments : Arguments) : Run Value := do
  knownNames "print" ["sep", "end", "file", "flush"] arguments
  let between ← printMark "sep" " " arguments
  let behind ← printMark "end" "\n" arguments
  let texts ← arguments.positional.mapM fun value => do lift ((← get).plain value)
  modify fun world =>
    { world with printed := world.printed.push (between.intercalate texts ++ behind) }
  return .null

/-- The code of a character. -/
def codeOf (arguments : Arguments) : Run Value := do
  let value ← one "ord" arguments
  match value with
  | .text text =>
    match text.toList with
    | [c] => return .int c.toNat
    | chars =>
      fail (Failure.typeError ("ord() expected a character, but string of length "
        ++ natText chars.length ++ " found"))
  | _ =>
    fail (Failure.typeError ("ord() expected string of length 1, but " ++ (← typeName value) ++ " found"))

/-- The character of a code. -/
def charOf (arguments : Arguments) : Run Value := do
  let value ← one "chr" arguments
  match value.index? with
  | some n =>
    if n < -Int.pow 2 31 || Int.pow 2 31 ≤ n then
      fail (Failure.ofMessage "OverflowError" "Python int too large to convert to C int")
    else if n < 0 || 0x110000 ≤ n then fail (Failure.valueError "chr() arg not in range(0x110000)")
    -- There is no such character on its own.
    else if 0xd800 ≤ n && n ≤ 0xdfff then fail Failure.unknown
    else return .text (String.singleton (Char.ofNat n.toNat))
  | none => fail (Failure.notInteger (← typeName value))

/-! ### Classes -/

/-- The class of a value, as a value. -/
def classOf (value : Value) : Run Value := do
  match ← object? value with
  | some (.instanceOf cls ..) => return cls
  | _ => return .type (← typeName value)

/-- The types that the class of a value is or belongs to, by name. -/
def isBuiltinInstance (world : World) (value : Value) (name : String) : Bool :=
  let own := world.typeName value
  own == name || name == "object" || (own == "bool" && name == "int")

/-- Whether a class is or extends another, going up at most `steps` classes. -/
def isKindOf (world : World) : Nat → Value → Value → Bool
  | 0, _, _ => false
  | steps + 1, cls, other =>
    cls.same other ||
      match cls, other with
      | .type kind, .type name => kindBelongsTo kindSteps kind name || name == "object"
      | .ref address, _ =>
        match world.object? address with
        | some (.classOf _ (some base) _) => isKindOf world steps base other
        | _ => other.same (.type "object")
      | _, _ => false

/-- Whether a value is an instance of a class, or of one of a tuple of classes. -/
def isInstance (world : World) : Nat → Value → Value → Except Failure Bool
  | 0, _, _ => .error Failure.unknown
  | depth + 1, value, cls =>
    match cls with
    | .tuple classes => classes.anyM (isInstance world depth value)
    | .type name =>
      match value with
      | .ref address =>
        match world.object? address with
        | some (.instanceOf own ..) => .ok (isKindOf world World.maxClasses own cls)
        | _ => .ok (isBuiltinInstance world value name)
      | _ => .ok (isBuiltinInstance world value name)
    | .ref address =>
      match world.object? address, value with
      | some (.classOf ..), .ref instance' =>
        match world.object? instance' with
        | some (.instanceOf own ..) => .ok (isKindOf world World.maxClasses own cls)
        | _ => .ok false
      | some (.classOf ..), _ => .ok false
      | _, _ => notClass
    | _ => notClass
where
  /-- The second argument is no class. -/
  notClass : Except Failure Bool :=
    .error (Failure.typeError "isinstance() arg 2 must be a type, a tuple of types, or a union")

/-- Whether a value can be called. -/
def isCallable (value : Value) : Run Bool := do
  match value with
  | .type _ | .primitive _ | .method .. | .bound .. => return true
  | _ =>
    match ← object? value with
    | some (.function _) | some (.classOf ..) => return true
    | _ => return false

/-- Make a value of a built-in type, or an exception of a kind. What is gone through item by item while it is
made is beyond what is modelled. -/
def construct (name : String) (arguments : Arguments) : Run Value := do
  match name with
  | "bool" =>
    match ← atMostOne name arguments with
    | some value => return .bool ((← get).isTruthy value)
    | none => return .bool false
  | "int" => integer arguments
  | "float" => float arguments
  | "str" => text arguments
  | "list" => list (← optionalItems name arguments)
  | "tuple" => return .tuple (← optionalItems name arguments)
  | "set" =>
    let items ← optionalItems name arguments
    let world ← get
    items.forM fun item => lift (world.requireKey item)
    add (.set (items.foldl world.putItem []))
  | "dict" => add (.dict (← mapEntries arguments))
  | "range" => range arguments
  | "object" => add (.instanceOf (.type "object") [] [])
  | "type" =>
    match arguments.positional, arguments.named with
    | [value], [] => classOf value
    | _, _ => fail Failure.unknown
  | "enumerate" | "zip" | "map" | "filter" | "reversed" => fail Failure.unknown
  | kind =>
    noNamed kind arguments
    -- These are told by a number, and word themselves after it.
    if kindBelongsTo kindSteps kind "OSError" && arguments.positional.length > 1 then
      fail Failure.unknown
    else add (.instanceOf (.type kind) arguments.positional [])

/-- Call a built-in function. -/
def call (apply : Apply) (name : String) (arguments : Arguments) : Run Value := do
  match name with
  | "abs" => absolute arguments
  | "all" => return .bool ((← itemsOf (← one name arguments)).all (← get).isTruthy)
  | "any" => return .bool ((← itemsOf (← one name arguments)).any (← get).isTruthy)
  | "callable" => return .bool (← isCallable (← one name arguments))
  | "chr" => charOf arguments
  | "divmod" => quotientAndRest arguments
  | "isinstance" =>
    noNamed name arguments
    match arguments.positional with
    | [value, cls] => return .bool (← lift (isInstance (← get) 100 value cls))
    | other => fail (Failure.expectedCount name 2 other.length)
  | "len" => return .int (← length (← one name arguments))
  | "max" => extreme apply name .gt arguments
  | "min" => extreme apply name .lt arguments
  | "ord" => codeOf arguments
  | "pow" => power arguments
  | "print" => print arguments
  | "repr" => return .text (← lift ((← get).source (← one name arguments)))
  | "round" => round arguments
  | "sorted" => sorted apply arguments
  | "sum" => sum arguments
  | _ =>
    let short := String.ofList (name.toList.drop "math.".length)
    noNamed name arguments
    Mathematics.apply short arguments.positional

end Builtin

end Linework.Script
