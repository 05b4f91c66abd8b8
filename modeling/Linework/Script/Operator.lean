import Linework.Decimal.Exact
import Linework.Script.Compare

/-!
# Operators

The operators on numbers and sequences. Integers are exact; where a float takes part, integers become
floats first.
-/

namespace Linework.Script

open Linework.Decimal

/-- The symbol of an operator, as failures mention it; `inPlace` when it is part of an assignment. -/
def BinaryOp.symbol (inPlace : Bool) (op : BinaryOp) : String :=
  let symbol :=
    match op with
    | .add => "+"
    | .sub => "-"
    | .mul => "*"
    | .div => "/"
    | .floorDiv => "//"
    | .mod => "%"
    | .pow => if inPlace then "**" else "** or pow()"
    | .matMul => "@"
    | .shiftLeft => "<<"
    | .shiftRight => ">>"
    | .bitAnd => "&"
    | .bitOr => "|"
    | .bitXor => "^"
  if inPlace then symbol ++ "=" else symbol

/-! ### Integers -/

/-- The conjunction of the binary digits of two integers, negative ones in two's complement. -/
def intAnd (a b : Int) : Int :=
  match a, b with
  | .ofNat m, .ofNat n => ((m &&& n : Nat) : Int)
  | .ofNat m, .negSucc n => ((m ^^^ (m &&& n) : Nat) : Int)
  | .negSucc m, .ofNat n => ((n ^^^ (n &&& m) : Nat) : Int)
  | .negSucc m, .negSucc n => .negSucc (m ||| n)

/-- The complement of the binary digits of an integer. -/
def intNot (a : Int) : Int := -a - 1

/-- The disjunction of the binary digits of two integers. -/
def intOr (a b : Int) : Int := intNot (intAnd (intNot a) (intNot b))

/-- The digits in which two integers differ. -/
def intXor (a b : Int) : Int := intOr a b - intAnd a b

/-- The most binary digits of an integer that is computed. -/
def maxBits : Nat := Nat.pow 2 26

/-- How many binary digits an integer has. -/
def bitLength (n : Int) : Nat :=
  if n == 0 then 0 else n.natAbs.log2 + 1

/-- Shift an integer. -/
def shiftInt (left : Bool) (a b : Int) : Except Failure Int :=
  if b < 0 then .error Failure.negativeShift
  else if left then
    if a == 0 then .ok 0
    else if bitLength a + b.toNat > maxBits then .error Failure.unknown
    else .ok (a * Nat.pow 2 b.toNat)
  else if b.toNat > bitLength a then .ok (if a < 0 then -1 else 0)
  else .ok (a.fdiv (Nat.pow 2 b.toNat))

/-! ### Numbers -/

/-- A number as a float. -/
def numberToFloat : Number → Except Failure Float
  | .float x => .ok x
  | .int n =>
    let x := ofInt n
    if x.isInf then .error Failure.intTooLarge else .ok x

/-- Whether a float is an odd integer. -/
def isOddInteger (x : Float) : Bool :=
  isWhole x && truncate x % 2 != 0

/-- A float raised to a float. -/
def floatPower (x y : Float) : Except Failure Float :=
  if y == 0 then .ok 1.0
  else if x.isNaN then .ok x
  else if y.isNaN then .ok (if x == 1.0 then 1.0 else y)
  else if y.isInf then
    let size := x.abs
    if size == 1.0 then .ok 1.0
    else if (y > 0) == (size > 1.0) then .ok y.abs
    else .ok 0.0
  else if x.isInf then
    let odd := isOddInteger y
    if y > 0 then .ok (if odd then x else x.abs)
    else .ok (if odd then signedZero x else 0.0)
  else if x == 0 then
    if y < 0 then .error (Failure.zeroDivision "0.0 cannot be raised to a negative power")
    else .ok (if isOddInteger y then x else 0.0)
  else if x < 0 && !isWhole y then .error Failure.unknown
  else
    let size := x.abs
    let power := if size == 1.0 then 1.0 else size.pow y
    let power := if x < 0 && isOddInteger y then -power else power
    if power.isInf then .error Failure.floatRange else .ok power

/-- A number raised to a number. -/
def numberPower (a b : Number) : Except Failure Value :=
  match a, b with
  | .int a, .int b =>
    if b < 0 then do
      return .float (← floatPower (← numberToFloat (.int a)) (← numberToFloat (.int b)))
    else if a.natAbs ≤ 1 then
      .ok (.int (if a == 1 || b == 0 then 1 else if a == 0 then 0 else if b % 2 == 0 then 1 else -1))
    else if bitLength a * b.toNat > 2 * maxBits then .error Failure.unknown
    else .ok (.int (Int.pow a b.toNat))
  | a, b => do return .float (← floatPower (← numberToFloat a) (← numberToFloat b))

/-- The quotient of two numbers, which is a float. -/
def numberQuotient (a b : Number) : Except Failure Value :=
  match a, b with
  | .int a, .int b =>
    if b == 0 then .error (Failure.zeroDivision "division by zero")
    else
      let x := ofRatio ((a < 0) != (b < 0)) a.natAbs b.natAbs
      if x.isInf then .error Failure.quotientTooLarge else .ok (.float x)
  | a, b => do
    let x ← numberToFloat a
    let y ← numberToFloat b
    if y == 0 then .error (Failure.zeroDivision "float division by zero")
    else return .float (x / y)

/-- How often a number goes into another, rounded down. -/
def numberFloorDiv (a b : Number) : Except Failure Value :=
  match a, b with
  | .int a, .int b =>
    if b == 0 then .error (Failure.zeroDivision "integer division or modulo by zero")
    else .ok (.int (a.fdiv b))
  | a, b => do
    let x ← numberToFloat a
    let y ← numberToFloat b
    if y == 0 then .error (Failure.zeroDivision "float floor division by zero")
    else return .float (divideDown x y).1

/-- What is left of a number, with the sign of the divisor. -/
def numberMod (a b : Number) : Except Failure Value :=
  match a, b with
  | .int a, .int b =>
    if b == 0 then .error (Failure.zeroDivision "integer modulo by zero")
    else .ok (.int (a.fmod b))
  | a, b => do
    let x ← numberToFloat a
    let y ← numberToFloat b
    if y == 0 then .error (Failure.zeroDivision "float modulo")
    else
      let left := remainder x y
      if left != 0 then return .float (if (y < 0) != (left < 0) then left + y else left)
      else return .float (signedZero y)

/-- Apply an operation: exactly if both numbers are integers, else on floats. -/
def onNumbers (ints : Int → Int → Int) (floats : Float → Float → Float) (a b : Number) :
    Except Failure Value :=
  match a, b with
  | .int a, .int b => .ok (.int (ints a b))
  | a, b => do return .float (floats (← numberToFloat a) (← numberToFloat b))

/-- Apply an operator to two numbers, if it takes them. -/
def numberOperator? (op : BinaryOp) (a b : Number) : Option (Except Failure Value) :=
  match op with
  | .add => some (onNumbers (· + ·) (· + ·) a b)
  | .sub => some (onNumbers (· - ·) (· - ·) a b)
  | .mul => some (onNumbers (· * ·) (· * ·) a b)
  | .div => some (numberQuotient a b)
  | .floorDiv => some (numberFloorDiv a b)
  | .mod => some (numberMod a b)
  | .pow => some (numberPower a b)
  | _ =>
    match a, b with
    | .int a, .int b =>
      match op with
      | .shiftLeft => some ((shiftInt true a b).map .int)
      | .shiftRight => some ((shiftInt false a b).map .int)
      | .bitAnd => some (.ok (.int (intAnd a b)))
      | .bitOr => some (.ok (.int (intOr a b)))
      | .bitXor => some (.ok (.int (intXor a b)))
      | _ => none
    | _, _ => none

/-- Apply an operator on binary digits to two truth values, which gives a truth value. -/
def boolOperator? (op : BinaryOp) (a b : Bool) : Option Value :=
  match op with
  | .bitAnd => some (.bool (a && b))
  | .bitOr => some (.bool (a || b))
  | .bitXor => some (.bool (a != b))
  | _ => none

/-! ### Sequences -/

/-- The most items of a sequence that is computed. -/
def maxItems : Nat := Nat.pow 2 26

/-- Repeat a sequence. -/
def repeatItems {α : Type} (items : List α) (count : Int) : Except Failure (List α) :=
  if items.length * count.toNat > maxItems then .error Failure.unknown
  else .ok (List.replicate count.toNat items).flatten

/-- A sequence: what messages call it, and its items where it is a list or a tuple. -/
inductive SequenceView where
  | text (value : String)
  | tuple (items : List Value)
  | list (items : Array Value)

/-- What messages call a sequence. -/
def SequenceView.name : SequenceView → String
  | .text _ => "str"
  | .tuple _ => "tuple"
  | .list _ => "list"

/-- The sequence that a value is, if it is one that can be joined and repeated. -/
def World.sequence? (world : World) : Value → Option SequenceView
  | .text value => some (.text value)
  | .tuple items => some (.tuple items)
  | .ref address =>
    match world.object? address with
    | some (.list items) => some (.list items)
    | _ => none
  | _ => none

namespace Run

/-- Join two sequences of one type. -/
def join (left : SequenceView) (right : Value) : Run Value := do
  let world ← get
  match left, world.sequence? right with
  | .text a, some (.text b) => return .text (a ++ b)
  | .tuple a, some (.tuple b) => return .tuple (a ++ b)
  | .list a, some (.list b) => add (.list (a ++ b))
  | _, _ => fail (Failure.cannotJoin left.name (world.typeName right))

/-- Repeat a sequence as often as a value says. -/
def repeated (sequence : SequenceView) (times : Value) : Run Value := do
  match times.index? with
  | none => fail (Failure.badRepeat (← typeName times))
  | some count =>
    match sequence with
    | .text value => return .text (String.ofList (← lift (repeatItems value.toList count)))
    | .tuple items => return .tuple (← lift (repeatItems items count))
    | .list items => list (← lift (repeatItems items.toList count))

/-- Whether an operator on values of some types is beyond what is modelled: operators on sets, and the union
of types. -/
def isUnknownOperation (op : BinaryOp) (left right : String) : Bool :=
  let ofTypes := left == "type" || right == "type"
  match op with
  | .bitOr => ofTypes || (left == "set" && right == "set")
  | .sub | .bitAnd | .bitXor => left == "set" && right == "set"
  | _ => false

/-- Refuse the operands of an operator. -/
def refuseOperands (inPlace : Bool) (op : BinaryOp) (left right : Value) : Run Value := do
  let left ← typeName left
  let right ← typeName right
  fail (if isUnknownOperation op left right then Failure.unknown
    else Failure.badOperands (op.symbol inPlace) left right)

/-- Merge a map into another. -/
def mergedMap? (left right : Value) : Run (Option (List (Value × Value))) := do
  match ← object? left, ← object? right with
  | some (.dict a), some (.dict b) =>
    let world ← get
    return some (b.foldl (fun entries (key, value) => world.putEntry entries key value) a)
  | _, _ => return none

/-- Whether the class of a value has some of the operations on sequences, and not their repetition. An
assignment with an operator then does not turn to the other operand. -/
def isUnrepeatable (value : Value) : Run Bool := do
  match value with
  | .range .. | .point .. | .foreign _ => return true
  | _ =>
    match ← object? value with
    | some (.dict _) | some (.set _) | some (.instanceOf (.ref _) ..) => return true
    | _ => return false

/-- Apply an operator to values that are not both numbers. -/
def sequenceOperator (inPlace : Bool) (op : BinaryOp) (left right : Value) : Run Value := do
  let world ← get
  match op with
  | .add =>
    match world.sequence? left with
    | some sequence => join sequence right
    | none => refuseOperands inPlace op left right
  | .mul =>
    match world.sequence? left, world.sequence? right with
    | some sequence, _ => repeated sequence right
    | none, some sequence =>
      if inPlace && (← isUnrepeatable left) then refuseOperands inPlace op left right
      else repeated sequence left
    | none, none => refuseOperands inPlace op left right
  | .bitOr =>
    match ← mergedMap? left right with
    | some entries => add (.dict entries)
    | none => refuseOperands inPlace op left right
  | _ => refuseOperands inPlace op left right

/-- Apply an operator; the filling of a text's fields by `%` is not among them. -/
def operator (inPlace : Bool) (op : BinaryOp) (left right : Value) : Run Value := do
  match left, right with
  | .bool a, .bool b =>
    match boolOperator? op a b with
    | some value => return value
    | none => numbers left right
  | _, _ => numbers left right
where
  /-- Apply an operator on numbers, or else on sequences. -/
  numbers (left right : Value) : Run Value := do
    match left.number?, right.number? with
    | some a, some b =>
      match numberOperator? op a b with
      | some result => lift result
      | none => refuseOperands inPlace op left right
    | _, _ => sequenceOperator inPlace op left right

/-- Apply a sign. -/
def signed (op : UnaryOp) (value : Value) : Run Value := do
  match op, value.number? with
  | .not, _ => return .bool (!(← get).isTruthy value)
  | .plus, some (.int n) => return .int n
  | .plus, some (.float x) => return .float x
  | .minus, some (.int n) => return .int (-n)
  | .minus, some (.float x) => return .float (-x)
  | .invert, some (.int n) => return .int (intNot n)
  | .plus, _ => fail (Failure.badOperand "+" (← typeName value))
  | .minus, _ => fail (Failure.badOperand "-" (← typeName value))
  | .invert, _ => fail (Failure.badOperand "~" (← typeName value))

end Run

end Linework.Script
