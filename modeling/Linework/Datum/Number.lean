import Linework.Decimal.Reading
import Linework.Fault

/-!
# Data as numbers

Conversions of data to integers and floats, and arithmetic on data that are numbers. Truth values
count as the integers zero and one. Integers stay exact; an operation on an integer and a float first
makes a float of the integer.
-/

namespace Linework

open Linework.Decimal

/-- A number: an exact integer or a float. -/
inductive Number where
  | int (value : Int)
  | float (value : Float)

namespace Number

/-- A number as a datum. -/
def toDatum : Number → Datum
  | .int value => .int value
  | .float value => .float value

/-- The float nearest to an integer, which must not be too large. -/
def intToFloat (value : Int) : Except Fault Float :=
  let x := ofInt value
  if x.isInf then .error .integerTooLarge else .ok x

/-- A number as a float. -/
def toFloat : Number → Except Fault Float
  | .int value => intToFloat value
  | .float value => .ok value

/-- Apply an operation: on integers if both are, on floats otherwise. -/
def combine (onInts : Int → Int → Int) (onFloats : Float → Float → Float) (first second : Number) :
    Except Fault Number := do
  match first, second with
  | .int a, .int b => return .int (onInts a b)
  | _, _ => return .float (onFloats (← first.toFloat) (← second.toFloat))

/-- The magnitude of a number. -/
def magnitude : Number → Number
  | .int value => .int value.natAbs
  | .float value => .float value.abs

/-- Compare a finite float with an integer exactly. -/
def compareFloatInt (x : Float) (n : Int) : Ordering :=
  let b := Binary.ofFloat x
  let (num, den) := b.ratio
  let signed : Int := if b.negative then -(num : Int) else num
  compare signed (n * den)

/-- Whether the first number is less than the second. NaN is less than nothing. -/
def less (first second : Number) : Bool :=
  match first, second with
  | .int a, .int b => a < b
  | .float a, .float b => a < b
  | .float a, .int b =>
    if a.isNaN then false else if a.isInf then a < 0 else compareFloatInt a b == .lt
  | .int a, .float b =>
    if b.isNaN then false else if b.isInf then 0 < b else compareFloatInt b a == .gt

/-- How two numbers are ordered; not at all when one is NaN. -/
def order? (first second : Number) : Option Ordering :=
  if first.less second then some .lt
  else if second.less first then some .gt
  else
    match first, second with
    | .float a, _ => if a.isNaN then none else notNaN second
    | _, _ => notNaN second
where
  /-- Equal, unless the second number is NaN. -/
  notNaN : Number → Option Ordering
    | .float b => if b.isNaN then none else some .eq
    | .int _ => some .eq

/-- The exact quotient of two integers as a float. -/
def divideInts (a b : Int) : Except Fault Float :=
  if b == 0 then .error (.reported "ZeroDivisionError" "division by zero")
  else
    let x := ofRatio ((a < 0) != (b < 0)) a.natAbs b.natAbs
    if x.isInf then
      .error (.reported "OverflowError" "integer division result too large for a float")
    else .ok x

/-- The quotient of two numbers, always a float. -/
def divide (first second : Number) : Except Fault Float := do
  match first, second with
  | .int a, .int b => divideInts a b
  | _, _ =>
    let a ← first.toFloat
    let b ← second.toFloat
    if b == 0 then .error .divisionByZero else return a / b

/-- Round to decimal places; an integer is round already. -/
def round (places : Nat) : Number → Number
  | .int value => .int value
  | .float value => .float (roundPlaces value places)

end Number

namespace Datum

/-- A datum that is a number. -/
def number? : Datum → Option Number
  | .bool value => some (.int (if value then 1 else 0))
  | .int value => some (.int value)
  | .float value => some (.float value)
  | _ => none

/-- The integral part of a float, if it has one. -/
def floatToInt (x : Float) : Except Fault Int :=
  if x.isNaN then .error .nanInteger
  else if x.isInf then .error .infiniteInteger
  else .ok (truncate x)

/-- Read a text as an integer. -/
def textToInt (value : String) : Except Fault Int :=
  match integerDigits? value, readInt? value with
  | some (_, digits), some n =>
    if digits.length > maxIntegerDigits then .error (.tooManyDigitsRead digits.length) else .ok n
  | _, _ => .error (.badInteger value)

/-- A datum as an integer. -/
def toInteger : Datum → Except Fault Int
  | .text value => textToInt value
  | other =>
    match other.number? with
    | some (.int value) => .ok value
    | some (.float value) => floatToInt value
    | none => .error (.noInteger other.typeName)

/-- A datum as a float. -/
def toFloat : Datum → Except Fault Float
  | .text value =>
    match readFloat? value with
    | some x => .ok x
    | none => .error (.badFloat value)
  | other =>
    match other.number? with
    | some number => number.toFloat
    | none => .error (.noFloat other.typeName)

/-- The two numbers that an operator works on. -/
def operands (operator : String) (first second : Datum) : Except Fault (Number × Number) :=
  match first.number?, second.number? with
  | some a, some b => .ok (a, b)
  | _, _ => .error (.badOperands operator first.typeName second.typeName)

/-- How many items a datum has. -/
def size : Datum → Except Fault Nat
  | .list items | .tuple items => .ok items.length
  | .text value => .ok value.length
  | .dict entries => .ok entries.length
  | .tokens sequence => .ok sequence.length
  | other => .error (.noLength other.typeName)

/-- The number that a float is multiplied by. -/
def factor (value : Datum) : Except Fault Float :=
  match value with
  | .text _ | .list _ | .tuple _ => .error .badRepetition
  | other =>
    match other.number? with
    | some number => number.toFloat
    | none => .error (.badOperands "*" "float" other.typeName)

/-- The items of a datum that has items. -/
def items : Datum → Except Fault (List Datum)
  | .list items | .tuple items => .ok items
  | .text value => .ok (value.toList.map fun c => .text (String.singleton c))
  | .dict entries => .ok (entries.map (·.1))
  | .tokens sequence => .ok (sequence.map .token)
  | other => .error (.notIterable other.typeName)

end Datum

end Linework
