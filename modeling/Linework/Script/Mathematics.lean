import Linework.Script.Sequence

/-!
# The module of mathematical functions

The constants and functions of the module `math`.
-/

namespace Linework.Script

open Linework.Decimal

namespace Mathematics

/-- The ratio of a circle to its diameter. -/
def pi : Float := 3.141592653589793

/-- The constants of the module. -/
def constants : List (String × Float) := [
  ("pi", pi), ("e", 2.718281828459045), ("tau", 6.283185307179586), ("inf", 1.0 / 0.0), ("nan", 0.0 / 0.0)]

/-- A value as a float. -/
def real (value : Value) : Run Float := do
  match value.number? with
  | some number => Run.lift (numberToFloat number)
  | none => Run.fail (Failure.notReal (← Run.typeName value))

/-- A value that counts as an integer. -/
def integer (value : Value) : Run Int := do
  match value.index? with
  | some n => return n
  | none => Run.fail (Failure.notInteger (← Run.typeName value))

/-- A function on floats that is not defined where it makes NaN of a number, and too large where it
makes infinity of a finite number. -/
def checked (f : Float → Float) (infiniteIsRange : Bool) (x : Float) : Except Failure Value :=
  let y := f x
  if y.isNaN && !x.isNaN then .error Failure.domain
  else if y.isInf && !x.isInf then
    .error (if infiniteIsRange then Failure.range else Failure.domain)
  else .ok (.float y)

/-- The functions of one float. -/
def unary : List (String × (Float → Except Failure Value)) := [
  ("sqrt", checked Float.sqrt false),
  ("sin", checked Float.sin false),
  ("cos", checked Float.cos false),
  ("tan", checked Float.tan false),
  ("asin", checked Float.asin false),
  ("acos", checked Float.acos false),
  ("atan", checked Float.atan false),
  ("sinh", checked Float.sinh true),
  ("cosh", checked Float.cosh true),
  ("tanh", checked Float.tanh false),
  ("exp", checked Float.exp true),
  ("fabs", fun x => .ok (.float x.abs)),
  ("degrees", fun x => .ok (.float (x * (180.0 / pi)))),
  ("radians", fun x => .ok (.float (x * (pi / 180.0)))),
  ("isnan", fun x => .ok (.bool x.isNaN)),
  ("isinf", fun x => .ok (.bool x.isInf)),
  ("isfinite", fun x => .ok (.bool x.isFinite))]

/-- The functions from floats to integers. -/
def toIntegers : List (String × (Float → Int)) := [
  ("floor", Decimal.floor), ("ceil", Decimal.ceil), ("trunc", Decimal.truncate)]

/-- The names of the other functions. -/
def others : List String := ["hypot", "pow", "atan2", "copysign", "fmod", "gcd", "factorial", "log"]

/-- A value of a function from floats to integers. -/
def toInteger (name : String) (f : Float → Int) (value : Value) : Run Value := do
  match value.number? with
  | some (.int n) => return .int n
  | some (.float x) =>
    if x.isNaN then Run.fail Failure.nanInteger
    else if x.isInf then Run.fail Failure.infiniteInteger
    else return .int (f x)
  | none =>
    let typeName ← Run.typeName value
    Run.fail (if name == "trunc" then Failure.noTrunc typeName else Failure.notReal typeName)

/-- A float raised to a float, where infinities are not made of finite floats. -/
def power (x y : Float) : Except Failure Value :=
  let z := x.pow y
  if !x.isFinite || !y.isFinite then .ok (.float z)
  else if z.isNaN then .error Failure.domain
  else if z.isInf then .error (if x == 0 then Failure.domain else Failure.range)
  else .ok (.float z)

/-- The logarithm of a number, which may be an integer of any size. -/
def logarithm (value : Value) : Run Float := do
  match value.number? with
  | some (.int n) =>
    if n ≤ 0 then Run.fail Failure.domain
    else
      let bits := n.natAbs.log2
      if bits < 1000 then return (ofInt n).log
      else return (ofRatio false n.natAbs (Nat.pow 2 bits)).log + (ofInt bits) * 0.6931471805599453
  | _ =>
    let x ← real value
    if x ≤ 0 then Run.fail Failure.domain else return x.log

/-- The product of the integers from one on. -/
def factorial : Nat → Nat
  | 0 => 1
  | n + 1 => (n + 1) * factorial n

/-- Apply one of the functions that take several arguments, or integers. -/
def applyOther (name : String) (arguments : List Value) : Run Value := do
  match name, arguments with
  | "hypot", _ => return .float (vectorLength (← arguments.mapM real))
  | "pow", [x, y] => Run.lift (power (← real x) (← real y))
  | "atan2", [y, x] => return .float ((← real y).atan2 (← real x))
  | "copysign", [x, y] =>
    let size := (← real x).abs
    return .float (if isNegative (← real y) then -size else size)
  | "fmod", [x, y] =>
    let x ← real x
    let y ← real y
    let left := remainder x y
    if left.isNaN && !x.isNaN && !y.isNaN then Run.fail Failure.domain else return .float left
  | "gcd", _ =>
    let integers ← arguments.mapM integer
    return .int (integers.foldl (fun divisor n => Nat.gcd divisor n.natAbs) 0 : Nat)
  | "factorial", [value] =>
    let n ← integer value
    if n < 0 then
      Run.fail (Failure.valueError "factorial() not defined for negative values")
    else if n > 10000 then Run.fail Failure.unknown
    else return .int (factorial n.toNat)
  | "log", [value] => return .float (← logarithm value)
  | "log", [value, base] =>
    let top ← logarithm value
    let bottom ← logarithm base
    if bottom == 0 then Run.fail (Failure.zeroDivision "float division by zero")
    else return .float (top / bottom)
  | "factorial", _ => Run.fail (Failure.takesOne "math.factorial" arguments.length)
  | "log", _ => Run.fail Failure.unknown
  | _, _ => Run.fail (Failure.expectedCount name 2 arguments.length)

/-- Apply a function of the module. -/
def apply (name : String) (arguments : List Value) : Run Value := do
  let full := "math." ++ name
  match unary.lookup name, toIntegers.lookup name, arguments with
  | some f, _, [value] => Run.lift (f (← real value))
  | none, some f, [value] => toInteger name f value
  | none, none, _ => applyOther name arguments
  | _, _, _ => Run.fail (Failure.takesOne full arguments.length)

/-- What a name of the module stands for. -/
def attribute? (name : String) : Option Value :=
  match constants.lookup name with
  | some x => some (.float x)
  | none =>
    if (unary.lookup name).isSome || (toIntegers.lookup name).isSome || others.contains name then
      some (.primitive ("math." ++ name))
    else none

end Mathematics

end Linework.Script
