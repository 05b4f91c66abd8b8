import Linework.Datum.Number

/-!
# Measures

The numbers of a drawing as they are written and chosen: text without float noise, lengths with units,
and spacings of grid lines.
-/

namespace Linework.Drawing

open Linework.Decimal Linework.Text

/-- A number rounded to ten decimal places, as it is spliced. -/
def tidy (x : Float) : String :=
  (Datum.float (roundPlaces x 10)).spliced

/-- A datum rounded to ten decimal places, as it is spliced. -/
def tidyDatum (value : Datum) : Except Fault String :=
  match value.number? with
  | some number => .ok (number.round 10).toDatum.spliced
  | none => .error (.cannotRound value.typeName)

/-- The quotient of two floats. Dividing by zero is a fault. -/
def quotient (x y : Float) : Except Fault Float :=
  if y == 0 then .error .divisionByZero else .ok (x / y)

/-- The candidate nearest to a value, the first of equally near ones. -/
def nearest (value : Datum) (candidates : List Datum) : Except Fault Datum := do
  let distance (candidate : Datum) : Except Fault Number := do
    let (a, b) ← Datum.operands "-" candidate value
    return (← Number.combine (· - ·) (· - ·) a b).magnitude
  let rec search (best : Datum) (least : Number) : List Datum → Except Fault Datum
    | [] => .ok best
    | candidate :: rest => do
      let number ← distance candidate
      if number.less least then search candidate number rest else search best least rest
  match candidates with
  | [] => .error .emptyMinimum
  | first :: rest => search first (← distance first) rest

/-- The spacings that grid lines may have by default. -/
def spacings : List Datum :=
  [.float 0.001, .float 0.005, .float 0.01, .float 0.05, .float 0.1, .float 0.25, .float 0.5, .int 1,
    .float 2.5, .int 5, .int 10, .int 25, .int 50, .int 100]

/-- The multiple of `multiple` nearest to a value; the value itself when the quotient is not finite. Dividing
by zero is a fault, and integers stay integers. -/
def roundDatumToMultiple (value multiple : Datum) : Except Fault Datum := do
  let (a, b) ← Datum.operands "/" value multiple
  let steps ← a.divide b
  if steps.isFinite then
    return (← Number.combine (· * ·) (· * ·) (.int (nearestInt steps)) b).toDatum
  else return value

/-- A length cut into its number and its unit, which holds no digit. -/
def splitLength? (length : String) : Option (List Char × List Char) :=
  let chars := trimBy isBlank length.toList
  let whole := chars.takeWhile isPlainDigit
  let rest := chars.dropWhile isPlainDigit
  let (number, unit) :=
    match rest with
    | '.' :: more =>
      let fraction := more.takeWhile isPlainDigit
      if fraction.isEmpty then (whole, rest)
      else (whole ++ '.' :: fraction, more.dropWhile isPlainDigit)
    | _ => (whole, rest)
  if number.isEmpty || unit.any isDecimalDigit then none else some (number, unit)

/-- A length scaled by a ratio, with its unit. -/
def scaleLength? (length : String) (ratio : Float) : Option String := do
  let (number, unit) ← splitLength? length
  let x ← readFloat? (String.ofList number)
  return tidy (x * ratio) ++ String.ofList unit

/-- Whether a text is a number without sign, exponent or unit. A line break may end it. -/
def isPlainNumber (text : String) : Bool :=
  let chars := text.toList
  let chars := if chars.getLast? == some '\n' then chars.dropLast else chars
  let whole := chars.takeWhile isPlainDigit
  match chars.dropWhile isPlainDigit with
  | [] => !whole.isEmpty
  | '.' :: fraction => !fraction.isEmpty && fraction.all isPlainDigit
  | _ => false

end Linework.Drawing
