import Linework.Decimal.Binary

/-!
# The shortest decimal of a number

The fewest significant digits that read back as the same number; of two such decimals the nearer one,
and of two equally near ones the one whose last digit is even.
-/

namespace Linework.Decimal

/-- `digits * 10 ^ exponent`. -/
structure Digits where
  digits : Nat
  exponent : Int

/-- How many decimal digits a natural has; zero has one. -/
def digitCount (n : Nat) : Nat :=
  (Nat.toDigits 10 n).length

/-- Compare `a * 10 ^ exponent` with the quotient `num / den`. -/
def compareScaled (a : Nat) (exponent : Int) (num den : Nat) : Ordering :=
  let (up, down) := scaled 10 exponent
  compare (a * up * den) (num * down)

/-- The exponent of the leading decimal digit of a positive quotient. -/
def leadingExponent (num den : Nat) : Int :=
  let guess : Int :=
    if den ≤ num then (digitCount (num / den) : Int) - 1 else -(digitCount (den / num) : Int)
  if compareScaled 1 guess num den == .gt then guess - 1
  else if compareScaled 1 (guess + 1) num den == .gt then guess
  else guess + 1

/-- The numbers that round to a given one: its neighbours' midpoints, in quarter units of its last
place, and whether the midpoints themselves belong to it. -/
structure Interval where
  value : Nat × Nat
  low : Nat × Nat
  high : Nat × Nat
  closed : Bool

/-- The interval of the reals that are nearer to a number than to its neighbours. -/
def Binary.interval (b : Binary) : Interval :=
  let (num, den) := scaled 2 (b.exponent - 2)
  let below := if b.mantissa == Nat.pow 2 52 && b.exponent > -1074 then 1 else 2
  { value := (4 * b.mantissa * num, den)
    low := ((4 * b.mantissa - below) * num, den)
    high := ((4 * b.mantissa + 2) * num, den)
    closed := b.mantissa % 2 == 0 }

/-- Whether a decimal reads back as the interval's number. -/
def Interval.holds (i : Interval) (d : Digits) : Bool :=
  let fromLow := compareScaled d.digits d.exponent i.low.1 i.low.2
  let fromHigh := compareScaled d.digits d.exponent i.high.1 i.high.2
  if i.closed then fromLow != .lt && fromHigh != .gt else fromLow == .gt && fromHigh == .lt

/-- The decimal with the given exponent that reads back and is nearest to the value, if any. -/
def Interval.onGrid? (i : Interval) (exponent : Int) : Option Digits :=
  let (up, down) := scaled 10 exponent
  let num := i.value.1 * down
  let den := i.value.2 * up
  let lower : Digits := ⟨num / den, exponent⟩
  let upper : Digits := ⟨num / den + 1, exponent⟩
  let nearest := if roundDivEven num den == lower.digits then lower else upper
  let other := if nearest.digits == lower.digits then upper else lower
  if i.holds nearest then some nearest
  else if i.holds other then some other
  else none

/-- Search the grids with `count`, `count + 1`, ... digits, at most `tries` of them. -/
def Interval.search (i : Interval) (leading : Int) : Nat → Nat → Digits
  | count, tries + 1 =>
    match i.onGrid? (leading - count + 1) with
    | some found => found
    | none => i.search leading (count + 1) tries
  | count, 0 =>
    let exponent := leading - count + 1
    let (up, down) := scaled 10 exponent
    ⟨roundDivEven (i.value.1 * down) (i.value.2 * up), exponent⟩

/-- The shortest digits of a finite number's magnitude. -/
def shortest (x : Float) : Digits :=
  let b := Binary.ofFloat x
  if b.mantissa == 0 then ⟨0, 0⟩
  else
    let i := b.interval
    i.search (leadingExponent i.value.1 i.value.2) 1 17

end Linework.Decimal
