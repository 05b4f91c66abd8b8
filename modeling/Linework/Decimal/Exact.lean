import Linework.Decimal.Notation

/-!
# Exact remainders and roots

Operations on floats that are worked out exactly on naturals and rounded once, at the end.
-/

namespace Linework.Decimal

/-- Zero with the sign of a number. -/
def signedZero (x : Float) : Float :=
  if isNegative x then -0.0 else 0.0

/-- The magnitudes of two finite numbers as naturals over a common power of two. -/
def commonScale (x y : Binary) : Nat × Nat × Int :=
  let exponent := min x.exponent y.exponent
  (x.mantissa * Nat.pow 2 (x.exponent - exponent).toNat, y.mantissa * Nat.pow 2 (y.exponent - exponent).toNat,
    exponent)

/-- The number `n * 2 ^ exponent` with a sign. -/
def ofScaled (negative : Bool) (n : Nat) (exponent : Int) : Float :=
  let (num, den) := scaled 2 exponent
  ofRatio negative (n * num) den

/-- What is left of `x` after taking away `y` as often as it goes, with the sign of `x`. -/
def remainder (x y : Float) : Float :=
  if x.isNaN || y.isNaN || x.isInf || y == 0 then 0.0 / 0.0
  else if y.isInf then x
  else
    let a := Binary.ofFloat x
    let (top, bottom, exponent) := commonScale a (Binary.ofFloat y)
    ofScaled a.negative (top % bottom) exponent

/-- How often `y` goes into `x`, rounded down, and what is left, which has the sign of `y`. -/
def divideDown (x y : Float) : Float × Float :=
  let left := remainder x y
  let times := (x - left) / y
  let (left, times) :=
    if left != 0 then
      if (y < 0) != (left < 0) then (left + y, times - 1.0) else (left, times)
    else (signedZero y, times)
  if times != 0 then
    let down := times.floor
    (if times - down > 0.5 then down + 1.0 else down, left)
  else (signedZero (x / y), left)

/-- The greatest natural whose square is at most `n`, found bit by bit from the bit `bits` down. -/
def rootFrom (n : Nat) : Nat → Nat → Nat
  | 0, root => root
  | bits + 1, root =>
    let next := root + Nat.pow 2 bits
    rootFrom n bits (if next * next ≤ n then next else root)

/-- The length of a vector, rounded once. -/
def vectorLength (coordinates : List Float) : Float :=
  if coordinates.any Float.isInf then 1.0 / 0.0
  else if coordinates.any Float.isNaN then 0.0 / 0.0
  else
    let parts := coordinates.map Binary.ofFloat
    let exponent := parts.foldl (fun least part => min least part.exponent) 971
    let sum := parts.foldl (fun sum part =>
      sum + Nat.pow (part.mantissa * Nat.pow 2 (part.exponent - exponent).toNat) 2) 0
    if sum == 0 then 0.0
    else
      -- Enough bits that the root's rounding is decided by them and by whether the root is exact.
      let extra : Nat := 70
      let wide := sum * Nat.pow 4 extra
      let root := rootFrom wide (wide.log2 / 2 + 1) 0
      let sticky := if root * root == wide then 0 else 1
      ofScaled false (2 * root + sticky) (exponent - extra - 1)

end Linework.Decimal
