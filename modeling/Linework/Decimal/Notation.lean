import Linework.Decimal.Shortest

/-!
# Numbers as text

A float is written with its shortest digits, positionally when its decimal exponent lies between
`-4` and `15`, else with an exponent of at least two digits. A whole float keeps a `.0`.
-/

namespace Linework.Decimal

/-- The digits of a natural in base ten. -/
def natText (n : Nat) : String :=
  String.ofList (Nat.toDigits 10 n)

/-- An integer in base ten. -/
def intText (n : Int) : String :=
  if n < 0 then "-" ++ natText n.natAbs else natText n.natAbs

/-- Remove the zeros that end a digit string. -/
def dropTrailingZeros (digits : List Char) : List Char :=
  (digits.reverse.dropWhile (· == '0')).reverse

/-- An exponent mark with a sign and at least two digits. -/
def exponentText (exponent : Int) : List Char :=
  let digits := Nat.toDigits 10 exponent.natAbs
  let padded := if digits.length < 2 then '0' :: digits else digits
  'e' :: (if exponent < 0 then '-' else '+') :: padded

/-- Digits with a point after the first `point` of them, filled with zeros on either side. -/
def positional (digits : List Char) (point : Int) : List Char × List Char :=
  if point ≤ 0 then
    (['0'], List.replicate point.natAbs '0' ++ digits)
  else
    let whole := digits.take point.toNat
    (whole ++ List.replicate (point.toNat - whole.length) '0', digits.drop point.toNat)

/-- The magnitude of a finite number. -/
def magnitudeText (x : Float) : List Char :=
  let d := shortest x
  let digits := Nat.toDigits 10 d.digits
  let leading := d.exponent + digits.length - 1
  let digits := if d.digits == 0 then ['0'] else dropTrailingZeros digits
  if leading < -4 || 16 ≤ leading then
    let tail := digits.drop 1
    digits.take 1 ++ (if tail.isEmpty then [] else '.' :: tail) ++ exponentText leading
  else
    let (whole, fraction) := positional digits (leading + 1)
    whole ++ '.' :: (if fraction.isEmpty then ['0'] else fraction)

/-- Whether the sign bit is set. -/
def isNegative (x : Float) : Bool :=
  (Binary.ofFloat x).negative

/-- The text of a float. -/
def floatText (x : Float) : String :=
  if x.isNaN then "nan"
  else if x.isInf then (if isNegative x then "-inf" else "inf")
  else String.ofList ((if isNegative x then ['-'] else []) ++ magnitudeText x)

end Linework.Decimal
