import Linework.Decimal.Notation

/-!
# Numbers with a given number of digits

A finite number written with so many places behind the point, or with so many significant digits. The
exact value is rounded once, a half to the even digit.
-/

namespace Linework.Decimal

/-- Digits filled with zeros on the left. -/
def padZeros (width : Nat) (digits : List Char) : List Char :=
  List.replicate (width - digits.length) '0' ++ digits

/-- The magnitude of a number with `places` digits behind the point: the digits before and behind it. -/
def fixedDigits (x : Float) (places : Nat) : List Char × List Char :=
  let (num, den) := (Binary.ofFloat x).ratio
  let digits := padZeros (places + 1) (Nat.toDigits 10 (roundDivEven (num * Nat.pow 10 places) den))
  (digits.take (digits.length - places), digits.drop (digits.length - places))

/-- The magnitude of a number with `count` significant digits: the digits, and the exponent of the
first. -/
def leadingDigits (x : Float) (count : Nat) : List Char × Int :=
  let (num, den) := (Binary.ofFloat x).ratio
  if num == 0 then (List.replicate count '0', 0)
  else
    let leading := leadingExponent num den
    let (up, down) := scaled 10 (leading - (count - 1 : Nat))
    let n := roundDivEven (num * down) (den * up)
    if n == Nat.pow 10 count then (Nat.toDigits 10 (n / 10), leading + 1) else (Nat.toDigits 10 n, leading)

/-- The styles in which a number is written. -/
inductive Style where
  | fixed
  | exponent
  /-- Fixed or with an exponent, whichever is shorter to read. -/
  | general
deriving DecidableEq

/-- How a number is written: its style, how many digits, whether zeros and the point at the end are kept,
and whether there is always a digit behind the point. -/
structure Writing where
  style : Style
  precision : Nat
  keepsZeros : Bool := false
  wantsPlace : Bool := false

/-- Digits around a point, which is left out when nothing follows it unless it is to be kept. -/
def aroundPoint (whole fraction : List Char) (keepsPoint : Bool) : List Char :=
  if fraction.isEmpty && !keepsPoint then whole else whole ++ '.' :: fraction

/-- The magnitude of a finite number in general style. -/
def generalText (x : Float) (writing : Writing) : List Char :=
  let count := max writing.precision 1
  let (digits, leading) := leadingDigits x count
  let limit : Int := if writing.wantsPlace then (count : Int) - 1 else count
  if leading < -4 || limit ≤ leading then
    let digits := if writing.keepsZeros then digits else
      digits.take 1 ++ dropTrailingZeros (digits.drop 1)
    aroundPoint (digits.take 1) (digits.drop 1) writing.keepsZeros ++ exponentText leading
  else
    let (whole, fraction) := positional digits (leading + 1)
    let fraction := if writing.keepsZeros then fraction else dropTrailingZeros fraction
    let fraction := if fraction.isEmpty && writing.wantsPlace then ['0'] else fraction
    aroundPoint whole fraction writing.keepsZeros

/-- The magnitude of a finite number as a writing says. -/
def writtenText (x : Float) (writing : Writing) : List Char :=
  match writing.style with
  | .fixed =>
    let (whole, fraction) := fixedDigits x writing.precision
    aroundPoint whole fraction writing.keepsZeros
  | .exponent =>
    let (digits, leading) := leadingDigits x (writing.precision + 1)
    aroundPoint (digits.take 1) (digits.drop 1) writing.keepsZeros ++ exponentText leading
  | .general => generalText x writing

end Linework.Decimal
