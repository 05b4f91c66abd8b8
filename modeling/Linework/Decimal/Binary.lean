/-!
# Binary fractions

A finite binary64 number is `mantissa * 2 ^ exponent` with a sign. This module takes numbers apart,
and rounds an exact quotient of naturals to the nearest number, a half going to the even mantissa.
All of it is arithmetic on naturals, so it can be reasoned about without the hardware's rounding.
-/

namespace Linework.Decimal

/-- The exact value of a finite number: `mantissa * 2 ^ exponent`, negated when `negative`. -/
structure Binary where
  negative : Bool
  mantissa : Nat
  exponent : Int

/-- Take a finite number apart; infinities and NaN give meaningless parts. -/
def Binary.ofFloat (x : Float) : Binary :=
  let bits : Nat := x.toBits.toNat
  let field : Nat := bits / Nat.pow 2 52 % 2048
  let fraction : Nat := bits % Nat.pow 2 52
  let negative := bits / Nat.pow 2 63 == 1
  if field == 0 then ⟨negative, fraction, -1074⟩
  else ⟨negative, fraction + Nat.pow 2 52, (field : Int) - 1075⟩

/-- A positive power as a numerator, or a negative one as a denominator. -/
def scaled (base : Nat) (exponent : Int) : Nat × Nat :=
  if exponent < 0 then (1, Nat.pow base exponent.natAbs) else (Nat.pow base exponent.natAbs, 1)

/-- The magnitude as an exact quotient. -/
def Binary.ratio (b : Binary) : Nat × Nat :=
  let (num, den) := scaled 2 b.exponent
  (b.mantissa * num, den)

/-- The quotient rounded to the nearest natural, a half to the even neighbour. -/
def roundDivEven (num den : Nat) : Nat :=
  let quotient := num / den
  let twice := 2 * (num % den)
  if twice < den || (twice == den && quotient % 2 == 0) then quotient else quotient + 1

/-- The bits of the magnitude nearest to `num / den`; those of infinity when it is too large. -/
def ratioBits (num den : Nat) : Nat :=
  if num == 0 then 0
  else
    let guess : Int := (num.log2 : Int) - den.log2 - 52
    let quotientAt (exponent : Int) : Nat × Nat :=
      let (top, bottom) := scaled 2 (-exponent)
      (num * top, den * bottom)
    let (top, bottom) := quotientAt guess
    let exponent := max (-1074) (if top / bottom < Nat.pow 2 52 then guess - 1 else guess)
    let (top, bottom) := quotientAt exponent
    let bits := (exponent + 1074).toNat * Nat.pow 2 52 + roundDivEven top bottom
    if bits < 2047 * Nat.pow 2 52 then bits else 2047 * Nat.pow 2 52

/-- The number nearest to the quotient of two naturals, with the given sign. -/
def ofRatio (negative : Bool) (num den : Nat) : Float :=
  Float.ofBits (UInt64.ofNat (ratioBits num den + if negative then Nat.pow 2 63 else 0))

/-- The number nearest to an integer; infinite when the integer is too large. -/
def ofInt (n : Int) : Float :=
  ofRatio (n < 0) n.natAbs 1

/-- The number nearest to `digits * 10 ^ exponent`. Exponents that no number reaches are cut short,
so that huge exponents in the text cost nothing. -/
def ofDigits (negative : Bool) (digits : Nat) (exponent : Int) : Float :=
  if digits == 0 then ofRatio negative 0 1
  else
    let size : Int := (digits.log2 : Int) * 3 / 10
    if size + exponent > 400 then ofRatio negative (Nat.pow 2 1024) 1
    else if size + exponent < -500 then ofRatio negative 0 1
    else
      let (num, den) := scaled 10 exponent
      ofRatio negative (digits * num) den

/-- Whether a finite number has no fractional part. -/
def isWhole (x : Float) : Bool :=
  x.isFinite && (
    let (num, den) := (Binary.ofFloat x).ratio
    num % den == 0)

/-- The integer that a whole number is; the integral part, toward zero, of any finite number. -/
def truncate (x : Float) : Int :=
  let b := Binary.ofFloat x
  let (num, den) := b.ratio
  if b.negative then -((num / den : Nat) : Int) else ((num / den : Nat) : Int)

/-- The greatest integer that is at most a finite number. -/
def floor (x : Float) : Int :=
  let b := Binary.ofFloat x
  let (num, den) := b.ratio
  if b.negative then -(((num + den - 1) / den : Nat) : Int) else ((num / den : Nat) : Int)

/-- The least integer that is at least a finite number. -/
def ceil (x : Float) : Int :=
  -(floor (-x))

/-- The integer nearest to a finite number, a half going to the even one. -/
def nearestInt (x : Float) : Int :=
  let b := Binary.ofFloat x
  let (num, den) := b.ratio
  let n := roundDivEven num den
  if b.negative then -(n : Int) else (n : Int)

/-- A finite number rounded to `places` decimal places (to tens, hundreds, ... when negative), a half
going to the even digit, and then to the nearest number. -/
def roundPlaces (x : Float) (places : Int) : Float :=
  if !x.isFinite || places > 323 then x
  else
    let b := Binary.ofFloat x
    if places < -308 then ofRatio b.negative 0 1
    else
      let (num, den) := b.ratio
      let (up, down) := scaled 10 places
      ofRatio b.negative (roundDivEven (num * up) (den * down) * down) up

end Linework.Decimal
