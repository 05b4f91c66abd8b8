import Linework.Decimal.Binary
import Linework.Text.Blank
import Linework.Text.Digit

/-!
# Reading numbers

Numbers as words: blanks around them are dropped, decimal digits of every script count, and single
underscores may stand between digits.
-/

namespace Linework.Decimal

open Linework.Text

/-- The blanks that may stand around a number: all but the four separator controls. -/
def isBlankAround (c : Char) : Bool :=
  isBlank c && !(0x1c ≤ c.toNat && c.toNat ≤ 0x1f)

/-- The trimmed characters with every decimal digit brought to its ASCII form. -/
def plainDigits (text : String) : List Char :=
  (trimBy isBlankAround text.toList).map fun c =>
    match digitValue? c with
    | some value => Char.ofNat (48 + value)
    | none => c

/-- Whether a character is one of `0` to `9`. -/
def isPlainDigit (c : Char) : Bool :=
  '0' ≤ c && c ≤ '9'

/-- Remove underscores that stand between two digits; `none` when one stands elsewhere. The first
argument tells whether a digit stands before the characters. -/
def withoutSeparators? (afterDigit : Bool) : List Char → Option (List Char)
  | [] => some []
  | '_' :: rest =>
    if afterDigit && rest.head?.any isPlainDigit then withoutSeparators? false rest else none
  | c :: rest => (withoutSeparators? (isPlainDigit c) rest).map (c :: ·)

/-- Split off a sign; true when it is a minus. -/
def takeSign : List Char → Bool × List Char
  | '-' :: rest => (true, rest)
  | '+' :: rest => (false, rest)
  | chars => (false, chars)

/-- The value of a string of ASCII digits. -/
def digitsValue (digits : List Char) : Nat :=
  digits.foldl (fun n c => n * 10 + (c.toNat - 48)) 0

/-- The exponent part `e[sign]digits`, or nothing. -/
def exponentOf? : List Char → Option Int
  | [] => some 0
  | mark :: rest =>
    if mark == 'e' || mark == 'E' then
      let (negative, digits) := takeSign rest
      if digits.isEmpty || !digits.all isPlainDigit then none
      else
        -- Exponents longer than this leave the range of numbers whatever the digits are.
        let isBeyond := (digits.dropWhile (· == '0')).length > 15
        let value : Int := if isBeyond then Nat.pow 10 15 else digitsValue digits
        some (if negative then -value else value)
    else none

/-- A decimal without sign: digits with an optional point, and an optional exponent. -/
def unsignedDecimal? (negative : Bool) (chars : List Char) : Option Float :=
  let whole := chars.takeWhile isPlainDigit
  let afterWhole := chars.dropWhile isPlainDigit
  let (fraction, rest) :=
    match afterWhole with
    | '.' :: more => (more.takeWhile isPlainDigit, more.dropWhile isPlainDigit)
    | _ => ([], afterWhole)
  if whole.isEmpty && fraction.isEmpty then none
  else
    (exponentOf? rest).map fun exponent =>
      ofDigits negative (digitsValue (whole ++ fraction)) (exponent - fraction.length)

/-- The words for infinity and NaN, in any case. -/
def specialFloat? (negative : Bool) (chars : List Char) : Option Float :=
  let word := String.ofList (chars.map Char.toLower)
  if word == "inf" || word == "infinity" then
    some (if negative then -1.0 / 0.0 else 1.0 / 0.0)
  else if word == "nan" then some (0.0 / 0.0)
  else none

/-- Read a float. -/
def readFloat? (text : String) : Option Float := do
  let chars ← withoutSeparators? false (plainDigits text)
  let (negative, body) := takeSign chars
  match specialFloat? negative body with
  | some x => some x
  | none => unsignedDecimal? negative body

/-- The most digits of an integer that is read or written. -/
def maxIntegerDigits : Nat := 4300

/-- The digits of an integer with its sign. -/
def integerDigits? (text : String) : Option (Bool × List Char) := do
  let chars ← withoutSeparators? false (plainDigits text)
  let (negative, body) := takeSign chars
  if body.isEmpty || !body.all isPlainDigit then none else some (negative, body)

/-- Read an integer. -/
def readInt? (text : String) : Option Int :=
  (integerDigits? text).map fun (negative, digits) =>
    if negative then -(digitsValue digits : Int) else (digitsValue digits : Int)

end Linework.Decimal
