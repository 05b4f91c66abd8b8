import Linework.Decimal.Reading
import Linework.Fault

/-!
# Reading JSON

A reading takes one value off the front of some characters. Numbers without point and exponent are
integers; the names of numbers that are not finite are read too. Of entries with one key the last counts.
The number that a reading takes bounds how deep values nest.
-/

namespace Linework.Document.Json

open Linework.Decimal

/-- Whether a character may stand between the parts of a document. -/
def isGap (c : Char) : Bool :=
  c == ' ' || c == '\t' || c == '\n' || c == '\r'

/-- Drop the blanks at the front. -/
def skipGaps (chars : List Char) : List Char :=
  chars.dropWhile isGap

/-- The value of a hexadecimal digit. -/
def hexValue? (c : Char) : Option Nat :=
  if '0' ≤ c && c ≤ '9' then some (c.toNat - 48)
  else if 'a' ≤ c && c ≤ 'f' then some (c.toNat - 87)
  else if 'A' ≤ c && c ≤ 'F' then some (c.toNat - 55)
  else none

/-- Take four hexadecimal digits. -/
def takeCode? : List Char → Option (Nat × List Char)
  | a :: b :: c :: d :: rest => do
    let high := (← hexValue? a) * 16 + (← hexValue? b)
    let low := (← hexValue? c) * 16 + (← hexValue? d)
    return (high * 256 + low, rest)
  | _ => none

/-- The character that the letter of an escape stands for. -/
def escaped? (c : Char) : Option Char :=
  [('\x22', '\x22'), ('\\', '\\'), ('/', '/'), ('b', '\x08'), ('f', '\x0c'), ('n', '\n'), ('r', '\r'),
    ('t', '\t')].lookup c

/-- The character of a code; half of a pair has none of its own and is replaced. -/
def charOf (code : Nat) : Char :=
  if 0xd800 ≤ code && code < 0xe000 then '\ufffd' else Char.ofNat code

/-- Take the character of an escape by code, which two codes in a row may give together. -/
def takeCoded? (chars : List Char) : Option (Char × List Char) := do
  let (high, rest) ← takeCode? chars
  if 0xd800 ≤ high && high < 0xdc00 then
    match rest with
    | '\\' :: 'u' :: more =>
      match takeCode? more with
      | some (low, left) =>
        if 0xdc00 ≤ low && low < 0xe000 then
          return (Char.ofNat (0x10000 + (high - 0xd800) * 0x400 + (low - 0xdc00)), left)
        else return (charOf high, rest)
      | none => return (charOf high, rest)
    | _ => return (charOf high, rest)
  else return (charOf high, rest)

/-- Take a text up to its closing quote, of at most `count` characters. -/
def takeText? : Nat → List Char → Option (List Char × List Char)
  | 0, _ => none
  | count + 1, chars => do
    match chars with
    | '\x22' :: rest => return ([], rest)
    | '\\' :: 'u' :: rest =>
      let (c, rest) ← takeCoded? rest
      let (text, rest) ← takeText? count rest
      return (c :: text, rest)
    | '\\' :: c :: rest =>
      let c ← escaped? c
      let (text, rest) ← takeText? count rest
      return (c :: text, rest)
    | c :: rest =>
      if c.toNat < 0x20 then none
      else
        let (text, rest) ← takeText? count rest
        return (c :: text, rest)
    | [] => none

/-- A text whose opening quote has been taken. -/
def text (chars : List Char) : Except Fault (String × List Char) :=
  match takeText? (chars.length + 1) chars with
  | some (text, rest) => .ok (String.ofList text, rest)
  | none => .error .malformed

/-- Take the point of a number with the digits after it. -/
def takeFraction : List Char → List Char × List Char
  | '.' :: rest =>
    let digits := rest.takeWhile isPlainDigit
    if digits.isEmpty then ([], '.' :: rest) else ('.' :: digits, rest.dropWhile isPlainDigit)
  | chars => ([], chars)

/-- Take the exponent of a number. -/
def takeExponent : List Char → List Char × List Char
  | mark :: rest =>
    if mark == 'e' || mark == 'E' then
      let (sign, digits) :=
        match rest with
        | '+' :: digits => (['+'], digits)
        | '-' :: digits => (['-'], digits)
        | digits => ([], digits)
      let taken := digits.takeWhile isPlainDigit
      if taken.isEmpty then ([], mark :: rest)
      else (mark :: sign ++ taken, digits.dropWhile isPlainDigit)
    else ([], mark :: rest)
  | [] => ([], [])

/-- Take the digits before a point: a zero alone, or digits that begin with no zero. -/
def takeWhole : List Char → List Char × List Char
  | '0' :: rest => (['0'], rest)
  | chars => (chars.takeWhile isPlainDigit, chars.dropWhile isPlainDigit)

/-- A number, after its sign. -/
def number (isNegative : Bool) (chars : List Char) : Except Fault (Datum × List Char) :=
  let (whole, rest) := takeWhole chars
  if whole.isEmpty then .error .malformed
  else
    let (fraction, rest) := takeFraction rest
    let (exponent, rest) := takeExponent rest
    if fraction.isEmpty && exponent.isEmpty then
      if whole.length > maxIntegerDigits then .error (.tooManyDigitsRead whole.length)
      else
        let magnitude : Int := digitsValue whole
        .ok (.int (if isNegative then -magnitude else magnitude), rest)
    else
      match unsignedDecimal? isNegative (whole ++ fraction ++ exponent) with
      | some x => .ok (.float x, rest)
      | none => .error .malformed

/-- The names of values. -/
def namedValues : List (String × Datum) := [
  ("null", .null), ("true", .bool true), ("false", .bool false), ("NaN", .float (0.0 / 0.0)),
  ("Infinity", .float (1.0 / 0.0)), ("-Infinity", .float (-1.0 / 0.0))]

/-- Take the name of a value. -/
def takeNamed? (chars : List Char) : Option (Datum × List Char) :=
  namedValues.findSome? fun (name, value) =>
    if name.toList.isPrefixOf chars then some (value, chars.drop name.length) else none

mutual

/-- A value. -/
def value : Nat → List Char → Except Fault (Datum × List Char)
  | 0, _ => .error .malformed
  | depth + 1, chars => do
    match takeNamed? chars, chars with
    | some taken, _ => return taken
    | none, '\x22' :: rest =>
      let (content, rest) ← text rest
      return (.text content, rest)
    | none, '[' :: rest =>
      match skipGaps rest with
      | ']' :: rest => return (.list [], rest)
      | rest =>
        let (items, rest) ← items depth rest
        return (.list items, rest)
    | none, '\x7b' :: rest =>
      match skipGaps rest with
      | '\x7d' :: rest => return (.dict [], rest)
      | rest =>
        let (entries, rest) ← entries depth rest
        return (.dict (Assoc.ofPairs entries), rest)
    | none, '-' :: rest => number true rest
    | none, chars => number false chars

/-- The items of a list and its closing bracket. -/
def items : Nat → List Char → Except Fault (List Datum × List Char)
  | 0, _ => .error .malformed
  | depth + 1, chars => do
    let (item, rest) ← value depth chars
    match skipGaps rest with
    | ']' :: rest => return ([item], rest)
    | ',' :: rest =>
      let (others, rest) ← items depth (skipGaps rest)
      return (item :: others, rest)
    | _ => throw .malformed

/-- The entries of a map and its closing bracket. -/
def entries : Nat → List Char → Except Fault (List (Datum × Datum) × List Char)
  | 0, _ => .error .malformed
  | depth + 1, chars => do
    match chars with
    | '\x22' :: rest =>
      let (key, rest) ← text rest
      match skipGaps rest with
      | ':' :: rest =>
        let (item, rest) ← value depth (skipGaps rest)
        match skipGaps rest with
        | '\x7d' :: rest => return ([(.text key, item)], rest)
        | ',' :: rest =>
          let (others, rest) ← entries depth (skipGaps rest)
          return ((.text key, item) :: others, rest)
        | _ => throw .malformed
      | _ => throw .malformed
    | _ => throw .malformed

end

/-- Read a document. -/
def read (text : String) : Except Fault Datum := do
  let chars := text.toList
  let (datum, rest) ← value (chars.length + 1) (skipGaps chars)
  if (skipGaps rest).isEmpty then return datum else throw .malformed

end Linework.Document.Json
