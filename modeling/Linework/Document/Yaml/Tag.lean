import Linework.Decimal.Reading
import Linework.Fault

/-!
# Tags

The tag of a scalar tells how its text is read. A scalar without quotes and without a tag of its own gets
its tag from the form of its text. Numbers may be grouped by underscores, and parts between colons count
sixty of the next.
-/

namespace Linework.Document.Yaml

open Linework.Decimal

/-- What a node is read as. -/
inductive Tag where
  | null
  | bool
  | int
  | float
  | text
  | timestamp
  /-- The key under which a map takes in other maps. -/
  | merge
  /-- The key of a map's default value. -/
  | default
  | list
  | map
  /-- A tag that nothing is known of. -/
  | unknown
deriving DecidableEq

namespace Tag

/-! ### The forms of texts -/

/-- Whether a character is a digit or an underscore. -/
def isGrouped (c : Char) : Bool :=
  isPlainDigit c || c == '_'

/-- Whether a text is a digit followed by digits and underscores. -/
def isDigits : List Char → Bool
  | c :: rest => isPlainDigit c && rest.all isGrouped
  | [] => false

/-- The text after its sign. -/
def unsigned (chars : List Char) : List Char :=
  (takeSign chars).2

/-- Whether a text is an exponent with its sign, or nothing. -/
def isExponent : List Char → Bool
  | [] => true
  | mark :: sign :: digits =>
    (mark == 'e' || mark == 'E') && (sign == '+' || sign == '-') && !digits.isEmpty
      && digits.all isPlainDigit
  | _ => false

/-- Whether a text is one part of a number that counts in sixties, after the first. -/
def isSixtieth : List Char → Bool
  | [a] => isPlainDigit a
  | [a, b] => '0' ≤ a && a ≤ '5' && isPlainDigit b
  | _ => false

/-- Cut a text at each colon. -/
def cutAtColons : List Char → List (List Char)
  | [] => [[]]
  | ':' :: rest => [] :: cutAtColons rest
  | c :: rest =>
    match cutAtColons rest with
    | [] => [[c]]
    | part :: parts => (c :: part) :: parts

/-- Whether a text is a number that counts in sixties. -/
def isSixties (chars : List Char) : Bool :=
  match cutAtColons chars with
  | first :: second :: rest => isDigits first && (second :: rest).all isSixtieth
  | _ => false

/-- Whether a text is a float. -/
def isFloat (chars : List Char) : Bool :=
  let body := unsigned chars
  let whole := body.takeWhile (· != '.')
  let fraction := (body.dropWhile (· != '.')).drop 1
  let exponent := fraction.dropWhile isGrouped
  if !body.contains '.' then false
  else if whole.isEmpty then
    [".inf".toList, ".Inf".toList, ".INF".toList].contains body
      || [".nan".toList, ".NaN".toList, ".NAN".toList].contains chars
      || (chars.head? == some '.' && isDigits (fraction.takeWhile isGrouped) && isExponent exponent)
  else
    (isDigits whole && isExponent exponent) || (isSixties whole && fraction.all isGrouped)

/-- Whether a character is a hexadecimal digit or an underscore. -/
def isHexGrouped (c : Char) : Bool :=
  isGrouped c || ('a' ≤ c && c ≤ 'f') || ('A' ≤ c && c ≤ 'F')

/-- Whether a text is an integer. -/
def isInt (chars : List Char) : Bool :=
  match unsigned chars with
  | '0' :: 'b' :: digits => !digits.isEmpty && digits.all fun c => c == '0' || c == '1' || c == '_'
  | '0' :: 'x' :: digits => !digits.isEmpty && digits.all isHexGrouped
  | '0' :: digits => digits.all fun c => ('0' ≤ c && c ≤ '7') || c == '_'
  | body => (isDigits body && body.head? != some '_') || isSixties body

/-- The words for truth values, in lower case. -/
def truthWords : List (String × Bool) :=
  [("yes", true), ("no", false), ("true", true), ("false", false), ("on", true), ("off", false)]

/-- The three cases that a word may be written in. -/
def casesOf (word : String) : List String :=
  [word, word.capitalize, word.toUpper]

/-- Whether a text is a date, with or without a time. -/
def isTimestamp (chars : List Char) : Bool :=
  let digits (count : Nat) (chars : List Char) : Bool := chars.length == count && chars.all isPlainDigit
  let upTo (count : Nat) (chars : List Char) : Bool :=
    1 ≤ chars.length && chars.length ≤ count && chars.all isPlainDigit
  let year := chars.takeWhile isPlainDigit
  match chars.dropWhile isPlainDigit with
  | '-' :: rest =>
    let month := rest.takeWhile isPlainDigit
    match rest.dropWhile isPlainDigit with
    | '-' :: rest =>
      let day := rest.takeWhile isPlainDigit
      let clock := rest.dropWhile isPlainDigit
      digits 4 year && ((clock.isEmpty && digits 2 month && digits 2 day)
        || (upTo 2 month && upTo 2 day && isClock clock))
    | _ => false
  | _ => false
where
  /-- Whether a text is a time of day behind its separator. -/
  isClock (chars : List Char) : Bool :=
    let isGap (c : Char) : Bool := c == ' ' || c == '\t'
    let body :=
      match chars with
      | 'T' :: rest | 't' :: rest => some rest
      | c :: rest => if isGap c then some (rest.dropWhile isGap) else none
      | [] => none
    let two (chars : List Char) : Bool := chars.length == 2 && chars.all isPlainDigit
    let oneOrTwo (chars : List Char) : Bool :=
      1 ≤ chars.length && chars.length ≤ 2 && chars.all isPlainDigit
    match body.map cutAtColons with
    | some (hour :: minute :: second :: zone) =>
      let seconds := second.takeWhile isPlainDigit
      let after := second.dropWhile isPlainDigit
      let after :=
        match after with
        | '.' :: fraction => fraction.dropWhile isPlainDigit
        | other => other
      let offset := after.dropWhile isGap
      let isZone :=
        match offset, zone with
        | [], [] => after.isEmpty
        | ['Z'], [] => true
        | sign :: hours, [] => (sign == '+' || sign == '-') && oneOrTwo hours
        | sign :: hours, [minutes] => (sign == '+' || sign == '-') && oneOrTwo hours && two minutes
        | _, _ => false
      oneOrTwo hour && two minute && two seconds && isZone
    | _ => false

/-- The tag of a scalar by the form of its text. -/
def ofText (text : String) : Tag :=
  let chars := text.toList
  if truthWords.any fun (word, _) => (casesOf word).contains text then .bool
  else if isFloat chars then .float
  else if isInt chars then .int
  else if text == "<<" then .merge
  else if ["", "~", "null", "Null", "NULL"].contains text then .null
  else if isTimestamp chars then .timestamp
  else if text == "=" then .default
  else .text

/-- The tags that have names of their own, without the part that all of them share. -/
def known : List (String × Tag) := [
  ("null", .null), ("bool", .bool), ("int", .int), ("float", .float), ("str", .text),
  ("timestamp", .timestamp), ("merge", .merge), ("value", .default), ("seq", .list), ("map", .map)]

/-- What the names of known tags begin with. -/
def knownStart : String := "tag:yaml.org,2002:"

/-- A tag by its full name. -/
def ofName (name : String) : Tag :=
  (known.find? fun (word, _) => knownStart ++ word == name).elim .unknown (·.2)

/-! ### Reading texts -/

/-- A text without its underscores. -/
def ungrouped (chars : List Char) : List Char :=
  chars.filter (· != '_')

/-- The value of digits in a base, which must be given and must belong to the base. -/
def readDigits (base : Nat) (digits : List Char) : Except Fault Nat :=
  let value (c : Char) : Nat :=
    if isPlainDigit c then c.toNat - 48
    else if 'a' ≤ c && c ≤ 'f' then c.toNat - 87
    else if 'A' ≤ c && c ≤ 'F' then c.toNat - 55
    else 99
  if digits.isEmpty || digits.any (base ≤ value ·) then
    .error (.badDigits base (String.ofList digits))
  else if base == 10 && digits.length > maxIntegerDigits then
    .error (.tooManyDigitsRead digits.length)
  else .ok (digits.foldl (fun n c => n * base + value c) 0)

/-- Add up parts that count in sixties. -/
def sumSixties (parts : List Nat) : Nat :=
  parts.foldl (fun n part => n * 60 + part) 0

/-- Read a text as an integer. -/
def readInt (text : String) : Except Fault Int := do
  let (isNegative, body) := takeSign (ungrouped text.toList)
  let magnitude ←
    match body with
    | [] => throw (.malformedAs "yaml")
    | ['0'] => pure 0
    | '0' :: 'b' :: digits => readDigits 2 digits
    | '0' :: 'x' :: digits => readDigits 16 digits
    | '0' :: digits => readDigits 8 ('0' :: digits)
    | body =>
      if body.contains ':' then return sumSixties (← (cutAtColons body).mapM (readDigits 10))
      else readDigits 10 body
  return if isNegative then -(magnitude : Int) else magnitude

/-- Read a text as a float. -/
def readFloat (text : String) : Except Fault Float := do
  let chars := (ungrouped text.toList).map Char.toLower
  if chars.isEmpty then throw (.malformedAs "yaml")
  let (isNegative, body) := takeSign chars
  let number (chars : List Char) : Except Fault Float :=
    match readFloat? (String.ofList chars) with
    | some x => .ok x
    | none => .error (.badFloat (String.ofList chars))
  let magnitude ←
    if body == ".inf".toList then pure (1.0 / 0.0)
    else if body == ".nan".toList then return 0.0 / 0.0
    else if body.contains ':' then
      let parts ← (cutAtColons body).mapM number
      let (total, _) :=
        parts.reverse.foldl (fun (total, base) part => (total + part * base, base * 60)) (0.0, 1.0)
      pure total
    else number body
  return if isNegative then -magnitude else magnitude

end Tag

end Linework.Document.Yaml
