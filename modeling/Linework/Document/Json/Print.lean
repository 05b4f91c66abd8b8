import Linework.Datum.Text
import Linework.Decimal.Reading
import Linework.Fault

/-!
# Writing JSON

A document is written on one line, or with each item on a line of its own, indented by two spaces a level.
Numbers that are not finite have names. All characters but quotes, backslashes and controls stand for
themselves.
-/

namespace Linework.Document.Json

open Linework.Decimal Linework.Text

/-- A character of a text between quotes. -/
def escapeChar (c : Char) : List Char :=
  if c == '\x22' then ['\\', '\x22']
  else if c == '\\' then ['\\', '\\']
  else if c == '\n' then ['\\', 'n']
  else if c == '\r' then ['\\', 'r']
  else if c == '\t' then ['\\', 't']
  else if c == '\x0c' then ['\\', 'f']
  else if c == '\x08' then ['\\', 'b']
  else if c.toNat < 0x20 then '\\' :: 'u' :: hexDigits 4 c.toNat
  else [c]

/-- A text between quotes. -/
def textJson (text : String) : String :=
  "\"" ++ String.ofList (text.toList.flatMap escapeChar) ++ "\""

/-- A float. -/
def floatJson (x : Float) : String :=
  if x.isNaN then "NaN"
  else if x.isInf then (if x < 0 then "-Infinity" else "Infinity")
  else floatText x

/-- An integer, which must not have too many digits. -/
def integerJson (n : Int) : Except Fault String :=
  if n.natAbs < Nat.pow 10 maxIntegerDigits then .ok (intText n) else .error .tooManyDigits

/-- A key of a map. Numbers and the like become texts. -/
def keyJson : Datum → Except Fault String
  | .text value => .ok (textJson value)
  | .null => .ok (textJson "null")
  | .bool value => .ok (textJson (if value then "true" else "false"))
  | .int value => do return textJson (← integerJson value)
  | .float value => .ok (textJson (floatJson value))
  | other => .error (.notKey other.shortTypeName)

/-- What stands before an item at a level. -/
def lineStart (isPretty : Bool) (level : Nat) : String :=
  if isPretty then "\n" ++ String.ofList (List.replicate (2 * level) ' ') else ""

/-- Items between brackets. -/
def enclose (isPretty : Bool) (level : Nat) (left right : String) (items : List String) : String :=
  if items.isEmpty then left ++ right
  else
    let separator := if isPretty then "," ++ lineStart isPretty (level + 1) else ", "
    left ++ lineStart isPretty (level + 1) ++ separator.intercalate items ++ lineStart isPretty level ++ right

mutual

/-- A datum at a level. -/
def print (isPretty : Bool) (level : Nat) : Datum → Except Fault String
  | .null => .ok "null"
  | .bool value => .ok (if value then "true" else "false")
  | .int value => integerJson value
  | .float value => .ok (floatJson value)
  | .text value => .ok (textJson value)
  | .list items | .tuple items => do
    return enclose isPretty level "[" "]" (← printItems isPretty (level + 1) items)
  | .dict entries => do
    return enclose isPretty level "\x7b" "\x7d" (← printEntries isPretty (level + 1) entries)
  | other => .error (.notSerializable other.shortTypeName)

/-- The items of a list. -/
def printItems (isPretty : Bool) (level : Nat) : List Datum → Except Fault (List String)
  | [] => return []
  | item :: rest => do return (← print isPretty level item) :: (← printItems isPretty level rest)

/-- The entries of a map. -/
def printEntries (isPretty : Bool) (level : Nat) :
    List (Datum × Datum) → Except Fault (List String)
  | [] => return []
  | (key, value) :: rest => do
    let key ← keyJson key
    let value ← print isPretty level value
    return (key ++ ": " ++ value) :: (← printEntries isPretty level rest)

end

/-- A datum as a document. -/
def write (isPretty : Bool) (datum : Datum) : Except Fault String :=
  print isPretty 0 datum

end Linework.Document.Json
