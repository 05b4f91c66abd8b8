import Linework.Datum.Text
import Linework.Document.Json.Print
import Linework.Document.Plain
import Linework.Text.Name

/-!
# Writing TOML

A table is written as its plain entries, then its arrays of tables, and then its sub-tables, each under a
header with the full path. The sub-tables of one level are written before those of the next.

Texts are written in their quoted form, turned to double quotes. In a text with escapes of the form `\xNN`
the backslashes before an escape decide how it is written: an odd number of them ends in a code of four
digits, and an even number, none included, in a plain `x`.
-/

namespace Linework.Document.Toml

open Linework.Decimal Linework.Text

/-! ### Texts -/

/-- Replace pairs of backslashes by single ones. -/
def halveBackslashes : List Char → List Char
  | '\\' :: '\\' :: rest => '\\' :: halveBackslashes rest
  | c :: rest => c :: halveBackslashes rest
  | [] => []

/-- Cut a text at each `\x`. -/
def cutAtEscapes : List Char → List (List Char)
  | '\\' :: 'x' :: rest => [] :: cutAtEscapes rest
  | c :: rest =>
    match cutAtEscapes rest with
    | [] => [[c]]
    | piece :: pieces => (c :: piece) :: pieces
  | [] => [[]]

/-- Whether the escape after a piece, which is given from its end, is written with a plain `x`. The first
character of the piece counts only when it is its last. -/
def isPlainAfter (isPlain : Bool) : List Char → Bool
  | '\\' :: c :: rest => isPlainAfter (!isPlain) (c :: rest)
  | _ => isPlain

/-- Join a piece with the pieces after it. -/
def rejoin (piece : List Char) : List (List Char) → List Char
  | [] => piece
  | next :: rest =>
    let piece := halveBackslashes piece
    let isPlain := isPlainAfter (piece.getLast? != some '\\') piece.reverse
    rejoin (piece ++ (if isPlain then ['x'] else ['u', '0', '0']) ++ next) rest

/-- Join the pieces of a text that was cut at escapes. An escape at the very front is lost, and a text
with no other cannot be written. -/
def rejoinAll : List (List Char) → Except Fault (List Char)
  | [[], _] => .error .indexOutOfRange
  | [] :: first :: rest => .ok (rejoin first rest)
  | first :: rest => .ok (rejoin first rest)
  | [] => .ok []

/-- Turn single quotes of the quoted form to double ones. -/
def doubleQuotes : List Char → List Char
  | '\\' :: '\x27' :: rest => '\x27' :: doubleQuotes rest
  | '\x22' :: rest => '\\' :: '\x22' :: doubleQuotes rest
  | c :: rest => c :: doubleQuotes rest
  | [] => []

/-- The inside of a source form, ready to stand between double quotes. -/
def inside (source : List Char) : List Char :=
  match source with
  | '\x27' :: rest => doubleQuotes rest.dropLast
  | '\x22' :: rest => rest.dropLast
  | other => other

/-- A source form as a text. -/
def sourceToml (source : String) : Except Fault String := do
  return "\"" ++ String.ofList (← rejoinAll (cutAtEscapes (inside source.toList))) ++ "\""

/-- A text. -/
def textToml (text : String) : Except Fault String :=
  sourceToml (quoted text)

/-! ### Values -/

/-- Drop the zero that pads an exponent. -/
def shortExponent : List Char → List Char
  | 'e' :: sign :: '0' :: rest => 'e' :: sign :: rest
  | c :: rest => c :: shortExponent rest
  | [] => []

/-- A float. -/
def floatToml (x : Float) : String :=
  String.ofList (shortExponent (floatText x).toList)

/-- Items between brackets, each with a comma. -/
def enclose (items : List String) : String :=
  "[" ++ String.join (items.map fun item => " " ++ item ++ ",") ++ "]"

mutual

/-- A value in an entry. Of a map in a list nothing but the keys is written. -/
def printValue : Datum → Except Fault String
  | .null => sourceToml "None"
  | .bool value => .ok (if value then "true" else "false")
  | .int value => Json.integerJson value
  | .float value => .ok (floatToml value)
  | .text value => textToml value
  | .list items | .tuple items => do return enclose (← printItems items)
  | .dict entries => do return enclose (← printKeys entries)
  | .tokens sequence => do return enclose (← sequence.mapM fun piece => sourceToml piece.describe)
  | other => sourceToml other.source

/-- The items of a list. -/
def printItems : List Datum → Except Fault (List String)
  | [] => return []
  | item :: rest => do return (← printValue item) :: (← printItems rest)

/-- The keys of a map. -/
def printKeys : List (Datum × Datum) → Except Fault (List String)
  | [] => return []
  | (key, _) :: rest => do return (← printValue key) :: (← printKeys rest)

end

/-! ### Tables -/

/-- Whether a key needs no quotes. A line feed at its end goes unnoticed. -/
def isBareKey (key : String) : Bool :=
  let chars := key.toList
  let chars := if chars.getLast? == some '\n' then chars.dropLast else chars
  !chars.isEmpty && chars.all fun c => isAsciiLetter c || isAsciiDigit c || c == '_' || c == '-'

/-- A key, quoted where it needs quotes. -/
def printKey (key : String) : Except Fault String :=
  if isBareKey key then .ok key else textToml key

/-- A table that has been written, and its sub-tables, which have not. -/
structure Written where
  lines : String := ""
  arrays : String := ""
  tables : Assoc String Datum := []

/-- The text of a table that has been written. -/
def Written.text (written : Written) : String :=
  written.lines ++ written.arrays

/-- Whether a datum is a map. -/
def isMap : Datum → Bool
  | .dict _ => true
  | _ => false

/-- A header with the path of a table. -/
def header (path : String) : String := "[" ++ path ++ "]\n"

/-- The entries of a datum in the place of a table. -/
def tableEntries : Datum → Except Fault (List (Datum × Datum))
  | .dict entries => .ok entries
  | .list [] => .ok []
  | .list _ => .error .textIndexOfList
  | .text content => if content.isEmpty then .ok [] else .error .textIndexOfText
  | other => .error (.notIterable other.typeName)

mutual

/-- Write a table of at most `depth` layers, whose path is `path`. -/
def writeTable : Nat → String → Datum → Except Fault Written
  | 0, _, _ => return {}
  | depth + 1, path, table => do
    let start := if path.isEmpty then "" else path ++ "."
    let entries ← tableEntries table
    entries.foldlM (fun written (key, _) => do
      let label := key.plain
      let name ← printKey label
      let line (value : Datum) : Except Fault Written := do
        return { written with lines := written.lines ++ name ++ " = " ++ (← printValue value) ++ "\n" }
      match Datum.entry? entries label with
      | none => throw (.missingKey (.text label))
      | some (.dict inner) => return { written with tables := written.tables.put name (.dict inner) }
      | some (.list items) =>
        if items.any isMap then
          let arrays ← items.mapM (writeArrayTable depth (start ++ name))
          return { written with arrays := written.arrays ++ String.join arrays }
        else line (.list items)
      | some .null => return written
      | some value => line value) {}

/-- Write one of an array of tables, with its sub-tables. -/
def writeArrayTable : Nat → String → Datum → Except Fault String
  | 0, _, _ => return ""
  | depth + 1, path, table => do
    let written ← writeTable depth path table
    let text := written.text
    let content := if text.startsWith "[" then "\n" ++ text else text ++ "\n"
    return "[[" ++ path ++ "]]\n" ++ content ++ (← writeInArray depth path written.tables)

/-- Write the sub-tables of one of an array of tables. A sub-table without entries is left out. -/
def writeInArray : Nat → String → Assoc String Datum → Except Fault String
  | 0, _, _ => return ""
  | depth + 1, path, tables => do
    if tables.isEmpty then return ""
    else
      let (text, next) ← tables.foldlM (fun (text, next) (name, table) => do
        let written ← writeTable depth (path ++ "." ++ name) table
        let content := written.text
        let text := if content.isEmpty then text else text ++ header (path ++ "." ++ name) ++ content
        let inner := written.tables.map fun (label, table) => (name ++ "." ++ label, table)
        return (text, Assoc.update next inner)) ("", [])
      return text ++ (← writeInArray depth path next)

end

/-- Write the tables of a level and of the levels below it, after what has been written. -/
def writeLevels : Nat → String → Assoc String Datum → Except Fault String
  | 0, text, _ => return text
  | depth + 1, text, tables => do
    if tables.isEmpty then return text
    else
      let (text, next) ← tables.foldlM (fun (text, next) (path, table) => do
        let written ← writeTable depth path table
        let content := written.text
        let gap := if text.isEmpty || text.endsWith "\n\n" then "" else "\n"
        let text :=
          if content.isEmpty && !written.tables.isEmpty then text
          else text ++ gap ++ header path ++ content
        let inner := written.tables.map fun (label, table) => (path ++ "." ++ label, table)
        return (text, Assoc.update next inner)) (text, [])
      writeLevels depth text next

/-- A map as a document. -/
def write (datum : Datum) : Except Fault String := do
  let depth := 2 * datum.layers + 4
  let written ← writeTable depth "" datum
  writeLevels depth written.text written.tables

end Linework.Document.Toml
