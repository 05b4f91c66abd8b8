import Linework.Document.Json.Print
import Linework.Document.Yaml.Page

/-!
# Writing YAML

Lists and maps are written in blocks, each item and each entry on a line of its own; only empty ones are
written between brackets. A list that is the value of an entry keeps the column of the entry. A key that is
not one short line is marked with a question mark.

A text is written without quotes where it is read back as the same text, between single quotes where it
holds no characters that need escapes, and between double quotes else.
-/

namespace Linework.Document.Yaml

open Linework.Text

/-! ### Styles -/

/-- Whether a character, or the end of the text, separates marks from what follows. -/
def isGapOrEnd (c? : Option Char) : Bool :=
  match c? with
  | none => true
  | some c => c == ' ' || c == '\t' || c == '\r' || c == '\n' || c == '\x00'

/-- The characters that no plain scalar begins with. -/
def leadingMarks : List Char := "#,[]&*!|>%@".toList ++ ['\x7b', '\x7d', '\x27', '\x22', '\x60']

/-- Whether the text after a character holds a mark that ends a plain scalar. -/
def hasInnerMark (before : Char) : List Char → Bool
  | [] => false
  | c :: rest =>
    (c == ':' && isGapOrEnd rest.head?) || (c == '#' && isGapOrEnd (some before)) || hasInnerMark c rest

/-- Whether a text holds marks that stand for something else in a block. -/
def hasMarks (chars : List Char) : Bool :=
  match chars with
  | [] => false
  | c :: rest =>
    "---".toList.isPrefixOf chars || "...".toList.isPrefixOf chars || leadingMarks.contains c
      || ((c == '?' || c == ':' || c == '-') && isGapOrEnd rest.head?) || hasInnerMark c rest

/-- Whether one of two characters stands right before the other. -/
def hasPair (first second : Char) : List Char → Bool
  | a :: b :: rest => (a == first && b == second) || hasPair first second (b :: rest)
  | _ => false

/-- Whether a character is written as it is in all styles. -/
def isOrdinary (c : Char) : Bool :=
  c == '\n' || (' ' ≤ c && c ≤ '~')

/-- Whether a text can be written without quotes. -/
def allowsPlain (chars : List Char) : Bool :=
  let isEdge (c? : Option Char) : Bool := c? == some ' '
  !(isEdge chars.head? || isEdge chars.getLast? || chars.contains '\n' || !chars.all isOrdinary
    || hasMarks chars)

/-- Whether a text can be written between single quotes. -/
def allowsSingle (chars : List Char) : Bool :=
  chars.all isOrdinary && !hasPair ' ' '\n' chars && !hasPair '\n' ' ' chars

/-- The style of a text. -/
def styleOf (isKey : Bool) (text : String) : Style :=
  let chars := text.toList
  if Tag.ofText text == .text && allowsPlain chars && !(isKey && chars.isEmpty) then .plain
  else if allowsSingle chars && !(isKey && chars.contains '\n') then .single
  else .double

/-! ### Scalars -/

/-- A float. -/
def floatYaml (x : Float) : String :=
  if x.isNaN then ".nan"
  else if x.isInf then (if x < 0 then "-.inf" else ".inf")
  else
    let text := Decimal.floatText x
    if text.toList.contains '.' then text else text.replace "e" ".0e"

/-- The text and the style of a datum that is a scalar. -/
def scalar? (isKey : Bool) : Datum → Except Fault (Option (String × Style))
  | .null => .ok (some ("null", .plain))
  | .bool value => .ok (some (if value then "true" else "false", .plain))
  | .int value => do return some (← Json.integerJson value, .plain)
  | .float value => .ok (some (floatYaml value, .plain))
  | .text value => .ok (some (value, styleOf isKey value))
  | _ => .ok none

/-- How many characters the tag of a scalar takes. -/
def tagLength : Datum → Nat
  | .null | .bool _ => 6
  | .float _ => 7
  | _ => 5

/-- Whether a datum fits before a colon. -/
def fitsKey (key : Datum) : Bool :=
  match key with
  | .text value =>
    value.length + tagLength key < 128 && !value.isEmpty && !value.toList.contains '\n'
  | .int value => (Decimal.intText value).length + tagLength key < 128
  | .null | .bool _ | .float _ => true
  | .list items | .tuple items => items.isEmpty
  | .dict entries => entries.isEmpty
  | _ => false

/-! ### Nodes -/

/-- Where a node stands. -/
inductive Place where
  | root
  | item
  | entry
  | key
deriving DecidableEq

/-- The column of a scalar's further lines. -/
def innerColumn (indent : Option Nat) : Nat :=
  match indent with
  | some indent => indent + 2
  | none => 2

/-- The column of a block. -/
def blockColumn (indent : Option Nat) : Nat :=
  match indent with
  | some indent => indent + 2
  | none => 0

/-- Write a scalar. -/
def putScalar (page : Page) (indent : Option Nat) (isKey : Bool) (text : String) (style : Style) : Page :=
  let column := innerColumn indent
  match style with
  | .plain => page.putPlain column (!isKey) text.toList
  | .single => page.putSingle column (!isKey) text.toList
  | .double => page.putDouble column (!isKey) text.toList

mutual

/-- Write a datum inside of a block at a column. -/
def putNode (page : Page) (indent : Option Nat) (place : Place) : Datum → Except Fault Page
  | .list [] | .tuple [] => .ok ((page.mark "[" true false).mark "]" false false)
  | .dict [] => .ok ((page.mark "\x7b" true false).mark "\x7d" false false)
  | .list items | .tuple items =>
    let column :=
      if (place == .entry || place == .key) && !page.isFresh then indent.getD 0 else blockColumn indent
    putItems page column items
  | .dict entries => putEntries page (blockColumn indent) entries
  | other => do
    match ← scalar? (place == .key) other with
    | some (text, style) => return putScalar page indent (place == .key) text style
    | none => throw (.notRepresentable other.source)

/-- Write the items of a list at a column. -/
def putItems (page : Page) (column : Nat) : List Datum → Except Fault Page
  | [] => .ok page
  | item :: rest => do
    let page ← putNode ((page.startLine column).mark "-" true true) (some column) .item item
    putItems page column rest

/-- Write the entries of a map at a column. -/
def putEntries (page : Page) (column : Nat) : List (Datum × Datum) → Except Fault Page
  | [] => .ok page
  | (key, value) :: rest => do
    let page := page.startLine column
    let page ←
      if fitsKey key then do
        let page ← putNode page (some column) .key key
        pure (page.mark ":" false false)
      else do
        let page ← putNode (page.mark "?" true true) (some column) .entry key
        pure ((page.startLine column).mark ":" true true)
    let page ← putNode page (some column) .entry value
    putEntries page column rest

end

/-- Whether a document is one plain scalar, whose end has to be marked. -/
def isOpenEnded (datum : Datum) : Bool :=
  match datum with
  | .text value => styleOf false value == .plain
  | .null | .bool _ | .int _ | .float _ => true
  | _ => false

/-- A datum as a document. -/
def write (datum : Datum) : Except Fault String := do
  let page := (← putNode {} none .root datum).startLine 0
  let page := if isOpenEnded datum then (page.mark "..." true false).startLine 0 else page
  return String.ofList page.text.toList

end Linework.Document.Yaml
