import Linework.Datum
import Linework.Token.Print

/-!
# Data as text

Two forms of a datum: the *source form*, which shows texts in quotes and every type by its brackets or
its field names, and the *spliced form*, which a script's result takes in the notation.
-/

namespace Linework.Datum

open Linework.Decimal Linework.Text

/-- Items between brackets, separated by commas. -/
def between (left right : String) (items : List String) : String :=
  left ++ ", ".intercalate items ++ right

mutual

/-- The source form of a datum. -/
def source : Datum → String
  | .null => "None"
  | .bool value => if value then "True" else "False"
  | .int value => intText value
  | .float value => floatText value
  | .text value => quoted value
  | .list items => between "[" "]" (sources items)
  | .tuple [item] => "(" ++ source item ++ ",)"
  | .tuple items => between "(" ")" (sources items)
  | .dict entries => between "\x7b" "\x7d" (entrySources entries)
  | .point x y => "Point(x=" ++ source x ++ ", y=" ++ source y ++ ")"
  | .record fields => between "namespace(" ")" (fieldSources "=" fields)
  | .token piece => piece.describe
  | .kind sort => "<TokenKind." ++ sort.label ++ ": " ++ quoted sort.word ++ ">"
  | .tokens sequence => Token.list sequence
  | .command name arguments =>
    "Command(name=" ++ quoted name ++ ", args=" ++ between "\x7b" "\x7d" (argumentSources arguments) ++ ")"
  | .element tag attributes =>
    "Element(tag=" ++ quoted tag ++ ", attributes=" ++ between "\x7b" "\x7d" (entrySources attributes) ++ ")"
  | .result verb name elements =>
    "CommandResult(command=" ++ quoted verb ++ ", elements=" ++ between "[" "]" (sources elements)
      ++ ", name=" ++ (match name with | some name => quoted name | none => "None")
      ++ ", script_interface=None)"

/-- The source forms of a list of data. -/
def sources : List Datum → List String
  | [] => []
  | item :: rest => source item :: sources rest

/-- The source forms of map entries. -/
def entrySources : List (Datum × Datum) → List String
  | [] => []
  | (key, value) :: rest => (source key ++ ": " ++ source value) :: entrySources rest

/-- The source forms of named fields, with `mark` between name and value. -/
def fieldSources (mark : String) : List (String × Datum) → List String
  | [] => []
  | (name, value) :: rest => (name ++ mark ++ source value) :: fieldSources mark rest

/-- The source forms of the flags of a command and their values. -/
def argumentSources : List (String × Datum) → List String
  | [] => []
  | (flag, value) :: rest => (quoted flag ++ ": " ++ source value) :: argumentSources rest

end

mutual

/-- The form of a datum that is spliced into the notation: nothing for the null datum, whole floats
without their point, lists as words, and texts as they are. -/
def spliced : Datum → String
  | .null => ""
  | .bool value => if value then "true" else "false"
  | .int value => intText value
  | .float value => if isWhole value then intText (truncate value) else floatText value
  | .text value => value
  | .list items | .tuple items => " ".intercalate (splicedAll items)
  | .point x y => spliced x ++ " " ++ spliced y
  | .dict entries => source (.dict entries)
  | .record fields => source (.record fields)
  | .token piece => piece.describe
  | .kind sort => "TokenKind." ++ sort.label
  | .tokens sequence => Token.list sequence
  | .command name arguments => source (.command name arguments)
  | .element tag attributes => source (.element tag attributes)
  | .result verb name elements => source (.result verb name elements)

/-- The spliced forms of a list of data. -/
def splicedAll : List Datum → List String
  | [] => []
  | item :: rest => spliced item :: splicedAll rest

end

/-- The plain form: texts as they are, points as they are spliced, all else in source form. -/
def plain : Datum → String
  | .text value => value
  | .point x y => spliced (.point x y)
  | .kind sort => spliced (.kind sort)
  | other => source other

end Linework.Datum
