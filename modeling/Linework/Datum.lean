import Linework.Assoc
import Linework.Command
import Linework.Decimal.Notation
import Linework.Text.Quoted

/-!
# Data

A `Datum` is a value of any of the types that configurations, documents, element attributes and
scripts exchange.
-/

namespace Linework

/-- A value of any type. -/
inductive Datum where
  | null
  | bool (value : Bool)
  | int (value : Int)
  | float (value : Float)
  | text (value : String)
  | list (items : List Datum)
  | tuple (items : List Datum)
  | dict (entries : List (Datum × Datum))
  /-- A point of the drawing plane. -/
  | point (x y : Datum)
  /-- An object with named fields, as handlers bind into scripts. -/
  | record (fields : List (String × Datum))
  | token (token : Token)
  | kind (kind : Kind)
  | tokens (tokens : List Token)
  | command (name : String) (arguments : List (String × Datum))
  /-- A drawing element. -/
  | element (tag : String) (attributes : List (Datum × Datum))
  /-- What a command has drawn. -/
  | result (command : String) (name : Option String) (elements : List Datum)

instance : Inhabited Datum := ⟨.null⟩

namespace Datum

open Linework.Decimal Linework.Text

/-- The name of a datum's type, as faults mention it. -/
def typeName : Datum → String
  | .null => "NoneType"
  | .bool _ => "bool"
  | .int _ => "int"
  | .float _ => "float"
  | .text _ => "str"
  | .list _ => "list"
  | .tuple _ => "tuple"
  | .dict _ => "dict"
  | .point .. => "Point"
  | .record _ => "types.SimpleNamespace"
  | .token _ => "Token"
  | .kind _ => "TokenKind"
  | .tokens _ => "TokenList"
  | .command .. => "Command"
  | .element .. => "Element"
  | .result .. => "CommandResult"

/-- The name of a datum's type without the module that it belongs to. -/
def shortTypeName (datum : Datum) : String :=
  (datum.typeName.splitOn ".").getLast?.getD ""

/-- Whether a datum counts as present: zero, the empty text and empty containers do not. -/
def isTruthy : Datum → Bool
  | .null => false
  | .bool value => value
  | .int value => value != 0
  | .float value => value != 0
  | .text value => !value.isEmpty
  | .list items | .tuple items => !items.isEmpty
  | .dict entries => !entries.isEmpty
  | .tokens sequence => !sequence.isEmpty
  | _ => true

/-- A number that a key may be: truth values count as zero and one. -/
def asInt? : Datum → Option Int
  | .bool value => some (if value then 1 else 0)
  | .int value => some value
  | .float value => if isWhole value then some (truncate value) else none
  | _ => none

/-- Whether two keys of a map are one. Numbers are compared by value across their types. -/
def sameKey (first second : Datum) : Bool :=
  match first, second with
  | .text a, .text b => a == b
  | .null, .null => true
  | .float a, .float b => a == b
  | .tuple a, .tuple b => sameKeys a b
  | _, _ =>
    match first.asInt?, second.asInt? with
    | some a, some b => a == b
    | _, _ => false
where
  /-- Whether two sequences of keys agree. -/
  sameKeys : List Datum → List Datum → Bool
    | [], [] => true
    | a :: as, b :: bs => sameKey a b && sameKeys as bs
    | _, _ => false

instance : BEq Datum := ⟨sameKey⟩

/-- The entry of a map under a text. -/
def entry? (entries : List (Datum × Datum)) (key : String) : Option Datum :=
  Assoc.get? entries (.text key)

end Datum

end Linework
