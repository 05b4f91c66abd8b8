import Linework.Datum.Number

/-!
# Parameters of commands

A command's parameters map each of its flags to a description: its long `name`, how many `values` it
takes (one unless told otherwise), and whether it is copied into the attributes of what is drawn.
-/

namespace Linework.Drawing

/-- The description of each flag. -/
abbrev Parameters := Assoc Datum Datum

/-- A description as a map; one that counts as absent is empty. -/
def describe (description : Datum) : Except Fault (List (Datum × Datum)) :=
  if !description.isTruthy then .ok []
  else
    match description with
    | .dict entries => .ok entries
    | other => .error (.noAttribute other.typeName "get")

/-- How many values a flag takes. -/
def arity (description : Datum) : Except Fault Int := do
  match Datum.entry? (← describe description) "values" with
  | some value => value.toInteger
  | none => return 1

/-- The arity of each flag. -/
def Parameters.schema (parameters : Parameters) : Except Fault (List (Datum × Int)) :=
  parameters.mapM fun (flag, description) => do return (flag, ← arity description)

/-- The texts of a schema's flags; a flag that is no text is never a word. -/
def wordSchema (schema : List (Datum × Int)) : Schema :=
  schema.filterMap fun (flag, count) =>
    match flag with
    | .text word => some (word, count)
    | _ => none

/-- Whether a datum can be a key. -/
def hashable : Datum → Bool
  | .list _ | .dict _ | .record _ | .command .. | .element .. | .result .. => false
  | _ => true

/-- Join texts by single spaces. -/
def joinTexts (index : Nat) : List Datum → Except Fault (List String)
  | [] => .ok []
  | .text word :: rest => do return word :: (← joinTexts (index + 1) rest)
  | other :: _ => .error (.notText index other.typeName)

/-- The attributes that the values of some flags give. -/
def attributesOf (arguments : Assoc Datum Datum) (parameters : Parameters) :
    Except Fault (Assoc Datum Datum) :=
  arguments.foldlM (fun attributes (flag, values) => do
    let entries ← describe ((Assoc.get? parameters flag).getD .null)
    if (Datum.entry? entries "attribute").any Datum.isTruthy then
      let name := (Datum.entry? entries "name").getD flag
      let items ←
        match values.items with
        | .ok items => .ok items
        | .error _ => .error (.reported "TypeError" "can only join an iterable")
      let words ← joinTexts 0 items
      if hashable name then
        return Assoc.put attributes name (.text (" ".intercalate words))
      else .error (.unhashable name.typeName)
    else return attributes) []

/-- Bound arguments as data. -/
def argumentData (arguments : Arguments) : Assoc Datum Datum :=
  arguments.map fun (flag, values) => (.text flag, .list (values.map .text))

/-- A datum as a map: a map is itself, a list of pairs is the map of its pairs, and whatever counts as
absent is empty. -/
def toMap (value : Datum) : Except Fault (Assoc Datum Datum) := do
  if !value.isTruthy then return []
  match value with
  | .dict entries => return entries
  | other =>
    let pairs ← (← other.items).zipIdx.mapM fun (item, index) => do
      match item.items with
      | .ok [key, value] =>
        if hashable key then return (key, value) else .error (.unhashable key.typeName)
      | .ok items =>
        .error (.reported "ValueError" ("dictionary update sequence element #" ++ Decimal.natText index
          ++ " has length " ++ Decimal.natText items.length ++ "; 2 is required"))
      | .error _ =>
        .error (.reported "TypeError" ("cannot convert dictionary update sequence element #"
          ++ Decimal.natText index ++ " to a sequence"))
    return Assoc.ofPairs pairs

end Linework.Drawing
