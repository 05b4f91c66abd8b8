import Linework.Fault

/-!
# Plain data

Documents hold nothing but numbers, texts, lists and maps, so before a datum is written, results,
elements, commands, points and tokens become maps, and tuples become lists. What has no plain form, such
as an object with named fields, is left for the writer to refuse or to show in its own way.
-/

namespace Linework.Datum

/-- A map with texts for keys. -/
def labelled (fields : List (String × Datum)) : Datum :=
  .dict (fields.map fun (name, value) => (.text name, value))

/-- A text that may be missing. -/
def ofText? : Option String → Datum
  | some content => .text content
  | none => .null

mutual

/-- A datum by its fields, as part of a command, a point or a token. -/
def byFields : Datum → Datum
  | .list items | .tuple items => .list (byFieldsAll items)
  | .dict entries => .dict (byFieldsEntries entries)
  | .point x y => labelled [("x", byFields x), ("y", byFields y)]
  | .token piece => labelled [("kind", .kind piece.kind), ("text", .text piece.text)]
  | .command name arguments =>
    labelled [("name", .text name), ("args", labelled (byFieldsArguments arguments))]
  | .element tag attributes =>
    labelled [("tag", .text tag), ("attributes", .dict (byFieldsEntries attributes))]
  | .result verb name elements =>
    labelled [("command", .text verb), ("elements", .list (byFieldsAll elements)), ("name", ofText? name),
      ("script_interface", .null)]
  | other => other

/-- Several data by their fields. -/
def byFieldsAll : List Datum → List Datum
  | [] => []
  | item :: rest => byFields item :: byFieldsAll rest

/-- The values of a map by their fields. -/
def byFieldsEntries : List (Datum × Datum) → List (Datum × Datum)
  | [] => []
  | (key, value) :: rest => (key, byFields value) :: byFieldsEntries rest

/-- The arguments of a command by their fields. -/
def byFieldsArguments : List (String × Datum) → List (String × Datum)
  | [] => []
  | (flag, value) :: rest => (flag, byFields value) :: byFieldsArguments rest

end

/-- The fault of data among the elements of a result that are neither elements nor results. -/
def checkElements : List Datum → Except Fault Unit
  | [] => .ok ()
  | .element .. :: rest => checkElements rest
  | .result _ _ elements :: rest => do
    checkElements elements
    checkElements rest
  | other :: _ => .error (.noAttribute other.typeName "to_dict")

mutual

/-- The plain form of a datum. A result names itself only if it has a name, and shows nothing of what
scripts see of it. -/
def toPlain : Datum → Except Fault Datum
  | .list items | .tuple items => do return .list (← toPlainAll items)
  | .dict entries => do return .dict (← toPlainEntries entries)
  | .element tag attributes => do
    return labelled [("tag", .text tag), ("attributes", .dict (← toPlainEntries attributes))]
  | .result verb name elements => do
    checkElements elements
    let named :=
      match name with
      | some name => if name.isEmpty then [] else [("name", Datum.text name)]
      | none => []
    return labelled ([("command", .text verb)] ++ named ++ [("elements", .list (← toPlainAll elements))])
  | other => return byFields other

/-- The plain forms of several data. -/
def toPlainAll : List Datum → Except Fault (List Datum)
  | [] => return []
  | item :: rest => do return (← toPlain item) :: (← toPlainAll rest)

/-- A map with its values in plain form. -/
def toPlainEntries : List (Datum × Datum) → Except Fault (List (Datum × Datum))
  | [] => return []
  | (key, value) :: rest => do return (key, ← toPlain value) :: (← toPlainEntries rest)

end

/-! ### Depth -/

mutual

/-- How deep lists and maps nest in a datum. -/
def layers : Datum → Nat
  | .list items | .tuple items => layersOfAll items + 1
  | .dict entries => layersOfEntries entries + 1
  | _ => 1

/-- The most layers of several data. -/
def layersOfAll : List Datum → Nat
  | [] => 0
  | item :: rest => max (layers item) (layersOfAll rest)

/-- The most layers of the values of a map. -/
def layersOfEntries : List (Datum × Datum) → Nat
  | [] => 0
  | (_, value) :: rest => max (layers value) (layersOfEntries rest)

end

end Linework.Datum
