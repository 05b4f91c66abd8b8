import Linework.Document.Yaml.Node

/-!
# Reading YAML

The datum of a document. Of entries with one key the last counts; a map takes in the entries of the maps
under its merge keys, where it has none of its own.
-/

namespace Linework.Document.Yaml

namespace Node

/-- Whether a node is the key under which a map takes in other maps. -/
def isMerge : Node → Bool
  | .scalar .merge _ => true
  | _ => false

/-- The entries of a map with those of the maps that it takes in before them, in at most `depth` layers. -/
def allEntries : Nat → List (Node × Node) → Except Fault (List (Node × Node))
  | 0, _ => flawed
  | depth + 1, entries => do
    let taken ← (entries.filter fun (key, _) => key.isMerge).mapM fun (_, value) => do
      match value with
      | .map _ inner => allEntries depth inner
      | .list _ items =>
        let parts ← items.mapM fun item => do
          match item with
          | .map _ inner => allEntries depth inner
          | _ => flawed
        return parts.reverse.flatten
      | .scalar .. => flawed
    return taken.flatten ++ entries.filter fun (key, _) => !key.isMerge

/-- The datum of a scalar. -/
def scalarDatum (tag : Tag) (text : String) : Except Fault Datum :=
  match tag with
  | .null => .ok .null
  | .bool =>
    match Tag.truthWords.lookup (text.map Char.toLower) with
    | some value => .ok (.bool value)
    | none => flawed
  | .int => do return .int (← Tag.readInt text)
  | .float => do return .float (← Tag.readFloat text)
  | .text | .timestamp => .ok (.text text)
  | .merge | .default | .list | .map | .unknown => flawed

/-- The datum of a key, which must be a scalar. -/
def keyDatum : Node → Except Fault Datum
  | .scalar .default text => .ok (.text text)
  | .scalar tag text => scalarDatum tag text
  | _ => flawed

/-- The datum of a node, in at most `depth` layers. -/
def datum : Nat → Node → Except Fault Datum
  | 0, _ => flawed
  | _ + 1, .scalar tag text => scalarDatum tag text
  | depth + 1, .list tag items => do
    if tag != .list then flawed
    else return .list (← items.mapM (datum depth))
  | depth + 1, .map tag entries => do
    if tag != .map then flawed
    else
      let entries ← (← allEntries depth entries).mapM fun (key, value) => do
        let key ← keyDatum key
        return (key, ← datum depth value)
      return .dict (Assoc.ofPairs entries)

end Node

/-- Read a document. One without content is the null datum. -/
def read (text : String) : Except Fault Datum := do
  match ← Node.read? text with
  | none => return .null
  | some node => node.datum (text.length + 2)

end Linework.Document.Yaml
