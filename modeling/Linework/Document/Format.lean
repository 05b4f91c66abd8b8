import Linework.Text.Blank
import Linework.Text.Case

/-!
# Formats of documents

A format is known by its name, by the end of a file's name, or by how a text begins.
-/

namespace Linework.Document

open Linework.Text

/-- A format that documents are read and written in. -/
inductive Format where
  | json
  | yaml
  | toml
  | xml
deriving DecidableEq

namespace Format

/-- The name of a format. -/
def name : Format → String
  | .json => "json"
  | .yaml => "yaml"
  | .toml => "toml"
  | .xml => "xml"

/-- The format of a name, whose case does not count. -/
def ofName? (word : String) : Option Format :=
  [Format.json, .yaml, .toml, .xml].find? fun format => format.name == lower word

/-- The ends of file names that tell a format. -/
def endings : List (String × Format) :=
  [(".json", .json), (".yaml", .yaml), (".yml", .yaml), (".toml", .toml), (".xml", .xml)]

/-- The format of a file by its name. -/
def ofPath? (path : String) : Option Format :=
  (endings.find? fun (ending, _) => ending.toList.isSuffixOf (lower path).toList).map (·.2)

/-- The format of a text by its first character. -/
def ofStart? (text : String) : Option Format :=
  match (trimLeft text).toList.head? with
  | some '\x7b' | some '[' => some .json
  | some '<' => some .xml
  | _ => none

/-- The format of a text in a file: the file's name decides first. -/
def detect? (path text : Option String) : Option Format :=
  match ofPath? (path.getD "") with
  | some format => some format
  | none => text.bind ofStart?

end Format

end Linework.Document
