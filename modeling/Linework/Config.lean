import Linework.Config.Default
import Linework.Document
import Linework.Drawing.Parameters
import Linework.Folder

/-!
# Configurations

A configuration is a map with the sections `options` and `commands`. It is read from a file whose name tells
its format, and laid over the default configuration: options one by one, and of the commands each with all
of its parameters.
-/

namespace Linework.Config

open Linework.Text Linework.Document

/-- The ends of names of configuration files. -/
def endings : List (String × Format) :=
  [(".yaml", .yaml), (".yml", .yaml), (".json", .json), (".toml", .toml)]

/-- The sections that must be maps. -/
def sections : List String := ["options", "commands"]

/-- Whether a datum is a map. -/
def isMap : Datum → Bool
  | .dict _ => true
  | _ => false

/-- Read a configuration. -/
def load (folder : Folder) (pathText : String) : Except Fault Datum := do
  let path := Path.ofText pathText
  match endings.lookup (lower path.suffix) with
  | none => throw (.unknownConfigType (if path.suffix.isEmpty then path.name else path.suffix))
  | some format =>
    match ← readAs format (← folder.read path) with
    | .null => return .dict []
    | .dict entries =>
      let isFlawed (section' : String) : Bool := (Datum.entry? entries section').any (!isMap ·)
      match sections.find? isFlawed with
      | some name => throw (.sectionNotMap name path.toText)
      | none => return .dict entries
    | _ => throw (.configNotMap path.toText)

/-- The entries of a datum of which a method is asked. -/
def entriesFor (method : String) : Datum → Except Fault (List (Datum × Datum))
  | .dict entries => .ok entries
  | other => .error (.noAttribute other.typeName method)

/-- Lay one section of a configuration over that of another. -/
def mergeSection (name : String) (base : List (Datum × Datum)) (override : Datum) :
    Except Fault (List (Datum × Datum)) := do
  let key := Datum.text name
  let own := (Assoc.get? base key).getD (.dict [])
  let entries ← entriesFor "update" own
  let added := (Datum.entry? (← entriesFor "get" override) name).getD .null
  return Assoc.put base key (.dict (Assoc.update entries (← Drawing.toMap added)))

/-- Lay a configuration over another. -/
def merge (base override : Datum) : Except Fault Datum := do
  let entries ← entriesFor "setdefault" base
  let entries ← mergeSection "options" entries override
  let entries ← mergeSection "commands" entries override
  return .dict entries

/-- A section of a configuration; one that is missing is empty. -/
def sectionOf (config : Datum) (name : String) : List (Datum × Datum) :=
  match config with
  | .dict entries =>
    match Datum.entry? entries name with
    | some (.dict inner) => inner
    | _ => []
  | _ => []

/-- The default configuration, with the one in a file laid over it if there is one. -/
def read (folder : Folder) (path : Option String) : Except Fault Datum := do
  match path with
  | none => return default
  | some path => merge default (← load folder path)

end Linework.Config
