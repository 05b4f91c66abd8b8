import Linework.Script.Fragment
import Linework.Script.Language
import Linework.Script.Show

/-!
# The script language

The language of scripts, with what hosting it in documents takes. Values are written and exceptions worded as
the language does by itself. A fragment that cannot be read throws an exception as well.
-/

namespace Linework.Script

open Linework.Decimal

/-! ### Data as values -/

namespace World

mutual

/-- Make a datum known to scripts; its value. -/
def load (world : World) : Datum → Value × World
  | .null => (.null, world)
  | .bool value => (.bool value, world)
  | .int value => (.int value, world)
  | .float value => (.float value, world)
  | .text value => (.text value, world)
  | .list items =>
    let (items, world) := loadItems world items
    world.add (.list items.toArray)
  | .tuple items =>
    let (items, world) := loadItems world items
    (.tuple items, world)
  | .dict entries =>
    let (entries, world) := loadEntries world entries
    world.add (.dict entries)
  | .point x y =>
    let (x, world) := load world x
    let (y, world) := load world y
    (.point x y, world)
  | .record fields =>
    let (fields, world) := loadFields world fields
    world.add (.record fields)
  | other => (.foreign other, world)

/-- Make several data known. -/
def loadItems (world : World) : List Datum → List Value × World
  | [] => ([], world)
  | item :: rest =>
    let (value, world) := load world item
    let (values, world) := loadItems world rest
    (value :: values, world)

/-- Make the entries of a map known. -/
def loadEntries (world : World) : List (Datum × Datum) → List (Value × Value) × World
  | [] => ([], world)
  | (key, item) :: rest =>
    let (key, world) := load world key
    let (value, world) := load world item
    let (values, world) := loadEntries world rest
    ((key, value) :: values, world)

/-- Make the fields of a record known. -/
def loadFields (world : World) : List (String × Datum) → List (String × Value) × World
  | [] => ([], world)
  | (name, item) :: rest =>
    let (value, world) := load world item
    let (values, world) := loadFields world rest
    ((name, value) :: values, world)

end

/-- The datum of a value that scripts may have changed, in at most `depth` layers. What is no datum is
given by its source form. -/
def datum (world : World) : Nat → Value → Datum
  | 0, _ => .null
  | depth + 1, value =>
    let inside (value : Value) : Datum := datum world depth value
    match value with
    | .null => .null
    | .bool value => .bool value
    | .int value => .int value
    | .float value => .float value
    | .text value => .text value
    | .tuple items => .tuple (items.map inside)
    | .point x y => .point (inside x) (inside y)
    | .foreign datum => datum
    | .ref address =>
      match world.object? address with
      | some (.list items) => .list (items.toList.map inside)
      | some (.dict entries) => .dict (entries.map fun (key, value) => (inside key, inside value))
      | some (.record fields) => .record (fields.map fun (name, value) => (name, inside value))
      | _ => .text ((world.source value).toOption.getD "")
    | _ => .text ((world.source value).toOption.getD "")

/-- The names that all fragments share, in order. -/
def names (world : World) : List String :=
  (Assoc.keys world.shared).mergeSort

/-! ### Values as they are written -/

/-- What a value is for the writing of it. -/
def form (world : World) (value : Value) : Form :=
  match value with
  | .null => .nothing
  | .bool value => .truth value
  | .float value => if isWhole value then .whole (truncate value) else .other
  | .tuple _ => .sequence
  | .ref address =>
    match world.object? address with
    | some (.list _) => .sequence
    | _ => .other
  | _ => .other

/-- The items of a list or a tuple. -/
def items (world : World) (sequence : Value) : Array Value :=
  match sequence with
  | .tuple items => items.toArray
  | .ref address =>
    match world.object? address with
    | some (.list items) => items
    | _ => #[]
  | _ => #[]

/-- Whether a value is a sequence with so many layers of others inside. -/
def isLayered (world : World) : Nat → Value → Bool
  | 0, _ => true
  | layers + 1, value => (world.items value).any (isLayered world layers)

/-- Whether an exception is of the ordinary kinds. -/
def isOrdinary (world : World) (exception : Value) : Bool :=
  let cls : Value :=
    match exception with
    | .ref address =>
      match world.object? address with
      | some (.instanceOf cls ..) => cls
      | _ => .null
    | _ => .null
  kindBelongsTo kindSteps (world.rootKind maxClasses cls) "Exception"

end World

/-- The failure of a fragment that cannot be read. -/
def Flaw.failure : Flaw → Failure
  | .ungrammatical => ⟨"SyntaxError", []⟩
  | .indentation => ⟨"IndentationError", []⟩
  | .tabs => ⟨"TabError", []⟩
  | .nullCharacter => Failure.valueError "source code string cannot contain null bytes"
  | .unmodelled => Failure.unknown

/-- The kinds of exceptions that are reported without their message, as those of a reader are. -/
def readingKinds : List String := ["SyntaxError", "IndentationError", "TabError"]

/-- Run what has been read. -/
def Fragment.runRead (read : Except Flaw Fragment) : Run Value :=
  match read with
  | .ok fragment => fragment.run
  | .error flaw => Run.fail flaw.failure

/-- How many layers of sequences can be written for certain. -/
def maxLayers : Nat := 300

/-- How many more there must be for it to be certain that they cannot. -/
def excessLayers : Nat := 700

/-- The script language. -/
def language : Language World Value where
  null := .null
  expression chars := Fragment.runRead (Fragment.readValue chars)
  block chars := Fragment.runRead (Fragment.readStatements chars)
  form := World.form
  item? world sequence index := (world.items sequence)[index]?
  text _ value := do Run.lift ((← get).plain value)
  overflow sequence := do
    Run.fail (if (← get).isLayered excessLayers sequence then Failure.tooDeep else Failure.unknown)
  room := maxLayers
  kind := World.typeName
  isOrdinary := World.isOrdinary
  message exception := do
    let world ← get
    let message ← Run.lift (world.plain exception)
    return if readingKinds.contains (world.typeName exception) then none else some message
  load datum world := world.load datum
  datum world value := world.datum maxShown value
  put name value world := { world with shared := world.shared.put name value }
  erase name world := { world with shared := world.shared.erase name }
  written := World.printed

/-- Fragments of the script language, hosted in one world. -/
abbrev Session := Hosted World Value

namespace Session

/-- All that has been printed, the latest last. -/
def printed (session : Session) : Array String :=
  language.allWritten session

/-- Begin anew. -/
def reset (session : Session) : Session :=
  language.reset session

/-- Make a datum known under a name. -/
def bind (session : Session) (name : String) (datum : Datum) : Session :=
  language.bind session name datum

/-- Forget a name. -/
def unbind (session : Session) (name : String) : Session :=
  language.unbind session name

/-- Evaluate a fragment; its value as text. -/
def evaluate (code : String) (session : Session) : Except Fault String × Session :=
  language.evaluate code session

/-- The script language for documents. -/
def bridge : Expansion.Bridge Session :=
  language.bridge

end Session

end Linework.Script
