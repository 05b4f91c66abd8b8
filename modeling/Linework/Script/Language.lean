import Linework.Decimal.Notation
import Linework.Expansion.Machine
import Linework.Script.Sigil
import Linework.Text.Blank

/-!
# Script languages

What is needed of a language to host fragments of it in documents: how an expression and a block of
statements are run, how a value is written, and how an exception is worded. Around this, hosting is the same
for every language. A fragment is told by an equals sign to be an expression; its value is given as the text
that takes the fragment's place; and a fragment that throws an exception has the empty text for its value, and
is reported on.

What a fragment does depends on the world of the names that fragments share, and changes nothing else.
-/

namespace Linework.Script

open Linework.Decimal Linework.Text

/-- Why a run stops before its end. -/
inductive Halt (ν : Type) where
  /-- An exception that has not been handled. -/
  | thrown (exception : ν)
  /-- The run does not end, or not within what is known of the language. -/
  | exhausted

/-- A run in a world that it can change. -/
abbrev Running (ω ν : Type) := ExceptT (Halt ν) (StateM ω)

/-- Run something that may throw an exception; its result or that exception. -/
def Running.attempt {ω ν α : Type} (action : Running ω ν α) : Running ω ν (Except ν α) :=
  tryCatch (Except.ok <$> action) fun
    | .thrown exception => return .error exception
    | .exhausted => throw .exhausted

/-- What a value is for the writing of it. -/
inductive Form where
  | nothing
  | truth (value : Bool)
  /-- A number that is no integer by its type, but by its value. -/
  | whole (value : Int)
  /-- A list or a tuple. -/
  | sequence
  | other

/-- A script language, with worlds and values of some types. -/
structure Language (ω ν : Type) where
  /-- The value of a fragment without code. -/
  null : ν
  /-- Run an expression; its value. -/
  expression : List Char → Running ω ν ν
  /-- Run a block of statements; the value that it is left with. -/
  block : List Char → Running ω ν ν
  form : ω → ν → Form
  /-- The item of a sequence at an index, if it is that long. -/
  item? : ω → ν → Nat → Option ν
  /-- The plain text of a value, where the stack has room for so many more layers of sequences. -/
  text : Nat → ν → Running ω ν String
  /-- What writing a sequence comes to where the stack has no room for its layer. -/
  overflow : ν → Running ω ν String
  /-- How many layers of sequences the stack has room for. -/
  room : Nat
  /-- The kind of an exception. -/
  kind : ω → ν → String
  /-- Whether an exception is of the ordinary kinds, which are there to be handled. -/
  isOrdinary : ω → ν → Bool
  /-- The message of an exception, unless its kind says it all. -/
  message : ν → Running ω ν (Option String)
  /-- A datum as a value. -/
  load : Datum → ω → ν × ω
  /-- What has become of a datum. -/
  datum : ω → ν → Datum
  /-- Give a name a value. -/
  put : String → ν → ω → ω
  /-- Forget a name. -/
  erase : String → ω → ω
  /-- What fragments have written to the standard output of the host. -/
  written : ω → Array String

/-- Fragments hosted in one world. -/
structure Hosted (ω ν : Type) [Inhabited ω] where
  world : ω := default
  /-- The reports on fragments that failed, the latest last. -/
  reports : Array String := #[]
  /-- The values that were bound for results, the latest last. -/
  interfaces : Array ν := #[]
  /-- What was written in the worlds before this one. It is out of the reach of fragments. -/
  writtenBefore : Array String := #[]

/-- What evaluation makes of a fragment. -/
inductive Reply where
  | text (text : String)
  /-- The fragment has failed for a reason. -/
  | failure (reason : String)
  deriving DecidableEq

/-- A bound for the steps in which a value is written. -/
def maxWritten : Nat := Nat.pow 2 40

namespace Language

variable {ω ν : Type} (language : Language ω ν)

/-! ## Running and writing -/

/-- Run a fragment; its value. -/
def run (code : String) : Running ω ν ν :=
  let chars := dropSigils code.toList
  match trimBy isBlank chars with
  | [] => return language.null
  | '=' :: rest => language.expression (trimBy isBlank rest)
  | _ => language.block chars

mutual

/-- The text of a value that takes a fragment's place: nothing for nothing, whole numbers without a point, and
of sequences the items as words. -/
def write : Nat → Nat → ν → Running ω ν String
  | 0, _, _ => throw .exhausted
  | steps + 1, room, value => do
    match language.form (← get) value with
    | .nothing => return ""
    | .truth value => return if value then "true" else "false"
    | .whole value => return intText value
    | .other => language.text room value
    | .sequence =>
      match room with
      | 0 => language.overflow value
      | room + 1 => return " ".intercalate (← writeFrom steps room value 0)

/-- The texts of the items of a sequence from an index on. The sequence is looked at anew for each, as writing
an item may change it. -/
def writeFrom : Nat → Nat → ν → Nat → Running ω ν (List String)
  | 0, _, _, _ => throw .exhausted
  | steps + 1, room, sequence, index => do
    match language.item? (← get) sequence index with
    | none => return []
    | some item =>
      let text ← write steps room item
      return text :: (← writeFrom steps room sequence (index + 1))

end

/-- What a report says of an exception. -/
def reason (exception : ν) : Running ω ν String := do
  let kind := language.kind (← get) exception
  match ← language.message exception with
  | none => return kind
  | some message => return kind ++ ": " ++ message

/-- Run a fragment and write its value. Exceptions of the ordinary kinds are handled, but only those that the
run of the fragment throws. -/
def reply (code : String) : Running ω ν Reply := do
  match ← (language.run code).attempt with
  | .ok value => return .text (← language.write maxWritten language.room value)
  | .error exception =>
    if language.isOrdinary (← get) exception then return .failure (← language.reason exception)
    else throw (.thrown exception)

/-- An exception as a fault that nothing handles. Whoever looks at its message does so without an effect;
one that cannot be made is empty, and where making one does not end, neither does the evaluation. -/
def escapingFault (world : ω) (exception : ν) : Fault :=
  match ((language.message exception).run.run world).1 with
  | .ok message => .escaping (language.kind world exception) (message.getD "")
  | .error (.thrown _) => .escaping (language.kind world exception) ""
  | .error .exhausted => .endless

/-- The fault that an evaluation ends by. -/
def faultOf (halt : Halt ν) : StateM ω Fault := do
  match halt with
  | .exhausted => return .endless
  | .thrown exception =>
    let kind := language.kind (← get) exception
    if language.isOrdinary (← get) exception then
      match ← (language.message exception).run with
      | .ok message => return .reported kind (message.getD "")
      | .error (.thrown failure) => return language.escapingFault (← get) failure
      | .error .exhausted => return .endless
    else return language.escapingFault (← get) exception

end Language

/-! ## Hosting -/

namespace Hosted

variable {ω ν : Type} [Inhabited ω]

/-- Keep a report on a fragment. -/
def report (session : Hosted ω ν) (reason code : String) : Hosted ω ν :=
  { session with
    reports := session.reports.push ("ScriptError: " ++ reason ++ "\n  in \x7b" ++ code ++ "\x7d") }

end Hosted

namespace Language

variable {ω ν : Type} [Inhabited ω] (language : Language ω ν)

/-- All that has been written, the latest last. -/
def allWritten (session : Hosted ω ν) : Array String :=
  session.writtenBefore ++ language.written session.world

/-- Begin anew: nothing that fragments have made is left. What has been written and reported stays. -/
def reset (session : Hosted ω ν) : Hosted ω ν :=
  { session with world := default, interfaces := #[], writtenBefore := language.allWritten session }

/-- Make a datum known under a name. -/
def bind (session : Hosted ω ν) (name : String) (datum : Datum) : Hosted ω ν :=
  let (value, world) := language.load datum session.world
  { session with
    world := language.put name value world
    interfaces := session.interfaces.push value }

/-- What has become of the values that were bound. -/
def bound (session : Hosted ω ν) : List Datum :=
  session.interfaces.toList.map (language.datum session.world)

/-- Forget a name. -/
def unbind (session : Hosted ω ν) (name : String) : Hosted ω ν :=
  { session with world := language.erase name session.world }

/-- Evaluate a fragment; its value as text. A fragment that fails has the empty text and is reported. -/
def evaluate (code : String) (session : Hosted ω ν) : Except Fault String × Hosted ω ν :=
  match (language.reply code).run.run session.world with
  | (.ok (.text text), world) => (.ok text, { session with world := world })
  | (.ok (.failure reason), world) => (.ok "", { session with world := world }.report reason code)
  | (.error halt, world) =>
    let (fault, world) := (language.faultOf halt).run world
    (.error fault, { session with world := world })

/-- A language as the scripts of documents. -/
def bridge : Expansion.Bridge (Hosted ω ν) where
  evaluate := language.evaluate
  bind name datum session := language.bind session name datum

end Language

end Linework.Script
