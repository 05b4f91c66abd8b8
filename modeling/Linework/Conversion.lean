import Linework.Config
import Linework.Drawing.Library
import Linework.Expansion.Stack
import Linework.Script.Session

/-!
# Conversion

A converter turns documents into the results of their drawing commands, each document with scripts and a
drawing of its own. A fault ends the conversion of a document, and is reported, unless it is none of those that
are there to be handled: then it escapes. Failures of scripts are reported too, but end nothing.
-/

namespace Linework

open Linework.Expansion Linework.Drawing

/-- A script language that can begin anew for each document. -/
structure ScriptHost (σ : Type) where
  bridge : Bridge σ
  /-- Begin anew, with nothing bound and nothing reported. -/
  renew : σ → σ
  /-- The reports on scripts since it began anew. -/
  reports : σ → List String
  /-- What has become of the values that were bound for results since it began anew, in order. -/
  bindings : σ → List Datum
  /-- The calls that there is room for on the stack, beyond those that the standard limits can take. -/
  spareCalls : Nat := 768

/-- How the conversion of a document has ended. -/
inductive Conversion.Outcome where
  | success (results : List Result)
  | failure (message : String)
  /-- There is no outcome: more moves are needed than were allowed, or a fault has escaped. -/
  | unfinished

/-- The conversion of a document. -/
structure Conversion where
  outcome : Conversion.Outcome
  /-- The reports on what went wrong. -/
  reports : List String
  /-- The fault that has escaped from the conversion without being handled, if one has. -/
  escape : Option Fault := none

/-- Converts documents one after the other. -/
structure Converter (σ : Type) where
  options : List (Datum × Datum)
  commands : List (Datum × Datum)
  session : σ
  /-- How many drawings have been begun. -/
  drawings : Nat := 0

namespace Conversion

/-- The registry of the drawing commands in a table. -/
def registry (table : CommandTable) : Registry Library where
  has name := .ok (Assoc.has table name)
  schema name := do return wordSchema (← table.schema name)
  invoke name arguments library := table.invoke name arguments library

/-- The bounds that options set. -/
def limits (options : List (Datum × Datum)) : Except Fault Limits := do
  let standard : Limits := {}
  return {
    iterations := ← (option options "max_loop_iterations" (.int standard.iterations)).toInteger
    nesting := ← (option options "max_nesting" (.int standard.nesting)).toInteger
    expansions := ← (option options "max_expansions" (.int standard.expansions)).toInteger
    initCommand := (option options "init_command" (.text standard.initCommand)).plain }

/-- Results with the values that scripts see as scripts have left them. -/
def withBindings : List Result → List Datum → List Result
  | [], _ => []
  | result :: rest, [] => result :: rest
  | result :: rest, value :: values =>
    let isBound := result.interface.isSome && result.name.any (!·.isEmpty)
    if isBound then { result with interface := some value } :: withBindings rest values
    else result :: withBindings rest (value :: values)

/-- The report on a fault that ends a conversion. -/
def reportOf (fault : Fault) : String :=
  "InternalError: " ++ fault.kind ++ ": " ++ fault.message

/-- The message of a conversion that has failed, and nothing for others. -/
def messageFor (isFailure : Bool) (message : Option String) : String :=
  if !isFailure then ""
  else
    match message with
    | none | some "" => "Unknown error"
    | some message => message

end Conversion

namespace Converter

variable {σ : Type}

/-- Enough moves for every document that can be converted in practice. -/
def moves : Nat := Nat.pow 2 64

/-- A converter with a configuration. -/
def ofConfig (config : Datum) (session : σ) : Converter σ where
  options := Config.sectionOf config "options"
  commands := Config.sectionOf config "commands"
  session := session

/-- The collaborators of a conversion, and its drawing. -/
def prepare (host : ScriptHost σ) (converter : Converter σ) (library : Library) :
    Except Fault (Host σ Library × Library) := do
  let table ← CommandTable.ofSchemas converter.commands
  return (⟨host.bridge, Conversion.registry table, ← Conversion.limits converter.options⟩, library)

/-- A conversion that a fault has ended. The fault is reported if it is one that is handled, and else escapes. -/
def fail (host : ScriptHost σ) (converter : Converter σ) (fault : Fault) : Conversion × Converter σ :=
  if fault.isHandled then
    let report := Conversion.reportOf fault
    ({ outcome := .failure report, reports := host.reports converter.session ++ [report] }, converter)
  else
    ({ outcome := .unfinished, reports := host.reports converter.session, escape := some fault }, converter)

/-- The calls that there is room for on the stack of a conversion. -/
def stack (host : ScriptHost σ) : Nat :=
  callsPerSequence * ({} : Limits).nesting.toNat + host.spareCalls

/-- Convert a document in at most `fuel` moves. -/
def convert (host : ScriptHost σ) (fuel : Nat) (converter : Converter σ) (source : String) :
    Conversion × Converter σ :=
  let converter := { converter with session := host.renew converter.session }
  match Library.create converter.options converter.drawings with
  | .error fault => converter.fail host fault
  | .ok library =>
    let converter := { converter with drawings := converter.drawings + 1 }
    match converter.prepare host library with
    | .error fault => converter.fail host fault
    | .ok (collaborators, library) =>
      let machine := ⟨{}, converter.session, library, []⟩
      match Machine.processOn collaborators (stack host) fuel machine (Token.tokenize source) with
      | .finished machine _ =>
        let session := machine.bridge
        let results := Conversion.withBindings machine.state.results.toList (host.bindings session)
        ({ outcome := .success results, reports := host.reports session }, { converter with session })
      | .failed machine _ fault => { converter with session := machine.bridge }.fail host fault
      | .next machine =>
        ({ outcome := .unfinished, reports := host.reports machine.bridge },
          { converter with session := machine.bridge })

end Converter

/-- A language as the scripts of a converter. -/
def Script.Language.host {ω ν : Type} [Inhabited ω] (language : Script.Language ω ν) :
    ScriptHost (Script.Hosted ω ν) where
  bridge := language.bridge
  renew session := { language.reset session with reports := #[] }
  reports session := session.reports.toList
  bindings session := language.bound session

/-- The script language as the scripts of a converter. -/
def Script.Session.host : ScriptHost Script.Session :=
  Script.language.host

end Linework
