import Linework.Conversion
import Linework.Datum.Print
import Linework.Document

/-!
# The command line

The arguments of a command line ask for the conversion of one document. They name the document's file, how
its results are to be shown, and a file with a configuration. The answer is an exit code with two texts:
what was asked for, and what there is to report.
-/

namespace Linework.CommandLine

open Linework.Text

/-- How results are shown. -/
inductive Presentation where
  /-- As text for a reader. -/
  | text
  /-- As a document of data. -/
  | document (format : Document.Format)
deriving DecidableEq

namespace Presentation

/-- The name that asks for a presentation. -/
def name : Presentation → String
  | .text => "text"
  | .document format => format.name

/-- All presentations. -/
def all : List Presentation :=
  [.text, .document .json, .document .yaml, .document .toml, .document .xml]

/-- The presentation of a name. -/
def ofName? (word : String) : Option Presentation :=
  all.find? (·.name == word)

end Presentation

/-- What a command line asks for. -/
structure Request where
  /-- The path of the document, or a dash for standard input. -/
  source : String := "-"
  presentation : Presentation := .text
  /-- The path of a configuration. -/
  config : Option String := none

/-- What a command line is answered. -/
structure Answer where
  code : Nat := 0
  output : String := ""
  reports : String := ""
deriving DecidableEq

/-- Why a command line asks for no conversion. -/
inductive Refusal where
  /-- It asks how to write a command line. -/
  | help
  | unknownFormat (name : String)
  | unknownOption (argument : String)
deriving DecidableEq

/-- How to write a command line. -/
def usage : String :=
  "usage: cgraph.py [FILE|-] [--format=text|json|yaml|toml|xml] [--config=PATH]\n"

/-- The answer that ends everything with a report. -/
def Answer.failing (report : String) : Answer where
  code := 1
  reports := report

/-- What a refused command line is answered. -/
def Refusal.answer : Refusal → Answer
  | .help => { output := usage }
  | .unknownFormat name => .failing ("Error: unknown format: " ++ name ++ "\n" ++ usage)
  | .unknownOption argument => .failing ("Error: unknown option: " ++ argument ++ "\n" ++ usage)

/-- What stands in an argument after a beginning. -/
def after? (beginning argument : String) : Option String :=
  if beginning.toList.isPrefixOf argument.toList then
    some (String.ofList (argument.toList.drop beginning.toList.length))
  else none

namespace Request

/-- What one more argument asks for. -/
def extend (request : Request) (argument : String) : Except Refusal Request :=
  if argument == "-h" || argument == "--help" then .error .help
  else
    match after? "--format=" argument, after? "--config=" argument with
    | some word, _ =>
      match Presentation.ofName? (lower word) with
      | some presentation => .ok { request with presentation }
      | none => .error (.unknownFormat (lower word))
    | none, some path => .ok { request with config := some path }
    | none, none =>
      if argument == "-" || argument.toList.head? != some '-' then .ok { request with source := argument }
      else .error (.unknownOption argument)

/-- What arguments ask for. The later of two that speak of the same counts, but the first that is refused
decides. -/
def ofArguments (arguments : List String) : Except Refusal Request :=
  arguments.foldlM extend {}

/-- The files that are needed to answer a request. -/
def paths (request : Request) : List String :=
  (if request.source == "-" then [] else [request.source]) ++ request.config.toList

/-- The text of the document, or the answer that says why there is none. -/
def document (request : Request) (folder : Folder) (input : String) :
    Except Fault (Except Answer String) :=
  if request.source == "-" then .ok (.ok (String.ofList (unifyLineEnds input.toList)))
  else
    match folder.read (Path.ofText request.source) with
    | .ok text => .ok (.ok text)
    | .error (.fileMissing _) =>
      .ok (.error (.failing ("Error: file not found: " ++ request.source ++ "\n")))
    | .error fault => .error fault

/-- The configuration, or the answer that says why there is none. -/
def configuration (request : Request) (folder : Folder) : Except Fault (Except Answer Datum) :=
  match Config.read folder request.config with
  | .ok config => .ok (.ok config)
  | .error fault =>
    if fault.isOfInput then
      .ok (.error (.failing ("Error: bad configuration: " ++ fault.message ++ "\n")))
    else .error fault

end Request

/-- Results as they are shown. No results are shown by nothing where a reader is meant. -/
def Presentation.show (presentation : Presentation) (results : List Result) : Except Fault String :=
  let shown := Datum.list (results.map Result.toDatum)
  match presentation with
  | .text => .ok (if results.isEmpty then "" else Datum.print 2 0 shown ++ "\n")
  | .document format => do
    let written ← Document.write (some format.name) true "cgraph" (.dict [(.text "commands", shown)])
    return written ++ "\n"

/-- The answer to a conversion, where scripts have printed something before. -/
def answerTo (presentation : Presentation) (printed : String) (conversion : Conversion) :
    Except Fault Answer := do
  let lines (reports : List String) : String := String.join (reports.map (· ++ "\n"))
  match conversion.outcome with
  | .success results =>
    return { output := printed ++ (← presentation.show results), reports := lines conversion.reports }
  | .failure message =>
    let last := Conversion.messageFor true (some message)
    return { code := 1, output := printed, reports := lines (conversion.reports ++ [last]) }
  | .unfinished => throw (conversion.escape.getD .endless)

/-- The answer to a request. -/
def Request.answer (request : Request) (folder : Folder) (input : String) : Except Fault Answer := do
  match ← request.document folder input with
  | .error answer => return answer
  | .ok source =>
    match ← request.configuration folder with
    | .error answer => return answer
    | .ok config =>
      let converter : Converter Script.Session := Converter.ofConfig config {}
      let (conversion, converter) := converter.convert Script.Session.host Converter.moves source
      let printed := String.join converter.session.printed.toList
      answerTo request.presentation printed conversion

/-- The answer to a command line. -/
def answer (arguments : List String) (folder : Folder) (input : String) : Except Fault Answer :=
  match Request.ofArguments arguments with
  | .error refusal => .ok refusal.answer
  | .ok request => request.answer folder input

end Linework.CommandLine
