import Linework.Drawing.Parameters
import Linework.Expansion.Machine

/-!
# Rehearsals

Collaborators that stand in for a script language and a drawing, to try a document without either: a
bridge that answers from a table, and handlers that return an empty result or fail as told.
-/

namespace Linework.Expansion

/-- The answer to a script. -/
inductive Answer where
  /-- The same text every time. -/
  | always (output : String)
  /-- These texts one after the other, and then nothing. -/
  | inTurn (outputs : List String)

/-- The answers to the scripts that have any. -/
abbrev AnswerBook := Assoc String Answer

/-- A bridge that answers from a book; scripts that are not in it have no output. -/
def AnswerBook.bridge : Bridge AnswerBook where
  evaluate code book :=
    match book.get? code with
    | some (.always output) => (.ok output, book)
    | some (.inTurn (output :: rest)) => (.ok output, book.put code (.inTurn rest))
    | _ => (.ok "", book)
  bind _ _ book := book

/-- How the handler of a rehearsed command behaves. -/
inductive Conduct where
  /-- It returns a result that is bound to the command's identifier. -/
  | binds
  /-- It returns a result that scripts do not see. -/
  | plain
  /-- It returns nothing. -/
  | silent
  /-- It fails. -/
  | fails
deriving DecidableEq

/-- The conduct and the parameters of each rehearsed command. -/
abbrev Cast := Assoc String (Conduct × Drawing.Parameters)

/-- The outcome of a rehearsed command. -/
def Conduct.perform (conduct : Conduct) (name : String) (arguments : Arguments) :
    Except Fault (Option Result) :=
  let result : Result := {
    command := name
    name := ((arguments.get? "id").getD []).head? }
  match conduct with
  | .fails => .error (.reported "RuntimeError" ("handler " ++ name))
  | .silent => .ok none
  | .plain => .ok (some result)
  | .binds =>
    let position := " ".intercalate ((arguments.get? "p").getD [])
    .ok (some { result with interface := some (.record [("p", .text position)]) })

/-- The registry of a cast. -/
def Cast.registry (cast : Cast) : Registry Unit where
  has name := .ok (Assoc.has cast name)
  schema name :=
    match Assoc.get? cast name with
    | some (_, parameters) => do return Drawing.wordSchema (← parameters.schema)
    | none => .error (.missingKey (.text name))
  invoke name arguments _ :=
    match Assoc.get? cast name with
    | some (conduct, _) => (conduct.perform name arguments, ())
    | none => (.error (.missingKey (.text name)), ())

end Linework.Expansion
