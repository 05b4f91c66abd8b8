import Linework.Expansion.Machine
import Linework.Token.Print

/-!
# Traces

The remarks on a run as lines of text.
-/

namespace Linework.Expansion

open Linework.Text

/-- A list of words as the trace shows it. -/
def wordList (words : List String) : String :=
  Datum.between "[" "]" (words.map quoted)

/-- Arguments as the trace shows them. -/
def argumentsText (arguments : Arguments) : String :=
  Datum.between "\x7b" "\x7d"
    (arguments.map fun (flag, values) => quoted flag ++ ": " ++ wordList values)

/-- The wording of a remark. -/
def Note.text : Note → String
  | .nestingLimit => "nesting limit reached, skipping block"
  | .expansionLimit => "expansion limit reached, skipping block"
  | .spliced code output => "script " ++ quoted code ++ " -> " ++ Token.list output
  | .defined name body => "macro " ++ name ++ " " ++ Token.list body
  | .invoking name => "invoke " ++ name
  | .iteration count => "for iteration " ++ Decimal.natText count
  | .unknown name => "unknown command " ++ name
  | .repeatedInit name => "ignoring repeated " ++ name
  | .dispatching name arguments => "dispatch " ++ name ++ " " ++ argumentsText arguments

/-- The remarks among some events, a line each. -/
def trace (events : List Event) : String :=
  String.join (events.map fun event =>
    match event with
    | .noted note => "[DBG] " ++ note.text ++ "\n"
    | _ => "")

end Linework.Expansion
