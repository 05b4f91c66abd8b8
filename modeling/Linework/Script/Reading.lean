import Linework.Script.Lexeme
import Linework.Script.Tree

/-!
# Reading lexemes

A reading takes lexemes from the front of a sequence, or refuses the fragment. Where the grammar fails,
the lexeme at which it fails decides how the fragment is refused: a flaw of the lexemes is reported as
itself, and a change of the margin where none is expected as one of indentation.
-/

namespace Linework.Script

/-- A reading of lexemes. -/
abbrev Reading := StateT (List Lexeme) (Except Flaw)

/-- How a fragment is refused in which the grammar fails at these lexemes. -/
def flawAt : List Lexeme → Flaw
  | .flawed flaw _ :: _ => flaw
  | .indent :: _ | .dedent :: _ => .indentation
  | _ => .ungrammatical

namespace Reading

variable {α : Type}

/-- The grammar fails here. -/
def fail : Reading α := fun rest => .error (flawAt rest)

/-- The fragment is refused, whatever follows. -/
def refuse : Reading α := fun _ => .error .ungrammatical

/-- The next lexeme. -/
def next : Reading Lexeme := fun rest => .ok (rest.headD .stop, rest)

/-- The lexeme behind the next one. -/
def second : Reading Lexeme := fun rest => .ok ((rest.drop 1).headD .stop, rest)

/-- Pass the next lexeme. -/
def skip : Reading Unit := fun rest => .ok ((), rest.drop 1)

/-- Whether a mark comes next. -/
def seesMark (symbol : String) : Reading Bool := do
  match ← next with
  | .mark found => return found == symbol
  | _ => return false

/-- Whether a keyword comes next. -/
def seesWord (word : String) : Reading Bool := do
  match ← next with
  | .keyword found => return found == word
  | _ => return false

/-- Pass a mark if it comes next. -/
def takeMark (symbol : String) : Reading Bool := do
  if ← seesMark symbol then
    skip
    return true
  else return false

/-- Pass a keyword if it comes next. -/
def takeWord (word : String) : Reading Bool := do
  if ← seesWord word then
    skip
    return true
  else return false

/-- Pass a mark. -/
def mark (symbol : String) : Reading Unit := do
  unless ← takeMark symbol do fail

/-- Pass a keyword. -/
def word (word : String) : Reading Unit := do
  unless ← takeWord word do fail

/-- Pass a name. -/
def name : Reading String := do
  match ← next with
  | .name text =>
    skip
    return text
  | _ => fail

/-- The operator of a table that comes next, if one does. -/
def takeOperator {β : Type} (table : List (String × β)) : Reading (Option β) := do
  match ← next with
  | .mark symbol =>
    match table.lookup symbol with
    | some value =>
      skip
      return some value
    | none => return none
  | _ => return none

/-- Whether the end of a line or of the sequence comes next. -/
def seesLineEnd : Reading Bool := do
  match ← next with
  | .newline | .stop => return true
  | _ => return false

end Reading

end Linework.Script
