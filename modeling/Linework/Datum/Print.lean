import Linework.Datum.Number

/-!
# Printing

Readable text for every datum. Commands and tokens print as source of the notation, elements as markup,
and results and maps over several lines, indented by their level.
-/

namespace Linework

open Linework.Text

/-- An argument as source: in parentheses when it is empty or holds a blank. -/
def printArgument (value : String) : String :=
  if value.isEmpty || value.toList.any isBlank then "(" ++ value ++ ")" else value

/-- A command as source, given its identifier and its other flags. -/
def printCommand (name : String) (ident : Option String) (flags : List (String × List String)) :
    String :=
  let head :=
    match ident with
    | some ident => name ++ ":" ++ ident
    | none => name
  " ".intercalate (head :: flags.flatMap fun (flag, values) => flag :: values.map printArgument)

/-- A command as source. -/
def Command.print (command : Command) : String :=
  printCommand command.name ((command.arguments.get? Command.idFlag).bind List.head?)
    (command.arguments.erase Command.idFlag)

namespace Datum

/-- The values of a flag as texts. -/
def valueTexts (values : Datum) : List String :=
  match values.items with
  | .ok items => items.map spliced
  | .error _ => []

/-- The attributes of an element as markup. -/
def attributeMarkup (attributes : List (Datum × Datum)) : String :=
  String.join (attributes.map fun (name, value) =>
    " " ++ name.plain ++ "=\"" ++ value.spliced ++ "\"")

/-- As many spaces as `width` for each of `level` levels. -/
def indentation (width level : Nat) : String :=
  String.ofList (List.replicate (width * level) ' ')

mutual

/-- A datum at a level, with `width` spaces for each level. -/
def print (width : Nat) (level : Nat) : Datum → String
  | .null => "none"
  | .token piece => piece.print
  | .tokens sequence => Token.printAll sequence
  | .command name arguments =>
    let texts := arguments.map fun (flag, values) => (flag, valueTexts values)
    printCommand name ((Assoc.get? texts Command.idFlag).bind List.head?)
      (Assoc.erase texts Command.idFlag)
  | .element tag attributes => "<" ++ tag ++ attributeMarkup attributes ++ "/>"
  | .result verb name elements =>
    let head :=
      match name with
      | some name => if name.isEmpty then verb else verb ++ ":" ++ name
      | none => verb
    "\n".intercalate (head :: (printAll width (level + 1) elements).map
      (indentation width (level + 1) ++ ·))
  | .list items | .tuple items => "\n".intercalate (printAll width level items)
  | .dict [] => "\x7b\x7d"
  | .dict entries =>
    "\x7b\n" ++ "\n".intercalate (printEntries width level entries) ++ "\n"
      ++ indentation width level ++ "\x7d"
  | .record fields => source (.record fields)
  | other => other.spliced

/-- A list of data at a level. -/
def printAll (width : Nat) (level : Nat) : List Datum → List String
  | [] => []
  | item :: rest => print width level item :: printAll width level rest

/-- The lines of a map at a level. -/
def printEntries (width : Nat) (level : Nat) : List (Datum × Datum) → List String
  | [] => []
  | (key, value) :: rest =>
    (indentation width (level + 1) ++ key.plain ++ ": " ++ print width (level + 1) value)
      :: printEntries width level rest

end

end Datum

end Linework
