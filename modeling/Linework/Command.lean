import Linework.Assoc
import Linework.Token
import Linework.Text.Blank

/-!
# Commands

A command is a name and the values bound to each of its flags. It is read from the tokens between two
separators: the first word is the name, with an identifier after its last colon, and all other words,
groups and strings are arguments, which a schema binds to flags.
-/

namespace Linework

/-- The values of each flag, in the order in which the flags were bound. -/
abbrev Arguments := Assoc String (List String)

/-- How many values each flag takes. -/
abbrev Schema := Assoc String Int

/-- A name and the values bound to its flags. -/
structure Command where
  name : String
  arguments : Arguments
deriving DecidableEq

namespace Command

open Linework.Text

/-- The flag that holds a command's identifier. -/
def idFlag : String := "id"

/-- The words that a flag takes as its values: the `arity` words after it. A negative arity leaves
that many words, less one for each word up to the flag, at the end. `position` is the number of words
up to and with the flag, and `total` that of all words. -/
def valuesAfter (total position : Nat) (arity : Int) (rest : List String) : List String :=
  let stop : Int := position + arity
  let stop := if stop < 0 then total + stop else stop
  rest.take (stop - position).toNat

/-- Bind the words from `position` on, after skipping the first `skip` of them. -/
def bindFrom (schema : Schema) (total : Nat) (skip position : Nat) (bound : Arguments) :
    List String → Arguments
  | [] => bound
  | word :: rest =>
    match skip with
    | skip + 1 => bindFrom schema total skip (position + 1) bound rest
    | 0 =>
      match schema.get? word with
      | none => bindFrom schema total 0 (position + 1) bound rest
      | some arity =>
        let values := valuesAfter total (position + 1) arity rest
        let bound := if (values.length : Int) = arity then bound.put word values else bound
        bindFrom schema total values.length (position + 1) bound rest

/-- Bind argument words. A flag of the schema takes the words after it as its values; a flag with too
few words left is dropped. Words that are not flags are skipped. -/
def bind (schema : Schema) (words : List String) : Arguments :=
  bindFrom schema words.length 0 0 [] words

/-- Overlay the arguments of another command flag by flag, with or without its identifier. -/
def overlay (target source : Command) (withId : Bool) : Command :=
  let entries := if withId then source.arguments else source.arguments.filter (·.1 != idFlag)
  { target with arguments := target.arguments.update entries }

/-- The command that a repetition starts from: all but the identifier. -/
def snapshot (command : Command) : Command :=
  { command with arguments := command.arguments.filter (·.1 != idFlag) }

/-- Cut a command word at its last colon, unless the colon is its first character or missing. An empty
identifier counts as none. -/
def splitName (word : String) : String × List String :=
  let chars := word.toList
  let ident := (chars.reverse.takeWhile (· != ':')).reverse
  let name := chars.take (chars.length - ident.length - 1)
  if ident.length < chars.length && !name.isEmpty then
    (String.ofList name, if ident.isEmpty then [] else [idFlag, String.ofList ident])
  else (word, [])

/-- Read on after a name (empty while none has been read) and its argument words. -/
def readFrom (name : String) (arguments : List String) : List Token → String × List String
  | [] => (name, arguments)
  | token :: rest =>
    match token.kind with
    | .text =>
      match words token.text with
      | [] => readFrom name arguments rest
      | first :: others =>
        if name.isEmpty then
          let (name, ident) := splitName first
          readFrom name (arguments ++ ident ++ others) rest
        else readFrom name (arguments ++ first :: others) rest
    | .group | .string =>
      readFrom name (if name.isEmpty then arguments else arguments ++ [token.text]) rest
    | _ => readFrom name arguments rest

/-- The name and the argument words in the tokens between two separators; none without a name. -/
def read? (tokens : List Token) : Option (String × List String) :=
  let (name, arguments) := readFrom "" [] tokens
  if name.isEmpty then none else some (name, arguments)

end Command

end Linework
