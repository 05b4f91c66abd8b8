import Linework.Token
import Linework.Text.Blank
import Linework.Text.Name

/-!
# Markers

The words of the notation that are no commands: `_name` defines a named block, `@name` invokes it,
`.for` with three scripts starts a loop, and a separator with two semicolons in a row ends the block
or the loop body.
-/

namespace Linework.Expansion

open Linework.Text

/-- A name of a block at the head of some characters, and the characters after it. -/
def takeName : List Char → Option (String × List Char)
  | c :: rest =>
    if isAsciiLetter c then
      let more (c : Char) : Bool := isAsciiLetter c || isAsciiDigit c
      some (String.ofList (c :: rest.takeWhile more), rest.dropWhile more)
    else none
  | [] => none

/-- The marked name at the head of a text, and the text after it and the blanks that follow it. -/
def markedName? (mark : Char) (text : String) : Option (String × List Char) :=
  match text.toList.dropWhile isBlank with
  | c :: rest =>
    if c == mark then
      (takeName rest).map fun (name, left) => (name, left.dropWhile isBlank)
    else none
  | [] => none

/-- The block that a text begins to define, and the rest of the text. -/
def definition? (text : String) : Option (String × String) :=
  (markedName? '_' text).map fun (name, rest) => (name, String.ofList rest)

/-- The block that a text as a whole invokes. -/
def invocation? (text : String) : Option String :=
  match markedName? '@' text with
  | some (name, []) => some name
  | _ => none

/-- Whether a text as a whole is the word that starts a loop. -/
def isLoopWord (text : String) : Bool :=
  trimBy isBlank text.toList == ".for".toList

/-- Whether two semicolons in a row are among the characters. -/
def hasBlockEnd : List Char → Bool
  | ';' :: rest => rest.head? == some ';' || hasBlockEnd rest
  | _ :: rest => hasBlockEnd rest
  | [] => false

/-- Whether a token ends a block. -/
def endsBlock (token : Token) : Bool :=
  token.isBoundary && hasBlockEnd token.text.toList

/-- Whether a token is plain text of blanks only. -/
def isBlankToken (token : Token) : Bool :=
  token.kind == .text && isBlankText token.text

/-- The head of a loop: its scripts in order, the separator after them, and what follows. The scripts
found so far are given latest first; between them only blanks may stand. -/
def loopHead? (scripts : List String) : List Token → Option (List String × Token × List Token)
  | [] => none
  | token :: rest =>
    if token.kind == .script && scripts.length < 3 then loopHead? (token.text :: scripts) rest
    else if isBlankToken token then loopHead? scripts rest
    else if token.isBoundary && scripts.length == 3 then some (scripts.reverse, token, rest)
    else none

end Linework.Expansion
