import Linework.Text.Blank
import Linework.Text.LineEnd

/-!
# The lines of a block

A block of script may stand anywhere in a document, so its lines may share a margin, which is removed
before the block is read. The block is then read as the indented body of a definition: each line gets
four spaces in front, those inside of a literal included.
-/

namespace Linework.Script

open Linework.Text

/-- The lines of a text, cut at each line feed. -/
def splitLines : List Char → List (List Char)
  | [] => [[]]
  | c :: rest =>
    if c == '\n' then [] :: splitLines rest
    else
      match splitLines rest with
      | [] => [[c]]
      | line :: lines => (c :: line) :: lines

/-- Lines with line feeds between them. -/
def joinLines (lines : List (List Char)) : List Char :=
  (lines.intersperse ['\n']).flatten

/-- The blanks of a margin. -/
def isMarginBlank (c : Char) : Bool :=
  c == ' ' || c == '\t'

/-- The longest common beginning of two texts. -/
def commonStart : List Char → List Char → List Char
  | a :: as, b :: bs => if a == b then a :: commonStart as bs else []
  | _, _ => []

/-- The margin that all lines with content share. -/
def sharedMargin (lines : List (List Char)) : List Char :=
  let margins := (lines.filter (!·.isEmpty)).map (·.takeWhile isMarginBlank)
  match margins with
  | [] => []
  | first :: others => others.foldl commonStart first

/-- Remove a beginning where it stands. -/
def dropStart (start line : List Char) : List Char :=
  if start.isPrefixOf line then line.drop start.length else line

/-- Remove the shared margin, and all blanks of lines that hold nothing else. -/
def dedent (chars : List Char) : List Char :=
  let lines := (splitLines chars).map fun line => if line.all isMarginBlank then [] else line
  let margin := sharedMargin lines
  joinLines (lines.map (dropStart margin))

/-- The characters that end a line for the purpose of indenting. -/
def endsLine (c : Char) : Bool :=
  (0xa ≤ c.toNat && c.toNat ≤ 0xd) || (0x1c ≤ c.toNat && c.toNat ≤ 0x1e) || c.toNat == 0x85
    || c.toNat == 0x2028 || c.toNat == 0x2029

/-- The lines of a text with their ends, after `line`, the reversed beginning of the current one. -/
def linesWithEnds (line : List Char) : List Char → List (List Char)
  | [] => if line.isEmpty then [] else [line.reverse]
  | '\r' :: '\n' :: rest => ('\n' :: '\r' :: line).reverse :: linesWithEnds [] rest
  | c :: rest =>
    if endsLine c then (c :: line).reverse :: linesWithEnds [] rest
    else linesWithEnds (c :: line) rest

/-- Put four spaces before a line that has content. -/
def indentLine (line : List Char) : List Char :=
  if line.all isBlank then line else ' ' :: ' ' :: ' ' :: ' ' :: line

/-- Put four spaces before each line that has content. -/
def indent (chars : List Char) : List Char :=
  (linesWithEnds [] chars).flatMap indentLine

/-- Whether a character is part of a line end. -/
def isLineEnd (c : Char) : Bool :=
  c == '\r' || c == '\n'

/-- The block without the line ends around it. -/
def trimLines (chars : List Char) : List Char :=
  trimBy isLineEnd chars

/-- The block with its first line trimmed and the lines after it dedented on their own. -/
def dedentRest (chars : List Char) : List Char :=
  let first := chars.takeWhile (· != '\n')
  let rest := (chars.dropWhile (· != '\n')).drop 1
  trimBy isBlank first ++ '\n' :: dedent rest

end Linework.Script
