import Linework.Fault

/-!
# Tokens of YAML

The tokens of a document, and the spots in its text at which they are looked for.
-/

namespace Linework.Document.Yaml

/-- A part of a document. -/
inductive Token where
  | directive (name : String) (arguments : List String)
  | documentStart
  | documentEnd
  | blockListStart
  | blockMapStart
  | blockEnd
  | listStart
  | listEnd
  | mapStart
  | mapEnd
  | key
  | value
  | blockItem
  | separator
  | alias (name : String)
  | anchor (name : String)
  /-- The tag of a node: the handle that it is short for, if any, and the rest of its name. -/
  | tag (handle : Option String) (name : String)
  | scalar (text : String) (isPlain : Bool)
  | stop
deriving DecidableEq

/-- The fault of a text that is no document. -/
def flawed {α : Type} : Except Fault α :=
  .error (.malformedAs "yaml")

/-! ### Characters -/

/-- Whether a character ends a line. -/
def isBreak (c : Char) : Bool :=
  c == '\n' || c == '\r' || c == '\u0085' || c == '\u2028' || c == '\u2029'

/-- Whether a character ends a line or the text. -/
def isBreakOrEnd (c : Char) : Bool :=
  isBreak c || c == '\x00'

/-- Whether a character is a blank, or ends a line or the text. -/
def isSpaceOrEnd (c : Char) : Bool :=
  isBreakOrEnd c || c == ' '

/-- Whether a character is a blank or a tab, or ends a line or the text. -/
def isGap (c : Char) : Bool :=
  isSpaceOrEnd c || c == '\t'

/-- Whether a character may stand in a name. -/
def isWordChar (c : Char) : Bool :=
  ('0' ≤ c && c ≤ '9') || ('a' ≤ c && c ≤ 'z') || ('A' ≤ c && c ≤ 'Z') || c == '-' || c == '_'

/-- Whether a character may stand in a document at all. -/
def isAllowed (c : Char) : Bool :=
  let n := c.toNat
  n == 9 || n == 10 || n == 13 || (0x20 ≤ n && n ≤ 0x7e) || n == 0x85 || (0xa0 ≤ n && n ≤ 0xfffd)
    || 0x10000 ≤ n

/-! ### Spots -/

/-- A place in a text. -/
structure Spot where
  rest : List Char
  index : Nat := 0
  line : Nat := 0
  column : Nat := 0

namespace Spot

/-- The character that is `ahead` places further on. The end of the text counts as the null character,
which no document holds. -/
def peek (spot : Spot) (ahead : Nat) : Char :=
  spot.rest.getD ahead '\x00'

/-- Go on by one character. -/
def next (spot : Spot) : Spot :=
  match spot.rest with
  | [] => spot
  | c :: rest =>
    let index := spot.index + 1
    if c == '\r' && rest.head? == some '\n' then { spot with rest := rest, index, column := spot.column + 1 }
    else if isBreak c then { rest, index, line := spot.line + 1, column := 0 }
    else if c == '\ufeff' then { spot with rest := rest, index }
    else { spot with rest := rest, index, column := spot.column + 1 }

/-- Go on by a number of characters. -/
def skip (spot : Spot) : Nat → Spot
  | 0 => spot
  | count + 1 => spot.next.skip count

/-- The characters at a spot that satisfy `p`, up to the first that does not. -/
def run (spot : Spot) (p : Char → Bool) : List Char :=
  spot.rest.takeWhile p

/-- Go on as long as characters satisfy `p`. -/
def skipWhile (spot : Spot) (p : Char → Bool) : Spot :=
  spot.skip (spot.run p).length

/-- Skip blanks. -/
def skipSpaces (spot : Spot) : Spot :=
  spot.skipWhile (· == ' ')

/-- Take the end of a line, if the spot is at one. Most ends of lines are read as line feeds. -/
def takeBreak? (spot : Spot) : Option (Char × Spot) :=
  let c := spot.peek 0
  if c == '\r' && spot.peek 1 == '\n' then some ('\n', spot.skip 2)
  else if c == '\u2028' || c == '\u2029' then some (c, spot.next)
  else if isBreak c then some ('\n', spot.next)
  else none

/-- Skip a comment that ends a line. -/
def skipComment (spot : Spot) : Spot :=
  if spot.peek 0 == '#' then spot.skipWhile (!isBreakOrEnd ·) else spot

/-- Take the rest of a line, which must hold nothing but a comment. -/
def skipLineRest (spot : Spot) : Except Fault Spot :=
  let spot := spot.skipSpaces.skipComment
  if !isBreakOrEnd (spot.peek 0) then flawed
  else
    match spot.takeBreak? with
    | some (_, spot) => .ok spot
    | none => .ok spot

/-- Whether a mark of three characters that starts or ends documents stands here. -/
def isDocumentMark (spot : Spot) : Bool :=
  let mark := spot.rest.take 3
  (mark == ['-', '-', '-'] || mark == ['.', '.', '.']) && isGap (spot.peek 3)

end Spot

end Linework.Document.Yaml
