import Linework.Document.Json.Read
import Linework.Document.Yaml.Token

/-!
# The texts of scalars

How the text of a scalar is taken from a document: without quotes, between quotes, or as a block of
lines. Line ends inside of a scalar are folded: a single one is read as a blank, and of several the first
is dropped.
-/

namespace Linework.Document.Yaml

open Linework.Document.Json (hexValue?)

/-- What line ends in a row are read as: the first, and those after it. -/
def folded (first : Char) (others : List Char) : List Char :=
  (if first != '\n' then [first] else if others.isEmpty then [' '] else []) ++ others

/-! ### Plain scalars -/

/-- Whether a plain scalar ends at a character with the given one after it, outside of brackets or
inside. -/
def endsPlain (isInside : Bool) (c after : Char) : Bool :=
  isGap c
    || (c == ':' && (isGap after || (isInside && [',', '[', ']', '\x7b', '\x7d'].contains after)))
    || (isInside && [',', '?', '[', ']', '\x7b', '\x7d'].contains c)

/-- How many characters of a plain scalar come without a gap. -/
def plainLength (isInside : Bool) : List Char → Nat
  | [] => 0
  | c :: rest => if endsPlain isInside c (rest.headD '\x00') then 0 else plainLength isInside rest + 1

/-- Take blank lines inside of a plain scalar: the ends of lines, and whether a document mark stops
them. -/
def takeBlankLines : Nat → Spot → List Char × Bool × Spot
  | 0, spot => ([], false, spot)
  | count + 1, spot =>
    if spot.peek 0 == ' ' then takeBlankLines count spot.next
    else
      match spot.takeBreak? with
      | none => ([], false, spot)
      | some (c, spot) =>
        if spot.isDocumentMark then ([c], true, spot)
        else
          let (breaks, isStopped, spot) := takeBlankLines count spot
          (c :: breaks, isStopped, spot)

/-- Take the gap after a part of a plain scalar: its text, and whether a line has ended. There is no text
when the scalar must end here. -/
def takePlainGap (spot : Spot) : List Char × Bool × Spot :=
  let blanks := spot.run (· == ' ')
  let after := spot.skip blanks.length
  match after.takeBreak? with
  | none => (blanks, false, after)
  | some (first, spot) =>
    if spot.isDocumentMark then ([], true, spot)
    else
      let (breaks, isStopped, spot) := takeBlankLines (spot.rest.length + 1) spot
      if isStopped then ([], true, spot) else (folded first breaks, true, spot)

/-- Take a plain scalar whose lines must not begin before the column `indent`, after the gap `gap`. Also
whether a line has ended after its last part. -/
def takePlain (isInside : Bool) (indent : Int) :
    Nat → List Char → Bool → Spot → List Char × Bool × Spot
  | 0, _, hasBroken, spot => ([], hasBroken, spot)
  | count + 1, gap, hasBroken, spot =>
    let length := if spot.peek 0 == '#' then 0 else plainLength isInside spot.rest
    if length == 0 then ([], hasBroken, spot)
    else
      let part := spot.rest.take length
      let (next, hasBroken, spot) := takePlainGap (spot.skip length)
      let isOver := next.isEmpty || spot.peek 0 == '#' || (!isInside && (spot.column : Int) < indent)
      if isOver then (gap ++ part, hasBroken, spot)
      else
        let (more, hasBroken, spot) := takePlain isInside indent count next hasBroken spot
        (gap ++ part ++ more, hasBroken, spot)

/-! ### Scalars between quotes -/

/-- The characters that letters after a backslash stand for. -/
def escapes : List (Char × Char) := [
  ('0', '\x00'), ('a', '\x07'), ('b', '\x08'), ('t', '\t'), ('\t', '\t'), ('n', '\n'), ('v', '\x0b'),
  ('f', '\x0c'), ('r', '\r'), ('e', '\x1b'), (' ', ' '), ('\x22', '\x22'), ('\\', '\\'), ('/', '/'),
  ('N', '\u0085'), ('_', '\u00a0'), ('L', '\u2028'), ('P', '\u2029')]

/-- How many digits the code after a letter has. -/
def codeWidths : List (Char × Nat) := [('x', 2), ('u', 4), ('U', 8)]

/-- The character of a code in hexadecimal digits. -/
def codedChar (digits : List Char) (width : Nat) : Except Fault Char :=
  let values := digits.filterMap hexValue?
  if values.length != width then flawed
  else
    let code := values.foldl (fun n value => n * 16 + value) 0
    if code < 0x110000 then .ok (Json.charOf code)
    else if code < 0x80000000 then .error .badCode
    else flawed

/-- Take empty lines between quotes. -/
def takeQuotedBreaks : Nat → Spot → Except Fault (List Char × Spot)
  | 0, spot => .ok ([], spot)
  | count + 1, spot => do
    if spot.isDocumentMark then flawed
    else
      let spot := spot.skipWhile fun c => c == ' ' || c == '\t'
      match spot.takeBreak? with
      | none => return ([], spot)
      | some (c, spot) =>
        let (breaks, spot) ← takeQuotedBreaks count spot
        return (c :: breaks, spot)

/-- Take what a backslash stands for. -/
def takeEscape (spot : Spot) : Except Fault (List Char × Spot) := do
  let c := spot.peek 0
  match escapes.lookup c, codeWidths.lookup c, spot.takeBreak? with
  | some found, _, _ => return ([found], spot.next)
  | none, some width, _ =>
    let digits := spot.next.rest.take width
    return ([← codedChar digits width], spot.next.skip width)
  | none, none, some (_, after) => takeQuotedBreaks (after.rest.length + 1) after
  | none, none, none => flawed

/-- Take a gap between quotes. -/
def takeQuotedGap (spot : Spot) : Except Fault (List Char × Spot) := do
  let blanks := spot.run fun c => c == ' ' || c == '\t'
  let after := spot.skip blanks.length
  match after.takeBreak? with
  | some (first, spot) =>
    let (breaks, spot) ← takeQuotedBreaks (spot.rest.length + 1) spot
    return (folded first breaks, spot)
  | none => if after.rest.isEmpty then flawed else return (blanks, after)

/-- Take a scalar up to its closing quote, which is double or single. -/
def takeQuoted (isDouble : Bool) : Nat → Spot → Except Fault (List Char × Spot)
  | 0, _ => flawed
  | count + 1, spot => do
    let add (part : List Char) (spot : Spot) : Except Fault (List Char × Spot) := do
      let (more, spot) ← takeQuoted isDouble count spot
      return (part ++ more, spot)
    match spot.rest with
    | [] => flawed
    | '\x27' :: rest =>
      if isDouble then add ['\x27'] spot.next
      else if rest.head? == some '\x27' then add ['\x27'] (spot.skip 2)
      else return ([], spot.next)
    | '\x22' :: _ => if isDouble then return ([], spot.next) else add ['\x22'] spot.next
    | '\\' :: _ =>
      if isDouble then
        let (part, spot) ← takeEscape spot.next
        add part spot
      else add ['\\'] spot.next
    | c :: _ =>
      if isGap c then
        let (part, spot) ← takeQuotedGap spot
        add part spot
      else add [c] spot.next

/-! ### Blocks of lines -/

/-- What becomes of the line ends after the last line of a block. -/
inductive Chomping where
  | clip
  | strip
  | keep
deriving DecidableEq

/-- The sign for what becomes of the last line ends. -/
def chomping? (c : Char) : Option Chomping :=
  if c == '+' then some .keep else if c == '-' then some .strip else none

/-- The digit for how far a block is indented, if there is one. -/
def takeDepth (spot : Spot) : Except Fault (Option Nat × Spot) :=
  let c := spot.peek 0
  if c == '0' then flawed
  else if '1' ≤ c && c ≤ '9' then .ok (some (c.toNat - 48), spot.next)
  else .ok (none, spot)

/-- Take the head of a block: what becomes of its last line ends, and how far it is indented. -/
def takeBlockHead (spot : Spot) : Except Fault (Chomping × Option Nat × Spot) := do
  let (chomping, depth, spot) ←
    match chomping? (spot.peek 0) with
    | some chomping => do
      let (depth, spot) ← takeDepth spot.next
      pure (chomping, depth, spot)
    | none => do
      let (depth, spot) ← takeDepth spot
      match depth, chomping? (spot.peek 0) with
      | some _, some chomping => pure (chomping, depth, spot.next)
      | _, _ => pure (.clip, depth, spot)
  if isSpaceOrEnd (spot.peek 0) then return (chomping, depth, ← spot.skipLineRest) else flawed

/-- Take the empty lines before a block, and the furthest column that they reach. -/
def takeBlockIndent : Nat → Nat → Spot → List Char × Nat × Spot
  | 0, widest, spot => ([], widest, spot)
  | count + 1, widest, spot =>
    if spot.peek 0 == ' ' then takeBlockIndent count (max widest spot.next.column) spot.next
    else
      match spot.takeBreak? with
      | none => ([], widest, spot)
      | some (c, spot) =>
        let (breaks, widest, spot) := takeBlockIndent count widest spot
        (c :: breaks, widest, spot)

/-- Skip the blanks of a line up to a column. -/
def skipToColumn (column : Nat) (spot : Spot) : Spot :=
  spot.skip (min (column - spot.column) (spot.run (· == ' ')).length)

/-- Take empty lines of a block at a column. -/
def takeBlockBreaks (column : Nat) : Nat → Spot → List Char × Spot
  | 0, spot => ([], spot)
  | count + 1, spot =>
    let spot := skipToColumn column spot
    match spot.takeBreak? with
    | none => ([], spot)
    | some (c, spot) =>
      let (breaks, spot) := takeBlockBreaks column count spot
      (c :: breaks, spot)

/-- Take the lines of a block at a column, after empty lines. -/
def takeBlockLines (isFolded : Bool) (chomping : Chomping) (column : Nat) :
    Nat → List Char → Spot → List Char × Spot
  | 0, _, spot => ([], spot)
  | count + 1, breaks, spot =>
    if spot.column != column || spot.rest.isEmpty then
      (if chomping == .keep then breaks else [], spot)
    else
      let isText (c : Char) : Bool := c != ' ' && c != '\t'
      let startsText := isText (spot.peek 0)
      let line := spot.run (!isBreakOrEnd ·)
      let after := spot.skip line.length
      let (ending, after) :=
        match after.takeBreak? with
        | some (c, after) => ([c], after)
        | none => ([], after)
      let (next, after) := takeBlockBreaks column (after.rest.length + 1) after
      if after.column == column && !after.rest.isEmpty then
        let seam :=
          if isFolded && ending == ['\n'] && startsText && isText (after.peek 0) then
            if next.isEmpty then [' '] else []
          else ending
        let (more, after) := takeBlockLines isFolded chomping column count next after
        (breaks ++ line ++ seam ++ more, after)
      else
        let tail :=
          match chomping with
          | .strip => []
          | .clip => ending
          | .keep => ending ++ next
        (breaks ++ line ++ tail, after)

/-- Take a block of lines that stands in a block of the given indentation. -/
def takeBlock (isFolded : Bool) (indent : Int) (spot : Spot) : Except Fault (List Char × Spot) := do
  let (chomping, depth, spot) ← takeBlockHead spot
  let least := (max (indent + 1) 1).toNat
  let count := spot.rest.length + 1
  match depth with
  | none =>
    let (breaks, widest, spot) := takeBlockIndent count 0 spot
    return takeBlockLines isFolded chomping (max least widest) count breaks spot
  | some depth =>
    let column := least + depth - 1
    let (breaks, spot) := takeBlockBreaks column count spot
    return takeBlockLines isFolded chomping column count breaks spot

end Linework.Document.Yaml
