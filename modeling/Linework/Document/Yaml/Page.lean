import Linework.Document.Yaml.Tag
import Linework.Text.Quoted

/-!
# Pages

A page is what has been written of a document, with what decides about blanks and line breaks: the column,
and whether blanks stand right before it. Scalars are written on it in one of three styles; a line that has
grown longer than a page is wide is broken at the next single blank.
-/

namespace Linework.Document.Yaml

open Linework.Text

/-- What has been written. -/
structure Page where
  text : Array Char := #[]
  column : Nat := 0
  /-- Nothing has to separate what comes next from what stands before. -/
  isSpaced : Bool := true
  /-- There are only indentation and marks of lists and keys on the line. -/
  isFresh : Bool := true

/-- How wide a page is. -/
def pageWidth : Nat := 80

/-- How a scalar is written. -/
inductive Style where
  | plain
  | single
  | double
deriving DecidableEq

namespace Page

/-- Write characters that hold no line break. -/
def put (page : Page) (chars : List Char) : Page :=
  { page with text := page.text ++ chars.toArray, column := page.column + chars.length }

/-- End the line. -/
def breakLine (page : Page) : Page :=
  { text := page.text.push '\n', column := 0, isSpaced := true, isFresh := true }

/-- End the line, and add empty lines. -/
def breakLines (page : Page) : Nat → Page
  | 0 => page
  | count + 1 => page.breakLine.breakLines count

/-- Go to the column where a line starts, on a new line if need be. -/
def startLine (page : Page) (indent : Nat) : Page :=
  let page :=
    if !page.isFresh || page.column > indent || (page.column == indent && !page.isSpaced) then page.breakLine
    else page
  if page.column < indent then
    { page.put (List.replicate (indent - page.column) ' ') with isSpaced := true }
  else page

/-- Write a mark. It is set off by a blank when it `needsSpace`, and keeps a fresh line fresh when it
`staysFresh`. -/
def mark (page : Page) (symbol : String) (needsSpace staysFresh : Bool) : Page :=
  let chars := symbol.toList
  let page' := page.put (if page.isSpaced || !needsSpace then chars else ' ' :: chars)
  { page' with isSpaced := false, isFresh := page.isFresh && staysFresh }

/-- Whether a run of blanks is where a long line is broken. -/
def breaksAt (page : Page) (mayBreak : Bool) (run : List Char) : Bool :=
  mayBreak && run.length == 1 && page.column > pageWidth

/-- Cut a text in runs of blanks, runs of line feeds, and runs of all else. -/
def runs (text : List Char) : List (List Char) :=
  let sort (c : Char) : Nat := if c == ' ' then 0 else if c == '\n' then 1 else 2
  text.splitBy fun a b => sort a == sort b

/-- Write the runs of a plain scalar. -/
def putPlainRuns (page : Page) (indent : Nat) (mayBreak : Bool) (runs : List (List Char)) : Page :=
  runs.foldl (fun page run =>
    if run.head? == some ' ' && page.breaksAt mayBreak run then
      { page.startLine indent with isSpaced := false, isFresh := false }
    else page.put run) page

/-- Write a scalar without quotes. -/
def putPlain (page : Page) (indent : Nat) (mayBreak : Bool) (text : List Char) : Page :=
  if text.isEmpty then page
  else
    let page := if page.isSpaced then page else page.put [' ']
    { page with isSpaced := false, isFresh := false }.putPlainRuns indent mayBreak (runs text)

/-- Write the runs of a scalar between single quotes, of which `isFirst` tells whether none has been
written. -/
def putSingleRuns (page : Page) (indent : Nat) (mayBreak isFirst : Bool) : List (List Char) → Page
  | [] => page
  | run :: rest =>
    let page :=
      match run.head? with
      | some ' ' =>
        if page.breaksAt mayBreak run && !isFirst && !rest.isEmpty then page.startLine indent
        else page.put run
      | some '\n' => (page.breakLines (run.length + 1)).startLine indent
      | _ => page.put (run.flatMap fun c => if c == '\x27' then [c, c] else [c])
    page.putSingleRuns indent mayBreak false rest

/-- Write a scalar between single quotes. -/
def putSingle (page : Page) (indent : Nat) (mayBreak : Bool) (text : List Char) : Page :=
  ((page.mark "'" true false).putSingleRuns indent mayBreak true (runs text)).mark "'" false false

/-- The letters of escapes. -/
def escapeLetters : List (Char × Char) := [
  ('\x00', '0'), ('\x07', 'a'), ('\x08', 'b'), ('\x09', 't'), ('\x0a', 'n'), ('\x0b', 'v'), ('\x0c', 'f'),
  ('\x0d', 'r'), ('\x1b', 'e'), ('\x22', '\x22'), ('\\', '\\'), ('\u0085', 'N'), ('\u00a0', '_'),
  ('\u2028', 'L'), ('\u2029', 'P')]

/-- A hexadecimal digit in upper case. -/
def upperHex (c : Char) : Char :=
  if 'a' ≤ c && c ≤ 'f' then Char.ofNat (c.toNat - 32) else c

/-- The escape of a character between double quotes, if it needs one. -/
def escape? (c : Char) : Option (List Char) :=
  match escapeLetters.lookup c with
  | some letter => some ['\\', letter]
  | none =>
    let coded (letter : Char) (width : Nat) : Option (List Char) :=
      some ('\\' :: letter :: (hexDigits width c.toNat).map upperHex)
    if ' ' ≤ c && c ≤ '~' then none
    else if c.toNat ≤ 0xff then coded 'x' 2
    else if c.toNat ≤ 0xffff then coded 'u' 4
    else coded 'U' 8

/-- Break the line inside of double quotes; a blank at the start of the next line needs a mark. -/
def foldDouble (page : Page) (indent : Nat) (rest : List Char) : Page :=
  let page := { (page.put ['\\']).startLine indent with isSpaced := false, isFresh := false }
  if rest.head? == some ' ' then page.put ['\\'] else page

/-- Write the rest of a scalar between double quotes. `waiting` are the characters before it that have not
been written yet, and `place` counts all characters before it, out of `count`. -/
def putDoubleFrom (page : Page) (indent count : Nat) (mayBreak : Bool) (place : Nat) (waiting : List Char) :
    List Char → Page
  | [] => page.put waiting
  | c :: rest =>
    let isInside := 0 < place && place + 1 < count
    match escape? c with
    | some escape =>
      let page := (page.put waiting).put escape
      let page :=
        if isInside && mayBreak && page.column - 1 > pageWidth then page.foldDouble indent rest else page
      page.putDoubleFrom indent count mayBreak (place + 1) [] rest
    | none =>
      if isInside && mayBreak && (c == ' ' || waiting.isEmpty)
          && page.column + waiting.length > pageWidth then
        ((page.put waiting).foldDouble indent (c :: rest)).putDoubleFrom indent count mayBreak (place + 1) [c]
          rest
      else page.putDoubleFrom indent count mayBreak (place + 1) (waiting ++ [c]) rest
/-- Write a scalar between double quotes. -/
def putDouble (page : Page) (indent : Nat) (mayBreak : Bool) (text : List Char) : Page :=
  ((page.mark "\"" true false).putDoubleFrom indent text.length mayBreak 0 [] text).mark "\"" false false

end Page

end Linework.Document.Yaml
