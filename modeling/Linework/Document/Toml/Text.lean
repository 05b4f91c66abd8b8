import Linework.Document.Json.Read
import Linework.Text.Name

/-!
# The texts of TOML

How keys and texts are taken from the front of some characters. A text stands between single quotes, where
all characters stand for themselves, or between double quotes, where backslashes begin escapes; with three
quotes on either side it may go over several lines.
-/

namespace Linework.Document.Toml

open Linework.Document.Json (hexValue?)
open Linework.Text

/-- The fault of a text that is no document. -/
def flawed {α : Type} : Except Fault α :=
  .error .malformed

/-- Whether a character may stand between the parts of a line. -/
def isGap (c : Char) : Bool :=
  c == ' ' || c == '\t'

/-- Drop the blanks at the front. -/
def skipGaps (chars : List Char) : List Char :=
  chars.dropWhile isGap

/-- Whether a character may stand in a text, a comment included, that goes over several lines or does
not. -/
def isAllowed (overLines : Bool) (c : Char) : Bool :=
  !(c.toNat < 0x20 || c.toNat == 0x7f) || c == '\t' || (overLines && c == '\n')

/-- Drop a comment. -/
def skipComment : List Char → Except Fault (List Char)
  | '#' :: rest =>
    let comment := rest.takeWhile (· != '\n')
    if comment.all (isAllowed false) then .ok (rest.drop comment.length) else flawed
  | chars => .ok chars

/-! ### Texts -/

/-- The characters that letters after a backslash stand for. -/
def escapes : List (Char × Char) := [
  ('b', '\x08'), ('t', '\t'), ('n', '\n'), ('f', '\x0c'), ('r', '\r'), ('\x22', '\x22'), ('\\', '\\')]

/-- Take a character by its code of `width` hexadecimal digits. -/
def takeCode (width : Nat) (chars : List Char) : Except Fault (List Char × List Char) :=
  let values := (chars.take width).filterMap hexValue?
  let code := values.foldl (fun n value => n * 16 + value) 0
  if values.length != width || (0xd800 ≤ code && code < 0xe000) || 0x110000 ≤ code then flawed
  else .ok ([Char.ofNat code], chars.drop width)

/-- Drop the blanks after a backslash, the end of the line and the blank lines after it. -/
def skipLineEnd (chars : List Char) : Except Fault (List Char) :=
  match skipGaps chars with
  | [] => .ok []
  | '\n' :: rest => .ok (rest.dropWhile fun c => isGap c || c == '\n')
  | _ => flawed

/-- Take what a backslash stands for. -/
def takeEscape (overLines : Bool) : List Char → Except Fault (List Char × List Char)
  | [] => flawed
  | 'u' :: rest => takeCode 4 rest
  | 'U' :: rest => takeCode 8 rest
  | c :: rest =>
    if overLines && (isGap c || c == '\n') then do return ([], ← skipLineEnd (c :: rest))
    else
      match escapes.lookup c with
      | some found => .ok ([found], rest)
      | none => flawed

/-- Whether a text begins with three of a quote. -/
def hasTriple (quote : Char) (chars : List Char) : Bool :=
  chars.take 3 == [quote, quote, quote]

/-- Take a text with escapes up to its closing quotes, of at most `count` parts. -/
def takeBasic (overLines : Bool) : Nat → List Char → Except Fault (List Char × List Char)
  | 0, _ => flawed
  | count + 1, chars => do
    match chars with
    | [] => flawed
    | '\x22' :: rest =>
      if !overLines then return ([], rest)
      else if hasTriple '\x22' chars then return ([], chars.drop 3)
      else
        let (text, rest) ← takeBasic overLines count rest
        return ('\x22' :: text, rest)
    | '\\' :: rest =>
      let (part, rest) ← takeEscape overLines rest
      let (text, rest) ← takeBasic overLines count rest
      return (part ++ text, rest)
    | c :: rest =>
      if !isAllowed overLines c then flawed
      else
        let (text, rest) ← takeBasic overLines count rest
        return (c :: text, rest)

/-- Take a text without escapes up to its closing quotes. -/
def takeLiteral (overLines : Bool) : List Char → Except Fault (List Char × List Char)
  | [] => flawed
  | c :: rest => do
    if c == '\x27' && !overLines then return ([], rest)
    else if hasTriple '\x27' (c :: rest) && overLines then return ([], rest.drop 2)
    else if !isAllowed overLines c then flawed
    else
      let (text, rest) ← takeLiteral overLines rest
      return (c :: text, rest)

/-- Add the quotes, two at most, that stand right behind the closing ones and belong to the text. -/
def addQuotes (quote : Char) (text rest : List Char) : List Char × List Char :=
  let extra := (rest.take 2).takeWhile (· == quote)
  (text ++ extra, rest.drop extra.length)

/-- Take a text on one line. -/
def takeLineText : List Char → Except Fault (List Char × List Char)
  | '\x27' :: rest => takeLiteral false rest
  | '\x22' :: rest => takeBasic false (rest.length + 1) rest
  | _ => flawed

/-- Take a text. -/
def takeText (chars : List Char) : Except Fault (List Char × List Char) := do
  let quote := chars.headD ' '
  if hasTriple quote chars then
    let body := chars.drop 3
    let body := if body.head? == some '\n' then body.drop 1 else body
    let (text, rest) ←
      if quote == '\x27' then takeLiteral true body else takeBasic true (body.length + 1) body
    return addQuotes quote text rest
  else takeLineText chars

/-! ### Keys -/

/-- Whether a character may stand in a key without quotes. -/
def isBare (c : Char) : Bool :=
  isAsciiLetter c || isAsciiDigit c || c == '_' || c == '-'

/-- Take one part of a key. -/
def takeKeyPart (chars : List Char) : Except Fault (String × List Char) := do
  let bare := chars.takeWhile isBare
  if bare.isEmpty then
    let (text, rest) ← takeLineText chars
    return (String.ofList text, rest)
  else return (String.ofList bare, chars.drop bare.length)

/-- Take a key of at most `count` parts, and the blanks after it. -/
def takeKey : Nat → List Char → Except Fault (List String × List Char)
  | 0, _ => flawed
  | count + 1, chars => do
    let (part, rest) ← takeKeyPart chars
    match skipGaps rest with
    | '.' :: rest =>
      let (parts, rest) ← takeKey count (skipGaps rest)
      return (part :: parts, rest)
    | rest => return ([part], rest)

end Linework.Document.Toml
