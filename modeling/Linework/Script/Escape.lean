import Linework.Script.Lexeme

/-!
# Escapes in literals

A backslash and the characters after it stand for one character, or for none at a line end. A backslash
that begins no escape stands for itself.
-/

namespace Linework.Script

/-- The character that a letter stands for behind a backslash. -/
def letterEscape? (c : Char) : Option Char :=
  if c == '\\' || c == '\x27' || c == '\x22' then some c
  else if c == 'a' then some '\x07'
  else if c == 'b' then some '\x08'
  else if c == 'f' then some '\x0c'
  else if c == 'n' then some '\n'
  else if c == 'r' then some '\r'
  else if c == 't' then some '\t'
  else if c == 'v' then some '\x0b'
  else none

/-- How many hexadecimal digits follow a letter behind a backslash. -/
def codeWidth? (c : Char) : Option Nat :=
  if c == 'x' then some 2 else if c == 'u' then some 4 else if c == 'U' then some 8 else none

/-- The character of a code. Halves of surrogate pairs are no characters. -/
def charOfCode? (code : Nat) : Option Char :=
  if 0x10ffff < code || (0xd800 ≤ code && code ≤ 0xdfff) then none else some (Char.ofNat code)

/-- The octal digits, at most three, that a text begins with. -/
def octalDigits (chars : List Char) : List Char :=
  (chars.take 3).takeWhile (isDigitOf 8)

/-- The characters that a literal's characters stand for, in at most `count` steps. Escapes that lack
digits or stand for no character, and escapes by name, are refused. -/
def unescapeFrom? (count : Nat) (chars : List Char) : Option (List Char) :=
  match count, chars with
  | _, [] => some []
  | 0, _ => none
  | count + 1, '\\' :: c :: rest =>
    if c == '\n' then unescapeFrom? count rest
    else if c == 'N' then none
    else
      match letterEscape? c, codeWidth? c with
      | some escaped, _ => (unescapeFrom? count rest).map (escaped :: ·)
      | none, some width =>
        let digits := rest.take width
        if digits.length < width || !digits.all (isDigitOf 16) then none
        else
          match charOfCode? (baseValue 16 digits) with
          | some escaped => (unescapeFrom? count (rest.drop width)).map (escaped :: ·)
          | none => none
      | none, none =>
        let digits := octalDigits (c :: rest)
        if digits.isEmpty then (unescapeFrom? count rest).map (fun chars => '\\' :: c :: chars)
        else
          (unescapeFrom? count ((c :: rest).drop digits.length)).map
            (Char.ofNat (baseValue 8 digits) :: ·)
  | count + 1, c :: rest => (unescapeFrom? count rest).map (c :: ·)

/-- The text that a literal's characters stand for. -/
def unescape? (isRaw : Bool) (chars : List Char) : Option String :=
  if isRaw then some (String.ofList chars)
  else (unescapeFrom? chars.length chars).map String.ofList

/-! ### Replacement fields -/

/-- A part of a literal with replacement fields, before its expressions are read. -/
inductive RawPart where
  | text (value : String)
  /-- A field: its expression, whether the expression's own characters are shown before its value, its
  conversion, and the parts of its layout. -/
  | field (source : List Char) (shown : Option String) (conversion : Option Char) (spec : List RawPart)

/-- Split a literal at the first brace: the characters before it and the rest from it on. Doubled braces
outside of a layout are single characters. Escapes hide no braces. -/
def untilBrace (isRaw inSpec : Bool) (text : List Char) : List Char → List Char × List Char
  | [] => (text.reverse, [])
  | '\\' :: c :: rest =>
    if isRaw || c == '\x7b' || c == '\x7d' then untilBrace isRaw inSpec ('\\' :: text) (c :: rest)
    else untilBrace isRaw inSpec (c :: '\\' :: text) rest
  | c :: d :: rest =>
    if c == '\x7b' || c == '\x7d' then
      if !inSpec && c == d then untilBrace isRaw inSpec (c :: text) rest
      else (text.reverse, c :: d :: rest)
    else untilBrace isRaw inSpec (c :: text) (d :: rest)
  | [c] => if c == '\x7b' || c == '\x7d' then (text.reverse, [c]) else ((c :: text).reverse, [])

/-- Where the search for the end of a field's expression stands: the quote of the literal that it is in
with the quote's width, and the closing brackets that are awaited. -/
structure FieldScan where
  quote : Option (Char × Nat) := none
  brackets : List Char := []

/-- Split a field at the end of its expression: the expression, and the rest from the mark that ends it. -/
def untilFieldEnd? (scan : FieldScan) (source : List Char) (chars : List Char) :
    Option (List Char × List Char) :=
  match chars with
  | [] => none
  | '\\' :: _ => none
  | c :: rest =>
    let go (scan : FieldScan) : Option (List Char × List Char) := untilFieldEnd? scan (c :: source) rest
    match scan.quote with
    | some (quote, width) =>
      if c == quote then
        if width == 1 then go { scan with quote := none }
        else if rest.take 2 == [quote, quote] then
          -- The two quotes that follow are passed over as if they were in no literal.
          match rest with
          | a :: b :: rest => untilFieldEnd? { scan with quote := none } (b :: a :: c :: source) rest
          | _ => none
        else go scan
      else go scan
    | none =>
      if c == '\x27' || c == '\x22' then
        match rest with
        | a :: b :: rest' =>
          if a == c && b == c then
            untilFieldEnd? { scan with quote := some (c, 3) } (b :: a :: c :: source) rest'
          else go { scan with quote := some (c, 1) }
        | _ => go { scan with quote := some (c, 1) }
      else if c == '#' then none
      else
        match closingOf? c with
        | some closing => go { scan with brackets := closing :: scan.brackets }
        | none =>
          let isEnd := c == '!' || c == ':' || c == '\x7d' || c == '='
          if scan.brackets.isEmpty && (isEnd || c == '<' || c == '>') then
            match rest with
            | '=' :: rest' =>
              if c == ':' || c == '\x7d' then some (source.reverse, chars)
              else untilFieldEnd? scan ('=' :: c :: source) rest'
            | _ => if isEnd then some (source.reverse, chars) else go scan
          else if isClosing c then
            if scan.brackets.head? == some c then go { scan with brackets := scan.brackets.drop 1 }
            else none
          else go scan

/-- Blanks behind the equals sign of a field. -/
def isFieldBlank (c : Char) : Bool :=
  c == ' ' || (9 ≤ c.toNat && c.toNat ≤ 13)

/-- The two parts of a field behind its expression: the characters shown for it and its conversion, with
the rest from its layout or its closing brace on. -/
def fieldMarks? (source : List Char) (rest : List Char) :
    Option (Option String × Option Char × List Char) :=
  let (shown, rest) : Option String × List Char :=
    match rest with
    | '=' :: rest =>
      let blanks := rest.takeWhile isFieldBlank
      (some (String.ofList (source ++ '=' :: blanks)), rest.drop blanks.length)
    | _ => (none, rest)
  match rest with
  | '!' :: c :: rest =>
    if c == 's' || c == 'r' || c == 'a' then some (shown, some c, rest) else none
  | '!' :: [] => none
  | _ => some (shown, none, rest)

/-- The parts of a literal, in at most `count` steps; `depth` counts the layouts that may still nest.
Inside of a layout the parts end at a closing brace, which is left. -/
def partsFrom? (isRaw : Bool) (depth : Nat) (inSpec : Bool) (count : Nat) (chars : List Char) :
    Option (List RawPart × List Char) :=
  match count with
  | 0 => none
  | count + 1 => do
    let (text, rest) := untilBrace isRaw inSpec [] chars
    let literal ← unescape? isRaw text
    let before : List RawPart := if literal.isEmpty then [] else [.text literal]
    match rest with
    | [] => if inSpec then none else some (before, [])
    | c :: rest =>
      if c == '\x7d' then
        if inSpec then some (before, c :: rest) else none
      else
        match depth with
        | 0 => none
        | depth + 1 => do
          let (source, rest) ← untilFieldEnd? {} [] rest
          let (shown, conversion, rest) ← fieldMarks? source rest
          let (spec, rest) ←
            match rest with
            | ':' :: rest => partsFrom? isRaw depth true count rest
            | _ => some ([], rest)
          match rest with
          | close :: rest =>
            if close == '\x7d' then do
              let conversion :=
                if shown.isSome && conversion.isNone && spec.isEmpty then some 'r' else conversion
              let (after, rest) ← partsFrom? isRaw (depth + 1) inSpec count rest
              some (before ++ .field source shown conversion spec :: after, rest)
            else none
          | [] => none

/-- The parts of a literal with replacement fields. -/
def parts? (isRaw : Bool) (chars : List Char) : Option (List RawPart) :=
  (partsFrom? isRaw 2 false (chars.length + 1) chars).map (·.1)

end Linework.Script
