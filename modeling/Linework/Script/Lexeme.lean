import Linework.Decimal.Reading
import Linework.Text.Blank
import Linework.Text.Name
import Linework.Text.Printable

/-!
# Lexemes of scripts

Scripts are cut into names, keywords, numbers, literals of texts and operators. The ends of lines and
the changes of their margins are lexemes too, outside of brackets; inside of brackets lines run on.

What cannot be cut is a `flawed` lexeme at which the sequence ends, so a reader of the sequence meets
the flaw exactly when all before it has been read.
-/

namespace Linework.Script

open Linework.Text Linework.Decimal

/-- Why a fragment is no script. -/
inductive Flaw where
  | ungrammatical
  | indentation
  | tabs
  | nullCharacter
  /-- It may be a script in a part of the language that is not modelled. -/
  | unmodelled
deriving DecidableEq

/-- The literal of a text: whether escapes are left alone, whether it holds replacement fields, and the
characters between its quotes. -/
structure Literal where
  isRaw : Bool
  hasFields : Bool
  body : List Char

/-- The parts that scripts are made of. -/
inductive Lexeme where
  | name (text : String)
  | keyword (word : String)
  | int (value : Nat)
  | float (value : Float)
  | literal (value : Literal)
  | mark (symbol : String)
  /-- The end of a statement's line. -/
  | newline
  | indent
  | dedent
  | stop
  /-- A character that belongs to no other lexeme. -/
  | stray
  /-- The sequence ends here. A `certain` flaw is reported even when the grammar fails before it. -/
  | flawed (flaw : Flaw) (certain : Bool)

/-- The words that are no names. -/
def keywords : List String := [
  "False", "None", "True", "and", "as", "assert", "async", "await", "break", "class", "continue", "def",
  "del", "elif", "else", "except", "finally", "for", "from", "global", "if", "import", "in", "is",
  "lambda", "nonlocal", "not", "or", "pass", "raise", "return", "try", "while", "with", "yield"]

/-- The operators and delimiters, longer ones before their beginnings. -/
def marks : List String := [
  "**=", "//=", ">>=", "<<=", "...", "!=", "%=", "&=", "**", "*=", "+=", "-=", "->", "//", "/=", ":=", "<<",
  "<=", "==", ">=", ">>", "@=", "^=", "|=", "<>", "%", "&", "(", ")", "*", "+", ",", "-", ".", "/", ":", ";",
  "<", "=", ">", "@", "[", "]", "^", "\x7b", "|", "\x7d", "~"]

/-! ### Numbers -/

/-- The value of a digit in any base up to sixteen. -/
def digitOf? (c : Char) : Option Nat :=
  if isPlainDigit c then some (c.toNat - 48)
  else if 'a' ≤ c && c ≤ 'f' then some (c.toNat - 87)
  else if 'A' ≤ c && c ≤ 'F' then some (c.toNat - 55)
  else none

/-- Whether a character is a digit of a base. -/
def isDigitOf (base : Nat) (c : Char) : Bool :=
  (digitOf? c).any (· < base)

/-- Read digits of a base with single underscores between them, after `digits` in reverse: all of the
digits and the rest, or nothing when an underscore is not followed by a digit. -/
def digitsFrom? (base : Nat) (digits : List Char) : List Char → Option (List Char × List Char)
  | '_' :: c :: rest =>
    if isDigitOf base c then digitsFrom? base (c :: digits) rest else none
  | c :: rest =>
    if isDigitOf base c then digitsFrom? base (c :: digits) rest
    else if c == '_' then none
    else some (digits.reverse, c :: rest)
  | [] => some (digits.reverse, [])

/-- The value of digits of a base. -/
def baseValue (base : Nat) (digits : List Char) : Nat :=
  digits.foldl (fun n c => n * base + (digitOf? c).getD 0) 0

/-- A character that continues a word: any but the ASCII characters that no name holds. -/
def isWordChar (c : Char) : Bool :=
  isAsciiLetter c || isAsciiDigit c || c == '_' || 128 ≤ c.toNat

/-- The words that may stand directly behind a number. -/
def wordsBehindNumbers : List String := ["and", "else", "for", "if", "in", "is", "or", "not"]

/-- Whether a number may end before these characters: no word follows directly, but for the words that
may stand between two values. -/
def endsNumber (rest : List Char) : Bool :=
  match rest with
  | [] => true
  | c :: _ => !isWordChar c || wordsBehindNumbers.any fun word => word.toList.isPrefixOf rest

/-- The lexeme of an integer of a base, once its digits are read. -/
def intLexeme? (base : Nat) (digits rest : List Char) : Option (Lexeme × List Char) :=
  if !endsNumber rest || (base == 10 && maxIntegerDigits < digits.length) then none
  else some (.int (baseValue base digits), rest)

/-- Read the digits of an integer of a base, of which there must be one. -/
def digitsInt? (base : Nat) (chars : List Char) : Option (Lexeme × List Char) :=
  if !chars.head?.any (isDigitOf base) then none
  else do
    let (digits, rest) ← digitsFrom? base [] chars
    if rest.head?.any isPlainDigit then none else intLexeme? base digits rest

/-- Read an integer behind its base mark. -/
def basedInt? (base : Nat) (chars : List Char) : Option (Lexeme × List Char) :=
  match chars with
  | '_' :: rest => digitsInt? base rest
  | _ => digitsInt? base chars

/-- The number of `digits` of which the last `places` stand behind the point, without an exponent. -/
def plainNumber? (digits : List Char) (places : Nat) (isInt : Bool) (rest : List Char) :
    Option (Lexeme × List Char) :=
  if isInt then intLexeme? 10 digits rest
  else if endsNumber rest then some (.float (ofDigits false (digitsValue digits) (-(places : Int))), rest)
  else none

/-- Read the digits of an exponent: the number and the rest. -/
def scaledNumber? (digits : List Char) (places : Nat) (negative : Bool) (chars : List Char) :
    Option (Lexeme × List Char) := do
  let (exponent, rest) ← digitsFrom? 10 [] chars
  let isBeyond := (exponent.dropWhile (· == '0')).length > 15
  let size : Int := if isBeyond then Nat.pow 10 15 else digitsValue exponent
  let exponent := if negative then -size else size
  if endsNumber rest then
    some (.float (ofDigits false (digitsValue digits) (exponent - places)), rest)
  else none

/-- Whether a character marks an exponent. -/
def isExponentMark (c : Char) : Bool :=
  c == 'e' || c == 'E'

/-- Read an exponent behind `digits` of which the last `places` stand behind the point: the number and
the rest. An `e` that no digits follow belongs to the next word. -/
def exponentFrom? (digits : List Char) (places : Nat) (isInt : Bool) (chars : List Char) :
    Option (Lexeme × List Char) :=
  match chars with
  | mark :: sign :: rest =>
    if !isExponentMark mark then plainNumber? digits places isInt chars
    else if sign == '+' || sign == '-' then
      if rest.head?.any isPlainDigit then scaledNumber? digits places (sign == '-') rest else none
    else if isPlainDigit sign then scaledNumber? digits places false (sign :: rest)
    else plainNumber? digits places isInt chars
  | _ => plainNumber? digits places isInt chars

/-- Read what stands behind the point of a decimal number. -/
def fractionFrom? (whole : List Char) (chars : List Char) : Option (Lexeme × List Char) :=
  if chars.head?.any isPlainDigit then do
    let (fraction, rest) ← digitsFrom? 10 [] chars
    exponentFrom? (whole ++ fraction) fraction.length false rest
  else exponentFrom? whole 0 false chars

/-- Read what stands behind the digits of a decimal number without a point. Integers but zero do not begin
with zero. -/
def wholeFrom? (whole : List Char) (chars : List Char) : Option (Lexeme × List Char) := do
  let exponent := chars.head?.any isExponentMark
  let (lexeme, rest) ← exponentFrom? whole 0 true chars
  match lexeme with
  | .int n => if whole.head? == some '0' && n != 0 then none else some (.int n, rest)
  | _ => if exponent then some (lexeme, rest) else none

/-- Read a decimal number. -/
def decimal? (chars : List Char) : Option (Lexeme × List Char) :=
  match chars with
  | '.' :: rest => fractionFrom? [] rest
  | _ => do
    let (whole, rest) ← digitsFrom? 10 [] chars
    match rest with
    | '.' :: afterPoint => fractionFrom? whole afterPoint
    | _ => wholeFrom? whole rest

/-- The base that a letter behind a zero marks. -/
def baseOf? (mark : Char) : Option Nat :=
  if mark == 'x' || mark == 'X' then some 16
  else if mark == 'o' || mark == 'O' then some 8
  else if mark == 'b' || mark == 'B' then some 2
  else none

/-- Read a number. -/
def number? (chars : List Char) : Option (Lexeme × List Char) :=
  match chars with
  | '0' :: mark :: rest =>
    match baseOf? mark with
    | some base => basedInt? base rest
    | none => decimal? chars
  | _ => decimal? chars

/-! ### Literals -/

/-- Read up to a single closing quote: the characters before it, and the rest behind it. -/
def singleBody? (quote : Char) : List Char → Option (List Char × List Char)
  | [] => none
  | '\\' :: c :: rest => (singleBody? quote rest).map fun (body, rest) => ('\\' :: c :: body, rest)
  | c :: rest =>
    if c == quote then some ([], rest)
    else if c == '\n' || c == '\\' then none
    else (singleBody? quote rest).map fun (body, rest) => (c :: body, rest)

/-- Read up to three closing quotes. -/
def tripleBody? (quote : Char) : List Char → Option (List Char × List Char)
  | [] => none
  | '\\' :: c :: rest => (tripleBody? quote rest).map fun (body, rest) => ('\\' :: c :: body, rest)
  | c :: rest =>
    if c == quote && [quote, quote].isPrefixOf rest then some ([], rest.drop 2)
    else (tripleBody? quote rest).map fun (body, rest) => (c :: body, rest)

/-- Read the literal that begins with the given quote. -/
def literalBody? (quote : Char) (rest : List Char) : Option (List Char × List Char) :=
  if [quote, quote].isPrefixOf rest then tripleBody? quote (rest.drop 2) else singleBody? quote rest

/-- The flags that the letters before a quote stand for, if they are a mark of a text literal. -/
def literalFlags? (word : List Char) : Option (Bool × Bool) :=
  match word.map Char.toLower with
  | [] | ['u'] => some (false, false)
  | ['r'] => some (true, false)
  | ['f'] => some (false, true)
  | ['r', 'f'] | ['f', 'r'] => some (true, true)
  | _ => none

/-! ### Lines -/

/-- The columns of a margin: with tabs to every eighth column, and with tabs as single columns. -/
structure Margin where
  column : Nat
  plain : Nat
deriving DecidableEq

/-- Measure the margin of a line: its columns and the rest of the line. A backslash continues the margin in
the next line; the column of the first one that stands behind blanks, `continued`, is then what counts. -/
def measureMargin (continued : Nat) (margin : Margin) : List Char → Margin × List Char
  | ' ' :: rest => measureMargin continued ⟨margin.column + 1, margin.plain + 1⟩ rest
  | '\t' :: rest => measureMargin continued ⟨(margin.column / 8 + 1) * 8, margin.plain + 1⟩ rest
  | '\x0c' :: rest => measureMargin continued ⟨0, 0⟩ rest
  | '\\' :: '\n' :: c :: rest =>
    measureMargin (if continued == 0 then margin.column else continued) margin (c :: rest)
  | rest => (if continued == 0 then margin else ⟨continued, continued⟩, rest)

/-- The deepest margin. -/
def maxMargins : Nat := 100

/-- The most brackets that may be open. -/
def maxBrackets : Nat := 200

/-- Close the margins that are deeper than that of a line: the lexemes, and the margins left. -/
def closeMargins (margin : Margin) : List Margin → List Lexeme × List Margin
  | [] => ([], [])
  | top :: outer =>
    if margin.column < top.column then
      let (lexemes, left) := closeMargins margin outer
      (.dedent :: lexemes, left)
    else ([], top :: outer)

/-- Compare the margin of a line with the margins that are open, innermost first: the lexemes of the
change and the margins now open, or a flaw. -/
def changeMargin (margin : Margin) (margins : List Margin) : List Lexeme × Except Flaw (List Margin) :=
  match margins with
  | [] => ([], .error .indentation)
  | top :: _ =>
    if margin.column == top.column then
      if margin.plain == top.plain then ([], .ok margins) else ([], .error .tabs)
    else if top.column < margin.column then
      if margins.length ≥ maxMargins then ([], .error .indentation)
      else if margin.plain ≤ top.plain then ([], .error .tabs)
      else ([.indent], .ok (margin :: margins))
    else
      let (lexemes, left) := closeMargins margin margins
      match left with
      | now :: _ =>
        if now.column != margin.column then ([], .error .indentation)
        else if now.plain != margin.plain then ([], .error .tabs)
        else (lexemes, .ok left)
      | [] => ([], .error .indentation)

/-- The bracket that an opening bracket is closed by. -/
def closingOf? (c : Char) : Option Char :=
  if c == '(' then some ')' else if c == '[' then some ']' else if c == '\x7b' then some '\x7d' else none

/-- Whether a character closes a bracket. -/
def isClosing (c : Char) : Bool :=
  c == ')' || c == ']' || c == '\x7d'

/-- Where the cutting stands: the margins that are open, the closing brackets that are awaited, and
whether a line is about to begin. -/
structure Cut where
  margins : List Margin := [⟨0, 0⟩]
  brackets : List Char := []
  atStart : Bool := true

/-- The end of the sequence: open margins are closed, but an open bracket is a flaw. -/
def finish (cut : Cut) : List Lexeme :=
  if cut.brackets.isEmpty then
    (if cut.atStart then cut.margins.drop 1 |>.map fun _ => .dedent else []) ++ [.stop]
  else [.flawed .ungrammatical false]

/-! ### Pieces -/

/-- The mark that a text begins with. -/
def takeMark? (chars : List Char) : Option (String × List Char) :=
  (marks.find? fun symbol => symbol.toList.isPrefixOf chars).map fun symbol =>
    (symbol, chars.drop symbol.length)

/-- A word as a lexeme: a keyword, or a name if its characters may stand in one. -/
def wordLexeme? (word : List Char) : Option Lexeme :=
  let text := String.ofList word
  if keywords.contains text then some (.keyword text)
  else if word.head?.any isNameStart && word.all isNameContinue then some (.name text)
  else none

/-- Whether a character is a quote that opens a literal. -/
def isLiteralQuote (c : Char) : Bool :=
  c == '\x27' || c == '\x22'

/-- Cut a literal whose quote stands before `rest`. -/
def literal? (flags : Bool × Bool) (quote : Char) (rest : List Char) : Option (Lexeme × List Char) :=
  (literalBody? quote rest).map fun (body, rest) => (.literal ⟨flags.1, flags.2, body⟩, rest)

/-- Cut a word, or the literal that it is the mark of. -/
def word? (chars : List Char) : Option (Lexeme × List Char) :=
  let word := chars.takeWhile isWordChar
  let rest := chars.dropWhile isWordChar
  match rest with
  | [] => (wordLexeme? word).map fun lexeme => (lexeme, rest)
  | quote :: behind =>
    match if isLiteralQuote quote then literalFlags? word else none with
    | some flags => literal? flags quote behind
    | none => (wordLexeme? word).map fun lexeme => (lexeme, rest)

/-- Cut a lexeme. -/
def token? (c : Char) (rest : List Char) : Option (Lexeme × List Char) :=
  if isPlainDigit c || (c == '.' && rest.head?.any isPlainDigit) then number? (c :: rest)
  else if isLiteralQuote c then literal? (false, false) c rest
  else if isWordChar c then word? (c :: rest)
  else
    match takeMark? (c :: rest) with
    | some (symbol, rest) => some (.mark symbol, rest)
    | none => if isPrintable c then some (.stray, rest) else none

/-- The closing brackets that are awaited behind a character, unless it is a bracket that must not stand
there. -/
def bracketsBehind? (brackets : List Char) (c : Char) : Option (List Char) :=
  match closingOf? c with
  | some closing => if brackets.length ≥ maxBrackets then none else some (closing :: brackets)
  | none =>
    if !isClosing c then some brackets
    else if brackets.head? == some c then some (brackets.drop 1)
    else none

/-- What the cutting of one lexeme gives: lexemes, and the rest with the state to go on with, unless the
sequence ends here. -/
structure Piece where
  lexemes : List Lexeme
  next : Option (Cut × List Char)

/-- The sequence ends with a flaw. -/
def Piece.flaw (flaw : Flaw) (certain : Bool) : Piece :=
  ⟨[.flawed flaw certain], none⟩

/-- Cut what begins with a character that is no blank. -/
def piece (cut : Cut) (c : Char) (rest : List Char) : Piece :=
  if c == '#' then ⟨[], some (cut, rest.dropWhile (· != '\n'))⟩
  else if c == '\n' then
    if cut.atStart || !cut.brackets.isEmpty then ⟨[], some (cut, rest)⟩
    else ⟨[.newline], some ({ cut with atStart := true }, rest)⟩
  else if c == '\\' then
    match rest with
    | '\n' :: rest =>
      if rest.isEmpty then .flaw .ungrammatical false
      else ⟨[], some ({ cut with atStart := false }, rest)⟩
    | _ => .flaw .ungrammatical false
  else
    match bracketsBehind? cut.brackets c, token? c rest with
    | some brackets, some (lexeme, rest) =>
      ⟨[lexeme], some ({ cut with brackets := brackets, atStart := false }, rest)⟩
    | _, _ => .flaw .ungrammatical true

/-- Cut at the start of a line: its margin counts when it has content. -/
def startLine (cut : Cut) (chars : List Char) : Piece :=
  let (margin, rest) := measureMargin 0 ⟨0, 0⟩ chars
  match rest with
  | [] => ⟨[], some (cut, [])⟩
  | c :: tail =>
    if c == '#' || c == '\n' || c == '\\' then piece cut c tail
    else
      match changeMargin margin cut.margins with
      | (lexemes, .ok margins) =>
        ⟨lexemes, some ({ cut with margins := margins, atStart := false }, rest)⟩
      | (lexemes, .error flaw) => ⟨lexemes ++ [.flawed flaw false], none⟩

/-- A blank inside of a line. -/
def isGap (c : Char) : Bool :=
  c == ' ' || c == '\t' || c == '\x0c'

/-- Cut a text, in at most `count` pieces. -/
def lexemesFrom (count : Nat) (cut : Cut) (chars : List Char) : List Lexeme :=
  match count with
  | 0 => [.flawed .ungrammatical false]
  | count + 1 =>
    let next (piece : Piece) : List Lexeme :=
      match piece.next with
      | some (cut, rest) => piece.lexemes ++ lexemesFrom count cut rest
      | none => piece.lexemes
    match chars with
    | [] => finish cut
    | _ =>
      if cut.atStart && cut.brackets.isEmpty then next (startLine cut chars)
      else
        match chars.dropWhile isGap with
        | [] => finish cut
        | c :: rest => next (piece cut c rest)

/-- The lexemes of a text, closed by `stop` or by a flaw. -/
def lexemes (chars : List Char) : List Lexeme :=
  lexemesFrom (2 * chars.length + 2) {} chars

end Linework.Script
