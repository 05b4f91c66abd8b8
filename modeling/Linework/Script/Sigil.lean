/-!
# Sigils in scripts

Inside a script, `$.name` stands for `name`. The sigil `$.` is removed everywhere but inside the literals
of texts, which are recognised by their quotes alone.
-/

namespace Linework.Script

/-- Split a text at the first occurrence of a mark of three equal quotes: up to and with the mark, and
the rest. -/
def throughTriple? (quote : Char) : List Char → Option (List Char × List Char)
  | a :: b :: c :: rest =>
    if a == quote && b == quote && c == quote then some ([a, b, c], rest)
    else (throughTriple? quote (b :: c :: rest)).map fun (inside, rest) => (a :: inside, rest)
  | _ => none

/-- Split a text at the first quote that is not escaped: up to and with the quote, and the rest. There is
none when the line ends before it. -/
def throughQuote? (quote : Char) : List Char → Option (List Char × List Char)
  | [] => none
  | '\\' :: c :: rest =>
    if c == '\n' then none
    else (throughQuote? quote rest).map fun (inside, rest) => ('\\' :: c :: inside, rest)
  | c :: rest =>
    if c == quote then some ([c], rest)
    else if c == '\n' || c == '\\' then none
    else (throughQuote? quote rest).map fun (inside, rest) => (c :: inside, rest)

/-- Whether a character opens the literal of a text. -/
def isQuote (c : Char) : Bool :=
  c == '\x27' || c == '\x22'

/-- Split off the literal that a text begins with, if it does. Three quotes open a literal over several
lines when three quotes close it. -/
def takeLiteral? : List Char → Option (List Char × List Char)
  | a :: b :: c :: rest =>
    if isQuote a then
      let triple := if b == a && c == a then throughTriple? a rest else none
      match triple with
      | some (inside, rest) => some (a :: b :: c :: inside, rest)
      | none =>
        (throughQuote? a (b :: c :: rest)).map fun (inside, rest) => (a :: inside, rest)
    else none
  | a :: rest =>
    if isQuote a then (throughQuote? a rest).map fun (inside, rest) => (a :: inside, rest) else none
  | [] => none

/-- Remove the sigils outside of literals, looking at most at `count` places. -/
def dropSigilsFrom (count : Nat) (chars : List Char) : List Char :=
  match count, chars with
  | 0, chars => chars
  | _, [] => []
  | count + 1, c :: rest =>
    match takeLiteral? (c :: rest) with
    | some (literal, rest) => literal ++ dropSigilsFrom count rest
    | none =>
      match c, rest with
      | '$', '.' :: rest => dropSigilsFrom count rest
      | _, _ => c :: dropSigilsFrom count rest

/-- Remove the sigils outside of literals. -/
def dropSigils (chars : List Char) : List Char :=
  dropSigilsFrom chars.length chars

end Linework.Script
