import Linework.Decimal.Reading
import Linework.Document.Json.Read
import Linework.Text.Blank
import Linework.Text.LineEnd

/-!
# Reading XML

An element is read as its text when it has neither attributes nor elements in it, and else as a map: the
attributes with `@` before their names, the elements by their names, and the text under `#text`. Elements of
one name become a list. Blanks around a text do not count, and an element without anything is null. The
number that a reading takes bounds how many steps lie inside of each other.
-/

namespace Linework.Document.Xml

open Linework.Text

/-- The fault of a text that is no document. -/
def flawed {α : Type} : Except Fault α :=
  .error (.malformedAs "xml")

/-! ### Characters -/

/-- Whether a character may stand between the parts of a tag. -/
def isGap (c : Char) : Bool :=
  c == ' ' || c == '\t' || c == '\n' || c == '\r'

/-- Drop the blanks at the front. -/
def skipGaps (chars : List Char) : List Char :=
  chars.dropWhile isGap

/-- Whether a character may stand in a document at all. -/
def isAllowed (c : Char) : Bool :=
  (0x20 ≤ c.toNat || isGap c) && c.toNat != 0xfffe && c.toNat != 0xffff

/-- The codes beyond ASCII that a name may begin with. -/
def nameStarts : List (Nat × Nat) := [
  (0xc0, 0xd6), (0xd8, 0xf6), (0xf8, 0x2ff), (0x370, 0x37d), (0x37f, 0x1fff), (0x200c, 0x200d),
  (0x2070, 0x218f), (0x2c00, 0x2fef), (0x3001, 0xd7ff), (0xf900, 0xfdcf), (0xfdf0, 0xfffd),
  (0x10000, 0xeffff)]

/-- Whether a name may begin with a character. -/
def startsName (c : Char) : Bool :=
  ('a' ≤ c && c ≤ 'z') || ('A' ≤ c && c ≤ 'Z') || c == '_' || c == ':'
    || nameStarts.any fun (low, high) => low ≤ c.toNat && c.toNat ≤ high

/-- Whether a name may go on with a character. -/
def continuesName (c : Char) : Bool :=
  startsName c || ('0' ≤ c && c ≤ '9') || c == '-' || c == '.' || c.toNat == 0xb7
    || (0x300 ≤ c.toNat && c.toNat ≤ 0x36f) || (0x203f ≤ c.toNat && c.toNat ≤ 0x2040)

/-- Take a name. -/
def takeName (chars : List Char) : Except Fault (String × List Char) :=
  if chars.head?.any startsName then
    let name := chars.takeWhile continuesName
    .ok (String.ofList name, chars.drop name.length)
  else flawed

/-- Split a text at the first occurrence of a mark, which belongs to neither part. -/
def splitAt? (mark : List Char) : List Char → Option (List Char × List Char)
  | [] => none
  | c :: rest =>
    if mark.isPrefixOf (c :: rest) then some ([], (c :: rest).drop mark.length)
    else (splitAt? mark rest).map fun (before, after) => (c :: before, after)

/-- The rest of a text after the word that it begins with, if it does. -/
def after? (word : String) (chars : List Char) : Option (List Char) :=
  if word.toList.isPrefixOf chars then some (chars.drop word.length) else none

/-! ### References -/

/-- The characters that have names. -/
def namedChars : List (String × Char) :=
  [("amp", '&'), ("lt", '<'), ("gt", '>'), ("apos", '\x27'), ("quot", '\x22')]

/-- The character of a code. -/
def codedChar (code : Nat) : Except Fault (List Char) :=
  let isChar := code < 0x110000 && !(0xd800 ≤ code && code < 0xe000)
  if isChar && code != 0 && isAllowed (Char.ofNat code) then .ok [Char.ofNat code] else flawed

/-- The value of digits in a base. -/
def codeOf (base : Nat) (digits : List Char) : Except Fault Nat :=
  let values := digits.filterMap Json.hexValue?
  if digits.isEmpty || values.length != digits.length || values.any (base ≤ ·) then flawed
  else .ok (values.foldl (fun n value => min (n * base + value) 0x110000) 0)

/-- Take a reference after its ampersand. Unknown names stand for nothing if they `mayBeUnknown`. -/
def takeReference (mayBeUnknown : Bool) (chars : List Char) : Except Fault (List Char × List Char) := do
  match splitAt? [';'] chars with
  | none => flawed
  | some ('#' :: 'x' :: digits, rest) => return (← codedChar (← codeOf 16 digits), rest)
  | some ('#' :: digits, rest) => return (← codedChar (← codeOf 10 digits), rest)
  | some (name, rest) =>
    match namedChars.lookup (String.ofList name) with
    | some c => return ([c], rest)
    | none =>
      if mayBeUnknown && name.head?.any startsName && name.all continuesName then return ([], rest)
      else flawed

/-! ### Tags -/

/-- Take the value of an attribute up to its closing quote. Line ends and tabs count as blanks. -/
def takeAttributeText (mayBeUnknown : Bool) (quote : Char) :
    Nat → List Char → Except Fault (List Char × List Char)
  | 0, _ => flawed
  | steps + 1, chars => do
    match chars with
    | [] => flawed
    | '<' :: _ => flawed
    | '&' :: rest =>
      let (part, rest) ← takeReference mayBeUnknown rest
      let (text, rest) ← takeAttributeText mayBeUnknown quote steps rest
      return (part ++ text, rest)
    | c :: rest =>
      if c == quote then return ([], rest)
      else
        let (text, rest) ← takeAttributeText mayBeUnknown quote steps rest
        return ((if isGap c then ' ' else c) :: text, rest)

/-- Take an equals sign and a quote. -/
def takeEquals (chars : List Char) : Except Fault (Char × List Char) :=
  match skipGaps chars with
  | '=' :: rest =>
    match skipGaps rest with
    | '\x27' :: rest => .ok ('\x27', rest)
    | '\x22' :: rest => .ok ('\x22', rest)
    | _ => flawed
  | _ => flawed

/-- Take the attributes of a tag, and whether it closes its element. -/
def takeAttributes (mayBeUnknown : Bool) :
    Nat → Assoc Datum Datum → List Char → Except Fault (Assoc Datum Datum × Bool × List Char)
  | 0, _, _ => flawed
  | steps + 1, taken, chars => do
    match skipGaps chars with
    | '>' :: rest => return (taken, false, rest)
    | '/' :: '>' :: rest => return (taken, true, rest)
    | body =>
      if body.length == chars.length then flawed
      else
        let (name, rest) ← takeName body
        let (quote, rest) ← takeEquals rest
        let (text, rest) ← takeAttributeText mayBeUnknown quote (rest.length + 1) rest
        let key := Datum.text ("@" ++ name)
        if taken.has key then flawed
        else takeAttributes mayBeUnknown steps (taken ++ [(key, .text (String.ofList text))]) rest

/-- Skip a comment after its opening mark. -/
def skipComment (chars : List Char) : Except Fault (List Char) :=
  match splitAt? ['-', '-'] chars with
  | some (_, '>' :: rest) => .ok rest
  | _ => flawed

/-- Skip an instruction to a program after its opening mark. -/
def skipInstruction (chars : List Char) : Except Fault (List Char) := do
  let (name, rest) ← takeName chars
  if name.toLower == "xml" then flawed
  else
    match after? "?>" rest with
    | some rest => return rest
    | none =>
      if !rest.head?.any isGap then flawed
      else
        match splitAt? ['?', '>'] rest with
        | some (_, rest) => return rest
        | none => flawed

/-! ### Elements -/

/-- Add an entry to a map; entries under one key become a list. -/
def pushEntry (fields : Assoc Datum Datum) (name : String) (value : Datum) : Assoc Datum Datum :=
  let key := Datum.text name
  match fields.get? key with
  | none => fields ++ [(key, value)]
  | some (.list items) => fields.put key (.list (items ++ [value]))
  | some first => fields.put key (.list [first, value])

/-- What an element is read as. -/
def elementDatum (fields : Assoc Datum Datum) (text : List Char) : Datum :=
  let content := trimBy isBlank text
  let datum := Datum.text (String.ofList content)
  if fields.isEmpty then (if content.isEmpty then .null else datum)
  else .dict (if content.isEmpty then fields else pushEntry fields "#text" datum)

mutual

/-- Take an element whose opening mark has been taken: its name and what it is read as. -/
def takeElement (mayBeUnknown : Bool) : Nat → List Char → Except Fault (String × Datum × List Char)
  | 0, _ => flawed
  | steps + 1, chars => do
    let (name, rest) ← takeName chars
    let (attributes, isClosed, rest) ← takeAttributes mayBeUnknown (rest.length + 1) [] rest
    if isClosed then return (name, elementDatum attributes [], rest)
    else
      let (datum, rest) ← takeContent mayBeUnknown steps name attributes #[] rest
      return (name, datum, rest)

/-- Take the content of an element up to the end of its closing tag. -/
def takeContent (mayBeUnknown : Bool) :
    Nat → String → Assoc Datum Datum → Array Char → List Char → Except Fault (Datum × List Char)
  | 0, _, _, _, _ => flawed
  | steps + 1, name, fields, text, chars => do
    match chars with
    | [] => flawed
    | '<' :: '/' :: rest =>
      let (closing, rest) ← takeName rest
      match skipGaps rest with
      | '>' :: rest => if closing == name then return (elementDatum fields text.toList, rest) else flawed
      | _ => flawed
    | '<' :: '!' :: '-' :: '-' :: rest =>
      takeContent mayBeUnknown steps name fields text (← skipComment rest)
    | '<' :: '?' :: rest => takeContent mayBeUnknown steps name fields text (← skipInstruction rest)
    | '<' :: rest =>
      match after? "![CDATA[" rest with
      | some rest =>
        match splitAt? [']', ']', '>'] rest with
        | some (inside, rest) => takeContent mayBeUnknown steps name fields (text ++ inside.toArray) rest
        | none => flawed
      | none =>
        let (child, value, rest) ← takeElement mayBeUnknown steps rest
        takeContent mayBeUnknown steps name (pushEntry fields child value) text rest
    | '&' :: rest =>
      let (part, rest) ← takeReference mayBeUnknown rest
      takeContent mayBeUnknown steps name fields (text ++ part.toArray) rest
    | ']' :: ']' :: '>' :: _ => flawed
    | c :: rest => takeContent mayBeUnknown steps name fields (text.push c) rest

end

/-! ### The head of a document -/

/-- Take a value between quotes that the declaration of a document gives to a word. -/
def takeDeclared? (word : String) (chars : List Char) : Except Fault (Option (List Char) × List Char) := do
  let body := skipGaps chars
  match after? word body with
  | none => return (none, chars)
  | some rest =>
    if body.length == chars.length then flawed
    else
      let (quote, rest) ← takeEquals rest
      match splitAt? [quote] rest with
      | some (value, rest) =>
        let isPlain (c : Char) : Bool :=
          c.isAlphanum || c == '.' || c == ':' || c == '-' || c == '_'
        if value.all isPlain then return (some value, rest) else flawed
      | none => flawed

/-- Skip the declaration that a document may begin with. -/
def skipDeclaration (chars : List Char) : Except Fault (List Char) := do
  match after? "<?xml" chars with
  | none => return chars
  | some rest =>
    if !rest.head?.any isGap then return chars
    else
      let (version, rest) ← takeDeclared? "version" rest
      let (encoding, rest) ← takeDeclared? "encoding" rest
      let (standalone, rest) ← takeDeclared? "standalone" rest
      let isEncoding := encoding.all fun name => name.head?.any Char.isAlpha
      let isChoice := standalone.all fun value => value == "yes".toList || value == "no".toList
      match after? "?>" (skipGaps rest) with
      | some rest => if version.isSome && isEncoding && isChoice then return rest else flawed
      | none => flawed

/-- Skip blanks, comments and instructions outside of the root. -/
def skipMisc : Nat → List Char → Except Fault (List Char)
  | 0, chars => .ok chars
  | steps + 1, chars => do
    match skipGaps chars with
    | '<' :: '!' :: '-' :: '-' :: rest => skipMisc steps (← skipComment rest)
    | '<' :: '?' :: rest => skipMisc steps (← skipInstruction rest)
    | rest => return rest

/-- Take a text between quotes. -/
def skipQuoted (chars : List Char) : Except Fault (List Char) :=
  match chars with
  | [] => flawed
  | quote :: rest =>
    if quote == '\x27' || quote == '\x22' then
      match splitAt? [quote] rest with
      | some (_, rest) => .ok rest
      | none => flawed
    else flawed

/-- Skip the name of a document type kept elsewhere, if it is: whether it is. -/
def skipExternal (chars : List Char) : Except Fault (Bool × List Char) := do
  let body := skipGaps chars
  match after? "SYSTEM" body, after? "PUBLIC" body with
  | some rest, _ => return (true, ← skipQuoted (skipGaps rest))
  | none, some rest => return (true, ← skipQuoted (skipGaps (← skipQuoted (skipGaps rest))))
  | none, none => return (false, body)

/-- Skip the rest of a declaration up to its closing mark. Marks between quotes do not count. -/
def skipMarkup : Nat → List Char → Except Fault (List Char)
  | 0, _ => flawed
  | steps + 1, chars => do
    match chars with
    | [] => flawed
    | '>' :: rest => return rest
    | c :: rest =>
      if c == '\x27' || c == '\x22' then skipMarkup steps (← skipQuoted chars) else skipMarkup steps rest

/-- Skip the declarations of a document type. Declarations of entities are refused. -/
def skipSubset : Nat → List Char → Except Fault (List Char)
  | 0, _ => flawed
  | steps + 1, chars => do
    match skipGaps chars with
    | ']' :: rest => return rest
    | '<' :: '!' :: '-' :: '-' :: rest => skipSubset steps (← skipComment rest)
    | '<' :: '?' :: rest => skipSubset steps (← skipInstruction rest)
    | '<' :: '!' :: rest =>
      let word := String.ofList (rest.takeWhile Char.isAlpha)
      let rest ← skipMarkup (rest.length + 1) rest
      if word == "ENTITY" then throw .entityDeclared
      else if ["ELEMENT", "ATTLIST", "NOTATION"].contains word then skipSubset steps rest
      else flawed
    | '%' :: rest =>
      match splitAt? [';'] rest with
      | some (_, rest) => skipSubset steps rest
      | none => flawed
    | _ => flawed

/-- Skip the document type, if there is one: whether names may be declared elsewhere. -/
def skipDoctype (chars : List Char) : Except Fault (Bool × List Char) := do
  match after? "<!DOCTYPE" chars with
  | none => return (false, chars)
  | some rest =>
    if !rest.head?.any isGap then flawed
    else
      let (_, rest) ← takeName (skipGaps rest)
      let (isExternal, rest) ← skipExternal rest
      let rest ←
        match skipGaps rest with
        | '[' :: rest => skipSubset (rest.length + 1) rest
        | rest => pure rest
      match skipGaps rest with
      | '>' :: rest => return (isExternal, rest)
      | _ => flawed

/-- Read a document. -/
def read (text : String) : Except Fault Datum := do
  let chars := text.toList
  if !chars.all isAllowed then flawed
  else
    let chars := unifyLineEnds chars
    let steps := chars.length + 1
    let chars := if chars.head? == some '\ufeff' then chars.drop 1 else chars
    let rest ← skipMisc steps (← skipDeclaration chars)
    let (mayBeUnknown, rest) ← skipDoctype rest
    match ← skipMisc steps rest with
    | '<' :: rest =>
      let (name, datum, rest) ← takeElement mayBeUnknown (2 * steps) rest
      if (← skipMisc steps rest).isEmpty then return .dict [(.text name, datum)] else flawed
    | _ => flawed

end Linework.Document.Xml
