import Linework.Document.Toml.Text

/-!
# Reading TOML

A document is read line by line into one map of maps. What may no longer change is kept beside it: tables
that have been opened under a header or by a dotted key are not opened again, and nothing is added to a
list or a map that was written as a value.
-/

namespace Linework.Document.Toml

open Linework.Decimal

/-! ### Numbers -/

/-- How many characters belong to a group of digits, between which single underscores may stand. -/
def groupLength (isDigit : Char → Bool) : List Char → Nat
  | [] => 0
  | '_' :: c :: rest => if isDigit c then groupLength isDigit (c :: rest) + 1 else 0
  | c :: rest => if isDigit c then groupLength isDigit rest + 1 else 0

/-- Take a group of digits that begins with a digit. -/
def takeGroup (isDigit : Char → Bool) (chars : List Char) : List Char × List Char :=
  if chars.head?.any isDigit then
    let length := groupLength isDigit chars
    (chars.take length, chars.drop length)
  else ([], chars)

/-- The bases of integers by the letter after a zero. -/
def bases : List (Char × Nat) := [('x', 16), ('o', 8), ('b', 2)]

/-- Whether a character is a digit in a base. -/
def isDigitIn (base : Nat) (c : Char) : Bool :=
  (Json.hexValue? c).any (· < base)

/-- Take an integer in a base other than ten. -/
def takeBased? : List Char → Option (Nat × List Char)
  | '0' :: letter :: rest => do
    let base ← bases.lookup letter
    let (digits, rest) := takeGroup (isDigitIn base) rest
    if digits.isEmpty then none
    else
      let values := digits.filterMap Json.hexValue?
      return (values.foldl (fun n value => n * base + value) 0, rest)
  | _ => none

/-- Take the digits before the point of a number. -/
def takeWhole (chars : List Char) : List Char × List Char :=
  if chars.head? == some '0' then (['0'], chars.drop 1) else takeGroup isPlainDigit chars

/-- Take the point of a number and the digits after it. -/
def takeFraction (chars : List Char) : List Char × List Char :=
  let (digits, rest) := takeGroup isPlainDigit (chars.drop 1)
  if chars.head? == some '.' && !digits.isEmpty then ('.' :: digits, rest) else ([], chars)

/-- Take the exponent of a number. -/
def takeExponent (chars : List Char) : List Char × List Char :=
  let isMark := chars.head? == some 'e' || chars.head? == some 'E'
  let sign := ((chars.drop 1).take 1).filter fun c => c == '+' || c == '-'
  let (digits, rest) := takeGroup isPlainDigit (chars.drop (1 + sign.length))
  if isMark && !digits.isEmpty then ('e' :: sign ++ digits, rest) else ([], chars)

/-- Take a number in base ten. -/
def takeDecimal? (chars : List Char) : Option (Except Fault (Datum × List Char)) :=
  let (isNegative, body) := takeSign chars
  let (whole, rest) := takeWhole body
  if whole.isEmpty then none
  else
    let (fraction, rest) := takeFraction rest
    let (exponent, rest) := takeExponent rest
    let plain (chars : List Char) : List Char := chars.filter (· != '_')
    some <|
      if fraction.isEmpty && exponent.isEmpty then
        let digits := plain whole
        if digits.length > maxIntegerDigits then .error (.tooManyDigitsRead digits.length)
        else
          let magnitude : Int := digitsValue digits
          .ok (.int (if isNegative then -magnitude else magnitude), rest)
      else
        match unsignedDecimal? isNegative (plain (whole ++ fraction ++ exponent)) with
        | some x => .ok (.float x, rest)
        | none => flawed

/-- The names of values. -/
def namedValues : List (String × Datum) := [
  ("true", .bool true), ("false", .bool false), ("inf", .float (1.0 / 0.0)), ("nan", .float (0.0 / 0.0)),
  ("+inf", .float (1.0 / 0.0)), ("-inf", .float (-1.0 / 0.0)), ("+nan", .float (0.0 / 0.0)),
  ("-nan", .float (0.0 / 0.0))]

/-- Take a number or a named value. -/
def takeSimple (chars : List Char) : Except Fault (Datum × List Char) :=
  match takeBased? chars, takeDecimal? chars with
  | some (n, rest), _ => .ok (.int n, rest)
  | none, some taken => taken
  | none, none =>
    let named := namedValues.findSome? fun (name, value) =>
      if name.toList.isPrefixOf chars then some (value, chars.drop name.length) else none
    match named with
    | some taken => .ok taken
    | none => flawed

/-! ### Tables -/

/-- A map under construction. -/
abbrev Table := Assoc Datum Datum

/-- Change the table at a path, making the tables on the way that are missing. Of a list of tables the last
is meant, if `intoLists` is set. -/
def changeAt (intoLists : Bool) (change : Table → Except Fault Table) :
    List String → Table → Except Fault Table
  | [], table => change table
  | name :: path, table => do
    let key := Datum.text name
    match table.get? key with
    | none => return table.put key (.dict (← changeAt intoLists change path []))
    | some (.dict inner) => return table.put key (.dict (← changeAt intoLists change path inner))
    | some (.list items) =>
      match intoLists, items.getLast? with
      | true, some (.dict inner) =>
        return table.put key (.list (items.dropLast ++ [.dict (← changeAt intoLists change path inner)]))
      | _, _ => flawed
    | some _ => flawed

/-- Add an entry that must be new. -/
def addEntry (name : String) (value : Datum) (table : Table) : Except Fault Table :=
  if table.has (.text name) then flawed else .ok (table.put (.text name) value)

/-- Add an empty table to a list of tables. -/
def addTable (name : String) (table : Table) : Except Fault Table :=
  match table.get? (.text name) with
  | none => .ok (table.put (.text name) (.list [.dict []]))
  | some (.list items) => .ok (table.put (.text name) (.list (items ++ [.dict []])))
  | some _ => flawed

/-- Whether a datum is a list or a map. -/
def isCollection : Datum → Bool
  | .list _ | .dict _ => true
  | _ => false

/-- Whether some path leads to a place or to something around it. -/
def covers (paths : List (List String)) (path : List String) : Bool :=
  paths.any (·.isPrefixOf path)

/-- Add an entry under a dotted key to a map that is written as a value; `closed` are the paths to the
lists and maps in it. -/
def addInline (table : Table) (closed : List (List String)) (path : List String) (value : Datum) :
    Except Fault (Table × List (List String)) := do
  if covers closed path then flawed
  else
    let table ← changeAt false (addEntry (path.getLastD "") value) path.dropLast table
    return (table, if isCollection value then path :: closed else closed)

/-! ### Values -/

/-- Skip the blanks, line ends and comments between the items of a list. -/
def skipInList : Nat → List Char → Except Fault (List Char)
  | 0, chars => .ok chars
  | count + 1, chars => do
    let rest := chars.dropWhile fun c => isGap c || c == '\n'
    if rest.head? == some '#' then skipInList count (← skipComment rest) else return rest

mutual

/-- Take a value. The number bounds how many steps lie inside of each other. -/
def takeValue : Nat → List Char → Except Fault (Datum × List Char)
  | 0, _ => flawed
  | steps + 1, chars => do
    match chars with
    | '\x27' :: _ | '\x22' :: _ =>
      let (text, rest) ← takeText chars
      return (.text (String.ofList text), rest)
    | '[' :: rest =>
      let (items, rest) ← takeItems steps rest
      return (.list items, rest)
    | '\x7b' :: rest =>
      match skipGaps rest with
      | '\x7d' :: rest => return (.dict [], rest)
      | rest =>
        let (table, rest) ← takeEntries steps [] [] rest
        return (.dict table, rest)
    | _ => takeSimple chars

/-- Take the items of a list and its closing bracket. -/
def takeItems : Nat → List Char → Except Fault (List Datum × List Char)
  | 0, _ => flawed
  | steps + 1, chars => do
    match ← skipInList (chars.length + 1) chars with
    | ']' :: rest => return ([], rest)
    | chars =>
      let (item, rest) ← takeValue steps chars
      match ← skipInList (rest.length + 1) rest with
      | ']' :: rest => return ([item], rest)
      | ',' :: rest =>
        let (items, rest) ← takeItems steps rest
        return (item :: items, rest)
      | _ => flawed

/-- Take the entries of a map and its closing bracket, after those of `table`. -/
def takeEntries : Nat → Table → List (List String) → List Char → Except Fault (Table × List Char)
  | 0, _, _, _ => flawed
  | steps + 1, table, closed, chars => do
    let (path, value, rest) ← takeEntry steps chars
    let (table, closed) ← addInline table closed path value
    match skipGaps rest with
    | '\x7d' :: rest => return (table, rest)
    | ',' :: rest => takeEntries steps table closed (skipGaps rest)
    | _ => flawed

/-- Take a key, an equals sign and a value. -/
def takeEntry : Nat → List Char → Except Fault (List String × Datum × List Char)
  | 0, _ => flawed
  | steps + 1, chars => do
    let (path, rest) ← takeKey (chars.length + 1) chars
    match rest with
    | '=' :: rest =>
      let (value, rest) ← takeValue steps (skipGaps rest)
      return (path, value, rest)
    | _ => flawed

end

/-! ### Documents -/

/-- What has been read of a document. -/
structure Reader where
  table : Table := []
  /-- The path of the last header. -/
  header : List String := []
  /-- The paths of tables that are not opened again. -/
  opened : List (List String) := []
  /-- The paths of tables that are not opened again after the next header. -/
  pending : List (List String) := []
  /-- The paths of lists and maps that were written as values. -/
  closed : List (List String) := []

namespace Reader

/-- Add the entry of a line. -/
def addLine (reader : Reader) (path : List String) (value : Datum) : Except Fault Reader := do
  let parent := reader.header ++ path.dropLast
  let onTheWay := (List.range path.dropLast.length).map fun count => reader.header ++ path.take (count + 1)
  if onTheWay.any reader.opened.contains || covers reader.closed parent then flawed
  else
    let table ← changeAt true (addEntry (path.getLastD "") value) parent reader.table
    let full := reader.header ++ path
    return { reader with
      table
      pending := onTheWay ++ reader.pending
      closed := if isCollection value then full :: reader.closed else reader.closed }

/-- Make sure that the tables on the way of dotted keys are not opened again. -/
def settle (reader : Reader) : Reader :=
  { reader with opened := reader.pending ++ reader.opened, pending := [] }

/-- Open a table under a header. -/
def openTable (reader : Reader) (path : List String) : Except Fault Reader := do
  if reader.opened.contains path || covers reader.closed path then flawed
  else
    let table ← changeAt true .ok path reader.table
    return { reader with table, header := path, opened := path :: reader.opened }

/-- Open the next table of a list under a header. -/
def openNext (reader : Reader) (path : List String) : Except Fault Reader := do
  if covers reader.closed path then flawed
  else
    let isApart (other : List String) : Bool := !path.isPrefixOf other
    let table ← changeAt true (addTable (path.getLastD "")) path.dropLast reader.table
    return { reader with
      table
      header := path
      opened := path :: reader.opened.filter isApart
      closed := reader.closed.filter isApart }

/-- Read one line: the reader after it, and the characters after what was read. -/
def line (reader : Reader) (chars : List Char) : Except Fault (Reader × List Char) := do
  match chars with
  | '[' :: '[' :: rest =>
    let (path, rest) ← takeKey (rest.length + 1) (skipGaps rest)
    let reader ← reader.settle.openNext path
    match rest with
    | ']' :: ']' :: rest => return (reader, skipGaps rest)
    | _ => flawed
  | '[' :: rest =>
    let (path, rest) ← takeKey (rest.length + 1) (skipGaps rest)
    let reader ← reader.settle.openTable path
    match rest with
    | ']' :: rest => return (reader, skipGaps rest)
    | _ => flawed
  | '#' :: _ => return (reader, chars)
  | _ =>
    let (path, value, rest) ← takeEntry (3 * chars.length + 3) chars
    return (← reader.addLine path value, skipGaps rest)

/-- Read at most `count` lines. -/
def lines : Nat → Reader → List Char → Except Fault Reader
  | 0, reader, _ => .ok reader
  | count + 1, reader, chars => do
    match skipGaps chars with
    | [] => return reader
    | '\n' :: rest => lines count reader rest
    | chars =>
      let (reader, rest) ← reader.line chars
      match ← skipComment rest with
      | [] => return reader
      | '\n' :: rest => lines count reader rest
      | _ => flawed

end Reader

/-- Bring line ends of two characters to one. -/
def joinLineEnds : List Char → List Char
  | '\r' :: '\n' :: rest => '\n' :: joinLineEnds rest
  | c :: rest => c :: joinLineEnds rest
  | [] => []

/-- Read a document. -/
def read (text : String) : Except Fault Datum := do
  let chars := joinLineEnds text.toList
  let reader ← Reader.lines (chars.length + 1) {} chars
  return .dict reader.table

end Linework.Document.Toml
