import Linework.Script.Sequence
import Linework.Text.Case

/-!
# Methods of built-in types

The functions that values of built-in types bring along.
-/

namespace Linework.Script

open Linework.Text

/-- The methods of each built-in type. -/
def methodNames : List (String × List String) := [
  ("str", ["split", "join", "upper", "lower", "strip", "lstrip", "rstrip", "replace", "startswith",
    "endswith", "find", "count", "zfill"]),
  ("list", ["append", "extend", "insert", "pop", "remove", "index", "count", "reverse", "clear", "copy"]),
  ("tuple", ["index", "count"]),
  ("dict", ["get", "pop", "setdefault", "update", "clear", "copy"]),
  ("float", ["is_integer"])]

/-- Whether a type has a method. -/
def hasMethod (typeName name : String) : Bool :=
  ((methodNames.lookup typeName).getD []).contains name

/-! ### Texts -/

/-- Cut a text at each place where another stands, at most `cuts` times, in at most `count` steps;
`piece` is the reversed beginning of the piece being read. -/
def cutAt (mark : List Char) : Nat → Nat → List Char → List Char → List (List Char)
  | 0, _, piece, chars => [piece.reverse ++ chars]
  | _ + 1, _, piece, [] => [piece.reverse]
  | _ + 1, 0, piece, chars => [piece.reverse ++ chars]
  | count + 1, cuts + 1, piece, c :: rest =>
    if mark.isPrefixOf (c :: rest) then
      piece.reverse :: cutAt mark count cuts [] ((c :: rest).drop mark.length)
    else cutAt mark count (cuts + 1) (c :: piece) rest

/-- The words of a text; behind the first `cuts` of them the rest is one piece. -/
def cutWords : Nat → Nat → List Char → List (List Char)
  | 0, _, _ => []
  | count + 1, cuts, chars =>
    let chars := chars.dropWhile isBlank
    match chars, cuts with
    | [], _ => []
    | _, 0 => [chars]
    | _, cuts + 1 =>
      chars.takeWhile (!isBlank ·) :: cutWords count cuts (chars.dropWhile (!isBlank ·))

/-- Where a text first stands in another. -/
def findText (part : List Char) (place : Nat) : List Char → Option Nat
  | [] => if part.isEmpty then some place else none
  | c :: rest =>
    if part.isPrefixOf (c :: rest) then some place else findText part (place + 1) rest

/-- How often a text stands in another, without overlaps, in at most `count` steps. -/
def countText (part : List Char) : Nat → List Char → Nat
  | 0, _ => 0
  | _ + 1, [] => 0
  | count + 1, c :: rest =>
    if part.isPrefixOf (c :: rest) then countText part count ((c :: rest).drop part.length) + 1
    else countText part count rest

/-- Texts of characters as a list value. -/
def textList (pieces : List (List Char)) : Run Value :=
  Run.list (pieces.map fun piece => .text (String.ofList piece))

/-- An argument that must be a text. -/
def textArgument (value : Value) : Run (List Char) := do
  match value with
  | .text text => return text.toList
  | _ => Run.fail (Failure.typeError ("must be str, not " ++ (← Run.typeName value)))

/-- Join texts with a text between them. -/
def joinTexts (between : String) (value : Value) : Run Value := do
  match ← Run.sourceOf? value with
  | none => Run.fail (Failure.typeError "can only join an iterable")
  | some source =>
    let items ← Run.rest source
    let texts ← items.zipIdx.mapM fun (item, index) => do
      match item with
      | .text text => return text
      | _ =>
        Run.fail (Failure.typeError ("sequence item " ++ Decimal.natText index
          ++ ": expected str instance, " ++ (← Run.typeName item) ++ " found"))
    return .text (between.intercalate texts)

/-- An argument that is a place or a length. One that no machine word holds is beyond what is modelled. -/
def indexArgument (value : Value) : Run Int := do
  match value.index? with
  | some n => if n.natAbs ≥ Nat.pow 2 63 then Run.fail Failure.unknown else return n
  | none => Run.fail (Failure.notInteger (← Run.typeName value))

/-- Split a text into words, or at a mark. -/
def splitText (chars : List Char) (arguments : List Value) (named : List (String × Value)) : Run Value := do
  let isGivenTwice := (arguments.length ≥ 1 && (named.lookup "sep").isSome)
    || (arguments.length ≥ 2 && (named.lookup "maxsplit").isSome)
  if arguments.length + named.length > 2 then
    Run.fail (Failure.takesAtMost "split" 2 (arguments.length + named.length))
  else if isGivenTwice then Run.fail Failure.unknown
  else
    let separator := (arguments[0]?.orElse fun _ => named.lookup "sep").getD .null
    let most := (arguments[1]?.orElse fun _ => named.lookup "maxsplit").getD (.int (-1))
    match named.find? fun (name, _) => name != "sep" && name != "maxsplit" with
    | some (name, _) => Run.fail (Failure.invalidNamed "split" name)
    | none =>
      let most ← indexArgument most
      let cuts := if most < 0 then chars.length + 1 else most.toNat
      match separator with
      | .null =>
        let words := cutWords (chars.length + 1) cuts chars
        textList words
      | .text separator =>
        if separator.isEmpty then Run.fail (Failure.valueError "empty separator")
        else textList (cutAt separator.toList (chars.length + 1) cuts [] chars)
      | other =>
        Run.fail (Failure.typeError ("must be str or None, not " ++ (← Run.typeName other)))

/-- Whether one of some texts begins, or ends, a text. -/
def bordersWith (atEnd : Bool) (name : String) (chars : List Char) (value : Value) : Run Value := do
  let fits (part : String) : Bool :=
    if atEnd then part.toList.reverse.isPrefixOf chars.reverse else part.toList.isPrefixOf chars
  match value with
  | .text part => return .bool (fits part)
  | .tuple parts =>
    return .bool (← parts.anyM fun
      | .text part => return fits part
      | other => do
        Run.fail (Failure.typeError ("tuple for " ++ name ++ " must only contain str, not "
          ++ (← Run.typeName other))))
  | _ =>
    Run.fail (Failure.typeError (name ++ " first arg must be str or a tuple of str, not "
      ++ (← Run.typeName value)))

/-- Apply a method of a text. -/
def textMethod (text name : String) (arguments : List Value) (named : List (String × Value)) :
    Run Value := do
  let chars := text.toList
  if name == "split" then splitText chars arguments named
  else if !named.isEmpty then Run.fail (Failure.takesNoNamed ("str." ++ name))
  else
    match name, arguments with
    | "join", [value] => joinTexts text value
    | "upper", [] => return .text (upper text)
    | "lower", [] => return .text (lower text)
    | "strip", [] | "strip", [.null] => return .text (trim text)
    | "lstrip", [] | "lstrip", [.null] => return .text (trimLeft text)
    | "rstrip", [] | "rstrip", [.null] => return .text (trimRight text)
    | "strip", [.text set] => return .text (String.ofList (trimBy set.toList.contains chars))
    | "lstrip", [.text set] => return .text (String.ofList (chars.dropWhile set.toList.contains))
    | "rstrip", [.text set] =>
      return .text (String.ofList (chars.reverse.dropWhile set.toList.contains).reverse)
    | "replace", [.text old, .text new] =>
      let cuts := chars.length + 1
      if old.isEmpty then
        let spread := chars.flatMap fun c => [String.singleton c, new]
        return .text (new ++ String.join spread)
      else
        let pieces := cutAt old.toList (chars.length + 1) cuts [] chars
        return .text (new.intercalate (pieces.map String.ofList))
    | "startswith", [value] => bordersWith false name chars value
    | "endswith", [value] => bordersWith true name chars value
    | "find", [value] =>
      let part ← textArgument value
      match findText part 0 chars with
      | some place => return .int place
      | none => return .int (-1)
    | "count", [value] =>
      let part ← textArgument value
      return .int (if part.isEmpty then chars.length + 1 else countText part (chars.length + 1) chars : Nat)
    | "zfill", [value] =>
      let width ← indexArgument value
      if width > maxItems then Run.fail Failure.unknown
      else
        let sign := (chars.take 1).filter fun c => c == '+' || c == '-'
        let digits := chars.drop sign.length
        return .text (String.ofList (sign ++ List.replicate (width.toNat - chars.length) '0' ++ digits))
    | "join", _ | "zfill", _ => Run.fail (Failure.takesOne ("str." ++ name) arguments.length)
    | "upper", _ | "lower", _ => Run.fail (Failure.takesNone ("str." ++ name) arguments.length)
    | _, _ => Run.fail Failure.unknown

/-! ### Lists and tuples -/

/-- The place of the first item that is the same as or equal to a value. -/
def placeOfItem (items : List Value) (value : Value) : Run (Option Nat) := do
  let world ← get
  let found ← Run.lift (items.zipIdx.findM? fun (item, _) => world.matching item value)
  return found.map (·.2)

/-- How many items are the same as or equal to a value. -/
def countItems (items : List Value) (value : Value) : Run Value := do
  let world ← get
  let equal ← Run.lift (items.filterM fun item => world.matching item value)
  return .int equal.length

/-- Apply a method of the list at an address. -/
def listMethod (address : Nat) (items : Array Value) (name : String) (arguments : List Value) :
    Run Value := do
  let put (items : List Value) : Run Value := do
    Run.putObject address (.list items.toArray)
    return .null
  match name, arguments with
  | "append", [value] =>
    Run.putObject address (.list (items.push value))
    return .null
  | "extend", [value] =>
    let more ← Run.itemsOf value
    put (items.toList ++ more)
  | "insert", [place, value] =>
    let place ← indexArgument place
    let place := if place < 0 then max 0 (place + items.size) else min place items.size
    put (items.toList.take place.toNat ++ value :: items.toList.drop place.toNat)
  | "insert", _ => Run.fail (Failure.expectedCount name 2 arguments.length)
  | "pop", _ =>
    let index ←
      match arguments with
      | [] => pure (-1)
      | [index] => indexArgument index
      | _ => Run.fail (Failure.expectedAtMost name 1 arguments.length)
    if items.isEmpty then Run.fail Failure.popFromEmpty
    else
      match indexIn? items.size index with
      | some place =>
        discard (put (items.toList.eraseIdx place))
        return items[place]?.getD .null
      | none => Run.fail (Failure.outOfRange "pop index")
  | "remove", [value] =>
    match ← placeOfItem items.toList value with
    | some place => put (items.toList.eraseIdx place)
    | none => Run.fail (Failure.valueError "list.remove(x): x not in list")
  | "index", [value] =>
    match ← placeOfItem items.toList value with
    | some place => return .int place
    | none =>
      let shown ← Run.lift ((← get).source value)
      Run.fail (Failure.valueError (shown ++ " is not in list"))
  | "count", [value] => countItems items.toList value
  | "reverse", [] => put items.toList.reverse
  | "clear", [] => put []
  | "copy", [] => Run.list items.toList
  | "reverse", _ | "clear", _ | "copy", _ =>
    Run.fail (Failure.takesNone ("list." ++ name) arguments.length)
  | "index", _ => Run.fail Failure.unknown
  | _, _ => Run.fail (Failure.takesOne ("list." ++ name) arguments.length)

/-- Apply a method of a tuple. -/
def tupleMethod (items : List Value) (name : String) (arguments : List Value) : Run Value := do
  match name, arguments with
  | "index", [value] =>
    match ← placeOfItem items value with
    | some place => return .int place
    | none => Run.fail (Failure.valueError "tuple.index(x): x not in tuple")
  | "index", _ => Run.fail Failure.unknown
  | "count", [value] => countItems items value
  | _, _ => Run.fail (Failure.takesOne ("tuple." ++ name) arguments.length)

/-! ### Maps -/

/-- The entries that a map or a sequence of pairs gives. -/
def entriesOf (value : Value) : Run (List (Value × Value)) := do
  match ← Run.object? value with
  | some (.dict entries) => return entries
  | _ =>
    let items ← Run.itemsOf value
    items.zipIdx.mapM fun (item, index) => do
      match ← Run.sourceOf? item with
      | none =>
        Run.fail (Failure.typeError ("cannot convert dictionary update sequence element #"
          ++ Decimal.natText index ++ " to a sequence"))
      | some source =>
        match ← Run.rest source with
        | [key, value] => return (key, value)
        | parts =>
          Run.fail (Failure.valueError ("dictionary update sequence element #" ++ Decimal.natText index
            ++ " has length " ++ Decimal.natText parts.length ++ "; 2 is required"))

/-- Put entries into a map one after the other. -/
def putEntries (entries more : List (Value × Value)) : Run (List (Value × Value)) := do
  let world ← get
  more.forM fun (key, _) => Run.lift (world.requireKey key)
  return more.foldl (fun entries (key, value) => world.putEntry entries key value) entries

/-- Named values as entries. -/
def namedEntries (named : List (String × Value)) : List (Value × Value) :=
  named.map fun (name, value) => (.text name, value)

/-- Apply a method of the map at an address. -/
def dictMethod (address : Nat) (entries : List (Value × Value)) (name : String) (arguments : List Value)
    (named : List (String × Value)) : Run Value := do
  let world ← get
  let put (entries : List (Value × Value)) : Run Unit := Run.putObject address (.dict entries)
  match name, arguments with
  | "get", key :: rest =>
    Run.lift (world.requireKey key)
    return (world.lookup? entries key).getD (rest.headD .null)
  | "pop", key :: rest =>
    unless entries.isEmpty do Run.lift (world.requireKey key)
    match world.lookup? entries key, rest with
    | some value, _ =>
      put (world.eraseEntry entries key)
      return value
    | none, default :: _ => return default
    | none, [] => Run.fail (Failure.missingKey key)
  | "setdefault", key :: rest =>
    Run.lift (world.requireKey key)
    match world.lookup? entries key with
    | some value => return value
    | none =>
      let value := rest.headD .null
      put (world.putEntry entries key value)
      return value
  | "update", [] =>
    put (← putEntries entries (namedEntries named))
    return .null
  | "update", [value] =>
    put (← putEntries entries ((← entriesOf value) ++ namedEntries named))
    return .null
  | "clear", [] =>
    put []
    return .null
  | "copy", [] => Run.add (.dict entries)
  | "get", [] | "pop", [] | "setdefault", [] =>
    Run.fail (Failure.expectedAtLeast name 1 0)
  | "update", _ => Run.fail (Failure.expectedAtMost name 1 arguments.length)
  | _, _ => Run.fail (Failure.takesNone ("dict." ++ name) arguments.length)

/-- Apply a method of a value of a built-in type. -/
def applyMethod (receiver : Value) (name : String) (arguments : List Value)
    (named : List (String × Value)) : Run Value := do
  match receiver with
  | .text text => textMethod text name arguments named
  | .tuple items => tupleMethod items name arguments
  | .float x =>
    if arguments.isEmpty && named.isEmpty then return .bool (Decimal.isWhole x)
    else Run.fail Failure.unknown
  | .ref address =>
    match ← Run.object? receiver with
    | some (.list items) =>
      if named.isEmpty then listMethod address items name arguments
      else Run.fail (Failure.takesNoNamed ("list." ++ name))
    | some (.dict entries) => dictMethod address entries name arguments named
    | _ => Run.fail (Failure.notCallable "method")
  | _ => Run.fail (Failure.notCallable "method")

end Linework.Script
