import Linework.Datum.Text
import Linework.Document.Json.Print
import Linework.Document.Plain
import Linework.Text.Blank

/-!
# Writing XML

A map is written as the elements that its keys name, a list as an element for each of its items. A key that
begins with `@` is an attribute of the element around it, and `#text` is the element's text. The key
`#comment` is a comment. Only one element may stand at the top.
-/

namespace Linework.Document.Xml

open Linework.Text

/-- A character of a text. -/
def escapeChar (c : Char) : List Char :=
  if c == '&' then "&amp;".toList
  else if c == '<' then "&lt;".toList
  else if c == '>' then "&gt;".toList
  else [c]

/-- A text between tags. -/
def escape (text : String) : String :=
  String.ofList (text.toList.flatMap escapeChar)

/-- A character of an attribute between quotes. -/
def attributeChar (quote c : Char) : List Char :=
  if c == '\n' then "&#10;".toList
  else if c == '\r' then "&#13;".toList
  else if c == '\t' then "&#9;".toList
  else if c == '\x22' && quote == '\x22' then "&quot;".toList
  else escapeChar c

/-- The value of an attribute with its quotes: double ones, unless there are double quotes and no single
ones in it. -/
def attributeText (text : String) : String :=
  let chars := text.toList
  let quote := if chars.contains '\x22' && !chars.contains '\x27' then '\x27' else '\x22'
  String.ofList (quote :: chars.flatMap (attributeChar quote) ++ [quote])

/-- Why a text is no name, if it is none. -/
def nameFlaw? (name : String) : Option String :=
  let chars := name.toList
  if chars.head? == some '?' || chars.head? == some '!' then some "cannot start with \"?\" or \"!\""
  else if chars.contains '<' || chars.contains '>' then some "\"<\" or \">\" not allowed"
  else if chars.contains '/' then some "\"/\" not allowed"
  else if chars.contains '\x22' || chars.contains '\x27' then some "quotes not allowed"
  else if chars.contains '=' then some "\"=\" not allowed"
  else if chars.any isBlank then some "whitespace not allowed"
  else none

/-- A name of an element or an attribute. -/
def checkName (what : String) : Datum → Except Fault String
  | .text name =>
    match nameFlaw? name with
    | some reason => .error (.badName what reason)
    | none => .ok name
  | _ => .error (.nameNotText what)

/-- Whether two hyphens in a row are among the characters. -/
def hasDashes : List Char → Bool
  | '-' :: '-' :: _ => true
  | _ :: rest => hasDashes rest
  | [] => false

/-- A datum in plain form; an integer must not have too many digits. -/
def plainText : Datum → Except Fault String
  | .int value => Json.integerJson value
  | other => .ok other.plain

/-- A datum as the text of an element. -/
def contentText : Datum → Except Fault String
  | .bool value => .ok (if value then "true" else "false")
  | other => plainText other

/-- A comment for each of several texts. -/
def comments (gap lineEnd : String) (value : Datum) : Except Fault String := do
  let values :=
    match value with
    | .list items => items
    | other => [other]
  let texts ← values.filterMapM fun value => do
    match value with
    | .null => return none
    | value =>
      let text ← contentText value
      if text.isEmpty then return none
      else if hasDashes text.toList then throw (.badComment "contain '--'")
      else if text.endsWith "-" then throw (.badComment "end with '-'")
      else return some (gap ++ "<!--" ++ escape text ++ "-->" ++ lineEnd)
  return String.join texts

/-- An element before its tags are written. -/
structure Open where
  attributes : Assoc String String := []
  content : Option String := none
  children : List (Datum × Datum) := []

/-- The items that a value is written as, one element each. -/
def occurrences : Datum → List Datum
  | .list items | .tuple items => items
  | .tokens sequence => sequence.map .token
  | other => [other]

/-- The attributes of a key that declares names. -/
def declarations (entries : List (Datum × Datum)) : Except Fault (List (String × String)) :=
  entries.mapM fun (key, value) => do
    let name ← checkName "attribute" key
    return ("xmlns" ++ (if name.isEmpty then "" else ":" ++ name), ← plainText value)

/-- Take an entry of a map into an element. -/
def Open.take (element : Open) (key value : Datum) : Except Fault Open := do
  let child : Except Fault Open :=
    match value with
    | .list [] => .ok element
    | _ => .ok { element with children := element.children ++ [(key, value)] }
  match key with
  | .text label =>
    if label == "#text" then
      match value with
      | .null => return { element with content := none }
      | value => return { element with content := some (← contentText value) }
    else
      match label.toList, value with
      | '@' :: name, value =>
        match label, value with
        | "@xmlns", .dict entries =>
          return { element with attributes := element.attributes.update (← declarations entries) }
        | _, _ =>
          let text ←
            match value with
            | .null => pure ""
            | value => plainText value
          let name ← checkName "attribute" (.text (String.ofList name))
          return { element with attributes := element.attributes.put name text }
      | _, _ => child
  | _ => child

/-- What an item is written as. -/
def openItem : Datum → Except Fault Open
  | .null => .ok {}
  | .dict entries => entries.foldlM (fun element (key, value) => element.take key value) {}
  | other => do return { content := some (← contentText other) }

/-- The attributes in a tag. -/
def attributesText (attributes : Assoc String String) : String :=
  String.join (attributes.map fun (name, value) => " " ++ name ++ "=" ++ attributeText value)

/-- Write the value of a key at a level, in at most `depth` layers. -/
def print (isPretty : Bool) : Nat → Nat → Datum → Datum → Except Fault String
  | 0, _, _, _ => return ""
  | depth + 1, level, key, value => do
    let gap := if isPretty then String.ofList (List.replicate level '\t') else ""
    let lineEnd := if isPretty then "\n" else ""
    match key with
    | .text "#comment" => comments gap lineEnd value
    | _ =>
      let name ← checkName "element" key
      let items := occurrences value
      let texts ← items.zipIdx.mapM fun (item, index) => do
        if level == 0 && 0 < index then throw Fault.multipleRoots
        let element ← openItem item
        let children ← element.children.mapM fun (key, value) => print isPretty depth (level + 1) key value
        let (first, last) := if element.children.isEmpty then ("", "") else (lineEnd, gap)
        return gap ++ "<" ++ name ++ attributesText element.attributes ++ ">" ++ first
          ++ String.join children ++ escape (element.content.getD "") ++ last ++ "</" ++ name ++ ">"
          ++ (if level == 0 then "" else lineEnd)
      return String.join texts

/-- Whether a key stands for comments. -/
def isCommentKey : Datum → Bool
  | .text name => name == "#comment"
  | _ => false

/-- The entries of a map as a document. -/
def write (isPretty : Bool) (entries : List (Datum × Datum)) : Except Fault String := do
  let roots := entries.filter fun (key, _) => !isCommentKey key
  let texts ← entries.mapM fun (key, value) => print isPretty (value.layers + 1) 0 key value
  if roots.length != 1 then throw .notOneRoot
  else return "<?xml version=\"1.0\" encoding=\"utf-8\"?>\n" ++ String.join texts

end Linework.Document.Xml
