import Linework.Assoc
import Linework.Document.Yaml.Scan
import Linework.Document.Yaml.Tag

/-!
# Nodes of YAML

The tokens of a document form one node: a scalar, a list or a map, each with its tag. A node may be named
by an anchor and then stand again wherever an alias calls for it. The number that a reading takes bounds
how many steps lie inside of each other.
-/

namespace Linework.Document.Yaml

/-- A part of a document with its tag. -/
inductive Node where
  | scalar (tag : Tag) (text : String)
  | list (tag : Tag) (items : List Node)
  | map (tag : Tag) (entries : List (Node × Node))

instance : Inhabited Node := ⟨.scalar .null ""⟩

/-- A node that is missing. -/
def Node.empty : Node := .scalar .null ""

/-- What is left of a document that is being read, with the names known in it. -/
structure Reader where
  tokens : List Token
  anchors : Assoc String Node := []
  /-- What the handles of tags are short for. -/
  handles : Assoc String String := []

/-- A reading of a part of a document. -/
abbrev Reading := StateT Reader (Except Fault)

namespace Reading

/-- The text is no document. -/
def fail {α : Type} : Reading α :=
  throw (.malformedAs "yaml")

/-- The next token. -/
def peek : Reading Token := do
  return ((← get).tokens.head?).getD .stop

/-- Go past the next token. -/
def skip : Reading Unit :=
  modify fun reader => { reader with tokens := reader.tokens.drop 1 }

/-- Whether the next token is one of some tokens. -/
def sees (tokens : List Token) : Reading Bool := do
  return tokens.contains (← peek)

/-! ### The head of a node -/

/-- The anchor before a node. -/
def anchor? : Reading (Option String) := do
  match ← peek with
  | .anchor name =>
    skip
    return some name
  | _ => return none

/-- The full name of a tag. A lone mark stands for no tag at all. -/
def fullName (handle : Option String) (name : String) : Reading String := do
  match handle with
  | none => return name
  | some handle =>
    match (← get).handles.get? handle with
    | some start => return start ++ name
    | none => fail

/-- The full name of the tag before a node. -/
def tag? : Reading (Option String) := do
  match ← peek with
  | .tag handle name =>
    skip
    return some (← fullName handle name)
  | _ => return none

/-- The anchor and the tag before a node, in either order. -/
def head : Reading (Option String × Option String) := do
  match ← anchor? with
  | some name => return (some name, ← tag?)
  | none =>
    let tag ← tag?
    return (← anchor?, tag)

/-- The tag of a list or a map: its own, unless it has another. -/
def collectionTag (own : Tag) (name : Option String) : Tag :=
  match name with
  | none | some "!" => own
  | some name => Tag.ofName name

/-- The tag of a scalar. -/
def scalarTag (text : String) (isPlain : Bool) : Option String → Tag
  | none => if isPlain then Tag.ofText text else .text
  | some "!" => Tag.ofText text
  | some name => Tag.ofName name

/-- Give a node the name of its anchor. -/
def named (name : Option String) (node : Node) : Reading Node := do
  match name with
  | none => return node
  | some name =>
    if (← get).anchors.has name then fail
    else
      modify fun reader => { reader with anchors := reader.anchors.put name node }
      return node

/-! ### Nodes -/

/-- Go past the separator between two parts. -/
def separate (isFirst : Bool) : Reading Unit := do
  if isFirst then return ()
  else
    match ← peek with
    | .separator => skip
    | _ => fail

mutual

/-- A node. Lists and maps in blocks stand only where `inBlock` is set, and lists that keep the column of
the entry around them only where `mayKeepColumn` is. -/
def node (inBlock mayKeepColumn : Bool) : Nat → Reading Node
  | 0 => fail
  | steps + 1 => do
    match ← peek with
    | .alias name =>
      skip
      match (← get).anchors.get? name with
      | some node => return node
      | none => fail
    | _ =>
      let (anchor, tag) ← head
      let list (items : List Node) : Reading Node := named anchor (.list (collectionTag .list tag) items)
      let map (entries : List (Node × Node)) : Reading Node :=
        named anchor (.map (collectionTag .map tag) entries)
      match ← peek with
      | .blockItem =>
        if mayKeepColumn then list (← keptItems steps)
        else if anchor.isSome || tag.isSome then named anchor (.scalar (scalarTag "" true tag) "")
        else fail
      | .scalar text isPlain =>
        skip
        named anchor (.scalar (scalarTag text isPlain tag) text)
      | .listStart =>
        skip
        list (← flowItems true steps)
      | .mapStart =>
        skip
        map (← flowEntries true steps)
      | other =>
        if inBlock && other == .blockListStart then
          skip
          list (← blockItems steps)
        else if inBlock && other == .blockMapStart then
          skip
          map (← blockEntries steps)
        else if anchor.isSome || tag.isSome then named anchor (.scalar (scalarTag "" true tag) "")
        else fail

/-- A node, or nothing before one of some tokens. -/
def nodeUnless (ends : List Token) (inBlock mayKeepColumn : Bool) : Nat → Reading Node
  | 0 => fail
  | steps + 1 => do
    if ← sees ends then return Node.empty else node inBlock mayKeepColumn steps

/-- The items of a list in a block. -/
def blockItems : Nat → Reading (List Node)
  | 0 => fail
  | steps + 1 => do
    match ← peek with
    | .blockItem =>
      skip
      let item ← nodeUnless [.blockItem, .blockEnd] true false steps
      return item :: (← blockItems steps)
    | .blockEnd =>
      skip
      return []
    | _ => fail

/-- The items of a list that keeps the column of the entry around it. -/
def keptItems : Nat → Reading (List Node)
  | 0 => fail
  | steps + 1 => do
    match ← peek with
    | .blockItem =>
      skip
      let item ← nodeUnless [.blockItem, .key, .value, .blockEnd] true false steps
      return item :: (← keptItems steps)
    | _ => return []

/-- The value behind a colon, or nothing. -/
def valueUnless (ends : List Token) (inBlock mayKeepColumn : Bool) : Nat → Reading Node
  | 0 => fail
  | steps + 1 => do
    match ← peek with
    | .value =>
      skip
      nodeUnless ends inBlock mayKeepColumn steps
    | _ => return Node.empty

/-- The entries of a map in a block. -/
def blockEntries : Nat → Reading (List (Node × Node))
  | 0 => fail
  | steps + 1 => do
    match ← peek with
    | .blockEnd =>
      skip
      return []
    | .key =>
      skip
      let key ← nodeUnless [.key, .value, .blockEnd] true true steps
      let value ← valueUnless [.key, .value, .blockEnd] true true steps
      return (key, value) :: (← blockEntries steps)
    | _ => fail

/-- The items of a list between brackets. -/
def flowItems (isFirst : Bool) : Nat → Reading (List Node)
  | 0 => fail
  | steps + 1 => do
    if ← sees [.listEnd] then
      skip
      return []
    else
      separate isFirst
      match ← peek with
      | .listEnd =>
        skip
        return []
      | .key =>
        skip
        let key ← nodeUnless [.value, .separator, .listEnd] false false steps
        let value ← valueUnless [.separator, .listEnd] false false steps
        return .map .map [(key, value)] :: (← flowItems false steps)
      | _ =>
        let item ← node false false steps
        return item :: (← flowItems false steps)

/-- The entries of a map between brackets. -/
def flowEntries (isFirst : Bool) : Nat → Reading (List (Node × Node))
  | 0 => fail
  | steps + 1 => do
    if ← sees [.mapEnd] then
      skip
      return []
    else
      separate isFirst
      match ← peek with
      | .mapEnd =>
        skip
        return []
      | .key =>
        skip
        let key ← nodeUnless [.value, .separator, .mapEnd] false false steps
        let value ← valueUnless [.separator, .mapEnd] false false steps
        return (key, value) :: (← flowEntries false steps)
      | _ =>
        let key ← node false false steps
        return (key, Node.empty) :: (← flowEntries false steps)

end

/-! ### Documents -/

/-- Take the directives before a document: the handles of tags that they declare. -/
def directives (hasVersion : Bool) (handles : Assoc String String) : Nat → Reading (Assoc String String)
  | 0 => fail
  | steps + 1 => do
    match ← peek with
    | .directive "YAML" (major :: _) =>
      skip
      if hasVersion || Decimal.digitsValue major.toList != 1 then fail
      else directives true handles steps
    | .directive "TAG" [handle, start] =>
      skip
      if handles.has handle then fail else directives hasVersion (handles.put handle start) steps
    | .directive _ _ =>
      skip
      directives hasVersion handles steps
    | _ => return handles

/-- The handles that need no declaration. -/
def standardHandles : List (String × String) :=
  [("!", "!"), ("!!", Tag.knownStart)]

/-- Skip the marks of ends of documents. -/
def skipEnds : Nat → Reading Unit
  | 0 => return ()
  | steps + 1 => do
    if ← sees [.documentEnd] then
      skip
      skipEnds steps

/-- A document with a mark at its start. -/
def marked (steps : Nat) : Reading Node := do
  let declared ← directives false [] steps
  let undeclared := standardHandles.filter fun (handle, _) => !declared.has handle
  modify fun reader => { reader with handles := declared ++ undeclared }
  match ← peek with
  | .documentStart =>
    skip
    match ← peek with
    | .documentStart | .documentEnd | .stop | .directive .. => return Node.empty
    | _ => node true false steps
  | _ => fail

/-- The only document of a text, if there is one. -/
def only (steps : Nat) : Reading (Option Node) := do
  let document ←
    match ← peek with
    | .stop => return none
    | .directive .. | .documentStart => some <$> marked steps
    | _ =>
      modify fun reader => { reader with handles := standardHandles }
      some <$> node true false steps
  skipEnds steps
  if ← sees [.stop] then return document else fail

end Reading

/-- The node of a document, if it has one. -/
def Node.read? (text : String) : Except Fault (Option Node) := do
  let tokens ← tokens text
  let (document, _) ← (Reading.only (4 * tokens.length + 8)).run { tokens }
  return document

end Linework.Document.Yaml
