import Linework.Document.Utf8
import Linework.Document.Yaml.Scalar

/-!
# Taking the tokens of YAML

The tokens of a document in order. Blocks are told by their columns: a deeper column opens a block, and a
column further left closes the blocks that began to the right of it. That a node is a key is seen only at
the colon after it, so the places where a key may have begun are kept, and its token is put there when the
colon comes.
-/

namespace Linework.Document.Yaml

/-- A place where a key may have begun. -/
structure KeyPlace where
  /-- How many brackets are open around it. -/
  level : Nat
  /-- How many tokens come before it. -/
  number : Nat
  /-- Nothing but a key can begin there. -/
  isRequired : Bool
  spot : Spot

/-- A document whose tokens are being taken. -/
structure Scanner where
  spot : Spot
  tokens : Array Token := #[]
  /-- How many brackets are open. -/
  level : Nat := 0
  /-- The column of the innermost block. -/
  indent : Int := -1
  /-- The columns of the blocks around it. -/
  outer : List Int := []
  /-- Whether a key may begin here. -/
  allowsKey : Bool := true
  keys : List KeyPlace := []

namespace Scanner

/-- Whether the spot is inside of brackets. -/
def isInside (scanner : Scanner) : Bool :=
  scanner.level != 0

/-- Add a token. -/
def add (scanner : Scanner) (token : Token) : Scanner :=
  { scanner with tokens := scanner.tokens.push token }

/-- Add a token of some characters. -/
def addMark (scanner : Scanner) (length : Nat) (token : Token) : Scanner :=
  { scanner with spot := scanner.spot.skip length }.add token

/-- Forget the places that are too far back for a key to have begun there. -/
def dropStale (scanner : Scanner) : Except Fault Scanner :=
  let isStale (place : KeyPlace) : Bool :=
    place.spot.line != scanner.spot.line || place.spot.index + 1024 < scanner.spot.index
  if scanner.keys.any fun place => isStale place && place.isRequired then flawed
  else .ok { scanner with keys := scanner.keys.filter (!isStale ·) }

/-- Forget the place at the current level. -/
def dropKey (scanner : Scanner) : Except Fault Scanner :=
  let isHere (place : KeyPlace) : Bool := place.level == scanner.level
  if scanner.keys.any fun place => isHere place && place.isRequired then flawed
  else .ok { scanner with keys := scanner.keys.filter (!isHere ·) }

/-- Keep the spot as a place where a key may begin. -/
def keepKey (scanner : Scanner) : Except Fault Scanner := do
  if !scanner.allowsKey then return scanner
  else
    let scanner ← scanner.dropKey
    let place : KeyPlace := {
      level := scanner.level
      number := scanner.tokens.size
      isRequired := !scanner.isInside && scanner.indent == scanner.spot.column
      spot := scanner.spot }
    return { scanner with keys := place :: scanner.keys }

/-- Close the blocks to the right of a column. -/
def closeBlocks (scanner : Scanner) (column : Int) : Scanner :=
  if scanner.isInside then scanner else close scanner scanner.outer
where
  /-- Close blocks as long as there are any. -/
  close (scanner : Scanner) : List Int → Scanner
    | [] => scanner
    | outer :: rest =>
      if scanner.indent ≤ column then scanner
      else close ({ scanner with indent := outer, outer := rest }.add .blockEnd) rest

/-- Open a block at a column if it lies further right; the token of the block is put where `number` tell. -/
def openBlock (scanner : Scanner) (column number : Nat) (token : Token) : Scanner :=
  if scanner.indent < column then
    { scanner with
      indent := column
      outer := scanner.indent :: scanner.outer
      tokens := scanner.tokens.insertIdxIfInBounds number token }
  else scanner

/-! ### Names and tags -/

/-- Take a name. -/
def takeWord (spot : Spot) : Except Fault (String × Spot) :=
  let word := spot.run isWordChar
  if word.isEmpty then flawed else .ok (String.ofList word, spot.skip word.length)

/-- Whether a character may stand in the name of a tag. -/
def isTagChar (c : Char) : Bool :=
  isWordChar c || "-;/?:@&=+$,_.!~*'()[]".toList.contains c

/-- Take a byte that is written by two hexadecimal digits. -/
def takeByte? (spot : Spot) : Option (UInt8 × Spot) := do
  let high ← Json.hexValue? (spot.peek 1)
  let low ← Json.hexValue? (spot.peek 2)
  return (UInt8.ofNat (high * 16 + low), spot.skip 3)

/-- Take bytes that are written by their digits. -/
def takeBytes : Nat → Spot → Except Fault (List UInt8 × Spot)
  | 0, spot => .ok ([], spot)
  | count + 1, spot => do
    if spot.peek 0 != '%' then return ([], spot)
    else
      match takeByte? spot with
      | none => flawed
      | some (byte, spot) =>
        let (bytes, spot) ← takeBytes count spot
        return (byte :: bytes, spot)

/-- Take the rest of a tag's name, in at most `count` parts. -/
def takeTagRest : Nat → Spot → Except Fault (List Char × Spot)
  | 0, spot => .ok ([], spot)
  | count + 1, spot => do
    let plain := spot.run isTagChar
    let spot := spot.skip plain.length
    if spot.peek 0 == '%' then
      let (bytes, spot) ← takeBytes (spot.rest.length + 1) spot
      match decodeUtf8? bytes with
      | none => flawed
      | some chars =>
        let (more, spot) ← takeTagRest count spot
        return (plain ++ chars ++ more, spot)
    else return (plain, spot)

/-- Take the name of a tag, which must not be empty. -/
def takeTagName (spot : Spot) : Except Fault (String × Spot) := do
  let (chars, spot) ← takeTagRest (spot.rest.length + 1) spot
  if chars.isEmpty then flawed else return (String.ofList chars, spot)

/-- Take a handle: an exclamation mark, and perhaps a word with another one. -/
def takeHandle (spot : Spot) : Except Fault (String × Spot) :=
  if spot.peek 0 != '!' then flawed
  else if spot.peek 1 == ' ' then .ok ("!", spot.next)
  else
    let word := spot.next.run isWordChar
    let after := spot.next.skip word.length
    if after.peek 0 == '!' then .ok (String.ofList ('!' :: word ++ ['!']), after.next) else flawed

/-- Take a tag. -/
def takeTag (spot : Spot) : Except Fault (Token × Spot) := do
  let c := spot.peek 1
  let (handle, name, spot) ←
    if c == '<' then do
      let (name, spot) ← takeTagName (spot.skip 2)
      if spot.peek 0 != '>' then flawed else pure (none, name, spot.next)
    else if isGap c then pure (none, "!", spot.next)
    else if (spot.next.run (!isSpaceOrEnd ·)).contains '!' then do
      let (handle, spot) ← takeHandle spot
      let (name, spot) ← takeTagName spot
      pure (some handle, name, spot)
    else do
      let (name, spot) ← takeTagName spot.next
      pure (some "!", name, spot)
  if isSpaceOrEnd (spot.peek 0) then return (.tag handle name, spot) else flawed

/-- Take the name of an anchor or an alias. -/
def takeAnchor (spot : Spot) : Except Fault (String × Spot) := do
  let (name, spot) ← takeWord spot.next
  let c := spot.peek 0
  if isGap c || "?:,]%@".toList.contains c || c == '\x7d' || c == '\x60' then return (name, spot) else flawed

/-! ### Directives -/

/-- Take the digits of a version's part. -/
def takeVersionPart (spot : Spot) : Except Fault (String × Spot) :=
  let digits := spot.run Decimal.isPlainDigit
  if digits.isEmpty then flawed else .ok (String.ofList digits, spot.skip digits.length)

/-- Take a directive. -/
def takeDirective (spot : Spot) : Except Fault (Token × Spot) := do
  let (name, spot) ← takeWord spot.next
  if !isSpaceOrEnd (spot.peek 0) then flawed
  else
    let (arguments, spot) ←
      if name == "YAML" then do
        let (major, spot) ← takeVersionPart spot.skipSpaces
        if spot.peek 0 != '.' then flawed
        else
          let (minor, spot) ← takeVersionPart spot.next
          if isSpaceOrEnd (spot.peek 0) then pure ([major, minor], spot) else flawed
      else if name == "TAG" then do
        let (handle, spot) ← takeHandle spot.skipSpaces
        if spot.peek 0 != ' ' then flawed
        else
          let (start, spot) ← takeTagName spot.skipSpaces
          if isSpaceOrEnd (spot.peek 0) then pure ([handle, start], spot) else flawed
      else pure ([], spot.skipWhile (!isBreakOrEnd ·))
    return (.directive name arguments, ← spot.skipLineRest)

/-! ### Tokens -/

/-- Skip blanks, comments and line ends. Outside of brackets a key may begin on a new line. -/
def skipGaps : Nat → Scanner → Scanner
  | 0, scanner => scanner
  | count + 1, scanner =>
    match scanner.spot.skipSpaces.skipComment.takeBreak? with
    | some (_, spot) =>
      skipGaps count { scanner with spot, allowsKey := scanner.allowsKey || !scanner.isInside }
    | none => { scanner with spot := scanner.spot.skipSpaces.skipComment }

/-- Take the mark of a list's item in a block. -/
def takeBlockItem (scanner : Scanner) : Except Fault Scanner := do
  let scanner ←
    if scanner.isInside then pure scanner
    else if !scanner.allowsKey then flawed
    else pure (scanner.openBlock scanner.spot.column scanner.tokens.size .blockListStart)
  let scanner ← { scanner with allowsKey := true }.dropKey
  return scanner.addMark 1 .blockItem

/-- Take the mark of a key. -/
def takeKeyMark (scanner : Scanner) : Except Fault Scanner := do
  let scanner ←
    if scanner.isInside then pure scanner
    else if !scanner.allowsKey then flawed
    else pure (scanner.openBlock scanner.spot.column scanner.tokens.size .blockMapStart)
  let scanner ← { scanner with allowsKey := !scanner.isInside }.dropKey
  return scanner.addMark 1 .key

/-- Take the colon after a key. -/
def takeColon (scanner : Scanner) : Except Fault Scanner := do
  match scanner.keys.find? fun place => place.level == scanner.level with
  | some place =>
    let keys := scanner.keys.filter fun other => other.level != scanner.level
    let scanner := { scanner with
      keys, tokens := scanner.tokens.insertIdxIfInBounds place.number .key, allowsKey := false }
    let scanner :=
      if scanner.isInside then scanner
      else scanner.openBlock place.spot.column place.number .blockMapStart
    return scanner.addMark 1 .value
  | none =>
    let scanner ←
      if scanner.isInside then pure scanner
      else if !scanner.allowsKey then flawed
      else pure (scanner.openBlock scanner.spot.column scanner.tokens.size .blockMapStart)
    let scanner ← { scanner with allowsKey := !scanner.isInside }.dropKey
    return scanner.addMark 1 .value

/-- Open a bracket. -/
def openBracket (scanner : Scanner) (token : Token) : Except Fault Scanner := do
  let scanner ← scanner.keepKey
  return { scanner with level := scanner.level + 1, allowsKey := true }.addMark 1 token

/-- Close a bracket. -/
def closeBracket (scanner : Scanner) (token : Token) : Except Fault Scanner := do
  let scanner ← scanner.dropKey
  if scanner.level == 0 then flawed
  else return { scanner with level := scanner.level - 1, allowsKey := false }.addMark 1 token

/-- Begin a token that no block goes on over. -/
def endBlocks (scanner : Scanner) : Except Fault Scanner := do
  let scanner ← (scanner.closeBlocks (-1)).dropKey
  return { scanner with allowsKey := false }

/-- Take a node's token, which may begin a key. -/
def takeNode (scanner : Scanner) (take : Spot → Except Fault (Token × Spot)) : Except Fault Scanner := do
  let scanner ← scanner.keepKey
  let (token, spot) ← take scanner.spot
  return { scanner with spot, allowsKey := false }.add token

/-- Take a scalar without quotes. -/
def takePlainScalar (scanner : Scanner) : Except Fault Scanner := do
  let scanner ← scanner.keepKey
  let count := scanner.spot.rest.length + 1
  let (text, hasBroken, spot) := takePlain scanner.isInside (scanner.indent + 1) count [] false scanner.spot
  return { scanner with spot, allowsKey := hasBroken }.add (.scalar (String.ofList text) true)

/-- Take a block of lines. -/
def takeLines (scanner : Scanner) (isFolded : Bool) : Except Fault Scanner := do
  let scanner ← { scanner with allowsKey := true }.dropKey
  let (text, spot) ← takeBlock isFolded scanner.indent scanner.spot.next
  return { scanner with spot }.add (.scalar (String.ofList text) false)

/-- Take a scalar between quotes. -/
def takeQuotedScalar (isDouble : Bool) (spot : Spot) : Except Fault (Token × Spot) := do
  let (text, spot) ← takeQuoted isDouble (spot.rest.length + 1) spot.next
  return (.scalar (String.ofList text) false, spot)

/-- Whether a scalar without quotes begins at a spot. -/
def beginsPlain (scanner : Scanner) : Bool :=
  let c := scanner.spot.peek 0
  let isMark := "-?:,[]#&*!|>'\"%@".toList.contains c || c == '\x7b' || c == '\x7d' || c == '\x60'
  (!isGap c && !isMark)
    || (!isGap (scanner.spot.peek 1) && (c == '-' || (!scanner.isInside && (c == '?' || c == ':'))))

/-- Take the token that begins at the spot. -/
def takeToken (scanner : Scanner) : Except Fault Scanner := do
  let spot := scanner.spot
  let c := spot.peek 0
  let isAlone := isGap (spot.peek 1)
  if c == '%' && spot.column == 0 then
    let scanner ← scanner.endBlocks
    let (token, spot) ← takeDirective spot
    return { scanner with spot }.add token
  else if spot.column == 0 && spot.isDocumentMark then
    let scanner ← scanner.endBlocks
    return scanner.addMark 3 (if c == '-' then .documentStart else .documentEnd)
  else if c == '[' then scanner.openBracket .listStart
  else if c == '\x7b' then scanner.openBracket .mapStart
  else if c == ']' then scanner.closeBracket .listEnd
  else if c == '\x7d' then scanner.closeBracket .mapEnd
  else if c == ',' then
    let scanner ← { scanner with allowsKey := true }.dropKey
    return scanner.addMark 1 .separator
  else if c == '-' && isAlone then scanner.takeBlockItem
  else if c == '?' && (scanner.isInside || isAlone) then scanner.takeKeyMark
  else if c == ':' && (scanner.isInside || isAlone) then scanner.takeColon
  else if c == '*' then
    scanner.takeNode fun spot => do
      let (name, spot) ← takeAnchor spot
      return (.alias name, spot)
  else if c == '&' then
    scanner.takeNode fun spot => do
      let (name, spot) ← takeAnchor spot
      return (.anchor name, spot)
  else if c == '!' then scanner.takeNode takeTag
  else if c == '|' && !scanner.isInside then scanner.takeLines false
  else if c == '>' && !scanner.isInside then scanner.takeLines true
  else if c == '\x27' then scanner.takeNode (takeQuotedScalar false)
  else if c == '\x22' then scanner.takeNode (takeQuotedScalar true)
  else if scanner.beginsPlain then scanner.takePlainScalar
  else flawed

/-- Take all tokens. -/
def takeAll : Nat → Scanner → Except Fault (List Token)
  | 0, _ => flawed
  | count + 1, scanner => do
    let scanner ← (skipGaps (scanner.spot.rest.length + 1) scanner).dropStale
    let scanner := scanner.closeBlocks scanner.spot.column
    if scanner.spot.rest.isEmpty then
      let scanner ← (scanner.closeBlocks (-1)).dropKey
      return (scanner.add .stop).tokens.toList
    else takeAll count (← scanner.takeToken)

end Scanner

/-- The tokens of a document. -/
def tokens (text : String) : Except Fault (List Token) :=
  let chars := text.toList
  if chars.all isAllowed then
    let spot : Spot := { rest := chars }
    let spot := if spot.peek 0 == '\ufeff' then spot.next else spot
    Scanner.takeAll (2 * chars.length + 2) { spot }
  else flawed

end Linework.Document.Yaml
