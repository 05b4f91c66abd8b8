import Linework.Decimal.Places
import Linework.Script.Sequence

/-!
# Laying out values in texts

A value is laid out in a text by a short description of its width, sign, precision and style. There are
two notations for it: the layouts of replacement fields, and the marks that begin with a percent sign.
-/

namespace Linework.Script

open Linework.Decimal Linework.Text

/-- The layout of a replacement field. -/
structure Layout where
  fill : Char := ' '
  fillGiven : Bool := false
  align : Option Char := none
  sign : Char := '-'
  signGiven : Bool := false
  coerceZero : Bool := false
  alternate : Bool := false
  width : Nat := 0
  grouping : Option Char := none
  precision : Option Nat := none
  style : Option Char := none

namespace Layout

/-- A failure of a layout. -/
def refuse {α : Type} (message : String) : Except Failure α :=
  .error (Failure.valueError message)

/-- Whether a character says how to align. -/
def isAlign (c : Char) : Bool :=
  c == '<' || c == '>' || c == '=' || c == '^'

/-- Read the fill and the alignment. -/
def readAlign : List Char → Layout × List Char
  | fill :: align :: rest =>
    if isAlign align then ({ fill := fill, fillGiven := true, align := some align }, rest)
    else if isAlign fill then ({ align := some fill }, align :: rest)
    else ({}, fill :: align :: rest)
  | [align] => if isAlign align then ({ align := some align }, []) else ({}, [align])
  | [] => ({}, [])

/-- Read a mark if it stands there. -/
def readMark (mark : Char) (chars : List Char) : Bool × List Char :=
  if chars.head? == some mark then (true, chars.drop 1) else (false, chars)

/-- Read a decimal number; whether there was one, its value and the rest. -/
def readNumber (chars : List Char) : Bool × Nat × List Char :=
  let digits := chars.takeWhile isPlainDigit
  (!digits.isEmpty, digitsValue digits, chars.drop digits.length)

/-- The greatest width or precision that is modelled. -/
def maxSize : Nat := Nat.pow 2 24

/-- Read a layout for a value of a type, which aligns numbers to the right unless told otherwise. -/
def read (typeName : String) (isNumber : Bool) (spec : List Char) : Except Failure Layout := do
  let (layout, rest) := readAlign spec
  let (layout, rest) :=
    match rest with
    | c :: tail =>
      if c == ' ' || c == '+' || c == '-' then ({ layout with sign := c, signGiven := true }, tail)
      else (layout, rest)
    | [] => (layout, rest)
  let (coerceZero, rest) := readMark 'z' rest
  let (alternate, rest) := readMark '#' rest
  let layout := { layout with coerceZero := coerceZero, alternate := alternate }
  let (zero, rest) := if layout.fillGiven then (false, rest) else readMark '0' rest
  let layout :=
    if zero then
      { layout with
        fill := '0'
        align := if layout.align.isNone && isNumber then some '=' else layout.align }
    else layout
  let (_, width, rest) := readNumber rest
  let (comma, rest) := readMark ',' rest
  let (underscore, rest) := readMark '_' rest
  let (second, rest) := if underscore then readMark ',' rest else (false, rest)
  if (comma && underscore) || second then refuse "Cannot specify both ',' and '_'."
  else
    let grouping := if comma then some ',' else if underscore then some '_' else none
    let (point, rest) := readMark '.' rest
    let (given, precision, rest) := if point then readNumber rest else (true, 0, rest)
    if width > maxSize || precision > maxSize then .error Failure.unknown
    else if !given then refuse "Format specifier missing precision"
    else
      match rest with
      | _ :: _ :: _ =>
        refuse ("Invalid format specifier '" ++ String.ofList spec ++ "' for object of type '"
          ++ typeName ++ "'")
      | _ =>
        let style := rest.head?
        let layout := { layout with
          width := width
          grouping := grouping
          precision := if point then some precision else none
          style := style }
        match grouping, style with
        | some mark, some c =>
          if ['d', 'e', 'f', 'g', 'E', 'G', '%', 'F'].contains c then return layout
          else if mark == '_' && ['b', 'o', 'x', 'X'].contains c then return layout
          else
            refuse ("Cannot specify '" ++ String.singleton mark ++ "' with '" ++ String.singleton c ++ "'.")
        | _, _ => return layout

/-- Pad a sign or prefix and a body to the width. -/
def pad (layout : Layout) (default : Char) (before body : List Char) : String :=
  let missing := layout.width - before.length - body.length
  let fill (count : Nat) : List Char := List.replicate count layout.fill
  String.ofList <|
    match layout.align.getD default with
    | '<' => before ++ body ++ fill missing
    | '^' => fill (missing / 2) ++ before ++ body ++ fill (missing - missing / 2)
    | '=' => before ++ fill missing ++ body
    | _ => fill missing ++ before ++ body

/-- Digits in groups from the right, with a mark between them. -/
def grouped (mark : Char) (size : Nat) (digits : List Char) : List Char :=
  let place (index : Nat) (c : Char) : List Char :=
    let left := digits.length - index
    if index != 0 && left % size == 0 then [mark, c] else [c]
  (digits.zipIdx.map fun (c, index) => place index c).flatten

/-- Add zeros before grouped digits until they fill a width, at most `tries` of them. -/
def growGroups (mark : Char) (size width : Nat) : Nat → List Char → List Char
  | 0, digits => grouped mark size digits
  | tries + 1, digits =>
    let text := grouped mark size digits
    if text.length < width then growGroups mark size width tries ('0' :: digits) else text

/-- Lay out a number: its sign, its prefix, the digits before the point, which may be grouped, and what
follows them. -/
def number (layout : Layout) (negative : Bool) (mark : List Char) (size : Nat) (whole rest : List Char) :
    String :=
  let sign : List Char :=
    if negative then ['-']
    else if layout.sign == '+' then ['+']
    else if layout.sign == ' ' then [' ']
    else []
  let before := sign ++ mark
  let whole :=
    match layout.grouping, whole with
    | none, _ | _, [] => whole
    | some separator, _ =>
      if layout.fill == '0' && layout.align == some '=' then
        let width := layout.width - before.length - rest.length
        growGroups separator size width width whole
      else grouped separator size whole
  layout.pad '>' before (whole ++ rest)

/-- Lay out a text. -/
def text (layout : Layout) (value : String) : Except Failure String := do
  if layout.signGiven then
    if layout.sign == ' ' then refuse "Space not allowed in string format specifier"
    else refuse "Sign not allowed in string format specifier"
  else if layout.coerceZero then
    refuse "Negative zero coercion (z) not allowed in string format specifier"
  else if layout.alternate then
    refuse "Alternate form (#) not allowed in string format specifier"
  else if layout.align == some '=' then
    refuse "'=' alignment not allowed in string format specifier"
  else
    match layout.grouping with
    | some mark => refuse ("Cannot specify '" ++ String.singleton mark ++ "' with 's'.")
    | none =>
      let chars := value.toList
      let chars :=
        match layout.precision with
        | some precision => chars.take precision
        | none => chars
      return layout.pad '<' [] chars

/-- Lay out a float. -/
def float (layout : Layout) (x : Float) (style : Option Char) : String :=
  let percent := style == some '%'
  let x := if percent then x * 100.0 else x
  let upper := style.any Char.isUpper
  let keepsZeros := layout.alternate
  let body : List Char :=
    if x.isNaN then "nan".toList
    else if x.isInf then "inf".toList
    else
      match style.map Char.toLower, layout.precision with
      | none, none => magnitudeText x
      | none, some precision => writtenText x ⟨.general, precision, keepsZeros, true⟩
      | some 'e', precision => writtenText x ⟨.exponent, precision.getD 6, keepsZeros, false⟩
      | some 'g', precision | some 'n', precision =>
        writtenText x ⟨.general, precision.getD 6, keepsZeros, false⟩
      | _, precision => writtenText x ⟨.fixed, precision.getD 6, keepsZeros, false⟩
  let body := if upper then body.map Char.toUpper else body
  let isZero := body.takeWhile (fun c => c != 'e' && c != 'E') |>.all fun c => c == '0' || c == '.'
  let negative := isNegative x && !x.isNaN && !(layout.coerceZero && isZero)
  let whole := body.takeWhile isPlainDigit
  let rest := body.drop whole.length ++ if percent then ['%'] else []
  layout.number negative [] 3 whole rest

/-- Lay out an integer in a base. -/
def integer (layout : Layout) (n : Int) (base : Nat) (mark : List Char) (upper : Bool) : String :=
  let digits := Nat.toDigits base n.natAbs
  let digits := if upper then digits.map Char.toUpper else digits
  let mark := if layout.alternate then mark else []
  layout.number (n < 0) mark (if base == 10 then 3 else 4) digits []

end Layout

/-- A style that is not known for a type. -/
def unknownStyle {α : Type} (style : Char) (typeName : String) : Except Failure α :=
  .error (Failure.valueError ("Unknown format code '" ++ String.singleton style
    ++ "' for object of type '" ++ typeName ++ "'"))

/-- The character of a code that a layout asks for. Halves of surrogate pairs, and codes that no machine word
holds, are beyond what is modelled. -/
def characterOf (code : Int) : Except Failure Char :=
  if code.natAbs ≥ Nat.pow 2 31 || (0xd800 ≤ code && code ≤ 0xdfff) then .error Failure.unknown
  else if code < 0 || 0x110000 ≤ code then
    .error (Failure.ofMessage "OverflowError" "%c arg not in range(0x110000)")
  else .ok (Char.ofNat code.toNat)

/-- The styles of integers that are not those of floats. -/
def integerStyles : List Char := ['b', 'o', 'x', 'X', 'c', 'd', 'n']

/-- Lay out an integer. -/
def layOutInteger (typeName : String) (layout : Layout) (n : Int) : Except Failure String := do
  match layout.style with
  | some 'e' | some 'E' | some 'f' | some 'F' | some 'g' | some 'G' | some '%' =>
    return layout.float (← numberToFloat (.int n)) layout.style
  | style =>
    if style.any (!integerStyles.contains ·) then unknownStyle (style.getD 'd') typeName
    else if layout.precision.isSome then
      .error (Failure.valueError "Precision not allowed in integer format specifier")
    else if layout.coerceZero then
      .error (Failure.valueError "Negative zero coercion (z) not allowed in integer format specifier")
    else
      match style with
      | some 'b' => return layout.integer n 2 ['0', 'b'] false
      | some 'o' => return layout.integer n 8 ['0', 'o'] false
      | some 'x' => return layout.integer n 16 ['0', 'x'] false
      | some 'X' => return layout.integer n 16 ['0', 'X'] true
      | some 'c' =>
        if layout.signGiven then
          .error (Failure.valueError "Sign not allowed with integer format specifier 'c'")
        else return layout.pad '<' [] [← characterOf n]
      | _ =>
        discard (integerText n)
        return layout.integer n 10 [] false

/-- Lay out a float. -/
def layOutFloat (layout : Layout) (x : Float) : Except Failure String :=
  match layout.style with
  | none => .ok (layout.float x none)
  | some c =>
    if ['e', 'E', 'f', 'F', 'g', 'G', 'n', '%'].contains c then .ok (layout.float x (some c))
    else unknownStyle c "float"

/-- Lay out a value as a replacement field says. -/
def World.layOut (world : World) (value : Value) (spec : List Char) : Except Failure String := do
  if spec.isEmpty then world.plain value
  else
    match value with
    | .text text =>
      let layout ← Layout.read "str" false spec
      match layout.style with
      | none | some 's' => layout.text text
      | some c => unknownStyle c "str"
    | .bool b => layOutInteger "bool" (← Layout.read "bool" true spec) (if b then 1 else 0)
    | .int n => layOutInteger "int" (← Layout.read "int" true spec) n
    | .float x => layOutFloat (← Layout.read "float" true spec) x
    | other =>
      .error (Failure.typeError ("unsupported format string passed to " ++ world.typeName other
        ++ ".__format__"))

/-! ### Percent marks -/

/-- A mark that a value is put in the place of. -/
structure PercentMark where
  leftAlign : Bool := false
  plus : Bool := false
  space : Bool := false
  alternate : Bool := false
  zeros : Bool := false

/-- Read the flags of a mark. -/
def PercentMark.readFlags (mark : PercentMark) : List Char → PercentMark × List Char
  | '-' :: rest => readFlags { mark with leftAlign := true } rest
  | '+' :: rest => readFlags { mark with plus := true } rest
  | ' ' :: rest => readFlags { mark with space := true } rest
  | '#' :: rest => readFlags { mark with alternate := true } rest
  | '0' :: rest => readFlags { mark with zeros := true } rest
  | rest => (mark, rest)

/-- The values for marks: those that are left, or one value that stands for itself, and the map that
named marks look in. -/
structure PercentValues where
  rest : List Value
  isSequence : Bool
  map : Option (List (Value × Value))
  /-- The value may go unused. -/
  mayStay : Bool

/-- The layout of a mark for numbers. -/
def PercentMark.layout (mark : PercentMark) (width : Nat) (precision : Option Nat) : Layout :=
  { fill := if mark.zeros && !mark.leftAlign then '0' else ' '
    align := if mark.leftAlign then some '<' else if mark.zeros then some '=' else some '>'
    sign := if mark.plus then '+' else if mark.space then ' ' else '-'
    alternate := mark.alternate
    width := width
    precision := precision }

/-- Write an integer for a mark. -/
def PercentMark.integer (mark : PercentMark) (width : Nat) (precision : Option Nat) (n : Int)
    (base : Nat) (before : List Char) (upper : Bool) : String :=
  let digits := padZeros (precision.getD 0) (Nat.toDigits base n.natAbs)
  let digits := if upper then digits.map Char.toUpper else digits
  let before := if mark.alternate then before else []
  (mark.layout width none).number (n < 0) before 3 digits []

/-- The integer that a value gives for a mark, which whole parts of floats do only for decimal marks. -/
def percentInteger (world : World) (style : Char) (value : Value) : Except Failure Int :=
  match value.number? with
  | some (.int n) => .ok n
  | some (.float x) =>
    if style == 'd' || style == 'i' || style == 'u' then
      if x.isNaN then .error Failure.nanInteger
      else if x.isInf then .error Failure.infiniteInteger
      else .ok (truncate x)
    else integerNeeded
  | none =>
    if style == 'd' || style == 'i' || style == 'u' then
      .error (Failure.typeError ("%" ++ String.singleton style
        ++ " format: a real number is required, not " ++ world.typeName value))
    else integerNeeded
where
  /-- The mark takes integers only. -/
  integerNeeded : Except Failure Int :=
    .error (Failure.typeError ("%" ++ String.singleton style ++ " format: an integer is required, not "
      ++ world.typeName value))

/-- Pad a text for a mark. -/
def PercentMark.padText (mark : PercentMark) (width : Nat) (chars : List Char) : String :=
  let layout : Layout := { width := width, align := if mark.leftAlign then some '<' else some '>' }
  layout.pad '>' [] chars

/-- Write a value for a mark. `index` is where the style stands in the text. -/
def PercentMark.write (world : World) (mark : PercentMark) (width : Nat) (precision : Option Nat)
    (style : Char) (index : Nat) (value : Value) : Except Failure String := do
  let cut (text : String) : String :=
    mark.padText width (match precision with
      | some precision => text.toList.take precision
      | none => text.toList)
  match style with
  | 's' => return cut (← world.plain value)
  | 'r' => return cut (← world.source value)
  | 'a' => return cut (asciiOnly (← world.source value))
  | 'c' =>
    match value with
    | .text text =>
      if text.length == 1 then return mark.padText width text.toList
      else .error (Failure.typeError "%c requires int or char")
    | _ =>
      match value.index? with
      | some n => return mark.padText width [← characterOf n]
      | none => .error (Failure.typeError "%c requires int or char")
  | 'd' | 'i' | 'u' =>
    let n ← percentInteger world style value
    discard (integerText n)
    return mark.integer width precision n 10 [] false
  | 'o' => return mark.integer width precision (← percentInteger world style value) 8 ['0', 'o'] false
  | 'x' => return mark.integer width precision (← percentInteger world style value) 16 ['0', 'x'] false
  | 'X' => return mark.integer width precision (← percentInteger world style value) 16 ['0', 'X'] true
  | 'e' | 'E' | 'f' | 'F' | 'g' | 'G' =>
    match value.number? with
    | some number =>
      return (mark.layout width precision).float (← numberToFloat number) (some style)
    | none => .error (Failure.notReal (world.typeName value))
  | c =>
    .error (Failure.valueError ("unsupported format character '" ++ String.singleton c ++ "' (0x"
      ++ String.ofList (Nat.toDigits 16 c.toNat) ++ ") at index " ++ natText index))

/-- Split a named mark at its closing parenthesis, `open` of which are awaited. -/
def percentName? (opened : Nat) (name : List Char) : List Char → Option (List Char × List Char)
  | [] => none
  | c :: rest =>
    if c == ')' then
      match opened with
      | 0 => some (name.reverse, rest)
      | opened + 1 => percentName? opened (c :: name) rest
    else percentName? (if c == '(' then opened + 1 else opened) (c :: name) rest

/-- Too few values for the marks. -/
def tooFewPercent {α : Type} : Except Failure α :=
  .error (Failure.typeError "not enough arguments for format string")

/-- Take the next value. -/
def PercentValues.take (values : PercentValues) : Except Failure (Value × PercentValues) :=
  match values.rest with
  | value :: rest => .ok (value, { values with rest := rest })
  | [] => tooFewPercent

/-- Read a number of a mark, which may be taken from the values. -/
def percentNumber (values : PercentValues) (chars : List Char) :
    Except Failure (Option Int × PercentValues × List Char) := do
  match chars with
  | '*' :: rest =>
    let (value, values) ← values.take
    match value.index? with
    | some n => if n.natAbs > Layout.maxSize then .error Failure.unknown else return (some n, values, rest)
    | none => .error (Failure.typeError "* wants int")
  | _ =>
    let (given, n, rest) := Layout.readNumber chars
    if n > Layout.maxSize then .error Failure.unknown
    else return (if given then some (n : Int) else none, values, rest)

/-- Put values in the place of the marks of a text, in at most `count` steps. -/
def fillMarks (world : World) (length : Nat) :
    Nat → PercentValues → List Char → Except Failure String
  | 0, _, _ => .ok ""
  | count + 1, values, chars => do
    let text := chars.takeWhile (· != '%')
    match chars.drop text.length with
    | [] =>
      if !values.rest.isEmpty && !values.mayStay then
        .error (Failure.typeError "not all arguments converted during string formatting")
      else return String.ofList text
    | '%' :: '%' :: rest => return String.ofList text ++ "%" ++ (← fillMarks world length count values rest)
    | _ :: rest =>
      let incomplete : Except Failure String := .error (Failure.valueError "incomplete format")
      let (values, rest) ←
        match rest with
        | '(' :: named =>
          match values.map with
          | none =>
            .error (if values.mayStay then Failure.unknown else Failure.typeError "format requires a mapping")
          | some entries =>
            match percentName? 0 [] named with
            | none => .error (Failure.valueError "incomplete format key")
            | some (name, rest) =>
              match world.lookup? entries (.text (String.ofList name)) with
              | some value => pure ({ values with rest := [value], mayStay := true }, rest)
              | none => .error (Failure.missingKey (.text (String.ofList name)))
        | _ => pure (values, rest)
      let (mark, rest) := PercentMark.readFlags {} rest
      let (width, values, rest) ← percentNumber values rest
      let mark := if width.any (· < 0) then { mark with leftAlign := true } else mark
      let width := (width.map Int.natAbs).getD 0
      let (precision, values, rest) ←
        match rest with
        | '.' :: rest =>
          let (precision, values, rest) ← percentNumber values rest
          pure (some (precision.getD 0).toNat, values, rest)
        | _ => pure (none, values, rest)
      let rest := if rest.head?.any (['h', 'l', 'L'].contains ·) then rest.drop 1 else rest
      match rest with
      | [] => incomplete
      | style :: rest =>
        let (value, values) ← values.take
        let written ← mark.write world width precision style (length - rest.length - 1) value
        return String.ofList text ++ written ++ (← fillMarks world length count values rest)

/-- Put values in the place of the marks of a text. -/
def World.fill (world : World) (text : String) (right : Value) : Except Failure String :=
  let chars := text.toList
  let values : PercentValues :=
    match right with
    | .tuple items => ⟨items, true, none, false⟩
    | .range .. => ⟨[right], false, none, true⟩
    | .ref address =>
      match world.object? address with
      | some (.dict entries) => ⟨[right], false, some entries, true⟩
      | some (.list _) => ⟨[right], false, none, true⟩
      | _ => ⟨[right], false, none, false⟩
    | _ => ⟨[right], false, none, false⟩
  fillMarks world chars.length (chars.length + 1) values chars

end Linework.Script
