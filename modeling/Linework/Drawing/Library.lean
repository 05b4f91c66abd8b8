import Linework.Drawing.Measure
import Linework.Drawing.Parameters
import Linework.Drawing.Result
import Linework.Drawing.Window

/-!
# The drawing commands

The handlers of `init`, `grid`, `axis` and `point`. A `Library` is the state of one drawing: its window,
the scale of fonts and strokes, and the identifiers of its arrow markers. Malformed values never fail;
they fall back to defaults.
-/

namespace Linework.Drawing

open Linework.Decimal

/-- The state of one drawing. -/
structure Library where
  strokeWidth : Float := 1
  fontSize : Float := 16
  arrowStart : String := ""
  arrowEnd : String := ""
  window : Window := {}
  scale : Float := 1

/-- The entry of an options map, or a default. -/
def option (options : Assoc Datum Datum) (name : String) (default : Datum) : Datum :=
  (Datum.entry? options name).getD default

namespace Library

/-- A fresh drawing. The number tells the drawings of one process apart. -/
def create (options : Assoc Datum Datum) (number : Nat) : Except Fault Library := do
  let strokeWidth ← (option options "default_stroke_width" (.int 1)).toFloat
  let fontSize ← (option options "default_font_size" (.int 16)).toFloat
  let owner := (option options "id_prefix" (.text "cgraph")).plain
  let stem := owner ++ "_id_" ++ natText number ++ "_"
  return {
    strokeWidth := strokeWidth
    fontSize := fontSize
    arrowStart := stem ++ "arrow_start"
    arrowEnd := stem ++ "arrow_end" }

/-- An attribute by its name. -/
def attribute? (attributes : Attributes) (name : String) : Option Datum :=
  Datum.entry? attributes name

/-- Set an attribute. -/
def set (attributes : Attributes) (name : String) (value : Datum) : Attributes :=
  Assoc.put attributes (.text name) value

/-- Set an attribute to a text. -/
def setText (attributes : Attributes) (name value : String) : Attributes :=
  set attributes name (.text value)

/-- Set an attribute unless it is set. -/
def setDefault (attributes : Attributes) (name : String) (value : Datum) : Attributes :=
  if (attribute? attributes name).isSome then attributes else set attributes name value

/-- The attributes as texts. -/
def attributeTexts (attributes : Attributes) : Attributes :=
  attributes.map fun (name, value) => (name, .text value.spliced)

/-- An element with its stroke width scaled. -/
def element (library : Library) (tag : String) (attributes : Attributes) : Element :=
  let attributes := attributeTexts attributes
  match attribute? attributes "stroke-width" with
  | some width =>
    match width.toFloat with
    | .ok x => ⟨tag, setText attributes "stroke-width" (tidy (x * library.scale))⟩
    | .error _ => ⟨tag, attributes⟩
  | none => ⟨tag, attributes⟩

/-- Set the scale from a word that is a finite number. -/
def setScale (library : Library) (word : String) : Library :=
  match wordFloats? [word] 1 with
  | some [x] => { library with scale := x }
  | _ => library

/-- Complete width and height from each other and the shape of the window. -/
def completeSize (window : Window) (attributes : Attributes) : Except Fault Attributes := do
  let attributes :=
    if (attribute? attributes "width").isNone && (attribute? attributes "height").isNone then
      setText attributes "width" "30em"
    else attributes
  match attribute? attributes "width", attribute? attributes "height" with
  | some width, none =>
    match scaleLength? width.spliced (← quotient window.yrange window.xrange) with
    | some height => return setText attributes "height" height
    | none => return attributes
  | none, some height =>
    match scaleLength? height.spliced (← quotient window.xrange window.yrange) with
    | some width => return setText attributes "width" width
    | none => return attributes
  | _, _ => return attributes

/-- The style that border and padding arguments give. -/
def styleText (arguments : Arguments) : String :=
  let border :=
    match arguments.get? "bo" with
    | some words =>
      let value := " ".intercalate words
      "border:" ++ value ++ (if isPlainNumber value then "px solid #00000033" else "") ++ ";"
    | none => ""
  let padding :=
    match arguments.get? "pad" with
    | some words =>
      let value := " ".intercalate words
      "padding:" ++ value ++ (if isPlainNumber value then "px" else "") ++ ";"
    | none => ""
  border ++ padding

/-- Open the drawing: set its window and scale, and draw its frame. -/
def init (library : Library) (arguments : Arguments) (parameters : Parameters) :
    Except Fault Result × Library :=
  let library := { library with window := library.window.update (arguments.get? "r") }
  let window := library.window
  match attributesOf (argumentData arguments) parameters >>= completeSize window with
  | .error fault => (.error fault, library)
  | .ok attributes =>
    let style := styleText arguments
    let attributes := if style.isEmpty then attributes else setText attributes "style" style
    let library := { library with scale := 1 }
    match arguments.get? "fss" with
    | some [] => (.error .indexOutOfRange, library)
    | words =>
      let library :=
        match words with
        | some (word :: _) => library.setScale word
        | _ => library
      let svg := setText attributes "class" "cgraph-root"
      let svg := setText svg "viewBox" ("0 0 " ++ tidy window.xrange ++ " " ++ tidy window.yrange)
      let svg := setText svg "preserveAspectRatio" "xMinYMin"
      let group : Attributes := [
        (.text "stroke", .text "#000"),
        (.text "stroke-opacity", .text "1"),
        (.text "stroke-width", .float library.strokeWidth),
        (.text "font-size", .float library.fontSize),
        (.text "fill", .text "none"),
        (.text "transform", .text ("translate(" ++ tidy (-window.xmin) ++ "," ++ tidy window.ymax
          ++ ") scale(1,-1)"))]
      let interface : Datum := .record [
        ("w", (attribute? attributes "width").getD .null),
        ("h", (attribute? attributes "height").getD .null),
        ("fss", .float library.scale)]
      (.ok {
        command := "init"
        elements := [⟨"svg", attributeTexts svg⟩, library.element "g" group]
        name := some "init"
        interface := some interface }, library)

/-- Grid lines drawn per direction, at most. -/
def maxGridLines : Nat := 1000

/-- The numbers `start + k * spacing`, for `k` from `count` on, that are not beyond a bound; at most
`tries` of them. -/
def gridPositions (start spacing : Number) (bound : Float) (count : Nat) :
    Nat → Except Fault (List Number)
  | 0 => return []
  | tries + 1 => do
    let offset ← Number.combine (· * ·) (· * ·) (.int count) spacing
    let position ← Number.combine (· + ·) (· + ·) start offset
    if Number.less (.float bound) position then return []
    else return position :: (← gridPositions start spacing bound (count + 1) tries)

/-- The positions of the grid lines from a lower to an upper bound. -/
def gridLines (low high : Float) (spacing : Number) : Except Fault (List String) := do
  let start ← roundDatumToMultiple (.float low) spacing.toDatum
  match start.number? with
  | none => return []
  | some start =>
    let positions ← gridPositions start spacing high 0 maxGridLines
    return positions.map fun position => (position.round 10).toDatum.spliced

/-- The spacings of the vertical and the horizontal lines. -/
def gridSpacings (arguments : Arguments) (width height : Float) : Except Fault (Number × Number) := do
  let byDefault (extent : Float) : Except Fault Number := do
    return ((← nearest (.float (extent / 10)) spacings).number?).getD (.int 1)
  match flagFloats? arguments "sp" 2 with
  | some [x, y] =>
    if x > 0 && y > 0 then return (.float x, .float y)
    else return (← byDefault width, ← byDefault height)
  | _ => return (← byDefault width, ← byDefault height)

/-- Draw a grid. -/
def grid (library : Library) (arguments : Arguments) (parameters : Parameters) :
    Except Fault Result := do
  let (xmin, ymin, xmax, ymax) := library.window.bounds arguments
  let (xspacing, yspacing) ← gridSpacings arguments (xmax - xmin) (ymax - ymin)
  let vertical := (← gridLines xmin xmax xspacing).map fun x =>
    "M " ++ x ++ " " ++ tidy ymin ++ " V " ++ tidy ymax
  let horizontal := (← gridLines ymin ymax yspacing).map fun y =>
    "M " ++ tidy xmin ++ " " ++ y ++ " H " ++ tidy xmax
  let attributes ← attributesOf (argumentData arguments) parameters
  let attributes := setText attributes "d" (" ".intercalate (vertical ++ horizontal))
  let attributes := if arguments.has "sw" then attributes else setText attributes "stroke-width" "0.5"
  let attributes :=
    if arguments.has "so" then attributes else setText attributes "stroke-opacity" "0.2"
  return { command := "grid", elements := [library.element "path" attributes] }

/-- Draw the two axes. -/
def axis (library : Library) (arguments : Arguments) (parameters : Parameters) :
    Except Fault Result := do
  let (xmin, ymin, xmax, ymax) := library.window.bounds arguments
  let attributes ← attributesOf (argumentData arguments) parameters
  let attributes := setText attributes "marker-start" ("url(#" ++ library.arrowStart ++ ")")
  let attributes := setText attributes "marker-end" ("url(#" ++ library.arrowEnd ++ ")")
  let attributes := if arguments.has "sw" then attributes else setText attributes "stroke-width" "1"
  let attributes :=
    if arguments.has "so" then attributes else setText attributes "stroke-opacity" "0.6"
  let across := setText attributes "d" ("M " ++ tidy xmin ++ " 0 H " ++ tidy xmax)
  let upward := setText attributes "d" ("M 0 " ++ tidy ymin ++ " V " ++ tidy ymax)
  return {
    command := "axis"
    elements := [library.element "path" across, library.element "path" upward] }

/-- Draw a point, and make its position known to scripts under its identifier. -/
def point (library : Library) (arguments : Arguments) (parameters : Parameters) :
    Except Fault Result := do
  let (x, y) :=
    match flagFloats? arguments "p" 2 with
    | some [x, y] => (x, y)
    | _ => (0, 0)
  let attributes ← attributesOf (argumentData arguments) parameters
  let attributes := set attributes "cx" (.float x)
  let attributes := set attributes "cy" (.float y)
  let attributes := setDefault attributes "stroke-width" (.int 0)
  let attributes := setDefault attributes "fill" (.text "#000")
  let attributes :=
    match attribute? attributes "r" with
    | some radius =>
      match radius.toFloat with
      | .ok r => set attributes "r" (.float (r * library.scale))
      | .error _ => attributes
    | none => set attributes "r" (.float (3 * library.scale))
  return {
    command := "point"
    elements := [library.element "circle" attributes]
    name := ((arguments.get? "id").getD []).head?
    interface := some (.record [("p", .point (.float x) (.float y))]) }

/-- The commands that a library has handlers for, in alphabetical order. -/
def commandNames : List String := ["axis", "grid", "init", "point"]

/-- Run the handler of a command. -/
def invoke (library : Library) (name : String) (arguments : Arguments) (parameters : Parameters) :
    Except Fault (Option Result) × Library :=
  match name with
  | "init" =>
    let (result, library) := library.init arguments parameters
    (result.map some, library)
  | "grid" => ((library.grid arguments parameters).map some, library)
  | "axis" => ((library.axis arguments parameters).map some, library)
  | "point" => ((library.point arguments parameters).map some, library)
  | other => (.error (.missingKey (.text other)), library)

end Library

/-- The parameters of each registered command. -/
abbrev CommandTable := Assoc String Parameters

/-- Register the commands of the library that have a description. -/
def CommandTable.ofSchemas (schemas : Assoc Datum Datum) : Except Fault CommandTable :=
  Library.commandNames.foldlM (fun table name =>
    match Datum.entry? schemas name with
    | some description => do return Assoc.put table name (← toMap description)
    | none => return table) []

/-- The parameters of a command. -/
def CommandTable.parameters (table : CommandTable) (name : String) : Except Fault Parameters :=
  match Assoc.get? table name with
  | some parameters => .ok parameters
  | none => .error (.missingKey (.text name))

/-- The arity of each flag of a command. -/
def CommandTable.schema (table : CommandTable) (name : String) : Except Fault (List (Datum × Int)) := do
  (← table.parameters name).schema

/-- Run a registered command. -/
def CommandTable.invoke (table : CommandTable) (name : String) (arguments : Arguments)
    (library : Library) : Except Fault (Option Result) × Library :=
  match table.parameters name with
  | .ok parameters => library.invoke name arguments parameters
  | .error fault => (.error fault, library)

end Linework.Drawing
