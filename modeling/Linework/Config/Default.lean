import Linework.Datum

/-!
# The default configuration

The bounds of processing, the defaults of drawing, and the parameters of every command.
-/

namespace Linework.Config

/-- A map with text keys. -/
def mapping (entries : List (String × Datum)) : Datum :=
  .dict (entries.map fun (key, value) => (.text key, value))

/-- A parameter that is only named. -/
def named (name : String) : Datum :=
  mapping [("name", .text name)]

/-- A parameter that takes several values. -/
def several (name : String) (count : Int) : Datum :=
  mapping [("name", .text name), ("values", .int count)]

/-- A parameter that is copied into the attributes. -/
def copied (name : String) : Datum :=
  mapping [("name", .text name), ("attribute", .bool true)]

/-- The options. -/
def defaultOptions : Datum :=
  mapping [
    ("max_loop_iterations", .int 100),
    ("max_nesting", .int 64),
    ("max_expansions", .int 10000),
    ("init_command", .text "init"),
    ("default_stroke_width", .int 1),
    ("default_font_size", .int 16),
    ("id_prefix", .text "cgraph")]

/-- The parameters of how lines are stroked. -/
def strokeParameters : List (String × Datum) := [
  ("sc", copied "stroke"),
  ("sw", copied "stroke-width"),
  ("so", copied "stroke-opacity"),
  ("sda", copied "stroke-dasharray")]

/-- The parameters of every command. -/
def defaultCommands : Datum :=
  mapping [
    ("init", mapping [
      ("w", copied "width"),
      ("h", copied "height"),
      ("r", several "range" 4),
      ("bo", named "border"),
      ("pad", named "padding"),
      ("fss", named "font-and-stroke-scale")]),
    ("grid", mapping (("r", several "range" 4) :: ("sp", several "spacing" 2)
      :: strokeParameters ++ [("o", copied "opacity")])),
    ("axis", mapping (("r", several "range" 4)
      :: strokeParameters ++ [("o", copied "opacity")])),
    ("point", mapping (("id", named "name") :: ("p", several "point" 2) :: ("r", copied "r")
      :: strokeParameters ++ [
        ("f", copied "fill"),
        ("fo", copied "fill-opacity"),
        ("o", copied "opacity")]))]

/-- The default configuration. -/
def default : Datum :=
  mapping [("options", defaultOptions), ("commands", defaultCommands)]

end Linework.Config
