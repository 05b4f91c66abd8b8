import Linework.Datum.Number

/-!
# The visible window

The part of the coordinate plane that a drawing shows. A window is set from words; words that are not
four finite numbers leave it as it is, and an axis whose bounds are not in order is reset.
-/

namespace Linework.Drawing

/-- The items of a sequence before a place, which is counted from the end when it is negative. -/
def itemsBefore? (stop : Int) : Datum → Option (List Datum)
  | .list items | .tuple items => some (cut items)
  | .text value => some (cut (value.toList.map fun c => .text (String.singleton c)))
  | _ => none
where
  /-- Cut a list at the place. -/
  cut (items : List Datum) : List Datum :=
    items.take (if stop < 0 then items.length + stop else stop).toNat

/-- Items as numbers; none when one is no number. An integer beyond all numbers is a fault. -/
def floatsOf : List Datum → Except Fault (Option (List Float))
  | [] => return some []
  | item :: rest =>
    match item.toFloat with
    | .ok x => do return (← floatsOf rest).map (x :: ·)
    | .error .integerTooLarge => .error .integerTooLarge
    | .error _ => return none

/-- The first `count` items as finite numbers; none when there are fewer or one is no finite number. -/
def parseFloats (values : Datum) (count : Int) : Except Fault (Option (List Float)) := do
  if values matches .null then return none
  if (← values.size) < count then return none
  match itemsBefore? count values with
  | some items => return (← floatsOf items).filter (·.all Float.isFinite)
  | none => return none

/-- The first number under a flag, or else a default. -/
def floatOr (arguments : Assoc Datum Datum) (flag default : Datum) : Except Fault Datum := do
  match ← parseFloats ((Assoc.get? arguments flag).getD .null) 1 with
  | some (x :: _) => return .float x
  | _ => return default

/-- The first `count` words as finite numbers; none when there are fewer or one is no finite number. -/
def wordFloats? (words : List String) (count : Nat) : Option (List Float) := do
  if words.length < count then none
  else
    let numbers ← (words.take count).mapM Decimal.readFloat?
    if numbers.all Float.isFinite then some numbers else none

/-- The numbers bound to a flag. -/
def flagFloats? (arguments : Arguments) (flag : String) (count : Nat) : Option (List Float) := do
  wordFloats? (← arguments.get? flag) count

/-- A window of the plane. The extents are those of the last update. -/
structure Window where
  xmin : Float := -100
  ymin : Float := -100
  xmax : Float := 100
  ymax : Float := 100
  xrange : Float := 200
  yrange : Float := 200

namespace Window

/-- Take over four bounds, reset an axis whose bounds are not in order, and measure the extents. -/
def update (window : Window) (words : Option (List String)) : Window :=
  let (xmin, ymin, xmax, ymax) :=
    match words.bind (wordFloats? · 4) with
    | some [a, b, c, d] => (a, b, c, d)
    | _ => (window.xmin, window.ymin, window.xmax, window.ymax)
  let (xmin, xmax) := if xmin ≥ xmax then (-100, 100) else (xmin, xmax)
  let (ymin, ymax) := if ymin ≥ ymax then (-100, 100) else (ymin, ymax)
  ⟨xmin, ymin, xmax, ymax, xmax - xmin, ymax - ymin⟩

/-- The bounds given by the flag `r` when they can be read, else those of the window. -/
def bounds (window : Window) (arguments : Arguments) : Float × Float × Float × Float :=
  match flagFloats? arguments "r" 4 with
  | some [a, b, c, d] => (a, b, c, d)
  | _ => (window.xmin, window.ymin, window.xmax, window.ymax)

end Window

end Linework.Drawing
