import Linework.Datum.Text
import Linework.Decimal.Reading
import Linework.Script.Failure

/-!
# Values as text

The forms in which a value becomes text are those of data: the source form and the plain form; the coordinates
of a point are written as they are in a document. Each fails for an integer of too many digits. What is not
said of a value is a text that depends on more than the value: on the place of an object in memory, on the
order in which a set happens to keep its items, or on how much of the stack is left.
-/

namespace Linework.Script

open Linework.Decimal Linework.Text

/-- The least integer that has too many digits to be written. -/
def digitBound : Nat := Nat.pow 10 maxIntegerDigits

/-- An integer in base ten. -/
def integerText (n : Int) : Except Failure String :=
  if n.natAbs < digitBound then .ok (intText n) else .error Failure.tooManyDigits

/-- How deep values may hold each other for it to be certain that they can be shown. -/
def maxShown : Nat := 300

namespace World

/-- The built-in type or kind that a class is or extends, going up at most `steps` classes. -/
def rootKind (world : World) : Nat → Value → String
  | _, .type name => name
  | 0, _ => "object"
  | steps + 1, .ref address =>
    match world.object? address with
    | some (.classOf _ (some base) _) => rootKind world steps base
    | _ => "object"
  | _, _ => "object"

/-- How many classes may extend each other. -/
def maxClasses : Nat := 100

/-- Whether a class is a kind of exceptions. -/
def isExceptionClass (world : World) (cls : Value) : Bool :=
  kindBelongsTo kindSteps (world.rootKind maxClasses cls) "BaseException"

/-- The source form of a value, inside of the objects at the addresses `around`. -/
def sourceIn (world : World) (around : List Nat) : Nat → Value → Except Failure String
  | 0, _ => .error Failure.unknown
  | depth + 1, value =>
    let write (value : Value) : Except Failure String := sourceIn world around depth value
    match value with
    | .null => .ok "None"
    | .bool value => .ok (if value then "True" else "False")
    | .int value => integerText value
    | .float value => .ok (floatText value)
    | .text value => .ok (quoted value)
    | .tuple [item] => do return "(" ++ (← write item) ++ ",)"
    | .tuple items => do return Datum.between "(" ")" (← items.mapM write)
    | .range start stop step => do
      let parts := [start, stop] ++ if step == 1 then [] else [step]
      return Datum.between "range(" ")" (← parts.mapM integerText)
    | .slice start stop step => do
      return Datum.between "slice(" ")" (← [start, stop, step].mapM write)
    | .ellipsis => .ok "Ellipsis"
    | .point x y => do return "Point(x=" ++ (← write x) ++ ", y=" ++ (← write y) ++ ")"
    | .foreign datum => .ok datum.source
    | .type name => .ok ("<class '" ++ name ++ "'>")
    | .primitive name => .ok ("<built-in function " ++ ((name.splitOn ".").getLast?.getD name) ++ ">")
    | .method .. | .bound .. => .error Failure.unknown
    | .mathModule => .ok "<module 'math' (built-in)>"
    | .ref address =>
      let inside (value : Value) : Except Failure String :=
        sourceIn world (address :: around) depth value
      match world.object? address with
      | some (.list items) =>
        if around.contains address then .ok "[...]"
        else do return Datum.between "[" "]" (← items.toList.mapM inside)
      | some (.dict entries) =>
        if around.contains address then .ok "\x7b...\x7d"
        else do
          let shown ← entries.mapM fun (key, value) => do
            return (← inside key) ++ ": " ++ (← inside value)
          return Datum.between "\x7b" "\x7d" shown
      | some (.set []) => .ok "set()"
      | some (.set [item]) => do return Datum.between "\x7b" "\x7d" [← inside item]
      | some (.set _) => .error Failure.unknown
      | some (.record fields) =>
        if around.contains address then .ok "namespace(...)"
        else do
          let shown ← fields.mapM fun (name, value) => do return name ++ "=" ++ (← inside value)
          return Datum.between "namespace(" ")" shown
      | some (.function _) => .error Failure.unknown
      | some (.classOf name ..) => .ok ("<class '" ++ name ++ "'>")
      | some (.instanceOf cls arguments _) =>
        if world.isExceptionClass cls then do
          return Datum.between (typeName.className world cls ++ "(") ")" (← arguments.mapM inside)
        else .error Failure.unknown
      | none => .error Failure.unknown

/-- The source form of a value. -/
def source (world : World) (value : Value) : Except Failure String :=
  world.sourceIn [] maxShown value

/-- A coordinate of a point as it is written in a document: of lists the items as words, of whole floats the
integer. -/
def coordinateIn (world : World) (plain : Value → Except Failure String) :
    Nat → Value → Except Failure String
  | 0, _ => .error Failure.unknown
  | depth + 1, value =>
    match value with
    | .null => .ok ""
    | .bool value => .ok (if value then "true" else "false")
    | .float value => .ok (if isWhole value then intText (truncate value) else floatText value)
    | .tuple items => do
      return " ".intercalate (← items.mapM (coordinateIn world plain depth))
    | .ref address =>
      match world.object? address with
      | some (.list items) => do
        return " ".intercalate (← items.toList.mapM (coordinateIn world plain depth))
      | _ => plain value
    | other => plain other

/-- The plain form of a value. An exception is shown by what it was made from. -/
def plainIn (world : World) : Nat → Value → Except Failure String
  | 0, _ => .error Failure.unknown
  | depth + 1, value =>
    match value with
    | .text value => .ok value
    | .point x y => do
      let coordinate := coordinateIn world (plainIn world depth) depth
      return (← coordinate x) ++ " " ++ (← coordinate y)
    | .foreign datum => .ok datum.plain
    | .ref address =>
      match world.object? address with
      | some (.instanceOf cls arguments _) =>
        if world.isExceptionClass cls then
          match arguments with
          | [] => .ok ""
          | [argument] =>
            if kindBelongsTo kindSteps (world.rootKind maxClasses cls) "KeyError" then
              world.source argument
            else plainIn world depth argument
          | arguments => world.source (.tuple arguments)
        else world.source value
      | _ => world.source value
    | other => world.source other

/-- The plain form of a value. -/
def plain (world : World) (value : Value) : Except Failure String :=
  world.plainIn maxShown value

end World

end Linework.Script
