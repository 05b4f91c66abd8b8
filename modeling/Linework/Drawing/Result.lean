import Linework.Datum

/-!
# What commands draw
-/

namespace Linework

/-- The attributes of an element in the order in which they were set. -/
abbrev Attributes := Assoc Datum Datum

/-- A resolved drawing primitive: a tag and its attributes. -/
structure Element where
  tag : String
  attributes : Attributes

/-- What the handler of a command returns. -/
structure Result where
  command : String
  elements : List Element := []
  /-- The name under which scripts find the result's interface. -/
  name : Option String := none
  /-- What scripts see of the result, if anything. -/
  interface : Option Datum := none

namespace Element

/-- An element as a datum. -/
def toDatum (element : Element) : Datum :=
  .element element.tag element.attributes

end Element

namespace Result

/-- A result as a datum. -/
def toDatum (result : Result) : Datum :=
  .result result.command result.name (result.elements.map Element.toDatum)

end Result

end Linework
