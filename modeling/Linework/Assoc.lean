/-!
# Maps in insertion order

A map as the list of its entries. A key keeps the place where it was first put, also when its value
is replaced; a new key goes to the end.
-/

namespace Linework

/-- A map whose entries stand in the order in which their keys were first put. -/
abbrev Assoc (κ ν : Type) := List (κ × ν)

namespace Assoc

variable {κ ν : Type} [BEq κ]

/-- The value of a key. -/
def get? (map : Assoc κ ν) (key : κ) : Option ν :=
  match map with
  | [] => none
  | (k, v) :: rest => if k == key then some v else get? rest key

/-- Whether a key has a value. -/
def has (map : Assoc κ ν) (key : κ) : Bool :=
  (map.get? key).isSome

/-- Give a key a value. -/
def put (map : Assoc κ ν) (key : κ) (value : ν) : Assoc κ ν :=
  match map with
  | [] => [(key, value)]
  | (k, v) :: rest => if k == key then (k, value) :: rest else (k, v) :: put rest key value

/-- Forget a key. -/
def erase (map : Assoc κ ν) (key : κ) : Assoc κ ν :=
  map.filter fun entry => !(entry.1 == key)

/-- Put the entries of a second map one after the other. -/
def update (map other : Assoc κ ν) : Assoc κ ν :=
  other.foldl (fun map entry => map.put entry.1 entry.2) map

/-- The map of a list of entries; of two entries for one key the later value counts. -/
def ofPairs (pairs : List (κ × ν)) : Assoc κ ν :=
  update [] pairs

/-- The keys in their order. -/
def keys (map : Assoc κ ν) : List κ :=
  map.map (·.1)

end Assoc

end Linework
