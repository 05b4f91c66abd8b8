import Linework.Datum.Number
import Linework.Script.Show

/-!
# Comparing values

Equality, order and identity. Numbers are compared by value across their types; sequences item by item,
where an item counts as equal to itself even if it is no number.
-/

namespace Linework.Script

open Linework.Decimal

namespace Value

/-- A value that is a number. -/
def number? : Value → Option Number
  | .bool value => some (.int (if value then 1 else 0))
  | .int value => some (.int value)
  | .float value => some (.float value)
  | _ => none

/-- A value that counts as an integer. -/
def index? : Value → Option Int
  | .bool value => some (if value then 1 else 0)
  | .int value => some value
  | _ => none

/-- Whether two values are the same thing. -/
def same : Value → Value → Bool
  | .null, .null | .ellipsis, .ellipsis | .mathModule, .mathModule => true
  | .bool a, .bool b => a == b
  | .int a, .int b => a == b
  | .float a, .float b => a.toBits == b.toBits
  | .text a, .text b | .type a, .type b | .primitive a, .primitive b => a == b
  | .ref a, .ref b => a == b
  | .tuple as, .tuple bs => sameAll as bs
  | .point a b, .point c d => same a c && same b d
  | .range a b c, .range d e f => a == d && b == e && c == f
  | _, _ => false
where
  /-- Whether two sequences consist of the same things. -/
  sameAll : List Value → List Value → Bool
    | [], [] => true
    | a :: as, b :: bs => same a b && sameAll as bs
    | _, _ => false

/-- Whether two values are one and the same. This is not known of most values that cannot be told apart, as they
may have been made twice. -/
def isOne? : Value → Value → Option Bool
  | .int a, .int b => if a != b then some false else if -5 ≤ a && a ≤ 256 then some true else none
  | .float a, .float b => if a.toBits == b.toBits then none else some false
  | .text a, .text b => if a != b then some false else if a.isEmpty then some true else none
  | .tuple [], .tuple [] => some true
  | .tuple as, .tuple bs => if as.length != bs.length then some false else ofParts as bs
  | .point a b, .point c d => if isOne? a c == some false || isOne? b d == some false then some false else none
  | .range a b c, .range d e f => if a == d && b == e && c == f then none else some false
  | .slice .., .slice .. | .method .., .method .. | .bound .., .bound .. | .foreign _, .foreign _ => none
  | a, b => some (same a b)
where
  /-- Whether two values with such parts are one: they are not if a part is not. -/
  ofParts : List Value → List Value → Option Bool
    | a :: as, b :: bs => if isOne? a b == some false then some false else ofParts as bs
    | _, _ => none

/-- Whether a value is a float that is no number, or consists of such. -/
def isNoNumber : Value → Bool
  | .float x => x.isNaN
  | .tuple items => anyNoNumber items
  | .point x y => isNoNumber x || isNoNumber y
  | _ => false
where
  /-- Whether one of some values is no number. -/
  anyNoNumber : List Value → Bool
    | [] => false
    | item :: rest => isNoNumber item || anyNoNumber rest

/-- How many integers a range holds. -/
def rangeLength (start stop step : Int) : Nat :=
  if step > 0 then ((stop - start + step - 1) / step).toNat
  else if step < 0 then ((start - stop - step - 1) / (-step)).toNat
  else 0

end Value

namespace World

variable (world : World)

/-- Whether an item counts as equal to another: it does if it is the same, also where it is no number. -/
def matchBy (equal : Value → Value → Except Failure Bool) (a b : Value) : Except Failure Bool :=
  if !a.same b then equal a b
  else if a.isNoNumber then .error Failure.unknown
  else .ok true

/-- Whether two sequences agree item by item. -/
def agreeBy (equal : Value → Value → Except Failure Bool) :
    List Value → List Value → Except Failure Bool
  | [], [] => .ok true
  | a :: as, b :: bs => do
    if ← matchBy equal a b then agreeBy equal as bs else return false
  | _, _ => .ok false

/-- Whether each entry of a map has an equal one in another map. -/
def entriesAgree (equal : Value → Value → Except Failure Bool) (entries : List (Value × Value)) :
    List (Value × Value) → Except Failure Bool
  | [] => .ok true
  | (key, value) :: rest => do
    match ← entries.findM? fun (other, _) => matchBy equal key other with
    | some (_, other) =>
      if ← agreeBy equal [value] [other] then entriesAgree equal entries rest else return false
    | none => return false

/-- Whether two values are equal, when they hold each other at most `depth` times. -/
def equalIn : Nat → Value → Value → Except Failure Bool
  | 0, _, _ => .error Failure.tooDeepComparison
  | depth + 1, first, second =>
    match first.number?, second.number? with
    | some a, some b => .ok (a.order? b == some .eq)
    | _, _ =>
      match first, second with
      | .tuple as, .tuple bs => agreeBy (equalIn depth) as bs
      | .point a b, .point c d => agreeBy (equalIn depth) [a, b] [c, d]
      | .range a b c, .range d e f =>
        let size := Value.rangeLength a b c
        .ok (size == Value.rangeLength d e f && (size == 0 || (a == d && (size == 1 || c == f))))
      | .ref a, .ref b =>
        if a == b then .ok true
        else
          match world.object? a, world.object? b with
          | some (.list as), some (.list bs) => agreeBy (equalIn depth) as.toList bs.toList
          | some (.dict as), some (.dict bs) =>
            if as.length == bs.length then entriesAgree (equalIn depth) bs as else .ok false
          | some (.set as), some (.set bs) =>
            if as.length == bs.length then
              as.allM fun a => bs.anyM (matchBy (equalIn depth) a)
            else .ok false
          | some (.record as), some (.record bs) =>
            if as.length == bs.length then
              entriesAgree (equalIn depth) (bs.map fun (name, value) => (.text name, value))
                (as.map fun (name, value) => (.text name, value))
            else .ok false
          | _, _ => .ok false
      | .method a name, .method b other =>
        if name != other then .ok false
        else
          match a.isOne? b with
          | some isOne => .ok isOne
          | none => .error Failure.unknown
      | .bound a function, .bound b other => .ok (a.same b && function == other)
      | .foreign _, .foreign _ => .error Failure.unknown
      | a, b => .ok (a.same b)

/-- How deep values may not hold each other to be compared. -/
def maxCompared : Nat := 1000

/-- Compare values, to a depth that there is certainly room for on the stack. Where they go deeper, all that is
certain is that there is no room for the greatest depths. -/
def surely {α : Type} (compare : Nat → Except Failure α) : Except Failure α :=
  match compare maxShown with
  | .ok result => .ok result
  | .error failure =>
    if failure.kind != Failure.tooDeepComparison.kind then .error failure
    else
      match compare maxCompared with
      | .ok _ => .error Failure.unknown
      | .error deeper => .error (if deeper.kind == failure.kind then failure else Failure.unknown)

/-- Whether two values are equal. -/
def equal (first second : Value) : Except Failure Bool :=
  surely fun depth => world.equalIn depth first second

/-- Whether a value is the same as, or equal to, another. -/
def matching (first second : Value) : Except Failure Bool :=
  matchBy world.equal first second

/-- The symbol of a comparison. -/
def comparisonSymbol : Comparison → String
  | .eq => "=="
  | .ne => "!="
  | .lt => "<"
  | .le => "<="
  | .gt => ">"
  | .ge => ">="
  | .isSame => "is"
  | .isNotSame => "is not"
  | .isIn => "in"
  | .isNotIn => "not in"

/-- Whether an order is what a comparison asks for. -/
def admits : Comparison → Ordering → Bool
  | .lt, order => order == .lt
  | .le, order => order != .gt
  | .gt, order => order == .gt
  | .ge, order => order != .lt
  | _, _ => false

/-- Compare sequences by their first items that differ, or by their lengths. -/
def orderedItems (equal : Value → Value → Except Failure Bool)
    (ordered : Value → Value → Except Failure Bool) (comparison : Comparison) :
    List Value → List Value → Except Failure Bool
  | [], [] => .ok (admits comparison .eq)
  | [], _ :: _ => .ok (admits comparison .lt)
  | _ :: _, [] => .ok (admits comparison .gt)
  | a :: as, b :: bs => do
    if ← matchBy equal a b then orderedItems equal ordered comparison as bs else ordered a b

/-- Whether two values stand in an order, when they hold each other at most `depth` times. -/
def orderedIn (comparison : Comparison) : Nat → Value → Value → Except Failure Bool
  | 0, _, _ => .error Failure.tooDeepComparison
  | depth + 1, first, second =>
    let refuse : Except Failure Bool :=
      .error (Failure.notOrdered (comparisonSymbol comparison) (world.typeName first)
        (world.typeName second))
    let items (as bs : List Value) : Except Failure Bool :=
      orderedItems (world.equalIn depth) (orderedIn comparison depth) comparison as bs
    match first.number?, second.number? with
    | some a, some b =>
      match a.order? b with
      | some order => .ok (admits comparison order)
      | none => .ok false
    | _, _ =>
      match first, second with
      | .text a, .text b =>
        .ok (admits comparison (if a < b then .lt else if a == b then .eq else .gt))
      | .tuple as, .tuple bs => items as bs
      | .ref a, .ref b =>
        match world.object? a, world.object? b with
        | some (.list as), some (.list bs) => items as.toList bs.toList
        | some (.set _), some (.set _) => .error Failure.unknown
        | _, _ => refuse
      | _, _ => refuse

/-- Whether two values stand in an order. -/
def ordered (comparison : Comparison) (first second : Value) : Except Failure Bool :=
  surely fun depth => world.orderedIn comparison depth first second

/-- Whether a value counts as true. -/
def isTruthy : Value → Bool
  | .null => false
  | .bool value => value
  | .int value => value != 0
  | .float value => value != 0
  | .text value => !value.isEmpty
  | .tuple items => !items.isEmpty
  | .range start stop step => Value.rangeLength start stop step != 0
  | .foreign datum => datum.isTruthy
  | .ref address =>
    match world.object? address with
    | some (.list items) => !items.isEmpty
    | some (.dict entries) => !entries.isEmpty
    | some (.set items) => !items.isEmpty
    | _ => true
  | _ => true

/-- Refuse a value that cannot be a key. What is no number is not known to be found again. -/
def requireKeyIn : Nat → Value → Except Failure Unit
  | 0, _ => .error Failure.unknown
  | depth + 1, value =>
    let refuse : Except Failure Unit := .error (Failure.unhashable (world.typeName value))
    match value with
    | .tuple items => items.forM (requireKeyIn depth)
    | .point x y => [x, y].forM (requireKeyIn depth)
    | .slice .. => refuse
    | .float x => if x.isNaN then .error Failure.unknown else .ok ()
    | .foreign (.tokens _) => .ok ()
    | .foreign (.token _) => .ok ()
    | .foreign _ => refuse
    | .ref address =>
      match world.object? address with
      | some (.list _) | some (.dict _) | some (.set _) | some (.record _) => refuse
      | _ => .ok ()
    | _ => .ok ()

/-- Refuse a value that cannot be a key. -/
def requireKey (value : Value) : Except Failure Unit :=
  world.requireKeyIn maxShown value

/-- Whether two keys are one. -/
def sameKey (first second : Value) : Bool :=
  match world.matching first second with
  | .ok result => result
  | .error _ => false

/-- The value of a key. -/
def lookup? (entries : List (Value × Value)) (key : Value) : Option Value :=
  (entries.find? fun (other, _) => world.sameKey key other).map (·.2)

/-- Give a key a value; a key that is there keeps its place. -/
def putEntry (entries : List (Value × Value)) (key value : Value) : List (Value × Value) :=
  match entries with
  | [] => [(key, value)]
  | (other, old) :: rest =>
    if world.sameKey key other then (other, value) :: rest
    else (other, old) :: putEntry rest key value

/-- Remove a key. -/
def eraseEntry (entries : List (Value × Value)) (key : Value) : List (Value × Value) :=
  entries.filter fun (other, _) => !world.sameKey key other

/-- Add an item to a set. -/
def putItem (items : List Value) (item : Value) : List Value :=
  if items.any (world.sameKey item) then items else items ++ [item]

end World

end Linework.Script
