import Linework.Script.Operator
import Linework.Text.Part

/-!
# Going through values

Values that hold others are gone through one item at a time, since what they hold can change on the way.
Items are looked up, replaced and removed by their index, by a slice or by their key.
-/

namespace Linework.Script

/-- A range as a value of indices: the index of each place of a slice. -/
structure Places where
  start : Int
  stop : Int
  step : Int

namespace Places

/-- How many places there are. -/
def count (places : Places) : Nat :=
  Value.rangeLength places.start places.stop places.step

/-- The indices in their order. -/
def indices (places : Places) : List Nat :=
  (List.range places.count).map fun (k : Nat) => (places.start + places.step * k).toNat

end Places

/-- A bound of a slice: an integer, or nothing. -/
def sliceBound? (value : Value) : Except Failure (Option Int) :=
  match value, value.index? with
  | .null, _ => .ok none
  | _, some n => .ok (some n)
  | _, none => .error Failure.badSlice

/-- A bound brought into a sequence: negative ones count from the end. -/
def clampBound (length : Nat) (low high : Int) (bound : Int) : Int :=
  if bound < 0 then max (bound + length) low else min bound high

/-- The places of a slice in a sequence of a length. -/
def placesOf (length : Nat) (start stop step : Value) : Except Failure Places := do
  let step := (← sliceBound? step).getD 1
  if step == 0 then .error Failure.zeroStep
  else
    let start ← sliceBound? start
    let stop ← sliceBound? stop
    let low : Int := if step < 0 then -1 else 0
    let high : Int := if step < 0 then (length : Int) - 1 else length
    return {
      start := (start.map (clampBound length low high)).getD (if step < 0 then high else low)
      stop := (stop.map (clampBound length low high)).getD (if step < 0 then low else high)
      step := step }

/-- The items at the places of a slice. -/
def pickItems {α : Type} (items : List α) (places : Places) : List α :=
  if places.step == 1 then (items.drop places.start.toNat).take places.count
  else
    let items := items.toArray
    places.indices.filterMap fun index => items[index]?

/-- An index brought into a sequence, when it points to one of its items. -/
def indexIn? (length : Nat) (index : Int) : Option Nat :=
  let index := if index < 0 then index + length else index
  if 0 ≤ index && index < length then some index.toNat else none

namespace Run

/-- Whether a value counts as true. -/
def isTrue (value : Value) : Run Bool := do
  return (← get).isTruthy value

/-- A value as something to go through. -/
def sourceOf? (value : Value) : Run (Option Source) := do
  match value with
  | .tuple items => return some (.items items)
  | .text value => return some (.items (value.toList.map fun c => .text (String.singleton c)))
  | .range start stop step => return some (.rangeFrom start stop step)
  | .foreign (.tokens sequence) => return some (.items (sequence.map fun token => .foreign (.token token)))
  | .ref address =>
    match ← object? value with
    | some (.list _) => return some (.listFrom address 0)
    | some (.dict entries) => return some (.keysFrom address (entries.map (·.1)) 0)
    | some (.set items) =>
      -- The order of several items depends on more than the set.
      if items.length ≤ 1 then return some (.items items) else fail Failure.unknown
    | _ => return none
  | _ => return none

/-- A value as something to go through, which it must be. -/
def sourceOf (value : Value) : Run Source := do
  match ← sourceOf? value with
  | some source => return source
  | none => fail (Failure.notIterable (← typeName value))

/-- The next item of what is being gone through. -/
def next (source : Source) : Run (Option (Value × Source)) := do
  match source with
  | .items [] => return none
  | .items (item :: rest) => return some (item, .items rest)
  | .listFrom address index =>
    match (← get).object? address with
    | some (.list items) => return items[index]?.map fun item => (item, .listFrom address (index + 1))
    | _ => return none
  | .keysFrom address keys index =>
    let world ← get
    match world.object? address with
    | some (.dict entries) =>
      if entries.length ≠ keys.length then fail Failure.mapResized
      -- Which keys are left depends on more than the map when some are taken out and put back.
      else if (entries.zip keys).all fun (entry, key) => world.sameKey entry.1 key then
        return keys[index]?.map fun key => (key, .keysFrom address keys (index + 1))
      else fail Failure.unknown
    | _ => return none
  | .rangeFrom next stop step =>
    if (step > 0 && next < stop) || (step < 0 && stop < next) then
      return some (.int next, .rangeFrom (next + step) stop step)
    else return none

/-- All items that are left. -/
def rest (source : Source) : Run (List Value) := do
  match source with
  | .items items => return items
  | .listFrom address index =>
    match (← get).object? address with
    | some (.list items) => return items.toList.drop index
    | _ => return []
  | .keysFrom _ keys index => return keys.drop index
  | .rangeFrom next stop step =>
    let count := Value.rangeLength next stop step
    if count > maxItems then fail Failure.unknown
    else return (List.range count).map fun (k : Nat) => .int (next + step * k)

/-- The items of a value. -/
def itemsOf (value : Value) : Run (List Value) := do
  rest (← sourceOf value)

/-- How many items a value has. -/
def length (value : Value) : Run Nat := do
  match value with
  | .text value => return value.length
  | .tuple items => return items.length
  | .range start stop step => return Value.rangeLength start stop step
  | .foreign (.tokens sequence) => return sequence.length
  | _ =>
    match ← object? value with
    | some (.list items) => return items.size
    | some (.dict entries) => return entries.length
    | some (.set items) => return items.length
    | _ => fail (Failure.noLength (← typeName value))

/-- Whether one of some items is the same as or equal to a value. -/
def holds (items : List Value) (value : Value) : Run Bool := do
  let world ← get
  lift (items.anyM fun item => world.matching item value)

/-- Whether a value is held by another. -/
def isIn (value container : Value) : Run Bool := do
  match container with
  | .text text =>
    match value with
    | .text part => return Text.contains part.toList text.toList
    | _ => fail (Failure.notInText (← typeName value))
  | .range start stop step =>
    match value.index? with
    | some n =>
      let inside := if step > 0 then start ≤ n && n < stop else stop < n && n ≤ start
      return inside && (n - start) % step == 0
    | none => holds (← itemsOf container) value
  | _ =>
    match ← object? container with
    | some (.dict entries) =>
      lift ((← get).requireKey value)
      return ((← get).lookup? entries value).isSome
    | some (.set items) =>
      match ← object? value with
      -- A set is looked for without being a key itself, and the items of a set are no sets.
      | some (.set _) => return false
      | _ =>
        lift ((← get).requireKey value)
        return items.any ((← get).sameKey value)
    | _ =>
      match ← sourceOf? container with
      | some source => holds (← rest source) value
      | none => fail (Failure.notContainer (← typeName container))

/-! ### Items by index -/

/-- The place of an index in a sequence; an index that no machine word holds is refused first. -/
def placeOf (what : String) (length : Nat) (index : Int) : Run Nat := do
  if index < -Int.pow 2 63 || Int.pow 2 63 ≤ index then fail Failure.indexTooLarge
  else
    match indexIn? length index with
    | some place => return place
    | none => fail (Failure.outOfRange what)

/-- The item of a list of items at an index or at the places of a slice. -/
def pick (name : String) (items : List Value) (index : Value) (build : List Value → Run Value) :
    Run Value := do
  match index with
  | .slice start stop step =>
    build (pickItems items (← lift (placesOf items.length start stop step)))
  | _ =>
    match index.index? with
    | some n =>
      let place ← placeOf (name ++ " index") items.length n
      return items[place]?.getD .null
    | none => fail (Failure.badIndex name (← typeName index))

/-- The character of a text at an index, or those at the places of a slice. -/
def pickText (text : String) (index : Value) : Run Value := do
  let chars := text.toList
  match index with
  | .slice start stop step =>
    return .text (String.ofList (pickItems chars (← lift (placesOf chars.length start stop step))))
  | _ =>
    match index.index? with
    | some n =>
      let place ← placeOf "string index" chars.length n
      return .text (String.ofList (chars[place]?).toList)
    | none => fail (Failure.badTextIndex (← typeName index))

/-- The integer of a range at an index, or the range at the places of a slice. -/
def pickRange (start stop step : Int) (index : Value) : Run Value := do
  let size := Value.rangeLength start stop step
  match index with
  | .slice a b c =>
    let places ← lift (placesOf size a b c)
    return .range (start + step * places.start) (start + step * places.stop) (step * places.step)
  | _ =>
    match index.index? with
    | some n =>
      match indexIn? size n with
      | some k => return .int (start + step * k)
      | none => fail (Failure.outOfRange "range object index")
    | none => fail (Failure.badIndex "range" (← typeName index))

/-- The types that make another type of an index; this is beyond what is modelled. -/
def genericTypes : List String := ["dict", "enumerate", "list", "set", "tuple", "type"]

/-- The item of a value at an index or under a key. -/
def item (value index : Value) : Run Value := do
  match value with
  | .text text => pickText text index
  | .tuple items => pick "tuple" items index fun items => return .tuple items
  | .range start stop step => pickRange start stop step index
  | .type name =>
    fail (if genericTypes.contains name then Failure.unknown else Failure.typeNotSubscriptable name)
  | _ =>
    match ← object? value with
    | some (.list items) => pick "list" items.toList index list
    | some (.dict entries) =>
      lift ((← get).requireKey index)
      match (← get).lookup? entries index with
      | some value => return value
      | none => fail (Failure.missingKey index)
    | some (.classOf name ..) => fail (Failure.typeNotSubscriptable name)
    | _ => fail (Failure.notSubscriptable (← typeName value))

/-- Replace the items at the places of a slice. -/
def replacePlaces (items : List Value) (places : Places) (values : List Value) : Run (List Value) := do
  if places.step == 1 then
    let start := places.start.toNat
    let stop := max start places.stop.toNat
    return items.take start ++ values ++ items.drop stop
  else if values.length != places.count then
    fail (Failure.sliceLength values.length places.count)
  else
    let pairs := places.indices.zip values
    return (List.range items.length).zip items |>.map fun (index, old) => (pairs.lookup index).getD old

/-- Replace the item of a value at an index or under a key. -/
def putItem (value index new : Value) : Run Unit := do
  match value with
  | .ref address =>
    match ← object? value with
    | some (.list items) =>
      match index with
      | .slice start stop step =>
        let places ← lift (placesOf items.size start stop step)
        let values ←
          match ← sourceOf? new with
          | some source => rest source
          | none => fail Failure.sliceFromNothing
        let replaced ← replacePlaces items.toList places values
        putObject address (.list replaced.toArray)
      | _ =>
        match index.index? with
        | some n =>
          let place ← placeOf "list assignment index" items.size n
          putObject address (.list (items.setIfInBounds place new))
        | none => fail (Failure.badIndex "list" (← typeName index))
    | some (.dict entries) =>
      lift ((← get).requireKey index)
      putObject address (.dict ((← get).putEntry entries index new))
    | _ => fail (Failure.noItemAssignment (← typeName value))
  | _ => fail (Failure.noItemAssignment (← typeName value))

/-- Whether a value may have items by number as far as its type goes. -/
def isSequential (value : Value) : Run Bool := do
  match value with
  | .text _ | .tuple _ | .range .. | .point .. | .foreign _ => return true
  | _ =>
    match ← object? value with
    | some (.set _) | some (.instanceOf (.ref _) ..) => return true
    | _ => return false

/-- Refuse to remove an item of a value. -/
def refuseDeletion (value index : Value) : Run Unit := do
  fail (Failure.noItemDeletion (← typeName value) (index.index?.isSome && (← isSequential value)))

/-- Remove the item of a value at an index or under a key. -/
def deleteItem (value index : Value) : Run Unit := do
  match value with
  | .ref address =>
    match ← object? value with
    | some (.list items) =>
      match index with
      | .slice start stop step =>
        let indices := (← lift (placesOf items.size start stop step)).indices
        let kept := (List.range items.size).zip items.toList |>.filter fun (k, _) => !indices.contains k
        putObject address (.list (kept.map (·.2)).toArray)
      | _ =>
        match index.index? with
        | some n =>
          let place ← placeOf "list assignment index" items.size n
          putObject address (.list (items.toList.eraseIdx place).toArray)
        | none => fail (Failure.badIndex "list" (← typeName index))
    | some (.dict entries) =>
      lift ((← get).requireKey index)
      if ((← get).lookup? entries index).isSome then
        putObject address (.dict ((← get).eraseEntry entries index))
      else fail (Failure.missingKey index)
    | _ => refuseDeletion value index
  | _ => refuseDeletion value index

/-! ### Values for targets -/

/-- Take one more item than a number of targets needs, to see whether there are too many. -/
def takeUpTo : Nat → Source → Run (List Value)
  | 0, _ => return []
  | count + 1, source => do
    match ← next source with
    | some (item, source) => return item :: (← takeUpTo count source)
    | none => return []

/-- The values for a number of targets. -/
def unpack (count : Nat) (value : Value) : Run (List Value) := do
  match ← sourceOf? value with
  | none => fail (Failure.cannotUnpack (← typeName value))
  | some source =>
    let items ← takeUpTo (count + 1) source
    if items.length > count then fail (Failure.tooManyValues count)
    else if items.length < count then fail (Failure.tooFewValues count items.length)
    else return items

/-- The values for targets of which one takes all that are left: those before it, a list of those left,
and those after it. -/
def unpackStarred (before after : Nat) (value : Value) : Run (List Value) := do
  match ← sourceOf? value with
  | none => fail (Failure.cannotUnpack (← typeName value))
  | some source =>
    let items ← rest source
    if items.length < before + after then
      fail (Failure.tooFewValuesStarred (before + after) items.length)
    else
      let middle := items.length - before - after
      let taken ← list ((items.drop before).take middle)
      return items.take before ++ taken :: items.drop (before + middle)

end Run

end Linework.Script
