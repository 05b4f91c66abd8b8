import Linework.Token.Linked

/-!
# Edits that look before nothing

The edits of linked sequences as they are made where a cell is taken for granted: every link that is
followed or changed leads to a cell, or the edit slips. Where an edit asks first whether there is a
cell, so does it here.
-/

namespace Linework

/-- What can happen where something is taken for granted. -/
inductive Slip where
  /-- There is no cell where one is looked at. -/
  | noCell
  /-- Cells fuse without end. -/
  | endless
  /-- The head of a loop has these scripts, which are not three. -/
  | notThree (scripts : List String)
  /-- A text is not the marker that it is taken for. -/
  | unmarked (text : String)

namespace Strict

/-- The cell at a position. -/
def cellAt (memory : Memory) (position : Option Nat) : Except Slip Cell :=
  match memory.cellAt? position with
  | some cell => return cell
  | none => throw .noCell

/-- The token at a position. -/
def tokenAt (memory : Memory) (position : Option Nat) : Except Slip Token := do
  let cell ← cellAt memory position
  return cell.token

/-- Change the cell at a position. -/
def changeAt (memory : Memory) (position : Option Nat) (change : Cell → Cell) : Except Slip Memory := do
  let _ ← cellAt memory position
  return memory.updateAt position change

/-- Change the cell at a position that was found not to be the end. -/
def changeUnlessEnd (memory : Memory) (position : Option Nat) (change : Cell → Cell) :
    Except Slip Memory :=
  if position.isNone then return memory else changeAt memory position change

/-- Take the cell at the position out of the sequence; the position moves to the next cell. The second
component tells whether the cell stood between two others. -/
def unlink (spot : Spot) : Except Slip (Spot × Bool) :=
  match spot.position with
  | none => return (spot, false)
  | some address => do
    let cell ← cellAt spot.memory (some address)
    match cell.previous, cell.next with
    | none, next =>
      if spot.ends.tail = some address then return (⟨spot.memory, ⟨next, none⟩, next⟩, false)
      else
        let memory ← changeAt spot.memory next ({ · with previous := none })
        return (⟨memory, { spot.ends with head := next }, next⟩, false)
    | some previous, none =>
      let memory ← changeAt spot.memory (some previous) ({ · with next := none })
      return (⟨memory, { spot.ends with tail := some previous }, none⟩, false)
    | some previous, some next =>
      let memory ← changeAt spot.memory (some previous) ({ · with next := some next })
      let memory ← changeAt memory (some next) ({ · with previous := some previous })
      return (⟨memory, spot.ends, some next⟩, true)

/-- The address before the position and the token that the two become, if they fuse. -/
def fusion (spot : Spot) : Except Slip (Option (Nat × Token)) :=
  match spot.position with
  | none => return none
  | some here => do
    let cell ← cellAt spot.memory (some here)
    match cell.previous with
    | none => return none
    | some address =>
      let previous ← cellAt spot.memory (some address)
      return (fuse? previous.token cell.token).map (address, ·)

/-- Fuse the cell at the position into the one before it for as long as the two fuse, which must not
take more rounds than given. -/
def settle : Nat → Spot → Except Slip Spot
  | 0, _ => throw .endless
  | rounds + 1, spot => do
    match ← fusion spot with
    | none => return spot
    | some (address, fused) =>
      let memory ← changeAt spot.memory (some address) ({ · with token := fused })
      match ← unlink { spot with memory := memory } with
      | (spot, true) => settle rounds spot
      | (spot, false) => return spot

/-- Settle with as many rounds as there are cells, and one more. -/
def settled (spot : Spot) : Except Slip Spot :=
  settle (spot.memory.fresh + 1) spot

/-- Remove the cell at the position. -/
def remove (spot : Spot) : Except Slip Spot := do
  match ← unlink spot with
  | (spot, true) => settled spot
  | (spot, false) => return spot

/-- Replace the cell at the position by the cells of another sequence, and settle both seams. -/
def replaceWith (spot : Spot) (other : Ends) : Except Slip Spot :=
  match spot.position, other.head with
  | none, _ => return spot
  | some _, none => remove spot
  | some address, some first => do
    let cell ← cellAt spot.memory (some address)
    let memory ← changeAt spot.memory (some address) ({ · with next := some first })
    let memory ← changeAt memory (some first) ({ · with previous := some address })
    let memory ← changeAt memory other.tail ({ · with next := cell.next })
    match cell.next with
    | none => remove ⟨memory, { spot.ends with tail := other.tail }, some address⟩
    | some next =>
      let memory ← changeAt memory (some next) ({ · with previous := other.tail })
      let seam ← settled ⟨memory, spot.ends, some next⟩
      remove { seam with position := some address }

/-- Remove the cells from the position up to and with the one at `last`, or all that follow when `last`
is at the end. -/
def eraseTo (spot : Spot) (last : Option Nat) : Except Slip Spot :=
  match spot.position with
  | none => return spot
  | some address => do
    let first ← cellAt spot.memory (some address)
    let final ← cellAt spot.memory (last.or spot.ends.tail)
    let before := first.previous
    let after := final.next
    let memory ← changeUnlessEnd spot.memory before ({ · with next := after })
    let memory ← changeUnlessEnd memory after ({ · with previous := before })
    let ends : Ends :=
      ⟨if before.isNone then after else spot.ends.head,
        if after.isNone then before else spot.ends.tail⟩
    if before.isSome && after.isSome then settled ⟨memory, ends, after⟩
    else return ⟨memory, ends, after⟩

/-- Change the text of the token at the position. -/
def setText (spot : Spot) (text : String) : Except Slip Spot := do
  let memory ← changeAt spot.memory spot.position fun cell =>
    { cell with token := ⟨cell.token.kind, text⟩ }
  return { spot with memory := memory }

end Strict

end Linework
