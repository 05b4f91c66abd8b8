import Linework.Token.Store

/-!
# Linked sequences

The same sequences as a chain of cells, each of which knows the cell before it and the cell after it.
Positions are addresses of cells, and an edit changes the links of the cells around its position and
nothing else. A cell that is taken out of a sequence keeps what it holds: an address may outlive its
place in the sequence.
-/

namespace Linework

/-- A token and the addresses of the cells before and after it. -/
structure Cell where
  token : Token
  previous : Option Nat := none
  next : Option Nat := none

/-- The cells, by their addresses. -/
structure Memory where
  cell? : Nat → Option Cell := fun _ => none
  /-- The next address to give. -/
  fresh : Nat := 0

namespace Memory

/-- Change the cell at an address. -/
def update (memory : Memory) (address : Nat) (change : Cell → Cell) : Memory :=
  { memory with
    cell? := fun other =>
      if other = address then (memory.cell? address).map change else memory.cell? other }

/-- Change the cell before which, or after which, something stands, if there is one. -/
def updateAt (memory : Memory) (position : Option Nat) (change : Cell → Cell) : Memory :=
  match position with
  | some address => memory.update address change
  | none => memory

/-- A new cell, and its address. -/
def allocate (memory : Memory) (cell : Cell) : Memory × Nat :=
  ({ cell? := fun other => if other = memory.fresh then some cell else memory.cell? other
     fresh := memory.fresh + 1 }, memory.fresh)

/-- The cell at a position; none at the end. -/
def cellAt? (memory : Memory) (position : Option Nat) : Option Cell :=
  position.bind memory.cell?

/-- The token at a position; none at the end. -/
def tokenAt? (memory : Memory) (position : Option Nat) : Option Token :=
  (memory.cellAt? position).map (·.token)

/-- The next position; the end stays the end. -/
def next (memory : Memory) (position : Option Nat) : Option Nat :=
  (memory.cellAt? position).bind (·.next)

/-- The nodes that following the links from a position meets, `count` of them at most. -/
def follow (memory : Memory) : Nat → Option Nat → List Node
  | 0, _ => []
  | _ + 1, none => []
  | count + 1, some address =>
    match memory.cell? address with
    | some cell => ⟨address, cell.token⟩ :: memory.follow count cell.next
    | none => []

/-- The nodes from a position on. There are no more of them than cells. -/
def nodesFrom (memory : Memory) (position : Option Nat) : List Node :=
  memory.follow memory.fresh position

end Memory

/-- Where a sequence of cells begins and where it ends. -/
structure Ends where
  head : Option Nat := none
  tail : Option Nat := none

/-- A sequence of cells and a position in it. -/
structure Spot where
  memory : Memory
  ends : Ends
  position : Option Nat

namespace Memory

/-- Add a token at the end of a sequence. -/
def append (memory : Memory) (ends : Ends) (token : Token) : Memory × Ends :=
  match ends.tail, memory.cellAt? ends.tail with
  | some tail, some last =>
    match fuse? last.token token with
    | some fused => (memory.update tail ({ · with token := fused }), ends)
    | none =>
      let (memory, address) := memory.allocate { token := token, previous := some tail }
      (memory.update tail ({ · with next := some address }), { ends with tail := some address })
  | _, _ =>
    let (memory, address) := memory.allocate { token := token }
    (memory, ⟨some address, some address⟩)

/-- A new sequence of the tokens, appended one after the other. -/
def build (memory : Memory) (tokens : List Token) : Memory × Ends :=
  tokens.foldl (fun (memory, ends) token => memory.append ends token) (memory, {})

end Memory

namespace Spot

/-- Take the cell at the position out of the sequence; the position moves to the next cell. The second
component tells whether the cell stood between two others. -/
def unlink (spot : Spot) : Spot × Bool :=
  match spot.position, spot.memory.cellAt? spot.position with
  | some address, some cell =>
    match cell.previous, cell.next with
    | none, next =>
      if spot.ends.tail = some address then (⟨spot.memory, ⟨next, none⟩, next⟩, false)
      else
        (⟨spot.memory.updateAt next ({ · with previous := none }), { spot.ends with head := next },
          next⟩, false)
    | some previous, none =>
      (⟨spot.memory.update previous ({ · with next := none }),
        { spot.ends with tail := some previous }, none⟩, false)
    | some previous, some next =>
      (⟨(spot.memory.update previous ({ · with next := some next })).update next
        ({ · with previous := some previous }), spot.ends, some next⟩, true)
  | _, _ => (spot, false)

/-- The address before the position and the token that the two become, if they fuse. -/
def fusion? (spot : Spot) : Option (Nat × Token) := do
  let cell ← spot.memory.cellAt? spot.position
  let address ← cell.previous
  let previous ← spot.memory.cell? address
  let fused ← fuse? previous.token cell.token
  return (address, fused)

/-- Fuse the cell at the position into the one before it for as long as the two fuse. Each round takes
a cell out of the sequence, so that `rounds` need not exceed the number of cells. -/
def settle : Nat → Spot → Spot
  | 0, spot => spot
  | rounds + 1, spot =>
    match spot.fusion? with
    | none => spot
    | some (address, fused) =>
      let memory := spot.memory.update address ({ · with token := fused })
      match unlink { spot with memory := memory } with
      | (spot, true) => settle rounds spot
      | (spot, false) => spot

/-- Settle with as many rounds as can be needed. -/
def settled (spot : Spot) : Spot :=
  spot.settle (spot.memory.fresh + 1)

/-- Remove the cell at the position. Where this leaves two cells that fuse beside each other, the later
is folded into the earlier, and the position moves past it. -/
def remove (spot : Spot) : Spot :=
  match spot.unlink with
  | (spot, true) => spot.settled
  | (spot, false) => spot

/-- Replace the cell at the position by the cells of another sequence, and settle both seams. -/
def replaceWith (spot : Spot) (other : Ends) : Spot :=
  match spot.position, spot.memory.cellAt? spot.position, other.head with
  | some address, some cell, some _ =>
    let following := cell.next
    let memory := spot.memory.update address ({ · with next := other.head })
    let memory := memory.updateAt other.head ({ · with previous := some address })
    let memory := memory.updateAt other.tail ({ · with next := following })
    match following with
    | none => remove ⟨memory, { spot.ends with tail := other.tail }, some address⟩
    | some _ =>
      let memory := memory.updateAt following ({ · with previous := other.tail })
      let seam := settled ⟨memory, spot.ends, following⟩
      remove { seam with position := some address }
  | some _, some _, none => spot.remove
  | _, _, _ => spot

/-- Remove the cells from the position up to and with the one at `last`, or all that follow when `last`
is at the end. -/
def eraseTo (spot : Spot) (last : Option Nat) : Spot :=
  match spot.memory.cellAt? spot.position with
  | none => spot
  | some cell =>
    let before := cell.previous
    let after := spot.memory.next (last.or spot.ends.tail)
    let memory := spot.memory.updateAt before ({ · with next := after })
    let memory := memory.updateAt after ({ · with previous := before })
    let ends : Ends :=
      ⟨if before.isNone then after else spot.ends.head,
        if after.isNone then before else spot.ends.tail⟩
    if before.isSome && after.isSome then settled ⟨memory, ends, after⟩
    else ⟨memory, ends, after⟩

/-- Change the text of the token at the position. -/
def setText (spot : Spot) (text : String) : Spot :=
  { spot with
    memory := spot.memory.updateAt spot.position fun cell =>
      { cell with token := ⟨cell.token.kind, text⟩ } }

end Spot

end Linework
