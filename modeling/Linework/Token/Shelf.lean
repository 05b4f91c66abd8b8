import Linework.Token.Linked

/-!
# Linked sequences that share their cells

A `Shelf` holds any number of linked sequences over one memory. It offers what a `Store` offers, but every
operation only changes links: removing unlinks a cell, replacing links the cells of another sequence in.
A `Workbench` is either of the two with numbered cursors, and an `Operation` is one thing that can be done
at it.
-/

namespace Linework

/-- Linked sequences over one memory. -/
structure Shelf where
  memory : Memory := {}
  /-- Where the sequences begin and end, by their numbers. -/
  sequences : List Ends := []

namespace Shelf

/-- Where a sequence begins and ends. -/
def ends (shelf : Shelf) (sequence : SequenceId) : Ends :=
  shelf.sequences.getD sequence {}

/-- The nodes that are met from the head of a sequence on. -/
def nodes (shelf : Shelf) (sequence : SequenceId) : List Node :=
  shelf.memory.nodesFrom (shelf.ends sequence).head

/-- Let a sequence begin and end elsewhere. -/
def put (shelf : Shelf) (sequence : SequenceId) (ends : Ends) : Shelf :=
  { shelf with sequences := shelf.sequences.set sequence ends }

/-! ### What a sequence tells of itself -/

/-- The first token. -/
def head? (shelf : Shelf) (sequence : SequenceId) : Option Token :=
  shelf.memory.tokenAt? (shelf.ends sequence).head

/-- The last token. -/
def tail? (shelf : Shelf) (sequence : SequenceId) : Option Token :=
  shelf.memory.tokenAt? (shelf.ends sequence).tail

/-- How many cells are met from the head on. -/
def size (shelf : Shelf) (sequence : SequenceId) : Nat :=
  (shelf.nodes sequence).length

/-- Whether there is no head. -/
def isEmpty (shelf : Shelf) (sequence : SequenceId) : Bool :=
  (shelf.ends sequence).head.isNone

/-! ### Operations on sequences -/

/-- A new sequence of the tokens, appended one after the other. -/
def make (shelf : Shelf) (tokens : List Token) : Shelf × SequenceId :=
  let (memory, ends) := shelf.memory.build tokens
  (⟨memory, shelf.sequences ++ [ends]⟩, shelf.sequences.length)

/-- Add a token at the end. An address is used up also where the token is fused into the last cell. -/
def append (shelf : Shelf) (sequence : SequenceId) (token : Token) : Shelf :=
  let (memory, ends) := shelf.memory.append (shelf.ends sequence) token
  ⟨{ memory with fresh := shelf.memory.fresh + 1 }, shelf.sequences.set sequence ends⟩

/-- Drop the last cell if its token has the given kind. -/
def trimEnd (shelf : Shelf) (sequence : SequenceId) (kind : Kind) : Shelf :=
  let ends := shelf.ends sequence
  match shelf.memory.cellAt? ends.tail with
  | none => shelf
  | some last =>
    if last.token.kind = kind then
      match last.previous with
      | none => shelf.put sequence {}
      | some previous =>
        put { shelf with memory := shelf.memory.update previous ({ · with next := none }) } sequence
          { ends with tail := some previous }
    else shelf

/-- Forget where the sequence begins and ends. -/
def clear (shelf : Shelf) (sequence : SequenceId) : Shelf :=
  shelf.put sequence {}

/-- A cursor at the head. -/
def start (shelf : Shelf) (sequence : SequenceId) : Cursor :=
  ⟨sequence, (shelf.ends sequence).head⟩

/-- The nodes from a cursor on, up to and with the one at `last`, or to the end when `last` is at the end
or not met. -/
def range (shelf : Shelf) (first last : Cursor) : List Node :=
  let nodes := shelf.memory.nodesFrom first.node?
  let inner := nodes.takeWhile fun node => some node.id != last.node?
  nodes.take (inner.length + 1)

/-! ### Operations at a cursor -/

/-- The next cursor; at the end it stays. -/
def advance (shelf : Shelf) (cursor : Cursor) : Cursor :=
  ⟨cursor.sequence, shelf.memory.next cursor.node?⟩

/-- The cells around a cursor. -/
def spot (shelf : Shelf) (cursor : Cursor) : Spot :=
  ⟨shelf.memory, shelf.ends cursor.sequence, cursor.node?⟩

/-- Whether the cursor's node is in its sequence; the end always is. -/
def holds (shelf : Shelf) (cursor : Cursor) : Bool :=
  match cursor.node? with
  | none => true
  | some id => (shelf.nodes cursor.sequence).any (·.id == id)

/-- Whether `last` is at a node that is met from the cursor on, or at the end. -/
def reaches (shelf : Shelf) (cursor last : Cursor) : Bool :=
  match last.node? with
  | none => true
  | some id => (shelf.memory.nodesFrom cursor.node?).any (·.id == id)

/-- Edit the cells around a cursor, and move the cursor to where the edit leaves the position. -/
def edit (shelf : Shelf) (cursor : Cursor) (change : Spot → Spot) : Shelf × Cursor :=
  let spot := change (shelf.spot cursor)
  (⟨spot.memory, shelf.sequences.set cursor.sequence spot.ends⟩, ⟨cursor.sequence, spot.position⟩)

/-- Change the text of the token at a cursor. -/
def setText (shelf : Shelf) (cursor : Cursor) (text : String) : Shelf :=
  (shelf.edit cursor (Spot.setText · text)).1

/-- Remove the cell at a cursor. -/
def remove (shelf : Shelf) (cursor : Cursor) : Shelf × Cursor :=
  shelf.edit cursor Spot.remove

/-- Replace the cell at a cursor by the cells of another sequence, which is emptied. At the end nothing
changes. -/
def replaceWith (shelf : Shelf) (cursor : Cursor) (other : SequenceId) : Shelf × Cursor :=
  if cursor.node?.isNone then (shelf, cursor)
  else
    let (shelf', cursor') := shelf.edit cursor (Spot.replaceWith · (shelf.ends other))
    (shelf'.clear other, cursor')

/-- Remove the cells from a cursor up to and with the one at `last`. -/
def eraseTo (shelf : Shelf) (cursor last : Cursor) : Shelf × Cursor :=
  shelf.edit cursor (Spot.eraseTo · last.node?)

end Shelf

/-! ## Workbenches -/

/-- What keeps token sequences that are edited in place. -/
class Keeper (S : Type) where
  make : S → List Token → S × SequenceId
  append : S → SequenceId → Token → S
  trimEnd : S → SequenceId → Kind → S
  clear : S → SequenceId → S
  start : S → SequenceId → Cursor
  range : S → Cursor → Cursor → List Node
  advance : S → Cursor → Cursor
  setText : S → Cursor → String → S
  remove : S → Cursor → S × Cursor
  replaceWith : S → Cursor → SequenceId → S × Cursor
  eraseTo : S → Cursor → Cursor → S × Cursor

instance : Keeper Store where
  make := Store.make
  append := Store.append
  trimEnd := Store.trimEnd
  clear := Store.clear
  start := Store.start
  range := Store.range
  advance := Store.advance
  setText := Store.setText
  remove := Store.remove
  replaceWith := Store.replaceWith
  eraseTo := Store.eraseTo

instance : Keeper Shelf where
  make := Shelf.make
  append := Shelf.append
  trimEnd := Shelf.trimEnd
  clear := Shelf.clear
  start := Shelf.start
  range := Shelf.range
  advance := Shelf.advance
  setText := Shelf.setText
  remove := Shelf.remove
  replaceWith := Shelf.replaceWith
  eraseTo := Shelf.eraseTo

/-- A cursor of a workbench, by its number. -/
abbrev CursorId := Nat

/-- What can be done with sequences and cursors. New ones are given the next number. -/
inductive Operation where
  | make (tokens : List Token)
  | append (sequence : SequenceId) (token : Token)
  | trimEnd (sequence : SequenceId) (kind : Kind)
  | clear (sequence : SequenceId)
  /-- Make a sequence of the tokens from a cursor on, or else from the start of a given sequence, up to
  and with the one at another cursor, or else to the end. -/
  | copy (sequence : SequenceId) (first? last? : Option CursorId)
  | start (sequence : SequenceId)
  | clone (cursor : CursorId)
  | advance (cursor : CursorId)
  | setText (cursor : CursorId) (text : String)
  | remove (cursor : CursorId)
  | replaceWith (cursor : CursorId) (other : SequenceId)
  | eraseTo (cursor last : CursorId)
deriving DecidableEq

/-- Sequences and the cursors that stand in them. -/
structure Workbench (S : Type) where
  keeper : S
  cursors : List Cursor := []

namespace Workbench

variable {S : Type}

/-- The cursor with a number. -/
def cursor (bench : Workbench S) (number : CursorId) : Cursor :=
  bench.cursors.getD number ⟨0, none⟩

/-- Edit at a cursor, and move it to where the edit leaves it. -/
def edit (bench : Workbench S) (number : CursorId) (change : S → Cursor → S × Cursor) : Workbench S :=
  let (keeper, cursor) := change bench.keeper (bench.cursor number)
  ⟨keeper, bench.cursors.set number cursor⟩

variable [Keeper S]

/-- One operation. -/
def perform (bench : Workbench S) : Operation → Workbench S
  | .make tokens => { bench with keeper := (Keeper.make bench.keeper tokens).1 }
  | .append sequence token => { bench with keeper := Keeper.append bench.keeper sequence token }
  | .trimEnd sequence kind => { bench with keeper := Keeper.trimEnd bench.keeper sequence kind }
  | .clear sequence => { bench with keeper := Keeper.clear bench.keeper sequence }
  | .copy sequence first? last? =>
    let first := (first?.map bench.cursor).getD (Keeper.start bench.keeper sequence)
    let last := (last?.map bench.cursor).getD ⟨sequence, none⟩
    let tokens := (Keeper.range bench.keeper first last).map (·.token)
    { bench with keeper := (Keeper.make bench.keeper tokens).1 }
  | .start sequence =>
    { bench with cursors := bench.cursors ++ [Keeper.start bench.keeper sequence] }
  | .clone number => { bench with cursors := bench.cursors ++ [bench.cursor number] }
  | .advance number => bench.edit number fun keeper cursor => (keeper, Keeper.advance keeper cursor)
  | .setText number text =>
    bench.edit number fun keeper cursor => (Keeper.setText keeper cursor text, cursor)
  | .remove number => bench.edit number Keeper.remove
  | .replaceWith number other => bench.edit number (Keeper.replaceWith · · other)
  | .eraseTo number last => bench.edit number (Keeper.eraseTo · · (bench.cursor last))

/-- The operations one after the other. -/
def run (bench : Workbench S) (operations : List Operation) : Workbench S :=
  operations.foldl perform bench

/-! ### What is asked of an operation -/

/-- Every cursor of the operation stands in its sequence, or at its end. Text is set at a node, a node is
replaced by a sequence other than its own, and nodes are erased up to one that is not before the cursor. -/
def allows (bench : Workbench Shelf) : Operation → Bool
  | .make _ | .append _ _ | .trimEnd _ _ | .clear _ | .start _ => true
  | .copy _ first? last? =>
    first?.all (fun number => bench.keeper.holds (bench.cursor number)) &&
      last?.all fun number => bench.keeper.holds (bench.cursor number)
  | .clone number | .advance number | .remove number => bench.keeper.holds (bench.cursor number)
  | .setText number _ =>
    bench.keeper.holds (bench.cursor number) && (bench.cursor number).node?.isSome
  | .replaceWith number other =>
    bench.keeper.holds (bench.cursor number) && other != (bench.cursor number).sequence
  | .eraseTo number last =>
    bench.keeper.holds (bench.cursor number) && bench.keeper.holds (bench.cursor last) &&
      bench.keeper.reaches (bench.cursor number) (bench.cursor last)

/-- Each of the operations is allowed when its turn comes. -/
def admits (bench : Workbench Shelf) : List Operation → Bool
  | [] => true
  | operation :: rest => bench.allows operation && (bench.perform operation).admits rest

/-- The sequence that an operation works on, or makes. -/
def target? (bench : Workbench Shelf) : Operation → Option SequenceId
  | .make _ | .copy _ _ _ => some bench.keeper.sequences.length
  | .append sequence _ | .trimEnd sequence _ | .clear sequence => some sequence
  | .start _ | .clone _ | .advance _ => none
  | .setText number _ | .remove number | .replaceWith number _ | .eraseTo number _ =>
    some (bench.cursor number).sequence

end Workbench

end Linework
