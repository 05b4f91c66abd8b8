import Linework.Token.Focus

/-!
# Sequences that are edited in place

A `Store` holds any number of token sequences. Every token in it has an identity, a `Node`, that stays
with it while the sequence around it changes; a `Cursor` names a sequence and a node in it, or the end.
Editing goes through the focus operations at the cursor's node, so the sequences stay fused, and where
two tokens fuse the earlier one keeps its identity.

Identities are numbered and never given twice: no node is in two sequences.
-/

namespace Linework

/-- A token with its identity. -/
structure Node where
  id : Nat
  token : Token
deriving DecidableEq

instance : Fusible Node where
  fuse? first second := (fuse? first.token second.token).map (⟨first.id, ·⟩)

/-- A sequence of a store, by its number. -/
abbrev SequenceId := Nat

/-- A position in a sequence of a store: at a node, or at the end. -/
structure Cursor where
  sequence : SequenceId
  node? : Option Nat
deriving DecidableEq

/-- Token sequences that are edited in place. -/
structure Store where
  /-- The sequences, by their numbers. -/
  sequences : List (List Node) := []
  /-- The next identity to give. -/
  fresh : Nat := 0

namespace Focus

/-- The position of an identity in a sequence; the end when no node has it. -/
def seek (node? : Option Nat) (nodes : List Node) : Focus Node :=
  let start := nodes.takeWhile fun node => some node.id != node?
  ⟨start.reverse, nodes.drop start.length⟩

/-- The identity at the position. -/
def node? (focus : Focus Node) : Option Nat :=
  focus.after.head?.map (·.id)

end Focus

namespace Store

/-- The nodes of a sequence. -/
def nodes (store : Store) (sequence : SequenceId) : List Node :=
  store.sequences.getD sequence []

/-- The tokens of a sequence. -/
def tokens (store : Store) (sequence : SequenceId) : List Token :=
  (store.nodes sequence).map (·.token)

/-- Give a sequence other nodes. -/
def put (store : Store) (sequence : SequenceId) (nodes : List Node) : Store :=
  { store with sequences := store.sequences.set sequence nodes }

/-- A new sequence of the tokens, appended one after the other. -/
def make (store : Store) (tokens : List Token) : Store × SequenceId :=
  let tokens := Token.fused tokens
  let nodes := tokens.zipIdx.map fun (token, index) => ⟨store.fresh + index, token⟩
  (⟨store.sequences ++ [nodes], store.fresh + tokens.length⟩, store.sequences.length)

/-- Add a token at the end. -/
def append (store : Store) (sequence : SequenceId) (token : Token) : Store :=
  let store' := store.put sequence (join (store.nodes sequence) [⟨store.fresh, token⟩])
  { store' with fresh := store.fresh + 1 }

/-- Drop the last token if it has the given kind. -/
def trimEnd (store : Store) (sequence : SequenceId) (kind : Kind) : Store :=
  let nodes := store.nodes sequence
  if nodes.getLast?.any (·.token.kind == kind) then store.put sequence nodes.dropLast else store

/-- Remove every token. -/
def clear (store : Store) (sequence : SequenceId) : Store :=
  store.put sequence []

/-- A cursor at the first token. -/
def start (store : Store) (sequence : SequenceId) : Cursor :=
  ⟨sequence, (store.nodes sequence).head?.map (·.id)⟩

/-- The sequence as seen from a cursor. -/
def focus (store : Store) (cursor : Cursor) : Focus Node :=
  Focus.seek cursor.node? (store.nodes cursor.sequence)

/-- The token at a cursor; none at the end. -/
def token? (store : Store) (cursor : Cursor) : Option Token :=
  (store.focus cursor).after.head?.map (·.token)

/-- Whether the cursor's node is in its sequence; the end always is. -/
def holds (store : Store) (cursor : Cursor) : Bool :=
  match cursor.node? with
  | none => true
  | some id => (store.nodes cursor.sequence).any (·.id == id)

/-- The next cursor; at the end it stays. -/
def advance (store : Store) (cursor : Cursor) : Cursor :=
  ⟨cursor.sequence, (store.focus cursor).advance.node?⟩

/-- The tokens from a cursor on, up to and with the one at `last`, or to the end when `last` is at the
end or not met. -/
def range (store : Store) (first last : Cursor) : List Node :=
  let nodes := (store.focus first).after
  let inner := nodes.takeWhile fun node => some node.id != last.node?
  nodes.take (inner.length + 1)

/-- Edit a sequence at a cursor, and move the cursor to where the edit leaves the position. -/
def edit (store : Store) (cursor : Cursor) (change : Focus Node → Focus Node) : Store × Cursor :=
  let focus := change (store.focus cursor)
  (store.put cursor.sequence focus.toList, ⟨cursor.sequence, focus.node?⟩)

/-- Change the text of the token at a cursor. -/
def setText (store : Store) (cursor : Cursor) (text : String) : Store :=
  (store.edit cursor (Focus.modify fun node => ⟨node.id, ⟨node.token.kind, text⟩⟩)).1

/-- Remove the token at a cursor. -/
def remove (store : Store) (cursor : Cursor) : Store × Cursor :=
  store.edit cursor Focus.remove

/-- Replace the token at a cursor by another sequence, which is emptied. At the end nothing changes. -/
def replaceWith (store : Store) (cursor : Cursor) (other : SequenceId) : Store × Cursor :=
  if (store.focus cursor).atEnd then (store, cursor)
  else
    let (store', cursor') := store.edit cursor (Focus.splice (store.nodes other))
    (store'.clear other, cursor')

/-- Remove the tokens from a cursor up to and with the one at `last`. -/
def eraseTo (store : Store) (cursor last : Cursor) : Store × Cursor :=
  store.edit cursor (Focus.erase (store.range cursor last).length)

end Store

end Linework
