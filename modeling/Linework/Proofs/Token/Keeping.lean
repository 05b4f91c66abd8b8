import Linework.Proofs.Token.Shelf

/-!
# What an edit leaves alone

An edit at a cursor edits the cursor's sequence, and a new sequence is none of those that are there. The
other sequences keep their nodes.
-/

namespace Linework

open Node

namespace Store

variable {store store' store'' : Store} {sequence : SequenceId}

/-- Nothing but one sequence has been edited; new ones may have been added. -/
structure Keeps (store store' : Store) (sequence : SequenceId) : Prop where
  count : store.sequences.length ≤ store'.sequences.length
  nodes : ∀ other < store.sequences.length, other ≠ sequence → store'.nodes other = store.nodes other

theorem Keeps.refl (store : Store) (sequence : SequenceId) : store.Keeps store sequence :=
  ⟨Nat.le_refl _, fun _ _ _ => rfl⟩

theorem Keeps.trans (earlier : store.Keeps store' sequence) (later : store'.Keeps store'' sequence) :
    store.Keeps store'' sequence := by
  constructor
  · exact earlier.count.trans later.count
  · intro other inside different
    rw [later.nodes other (inside.trans_le earlier.count) different, earlier.nodes other inside different]

theorem Keeps.tokens (keeps : store.Keeps store' sequence) {other : SequenceId}
    (inside : other < store.sequences.length) (different : other ≠ sequence) :
    store'.tokens other = store.tokens other := by
  rw [Store.tokens, Store.tokens, keeps.nodes other inside different]

theorem keeps_put (store : Store) (sequence : SequenceId) (nodes : List Node) :
    store.Keeps (store.put sequence nodes) sequence := by
  constructor
  · exact Nat.le_of_eq List.length_set.symm
  · intro other _ different
    exact store.nodes_put_of_ne different.symm nodes

theorem keeps_make (store : Store) (tokens : List Token) (sequence : SequenceId) :
    store.Keeps (store.make tokens).1 sequence := by
  constructor
  · simp [Store.make]
  · intro other inside _
    exact store.nodes_make tokens inside.ne'

theorem length_make (store : Store) (tokens : List Token) :
    (store.make tokens).1.sequences.length = store.sequences.length + 1 := by
  simp [Store.make]

/-- A new sequence has the tokens, fused. -/
theorem tokens_make (store : Store) (tokens : List Token) :
    (store.make tokens).1.tokens store.sequences.length = Token.fused tokens := by
  rw [Store.tokens, Store.nodes, Store.make, getD_append_singleton, if_pos rfl]
  exact tokens_numbered store.fresh (Token.fused tokens)

/-- An edit at a cursor edits the cursor's sequence. -/
theorem keeps_edit (store : Store) (cursor : Cursor) (change : Focus Node → Focus Node) :
    store.Keeps (store.edit cursor change).1 cursor.sequence :=
  store.keeps_put cursor.sequence _

/-- Linking a new sequence in edits the cursor's sequence, and the new one. -/
theorem keeps_replaceWith (store : Store) (tokens : List Token) (cursor : Cursor) :
    store.Keeps ((store.make tokens).1.replaceWith cursor store.sequences.length).1 cursor.sequence := by
  have made := store.keeps_make tokens cursor.sequence
  unfold Store.replaceWith
  split
  · exact made
  · have edited := made.trans ((store.make tokens).1.keeps_edit cursor
      (Focus.splice ((store.make tokens).1.nodes store.sequences.length)))
    constructor
    · exact edited.count.trans (Nat.le_of_eq List.length_set.symm)
    · intro other inside different
      exact (Store.nodes_put_of_ne _ inside.ne' []).trans (edited.nodes other inside different)

end Store

namespace Shelf

variable {shelf : Shelf}

theorem ends_set_self {sequence : SequenceId} (inside : sequence < shelf.sequences.length) (memory : Memory)
    (ends : Ends) :
    Shelf.ends ⟨memory, shelf.sequences.set sequence ends⟩ sequence = ends := by
  rw [Shelf.ends, getD_set, if_pos ⟨rfl, inside⟩]

theorem ends_make {sequence : SequenceId} (inside : sequence < shelf.sequences.length)
    (tokens : List Token) : (shelf.make tokens).1.ends sequence = shelf.ends sequence := by
  rw [Shelf.ends, Shelf.make, getD_append_singleton, if_neg inside.ne', Shelf.ends]

/-- Linking a new sequence in, by what it does to the cells. -/
theorem replaceWith_make (shelf : Shelf) (tokens : List Token) {cursor : Cursor}
    (inside : cursor.sequence < shelf.sequences.length) (present : cursor.node?.isNone = false) :
    let built := shelf.memory.build tokens
    let spot := Spot.replaceWith ⟨built.1, shelf.ends cursor.sequence, cursor.node?⟩ built.2
    let result := (shelf.make tokens).1.replaceWith cursor (shelf.make tokens).2
    result.1.memory = spot.memory ∧ result.1.ends cursor.sequence = spot.ends ∧
      result.2.node? = spot.position := by
  intro built spot result
  have new : (shelf.make tokens).1.ends (shelf.make tokens).2 = built.2 := by
    rw [Shelf.ends, Shelf.make, getD_append_singleton, if_pos rfl]
  have old : (shelf.make tokens).1.spot cursor =
      ⟨built.1, shelf.ends cursor.sequence, cursor.node?⟩ := by
    rw [Shelf.spot, ends_make inside]
    rfl
  have resultEq : result = (((shelf.make tokens).1.edit cursor (Spot.replaceWith · built.2)).1.clear
      (shelf.make tokens).2, ⟨cursor.sequence, spot.position⟩) := by
    simp only [result, Shelf.replaceWith, present, new, Shelf.edit, old]
    rfl
  rw [resultEq]
  have length : (shelf.make tokens).1.sequences.length = shelf.sequences.length + 1 := by
    simp [Shelf.make]
  refine ⟨?_, ?_, rfl⟩
  · simp only [Shelf.edit, old]
    rfl
  · have within : cursor.sequence < (shelf.make tokens).1.sequences.length :=
      length ▸ inside.trans (Nat.lt_succ_self _)
    simp only [Shelf.edit, old, Shelf.clear, Shelf.put, Shelf.ends]
    rw [getD_set, if_neg fun same => inside.ne' same.1, getD_set, if_pos ⟨rfl, within⟩]
    rfl

end Shelf

end Linework
