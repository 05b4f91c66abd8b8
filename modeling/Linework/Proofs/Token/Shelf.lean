import Linework.Proofs.Token.Seek
import Linework.Token.Shelf
import Mathlib.Data.List.GetD

/-!
# Sequences on a shelf

Sequences that share their cells do not come into each other's way. A shelf shows a store when each of its
sequences holds the nodes that the store has there, and no node is in two of them; the links of a sequence
then lead through its nodes in both directions. Each operation keeps it so. What it leaves alone is said by
the cells that it may change: those of the sequences it is given.
-/

namespace Linework

open Node

/-! ## Following links -/

namespace Memory

/-- Following a link from a position meets the nodes one after the other, and then the end. -/
inductive Leads (memory : Memory) (link : Cell → Option Nat) : Option Nat → List Node → Prop where
  | stop : memory.Leads link none []
  | step {id : Nat} {cell : Cell} {rest : List Node} (found : memory.cell? id = some cell)
      (further : memory.Leads link (link cell) rest) :
      memory.Leads link (some id) (⟨id, cell.token⟩ :: rest)

variable {memory : Memory} {before after : Option Nat} {nodes : List Node}

theorem Chain.leads_next (chain : memory.Chain before nodes none) :
    memory.Leads (·.next) (firstOr nodes none) nodes := by
  induction nodes generalizing before with
  | nil => exact .stop
  | cons node rest ih => exact .step chain.1 (ih chain.2)

theorem Chain.leads_previous (chain : memory.Chain none nodes after) :
    memory.Leads (·.previous) (lastOr nodes none) nodes.reverse := by
  induction nodes using List.reverseRecOn generalizing after with
  | nil => exact .stop
  | append_singleton earlier last ih =>
      obtain ⟨earlierChain, lastCell, _⟩ := chain_append.mp chain
      rw [lastOr_append_singleton, List.reverse_append]
      exact .step lastCell (ih earlierChain)

theorem fresh_append_le (memory : Memory) (ends : Ends) (token : Token) :
    (memory.append ends token).1.fresh ≤ memory.fresh + 1 := by
  unfold Memory.append
  split
  · split
    · exact Nat.le_succ _
    · exact Nat.le_refl _
  · exact Nat.le_refl _

theorem Holds.tokenAt?_head {ends : Ends} (holds : memory.Holds ends nodes) :
    memory.tokenAt? ends.head = nodes.head?.map (·.token) := by
  have whole : memory.Holds ends ([] ++ nodes) := holds
  rw [holds.head]
  exact whole.tokenAt?

theorem Holds.tokenAt?_tail {ends : Ends} (holds : memory.Holds ends nodes) :
    memory.tokenAt? ends.tail = nodes.getLast?.map (·.token) := by
  rcases List.eq_nil_or_concat nodes with rfl | ⟨earlier, last, rfl⟩
  · rw [holds.tail]
    rfl
  · rw [List.concat_eq_append] at holds ⊢
    rw [holds.tail, lastOr_append_singleton, List.getLast?_concat]
    exact holds.tokenAt?

/-- Addresses may be left out. -/
theorem Holds.skip {ends : Ends} {fresh : Nat} (holds : memory.Holds ends nodes)
    (later : memory.fresh ≤ fresh) : Holds { memory with fresh := fresh } ends nodes := by
  refine ⟨?_, holds.head, holds.tail, holds.nodup, fun id mem => ?_⟩
  · have chainKept : ∀ before (nodes : List Node), memory.Chain before nodes none →
        Chain { memory with fresh := fresh } before nodes none := by
      intro before nodes
      induction nodes generalizing before with
      | nil => exact fun _ => trivial
      | cons node rest ih => exact fun ⟨cell, chain⟩ => ⟨cell, ih _ chain⟩
    exact chainKept none nodes holds.chain
  · exact Nat.lt_of_lt_of_le (holds.allocated id mem) later

/-- The cell before the last one becomes the last one. -/
theorem Holds.dropLast {ends : Ends} {earlier : List Node} {previous last : Node}
    (holds : memory.Holds ends (earlier ++ [previous] ++ [last])) :
    (memory.update previous.id ({ · with next := none })).Holds { ends with tail := some previous.id }
      (earlier ++ [previous]) := by
  have head : ends.head = firstOr (earlier ++ [previous]) none := by
    rw [holds.head, firstOr_append (earlier ++ [previous])]
    exact firstOr_of_ne_nil (by simp) _ _
  have whole : memory.Holds ends (earlier ++ [previous] ++ [last] ++ []) := by simpa using holds
  have linked := whole.relink
  rw [List.append_nil, Memory.relink, endsOf, lastOr_append_singleton, ← head] at linked
  exact linked

end Memory

/-! ## Shelves and stores -/

theorem getD_set {α : Type} (items : List α) (position other : Nat) (item default : α) :
    (items.set position item).getD other default =
      if position = other ∧ position < items.length then item else items.getD other default := by
  rw [List.getD_eq_getElem?_getD, List.getElem?_set, List.getD_eq_getElem?_getD]
  by_cases same : position = other
  · by_cases inside : position < items.length
    · simp [same, same ▸ inside]
    · simp [same, same ▸ inside]
  · simp [same]

/-- Where the default is put, or would be, the default is found. -/
theorem getD_set_default {α : Type} (items : List α) (position : Nat) (default : α) :
    (items.set position default).getD position default = default := by
  rw [getD_set]
  split
  · rfl
  · rename_i beyond
    apply List.getD_eq_default
    exact Nat.le_of_not_lt fun inside => beyond ⟨rfl, inside⟩

theorem getD_append_singleton {α : Type} (items : List α) (other : Nat) (item default : α) :
    (items ++ [item]).getD other default =
      if items.length = other then item else items.getD other default := by
  by_cases inside : other < items.length
  · rw [List.getD_append _ _ _ _ inside, if_neg (Nat.ne_of_gt inside)]
  · have beyond := Nat.le_of_not_lt inside
    rw [List.getD_append_right _ _ _ _ beyond, List.getD_eq_default items default beyond]
    by_cases last : items.length = other
    · simp [last]
    · rw [if_neg last]
      apply List.getD_eq_default
      rw [List.length_singleton]
      omega

namespace Store

variable (store : Store)

theorem toList_focus (cursor : Cursor) : (store.focus cursor).toList = store.nodes cursor.sequence :=
  Focus.toList_seek _ _

theorem nodes_put_of_ne {sequence other : SequenceId} (different : sequence ≠ other)
    (nodes : List Node) : (store.put sequence nodes).nodes other = store.nodes other := by
  rw [Store.nodes, Store.put, getD_set, if_neg fun same => different same.1, Store.nodes]

theorem nodes_make {sequence : SequenceId} (tokens : List Token)
    (different : store.sequences.length ≠ sequence) :
    (store.make tokens).1.nodes sequence = store.nodes sequence := by
  rw [Store.nodes, Store.make, getD_append_singleton, if_neg different, Store.nodes]

theorem nodes_clear (sequence : SequenceId) : (store.clear sequence).nodes sequence = [] :=
  getD_set_default _ _ _

end Store

namespace Shelf

/-- The sequences of the shelf hold those of the store, which are fused and share no node. -/
structure Shows (shelf : Shelf) (store : Store) : Prop where
  fresh : shelf.memory.fresh = store.fresh
  count : shelf.sequences.length = store.sequences.length
  holds : ∀ sequence, shelf.memory.Holds (shelf.ends sequence) (store.nodes sequence)
  fused : ∀ sequence, IsFused (store.nodes sequence)
  apart : ∀ sequence other, sequence ≠ other →
    ∀ id ∈ ids (store.nodes sequence), id ∉ ids (store.nodes other)

variable {shelf : Shelf} {store : Store} {sequence : SequenceId} {cursor : Cursor}

theorem Shows.empty : Shows {} {} := by
  refine ⟨rfl, rfl, fun _ => Memory.holds_nil _, fun _ => isFused_nil, ?_⟩
  exact fun _ _ _ _ mem => absurd mem List.not_mem_nil

theorem Shows.nodes_eq (shows : shelf.Shows store) (sequence : SequenceId) :
    shelf.nodes sequence = store.nodes sequence :=
  (shows.holds sequence).nodesFrom_head

section Changes

variable {memory : Memory} {ends : Ends} {fresh : Nat} {nodes touched : List Node}

/-- A sequence is given other nodes, and cells of the other sequences stay as they are. -/
theorem Shows.change (shows : shelf.Shows store) (freshEq : memory.fresh = fresh)
    (holds : memory.Holds ends nodes) (fused : IsFused nodes)
    (kept : memory.Extends shelf.memory touched)
    (outside : ∀ other, sequence ≠ other → ∀ id ∈ ids (store.nodes other), id ∉ ids touched)
    (known : ∀ id ∈ ids nodes, id ∈ ids touched ∨ shelf.memory.fresh ≤ id) :
    Shows ⟨memory, shelf.sequences.set sequence ends⟩ ⟨store.sequences.set sequence nodes, fresh⟩ := by
  have foreign : ∀ other, sequence ≠ other →
      ∀ id ∈ ids nodes, id ∉ ids (store.nodes other) := by
    intro other different id mem otherMem
    rcases known id mem with old | new
    · exact outside other different id otherMem old
    · exact Nat.not_lt_of_le new ((shows.holds other).allocated id otherMem)
  constructor
  · exact freshEq
  · simp [shows.count]
  · intro other
    rw [Shelf.ends, Store.nodes, getD_set, getD_set, ← shows.count]
    split
    · exact holds
    · rename_i unchanged
      have otherHolds := shows.holds other
      by_cases same : sequence = other
      · -- there is no such sequence
        have none : store.nodes other = [] := by
          apply List.getD_eq_default
          rw [← shows.count, ← same]
          exact Nat.le_of_not_lt fun inside => unchanged ⟨same, inside⟩
        rw [none] at otherHolds
        change memory.Holds (shelf.ends other) (store.nodes other)
        rw [none]
        exact otherHolds.of_extends kept (by simp)
      · exact otherHolds.of_extends kept (outside other same)
  · intro other
    rw [Store.nodes, getD_set]
    split
    · exact fused
    · exact shows.fused other
  · intro one other different
    rw [Store.nodes, Store.nodes, getD_set, getD_set]
    split
    · rename_i here
      rw [if_neg fun there => different (here.1.symm.trans there.1)]
      exact foreign other (here.1 ▸ different)
    · split
      · rename_i there
        intro id oneMem mem
        exact foreign one (there.1 ▸ different.symm) id mem oneMem
      · exact shows.apart one other different

theorem Shows.clear (shows : shelf.Shows store) (sequence : SequenceId) :
    (shelf.clear sequence).Shows (store.clear sequence) := by
  refine shows.change shows.fresh (Memory.holds_nil _) isFused_nil
    (Memory.Within.refl shelf.memory (ids (store.nodes sequence))).extends ?_ ?_
  · exact fun other different => shows.apart other sequence different.symm
  · exact fun _ mem => absurd mem List.not_mem_nil

/-- A sequence takes over the nodes of another one, which is emptied. -/
theorem Shows.exchange (shows : shelf.Shows store) {other : SequenceId} (different : other ≠ sequence)
    (freshEq : memory.fresh = fresh) (holds : memory.Holds ends nodes) (fused : IsFused nodes)
    (within : memory.Within shelf.memory (ids (store.nodes sequence ++ store.nodes other)))
    (inside : ids nodes ⊆ ids (store.nodes sequence ++ store.nodes other)) :
    Shows ⟨memory, (shelf.sequences.set sequence ends).set other {}⟩
      ⟨(store.sequences.set sequence nodes).set other [], fresh⟩ := by
  rw [List.set_comm _ _ different.symm, List.set_comm _ _ different.symm]
  refine (shows.clear other).change freshEq holds fused within.extends ?_ fun _ mem => Or.inl (inside mem)
  intro third apart id mem touched
  by_cases emptied : other = third
  · rw [← emptied, store.nodes_clear] at mem
    exact List.not_mem_nil mem
  · rw [Store.clear, store.nodes_put_of_ne emptied] at mem
    rw [ids, List.map_append, List.mem_append] at touched
    rcases touched with inSequence | inOther
    · exact shows.apart third sequence apart.symm id mem inSequence
    · exact shows.apart third other (Ne.symm emptied) id mem inOther

/-- A new sequence of new nodes. -/
theorem Shows.add (shows : shelf.Shows store) (freshEq : memory.fresh = fresh)
    (holds : memory.Holds ends nodes) (fused : IsFused nodes)
    (kept : memory.Extends shelf.memory []) (new : ∀ id ∈ ids nodes, shelf.memory.fresh ≤ id) :
    Shows ⟨memory, shelf.sequences ++ [ends]⟩ ⟨store.sequences ++ [nodes], fresh⟩ := by
  have foreign : ∀ other, ∀ id ∈ ids nodes, id ∉ ids (store.nodes other) := by
    intro other id mem otherMem
    exact Nat.not_lt_of_le (new id mem) ((shows.holds other).allocated id otherMem)
  constructor
  · exact freshEq
  · simp [shows.count]
  · intro other
    rw [Shelf.ends, Store.nodes, getD_append_singleton, getD_append_singleton, ← shows.count]
    split
    · exact holds
    · exact (shows.holds other).of_extends kept (by simp)
  · intro other
    rw [Store.nodes, getD_append_singleton]
    split
    · exact fused
    · exact shows.fused other
  · intro one other different
    rw [Store.nodes, Store.nodes, getD_append_singleton, getD_append_singleton]
    split
    · rename_i here
      rw [if_neg (here ▸ different)]
      exact foreign other
    · split
      · intro id oneMem mem
        exact foreign one id mem oneMem
      · exact shows.apart one other different

end Changes

/-! ### Operations on sequences -/

theorem Shows.make (shows : shelf.Shows store) (tokens : List Token) :
    (shelf.make tokens).1.Shows (store.make tokens).1 := by
  obtain ⟨holds, kept, fresh⟩ := shelf.memory.holds_build tokens
  rw [shows.fresh] at holds fresh
  have fused : IsFused (numbered store.fresh (Token.fused tokens)) := by
    rw [← isFused_tokens, Node.tokens, tokens_numbered]
    exact Token.isFused_fused tokens
  refine shows.add fresh holds fused kept fun id mem => ?_
  rw [shows.fresh]
  exact le_of_mem_numbered mem

theorem Shows.append (shows : shelf.Shows store) (sequence : SequenceId) (token : Token) :
    (shelf.append sequence token).Shows (store.append sequence token) := by
  obtain ⟨holds, kept, _⟩ := (shows.holds sequence).append token
  have few := shelf.memory.fresh_append_le (shelf.ends sequence) token
  rw [shows.fresh] at holds few
  refine shows.change (congrArg (· + 1) shows.fresh) (holds.skip (shows.fresh ▸ few)) ?_ ⟨?_, kept.cell?_eq⟩ ?_ ?_
  · exact (shows.fused sequence).join (isFused_singleton _)
  · exact Nat.le_succ _
  · exact fun other different => shows.apart other sequence different.symm
  · intro id mem
    rcases List.mem_append.mp (ids_join_subset _ _ mem) with old | new
    · exact Or.inl old
    · have newest : id = store.fresh := by simpa using new
      exact Or.inr (Nat.le_of_eq (shows.fresh.trans newest.symm))

theorem Shows.trimEnd (shows : shelf.Shows store) (sequence : SequenceId) (kind : Kind) :
    (shelf.trimEnd sequence kind).Shows (store.trimEnd sequence kind) := by
  have holds := shows.holds sequence
  rw [Shelf.trimEnd, Store.trimEnd]
  rcases List.eq_nil_or_concat (store.nodes sequence) with nodesEq | ⟨earlier, last, nodesEq⟩
  · rw [nodesEq] at holds ⊢
    have tail : (shelf.ends sequence).tail = none := holds.tail
    simp only [tail]
    exact shows
  · rw [List.concat_eq_append] at nodesEq
    rw [nodesEq] at holds ⊢
    have tail : (shelf.ends sequence).tail = some last.id := by
      rw [holds.tail, lastOr_append_singleton]
    have cell : shelf.memory.cellAt? (some last.id) = some ⟨last.token, lastOr earlier none, none⟩ :=
      holds.chain.cell?
    simp only [tail, cell, List.getLast?_concat, Option.any_some, beq_iff_eq, List.dropLast_concat]
    split
    · rcases List.eq_nil_or_concat earlier with rfl | ⟨others, previous, rfl⟩
      · exact shows.clear sequence
      · simp only [List.concat_eq_append, lastOr_append_singleton] at nodesEq holds ⊢
        have fused := shows.fused sequence
        have apart := fun other different => shows.apart other sequence (Ne.symm different)
        rw [nodesEq] at fused apart
        have previousInside : previous.id ∈ ids (others ++ [previous] ++ [last]) := by simp
        refine shows.change shows.fresh holds.dropLast (isFused_append.mp fused).1
          (Memory.within_update previousInside _).extends apart fun id mem => Or.inl ?_
        rw [ids, List.map_append]
        exact List.mem_append_left _ mem
    · exact shows

/-! ### Operations at a cursor -/

/-- An operation has left the shelf showing the store, and the cursor at the same place in both. -/
def Agrees (result : Shelf × Cursor) (result' : Store × Cursor) : Prop :=
  result.1.Shows result'.1 ∧ result.2 = result'.2

theorem Shows.holds_iff (shows : shelf.Shows store) :
    shelf.holds cursor ↔ ∀ id ∈ cursor.node?, id ∈ ids (store.nodes cursor.sequence) := by
  rw [Shelf.holds, shows.nodes_eq]
  cases cursor.node? with
  | none => simp
  | some id => simp

/-- The cells around a cursor that stands in its sequence. -/
theorem Shows.spot (shows : shelf.Shows store) (stands : shelf.holds cursor) :
    (shelf.spot cursor).Shows (store.focus cursor) := by
  constructor
  · rw [store.toList_focus]
    exact shows.holds cursor.sequence
  · exact (Focus.position_seek (shows.holds_iff.mp stands)).symm

theorem Shows.isFused_focus (shows : shelf.Shows store) (cursor : Cursor) :
    IsFused (store.focus cursor).toList := by
  rw [store.toList_focus]
  exact shows.fused cursor.sequence

theorem Shows.nodesFrom (shows : shelf.Shows store) (stands : shelf.holds cursor) :
    shelf.memory.nodesFrom cursor.node? = (store.focus cursor).after := by
  have spot := shows.spot stands
  have position : cursor.node? = firstOr (store.focus cursor).after none := spot.position
  rw [position]
  exact spot.holds.nodesFrom

theorem Shows.advance (shows : shelf.Shows store) (stands : shelf.holds cursor) :
    shelf.advance cursor = store.advance cursor := by
  have spot := shows.spot stands
  have position : cursor.node? = firstOr (store.focus cursor).after none := spot.position
  have next := spot.holds.next
  rw [Shelf.advance, Store.advance, position, Cursor.mk.injEq]
  refine ⟨rfl, next.trans ?_⟩
  rw [Focus.node?_eq_firstOr, Focus.after_advance]

theorem Shows.start (shows : shelf.Shows store) (sequence : SequenceId) :
    shelf.start sequence = store.start sequence := by
  rw [Shelf.start, Store.start, (shows.holds sequence).head]
  cases store.nodes sequence <;> rfl

theorem Shows.holds_start (shows : shelf.Shows store) (sequence : SequenceId) :
    shelf.holds (shelf.start sequence) := by
  rw [shows.holds_iff, Shelf.start, (shows.holds sequence).head]
  exact fun _ first => Memory.mem_ids_of_firstOr first

theorem Shows.range {first : Cursor} (shows : shelf.Shows store) (stands : shelf.holds first)
    (last : Cursor) : shelf.range first last = store.range first last := by
  rw [Shelf.range, Store.range, shows.nodesFrom stands]

/-- An edit at a cursor that shows the edit of a focus. -/
theorem Shows.edit (shows : shelf.Shows store) {change : Spot → Spot} {change' : Focus Node → Focus Node}
    (edited : (change (shelf.spot cursor)).Shows (change' (store.focus cursor)) ∧
      (change (shelf.spot cursor)).memory.Within shelf.memory (ids (store.focus cursor).toList))
    (fused : IsFused (change' (store.focus cursor)).toList)
    (inside : ids (change' (store.focus cursor)).toList ⊆ ids (store.focus cursor).toList) :
    Agrees (shelf.edit cursor change) (store.edit cursor change') := by
  obtain ⟨shown, within⟩ := edited
  rw [store.toList_focus] at within inside
  constructor
  · apply shows.change (within.fresh_eq.trans shows.fresh) shown.holds fused within.extends
    · exact fun other different => shows.apart other cursor.sequence different.symm
    · exact fun id mem => Or.inl (inside mem)
  · rw [Shelf.edit, Store.edit, Focus.node?_eq_firstOr, ← shown.position]

theorem Shows.remove (shows : shelf.Shows store) (stands : shelf.holds cursor) :
    Agrees (shelf.remove cursor) (store.remove cursor) := by
  have fused := shows.isFused_focus cursor
  exact shows.edit ((shows.spot stands).removed fused) (Focus.isFused_erase fused 1)
    (Focus.ids_erase_subset _ 1)

theorem Shows.eraseTo {last : Cursor} (shows : shelf.Shows store) (stands : shelf.holds cursor)
    (reached : shelf.reaches cursor last) :
    Agrees (shelf.eraseTo cursor last) (store.eraseTo cursor last) := by
  have fused := shows.isFused_focus cursor
  have met : ∀ id ∈ last.node?, id ∈ ids (store.focus cursor).after := by
    rw [← shows.nodesFrom stands]
    intro id sought
    rw [Shelf.reaches, Option.mem_def.mp sought] at reached
    simpa using reached
  exact shows.edit ((shows.spot stands).erased fused met) (Focus.isFused_erase fused _)
    (Focus.ids_erase_subset _ _)

theorem Shows.setText (shows : shelf.Shows store) (stands : shelf.holds cursor) (text : String) :
    (shelf.setText cursor text).Shows (store.setText cursor text) := by
  have edited := (shows.spot stands).rewritten text
  have fused := Focus.isFused_modify (shows.isFused_focus cursor)
    (fun node => rfl : ∀ node : Node, (⟨node.id, ⟨node.token.kind, text⟩⟩ : Node).token.kind = _)
  have inside := Focus.ids_modify_subset
    (fun node => rfl : ∀ node : Node, (⟨node.id, ⟨node.token.kind, text⟩⟩ : Node).id = _)
    (store.focus cursor)
  exact (shows.edit edited fused inside).1

theorem Shows.replaceWith {other : SequenceId} (shows : shelf.Shows store) (stands : shelf.holds cursor)
    (different : other ≠ cursor.sequence) :
    Agrees (shelf.replaceWith cursor other) (store.replaceWith cursor other) := by
  have fused := shows.isFused_focus cursor
  have spot := shows.spot stands
  have position : cursor.node? = firstOr (store.focus cursor).after none := spot.position
  rw [Shelf.replaceWith, Store.replaceWith, position, Focus.atEnd]
  by_cases atEnd : (store.focus cursor).after = []
  · rw [atEnd]
    exact ⟨shows, rfl⟩
  · have present : (firstOr (store.focus cursor).after none).isNone = false := by
      rw [Option.isNone_eq_false_iff, Option.isSome_iff_ne_none, ne_eq, firstOr_eq_none_iff]
      exact atEnd
    rw [present, List.isEmpty_eq_false_iff.mpr atEnd]
    have apart : ∀ id ∈ ids (store.nodes other), id ∉ ids (store.focus cursor).toList := by
      rw [store.toList_focus]
      exact shows.apart other cursor.sequence different
    obtain ⟨shown, within⟩ := spot.spliced fused atEnd (shows.holds other) (shows.fused other) apart
    have inside := Focus.ids_splice_subset (store.nodes other) (store.focus cursor)
    rw [store.toList_focus, ← List.map_append] at within inside
    constructor
    · exact shows.exchange different (within.fresh_eq.trans shows.fresh) shown.holds
        (Focus.isFused_splice fused (shows.fused other)) within inside
    · have landed := shown.position
      rw [← Focus.node?_eq_firstOr] at landed
      exact congrArg (Cursor.mk cursor.sequence) landed

/-! ### Reading a sequence -/

/-- The nodes are those of a sequence: its links lead through them, from the head on and from the tail
back, what it tells of itself agrees with them, and no two neighbours are both text or both boundaries. -/
structure Reads (shelf : Shelf) (sequence : SequenceId) (nodes : List Node) : Prop where
  forwards : shelf.memory.Leads (·.next) (shelf.ends sequence).head nodes
  backwards : shelf.memory.Leads (·.previous) (shelf.ends sequence).tail nodes.reverse
  distinct : (ids nodes).Nodup
  head : shelf.head? sequence = nodes.head?.map (·.token)
  tail : shelf.tail? sequence = nodes.getLast?.map (·.token)
  size : shelf.size sequence = nodes.length
  isEmpty : shelf.isEmpty sequence = nodes.isEmpty
  separate : nodes.IsChain fun first second =>
    ¬(first.token.kind = .text ∧ second.token.kind = .text) ∧
      ¬(first.token.kind = .boundary ∧ second.token.kind = .boundary)

theorem reads_of_holds {nodes : List Node} (holds : shelf.memory.Holds (shelf.ends sequence) nodes)
    (fused : IsFused nodes) : shelf.Reads sequence nodes := by
  constructor
  · rw [holds.head]
    exact holds.chain.leads_next
  · rw [holds.tail]
    exact holds.chain.leads_previous
  · exact holds.nodup
  · exact holds.tokenAt?_head
  · exact holds.tokenAt?_tail
  · rw [Shelf.size, Shelf.nodes, holds.nodesFrom_head]
  · rw [Shelf.isEmpty, holds.head]
    cases nodes <;> rfl
  · apply List.IsChain.imp _ fused
    intro first second apart
    rwa [fuse?_eq_map, Option.map_eq_none_iff, Token.fuse?_eq_none_iff_kinds] at apart

theorem Shows.reads (shows : shelf.Shows store) (sequence : SequenceId) :
    shelf.Reads sequence (store.nodes sequence) :=
  reads_of_holds (shows.holds sequence) (shows.fused sequence)

end Shelf

end Linework
