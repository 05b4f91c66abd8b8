import Linework.Proofs.Token.Fused
import Linework.Token.Linked
import Mathlib.Data.List.Nodup
import Mathlib.Data.List.Perm.Subperm

/-!
# Linked sequences hold sequences of nodes

`Memory.Holds` says that the cells between two ends are linked, forwards and backwards, in the order of
a sequence of nodes. Each edit of linked cells is matched with the edit of a `Focus` that it stands
for: a spot that shows a focus shows, after the edit, the focus after its edit.
-/

namespace Linework

instance : LawfulFusible Node where
  isSome_fuse?_left other fuses := by
    obtain ⟨token, tokens, rfl⟩ := Option.map_eq_some_iff.mp fuses
    have same := LawfulFusible.isSome_fuse?_left other.token tokens
    simpa only [Fusible.fuse?, Option.isSome_map] using same
  isSome_fuse?_right other fuses := by
    obtain ⟨token, tokens, rfl⟩ := Option.map_eq_some_iff.mp fuses
    have same := LawfulFusible.isSome_fuse?_right other.token tokens
    simpa only [Fusible.fuse?, Option.isSome_map] using same

namespace Node

theorem fuse?_eq_map (first second : Node) :
    fuse? first second = (fuse? first.token second.token).map (⟨first.id, ·⟩) :=
  rfl

/-- The address of the first node, or what is given when there is none. -/
def firstOr (nodes : List Node) (otherwise : Option Nat) : Option Nat :=
  match nodes with
  | [] => otherwise
  | node :: _ => some node.id

/-- The address of the last node, or what is given when there is none. -/
def lastOr (nodes : List Node) (otherwise : Option Nat) : Option Nat :=
  firstOr nodes.reverse otherwise

@[simp]
theorem firstOr_nil (otherwise : Option Nat) : firstOr [] otherwise = otherwise :=
  rfl

@[simp]
theorem firstOr_cons (node : Node) (rest : List Node) (otherwise : Option Nat) :
    firstOr (node :: rest) otherwise = some node.id :=
  rfl

theorem firstOr_append (first second : List Node) (otherwise : Option Nat) :
    firstOr (first ++ second) otherwise = firstOr first (firstOr second otherwise) := by
  cases first <;> rfl

@[simp]
theorem lastOr_nil (otherwise : Option Nat) : lastOr [] otherwise = otherwise :=
  rfl

@[simp]
theorem lastOr_append_singleton (earlier : List Node) (last : Node) (otherwise : Option Nat) :
    lastOr (earlier ++ [last]) otherwise = some last.id := by
  simp [lastOr]

theorem lastOr_append (first second : List Node) (otherwise : Option Nat) :
    lastOr (first ++ second) otherwise = lastOr second (lastOr first otherwise) := by
  rw [lastOr, List.reverse_append, firstOr_append]
  rfl

theorem lastOr_cons (node : Node) (rest : List Node) (otherwise : Option Nat) :
    lastOr (node :: rest) otherwise = lastOr rest (some node.id) :=
  lastOr_append [node] rest otherwise

theorem firstOr_of_ne_nil {nodes : List Node} (nonempty : nodes ≠ []) (otherwise other : Option Nat) :
    firstOr nodes otherwise = firstOr nodes other := by
  cases nodes with
  | nil => contradiction
  | cons node rest => rfl

theorem lastOr_of_ne_nil {nodes : List Node} (nonempty : nodes ≠ []) (otherwise other : Option Nat) :
    lastOr nodes otherwise = lastOr nodes other :=
  firstOr_of_ne_nil (by simpa using nonempty) otherwise other

@[simp]
theorem lastOr_reverse (nodes : List Node) (otherwise : Option Nat) :
    lastOr nodes.reverse otherwise = firstOr nodes otherwise := by
  simp [lastOr]

/-- The addresses of nodes. -/
abbrev ids (nodes : List Node) : List Nat :=
  nodes.map (·.id)

theorem firstOr_eq_none_iff {nodes : List Node} : firstOr nodes none = none ↔ nodes = [] := by
  cases nodes <;> simp

/-- Nodes of the tokens, with consecutive addresses. -/
def numbered (first : Nat) (tokens : List Token) : List Node :=
  tokens.zipIdx.map fun (token, index) => ⟨first + index, token⟩

@[simp]
theorem length_numbered (first : Nat) (tokens : List Token) :
    (numbered first tokens).length = tokens.length := by
  simp [numbered]

theorem tokens_numbered (first : Nat) (tokens : List Token) :
    (numbered first tokens).map (·.token) = tokens := by
  rw [numbered, List.map_map]
  exact List.zipIdx_map_fst 0 tokens

theorem le_of_mem_numbered {first id : Nat} {tokens : List Token}
    (mem : id ∈ ids (numbered first tokens)) : first ≤ id := by
  simp only [ids, numbered, List.map_map, List.mem_map] at mem
  obtain ⟨⟨_, index⟩, _, rfl⟩ := mem
  exact Nat.le_add_right first index

theorem numbered_append_singleton (first : Nat) (tokens : List Token) (token : Token) :
    numbered first (tokens ++ [token]) =
      numbered first tokens ++ [⟨first + tokens.length, token⟩] := by
  simp [numbered, List.zipIdx_append]

/-- A token that is appended under the next address continues the numbering. -/
theorem join_numbered (first : Nat) (tokens : List Token) (token : Token) :
    join (numbered first tokens) [⟨first + tokens.length, token⟩] =
      numbered first (join tokens [token]) := by
  rcases List.eq_nil_or_concat tokens with rfl | ⟨earlier, last, rfl⟩
  · rfl
  · rw [List.concat_eq_append, numbered_append_singleton, join_append_singleton, join_append_singleton]
    cases fuses : fuse? last token with
    | some fused => simp [glue, fuse?_eq_map, fuses, numbered_append_singleton]
    | none =>
        simp only [glue, fuse?_eq_map, fuses, Option.map_none]
        rw [List.append_cons earlier last [token], numbered_append_singleton, numbered_append_singleton,
          List.append_assoc]
        rfl

end Node

open Node

namespace Memory

/-- The cells of the nodes are linked in their order, between a cell before them and one after. -/
def Chain (memory : Memory) : Option Nat → List Node → Option Nat → Prop
  | _, [], _ => True
  | before, node :: rest, after =>
      memory.cell? node.id = some ⟨node.token, before, firstOr rest after⟩ ∧
        memory.Chain (some node.id) rest after

/-- The cells between the ends are the nodes: linked in their order both ways, each one once, and none
of them at an address that is still to be given. -/
structure Holds (memory : Memory) (ends : Ends) (nodes : List Node) : Prop where
  chain : memory.Chain none nodes none
  head : ends.head = firstOr nodes none
  tail : ends.tail = lastOr nodes none
  nodup : (ids nodes).Nodup
  allocated : ∀ id ∈ ids nodes, id < memory.fresh

variable {memory : Memory} {before after : Option Nat} {first second nodes : List Node}

theorem holds_nil (memory : Memory) : memory.Holds {} [] :=
  ⟨trivial, rfl, rfl, List.nodup_nil, fun _ mem => absurd mem List.not_mem_nil⟩

theorem chain_append :
    memory.Chain before (first ++ second) after ↔
      memory.Chain before first (firstOr second after) ∧
        memory.Chain (lastOr first before) second after := by
  induction first generalizing before with
  | nil => simp [Chain]
  | cons node rest ih =>
      simp only [List.cons_append, Chain, ih, firstOr_append, lastOr_cons, and_assoc]

/-! ## Changes of single cells -/

@[simp]
theorem fresh_updateAt (memory : Memory) (position : Option Nat) (change : Cell → Cell) :
    (memory.updateAt position change).fresh = memory.fresh := by
  cases position <;> rfl

theorem cell?_update_self (memory : Memory) (address : Nat) (change : Cell → Cell) :
    (memory.update address change).cell? address = (memory.cell? address).map change :=
  if_pos rfl

theorem cell?_update_of_ne {address other : Nat} (different : other ≠ address)
    (change : Cell → Cell) :
    (memory.update address change).cell? other = memory.cell? other :=
  if_neg different

/-- A chain is not changed by changes elsewhere. -/
theorem chain_update_of_notMem {address : Nat} (absent : address ∉ ids nodes)
    (change : Cell → Cell) :
    (memory.update address change).Chain before nodes after ↔ memory.Chain before nodes after := by
  induction nodes generalizing before with
  | nil => exact Iff.rfl
  | cons node rest ih =>
      simp only [ids, List.map_cons, List.mem_cons, not_or] at absent
      rw [Chain, Chain, cell?_update_of_ne (Ne.symm absent.1), ih absent.2]

theorem Chain.setNext {last : Node} {after' : Option Nat} (absent : last.id ∉ ids first)
    (chain : memory.Chain before (first ++ [last]) after) :
    (memory.update last.id ({ · with next := after' })).Chain before (first ++ [last]) after' := by
  rw [chain_append] at chain ⊢
  obtain ⟨firstChain, lastCell, _⟩ := chain
  refine ⟨(chain_update_of_notMem absent _).mpr firstChain, ?_, trivial⟩
  rw [cell?_update_self, lastCell]
  rfl

theorem Chain.setPrevious {node : Node} {before' : Option Nat} (absent : node.id ∉ ids nodes)
    (chain : memory.Chain before (node :: nodes) after) :
    (memory.update node.id ({ · with previous := before' })).Chain before' (node :: nodes) after := by
  obtain ⟨nodeCell, restChain⟩ := chain
  constructor
  · rw [cell?_update_self, nodeCell]
    rfl
  · exact (chain_update_of_notMem absent _).mpr restChain

theorem Chain.setToken {node : Node} {token : Token} {change : Cell → Cell}
    (changes : ∀ cell, cell.token = node.token → change cell = { cell with token := token })
    (absent : node.id ∉ ids first) (absent' : node.id ∉ ids second)
    (chain : memory.Chain before (first ++ node :: second) after) :
    (memory.update node.id change).Chain before (first ++ ⟨node.id, token⟩ :: second) after := by
  rw [chain_append] at chain ⊢
  obtain ⟨firstChain, nodeCell, secondChain⟩ := chain
  refine ⟨(chain_update_of_notMem absent _).mpr firstChain, ?_,
    (chain_update_of_notMem absent' _).mpr secondChain⟩
  rw [cell?_update_self, nodeCell, Option.map_some, changes _ rfl]

/-- A chain of allocated cells is not changed by allocating another. -/
theorem chain_allocate (allocated : ∀ id ∈ ids nodes, id < memory.fresh) (cell : Cell) :
    (memory.allocate cell).1.Chain before nodes after ↔ memory.Chain before nodes after := by
  induction nodes generalizing before with
  | nil => exact Iff.rfl
  | cons node rest ih =>
      have old : node.id ≠ memory.fresh := Nat.ne_of_lt (allocated node.id (by simp))
      have restOld : ∀ id ∈ ids rest, id < memory.fresh := fun id mem =>
        allocated id (List.mem_cons_of_mem _ mem)
      rw [Chain, Chain, ih restOld]
      simp [allocate, old]

/-! ## Following the links -/

theorem Chain.cell? {node : Node} (chain : memory.Chain before (first ++ node :: second) after) :
    memory.cell? node.id = some ⟨node.token, lastOr first before, firstOr second after⟩ :=
  (chain_append.mp chain).2.1

theorem Chain.follow {count : Nat} (enough : nodes.length ≤ count)
    (chain : memory.Chain before nodes none) :
    memory.follow count (firstOr nodes none) = nodes := by
  induction nodes generalizing before count with
  | nil => cases count <;> rfl
  | cons node rest ih =>
      cases count with
      | zero => simp at enough
      | succ count =>
          rw [firstOr_cons, Memory.follow, chain.1]
          have restFollow := ih (Nat.le_of_succ_le_succ enough) chain.2
          simp only [restFollow]

theorem Holds.length_le {ends : Ends} (holds : memory.Holds ends nodes) :
    nodes.length ≤ memory.fresh := by
  have inRange : ids nodes ⊆ List.range memory.fresh := fun id mem =>
    List.mem_range.mpr (holds.allocated id mem)
  have lengths := (holds.nodup.subperm inRange).length_le
  simpa using lengths

theorem Holds.nodesFrom {ends : Ends} (holds : memory.Holds ends (first ++ second)) :
    memory.nodesFrom (firstOr second none) = second := by
  have enough : second.length ≤ memory.fresh := by
    have whole := holds.length_le
    rw [List.length_append] at whole
    omega
  exact (chain_append.mp holds.chain).2.follow enough

theorem Holds.nodesFrom_head {ends : Ends} (holds : memory.Holds ends nodes) :
    memory.nodesFrom ends.head = nodes := by
  rw [holds.head]
  exact holds.chain.follow holds.length_le

theorem Holds.cellAt? {ends : Ends} (holds : memory.Holds ends (first ++ second)) :
    memory.cellAt? (firstOr second none) =
      second.head?.map fun node => ⟨node.token, lastOr first none, firstOr second.tail none⟩ := by
  cases second with
  | nil => rfl
  | cons node rest => exact holds.chain.cell?

theorem Holds.tokenAt? {ends : Ends} (holds : memory.Holds ends (first ++ second)) :
    memory.tokenAt? (firstOr second none) = second.head?.map (·.token) := by
  rw [Memory.tokenAt?, holds.cellAt?, Option.map_map]
  rfl

theorem Holds.next {ends : Ends} (holds : memory.Holds ends (first ++ second)) :
    memory.next (firstOr second none) = firstOr second.tail none := by
  rw [Memory.next, holds.cellAt?]
  cases second <;> rfl

/-- Another token for one of the nodes. -/
theorem Holds.setToken {ends : Ends} {node : Node} (holds : memory.Holds ends (first ++ node :: second))
    (token : Token) (change : Cell → Cell)
    (changes : ∀ cell, cell.token = node.token → change cell = { cell with token := token }) :
    (memory.update node.id change).Holds ends (first ++ ⟨node.id, token⟩ :: second) := by
  obtain ⟨chain, head, tail, distinct, allocated⟩ := holds
  have sameIds : ids (first ++ ⟨node.id, token⟩ :: second) = ids (first ++ node :: second) := by
    simp [ids]
  have apart := distinct
  simp only [ids, List.map_append, List.map_cons, List.nodup_append', List.nodup_cons,
    List.disjoint_cons_right] at apart
  refine ⟨chain.setToken changes apart.2.2.1 apart.2.1.1, ?_, ?_, sameIds ▸ distinct,
    sameIds ▸ allocated⟩
  · simpa [firstOr_append] using head
  · simpa [lastOr_append, lastOr_cons] using tail

/-! ## Linking two chains -/

theorem chain_updateAt_of_notMem {position : Option Nat}
    (absent : ∀ address ∈ position, address ∉ ids nodes) (change : Cell → Cell) :
    (memory.updateAt position change).Chain before nodes after ↔
      memory.Chain before nodes after := by
  cases position with
  | none => exact Iff.rfl
  | some address => exact chain_update_of_notMem (absent address rfl) change

theorem mem_ids_of_firstOr {address : Nat} (first : firstOr nodes none = some address) :
    address ∈ ids nodes := by
  cases nodes with
  | nil => contradiction
  | cons node rest =>
      rw [firstOr_cons, Option.some.injEq] at first
      simp [first]

theorem mem_ids_of_lastOr {address : Nat} (last : lastOr nodes none = some address) :
    address ∈ ids nodes := by
  have inReverse := mem_ids_of_firstOr last
  simpa using inReverse

/-- The memory in which the last cell of one chain and the first cell of another are linked. -/
def relink (memory : Memory) (first second : List Node) : Memory :=
  (memory.updateAt (lastOr first none) ({ · with next := firstOr second none })).updateAt
    (firstOr second none) ({ · with previous := lastOr first none })

@[simp]
theorem fresh_relink (memory : Memory) (first second : List Node) :
    (memory.relink first second).fresh = memory.fresh := by
  simp [relink]

theorem chain_relink_of_notMem (outsideFirst : ∀ id ∈ ids nodes, id ∉ ids first)
    (outsideSecond : ∀ id ∈ ids nodes, id ∉ ids second) :
    (memory.relink first second).Chain before nodes after ↔ memory.Chain before nodes after := by
  rw [relink, chain_updateAt_of_notMem, chain_updateAt_of_notMem]
  · exact fun address last mem => outsideFirst address mem (mem_ids_of_lastOr last)
  · exact fun address head mem => outsideSecond address mem (mem_ids_of_firstOr head)

theorem chain_relink (distinct : (ids (first ++ second)).Nodup)
    (firstChain : memory.Chain none first after) (secondChain : memory.Chain before second none) :
    (memory.relink first second).Chain none (first ++ second) none := by
  rw [ids, List.map_append, List.nodup_append'] at distinct
  obtain ⟨firstDistinct, secondDistinct, apart⟩ := distinct
  have lastLinked : (memory.updateAt (lastOr first none)
      ({ · with next := firstOr second none })).Chain none first (firstOr second none) := by
    rcases List.eq_nil_or_concat first with rfl | ⟨earlier, last, rfl⟩
    · exact trivial
    · rw [List.concat_eq_append] at *
      rw [lastOr_append_singleton]
      apply firstChain.setNext
      intro mem
      simp only [List.map_append, List.map_cons, List.map_nil, List.nodup_append'] at firstDistinct
      exact firstDistinct.2.2 mem (by simp)
  have secondKept : (memory.updateAt (lastOr first none)
      ({ · with next := firstOr second none })).Chain before second none := by
    refine (chain_updateAt_of_notMem (fun address last mem => ?_) _).mpr secondChain
    exact apart (mem_ids_of_lastOr last) mem
  rw [chain_append]
  constructor
  · refine (chain_updateAt_of_notMem (fun address head mem => ?_) _).mpr lastLinked
    exact apart mem (mem_ids_of_firstOr head)
  · cases second with
    | nil => exact trivial
    | cons node rest =>
        apply secondKept.setPrevious
        intro mem
        exact (List.nodup_cons.mp secondDistinct).1 mem

/-- The ends of a sequence of nodes. -/
def endsOf (nodes : List Node) : Ends :=
  ⟨firstOr nodes none, lastOr nodes none⟩

theorem Holds.ends_eq {ends : Ends} (holds : memory.Holds ends nodes) : ends = endsOf nodes := by
  rw [endsOf, ← holds.head, ← holds.tail]

/-- Two chains that are linked are one sequence. -/
theorem holds_relink (distinct : (ids (first ++ second)).Nodup)
    (allocated : ∀ id ∈ ids (first ++ second), id < memory.fresh)
    (firstChain : memory.Chain none first after) (secondChain : memory.Chain before second none) :
    (memory.relink first second).Holds (endsOf (first ++ second)) (first ++ second) :=
  ⟨chain_relink distinct firstChain secondChain, rfl, rfl, distinct, fun id mem => by
    rw [fresh_relink]
    exact allocated id mem⟩

/-- Linking over a run of nodes takes the run out of the sequence. -/
theorem Holds.relink {ends : Ends} {between : List Node}
    (holds : memory.Holds ends (first ++ between ++ second)) :
    (memory.relink first second).Holds (endsOf (first ++ second)) (first ++ second) := by
  have chain := holds.chain
  rw [List.append_assoc, chain_append, chain_append] at chain
  have kept : (first ++ second).Sublist (first ++ between ++ second) := by
    rw [List.append_assoc]
    exact (List.Sublist.refl first).append (List.sublist_append_right between second)
  have keptIds := kept.map (·.id)
  exact holds_relink (holds.nodup.sublist keptIds)
    (fun id mem => holds.allocated id (keptIds.subset mem)) chain.1 chain.2.2

/-- The nodes of another sequence are linked in between two parts of a sequence: first behind the one
part, then before the other. -/
theorem Holds.relink_between {ends other : Ends} {between : List Node}
    (holds : memory.Holds ends (first ++ second)) (otherHolds : memory.Holds other between)
    (apart : ∀ id ∈ ids between, id ∉ ids (first ++ second)) :
    ((memory.relink first between).relink (first ++ between) second).Holds
      (endsOf (first ++ between ++ second)) (first ++ between ++ second) := by
  have distinct : (ids (first ++ between ++ second)).Nodup := by
    have ownDistinct := holds.nodup
    have otherDistinct := otherHolds.nodup
    simp only [ids, List.map_append, List.nodup_append'] at ownDistinct apart ⊢
    refine ⟨⟨ownDistinct.1, otherDistinct, fun id inFirst inOther => ?_⟩, ownDistinct.2.1, ?_⟩
    · exact apart id inOther (List.mem_append_left _ inFirst)
    · rw [List.disjoint_append_left]
      exact ⟨ownDistinct.2.2, fun id inOther inSecond =>
        apart id inOther (List.mem_append_right _ inSecond)⟩
  have allocated : ∀ id ∈ ids (first ++ between ++ second), id < memory.fresh := by
    intro id mem
    have ownAllocated := holds.allocated
    simp only [ids, List.map_append, List.mem_append] at mem ownAllocated
    rcases mem with (inFirst | inOther) | inSecond
    · exact ownAllocated id (Or.inl inFirst)
    · exact otherHolds.allocated id inOther
    · exact ownAllocated id (Or.inr inSecond)
  have parts := distinct
  rw [ids, List.map_append, List.nodup_append'] at parts
  obtain ⟨firstChain, secondChain⟩ := chain_append.mp holds.chain
  have linked := chain_relink parts.1 firstChain otherHolds.chain
  have secondKept : (memory.relink first between).Chain (lastOr first none) second none := by
    refine (chain_relink_of_notMem (fun id mem inFirst => ?_) fun id mem inOther => ?_).mpr
      secondChain
    · exact parts.2.2 (by simp [inFirst]) mem
    · exact parts.2.2 (List.map_append ▸ List.mem_append_right _ inOther) mem
  exact holds_relink distinct (by simpa using allocated) linked secondKept

/-! ## New sequences -/

/-- The cells at addresses that were given before, other than those of some nodes, are as they were. -/
structure Extends (memory' memory : Memory) (nodes : List Node) : Prop where
  fresh_le : memory.fresh ≤ memory'.fresh
  cell?_eq : ∀ id < memory.fresh, id ∉ ids nodes → memory'.cell? id = memory.cell? id

/-- A new cell that is linked behind the last one is the new last node. -/
theorem Holds.link_new {ends : Ends} {earlier : List Node} {last : Node}
    (holds : memory.Holds ends (earlier ++ [last])) (token : Token) :
    ((memory.allocate { token := token, previous := some last.id }).1.update last.id
      ({ · with next := some memory.fresh })).Holds { ends with tail := some memory.fresh }
      (earlier ++ [last] ++ [⟨memory.fresh, token⟩]) := by
  have lastOld : last.id < memory.fresh := holds.allocated last.id (by simp)
  have kept := (chain_allocate holds.allocated
    { token := token, previous := some last.id }).mpr holds.chain
  have distinct := holds.nodup
  refine ⟨chain_append.mpr ⟨?_, ?_, trivial⟩, ?_, ?_, ?_, ?_⟩
  · apply kept.setNext
    intro inEarlier
    rw [ids, List.map_append, List.nodup_append'] at distinct
    exact distinct.2.2 inEarlier (by simp)
  · rw [lastOr_append_singleton, cell?_update_of_ne (Nat.ne_of_gt lastOld)]
    simp [allocate]
  · rw [firstOr_append]
    exact holds.head.trans (firstOr_of_ne_nil (by simp) _ _)
  · rw [lastOr_append_singleton]
  · rw [ids, List.map_append, List.nodup_append']
    refine ⟨distinct, by simp, fun id old new => ?_⟩
    have fresh : id = memory.fresh := by simpa using new
    exact Nat.ne_of_lt (holds.allocated id old) fresh
  · intro id mem
    rw [ids, List.map_append, List.mem_append] at mem
    rcases mem with old | new
    · exact Nat.lt_succ_of_lt (holds.allocated id old)
    · have fresh : id = memory.fresh := by simpa using new
      rw [fresh]
      exact Nat.lt_succ_self _

/-- Appending to linked cells appends to the sequence they hold; a cell that is new has the next address. -/
theorem Holds.append {ends : Ends} (holds : memory.Holds ends nodes) (token : Token) :
    (memory.append ends token).1.Holds (memory.append ends token).2
        (join nodes [⟨memory.fresh, token⟩]) ∧
      (memory.append ends token).1.Extends memory nodes ∧
      (memory.append ends token).1.fresh + nodes.length =
        memory.fresh + (join nodes [⟨memory.fresh, token⟩]).length := by
  rcases List.eq_nil_or_concat nodes with rfl | ⟨earlier, last, rfl⟩
  · have tail : ends.tail = none := holds.tail
    simp only [Memory.append, tail]
    refine ⟨⟨⟨?_, trivial⟩, rfl, rfl, List.nodup_singleton _, ?_⟩, ⟨Nat.le_succ _, ?_⟩, rfl⟩
    · simp [allocate]
    · simp [allocate]
    · intro id old _
      simp [allocate, Nat.ne_of_lt old]
  · rw [List.concat_eq_append] at *
    have tail : ends.tail = some last.id := by rw [holds.tail, lastOr_append_singleton]
    have cell : memory.cellAt? (some last.id) = some ⟨last.token, lastOr earlier none, none⟩ :=
      holds.chain.cell?
    rw [join_append_singleton]
    cases fuses : fuse? last.token token with
    | some fused =>
        simp only [Memory.append, tail, cell, fuses, glue, fuse?_eq_map, Option.map_some]
        refine ⟨holds.setToken fused _ fun _ _ => rfl, ⟨Nat.le_refl _, ?_⟩, ?_⟩
        · intro id _ outside
          apply cell?_update_of_ne
          rintro rfl
          exact outside (by simp)
        · rw [List.length_append, List.length_append]
          rfl
    | none =>
        simp only [Memory.append, tail, cell, fuses, glue, fuse?_eq_map, Option.map_none]
        refine ⟨?_, ⟨Nat.le_succ _, ?_⟩, ?_⟩
        · rw [List.append_cons]
          exact holds.link_new token
        · intro id old outside
          have different : id ≠ last.id := by
            rintro rfl
            exact outside (by simp)
          rw [cell?_update_of_ne different]
          simp [allocate, Nat.ne_of_lt old]
        · simp only [List.length_append, List.length_cons, List.length_nil]
          change memory.fresh + 1 + _ = _
          omega

/-- A built sequence consists of new cells, with consecutive addresses, and holds the tokens, appended one
after the other. -/
theorem holds_build (memory : Memory) (tokens : List Token) :
    (memory.build tokens).1.Holds (memory.build tokens).2
        (numbered memory.fresh (Token.fused tokens)) ∧
      (memory.build tokens).1.Extends memory [] ∧
      (memory.build tokens).1.fresh = memory.fresh + (Token.fused tokens).length := by
  induction tokens using List.reverseRecOn with
  | nil =>
      refine ⟨⟨trivial, rfl, rfl, List.nodup_nil, ?_⟩, ⟨Nat.le_refl _, fun _ _ _ => rfl⟩, rfl⟩
      exact fun _ mem => absurd mem List.not_mem_nil
  | append_singleton tokens token ih =>
      obtain ⟨holds, kept, fresh⟩ := ih
      obtain ⟨holds', kept', fresh'⟩ := holds.append token
      have buildEq : memory.build (tokens ++ [token]) =
          (memory.build tokens).1.append (memory.build tokens).2 token := by
        simp [build]
      rw [fresh, join_numbered] at holds' fresh'
      rw [buildEq, Token.fused_append_singleton]
      refine ⟨holds', ⟨Nat.le_trans kept.fresh_le kept'.fresh_le, fun id old outside => ?_⟩, ?_⟩
      · have older : id < (memory.build tokens).1.fresh := Nat.lt_of_lt_of_le old kept.fresh_le
        have notBuilt : id ∉ ids (numbered memory.fresh (Token.fused tokens)) := fun mem =>
          Nat.not_le_of_lt old (le_of_mem_numbered mem)
        rw [kept'.cell?_eq id older notBuilt, kept.cell?_eq id old outside]
      · simp only [length_numbered] at fresh'
        omega

theorem build_holds (memory : Memory) (tokens : List Token) :
    ∃ nodes, (memory.build tokens).1.Holds (memory.build tokens).2 nodes ∧
      nodes.map (·.token) = Token.fused tokens ∧ (∀ id ∈ ids nodes, memory.fresh ≤ id) ∧
      (memory.build tokens).1.Extends memory [] := by
  obtain ⟨holds, kept, _⟩ := holds_build memory tokens
  exact ⟨_, holds, tokens_numbered _ _, fun _ mem => le_of_mem_numbered mem, kept⟩

/-- A sequence is held as it was when its cells are not among those that change. -/
theorem Holds.of_extends {memory' : Memory} {ends : Ends} {touched : List Node}
    (holds : memory.Holds ends nodes) (kept : memory'.Extends memory touched)
    (outside : ∀ id ∈ ids nodes, id ∉ ids touched) : memory'.Holds ends nodes := by
  have chainKept : ∀ before (nodes : List Node), (∀ id ∈ ids nodes, id < memory.fresh) →
      (∀ id ∈ ids nodes, id ∉ ids touched) →
      memory.Chain before nodes none → memory'.Chain before nodes none := by
    intro before nodes
    induction nodes generalizing before with
    | nil => exact fun _ _ _ => trivial
    | cons node rest ih =>
        rintro old outside ⟨nodeCell, restChain⟩
        constructor
        · rw [kept.cell?_eq node.id (old node.id (by simp)) (outside node.id (by simp)), nodeCell]
        · exact ih _ (fun id mem => old id (List.mem_cons_of_mem _ mem))
            (fun id mem => outside id (List.mem_cons_of_mem _ mem)) restChain
  exact ⟨chainKept none nodes holds.allocated outside holds.chain, holds.head, holds.tail, holds.nodup,
    fun id mem => Nat.lt_of_lt_of_le (holds.allocated id mem) kept.fresh_le⟩

end Memory

namespace Spot

open Memory

/-- The cells around the spot are the nodes of the focus, and both stand at the same one. -/
structure Shows (spot : Spot) (focus : Focus Node) : Prop where
  holds : spot.memory.Holds spot.ends focus.toList
  position : spot.position = firstOr focus.after none

variable {spot : Spot} {focus : Focus Node} {before after : List Node} {node : Node}

theorem Shows.cellAt? (shows : spot.Shows ⟨before, node :: after⟩) :
    spot.memory.cellAt? spot.position =
      some ⟨node.token, firstOr before none, firstOr after none⟩ := by
  have cell := shows.holds.cellAt?
  rw [lastOr_reverse] at cell
  rw [shows.position]
  exact cell

/-- Unlinking a cell links the cells around it. -/
theorem Shows.unlink_eq (shows : spot.Shows ⟨before, node :: after⟩) :
    spot.unlink =
      (⟨spot.memory.relink before.reverse after, endsOf (before.reverse ++ after),
        firstOr after none⟩, !before.isEmpty && !after.isEmpty) := by
  have position : spot.position = some node.id := shows.position
  have cell := shows.cellAt?
  have ends : spot.ends = endsOf (before.reverse ++ node :: after) := shows.holds.ends_eq
  have distinct : (ids (before.reverse ++ node :: after)).Nodup := shows.holds.nodup
  cases before with
  | nil =>
      cases after with
      | nil => simp [unlink, position, position ▸ cell, ends, endsOf, Memory.relink, updateAt, lastOr]
      | cons next rest =>
          have notLast : lastOr (next :: rest) none ≠ some node.id := fun last =>
            (List.nodup_cons.mp distinct).1 (mem_ids_of_lastOr last)
          have tail : lastOr (node :: next :: rest) none = lastOr (next :: rest) none := by
            rw [lastOr_cons]
            exact lastOr_of_ne_nil (by simp) _ _
          simp [unlink, position, position ▸ cell, ends, endsOf, tail, notLast, Memory.relink,
            updateAt]
  | cons previous earlier =>
      cases after with
      | nil =>
          simp [unlink, position, position ▸ cell, ends, endsOf, Memory.relink, updateAt,
            firstOr_append, lastOr_append, lastOr_cons]
      | cons next rest =>
          have head : firstOr (earlier.reverse ++ previous :: node :: next :: rest) none =
              firstOr (earlier.reverse ++ previous :: next :: rest) none := by
            simp [firstOr_append]
          have tail : lastOr (earlier.reverse ++ previous :: node :: next :: rest) none =
              lastOr (earlier.reverse ++ previous :: next :: rest) none := by
            simp only [lastOr_append, lastOr_cons]
          simp [unlink, position, position ▸ cell, ends, endsOf, Memory.relink, updateAt, head, tail]

/-- Unlinking takes the node at the position away. -/
theorem Shows.unlink (shows : spot.Shows ⟨before, node :: after⟩) :
    spot.unlink.1.Shows ⟨before, after⟩ := by
  rw [shows.unlink_eq]
  constructor
  · have holds : spot.memory.Holds spot.ends (before.reverse ++ [node] ++ after) := by
      simpa [Focus.toList] using shows.holds
    exact holds.relink
  · rfl

theorem Shows.fusion? (shows : spot.Shows ⟨before, after⟩) :
    spot.fusion? =
      match before, after with
      | previous :: _, next :: _ =>
        (fuse? previous.token next.token).map (previous.id, ·)
      | _, _ => none := by
  cases after with
  | nil =>
      have position : spot.position = none := shows.position
      cases before <;> simp [fusion?, position, Memory.cellAt?]
  | cons next rest =>
      have cell := shows.cellAt?
      cases before with
      | nil => simp [fusion?, cell]
      | cons previous earlier =>
          have chain := shows.holds.chain
          rw [Focus.toList, List.reverse_cons, List.append_assoc] at chain
          have previousCell := chain.cell?
          simp only [fusion?, cell, firstOr_cons, Option.bind_eq_bind, Option.bind_some, previousCell,
            Option.pure_def]
          cases fuse? previous.token next.token <;> rfl

/-- Another token for the node before the position. -/
theorem Shows.setToken {previous : Node} (shows : spot.Shows ⟨previous :: before, after⟩)
    (token : Token) :
    Shows { spot with memory := spot.memory.update previous.id ({ · with token := token }) }
      ⟨⟨previous.id, token⟩ :: before, after⟩ := by
  have holds : spot.memory.Holds spot.ends (before.reverse ++ previous :: after) := by
    simpa [Focus.toList] using shows.holds
  have changed := holds.setToken token ({ · with token := token }) fun _ _ => rfl
  exact ⟨by simpa [Focus.toList] using changed, shows.position⟩

/-- Another text for the node at the position. -/
theorem Shows.setText (shows : spot.Shows ⟨before, node :: after⟩) (text : String) :
    (spot.setText text).Shows ⟨before, ⟨node.id, ⟨node.token.kind, text⟩⟩ :: after⟩ := by
  have position : spot.position = some node.id := shows.position
  have changed := shows.holds.setToken ⟨node.token.kind, text⟩
    (fun cell => { cell with token := ⟨cell.token.kind, text⟩ }) fun cell same => by rw [same]
  constructor
  · rw [Spot.setText, position]
    exact changed
  · exact position

/-- One round of settling: the cell at the position is folded into the one before it, and where the rest
is fused already, nothing more is to be fused. -/
theorem Shows.fold {previous next : Node} {earlier rest : List Node} {token : Token}
    (shows : spot.Shows ⟨previous :: earlier, next :: rest⟩) (fused : IsFused (next :: rest))
    (fuses : fuse? previous.token next.token = some token) :
    let folded := { spot with memory := spot.memory.update previous.id ({ · with token := token }) }
    folded.Shows ⟨⟨previous.id, token⟩ :: earlier, next :: rest⟩ ∧
      folded.unlink.1.Shows ⟨⟨previous.id, token⟩ :: earlier, rest⟩ ∧
      folded.unlink.1.fusion? = none := by
  intro folded
  have changed : folded.Shows ⟨⟨previous.id, token⟩ :: earlier, next :: rest⟩ := shows.setToken token
  refine ⟨changed, changed.unlink, ?_⟩
  rw [changed.unlink.fusion?]
  cases rest with
  | nil => rfl
  | cons other others =>
      have nodes : fuse? previous next = some ⟨previous.id, token⟩ := by
        rw [fuse?_eq_map, fuses, Option.map_some]
      have same := LawfulFusible.isSome_fuse?_right other nodes
      rw [(isFused_cons.mp fused).1 other rfl] at same
      simpa [fuse?_eq_map] using same

/-- Settling fuses what meets at the position, and no more where the rest is fused already. -/
theorem Shows.settle {rounds : Nat} (shows : spot.Shows focus) (fused : IsFused focus.after) :
    (spot.settle (rounds + 1)).Shows focus.seam := by
  obtain ⟨before, after⟩ := focus
  have fusion := shows.fusion?
  cases before with
  | nil =>
      simp only [settle, fusion]
      exact shows
  | cons previous earlier =>
      cases after with
      | nil =>
          simp only [settle, fusion]
          exact shows
      | cons next rest =>
          cases fuses : fuse? previous.token next.token with
          | none =>
              simp only [settle, fusion, fuses, Option.map_none, Focus.seam, fuse?_eq_map]
              exact shows
          | some token =>
              simp only [settle, fusion, fuses, Option.map_some, Focus.seam, fuse?_eq_map]
              obtain ⟨_, unlinked, nothing⟩ := shows.fold fused fuses
              split
              · rename_i spot' unlinkEq
                rw [unlinkEq] at unlinked nothing
                -- The second round finds nothing to fuse.
                cases rounds with
                | zero => exact unlinked
                | succ rounds =>
                    simp only [settle, nothing]
                    exact unlinked
              · rename_i spot' unlinkEq
                rw [unlinkEq] at unlinked
                exact unlinked

theorem Shows.settled (shows : spot.Shows focus) (fused : IsFused focus.after) :
    spot.settled.Shows focus.seam :=
  shows.settle fused

/-- At an end of a sequence nothing meets. -/
theorem seam_of_atEnd (atEnd : before ≠ [] → after = []) :
    Focus.seam ⟨before, after⟩ = ⟨before, after⟩ := by
  cases before with
  | nil => rfl
  | cons previous earlier =>
      rw [atEnd (List.cons_ne_nil previous earlier)]
      rfl

/-- Removing the cell at the position removes the node at the position. -/
theorem Shows.remove (shows : spot.Shows ⟨before, node :: after⟩) (fused : IsFused after) :
    spot.remove.Shows (Focus.remove ⟨before, node :: after⟩) := by
  have unlinked := shows.unlink
  have removed : Focus.remove ⟨before, node :: after⟩ = Focus.seam ⟨before, after⟩ := rfl
  rw [removed, Spot.remove]
  split
  · rename_i spot' unlinkEq
    rw [unlinkEq] at unlinked
    exact unlinked.settled fused
  · rename_i spot' unlinkEq
    rw [unlinkEq] at unlinked
    -- the cell stood at one of the ends, so that nothing meets there
    have atEnd : (!before.isEmpty && !after.isEmpty) = false := by
      have second := congrArg Prod.snd shows.unlink_eq
      rw [unlinkEq] at second
      exact second.symm
    rw [seam_of_atEnd (by simpa using atEnd)]
    exact unlinked

/-- Behind a node that fuses with nothing, no more happens. -/
theorem Shows.remove_behind {previous : Node} (shows : spot.Shows ⟨previous :: before, node :: after⟩)
    (alone : ∀ next : Node, fuse? previous next = none) : spot.remove.Shows ⟨previous :: before, after⟩ := by
  have unlinked := shows.unlink
  rw [Spot.remove]
  split
  · rename_i spot' unlinkEq
    rw [unlinkEq] at unlinked
    have nothing : spot'.fusion? = none := by
      rw [unlinked.fusion?]
      cases after with
      | nil => rfl
      | cons next rest => simpa [fuse?_eq_map] using alone next
    rw [Spot.settled, Spot.settle, nothing]
    exact unlinked
  · rename_i spot' unlinkEq
    rw [unlinkEq] at unlinked
    exact unlinked

/-! ### Linking another sequence in -/

/-- The memory in which the cells from `first` to `last` stand behind a cell, and before `following`,
which does not know of it yet. -/
def linkIn (memory : Memory) (address first : Nat) (last following : Option Nat) : Memory :=
  ((memory.updateAt (some address) ({ · with next := some first })).updateAt (some first)
    ({ · with previous := some address })).updateAt last ({ · with next := following })

section LinkIn

variable {other : Ends} {first : Node} {others : List Node}

/-- Once what follows knows of it too, the other sequence stands behind the node at the position. -/
theorem Shows.linkIn (shows : spot.Shows ⟨before, node :: after⟩)
    (otherHolds : spot.memory.Holds other (first :: others))
    (apart : ∀ id ∈ ids (first :: others), id ∉ ids (before.reverse ++ node :: after)) :
    ((linkIn spot.memory node.id first.id other.tail (firstOr after none)).updateAt (firstOr after none)
      ({ · with previous := other.tail })).Holds
        (endsOf (before.reverse ++ node :: first :: others ++ after))
        (before.reverse ++ node :: first :: others ++ after) := by
  have frontEq : before.reverse ++ node :: after = before.reverse ++ [node] ++ after := by simp
  have holds : spot.memory.Holds spot.ends (before.reverse ++ [node] ++ after) := frontEq ▸ shows.holds
  have whole := holds.relink_between otherHolds (frontEq ▸ apart)
  have tail : lastOr (before.reverse ++ [node] ++ (first :: others)) none = other.tail := by
    rw [otherHolds.tail, lastOr_append]
    exact lastOr_of_ne_nil (by simp) _ _
  simpa [Memory.relink, updateAt, Spot.linkIn, ← tail] using whole

/-- Where nothing follows, the other sequence's end becomes the end. -/
theorem Shows.linkIn_last (shows : spot.Shows ⟨before, [node]⟩)
    (otherHolds : spot.memory.Holds other (first :: others))
    (apart : ∀ id ∈ ids (first :: others), id ∉ ids (before.reverse ++ [node])) :
    Shows ⟨Spot.linkIn spot.memory node.id first.id other.tail none,
      { spot.ends with tail := other.tail }, some node.id⟩ ⟨before, node :: first :: others⟩ := by
  have ends : ({ spot.ends with tail := other.tail } : Ends) =
      endsOf (before.reverse ++ node :: first :: others) := by
    change (⟨spot.ends.head, other.tail⟩ : Ends) = _
    rw [endsOf, shows.holds.head, otherHolds.tail]
    simp [Focus.toList, firstOr_append, lastOr_append, lastOr_cons]
  have linked := shows.linkIn otherHolds apart
  rw [List.append_nil] at linked
  refine ⟨?_, rfl⟩
  rw [ends]
  exact linked

/-- Where something follows, the ends stay. -/
theorem Shows.linkIn_between {next : Node} {rest : List Node}
    (shows : spot.Shows ⟨before, node :: next :: rest⟩)
    (otherHolds : spot.memory.Holds other (first :: others))
    (apart : ∀ id ∈ ids (first :: others), id ∉ ids (before.reverse ++ node :: next :: rest)) :
    Shows ⟨(Spot.linkIn spot.memory node.id first.id other.tail (some next.id)).updateAt (some next.id)
        ({ · with previous := other.tail }), spot.ends, some next.id⟩
      ⟨(before.reverse ++ node :: first :: others).reverse, next :: rest⟩ := by
  have ends : spot.ends = endsOf (before.reverse ++ node :: first :: others ++ next :: rest) := by
    rw [shows.holds.ends_eq, endsOf, endsOf]
    simp [Focus.toList, firstOr_append, lastOr_append, lastOr_cons]
  have linked := shows.linkIn otherHolds apart
  rw [← ends] at linked
  refine ⟨?_, rfl⟩
  rw [Focus.toList, List.reverse_reverse]
  exact linked

/-- Behind the settled seam, back to the node that is replaced. -/
theorem Shows.rejoined {next : Node} {rest : List Node}
    (seam : spot.Shows
      (Focus.seam ⟨(before.reverse ++ node :: first :: others).reverse, next :: rest⟩)) :
    Shows { spot with position := some node.id }
      ⟨before, node :: join (first :: others) (next :: rest)⟩ := by
  have listEq : before.reverse ++ node :: join (first :: others) (next :: rest) =
      (Focus.seam ⟨(before.reverse ++ node :: first :: others).reverse, next :: rest⟩).toList := by
    rw [Focus.toList_seam, List.reverse_reverse,
      show before.reverse ++ node :: first :: others = before.reverse ++ [node] ++ first :: others by simp,
      append_join (by simp)]
    simp
  refine ⟨?_, rfl⟩
  rw [Focus.toList, listEq]
  exact seam.holds

end LinkIn

/-- Replacing the cell at the position by the cells of another sequence splices the nodes in. -/
theorem Shows.replaceWith {other : Ends} {out : List Node}
    (shows : spot.Shows ⟨before, node :: after⟩) (fused : IsFused after)
    (otherHolds : spot.memory.Holds other out) (outFused : IsFused out)
    (apart : ∀ id ∈ ids out, id ∉ ids (before.reverse ++ node :: after)) :
    (spot.replaceWith other).Shows (Focus.splice out ⟨before, node :: after⟩) := by
  have position : spot.position = some node.id := shows.position
  have cell := shows.cellAt?
  rw [position] at cell
  have spliced : Focus.splice out ⟨before, node :: after⟩ = Focus.seam ⟨before, join out after⟩ := rfl
  rw [spliced]
  cases out with
  | nil =>
      have head : other.head = none := otherHolds.head
      simp only [Spot.replaceWith, position, cell, head]
      exact shows.remove fused
  | cons first others =>
      have head : other.head = some first.id := otherHolds.head
      cases after with
      | nil =>
          simp only [Spot.replaceWith, position, cell, head, firstOr_nil]
          rw [join_nil_right]
          exact (shows.linkIn_last otherHolds apart).remove outFused
      | cons next rest =>
          simp only [Spot.replaceWith, position, cell, head, firstOr_cons]
          have seam := (shows.linkIn_between otherHolds apart).settled fused
          exact seam.rejoined.remove (outFused.join fused)

/-- The ends of a sequence without some nodes: an end that is not among them stays. -/
theorem endsOf_erased (before between after : List Node) :
    (⟨if (firstOr before none).isNone then firstOr after none
        else firstOr (before.reverse ++ between ++ after) none,
      if (firstOr after none).isNone then firstOr before none
        else lastOr (before.reverse ++ between ++ after) none⟩ : Ends) =
      endsOf (before.reverse ++ after) := by
  rw [endsOf]
  congr 1
  · rcases List.eq_nil_or_concat before with rfl | ⟨earlier, final, rfl⟩
    · simp
    · simp only [List.concat_eq_append, List.reverse_append, List.reverse_cons, List.reverse_nil,
        List.nil_append, List.append_assoc, List.cons_append, firstOr_cons]
      rw [firstOr_append]
      cases earlier <;> rfl
  · rcases List.eq_nil_or_concat after with rfl | ⟨earlier, final, rfl⟩
    · simp
    · simp only [List.concat_eq_append, ← List.append_assoc, lastOr_append_singleton]
      rw [firstOr_append]
      cases earlier <;> rfl

section Erase

variable {between : List Node} {last : Option Nat}

/-- The last cell that is erased, which is the end of the sequence where none is given. -/
theorem Shows.last_eq (shows : spot.Shows ⟨before, between ++ after⟩) (nonempty : between ≠ [])
    (ending : last = lastOr between none ∨ last = none ∧ after = []) :
    last.or spot.ends.tail = lastOr between none := by
  rcases ending with rfl | ⟨rfl, rfl⟩
  · obtain ⟨earlier, final, rfl⟩ := List.eq_nil_or_concat between |>.resolve_left nonempty
    rw [List.concat_eq_append, lastOr_append_singleton]
    rfl
  · rw [Option.none_or, shows.holds.tail, Focus.toList, List.append_nil, lastOr_append]
    exact lastOr_of_ne_nil nonempty _ _

/-- That cell, and what is behind it. -/
theorem Shows.cellAt?_last (shows : spot.Shows ⟨before, between ++ after⟩) (nonempty : between ≠ [])
    (ending : last = lastOr between none ∨ last = none ∧ after = []) :
    ∃ cell, spot.memory.cellAt? (last.or spot.ends.tail) = some cell ∧
      cell.next = firstOr after none := by
  have holds : spot.memory.Holds spot.ends (before.reverse ++ between ++ after) := by
    simpa [Focus.toList] using shows.holds
  rw [shows.last_eq nonempty ending]
  obtain ⟨earlier, final, rfl⟩ := List.eq_nil_or_concat between |>.resolve_left nonempty
  rw [List.concat_eq_append, ← List.append_assoc, List.append_assoc] at holds
  rw [List.concat_eq_append, lastOr_append_singleton]
  exact ⟨_, holds.cellAt?, rfl⟩

/-- Linking over the cells that are erased. -/
theorem Shows.linkOver (shows : spot.Shows ⟨before, between ++ after⟩) :
    Shows ⟨(spot.memory.updateAt (firstOr before none)
        ({ · with next := firstOr after none })).updateAt (firstOr after none)
        ({ · with previous := firstOr before none }),
      ⟨if (firstOr before none).isNone then firstOr after none else spot.ends.head,
        if (firstOr after none).isNone then firstOr before none else spot.ends.tail⟩,
      firstOr after none⟩ ⟨before, after⟩ := by
  have holds : spot.memory.Holds spot.ends (before.reverse ++ between ++ after) := by
    simpa [Focus.toList] using shows.holds
  have linked := holds.relink
  rw [Memory.relink, lastOr_reverse] at linked
  rw [holds.head, holds.tail, endsOf_erased before between after]
  exact ⟨linked, rfl⟩

/-- Erasing up to a cell erases the nodes up to and with the one of that cell. -/
theorem Shows.eraseTo (shows : spot.Shows ⟨before, between ++ after⟩) (nonempty : between ≠ [])
    (ending : last = lastOr between none ∨ last = none ∧ after = []) (fused : IsFused after) :
    (spot.eraseTo last).Shows (Focus.erase between.length ⟨before, between ++ after⟩) := by
  obtain ⟨node, rest, betweenEq⟩ := List.exists_cons_of_ne_nil nonempty
  have cell : spot.memory.cellAt? spot.position =
      some ⟨node.token, firstOr before none, firstOr (rest ++ after) none⟩ := by
    subst betweenEq
    exact shows.cellAt?
  obtain ⟨lastCell, lastAt, lastNext⟩ := shows.cellAt?_last nonempty ending
  have next : spot.memory.next (last.or spot.ends.tail) = firstOr after none := by
    rw [Memory.next, lastAt, Option.bind_some, lastNext]
  have erased : Focus.erase between.length ⟨before, between ++ after⟩ =
      Focus.seam ⟨before, after⟩ := by
    simp [Focus.erase, Focus.atEnd, nonempty]
  have shown := shows.linkOver
  rw [erased, Spot.eraseTo]
  simp only [cell, next]
  split
  · exact shown.settled fused
  · rename_i atEnd
    rw [seam_of_atEnd (by cases before <;> cases after <;> simp_all)]
    exact shown

end Erase

end Spot

/-! ## Nodes and their tokens -/

namespace Node

/-- The tokens of nodes. -/
abbrev tokens (nodes : List Node) : List Token :=
  nodes.map (·.token)

theorem isFused_tokens {nodes : List Node} : IsFused (tokens nodes) ↔ IsFused nodes := by
  rw [IsFused, IsFused, List.isChain_map]
  simp only [fuse?_eq_map, Option.map_eq_none_iff]

theorem tokens_glue (node : Node) (nodes : List Node) :
    tokens (glue node nodes) = glue node.token (tokens nodes) := by
  cases nodes with
  | nil => rfl
  | cons next rest =>
      cases fuses : fuse? node.token next.token <;> simp [glue, fuse?_eq_map, fuses]

theorem tokens_join (first second : List Node) :
    tokens (join first second) = join (tokens first) (tokens second) := by
  rcases List.eq_nil_or_concat first with rfl | ⟨earlier, last, rfl⟩
  · rfl
  · rw [List.concat_eq_append, join_append_singleton]
    simp only [tokens, List.map_append, List.map_cons, List.map_nil, join_append_singleton]
    rw [← tokens, ← tokens, ← tokens, tokens_glue]

/-- Whether nodes are fused is a matter of the kinds of their tokens. -/
theorem isFused_congr {nodes nodes' : List Node}
    (kinds : nodes'.map (·.token.kind) = nodes.map (·.token.kind)) :
    IsFused nodes' ↔ IsFused nodes := by
  have byKinds : ∀ nodes : List Node, IsFused nodes ↔
      (nodes.map (·.token.kind)).IsChain fun first second => ¬(first = second ∧ first.fuses) := by
    intro nodes
    rw [IsFused, List.isChain_map]
    simp only [fuse?_eq_map, Option.map_eq_none_iff, Token.fuse?_eq_none_iff]
  rw [byKinds, byKinds, kinds]

theorem firstOr_congr {nodes nodes' : List Node} (same : ids nodes' = ids nodes)
    (otherwise : Option Nat) : firstOr nodes' otherwise = firstOr nodes otherwise := by
  cases nodes with
  | nil =>
      have empty : nodes' = [] := by simpa using same
      rw [empty]
  | cons node rest =>
      cases nodes' with
      | nil => simp at same
      | cons node' rest' =>
          have first : node'.id = node.id := by
            simp only [ids, List.map_cons, List.cons.injEq] at same
            exact same.1
          rw [firstOr_cons, firstOr_cons, first]

end Node

namespace Focus

variable (before after : List Node)

theorem tokens_seam :
    seam ⟨tokens before, tokens after⟩ =
      ⟨tokens (seam ⟨before, after⟩).before, tokens (seam ⟨before, after⟩).after⟩ := by
  cases before with
  | nil => rfl
  | cons previous earlier =>
      cases after with
      | nil => rfl
      | cons next rest =>
          cases fuses : fuse? previous.token next.token <;> simp [seam, fuse?_eq_map, fuses]

/-- Whatever fuses at the seam, the nodes before it keep their addresses. -/
theorem ids_before_seam : ids (seam ⟨before, after⟩).before = ids before := by
  cases before with
  | nil => rfl
  | cons previous earlier =>
      cases after with
      | nil => rfl
      | cons next rest =>
          cases fuses : fuse? previous.token next.token <;> simp [seam, fuse?_eq_map, fuses]

/-- Whatever fuses at the seam, the nodes before it keep their kinds. -/
theorem kinds_before_seam :
    (seam ⟨before, after⟩).before.map (·.token.kind) = before.map (·.token.kind) := by
  cases before with
  | nil => rfl
  | cons previous earlier =>
      cases after with
      | nil => rfl
      | cons next rest =>
          cases fuses : fuse? previous.token next.token with
          | none => simp [seam, fuse?_eq_map, fuses]
          | some token =>
              have kind := (Token.fuse?_eq_some_iff.mp fuses).2.2
              simp [seam, fuse?_eq_map, fuses, kind]

end Focus

end Linework
