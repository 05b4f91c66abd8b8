import Linework.Proofs.Token.Linked
import Linework.Token.Strict

/-!
# Edits do not slip

Where cells are linked both ways, with the ends where the links end, every edit that takes cells for
granted finds them, and does the same as the edit that does not.
-/

namespace Linework

open Node Memory

namespace Memory

/-- Whether there is a cell at the position. -/
def Has (memory : Memory) (position : Option Nat) : Prop :=
  (memory.cellAt? position).isSome

variable {memory : Memory} {position : Option Nat} {change : Cell → Cell} {ends : Ends}
  {nodes : List Node}

/-- Changes of cells leave every cell where it is. -/
@[simp]
theorem has_updateAt (memory : Memory) (changed position : Option Nat) (change : Cell → Cell) :
    (memory.updateAt changed change).Has position ↔ memory.Has position := by
  cases changed with
  | none => exact Iff.rfl
  | some address =>
      cases position with
      | none => exact Iff.rfl
      | some other =>
          by_cases same : other = address
          · subst same
            simp [Has, Memory.cellAt?, updateAt, cell?_update_self]
          · simp [Has, Memory.cellAt?, updateAt, cell?_update_of_ne same]

theorem Holds.has (holds : memory.Holds ends nodes) {node : Node} (mem : node ∈ nodes) :
    memory.Has (some node.id) := by
  obtain ⟨first, second, rfl⟩ := List.append_of_mem mem
  have cell : memory.cellAt? (some node.id) = some _ := holds.chain.cell?
  rw [Has, cell]
  rfl

theorem Holds.has_firstOr (holds : memory.Holds ends nodes) {part : List Node}
    (within : part ⊆ nodes) (nonempty : part ≠ []) : memory.Has (firstOr part none) := by
  obtain ⟨node, rest, rfl⟩ := List.exists_cons_of_ne_nil nonempty
  exact holds.has (within (List.mem_cons_self ..))

end Memory

namespace Strict

/-- What has not slipped goes on. -/
@[simp]
theorem ok_bind {ε α β : Type} (value : α) (next : α → Except ε β) :
    (Except.ok value >>= next) = next value :=
  rfl

@[simp]
theorem pure_eq_ok {ε α : Type} (value : α) : (pure value : Except ε α) = .ok value :=
  rfl

variable {memory : Memory} {position : Option Nat} {change : Cell → Cell}

theorem cellAt_eq {cell : Cell} (found : memory.cellAt? position = some cell) :
    cellAt memory position = .ok cell := by
  rw [cellAt, found]
  rfl

theorem tokenAt_eq {token : Token} (found : memory.tokenAt? position = some token) :
    tokenAt memory position = .ok token := by
  obtain ⟨cell, cellFound, rfl⟩ := Option.map_eq_some_iff.mp found
  rw [tokenAt, cellAt_eq cellFound]
  rfl

theorem changeAt_eq (has : memory.Has position) :
    changeAt memory position change = .ok (memory.updateAt position change) := by
  obtain ⟨cell, found⟩ := Option.isSome_iff_exists.mp has
  rw [changeAt, cellAt_eq found]
  rfl

theorem changeUnlessEnd_eq (has : position ≠ none → memory.Has position) :
    changeUnlessEnd memory position change = .ok (memory.updateAt position change) := by
  unfold changeUnlessEnd
  cases position with
  | none => rfl
  | some address => exact changeAt_eq (has (Option.some_ne_none address))

variable {spot : Spot} {focus : Focus Node} {before after : List Node} {node : Node}

theorem unlink_eq (shows : spot.Shows ⟨before, node :: after⟩) : unlink spot = .ok spot.unlink := by
  have position : spot.position = some node.id := shows.position
  have cell := shows.cellAt?
  rw [position] at cell
  have holds : spot.memory.Holds spot.ends (before.reverse ++ node :: after) := shows.holds
  have hasBefore : before ≠ [] → spot.memory.Has (firstOr before none) :=
    holds.has_firstOr fun other mem => by simp [mem]
  have hasAfter : after ≠ [] → spot.memory.Has (firstOr after none) :=
    holds.has_firstOr fun other mem => by simp [mem]
  unfold unlink Spot.unlink
  simp only [position, cell, cellAt_eq cell, ok_bind, pure_eq_ok]
  cases before with
  | nil =>
      cases after with
      | nil =>
          -- The only cell is the last one, so that there is no other whose link is changed.
          have tail : spot.ends.tail = some node.id := holds.tail
          simp only [firstOr_nil, tail, if_true]
      | cons next rest =>
          simp only [firstOr_nil, changeAt_eq (hasAfter (List.cons_ne_nil _ _)), ok_bind]
          split <;> rfl
  | cons previous earlier =>
      have hasPrevious : spot.memory.Has (some previous.id) := hasBefore (List.cons_ne_nil _ _)
      cases after with
      | nil =>
          simp only [firstOr_nil, firstOr_cons, changeAt_eq hasPrevious, ok_bind]
          rfl
      | cons next rest =>
          have hasNext : spot.memory.Has (some next.id) := hasAfter (List.cons_ne_nil _ _)
          simp only [firstOr_cons, changeAt_eq, has_updateAt, hasPrevious, hasNext, ok_bind]
          rfl

theorem fusion_eq (shows : spot.Shows ⟨before, after⟩) : fusion spot = .ok spot.fusion? := by
  cases after with
  | nil =>
      have position : spot.position = none := shows.position
      simp [fusion, Spot.fusion?, position, Memory.cellAt?]
  | cons next rest =>
      have position : spot.position = some next.id := shows.position
      have cell := shows.cellAt?
      rw [position] at cell
      unfold fusion Spot.fusion?
      simp only [position, cell, cellAt_eq cell, ok_bind]
      cases before with
      | nil => rfl
      | cons previous earlier =>
          have holds : spot.memory.Holds spot.ends ((previous :: earlier).reverse ++ next :: rest) :=
            shows.holds
          have hasPrevious : spot.memory.Has (some previous.id) := holds.has (by simp)
          obtain ⟨found, foundAt⟩ := Option.isSome_iff_exists.mp hasPrevious
          have sameCell : spot.memory.cell? previous.id = some found := foundAt
          simp only [firstOr_cons, cellAt_eq foundAt, ok_bind, Option.bind_eq_bind, Option.bind_some,
            sameCell]
          cases fuse? found.token next.token <;> rfl

/-- Cells never fuse for more than one round where the rest is fused already. -/
theorem settle_eq {rounds : Nat} (shows : spot.Shows focus) (fused : IsFused focus.after)
    (enough : focus.before ≠ [] → 0 < rounds) :
    settle (rounds + 1) spot = .ok (spot.settle (rounds + 1)) := by
  obtain ⟨before, after⟩ := focus
  have fusion := shows.fusion?
  rw [settle, Spot.settle, fusion_eq shows, ok_bind]
  cases before with
  | nil =>
      rw [fusion]
      rfl
  | cons previous earlier =>
      cases after with
      | nil =>
          rw [fusion]
          rfl
      | cons next rest =>
          cases fuses : fuse? previous.token next.token with
          | none =>
              simp only [fusion, fuses, Option.map_none]
              rfl
          | some token =>
              have holds : spot.memory.Holds spot.ends ((previous :: earlier).reverse ++ next :: rest) :=
                shows.holds
              have hasPrevious : spot.memory.Has (some previous.id) := holds.has (by simp)
              obtain ⟨changed, unlinked, nothing⟩ := shows.fold fused fuses
              obtain ⟨rounds, rfl⟩ := Nat.exists_eq_succ_of_ne_zero (enough (by simp)).ne'
              simp only [fusion, fuses, Option.map_some, changeAt_eq hasPrevious, ok_bind, updateAt,
                unlink_eq changed]
              rcases unlinkEq : Spot.unlink _ with ⟨spot', between⟩
              rw [unlinkEq] at unlinked nothing
              cases between with
              | false => rfl
              | true =>
                  simp only [settle, Spot.settle, fusion_eq unlinked, nothing, ok_bind]
                  rfl

theorem settled_eq (shows : spot.Shows focus) (fused : IsFused focus.after) :
    settled spot = .ok spot.settled := by
  refine settle_eq shows fused fun some => ?_
  -- A sequence with a node has a cell.
  obtain ⟨node, rest, beforeEq⟩ := List.exists_cons_of_ne_nil some
  have allocated := shows.holds.allocated node.id (by simp [Focus.toList, beforeEq])
  omega

theorem remove_eq (shows : spot.Shows ⟨before, node :: after⟩) (fused : IsFused after) :
    remove spot = .ok spot.remove := by
  have unlinked := shows.unlink
  unfold remove Spot.remove
  rw [unlink_eq shows, ok_bind]
  rcases unlinkEq : spot.unlink with ⟨spot', between⟩
  rw [unlinkEq] at unlinked
  cases between with
  | false => rfl
  | true => exact settled_eq unlinked fused

theorem replaceWith_eq {other : Ends} {out : List Node} (shows : spot.Shows ⟨before, node :: after⟩)
    (fused : IsFused after) (otherHolds : spot.memory.Holds other out) (outFused : IsFused out)
    (apart : ∀ id ∈ ids out, id ∉ ids (before.reverse ++ node :: after)) :
    replaceWith spot other = .ok (spot.replaceWith other) := by
  have position : spot.position = some node.id := shows.position
  have cell := shows.cellAt?
  rw [position] at cell
  have hasNode : spot.memory.Has (some node.id) := shows.holds.has (by simp [Focus.toList])
  unfold replaceWith Spot.replaceWith
  simp only [position, cell]
  cases out with
  | nil =>
      have head : other.head = none := otherHolds.head
      simp only [head]
      exact remove_eq shows fused
  | cons first others =>
      have head : other.head = some first.id := otherHolds.head
      have hasFirst : spot.memory.Has (some first.id) := otherHolds.has (by simp)
      have hasLast : spot.memory.Has (lastOr (first :: others) none) :=
        otherHolds.has_firstOr (fun other mem => List.mem_reverse.mp mem) (by simp)
      rw [← otherHolds.tail] at hasLast
      simp only [head, cellAt_eq cell, changeAt_eq, has_updateAt, hasNode, hasFirst, hasLast, ok_bind]
      cases after with
      | nil => exact remove_eq (shows.linkIn_last otherHolds apart) outFused
      | cons next rest =>
          have hasNext : spot.memory.Has (some next.id) := shows.holds.has (by simp [Focus.toList])
          have linked := shows.linkIn_between otherHolds apart
          have settles := settled_eq linked fused
          simp only [Spot.linkIn] at settles
          simp only [firstOr_cons, changeAt_eq, has_updateAt, hasNext, ok_bind]
          rw [settles, ok_bind]
          exact remove_eq (linked.settled fused).rejoined (outFused.join fused)

/-- Erasing up to a cell that is there. -/
theorem eraseTo_eq {between : List Node} {last : Option Nat}
    (shows : spot.Shows ⟨before, between ++ after⟩) (nonempty : between ≠ [])
    (ending : last = lastOr between none ∨ last = none ∧ after = []) (fused : IsFused after) :
    eraseTo spot last = .ok (spot.eraseTo last) := by
  obtain ⟨node, rest, betweenEq⟩ := List.exists_cons_of_ne_nil nonempty
  have position : spot.position = some node.id := by
    rw [shows.position, betweenEq]
    rfl
  have cell : spot.memory.cellAt? (some node.id) =
      some ⟨node.token, firstOr before none, firstOr (rest ++ after) none⟩ := by
    subst betweenEq
    rw [← position]
    exact shows.cellAt?
  obtain ⟨final, finalAt, finalNext⟩ := shows.cellAt?_last nonempty ending
  have next : spot.memory.next (last.or spot.ends.tail) = firstOr after none := by
    rw [Memory.next, finalAt, Option.bind_some, finalNext]
  have holds : spot.memory.Holds spot.ends (before.reverse ++ (between ++ after)) := shows.holds
  have hasBefore : firstOr before none ≠ none → spot.memory.Has (firstOr before none) := fun some =>
    holds.has_firstOr (fun other mem => by simp [mem]) (some ∘ firstOr_eq_none_iff.mpr)
  have hasAfter : firstOr after none ≠ none → spot.memory.Has (firstOr after none) := fun some =>
    holds.has_firstOr (fun other mem => by simp [mem]) (some ∘ firstOr_eq_none_iff.mpr)
  have hasAfter' := fun some => (has_updateAt spot.memory (firstOr before none) (firstOr after none)
    ({ · with next := firstOr after none })).mpr (hasAfter some)
  have linked := shows.linkOver
  unfold eraseTo Spot.eraseTo
  simp only [position, cell, cellAt_eq cell, cellAt_eq finalAt, finalNext, next, ok_bind,
    changeUnlessEnd_eq hasBefore, changeUnlessEnd_eq hasAfter']
  split
  · exact settled_eq linked fused
  · rfl

theorem setText_eq (shows : spot.Shows ⟨before, node :: after⟩) (text : String) :
    setText spot text = .ok (spot.setText text) := by
  have position : spot.position = some node.id := shows.position
  have has : spot.memory.Has spot.position := by
    rw [position]
    exact shows.holds.has (by simp [Focus.toList])
  rw [setText, changeAt_eq has]
  rfl

end Strict

end Linework
