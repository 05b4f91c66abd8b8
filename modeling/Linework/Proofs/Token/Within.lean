import Linework.Proofs.Token.Linked

/-!
# What an edit leaves alone

An edit of linked cells changes cells of the sequence it works on, and of the one it links in, and no
others: the memory afterwards is the memory before within the addresses of those nodes. A sequence that
has none of these addresses is held as it was.
-/

namespace Linework

namespace Node

theorem ids_glue_subset (node : Node) (nodes : List Node) :
    ids (glue node nodes) ⊆ node.id :: ids nodes := by
  cases nodes with
  | nil => exact List.Subset.refl _
  | cons next rest =>
      cases fuses : fuse? node.token next.token with
      | none => simp [glue, fuse?_eq_map, fuses]
      | some token => simp [glue, fuse?_eq_map, fuses]

/-- Joining gives no new addresses. -/
theorem ids_join_subset (first second : List Node) :
    ids (join first second) ⊆ ids first ++ ids second := by
  rcases List.eq_nil_or_concat first with rfl | ⟨earlier, last, rfl⟩
  · exact List.Subset.refl _
  · rw [List.concat_eq_append, join_append_singleton, ids, List.map_append, ids, List.map_append,
      List.append_assoc]
    exact List.append_subset.mpr ⟨List.subset_append_left _ _,
      List.Subset.trans (ids_glue_subset last second) (List.subset_append_right _ _)⟩

end Node

open Node

namespace Memory

/-- The memory is the other one but for what is held at some addresses. -/
structure Within (memory' memory : Memory) (touched : List Nat) : Prop where
  fresh_eq : memory'.fresh = memory.fresh
  cell?_eq : ∀ id ∉ touched, memory'.cell? id = memory.cell? id

variable {memory memory' memory'' : Memory} {touched : List Nat} {first second nodes : List Node}

theorem Within.refl (memory : Memory) (touched : List Nat) : memory.Within memory touched :=
  ⟨rfl, fun _ _ => rfl⟩

theorem Within.trans (later : memory''.Within memory' touched) (earlier : memory'.Within memory touched) :
    memory''.Within memory touched := by
  constructor
  · rw [later.fresh_eq, earlier.fresh_eq]
  · intro id outside
    rw [later.cell?_eq id outside, earlier.cell?_eq id outside]

theorem Within.extends (within : memory'.Within memory (ids nodes)) : memory'.Extends memory nodes := by
  constructor
  · exact Nat.le_of_eq within.fresh_eq.symm
  · intro id _ outside
    exact within.cell?_eq id outside

theorem within_update {address : Nat} (mem : address ∈ touched) (change : Cell → Cell) :
    (memory.update address change).Within memory touched := by
  constructor
  · rfl
  · intro id outside
    apply cell?_update_of_ne
    rintro rfl
    exact outside mem

theorem within_updateAt {position : Option Nat} (inside : ∀ address ∈ position, address ∈ touched)
    (change : Cell → Cell) : (memory.updateAt position change).Within memory touched := by
  cases position with
  | none => exact .refl memory touched
  | some address => exact within_update (inside address rfl) change

theorem mem_of_firstOr {address : Nat} (inside : ids nodes ⊆ touched)
    (first : address ∈ firstOr nodes none) : address ∈ touched :=
  inside (mem_ids_of_firstOr first)

theorem mem_of_lastOr {address : Nat} (inside : ids nodes ⊆ touched)
    (last : address ∈ lastOr nodes none) : address ∈ touched :=
  inside (mem_ids_of_lastOr last)

theorem within_relink (firstInside : ids first ⊆ touched) (secondInside : ids second ⊆ touched) :
    (memory.relink first second).Within memory touched := by
  have lastLinked : (memory.updateAt (lastOr first none)
      ({ · with next := firstOr second none })).Within memory touched :=
    within_updateAt (fun _ last => mem_of_lastOr firstInside last) _
  exact (within_updateAt (fun _ head => mem_of_firstOr secondInside head) _).trans lastLinked

end Memory

namespace Spot

open Memory

variable {spot : Spot} {focus : Focus Node} {before after others : List Node} {node first : Node}
  {touched : List Nat}

/-- The addresses on either side of a position. -/
theorem inside_iff :
    ids (Focus.toList ⟨before, after⟩) ⊆ touched ↔ ids before ⊆ touched ∧ ids after ⊆ touched := by
  rw [Focus.toList, ids, List.map_append, List.append_subset, List.map_reverse]
  simp only [List.reverse_subset]

theorem inside_cons : ids (node :: after) ⊆ touched ↔ node.id ∈ touched ∧ ids after ⊆ touched :=
  List.cons_subset

theorem Shows.unlink_within (shows : spot.Shows ⟨before, node :: after⟩)
    (inside : ids (Focus.toList ⟨before, node :: after⟩) ⊆ touched) :
    spot.unlink.1.memory.Within spot.memory touched := by
  obtain ⟨beforeInside, afterInside⟩ := inside_iff.mp inside
  rw [shows.unlink_eq]
  apply within_relink
  · simpa using beforeInside
  · exact (inside_cons.mp afterInside).2

theorem Shows.settle_within {rounds : Nat} (shows : spot.Shows focus)
    (inside : ids focus.toList ⊆ touched) :
    (spot.settle rounds).memory.Within spot.memory touched := by
  induction rounds generalizing spot focus with
  | zero => exact .refl spot.memory touched
  | succ rounds ih =>
      obtain ⟨before, after⟩ := focus
      have fusion := shows.fusion?
      cases before with
      | nil =>
          simp only [Spot.settle, fusion]
          exact .refl spot.memory touched
      | cons previous earlier =>
          cases after with
          | nil =>
              simp only [Spot.settle, fusion]
              exact .refl spot.memory touched
          | cons next rest =>
              cases fuses : fuse? previous.token next.token with
              | none =>
                  simp only [Spot.settle, fusion, fuses, Option.map_none]
                  exact .refl spot.memory touched
              | some token =>
                  simp only [Spot.settle, fusion, fuses, Option.map_some]
                  have changed := shows.setToken token
                  obtain ⟨beforeInside, afterInside⟩ := inside_iff.mp inside
                  have previousInside := (inside_cons.mp beforeInside).1
                  have changedInside : ids (Focus.toList ⟨⟨previous.id, token⟩ :: earlier, next :: rest⟩) ⊆
                      touched := inside_iff.mpr ⟨beforeInside, afterInside⟩
                  have folded := (changed.unlink_within changedInside).trans
                    (within_update previousInside _)
                  have unlinked := changed.unlink
                  split
                  · rename_i spot' unlinkEq
                    rw [unlinkEq] at unlinked folded
                    have restInside : ids (Focus.toList ⟨⟨previous.id, token⟩ :: earlier, rest⟩) ⊆
                        touched :=
                      inside_iff.mpr ⟨beforeInside, (inside_cons.mp afterInside).2⟩
                    exact (ih unlinked restInside).trans folded
                  · rename_i spot' unlinkEq
                    rw [unlinkEq] at folded
                    exact folded

theorem Shows.settled_within (shows : spot.Shows focus) (inside : ids focus.toList ⊆ touched) :
    spot.settled.memory.Within spot.memory touched :=
  shows.settle_within inside

theorem Shows.remove_within (shows : spot.Shows ⟨before, node :: after⟩)
    (inside : ids (Focus.toList ⟨before, node :: after⟩) ⊆ touched) :
    spot.remove.memory.Within spot.memory touched := by
  have unlinked := shows.unlink
  have unlinkedWithin := shows.unlink_within inside
  obtain ⟨beforeInside, afterInside⟩ := inside_iff.mp inside
  rw [Spot.remove]
  split
  · rename_i spot' unlinkEq
    rw [unlinkEq] at unlinked unlinkedWithin
    have restInside : ids (Focus.toList ⟨before, after⟩) ⊆ touched :=
      inside_iff.mpr ⟨beforeInside, (inside_cons.mp afterInside).2⟩
    exact (unlinked.settled_within restInside).trans unlinkedWithin
  · rename_i spot' unlinkEq
    rw [unlinkEq] at unlinkedWithin
    exact unlinkedWithin

theorem Shows.setText_within (shows : spot.Shows ⟨before, node :: after⟩)
    (inside : ids (Focus.toList ⟨before, node :: after⟩) ⊆ touched) (text : String) :
    (spot.setText text).memory.Within spot.memory touched := by
  apply within_updateAt
  intro address position
  rw [shows.position] at position
  exact mem_of_firstOr (inside_iff.mp inside).2 position

theorem Shows.eraseTo_within {between : List Node} {last : Option Nat}
    (shows : spot.Shows ⟨before, between ++ after⟩) (nonempty : between ≠ [])
    (ending : last = lastOr between none ∨ last = none ∧ after = [])
    (inside : ids (Focus.toList ⟨before, between ++ after⟩) ⊆ touched) :
    (spot.eraseTo last).memory.Within spot.memory touched := by
  obtain ⟨beforeInside, afterInside⟩ := inside_iff.mp inside
  have restInside : ids after ⊆ touched := by
    rw [ids, List.map_append, List.append_subset] at afterInside
    exact afterInside.2
  have beforeLinked : (spot.memory.updateAt (firstOr before none)
      ({ · with next := firstOr after none })).Within spot.memory touched :=
    within_updateAt (fun _ head => mem_of_firstOr beforeInside head) _
  have linked := (within_updateAt (fun _ head => mem_of_firstOr restInside head)
    ({ · with previous := firstOr before none })).trans beforeLinked
  obtain ⟨node, rest, betweenEq⟩ := List.exists_cons_of_ne_nil nonempty
  have cell : spot.memory.cellAt? spot.position =
      some ⟨node.token, firstOr before none, firstOr (rest ++ after) none⟩ := by
    subst betweenEq
    exact shows.cellAt?
  obtain ⟨lastCell, lastAt, lastNext⟩ := shows.cellAt?_last nonempty ending
  have next : spot.memory.next (last.or spot.ends.tail) = firstOr after none := by
    rw [Memory.next, lastAt, Option.bind_some, lastNext]
  have shown := shows.linkOver
  rw [Spot.eraseTo]
  simp only [cell, next]
  split
  · exact (shown.settled_within (inside_iff.mpr ⟨beforeInside, restInside⟩)).trans linked
  · exact linked

theorem linkIn_within {memory : Memory} {last following : Option Nat}
    (nodeInside : node.id ∈ touched) (firstInside : first.id ∈ touched)
    (lastInside : ∀ address ∈ last, address ∈ touched) :
    (linkIn memory node.id first.id last following).Within memory touched := by
  have nodeLinked : (memory.updateAt (some node.id) ({ · with next := some first.id })).Within memory
      touched := within_update nodeInside _
  have firstLinked := (within_update firstInside ({ · with previous := some node.id })).trans nodeLinked
  exact (within_updateAt lastInside _).trans firstLinked

theorem Shows.replaceWith_within {other : Ends} {out : List Node}
    (shows : spot.Shows ⟨before, node :: after⟩) (fused : IsFused after)
    (otherHolds : spot.memory.Holds other out)
    (apart : ∀ id ∈ ids out, id ∉ ids (before.reverse ++ node :: after))
    (inside : ids (Focus.toList ⟨before, node :: after⟩) ⊆ touched) (outInside : ids out ⊆ touched) :
    (spot.replaceWith other).memory.Within spot.memory touched := by
  have position : spot.position = some node.id := shows.position
  have cell := shows.cellAt?
  rw [position] at cell
  obtain ⟨beforeInside, afterInside⟩ := inside_iff.mp inside
  obtain ⟨nodeInside, restInside⟩ := inside_cons.mp afterInside
  cases out with
  | nil =>
      have head : other.head = none := otherHolds.head
      simp only [Spot.replaceWith, position, cell, head]
      exact shows.remove_within inside
  | cons first others =>
      have head : other.head = some first.id := otherHolds.head
      have firstInside := (inside_cons.mp outInside).1
      have tailInside : ∀ address ∈ other.tail, address ∈ touched := by
        rw [otherHolds.tail]
        exact fun _ last => mem_of_lastOr outInside last
      cases after with
      | nil =>
          simp only [Spot.replaceWith, position, cell, head, firstOr_nil]
          have linked := shows.linkIn_last otherHolds apart
          have linkedInside : ids (Focus.toList ⟨before, node :: first :: others⟩) ⊆ touched :=
            inside_iff.mpr ⟨beforeInside, inside_cons.mpr ⟨nodeInside, outInside⟩⟩
          exact (linked.remove_within linkedInside).trans
            (linkIn_within nodeInside firstInside tailInside)
      | cons next rest =>
          simp only [Spot.replaceWith, position, cell, head, firstOr_cons]
          have linked := shows.linkIn_between otherHolds apart
          have nextInside := (inside_cons.mp restInside).1
          have linkedWithin : (Spot.linkIn spot.memory node.id first.id other.tail
              (some next.id)).Within spot.memory touched :=
            linkIn_within nodeInside firstInside tailInside
          have passedInside : ids (before.reverse ++ node :: first :: others).reverse ⊆ touched := by
            rw [ids, List.map_reverse, List.reverse_subset]
            exact inside_iff.mpr ⟨beforeInside, inside_cons.mpr ⟨nodeInside, outInside⟩⟩
          have seamWithin := (linked.settled_within (inside_iff.mpr ⟨passedInside, restInside⟩)).trans
            ((within_update nextInside _).trans linkedWithin)
          have rejoined := (linked.settled fused).rejoined
          have joinInside : ids (join (first :: others) (next :: rest)) ⊆ touched :=
            List.Subset.trans (ids_join_subset _ _) (List.append_subset.mpr ⟨outInside, restInside⟩)
          have removed := rejoined.remove_within
            (inside_iff.mpr ⟨beforeInside, inside_cons.mpr ⟨nodeInside, joinInside⟩⟩)
          exact removed.trans seamWithin

end Spot

end Linework
