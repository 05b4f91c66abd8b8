import Linework.Proofs.Token.Within

/-!
# Edits at a node that is sought

An edit begins with seeking a node: the sequence is cut in two before it. Whatever the position, an edit
of linked cells shows the edit of the focus, changes none but the cells of the sequences it is given, and
keeps sequences fused.
-/

namespace Linework

open Node

/-! ## Seeking a node -/

namespace Focus

variable {nodes : List Node} {node? : Option Nat}

theorem toList_seek (node? : Option Nat) (nodes : List Node) : (seek node? nodes).toList = nodes := by
  rw [seek, toList, List.reverse_reverse]
  exact List.prefix_iff_eq_append.mp (List.takeWhile_prefix _)

theorem after_seek (node? : Option Nat) (nodes : List Node) :
    (seek node? nodes).after = nodes.dropWhile fun node => some node.id != node? := by
  have parts := List.takeWhile_append_dropWhile (p := fun node : Node => some node.id != node?) (l := nodes)
  have split := toList_seek node? nodes
  rw [seek, toList, List.reverse_reverse] at split
  exact List.append_cancel_left (split.trans parts.symm)

/-- Where the node is in the sequence, the position found is at it. -/
theorem position_seek (inside : ∀ id ∈ node?, id ∈ ids nodes) :
    firstOr (seek node? nodes).after none = node? := by
  rw [after_seek]
  induction nodes with
  | nil =>
      cases node? with
      | none => rfl
      | some id => exact absurd (inside id rfl) List.not_mem_nil
  | cons node rest ih =>
      by_cases here : some node.id = node?
      · simp [← here]
      · have further : ∀ id ∈ node?, id ∈ ids rest := by
          intro id sought
          rcases List.mem_cons.mp (inside id sought) with atHead | inRest
          · rw [Option.mem_def, atHead] at sought
            exact absurd sought.symm here
          · exact inRest
        rw [List.dropWhile_cons_of_pos (by simpa using here)]
        exact ih further

/-- The nodes up to and with the one that is sought, or all of them when none is. -/
theorem exists_range {last? : Option Nat} (met : ∀ id ∈ last?, id ∈ ids nodes) (nonempty : nodes ≠ []) :
    ∃ between rest, nodes = between ++ rest ∧ between ≠ [] ∧
      nodes.take ((nodes.takeWhile fun node => some node.id != last?).length + 1) = between ∧
      (last? = lastOr between none ∨ last? = none ∧ rest = []) := by
  have position := position_seek met
  simp only [seek] at position
  generalize (nodes.takeWhile fun node => some node.id != last?).length = count at position ⊢
  cases behind : nodes.drop count with
  | nil =>
      rw [behind, firstOr_nil] at position
      have short : nodes.length ≤ count + 1 := Nat.le_succ_of_le (List.drop_eq_nil_iff.mp behind)
      exact ⟨nodes, [], (List.append_nil _).symm, nonempty, List.take_of_length_le short,
        Or.inr ⟨position.symm, rfl⟩⟩
  | cons node rest =>
      rw [behind, firstOr_cons] at position
      have found : nodes[count]? = some node := by rw [← List.head?_drop, behind, List.head?_cons]
      refine ⟨nodes.take count ++ [node], rest, ?_, by simp, ?_, Or.inl ?_⟩
      · rw [List.append_assoc, List.singleton_append, ← behind, List.take_append_drop]
      · rw [List.take_add_one, found, Option.toList_some]
      · rw [lastOr_append_singleton, position]

theorem node?_eq_firstOr (focus : Focus Node) : focus.node? = firstOr focus.after none := by
  obtain ⟨before, after⟩ := focus
  cases after <;> rfl

theorem after_advance (focus : Focus Node) : focus.advance.after = focus.after.tail := by
  obtain ⟨before, after⟩ := focus
  cases after <;> rfl

/-! ## What an edit at a position keeps -/

section Edits

variable {before after items : List Node} {focus : Focus Node}

theorem isFused_seam (beforeFused : IsFused before.reverse) (afterFused : IsFused after) :
    IsFused (seam ⟨before, after⟩).toList := by
  rw [toList_seam]
  exact beforeFused.join afterFused

theorem isFused_erase (fused : IsFused focus.toList) (count : Nat) :
    IsFused (focus.erase count).toList := by
  obtain ⟨beforeFused, afterFused, _⟩ := isFused_append.mp fused
  rw [erase]
  split
  · exact fused
  · rw [← List.take_append_drop count focus.after] at afterFused
    exact isFused_seam beforeFused (isFused_append.mp afterFused).2.1

theorem isFused_splice (fused : IsFused focus.toList) (itemsFused : IsFused items) :
    IsFused (focus.splice items).toList := by
  obtain ⟨before, after⟩ := focus
  obtain ⟨beforeFused, afterFused, _⟩ := isFused_append.mp fused
  cases after with
  | nil => exact fused
  | cons node rest => exact isFused_seam beforeFused (itemsFused.join afterFused.tail)

theorem isFused_modify {change : Node → Node} (fused : IsFused focus.toList)
    (kind : ∀ node, (change node).token.kind = node.token.kind) :
    IsFused (focus.modify change).toList := by
  obtain ⟨before, after⟩ := focus
  cases after with
  | nil => exact fused
  | cons node rest =>
      have kinds : (modify change ⟨before, node :: rest⟩).toList.map (·.token.kind) =
          (toList ⟨before, node :: rest⟩).map (·.token.kind) := by simp [modify, toList, kind]
      exact (isFused_congr kinds).mpr fused

theorem ids_modify_subset {change : Node → Node} (same : ∀ node, (change node).id = node.id)
    (focus : Focus Node) : ids (focus.modify change).toList ⊆ ids focus.toList := by
  obtain ⟨before, after⟩ := focus
  cases after with
  | nil => exact List.Subset.refl _
  | cons node rest => simp [modify, toList, same]

theorem ids_seam_subset (before after : List Node) :
    ids (seam ⟨before, after⟩).toList ⊆ ids (Focus.toList ⟨before, after⟩) := by
  rw [toList_seam, toList, ids, ids, List.map_append]
  exact ids_join_subset _ _

theorem ids_erase_subset (focus : Focus Node) (count : Nat) :
    ids (focus.erase count).toList ⊆ ids focus.toList := by
  rw [erase]
  split
  · exact List.Subset.refl _
  · apply List.Subset.trans (ids_seam_subset _ _)
    exact ((List.Sublist.refl _).append (List.drop_sublist count focus.after)).map (·.id) |>.subset

theorem ids_splice_subset (items : List Node) (focus : Focus Node) :
    ids (focus.splice items).toList ⊆ ids focus.toList ++ ids items := by
  obtain ⟨before, after⟩ := focus
  cases after with
  | nil => exact List.subset_append_left _ _
  | cons node rest =>
      apply List.Subset.trans (ids_seam_subset _ _)
      obtain ⟨beforeInside, afterInside⟩ := Spot.inside_iff.mp
        (List.subset_append_left (ids (Focus.toList ⟨before, node :: rest⟩)) (ids items))
      have joined : ids (join items rest) ⊆
          ids (Focus.toList ⟨before, node :: rest⟩) ++ ids items :=
        List.Subset.trans (ids_join_subset items rest) (List.append_subset.mpr
          ⟨List.subset_append_right _ _, (Spot.inside_cons.mp afterInside).2⟩)
      exact Spot.inside_iff.mpr ⟨beforeInside, joined⟩

end Edits

end Focus

/-! ## Edits at any position -/

namespace Spot

variable {spot : Spot} {focus : Focus Node}

theorem Shows.removed (shows : spot.Shows focus) (fused : IsFused focus.toList) :
    spot.remove.Shows focus.remove ∧ spot.remove.memory.Within spot.memory (ids focus.toList) := by
  obtain ⟨before, after⟩ := focus
  cases after with
  | nil =>
      have atEnd : spot.position = none := shows.position
      have unchanged : spot.remove = spot := by simp [Spot.remove, Spot.unlink, atEnd]
      rw [unchanged]
      exact ⟨shows, .refl _ _⟩
  | cons node rest =>
      have restFused := (isFused_append.mp fused).2.1.tail
      exact ⟨shows.remove restFused, shows.remove_within (List.Subset.refl _)⟩

theorem Shows.rewritten (shows : spot.Shows focus) (text : String) :
    (spot.setText text).Shows (focus.modify fun node => ⟨node.id, ⟨node.token.kind, text⟩⟩) ∧
      (spot.setText text).memory.Within spot.memory (ids focus.toList) := by
  obtain ⟨before, after⟩ := focus
  cases after with
  | nil =>
      obtain ⟨memory, ends, position⟩ := spot
      obtain rfl : position = none := shows.position
      exact ⟨shows, .refl _ _⟩
  | cons node rest => exact ⟨shows.setText text, shows.setText_within (List.Subset.refl _) text⟩

theorem Shows.erased {last? : Option Nat} (shows : spot.Shows focus) (fused : IsFused focus.toList)
    (met : ∀ id ∈ last?, id ∈ ids focus.after) :
    let inner := focus.after.takeWhile fun node => some node.id != last?
    (spot.eraseTo last?).Shows (focus.erase (focus.after.take (inner.length + 1)).length) ∧
      (spot.eraseTo last?).memory.Within spot.memory (ids focus.toList) := by
  obtain ⟨before, after⟩ := focus
  intro inner
  by_cases atEnd : after = []
  · subst atEnd
    have position : spot.position = none := shows.position
    have unchanged : spot.eraseTo last? = spot := by simp [Spot.eraseTo, position, Memory.cellAt?]
    rw [unchanged]
    exact ⟨shows, .refl _ _⟩
  · obtain ⟨between, rest, afterEq, nonempty, range, ending⟩ := Focus.exists_range met atEnd
    change (spot.eraseTo last?).Shows (Focus.erase (after.take (inner.length + 1)).length _) ∧ _
    rw [range]
    subst afterEq
    have restFused := (isFused_append.mp (isFused_append.mp fused).2.1).2.1
    constructor
    · exact shows.eraseTo nonempty ending restFused
    · exact shows.eraseTo_within nonempty ending (List.Subset.refl _)

theorem Shows.spliced {other : Ends} {out : List Node} (shows : spot.Shows focus)
    (fused : IsFused focus.toList) (present : focus.after ≠ [])
    (otherHolds : spot.memory.Holds other out) (outFused : IsFused out)
    (apart : ∀ id ∈ ids out, id ∉ ids focus.toList) :
    (spot.replaceWith other).Shows (focus.splice out) ∧
      (spot.replaceWith other).memory.Within spot.memory (ids focus.toList ++ ids out) := by
  obtain ⟨before, after⟩ := focus
  obtain ⟨node, rest, rfl⟩ := List.exists_cons_of_ne_nil present
  have restFused := (isFused_append.mp fused).2.1.tail
  constructor
  · exact shows.replaceWith restFused otherHolds outFused apart
  · exact shows.replaceWith_within restFused otherHolds apart (List.subset_append_left _ _)
      (List.subset_append_right _ _)

end Spot

end Linework
