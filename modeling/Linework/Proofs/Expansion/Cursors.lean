import Linework.Expansion.Walk
import Linework.Proofs.Token.Linked

/-!
# The two cursors stay in place

The walk over linked cells and the machine over cut sequences make the same moves. What carries the
proof is where a frame's cursors stand: its cells hold three runs of nodes in a row, the main cursor is
at the first node of the second run, the lookahead cursor at the first node of the third, and the
second run has no separator. Every edit keeps this, whatever it fuses.
-/

namespace Linework.Expansion

open Node

namespace Walk

namespace Frame

/-- The cells of the frame are three runs of nodes: those passed, the region from the main cursor to
the lookahead cursor, and those ahead. -/
structure Placed (frame : Frame) (passed region ahead : List Node) : Prop where
  holds : frame.memory.Holds frame.ends (passed ++ (region ++ ahead))
  main : frame.main = firstOr (region ++ ahead) none
  lookahead : frame.lookahead = firstOr ahead none
  fused : IsFused (passed ++ (region ++ ahead))
  resolved : ∀ node ∈ region, node.token.isBoundary = false

variable {frame : Frame} {passed region ahead : List Node}

namespace Placed

theorem holds_ahead (placed : frame.Placed passed region ahead) :
    frame.memory.Holds frame.ends ((passed ++ region) ++ ahead) := by
  rw [List.append_assoc]
  exact placed.holds

theorem live (placed : frame.Placed passed region ahead) : frame.live = region ++ ahead := by
  rw [Frame.live, placed.main]
  exact placed.holds.nodesFrom

theorem tokens (placed : frame.Placed passed region ahead) :
    frame.tokens = Node.tokens (passed ++ (region ++ ahead)) := by
  have whole : frame.memory.Holds frame.ends ([] ++ (passed ++ (region ++ ahead))) := placed.holds
  rw [Frame.tokens, placed.holds.head, whole.nodesFrom]

theorem behind (placed : frame.Placed passed region ahead) (count : Nat) :
    frame.behind count = firstOr ((region ++ ahead).drop count) none := by
  rw [Frame.behind, placed.live]
  cases (region ++ ahead).drop count <;> rfl

theorem tokenAt?_lookahead (placed : frame.Placed passed region ahead) :
    frame.memory.tokenAt? frame.lookahead = ahead.head?.map (·.token) := by
  rw [placed.lookahead]
  exact placed.holds_ahead.tokenAt?

theorem next_lookahead (placed : frame.Placed passed region ahead) :
    frame.memory.next frame.lookahead = firstOr ahead.tail none := by
  rw [placed.lookahead]
  exact placed.holds_ahead.next

/-- The cursors are at one place exactly when nothing is between them. -/
theorem main_eq_lookahead_iff (placed : frame.Placed passed region ahead) :
    frame.main = frame.lookahead ↔ region = [] := by
  rw [placed.main, placed.lookahead]
  constructor
  · intro equal
    cases region with
    | nil => rfl
    | cons node rest =>
        have inAhead : node.id ∈ ids ahead := Memory.mem_ids_of_firstOr equal.symm
        have distinct := placed.holds.nodup
        simp only [ids, List.map_append, List.nodup_append', List.map_cons, List.cons_append,
          List.nodup_cons, List.mem_append, not_or] at distinct
        exact absurd inAhead distinct.2.1.1.2
  · rintro rfl
    rfl

theorem main_isNone_iff (placed : frame.Placed passed region ahead) :
    frame.main.isNone ↔ region ++ ahead = [] := by
  rw [Option.isNone_iff_eq_none, placed.main, firstOr_eq_none_iff]

/-! ### Moving the cursors -/

theorem withPhase (placed : frame.Placed passed region ahead) (phase : Phase) :
    Placed { frame with phase := phase } passed region ahead :=
  ⟨placed.holds, placed.main, placed.lookahead, placed.fused, placed.resolved⟩

theorem advance {node : Node} (placed : frame.Placed passed region (node :: ahead))
    (inside : node.token.isBoundary = false) :
    frame.advance.Placed passed (region ++ [node]) ahead := by
  have regroup : region ++ node :: ahead = (region ++ [node]) ++ ahead := by simp
  refine ⟨regroup ▸ placed.holds, regroup ▸ placed.main, placed.next_lookahead,
    regroup ▸ placed.fused, fun other mem => ?_⟩
  rcases List.mem_append.mp mem with inRegion | isNode
  · exact placed.resolved other inRegion
  · rw [List.mem_singleton.mp isNode]
    exact inside

theorem skip (placed : frame.Placed passed region ahead) (count : Nat) :
    Placed (frame.restart (firstOr ((region ++ ahead).drop count) none))
      (passed ++ (region ++ ahead).take count) [] ((region ++ ahead).drop count) := by
  have regroup : (passed ++ (region ++ ahead).take count) ++ ([] ++ (region ++ ahead).drop count) =
      passed ++ (region ++ ahead) := by
    rw [List.nil_append, List.append_assoc, List.take_append_drop]
  exact ⟨regroup ▸ placed.holds, rfl, rfl, regroup ▸ placed.fused, by simp⟩

/-! ### Edits at the lookahead cursor -/

theorem shows {frame : Frame} (placed : frame.Placed passed region ahead) :
    Spot.Shows ⟨frame.memory, frame.ends, frame.lookahead⟩ ⟨(passed ++ region).reverse, ahead⟩ := by
  constructor
  · rw [Focus.toList, List.reverse_reverse]
    exact placed.holds_ahead
  · exact placed.lookahead

theorem fused_ahead (placed : frame.Placed passed region ahead) : IsFused ahead := by
  have fused := placed.fused
  rw [← List.append_assoc] at fused
  exact (isFused_append.mp fused).2.1

/-- A seam behind an empty region takes both cursors along. -/
theorem seam_of_nil {spot : Spot} (passedFused : IsFused passed) (aheadFused : IsFused ahead)
    (shows : spot.Shows (Focus.seam ⟨passed.reverse, ahead⟩)) :
    Placed { frame.edited spot with main := spot.position, lookahead := spot.position }
      (Focus.seam ⟨passed.reverse, ahead⟩).before.reverse []
      (Focus.seam ⟨passed.reverse, ahead⟩).after := by
  refine ⟨shows.holds, shows.position, shows.position, ?_, by simp⟩
  have fused := passedFused.join aheadFused
  rw [← List.reverse_reverse passed, ← Focus.toList_seam] at fused
  exact fused

/-- A seam behind a region leaves the main cursor at the head of the region. -/
theorem seam_of_ne_nil {spot : Spot} (nonempty : region ≠ [])
    (resolved : ∀ node ∈ region, node.token.isBoundary = false)
    (main : frame.main = firstOr region none)
    (regionFused : IsFused (passed ++ region)) (aheadFused : IsFused ahead)
    (shows : spot.Shows (Focus.seam ⟨(passed ++ region).reverse, ahead⟩)) :
    Placed { frame.edited spot with lookahead := spot.position } passed
      (Focus.seam ⟨region.reverse, ahead⟩).before.reverse
      (Focus.seam ⟨region.reverse, ahead⟩).after := by
  have fused := regionFused.join aheadFused
  rw [← List.reverse_reverse (passed ++ region), ← Focus.toList_seam] at fused
  have reverseNonempty : region.reverse ≠ [] := by simpa using nonempty
  rw [List.reverse_append, Focus.seam_append reverseNonempty] at shows fused
  have holds := shows.holds
  simp only [Focus.toList, List.reverse_append, List.reverse_reverse, List.append_assoc] at holds fused
  have headKept : firstOr ((Focus.seam ⟨region.reverse, ahead⟩).before.reverse ++
      (Focus.seam ⟨region.reverse, ahead⟩).after) none = firstOr region none := by
    have sameIds : ids (Focus.seam ⟨region.reverse, ahead⟩).before.reverse = ids region := by
      rw [ids, List.map_reverse, ← ids, Focus.ids_before_seam, ids, List.map_reverse,
        List.reverse_reverse]
    rw [firstOr_append, firstOr_congr sameIds]
    exact firstOr_of_ne_nil nonempty _ _
  refine ⟨holds, main.trans headKept.symm, shows.position, fused, fun node mem => ?_⟩
  have sameKinds := Focus.kinds_before_seam region.reverse ahead
  have kindMem : node.token.kind ∈ region.reverse.map (·.token.kind) := by
    rw [← sameKinds]
    exact List.mem_map_of_mem (List.mem_reverse.mp mem)
  obtain ⟨other, otherMem, kindEq⟩ := List.mem_map.mp kindMem
  have inside := resolved other (List.mem_reverse.mp otherMem)
  rw [Token.isBoundary] at inside ⊢
  rw [← kindEq]
  exact inside

end Placed

/-! ## The cut sequence of a frame -/

/-- Three runs of nodes as the machine keeps them. -/
def cut (passed region ahead : List Node) (task : Task) : Expansion.Frame where
  done := (Node.tokens passed).reverse
  region := (Node.tokens region).reverse
  ahead := Node.tokens ahead
  task := task

variable {task : Task}

theorem live_cut (passed region ahead : List Node) (task : Task) :
    (cut passed region ahead task).live = Node.tokens (region ++ ahead) := by
  simp [cut, Expansion.Frame.live]

theorem tokens_cut (passed region ahead : List Node) (task : Task) :
    (cut passed region ahead task).tokens = Node.tokens (passed ++ (region ++ ahead)) := by
  simp [cut, Expansion.Frame.tokens, Expansion.Frame.live]

theorem advance_cut (passed region ahead : List Node) (node : Node) (task : Task) :
    (cut passed region (node :: ahead) task).advance =
      cut passed (region ++ [node]) ahead task := by
  simp [cut, Expansion.Frame.advance]

theorem skip_cut (passed region ahead : List Node) (task : Task) (count : Nat) :
    (cut passed region ahead task).skip count =
      cut (passed ++ (region ++ ahead).take count) [] ((region ++ ahead).drop count) task := by
  rw [Expansion.Frame.skip, live_cut]
  simp [cut, List.map_take, List.map_drop]

/-- An edit that comes down to a seam, where nothing is between the cursors. -/
theorem edit_cut_of_nil {change : Focus Token → Focus Token} {ahead' : List Node}
    (seam : ∀ before, change ⟨before, Node.tokens ahead⟩ = Focus.seam ⟨before, Node.tokens ahead'⟩) :
    (cut passed [] ahead task).edit change =
      cut (Focus.seam ⟨passed.reverse, ahead'⟩).before.reverse []
        (Focus.seam ⟨passed.reverse, ahead'⟩).after task := by
  have tokens := Focus.tokens_seam passed.reverse ahead'
  simp only [Node.tokens, List.map_reverse] at tokens
  simp [cut, Expansion.Frame.edit, seam, tokens]

/-- An edit that comes down to a seam, where there is a region between the cursors. -/
theorem edit_cut_of_ne_nil {change : Focus Token → Focus Token} {ahead' : List Node}
    (nonempty : region ≠ [])
    (seam : ∀ before, change ⟨before, Node.tokens ahead⟩ = Focus.seam ⟨before, Node.tokens ahead'⟩) :
    (cut passed region ahead task).edit change =
      cut passed (Focus.seam ⟨region.reverse, ahead'⟩).before.reverse
        (Focus.seam ⟨region.reverse, ahead'⟩).after task := by
  have tokens := Focus.tokens_seam region.reverse ahead'
  simp only [Node.tokens, List.map_reverse] at tokens
  simp [cut, Expansion.Frame.edit, seam, tokens, nonempty]

/-! ## The edits of the walk -/

/-- The cells of an output beside those of the sequence, which stay as they are. -/
theorem Placed.built (placed : frame.Placed passed region ahead) (output : List Token)
    (outputFused : IsFused output) :
    let built := frame.memory.build output
    ∃ out, built.1.Holds built.2 out ∧ Node.tokens out = output ∧ IsFused out ∧
      Spot.Shows ⟨built.1, frame.ends, frame.lookahead⟩ ⟨(passed ++ region).reverse, ahead⟩ ∧
      ∀ id ∈ ids out, id ∉ ids ((passed ++ region).reverse.reverse ++ ahead) := by
  intro built
  obtain ⟨out, outHolds, outTokens, new, kept⟩ := frame.memory.build_holds output
  rw [Token.fused_eq_self outputFused] at outTokens
  have outFused : IsFused out := isFused_tokens.mp (by rw [Node.tokens, outTokens]; exact outputFused)
  refine ⟨out, outHolds, outTokens, outFused, ⟨placed.shows.holds.of_extends kept (by simp), placed.lookahead⟩, ?_⟩
  intro id inOut inFrame
  exact Nat.not_le_of_lt (placed.shows.holds.allocated id inFrame) (new id inOut)

/-- A script's output takes the place of its cell in both pictures alike. -/
theorem Placed.splice {node : Node} (placed : frame.Placed passed region (node :: ahead)) (task : Task)
    (output : List Token) (outputFused : IsFused output) :
    let built := frame.memory.build output
    let spot := Spot.replaceWith ⟨built.1, frame.ends, frame.lookahead⟩ built.2
    ∃ passed' region' ahead',
      Placed { frame.edited spot with
        main := if frame.main = frame.lookahead then spot.position else frame.main
        lookahead := spot.position } passed' region' ahead' ∧
      (cut passed region (node :: ahead) task).edit (Focus.splice output) =
        cut passed' region' ahead' task := by
  intro built spot
  obtain ⟨out, outHolds, outTokens, outFused, shows, apart⟩ := placed.built output outputFused
  have aheadFused := placed.fused_ahead.tail
  have spliced : spot.Shows (Focus.seam ⟨(passed ++ region).reverse, join out ahead⟩) :=
    shows.replaceWith aheadFused outHolds outFused apart
  have seam : ∀ before, Focus.splice output ⟨before, Node.tokens (node :: ahead)⟩ =
      Focus.seam ⟨before, Node.tokens (join out ahead)⟩ := by
    intro before
    rw [tokens_join, ← outTokens]
    rfl
  have joinedFused := outFused.join aheadFused
  have frontFused : IsFused (passed ++ region) := by
    have fused := placed.fused
    rw [← List.append_assoc] at fused
    exact (isFused_append.mp fused).1
  rcases List.eq_nil_or_concat region with rfl | ⟨earlier, last, regionEq⟩
  · have together := placed.main_eq_lookahead_iff.mpr rfl
    rw [List.append_nil] at spliced frontFused
    refine ⟨_, _, _, ?_, edit_cut_of_nil seam⟩
    rw [if_pos together]
    exact Placed.seam_of_nil frontFused joinedFused spliced
  · have nonempty : region ≠ [] := by simp [regionEq]
    have separate : ¬frame.main = frame.lookahead := fun together =>
      nonempty (placed.main_eq_lookahead_iff.mp together)
    have main : frame.main = firstOr region none := by
      rw [placed.main, firstOr_append]
      exact firstOr_of_ne_nil nonempty _ _
    refine ⟨_, _, _, ?_, edit_cut_of_ne_nil nonempty seam⟩
    rw [if_neg separate]
    exact Placed.seam_of_ne_nil nonempty placed.resolved main frontFused joinedFused spliced

/-- Unlinking the cells from both cursors on erases their nodes. -/
theorem Placed.erase {between : List Node} {last : Option Nat}
    (placed : frame.Placed passed [] (between ++ ahead)) (task : Task) (nonempty : between ≠ [])
    (ending : last = lastOr between none ∨ last = none ∧ ahead = []) {count : Nat}
    (reaches : (between ++ ahead).drop count = ahead) :
    let spot := Spot.eraseTo ⟨frame.memory, frame.ends, frame.main⟩ last
    ∃ passed' ahead',
      Placed { frame.edited spot with main := spot.position, lookahead := spot.position }
        passed' [] ahead' ∧
      (cut passed [] (between ++ ahead) task).edit (Focus.erase count) =
        cut passed' [] ahead' task := by
  intro spot
  have aheadFused := (isFused_append.mp placed.fused_ahead).2.1
  have passedFused := (isFused_append.mp placed.fused).1
  have shows := placed.shows
  rw [List.append_nil, ← placed.main_eq_lookahead_iff.mpr rfl] at shows
  have erased := shows.eraseTo nonempty ending aheadFused
  have seamEq : Focus.erase between.length ⟨passed.reverse, between ++ ahead⟩ =
      Focus.seam ⟨passed.reverse, ahead⟩ := by
    simp [Focus.erase, Focus.atEnd, nonempty]
  rw [seamEq] at erased
  refine ⟨_, _, Placed.seam_of_nil passedFused aheadFused erased, edit_cut_of_nil fun before => ?_⟩
  have tokensDrop : (Node.tokens (between ++ ahead)).drop count = Node.tokens ahead := by
    rw [Node.tokens, ← List.map_drop, reaches]
  rw [Focus.erase, tokensDrop]
  simp [Focus.atEnd, nonempty]

/-- The cell behind the one at the lookahead cursor. -/
theorem Placed.shows_behind {head node : Node}
    (placed : frame.Placed passed region (head :: node :: ahead)) :
    Spot.Shows ⟨frame.memory, frame.ends, some node.id⟩
      ⟨(passed ++ region ++ [head]).reverse, node :: ahead⟩ := by
  constructor
  · rw [Focus.toList, List.reverse_reverse]
    have holds := placed.holds
    rw [show passed ++ (region ++ head :: node :: ahead) =
      (passed ++ region ++ [head]) ++ node :: ahead by simp] at holds
    exact holds
  · rfl

/-- A group fuses with nothing. -/
theorem fuse?_of_isGroup {group : Node} (isGroup : group.token.kind = .group) (next : Node) :
    fuse? group next = none := by
  rw [fuse?_eq_map, Option.map_eq_none_iff, Token.fuse?_eq_none_iff, isGroup]
  simp [Kind.fuses]

/-- Taking a cell out behind the group at the lookahead cursor. -/
theorem Placed.removeBehind {group node : Node}
    (placed : frame.Placed passed region (group :: node :: ahead)) (isGroup : group.token.kind = .group) :
    let removed := Spot.remove ⟨frame.memory, frame.ends, some node.id⟩
    (frame.edited removed).Placed passed region (group :: ahead) ∧
      removed.position = firstOr ahead none := by
  intro removed
  have shows := placed.shows_behind
  have aheadFused := placed.fused_ahead.tail.tail
  rw [List.reverse_concat] at shows
  have after := shows.remove_behind (fuse?_of_isGroup isGroup)
  rw [← List.reverse_concat] at after
  have holds := after.holds
  rw [Focus.toList, List.reverse_reverse,
    show passed ++ region ++ [group] ++ ahead = passed ++ (region ++ group :: ahead) by simp] at holds
  have fused : IsFused (passed ++ (region ++ group :: ahead)) := by
    have whole := placed.fused
    rw [show passed ++ (region ++ group :: node :: ahead) =
      (passed ++ region ++ [group]) ++ (node :: ahead) by simp] at whole
    rw [show passed ++ (region ++ group :: ahead) =
      (passed ++ region ++ [group]) ++ ahead by simp]
    refine isFused_append.mpr ⟨(isFused_append.mp whole).1, aheadFused, fun last lastMem next _ => ?_⟩
    have isLast : last = group := by simpa [eq_comm] using lastMem
    rw [isLast]
    exact fuse?_of_isGroup isGroup next
  have main : frame.main = firstOr (region ++ group :: ahead) none := by
    rw [placed.main, firstOr_append, firstOr_append]
    rfl
  exact ⟨⟨holds, main, placed.lookahead, fused, placed.resolved⟩, after.position⟩

/-- A new text for the token at the lookahead cursor. -/
theorem Placed.setText {node : Node} (placed : frame.Placed passed region (node :: ahead))
    (text : String) :
    (frame.edited (Spot.setText ⟨frame.memory, frame.ends, frame.lookahead⟩ text)).Placed
      passed region (⟨node.id, ⟨node.token.kind, text⟩⟩ :: ahead) := by
  have changed := placed.shows.setText text
  have holds := changed.holds
  rw [Focus.toList, List.reverse_reverse, List.append_assoc] at holds
  have fused := placed.fused
  have sameKinds : (passed ++ (region ++ (⟨node.id, ⟨node.token.kind, text⟩⟩ : Node) :: ahead)).map
      (·.token.kind) = (passed ++ (region ++ node :: ahead)).map (·.token.kind) := by
    simp
  rw [← isFused_congr sameKinds] at fused
  have main : frame.main = firstOr (region ++ ⟨node.id, ⟨node.token.kind, text⟩⟩ :: ahead) none := by
    rw [placed.main, firstOr_append, firstOr_append]
    rfl
  exact ⟨holds, main, placed.lookahead, fused, placed.resolved⟩

end Frame

end Walk

end Linework.Expansion
