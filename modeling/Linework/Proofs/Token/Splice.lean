import Linework.Proofs.Token.Shelf

/-!
# What a splice leaves

Two sequences in a row fuse at one place at most, where they meet. The nodes before it stay where they are
and are still found there by those who stand at them. Who edits at that place goes on at the first node
behind it, or, where this one was fused into the node before, at the one that follows.
-/

namespace Linework

open Node

/-! ## Sequences in a row -/

namespace Node

variable {pre out post : List Node} {first : Node}

/-- Three fused sequences in a row have the tokens of all three, appended one after the other. -/
theorem tokens_join_join (preFused : IsFused pre) (outFused : IsFused out) (postFused : IsFused post) :
    tokens (join pre (join out post)) = Token.fused (tokens (pre ++ out ++ post)) := by
  calc tokens (join pre (join out post))
      = join (tokens pre) (join (tokens out) (tokens post)) := by rw [tokens_join, tokens_join]
    _ = join (join (Token.fused (tokens pre)) (tokens out)) (tokens post) := by
      rw [Token.join_assoc, Token.fused_eq_self (isFused_tokens.mpr preFused)]
    _ = Token.fused (tokens pre ++ tokens out ++ tokens post) := by
      rw [Token.fused_append _ (isFused_tokens.mpr postFused),
        Token.fused_append _ (isFused_tokens.mpr outFused)]
    _ = Token.fused (tokens (pre ++ out ++ post)) := by simp

/-- The nodes of the first of two sequences in a row keep their addresses. -/
theorem prefix_ids_join (before after : List Node) : ids before <+: ids (join before after) := by
  have kept : ids (Focus.seam ⟨before.reverse, after⟩).before.reverse = ids before := by
    have backwards := Focus.ids_before_seam before.reverse after
    simp only [ids, List.map_reverse] at backwards ⊢
    rw [backwards, List.reverse_reverse]
  have whole := Focus.toList_seam before.reverse after
  rw [List.reverse_reverse] at whole
  rw [← kept, ← whole, Focus.toList]
  exact (List.prefix_append _ _).map _

/-- The head of two sequences in a row is the first node of both. Its text has become longer where it is
all there is of the first sequence and fuses with the head of the second. -/
theorem exists_join_eq_cons (isFirst : first ∈ (out ++ post).head?) :
    ∃ landed rest, join out post = landed :: rest ∧ landed.id = first.id ∧
      landed.token.kind = first.token.kind ∧ (landed.token = first.token ∨
        ∃ next ∈ post.head?, out = [first] ∧ fuse? first.token next.token = some landed.token) := by
  match out with
  | [] =>
      obtain ⟨rest, rfl⟩ := List.head?_eq_some_iff.mp isFirst
      exact ⟨first, rest, rfl, rfl, rfl, .inl rfl⟩
  | [only] =>
      obtain rfl : only = first := by simpa using isFirst
      cases post with
      | nil => exact ⟨only, [], rfl, rfl, rfl, .inl rfl⟩
      | cons next rest =>
          cases fuses : fuse? only next with
          | none => exact ⟨only, next :: rest, by simp [glue, fuses], rfl, rfl, .inl rfl⟩
          | some landed =>
              obtain ⟨token, tokenEq, landedEq⟩ := Option.map_eq_some_iff.mp fuses
              have kind := congrArg Token.kind (Token.fuse?_eq_some_iff.mp tokenEq).2.2
              refine ⟨landed, rest, by simp [glue, fuses], ?_, ?_, .inr ⟨next, rfl, rfl, ?_⟩⟩
              · rw [← landedEq]
              · rw [← landedEq, kind]
              · rw [← landedEq, tokenEq]
  | only :: next :: others =>
      obtain rfl : only = first := by simpa using isFirst
      exact ⟨only, join (next :: others) post, rfl, rfl, rfl, .inl rfl⟩

/-- Whether a node fuses with another is a matter of the other's kind. -/
theorem isSome_fuse?_congr (last : Node) {second second' : Node}
    (kind : second.token.kind = second'.token.kind) :
    (fuse? last second).isSome = (fuse? last second').isSome := by
  rw [fuse?_eq_map, fuse?_eq_map, Option.isSome_map, Option.isSome_map]
  exact Token.isSome_fuse?_congr rfl kind

end Node

/-! ## Where two sequences meet -/

namespace Spot

variable {spot : Spot} {before after out post : List Node} {last first node : Node}

theorem Shows.holds_join (shows : spot.Shows (Focus.seam ⟨before.reverse, after⟩)) :
    spot.memory.Holds spot.ends (join before after) := by
  have holds := shows.holds
  rwa [Focus.toList_seam, List.reverse_reverse] at holds

/-- Where nothing fuses, the position is at the first node behind the place. -/
theorem Shows.position_of_apart (shows : spot.Shows (Focus.seam ⟨before.reverse, first :: after⟩))
    (apart : ∀ last ∈ before.getLast?, fuse? last first = none) :
    spot.position = some first.id ∧ spot.memory.tokenAt? (some first.id) = some first.token := by
  have stays : Focus.seam ⟨before.reverse, first :: after⟩ = ⟨before.reverse, first :: after⟩ := by
    rcases List.eq_nil_or_concat before with rfl | ⟨earlier, last, rfl⟩
    · rfl
    · simp [Focus.seam, apart last (by simp)]
  rw [stays] at shows
  exact ⟨shows.position, shows.holds.tokenAt?⟩

/-- Where that node is fused into the last one before the place, the position is behind the two. -/
theorem Shows.position_of_fuses (shows : spot.Shows (Focus.seam ⟨before.reverse, first :: after⟩))
    (isLast : last ∈ before.getLast?) (fuses : (fuse? last first).isSome) :
    spot.position = spot.memory.next (some last.id) := by
  obtain ⟨fused, fusedEq⟩ := Option.isSome_iff_exists.mp fuses
  obtain ⟨token, _, rfl⟩ := Option.map_eq_some_iff.mp fusedEq
  obtain ⟨earlier, rfl⟩ := List.getLast?_eq_some_iff.mp isLast
  simp only [List.reverse_append, List.reverse_cons, List.reverse_nil, List.nil_append,
    List.cons_append, Focus.seam, fusedEq] at shows
  have holds := shows.holds
  rw [Focus.toList, List.reverse_cons, List.reverse_reverse, List.append_assoc] at holds
  rw [shows.position]
  exact holds.next.symm

section Splice

variable (shows : spot.Shows (Focus.seam ⟨before.reverse, join out post⟩))
include shows

theorem Shows.position_head (isFirst : first ∈ (out ++ post).head?)
    (apart : ∀ last ∈ before.getLast?, fuse? last first = none) :
    spot.position = some first.id ∧ ∃ token, spot.memory.tokenAt? (some first.id) = some token ∧
      (token = first.token ∨
        ∃ next ∈ post.head?, out = [first] ∧ fuse? first.token next.token = some token) := by
  obtain ⟨landed, rest, joined, sameId, kind, extended⟩ := exists_join_eq_cons isFirst
  rw [joined] at shows
  have landedApart : ∀ last ∈ before.getLast?, fuse? last landed = none := by
    intro last isLast
    have unfused := isSome_fuse?_congr last kind
    rw [apart last isLast] at unfused
    simpa using unfused
  obtain ⟨position, token⟩ := shows.position_of_apart landedApart
  rw [sameId] at position token
  exact ⟨position, landed.token, token, extended⟩

theorem Shows.position_behind (isFirst : first ∈ (out ++ post).head?) (isLast : last ∈ before.getLast?)
    (fuses : (fuse? last first).isSome) : spot.position = spot.memory.next (some last.id) := by
  obtain ⟨landed, rest, joined, _, kind, _⟩ := exists_join_eq_cons isFirst
  rw [joined] at shows
  exact shows.position_of_fuses isLast ((isSome_fuse?_congr last kind).trans fuses)

theorem Shows.position_atEnd (nothing : out ++ post = []) : spot.position = none := by
  obtain ⟨rfl, rfl⟩ := List.append_eq_nil_iff.mp nothing
  have position := shows.position
  rwa [join_nil, seam_of_atEnd fun _ => rfl] at position

end Splice

/-- To replace a cell by nothing is to remove it. -/
theorem Shows.replaceWith_nothing (shows : spot.Shows ⟨before, node :: after⟩) :
    spot.replaceWith {} = spot.remove := by
  have position : spot.position = some node.id := shows.position
  have cell := shows.cellAt?
  rw [position] at cell
  simp only [Spot.replaceWith, position, cell]

end Spot

/-! ## Splices on a shelf -/

namespace Shelf

variable {shelf : Shelf} {sequence other : SequenceId} {cursor : Cursor} {pre out post : List Node}
  {node : Node}

theorem ends_edit (inside : cursor.sequence < shelf.sequences.length) (change : Spot → Spot) :
    (shelf.edit cursor change).1.ends cursor.sequence = (change (shelf.spot cursor)).ends := by
  rw [Shelf.ends, Shelf.edit, getD_set, if_pos ⟨rfl, inside⟩]

theorem ends_edit_of_ne (different : cursor.sequence ≠ other) (change : Spot → Spot) :
    (shelf.edit cursor change).1.ends other = shelf.ends other := by
  rw [Shelf.ends, Shelf.edit, getD_set, if_neg fun same => different same.1, Shelf.ends]

theorem ends_clear (shelf : Shelf) (sequence : SequenceId) :
    (shelf.clear sequence).ends sequence = {} :=
  getD_set_default _ _ _

theorem ends_clear_of_ne (different : other ≠ sequence) :
    (shelf.clear other).ends sequence = shelf.ends sequence := by
  rw [Shelf.ends, Shelf.clear, Shelf.put, getD_set, if_neg fun same => different same.1, Shelf.ends]

theorem clear_eq_self (empty : shelf.ends sequence = {}) : shelf.clear sequence = shelf := by
  rw [Shelf.clear, Shelf.put]
  by_cases inside : sequence < shelf.sequences.length
  · rw [Shelf.ends, List.getD_eq_getElem _ _ inside] at empty
    rw [← empty, List.set_getElem_self]
  · rw [List.set_eq_of_length_le (Nat.le_of_not_lt inside)]

theorem replaceWith_eq (shelf : Shelf) (sequence other : SequenceId) (id : Nat) :
    shelf.replaceWith ⟨sequence, some id⟩ other =
      ((shelf.edit ⟨sequence, some id⟩ (Spot.replaceWith · (shelf.ends other))).1.clear other,
        (shelf.edit ⟨sequence, some id⟩ (Spot.replaceWith · (shelf.ends other))).2) :=
  rfl

section Holds

variable (holds : shelf.memory.Holds (shelf.ends sequence) (pre ++ node :: post))
include holds

/-- A sequence with nodes is one of those on the shelf. -/
theorem lt_of_holds : sequence < shelf.sequences.length := by
  by_contra beyond
  have nowhere : shelf.ends sequence = {} := List.getD_eq_default _ _ (Nat.le_of_not_lt beyond)
  have head := holds.head
  rw [nowhere, firstOr_append] at head
  cases pre <;> cases head

/-- Sequences that share no node are different ones, unless both are empty. -/
theorem ne_of_holds (otherHolds : shelf.memory.Holds (shelf.ends other) out)
    (apart : ∀ id ∈ ids out, id ∉ ids (pre ++ node :: post)) : other ≠ sequence := by
  rintro rfl
  have same : out = pre ++ node :: post := otherHolds.nodesFrom_head.symm.trans holds.nodesFrom_head
  exact apart node.id (by simp [same]) (by simp)

theorem spot_shows : (shelf.spot ⟨sequence, some node.id⟩).Shows ⟨pre.reverse, node :: post⟩ := by
  refine ⟨?_, rfl⟩
  rwa [Focus.toList, List.reverse_reverse]

theorem replaceWith_nothing (otherHolds : shelf.memory.Holds (shelf.ends other) [])
    (different : other ≠ sequence) :
    shelf.replaceWith ⟨sequence, some node.id⟩ other = shelf.remove ⟨sequence, some node.id⟩ := by
  have otherEnds : shelf.ends other = {} := otherHolds.ends_eq
  have edits : shelf.edit ⟨sequence, some node.id⟩ (Spot.replaceWith · (shelf.ends other)) =
      shelf.remove ⟨sequence, some node.id⟩ := by
    simp only [Shelf.remove, Shelf.edit, otherEnds, (spot_shows holds).replaceWith_nothing]
  have unchanged : (shelf.remove ⟨sequence, some node.id⟩).1.ends other = {} := by
    rw [Shelf.remove, ends_edit_of_ne different.symm, otherEnds]
  rw [replaceWith_eq, edits, clear_eq_self unchanged]

end Holds

/-- What the replacement of a node by another sequence leaves. Before the node stood `pre` and behind it
`post`, and the nodes of the other sequence were `out`. -/
structure Spliced (shelf : Shelf) (cursor : Cursor) (other : SequenceId) (pre out post : List Node)
    (result : Shelf × Cursor) : Prop where
  /-- The sequence reads as the three in a row. -/
  reads : result.1.Reads cursor.sequence (join pre (join out post))
  /-- They are in a row as if they had been appended token by token. -/
  appended : tokens (join pre (join out post)) = Token.fused (tokens (pre ++ out ++ post))
  emptied : result.1.Reads other []
  /-- The nodes before the replaced one are where they were. -/
  kept : ids pre <+: ids (join pre (join out post))
  stays : result.2.sequence = cursor.sequence
  /-- The cursor stands at the first node behind `pre`. Its text has become longer where it was all that
  was put in and fuses with the node behind it. -/
  head : ∀ first ∈ (out ++ post).head?, (∀ last ∈ pre.getLast?, fuse? last first = none) →
    result.2.node? = some first.id ∧ ∃ token, result.1.memory.tokenAt? (some first.id) = some token ∧
      (token = first.token ∨
        ∃ next ∈ post.head?, out = [first] ∧ fuse? first.token next.token = some token)
  /-- Where that node was fused into the last one of `pre`, the cursor stands behind the two. -/
  behind : ∀ first ∈ (out ++ post).head?, ∀ last ∈ pre.getLast?, (fuse? last first).isSome →
    result.2.node? = result.1.memory.next (some last.id)
  atEnd : out ++ post = [] → result.2.node? = none
  /-- To replace a node by nothing is to remove it. -/
  removes : out = [] → result = shelf.remove cursor

/-- Replacing a node splices the other sequence in, settles both seams and lands the cursor. -/
theorem spliced_replaceWith
    (holds : shelf.memory.Holds (shelf.ends sequence) (pre ++ node :: post))
    (fused : IsFused (pre ++ node :: post))
    (otherHolds : shelf.memory.Holds (shelf.ends other) out) (otherFused : IsFused out)
    (apart : ∀ id ∈ ids out, id ∉ ids (pre ++ node :: post)) :
    Spliced shelf ⟨sequence, some node.id⟩ other pre out post
      (shelf.replaceWith ⟨sequence, some node.id⟩ other) := by
  have different := ne_of_holds holds otherHolds apart
  obtain ⟨preFused, postFused, _⟩ := isFused_append.mp fused
  have shown : Spot.Shows _ (Focus.seam ⟨pre.reverse, join out post⟩) :=
    (spot_shows holds).replaceWith postFused.tail otherHolds otherFused (by rwa [List.reverse_reverse])
  rw [replaceWith_eq]
  constructor
  · refine reads_of_holds ?_ (preFused.join (otherFused.join postFused.tail))
    rw [ends_clear_of_ne different, ends_edit (lt_of_holds holds)]
    exact shown.holds_join
  · exact tokens_join_join preFused otherFused postFused.tail
  · refine reads_of_holds ?_ isFused_nil
    rw [ends_clear]
    exact Memory.holds_nil _
  · exact prefix_ids_join pre (join out post)
  · rfl
  · exact fun _ isFirst unfused => shown.position_head isFirst unfused
  · exact fun _ isFirst _ isLast fuses => shown.position_behind isFirst isLast fuses
  · exact fun nothing => shown.position_atEnd nothing
  · rintro rfl
    exact replaceWith_nothing holds otherHolds different

/-- A text that replaces a script between two texts becomes one node with both. -/
theorem spliced_replaceWith_between_texts :
    let shelf := ((Shelf.make {} [⟨.text, "a"⟩, ⟨.script, "s"⟩, ⟨.text, "b"⟩]).1.make [⟨.text, "c"⟩]).1
    Spliced shelf ⟨0, some 1⟩ 1 [⟨0, ⟨.text, "a"⟩⟩] [⟨3, ⟨.text, "c"⟩⟩] [⟨2, ⟨.text, "b"⟩⟩]
      (shelf.replaceWith ⟨0, some 1⟩ 1) := by
  intro shelf
  have shows : shelf.Shows _ := (Shows.empty.make _).make _
  have holds : shelf.memory.Holds (shelf.ends 0)
      ([⟨0, ⟨.text, "a"⟩⟩] ++ ⟨1, ⟨.script, "s"⟩⟩ :: [⟨2, ⟨.text, "b"⟩⟩]) := shows.holds 0
  exact spliced_replaceWith holds (by decide) (shows.holds 1) (by decide) (by decide)

end Shelf

end Linework
