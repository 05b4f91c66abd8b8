import Linework.Proofs.Token.Splice
import Mathlib.Data.List.TakeWhile

/-!
# Copying and erasing a range

Two cursors mark a range of a sequence: the first stands at the head of the range, the second at its last
node, or at the end where nothing follows. Copying the range makes a new sequence of its tokens and leaves
alone all that was there. Erasing it leaves what is before and behind it, fused where the two meet, and those
who stand before it stand where they stood.
-/

namespace Linework

open Node

/-- Where the first node behind a place is fused into the last one before it, the position is behind the
two. -/
theorem Spot.Shows.position_past {spot : Spot} {before after : List Node} {last first : Node}
    (shows : spot.Shows (Focus.seam ⟨before.reverse, first :: after⟩)) (isLast : last ∈ before.getLast?)
    (fuses : (fuse? last first).isSome) : spot.position = firstOr after none := by
  obtain ⟨fused, fusedEq⟩ := Option.isSome_iff_exists.mp fuses
  obtain ⟨earlier, rfl⟩ := List.getLast?_eq_some_iff.mp isLast
  have past : Focus.seam ⟨(earlier ++ [last]).reverse, first :: after⟩ = ⟨fused :: earlier.reverse, after⟩ := by
    simp [Focus.seam, fusedEq]
  rw [past] at shows
  exact shows.position

/-! ## The nodes of a range -/

namespace Shelf

variable {shelf : Shelf} {sequence : SequenceId} {first last : Cursor} {pre between post : List Node}

/-- Two cursors mark a part of a fused sequence. -/
structure Marks (shelf : Shelf) (sequence : SequenceId) (first last : Cursor) (pre between post : List Node) :
    Prop where
  holds : shelf.memory.Holds (shelf.ends sequence) (pre ++ (between ++ post))
  fused : IsFused (pre ++ (between ++ post))
  nonempty : between ≠ []
  head : first = ⟨sequence, firstOr between none⟩
  last : last = ⟨sequence, lastOr between none⟩ ∨ last.node? = none ∧ post = []

/-- The nodes before a node are all those with another address. -/
theorem takeWhile_ne_of_nodup {earlier later : List Node} {node : Node}
    (distinct : (ids (earlier ++ node :: later)).Nodup) :
    (earlier ++ node :: later).takeWhile (fun other => some other.id != some node.id) = earlier := by
  have apart : ∀ other ∈ earlier, (some other.id != some node.id) = true := by
    intro other mem
    rw [ids, List.map_append, List.map_cons, List.nodup_append'] at distinct
    have outside : other.id ∉ node.id :: ids later := distinct.2.2 (List.mem_map_of_mem mem)
    simpa using List.ne_of_not_mem_cons outside
  rw [List.takeWhile_append_of_pos apart, List.takeWhile_cons_of_neg (by simp), List.append_nil]

section Marks

variable (marks : shelf.Marks sequence first last pre between post)
include marks

theorem Marks.position : first.node? = firstOr (between ++ post) none := by
  rw [marks.head, firstOr_append]
  exact firstOr_of_ne_nil marks.nonempty _ _

theorem Marks.ending : last.node? = lastOr between none ∨ last.node? = none ∧ post = [] :=
  marks.last.imp_left fun atLast => by rw [atLast]

/-- From the one cursor to the other there is the part that they mark. -/
theorem Marks.range_eq : shelf.range first last = between := by
  have onwards : shelf.memory.nodesFrom first.node? = between ++ post := by
    rw [marks.position]
    exact marks.holds.nodesFrom
  rw [Shelf.range, onwards]
  rcases marks.ending with atLast | ⟨atEnd, rfl⟩
  · obtain ⟨earlier, final, rfl⟩ := (List.eq_nil_or_concat between).resolve_left marks.nonempty
    have distinct := marks.holds.nodup
    rw [List.concat_eq_append, List.append_assoc, List.singleton_append, ids, List.map_append] at distinct
    have before := takeWhile_ne_of_nodup (List.nodup_append'.mp distinct).2.1
    rw [List.concat_eq_append, lastOr_append_singleton] at atLast
    rw [← atLast] at before
    rw [List.concat_eq_append, List.append_assoc, List.singleton_append]
    simp only [before]
    rw [← List.singleton_append, ← List.append_assoc]
    exact List.take_left' (by simp)
  · have inner : between.takeWhile (fun node => some node.id != last.node?) = between := by
      rw [List.takeWhile_eq_self_iff, atEnd]
      simp
    rw [List.append_nil]
    simp only [inner]
    exact List.take_of_length_le (Nat.le_succ _)

theorem Marks.spot_shows : (shelf.spot first).Shows ⟨pre.reverse, between ++ post⟩ := by
  have holds := marks.holds
  constructor
  · rw [Focus.toList, List.reverse_reverse, marks.head]
    exact holds
  · exact marks.position

/-- A sequence with a part that is marked is one of those on the shelf. -/
theorem Marks.sequence_lt : sequence < shelf.sequences.length := by
  obtain ⟨node, rest, betweenEq⟩ := List.exists_cons_of_ne_nil marks.nonempty
  have holds := marks.holds
  rw [betweenEq, List.cons_append] at holds
  exact lt_of_holds holds

end Marks

/-- Erasing the range leaves the cells around the place where it was as the two parts in a row. -/
theorem Marks.erased_shows (marks : shelf.Marks sequence first last pre between post) :
    ((shelf.spot first).eraseTo last.node?).Shows (Focus.seam ⟨pre.reverse, post⟩) := by
  have postFused := (isFused_append.mp (isFused_append.mp marks.fused).2.1).2.1
  have shown := marks.spot_shows.eraseTo marks.nonempty marks.ending postFused
  rwa [Focus.erase, if_neg (by simp [Focus.atEnd, marks.nonempty]), List.drop_left] at shown

theorem Marks.erased_within (marks : shelf.Marks sequence first last pre between post) :
    ((shelf.spot first).eraseTo last.node?).memory.Within shelf.memory (ids (pre ++ (between ++ post))) := by
  apply marks.spot_shows.eraseTo_within marks.nonempty marks.ending
  rw [Focus.toList, List.reverse_reverse]
  exact List.Subset.refl _

/-- Where a node of the first of two sequences in a row is, there it stays. -/
theorem exists_getElem?_join {index : Nat} {node : Node} (found : pre[index]? = some node)
    (post : List Node) : ∃ node', (join pre post)[index]? = some node' ∧ node'.id = node.id := by
  obtain ⟨rest, whole⟩ := prefix_ids_join pre post
  have atIndex : (ids (join pre post))[index]? = some node.id := by
    rw [← whole, List.getElem?_append_left, ids, List.getElem?_map, found, Option.map_some]
    rw [ids, List.length_map]
    exact (List.getElem?_eq_some_iff.mp found).1
  rw [ids, List.getElem?_map] at atIndex
  exact Option.map_eq_some_iff.mp atIndex

end Shelf

/-! ## Ranges at a workbench -/

namespace Workbench

variable {bench : Workbench Shelf} {sequence : SequenceId} {first last : CursorId}
  {pre between post : List Node}

/-- What copying a range leaves: a new sequence with the tokens of the range, and everything else as it
was. -/
structure Copied (bench : Workbench Shelf) (between : List Node) (result : Workbench Shelf) : Prop where
  count : result.keeper.sequences.length = bench.keeper.sequences.length + 1
  reads : ∃ nodes, result.keeper.Reads bench.keeper.sequences.length nodes ∧
    tokens nodes = tokens between ∧ ∀ node ∈ nodes, bench.keeper.memory.fresh ≤ node.id
  ends : ∀ other < bench.keeper.sequences.length, result.keeper.ends other = bench.keeper.ends other
  cells : ∀ id < bench.keeper.memory.fresh, result.keeper.memory.cell? id = bench.keeper.memory.cell? id
  cursors : result.cursors = bench.cursors

/-- What erasing the range between `pre` and `post` leaves. -/
structure Erased (bench : Workbench Shelf) (sequence : SequenceId) (cursor : CursorId)
    (pre between post : List Node) (result : Workbench Shelf) : Prop where
  /-- The sequence reads as the two parts in a row. -/
  reads : result.keeper.Reads sequence (join pre post)
  /-- They are in a row as if they had been appended token by token. -/
  appended : tokens (join pre post) = Token.fused (tokens (pre ++ post))
  stays : (result.cursor cursor).sequence = sequence
  /-- The cursor stands at the first node behind the range. -/
  head : ∀ next ∈ post.head?, (∀ previous ∈ pre.getLast?, fuse? previous next = none) →
    (result.cursor cursor).node? = some next.id ∧
      result.keeper.memory.tokenAt? (some next.id) = some next.token
  /-- Where that node was fused into the last one of `pre`, the cursor stands at the one after it. -/
  behind : ∀ next ∈ post.head?, ∀ previous ∈ pre.getLast?, (fuse? previous next).isSome →
    (result.cursor cursor).node? = firstOr post.tail none
  atEnd : post = [] → (result.cursor cursor).node? = none
  /-- A cursor at a node of `pre` is at the same place of the sequence as before. -/
  kept : ∀ other ≠ cursor, ∀ (index : Nat) (node : Node), pre[index]? = some node →
    bench.cursor other = ⟨sequence, some node.id⟩ →
      ∃ node' : Node, (join pre post)[index]? = some node' ∧ result.cursor other = ⟨sequence, some node'.id⟩
  ends : ∀ other ≠ sequence, result.keeper.ends other = bench.keeper.ends other
  cells : ∀ id ∉ ids (pre ++ (between ++ post)),
    result.keeper.memory.cell? id = bench.keeper.memory.cell? id

section Marks

variable (marks : bench.keeper.Marks sequence (bench.cursor first) (bench.cursor last) pre between post)
include marks

theorem copied_copy : bench.Copied between (bench.perform (.copy sequence (some first) (some last))) := by
  have range := marks.range_eq
  obtain ⟨holds, extends_, _⟩ := bench.keeper.memory.holds_build (tokens between)
  have fused := (isFused_append.mp (isFused_append.mp marks.fused).2.1).1
  rw [Token.fused_eq_self (isFused_tokens.mpr fused)] at holds
  have copied : bench.perform (.copy sequence (some first) (some last)) =
      { bench with keeper := (bench.keeper.make (tokens between)).1 } := by
    simp only [Workbench.perform, Keeper.range, Keeper.make, Option.map_some, Option.getD_some, range]
  rw [copied]
  constructor
  · simp [Shelf.make]
  · refine ⟨numbered bench.keeper.memory.fresh (tokens between), ?_, tokens_numbered _ _, ?_⟩
    · apply Shelf.reads_of_holds
      · rw [Shelf.ends, Shelf.make, getD_append_singleton, if_pos rfl]
        exact holds
      · rw [← isFused_tokens, Node.tokens, tokens_numbered]
        exact isFused_tokens.mpr fused
    · exact fun node mem => le_of_mem_numbered (List.mem_map_of_mem mem)
  · intro other inside
    rw [Shelf.ends, Shelf.make, getD_append_singleton, if_neg inside.ne', Shelf.ends]
  · exact fun id old => extends_.cell?_eq id old (by simp)
  · rfl

/-- The number of a cursor at a range is one of those at the workbench. -/
theorem cursor_lt : first < bench.cursors.length := by
  by_contra beyond
  have nowhere : bench.cursor first = ⟨0, none⟩ := List.getD_eq_default _ _ (Nat.le_of_not_lt beyond)
  have position := marks.position
  rw [nowhere] at position
  exact marks.nonempty (List.append_eq_nil_iff.mp (firstOr_eq_none_iff.mp position.symm)).1

theorem erased_eraseTo :
    bench.Erased sequence first pre between post (bench.perform (.eraseTo first last)) := by
  obtain ⟨preFused, rangeFused, _⟩ := isFused_append.mp marks.fused
  have postFused := (isFused_append.mp rangeFused).2.1
  have shown := marks.erased_shows
  have erased : bench.perform (.eraseTo first last) =
      bench.edit first (Shelf.eraseTo · · (bench.cursor last)) := rfl
  have keeper : (bench.perform (.eraseTo first last)).keeper =
      (bench.keeper.edit (bench.cursor first) (Spot.eraseTo · (bench.cursor last).node?)).1 := rfl
  have sequenceEq : (bench.cursor first).sequence = sequence := by rw [marks.head]
  have landed : (bench.perform (.eraseTo first last)).cursor first =
      ⟨sequence, ((bench.keeper.spot (bench.cursor first)).eraseTo (bench.cursor last).node?).position⟩ := by
    rw [erased, Workbench.edit, Workbench.cursor, getD_set, if_pos ⟨rfl, cursor_lt marks⟩, ← sequenceEq]
    rfl
  constructor
  · apply Shelf.reads_of_holds _ (preFused.join postFused)
    have ends := Shelf.ends_edit (sequenceEq ▸ marks.sequence_lt) (Spot.eraseTo · (bench.cursor last).node?)
    rw [sequenceEq, ← keeper] at ends
    rw [ends]
    exact shown.holds_join
  · have inRow := tokens_join_join preFused isFused_nil postFused
    rwa [join_nil, List.append_nil] at inRow
  · rw [landed]
  · intro next isNext apart
    obtain ⟨rest, rfl⟩ := List.head?_eq_some_iff.mp isNext
    rw [landed]
    exact shown.position_of_apart apart
  · intro next isNext previous isPrevious fuses
    obtain ⟨rest, rfl⟩ := List.head?_eq_some_iff.mp isNext
    rw [landed]
    exact shown.position_past isPrevious fuses
  · rintro rfl
    rw [landed]
    exact shown.position_atEnd (List.append_nil [])
  · intro other different index node found stands
    obtain ⟨node', foundIn, sameId⟩ := Shelf.exists_getElem?_join found post
    refine ⟨node', foundIn, ?_⟩
    rw [erased, Workbench.edit, Workbench.cursor, getD_set, if_neg fun same => different same.1.symm, sameId]
    exact stands
  · intro other different
    rw [keeper]
    exact Shelf.ends_edit_of_ne (sequenceEq ▸ different.symm) _
  · exact marks.erased_within.cell?_eq

/-- What a range is copied to, and what is left when it is erased, are together what was there: the copy has
the tokens of the range and changes nothing, and erasing leaves what is before and behind the range, fused where
the two meet, with the cursor behind the place and all cursors before it where they were. -/
theorem copied_and_erased :
    bench.Copied between (bench.perform (.copy sequence (some first) (some last))) ∧
      bench.Erased sequence first pre between post (bench.perform (.eraseTo first last)) :=
  ⟨copied_copy marks, erased_eraseTo marks⟩

end Marks

/-- A script and a group between two texts, which become one text. -/
theorem copied_and_erased_between_texts :
    let words : List Token := [⟨.text, "a"⟩, ⟨.script, "s"⟩, ⟨.group, "g"⟩, ⟨.text, "b"⟩, ⟨.boundary, ";"⟩]
    let bench : Workbench Shelf := ⟨(Shelf.make {} words).1, [⟨0, some 1⟩, ⟨0, some 2⟩, ⟨0, some 0⟩]⟩
    let pre : List Node := [⟨0, ⟨.text, "a"⟩⟩]
    let between : List Node := [⟨1, ⟨.script, "s"⟩⟩, ⟨2, ⟨.group, "g"⟩⟩]
    let post : List Node := [⟨3, ⟨.text, "b"⟩⟩, ⟨4, ⟨.boundary, ";"⟩⟩]
    bench.keeper.Marks 0 (bench.cursor 0) (bench.cursor 1) pre between post ∧
      bench.Copied between (bench.perform (.copy 0 (some 0) (some 1))) ∧
      bench.Erased 0 0 pre between post (bench.perform (.eraseTo 0 1)) := by
  intro words bench pre between post
  have shows : bench.keeper.Shows _ := Shelf.Shows.empty.make words
  have holds : bench.keeper.memory.Holds (bench.keeper.ends 0) (pre ++ (between ++ post)) := shows.holds 0
  have marks : bench.keeper.Marks 0 (bench.cursor 0) (bench.cursor 1) pre between post :=
    ⟨holds, by decide, by decide, rfl, .inl rfl⟩
  exact ⟨marks, copied_and_erased marks⟩

end Workbench

end Linework
