import Linework.Proofs.Token.Shelf

/-!
# What operations at a workbench leave intact

Whatever is done with sequences and cursors, the links of every sequence lead through the same nodes in
both directions, no two neighbours fuse, no node is in two sequences, and an operation changes the sequence
it works on and no other. The nodes are those that a `Store` has after the same operations.
-/

namespace Linework

open Node

namespace Workbench

/-- The shelf of the one shows the store of the other, and the cursors are the same. -/
structure Shows (bench : Workbench Shelf) (plain : Workbench Store) : Prop where
  keeper : bench.keeper.Shows plain.keeper
  cursors : bench.cursors = plain.cursors

variable {bench : Workbench Shelf} {plain : Workbench Store}

theorem Shows.cursor (shows : bench.Shows plain) (number : CursorId) :
    bench.cursor number = plain.cursor number := by
  rw [Workbench.cursor, Workbench.cursor, shows.cursors]

theorem Shows.edit (shows : bench.Shows plain) {number : CursorId}
    {change : Shelf → Cursor → Shelf × Cursor} {change' : Store → Cursor → Store × Cursor}
    (agrees : Shelf.Agrees (change bench.keeper (bench.cursor number))
      (change' plain.keeper (bench.cursor number))) :
    (bench.edit number change).Shows (plain.edit number change') := by
  rw [shows.cursor] at agrees
  constructor
  · rw [Workbench.edit, Workbench.edit, shows.cursor]
    exact agrees.1
  · rw [Workbench.edit, Workbench.edit, shows.cursor, shows.cursors]
    exact congrArg (plain.cursors.set number) agrees.2

theorem Shows.copy (shows : bench.Shows plain) {sequence : SequenceId} {first? last? : Option CursorId}
    (stands : first?.all fun number => bench.keeper.holds (bench.cursor number)) :
    (bench.perform (.copy sequence first? last?)).Shows (plain.perform (.copy sequence first? last?)) := by
  have sameCursor : bench.cursor = plain.cursor := funext shows.cursor
  have sameStart := shows.keeper.start sequence
  have firstStands : bench.keeper.holds
      ((first?.map bench.cursor).getD (bench.keeper.start sequence)) := by
    cases first? with
    | none => exact shows.keeper.holds_start sequence
    | some number => exact stands
  have range := shows.keeper.range firstStands ((last?.map bench.cursor).getD ⟨sequence, none⟩)
  rw [sameCursor, sameStart] at range
  constructor
  · simp only [Workbench.perform, Keeper.start, Keeper.range, Keeper.make, sameCursor, sameStart, range]
    exact shows.keeper.make _
  · exact shows.cursors

/-- An operation that is allowed does the same with the shelf as with the store. -/
theorem Shows.perform (shows : bench.Shows plain) {operation : Operation}
    (allowed : bench.allows operation) :
    (bench.perform operation).Shows (plain.perform operation) := by
  cases operation with
  | make tokens => exact ⟨shows.keeper.make tokens, shows.cursors⟩
  | append sequence token => exact ⟨shows.keeper.append sequence token, shows.cursors⟩
  | trimEnd sequence kind => exact ⟨shows.keeper.trimEnd sequence kind, shows.cursors⟩
  | clear sequence => exact ⟨shows.keeper.clear sequence, shows.cursors⟩
  | copy sequence first? last? =>
      simp only [allows, Bool.and_eq_true] at allowed
      exact shows.copy allowed.1
  | start sequence =>
      exact ⟨shows.keeper, congrArg₂ (· ++ [·]) shows.cursors (shows.keeper.start sequence)⟩
  | clone number => exact ⟨shows.keeper, congrArg₂ (· ++ [·]) shows.cursors (shows.cursor number)⟩
  | advance number =>
      rw [Workbench.perform, Workbench.perform]
      apply shows.edit
      exact ⟨shows.keeper, shows.keeper.advance allowed⟩
  | setText number text =>
      simp only [allows, Bool.and_eq_true] at allowed
      rw [Workbench.perform, Workbench.perform]
      apply shows.edit
      exact ⟨shows.keeper.setText allowed.1 text, rfl⟩
  | remove number =>
      rw [Workbench.perform, Workbench.perform]
      apply shows.edit
      exact shows.keeper.remove allowed
  | replaceWith number other =>
      simp only [allows, Bool.and_eq_true, bne_iff_ne] at allowed
      rw [Workbench.perform, Workbench.perform]
      apply shows.edit
      exact shows.keeper.replaceWith allowed.1 allowed.2
  | eraseTo number last =>
      simp only [allows, Bool.and_eq_true] at allowed
      rw [Workbench.perform, Workbench.perform]
      apply shows.edit
      rw [← shows.cursor last]
      exact shows.keeper.eraseTo allowed.1.1 allowed.2

theorem Shows.run (shows : bench.Shows plain) {operations : List Operation}
    (admitted : bench.admits operations) : (bench.run operations).Shows (plain.run operations) := by
  induction operations generalizing bench plain with
  | nil => exact shows
  | cons operation rest ih =>
      simp only [admits, Bool.and_eq_true] at admitted
      exact ih (shows.perform admitted.1) admitted.2

/-! ## What every operation leaves intact -/

/-- No sequence changes but the one that is worked on, and the one that is taken over. -/
theorem Shows.nodes_perform (shows : bench.Shows plain) {operation : Operation} {sequence : SequenceId}
    (different : bench.target? operation ≠ some sequence)
    (keeps : ∀ number, operation ≠ .replaceWith number sequence) :
    (plain.perform operation).keeper.nodes sequence = plain.keeper.nodes sequence := by
  have elsewhere {target : SequenceId} (targetEq : bench.target? operation = some target)
      (nodes : List Node) : (plain.keeper.put target nodes).nodes sequence =
        plain.keeper.nodes sequence := by
    apply plain.keeper.nodes_put_of_ne
    rintro rfl
    exact different targetEq
  have made (tokens : List Token)
      (targetEq : bench.target? operation = some bench.keeper.sequences.length) :
      (plain.keeper.make tokens).1.nodes sequence = plain.keeper.nodes sequence := by
    apply plain.keeper.nodes_make
    rw [← shows.keeper.count]
    rintro rfl
    exact different targetEq
  cases operation with
  | make tokens => exact made tokens rfl
  | append target token => exact elsewhere rfl _
  | trimEnd target kind =>
      change (plain.keeper.trimEnd target kind).nodes sequence = _
      rw [Store.trimEnd]
      split
      · exact elsewhere rfl _
      · rfl
  | clear target => exact elsewhere rfl _
  | copy target first? last? => exact made _ rfl
  | start target => rfl
  | clone number => rfl
  | advance number => rfl
  | setText number text => exact elsewhere (by rw [target?, shows.cursor]) _
  | remove number => exact elsewhere (by rw [target?, shows.cursor]) _
  | replaceWith number other =>
      have notTaken : other ≠ sequence := fun same => keeps number (by rw [same])
      change (plain.keeper.replaceWith (plain.cursor number) other).1.nodes sequence = _
      rw [Store.replaceWith]
      split
      · rfl
      · exact (Store.nodes_put_of_ne _ notTaken []).trans
          (elsewhere (by rw [target?, shows.cursor]) _)
  | eraseTo number last => exact elsewhere (by rw [target?, shows.cursor]) _

/-- A sequence that is taken over is emptied; at the end of a sequence nothing is taken over. -/
theorem Shows.nodes_replaceWith (shows : bench.Shows plain) {number : CursorId} {other : SequenceId}
    (allowed : bench.allows (.replaceWith number other)) :
    (plain.perform (.replaceWith number other)).keeper.nodes other =
      if (bench.cursor number).node?.isSome then [] else plain.keeper.nodes other := by
  simp only [allows, Bool.and_eq_true] at allowed
  have position : (bench.cursor number).node? =
      firstOr (plain.keeper.focus (bench.cursor number)).after none :=
    (shows.keeper.spot allowed.1).position
  change (plain.keeper.replaceWith (plain.cursor number) other).1.nodes other = _
  rw [Store.replaceWith, ← shows.cursor, Focus.atEnd, position]
  cases (plain.keeper.focus (bench.cursor number)).after with
  | nil => rfl
  | cons node rest => exact Store.nodes_clear _ other

/-- What an operation leaves intact. -/
structure Intact (bench : Workbench Shelf) (operation : Operation) : Prop where
  reads : ∀ sequence, (bench.perform operation).keeper.Reads sequence
    ((bench.perform operation).keeper.nodes sequence)
  apart : ∀ sequence other, sequence ≠ other →
    ∀ node ∈ (bench.perform operation).keeper.nodes sequence,
    ∀ node' ∈ (bench.perform operation).keeper.nodes other, node.id ≠ node'.id
  others : ∀ sequence, bench.target? operation ≠ some sequence →
    (∀ number, operation ≠ .replaceWith number sequence) →
    (bench.perform operation).keeper.nodes sequence = bench.keeper.nodes sequence
  takenOver : ∀ number other, operation = .replaceWith number other →
    (bench.perform operation).keeper.nodes other =
      if (bench.cursor number).node?.isSome then [] else bench.keeper.nodes other

theorem Shows.intact (shows : bench.Shows plain) {operation : Operation}
    (allowed : bench.allows operation) : bench.Intact operation := by
  have shows' := shows.perform allowed
  have nodes := shows.keeper.nodes_eq
  have nodes' := shows'.keeper.nodes_eq
  constructor
  · intro sequence
    rw [nodes']
    exact shows'.keeper.reads sequence
  · intro sequence other different node mem node' mem' same
    rw [nodes'] at mem mem'
    apply shows'.keeper.apart sequence other different node.id (List.mem_map_of_mem mem)
    rw [same]
    exact List.mem_map_of_mem mem'
  · intro sequence different keeps
    rw [nodes, nodes']
    exact shows.nodes_perform different keeps
  · rintro number other rfl
    rw [nodes, nodes']
    exact shows.nodes_replaceWith allowed

theorem admits_append_singleton {operations : List Operation} {operation : Operation} :
    bench.admits (operations ++ [operation]) =
      (bench.admits operations && (bench.run operations).allows operation) := by
  induction operations generalizing bench with
  | nil => simp [admits, run]
  | cons first rest ih => rw [List.cons_append, admits, ih, admits, Bool.and_assoc]; rfl

/-- Whatever is done with sequences and cursors, beginning with none: after each operation every sequence
is linked in both directions in the order of its nodes, with no two neighbours that fuse, no node is in two
sequences, and only the sequences that the operation is about have changed. A store has the same nodes and
cursors after the same operations. -/
theorem perform_intact (operations : List Operation) (operation : Operation)
    (admitted : admits ⟨{}, []⟩ (operations ++ [operation])) :
    (run (⟨{}, []⟩ : Workbench Shelf) operations).Intact operation ∧
      let linked := run (⟨{}, []⟩ : Workbench Shelf) (operations ++ [operation])
      let plain := run (⟨{}, []⟩ : Workbench Store) (operations ++ [operation])
      (∀ sequence, plain.keeper.nodes sequence = linked.keeper.nodes sequence) ∧
        plain.cursors = linked.cursors := by
  have nothing : Shows ⟨{}, []⟩ ⟨{}, []⟩ := ⟨Shelf.Shows.empty, rfl⟩
  have whole := nothing.run admitted
  rw [admits_append_singleton, Bool.and_eq_true] at admitted
  constructor
  · exact (nothing.run admitted.1).intact admitted.2
  · constructor
    · exact fun sequence => (whole.keeper.nodes_eq sequence).symm
    · exact whole.cursors.symm

/-- A first sequence in which a word is replaced by a second sequence, and what is left of it is erased,
trimmed, copied and cleared. -/
theorem perform_intact_of_replaced :
    let words : List Operation := [
      .make [⟨.text, "a"⟩, ⟨.boundary, ";"⟩, ⟨.text, "b"⟩, ⟨.group, "c"⟩, ⟨.text, "d"⟩],
      .make [⟨.boundary, ";"⟩, ⟨.group, "e"⟩, ⟨.group, "f"⟩],
      .start 0, .advance 0, .advance 0, .clone 0, .setText 1 "g", .replaceWith 0 1,
      .append 0 ⟨.text, "h"⟩, .copy 0 (some 0) none, .start 2, .clone 2, .advance 3,
      .remove 2, .trimEnd 0 .text, .start 0, .clone 4, .advance 5, .eraseTo 4 5]
    admits ⟨{}, []⟩ (words ++ [.clear 2]) = true ∧
      (run (⟨{}, []⟩ : Workbench Shelf) words).Intact (.clear 2) := by
  intro words
  have admitted : admits ⟨{}, []⟩ (words ++ [.clear 2]) = true := by decide
  exact ⟨admitted, (perform_intact words (.clear 2) admitted).1⟩

end Workbench

end Linework
