import Linework.Proofs.Expansion.Apart

/-!
# No edit is seen in another sequence

The walk over a common memory makes the moves of the machine: a move edits the innermost sequence only, and
what is processed is always a new sequence. So the sequences stay apart, and a configuration that goes with
one of the machine is followed by such configurations.
-/

namespace Linework

open Node

namespace Expansion

namespace Commons

variable {σ ρ : Type} (host : Host σ ρ) {commons : Commons σ ρ} {machine : Machine σ ρ} {store : Store}
  {outer : List Frame}

/-! ## The innermost frame -/

/-- The configurations go together, and their innermost frames are these. -/
structure Innermost (commons : Commons σ ρ) (store : Store) (machine : Machine σ ρ) (frame : Frame)
    (outer : List Frame) (passed region ahead : List Node) (task : Expansion.Task)
    (cuts : List Expansion.Frame) : Prop extends Shows commons store machine where
  top : commons.frames = frame :: outer
  cut : machine.frames = Walk.Frame.cut passed region ahead task :: cuts
  stands : frame.Stands store passed region ahead

section Region

variable {frame frame' : Frame} {passed region ahead : List Node} {task : Expansion.Task}
  {cut' : Expansion.Frame} {cuts : List Expansion.Frame} {shelf : Shelf} {store' : Store}

namespace Innermost

theorem placed (inner : Innermost commons store machine frame outer passed region ahead task cuts) :
    (frame.on commons.shelf).Placed passed region ahead :=
  inner.stands.placed inner.shelf

/-- The innermost sequence is one of the shelf. -/
theorem sequence_lt_length
    (inner : Innermost commons store machine frame outer passed region ahead task cuts) :
    frame.sequence < commons.shelf.sequences.length := by
  rw [inner.shelf.count]
  exact inner.stands.inside

/-- A cursor at one of its nodes stands in the innermost sequence. -/
theorem holds_of_mem {node : Node}
    (inner : Innermost commons store machine frame outer passed region ahead task cuts)
    (mem : node ∈ passed ++ (region ++ ahead)) :
    commons.shelf.holds ⟨frame.sequence, some node.id⟩ := by
  rw [inner.shelf.holds_iff, inner.stands.nodes]
  intro id isNode
  obtain rfl := Option.some.inj isNode
  exact List.mem_map_of_mem mem

theorem heard (inner : Innermost commons store machine frame outer passed region ahead task cuts)
    (code output : String) (bridge : σ) :
    Innermost (commons.heard code output bridge) store (machine.heard code output bridge) frame outer
      passed region ahead task cuts :=
  ⟨inner.toShows.heard code output bridge, inner.top, inner.cut, inner.stands⟩

theorem noting (inner : Innermost commons store machine frame outer passed region ahead task cuts)
    (note : Note) :
    Innermost (commons.noting note) store (machine.noting note) frame outer passed region ahead task cuts :=
  ⟨inner.toShows.noting note, inner.top, inner.cut, inner.stands⟩

theorem make (inner : Innermost commons store machine frame outer passed region ahead task cuts)
    (tokens : List Token) :
    Innermost { commons with shelf := (commons.shelf.make tokens).1 } (store.make tokens).1 machine frame
      outer passed region ahead task cuts :=
  ⟨inner.toShows.make tokens, inner.top, inner.cut,
    inner.stands.keep (store.keeps_make tokens store.sequences.length) inner.stands.inside.ne⟩

theorem goOn (inner : Innermost commons store machine frame outer passed region ahead task cuts)
    (shelfShows : shelf.Shows store') (keeps : store.Keeps store' frame.sequence)
    (same : frame'.sequence = frame.sequence) (shown : frame'.Shows store' cut')
    (bodies : ∀ body ∈ frame'.task.body?,
      body < store'.sequences.length ∧ body ∉ busy commons.frames) :
    Move.Shows store frame outer
      (.next { commons with shelf := shelf, frames := frame' :: outer })
      (.next { machine with frames := cut' :: cuts }) :=
  .next (inner.toShows.goOn inner.top inner.cut shelfShows keeps same shown bodies) keeps
    (.stays same (List.suffix_refl _))

/-- A move of the innermost frame that edits nothing. -/
theorem turn (inner : Innermost commons store machine frame outer passed region ahead task cuts)
    (same : frame'.sequence = frame.sequence) (shown : frame'.Shows store cut')
    (bodies : ∀ body ∈ frame'.task.body?, body ∈ frame.task.body?) :
    Move.Shows store frame outer (.next { commons with frames := frame' :: outer })
      (.next { machine with frames := cut' :: cuts }) := by
  apply inner.goOn inner.shelf (.refl _ _) same shown
  intro body under
  exact inner.body (inner.top ▸ List.mem_cons_self) (bodies body under)

/-- Where the token at the lookahead cursor is an ordinary one, both cuts move over it. -/
theorem advance {node : Node}
    (inner : Innermost commons store machine frame outer passed region (node :: ahead) task cuts)
    (resolving : frame.task = .resolve) (inside : node.token.isBoundary = false) :
    Move.Shows store frame outer
      (.next { commons with frames :=
        { frame with lookahead := commons.shelf.memory.next frame.lookahead } :: outer })
      (.next { machine with frames :=
        (Walk.Frame.cut passed region (node :: ahead) .resolve).advance :: cuts }) := by
  rw [Walk.Frame.advance_cut]
  apply inner.turn
  · rfl
  · refine .mk (.of_placed inner.shelf inner.stands.inside (inner.placed.advance inside)) ?_
    rw [resolving]
    exact .resolve
  · exact fun _ under => under

/-! ### Scripts -/

/-- An edit of the innermost sequence, as the store and the cells have it. -/
theorem edit {passed' region' ahead' : List Node}
    (inner : Innermost commons store machine frame outer passed region ahead task cuts)
    (shelfShows : shelf.Shows store') (keeps : store.Keeps store' frame.sequence)
    (same : frame'.sequence = frame.sequence) {task' : Expansion.Task}
    (placed : (frame'.on shelf).Placed passed' region' ahead')
    (answers : frame'.task.Shows store' task' region' ahead')
    (none : frame'.task.body? = none) :
    Move.Shows store frame outer
      (.next { commons with shelf := shelf, frames := frame' :: outer })
      (.next { machine with frames := Walk.Frame.cut passed' region' ahead' task' :: cuts }) := by
  apply inner.goOn shelfShows keeps same
  · refine .mk (.of_placed shelfShows ?_ placed) answers
    exact same ▸ inner.stands.inside.trans_le keeps.count
  · intro body under
    rw [none] at under
    cases under

/-- The output of a script takes the place of its cell. -/
theorem splice {node : Node}
    (inner : Innermost commons store machine frame outer passed region (node :: ahead) .resolve cuts)
    (resolving : frame.task = .resolve) {output : List Token} (outputFused : IsFused output) :
    let made := commons.shelf.make output
    let result := made.1.replaceWith frame.cursor made.2
    Move.Shows store frame outer
      (.next { commons with
        shelf := result.1
        frames := { frame with
          main := if frame.main = frame.lookahead then result.2.node? else frame.main
          lookahead := result.2.node? } :: outer })
      (.next { machine with
        frames := (Walk.Frame.cut passed region (node :: ahead) .resolve).edit (Focus.splice output)
          :: cuts }) := by
  intro made result
  have atNode : frame.cursor = ⟨frame.sequence, some node.id⟩ :=
    congrArg (Cursor.mk frame.sequence) inner.stands.lookahead
  have insideShelf : frame.cursor.sequence < commons.shelf.sequences.length :=
    inner.sequence_lt_length
  obtain ⟨memory, ends, position⟩ :=
    commons.shelf.replaceWith_make output insideShelf (by rw [atNode]; rfl)
  have madeInner := inner.make output
  have stands : made.1.holds frame.cursor := atNode ▸ madeInner.holds_of_mem (by simp)
  have number : made.2 = store.sequences.length := inner.shelf.count
  have different : made.2 ≠ frame.cursor.sequence := number ▸ inner.stands.inside.ne'
  have shelfShows := (madeInner.shelf.replaceWith stands different).1
  have keeps := store.keeps_replaceWith output frame.cursor
  rw [← number] at keeps
  obtain ⟨passed', region', ahead', moved, spliced⟩ :=
    inner.placed.splice .resolve output outputFused
  simp only [spliced]
  refine inner.edit shelfShows keeps ?_ ?_ ?_ ?_
  · rfl
  · refine Frame.placed_edited memory ends ?_
    have landed : result.2.node? = _ := position
    rw [landed]
    exact moved
  · rw [resolving]
    exact .resolve
  · rw [resolving]
    rfl

theorem expandScript {node : Node}
    (inner : Innermost commons store machine frame outer passed region (node :: ahead) .resolve cuts)
    (resolving : frame.task = .resolve) :
    Move.Shows store frame outer
      (Commons.evaluate host commons node.token.text fun commons output =>
        let tokens := outputTokens output
        let (shelf, other) := commons.shelf.make tokens
        let (shelf, cursor) := shelf.replaceWith frame.cursor other
        let frame' :=
          { frame with
            main := if frame.main = frame.lookahead then cursor.node? else frame.main
            lookahead := cursor.node? }
        .next { commons with
          shelf := shelf
          state := commons.state.note (.spliced node.token.text tokens)
          frames := frame' :: outer })
      (Machine.evaluate host machine node.token.text fun machine output =>
        let tokens := outputTokens output
        .next { machine with
          state := machine.state.note (.spliced node.token.text tokens)
          frames := (Walk.Frame.cut passed region (node :: ahead) .resolve).edit (Focus.splice tokens)
            :: cuts }) := by
  apply inner.toShows.evaluate host
  intro output bridge
  have heard := (inner.heard node.token.text output bridge).noting
    (.spliced node.token.text (outputTokens output))
  exact heard.splice resolving (Walk.isFused_outputTokens output)

/-! ### Captured bodies -/

theorem following {head : Node}
    (inner : Innermost commons store machine frame outer passed [] (head :: ahead) task cuts) :
    (frame.on commons.shelf).live.tail.map (·.token) = Node.tokens ahead := by
  rw [inner.placed.live]
  rfl

/-- The cells of a definition are unlinked. -/
theorem erase {head : Node}
    (inner : Innermost commons store machine frame outer passed [] (head :: ahead) .resolve cuts)
    (count : Nat) :
    let last : Cursor := ⟨frame.sequence, (frame.on commons.shelf).behind (count + 1)⟩
    let result := commons.shelf.eraseTo ⟨frame.sequence, frame.main⟩ last
    Move.Shows store frame outer
      (.next { commons with shelf := result.1, frames := frame.restart result.2.node? :: outer })
      (.next { machine with
        frames := (Walk.Frame.cut passed [] (head :: ahead) .resolve).edit (Focus.erase (count + 2))
          :: cuts }) := by
  intro last result
  have placed := inner.placed
  have main : frame.main = some head.id := inner.stands.main
  obtain ⟨whole, ending⟩ := placed.behind_reaches count
  have stands : commons.shelf.holds ⟨frame.sequence, frame.main⟩ := main ▸ inner.holds_of_mem (by simp)
  have reached : commons.shelf.reaches ⟨frame.sequence, frame.main⟩ last := by
    have live : commons.shelf.memory.nodesFrom frame.main = [] ++ head :: ahead := placed.live
    unfold Shelf.reaches
    simp only [last, placed.behind, live]
    cases dropped : ([] ++ head :: ahead).drop (count + 1) with
    | nil => rfl
    | cons node rest =>
        have mem : node ∈ [] ++ head :: ahead :=
          List.mem_of_mem_drop (dropped ▸ List.mem_cons_self : node ∈ List.drop (count + 1) _)
        exact List.any_eq_true.mpr ⟨node, mem, BEq.rfl⟩
  have keeps := store.keeps_edit ⟨frame.sequence, frame.main⟩
    (Focus.erase (store.range ⟨frame.sequence, frame.main⟩ last).length)
  have shelfShows := (inner.shelf.eraseTo stands reached).1
  have reaches : ((head :: ahead).take (count + 2) ++ ahead.drop (count + 1)).drop (count + 2) =
      ahead.drop (count + 1) := by
    rw [whole, List.drop_succ_cons]
  rw [← whole] at placed
  obtain ⟨passed', ahead', moved, erased⟩ := placed.erase .resolve (by simp) ending reaches
  rw [whole] at erased
  rw [erased]
  refine inner.edit shelfShows keeps ?_ ?_ ?_ ?_
  · rfl
  · exact Frame.placed_edited rfl (Shelf.ends_set_self inner.sequence_lt_length _ _) moved
  · exact .resolve
  · rfl

/-- A definition is stored as a new sequence. -/
theorem define {head : Node}
    (inner : Innermost commons store machine frame outer passed [] (head :: ahead) .resolve cuts)
    (name remainder : String) :
    Move.Shows store frame outer (Commons.define commons frame outer name remainder)
      (Machine.define machine (Walk.Frame.cut passed [] (head :: ahead) .resolve) cuts name remainder
        (Node.tokens ahead)) := by
  unfold Commons.define Machine.define
  simp only [inner.following]
  set captured := blockBody (Node.tokens ahead)
  set tokens := (if remainder.isEmpty then [] else [⟨.text, remainder⟩]) ++ captured ++ [⟨.boundary, ""⟩]
    with tokensEq
  have body := inner.shelf.content_make tokens
  have made := inner.make tokens
  -- Where the body ends is the same before the new sequence is there and after.
  have behind : (frame.on commons.shelf).behind (captured.length + 1) =
      (frame.on (commons.shelf.make tokens).1).behind (captured.length + 1) := by
    rw [inner.placed.behind, made.placed.behind]
  have number : (commons.shelf.make tokens).2 = store.sequences.length := inner.shelf.count
  have stored : Innermost
      { commons with
        shelf := (commons.shelf.make tokens).1
        blocks := commons.blocks.put name (commons.shelf.make tokens).2
        state := commons.state.note (.defined name (Token.fused tokens)) }
      (store.make tokens).1
      { machine with
        state := State.note
          { machine.state with blocks := machine.state.blocks.put name (Token.fused tokens) }
          (.defined name (Token.fused tokens)) }
      frame outer passed [] (head :: ahead) .resolve cuts := by
    refine ⟨⟨made.shelf, ?_, made.bridge, made.library, made.frames, made.distinct, ?_⟩, made.top,
      made.cut, made.stands⟩
    · rw [inner.toShows.make tokens |>.state]
      unfold read
      rw [readBlocks_put, number, store.tokens_make]
      rfl
    · intro kept mem
      rcases List.mem_append.mp mem with block | loop
      · obtain ⟨entry, entryMem, rfl⟩ := List.mem_map.mp block
        rcases Assoc.mem_put entryMem with old | rfl
        · exact made.block old
        · refine ⟨?_, fun taken => (inner.busy_lt taken).ne number⟩
          rw [store.length_make, number]
          exact Nat.lt_succ_self _
      · exact made.apart kept (List.mem_append_right _ loop)
  rw [body, behind]
  exact (stored.erase captured.length).after (store.keeps_make tokens frame.sequence)

/-- Both cursors at one place. -/
theorem restart (inner : Innermost commons store machine frame outer passed region ahead task cuts)
    (count : Nat) {position : Option Nat}
    (landed : position = firstOr ((region ++ ahead).drop count) none) :
    (frame.restart position).Stands store (passed ++ (region ++ ahead).take count) []
      ((region ++ ahead).drop count) := by
  subst landed
  have skipped := (inner.placed.skip count).withPhase .inner
  exact .of_placed inner.shelf inner.stands.inside skipped

/-- The body of a loop is stored as a new sequence. -/
theorem startLoop
    (inner : Innermost commons store machine frame outer passed [] ahead .resolve cuts)
    (init condition step : String) (separator : Token) (rest : List Token) :
    Move.Shows store frame outer
      (Commons.startLoop commons frame outer init condition step separator rest)
      (Machine.startLoop machine (Walk.Frame.cut passed [] ahead .resolve) cuts init condition step
        separator rest) := by
  unfold Commons.startLoop Machine.startLoop
  have lengthEq : (frame.on commons.shelf).live.length =
      (Walk.Frame.cut passed [] ahead .resolve).ahead.length := by
    rw [inner.placed.live]
    simp [Walk.Frame.cut]
  simp only [lengthEq, Walk.Frame.skip_cut]
  set captured := if endsBlock separator then [] else blockBody rest
  set closing := if endsBlock separator then 0 else captured.length + 1
  set tokens := captured ++ [⟨.boundary, ""⟩]
  set count := (Walk.Frame.cut passed [] ahead .resolve).ahead.length - rest.length + closing
  have made := inner.make tokens
  have number : (commons.shelf.make tokens).2 = store.sequences.length := inner.shelf.count
  have body : (store.make tokens).1.tokens (commons.shelf.make tokens).2 = closeBody captured := by
    rw [number, store.tokens_make]
    rfl
  have keeps := store.keeps_make tokens frame.sequence
  refine Move.Shows.after ?_ keeps
  refine made.goOn made.shelf (.refl _ _) ?_ ?_ ?_
  · rfl
  · rw [← body]
    exact .mk ((made.restart count (inner.placed.behind count)).withTask _) .beginLoop
  · intro body under
    obtain rfl := Option.some.inj under
    refine ⟨?_, fun taken => (inner.busy_lt taken).ne number⟩
    rw [store.length_make, number]
    exact Nat.lt_succ_self _

/-- Where both cursors are at a text, it may begin a definition or a loop. -/
theorem resolveText {node : Node}
    (inner : Innermost commons store machine frame outer passed [] (node :: ahead) .resolve cuts)
    (resolving : frame.task = .resolve) (inside : node.token.isBoundary = false) :
    Move.Shows store frame outer
      (match definition? node.token.text with
        | some (name, remainder) => Commons.define commons frame outer name remainder
        | none =>
          if isLoopWord node.token.text then
            match loopHead? [] ((frame.on commons.shelf).live.tail.map (·.token)) with
            | some ([init, condition, step], separator, rest) =>
              Commons.startLoop commons frame outer init condition step separator rest
            | _ => .next { commons with frames :=
                { frame with lookahead := commons.shelf.memory.next frame.lookahead } :: outer }
          else .next { commons with frames :=
            { frame with lookahead := commons.shelf.memory.next frame.lookahead } :: outer })
      (match definition? node.token.text with
        | some (name, remainder) =>
          Machine.define machine (Walk.Frame.cut passed [] (node :: ahead) .resolve) cuts name remainder
            (Node.tokens ahead)
        | none =>
          if isLoopWord node.token.text then
            match loopHead? [] (Node.tokens ahead) with
            | some ([init, condition, step], separator, rest) =>
              Machine.startLoop machine (Walk.Frame.cut passed [] (node :: ahead) .resolve) cuts init
                condition step separator rest
            | _ => .next { machine with
                frames := (Walk.Frame.cut passed [] (node :: ahead) .resolve).advance :: cuts }
          else .next { machine with
            frames := (Walk.Frame.cut passed [] (node :: ahead) .resolve).advance :: cuts }) := by
  have advances := inner.advance resolving inside
  rw [inner.following]
  split
  · exact inner.define _ _
  · split
    · split
      · exact inner.startLoop _ _ _ _ _
      · exact advances
    · exact advances

/-! ### Commands and invocations -/

theorem processCommand
    (inner : Innermost commons store machine frame outer passed region ahead .resolve cuts)
    (resolving : frame.task = .resolve) (closed : ∀ node ∈ ahead.head?, node.token.isBoundary) :
    Move.Shows store frame outer (Commons.processCommand host commons frame outer)
      (Machine.processRegion host machine (Walk.Frame.cut passed region ahead .resolve) cuts) := by
  have placed := inner.placed
  have next : commons.shelf.memory.next frame.lookahead = firstOr ahead.tail none :=
    placed.next_lookahead
  -- Both cursors move behind the separator.
  have moved : Frame.Shows store
      { frame with main := firstOr ahead.tail none, lookahead := firstOr ahead.tail none }
      ((Walk.Frame.cut passed region ahead .resolve).skip ((frame.on commons.shelf).command.length + 1)) := by
    have stands := inner.restart (region.length + 1)
      (congrArg (firstOr · none) (Walk.drop_region region ahead).symm)
    rw [placed.length_command closed, Walk.Frame.skip_cut]
    refine .mk (stands.withTask frame.task) ?_
    rw [resolving]
    exact .resolve
  unfold Commons.processCommand Machine.processRegion
  have commandEnd : (frame.on commons.shelf).commandEnd = frame.lookahead := placed.commandEnd closed
  have previous : machine.state.previous = commons.state.previous := by
    rw [inner.state]
    rfl
  simp only [placed.command_cut, commandEnd, next, previous]
  rcases Machine.recognize host commons.state.previous (frame.on commons.shelf).command with
    fault | (_ | command)
  · exact inner.toShows.fail fault
  · exact inner.turn rfl moved fun _ under => under
  · let commons' := { commons with
      state := { commons.state with previous := some command.snapshot } }
    have machineEq : { machine with
        state := { machine.state with previous := some command.snapshot } } =
        commons'.core.dressed (readBlocks store commons.blocks) machine.frames := by
      rw [inner.state, inner.bridge, inner.library]
      rfl
    -- What dispatching leaves is again in the same configuration.
    have after (core : Machine σ ρ) : Innermost (commons'.withCore core) store
        (core.dressed (readBlocks store commons.blocks) machine.frames) frame outer passed region ahead
        .resolve cuts :=
      ⟨⟨inner.shelf, rfl, rfl, rfl, inner.frames, inner.distinct, inner.apart⟩, inner.top, inner.cut,
        inner.stands⟩
    simp only [machineEq, Machine.dispatch_dressed]
    cases Machine.dispatch host commons'.core command with
    | error failure => exact (after failure.1).toShows.fail failure.2
    | ok core => exact (after core).turn rfl moved fun _ under => under

theorem finishRegion
    (inner : Innermost commons store machine frame outer passed region ahead .resolve cuts)
    (resolving : frame.task = .resolve) (closed : ∀ node ∈ ahead.head?, node.token.isBoundary) :
    Move.Shows store frame outer (Commons.finishRegion host commons frame outer)
      (Machine.finishRegion host machine (Walk.Frame.cut passed region ahead .resolve) cuts) := by
  have placed := inner.placed
  have sameEnd : frame.main.isNone = (Node.tokens (region ++ ahead)).isEmpty := placed.isNone_main
  obtain ⟨shown, others⟩ := List.forall₂_cons.mp (inner.cut ▸ inner.top ▸ inner.frames)
  have sameOuter : outer.isEmpty = cuts.isEmpty := by cases others <;> rfl
  have sameTokens : commons.shelf.content frame.sequence =
      (Walk.Frame.cut passed region ahead .resolve).tokens := by
    rw [inner.shelf.content_eq, shown.tokens_eq]
  unfold Commons.finishRegion Machine.finishRegion
  rw [Walk.Frame.live_cut, sameEnd, placed.live]
  split
  · have suffix : outer <:+ commons.frames := inner.top ▸ List.suffix_cons frame outer
    have left : Shows
        { commons with
          state := { commons.state with depth := commons.state.depth - 1 }
          frames := outer } store
        { machine with
          state := { machine.state with depth := machine.state.depth - 1 }
          frames := cuts } := by
      have fewer := inner.toShows.fewer suffix others
      refine ⟨fewer.shelf, ?_, fewer.bridge, fewer.library, fewer.frames, fewer.distinct, fewer.apart⟩
      rw [inner.state]
      rfl
    unfold Commons.leave
    simp only [sameOuter, sameTokens]
    split
    · exact .finished left
    · exact .next left (.refl _ _) .left
  · cases invokedBlock? (Node.tokens (region ++ ahead)) with
    | none => exact inner.processCommand host resolving closed
    | some name =>
        have landed : commons.shelf.memory.next (commons.shelf.memory.next frame.main) =
            firstOr ((region ++ ahead).drop 2) none := placed.next_next_main
        have moved : Frame.Shows store
            (frame.restart (commons.shelf.memory.next (commons.shelf.memory.next frame.main)))
            ((Walk.Frame.cut passed region ahead .resolve).skip 2) := by
          rw [Walk.Frame.skip_cut]
          exact .mk (inner.restart 2 landed) .resolve
        have same : (frame.restart (commons.shelf.memory.next
            (commons.shelf.memory.next frame.main))).sequence = frame.sequence := rfl
        have after := inner.toShows.goOn inner.top inner.cut inner.shelf (.refl _ _) same moved
          fun _ under => by cases under
        simp only [inner.get?_blocks name]
        cases commons.blocks.get? name with
        | none => exact .next after (.refl _ _) (.stays same (List.suffix_refl _))
        | some block => exact (after.noting (.invoking name)).begins host rfl same block

theorem resolve
    (inner : Innermost commons store machine frame outer passed region ahead .resolve cuts)
    (resolving : frame.task = .resolve) :
    Move.Shows store frame outer (Commons.resolve host commons frame outer)
      (Machine.resolve host machine (Walk.Frame.cut passed region ahead .resolve) cuts) := by
  have placed := inner.placed
  have token : commons.shelf.memory.tokenAt? frame.lookahead = ahead.head?.map (·.token) :=
    placed.tokenAt?_lookahead
  have next : commons.shelf.memory.next frame.lookahead = firstOr ahead.tail none :=
    placed.next_lookahead
  unfold Commons.resolve
  rw [token]
  cases ahead with
  | nil => exact inner.finishRegion host resolving (by simp)
  | cons node ahead =>
      have inside (other : node.token.kind ≠ .boundary) : node.token.isBoundary = false := by
        simpa [Token.isBoundary] using other
      have front : (Walk.Frame.cut passed region (node :: ahead) .resolve).ahead =
          node.token :: Node.tokens ahead := rfl
      unfold Machine.resolve
      rw [front]
      simp only [List.head?_cons, Option.map_some]
      cases kind : node.token.kind with
      | boundary =>
          refine inner.finishRegion host resolving fun other isHead => ?_
          rw [← Option.some.inj isHead, Token.isBoundary, kind]
          rfl
      | group =>
          rw [next]
          exact inner.turn rfl (.mk (inner.stands.withTask _) (.fold kind)) fun _ under => by cases under
      | script => exact inner.expandScript host resolving
      | text =>
          have resolved := inside (by rw [kind]; decide)
          have together : frame.main = frame.lookahead ↔ region = [] := placed.main_eq_lookahead_iff
          by_cases none : region = []
          · subst none
            have atStart : (Walk.Frame.cut passed [] (node :: ahead) .resolve).region.isEmpty := rfl
            rw [if_pos (together.mpr rfl), if_pos atStart]
            exact inner.resolveText resolving resolved
          · have apart : (Walk.Frame.cut passed region (node :: ahead) .resolve).region.isEmpty = false := by
              simpa [Walk.Frame.cut] using none
            simp only [together, none, apart, if_false]
            exact inner.advance resolving resolved
      | string => exact inner.advance resolving (inside (by rw [kind]; decide))
      | groupScript => exact inner.advance resolving (inside (by rw [kind]; decide))

/-! ### Groups and loops -/

/-- The group at the lookahead cursor takes the folded text, and both cuts move over it. -/
theorem closeFold {group : Node} {text : String} {afterScript : Bool}
    (inner : Innermost commons store machine frame outer passed region (group :: ahead)
      (.fold text afterScript) cuts)
    (isGroup : group.token.kind = .group) :
    Move.Shows store frame outer
      (.next { commons with
        shelf := commons.shelf.setText frame.cursor text
        frames := { frame with
          lookahead := (commons.shelf.setText frame.cursor text).memory.next frame.lookahead
          task := .resolve } :: outer })
      (.next { machine with
        frames := (Walk.Frame.cut passed region (⟨group.id, ⟨group.token.kind, text⟩⟩ :: ahead)
          .resolve).advance :: cuts }) := by
  have inside : group.token.isBoundary = false := by
    rw [Token.isBoundary, isGroup]
    rfl
  have atGroup : frame.cursor = ⟨frame.sequence, some group.id⟩ :=
    congrArg (Cursor.mk frame.sequence) inner.stands.lookahead
  have stands : commons.shelf.holds frame.cursor := atGroup ▸ inner.holds_of_mem (by simp)
  have keeps := store.keeps_edit frame.cursor
    (Focus.modify fun node => ⟨node.id, ⟨node.token.kind, text⟩⟩)
  rw [Walk.Frame.advance_cut]
  refine inner.edit (inner.shelf.setText stands text) keeps ?_ ?_ ?_ ?_
  · rfl
  · exact Frame.placed_edited rfl (Shelf.ends_set_self inner.sequence_lt_length _ _)
      ((inner.placed.setText text).advance inside)
  · exact .resolve
  · rfl

/-- The node behind the group is taken out, and the fold goes on with what follows it. What else has
happened in the move has not touched the shelf. -/
theorem foldOn {group node : Node} {text text' : String} {afterScript afterScript' : Bool}
    (inner : Innermost commons store machine frame outer passed region (group :: node :: ahead)
      (.fold text afterScript) cuts)
    (isGroup : group.token.kind = .group) :
    let removed := commons.shelf.remove ⟨frame.sequence, some node.id⟩
    Move.Shows store frame outer
      (.next { commons with
        shelf := removed.1
        frames := { frame with task := .fold removed.2.node? text' afterScript' } :: outer })
      (.next { machine with
        frames := Walk.Frame.cut passed region (group :: ahead) (.fold text' afterScript') :: cuts }) := by
  obtain ⟨placed, position⟩ := inner.placed.removeBehind isGroup
  have stands : commons.shelf.holds ⟨frame.sequence, some node.id⟩ := inner.holds_of_mem (by simp)
  have keeps := store.keeps_edit ⟨frame.sequence, some node.id⟩ Focus.remove
  refine inner.edit (inner.shelf.remove stands).1 keeps ?_ ?_ ?_ ?_
  · rfl
  · exact Frame.placed_edited rfl (Shelf.ends_set_self inner.sequence_lt_length _ _) placed
  · have landed : (commons.shelf.remove ⟨frame.sequence, some node.id⟩).2.node? =
        firstOr ahead none := position
    rw [landed]
    exact .fold isGroup
  · rfl

theorem foldGroup {group : Node} {text : String} {afterScript : Bool}
    (inner : Innermost commons store machine frame outer passed region (group :: ahead)
      (.fold text afterScript) cuts)
    (isGroup : group.token.kind = .group) :
    Move.Shows store frame outer
      (Commons.foldGroup host commons frame outer (firstOr ahead none) text afterScript)
      (Machine.foldGroup host machine
        (Walk.Frame.cut passed region (group :: ahead) (.fold text afterScript)) cuts text afterScript) := by
  have token : commons.shelf.memory.tokenAt? (firstOr ahead none) = ahead.head?.map (·.token) :=
    inner.placed.tokenAt?_next
  unfold Commons.foldGroup
  rw [token]
  cases ahead with
  | nil => exact inner.closeFold isGroup
  | cons node rest =>
      unfold Machine.foldGroup
      simp only [List.head?_cons, Option.map_some, firstOr_cons, Walk.Frame.cut, List.map_cons]
      split
      · apply inner.toShows.evaluate host
        intro output bridge
        exact (inner.heard node.token.text output bridge).foldOn isGroup
      · split
        · exact inner.foldOn isGroup
        · exact inner.closeFold isGroup

theorem testLoop {loop : Loop}
    (inner : Innermost commons store machine frame outer passed [] ahead (.testLoop (loop.read store)) cuts)
    (testing : frame.task = .testLoop loop) :
    Move.Shows store frame outer (Commons.testLoop host commons frame outer loop)
      (Machine.testLoop host machine (Walk.Frame.cut passed [] ahead (.testLoop (loop.read store))) cuts
        (loop.read store)) := by
  have left {commons : Commons σ ρ} {machine : Machine σ ρ}
      (inner : Innermost commons store machine frame outer passed [] ahead (.testLoop (loop.read store))
        cuts) : Move.Shows store frame outer
      (.next { commons with frames := { frame with task := .resolve } :: outer })
      (.next { machine with frames := Walk.Frame.cut passed [] ahead .resolve :: cuts }) :=
    inner.turn rfl (.mk (inner.stands.withTask _) .resolve) fun _ under => by cases under
  have same : (loop.read store).iteration = loop.iteration := rfl
  unfold Commons.testLoop Machine.testLoop
  simp only [same]
  by_cases bounded : host.limits.iterations ≤ loop.iteration
  · rw [if_pos bounded, if_pos bounded]
    exact left inner
  · rw [if_neg bounded, if_neg bounded]
    apply inner.toShows.evaluate host
    intro output bridge
    have heard := inner.heard loop.condition output bridge
    split
    · have noted := heard.noting (.iteration loop.iteration)
      have shown : Frame.Shows store { frame with task := .advanceLoop loop }
          (Walk.Frame.cut passed [] ahead (.advanceLoop (loop.read store))) :=
        .mk (inner.stands.withTask _) .advanceLoop
      have same : ({ frame with task := .advanceLoop loop } : Frame).sequence = frame.sequence := rfl
      have bodies : ∀ body ∈ Task.body? (.advanceLoop loop), body < store.sequences.length ∧
          body ∉ busy commons.frames := by
        intro body under
        apply inner.body (inner.top ▸ List.mem_cons_self)
        rw [testing]
        exact under
      have after := noted.toShows.goOn noted.top noted.cut noted.shelf (.refl _ _) same shown bodies
      exact after.begins host rfl same loop.body
    · exact left heard

end Innermost

end Region

/-! ## Moves and runs -/

/-- Every move is the machine's, and it edits the innermost sequence only. -/
theorem Shows.step {frame : Frame} (shows : commons.Shows store machine)
    (top : commons.frames = frame :: outer) :
    Move.Shows store frame outer (Commons.step host commons) (Machine.step host machine) := by
  obtain ⟨cut, cuts, shown, _, cutsEq⟩ := List.forall₂_cons_left_iff.mp (top ▸ shows.frames)
  cases shown with
  | @mk passed region ahead task stands answers =>
      have inner : Innermost commons store machine frame outer passed region ahead task cuts :=
        ⟨shows, top, cutsEq, stands⟩
      unfold Commons.step Machine.step
      rw [top, cutsEq]
      obtain ⟨sequence, main, lookahead, task⟩ := frame
      change task.Shows store _ region ahead at answers
      cases answers with
      | resolve => exact inner.resolve host rfl
      | fold isGroup => exact inner.foldGroup host isGroup
      | @beginLoop ahead init loop =>
          apply shows.evaluate host
          intro output bridge
          have heard := inner.heard init output bridge
          exact heard.turn rfl (.mk (stands.withTask _) .testLoop) fun _ under => under
      | testLoop => exact inner.testLoop host rfl
      | @advanceLoop ahead loop =>
          apply shows.evaluate host
          intro output bridge
          have heard := inner.heard loop.step output bridge
          have next : Task.Shows store (.testLoop { loop with iteration := loop.iteration + 1 })
              (.testLoop (Loop.read store { loop with iteration := loop.iteration + 1 })) [] ahead :=
            .testLoop
          exact heard.turn rfl (.mk (stands.withTask _) next) fun _ under => under

/-- The outcomes of two runs are the same. -/
inductive Move.Same : Move σ ρ → Expansion.Move σ ρ → Prop
  | next {commons : Commons σ ρ} {store : Store} {machine : Machine σ ρ} :
      commons.Shows store machine → Same (.next commons) (.next machine)
  | finished {commons : Commons σ ρ} {store : Store} {machine : Machine σ ρ} {tokens : List Token} :
      commons.Shows store machine → Same (.finished commons tokens) (.finished machine tokens)
  | failed {commons : Commons σ ρ} {store : Store} {machine : Machine σ ρ} {tokens : List Token}
      {fault : Fault} : commons.Shows store machine →
      Same (.failed commons tokens fault) (.failed machine tokens fault)

theorem Move.Shows.same {move : Move σ ρ} {move' : Expansion.Move σ ρ}
    (moved : Move.Shows store frame outer move move') : Move.Same move move' := by
  cases moved with
  | next shows => exact .next shows
  | finished shows => exact .finished shows
  | failed shows => exact .failed shows

theorem Shows.same_step (shows : commons.Shows store machine) :
    Move.Same (Commons.step host commons) (Machine.step host machine) := by
  cases top : commons.frames with
  | nil =>
      have machineFrames : machine.frames = [] := List.forall₂_nil_left_iff.mp (top ▸ shows.frames)
      rw [Machine.step_of_nil host machineFrames, Commons.step, top]
      exact .finished shows
  | cons frame outer => exact (shows.step host top).same

theorem Shows.run (fuel : Nat) (shows : commons.Shows store machine) :
    Move.Same (Commons.run host fuel commons) (Machine.run host fuel machine) := by
  induction fuel generalizing commons store machine with
  | zero => exact .next shows
  | succ fuel ih =>
      have moved := shows.same_step host
      rw [Commons.run, Machine.run]
      generalize Commons.step host commons = move, Machine.step host machine = move' at moved
      cases moved with
      | next shows' => exact ih shows'
      | finished shows' => exact .finished shows'
      | failed shows' => exact .failed shows'

/-- Processing a document over a common memory, whatever it has been used for before, is processing it
with sequences that are values. -/
theorem Shows.process (fuel : Nat) (shows : commons.Shows store machine) (tokens : List Token) :
    Move.Same (Commons.process host fuel commons tokens)
      (Machine.process host fuel machine (Token.fused tokens)) := by
  have entered := shows.enterNew host tokens
  have sameTokens := shows.shelf.content_make tokens
  have sameEnd := entered.frames.length_eq
  unfold Commons.process Machine.process
  simp only [sameTokens, ← List.length_eq_zero_iff, List.isEmpty_iff, sameEnd]
  split
  · exact .finished entered
  · exact entered.run host fuel

/-- A configuration in which the sequences under way are distinct, and none of them is a block or the body
of a loop. -/
def Sound (commons : Commons σ ρ) : Prop :=
  ∃ store machine, commons.Shows store machine

/-- A memory with nothing in it. -/
theorem shows_empty (bridge : σ) (library : ρ) :
    Shows { bridge := bridge, library := library } {} ⟨{}, bridge, library, []⟩ :=
  ⟨.empty, rfl, rfl, rfl, .nil, List.nodup_nil, fun _ mem => absurd mem List.not_mem_nil⟩

end Commons

end Expansion

end Linework
