import Linework.Proofs.Assoc
import Linework.Proofs.Expansion.Cursors
import Linework.Proofs.Expansion.Dispatch
import Linework.Proofs.Token.Scan

/-!
# The walk makes the moves of the machine

A walk *shows* a machine when the two share their state and their frames are, one by one, the same
sequences cut at the same places. One move of a walk is either the turn from the head of the outer loop
to the head of the inner one, or the machine's next move. So every reached walk shows a reached
machine, and its cursors are where the invariant says.
-/

namespace Linework.Expansion

open Node

/-- The blocks of a state are fused sequences. -/
def State.Fused (state : State) : Prop :=
  ∀ entry ∈ state.blocks, IsFused entry.2

namespace Walk

/-- How the phase of a walk's frame answers to the task of a machine's frame. -/
inductive Phase.Shows : Phase → Task → List Node → List Node → Prop
  | outer {ahead : List Node} : Shows .outer .resolve [] ahead
  | inner {region ahead : List Node} : Shows .inner .resolve region ahead
  | fold {region rest : List Node} {group : Node} {text : String} {afterScript : Bool} :
      group.token.kind = .group →
      Shows (.fold (firstOr rest none) text afterScript) (.fold text afterScript) region
        (group :: rest)
  | beginLoop {ahead : List Node} {init : String} {loop : Loop} :
      IsFused loop.body → Shows (.beginLoop init loop) (.beginLoop init loop) [] ahead
  | testLoop {ahead : List Node} {loop : Loop} :
      IsFused loop.body → Shows (.testLoop loop) (.testLoop loop) [] ahead
  | advanceLoop {ahead : List Node} {loop : Loop} :
      IsFused loop.body → Shows (.advanceLoop loop) (.advanceLoop loop) [] ahead

/-- The cells and cursors of a frame are the cut sequence of a machine's frame. -/
inductive Frame.Shows : Frame → Expansion.Frame → Prop
  | mk {frame : Frame} {passed region ahead : List Node} {task : Task} :
      frame.Placed passed region ahead → frame.phase.Shows task region ahead →
      Shows frame (Frame.cut passed region ahead task)

variable {σ ρ : Type} (host : Host σ ρ)

/-- The walk and the machine are in the same configuration. -/
structure Shows (walk : Walk σ ρ) (machine : Machine σ ρ) : Prop where
  state : machine.state = walk.state
  bridge : machine.bridge = walk.bridge
  library : machine.library = walk.library
  frames : List.Forall₂ Frame.Shows walk.frames machine.frames
  blocks : walk.state.Fused

/-- The outcomes of two moves are the same. -/
inductive Move.Shows : Move σ ρ → Expansion.Move σ ρ → Prop
  | next {walk : Walk σ ρ} {machine : Machine σ ρ} :
      walk.Shows machine → Shows (.next walk) (.next machine)
  | finished {walk : Walk σ ρ} {machine : Machine σ ρ} {tokens : List Token} :
      walk.Shows machine → Shows (.finished walk tokens) (.finished machine tokens)
  | failed {walk : Walk σ ρ} {machine : Machine σ ρ} {tokens : List Token} {fault : Fault} :
      walk.Shows machine → Shows (.failed walk tokens fault) (.failed machine tokens fault)

/-! ## Parts of a move -/

theorem Frame.Shows.tokens_eq {frame : Frame} {cut : Expansion.Frame} (shows : frame.Shows cut) :
    frame.tokens = cut.tokens := by
  cases shows with
  | mk placed _ => rw [placed.tokens, Frame.tokens_cut]

theorem getLast?_tokens {frames : List Frame} {cuts : List Expansion.Frame}
    (shows : List.Forall₂ Frame.Shows frames cuts) :
    frames.getLast?.map Frame.tokens = cuts.getLast?.map Expansion.Frame.tokens := by
  induction shows with
  | nil => rfl
  | @cons frame cut frames cuts first rest ih =>
      cases rest with
      | nil => simp [first.tokens_eq]
      | cons second others => simpa using ih

theorem Shows.fail {walk : Walk σ ρ} {machine : Machine σ ρ} (shows : walk.Shows machine)
    (fault : Fault) : Move.Shows (walk.fail fault) (machine.fail fault) := by
  have lengths := shows.frames.length_eq
  unfold Walk.fail Machine.fail
  simp only [getLast?_tokens shows.frames, lengths, shows.state]
  exact .failed ⟨rfl, shows.bridge, shows.library, .nil, shows.blocks⟩

/-- A state that has other counts or another log has the same blocks. -/
theorem State.Fused.of_blocks {state state' : State} (fused : state.Fused)
    (same : state'.blocks = state.blocks) : state'.Fused := by
  intro entry mem
  exact fused entry (same ▸ mem)

theorem Shows.evaluate {walk : Walk σ ρ} {machine : Machine σ ρ} (shows : walk.Shows machine)
    (code : String) {go : Walk σ ρ → String → Move σ ρ}
    {go' : Machine σ ρ → String → Expansion.Move σ ρ}
    (goes : ∀ (walk' : Walk σ ρ) (machine' : Machine σ ρ) (output : String),
      walk'.Shows machine' → walk'.frames = walk.frames → machine'.frames = machine.frames →
      Move.Shows (go walk' output) (go' machine' output)) :
    Move.Shows (Walk.evaluate host walk code go) (Machine.evaluate host machine code go') := by
  unfold Walk.evaluate Machine.evaluate
  rw [shows.bridge]
  cases host.bridge.evaluate code walk.bridge with
  | mk outcome bridge =>
      cases outcome with
      | error fault =>
          have after : Shows { walk with bridge := bridge } { machine with bridge := bridge } :=
            ⟨shows.state, rfl, shows.library, shows.frames, shows.blocks⟩
          exact after.fail fault
      | ok output =>
          exact goes _ _ output ⟨by rw [shows.state], rfl, shows.library, shows.frames, shows.blocks⟩
            rfl rfl

/-- The cells of a new sequence are its tokens, fused, with both cursors at the first of them. -/
theorem Frame.placed_ofTokens (tokens : List Token) :
    ∃ nodes, (Frame.ofTokens tokens).Placed [] [] nodes ∧ Node.tokens nodes = Token.fused tokens := by
  obtain ⟨nodes, holds, nodeTokens, _, _⟩ := ({} : Memory).build_holds tokens
  have nodesFused : IsFused nodes :=
    isFused_tokens.mp (by rw [Node.tokens, nodeTokens]; exact Token.isFused_fused tokens)
  exact ⟨nodes, ⟨holds, holds.head, holds.head, nodesFused, by simp⟩, nodeTokens⟩

theorem Frame.shows_ofTokens (tokens : List Token) :
    (Frame.ofTokens tokens).Shows { ahead := Token.fused tokens } := by
  obtain ⟨nodes, placed, nodeTokens⟩ := Frame.placed_ofTokens tokens
  have shows : (Frame.ofTokens tokens).Shows (Frame.cut [] [] nodes .resolve) := .mk placed .outer
  rw [Frame.cut, nodeTokens] at shows
  exact shows

theorem Shows.enter {walk : Walk σ ρ} {machine : Machine σ ρ} (shows : walk.Shows machine)
    (tokens : List Token) :
    (Walk.enter host walk tokens).Shows (Machine.enter host machine (Token.fused tokens)) := by
  unfold Walk.enter Machine.enter
  simp only [shows.state]
  split
  · exact ⟨rfl, shows.bridge, shows.library, shows.frames, shows.blocks⟩
  · have pushed := List.Forall₂.cons (Frame.shows_ofTokens tokens) shows.frames
    split
    · exact ⟨rfl, shows.bridge, shows.library, pushed, shows.blocks⟩
    · split
      · exact ⟨rfl, shows.bridge, shows.library, shows.frames, shows.blocks⟩
      · exact ⟨rfl, shows.bridge, shows.library, pushed, shows.blocks⟩

theorem Shows.enter_body {walk : Walk σ ρ} {machine : Machine σ ρ} (shows : walk.Shows machine)
    {body : List Token} (fused : IsFused body) :
    (Walk.enter host walk body).Shows (Machine.enter host machine body) := by
  have entered := shows.enter host body
  rwa [Token.fused_eq_self fused] at entered

/-- The same sequences, one of them changed, under a state with the same blocks. -/
theorem Shows.goOn {walk : Walk σ ρ} {machine : Machine σ ρ} (shows : walk.Shows machine)
    {frame : Frame} {cut : Expansion.Frame} {outer : List Frame} {cuts : List Expansion.Frame}
    (inner : frame.Shows cut) (others : List.Forall₂ Frame.Shows outer cuts) :
    Shows { walk with frames := frame :: outer } { machine with frames := cut :: cuts } :=
  ⟨shows.state, shows.bridge, shows.library, .cons inner others, shows.blocks⟩

theorem isFused_outputTokens (output : String) : IsFused (outputTokens output) := by
  have fused := Token.isFused_tokenize output
  unfold outputTokens
  simp only
  split
  · exact List.IsChain.infix fused (List.dropLast_prefix _).isInfix
  · exact fused

/-! ## Reading a command -/

section Region

variable {walk : Walk σ ρ} {machine : Machine σ ρ} {frame : Frame} {passed region ahead : List Node}
  {outer : List Frame} {cuts : List Expansion.Frame}

/-- At the end of the sequence or at a separator, the command at the main cursor is the region. -/
theorem Frame.Placed.command (placed : frame.Placed passed region ahead)
    (closed : ∀ node ∈ ahead.head?, node.token.isBoundary) :
    frame.command = Node.tokens region := by
  have resolved : ∀ token ∈ Node.tokens region, (!token.isBoundary) = true := by
    intro token mem
    obtain ⟨node, nodeMem, rfl⟩ := List.mem_map.mp mem
    simp [placed.resolved node nodeMem]
  have stops : (Node.tokens ahead).takeWhile (!·.isBoundary) = [] := by
    cases ahead with
    | nil => rfl
    | cons node rest => simp [closed node rfl]
  rw [Frame.command, placed.live, List.map_append, List.takeWhile_append_of_pos resolved, stops,
    List.append_nil]

/-- Reading that command leaves the main cursor where the lookahead cursor is. -/
theorem Frame.Placed.commandEnd (placed : frame.Placed passed region ahead)
    (closed : ∀ node ∈ ahead.head?, node.token.isBoundary) :
    frame.commandEnd = frame.lookahead := by
  rw [Frame.commandEnd, placed.command closed, placed.behind, placed.lookahead, List.length_map,
    List.drop_left]

theorem Frame.Placed.length_command (placed : frame.Placed passed region ahead)
    (closed : ∀ node ∈ ahead.head?, node.token.isBoundary) :
    frame.command.length = region.length := by
  rw [placed.command closed, List.length_map]

/-- A machine whose frame is the cut sequence reads the same command. -/
theorem Frame.Placed.command_cut (placed : frame.Placed passed region ahead) :
    (Frame.cut passed region ahead .resolve).live.takeWhile (!·.isBoundary) = frame.command := by
  rw [Frame.live_cut, Frame.command, placed.live]

/-- What stands behind a region and the separator after it. -/
theorem drop_region (region ahead : List Node) :
    (region ++ ahead).drop (region.length + 1) = ahead.tail := by
  rw [List.drop_length_add_append, List.drop_one]

theorem Shows.processCommand (shows : walk.Shows machine) (placed : frame.Placed passed region ahead)
    (closed : ∀ node ∈ ahead.head?, node.token.isBoundary)
    (others : List.Forall₂ Frame.Shows outer cuts) :
    Move.Shows (Walk.processCommand host walk frame outer)
      (Machine.processRegion host machine (Frame.cut passed region ahead .resolve) cuts) := by
  have moved : (frame.restart (firstOr ahead.tail none)).Shows
      ((Frame.cut passed region ahead .resolve).skip (frame.command.length + 1)) := by
    have skipped := placed.skip (region.length + 1)
    rw [drop_region] at skipped
    rw [placed.length_command closed, Frame.skip_cut, drop_region]
    exact .mk skipped .outer
  obtain ⟨state, bridge, library, frames⟩ := machine
  obtain ⟨rfl, rfl, rfl, allShown, blocks⟩ := id shows
  unfold Walk.processCommand Machine.processRegion
  simp only [placed.command_cut, placed.commandEnd closed, placed.next_lookahead]
  cases Machine.recognize host walk.state.previous frame.command with
  | error fault => exact shows.fail fault
  | ok command? =>
      cases command? with
      | none => exact .next (shows.goOn moved others)
      | some command =>
          let walk' := { walk with state := { walk.state with previous := some command.snapshot } }
          have kept := Machine.dispatch_kept host walk'.core command
          have reframed : Machine.dispatch host ⟨walk'.state, walk.bridge, walk.library, frames⟩ command =
              Machine.reframed frames (Machine.dispatch host walk'.core command) :=
            Machine.dispatch_reframed host walk'.core frames command
          simp only
          cases dispatched : Machine.dispatch host walk'.core command with
          | error failure =>
              rw [dispatched] at kept reframed
              have after : Shows (walk'.withCore failure.1) { failure.1 with frames := frames } :=
                ⟨rfl, rfl, rfl, allShown, State.Fused.of_blocks blocks kept.blocks⟩
              rw [reframed]
              exact after.fail failure.2
          | ok core =>
              rw [dispatched] at kept reframed
              have after : Shows (walk'.withCore core) { core with frames := frames } :=
                ⟨rfl, rfl, rfl, allShown, State.Fused.of_blocks blocks kept.blocks⟩
              rw [reframed]
              exact .next (after.goOn moved others)

theorem Frame.Placed.next_behind (placed : frame.Placed passed region ahead) (count : Nat) :
    frame.memory.next (firstOr ((region ++ ahead).drop count) none) =
      firstOr ((region ++ ahead).drop (count + 1)) none := by
  have holds : frame.memory.Holds frame.ends
      ((passed ++ (region ++ ahead).take count) ++ (region ++ ahead).drop count) := by
    rw [List.append_assoc, List.take_append_drop]
    exact placed.holds
  rw [holds.next, List.tail_drop]

/-- Where the main cursor is behind an invocation and the separator after it. -/
theorem Frame.Placed.next_next_main (placed : frame.Placed passed region ahead) :
    frame.memory.next (frame.memory.next frame.main) = firstOr ((region ++ ahead).drop 2) none := by
  have second := placed.next_behind 1
  rwa [← placed.next_behind 0, List.drop_zero, ← placed.main] at second

theorem Frame.Placed.isNone_main (placed : frame.Placed passed region ahead) :
    frame.main.isNone = (Node.tokens (region ++ ahead)).isEmpty := by
  rw [Bool.eq_iff_iff, placed.main_isNone_iff, List.isEmpty_map, List.isEmpty_iff]

theorem Shows.finishRegion (shows : walk.Shows machine) (placed : frame.Placed passed region ahead)
    (closed : ∀ node ∈ ahead.head?, node.token.isBoundary)
    (others : List.Forall₂ Frame.Shows outer cuts) :
    Move.Shows (Walk.finishRegion host walk frame outer)
      (Machine.finishRegion host machine (Frame.cut passed region ahead .resolve) cuts) := by
  obtain ⟨state, bridge, library, frames⟩ := machine
  obtain ⟨rfl, rfl, rfl, _, blocks⟩ := id shows
  have sameOuter : outer.isEmpty = cuts.isEmpty := by cases others <;> rfl
  have sameTokens : frame.tokens = (Frame.cut passed region ahead .resolve).tokens := by
    rw [placed.tokens, Frame.tokens_cut]
  unfold Walk.finishRegion Machine.finishRegion
  rw [Frame.live_cut, placed.isNone_main, placed.live]
  split
  · unfold Walk.leave
    simp only [sameOuter, sameTokens]
    split
    · exact .finished ⟨rfl, rfl, rfl, others, blocks⟩
    · exact .next ⟨rfl, rfl, rfl, others, blocks⟩
  · cases invokedBlock? (Node.tokens (region ++ ahead)) with
    | none => exact shows.processCommand host placed closed others
    | some name =>
        have moved : (frame.restart (frame.memory.next (frame.memory.next frame.main))).Shows
            ((Frame.cut passed region ahead .resolve).skip 2) := by
          have skipped := placed.skip 2
          rw [← placed.next_next_main] at skipped
          rw [Frame.skip_cut]
          exact .mk skipped .outer
        have after := shows.goOn moved others
        simp only
        cases found : walk.state.blocks.get? name with
        | none => exact .next after
        | some body =>
            have invoked : Shows
                { walk with
                  state := walk.state.note (.invoking name)
                  frames := frame.restart (frame.memory.next (frame.memory.next frame.main)) :: outer }
                { state := walk.state.note (.invoking name), bridge := walk.bridge,
                  library := walk.library,
                  frames := (Frame.cut passed region ahead .resolve).skip 2 :: cuts } :=
              ⟨rfl, rfl, rfl, after.frames, blocks⟩
            exact .next (invoked.enter_body host (blocks _ (Assoc.mem_of_get? found)))

/-! ## Capturing a body -/

/-- So many cells behind the head are those up to the cell after them, or they are all that follow. -/
theorem Frame.Placed.behind_reaches {head : Node} (placed : frame.Placed passed [] (head :: ahead))
    (count : Nat) :
    (head :: ahead).take (count + 2) ++ ahead.drop (count + 1) = head :: ahead ∧
      (frame.behind (count + 1) = lastOr ((head :: ahead).take (count + 2)) none ∨
        frame.behind (count + 1) = none ∧ ahead.drop (count + 1) = []) := by
  constructor
  · exact List.take_append_drop (count + 2) (head :: ahead)
  · rw [placed.behind, List.nil_append, List.drop_succ_cons]
    cases dropped : ahead.drop count with
    | nil =>
        refine .inr ⟨rfl, List.drop_eq_nil_of_le ?_⟩
        exact Nat.le_succ_of_le (List.drop_eq_nil_iff.mp dropped)
    | cons last rest =>
        left
        have split : (head :: ahead).take (count + 2) = (head :: ahead.take count) ++ [last] := by
          rw [List.take_succ_cons, List.take_add_one, ← List.head?_drop, dropped]
          rfl
        rw [split, lastOr_append_singleton, firstOr_cons]

/-- The cells of a definition, from both cursors on: its head, its body, and the separator after it if
there is one. -/
theorem Shows.define {head : Node} (shows : walk.Shows machine)
    (placed : frame.Placed passed [] (head :: ahead)) (others : List.Forall₂ Frame.Shows outer cuts)
    (inner : frame.phase = .inner) (name remainder : String) :
    Move.Shows (Walk.define walk frame outer name remainder)
      (Machine.define machine (Frame.cut passed [] (head :: ahead) .resolve) cuts name remainder
        (Node.tokens ahead)) := by
  obtain ⟨state, bridge, library, frames⟩ := machine
  obtain ⟨rfl, rfl, rfl, _, blocks⟩ := id shows
  have liveEq : frame.live.tail.map (·.token) = Node.tokens ahead := by
    rw [placed.live]
    rfl
  unfold Walk.define Machine.define
  simp only [liveEq]
  set captured := blockBody (Node.tokens ahead) with capturedEq
  set body := closeBody _ with bodyEq
  have bodyFused : IsFused body := Token.isFused_fused _
  obtain ⟨whole, ending⟩ := placed.behind_reaches captured.length
  rw [← whole] at placed
  have reaches : ((head :: ahead).take (captured.length + 2) ++ ahead.drop (captured.length + 1)).drop
      (captured.length + 2) = ahead.drop (captured.length + 1) := by
    rw [whole, List.drop_succ_cons]
  obtain ⟨passed', ahead', moved, erased⟩ := placed.erase .resolve (by simp) ending reaches
  rw [whole] at erased
  rw [erased]
  have fusedBlocks : State.Fused { walk.state with blocks := walk.state.blocks.put name body } := by
    intro entry mem
    rcases Assoc.mem_put mem with old | rfl
    · exact blocks entry old
    · exact bodyFused
  have still : frame.phase.Shows .resolve [] ahead' := by
    rw [inner]
    exact .inner
  exact .next ⟨rfl, rfl, rfl, .cons (.mk moved still) others, fusedBlocks⟩

theorem Shows.startLoop (shows : walk.Shows machine) (placed : frame.Placed passed [] ahead)
    (others : List.Forall₂ Frame.Shows outer cuts) (init condition step : String) (separator : Token)
    (rest : List Token) :
    Move.Shows (Walk.startLoop walk frame outer init condition step separator rest)
      (Machine.startLoop machine (Frame.cut passed [] ahead .resolve) cuts init condition step
        separator rest) := by
  have lengthEq : frame.live.length = (Frame.cut passed [] ahead .resolve).ahead.length := by
    rw [placed.live]
    simp [Frame.cut]
  unfold Walk.startLoop Machine.startLoop
  simp only [lengthEq, placed.behind, Frame.skip_cut]
  refine .next (shows.goOn ?_ others)
  exact .mk ((placed.skip _).withPhase _) (.beginLoop (Token.isFused_fused _))

/-! ## One move -/

/-- Where the token at the lookahead cursor is an ordinary one, both cuts move over it. -/
theorem Shows.advance {node : Node} (shows : walk.Shows machine)
    (placed : frame.Placed passed region (node :: ahead))
    (inside : node.token.isBoundary = false) (others : List.Forall₂ Frame.Shows outer cuts) :
    Move.Shows (.next { walk with frames := frame.advance :: outer })
      (.next { machine with
        frames := (Frame.cut passed region (node :: ahead) .resolve).advance :: cuts }) := by
  rw [Frame.advance_cut]
  exact .next (shows.goOn (.mk (placed.advance inside) .inner) others)

/-- A script is evaluated, and its output takes its place. -/
theorem Shows.expandScript {node : Node} (shows : walk.Shows machine)
    (placed : frame.Placed passed region (node :: ahead)) (inner : frame.phase = .inner)
    (others : List.Forall₂ Frame.Shows outer cuts) :
    Move.Shows
      (Walk.evaluate host walk node.token.text fun walk output =>
        let tokens := outputTokens output
        let (memory, other) := frame.memory.build tokens
        let spot := Spot.replaceWith ⟨memory, frame.ends, frame.lookahead⟩ other
        let frame' :=
          { frame.edited spot with
            main := if frame.main = frame.lookahead then spot.position else frame.main
            lookahead := spot.position }
        .next { walk with
          state := walk.state.note (.spliced node.token.text tokens)
          frames := frame' :: outer })
      (Machine.evaluate host machine node.token.text fun machine output =>
        let tokens := outputTokens output
        .next { machine with
          state := machine.state.note (.spliced node.token.text tokens)
          frames := (Frame.cut passed region (node :: ahead) .resolve).edit (Focus.splice tokens)
            :: cuts }) := by
  apply shows.evaluate host _
  intro walk' machine' output shows' _ _
  obtain ⟨passed', region', ahead', moved, spliced⟩ :=
    placed.splice .resolve (outputTokens output) (isFused_outputTokens output)
  have still : frame.phase.Shows .resolve region' (ahead' : List Node) := by
    rw [inner]
    exact .inner
  simp only [spliced, shows'.state]
  exact .next ⟨rfl, shows'.bridge, shows'.library, .cons (.mk moved still) others, shows'.blocks⟩

/-- Where both cursors are at a text, it may begin a definition or a loop. -/
theorem Shows.resolveText {node : Node} (shows : walk.Shows machine)
    (placed : frame.Placed passed [] (node :: ahead)) (inner : frame.phase = .inner)
    (inside : node.token.isBoundary = false) (others : List.Forall₂ Frame.Shows outer cuts) :
    Move.Shows
      (match definition? node.token.text with
        | some (name, remainder) => Walk.define walk frame outer name remainder
        | none =>
          if isLoopWord node.token.text then
            match loopHead? [] (frame.live.tail.map (·.token)) with
            | some ([init, condition, step], separator, rest) =>
              Walk.startLoop walk frame outer init condition step separator rest
            | _ => .next { walk with frames := frame.advance :: outer }
          else .next { walk with frames := frame.advance :: outer })
      (match definition? node.token.text with
        | some (name, remainder) =>
          Machine.define machine (Frame.cut passed [] (node :: ahead) .resolve) cuts name remainder
            (Node.tokens ahead)
        | none =>
          if isLoopWord node.token.text then
            match loopHead? [] (Node.tokens ahead) with
            | some ([init, condition, step], separator, rest) =>
              Machine.startLoop machine (Frame.cut passed [] (node :: ahead) .resolve) cuts init
                condition step separator rest
            | _ => .next { machine with
                frames := (Frame.cut passed [] (node :: ahead) .resolve).advance :: cuts }
          else .next { machine with
            frames := (Frame.cut passed [] (node :: ahead) .resolve).advance :: cuts }) := by
  have following : frame.live.tail.map (·.token) = Node.tokens ahead := by
    rw [placed.live]
    rfl
  have advances := shows.advance placed inside others
  rw [following]
  split
  · exact shows.define placed others inner _ _
  · split
    · split
      · exact shows.startLoop placed others _ _ _ _ _
      · exact advances
    · exact advances

theorem Shows.resolve (shows : walk.Shows machine) (placed : frame.Placed passed region ahead)
    (inner : frame.phase = .inner) (others : List.Forall₂ Frame.Shows outer cuts) :
    Move.Shows (Walk.resolve host walk frame outer)
      (Machine.resolve host machine (Frame.cut passed region ahead .resolve) cuts) := by
  unfold Walk.resolve
  rw [placed.tokenAt?_lookahead]
  cases ahead with
  | nil => exact shows.finishRegion host placed (by simp) others
  | cons node ahead =>
      have inside (other : node.token.kind ≠ .boundary) : node.token.isBoundary = false := by
        simpa [Token.isBoundary] using other
      have front : (Frame.cut passed region (node :: ahead) .resolve).ahead =
          node.token :: Node.tokens ahead := rfl
      unfold Machine.resolve
      rw [front]
      simp only [List.head?_cons, Option.map_some]
      cases kind : node.token.kind with
      | boundary =>
          refine shows.finishRegion host placed (fun other isHead => ?_) others
          rw [← Option.some.inj isHead, Token.isBoundary, kind]
          rfl
      | group =>
          rw [placed.next_lookahead]
          exact .next (shows.goOn (.mk (placed.withPhase _) (.fold kind)) others)
      | script => exact shows.expandScript host placed inner others
      | text =>
          have resolved := inside (by rw [kind]; decide)
          by_cases together : region = []
          · subst together
            simp only [placed.main_eq_lookahead_iff.mpr rfl, if_true]
            exact shows.resolveText placed inner resolved others
          · have apart : (Frame.cut passed region (node :: ahead) .resolve).region.isEmpty = false := by
              simpa [Frame.cut] using together
            simp only [placed.main_eq_lookahead_iff, together, apart, if_false]
            exact shows.advance placed resolved others
      | string => exact shows.advance placed (inside (by rw [kind]; decide)) others
      | groupScript => exact shows.advance placed (inside (by rw [kind]; decide)) others

/-- The token behind the one at the lookahead cursor. -/
theorem Frame.Placed.tokenAt?_next {node : Node}
    (placed : frame.Placed passed region (node :: ahead)) :
    frame.memory.tokenAt? (firstOr ahead none) = ahead.head?.map (·.token) := by
  have holds : frame.memory.Holds frame.ends ((passed ++ region ++ [node]) ++ ahead) := by
    rw [List.append_assoc (passed ++ region)]
    exact placed.holds_ahead
  exact holds.tokenAt?

theorem Shows.foldGroup {group : Node} {text : String} {afterScript : Bool}
    (shows : walk.Shows machine) (placed : frame.Placed passed region (group :: ahead))
    (isGroup : group.token.kind = .group) (others : List.Forall₂ Frame.Shows outer cuts) :
    Move.Shows (Walk.foldGroup host walk frame outer (firstOr ahead none) text afterScript)
      (Machine.foldGroup host machine
        (Frame.cut passed region (group :: ahead) (.fold text afterScript)) cuts text afterScript) := by
  have inside : group.token.isBoundary = false := by
    rw [Token.isBoundary, isGroup]
    rfl
  -- The group takes the folded text, and both cuts move over it.
  have finished : Move.Shows
      (.next { walk with
        frames := (frame.edited
          (Spot.setText ⟨frame.memory, frame.ends, frame.lookahead⟩ text)).advance :: outer })
      (.next { machine with
        frames := (Frame.cut passed region (⟨group.id, ⟨group.token.kind, text⟩⟩ :: ahead)
          .resolve).advance :: cuts }) :=
    shows.advance (placed.setText text) inside others
  unfold Walk.foldGroup
  rw [placed.tokenAt?_next]
  cases ahead with
  | nil => exact finished
  | cons node rest =>
      obtain ⟨removed, position⟩ := placed.removeBehind isGroup
      -- One piece of the run is taken out, and the fold goes on with what follows it.
      have folded (text : String) (afterScript : Bool) : Frame.Shows
          { frame.edited (Spot.remove ⟨frame.memory, frame.ends, some node.id⟩) with
            phase := .fold (Spot.remove ⟨frame.memory, frame.ends, some node.id⟩).position text
              afterScript }
          (Frame.cut passed region (group :: rest) (.fold text afterScript)) := by
        rw [position]
        exact .mk (removed.withPhase _) (.fold isGroup)
      unfold Machine.foldGroup
      simp only [List.head?_cons, Option.map_some, firstOr_cons, Frame.cut, List.map_cons]
      split
      · apply shows.evaluate host _
        intro walk' machine' output shows' _ _
        exact .next (shows'.goOn (folded (text ++ output) true) others)
      · split
        · exact .next (shows.goOn (folded (text ++ node.token.text) false) others)
        · exact finished

theorem Shows.testLoop {loop : Loop} (shows : walk.Shows machine)
    (placed : frame.Placed passed [] ahead) (bodyFused : IsFused loop.body)
    (others : List.Forall₂ Frame.Shows outer cuts) :
    Move.Shows (Walk.testLoop host walk frame outer loop)
      (Machine.testLoop host machine (Frame.cut passed [] ahead (.testLoop loop)) cuts loop) := by
  have left (walk' : Walk σ ρ) (machine' : Machine σ ρ) (shows' : walk'.Shows machine') : Move.Shows
      (.next { walk' with frames := { frame with phase := .inner } :: outer })
      (.next { machine' with frames := Frame.cut passed [] ahead .resolve :: cuts }) :=
    .next (shows'.goOn (.mk (placed.withPhase _) .inner) others)
  unfold Walk.testLoop Machine.testLoop
  split
  · exact left walk machine shows
  · apply shows.evaluate host _
    intro walk' machine' output shows' _ _
    simp only
    split
    · have inner : Frame.Shows { frame with phase := .advanceLoop loop }
          (Frame.cut passed [] ahead (.advanceLoop loop)) :=
        .mk (placed.withPhase _) (.advanceLoop bodyFused)
      have noted : Shows
          { walk' with
            state := walk'.state.note (.iteration loop.iteration)
            frames := { frame with phase := .advanceLoop loop } :: outer }
          { machine' with
            state := machine'.state.note (.iteration loop.iteration)
            frames := Frame.cut passed [] ahead (.advanceLoop loop) :: cuts } :=
        ⟨by rw [shows'.state], shows'.bridge, shows'.library, .cons inner others, shows'.blocks⟩
      exact .next (noted.enter_body host bodyFused)
    · exact left walk' machine' shows'

end Region

/-- At the head of the outer loop of a sequence that has not ended, the walk turns to the inner loop. -/
def Turning (walk : Walk σ ρ) : Prop :=
  ∃ frame outer, walk.frames = frame :: outer ∧ frame.phase = .outer ∧ frame.main.isNone = false

/-- The turn changes nothing else, and after it comes a move. -/
theorem Shows.turn {walk : Walk σ ρ} {machine : Machine σ ρ} (shows : walk.Shows machine)
    (turning : walk.Turning) :
    ∃ walk', Walk.step host walk = .next walk' ∧ walk'.Shows machine ∧ ¬walk'.Turning := by
  obtain ⟨frame, outer, framesEq, atOuter, notEnded⟩ := turning
  refine ⟨{ walk with frames := { frame with phase := .inner } :: outer }, ?_, ?_, ?_⟩
  · simp [Walk.step, framesEq, atOuter, notEnded]
  · refine ⟨shows.state, shows.bridge, shows.library, ?_, shows.blocks⟩
    have frames := shows.frames
    rw [framesEq] at frames
    obtain ⟨cut, cuts, inner, others, machineFrames⟩ := List.forall₂_cons_left_iff.mp frames
    rw [machineFrames]
    refine .cons ?_ others
    cases inner with
    | @mk passed region ahead task placed phase =>
        rw [atOuter] at phase
        cases phase with
        | outer => exact .mk (placed.withPhase _) .inner
  · rintro ⟨frame', outer', framesEq', atOuter', _⟩
    cases framesEq'
    cases atOuter'

/-- Every other move of the walk is the machine's. -/
theorem Shows.step {walk : Walk σ ρ} {machine : Machine σ ρ} (shows : walk.Shows machine)
    (moving : ¬walk.Turning) : Move.Shows (Walk.step host walk) (Machine.step host machine) := by
  obtain ⟨state, bridge, library, cuts⟩ := machine
  obtain ⟨rfl, rfl, rfl, frames, blocks⟩ := id shows
  obtain ⟨state, bridge, library, frames⟩ := walk
  unfold Walk.step Machine.step
  cases frames with
  | nil => exact .finished shows
  | @cons frame cut outer cuts inner others =>
      cases inner with
      | @mk passed region ahead task placed answers =>
          obtain ⟨memory, ends, main, lookahead, phase⟩ := frame
          change phase.Shows task region ahead at answers
          cases answers with
          | @outer ahead =>
              have ended : main.isNone = true := by
                by_contra goesOn
                exact moving ⟨_, _, rfl, rfl, (Bool.not_eq_true _).mp goesOn⟩
              obtain rfl : ahead = [] := placed.main_isNone_iff.mp ended
              have finished := shows.finishRegion host placed (by simp) others
              rw [Walk.finishRegion, if_pos ended] at finished
              simp only [ended, if_true]
              exact finished
          | inner => exact shows.resolve host placed rfl others
          | fold isGroup => exact shows.foldGroup host placed isGroup others
          | beginLoop bodyFused =>
              apply shows.evaluate host _
              intro walk' machine' output shows' _ _
              exact .next (shows'.goOn (.mk (placed.withPhase _) (.testLoop bodyFused)) others)
          | testLoop bodyFused => exact shows.testLoop host placed bodyFused others
          | advanceLoop bodyFused =>
              apply shows.evaluate host _
              intro walk' machine' output shows' _ _
              exact .next (shows'.goOn (.mk (placed.withPhase _) (.testLoop bodyFused)) others)

/-! ## Whole runs -/

/-- After any number of moves, the walk is where some run of the machine is that is no longer. -/
theorem Shows.run (moves : Nat) {walk : Walk σ ρ} {machine : Machine σ ρ} (shows : walk.Shows machine) :
    ∃ moves' ≤ moves, Move.Shows (Walk.run host moves walk) (Machine.run host moves' machine) := by
  induction moves generalizing walk machine with
  | zero => exact ⟨0, Nat.le_refl 0, .next shows⟩
  | succ moves ih =>
      by_cases turning : walk.Turning
      · obtain ⟨walk', turned, shows', _⟩ := shows.turn host turning
        obtain ⟨moves', fewer, shown⟩ := ih shows'
        refine ⟨moves', Nat.le_succ_of_le fewer, ?_⟩
        rw [Walk.run, turned]
        exact shown
      · have moved := shows.step host turning
        cases walkStep : Walk.step host walk <;> cases machineStep : Machine.step host machine <;>
          rw [walkStep, machineStep] at moved <;> cases moved
        case next.next walk' machine' shows' =>
          obtain ⟨moves', fewer, shown⟩ := ih shows'
          refine ⟨moves' + 1, Nat.succ_le_succ fewer, ?_⟩
          rw [Walk.run, Machine.run, walkStep, machineStep]
          exact shown
        all_goals
          refine ⟨1, Nat.succ_le_succ (Nat.zero_le moves), ?_⟩
          rw [Walk.run, Machine.run, walkStep, machineStep]
          constructor
          assumption

/-- Every run of the machine is shown by a run of the walk, which makes the turns besides. -/
theorem Shows.run_of_machine (moves' : Nat) {walk : Walk σ ρ} {machine : Machine σ ρ}
    (shows : walk.Shows machine) :
    ∃ moves, Move.Shows (Walk.run host moves walk) (Machine.run host moves' machine) := by
  induction moves' generalizing walk machine with
  | zero => exact ⟨0, .next shows⟩
  | succ moves' ih =>
      -- Behind a turn, the walk's next move is the machine's.
      have moving {walk : Walk σ ρ} (shows : walk.Shows machine) (moves : ¬walk.Turning) :
          ∃ moves, Move.Shows (Walk.run host moves walk)
            (Machine.run host (moves' + 1) machine) := by
        have moved := shows.step host moves
        cases walkStep : Walk.step host walk <;> cases machineStep : Machine.step host machine <;>
          rw [walkStep, machineStep] at moved <;> cases moved
        case next.next walk' machine' shows' =>
          obtain ⟨moves, shown⟩ := ih shows'
          refine ⟨moves + 1, ?_⟩
          rw [Walk.run, Machine.run, walkStep, machineStep]
          exact shown
        all_goals
          refine ⟨1, ?_⟩
          rw [Walk.run, Machine.run, walkStep, machineStep]
          constructor
          assumption
      by_cases turning : walk.Turning
      · obtain ⟨walk', turned, shows', still⟩ := shows.turn host turning
        obtain ⟨moves, shown⟩ := moving shows' still
        refine ⟨moves + 1, ?_⟩
        rw [Walk.run, turned]
        exact shown
      · exact moving shows turning

end Walk

end Linework.Expansion
