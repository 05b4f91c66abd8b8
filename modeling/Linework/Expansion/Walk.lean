import Linework.Expansion.Machine
import Linework.Token.Linked

/-!
# The walk of two cursors

The expansion of a token sequence that is kept as linked cells. Two cursors, which are addresses of
cells, walk over the cells, and every change is an edit of links: a script's cell is replaced by the
cells of its output, a definition is unlinked, the scripts of a group are taken out one by one. Nothing
but the edits themselves keeps a cursor on a cell that is still linked.

The walk evaluates, dispatches and captures as the machine does, and shares its state. Its two nested
loops have their heads as phases of their own.
-/

namespace Linework.Expansion

namespace Walk

/-- Where in its two nested loops a frame is. -/
inductive Phase where
  /-- At the head of the outer loop, where a region begins. -/
  | outer
  /-- At the head of the inner loop, which resolves the cell at the lookahead cursor. -/
  | inner
  /-- Folding the run behind the group at the lookahead cursor; `walker` is at the next cell of it. -/
  | fold (walker : Option Nat) (text : String) (afterScript : Bool)
  /-- Before the first script of a loop. -/
  | beginLoop (init : String) (loop : Loop)
  /-- Before the condition of a loop. -/
  | testLoop (loop : Loop)
  /-- Before the last script of a loop, after an iteration. -/
  | advanceLoop (loop : Loop)

/-- A sequence that is being processed: its cells and the two cursors. -/
structure Frame where
  memory : Memory
  ends : Ends
  main : Option Nat
  lookahead : Option Nat
  phase : Phase := .outer

namespace Frame

/-- A new sequence of the tokens, with both cursors at its head. -/
def ofTokens (tokens : List Token) : Frame :=
  let (memory, ends) := ({} : Memory).build tokens
  { memory := memory, ends := ends, main := ends.head, lookahead := ends.head }

/-- The tokens of the whole sequence. -/
def tokens (frame : Frame) : List Token :=
  (frame.memory.nodesFrom frame.ends.head).map (·.token)

/-- The nodes from the main cursor on. -/
def live (frame : Frame) : List Node :=
  frame.memory.nodesFrom frame.main

/-- The address of the node behind the first `count` nodes from the main cursor on. -/
def behind (frame : Frame) (count : Nat) : Option Nat :=
  (frame.live.drop count).head?.map (·.id)

/-- The tokens of the command at the main cursor. -/
def command (frame : Frame) : List Token :=
  (frame.live.map (·.token)).takeWhile (!·.isBoundary)

/-- Where reading that command leaves the main cursor. -/
def commandEnd (frame : Frame) : Option Nat :=
  frame.behind frame.command.length

/-- Put both cursors at one place, at the head of the outer loop. -/
def restart (frame : Frame) (position : Option Nat) : Frame :=
  { frame with main := position, lookahead := position, phase := .outer }

/-- What an edit at one of the cursors has made of the sequence. -/
def edited (frame : Frame) (spot : Spot) : Frame :=
  { frame with memory := spot.memory, ends := spot.ends }

/-- Move the lookahead cursor to the next cell, at the head of the inner loop. -/
def advance (frame : Frame) : Frame :=
  { frame with lookahead := frame.memory.next frame.lookahead, phase := .inner }

end Frame

end Walk

/-- A configuration of the walk. -/
structure Walk (σ ρ : Type) where
  state : State
  bridge : σ
  library : ρ
  /-- The sequences under way, innermost first. -/
  frames : List Walk.Frame

namespace Walk

variable {σ ρ : Type} (host : Host σ ρ)

/-- The outcome of a move. -/
inductive Move (σ ρ : Type) where
  | next (walk : Walk σ ρ)
  | finished (walk : Walk σ ρ) (tokens : List Token)
  | failed (walk : Walk σ ρ) (tokens : List Token) (fault : Fault)

/-- What the walk shares with the machine, without the sequences. -/
def core (walk : Walk σ ρ) : Machine σ ρ :=
  ⟨walk.state, walk.bridge, walk.library, []⟩

/-- The same sequences under another core. -/
def withCore (walk : Walk σ ρ) (core : Machine σ ρ) : Walk σ ρ :=
  ⟨core.state, core.bridge, core.library, walk.frames⟩

/-- End the walk with a fault. -/
def fail (walk : Walk σ ρ) (fault : Fault) : Move σ ρ :=
  let state := { walk.state with depth := walk.state.depth - walk.frames.length }
  let tokens := (walk.frames.getLast?.map Frame.tokens).getD []
  .failed { walk with state := state, frames := [] } tokens fault

/-- Begin to process a copy of a sequence, unless a bound forbids it. -/
def enter (walk : Walk σ ρ) (tokens : List Token) : Walk σ ρ :=
  let state := walk.state
  if host.limits.nesting ≤ state.depth then
    { walk with state := state.note .nestingLimit }
  else if state.depth = 0 then
    { walk with
      state := { state with depth := 1 }
      frames := .ofTokens tokens :: walk.frames }
  else if host.limits.expansions ≤ state.expansions then
    { walk with state := state.note .expansionLimit }
  else
    { walk with
      state := { state with depth := state.depth + 1, expansions := state.expansions + 1 }
      frames := .ofTokens tokens :: walk.frames }

/-- Evaluate a script and go on with its output. -/
def evaluate (walk : Walk σ ρ) (code : String) (go : Walk σ ρ → String → Move σ ρ) : Move σ ρ :=
  match host.bridge.evaluate code walk.bridge with
  | (.ok output, bridge) =>
    go { walk with bridge := bridge, state := walk.state.record (.evaluated code output) } output
  | (.error fault, bridge) => fail { walk with bridge := bridge } fault

/-- Leave the innermost sequence. -/
def leave (walk : Walk σ ρ) (frame : Frame) (outer : List Frame) : Move σ ρ :=
  let state := { walk.state with depth := walk.state.depth - 1 }
  let walk := { walk with state := state, frames := outer }
  if outer.isEmpty then .finished walk frame.tokens else .next walk

/-- Read a command, which leaves the main cursor behind its last token, dispatch it, and move both
cursors on. -/
def processCommand (walk : Walk σ ρ) (frame : Frame) (outer : List Frame) : Move σ ρ :=
  let frame' : Frame :=
    { frame with
      main := frame.memory.next frame.commandEnd
      lookahead := frame.memory.next frame.lookahead
      phase := .outer }
  match Machine.recognize host walk.state.previous frame.command with
  | .error fault => walk.fail fault
  | .ok none => .next { walk with frames := frame' :: outer }
  | .ok (some command) =>
    let walk := { walk with state := { walk.state with previous := some command.snapshot } }
    match Machine.dispatch host walk.core command with
    | .error (core, fault) => (walk.withCore core).fail fault
    | .ok core => .next { walk.withCore core with frames := frame' :: outer }

/-- The region up to the lookahead cursor is resolved: leave the frame if nothing is left in it, invoke
the block that is named, or process the command. -/
def finishRegion (walk : Walk σ ρ) (frame : Frame) (outer : List Frame) : Move σ ρ :=
  if frame.main.isNone then walk.leave frame outer
  else
    match invokedBlock? (frame.live.map (·.token)) with
    | some name =>
      let position := frame.memory.next (frame.memory.next frame.main)
      let walk := { walk with frames := frame.restart position :: outer }
      match walk.state.blocks.get? name with
      | some body =>
        .next (enter host { walk with state := walk.state.note (.invoking name) } body)
      | none => .next walk
    | none => processCommand host walk frame outer

/-- Store the block whose definition starts at both cursors, and unlink the definition. -/
def define (walk : Walk σ ρ) (frame : Frame) (outer : List Frame) (name remainder : String) :
    Move σ ρ :=
  let captured := blockBody (frame.live.tail.map (·.token))
  let first : List Token := if remainder.isEmpty then [] else [⟨.text, remainder⟩]
  let body := closeBody (first ++ captured)
  let state := { walk.state with blocks := walk.state.blocks.put name body }
  let spot := Spot.eraseTo ⟨frame.memory, frame.ends, frame.main⟩
    (frame.behind (captured.length + 1))
  let frame' := { frame.edited spot with main := spot.position, lookahead := spot.position }
  .next { walk with state := state.note (.defined name body), frames := frame' :: outer }

/-- Start the loop whose head starts at both cursors; `rest` are the tokens behind the head. The cursors
move behind the loop at once, as nothing changes their sequence before they are used again. -/
def startLoop (walk : Walk σ ρ) (frame : Frame) (outer : List Frame)
    (init condition step : String) (separator : Token) (rest : List Token) : Move σ ρ :=
  let captured := if endsBlock separator then [] else blockBody rest
  let closing := if endsBlock separator then 0 else captured.length + 1
  let head := frame.live.length - rest.length
  let loop : Loop := ⟨condition, step, closeBody captured, 0⟩
  let frame' := { frame.restart (frame.behind (head + closing)) with phase := .beginLoop init loop }
  .next { walk with frames := frame' :: outer }

/-- Resolve the cell at the lookahead cursor. -/
def resolve (walk : Walk σ ρ) (frame : Frame) (outer : List Frame) : Move σ ρ :=
  let advance : Move σ ρ := .next { walk with frames := frame.advance :: outer }
  match frame.memory.tokenAt? frame.lookahead with
  | none => finishRegion host walk frame outer
  | some token =>
    match token.kind with
    | .boundary => finishRegion host walk frame outer
    | .group =>
      let phase := Phase.fold (frame.memory.next frame.lookahead) token.text false
      .next { walk with frames := { frame with phase := phase } :: outer }
    | .script =>
      evaluate host walk token.text fun walk output =>
        let tokens := outputTokens output
        let (memory, other) := frame.memory.build tokens
        let spot := Spot.replaceWith ⟨memory, frame.ends, frame.lookahead⟩ other
        let frame' :=
          { frame.edited spot with
            main := if frame.main = frame.lookahead then spot.position else frame.main
            lookahead := spot.position }
        .next { walk with
          state := walk.state.note (.spliced token.text tokens)
          frames := frame' :: outer }
    | .text =>
      if frame.main = frame.lookahead then
        match definition? token.text with
        | some (name, remainder) => define walk frame outer name remainder
        | none =>
          if isLoopWord token.text then
            match loopHead? [] (frame.live.tail.map (·.token)) with
            | some ([init, condition, step], separator, rest) =>
              startLoop walk frame outer init condition step separator rest
            | _ => advance
          else advance
      else advance
    | _ => advance

/-- Fold the next cell into the group at the lookahead cursor, or finish the group. -/
def foldGroup (walk : Walk σ ρ) (frame : Frame) (outer : List Frame) (walker : Option Nat)
    (text : String) (afterScript : Bool) : Move σ ρ :=
  let finish : Move σ ρ :=
    let spot := Spot.setText ⟨frame.memory, frame.ends, frame.lookahead⟩ text
    .next { walk with frames := (frame.edited spot).advance :: outer }
  let removed := Spot.remove ⟨frame.memory, frame.ends, walker⟩
  match frame.memory.tokenAt? walker with
  | none => finish
  | some token =>
    if token.kind == .groupScript then
      evaluate host walk token.text fun walk output =>
        let phase := Phase.fold removed.position (text ++ output) true
        .next { walk with frames := { frame.edited removed with phase := phase } :: outer }
    else if token.kind == .group && afterScript then
      let phase := Phase.fold removed.position (text ++ token.text) false
      .next { walk with frames := { frame.edited removed with phase := phase } :: outer }
    else finish

/-- Decide on the next iteration of a loop. -/
def testLoop (walk : Walk σ ρ) (frame : Frame) (outer : List Frame) (loop : Loop) : Move σ ρ :=
  let leave (walk : Walk σ ρ) : Move σ ρ :=
    .next { walk with frames := { frame with phase := .inner } :: outer }
  if host.limits.iterations ≤ loop.iteration then leave walk
  else
    evaluate host walk loop.condition fun walk output =>
      if output == "true" then
        let walk := { walk with
          state := walk.state.note (.iteration loop.iteration)
          frames := { frame with phase := .advanceLoop loop } :: outer }
        .next (enter host walk loop.body)
      else leave walk

/-- The next move. -/
def step (walk : Walk σ ρ) : Move σ ρ :=
  match walk.frames with
  | [] => .finished walk []
  | frame :: outer =>
    match frame.phase with
    | .outer =>
      if frame.main.isNone then walk.leave frame outer
      else .next { walk with frames := { frame with phase := .inner } :: outer }
    | .inner => resolve host walk frame outer
    | .fold walker text afterScript => foldGroup host walk frame outer walker text afterScript
    | .beginLoop init loop =>
      evaluate host walk init fun walk _ =>
        .next { walk with frames := { frame with phase := .testLoop loop } :: outer }
    | .testLoop loop => testLoop host walk frame outer loop
    | .advanceLoop loop =>
      evaluate host walk loop.step fun walk _ =>
        let loop := { loop with iteration := loop.iteration + 1 }
        .next { walk with frames := { frame with phase := .testLoop loop } :: outer }

/-- Make at most `fuel` moves. -/
def run : Nat → Walk σ ρ → Move σ ρ
  | 0, walk => .next walk
  | fuel + 1, walk =>
    match step host walk with
    | .next walk => run fuel walk
    | ended => ended

end Walk

end Linework.Expansion
