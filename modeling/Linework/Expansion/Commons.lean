import Linework.Expansion.Walk
import Linework.Token.Shelf

/-!
# The walk over a common memory

The walk once more, with all cells in one memory: those of the document, of the named blocks, of the
bodies of loops, and of the copies of these that are processed. A block and the body of a loop are kept
as sequences of cells, and to process one is to copy its cells and to walk over the copy. Whether an edit
can be seen in another sequence is thus a question about the edits, and not settled by the values that
are passed around.
-/

namespace Linework

namespace Shelf

/-- The tokens that are met from the head of a sequence on. -/
def content (shelf : Shelf) (sequence : SequenceId) : List Token :=
  (shelf.nodes sequence).map (·.token)

/-- A copy of a sequence. -/
def copy (shelf : Shelf) (sequence : SequenceId) : Shelf × SequenceId :=
  shelf.make (shelf.content sequence)

end Shelf

namespace Expansion

namespace Commons

/-- A loop under way, with the sequence that its body is copied from. -/
structure Loop where
  condition : String
  step : String
  body : SequenceId
  iteration : Nat

/-- What a frame does next. -/
inductive Task where
  /-- Resolve the cell at the lookahead cursor. -/
  | resolve
  /-- Go on folding the run behind the group at the lookahead cursor; `walker` is at the next cell. -/
  | fold (walker : Option Nat) (text : String) (afterScript : Bool)
  /-- Evaluate the first script of a loop. -/
  | beginLoop (init : String) (loop : Loop)
  /-- Decide on the next iteration of a loop. -/
  | testLoop (loop : Loop)
  /-- Evaluate the last script of a loop, after an iteration. -/
  | advanceLoop (loop : Loop)

/-- A sequence that is being processed, and the addresses at which the two cursors are. -/
structure Frame where
  sequence : SequenceId
  main : Option Nat
  lookahead : Option Nat
  task : Task := .resolve

namespace Frame

/-- The frame with the cells of its sequence on a shelf. -/
def on (frame : Frame) (shelf : Shelf) : Walk.Frame where
  memory := shelf.memory
  ends := shelf.ends frame.sequence
  main := frame.main
  lookahead := frame.lookahead
  phase := .inner

/-- The lookahead cursor. -/
def cursor (frame : Frame) : Cursor :=
  ⟨frame.sequence, frame.lookahead⟩

/-- Put both cursors at one place. -/
def restart (frame : Frame) (position : Option Nat) : Frame :=
  { frame with main := position, lookahead := position, task := .resolve }

end Frame

end Commons

/-- A configuration of the walk over a common memory. -/
structure Commons (σ ρ : Type) where
  shelf : Shelf := {}
  /-- The named blocks. -/
  blocks : Assoc String SequenceId := []
  /-- What a run accumulates otherwise. -/
  state : State := {}
  bridge : σ
  library : ρ
  /-- The sequences under way, innermost first. -/
  frames : List Commons.Frame := []

namespace Commons

variable {σ ρ : Type} (host : Host σ ρ)

/-- The outcome of a move. -/
inductive Move (σ ρ : Type) where
  | next (commons : Commons σ ρ)
  | finished (commons : Commons σ ρ) (tokens : List Token)
  | failed (commons : Commons σ ρ) (tokens : List Token) (fault : Fault)

/-- The tokens of a named block. -/
def block? (commons : Commons σ ρ) (name : String) : Option (List Token) :=
  (commons.blocks.get? name).map commons.shelf.content

/-- What a handler has to do with. -/
def core (commons : Commons σ ρ) : Machine σ ρ :=
  ⟨commons.state, commons.bridge, commons.library, []⟩

/-- The same sequences under another core. -/
def withCore (commons : Commons σ ρ) (core : Machine σ ρ) : Commons σ ρ :=
  { commons with state := core.state, bridge := core.bridge, library := core.library }

/-- End the walk with a fault. -/
def fail (commons : Commons σ ρ) (fault : Fault) : Move σ ρ :=
  let state := { commons.state with depth := commons.state.depth - commons.frames.length }
  let tokens := (commons.frames.getLast?.map fun frame => commons.shelf.content frame.sequence).getD []
  .failed { commons with state := state, frames := [] } tokens fault

/-- Begin to process a sequence, unless a bound forbids it. -/
def enter (commons : Commons σ ρ) (sequence : SequenceId) : Commons σ ρ :=
  let state := commons.state
  let head := (commons.shelf.start sequence).node?
  let frame : Frame := { sequence := sequence, main := head, lookahead := head }
  if host.limits.nesting ≤ state.depth then
    { commons with state := state.note .nestingLimit }
  else if state.depth = 0 then
    { commons with
      state := { state with depth := 1 }
      frames := frame :: commons.frames }
  else if host.limits.expansions ≤ state.expansions then
    { commons with state := state.note .expansionLimit }
  else
    { commons with
      state := { state with depth := state.depth + 1, expansions := state.expansions + 1 }
      frames := frame :: commons.frames }

/-- Begin to process a copy of a sequence, unless a bound forbids it. -/
def enterCopy (commons : Commons σ ρ) (sequence : SequenceId) : Commons σ ρ :=
  let (shelf, copy) := commons.shelf.copy sequence
  enter host { commons with shelf := shelf } copy

/-- Evaluate a script and go on with its output. -/
def evaluate (commons : Commons σ ρ) (code : String) (go : Commons σ ρ → String → Move σ ρ) :
    Move σ ρ :=
  match host.bridge.evaluate code commons.bridge with
  | (.ok output, bridge) =>
    go { commons with
      bridge := bridge
      state := commons.state.record (.evaluated code output) } output
  | (.error fault, bridge) => fail { commons with bridge := bridge } fault

/-- Leave the innermost sequence. -/
def leave (commons : Commons σ ρ) (frame : Frame) (outer : List Frame) : Move σ ρ :=
  let state := { commons.state with depth := commons.state.depth - 1 }
  let commons := { commons with state := state, frames := outer }
  if outer.isEmpty then .finished commons (commons.shelf.content frame.sequence) else .next commons

/-- Read a command, which leaves the main cursor behind its last token, dispatch it, and move both
cursors on. -/
def processCommand (commons : Commons σ ρ) (frame : Frame) (outer : List Frame) : Move σ ρ :=
  let read := frame.on commons.shelf
  let frame' : Frame :=
    { frame with
      main := commons.shelf.memory.next read.commandEnd
      lookahead := commons.shelf.memory.next frame.lookahead }
  match Machine.recognize host commons.state.previous read.command with
  | .error fault => commons.fail fault
  | .ok none => .next { commons with frames := frame' :: outer }
  | .ok (some command) =>
    let commons :=
      { commons with state := { commons.state with previous := some command.snapshot } }
    match Machine.dispatch host commons.core command with
    | .error (core, fault) => (commons.withCore core).fail fault
    | .ok core => .next { commons.withCore core with frames := frame' :: outer }

/-- The region up to the lookahead cursor is resolved: leave the frame if nothing is left in it, invoke
the block that is named, or process the command. -/
def finishRegion (commons : Commons σ ρ) (frame : Frame) (outer : List Frame) : Move σ ρ :=
  let memory := commons.shelf.memory
  if frame.main.isNone then commons.leave frame outer
  else
    match invokedBlock? ((frame.on commons.shelf).live.map (·.token)) with
    | some name =>
      let position := memory.next (memory.next frame.main)
      let commons := { commons with frames := frame.restart position :: outer }
      match commons.blocks.get? name with
      | some block =>
        .next (enterCopy host { commons with state := commons.state.note (.invoking name) } block)
      | none => .next commons
    | none => processCommand host commons frame outer

/-- Store the block whose definition starts at both cursors as a sequence of its own, and unlink the
definition. -/
def define (commons : Commons σ ρ) (frame : Frame) (outer : List Frame) (name remainder : String) :
    Move σ ρ :=
  let read := frame.on commons.shelf
  let captured := blockBody (read.live.tail.map (·.token))
  let first : List Token := if remainder.isEmpty then [] else [⟨.text, remainder⟩]
  let (shelf, block) := commons.shelf.make (first ++ captured ++ [⟨.boundary, ""⟩])
  let last : Cursor := ⟨frame.sequence, read.behind (captured.length + 1)⟩
  let (shelf', cursor) := shelf.eraseTo ⟨frame.sequence, frame.main⟩ last
  .next { commons with
    shelf := shelf'
    blocks := commons.blocks.put name block
    state := commons.state.note (.defined name (shelf.content block))
    frames := frame.restart cursor.node? :: outer }

/-- Start the loop whose head starts at both cursors; `rest` are the tokens behind the head. Its body
becomes a sequence of its own. The cursors move behind the loop at once, as nothing changes their sequence
before they are used again. -/
def startLoop (commons : Commons σ ρ) (frame : Frame) (outer : List Frame)
    (init condition step : String) (separator : Token) (rest : List Token) : Move σ ρ :=
  let read := frame.on commons.shelf
  let captured := if endsBlock separator then [] else blockBody rest
  let closing := if endsBlock separator then 0 else captured.length + 1
  let head := read.live.length - rest.length
  let (shelf, body) := commons.shelf.make (captured ++ [⟨.boundary, ""⟩])
  let task := Task.beginLoop init ⟨condition, step, body, 0⟩
  .next { commons with
    shelf := shelf
    frames := { frame.restart (read.behind (head + closing)) with task := task } :: outer }

/-- Resolve the cell at the lookahead cursor. -/
def resolve (commons : Commons σ ρ) (frame : Frame) (outer : List Frame) : Move σ ρ :=
  let advance : Move σ ρ :=
    let lookahead := commons.shelf.memory.next frame.lookahead
    .next { commons with frames := { frame with lookahead := lookahead } :: outer }
  match commons.shelf.memory.tokenAt? frame.lookahead with
  | none => finishRegion host commons frame outer
  | some token =>
    match token.kind with
    | .boundary => finishRegion host commons frame outer
    | .group =>
      let task := Task.fold (commons.shelf.memory.next frame.lookahead) token.text false
      .next { commons with frames := { frame with task := task } :: outer }
    | .script =>
      evaluate host commons token.text fun commons output =>
        let tokens := outputTokens output
        let (shelf, other) := commons.shelf.make tokens
        let (shelf, cursor) := shelf.replaceWith frame.cursor other
        let frame' :=
          { frame with
            main := if frame.main = frame.lookahead then cursor.node? else frame.main
            lookahead := cursor.node? }
        .next { commons with
          shelf := shelf
          state := commons.state.note (.spliced token.text tokens)
          frames := frame' :: outer }
    | .text =>
      if frame.main = frame.lookahead then
        match definition? token.text with
        | some (name, remainder) => define commons frame outer name remainder
        | none =>
          if isLoopWord token.text then
            match loopHead? [] ((frame.on commons.shelf).live.tail.map (·.token)) with
            | some ([init, condition, step], separator, rest) =>
              startLoop commons frame outer init condition step separator rest
            | _ => advance
          else advance
      else advance
    | _ => advance

/-- Fold the next cell into the group at the lookahead cursor, or finish the group. -/
def foldGroup (commons : Commons σ ρ) (frame : Frame) (outer : List Frame) (walker : Option Nat)
    (text : String) (afterScript : Bool) : Move σ ρ :=
  let finish : Move σ ρ :=
    let shelf := commons.shelf.setText frame.cursor text
    let lookahead := shelf.memory.next frame.lookahead
    .next { commons with
      shelf := shelf
      frames := { frame with lookahead := lookahead, task := .resolve } :: outer }
  let (removed, cursor) := commons.shelf.remove ⟨frame.sequence, walker⟩
  match commons.shelf.memory.tokenAt? walker with
  | none => finish
  | some token =>
    if token.kind == .groupScript then
      evaluate host commons token.text fun commons output =>
        let task := Task.fold cursor.node? (text ++ output) true
        .next { commons with shelf := removed, frames := { frame with task := task } :: outer }
    else if token.kind == .group && afterScript then
      let task := Task.fold cursor.node? (text ++ token.text) false
      .next { commons with shelf := removed, frames := { frame with task := task } :: outer }
    else finish

/-- Decide on the next iteration of a loop. -/
def testLoop (commons : Commons σ ρ) (frame : Frame) (outer : List Frame) (loop : Loop) :
    Move σ ρ :=
  let leave (commons : Commons σ ρ) : Move σ ρ :=
    .next { commons with frames := { frame with task := .resolve } :: outer }
  if host.limits.iterations ≤ loop.iteration then leave commons
  else
    evaluate host commons loop.condition fun commons output =>
      if output == "true" then
        let commons := { commons with
          state := commons.state.note (.iteration loop.iteration)
          frames := { frame with task := .advanceLoop loop } :: outer }
        .next (enterCopy host commons loop.body)
      else leave commons

/-- The next move. -/
def step (commons : Commons σ ρ) : Move σ ρ :=
  match commons.frames with
  | [] => .finished commons []
  | frame :: outer =>
    match frame.task with
    | .resolve => resolve host commons frame outer
    | .fold walker text afterScript => foldGroup host commons frame outer walker text afterScript
    | .beginLoop init loop =>
      evaluate host commons init fun commons _ =>
        .next { commons with frames := { frame with task := .testLoop loop } :: outer }
    | .testLoop loop => testLoop host commons frame outer loop
    | .advanceLoop loop =>
      evaluate host commons loop.step fun commons _ =>
        let loop := { loop with iteration := loop.iteration + 1 }
        .next { commons with frames := { frame with task := .testLoop loop } :: outer }

/-- Make at most `fuel` moves. -/
def run : Nat → Commons σ ρ → Move σ ρ
  | 0, commons => .next commons
  | fuel + 1, commons =>
    match step host commons with
    | .next commons => run fuel commons
    | ended => ended

/-- Process a sequence of tokens as a document. -/
def process (fuel : Nat) (commons : Commons σ ρ) (tokens : List Token) : Move σ ρ :=
  let (shelf, document) := commons.shelf.make tokens
  let entered := enter host { commons with shelf := shelf } document
  if entered.frames.isEmpty then .finished entered (shelf.content document) else run host fuel entered

end Commons

end Expansion

end Linework
