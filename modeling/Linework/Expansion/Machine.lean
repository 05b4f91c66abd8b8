import Linework.Command
import Linework.Drawing.Result
import Linework.Expansion.Marker
import Linework.Fault
import Linework.Token.Focus
import Linework.Token.Scan

/-!
# Expansion of a token sequence

The sequence is walked by two positions. The *lookahead* resolves scripts, groups, definitions and
loops up to the next separator; the *main* position trails behind at the start of the region that is
being resolved, and turns each resolved region into a command. A script's output is read as source and
takes the script's place, so the sequence changes while it is walked.

The walk is a machine. Its configuration is a stack of frames, one for the document and one for each
block or loop body that is being processed inside of it, and the state that all of them share. `step`
makes the next move: at most one script is evaluated in it, or one command dispatched. `run` makes as
many moves as it is allowed; a run that is not over is told from one that has ended.

Scripts and commands are given from outside, as a `Bridge` and a `Registry`, each with a state of its
own type.
-/

namespace Linework.Expansion

/-- What the machine needs of a script language. -/
structure Bridge (σ : Type) where
  /-- Run a fragment; its result as text. -/
  evaluate : String → σ → Except Fault String × σ
  /-- Make a value known to later fragments under a name; the state that this leaves. -/
  bind : String → Datum → σ → σ
  /-- The fault that `bind` raises, if it raises one. -/
  bindFault : String → Datum → σ → Option Fault := fun _ _ _ => none

/-- What the machine needs of a set of commands. -/
structure Registry (ρ : Type) where
  /-- Whether a command is known. -/
  has : String → Except Fault Bool
  /-- The arity of each flag of a known command. -/
  schema : String → Except Fault Schema
  /-- Run the handler of a known command. -/
  invoke : String → Arguments → ρ → Except Fault (Option Result) × ρ

/-- Whether a registry says of a command that it is known. -/
def Registry.knows {ρ : Type} (registry : Registry ρ) (name : String) : Bool :=
  match registry.has name with
  | .ok known => known
  | .error _ => false

/-- The bounds of a run, and the command that opens every drawing. -/
structure Limits where
  iterations : Int := 100
  nesting : Int := 64
  expansions : Int := 10000
  initCommand : String := "init"

/-- A remark on the course of a run, for those who trace it. -/
inductive Note where
  | nestingLimit
  | expansionLimit
  | spliced (code : String) (output : List Token)
  | defined (name : String) (body : List Token)
  | invoking (name : String)
  | iteration (count : Nat)
  | unknown (name : String)
  | repeatedInit (name : String)
  | dispatching (name : String) (arguments : Arguments)

/-- What happens in a run, in the order of happening. -/
inductive Event where
  /-- A script was evaluated to a text. -/
  | evaluated (code output : String)
  /-- A handler was called. -/
  | called (name : String) (arguments : Arguments)
  /-- A result was given to scripts. -/
  | bound (name : String)
  | noted (note : Note)

/-- What a run accumulates. -/
structure State where
  /-- The named blocks. -/
  blocks : Assoc String (List Token) := []
  results : Array Result := #[]
  /-- The last command, which a repetition starts from. -/
  previous : Option Command := none
  /-- How many handlers have been called and have returned. -/
  dispatched : Nat := 0
  /-- How many sequences are being processed inside of each other. -/
  depth : Nat := 0
  /-- How many blocks and loop bodies have been begun. -/
  expansions : Nat := 0
  log : Array Event := #[]

namespace State

/-- Record an event. -/
def record (state : State) (event : Event) : State :=
  { state with log := state.log.push event }

/-- Record a remark. -/
def note (state : State) (note : Note) : State :=
  state.record (.noted note)

end State

/-- A loop under way. -/
structure Loop where
  condition : String
  step : String
  body : List Token
  iteration : Nat

/-- What a frame does next. -/
inductive Task where
  /-- Resolve the token at the lookahead position. -/
  | resolve
  /-- Go on folding the run behind the group at the lookahead position, whose text so far is given
  with whether a script came last. -/
  | fold (text : String) (afterScript : Bool)
  /-- Evaluate the first script of a loop. -/
  | beginLoop (init : String) (loop : Loop)
  /-- Decide on the next iteration of a loop. -/
  | testLoop (loop : Loop)
  /-- Evaluate the last script of a loop, after an iteration. -/
  | advanceLoop (loop : Loop)

/-- A sequence that is being processed, cut in three: up to the main position, from there to the
lookahead position, and the rest. -/
structure Frame where
  /-- The tokens before the main position, nearest first. -/
  done : List Token := []
  /-- The tokens from the main to the lookahead position, nearest to the latter first. -/
  region : List Token := []
  /-- The tokens from the lookahead position on. -/
  ahead : List Token
  task : Task := .resolve

namespace Frame

/-- The tokens from the main position on. -/
def live (frame : Frame) : List Token :=
  frame.region.reverse ++ frame.ahead

/-- The whole sequence. -/
def tokens (frame : Frame) : List Token :=
  frame.done.reverse ++ frame.live

/-- Move the lookahead position over a token. -/
def advance (frame : Frame) : Frame :=
  match frame.ahead with
  | [] => frame
  | token :: rest => { frame with region := token :: frame.region, ahead := rest }

/-- Edit at the lookahead position. Where the main position is there too, it stays with it. -/
def edit (frame : Frame) (change : Focus Token → Focus Token) : Frame :=
  if frame.region.isEmpty then
    let focus := change ⟨frame.done, frame.ahead⟩
    { frame with done := focus.before, ahead := focus.after }
  else
    let focus := change ⟨frame.region, frame.ahead⟩
    { frame with region := focus.before, ahead := focus.after }

/-- Move both positions behind the first `count` tokens from the main position on. -/
def skip (frame : Frame) (count : Nat) : Frame :=
  { frame with
    done := (frame.live.take count).reverse ++ frame.done
    region := []
    ahead := frame.live.drop count }

end Frame

/-- A configuration of the machine. -/
structure Machine (σ ρ : Type) where
  state : State
  bridge : σ
  library : ρ
  /-- The sequences under way, innermost first. -/
  frames : List Frame

/-- The outcome of a move. -/
inductive Move (σ ρ : Type) where
  /-- The run goes on. -/
  | next (machine : Machine σ ρ)
  /-- The run is over, and the document's sequence has become these tokens. -/
  | finished (machine : Machine σ ρ) (tokens : List Token)
  /-- A fault of a collaborator has ended the run with the document's sequence as given. -/
  | failed (machine : Machine σ ρ) (tokens : List Token) (fault : Fault)

/-- The collaborators and bounds of a run. -/
structure Host (σ ρ : Type) where
  bridge : Bridge σ
  registry : Registry ρ
  limits : Limits := {}

/-- An output of a script as the tokens that take its place: without the empty separator that the end
of the output adds. -/
def outputTokens (output : String) : List Token :=
  let tokens := Token.tokenize output
  if tokens.getLast? = some ⟨.boundary, ""⟩ then tokens.dropLast else tokens

/-- The tokens up to the end of a block. -/
def blockBody (tokens : List Token) : List Token :=
  tokens.takeWhile fun token => !endsBlock token

/-- A captured body as a sequence of its own, closed by an empty separator. -/
def closeBody (tokens : List Token) : List Token :=
  Token.fused (tokens ++ [⟨.boundary, ""⟩])

/-- Which block is invoked at the main position, if one is: the marker is all that stands before the
next separator. -/
def invokedBlock? : List Token → Option String
  | token :: next :: _ =>
    if token.kind == .text && next.isBoundary then invocation? token.text else none
  | _ => none

namespace Machine

variable {σ ρ : Type} (host : Host σ ρ)

/-- End the run with a fault. Every sequence under way is left, so the depth is what it was at the
start. -/
def fail (machine : Machine σ ρ) (fault : Fault) : Move σ ρ :=
  let state := { machine.state with depth := machine.state.depth - machine.frames.length }
  let tokens := (machine.frames.getLast?.map Frame.tokens).getD []
  .failed { machine with state := state, frames := [] } tokens fault

/-- Begin to process a sequence, unless a bound forbids it. -/
def enter (machine : Machine σ ρ) (tokens : List Token) : Machine σ ρ :=
  let state := machine.state
  if host.limits.nesting ≤ state.depth then
    { machine with state := state.note .nestingLimit }
  else if state.depth = 0 then
    { machine with
      state := { state with depth := 1 }
      frames := { ahead := tokens } :: machine.frames }
  else if host.limits.expansions ≤ state.expansions then
    { machine with state := state.note .expansionLimit }
  else
    { machine with
      state := { state with depth := state.depth + 1, expansions := state.expansions + 1 }
      frames := { ahead := tokens } :: machine.frames }

/-- Evaluate a script and go on with its output. -/
def evaluate (machine : Machine σ ρ) (code : String)
    (go : Machine σ ρ → String → Move σ ρ) : Move σ ρ :=
  match host.bridge.evaluate code machine.bridge with
  | (.ok output, bridge) =>
    go { machine with
      bridge := bridge
      state := machine.state.record (.evaluated code output) } output
  | (.error fault, bridge) => fail { machine with bridge := bridge } fault

/-- Call a handler, and make its result known to scripts at once. What a call has counted and given back
stays where making it known raises a fault. -/
def emit (machine : Machine σ ρ) (name : String) (arguments : Arguments) :
    Except (Machine σ ρ × Fault) (Machine σ ρ) :=
  let state := machine.state.note (.dispatching name arguments) |>.record (.called name arguments)
  match host.registry.invoke name arguments machine.library with
  | (.error fault, library) =>
    .error ({ machine with state := state, library := library }, fault)
  | (.ok none, library) =>
    .ok { machine with
      state := { state with dispatched := state.dispatched + 1 }
      library := library }
  | (.ok (some result), library) =>
    let state := { state with
      dispatched := state.dispatched + 1
      results := state.results.push result }
    match result.name, result.interface with
    | some name, some interface =>
      if name.isEmpty then .ok { machine with state := state, library := library }
      else
        let bound := { machine with
          state := state.record (.bound name)
          library := library
          bridge := host.bridge.bind name interface machine.bridge }
        match host.bridge.bindFault name interface machine.bridge with
        | none => .ok bound
        | some fault => .error (bound, fault)
    | _, _ => .ok { machine with state := state, library := library }

/-- Dispatch a command. An unknown one is passed over; the first known one is preceded by the opening
command, unless it is that command itself; and the opening command counts only once. -/
def dispatch (machine : Machine σ ρ) (command : Command) :
    Except (Machine σ ρ × Fault) (Machine σ ρ) :=
  let init := host.limits.initCommand
  match host.registry.has command.name with
  | .error fault => .error (machine, fault)
  | .ok false => .ok { machine with state := machine.state.note (.unknown command.name) }
  | .ok true =>
    if machine.state.dispatched = 0 then
      if command.name == init then emit host machine command.name command.arguments
      else
        match host.registry.has init with
        | .error fault => .error (machine, fault)
        | .ok false => emit host machine command.name command.arguments
        | .ok true =>
          match emit host machine init [] with
          | .ok machine => emit host machine command.name command.arguments
          | .error failure => .error failure
    else if command.name == init then
      .ok { machine with state := machine.state.note (.repeatedInit command.name) }
    else emit host machine command.name command.arguments

/-- The schema of a command; an unknown one has no flags. -/
def schemaOf (name : String) : Except Fault Schema :=
  match host.registry.has name with
  | .error fault => .error fault
  | .ok true => host.registry.schema name
  | .ok false => .ok []

/-- The command that the tokens of a region make, if they have a name. The name `.` repeats the
previous command with its arguments overlaid. -/
def recognize (previous : Option Command) (tokens : List Token) :
    Except Fault (Option Command) := do
  match Command.read? tokens with
  | none => return none
  | some (name, words) =>
    match previous with
    | some last =>
      if name == "." then
        let partialCommand : Command := ⟨last.name, Command.bind (← schemaOf host last.name) words⟩
        return some (last.overlay partialCommand true)
      else return some ⟨name, Command.bind (← schemaOf host name) words⟩
    | none => return some ⟨name, Command.bind (← schemaOf host name) words⟩

/-- Turn the resolved region into a command, and move behind the separator after it. -/
def processRegion (machine : Machine σ ρ) (frame : Frame) (outer : List Frame) : Move σ ρ :=
  let tokens := frame.live.takeWhile (!·.isBoundary)
  match recognize host machine.state.previous tokens with
  | .error fault => machine.fail fault
  | .ok none =>
    .next { machine with frames := frame.skip (tokens.length + 1) :: outer }
  | .ok (some command) =>
    let machine := { machine with
      state := { machine.state with previous := some command.snapshot } }
    match dispatch host machine command with
    | .error (machine, fault) => machine.fail fault
    | .ok machine => .next { machine with frames := frame.skip (tokens.length + 1) :: outer }

/-- The region up to the next separator is resolved: leave the frame if nothing is left in it, invoke
the block that is named, or process the command. -/
def finishRegion (machine : Machine σ ρ) (frame : Frame) (outer : List Frame) : Move σ ρ :=
  if frame.live.isEmpty then
    let state := { machine.state with depth := machine.state.depth - 1 }
    let machine := { machine with state := state, frames := outer }
    if outer.isEmpty then .finished machine frame.tokens else .next machine
  else
    match invokedBlock? frame.live with
    | some name =>
      let machine := { machine with frames := frame.skip 2 :: outer }
      match machine.state.blocks.get? name with
      | some body =>
        .next (enter host { machine with state := machine.state.note (.invoking name) } body)
      | none => .next machine
    | none => processRegion host machine frame outer

/-- Store the block whose definition starts at both positions, and erase the definition. -/
def define (machine : Machine σ ρ) (frame : Frame) (outer : List Frame) (name remainder : String)
    (rest : List Token) : Move σ ρ :=
  let captured := blockBody rest
  let first : List Token := if remainder.isEmpty then [] else [⟨.text, remainder⟩]
  let body := closeBody (first ++ captured)
  let state := { machine.state with blocks := machine.state.blocks.put name body }
  .next { machine with
    state := state.note (.defined name body)
    frames := frame.edit (Focus.erase (captured.length + 2)) :: outer }

/-- Start the loop whose head starts at both positions. They move behind the loop at once; the loop
works on copies of its body. -/
def startLoop (machine : Machine σ ρ) (frame : Frame) (outer : List Frame)
    (init condition step : String) (separator : Token) (rest : List Token) : Move σ ρ :=
  let captured := if endsBlock separator then [] else blockBody rest
  let closing := if endsBlock separator then 0 else captured.length + 1
  let head := frame.ahead.length - rest.length
  let loop : Loop := ⟨condition, step, closeBody captured, 0⟩
  .next { machine with
    frames := { frame.skip (head + closing) with task := .beginLoop init loop } :: outer }

/-- Resolve the token at the lookahead position. -/
def resolve (machine : Machine σ ρ) (frame : Frame) (outer : List Frame) : Move σ ρ :=
  let advance : Move σ ρ := .next { machine with frames := frame.advance :: outer }
  match frame.ahead with
  | [] => finishRegion host machine frame outer
  | token :: rest =>
    match token.kind with
    | .boundary => finishRegion host machine frame outer
    | .group =>
      .next { machine with frames := { frame with task := .fold token.text false } :: outer }
    | .script =>
      evaluate host machine token.text fun machine output =>
        let tokens := outputTokens output
        .next { machine with
          state := machine.state.note (.spliced token.text tokens)
          frames := frame.edit (Focus.splice tokens) :: outer }
    | .text =>
      if frame.region.isEmpty then
        match definition? token.text with
        | some (name, remainder) => define machine frame outer name remainder rest
        | none =>
          if isLoopWord token.text then
            match loopHead? [] rest with
            | some ([init, condition, step], separator, rest) =>
              startLoop machine frame outer init condition step separator rest
            | _ => advance
          else advance
      else advance
    | _ => advance

/-- Fold the next token into the group at the lookahead position, or finish the group. -/
def foldGroup (machine : Machine σ ρ) (frame : Frame) (outer : List Frame) (text : String)
    (afterScript : Bool) : Move σ ρ :=
  match frame.ahead with
  | [] => .next { machine with frames := { frame with task := .resolve } :: outer }
  | group :: following =>
    let finish : Move σ ρ :=
      let folded := { frame with ahead := { group with text := text } :: following, task := .resolve }
      .next { machine with frames := folded.advance :: outer }
    match following with
    | [] => finish
    | token :: rest =>
      let without := { frame with ahead := group :: rest }
      if token.kind == .groupScript then
        evaluate host machine token.text fun machine output =>
          .next { machine with
            frames := { without with task := .fold (text ++ output) true } :: outer }
      else if token.kind == .group && afterScript then
        .next { machine with
          frames := { without with task := .fold (text ++ token.text) false } :: outer }
      else finish

/-- Decide on the next iteration of a loop. -/
def testLoop (machine : Machine σ ρ) (frame : Frame) (outer : List Frame) (loop : Loop) : Move σ ρ :=
  let leave (machine : Machine σ ρ) : Move σ ρ :=
    .next { machine with frames := { frame with task := .resolve } :: outer }
  if host.limits.iterations ≤ loop.iteration then leave machine
  else
    evaluate host machine loop.condition fun machine output =>
      if output == "true" then
        let machine := { machine with
          state := machine.state.note (.iteration loop.iteration)
          frames := { frame with task := .advanceLoop loop } :: outer }
        .next (enter host machine loop.body)
      else leave machine

/-- The next move. -/
def step (machine : Machine σ ρ) : Move σ ρ :=
  match machine.frames with
  | [] => .finished machine []
  | frame :: outer =>
    match frame.task with
    | .resolve => resolve host machine frame outer
    | .fold text afterScript => foldGroup host machine frame outer text afterScript
    | .beginLoop init loop =>
      evaluate host machine init fun machine _ =>
        .next { machine with frames := { frame with task := .testLoop loop } :: outer }
    | .testLoop loop => testLoop host machine frame outer loop
    | .advanceLoop loop =>
      evaluate host machine loop.step fun machine _ =>
        let loop := { loop with iteration := loop.iteration + 1 }
        .next { machine with frames := { frame with task := .testLoop loop } :: outer }

/-- Make at most `fuel` moves. A run that is not over then is given as `next`. -/
def run : Nat → Machine σ ρ → Move σ ρ
  | 0, machine => .next machine
  | fuel + 1, machine =>
    match step host machine with
    | .next machine => run fuel machine
    | ended => ended

/-- Process a sequence from a given state. -/
def process (fuel : Nat) (machine : Machine σ ρ) (tokens : List Token) : Move σ ρ :=
  let entered := enter host machine tokens
  if entered.frames.isEmpty then .finished entered tokens else run host fuel entered

end Machine

end Linework.Expansion
