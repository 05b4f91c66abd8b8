import Linework.Expansion.Walk
import Linework.Token.Strict

/-!
# The walk that takes things for granted

The walk of two cursors, as it is made by a program that finds things out in one place and relies on
them in another. The head of a loop is recognised by one scan and read by another, which does not look
for the end and expects three scripts. A definition and an invocation are matched once more where their
names are needed. Cursors are looked at after edits have moved them. Wherever something is not as it is
taken to be, the walk slips.
-/

namespace Linework.Expansion.Strict

open Linework.Strict

/-- Whether the head of a loop stands here, of which so many scripts are missing: the scripts, with
blanks only between and behind them, and a separator. -/
def isLoopHead : Nat → List Token → Bool
  | _, [] => false
  | 0, token :: rest => token.isBoundary || isBlankToken token && isLoopHead 0 rest
  | missing + 1, token :: rest =>
    if token.kind == .script then isLoopHead missing rest
    else isBlankToken token && isLoopHead (missing + 1) rest

/-- Read the scripts up to the next separator, that separator, and what follows it. The scripts read so
far are given latest first. -/
def readLoopHead (scripts : List String) : List Token → Except Slip (List String × Token × List Token)
  | [] => throw .noCell
  | token :: rest =>
    if token.isBoundary then return (scripts.reverse, token, rest)
    else if token.kind == .script then readLoopHead (token.text :: scripts) rest
    else readLoopHead scripts rest

variable {σ ρ : Type} (host : Host σ ρ)

/-- Evaluate a script and go on with its output. -/
def evaluate (walk : Walk σ ρ) (code : String)
    (go : Walk σ ρ → String → Except Slip (Walk.Move σ ρ)) : Except Slip (Walk.Move σ ρ) :=
  match host.bridge.evaluate code walk.bridge with
  | (.ok output, bridge) =>
    go { walk with bridge := bridge, state := walk.state.record (.evaluated code output) } output
  | (.error fault, bridge) => return { walk with bridge := bridge }.fail fault

/-- Whether a separator stands behind the cell at the main cursor. -/
def isClosed (frame : Walk.Frame) : Except Slip Bool :=
  let following := frame.memory.next frame.main
  if following.isNone then return false
  else do
    let token ← tokenAt frame.memory following
    return token.isBoundary

/-- The region up to the lookahead cursor is resolved: leave the frame if nothing is left in it, invoke
the block that is named, or process the command. -/
def finishRegion (walk : Walk σ ρ) (frame : Walk.Frame) (outer : List Walk.Frame) :
    Except Slip (Walk.Move σ ρ) :=
  if frame.main.isNone then return walk.leave frame outer
  else do
    let token ← tokenAt frame.memory frame.main
    let closed ← isClosed frame
    if token.kind == .text && closed && (invocation? token.text).isSome then
      let marked ← tokenAt frame.memory frame.main
      match invocation? marked.text with
      | none => throw (.unmarked marked.text)
      | some name =>
        let position := frame.memory.next (frame.memory.next frame.main)
        let walk := { walk with frames := frame.restart position :: outer }
        match walk.state.blocks.get? name with
        | some body =>
          return .next (Walk.enter host { walk with state := walk.state.note (.invoking name) } body)
        | none => return .next walk
    else return Walk.processCommand host walk frame outer

/-- Store the block whose definition starts at both cursors, and unlink the definition. -/
def define (walk : Walk σ ρ) (frame : Walk.Frame) (outer : List Walk.Frame) :
    Except Slip (Walk.Move σ ρ) := do
  let marked ← tokenAt frame.memory frame.main
  match definition? marked.text with
  | none => throw (.unmarked marked.text)
  | some (name, remainder) =>
    let captured := blockBody (frame.live.tail.map (·.token))
    let first : List Token := if remainder.isEmpty then [] else [⟨.text, remainder⟩]
    let body := closeBody (first ++ captured)
    let state := { walk.state with blocks := walk.state.blocks.put name body }
    let spot ← eraseTo ⟨frame.memory, frame.ends, frame.main⟩ (frame.behind (captured.length + 1))
    let frame' := { frame.edited spot with main := spot.position, lookahead := spot.position }
    return .next { walk with state := state.note (.defined name body), frames := frame' :: outer }

/-- Start the loop whose head starts at both cursors. -/
def startLoop (walk : Walk σ ρ) (frame : Walk.Frame) (outer : List Walk.Frame) :
    Except Slip (Walk.Move σ ρ) := do
  let (scripts, separator, rest) ← readLoopHead [] (frame.live.tail.map (·.token))
  match scripts with
  | [init, condition, step] =>
    return Walk.startLoop walk frame outer init condition step separator rest
  | _ => throw (.notThree scripts)

/-- Whether a loop starts at the main cursor. -/
def startsLoop (frame : Walk.Frame) : Except Slip Bool := do
  let word ← tokenAt frame.memory frame.main
  return word.kind == .text && isLoopWord word.text &&
    isLoopHead 3 (frame.live.tail.map (·.token))

/-- Resolve the cell at the lookahead cursor. -/
def resolve (walk : Walk σ ρ) (frame : Walk.Frame) (outer : List Walk.Frame) :
    Except Slip (Walk.Move σ ρ) :=
  let advance : Walk.Move σ ρ := .next { walk with frames := frame.advance :: outer }
  if frame.lookahead.isNone then finishRegion host walk frame outer
  else do
    let token ← tokenAt frame.memory frame.lookahead
    match token.kind with
    | .boundary => finishRegion host walk frame outer
    | .group =>
      let phase := Walk.Phase.fold (frame.memory.next frame.lookahead) token.text false
      return .next { walk with frames := { frame with phase := phase } :: outer }
    | .script =>
      evaluate host walk token.text fun walk output => do
        let tokens := outputTokens output
        let (memory, other) := frame.memory.build tokens
        let spot ← replaceWith ⟨memory, frame.ends, frame.lookahead⟩ other
        let frame' :=
          { frame.edited spot with
            main := if frame.main = frame.lookahead then spot.position else frame.main
            lookahead := spot.position }
        return .next { walk with
          state := walk.state.note (.spliced token.text tokens)
          frames := frame' :: outer }
    | .text =>
      if frame.main = frame.lookahead && (definition? token.text).isSome then define walk frame outer
      else if frame.main = frame.lookahead then
        if ← startsLoop frame then startLoop walk frame outer
        else return advance
      else return advance
    | _ => return advance

/-- Fold the next cell into the group at the lookahead cursor, or finish the group. -/
def foldGroup (walk : Walk σ ρ) (frame : Walk.Frame) (outer : List Walk.Frame) (walker : Option Nat)
    (text : String) (afterScript : Bool) : Except Slip (Walk.Move σ ρ) :=
  let finish : Except Slip (Walk.Move σ ρ) := do
    let spot ← setText ⟨frame.memory, frame.ends, frame.lookahead⟩ text
    return .next { walk with frames := (frame.edited spot).advance :: outer }
  if walker.isNone then finish
  else do
    let token ← tokenAt frame.memory walker
    if token.kind == .groupScript then
      evaluate host walk token.text fun walk output => do
        let removed ← remove ⟨frame.memory, frame.ends, walker⟩
        let phase := Walk.Phase.fold removed.position (text ++ output) true
        return .next { walk with frames := { frame.edited removed with phase := phase } :: outer }
    else if token.kind == .group && afterScript then
      let removed ← remove ⟨frame.memory, frame.ends, walker⟩
      let phase := Walk.Phase.fold removed.position (text ++ token.text) false
      return .next { walk with frames := { frame.edited removed with phase := phase } :: outer }
    else finish

/-- The next move. At the head of the outer loop and between the scripts of a loop no cell is looked
at. -/
def step (walk : Walk σ ρ) : Except Slip (Walk.Move σ ρ) :=
  match walk.frames with
  | [] => return .finished walk []
  | frame :: outer =>
    match frame.phase with
    | .inner => resolve host walk frame outer
    | .fold walker text afterScript => foldGroup host walk frame outer walker text afterScript
    | .outer | .beginLoop _ _ | .testLoop _ | .advanceLoop _ => return Walk.step host walk

end Linework.Expansion.Strict
