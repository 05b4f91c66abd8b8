import Linework.Proofs.Expansion.Dispatch

/-!
# The moves of the machine

Everything that a move can be, each case with what holds when it is made. What frames do by themselves
and what they do with the answer of a script is told apart from what concerns the whole machine. Facts
about every move are proved by cases on these, and `step` is not opened again.
-/

namespace Linework.Expansion

namespace Frame

/-- Whether the region is resolved: it goes up to the lookahead position, which is at a separator or at
the end. -/
def isResolved (frame : Frame) : Bool :=
  match frame.task with
  | .resolve => frame.ahead.head?.all Token.isBoundary
  | _ => false

/-- The tokens of the resolved region. -/
def command (frame : Frame) : List Token :=
  frame.live.takeWhile (!·.isBoundary)

/-- The body of a loop with this separator and these tokens behind its head. -/
def loopBody (separator : Token) (left : List Token) : List Token :=
  if endsBlock separator then [] else blockBody left

/-- How many tokens the body of a loop takes, with the separator that ends it. -/
def loopClosing (separator : Token) (left : List Token) : Nat :=
  if endsBlock separator then 0 else (loopBody separator left).length + 1

/-- What a frame does by itself. -/
inductive Passes (limits : Limits) (frame : Frame) : Frame → Prop
  | advance {token : Token} {rest : List Token} : frame.task = .resolve → frame.ahead = token :: rest →
      token.isBoundary = false → token.kind ≠ .group → token.kind ≠ .script →
      Passes limits frame frame.advance
  | beginFold {group : Token} {following : List Token} : frame.task = .resolve →
      frame.ahead = group :: following → group.kind = .group →
      Passes limits frame { frame with task := .fold group.text false }
  | foldPiece {group piece : Token} {rest : List Token} {text : String} :
      frame.task = .fold text true → frame.ahead = group :: piece :: rest → piece.kind = .group →
      Passes limits frame { frame with ahead := group :: rest, task := .fold (text ++ piece.text) false }
  | finishFold {group : Token} {following : List Token} {text : String} {afterScript : Bool} :
      frame.task = .fold text afterScript → frame.ahead = group :: following →
      (∀ piece ∈ following.head?, piece.kind ≠ .groupScript) →
      Passes limits frame
        { frame with ahead := { group with text := text } :: following, task := .resolve }.advance
  | abandonFold {text : String} {afterScript : Bool} :
      frame.task = .fold text afterScript → frame.ahead = [] →
      Passes limits frame { frame with task := .resolve }
  | startLoop {word separator : Token} {rest left : List Token} {init condition step : String} :
      frame.task = .resolve → frame.region = [] → frame.ahead = word :: rest → word.kind = .text →
      isLoopWord word.text → loopHead? [] rest = some ([init, condition, step], separator, left) →
      Passes limits frame
        { frame.skip (frame.ahead.length - left.length + loopClosing separator left) with
          task := .beginLoop init ⟨condition, step, closeBody (loopBody separator left), 0⟩ }
  | endLoop {loop : Loop} : frame.task = .testLoop loop → limits.iterations ≤ loop.iteration →
      Passes limits frame { frame with task := .resolve }

/-- What a frame does when a script has answered. -/
inductive Hears (frame : Frame) : String → String → Frame → Prop
  | foldScript {group piece : Token} {rest : List Token} {text output : String} {afterScript : Bool} :
      frame.task = .fold text afterScript → frame.ahead = group :: piece :: rest →
      piece.kind = .groupScript →
      Hears frame piece.text output
        { frame with ahead := group :: rest, task := .fold (text ++ output) true }
  | beginLoop {init output : String} {loop : Loop} : frame.task = .beginLoop init loop →
      Hears frame init output { frame with task := .testLoop loop }
  | leaveLoop {output : String} {loop : Loop} : frame.task = .testLoop loop → output ≠ "true" →
      Hears frame loop.condition output { frame with task := .resolve }
  | advanceLoop {output : String} {loop : Loop} : frame.task = .advanceLoop loop →
      Hears frame loop.step output
        { frame with task := .testLoop { loop with iteration := loop.iteration + 1 } }

variable {limits : Limits} {frame frame' : Frame} {code output : String}

theorem isResolved_of_ne (busy : frame.task ≠ .resolve) : frame.isResolved = false := by
  unfold isResolved
  cases task : frame.task with
  | resolve => exact absurd task busy
  | fold | beginLoop | testLoop | advanceLoop => rfl

theorem isResolved_of_cons {token : Token} {rest : List Token} (ahead : frame.ahead = token :: rest)
    (inside : token.isBoundary = false) : frame.isResolved = false := by
  unfold isResolved
  cases frame.task with
  | resolve => simp [ahead, inside]
  | fold | beginLoop | testLoop | advanceLoop => rfl

theorem Passes.isResolved (passes : frame.Passes limits frame') : frame.isResolved = false := by
  cases passes with
  | advance _ ahead inside => exact isResolved_of_cons ahead inside
  | beginFold _ ahead group => exact isResolved_of_cons ahead (by simp [Token.isBoundary, group])
  | foldPiece task | finishFold task | abandonFold task | endLoop task =>
      exact isResolved_of_ne (by simp [task])
  | startLoop _ _ ahead text => exact isResolved_of_cons ahead (by simp [Token.isBoundary, text])

theorem Hears.isResolved (hears : frame.Hears code output frame') : frame.isResolved = false := by
  cases hears with
  | foldScript task | beginLoop task | leaveLoop task | advanceLoop task =>
      exact isResolved_of_ne (by simp [task])

end Frame

namespace Machine

variable {σ ρ : Type} (host : Host σ ρ)

/-- The machine after a script has answered. -/
def heard (machine : Machine σ ρ) (code output : String) (bridge : σ) : Machine σ ρ :=
  { machine with bridge := bridge, state := machine.state.record (.evaluated code output) }

/-- The machine with other sequences under way. -/
def withFrames (machine : Machine σ ρ) (frames : List Frame) : Machine σ ρ :=
  { machine with frames := frames }

/-- The machine once it has left its innermost sequence. -/
def leaving (machine : Machine σ ρ) (outer : List Frame) : Machine σ ρ :=
  { machine with
    state := { machine.state with depth := machine.state.depth - 1 }
    frames := outer }

/-- The machine that has read a command and goes on to dispatch it. -/
def recalling (machine : Machine σ ρ) (command : Command) : Machine σ ρ :=
  { machine with state := { machine.state with previous := some command.snapshot } }

/-! ## Moves -/

/-- What the next move of a machine can be, given its innermost sequence. -/
inductive Moves (machine : Machine σ ρ) (frame : Frame) (outer : List Frame) : Move σ ρ → Prop
  | pass {frame' : Frame} : frame.Passes host.limits frame' →
      Moves machine frame outer (.next (machine.withFrames (frame' :: outer)))
  | hear {frame' : Frame} {code output : String} {bridge : σ} : frame.Hears code output frame' →
      host.bridge.evaluate code machine.bridge = (.ok output, bridge) →
      Moves machine frame outer (.next ((machine.heard code output bridge).withFrames (frame' :: outer)))
  | refuse {code : String} {fault : Fault} {bridge : σ} : frame.isResolved = false →
      host.bridge.evaluate code machine.bridge = (.error fault, bridge) →
      Moves machine frame outer (fail { machine with bridge := bridge } fault)
  | splice {script : Token} {rest : List Token} {output : String} {bridge : σ} :
      frame.task = .resolve → frame.ahead = script :: rest → script.kind = .script →
      host.bridge.evaluate script.text machine.bridge = (.ok output, bridge) →
      Moves machine frame outer (.next
        (((machine.heard script.text output bridge).noting
          (.spliced script.text (outputTokens output))).withFrames
            (frame.edit (Focus.splice (outputTokens output)) :: outer)))
  | define {word : Token} {rest : List Token} {name remainder : String} : frame.task = .resolve →
      frame.region = [] → frame.ahead = word :: rest → word.kind = .text →
      definition? word.text = some (name, remainder) →
      Moves machine frame outer (define machine frame outer name remainder rest)
  | iterate {loop : Loop} {bridge : σ} : frame.task = .testLoop loop →
      ¬host.limits.iterations ≤ loop.iteration →
      host.bridge.evaluate loop.condition machine.bridge = (.ok "true", bridge) →
      Moves machine frame outer (.next (enter host
        (((machine.heard loop.condition "true" bridge).noting (.iteration loop.iteration)).withFrames
          ({ frame with task := .advanceLoop loop } :: outer)) loop.body))
  | leave : frame.isResolved → frame.live = [] → outer ≠ [] →
      Moves machine frame outer (.next (machine.leaving outer))
  | finish : frame.isResolved → frame.live = [] → outer = [] →
      Moves machine frame outer (.finished (machine.leaving outer) frame.tokens)
  | invoke {name : String} {body : List Token} : frame.isResolved →
      invokedBlock? frame.live = some name → machine.state.blocks.get? name = some body →
      Moves machine frame outer (.next
        (enter host ((machine.noting (.invoking name)).withFrames (frame.skip 2 :: outer)) body))
  | invokeUnknown {name : String} : frame.isResolved → invokedBlock? frame.live = some name →
      Moves machine frame outer (.next (machine.withFrames (frame.skip 2 :: outer)))
  | dismiss : frame.isResolved → frame.live ≠ [] → invokedBlock? frame.live = none →
      recognize host machine.state.previous frame.command = .ok none →
      Moves machine frame outer
        (.next (machine.withFrames (frame.skip (frame.command.length + 1) :: outer)))
  | misread {fault : Fault} : frame.isResolved → frame.live ≠ [] → invokedBlock? frame.live = none →
      recognize host machine.state.previous frame.command = .error fault →
      Moves machine frame outer (fail machine fault)
  | perform {command : Command} {machine' : Machine σ ρ} : frame.isResolved → frame.live ≠ [] →
      invokedBlock? frame.live = none →
      recognize host machine.state.previous frame.command = .ok (some command) →
      dispatch host (machine.recalling command) command = .ok machine' →
      Moves machine frame outer
        (.next (machine'.withFrames (frame.skip (frame.command.length + 1) :: outer)))
  | abort {command : Command} {machine' : Machine σ ρ} {fault : Fault} : frame.isResolved →
      frame.live ≠ [] → invokedBlock? frame.live = none →
      recognize host machine.state.previous frame.command = .ok (some command) →
      dispatch host (machine.recalling command) command = .error (machine', fault) →
      Moves machine frame outer (fail machine' fault)

variable {machine : Machine σ ρ} {frame : Frame} {outer : List Frame}

/-- A move that begins with a script. -/
theorem moves_evaluate {code : String} {go : Machine σ ρ → String → Move σ ρ}
    (unresolved : frame.isResolved = false)
    (answered : ∀ output bridge, host.bridge.evaluate code machine.bridge = (.ok output, bridge) →
      Moves host machine frame outer (go (machine.heard code output bridge) output)) :
    Moves host machine frame outer (evaluate host machine code go) := by
  unfold evaluate
  rcases result : host.bridge.evaluate code machine.bridge with ⟨fault | output, bridge⟩
  · exact .refuse unresolved result
  · exact answered output bridge result

theorem moves_processRegion (resolved : frame.isResolved) (nonempty : frame.live ≠ [])
    (uninvoked : invokedBlock? frame.live = none) :
    Moves host machine frame outer (processRegion host machine frame outer) := by
  unfold processRegion
  simp only
  split
  · rename_i read
    exact .misread resolved nonempty uninvoked read
  · rename_i read
    exact .dismiss resolved nonempty uninvoked read
  · rename_i command read
    split
    · rename_i failed
      exact .abort resolved nonempty uninvoked read failed
    · rename_i machine' dispatched
      exact .perform resolved nonempty uninvoked read dispatched

theorem moves_finishRegion (resolved : frame.isResolved) :
    Moves host machine frame outer (finishRegion host machine frame outer) := by
  unfold finishRegion
  split
  · rename_i empty
    simp only
    split
    · rename_i last
      exact .finish resolved (List.isEmpty_iff.mp empty) (List.isEmpty_iff.mp last)
    · rename_i inner
      exact .leave resolved (List.isEmpty_iff.mp empty) (inner ∘ List.isEmpty_iff.mpr)
  · rename_i nonempty
    split
    · rename_i name invoked
      simp only
      split
      · rename_i body known
        exact .invoke resolved invoked known
      · exact .invokeUnknown resolved invoked
    · rename_i uninvoked
      exact moves_processRegion host resolved (nonempty ∘ List.isEmpty_iff.mpr) uninvoked

theorem moves_resolve (task : frame.task = .resolve) :
    Moves host machine frame outer (resolve host machine frame outer) := by
  unfold resolve
  simp only
  split
  · rename_i ended
    exact moves_finishRegion host (by simp [Frame.isResolved, task, ended])
  · rename_i token rest ahead
    have advance (inside : token.isBoundary = false) (noGroup : token.kind ≠ .group)
        (noScript : token.kind ≠ .script) :
        Moves host machine frame outer (.next { machine with frames := frame.advance :: outer }) :=
      .pass (.advance task ahead inside noGroup noScript)
    split
    · rename_i boundary
      exact moves_finishRegion host (by simp [Frame.isResolved, task, ahead, Token.isBoundary, boundary])
    · rename_i group
      exact .pass (.beginFold task ahead group)
    · rename_i script
      have inside : token.isBoundary = false := by simp [Token.isBoundary, script]
      refine moves_evaluate host (Frame.isResolved_of_cons ahead inside) fun output bridge answer => ?_
      exact .splice task ahead script answer
    · rename_i text
      have onwards := advance (by simp [Token.isBoundary, text]) (by simp [text]) (by simp [text])
      split
      · rename_i atStart
        have noRegion : frame.region = [] := List.isEmpty_iff.mp atStart
        split
        · rename_i defined
          exact .define task noRegion ahead text defined
        · split
          · rename_i loops
            split
            · rename_i head
              exact .pass (.startLoop task noRegion ahead text loops head)
            · exact onwards
          · exact onwards
      · exact onwards
    · rename_i notBoundary notGroup notScript _
      exact advance (by simpa [Token.isBoundary] using notBoundary) notGroup notScript

theorem moves_foldGroup {text : String} {afterScript : Bool} (task : frame.task = .fold text afterScript) :
    Moves host machine frame outer (foldGroup host machine frame outer text afterScript) := by
  have busy : frame.isResolved = false := Frame.isResolved_of_ne (by simp [task])
  unfold foldGroup
  simp only
  split
  · rename_i ended
    exact .pass (.abandonFold task ended)
  · rename_i group following ahead
    split
    · exact .pass (.finishFold task ahead nofun)
    · rename_i piece rest
      split
      · rename_i script
        refine moves_evaluate host busy fun output bridge answer => ?_
        exact .hear (.foldScript task ahead (eq_of_beq script)) answer
      · rename_i noScript
        split
        · rename_i joined
          obtain ⟨isGroup, behindScript⟩ := Bool.and_eq_true_iff.mp joined
          rw [behindScript] at task
          exact .pass (.foldPiece task ahead (eq_of_beq isGroup))
        · exact .pass (.finishFold task ahead (by simpa using noScript))

theorem moves_testLoop {loop : Loop} (task : frame.task = .testLoop loop) :
    Moves host machine frame outer (testLoop host machine frame outer loop) := by
  unfold testLoop
  simp only
  split
  · rename_i bounded
    exact .pass (.endLoop task bounded)
  · rename_i allowed
    refine moves_evaluate host (Frame.isResolved_of_ne (by simp [task])) fun output bridge answer => ?_
    split
    · rename_i positive
      obtain rfl := eq_of_beq positive
      exact .iterate task allowed answer
    · rename_i negative
      exact .hear (.leaveLoop task (negative ∘ beq_iff_eq.mpr)) answer

/-- The next move is one of the moves. -/
theorem moves_step (frames : machine.frames = frame :: outer) :
    Moves host machine frame outer (step host machine) := by
  unfold step
  rw [frames]
  have busy : frame.task ≠ .resolve → frame.isResolved = false := Frame.isResolved_of_ne
  simp only
  split
  · rename_i task
    exact moves_resolve host task
  · rename_i task
    exact moves_foldGroup host task
  · rename_i init loop task
    refine moves_evaluate host (busy (by simp [task])) fun output bridge answer => ?_
    exact .hear (.beginLoop task) answer
  · rename_i task
    exact moves_testLoop host task
  · rename_i loop task
    refine moves_evaluate host (busy (by simp [task])) fun output bridge answer => ?_
    exact .hear (.advanceLoop task) answer

theorem step_of_nil (frames : machine.frames = []) : step host machine = .finished machine [] := by
  rw [step, frames]

end Machine

end Linework.Expansion
