import Linework.Expansion.Stack

/-!
# Runs with relabelled collaborators

A script language and a set of commands may carry labels that have no part in what they do: what was printed
in an earlier world, say, or the number that tells a drawing from others. Scripts answer as before when such
labels are exchanged, and handlers return as before, apart from the labels that they write into their
results. The machine hands results on without reading more of them than their names and interfaces, so a run
with exchanged labels is the same run with the labels exchanged in what it leaves.
-/

namespace Linework.Expansion

variable {σ ρ : Type}

/-- An exchange of labels, in what a script language and a set of commands keep and in results. -/
structure Relabelling (σ ρ : Type) where
  session : σ → σ
  library : ρ → ρ
  result : Result → Result

/-- Nothing but the labels in results depends on the labels. -/
structure Host.Ignores (host : Host σ ρ) (labels : Relabelling σ ρ) : Prop where
  evaluate : ∀ code session, host.bridge.evaluate code (labels.session session) =
    (host.bridge.evaluate code session).map id labels.session
  bind : ∀ name datum session, host.bridge.bind name datum (labels.session session) =
    labels.session (host.bridge.bind name datum session)
  bindFault : ∀ name datum session, host.bridge.bindFault name datum (labels.session session) =
    host.bridge.bindFault name datum session
  invoke : ∀ name arguments library, host.registry.invoke name arguments (labels.library library) =
    (host.registry.invoke name arguments library).map (·.map (·.map labels.result)) labels.library
  name : ∀ result, (labels.result result).name = result.name
  interface : ∀ result, (labels.result result).interface = result.interface

/-- A state with other labels in its results. -/
def State.relabelled (state : State) (labels : Relabelling σ ρ) : State :=
  { state with results := state.results.map labels.result }

/-- A machine with other labels. -/
def Machine.relabelled (machine : Machine σ ρ) (labels : Relabelling σ ρ) : Machine σ ρ where
  state := machine.state.relabelled labels
  bridge := labels.session machine.bridge
  library := labels.library machine.library
  frames := machine.frames

/-- The outcome of a move with other labels. -/
def Move.relabelled (move : Move σ ρ) (labels : Relabelling σ ρ) : Move σ ρ :=
  match move with
  | .next machine => .next (machine.relabelled labels)
  | .finished machine tokens => .finished (machine.relabelled labels) tokens
  | .failed machine tokens fault => .failed (machine.relabelled labels) tokens fault

namespace Machine

/-- The outcome of dispatching a command with other labels. -/
def outcomeRelabelled (labels : Relabelling σ ρ) :
    Except (Machine σ ρ × Fault) (Machine σ ρ) → Except (Machine σ ρ × Fault) (Machine σ ρ)
  | .ok machine => .ok (machine.relabelled labels)
  | .error (machine, fault) => .error (machine.relabelled labels, fault)

variable {host : Host σ ρ} {labels : Relabelling σ ρ}

theorem enter_relabelled (machine : Machine σ ρ) (tokens : List Token) :
    enter host (machine.relabelled labels) tokens = (enter host machine tokens).relabelled labels := by
  have depth : (machine.relabelled labels).state.depth = machine.state.depth := rfl
  have expansions : (machine.relabelled labels).state.expansions = machine.state.expansions := rfl
  unfold enter
  simp only [depth, expansions]
  split
  · rfl
  · split
    · rfl
    · split <;> rfl

/-! ## Commands -/

section

variable (ignores : host.Ignores labels)
include ignores

theorem emit_relabelled (machine : Machine σ ρ) (name : String) (arguments : Arguments) :
    emit host (machine.relabelled labels) name arguments =
      outcomeRelabelled labels (emit host machine name arguments) := by
  have invoked := ignores.invoke name arguments machine.library
  unfold emit
  simp only [relabelled, invoked]
  rcases host.registry.invoke name arguments machine.library with ⟨_ | (_ | result), library⟩
  · rfl
  · rfl
  · have sameName := ignores.name result
    have sameInterface := ignores.interface result
    simp only [Prod.map, Except.map, Option.map_some, sameName, sameInterface]
    rcases result with ⟨command, elements, _ | bound, _ | interface⟩
    · simp [outcomeRelabelled, relabelled, State.relabelled, State.note, State.record]
    · simp [outcomeRelabelled, relabelled, State.relabelled, State.note, State.record]
    · simp [outcomeRelabelled, relabelled, State.relabelled, State.note, State.record]
    · by_cases anonymous : bound.isEmpty
      · simp [anonymous, outcomeRelabelled, relabelled, State.relabelled, State.note, State.record]
      · simp only [anonymous, Bool.false_eq_true, if_false, ignores.bind, ignores.bindFault]
        cases host.bridge.bindFault bound interface machine.bridge <;>
          simp [outcomeRelabelled, relabelled, State.relabelled, State.note, State.record]

theorem dispatch_relabelled (machine : Machine σ ρ) (command : Command) :
    dispatch host (machine.relabelled labels) command =
      outcomeRelabelled labels (dispatch host machine command) := by
  have same : (machine.relabelled labels).state.dispatched = machine.state.dispatched := rfl
  unfold dispatch
  simp only [emit_relabelled ignores, same]
  split
  · rfl
  · rfl
  · split
    · split
      · rfl
      · split
        · rfl
        · rfl
        · cases emit host machine host.limits.initCommand [] with
          | error failure => rfl
          | ok opened => exact emit_relabelled ignores opened _ _
    · split <;> rfl

theorem processRegion_relabelled (machine : Machine σ ρ) (frame : Frame) (outer : List Frame) :
    processRegion host (machine.relabelled labels) frame outer =
      (processRegion host machine frame outer).relabelled labels := by
  have same : (machine.relabelled labels).state.previous = machine.state.previous := rfl
  unfold processRegion
  simp only [same]
  rcases recognize host machine.state.previous (frame.live.takeWhile (!·.isBoundary)) with
    fault | (_ | command)
  · rfl
  · rfl
  · have dispatched := dispatch_relabelled ignores
      { machine with state := { machine.state with previous := some command.snapshot } } command
    simp only [relabelled, State.relabelled] at dispatched ⊢
    simp only [dispatched]
    rcases dispatch host _ command with ⟨failed, fault⟩ | machine'
    · rfl
    · rfl

theorem finishRegion_relabelled (machine : Machine σ ρ) (frame : Frame) (outer : List Frame) :
    finishRegion host (machine.relabelled labels) frame outer =
      (finishRegion host machine frame outer).relabelled labels := by
  unfold finishRegion
  split
  · simp only
    split <;> rfl
  · split
    · rename_i name _
      have same : (machine.relabelled labels).state.blocks = machine.state.blocks := rfl
      simp only
      rw [same]
      cases machine.state.blocks.get? name with
      | none => rfl
      | some body =>
          exact congrArg Move.next (enter_relabelled
            { machine with state := machine.state.note (.invoking name), frames := frame.skip 2 :: outer }
            body)
    · exact processRegion_relabelled ignores machine frame outer

/-! ## Scripts -/

theorem evaluate_relabelled (machine : Machine σ ρ) (code : String)
    {go go' : Machine σ ρ → String → Move σ ρ}
    (goes : ∀ machine output, go' (machine.relabelled labels) output =
      (go machine output).relabelled labels) :
    evaluate host (machine.relabelled labels) code go' =
      (evaluate host machine code go).relabelled labels := by
  have answered := ignores.evaluate code machine.bridge
  unfold evaluate
  simp only [relabelled, answered]
  rcases host.bridge.evaluate code machine.bridge with ⟨fault | output, bridge⟩
  · rfl
  · exact goes
      { machine with bridge := bridge, state := machine.state.record (.evaluated code output) } output

theorem foldGroup_relabelled (machine : Machine σ ρ) (frame : Frame) (outer : List Frame)
    (text : String) (afterScript : Bool) :
    foldGroup host (machine.relabelled labels) frame outer text afterScript =
      (foldGroup host machine frame outer text afterScript).relabelled labels := by
  unfold foldGroup
  split
  · rfl
  · split
    · rfl
    · simp only
      split
      · exact evaluate_relabelled ignores machine _ fun _ _ => rfl
      · split <;> rfl

theorem testLoop_relabelled (machine : Machine σ ρ) (frame : Frame) (outer : List Frame)
    (loop : Loop) :
    testLoop host (machine.relabelled labels) frame outer loop =
      (testLoop host machine frame outer loop).relabelled labels := by
  unfold testLoop
  simp only
  split
  · rfl
  · apply evaluate_relabelled ignores
    intro machine' output
    split
    · exact congrArg Move.next (enter_relabelled
        { machine' with
          state := machine'.state.note (.iteration loop.iteration)
          frames := { frame with task := .advanceLoop loop } :: outer } loop.body)
    · rfl

/-! ## Moves and runs -/

theorem resolve_relabelled (machine : Machine σ ρ) (frame : Frame) (outer : List Frame) :
    resolve host (machine.relabelled labels) frame outer =
      (resolve host machine frame outer).relabelled labels := by
  unfold resolve
  rcases frame.ahead with _ | ⟨⟨kind, text⟩, rest⟩
  · exact finishRegion_relabelled ignores machine frame outer
  · cases kind with
    | boundary => exact finishRegion_relabelled ignores machine frame outer
    | group | string | groupScript => rfl
    | script => exact evaluate_relabelled ignores machine text fun _ _ => rfl
    | text =>
        simp only
        split
        · rcases definition? text with _ | ⟨name, remainder⟩
          · simp only
            split
            · split <;> rfl
            · rfl
          · rfl
        · rfl

/-- A move with other labels is the move, with other labels. -/
theorem step_relabelled (machine : Machine σ ρ) :
    step host (machine.relabelled labels) = (step host machine).relabelled labels := by
  have same : (machine.relabelled labels).frames = machine.frames := rfl
  unfold step
  rw [same]
  rcases machine.frames with _ | ⟨frame, outer⟩
  · rfl
  · simp only
    cases frame.task with
    | resolve => exact resolve_relabelled ignores machine frame outer
    | fold text afterScript => exact foldGroup_relabelled ignores machine frame outer text afterScript
    | beginLoop init loop => exact evaluate_relabelled ignores machine init fun _ _ => rfl
    | testLoop loop => exact testLoop_relabelled ignores machine frame outer loop
    | advanceLoop loop => exact evaluate_relabelled ignores machine loop.step fun _ _ => rfl

/-- A run with other labels is the run, with other labels. -/
theorem runOn_relabelled (stack fuel : Nat) (machine : Machine σ ρ) :
    runOn host stack fuel (machine.relabelled labels) = (runOn host stack fuel machine).relabelled labels := by
  induction fuel generalizing machine with
  | zero => rfl
  | succ fuel inductionHypothesis =>
      have same : (machine.relabelled labels).calls = machine.calls := rfl
      unfold runOn
      rw [same, step_relabelled ignores]
      split
      · cases step host machine with
        | next machine' => exact inductionHypothesis machine'
        | finished | failed => rfl
      · rfl

theorem processOn_relabelled (stack fuel : Nat) (machine : Machine σ ρ) (tokens : List Token) :
    processOn host stack fuel (machine.relabelled labels) tokens =
      (processOn host stack fuel machine tokens).relabelled labels := by
  have same : ((enter host machine tokens).relabelled labels).frames =
      (enter host machine tokens).frames := rfl
  unfold processOn
  simp only [enter_relabelled, same]
  split
  · rfl
  · exact runOn_relabelled ignores stack fuel (enter host machine tokens)

end

end Machine

end Linework.Expansion
