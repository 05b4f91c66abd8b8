import Linework.Expansion.Machine
import Mathlib.Tactic.Common

/-!
# What dispatching a command leaves alone

A handler sees its arguments and the state of the library, and its result goes to the results, the log
and the bridge. Dispatching therefore changes no block, no count but that of the calls, and no sequence
under way, and it does not depend on any of them.
-/

namespace Linework.Expansion

theorem Registry.knows_eq_true_iff {ρ : Type} {registry : Registry ρ} {name : String} :
    registry.knows name ↔ registry.has name = .ok true := by
  unfold Registry.knows
  cases registry.has name with
  | error fault => simp
  | ok known => simp

namespace Machine

variable {σ ρ : Type} (host : Host σ ρ)

/-- The machine with a remark more. -/
def noting (machine : Machine σ ρ) (note : Note) : Machine σ ρ :=
  { machine with state := machine.state.note note }

/-! ## What dispatching comes down to -/

/-- What dispatching a command comes down to. -/
inductive Dispatches (machine : Machine σ ρ) (command : Command)
    (outcome : Except (Machine σ ρ × Fault) (Machine σ ρ)) : Prop
  /-- Whether a command is known is not found out. -/
  | refused {name : String} {fault : Fault} : host.registry.has name = .error fault →
      outcome = .error (machine, fault) → Dispatches machine command outcome
  | unknown : host.registry.has command.name = .ok false →
      outcome = .ok (machine.noting (.unknown command.name)) → Dispatches machine command outcome
  /-- The opening command is called before the first known command. -/
  | opening {middle : Machine σ ρ} : host.registry.knows command.name →
      machine.state.dispatched = 0 → command.name ≠ host.limits.initCommand →
      host.registry.knows host.limits.initCommand →
      emit host machine host.limits.initCommand [] = .ok middle →
      emit host middle command.name command.arguments = outcome → Dispatches machine command outcome
  | unopened {failure : Machine σ ρ × Fault} : host.registry.knows command.name →
      machine.state.dispatched = 0 → command.name ≠ host.limits.initCommand →
      host.registry.knows host.limits.initCommand →
      emit host machine host.limits.initCommand [] = .error failure → outcome = .error failure →
      Dispatches machine command outcome
  | first : host.registry.knows command.name → machine.state.dispatched = 0 →
      (host.registry.knows host.limits.initCommand → command.name = host.limits.initCommand) →
      emit host machine command.name command.arguments = outcome → Dispatches machine command outcome
  | repeated : host.registry.knows command.name → machine.state.dispatched ≠ 0 →
      outcome = .ok (machine.noting (.repeatedInit command.name)) → Dispatches machine command outcome
  | later : host.registry.knows command.name → machine.state.dispatched ≠ 0 →
      command.name ≠ host.limits.initCommand →
      emit host machine command.name command.arguments = outcome → Dispatches machine command outcome

theorem dispatches (machine : Machine σ ρ) (command : Command) :
    Dispatches host machine command (dispatch host machine command) := by
  unfold dispatch
  simp only
  split
  · rename_i refused
    exact .refused refused rfl
  · rename_i unknown
    exact .unknown unknown rfl
  · rename_i has
    have known := Registry.knows_eq_true_iff.mpr has
    split
    · rename_i fresh
      split
      · rename_i itself
        exact .first known fresh (fun _ => eq_of_beq itself) rfl
      · rename_i other
        have other : command.name ≠ host.limits.initCommand := other ∘ beq_iff_eq.mpr
        split
        · rename_i refused
          exact .refused refused rfl
        · rename_i unregistered
          refine .first known fresh (fun registered => ?_) rfl
          rw [Registry.knows_eq_true_iff.mp registered] at unregistered
          cases unregistered
        · rename_i has
          have registered := Registry.knows_eq_true_iff.mpr has
          cases opened : emit host machine host.limits.initCommand [] with
          | error failure => exact .unopened known fresh other registered opened rfl
          | ok middle => exact .opening known fresh other registered opened rfl
    · rename_i started
      split
      · exact .repeated known started rfl
      · rename_i other
        exact .later known started (other ∘ beq_iff_eq.mpr) rfl

/-! ## What is kept -/

/-- What handlers have no part in is the same in two machines. -/
structure Kept (machine machine' : Machine σ ρ) : Prop where
  blocks : machine'.state.blocks = machine.state.blocks
  previous : machine'.state.previous = machine.state.previous
  depth : machine'.state.depth = machine.state.depth
  expansions : machine'.state.expansions = machine.state.expansions
  frames : machine'.frames = machine.frames

/-- The machine in an outcome of dispatching. -/
def outcome : Except (Machine σ ρ × Fault) (Machine σ ρ) → Machine σ ρ
  | .ok machine => machine
  | .error (machine, _) => machine

theorem emit_kept (machine : Machine σ ρ) (name : String) (arguments : Arguments) :
    Kept machine (outcome (emit host machine name arguments)) := by
  unfold emit
  rcases host.registry.invoke name arguments machine.library with ⟨result, library⟩
  rcases result with fault | result?
  · exact ⟨rfl, rfl, rfl, rfl, rfl⟩
  · rcases result? with _ | result
    · exact ⟨rfl, rfl, rfl, rfl, rfl⟩
    · rcases result with ⟨command, elements, bound?, interface?⟩
      rcases bound? with _ | bound
      · exact ⟨rfl, rfl, rfl, rfl, rfl⟩
      · rcases interface? with _ | interface
        · exact ⟨rfl, rfl, rfl, rfl, rfl⟩
        · simp only
          split
          · exact ⟨rfl, rfl, rfl, rfl, rfl⟩
          · split <;> exact ⟨rfl, rfl, rfl, rfl, rfl⟩

theorem Kept.trans {first second third : Machine σ ρ} (earlier : Kept first second)
    (later : Kept second third) : Kept first third :=
  ⟨later.blocks.trans earlier.blocks, later.previous.trans earlier.previous,
    later.depth.trans earlier.depth, later.expansions.trans earlier.expansions,
    later.frames.trans earlier.frames⟩

theorem dispatch_kept (machine : Machine σ ρ) (command : Command) :
    Kept machine (outcome (dispatch host machine command)) := by
  cases dispatches host machine command with
  | refused _ same | unknown _ same | repeated _ _ same =>
      rw [same]
      exact ⟨rfl, rfl, rfl, rfl, rfl⟩
  | @opening middle _ _ _ _ opened same =>
      have first := emit_kept host machine host.limits.initCommand []
      rw [opened] at first
      rw [← same]
      exact first.trans (emit_kept host middle command.name command.arguments)
  | unopened _ _ _ _ failed same =>
      have first := emit_kept host machine host.limits.initCommand []
      rw [failed] at first
      rw [same]
      exact first
  | first _ _ _ same | later _ _ _ same =>
      rw [← same]
      exact emit_kept host machine command.name command.arguments

theorem kept_of_dispatch {machine : Machine σ ρ} {command : Command}
    {result : Except (Machine σ ρ × Fault) (Machine σ ρ)}
    (dispatched : dispatch host machine command = result) : Kept machine (outcome result) :=
  dispatched ▸ dispatch_kept host machine command

/-! ## Other blocks and frames -/

/-- A machine with other blocks and other sequences under way. -/
def dressed (blocks : Assoc String (List Token)) (frames : List Frame) (machine : Machine σ ρ) :
    Machine σ ρ :=
  { machine with state := { machine.state with blocks := blocks }, frames := frames }

/-- An outcome of dispatching, with other blocks and other sequences under way. -/
def outcomeDressed (blocks : Assoc String (List Token)) (frames : List Frame) :
    Except (Machine σ ρ × Fault) (Machine σ ρ) → Except (Machine σ ρ × Fault) (Machine σ ρ)
  | .ok machine => .ok (machine.dressed blocks frames)
  | .error (machine, fault) => .error (machine.dressed blocks frames, fault)

section Dressed

variable (blocks : Assoc String (List Token)) (frames : List Frame)

theorem emit_dressed (machine : Machine σ ρ) (name : String) (arguments : Arguments) :
    emit host (machine.dressed blocks frames) name arguments =
      outcomeDressed blocks frames (emit host machine name arguments) := by
  unfold emit
  simp only [dressed]
  rcases host.registry.invoke name arguments machine.library with ⟨_ | (_ | result), library⟩
  · rfl
  · rfl
  · rcases result with ⟨command, elements, _ | bound, _ | interface⟩
    · rfl
    · rfl
    · rfl
    · simp only
      split
      · rfl
      · split <;> rfl

/-- Dispatching has nothing to do with blocks and sequences. -/
theorem dispatch_dressed (machine : Machine σ ρ) (command : Command) :
    dispatch host (machine.dressed blocks frames) command =
      outcomeDressed blocks frames (dispatch host machine command) := by
  have same : (machine.dressed blocks frames).state.dispatched = machine.state.dispatched := rfl
  unfold dispatch
  simp only [emit_dressed, same]
  split
  · rfl
  · rfl
  · split
    · split
      · rfl
      · split
        · rfl
        · rfl
        · cases emit host machine host.limits.initCommand [] with
          | error failure => rfl
          | ok opened => exact emit_dressed host blocks frames opened _ _
    · split <;> rfl

end Dressed

/-- An outcome of dispatching, with other frames. -/
def reframed (frames : List Frame) :
    Except (Machine σ ρ × Fault) (Machine σ ρ) → Except (Machine σ ρ × Fault) (Machine σ ρ)
  | .ok machine => .ok { machine with frames := frames }
  | .error (machine, fault) => .error ({ machine with frames := frames }, fault)

/-- Dispatching has nothing to do with the sequences under way. -/
theorem dispatch_reframed (machine : Machine σ ρ) (frames : List Frame) (command : Command) :
    dispatch host { machine with frames := frames } command =
      reframed frames (dispatch host machine command) := by
  have dressed : dispatch host { machine with frames := frames } command = _ :=
    dispatch_dressed host machine.state.blocks frames machine command
  have kept := dispatch_kept host machine command
  rw [dressed]
  generalize dispatch host machine command = result at kept
  rcases result with ⟨failed, fault⟩ | dispatched
  · have blocks : failed.state.blocks = machine.state.blocks := kept.blocks
    rw [outcomeDressed, reframed, Machine.dressed, ← blocks]
  · have blocks : dispatched.state.blocks = machine.state.blocks := kept.blocks
    rw [outcomeDressed, reframed, Machine.dressed, ← blocks]

end Machine

end Linework.Expansion
