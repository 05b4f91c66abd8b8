import Linework.Proofs.Command
import Linework.Proofs.Expansion.Opening

/-!
# Runs that no fault ends

A run ends by a fault only where a collaborator raises one. Handlers may ask for arguments of a kind: then
it is enough that binding, overlaying and forgetting identifiers give arguments of that kind, for these
are the only ways in which a run comes by arguments.
-/

namespace Linework.Expansion

variable {σ ρ : Type} {host : Host σ ρ} {fits : String → Arguments → Prop}

/-- Whatever arguments a run makes for a command are of a kind. -/
structure Host.Forms (host : Host σ ρ) (fits : String → Arguments → Prop) : Prop where
  none : ∀ name, fits name []
  bound : ∀ name schema words, Machine.schemaOf host name = .ok schema →
    fits name (Command.bind schema words)
  overlaid : ∀ name first second, fits name first → fits name second →
    fits name (Assoc.update first second)
  kept : ∀ name arguments keeps, fits name arguments → fits name (arguments.filter keeps)

/-- Every script has an answer and every value can be bound, every known command has a schema, and every
handler returns when its arguments fit, as all do that a run makes. -/
structure Host.Dependable (host : Host σ ρ) (fits : String → Arguments → Prop) : Prop where
  answers : ∀ code state, ∃ output state', host.bridge.evaluate code state = (.ok output, state')
  binds : host.bridge.Binds
  describes : ∀ name, host.registry.knows name → ∃ schema, host.registry.schema name = .ok schema
  serves : host.registry.Serves fits
  forms : host.Forms fits

/-- Arguments that conform to the schema of their command. -/
def Host.Conforming (host : Host σ ρ) (name : String) (arguments : Arguments) : Prop :=
  ∀ schema, Machine.schemaOf host name = .ok schema → schema.Admits arguments

/-- Whatever arguments a run makes for a command conform to its schema. -/
theorem Host.forms_conforming (host : Host σ ρ) : host.Forms host.Conforming where
  none _ _ _ := .nil
  bound name schema words described schema' described' := by
    obtain rfl := Except.ok.inj (described.symm.trans described')
    exact schema.admits_bind words
  overlaid _ _ _ conforming conforming' schema described :=
    (conforming schema described).update (conforming' schema described)
  kept _ _ keeps conforming schema described := (conforming schema described).filter keeps

/-- The arguments that a repetition would start from fit. -/
def State.Ready (state : State) (fits : String → Arguments → Prop) : Prop :=
  ∀ last ∈ state.previous, fits last.name last.arguments

theorem State.Ready.enter {machine : Machine σ ρ} (ready : machine.state.Ready fits)
    (tokens : List Token) : (Machine.enter host machine tokens).state.Ready fits := by
  have same : (Machine.enter host machine tokens).state.previous = machine.state.previous :=
    congrArg Seen.previous (Machine.seen_enter host machine tokens)
  intro last remembered
  exact ready last (same.symm.trans remembered)

/-! ## Commands that are recognised -/

theorem Host.Forms.overlay {last other : Command} (forms : host.Forms fits) (withId : Bool)
    (fit : fits last.name last.arguments) (fitOther : fits last.name other.arguments) :
    fits (last.overlay other withId).name (last.overlay other withId).arguments := by
  unfold Command.overlay
  cases withId with
  | true => exact forms.overlaid _ _ _ fit fitOther
  | false => exact forms.overlaid _ _ _ fit (forms.kept _ _ _ fitOther)

namespace Host.Dependable

variable (dependable : host.Dependable fits)
include dependable

theorem exists_schemaOf (name : String) : ∃ schema, Machine.schemaOf host name = .ok schema := by
  obtain ⟨known, answer⟩ := dependable.serves.answers name
  unfold Machine.schemaOf
  rw [answer]
  cases known with
  | false => exact ⟨[], rfl⟩
  | true => exact dependable.describes name (Registry.knows_eq_true_iff.mpr answer)

/-- A region can be read, and if it makes a command, then one with arguments that fit. -/
theorem exists_recognize {state : State} (ready : state.Ready fits) (tokens : List Token) :
    ∃ command?, Machine.recognize host state.previous tokens = .ok command? ∧
      ∀ command ∈ command?, fits command.name command.arguments := by
  unfold Machine.recognize
  rcases Command.read? tokens with _ | ⟨name, words⟩
  · exact ⟨none, rfl, nofun⟩
  · obtain ⟨schema, described⟩ := dependable.exists_schemaOf name
    have bound := dependable.forms.bound name schema words described
    cases previous : state.previous with
    | none =>
        refine ⟨some ⟨name, Command.bind schema words⟩, ?_, ?_⟩
        · simp [described]
        · rintro _ ⟨⟩
          exact bound
    | some last =>
        obtain ⟨lastSchema, lastDescribed⟩ := dependable.exists_schemaOf last.name
        by_cases repeats : name == "."
        · refine ⟨some (last.overlay ⟨last.name, Command.bind lastSchema words⟩ true), ?_, ?_⟩
          · simp [lastDescribed, eq_of_beq repeats]
          · rintro _ ⟨⟩
            apply dependable.forms.overlay true (ready last previous)
            exact dependable.forms.bound last.name lastSchema words lastDescribed
        · refine ⟨some ⟨name, Command.bind schema words⟩, ?_, ?_⟩
          · simp only [repeats, described]
            rfl
          · rintro _ ⟨⟩
            exact bound

/-! ## Moves and runs -/

variable {machine : Machine σ ρ}

/-- A move raises no fault, and leaves a state from which the next one raises none. -/
theorem step (ready : machine.state.Ready fits) :
    (Machine.step host machine).hasFailed = false ∧
      (Machine.step host machine).machine.state.Ready fits := by
  rcases frames : machine.frames with _ | ⟨frame, outer⟩
  · rw [Machine.step_of_nil host frames]
    exact ⟨rfl, ready⟩
  · have moves := Machine.moves_step host frames
    generalize Machine.step host machine = move at moves
    cases moves with
    | refuse unresolved answer =>
        obtain ⟨output, bridge', answers⟩ := dependable.answers _ machine.bridge
        rw [answer] at answers
        cases answers
    | misread resolved nonempty uninvoked read =>
        obtain ⟨command?, recognized, _⟩ := dependable.exists_recognize ready frame.command
        rw [read] at recognized
        cases recognized
    | @abort command machine' fault resolved nonempty uninvoked read failed =>
        obtain ⟨_, recognized, fit⟩ := dependable.exists_recognize ready frame.command
        obtain rfl := Except.ok.inj (read.symm.trans recognized)
        obtain ⟨machine', dispatched⟩ := exists_dispatch host dependable.binds dependable.serves
          (dependable.forms.none _) (machine.recalling command) (fit command rfl)
        rw [failed] at dispatched
        cases dispatched
    | @perform command machine' resolved nonempty uninvoked read dispatched =>
        obtain ⟨_, recognized, fit⟩ := dependable.exists_recognize ready frame.command
        obtain rfl := Except.ok.inj (read.symm.trans recognized)
        have remembers : machine'.state.previous = some command.snapshot :=
          (Machine.kept_of_dispatch host dispatched).previous
        constructor
        · rfl
        · intro last remembered
          obtain rfl := Option.some.inj (remembers.symm.trans remembered)
          exact dependable.forms.kept _ _ _ (fit command rfl)
    | iterate | invoke =>
        constructor
        · rfl
        · apply State.Ready.enter
          exact ready
    | pass | hear | splice | define | leave | finish | invokeUnknown | dismiss => exact ⟨rfl, ready⟩

theorem hasFailed_run (ready : machine.state.Ready fits) (fuel : Nat) :
    (Machine.run host fuel machine).hasFailed = false := by
  induction fuel generalizing machine with
  | zero => rfl
  | succ fuel ih =>
      obtain ⟨sound, ready'⟩ := dependable.step ready
      rw [Machine.run]
      cases moved : Machine.step host machine with
      | next machine' =>
          rw [moved] at ready'
          exact ih ready'
      | finished => rfl
      | failed machine' tokens fault =>
          rw [moved] at sound
          exact sound

/-- Processing a sequence does not end by a fault. -/
theorem hasFailed_process (ready : machine.state.Ready fits) (fuel : Nat) (tokens : List Token) :
    (Machine.process host fuel machine tokens).hasFailed = false := by
  unfold Machine.process
  simp only
  split
  · rfl
  · exact dependable.hasFailed_run (ready.enter tokens) fuel

end Host.Dependable

end Linework.Expansion
