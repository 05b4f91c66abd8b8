import Linework.Conversion
import Linework.Proofs.Drawing.Library
import Linework.Proofs.Expansion.Dependable
import Linework.Proofs.Expansion.Stack
import Linework.Proofs.Expansion.Termination

/-!
# No document makes a conversion fail

With a script language that always answers and a sound table of commands, no run of a conversion ends by a
fault: binding gives handlers arguments that conform to their schemas, and with such arguments they return.
The default configuration makes a sound table, and its limits leave room on the stack. So a document is
converted as soon as its run comes to an end, which it does where scripts stop giving scripts. Where they do
not, a conversion may go on forever.
-/

namespace Linework

open Linework.Expansion Linework.Drawing Linework.Decimal

variable {σ : Type}

/-! ## The drawing commands as collaborators -/

/-- Every script has an answer, and every value can be bound. -/
structure ScriptHost.Answers (host : ScriptHost σ) : Prop where
  evaluates : ∀ code session, ∃ output session',
    host.bridge.evaluate code session = (.ok output, session')
  binds : host.bridge.Binds

/-- The collaborators of a conversion with a table of commands. -/
def Conversion.collaborators (host : ScriptHost σ) (table : CommandTable) (limits : Limits) :
    Host σ Library :=
  ⟨host.bridge, Conversion.registry table, limits⟩

theorem Conversion.schema_registry {table : CommandTable} {name : String} {schema : List (Datum × Int)}
    (described : table.schema name = .ok schema) :
    (registry table).schema name = .ok (wordSchema schema) := by
  change (do return wordSchema (← table.schema name)) = _
  rw [described]
  rfl

/-- The commands of a sound table can be depended on, with arguments that conform to their schemas. -/
theorem Conversion.dependable {host : ScriptHost σ} {table : CommandTable} (answers : host.Answers)
    (sound : table.isSound) (limits : Limits) :
    (collaborators host table limits).Dependable (collaborators host table limits).Conforming where
  answers := answers.evaluates
  binds := answers.binds
  describes name known := by
    obtain ⟨schema, described⟩ := CommandTable.exists_schema sound known
    exact ⟨wordSchema schema, schema_registry described⟩
  serves := by
    refine ⟨fun name => ⟨_, rfl⟩, fun name arguments library known conforming => ?_⟩
    have admits (schema : List (Datum × Int)) (described : table.schema name = .ok schema) :
        (wordSchema schema).Admits arguments := by
      apply conforming
      unfold Machine.schemaOf
      rw [Registry.knows_eq_true_iff.mp known]
      exact schema_registry described
    obtain ⟨result, library', returns⟩ := CommandTable.exists_invoke sound known library admits
    exact ⟨some result, library', returns⟩
  forms := (collaborators host table limits).forms_conforming

/-! ## The default configuration -/

theorem Config.exists_table : ∃ table : CommandTable,
    CommandTable.ofSchemas (Config.sectionOf Config.default "commands") = .ok table ∧ table.isSound :=
  ⟨_, rfl, by decide +kernel⟩

/-- The sequences that the default limits let be under way have room on the stack. -/
theorem Config.exists_limits :
    ∃ limits, Conversion.limits (Config.sectionOf Config.default "options") = .ok limits ∧
      limits.nesting = ({} : Limits).nesting :=
  ⟨_, rfl, rfl⟩

theorem Config.yields_library (drawings : Nat) :
    Yields (Library.create (Config.sectionOf Config.default "options") drawings) fun _ => True := by
  have width : option (Config.sectionOf Config.default "options") "default_stroke_width" (.int 1) =
      .int 1 := rfl
  have size : option (Config.sectionOf Config.default "options") "default_font_size" (.int 16) =
      .int 16 := rfl
  have small {n : Int} (small : n.natAbs < 2 ^ 53) : Yields (Datum.int n).toFloat fun _ => True :=
    (Number.yields_intToFloat (inRange_of_lt small)).weaken fun _ _ => trivial
  unfold Library.create
  rw [width, size]
  apply (small (by decide)).bind
  intro strokeWidth _
  apply (small (by decide)).bind
  intro fontSize _
  exact .pure trivial

namespace Converter

/-- The conversion that a run makes. -/
def conversionOf (host : ScriptHost σ) (converter : Converter σ) : Move σ Library → Conversion
  | .finished machine _ =>
    { outcome := .success
        (Conversion.withBindings machine.state.results.toList (host.bindings machine.bridge))
      reports := host.reports machine.bridge }
  | .failed machine _ fault => (fail host { converter with session := machine.bridge } fault).1
  | .next machine => { outcome := .unfinished, reports := host.reports machine.bridge }

/-- A run without a fault makes no failure, and lets nothing escape. -/
theorem conversionOf_sound (host : ScriptHost σ) (converter : Converter σ) {move : Move σ Library}
    (sound : move.hasFailed = false) :
    (∀ message, (conversionOf host converter move).outcome ≠ .failure message) ∧
      (conversionOf host converter move).escape = none := by
  cases move with
  | next | finished => exact ⟨nofun, rfl⟩
  | failed => cases sound

theorem exists_success (host : ScriptHost σ) (converter : Converter σ) {move : Move σ Library}
    (sound : move.hasFailed = false) (ended : move.isOver) :
    ∃ results, (conversionOf host converter move).outcome = .success results := by
  cases move with
  | finished => exact ⟨_, rfl⟩
  | next => cases ended
  | failed => cases sound

/-- A conversion whose collaborators can be put together is a run. -/
theorem convert_eq_conversionOf {host : ScriptHost σ} {converter : Converter σ} {library : Library}
    {collaborators : Host σ Library}
    (created : Library.create converter.options converter.drawings = .ok library)
    (prepared : prepare host converter library = .ok (collaborators, library)) (fuel : Nat)
    (source : String) :
    (convert host fuel converter source).1 =
      conversionOf host { converter with drawings := converter.drawings + 1 }
        (Machine.processOn collaborators (stack host) fuel
          ⟨{}, host.renew converter.session, library, []⟩ (Token.tokenize source)) := by
  unfold prepare at prepared
  unfold convert prepare
  simp only [created, prepared]
  cases Machine.processOn collaborators (stack host) fuel ⟨{}, host.renew converter.session, library, []⟩
    (Token.tokenize source) <;> rfl

/-- A converter with the default configuration, which has begun some drawings. -/
def standard (session : σ) (drawings : Nat) : Converter σ :=
  { ofConfig Config.default session with drawings := drawings }

/-- With the default configuration a conversion is a run with a sound table. The stack has room for it. -/
theorem exists_convert_eq (host : ScriptHost σ) (session : σ) (drawings : Nat) :
    ∃ (table : CommandTable) (limits : Limits) (library : Library) (converter : Converter σ),
      table.isSound ∧ limits.nesting = ({} : Limits).nesting ∧
        ∀ fuel source, (convert host fuel (standard session drawings) source).1 =
          conversionOf host converter (Machine.process (Conversion.collaborators host table limits) fuel
            ⟨{}, host.renew session, library, []⟩ (Token.tokenize source)) := by
  obtain ⟨table, registered, sound⟩ := Config.exists_table
  obtain ⟨limits, bounded, nesting⟩ := Config.exists_limits
  obtain ⟨library, created, _⟩ := Config.yields_library drawings
  have prepared : prepare host (standard session drawings) library =
      .ok (Conversion.collaborators host table limits, library) := by
    have commands : (standard session drawings).commands = Config.sectionOf Config.default "commands" := rfl
    have options : (standard session drawings).options = Config.sectionOf Config.default "options" := rfl
    unfold prepare
    rw [commands, options, registered, bounded]
    rfl
  have roomy : callsPerSequence * limits.nesting ≤ stack host := by
    rw [nesting]
    change (3 * 64 : Int) ≤ (3 * 64 + host.spareCalls : Nat)
    omega
  refine ⟨table, limits, library, { standard session drawings with drawings := drawings + 1 }, sound,
    nesting, fun fuel source => ?_⟩
  rw [convert_eq_conversionOf created prepared fuel source,
    Machine.processOn_eq_process (Conversion.collaborators host table limits) roomy rfl]
  rfl

/-- With the default configuration, whatever was converted before and whatever the document says, where every
script has an answer and every value can be bound: no conversion fails, and no fault escapes from one. It
succeeds where, moreover, only so many answers bring new scripts, so that its run comes to an end. -/
theorem convert_standard_succeeds (host : ScriptHost σ) (answers : host.Answers) (session : σ)
    (drawings : Nat) (source : String) :
    (∀ fuel, (∀ message,
        (convert host fuel (standard session drawings) source).1.outcome ≠ .failure message) ∧
      (convert host fuel (standard session drawings) source).1.escape = none) ∧
    ∀ limit, host.bridge.Bounded limit (host.renew session) →
      ∃ moves results, ∀ fuel ≥ moves,
        (convert host fuel (standard session drawings) source).1.outcome = .success results := by
  obtain ⟨table, limits, library, converter, sound, _, conversion⟩ := exists_convert_eq host session drawings
  let machine : Machine σ Library := ⟨{}, host.renew session, library, []⟩
  have fresh : machine.state.Ready (Conversion.collaborators host table limits).Conforming := nofun
  have safe (fuel : Nat) := (Conversion.dependable answers sound limits).hasFailed_process fresh fuel
    (Token.tokenize source)
  constructor
  · intro fuel
    rw [conversion]
    exact conversionOf_sound host converter (safe fuel)
  · intro limit bounded
    obtain ⟨moves, ended⟩ := Machine.process_terminates (Conversion.collaborators host table limits) {}
      (host.renew session) library (Token.tokenize source) bounded
    obtain ⟨results, success⟩ := exists_success host converter (safe moves) ended
    refine ⟨moves, results, fun fuel enough => ?_⟩
    obtain ⟨more, rfl⟩ := Nat.exists_eq_add_of_le enough
    rw [conversion, Machine.process_of_isOver _ ended, success]

/-- A script language whose first answer in every document is a script. -/
def onceHost : ScriptHost Nat where
  bridge := Machine.onceScript
  renew _ := 0
  reports _ := []
  bindings _ := []

/-- Bounds that are no numbers, infinite or beyond all numbers, a scale without a value, spacings that are
not positive, and a script that gives a script. -/
theorem convert_standard_succeeds_of_malformed :
    let source := "init r 1e308 nan -inf x fss; grid sp 0 -1 r -1e308 0 1e308 1e999; \x7bx\x7d;" ++
      "axis r; point:a p inf 2 r \x7bx\x7d; . sw 1_0"
    onceHost.Answers ∧ onceHost.bridge.Bounded 1 (onceHost.renew 7) ∧
      ∃ moves results, ∀ fuel ≥ moves,
        (convert onceHost fuel (standard 7 3) source).1.outcome = .success results := by
  intro source
  have answers : onceHost.Answers := ⟨fun _ session => ⟨_, session + 1, rfl⟩, fun _ _ _ => rfl⟩
  have bounded : onceHost.bridge.Bounded 1 (onceHost.renew 7) := Machine.onceScript_bounded
  obtain ⟨_, succeeds⟩ := convert_standard_succeeds onceHost answers 7 3 source
  exact ⟨answers, bounded, succeeds 1 bounded⟩

/-- A script language that answers every script with a script. -/
def echoHost : ScriptHost Unit where
  bridge :=
    { evaluate := fun _ session => (.ok "\x7bx\x7d", session)
      bind := fun _ _ session => session }
  renew := id
  reports _ := []
  bindings _ := []

/-- A script whose answer is the script itself stands where it stood after each answer. -/
theorem exists_run_echo {registry : Registry Library} {limits : Limits} (fuel : Nat)
    {machine : Machine Unit Library}
    (frames : machine.frames = [{ ahead := [⟨.script, "x"⟩, ⟨.boundary, ""⟩] }]) :
    ∃ machine', Machine.run ⟨echoHost.bridge, registry, limits⟩ fuel machine = .next machine' := by
  have restored : Frame.edit { ahead := [⟨.script, "x"⟩, ⟨.boundary, ""⟩] }
      (Focus.splice (outputTokens "\x7bx\x7d")) = { ahead := [⟨.script, "x"⟩, ⟨.boundary, ""⟩] } := by
    have answer : outputTokens "\x7bx\x7d" = [⟨.script, "x"⟩] := by
      decide +kernel
    rw [answer]
    rfl
  induction fuel generalizing machine with
  | zero => exact ⟨machine, rfl⟩
  | succ fuel ih =>
      obtain ⟨state, session, library, frames'⟩ := machine
      obtain rfl : frames' = _ := frames
      exact ih (congrArg (fun frame => [frame]) restored)

/-- Where each answer is a script, conversions do not succeed, however many moves they make. -/
theorem convert_standard_never_succeeds_of_echo :
    echoHost.Answers ∧ ∀ fuel results,
      (convert echoHost fuel (standard () 0) "\x7bx\x7d").1.outcome ≠ .success results := by
  refine ⟨⟨fun _ session => ⟨_, session, rfl⟩, fun _ _ _ => rfl⟩, fun fuel results => ?_⟩
  obtain ⟨table, limits, library, converter, _, nesting, conversion⟩ := exists_convert_eq echoHost () 0
  have tokens : Token.tokenize "\x7bx\x7d" = [⟨.script, "x"⟩, ⟨.boundary, ""⟩] := by
    decide +kernel
  obtain ⟨machine, run⟩ := @exists_run_echo (Conversion.registry table) limits fuel
    ⟨{ depth := 1 }, (), library, [{ ahead := [⟨.script, "x"⟩, ⟨.boundary, ""⟩] }]⟩ rfl
  have shallow : ¬limits.nesting ≤ (0 : Nat) := by
    rw [nesting]
    decide
  have process : Machine.process (Conversion.collaborators echoHost table limits) fuel
      ⟨{}, echoHost.renew (), library, []⟩ (Token.tokenize "\x7bx\x7d") = .next machine := by
    rw [tokens]
    simp only [Machine.process, Machine.enter, Conversion.collaborators, if_neg shallow, if_true]
    exact run
  rw [conversion, process]
  intro succeeds
  cases succeeds

end Converter

end Linework
