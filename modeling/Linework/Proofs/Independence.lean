import Linework.Conversion
import Linework.Proofs.Drawing.Arrows
import Linework.Proofs.Expansion.Relabelling

/-!
# Documents are converted apart

A converter begins each document anew: with no names bound, no commands seen, nothing reported and a new
drawing. Two things outlast a document. What scripts have printed stays printed, but no script can read it.
And the drawings are counted; but the count goes into the identifiers of arrow markers, these go into the
elements of axes, and nothing reads them there. So what was converted before a document, whether it went well
or ended by a fault, shows in the conversion of the document by the number in those identifiers alone.
-/

namespace Linework

open Linework.Expansion Linework.Drawing

variable {σ : Type}

/-! ## Sessions -/

/-- A script language that does not see a change of its sessions: neither its answers nor what it keeps of
bound values and reports depend on it. -/
structure ScriptHost.Ignores (host : ScriptHost σ) (change : σ → σ) : Prop where
  evaluate : ∀ code session,
    host.bridge.evaluate code (change session) = (host.bridge.evaluate code session).map id change
  bind : ∀ name datum session,
    host.bridge.bind name datum (change session) = change (host.bridge.bind name datum session)
  bindFault : ∀ name datum session,
    host.bridge.bindFault name datum (change session) = host.bridge.bindFault name datum session
  reports : ∀ session, host.reports (change session) = host.reports session
  bindings : ∀ session, host.bindings (change session) = host.bindings session

namespace Script

variable {ω ν : Type} [Inhabited ω] {language : Language ω ν}

/-- A session before which other things were written. -/
def Hosted.after (written : Array String) (session : Hosted ω ν) : Hosted ω ν :=
  { session with writtenBefore := written }

namespace Language

theorem evaluate_after (written : Array String) (code : String) (session : Hosted ω ν) :
    language.evaluate code (session.after written) =
      (language.evaluate code session).map id (Hosted.after written) := by
  have same : (session.after written).world = session.world := rfl
  unfold evaluate
  rw [same]
  generalize (language.reply code).run.run session.world = ran
  rcases ran with ⟨halt | text | reason, world⟩ <;> rfl

/-- Scripts do not see what was written before they were run. -/
theorem host_ignores_after (written : Array String) : language.host.Ignores (Hosted.after written) where
  evaluate := evaluate_after written
  bind _ _ _ := rfl
  bindFault _ _ _ := rfl
  reports _ := rfl
  bindings _ := rfl

/-- Sessions that begin anew differ in what was written before. -/
theorem renew_eq_after (session session' : Hosted ω ν) :
    language.host.renew session' = (language.host.renew session).after (language.allWritten session') :=
  rfl

end Language

end Script

/-! ## Runs -/

namespace Conversion

/-- A change of sessions, and of drawings to those of another number. -/
def labels (change : σ → σ) (options : Assoc Datum Datum) (number : Nat) :
    Relabelling σ Library where
  session := change
  library := Library.numbered options number
  result := Result.withArrows (Library.arrowStem options number ++ "arrow_start")
    (Library.arrowStem options number ++ "arrow_end")

theorem collaborators_ignore {host : ScriptHost σ} {change : σ → σ} (ignores : host.Ignores change)
    (options : Assoc Datum Datum) (number : Nat) (table : CommandTable) (limits : Limits) :
    Host.Ignores ⟨host.bridge, registry table, limits⟩ (labels change options number) where
  evaluate := ignores.evaluate
  bind := ignores.bind
  bindFault := ignores.bindFault
  invoke name arguments library := by
    simp only [registry, CommandTable.invoke]
    cases table.parameters name with
    | error fault => rfl
    | ok parameters => exact Library.invoke_withArrows _ _ library name arguments parameters
  name := Result.name_withArrows _ _
  interface := Result.interface_withArrows _ _

/-- The results of a drawing of another number. -/
def numberedResults (options : Assoc Datum Datum) (number : Nat) (results : List Result) : List Result :=
  results.map (Result.withArrows (Library.arrowStem options number ++ "arrow_start")
    (Library.arrowStem options number ++ "arrow_end"))

/-- A conversion whose drawing has another number: the identifiers of the arrows in the results of axes are
those of that number, and all else is the same. -/
def numbered (options : Assoc Datum Datum) (number : Nat) (conversion : Conversion) : Conversion where
  outcome :=
    match conversion.outcome with
    | .success results => .success (numberedResults options number results)
    | other => other
  reports := conversion.reports
  escape := conversion.escape

theorem withBindings_numbered (options : Assoc Datum Datum) (number : Nat) (results : List Result)
    (values : List Datum) :
    withBindings (numberedResults options number results) values =
      numberedResults options number (withBindings results values) := by
  induction results generalizing values with
  | nil => rfl
  | cons result rest inductionHypothesis =>
      cases values with
      | nil => rfl
      | cons value values =>
          simp only [numberedResults, List.map_cons, withBindings, Result.name_withArrows,
            Result.interface_withArrows]
          split
          · exact congrArg₂ List.cons (Result.withArrows_withInterface _ _ result (some value))
              (inductionHypothesis values)
          · exact congrArg (List.cons _) (inductionHypothesis (value :: values))

end Conversion

namespace Converter

theorem fail_of_ignores {host : ScriptHost σ} {change : σ → σ} (ignores : host.Ignores change)
    {converter converter' : Converter σ} (changed : converter'.session = change converter.session)
    (options : Assoc Datum Datum) (number : Nat) (fault : Fault) :
    (converter'.fail host fault).1 = (converter.fail host fault).1.numbered options number := by
  unfold fail
  rw [changed, ignores.reports]
  split <;> rfl

/-- A converter that begins a document with a session that differs unseen from another's, and has begun
other drawings, converts it as the other does, but for the number of the drawing. -/
theorem convert_of_renew {host : ScriptHost σ} {change : σ → σ} (ignores : host.Ignores change)
    {converter converter' : Converter σ} (options : converter'.options = converter.options)
    (commands : converter'.commands = converter.commands)
    (renewed : host.renew converter'.session = change (host.renew converter.session)) (fuel : Nat)
    (source : String) :
    (convert host fuel converter' source).1 =
      (convert host fuel converter source).1.numbered converter.options converter'.drawings := by
  unfold convert prepare
  simp only [options, commands, renewed,
    Library.create_eq_map converter.options converter.drawings converter'.drawings]
  cases Library.create converter.options converter.drawings with
  | error fault => exact fail_of_ignores ignores rfl ..
  | ok library =>
      simp only [Except.map]
      cases CommandTable.ofSchemas converter.commands with
      | error fault => exact fail_of_ignores ignores rfl ..
      | ok table =>
          cases Conversion.limits converter.options with
          | error fault => exact fail_of_ignores ignores rfl ..
          | ok limits =>
              have run := Machine.processOn_relabelled
                (Conversion.collaborators_ignore ignores converter.options converter'.drawings table limits)
                (stack host) fuel ⟨{}, host.renew converter.session, library, []⟩ (Token.tokenize source)
              simp only [Machine.relabelled, State.relabelled, Conversion.labels, List.map_toArray,
                List.map_nil] at run
              simp only [bind, Except.bind, pure, Except.pure, run]
              cases Machine.processOn _ (stack host) fuel _ (Token.tokenize source) with
              | next machine =>
                  simp only [Move.relabelled, Machine.relabelled, ignores.reports]
                  rfl
              | failed machine tokens fault => exact fail_of_ignores ignores rfl ..
              | finished machine tokens =>
                  simp only [Move.relabelled, Machine.relabelled, State.relabelled, ignores.reports,
                    ignores.bindings, Array.toList_map]
                  exact congrArg
                    (fun results => ({ outcome := .success results, reports := host.reports machine.bridge } :
                      Conversion))
                    (Conversion.withBindings_numbered _ _ machine.state.results.toList _)

/-- The converter after documents that it has converted one after the other. -/
def after (host : ScriptHost σ) (fuel : Nat) (converter : Converter σ) (sources : List String) :
    Converter σ :=
  sources.foldl (fun converter source => (convert host fuel converter source).2) converter

@[simp]
theorem fail_snd (host : ScriptHost σ) (converter : Converter σ) (fault : Fault) :
    (converter.fail host fault).2 = converter := by
  unfold fail
  split <;> rfl

/-- The configuration of a converter is the same after a document, however its conversion has ended. -/
theorem convert_configured (host : ScriptHost σ) (fuel : Nat) (converter : Converter σ)
    (source : String) :
    (convert host fuel converter source).2.options = converter.options ∧
      (convert host fuel converter source).2.commands = converter.commands := by
  unfold convert
  dsimp only
  split
  · simp
  · split
    · simp
    · split <;> simp

theorem after_configured (host : ScriptHost σ) (fuel : Nat) (converter : Converter σ)
    (sources : List String) :
    (converter.after host fuel sources).options = converter.options ∧
      (converter.after host fuel sources).commands = converter.commands := by
  induction sources generalizing converter with
  | nil => exact ⟨rfl, rfl⟩
  | cons source rest inductionHypothesis =>
      obtain ⟨options, commands⟩ := inductionHypothesis (convert host fuel converter source).2
      obtain ⟨options', commands'⟩ := convert_configured host fuel converter source
      exact ⟨options.trans options', commands.trans commands'⟩

/-- A converter that has converted any documents, whether their conversions went well, failed, were given up
or let a fault escape, converts a document as a fresh one with the same configuration does, in every script
language. Only the number of the drawing shows, in the identifiers of the arrows of axes. -/
theorem convert_independent {ω ν : Type} [Inhabited ω] (language : Script.Language ω ν) (config : Datum)
    (drawings drawings' fuel fuel' : Nat) (earlier : List String) (source : String) :
    let fresh (drawings : Nat) : Converter (Script.Hosted ω ν) :=
      { ofConfig config {} with drawings := drawings }
    let used := (fresh drawings).after language.host fuel earlier
    (used.convert language.host fuel' source).1 =
      ((fresh drawings').convert language.host fuel' source).1.numbered
        (Config.sectionOf config "options") used.drawings := by
  intro fresh used
  have configured : used.options = (fresh drawings').options ∧ used.commands = (fresh drawings').commands :=
    after_configured language.host fuel (fresh drawings) earlier
  exact convert_of_renew (Script.Language.host_ignores_after (language.allWritten used.session)) configured.1
    configured.2 (Script.Language.renew_eq_after (fresh drawings').session used.session) fuel' source

end Converter

end Linework
