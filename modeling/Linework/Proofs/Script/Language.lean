import Linework.Script.Language
import Mathlib.Tactic.Common

/-!
# What evaluation makes of a fragment

A fragment that runs to its end is replaced by the text of its value, and one that throws an exception is
replaced by the empty text and reported once. But only the run of a fragment is guarded. Where its value cannot
be written, or the message of its exception cannot be made, the evaluation raises a fault and reports nothing;
so it does for exceptions that are not of the ordinary kinds.

How a value is written is given as a relation. Writing in steps comes to what the relation says when it comes
to an end, and there are steps enough for all that the relation says.
-/

namespace Linework.Script

variable {ω ν α β : Type}

/-! ## Runs that end -/

namespace Running

variable {action : Running ω ν α} {go : α → Running ω ν β} {world after : ω}

theorem run_bind : (action >>= go).run.run world =
    match action.run.run world with
    | (.ok value, between) => (go value).run.run between
    | (.error halt, between) => (.error halt, between) := by
  change (match action.run.run world with
    | (result, between) => ExceptT.bindCont go result between) = _
  rcases action.run.run world with ⟨halt | value, between⟩ <;> rfl

theorem run_attempt : action.attempt.run.run world =
    match action.run.run world with
    | (.ok value, between) => (.ok (.ok value), between)
    | (.error (.thrown exception), between) => (.ok (.error exception), between)
    | (.error .exhausted, between) => (.error .exhausted, between) := by
  unfold attempt
  change (ExceptT.tryCatch (ExceptT.map Except.ok action) _).run.run world = _
  unfold ExceptT.tryCatch ExceptT.map ExceptT.mk ExceptT.run
  simp only [StateT.run_bind]
  rcases StateT.run action world with ⟨(exception | _) | value, between⟩ <;> rfl

/-- A run ends with a value or an exception, and leaves a world. -/
def Ends (action : Running ω ν α) (world : ω) (result : Except ν α) (after : ω) : Prop :=
  @Eq (Except (Halt ν) α × ω) (action.run.run world) (result.mapError .thrown, after)

theorem mapError_thrown_injective :
    Function.Injective (Except.mapError Halt.thrown : Except ν α → Except (Halt ν) α) := by
  rintro (exception | value) (exception' | value') same <;> simp_all [Except.mapError]

theorem Ends.unique {result result' : Except ν α} {after' : ω} (ends : action.Ends world result after)
    (ends' : action.Ends world result' after') : result = result' ∧ after = after' := by
  have same := Prod.mk.injEq .. ▸ ends.symm.trans ends'
  exact ⟨mapError_thrown_injective same.1, same.2⟩

@[simp]
theorem ends_pure_iff {value : α} {result : Except ν α} :
    Ends (pure value : Running ω ν α) world result after ↔ result = .ok value ∧ after = world := by
  change @Eq (Except (Halt ν) α × ω) (.ok value, world) _ ↔ _
  cases result <;> simp [Except.mapError, eq_comm]

@[simp]
theorem not_ends_exhausted {result : Except ν α} :
    ¬Ends (throw .exhausted : Running ω ν α) world result after := by
  change @Ne (Except (Halt ν) α × ω) (.error .exhausted, world) _
  cases result <;> simp [Except.mapError]

@[simp]
theorem ends_throw_iff {exception : ν} {result : Except ν α} :
    Ends (throw (.thrown exception) : Running ω ν α) world result after ↔
      result = .error exception ∧ after = world := by
  change @Eq (Except (Halt ν) α × ω) (.error (.thrown exception), world) _ ↔ _
  cases result <;> simp [Except.mapError, eq_comm]

@[simp]
theorem ends_get_bind_iff {go : ω → Running ω ν β} {result : Except ν β} :
    Ends (get >>= go) world result after ↔ (go world).Ends world result after :=
  Iff.rfl

theorem ends_bind_iff {result : Except ν β} :
    Ends (action >>= go) world result after ↔
      (∃ value between, action.Ends world (.ok value) between ∧ (go value).Ends between result after) ∨
        ∃ exception, action.Ends world (.error exception) after ∧ result = .error exception := by
  unfold Ends
  rw [run_bind]
  rcases action.run.run world with ⟨(exception | _) | value, between⟩ <;> cases result <;>
    simp [Except.mapError, and_comm, eq_comm]

theorem ends_map_iff {f : α → β} {result : Except ν β} :
    Ends (do return f (← action)) world result after ↔
      ∃ before, action.Ends world before after ∧ result = before.map f := by
  rw [ends_bind_iff]
  constructor
  · rintro (⟨value, between, ends, last⟩ | ⟨exception, ends, rfl⟩)
    · obtain ⟨rfl, rfl⟩ := ends_pure_iff.mp last
      exact ⟨.ok value, ends, rfl⟩
    · exact ⟨.error exception, ends, rfl⟩
  · rintro ⟨exception | value, ends, rfl⟩
    · exact .inr ⟨exception, ends, rfl⟩
    · exact .inl ⟨value, after, ends, ends_pure_iff.mpr ⟨rfl, rfl⟩⟩

theorem ends_attempt_iff {result : Except ν (Except ν α)} :
    action.attempt.Ends world result after ↔ ∃ inner, action.Ends world inner after ∧ result = .ok inner := by
  unfold Ends
  rw [run_attempt]
  rcases action.run.run world with ⟨(exception | _) | value, between⟩ <;>
    rcases result with _ | _ | _ <;> simp [Except.mapError, and_comm, eq_comm]

end Running

/-! ## Writing -/

namespace Language

open Running

variable {language : Language ω ν}

mutual

/-- How a value is written where the stack has room for so many layers: as a text, or an exception is thrown. -/
inductive Writes (language : Language ω ν) : Nat → ν → ω → Except ν String → ω → Prop
  | nothing {room value world} (form : language.form world value = .nothing) :
      Writes language room value world (.ok "") world
  | truth {room value world holds} (form : language.form world value = .truth holds) :
      Writes language room value world (.ok (if holds then "true" else "false")) world
  | whole {room value world number} (form : language.form world value = .whole number) :
      Writes language room value world (.ok (Decimal.intText number)) world
  | other {room value world result after} (form : language.form world value = .other)
      (ends : (language.text room value).Ends world result after) :
      Writes language room value world result after
  | overflow {value world result after} (form : language.form world value = .sequence)
      (ends : (language.overflow value).Ends world result after) :
      Writes language 0 value world result after
  | sequence {room value world result after} (form : language.form world value = .sequence)
      (items : WritesFrom language room value 0 world result after) :
      Writes language (room + 1) value world (result.map (" ".intercalate ·)) after

/-- How the items of a sequence are written from an index on. -/
inductive WritesFrom (language : Language ω ν) :
    Nat → ν → Nat → ω → Except ν (List String) → ω → Prop
  | nil {room sequence index world} (last : language.item? world sequence index = none) :
      WritesFrom language room sequence index world (.ok []) world
  | stops {room sequence index world item exception after}
      (here : language.item? world sequence index = some item)
      (first : Writes language room item world (.error exception) after) :
      WritesFrom language room sequence index world (.error exception) after
  | cons {room sequence index world item text between result after}
      (here : language.item? world sequence index = some item)
      (first : Writes language room item world (.ok text) between)
      (rest : WritesFrom language room sequence (index + 1) between result after) :
      WritesFrom language room sequence index world (result.map (text :: ·)) after

end

/-- Writing in steps is writing when it comes to an end. -/
theorem writes_of_ends (steps : Nat) :
    (∀ {room value world result after}, (language.write steps room value).Ends world result after →
      language.Writes room value world result after) ∧
    (∀ {room sequence index world result after},
      (language.writeFrom steps room sequence index).Ends world result after →
      language.WritesFrom room sequence index world result after) := by
  induction steps with
  | zero => constructor <;> intros <;> simp_all [write, writeFrom]
  | succ steps ih =>
      obtain ⟨written, writtenFrom⟩ := ih
      constructor
      · intro room value world result after ends
        unfold write at ends
        rw [ends_get_bind_iff] at ends
        cases form : language.form world value with
        | nothing =>
            obtain ⟨rfl, rfl⟩ := ends_pure_iff.mp (by simpa only [form] using ends)
            exact .nothing form
        | truth holds =>
            obtain ⟨rfl, rfl⟩ := ends_pure_iff.mp (by simpa only [form] using ends)
            exact .truth form
        | whole number =>
            obtain ⟨rfl, rfl⟩ := ends_pure_iff.mp (by simpa only [form] using ends)
            exact .whole form
        | other => exact .other form (by simpa only [form] using ends)
        | sequence =>
            simp only [form] at ends
            cases room with
            | zero => exact .overflow form ends
            | succ room =>
                obtain ⟨items, itemsEnd, rfl⟩ := ends_map_iff.mp ends
                exact .sequence form (writtenFrom itemsEnd)
      · intro room sequence index world result after ends
        unfold writeFrom at ends
        rw [ends_get_bind_iff] at ends
        cases here : language.item? world sequence index with
        | none =>
            obtain ⟨rfl, rfl⟩ := ends_pure_iff.mp (by simpa only [here] using ends)
            exact .nil here
        | some item =>
            simp only [here] at ends
            rcases ends_bind_iff.mp ends with ⟨text, between, first, ends⟩ | ⟨exception, first, rfl⟩
            · obtain ⟨rest, restEnd, rfl⟩ := ends_map_iff.mp ends
              exact .cons here (written first) (writtenFrom restEnd)
            · exact .stops here (written first)

mutual

/-- There are steps enough for all that is written. -/
theorem Writes.exists_steps {room : Nat} {value : ν} {world after : ω} {result : Except ν String} :
    language.Writes room value world result after →
      ∃ steps, ∀ more, steps ≤ more → (language.write more room value).Ends world result after
  | .nothing form => by
      refine ⟨1, fun | more + 1, _ => ?_⟩
      unfold write
      simp [form]
  | .truth form => by
      refine ⟨1, fun | more + 1, _ => ?_⟩
      unfold write
      simp [form]
  | .whole form => by
      refine ⟨1, fun | more + 1, _ => ?_⟩
      unfold write
      simp [form]
  | .other form ends => by
      refine ⟨1, fun | more + 1, _ => ?_⟩
      unfold write
      simpa [form] using ends
  | .overflow form ends => by
      refine ⟨1, fun | more + 1, _ => ?_⟩
      unfold write
      simpa [form] using ends
  | .sequence form items => by
      obtain ⟨steps, written⟩ := items.exists_steps
      refine ⟨steps + 1, fun | more + 1, enough => ?_⟩
      unfold write
      simp only [ends_get_bind_iff, form]
      exact ends_map_iff.mpr ⟨_, written more (by omega), rfl⟩

theorem WritesFrom.exists_steps {room : Nat} {sequence : ν} {index : Nat} {world after : ω}
    {result : Except ν (List String)} :
    language.WritesFrom room sequence index world result after →
      ∃ steps, ∀ more, steps ≤ more →
        (language.writeFrom more room sequence index).Ends world result after
  | .nil last => by
      refine ⟨1, fun | more + 1, _ => ?_⟩
      unfold writeFrom
      simp [last]
  | .stops here first => by
      obtain ⟨steps, written⟩ := first.exists_steps
      refine ⟨steps + 1, fun | more + 1, enough => ?_⟩
      unfold writeFrom
      simp only [ends_get_bind_iff, here]
      exact ends_bind_iff.mpr (.inr ⟨_, written more (by omega), rfl⟩)
  | .cons here first rest => by
      obtain ⟨steps, written⟩ := first.exists_steps
      obtain ⟨steps', writtenFrom⟩ := rest.exists_steps
      refine ⟨max steps steps' + 1, fun | more + 1, enough => ?_⟩
      unfold writeFrom
      simp only [ends_get_bind_iff, here]
      exact ends_bind_iff.mpr (.inl ⟨_, _, written more (by omega),
        ends_map_iff.mpr ⟨_, writtenFrom more (by omega), rfl⟩⟩)

end

/-- A value is written in one way. -/
theorem Writes.unique {room : Nat} {value : ν} {world after after' : ω} {result result' : Except ν String}
    (writes : language.Writes room value world result after)
    (writes' : language.Writes room value world result' after') : result = result' ∧ after = after' := by
  obtain ⟨steps, written⟩ := writes.exists_steps
  obtain ⟨steps', written'⟩ := writes'.exists_steps
  exact (written (max steps steps') (by omega)).unique (written' _ (by omega))

/-! ## Evaluation -/

/-- What a fragment comes to in a world: a reply or an exception that is not handled, and the world that it
leaves. -/
inductive Comes (language : Language ω ν) (code : String) (world : ω) : Except ν Reply → ω → Prop
  /-- It runs to its end. The writing of its value is not guarded. -/
  | returns {value between text after} (runs : (language.run code).Ends world (.ok value) between)
      (writes : language.Writes language.room value between text after) :
      Comes language code world (text.map .text) after
  /-- It throws an exception of the ordinary kinds. The wording of the report is not guarded. -/
  | throws {exception between reason after}
      (runs : (language.run code).Ends world (.error exception) between)
      (ordinary : language.isOrdinary between exception)
      (words : (language.reason exception).Ends between reason after) :
      Comes language code world (reason.map .failure) after
  /-- It throws an exception of another kind. -/
  | escapes {exception after} (runs : (language.run code).Ends world (.error exception) after)
      (extraordinary : ¬language.isOrdinary after exception) :
      Comes language code world (.error exception) after

/-- The evaluation of a fragment comes to an end: its run does, and what is then written. -/
def Ends (language : Language ω ν) (code : String) (world : ω) : Prop :=
  ∃ result after, (language.reply code).Ends world result after

variable {code : String} {world after after' : ω} {result result' : Except ν Reply}

instance : Decidable (language.Ends code world) :=
  match ran : (language.reply code).run.run world with
  | (.ok reply, after) => .isTrue ⟨.ok reply, after, ran⟩
  | (.error (.thrown exception), after) => .isTrue ⟨.error exception, after, ran⟩
  | (.error .exhausted, after) => .isFalse <| by
      rintro ⟨result, after', ends⟩
      have same := congrArg Prod.fst (ran.symm.trans ends)
      cases result <;> simp [Except.mapError] at same

/-- Evaluation that comes to an end makes what the fragment comes to a reply. -/
theorem comes_of_reply (ends : (language.reply code).Ends world result after) :
    language.Comes code world result after := by
  unfold reply at ends
  rcases ends_bind_iff.mp ends with ⟨inner, between, attempted, ends⟩ | ⟨exception, attempted, _⟩
  · obtain ⟨inner, runs, ⟨⟩⟩ := ends_attempt_iff.mp attempted
    cases inner with
    | ok value =>
        obtain ⟨text, written, rfl⟩ := ends_map_iff.mp ends
        exact .returns runs ((writes_of_ends _).1 written)
    | error exception =>
        rw [ends_get_bind_iff] at ends
        by_cases ordinary : language.isOrdinary between exception
        · rw [if_pos ordinary] at ends
          obtain ⟨reason, words, rfl⟩ := ends_map_iff.mp ends
          exact .throws runs ordinary words
        · rw [if_neg ordinary] at ends
          obtain ⟨rfl, rfl⟩ := ends_throw_iff.mp ends
          exact .escapes runs ordinary
  · obtain ⟨inner, _, same⟩ := ends_attempt_iff.mp attempted
    contradiction

/-- The reply to a fragment, if there is one. -/
def reply? (language : Language ω ν) (code : String) (world : ω) : Option Reply :=
  ((language.reply code).run.run world).1.toOption

theorem exists_ends_of_reply? {reply : Reply} (replied : language.reply? code world = some reply) :
    ∃ after, (language.reply code).Ends world (.ok reply) after := by
  unfold reply? at replied
  rcases ran : (language.reply code).run.run world with ⟨halt | reply', after⟩ <;> rw [ran] at replied
  · contradiction
  · obtain rfl : reply' = reply := by simpa [Except.toOption] using replied
    exact ⟨after, ran⟩

/-- A fragment comes to one thing. -/
theorem Comes.unique (comes : language.Comes code world result after)
    (comes' : language.Comes code world result' after') : result = result' ∧ after = after' := by
  cases comes with
  | returns runs writes =>
      cases comes' with
      | returns runs' writes' =>
          obtain ⟨⟨⟩, rfl⟩ := runs.unique runs'
          obtain ⟨rfl, rfl⟩ := writes.unique writes'
          exact ⟨rfl, rfl⟩
      | throws runs' | escapes runs' => nomatch (runs.unique runs').1
  | throws runs ordinary words =>
      cases comes' with
      | throws runs' _ words' =>
          obtain ⟨⟨⟩, rfl⟩ := runs.unique runs'
          obtain ⟨rfl, rfl⟩ := words.unique words'
          exact ⟨rfl, rfl⟩
      | returns runs' => nomatch (runs.unique runs').1
      | escapes runs' extraordinary =>
          obtain ⟨⟨⟩, rfl⟩ := runs.unique runs'
          contradiction
  | escapes runs extraordinary =>
      cases comes' with
      | escapes runs' =>
          obtain ⟨⟨⟩, rfl⟩ := runs.unique runs'
          exact ⟨rfl, rfl⟩
      | returns runs' => nomatch (runs.unique runs').1
      | throws runs' ordinary =>
          obtain ⟨⟨⟩, rfl⟩ := runs.unique runs'
          contradiction

/-- What a fragment comes to is its reply. -/
theorem Comes.reply_ends (comes : language.Comes code world result after) (ends : language.Ends code world) :
    (language.reply code).Ends world result after := by
  obtain ⟨result', after', replied⟩ := ends
  obtain ⟨rfl, rfl⟩ := comes.unique (comes_of_reply replied)
  exact replied

variable [Inhabited ω] {session : Hosted ω ν}

/-- Evaluation of a fragment that comes to an end, in every world of every language. A fragment that runs to its
end and whose value is written gives that text, and no report is made; one that throws an ordinary exception
gives the empty text, and one report on that exception is made. In the cases that are left the value of the
fragment cannot be written, or the report not be worded, or the exception is none of the ordinary: then the
evaluation raises a fault, and makes no report. -/
theorem evaluate_of_ends (ends : language.Ends code session.world) :
    (∀ text after, language.Comes code session.world (.ok (.text text)) after →
      language.evaluate code session = (.ok text, { session with world := after })) ∧
    (∀ reason after, language.Comes code session.world (.ok (.failure reason)) after →
      language.evaluate code session =
        (.ok "", { session with
          world := after
          reports := session.reports.push
            ("ScriptError: " ++ reason ++ "\n  in \x7b" ++ code ++ "\x7d") })) ∧
    (∀ exception after, language.Comes code session.world (.error exception) after →
      ∃ fault later, language.evaluate code session = (.error fault, { session with world := later })) ∧
    ∃ result after, language.Comes code session.world result after := by
  obtain ⟨result, after, replied⟩ := ends
  refine ⟨fun text after comes => ?_, fun reason after comes => ?_, fun exception after comes => ?_,
    result, after, comes_of_reply replied⟩
  all_goals
    have replied := comes.reply_ends ⟨_, _, replied⟩
    unfold Running.Ends at replied
    unfold evaluate
    rw [replied]
  · rfl
  · rfl
  · exact ⟨_, _, rfl⟩

/-- A text without a report is the reply to a fragment. -/
theorem evaluate_eq_ok_iff {text : String} {after : ω} :
    language.evaluate code session = (.ok text, { session with world := after }) ↔
      (language.reply code).Ends session.world (.ok (.text text)) after := by
  unfold evaluate Running.Ends
  generalize (language.reply code).run.run session.world = ran
  rcases ran with ⟨halt | text' | reason, later⟩
  · exact iff_of_false (fun same => nomatch congrArg Prod.fst same) (by simp [Except.mapError])
  · simp [Except.mapError]
  · simp [Except.mapError, Hosted.report]

/-- A fragment that is run like one that succeeds succeeds as well. -/
theorem evaluate_of_run_eq {code' text : String} {after : ω}
    (same : (language.run code).run.run session.world = (language.run code').run.run session.world)
    (succeeds : language.evaluate code session = (.ok text, { session with world := after })) :
    language.evaluate code' session = (.ok text, { session with world := after }) := by
  have replies : (language.reply code).run.run session.world =
      (language.reply code').run.run session.world := by
    unfold reply
    rw [run_bind, run_bind, run_attempt, run_attempt, same]
  rw [evaluate_eq_ok_iff] at succeeds ⊢
  unfold Running.Ends
  rw [← replies]
  exact succeeds

end Language

end Linework.Script
