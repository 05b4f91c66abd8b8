import Linework.Proofs.Command
import Linework.Proofs.Expansion.Course
import Linework.Proofs.Expansion.Desk
import Linework.Proofs.Expansion.Runs

/-!
# Repetitions

A repetition takes over the arguments of the command before it, and its own ones hide those. An identifier
is never taken over. In a row of repetitions the arguments lie one upon the other in layers, and it makes
no difference what is done to commands that were handed on.
-/

namespace Linework

/-! ## Layers of arguments -/

/-- Arguments without the identifier. -/
def Arguments.anonymous (arguments : Arguments) : Arguments :=
  arguments.filter (·.1 != Command.idFlag)

/-- The values that a flag has in the last layer that binds it. -/
def Arguments.uppermost (layers : List Arguments) (flag : String) : Option (List String) :=
  layers.reverse.findSome? (·.get? flag)

namespace Arguments

theorem get?_anonymous (arguments : Arguments) (flag : String) :
    arguments.anonymous.get? flag = if flag != Command.idFlag then arguments.get? flag else none :=
  Assoc.get?_filter arguments (· != Command.idFlag) flag

@[simp]
theorem uppermost_append_singleton (layers : List Arguments) (layer : Arguments) (flag : String) :
    uppermost (layers ++ [layer]) flag = (layer.get? flag).or (uppermost layers flag) := by
  rw [uppermost, List.reverse_concat, List.findSome?_cons, uppermost]
  cases layer.get? flag <;> rfl

/-- No layer has an identifier to hand on. -/
theorem uppermost_anonymous (layers : List Arguments) (flag : String) :
    uppermost (layers.map anonymous) flag =
      if flag != Command.idFlag then uppermost layers flag else none := by
  induction layers using List.reverseRecOn with
  | nil => simp [uppermost]
  | append_singleton layers layer ih =>
      rw [List.map_append, List.map_singleton, uppermost_append_singleton,
        uppermost_append_singleton, ih, get?_anonymous]
      split <;> rfl

end Arguments

namespace Expansion

variable {σ ρ : Type} (host : Host σ ρ)

/-! ## What the machine recognizes -/

namespace Machine

variable {tokens : List Token} {words : List String} {schema : Schema}

theorem recognize_of_ne (previous : Option Command) {name : String}
    (read : Command.read? tokens = some (name, words)) (other : name ≠ ".")
    (schemaEq : schemaOf host name = .ok schema) :
    recognize host previous tokens = .ok (some ⟨name, Command.bind schema words⟩) := by
  cases previous <;> simp [recognize, read, other, schemaEq]

theorem recognize_again {last : Command} (read : Command.read? tokens = some (".", words))
    (schemaEq : schemaOf host last.name = .ok schema) :
    recognize host (some last) tokens =
      .ok (some ⟨last.name, last.arguments.update (Command.bind schema words)⟩) := by
  simp [recognize, read, schemaEq, Command.overlay]

end Machine

/-! ## The previous command of the machine -/

/-- The previous command has no identifier. -/
def State.Anonymous (state : State) : Prop :=
  ∀ last ∈ state.previous, last.arguments.get? Command.idFlag = none

theorem get?_snapshot (command : Command) : command.snapshot.arguments.get? Command.idFlag = none :=
  Arguments.get?_anonymous command.arguments Command.idFlag

namespace Machine

/-- A move leaves the previous command as it is, or puts a new one in its place. -/
theorem previous_step (machine : Machine σ ρ) :
    (step host machine).machine.state.previous = machine.state.previous ∨
      ∃ command : Command, (step host machine).machine.state.previous = some command.snapshot := by
  rcases frames : machine.frames with _ | ⟨frame, outer⟩
  · rw [step_of_nil host frames]
    exact .inl rfl
  · have moves := moves_step host frames
    generalize step host machine = move at moves
    cases moves with
    | pass | hear | refuse | splice | define | leave | finish | invokeUnknown | dismiss | misread =>
        exact .inl rfl
    | iterate | invoke => exact .inl (congrArg Seen.previous (seen_enter host _ _))
    | perform _ _ _ _ dispatched => exact .inr ⟨_, (kept_of_dispatch host dispatched).previous⟩
    | abort _ _ _ _ failed => exact .inr ⟨_, (kept_of_dispatch host failed).previous⟩

end Machine

namespace State.Anonymous

variable {machine : Machine σ ρ}

theorem step (anonymous : machine.state.Anonymous) :
    (Machine.step host machine).machine.state.Anonymous := by
  unfold State.Anonymous
  rcases Machine.previous_step host machine with same | ⟨command, new⟩
  · rw [same]
    exact anonymous
  · rw [new]
    rintro last ⟨⟩
    exact get?_snapshot command

theorem run (anonymous : machine.state.Anonymous) (fuel : Nat) :
    (Machine.run host fuel machine).machine.state.Anonymous :=
  Machine.machine_run_keeps host (fun machine => machine.state.Anonymous) (step host) anonymous fuel

theorem process (anonymous : machine.state.Anonymous) (fuel : Nat) (tokens : List Token) :
    (Machine.process host fuel machine tokens).machine.state.Anonymous := by
  have same : (Machine.enter host machine tokens).state.previous = machine.state.previous :=
    congrArg Seen.previous (Machine.seen_enter host machine tokens)
  have entered : (Machine.enter host machine tokens).state.Anonymous := by
    unfold State.Anonymous
    rw [same]
    exact anonymous
  unfold Machine.process
  simp only
  split
  · exact entered
  · exact entered.run host fuel

end State.Anonymous

/-! ## Rows of repetitions -/

namespace Desk

/-- The desks that commands are recognized on one after the other, while those outside do what they can.
What they know is what was handed on, and what they have built. -/
inductive Reached : Desk → Set Nat → Prop
  | start : Reached {} ∅
  | handOn {desk desk' : Desk} {known : Set Nat} {tokens : List Token} {name : String} {address : Nat} :
      Reached desk known → desk.recognize host tokens = .ok (some (name, address), desk') →
      Reached desk' (known ∪ {other | other ∈ desk'.heap.reach address})
  | pass {desk desk' : Desk} {known : Set Nat} {tokens : List Token} : Reached desk known →
      desk.recognize host tokens = .ok (none, desk') → Reached desk' known
  | meddle {desk : Desk} {known known' : Set Nat} {heap : Heap} : Reached desk known →
      Meddled desk.heap known heap known' → Reached ⟨heap, desk.previous⟩ known'

/-- A command of a name and the repetitions of it, with no other command in between. Each has bound the
words of its own to a layer of arguments. -/
inductive Row (name : String) (schema : Schema) : List Arguments → Desk → Set Nat → Prop
  | first {desk desk' : Desk} {known : Set Nat} {tokens : List Token} {words : List String}
      {name' : String} {address : Nat} : Reached host desk known →
      Command.read? tokens = some (name, words) → name ≠ "." →
      Machine.schemaOf host name = .ok schema →
      desk.recognize host tokens = .ok (some (name', address), desk') →
      Row name schema [Command.bind schema words] desk'
        (known ∪ {other | other ∈ desk'.heap.reach address})
  | again {layers : List Arguments} {desk desk' : Desk} {known : Set Nat} {tokens : List Token}
      {words : List String} {name' : String} {address : Nat} : Row name schema layers desk known →
      Command.read? tokens = some (".", words) →
      desk.recognize host tokens = .ok (some (name', address), desk') →
      Row name schema (layers ++ [Command.bind schema words]) desk'
        (known ∪ {other | other ∈ desk'.heap.reach address})
  | pass {layers : List Arguments} {desk desk' : Desk} {known : Set Nat} {tokens : List Token} :
      Row name schema layers desk known → desk.recognize host tokens = .ok (none, desk') →
      Row name schema layers desk' known
  | meddle {layers : List Arguments} {desk : Desk} {known known' : Set Nat} {heap : Heap} :
      Row name schema layers desk known → Meddled desk.heap known heap known' →
      Row name schema layers ⟨heap, desk.previous⟩ known'

variable {host} {desk : Desk} {known : Set Nat} {name : String} {schema : Schema}
  {layers : List Arguments} {tokens : List Token} {words : List String}

theorem Reached.sound (reached : Reached host desk known) : desk.Sound known := by
  induction reached with
  | start => exact ⟨nofun, nofun, nofun⟩
  | handOn _ handed ih =>
      obtain ⟨command, _, yields⟩ := ih.exists_recognized handed
      exact yields.sound
  | pass _ passed ih =>
      rw [ih.eq_of_passed passed]
      exact ih
  | meddle _ meddled ih => exact (ih.meddle meddled).1

theorem Row.reached (row : Row host name schema layers desk known) : Reached host desk known := by
  induction row with
  | first reached _ _ _ handed => exact .handOn reached handed
  | again _ _ handed ih => exact .handOn ih handed
  | pass _ passed ih => exact .pass ih passed
  | meddle _ meddled ih => exact .meddle ih meddled

/-- What is kept on a desk reads as the layers without their identifiers. -/
def Keeps (desk : Desk) (name : String) (layers : List Arguments) : Prop :=
  ∃ arguments, desk.command? = some ⟨name, arguments⟩ ∧
    ∀ flag, arguments.get? flag = Arguments.uppermost (layers.map .anonymous) flag

theorem Row.schemaOf_eq (row : Row host name schema layers desk known) :
    Machine.schemaOf host name = .ok schema := by
  induction row with
  | first _ _ _ schemaEq => exact schemaEq
  | again _ _ _ ih | pass _ _ ih | meddle _ _ ih => exact ih

/-- The command of a repetition. -/
theorem Keeps.recognize_again (keeps : desk.Keeps name layers)
    (schemaEq : Machine.schemaOf host name = .ok schema)
    (read : Command.read? tokens = some (".", words)) :
    ∃ arguments, Machine.recognize host desk.command? tokens = .ok (some ⟨name, arguments⟩) ∧
      ∀ flag, arguments.get? flag =
        Arguments.uppermost (layers.map .anonymous ++ [Command.bind schema words]) flag := by
  obtain ⟨arguments, commandEq, layered⟩ := keeps
  refine ⟨arguments.update (Command.bind schema words), ?_, fun flag => ?_⟩
  · rw [commandEq]
    exact Machine.recognize_again host read schemaEq
  · rw [Assoc.get?_update _ (Command.nodup_keys_bind schema words), layered,
      Arguments.uppermost_append_singleton]

/-- Once a command was handed on, the layers of its arguments are kept. -/
theorem Yields.keeps_append {arguments layer : Arguments} {address : Nat} {desk' : Desk}
    (layers : List Arguments) (yields : Yields known ⟨name, arguments⟩ address desk')
    (layered : ∀ flag, arguments.get? flag =
      Arguments.uppermost (layers.map .anonymous ++ [layer]) flag) :
    desk'.Keeps name (layers ++ [layer]) := by
  refine ⟨arguments.anonymous, yields.command?_eq, fun flag => ?_⟩
  rw [Arguments.get?_anonymous, layered, Arguments.uppermost_anonymous,
    Arguments.uppermost_append_singleton, Arguments.uppermost_append_singleton,
    Arguments.uppermost_anonymous]
  split <;> rfl

theorem Row.keeps (row : Row host name schema layers desk known) : desk.Keeps name layers := by
  induction row with
  | first reached read other schemaEq handed =>
      obtain ⟨command, recognized, yields⟩ := reached.sound.exists_recognized handed
      rw [Machine.recognize_of_ne host _ read other schemaEq] at recognized
      cases recognized
      apply yields.keeps_append []
      intro flag
      simp [Arguments.uppermost]
  | again row read handed ih =>
      obtain ⟨arguments, recognized, layered⟩ := ih.recognize_again row.schemaOf_eq read
      obtain ⟨command, recognized', yields⟩ := row.reached.sound.exists_recognized handed
      rw [recognized] at recognized'
      cases recognized'
      exact yields.keeps_append _ layered
  | pass row passed ih =>
      rw [row.reached.sound.eq_of_passed passed]
      exact ih
  | meddle row meddled ih =>
      obtain ⟨arguments, commandEq, layered⟩ := ih
      exact ⟨arguments, (row.reached.sound.meddle meddled).2.trans commandEq, layered⟩

/-- The next repetition in a row has the arguments of the row, one upon the other and without
identifiers, and upon them its own ones. What is kept of it for those to come has no identifier, on a desk
as in the machine. -/
theorem Row.repeats (row : Row host name schema layers desk known) :
    (∀ tokens words, Command.read? tokens = some (".", words) → ∃ address desk' arguments,
      desk.recognize host tokens = .ok (some (name, address), desk') ∧
        desk'.heap.arguments address = arguments ∧
        desk'.command? = some (Command.mk name arguments).snapshot ∧
        Machine.recognize host desk.command? tokens = .ok (some ⟨name, arguments⟩) ∧
        ∀ flag, arguments.get? flag =
          Arguments.uppermost (layers.map .anonymous ++ [Command.bind schema words]) flag) ∧
    (∀ last ∈ desk.command?, last.arguments.get? Command.idFlag = none) ∧
    ∀ (fuel : Nat) (machine : Machine σ ρ) (tokens : List Token), machine.state.Anonymous →
      (Machine.process host fuel machine tokens).machine.state.Anonymous := by
  refine ⟨fun tokens words read => ?_, fun last isLast => ?_, fun fuel machine tokens anonymous => ?_⟩
  · obtain ⟨arguments, recognized, layered⟩ := row.keeps.recognize_again row.schemaOf_eq read
    obtain ⟨address, desk', handed, yields⟩ := row.reached.sound.exists_handed recognized
    exact ⟨address, desk', arguments, handed, yields.arguments_eq, yields.command?_eq, recognized,
      layered⟩
  · obtain ⟨arguments, commandEq, layered⟩ := row.keeps
    obtain rfl := Option.some.inj (commandEq.symm.trans isLast)
    rw [layered, Arguments.uppermost_anonymous]
    rfl
  · exact anonymous.process host fuel tokens

/-- A handler that empties the mapping it was given does no harm to a row of three repetitions. -/
theorem Row.repeats_of_cleared :
    let schema : Schema := [("id", 1), ("p", 2), ("r", 1)]
    let host : Host Nat Unit :=
      { echo with registry := ⟨fun _ => .ok true, fun _ => .ok schema, fun _ _ _ => (.ok none, ())⟩ }
    ∃ desk known, Row host "point" schema
        [[("id", ["a"]), ("p", ["1", "2"]), ("r", ["3"])], [("id", ["b"]), ("p", ["4", "5"])],
          [("r", ["6"])]] desk known ∧
      ∃ address desk' arguments,
        desk.recognize host [⟨.text, ". p 7 8"⟩] = .ok (some ("point", address), desk') ∧
          desk'.heap.arguments address = arguments ∧ arguments.get? "id" = none ∧
          arguments.get? "p" = some ["7", "8"] ∧ arguments.get? "r" = some ["6"] := by
  intro schema host
  have schemaEq : Machine.schemaOf host "point" = .ok schema := rfl
  have read : Command.read? [⟨.text, "point:a p 1 2 r 3"⟩] =
      some ("point", ["id", "a", "p", "1", "2", "r", "3"]) := by decide +kernel
  have recognized := Machine.recognize_of_ne host (command? {}) read (by decide) schemaEq
  have empty : Reached host {} ∅ := .start
  obtain ⟨address, desk, handed, _⟩ := empty.sound.exists_handed recognized
  have first : Row host "point" schema _ desk _ := .first empty read (by decide) schemaEq handed
  have cleared := first.meddle
    (meddled_write first.reached.sound.closed (.inr List.mem_cons_self) (.mapping []) nofun)
  have again : Command.read? [⟨.text, ".:b p 4 5"⟩] = some (".", ["id", "b", "p", "4", "5"]) := by
    decide +kernel
  obtain ⟨_, _, _, handed, _⟩ := cleared.repeats.1 _ _ again
  have second := cleared.again again handed
  have again : Command.read? [⟨.text, ". r 6"⟩] = some (".", ["r", "6"]) := by decide +kernel
  obtain ⟨_, _, _, handed, _⟩ := second.repeats.1 _ _ again
  have third := second.again again handed
  have again : Command.read? [⟨.text, ". p 7 8"⟩] = some (".", ["p", "7", "8"]) := by decide +kernel
  obtain ⟨address, desk', arguments, handed, read, _, _, layered⟩ := third.repeats.1 _ _ again
  refine ⟨_, _, third, address, desk', arguments, handed, read, ?_, ?_, ?_⟩
  · rw [layered]
    decide +kernel
  · rw [layered]
    decide +kernel
  · rw [layered]
    decide +kernel

end Desk

end Expansion

end Linework
