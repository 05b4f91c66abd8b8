import Linework.Proofs.Expansion.Course
import Linework.Proofs.Expansion.Runs

/-!
# The order of calls

The opening command is called before every other one and only once, wherever the first known command
comes from: the document, a script's output, a block or the body of a loop. What is called, with which
arguments and in which order follows from the commands that are recognised, and what a run gives back is
what its handlers have given back.
-/

namespace Linework.Expansion

variable {σ ρ : Type} (host : Host σ ρ)

/-- The first call of a run in which this is the first known command: that of the opening command, with
the arguments of the known command where it is the opening command itself. -/
def openingCall (limits : Limits) (first : Command) : String × Arguments :=
  (limits.initCommand, if first.name = limits.initCommand then first.arguments else [])

/-- What can be seen of a run in which these commands have been recognised: calls in their right order,
and results and binds that follow from the calls. -/
structure Disciplined (bridge : σ) (library : ρ) (commands : List Command) (seen : Seen σ ρ) :
    Prop where
  /-- No handler is called before a known command is recognised. Then the opening command is called, and
  it is not called again. -/
  opened : (∀ command ∈ commands, ¬host.registry.knows command.name) ∧ seen.calls = [] ∨
    ∃ first others, commands.find? (host.registry.knows ·.name) = some first ∧
      seen.calls = openingCall host.limits first :: others ∧
      ∀ call ∈ others, call.1 ≠ host.limits.initCommand
  /-- Only known commands are called. -/
  known : ∀ call ∈ seen.calls, host.registry.knows call.1
  /-- Every call is counted. -/
  counted : seen.dispatched = seen.calls.length
  /-- The results are those of the calls, in their order, and each is bound directly after its call. -/
  course : Course host bridge library seen.events seen.results.toList seen.bridge seen.library

variable {bridge : σ} {library : ρ} {commands : List Command} {seen : Seen σ ρ} {command : Command}
  {machine machine' : Machine σ ρ}

/-! ## One command -/

/-- A command by which nothing is opened: it is unknown, or the opening command has been called. -/
theorem Disciplined.recognizing (disciplined : Disciplined host bridge library commands seen)
    (uncalled : host.registry.knows command.name → seen.dispatched ≠ 0) :
    Disciplined host bridge library (commands ++ [command]) seen := by
  refine { disciplined with opened := ?_ }
  obtain ⟨unknown, noCalls⟩ | ⟨first, others, found, calls, once⟩ := disciplined.opened
  · refine .inl ⟨?_, noCalls⟩
    intro other mem
    rcases List.mem_append.mp mem with earlier | latest
    · exact unknown other earlier
    · obtain rfl := List.mem_singleton.mp latest
      intro known
      exact uncalled known (by rw [disciplined.counted, noCalls, List.length_nil])
  · exact .inr ⟨first, others, by rw [List.find?_append, found, Option.some_or], calls, once⟩

theorem Disciplined.course_returned (disciplined : Disciplined host bridge library commands seen)
    {name : String} {arguments : Arguments} {result? : Option Result} {library' : ρ}
    (known : host.registry.knows name)
    (answer : host.registry.invoke name arguments seen.library = (.ok result?, library')) :
    let returned := seen.returned host name arguments result? library'
    Course host bridge library returned.events returned.results.toList returned.bridge
      returned.library := by
  have called := disciplined.course.called known answer
  rwa [← Array.toList_appendList] at called

/-- A call after that of the opening command. -/
theorem Disciplined.returned (disciplined : Disciplined host bridge library commands seen)
    (started : seen.dispatched ≠ 0) {name : String} {arguments : Arguments} {result? : Option Result}
    {library' : ρ} (known : host.registry.knows name) (other : name ≠ host.limits.initCommand)
    (answer : host.registry.invoke name arguments seen.library = (.ok result?, library')) :
    Disciplined host bridge library commands (seen.returned host name arguments result? library') := by
  have course := disciplined.course_returned host known answer
  have calls := Seen.calls_returned host seen name arguments result? library'
  refine ⟨?_, course.knows, ?_, course⟩
  · obtain ⟨_, noCalls⟩ | ⟨first, others, found, before, once⟩ := disciplined.opened
    · exact absurd (disciplined.counted.trans (congrArg List.length noCalls)) started
    · refine .inr ⟨first, others ++ [(name, arguments)], found, ?_, ?_⟩
      · rw [calls, before, List.cons_append]
      · intro call mem
        rcases List.mem_append.mp mem with earlier | latest
        · exact once call earlier
        · rw [List.mem_singleton.mp latest]
          exact other
  · rw [calls, List.length_append, ← disciplined.counted]
    rfl

/-- The call of the opening command, made for the first known command. -/
theorem Disciplined.opening (disciplined : Disciplined host bridge library commands seen)
    (fresh : seen.dispatched = 0) (known : host.registry.knows command.name)
    (registered : host.registry.knows host.limits.initCommand) {result? : Option Result} {library' : ρ}
    (answer : host.registry.invoke host.limits.initCommand (openingCall host.limits command).2
      seen.library = (.ok result?, library')) :
    Disciplined host bridge library (commands ++ [command])
      (seen.returned host host.limits.initCommand (openingCall host.limits command).2 result?
        library') := by
  have course := disciplined.course_returned host registered answer
  have calls := Seen.calls_returned host seen host.limits.initCommand
    (openingCall host.limits command).2 result? library'
  obtain ⟨unknown, noCalls⟩ | ⟨first, others, _, before, _⟩ := disciplined.opened
  · rw [noCalls, List.nil_append] at calls
    refine ⟨.inr ⟨command, [], ?_, calls, by simp⟩, course.knows, ?_, course⟩
    · have none : commands.find? (host.registry.knows ·.name) = none := List.find?_eq_none.mpr unknown
      simp [List.find?_append, none, known]
    · rw [calls, Seen.returned, fresh]
      rfl
  · rw [disciplined.counted, before, List.length_cons] at fresh
    omega

/-- A registry says of every name whether it is known, and the handlers of known commands return where the
arguments fit. -/
structure Registry.Serves (registry : Registry ρ) (fits : String → Arguments → Prop) : Prop where
  answers : ∀ name, ∃ known, registry.has name = .ok known
  returns : ∀ name arguments library, registry.knows name → fits name arguments →
    ∃ result? library', registry.invoke name arguments library = (.ok result?, library')

/-- A registry says of every name whether it is known, and the handlers of known commands return. -/
def Registry.Returns (registry : Registry ρ) : Prop :=
  registry.Serves fun _ _ => True

variable {fits : String → Arguments → Prop}

theorem Registry.Serves.not_refused {registry : Registry ρ} (serves : registry.Serves fits) {name : String}
    {fault : Fault} : registry.has name ≠ .error fault := by
  intro refused
  obtain ⟨known, answer⟩ := serves.answers name
  rw [refused] at answer
  cases answer

/-- Where a handler returns, the call is seen with what it gives back, whether or not that can be made known
to scripts. -/
theorem seen_outcome_emit (serves : host.registry.Serves fits) (machine : Machine σ ρ) {name : String}
    {arguments : Arguments} (known : host.registry.knows name) (fit : fits name arguments) :
    ∃ result? library',
      host.registry.invoke name arguments machine.library = (.ok result?, library') ∧
        (Machine.outcome (Machine.emit host machine name arguments)).seen =
          machine.seen.returned host name arguments result? library' := by
  cases emitted : Machine.emit host machine name arguments with
  | ok machine' => exact Machine.seen_emit host emitted
  | error failure =>
      obtain ⟨machine', fault⟩ := failure
      obtain ⟨_, raised, _⟩ | ⟨result, library', _, _, answer, _, seen⟩ :=
        Machine.seen_emit_failed host emitted
      · obtain ⟨result?, library', answer⟩ := serves.returns name arguments machine.library known fit
        rw [raised] at answer
        cases answer
      · exact ⟨some result, library', answer, seen⟩

/-- Dispatching a command, also where its result cannot be made known to scripts. -/
theorem Disciplined.dispatch (returns : host.registry.Returns)
    (registered : host.registry.knows host.limits.initCommand)
    (disciplined : Disciplined host bridge library commands machine.seen) (command : Command) :
    Disciplined host bridge library (commands ++ [command])
      (Machine.outcome (Machine.dispatch host machine command)).seen := by
  have seen (machine : Machine σ ρ) {name : String} (known : host.registry.knows name)
      (arguments : Arguments) := @seen_outcome_emit _ _ host _ returns machine _ arguments known trivial
  cases Machine.dispatches host machine command with
  | refused refused => exact absurd refused returns.not_refused
  | unknown unknown outcome =>
      rw [outcome, Machine.outcome, Machine.seen_noting]
      refine disciplined.recognizing host fun known => ?_
      rw [Registry.knows_eq_true_iff.mp known] at unknown
      cases unknown
  | @opening middle known fresh other _ opened outcome =>
      obtain ⟨first?, library', answer, seenMiddle⟩ := Machine.seen_emit host opened
      obtain ⟨result?, library'', answer', seenLast⟩ := seen middle known command.arguments
      have noArguments : (openingCall host.limits command).2 = [] := if_neg other
      have begun := disciplined.opening host fresh known registered (noArguments ▸ answer)
      rw [noArguments, ← seenMiddle] at begun
      have started : middle.seen.dispatched ≠ 0 := by
        rw [seenMiddle]
        exact Nat.succ_ne_zero _
      rw [← outcome, seenLast]
      exact begun.returned host started known other answer'
  | unopened known fresh other _ failed outcome =>
      obtain ⟨result?, library', answer, seenFirst⟩ := seen machine registered []
      have noArguments : (openingCall host.limits command).2 = [] := if_neg other
      have begun := disciplined.opening host fresh known registered (noArguments ▸ answer)
      rw [outcome, ← failed, seenFirst]
      rwa [noArguments] at begun
  | first known fresh itself outcome =>
      have same := itself registered
      obtain ⟨result?, library', answer, seenLast⟩ := seen machine known command.arguments
      have itsArguments : (openingCall host.limits command).2 = command.arguments := if_pos same
      rw [← outcome, seenLast, same, ← itsArguments]
      exact disciplined.opening host fresh known registered (by rwa [itsArguments, ← same])
  | repeated known started outcome =>
      rw [outcome, Machine.outcome, Machine.seen_noting]
      exact disciplined.recognizing host fun _ => started
  | later known started other outcome =>
      have recognized : Disciplined host bridge library (commands ++ [command]) machine.seen :=
        disciplined.recognizing host fun _ => started
      obtain ⟨result?, library', answer, seenLast⟩ := seen machine known command.arguments
      rw [← outcome, seenLast]
      exact recognized.returned host started known other answer

/-- Every value can be made known to scripts. -/
def Bridge.Binds (bridge : Bridge σ) : Prop :=
  ∀ name datum state, bridge.bindFault name datum state = none

/-- A call of a known command with arguments that fit returns. -/
theorem exists_emit (binds : host.bridge.Binds) (serves : host.registry.Serves fits)
    (machine : Machine σ ρ) {name : String} {arguments : Arguments} (known : host.registry.knows name)
    (fit : fits name arguments) : ∃ machine', Machine.emit host machine name arguments = .ok machine' := by
  cases emitted : Machine.emit host machine name arguments with
  | ok machine' => exact ⟨machine', rfl⟩
  | error failure =>
      obtain ⟨machine', fault⟩ := failure
      obtain ⟨_, raised, _⟩ | ⟨_, _, _, _, _, refused, _⟩ := Machine.seen_emit_failed host emitted
      · obtain ⟨result?, library', answer⟩ := serves.returns name arguments machine.library known fit
        rw [raised] at answer
        cases answer
      · rw [binds] at refused
        cases refused

/-- Dispatching a command comes to an end, if its arguments fit, and none those of the opening command. -/
theorem exists_dispatch (binds : host.bridge.Binds) (serves : host.registry.Serves fits)
    (opens : fits host.limits.initCommand []) (machine : Machine σ ρ) {command : Command}
    (fit : fits command.name command.arguments) :
    ∃ machine', Machine.dispatch host machine command = .ok machine' := by
  have dispatches := Machine.dispatches host machine command
  generalize Machine.dispatch host machine command = outcome at dispatches
  cases dispatches with
  | refused refused => exact absurd refused serves.not_refused
  | unknown _ outcome | repeated _ _ outcome => exact ⟨_, outcome⟩
  | @opening middle known _ _ _ _ outcome =>
      rw [← outcome]
      exact exists_emit host binds serves middle known fit
  | unopened _ _ _ registered failed _ =>
      obtain ⟨middle, opened⟩ := exists_emit host binds serves machine registered opens
      rw [failed] at opened
      cases opened
  | first known _ _ outcome | later known _ _ outcome =>
      rw [← outcome]
      exact exists_emit host binds serves machine known fit

/-! ## Runs -/

namespace Machine

/-- The command that is recognised by the next move, if one is: the region is resolved, and it is not
empty and invokes no block. -/
def recognized? (machine : Machine σ ρ) : Option Command :=
  match machine.frames with
  | [] => none
  | frame :: _ =>
    if frame.isResolved ∧ frame.live ≠ [] ∧ invokedBlock? frame.live = none then
      (recognize host machine.state.previous frame.command).toOption.join
    else none

/-- The commands that are recognised in a run of so many moves, in their order. -/
def recognized : Nat → Machine σ ρ → List Command
  | 0, _ => []
  | fuel + 1, machine =>
    (recognized? host machine).toList ++
      match step host machine with
      | .next machine => recognized fuel machine
      | _ => []

variable {frame : Frame} {outer : List Frame} {move : Move σ ρ}

theorem recognized?_of_unresolved (frames : machine.frames = frame :: outer)
    (unresolved : frame.isResolved = false) : recognized? host machine = none := by
  simp [recognized?, frames, unresolved]

theorem recognized?_of_recognize (frames : machine.frames = frame :: outer)
    (resolved : frame.isResolved) (nonempty : frame.live ≠ [])
    (uninvoked : invokedBlock? frame.live = none) :
    recognized? host machine =
      (recognize host machine.state.previous frame.command).toOption.join := by
  simp [recognized?, frames, resolved, nonempty, uninvoked]

theorem recognized_of_nil (frames : machine.frames = []) (fuel : Nat) :
    recognized host fuel machine = [] := by
  cases fuel with
  | zero => rfl
  | succ fuel =>
      rw [recognized, recognized?, frames, step_of_nil host frames]
      rfl

end Machine

/-- Whether the outcome is a fault. -/
def Move.hasFailed : Move σ ρ → Bool
  | .failed _ _ _ => true
  | _ => false

/-- What can be seen of the outcome of a move is in order. A script that has failed may leave its
bridge in any state. -/
def Move.Disciplined (bridge : σ) (library : ρ) (commands : List Command) (move : Move σ ρ) : Prop :=
  ∃ bridge', (move.hasFailed = false → bridge' = move.machine.bridge) ∧
    Expansion.Disciplined host bridge library commands { move.machine.seen with bridge := bridge' }

theorem Disciplined.move {move : Move σ ρ}
    (disciplined : Disciplined host bridge library commands move.machine.seen) :
    move.Disciplined host bridge library commands :=
  ⟨move.machine.bridge, fun _ => rfl, disciplined⟩

/-- A fault is not seen, and the bridge may be left in any state by it. -/
theorem Disciplined.fail (disciplined : Disciplined host bridge library commands machine.seen)
    (left : σ) (fault : Fault) :
    (Machine.fail { machine with bridge := left } fault).Disciplined host bridge library commands :=
  ⟨machine.bridge, nofun, disciplined⟩

theorem Disciplined.heard (disciplined : Disciplined host bridge library commands machine.seen)
    {code output : String} {bridge' : σ}
    (answer : host.bridge.evaluate code machine.bridge = (.ok output, bridge')) :
    Disciplined host bridge library commands (machine.heard code output bridge').seen := by
  have course := disciplined.course.evaluated answer
  have calls := Seen.calls_heard machine.seen code output bridge'
  rw [Machine.seen_heard]
  refine ⟨?_, course.knows, ?_, course⟩
  · rw [calls]
    exact disciplined.opened
  · rw [calls]
    exact disciplined.counted

/-- Every move keeps the order. -/
theorem Disciplined.step (returns : host.registry.Returns)
    (registered : host.registry.knows host.limits.initCommand)
    (disciplined : Disciplined host bridge library commands machine.seen) :
    (Machine.step host machine).Disciplined host bridge library
      (commands ++ (machine.recognized? host).toList) := by
  rcases frames : machine.frames with _ | ⟨frame, outer⟩
  · have none : machine.recognized? host = none := by rw [Machine.recognized?, frames]
    rw [Machine.step_of_nil host frames, none, Option.toList_none, List.append_nil]
    exact disciplined.move host
  · have moves := Machine.moves_step host frames
    generalize Machine.step host machine = move at moves
    -- In all cases but one, no command is recognised.
    have silent (none : machine.recognized? host = none)
        (kept : move.Disciplined host bridge library commands) :
        move.Disciplined host bridge library (commands ++ (machine.recognized? host).toList) := by
      rwa [none, Option.toList_none, List.append_nil]
    have unresolved := Machine.recognized?_of_unresolved host frames
    cases moves with
    | pass passes =>
        exact silent (unresolved passes.isResolved) (disciplined.move host)
    | hear hears answer =>
        exact silent (unresolved hears.isResolved) ((disciplined.heard host answer).move host)
    | @refuse _ fault bridge' busy answer =>
        exact silent (unresolved busy) (disciplined.fail host bridge' fault)
    | splice task ahead script answer =>
        have inside := Frame.isResolved_of_cons ahead (by simp [Token.isBoundary, script])
        refine silent (unresolved inside) (Disciplined.move host ?_)
        simpa [Move.machine] using disciplined.heard host answer
    | define task noRegion ahead text =>
        have inside := Frame.isResolved_of_cons ahead (by simp [Token.isBoundary, text])
        refine silent (unresolved inside) (Disciplined.move host ?_)
        rwa [Machine.seen_define]
    | iterate task allowed answer =>
        have busy : frame.isResolved = false := Frame.isResolved_of_ne (by simp [task])
        refine silent (unresolved busy) (Disciplined.move host ?_)
        simpa [Move.machine] using disciplined.heard host answer
    | leave resolved empty | finish resolved empty =>
        exact silent (by simp [Machine.recognized?, frames, empty]) (disciplined.move host)
    | invoke resolved invoked =>
        refine silent (by simp [Machine.recognized?, frames, invoked]) (Disciplined.move host ?_)
        simpa [Move.machine] using disciplined
    | invokeUnknown resolved invoked =>
        exact silent (by simp [Machine.recognized?, frames, invoked]) (disciplined.move host)
    | dismiss resolved nonempty uninvoked read =>
        have read' := Machine.recognized?_of_recognize host frames resolved nonempty uninvoked
        exact silent (by rw [read', read]; rfl) (disciplined.move host)
    | @misread fault resolved nonempty uninvoked read =>
        have read' := Machine.recognized?_of_recognize host frames resolved nonempty uninvoked
        exact silent (by rw [read', read]; rfl) (disciplined.fail host machine.bridge fault)
    | @perform command machine' resolved nonempty uninvoked read dispatched =>
        have recalled : Disciplined host bridge library commands (machine.recalling command).seen :=
          ⟨disciplined.opened, disciplined.known, disciplined.counted, disciplined.course⟩
        have seen := recalled.dispatch host returns registered command
        rw [dispatched] at seen
        rw [Machine.recognized?_of_recognize host frames resolved nonempty uninvoked, read]
        exact Disciplined.move host seen
    | @abort command machine' fault resolved nonempty uninvoked read failed =>
        have recalled : Disciplined host bridge library commands (machine.recalling command).seen :=
          ⟨disciplined.opened, disciplined.known, disciplined.counted, disciplined.course⟩
        have seen : Disciplined host bridge library (commands ++ [command])
            (Machine.outcome (.error (machine', fault))).seen :=
          failed ▸ recalled.dispatch host returns registered command
        rw [Machine.recognized?_of_recognize host frames resolved nonempty uninvoked, read]
        exact seen.fail host machine'.bridge fault

/-- Every run keeps the order. -/
theorem Disciplined.run (returns : host.registry.Returns)
    (registered : host.registry.knows host.limits.initCommand) (fuel : Nat)
    (disciplined : Disciplined host bridge library commands machine.seen) :
    (Machine.run host fuel machine).Disciplined host bridge library
      (commands ++ machine.recognized host fuel) := by
  induction fuel generalizing commands machine with
  | zero =>
      rw [Machine.recognized, List.append_nil]
      exact disciplined.move host
  | succ fuel ih =>
      have stepped := disciplined.step host returns registered
      rw [Machine.run, Machine.recognized, ← List.append_assoc]
      cases moved : Machine.step host machine with
      | next machine' =>
          rw [moved] at stepped
          obtain ⟨_, atOnce, kept⟩ := stepped
          rw [atOnce rfl] at kept
          exact ih kept
      | finished machine' tokens | failed machine' tokens fault =>
          rw [moved] at stepped
          simpa using stepped

/-- Over the whole of a document, whatever its scripts answer and its blocks and loops do: the calls are
those that the recognised commands ask for, with the opening command before them. -/
theorem process_disciplined (returns : host.registry.Returns)
    (registered : host.registry.knows host.limits.initCommand) (bridge : σ) (library : ρ)
    (source : String) (fuel : Nat) :
    let start : Machine σ ρ := ⟨{}, bridge, library, []⟩
    let tokens := Token.tokenize source
    (Machine.process host fuel start tokens).Disciplined host bridge library
      ((Machine.enter host start tokens).recognized host fuel) := by
  intro start tokens
  have fresh : Disciplined host bridge library [] start.seen :=
    ⟨.inl ⟨by simp, rfl⟩, by simp [Seen.calls, Machine.seen, start, State.events], rfl, .start⟩
  rw [← Machine.seen_enter host start tokens] at fresh
  unfold Machine.process
  simp only
  split
  · rename_i forbidden
    rw [Machine.recognized_of_nil host (List.isEmpty_iff.mp forbidden)]
    exact fresh.move host
  · exact fresh.run host returns registered fuel

/-- The first command comes out of a script, the opening command comes late, and one is unknown. -/
theorem process_disciplined_of_script :
    let host : Host Nat Unit :=
      { bridge := { evaluate := fun code count => (.ok code, count + 1), bind := fun _ _ count => count }
        registry := ⟨fun name => .ok (name == "init" || name == "point"), fun _ => .ok [],
          fun name _ _ => (.ok (some { command := name }), ())⟩ }
    let start : Machine Nat Unit := ⟨{}, 0, (), []⟩
    let tokens := Token.tokenize "\x7bpoint\x7d;init a;grid;point"
    let ended := Machine.process host 20 start tokens
    host.registry.Returns ∧ host.registry.knows host.limits.initCommand ∧
      ended.isOver ∧ ended.machine.seen.calls = [("init", []), ("point", []), ("point", [])] ∧
      ended.Disciplined host 0 () ((Machine.enter host start tokens).recognized host 20) := by
  intro host start tokens ended
  have returns : host.registry.Returns :=
    ⟨fun name => ⟨_, rfl⟩, fun name _ _ _ _ => ⟨some { command := name }, (), rfl⟩⟩
  have registered : host.registry.knows host.limits.initCommand := by decide
  exact ⟨returns, registered, by decide +kernel, by decide +kernel,
    process_disciplined host returns registered 0 () "\x7bpoint\x7d;init a;grid;point" 20⟩

end Linework.Expansion
