import Linework.Expansion.Stack
import Linework.Proofs.Expansion.Budgets
import Linework.Proofs.Expansion.Strict

/-!
# Room on the stack

A run on a stack is the run without one for as long as its open calls fit on the stack, and ends by a fault
where they no longer do. The bound on nesting bounds the calls that are open. So on a stack with room for that
many, nothing is raised that the collaborators do not raise; and on a smaller one, a block that invokes itself
raises the fault of the stack, which the bound on nesting was to keep it from.
-/

namespace Linework.Expansion

namespace Machine

variable {σ ρ : Type} (host : Host σ ρ) {machine machine' : Machine σ ρ} {stack fuel : Nat}

/-! ## Runs of the machine -/

/-- A run comes to have more calls open than fit on the stack, before it has made so many moves. -/
def Overflows (stack fuel : Nat) (machine : Machine σ ρ) : Prop :=
  ∃ made < fuel, ∃ deep, run host made machine = .next deep ∧ stack < deep.calls

theorem runOn_eq_run (fits : ¬Overflows host stack fuel machine) :
    runOn host stack fuel machine = run host fuel machine := by
  induction fuel generalizing machine with
  | zero => rfl
  | succ fuel ih =>
      have here : machine.calls ≤ stack := by
        by_contra exceeds
        exact fits ⟨0, Nat.succ_pos fuel, machine, rfl, not_le.mp exceeds⟩
      rw [runOn, run, if_pos here]
      cases moved : step host machine with
      | next machine' =>
          apply ih
          rintro ⟨made, soon, deep, reached, exceeds⟩
          rw [← run_succ host moved] at reached
          exact fits ⟨made + 1, Nat.succ_lt_succ soon, deep, reached, exceeds⟩
      | finished | failed => rfl

theorem runOn_of_overflows (overflows : Overflows host stack fuel machine) :
    ∃ deep : Machine σ ρ, stack < deep.calls ∧
      runOn host stack fuel machine = deep.fail .stackOverflow := by
  induction fuel generalizing machine with
  | zero =>
      obtain ⟨_, soon, _⟩ := overflows
      exact absurd soon (Nat.not_lt_zero _)
  | succ fuel ih =>
      by_cases here : machine.calls ≤ stack
      · obtain ⟨_ | made, soon, deep, reached, exceeds⟩ := overflows
        · cases reached
          exact absurd here (not_le.mpr exceeds)
        · cases moved : step host machine with
          | next machine' =>
              rw [run_succ host moved] at reached
              rw [runOn, if_pos here, moved]
              exact ih ⟨made, Nat.lt_of_succ_lt_succ soon, deep, reached, exceeds⟩
          | finished | failed =>
              rw [run, moved] at reached
              cases reached
      · exact ⟨machine, not_le.mp here, by rw [runOn, if_neg here]⟩

/-! ## The calls that are open -/

/-- No more sequences are under way than the depth counts, and than may be. -/
structure Nested (machine : Machine σ ρ) : Prop where
  counted : machine.frames.length ≤ machine.state.depth
  bounded : (machine.frames.length : Int) ≤ max host.limits.nesting 0

variable {host}

theorem Nested.of_still (nested : Nested host machine) (still : Still machine machine') :
    Nested host machine' := by
  obtain ⟨counted, bounded⟩ := nested
  constructor
  · rwa [still.frames, still.depth]
  · rwa [still.frames]

theorem Nested.enter (nested : Nested host machine) (tokens : List Token) :
    Nested host (enter host machine tokens) := by
  obtain ⟨counted, bounded⟩ := nested
  have entered := enters host machine tokens
  generalize Machine.enter host machine tokens = next at entered
  cases entered with
  | skipped remark => exact ⟨counted, bounded⟩
  | outermost nests none | inner nests _ _ =>
      constructor
      · simp only [List.length_cons]
        omega
      · simp only [List.length_cons, Int.natCast_succ]
        omega

theorem Nested.turn (nested : Nested host machine) (turn : Turn host machine machine') :
    Nested host machine' := by
  cases turn with
  | stays still => exact nested.of_still still
  | begins calls => exact (nested.of_still calls.still).enter _
  | @leaves _ outer frames =>
      obtain ⟨counted, bounded⟩ := nested
      rw [frames, List.length_cons] at counted bounded
      constructor
      · simp only [leaving]
        omega
      · simp only [leaving]
        omega

variable (host)

theorem Nested.run {made : Nat} (nested : Nested host machine)
    (reached : run host made machine = .next machine') : Nested host machine' :=
  run_keeps host (fun nested moved => nested.turn (turn_of_step host nested.counted moved)) nested reached

theorem nested_of_nil (none : machine.frames = []) : Nested host machine := by
  constructor <;> simp [none]

/-- The calls that are open within the bound on nesting. -/
theorem Nested.calls_le (nested : Nested host machine) :
    (machine.calls : Int) ≤ callsPerSequence * max host.limits.nesting 0 := by
  rw [calls, Int.natCast_mul]
  exact Int.mul_le_mul_of_nonneg_left nested.bounded (Int.natCast_nonneg _)

/-- What overflows a stack is more than the bound on nesting lets it have room for. -/
theorem stack_lt_of_calls {calls : Nat} (bounded : (calls : Int) ≤ callsPerSequence * max host.limits.nesting 0)
    (exceeds : stack < calls) : (stack : Int) < callsPerSequence * host.limits.nesting := by
  unfold callsPerSequence at bounded ⊢
  omega

theorem Nested.stack_lt (nested : Nested host machine) (overflows : Overflows host stack fuel machine) :
    (stack : Int) < callsPerSequence * host.limits.nesting := by
  obtain ⟨made, _, deep, reached, exceeds⟩ := overflows
  exact stack_lt_of_calls host ((nested.run host reached).calls_le host) exceeds

/-- On a stack that has room for all the sequences that may be under way, processing is as without one. -/
theorem processOn_eq_process (roomy : callsPerSequence * host.limits.nesting ≤ stack)
    (none : machine.frames = []) (tokens : List Token) :
    processOn host stack fuel machine tokens = process host fuel machine tokens := by
  have nested := (nested_of_nil host none).enter tokens
  have fits : ¬Overflows host stack fuel (enter host machine tokens) :=
    fun overflows => absurd (nested.stack_lt host overflows) (not_lt.mpr roomy)
  unfold processOn process
  simp only [runOn_eq_run host fits]

/-! ## A block that invokes itself -/

/-- A document that defines a block which does nothing but invoke itself, and invokes it. -/
def selfInvocation : String := "_m @m;;@m;"

theorem tokenize_selfInvocation : Token.tokenize selfInvocation =
    [⟨.text, "_m @m"⟩, ⟨.boundary, ";;"⟩, ⟨.text, "@m"⟩, ⟨.boundary, ";"⟩] := by
  decide +kernel

/-- The block is about to be invoked, inside of so many invocations of it. -/
structure Descended (level : Nat) (machine : Machine σ ρ) : Prop where
  frames : ∃ done separator outer, machine.frames =
    ⟨done, [], [⟨.text, "@m"⟩, ⟨.boundary, separator⟩], .resolve⟩ :: outer ∧ outer.length = level
  block : machine.state.blocks.get? "m" = some [⟨.text, "@m"⟩, ⟨.boundary, ""⟩]
  depth : machine.state.depth = level + 1
  expansions : machine.state.expansions = level

theorem Descended.calls_eq {level : Nat} (descended : Descended level machine) :
    machine.calls = callsPerSequence * (level + 1) := by
  obtain ⟨done, separator, outer, frames, length⟩ := descended.frames
  rw [calls, frames, List.length_cons, length]

/-- It takes two moves to invoke it once more. -/
theorem Descended.invoke {level : Nat} (descended : Descended level machine)
    (nests : (level + 1 : Int) < host.limits.nesting) (expands : (level : Int) < host.limits.expansions) :
    ∃ machine', run host 2 machine = .next machine' ∧ Descended (level + 1) machine' := by
  obtain ⟨done, separator, outer, frames, length⟩ := descended.frames
  obtain ⟨state, bridge, library, _⟩ := machine
  obtain rfl : _ = _ := frames
  obtain ⟨_, block, depth, expansions⟩ := descended
  have noDefinition : definition? "@m" = none := by decide +kernel
  have noLoop : isLoopWord "@m" = false := by decide +kernel
  have invokes : invocation? "@m" = some "m" := by decide +kernel
  have notDeep : ¬host.limits.nesting ≤ state.depth := by
    rw [depth]
    omega
  have allowed : ¬host.limits.expansions ≤ state.expansions := by
    rw [expansions]
    omega
  have inside : state.depth ≠ 0 := by
    rw [depth]
    exact Nat.succ_ne_zero level
  refine ⟨⟨{ state.note (.invoking "m") with
      depth := state.depth + 1
      expansions := state.expansions + 1 }, bridge, library,
    { ahead := [⟨.text, "@m"⟩, ⟨.boundary, ""⟩] } ::
      ⟨⟨.boundary, separator⟩ :: ⟨.text, "@m"⟩ :: done, [], [], .resolve⟩ :: outer⟩, ?_, ?_⟩
  · simp [run, step, resolve, finishRegion, Frame.live, Frame.advance, Frame.skip, invokedBlock?,
      Token.isBoundary, enter, noDefinition, noLoop, invokes, block, notDeep, allowed, inside, State.note,
      State.record]
  · exact ⟨⟨[], "", _, rfl, by rw [List.length_cons, length]⟩, block, by rw [depth], by rw [expansions]⟩

/-- So many invocations of it are reached, where the limits allow for them. -/
theorem exists_descended (bridge : σ) (library : ρ) (level : Nat)
    (nests : (level : Int) < host.limits.nesting) (expands : (level : Int) ≤ host.limits.expansions) :
    ∃ deep, run host (1 + 2 * level)
      (enter host ⟨{}, bridge, library, []⟩ (Token.tokenize selfInvocation)) = .next deep ∧
        Descended level deep := by
  induction level with
  | zero =>
      have defines : definition? "_m @m" = some ("m", "@m") := by decide +kernel
      have body : closeBody [⟨.text, "@m"⟩] = [⟨.text, "@m"⟩, ⟨.boundary, ""⟩] := by decide +kernel
      have ended : endsBlock ⟨.boundary, ";;"⟩ = true := by decide +kernel
      have erased : Focus.erase 2 ⟨[], Token.tokenize selfInvocation⟩ =
          ⟨[], [⟨.text, "@m"⟩, ⟨.boundary, ";"⟩]⟩ := by
        rw [tokenize_selfInvocation]
        rfl
      have shallow : ¬host.limits.nesting ≤ 0 := not_le.mpr nests
      rw [tokenize_selfInvocation] at erased ⊢
      refine ⟨⟨{ ({} : State) with
          blocks := Assoc.put [] "m" [⟨.text, "@m"⟩, ⟨.boundary, ""⟩]
          log := #[.noted (.defined "m" [⟨.text, "@m"⟩, ⟨.boundary, ""⟩])]
          depth := 1 }, bridge, library,
        [⟨[], [], [⟨.text, "@m"⟩, ⟨.boundary, ";"⟩], .resolve⟩]⟩, ?_, ?_⟩
      · simp [run, step, resolve, enter, shallow, define, defines, blockBody, ended, body, Frame.edit, erased,
          State.note, State.record]
      · exact ⟨⟨[], ";", [], rfl, rfl⟩, rfl, rfl, rfl⟩
  | succ level ih =>
      obtain ⟨deep, reached, descended⟩ := ih (by omega) (by omega)
      obtain ⟨deeper, invoked, descended'⟩ := descended.invoke host (by omega) (by omega)
      refine ⟨deeper, ?_, descended'⟩
      rw [Nat.mul_succ, ← Nat.add_assoc, run_add host reached, invoked]

/-- On every stack that has no room for the sequences that the limits allow to be under way, this document
ends by a fault. -/
theorem processOn_selfInvocation (bridge : σ) (library : ρ)
    (nests : (stack : Int) < callsPerSequence * host.limits.nesting)
    (expands : (stack : Int) < callsPerSequence * (host.limits.expansions + 1))
    (enough : stack + 1 < fuel) :
    ∃ ended tokens, processOn host stack fuel ⟨{}, bridge, library, []⟩ (Token.tokenize selfInvocation) =
      .failed ended tokens .stackOverflow := by
  have levels : callsPerSequence * (stack / callsPerSequence) ≤ stack := Nat.mul_div_le _ _
  have beyond : stack < callsPerSequence * (stack / callsPerSequence + 1) :=
    Nat.lt_mul_div_succ stack (by decide)
  generalize stack / callsPerSequence = level at levels beyond
  have nested : (level : Int) < host.limits.nesting ∧ (level : Int) ≤ host.limits.expansions := by
    unfold callsPerSequence at nests expands levels
    omega
  have soon : 1 + 2 * level < fuel := by
    unfold callsPerSequence at levels
    omega
  obtain ⟨deep, reached, descended⟩ := exists_descended host bridge library level nested.1 nested.2
  have overflows : Overflows host stack fuel
      (enter host ⟨{}, bridge, library, []⟩ (Token.tokenize selfInvocation)) :=
    ⟨1 + 2 * level, soon, deep, reached, descended.calls_eq ▸ beyond⟩
  obtain ⟨last, _, failed⟩ := runOn_of_overflows host overflows
  have begun : (enter host ⟨{}, bridge, library, []⟩
      (Token.tokenize selfInvocation)).frames.isEmpty = false := by
    have shallow : ¬host.limits.nesting ≤ 0 := by omega
    simp [enter, shallow]
  unfold processOn
  simp only [begun]
  exact ⟨_, _, failed⟩

/-- Collaborators that give back what they are asked for, a bound on nesting of a thousand, and a stack of
as many calls as are commonly allowed for: the document ends by a fault all the same. -/
theorem processOn_selfInvocation_of_thousand :
    let host : Host Unit Unit :=
      { bridge := { evaluate := fun code _ => (.ok code, ()), bind := fun _ _ _ => () }
        registry := ⟨fun _ => .ok false, fun _ => .ok [], fun _ _ _ => (.ok none, ())⟩
        limits := { nesting := 1000 } }
    host.Reliable ∧ ∃ ended tokens,
      processOn host 1000 1002 ⟨{}, (), (), []⟩ (Token.tokenize selfInvocation) =
        .failed ended tokens .stackOverflow := by
  intro host
  have reliable : host.Reliable :=
    ⟨fun code _ => ⟨code, (), rfl⟩, fun _ _ _ => rfl, fun _ _ => ⟨[], rfl⟩,
      ⟨fun _ => ⟨_, rfl⟩, fun _ _ _ _ _ => ⟨none, (), rfl⟩⟩⟩
  exact ⟨reliable, processOn_selfInvocation host () () (by decide) (by decide) (by decide)⟩

end Machine

/-! ## Runs of the walk -/

namespace Walk

variable {σ ρ : Type} (host : Host σ ρ) {walk : Walk σ ρ} {machine : Machine σ ρ} {stack fuel : Nat}

/-- A run comes to have more calls open than fit on the stack, before it has made so many moves. -/
def Overflows (stack fuel : Nat) (walk : Walk σ ρ) : Prop :=
  ∃ made < fuel, ∃ deep, run host made walk = .next deep ∧ stack < deep.calls

theorem runOn_eq_run (fits : ¬Overflows host stack fuel walk) :
    runOn host stack fuel walk = run host fuel walk := by
  induction fuel generalizing walk with
  | zero => rfl
  | succ fuel ih =>
      have here : walk.calls ≤ stack := by
        by_contra exceeds
        exact fits ⟨0, Nat.succ_pos fuel, walk, rfl, not_le.mp exceeds⟩
      rw [runOn, run, if_pos here]
      cases moved : step host walk with
      | next walk' =>
          apply ih
          rintro ⟨made, soon, deep, reached, exceeds⟩
          have reached' : run host (made + 1) walk = .next deep := by rwa [run, moved]
          exact fits ⟨made + 1, Nat.succ_lt_succ soon, deep, reached', exceeds⟩
      | finished | failed => rfl

theorem runOn_of_overflows (overflows : Overflows host stack fuel walk) :
    ∃ deep : Walk σ ρ, stack < deep.calls ∧ runOn host stack fuel walk = deep.fail .stackOverflow := by
  induction fuel generalizing walk with
  | zero =>
      obtain ⟨_, soon, _⟩ := overflows
      exact absurd soon (Nat.not_lt_zero _)
  | succ fuel ih =>
      by_cases here : walk.calls ≤ stack
      · obtain ⟨_ | made, soon, deep, reached, exceeds⟩ := overflows
        · cases reached
          exact absurd here (not_le.mpr exceeds)
        · cases moved : step host walk with
          | next walk' =>
              rw [run, moved] at reached
              rw [runOn, if_pos here, moved]
              exact ih ⟨made, Nat.lt_of_succ_lt_succ soon, deep, reached, exceeds⟩
          | finished | failed =>
              rw [run, moved] at reached
              cases reached
      · exact ⟨walk, not_le.mp here, by rw [runOn, if_neg here]⟩

/-- No move of a run on a stack slips. -/
theorem Shows.strict_runOn (fuel : Nat) (shows : walk.Shows machine) :
    Strict.runOn host stack fuel walk = .ok (runOn host stack fuel walk) := by
  induction fuel generalizing walk machine with
  | zero => rfl
  | succ fuel ih =>
      rw [Strict.runOn, runOn]
      split
      · rw [shows.strict_step host]
        cases moved : Walk.step host walk with
        | next walk' =>
            obtain ⟨machine', shows'⟩ := shows.next host moved
            exact ih shows'
        | finished | failed => rfl
      · rfl

theorem Shows.calls_eq (shows : walk.Shows machine) : walk.calls = machine.calls := by
  rw [calls, Machine.calls, shows.frames.length_eq]

/-- What overflows a stack is more than the bound on nesting lets it have room for. -/
theorem Shows.stack_lt (shows : walk.Shows machine) (nested : machine.Nested host)
    (overflows : Overflows host stack fuel walk) :
    (stack : Int) < callsPerSequence * host.limits.nesting := by
  obtain ⟨made, _, deep, reached, exceeds⟩ := overflows
  obtain ⟨made', _, shown⟩ := shows.run host made
  rw [reached] at shown
  cases reached' : Machine.run host made' machine with
  | next deep' =>
      rw [reached'] at shown
      cases shown with
      | next shows' =>
          rw [shows'.calls_eq] at exceeds
          exact Machine.stack_lt_of_calls host ((nested.run host reached').calls_le host) exceeds
  | finished | failed =>
      rw [reached'] at shown
      cases shown

/-- Whether the outcome of a move of the walk is a fault. -/
def Move.hasFailed : Move σ ρ → Bool
  | .failed _ _ _ => true
  | _ => false

theorem Shows.hasFailed_run (reliable : host.Reliable) (shows : walk.Shows machine) (fuel : Nat) :
    (Walk.run host fuel walk).hasFailed = false := by
  obtain ⟨moves', _, shown⟩ := shows.run host fuel
  have sound := Machine.hasFailed_run host reliable moves' machine
  generalize Machine.run host moves' machine = move at shown sound
  generalize Walk.run host fuel walk = move' at shown
  cases shown with
  | next | finished => rfl
  | failed => cases sound

/-- From any state, over any tokens and within any limits: with collaborators that give back what they are
asked for, nothing that is taken for granted is missing, and a run does not end by a fault where its open
calls fit on the stack. Where they do not, it ends by the fault of the stack, and the stack has no room for
the sequences that the bound on nesting allows to be under way. -/
theorem runOn_safe (reliable : host.Reliable) (state : State) (bridge : σ) (library : ρ)
    (tokens : List Token) (stack fuel : Nat) :
    let walk := enter host ⟨state.appended, bridge, library, []⟩ tokens
    Strict.runOn host stack fuel walk = .ok (runOn host stack fuel walk) ∧
      (¬Overflows host stack fuel walk →
        runOn host stack fuel walk = run host fuel walk ∧ (run host fuel walk).hasFailed = false) ∧
      (Overflows host stack fuel walk →
        (∃ ended document, runOn host stack fuel walk = .failed ended document .stackOverflow) ∧
          stack < callsPerSequence * host.limits.nesting) := by
  intro walk
  have start : Shows (⟨state.appended, bridge, library, []⟩ : Walk σ ρ)
      ⟨state.appended, bridge, library, []⟩ :=
    ⟨rfl, rfl, rfl, .nil, state.fused_appended⟩
  have entered := start.enter host tokens
  have outside : Machine.Nested host ⟨state.appended, bridge, library, []⟩ := Machine.nested_of_nil host rfl
  refine ⟨entered.strict_runOn host fuel, fun fits => ?_, fun overflows => ⟨?_, ?_⟩⟩
  · exact ⟨runOn_eq_run host fits, entered.hasFailed_run host reliable fuel⟩
  · obtain ⟨deep, _, failed⟩ := runOn_of_overflows host overflows
    exact ⟨_, _, failed⟩
  · exact entered.stack_lt host (outside.enter (Token.fused tokens)) overflows

/-- A stray piece of a group, a loop with its scripts apart, a block that ends inside of a definition and
a repetition with nothing before it: with room for what the standard limits allow, and with hardly any. -/
theorem runOn_safe_of_stray_pieces :
    let host : Host Nat Unit :=
      { bridge := { evaluate := fun code count => (.ok code, count + 1), bind := fun _ _ count => count }
        registry :=
          ⟨fun name => .ok (name == "grid"), fun _ => .ok [("x", -1)], fun _ _ _ => (.ok none, ())⟩ }
    let state : State := { blocks := [("b", [⟨.text, "_c"⟩, ⟨.text, " grid"⟩])] }
    let tokens : List Token :=
      [⟨.groupScript, "g"⟩, ⟨.boundary, ";"⟩, ⟨.text, ".for"⟩, ⟨.script, "i"⟩, ⟨.text, " "⟩,
        ⟨.script, "true"⟩, ⟨.script, "s"⟩, ⟨.boundary, ""⟩, ⟨.text, ". x"⟩, ⟨.boundary, ";;"⟩,
        ⟨.text, "@b"⟩, ⟨.boundary, "\n"⟩, ⟨.group, "("⟩]
    let walk := enter host ⟨state.appended, 0, (), []⟩ tokens
    host.Reliable ∧
      (Strict.runOn host 192 50 walk = .ok (runOn host 192 50 walk) ∧
        runOn host 192 50 walk = run host 50 walk ∧ (run host 50 walk).hasFailed = false) ∧
      ∃ ended document, runOn host 2 50 walk = .failed ended document .stackOverflow := by
  intro host state tokens walk
  have reliable : host.Reliable :=
    ⟨fun code count => ⟨code, count + 1, rfl⟩, fun _ _ _ => rfl, fun _ _ => ⟨[("x", -1)], rfl⟩,
      ⟨fun _ => ⟨_, rfl⟩, fun _ _ _ _ _ => ⟨none, (), rfl⟩⟩⟩
  obtain ⟨strict, sound, small⟩ := runOn_safe host reliable state 0 () tokens 192 50
  have fits : ¬Overflows host 192 50 walk := fun overflows => absurd (small overflows).2 (by decide)
  have overflows : Overflows host 2 50 walk := ⟨0, by decide, walk, rfl, by decide +kernel⟩
  exact ⟨reliable, ⟨strict, sound fits⟩,
    ((runOn_safe host reliable state 0 () tokens 2 50).2.2 overflows).1⟩

end Walk

end Linework.Expansion
