import Linework.Proofs.Expansion.Opening
import Linework.Proofs.Expansion.Termination

/-!
# The bounds on nesting and expansion

The depth of a run is the number of sequences under way, and every block or loop body that is begun
counts as an expansion. Both counts stay within their bounds, and whatever way a sequence is left by,
the depth is what it was before the sequence was begun.
-/

namespace Linework.Expansion.Machine

variable {σ ρ : Type} (host : Host σ ρ) {machine machine' : Machine σ ρ} {tokens : List Token}

/-! ## Beginning a sequence -/

/-- What asking for a sequence to be processed comes down to. -/
inductive Enters (machine : Machine σ ρ) (tokens : List Token) : Machine σ ρ → Prop
  | skipped (remark : Note) : Enters machine tokens (machine.noting remark)
  | outermost : (machine.state.depth : Int) < host.limits.nesting → machine.state.depth = 0 →
      Enters machine tokens
        { machine with
          state := { machine.state with depth := 1 }
          frames := { ahead := tokens } :: machine.frames }
  | inner : (machine.state.depth : Int) < host.limits.nesting → machine.state.depth ≠ 0 →
      (machine.state.expansions : Int) < host.limits.expansions →
      Enters machine tokens
        { machine with
          state := { machine.state with
            depth := machine.state.depth + 1
            expansions := machine.state.expansions + 1 }
          frames := { ahead := tokens } :: machine.frames }

theorem enters (machine : Machine σ ρ) (tokens : List Token) :
    Enters host machine tokens (enter host machine tokens) := by
  unfold enter
  simp only
  split
  · exact .skipped .nestingLimit
  · rename_i nests
    split
    · rename_i none
      exact .outermost (not_le.mp nests) none
    · rename_i some
      split
      · exact .skipped .expansionLimit
      · rename_i expands
        exact .inner (not_le.mp nests) some (not_le.mp expands)

/-- A machine asks for a sequence to be processed inside of its innermost one: the machine as it asks,
and the sequence. -/
inductive Calls (machine : Machine σ ρ) : Machine σ ρ → List Token → Prop
  | block {frame : Frame} {outer : List Frame} {name : String} {body : List Token} :
      machine.frames = frame :: outer → frame.isResolved → invokedBlock? frame.live = some name →
      machine.state.blocks.get? name = some body →
      Calls machine ((machine.noting (.invoking name)).withFrames (frame.skip 2 :: outer)) body
  | iteration {frame : Frame} {outer : List Frame} {loop : Loop} {bridge : σ} :
      machine.frames = frame :: outer → frame.task = .testLoop loop →
      ¬host.limits.iterations ≤ loop.iteration →
      host.bridge.evaluate loop.condition machine.bridge = (.ok "true", bridge) →
      Calls machine
        (((machine.heard loop.condition "true" bridge).noting (.iteration loop.iteration)).withFrames
          ({ frame with task := .advanceLoop loop } :: outer)) loop.body

theorem step_of_calls {caller : Machine σ ρ} (calls : Calls host machine caller tokens) :
    step host machine = .next (enter host caller tokens) := by
  cases calls with
  | @block frame outer name body frames resolved invoked known =>
      have task := Frame.task_of_isResolved resolved
      obtain ⟨nonempty, _⟩ := Frame.command_length_of_invokedBlock? invoked
      have finishing : finishRegion host machine frame outer =
          .next (enter host ((machine.noting (.invoking name)).withFrames (frame.skip 2 :: outer))
            tokens) := by
        unfold finishRegion
        rw [if_neg (by simpa using nonempty)]
        simp only [invoked, known]
        rfl
      simp only [step, frames, task]
      unfold resolve
      have separated := resolved
      simp only [Frame.isResolved, task] at separated
      cases ahead : frame.ahead with
      | nil => exact finishing
      | cons token rest =>
          have boundary : token.kind = .boundary := by
            simpa [ahead, Token.isBoundary] using separated
          simp only [boundary]
          exact finishing
  | @iteration frame outer loop bridge frames task allowed answer =>
      simp only [step, frames, task]
      unfold testLoop
      simp only [if_neg allowed, evaluate, answer]
      rfl

/-- The sequences under way and the counts are as they were. -/
structure Still (machine machine' : Machine σ ρ) : Prop where
  frames : machine'.frames.length = machine.frames.length
  depth : machine'.state.depth = machine.state.depth
  expansions : machine'.state.expansions = machine.state.expansions

theorem Calls.still {caller : Machine σ ρ} (calls : Calls host machine caller tokens) :
    Still machine caller := by
  cases calls with
  | block frames | iteration frames => exact ⟨by simp [withFrames, frames], rfl, rfl⟩

/-! ## What a move does to the counts -/

/-- A move begins no sequence and leaves none, or begins the one that is asked for, or leaves the
innermost one. -/
inductive Turn (machine : Machine σ ρ) : Machine σ ρ → Prop
  | stays {machine' : Machine σ ρ} : Still machine machine' → Turn machine machine'
  | begins {caller : Machine σ ρ} {tokens : List Token} : Calls host machine caller tokens →
      (enter host caller tokens).frames.length = machine.frames.length + 1 →
      (enter host caller tokens).state.expansions = machine.state.expansions + 1 →
      Turn machine (enter host caller tokens)
  | leaves {frame : Frame} {outer : List Frame} : machine.frames = frame :: outer → outer ≠ [] →
      Turn machine (machine.leaving outer)

/-- The depth is the number of sequences under way. -/
def Balanced (machine : Machine σ ρ) : Prop :=
  machine.state.depth = machine.frames.length

theorem Turn.of_calls (counted : machine.frames.length ≤ machine.state.depth)
    (inside : machine.frames ≠ []) {caller : Machine σ ρ} (calls : Calls host machine caller tokens) :
    Turn host machine (enter host caller tokens) := by
  have still := calls.still
  have deep : machine.state.depth ≠ 0 := ((List.length_pos_iff.mpr inside).trans_le counted).ne'
  have entered := enters host caller tokens
  generalize move : enter host caller tokens = next at entered
  cases entered with
  | skipped remark =>
      apply Turn.stays
      exact ⟨still.frames, still.depth, still.expansions⟩
  | outermost _ none => exact absurd (still.depth ▸ none) deep
  | inner =>
      rw [← move]
      apply Turn.begins calls
      · rw [move, ← still.frames]
        rfl
      · rw [move, ← still.expansions]

theorem turn_of_step (counted : machine.frames.length ≤ machine.state.depth)
    (moved : step host machine = .next machine') : Turn host machine machine' := by
  rcases frames : machine.frames with _ | ⟨frame, outer⟩
  · rw [step_of_nil host frames] at moved
    cases moved
  · have inside : machine.frames ≠ [] := by simp [frames]
    have moves := moves_step host frames
    rw [moved] at moves
    -- One sequence takes the place of the innermost one.
    have stays {machine' : Machine σ ρ} {frame' : Frame} (frames' : machine'.frames = frame' :: outer)
        (depth : machine'.state.depth = machine.state.depth)
        (expansions : machine'.state.expansions = machine.state.expansions) :
        Turn host machine machine' :=
      .stays ⟨by simp [frames, frames'], depth, expansions⟩
    cases moves with
    | pass | hear | splice | define | invokeUnknown | dismiss => exact stays rfl rfl rfl
    | iterate task allowed answer =>
        exact .of_calls host counted inside (.iteration frames task allowed answer)
    | leave _ _ inner => exact .leaves frames inner
    | invoke resolved invoked known =>
        exact .of_calls host counted inside (.block frames resolved invoked known)
    | perform _ _ _ _ dispatched =>
        have kept := kept_of_dispatch host dispatched
        exact stays rfl kept.depth kept.expansions

/-- How many blocks and loop bodies a run begins: these are its moves by which a sequence comes to be
under way inside of the others. -/
def begun : Nat → Machine σ ρ → Nat
  | 0, _ => 0
  | fuel + 1, machine =>
    match step host machine with
    | .next machine' =>
      (if machine.frames.length < machine'.frames.length then 1 else 0) + begun fuel machine'
    | _ => 0

/-- The counts are within their bounds. -/
structure WithinLimits (machine : Machine σ ρ) : Prop where
  balanced : machine.Balanced
  nesting : (machine.state.depth : Int) ≤ max host.limits.nesting 0
  expansions : (machine.state.expansions : Int) ≤ max host.limits.expansions 0

variable {host}

theorem WithinLimits.of_still (within : WithinLimits host machine) (still : Still machine machine') :
    WithinLimits host machine' := by
  obtain ⟨balanced, nesting, expansions⟩ := within
  constructor
  · rw [Balanced, still.depth, still.frames, balanced]
  · rwa [still.depth]
  · rwa [still.expansions]

theorem WithinLimits.enter (within : WithinLimits host machine) (tokens : List Token) :
    WithinLimits host (enter host machine tokens) := by
  obtain ⟨balanced, nesting, expansions⟩ := within
  have entered := enters host machine tokens
  generalize Machine.enter host machine tokens = next at entered
  cases entered with
  | skipped remark => exact ⟨balanced, nesting, expansions⟩
  | outermost nests none =>
      constructor
      · rw [Balanced, List.length_cons, ← balanced, none]
      · simp only
        omega
      · exact expansions
  | inner nests _ expands =>
      constructor
      · rw [Balanced, List.length_cons, balanced]
      · simp only
        omega
      · simp only
        omega

theorem Turn.within (turn : Turn host machine machine') (within : WithinLimits host machine) :
    WithinLimits host machine' ∧ machine'.state.expansions = machine.state.expansions +
      if machine.frames.length < machine'.frames.length then 1 else 0 := by
  cases turn with
  | stays still =>
      refine ⟨within.of_still still, ?_⟩
      rw [if_neg (by simp [still.frames]), still.expansions, Nat.add_zero]
  | begins calls frames count =>
      refine ⟨(within.of_still calls.still).enter _, ?_⟩
      rw [if_pos (by simp [frames]), count]
  | @leaves _ outer frames =>
      have length : machine.state.depth = _ := within.balanced
      rw [frames, List.length_cons] at length
      have less : (machine.leaving outer).state.depth = machine.state.depth - 1 := rfl
      constructor
      · constructor
        · rw [Balanced, less, length]
          rfl
        · exact (Int.ofNat_le.mpr (Nat.sub_le _ 1)).trans within.nesting
        · exact within.expansions
      · rw [if_neg (by simp [frames, leaving])]
        rfl

/-- In the machine of an ended run, no sequence is under way. -/
theorem WithinLimits.of_isOver (within : WithinLimits host machine) {move : Move σ ρ}
    (moved : step host machine = move) (isOver : move.isOver) :
    move.machine.frames = [] ∧ move.machine.state.depth = 0 ∧
      move.machine.state.expansions = machine.state.expansions := by
  have balanced : machine.state.depth = machine.frames.length := within.balanced
  rcases frames : machine.frames with _ | ⟨frame, outer⟩
  · rw [step_of_nil host frames] at moved
    subst moved
    exact ⟨frames, by simpa [Move.machine, frames] using balanced, rfl⟩
  · have moves := moves_step host frames
    rw [moved] at moves
    cases moves with
    | pass | hear | splice | define | iterate | leave | invoke | invokeUnknown | dismiss | perform =>
        cases isOver
    | finish _ _ last => exact ⟨last, by simp [Move.machine, leaving, balanced, frames, last], rfl⟩
    | refuse | misread => exact ⟨rfl, by simp [Move.machine, fail, balanced], rfl⟩
    | abort _ _ _ _ dispatched =>
        have kept := kept_of_dispatch host dispatched
        have depth := kept.depth
        have others := kept.frames
        simp only [outcome, recalling] at depth others
        exact ⟨rfl, by simp [Move.machine, fail, depth, others, balanced], kept.expansions⟩

variable (host)

/-! ## Runs -/

theorem machine_run_of_nil (none : machine.frames = []) (fuel : Nat) :
    (run host fuel machine).machine = machine := by
  cases fuel with
  | zero => rfl
  | succ fuel =>
      rw [run, step_of_nil host none]
      rfl

/-- What holds along a run: the counts are within their bounds, every sequence begun is counted, and no
sequence is under way any more where the run is over. -/
theorem WithinLimits.run (within : WithinLimits host machine) (fuel : Nat) :
    WithinLimits host (run host fuel machine).machine ∧
      (run host fuel machine).machine.state.expansions =
        machine.state.expansions + begun host fuel machine ∧
      ((run host fuel machine).isOver → (run host fuel machine).machine.frames = []) := by
  induction fuel generalizing machine with
  | zero => exact ⟨within, rfl, nofun⟩
  | succ fuel ih =>
      rw [Machine.run, begun]
      have ended (move : Move σ ρ) (moved : step host machine = move) (isOver : move.isOver) :
          WithinLimits host move.machine ∧
            move.machine.state.expansions = machine.state.expansions + 0 ∧
            (move.isOver → move.machine.frames = []) := by
        obtain ⟨frames, depth, expansions⟩ := within.of_isOver moved isOver
        refine ⟨⟨?_, ?_, ?_⟩, expansions, fun _ => frames⟩
        · rw [Balanced, depth, frames, List.length_nil]
        · rw [depth]
          exact le_max_right _ _
        · rw [expansions]
          exact within.expansions
      cases moved : step host machine with
      | next machine' =>
          obtain ⟨within', counted⟩ := (turn_of_step host within.balanced.ge moved).within within
          obtain ⟨last, all, closed⟩ := ih within'
          refine ⟨last, ?_, closed⟩
          simp only [all, counted, Nat.add_assoc]
      | finished machine' document => exact ended _ moved rfl
      | failed machine' document fault => exact ended _ moved rfl

theorem begun_le_add (fuel more : Nat) (machine : Machine σ ρ) :
    begun host fuel machine ≤ begun host (fuel + more) machine := by
  induction fuel generalizing machine with
  | zero => exact Nat.zero_le _
  | succ fuel ih =>
      rw [Nat.succ_add, begun, begun]
      cases step host machine with
      | next machine' => exact Nat.add_le_add_left (ih machine') _
      | finished | failed => exact Nat.le_refl _

/-! ## The ends of calls -/

/-- The calls in the processing of a document: that of the document itself, and those of the blocks and
loop bodies. -/
inductive Called (start : Machine σ ρ) (document : List Token) : Machine σ ρ → List Token → Prop
  | document : Called start document start document
  | inner {fuel : Nat} {machine caller : Machine σ ρ} {tokens : List Token} :
      run host fuel (enter host start document) = .next machine → Calls host machine caller tokens →
      Called start document caller tokens

/-- The machine while a fault goes up through the sequences under way, when it has left so many of them:
each gives back the depth that it took. -/
def unwound (before after : Machine σ ρ) : Nat → Machine σ ρ
  | 0 => { after with
      state := { after.state with depth := before.state.depth }
      frames := before.frames }
  | count + 1 => (unwound before after count).leaving (unwound before after count).frames.tail

/-- A call has ended, in this machine. -/
inductive Ended (caller : Machine σ ρ) (tokens : List Token) : Machine σ ρ → Prop
  /-- A bound has forbidden to begin the sequence. -/
  | skipped : (enter host caller tokens).frames = caller.frames →
      Ended caller tokens (enter host caller tokens)
  /-- The sequence around it goes on. -/
  | returned {fuel : Nat} {machine : Machine σ ρ} : run host fuel (enter host caller tokens) = .next machine →
      machine.frames.length = caller.frames.length → Ended caller tokens machine
  /-- There is no sequence around it. -/
  | finished {fuel : Nat} {machine : Machine σ ρ} {document : List Token} :
      run host fuel (enter host caller tokens) = .finished machine document → caller.frames = [] →
      Ended caller tokens machine
  /-- A fault has been raised inside of it, and has left it. -/
  | failed {fuel : Nat} {before after : Machine σ ρ} {document : List Token} {fault : Fault} :
      run host fuel (enter host caller tokens) = .next before →
      step host before = .failed after document fault →
      caller.frames.length < before.frames.length →
      Ended caller tokens (unwound before after (before.frames.length - caller.frames.length))
  /-- There was no room on the stack for what is under way inside of it, and the fault has left it. -/
  | overflowed {fuel : Nat} {before : Machine σ ρ} :
      run host fuel (enter host caller tokens) = .next before →
      caller.frames.length < before.frames.length →
      Ended caller tokens (unwound before before (before.frames.length - caller.frames.length))

theorem unwound_spec (before after : Machine σ ρ) (count : Nat) :
    (unwound before after count).frames = before.frames.drop count ∧
      unwound before after count =
        { after with
          state := { after.state with depth := before.state.depth - count }
          frames := before.frames.drop count } := by
  induction count with
  | zero => exact ⟨rfl, rfl⟩
  | succ count ih =>
      obtain ⟨frames, all⟩ := ih
      rw [unwound, frames, List.tail_drop]
      refine ⟨rfl, ?_⟩
      rw [all, leaving, Nat.sub_sub]

/-- A fault leaves all sequences under way. -/
theorem unwound_all {document : List Token} {fault : Fault} (within : WithinLimits host machine)
    (failed : step host machine = .failed machine' document fault) :
    unwound machine machine' machine.frames.length = machine' := by
  obtain ⟨frames, depth, _⟩ := within.of_isOver failed rfl
  have balanced : machine.state.depth = machine.frames.length := within.balanced
  rw [(unwound_spec machine machine' _).2, balanced, Nat.sub_self, List.drop_length, ← depth, ← frames]
  rfl

/-- However a call ends, the depth is what it was when it began. -/
theorem depth_of_ended {caller : Machine σ ρ} (within : WithinLimits host caller)
    (ended : Ended host caller tokens machine) : machine.state.depth = caller.state.depth := by
  have entered := within.enter tokens
  rw [within.balanced]
  have left (before after : Machine σ ρ) (within : WithinLimits host before)
      (inside : caller.frames.length < before.frames.length) :
      (unwound before after (before.frames.length - caller.frames.length)).state.depth =
        caller.frames.length := by
    have balanced : before.state.depth = before.frames.length := within.balanced
    rw [(unwound_spec before after _).2]
    simp only [balanced]
    omega
  cases ended with
  | skipped same => rw [entered.balanced, same]
  | @returned fuel machine reached length =>
      have reached' := (entered.run host fuel).1
      rw [reached] at reached'
      rw [← length]
      exact reached'.balanced
  | @finished fuel machine document reached outermost =>
      obtain ⟨last, _, closed⟩ := entered.run host fuel
      rw [reached] at last closed
      rw [outermost, ← closed rfl]
      exact last.balanced
  | @failed fuel before after document fault reached raised inside =>
      have reached' := (entered.run host fuel).1
      rw [reached] at reached'
      exact left before after reached' inside
  | @overflowed fuel before reached inside =>
      have reached' := (entered.run host fuel).1
      rw [reached] at reached'
      exact left before before reached' inside

/-- From a fresh state, whatever the collaborators answer and wherever they fail: the depth and the
number of expansions stay within their bounds at every point of a run; the depth is the number of
sequences under way, and the expansions are the blocks and loop bodies that have been begun, so that they
never become fewer; and every call ends with the depth that it began with, whether it returns, is passed
over or is left by a fault, also by one that nothing but the lack of room on a stack has raised. -/
theorem process_within_limits (bridge : σ) (library : ρ) (document : List Token) (fuel : Nat) :
    let start : Machine σ ρ := ⟨{}, bridge, library, []⟩
    let reached (fuel : Nat) := (process host fuel start document).machine
    ((reached fuel).state.depth : Int) ≤ max host.limits.nesting 0 ∧
      (reached fuel).state.depth = (reached fuel).frames.length ∧
      ((reached fuel).state.expansions : Int) ≤ max host.limits.expansions 0 ∧
      (reached fuel).state.expansions = begun host fuel (enter host start document) ∧
      (∀ more, (reached fuel).state.expansions ≤ (reached (fuel + more)).state.expansions) ∧
      ∀ caller tokens machine, Called host start document caller tokens →
        Ended host caller tokens machine → machine.state.depth = caller.state.depth := by
  intro start reached
  have fresh : WithinLimits host start := ⟨rfl, le_max_right _ _, le_max_right _ _⟩
  have entered := fresh.enter document
  have none : (enter host start document).state.expansions = 0 := by
    have entered := enters host start document
    generalize enter host start document = next at entered
    cases entered with
    | skipped | outermost => rfl
    | inner _ deep => exact absurd rfl deep
  have same (fuel : Nat) : reached fuel = (run host fuel (enter host start document)).machine := by
    simp only [reached, process]
    split
    · rename_i skipped
      exact (machine_run_of_nil host (List.isEmpty_iff.mp skipped) fuel).symm
    · rfl
  have counted (fuel : Nat) :
      (reached fuel).state.expansions = begun host fuel (enter host start document) := by
    rw [same, (entered.run host fuel).2.1, none, Nat.zero_add]
  have within : WithinLimits host (reached fuel) := same fuel ▸ (entered.run host fuel).1
  refine ⟨within.nesting, within.balanced, within.expansions, counted fuel, ?_, ?_⟩
  · intro more
    rw [counted, counted]
    exact begun_le_add host fuel more _
  · intro caller tokens machine called ended
    cases called with
    | document => exact depth_of_ended host fresh ended
    | @inner fuel machine caller tokens reached' calls =>
        have within := (entered.run host fuel).1
        rw [reached'] at within
        exact depth_of_ended host (within.of_still calls.still) ended

theorem eq_next_of_not_isOver {move : Move σ ρ} (goesOn : move.isOver = false) :
    move = .next move.machine := by
  cases move with
  | next machine => rfl
  | finished | failed => cases goesOn

/-- A fault is raised in a block that has tried to invoke itself, and leaves the block and the document. -/
theorem process_within_limits_of_fault :
    let host : Host Unit Unit :=
      { bridge := { evaluate := fun _ _ => (.error .divisionByZero, ()), bind := fun _ _ _ => () }
        registry := ⟨fun _ => .ok false, fun _ => .ok [], fun _ _ _ => (.ok none, ())⟩
        limits := { nesting := 2 } }
    let start : Machine Unit Unit := ⟨{}, (), (), []⟩
    let document := Token.tokenize "_a @a;\x7bx\x7d;;;@a;"
    ∃ machine, Called host start document start document ∧ Ended host start document machine ∧
      machine.state.depth = 0 := by
  intro host start document
  let raising := (run host 5 (enter host start document)).machine
  have reached : run host 5 (enter host start document) = .next raising :=
    eq_next_of_not_isOver (by decide +kernel)
  have deeper : start.frames.length < raising.frames.length := by decide +kernel
  have fails : (step host raising).hasFailed = true := by decide +kernel
  cases moved : step host raising with
  | next | finished =>
      rw [moved] at fails
      cases fails
  | failed after tokens fault =>
      have called : Called host start document start document := .document
      have ended := Ended.failed reached moved deeper
      exact ⟨_, called, ended,
        (process_within_limits host () () document 5).2.2.2.2.2 start document _ called ended⟩

end Linework.Expansion.Machine
