import Linework.Proofs.Expansion.Runs

/-!
# Invoking a block is writing it out

A run that invokes a block can be told from one in which the block stands in the place of the
invocation, closed by a block end, only by the bounds: the block is processed one level deeper, and
counts as one more expansion. Where no bound forbids to process a sequence, the two look the same.
-/

namespace Linework.Expansion

variable {σ ρ : Type}

/-- The same can be seen of the runs that led to two outcomes, and they have ended alike, if at all. -/
inductive Move.SameSeen : Move σ ρ → Move σ ρ → Prop
  | next {first second : Machine σ ρ} : first.seen = second.seen →
      SameSeen (.next first) (.next second)
  | finished {first second : Machine σ ρ} {tokens tokens' : List Token} : first.seen = second.seen →
      SameSeen (.finished first tokens) (.finished second tokens')
  | failed {first second : Machine σ ρ} {tokens tokens' : List Token} {fault : Fault} :
      first.seen = second.seen → SameSeen (.failed first tokens fault) (.failed second tokens' fault)

theorem Move.Together.sameSeen {exact : Prop} {extra base : Nat} {bottom : Option Bottom}
    {move move' : Move σ ρ} (together : Move.Together exact extra base bottom move move') :
    move.SameSeen move' := by
  cases together with
  | next together => exact .next together.seen
  | finished _ level => exact .finished level.seen
  | failed level => exact .failed level.seen

namespace Machine

variable (host : Host σ ρ) {exact : Prop} {extra base : Nat} {first second first' second' : Machine σ ρ}

/-- Whatever can be seen of a run of either machine can be seen of a run of the other. -/
structure Follows (first second : Machine σ ρ) : Prop where
  forward : ∀ fuel, ∃ fuel', (Machine.run host fuel first).SameSeen (Machine.run host fuel' second)
  backward : ∀ fuel', ∃ fuel, (Machine.run host fuel first).SameSeen (Machine.run host fuel' second)

theorem Follows.of_step (follows : Follows host first' second)
    (moves : Machine.step host first = .next first') (same : first.seen = second.seen) :
    Follows host first second := by
  constructor
  · intro fuel
    cases fuel with
    | zero => exact ⟨0, .next same⟩
    | succ fuel =>
        obtain ⟨fuel', seen⟩ := follows.forward fuel
        exact ⟨fuel', by rwa [run_succ host moves]⟩
  · intro fuel'
    obtain ⟨fuel, seen⟩ := follows.backward fuel'
    exact ⟨fuel + 1, by rwa [run_succ host moves]⟩

/-- Machines that go together look the same until they part, and after it if they still do then. -/
theorem Together.follows {bottom : Option Bottom}
    (together : first.Together exact extra base bottom second)
    (unbounded : Unbounded host extra bottom first)
    (behind : ∀ first' second' : Machine σ ρ, first'.Together exact extra base bottom second' →
      Unbounded host extra bottom first' → Parting bottom first' second' →
      Follows host first' second') :
    Follows host first second := by
  constructor
  · intro fuel
    rcases together.run host fuel unbounded with ⟨fuel', moved⟩ | ⟨used, fewer, used', parts⟩
    · exact ⟨fuel', moved.sameSeen⟩
    · obtain ⟨first', second', reached, reached', together', parting⟩ := parts
      have follows := behind first' second' together' (unbounded.of_run host reached) parting
      obtain ⟨more, rfl⟩ := Nat.exists_eq_add_of_le fewer
      obtain ⟨more', seen⟩ := follows.forward more
      exact ⟨used' + more', by rwa [run_add host reached, run_add host reached']⟩
  · intro fuel'
    rcases together.run' host fuel' unbounded with ⟨fuel, moved⟩ | ⟨used', fewer, used, parts⟩
    · exact ⟨fuel, moved.sameSeen⟩
    · obtain ⟨first', second', reached, reached', together', parting⟩ := parts
      have follows := behind first' second' together' (unbounded.of_run host reached) parting
      obtain ⟨more', rfl⟩ := Nat.exists_eq_add_of_le fewer
      obtain ⟨more, seen⟩ := follows.backward more'
      exact ⟨used + more, by rwa [run_add host reached, run_add host reached']⟩

/-- Machines that never part look the same to the end. -/
theorem Together.follows_of_none (together : first.Together exact extra base none second)
    (unbounded : Unbounded host extra none first) : Follows host first second := by
  apply together.follows host unbounded
  intro _ _ _ _ parting
  obtain ⟨_, _, _, impossible, _⟩ := parting
  cases impossible

/-! ## Behind the block -/

/-- A frame at the end of its sequence is left for the one below it. -/
theorem step_of_left {machine : Machine σ ρ} {done : List Token} {frame : Frame} {outer : List Frame}
    (top : machine.frames = ⟨done, [], [], .resolve⟩ :: frame :: outer) :
    Machine.step host machine =
      .next { machine with
        state := { machine.state with depth := machine.state.depth - 1 }
        frames := frame :: outer } := by
  simp [Machine.step, top, Machine.resolve, Machine.finishRegion, Frame.live]

/-- Behind the block, the one machine goes on behind the invocation, and the other behind the block
end that stands in its place. -/
theorem Together.follows_of_parting {lowest : Bottom} {separator invocation : Token}
    (together : first.Together False 1 base (some lowest) second)
    (unbounded : Unbounded host 1 (some lowest) first) (boundary : separator.isBoundary)
    (outer : lowest.outer = [⟨[separator, invocation], [], lowest.post, .resolve⟩])
    (outer' : lowest.outer' = []) (parting : Parting (some lowest) first second) :
    Follows host first second := by
  obtain ⟨_, done, done', bottom, top, top', heads⟩ := parting
  cases bottom
  rw [outer] at top
  rw [outer'] at top'
  have headed : Headed none [separator, invocation] done' := by
    cases heads with
    | nil => exact .fresh rfl boundary
    | @cons token token' _ _ _ closed =>
        have boundary' := closed (Option.some_ne_none _)
        rw [Token.isBoundary, beq_iff_eq] at boundary boundary'
        exact .cons (boundary.trans boundary'.symm) fun goesOn => absurd rfl goesOn
    | fresh ended => cases ended
  have ready : Frame.Ready False none ⟨[separator, invocation], [], lowest.post, .resolve⟩
      ⟨done', [], lowest.post, .resolve⟩ :=
    ⟨rfl, by simp, .refl _, fun _ => headed⟩
  have moves := step_of_left host top
  have onwards : Together False 1 base none
      { first with
        state := { first.state with depth := first.state.depth - 1 }
        frames := [⟨[separator, invocation], [], lowest.post, .resolve⟩] } second := by
    refine ⟨together.toLevel.of_seen together.seen rfl rfl rfl rfl, ?_, ?_, together.depth'⟩
    · rw [top']
      exact .cons (.ready ready .resolve) .nil
    · simp only [together.depth, top]
      rfl
  refine Follows.of_step host (onwards.follows_of_none host (.inr ?_)) moves together.seen
  rcases unbounded with ⟨impossible, _⟩ | quiet
  · cases impossible
  · exact quiet.of_run host (run_succ host moves 0)

/-! ## Invocations -/

section Invocation

variable {machine : Machine σ ρ} {text separator name : String} {post : List Token} {outer : List Frame}

/-- An invocation is no other marker, and is passed over at first. -/
theorem step_of_marker (invokes : invocation? text = some name)
    (top : machine.frames = { ahead := ⟨.text, text⟩ :: ⟨.boundary, separator⟩ :: post } :: outer) :
    Machine.step host machine = .next { machine with
      frames := ⟨[], [⟨.text, text⟩], ⟨.boundary, separator⟩ :: post, .resolve⟩ :: outer } := by
  have noDefinition := definition?_eq_none_of_invocation? invokes
  have noLoop := isLoopWord_eq_false_of_invocation? invokes
  simp [Machine.step, top, Machine.resolve, noDefinition, noLoop, Frame.advance]

/-- At the separator behind it, the block is entered. -/
theorem step_of_invocation {body : List Token} (invokes : invocation? text = some name)
    (stored : machine.state.blocks.get? name = some body)
    (top : machine.frames =
      ⟨[], [⟨.text, text⟩], ⟨.boundary, separator⟩ :: post, .resolve⟩ :: outer) :
    Machine.step host machine = .next (enter host { machine with
      state := machine.state.note (.invoking name)
      frames := ⟨[⟨.boundary, separator⟩, ⟨.text, text⟩], [], post, .resolve⟩ :: outer } body) := by
  have block : invokedBlock? (⟨.text, text⟩ :: ⟨.boundary, separator⟩ :: post) = some name := invokes
  simp [Machine.step, top, Machine.resolve, Machine.finishRegion, Frame.live, Frame.skip, block, stored]

/-- A sequence that no bound forbids to process is entered, whichever it is. -/
theorem enter_of_quiet {tokens : List Token}
    (quiet : (enter host machine tokens).state.skipped = machine.state.skipped) :
    ∃ expansions, (machine.state.depth ≠ 0 → expansions = machine.state.expansions + 1) ∧
      ∀ tokens, enter host machine tokens =
        { machine with
          state := { machine.state with
            depth := machine.state.depth + 1
            expansions := expansions }
          frames := { ahead := tokens } :: machine.frames } := by
  unfold enter at quiet ⊢
  simp only at quiet ⊢
  split at quiet
  · rw [State.skipped_note] at quiet
    simp [Event.isSkip] at quiet
  · rename_i allowed
    split at quiet
    · rename_i atTop
      exact ⟨machine.state.expansions, fun inside => absurd atTop inside, fun tokens => by
        rw [if_neg allowed, if_pos atTop, atTop]⟩
    · rename_i inside
      split at quiet
      · rw [State.skipped_note] at quiet
        simp [Event.isSkip] at quiet
      · rename_i few
        exact ⟨machine.state.expansions + 1, fun _ => rfl, fun tokens => by
          rw [if_neg allowed, if_neg inside, if_neg few]⟩

end Invocation

/-- Behind its first two moves, an invocation goes together with the block written out. -/
theorem follows_of_invocation {other : Machine σ ρ} {text separator name : String}
    {front post : List Token} {depth : Nat} (quiet : Quiet host first) (apart : Apart (some post))
    (stored : first.state.blocks.get? name = some (front ++ [⟨.boundary, ""⟩]))
    (invokes : invocation? text = some name) (depthEq : first.state.depth = depth + 1)
    (top : first.frames = [{ ahead := ⟨.text, text⟩ :: ⟨.boundary, separator⟩ :: post }])
    (same : other = { first with
      frames := [{ ahead := front ++ ⟨.boundary, ";;" ++ separator⟩ :: post }] }) :
    Follows host first other := by
  subst same
  have passed := step_of_marker host invokes top
  have quiet' := quiet.of_run host (run_succ host passed 0)
  have invoked : Machine.step host { first with
      frames := [⟨[], [⟨.text, text⟩], ⟨.boundary, separator⟩ :: post, .resolve⟩] } = _ :=
    step_of_invocation host invokes stored rfl
  have admitted := quiet' 1
  rw [machine_run_one, invoked] at admitted
  have remarked : (first.state.note (.invoking name)).skipped = first.state.skipped :=
    State.skipped_note _ _
  obtain ⟨expansions, counted, entered⟩ := enter_of_quiet host (admitted.trans remarked.symm)
  rw [entered] at invoked
  refine Follows.of_step host (Follows.of_step host ?_ invoked ?_) passed rfl
  · let lowest : Bottom :=
      ⟨post, [⟨[⟨.boundary, separator⟩, ⟨.text, text⟩], [], post, .resolve⟩], [], Nat.zero_le 1, apart⟩
    have closes : Closes False (some post) "" (";;" ++ separator) := by
      constructor
      · rw [String.toList_append]
        exact hasBlockEnd_append_left rfl _
      · exact False.elim
    have ready : Frame.Ready False (some post) { ahead := front ++ [⟨.boundary, ""⟩] }
        { ahead := front ++ ⟨.boundary, ";;" ++ separator⟩ :: post } :=
      ⟨rfl, by simp, (Paired.last closes).append front, fun _ => .nil⟩
    have unbounded : Unbounded host 1 (some lowest) _ :=
      .inr (quiet'.of_run host (run_succ host invoked 0))
    have inside : first.state.depth ≠ 0 := by
      rw [depthEq]
      exact Nat.succ_ne_zero depth
    have together : Together False 1 depth (some lowest)
        { first with
          state := { first.state.note (.invoking name) with
            depth := first.state.depth + 1
            expansions := expansions }
          frames := { ahead := front ++ [⟨.boundary, ""⟩] } :: lowest.outer }
        { first with frames := [{ ahead := front ++ ⟨.boundary, ";;" ++ separator⟩ :: post }] } := by
      have stack : Stacked False (some lowest)
          ({ ahead := front ++ [⟨.boundary, ""⟩] } :: lowest.outer)
          ({ ahead := front ++ ⟨.boundary, ";;" ++ separator⟩ :: post } :: lowest.outer') :=
        .bottom (.ready ready .resolve)
      refine ⟨⟨?_, .refl Paired.refl _, counted inside⟩, stack, ?_, depthEq⟩
      · exact seen_eq_iff.mpr ⟨State.events_note _ _, rfl, rfl, rfl, rfl, rfl⟩
      · simp only [depthEq]
        rfl
    exact together.follows host unbounded fun first' second' together' still parting =>
      together'.follows_of_parting host still rfl rfl rfl parting
  · rfl

/-- The run over a sequence in which no bound forbids to process a sequence. -/
def Admits (machine : Machine σ ρ) (tokens : List Token) : Prop :=
  ∀ fuel, (process host fuel machine tokens).machine.state.skipped = machine.state.skipped

/-- A run that invokes a block at its start, and the run over the same sequence with the block written
out up to a block end in place of the invocation, look the same and end alike. -/
theorem process_invocation (state : State) (bridge : σ) (library : ρ) {name text separator : String}
    {front post : List Token}
    (stored : state.blocks.get? name = some (front ++ [⟨.boundary, ""⟩]))
    (invokes : invocation? text = some name)
    (fused : IsFused (⟨.text, text⟩ :: ⟨.boundary, separator⟩ :: post))
    (admits : Admits host ⟨state, bridge, library, []⟩
      (⟨.text, text⟩ :: ⟨.boundary, separator⟩ :: post)) :
    (∀ fuel, ∃ fuel',
      (process host fuel ⟨state, bridge, library, []⟩
        (⟨.text, text⟩ :: ⟨.boundary, separator⟩ :: post)).SameSeen
      (process host fuel' ⟨state, bridge, library, []⟩
        (front ++ ⟨.boundary, ";;" ++ separator⟩ :: post))) ∧
    (∀ fuel', ∃ fuel,
      (process host fuel ⟨state, bridge, library, []⟩
        (⟨.text, text⟩ :: ⟨.boundary, separator⟩ :: post)).SameSeen
      (process host fuel' ⟨state, bridge, library, []⟩
        (front ++ ⟨.boundary, ";;" ++ separator⟩ :: post))) := by
  have apart : Apart (some post) := by
    intro token mem
    by_contra boundary
    have unfused := (isFused_cons.mp fused.tail).1 token mem
    have isBoundary : (⟨.boundary, separator⟩ : Token).isBoundary := rfl
    obtain ⟨both, fuses, _⟩ := fuse?_boundary isBoundary ((Bool.not_eq_false _).mp boundary)
    rw [unfused] at fuses
    cases fuses
  have atStart : (enter host ⟨state, bridge, library, []⟩
      (⟨.text, text⟩ :: ⟨.boundary, separator⟩ :: post)).state.skipped = state.skipped := by
    have none := admits 0
    unfold process at none
    simp only at none
    split at none <;> exact none
  obtain ⟨expansions, _, entered⟩ := enter_of_quiet host atStart
  have processed (fuel : Nat) (tokens : List Token) :
      process host fuel ⟨state, bridge, library, []⟩ tokens =
        Machine.run host fuel ⟨{ state with depth := state.depth + 1, expansions := expansions },
          bridge, library, [{ ahead := tokens }]⟩ := by
    simp [Machine.process, entered]
  have quiet : Quiet host ⟨{ state with depth := state.depth + 1, expansions := expansions },
      bridge, library, [{ ahead := ⟨.text, text⟩ :: ⟨.boundary, separator⟩ :: post }]⟩ := by
    intro fuel
    rw [← processed]
    exact admits fuel
  simp only [processed]
  have follows := follows_of_invocation host quiet apart stored invokes rfl rfl rfl
  exact ⟨follows.forward, follows.backward⟩

/-- A block of one group with a script, invoked and written out. -/
theorem process_invocation_of_group :
    let state : State :=
      { blocks := [("b", [⟨.group, ""⟩, ⟨.groupScript, "1"⟩, ⟨.boundary, ""⟩])] }
    ∃ fuel', (process echo 8 ⟨state, 0, (), []⟩ [⟨.text, "@b"⟩, ⟨.boundary, ";"⟩]).SameSeen
      (process echo fuel' ⟨state, 0, (), []⟩
        [⟨.group, ""⟩, ⟨.groupScript, "1"⟩, ⟨.boundary, ";;;"⟩]) := by
  intro state
  have stored : state.blocks.get? "b" =
      some ([⟨.group, ""⟩, ⟨.groupScript, "1"⟩] ++ [⟨.boundary, ""⟩]) := rfl
  have admits : Admits echo ⟨state, 0, (), []⟩ [⟨.text, "@b"⟩, ⟨.boundary, ";"⟩] := by
    subst state
    intro fuel
    -- The run is over after eight moves, and its log tells of no bound until then.
    rcases Nat.lt_or_ge fuel 9 with early | late
    · revert fuel
      decide +kernel
    · obtain ⟨more, rfl⟩ := Nat.exists_eq_add_of_le late
      rw [process_of_isOver echo (by decide +kernel)]
      decide +kernel
  exact (process_invocation echo state 0 () stored (by decide +kernel) (by decide) admits).1 8

end Machine

end Linework.Expansion
