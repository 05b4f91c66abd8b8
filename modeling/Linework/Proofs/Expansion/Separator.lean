import Linework.Proofs.Expansion.Runs

/-!
# Block ends separate

A separator with two semicolons in a row is a hard boundary: a sequence that ends with one is processed
as if nothing followed it. To process it together with another sequence is to process the two in turn.
-/

namespace Linework.Expansion

/-- What is known of a run that has ended, with the fault that ended it. -/
structure Ending (σ ρ : Type) where
  seen : Seen σ ρ
  blocks : Assoc String (List Token)
  expansions : Nat
  fault? : Option Fault

variable {σ ρ : Type}

/-- The ending of a run that is over. -/
def Move.ending? : Move σ ρ → Option (Ending σ ρ)
  | .next _ => none
  | .finished machine _ =>
      some ⟨machine.seen, machine.state.blocks, machine.state.expansions, none⟩
  | .failed machine _ fault =>
      some ⟨machine.seen, machine.state.blocks, machine.state.expansions, some fault⟩

namespace Machine

variable (host : Host σ ρ) {first second machine machine' : Machine σ ρ}

/-- Processing the sequence ends, and in this way. -/
def EndsAs (machine : Machine σ ρ) (tokens : List Token) (ending : Ending σ ρ) : Prop :=
  ∃ fuel, (process host fuel machine tokens).ending? = some ending

/-- Going on from the machine ends, and in this way. -/
def RunsTo (machine : Machine σ ρ) (ending : Ending σ ρ) : Prop :=
  ∃ fuel, (run host fuel machine).ending? = some ending

theorem runsTo_iff_of_step (moves : Machine.step host machine = .next machine')
    (ending : Ending σ ρ) : RunsTo host machine ending ↔ RunsTo host machine' ending := by
  constructor
  · rintro ⟨fuel, ends⟩
    cases fuel with
    | zero => cases ends
    | succ fuel =>
        rw [run_succ host moves] at ends
        exact ⟨fuel, ends⟩
  · rintro ⟨fuel, ends⟩
    refine ⟨fuel + 1, ?_⟩
    rwa [run_succ host moves]

theorem runsTo_iff_of_run {used : Nat} (reached : run host used machine = .next machine')
    (ending : Ending σ ρ) : RunsTo host machine ending ↔ RunsTo host machine' ending := by
  induction used generalizing machine with
  | zero =>
      cases reached
      rfl
  | succ used ih =>
      rw [run] at reached
      cases moves : Machine.step host machine with
      | next next =>
          rw [moves] at reached
          exact (runsTo_iff_of_step host moves ending).trans (ih reached)
      | finished => rw [moves] at reached; cases reached
      | failed => rw [moves] at reached; cases reached

/-! ## Exact pairs -/

theorem Level.blocks_eq (level : first.Level True 0 second) :
    first.state.blocks = second.state.blocks :=
  level.blocks.eq fun _ _ paired => paired.eq_of_exact trivial

theorem Level.symm (level : first.Level True 0 second) : second.Level True 0 first := by
  refine ⟨level.seen.symm, ?_, level.expansions.symm⟩
  rw [level.blocks_eq]
  exact .refl Paired.refl _

theorem ending?_eq {base : Nat} {bottom : Option Bottom} {move move' : Move σ ρ}
    (together : Move.Together True 0 base bottom move move') : move.ending? = move'.ending? := by
  cases together with
  | next => rfl
  | finished _ level => simp [Move.ending?, level.seen, level.blocks_eq, level.expansions]
  | failed level => simp [Move.ending?, level.seen, level.blocks_eq, level.expansions]

/-- Machines that go together to the end run to the same ending. -/
theorem Together.runsTo_iff {base : Nat} (together : first.Together True 0 base none second)
    (ending : Ending σ ρ) : RunsTo host first ending ↔ RunsTo host second ending := by
  have unbounded : Unbounded host 0 none first := .inl ⟨rfl, fun _ impossible => nomatch impossible⟩
  have whole {used used' : Nat} : ¬Parts host True 0 base none first second used used' := by
    rintro ⟨_, _, _, _, _, _, _, _, impossible, _⟩
    cases impossible
  constructor
  · rintro ⟨fuel, ends⟩
    rcases together.run host fuel unbounded with ⟨fuel', moved⟩ | ⟨_, _, _, parts⟩
    · exact ⟨fuel', ending?_eq moved ▸ ends⟩
    · exact absurd parts whole
  · rintro ⟨fuel', ends⟩
    rcases together.run' host fuel' unbounded with ⟨fuel, moved⟩ | ⟨_, _, _, parts⟩
    · exact ⟨fuel, ending?_eq moved ▸ ends⟩
    · exact absurd parts whole

/-! ## Behind the separator -/

/-- Two machines with one frame each. -/
theorem Level.single {exact : Prop} {extra base : Nat} {frame frame' : Frame}
    (level : first.Level exact extra second) (top : first.frames = [frame])
    (top' : second.frames = [frame']) (paired : frame.Paired exact none frame')
    (depth : first.state.depth = base + 1) (depth' : second.state.depth = base + 1) :
    first.Together exact extra base none second := by
  refine ⟨level, ?_, ?_, ?_⟩
  · rw [top, top']
    exact .cons paired .nil
  · rw [depth, top]
    rfl
  · rw [depth', top']
    rfl

/-- Where the first sequence has ended, going on with the second sequence and starting with it anew
come to the same. What is passed of a sequence matters only for a separator at its head. -/
theorem runsTo_iff_of_parting {base : Nat} {done' post tokens : List Token}
    (level : first.Level True 0 second) (top : first.frames = [⟨[], [], tokens, .resolve⟩])
    (top' : second.frames = [⟨done', [], post, .resolve⟩])
    (depth : first.state.depth = base + 1) (depth' : second.state.depth = base + 1)
    (passed : ∀ token ∈ done'.head?, token.isBoundary)
    (same : tokens = post ∨ ∃ separator : Token, separator.isBoundary ∧ tokens = separator :: post)
    (ending : Ending σ ρ) : RunsTo host first ending ↔ RunsTo host second ending := by
  have paired : Paired True none post post := .refl post
  rcases same with rfl | ⟨separator, boundary, rfl⟩
  · cases done' with
    | nil =>
        have ready : Frame.Ready True none ⟨[], [], tokens, .resolve⟩ ⟨[], [], tokens, .resolve⟩ :=
          ⟨rfl, by simp, paired, fun _ => .nil⟩
        exact (level.single top top' (.ready ready .resolve) depth depth').runsTo_iff host ending
    | cons token earlier =>
        have ready : Frame.Ready True none ⟨token :: earlier, [], tokens, .resolve⟩
            ⟨[], [], tokens, .resolve⟩ :=
          ⟨rfl, by simp, paired, fun _ => .fresh rfl (passed token rfl)⟩
        have together := level.symm.single top' top (.ready ready .resolve) depth' depth
        exact (together.runsTo_iff host ending).symm
  · cases done' with
    | nil =>
        -- One of the two has the separator behind it, the other has passed nothing yet.
        have moves := step_of_leading host boundary top
        have ready : Frame.Ready True none ⟨[separator], [], post, .resolve⟩
            ⟨[], [], post, .resolve⟩ :=
          ⟨rfl, by simp, paired, fun _ => .fresh rfl boundary⟩
        have level' : Level True 0
            { first with frames := [⟨[separator], [], post, .resolve⟩] } second :=
          level.of_seen level.seen rfl rfl rfl rfl
        have together := level'.single rfl top' (.ready ready .resolve) depth depth'
        exact (runsTo_iff_of_step host moves ending).trans (together.runsTo_iff host ending)
    | cons token earlier =>
        have lead : Frame.Paired True none ⟨token :: earlier, [], post, .resolve⟩
            ⟨[], [], separator :: post, .resolve⟩ :=
          .lead rfl (passed token rfl) boundary paired
        have together := level.symm.single top' top lead depth' depth
        exact (together.runsTo_iff host ending).symm

/-- A frame at the end of its sequence, with no frame below it: the run is over. -/
theorem step_of_ended {done : List Token} (top : machine.frames = [⟨done, [], [], .resolve⟩]) :
    Machine.step host machine =
      .finished { machine with
        state := { machine.state with depth := machine.state.depth - 1 }
        frames := [] } done.reverse := by
  simp [Machine.step, top, Machine.resolve, Machine.finishRegion, Frame.live, Frame.tokens]

section Start

variable (state : State) (bridge : σ) (library : ρ)

/-- Starting to process a sequence outside of any other, where a bound does not forbid it. -/
theorem process_eq_run {state : State} (depth : state.depth = 0) (allowed : ¬host.limits.nesting ≤ 0)
    (fuel : Nat) (tokens : List Token) :
    process host fuel ⟨state, bridge, library, []⟩ tokens =
      run host fuel ⟨{ state with depth := 1 }, bridge, library, [{ ahead := tokens }]⟩ := by
  simp [Machine.process, Machine.enter, depth, allowed]

theorem process_eq_finished {state : State} (depth : state.depth = 0)
    (forbidden : host.limits.nesting ≤ 0) (fuel : Nat) (tokens : List Token) :
    process host fuel ⟨state, bridge, library, []⟩ tokens =
      .finished ⟨state.note .nestingLimit, bridge, library, []⟩ tokens := by
  simp [Machine.process, Machine.enter, depth, forbidden]

end Start

/-- A sequence that ends with a block end, and the same with another joined to it. -/
theorem paired_join {tokens tokens' : List Token} (ends : ∃ last ∈ tokens.getLast?, endsBlock last)
    (fused : IsFused tokens') :
    ∃ post, Apart (some post) ∧ Paired True (some post) tokens (join tokens tokens') ∧
      (tokens' = post ∨ ∃ separator : Token, separator.isBoundary ∧ tokens' = separator :: post) := by
  obtain ⟨⟨kind, text⟩, isLast, ends⟩ := ends
  obtain ⟨front, rfl⟩ := List.getLast?_eq_some_iff.mp isLast
  obtain ⟨boundary, semicolons⟩ := Bool.and_eq_true_iff.mp ends
  obtain rfl : kind = .boundary := eq_of_beq boundary
  rw [join_append_singleton]
  cases tokens' with
  | nil =>
      refine ⟨[], fun _ mem => (nomatch mem), ?_, .inl rfl⟩
      have closes : Closes True (some []) text text := ⟨semicolons, fun _ => semicolons⟩
      exact (Paired.last closes).append front
  | cons next post =>
      cases nextBoundary : next.isBoundary with
      | true =>
          obtain ⟨kind, later⟩ := next
          obtain rfl : kind = .boundary := eq_of_beq nextBoundary
          refine ⟨post, fun token mem => ?_, ?_, .inr ⟨_, nextBoundary, rfl⟩⟩
          · have apart := (isFused_cons.mp fused).1 token mem
            by_contra also
            obtain ⟨both, fuses, _⟩ := fuse?_boundary nextBoundary ((Bool.not_eq_false _).mp also)
            rw [apart] at fuses
            cases fuses
          · have closes : Closes True (some post) text (text ++ later) := by
              constructor
              · rw [String.toList_append]
                exact hasBlockEnd_append_left semicolons _
              · exact fun _ => semicolons
            exact (Paired.last closes).append front
      | false =>
          refine ⟨next :: post, fun token mem => ?_, ?_, .inl rfl⟩
          · obtain rfl : next = token := Option.some.inj mem
            exact nextBoundary
          · have unfused : fuse? (⟨.boundary, text⟩ : Token) next = none :=
              fuse?_eq_none_of_boundary (by rw [nextBoundary]; simp [Token.isBoundary])
            have glued : glue (⟨.boundary, text⟩ : Token) (next :: post) =
                ⟨.boundary, text⟩ :: next :: post := by
              simp [glue, unfused]
            have closes : Closes True (some (next :: post)) text text :=
              ⟨semicolons, fun _ => semicolons⟩
            rw [glued]
            exact (Paired.last closes).append front

/-- Where the runs part, the first sequence is done with, and processing the second anew ends as going on
with the joined sequence does. -/
theorem Together.behind {lowest : Bottom} {tokens' : List Token} (allowed : ¬host.limits.nesting ≤ 0)
    (together : first.Together True 0 0 (some lowest) second)
    (parting : Parting (some lowest) first second) (outer : lowest.outer = []) (outer' : lowest.outer' = [])
    (same : tokens' = lowest.post ∨
      ∃ separator : Token, separator.isBoundary ∧ tokens' = separator :: lowest.post) :
    ∃ machine tokens, Machine.step host first = .finished machine tokens ∧
      ∀ ending, EndsAs host machine tokens' ending ↔ RunsTo host second ending := by
  obtain ⟨_, done, done', bottom, top, top', heads⟩ := parting
  cases bottom
  rw [outer] at top
  rw [outer'] at top'
  have depth : first.state.depth = 0 + 1 := by rw [together.depth, top]; rfl
  have depth' : second.state.depth = 0 + 1 := by rw [together.depth', top']; rfl
  refine ⟨_, _, step_of_ended host top, fun ending => ?_⟩
  have passed : ∀ token ∈ done'.head?, token.isBoundary := by
    cases heads with
    | nil => exact fun _ mem => nomatch mem
    | cons _ closed =>
        intro token mem
        obtain rfl := Option.some.inj mem
        exact closed (Option.some_ne_none _)
    | fresh ended => cases ended
  have left : ({ first.state with depth := first.state.depth - 1 } : State).depth = 0 := by
    simp [depth]
  have restarted : Level True 0
      (⟨{ first.state with depth := 1 }, first.bridge, first.library, [{ ahead := tokens' }]⟩ :
        Machine σ ρ) second :=
    together.toLevel.of_seen together.seen rfl rfl rfl rfl
  rw [← runsTo_iff_of_parting host restarted rfl top' rfl depth' passed same ending]
  simp only [EndsAs, process_eq_run host _ _ left allowed]
  rfl

/-- Where the runs do not part, only a fault can end them. -/
theorem isSome_of_ending? {lowest : Bottom} {base : Nat} {move move' : Move σ ρ} {ending : Ending σ ρ}
    (moved : Move.Together True 0 base (some lowest) move move') (ended : move.ending? = some ending) :
    ending.fault?.isSome := by
  cases moved with
  | next => cases ended
  | finished impossible => cases impossible
  | failed =>
      rw [← Option.some.inj ended]
      rfl

/-- Where the first of two machines is done with its last sequence, the second goes on. It runs to the
endings of the first by a fault, and to those that processing what follows has from where the first has
finished. -/
theorem Together.runsTo_iff_behind {lowest : Bottom} {tokens' : List Token}
    (allowed : ¬host.limits.nesting ≤ 0) (together : first.Together True 0 0 (some lowest) second)
    (unbounded : Unbounded host 0 (some lowest) first) (outer : lowest.outer = [])
    (outer' : lowest.outer' = [])
    (same : tokens' = lowest.post ∨
      ∃ separator : Token, separator.isBoundary ∧ tokens' = separator :: lowest.post)
    (ending : Ending σ ρ) :
    RunsTo host second ending ↔
      (RunsTo host first ending ∧ ending.fault?.isSome) ∨
        ∃ fuel machine left, Machine.run host fuel first = .finished machine left ∧
          EndsAs host machine tokens' ending := by
  constructor
  · rintro ⟨fuel, ended⟩
    rcases together.run' host fuel unbounded with
      ⟨fuel', moved⟩ | ⟨used', _, used, _, _, reached, reached', together', parting⟩
    · rw [← ending?_eq moved] at ended
      exact .inl ⟨⟨fuel', ended⟩, isSome_of_ending? moved ended⟩
    · obtain ⟨machine, left, stops, restarts⟩ := together'.behind host allowed parting outer outer' same
      refine .inr ⟨used + 1, machine, left, ?_, ?_⟩
      · rw [run_add host reached, Machine.run, stops]
      · exact (restarts ending).mpr ((runsTo_iff_of_run host reached' ending).mp ⟨fuel, ended⟩)
  · rintro (⟨⟨fuel, ended⟩, faulty⟩ | ⟨fuel, machine, left, finished, restarted⟩)
    · rcases together.run host fuel unbounded with
        ⟨fuel', moved⟩ | ⟨used, _, used', _, _, reached, _, together', parting⟩
      · exact ⟨fuel', ending?_eq moved ▸ ended⟩
      · obtain ⟨machine, left, stops, _⟩ := together'.behind host allowed parting outer outer' same
        obtain ⟨fuel, ended⟩ := (runsTo_iff_of_run host reached ending).mp ⟨fuel, ended⟩
        cases fuel with
        | zero => cases ended
        | succ fuel =>
            rw [Machine.run, stops] at ended
            rw [← Option.some.inj ended] at faulty
            cases faulty
    · rcases together.run host fuel unbounded with
        ⟨_, moved⟩ | ⟨used, fewer, used', _, _, reached, reached', together', parting⟩
      · rw [finished] at moved
        generalize Machine.run host _ second = move at moved
        cases moved with
        | finished impossible => cases impossible
      · obtain ⟨machine', left', stops, restarts⟩ :=
          together'.behind host allowed parting outer outer' same
        obtain ⟨more, rfl⟩ := Nat.exists_eq_add_of_le fewer
        rw [run_add host reached] at finished
        cases more with
        | zero => cases finished
        | succ more =>
            rw [Machine.run, stops] at finished
            cases finished
            exact (runsTo_iff_of_run host reached' ending).mpr ((restarts ending).mp restarted)

/-- Where a bound forbids to process anything, the two ways do nothing alike. -/
private theorem process_join_iff_of_forbidden {state : State} (bridge : σ) (library : ρ)
    (depth : state.depth = 0) (forbidden : host.limits.nesting ≤ 0) (tokens tokens' joined : List Token)
    (ending : Ending σ ρ) :
    EndsAs host ⟨state, bridge, library, []⟩ joined ending ↔
      (EndsAs host ⟨state, bridge, library, []⟩ tokens ending ∧ ending.fault?.isSome) ∨
        ∃ fuel machine left,
          process host fuel ⟨state, bridge, library, []⟩ tokens = .finished machine left ∧
            EndsAs host machine tokens' ending := by
  have again : (state.note .nestingLimit).depth = 0 := depth
  simp only [EndsAs, process_eq_finished host bridge library depth forbidden]
  constructor
  · rintro ⟨_, ended⟩
    refine .inr ⟨0, _, _, rfl, 0, ?_⟩
    rw [process_eq_finished host bridge library again forbidden, ← ended]
    simp [Move.ending?, seen, State.note, State.record, State.events, Event.isNote]
  · rintro (⟨⟨_, ended⟩, faulty⟩ | ⟨_, _, _, finished, _, ended⟩)
    · rw [← Option.some.inj ended] at faulty
      cases faulty
    · cases finished
      rw [process_eq_finished host bridge library again forbidden] at ended
      refine ⟨0, ?_⟩
      rw [← ended]
      simp [Move.ending?, seen, State.note, State.record, State.events, Event.isNote]

/-- To process a sequence that ends with a block end, joined to another, is to process the one and then
the other: the runs end in the same way, if they end. -/
theorem process_join_iff (state : State) (bridge : σ) (library : ρ) (depth : state.depth = 0)
    {tokens tokens' : List Token} (ends : ∃ last ∈ tokens.getLast?, endsBlock last)
    (fused : IsFused tokens') (ending : Ending σ ρ) :
    EndsAs host ⟨state, bridge, library, []⟩ (join tokens tokens') ending ↔
      (EndsAs host ⟨state, bridge, library, []⟩ tokens ending ∧ ending.fault?.isSome) ∨
        ∃ fuel machine left,
          process host fuel ⟨state, bridge, library, []⟩ tokens = .finished machine left ∧
            EndsAs host machine tokens' ending := by
  by_cases forbidden : host.limits.nesting ≤ 0
  · exact process_join_iff_of_forbidden host bridge library depth forbidden _ _ _ ending
  · obtain ⟨post, apart, paired, same⟩ := paired_join ends fused
    let lowest : Bottom := ⟨post, [], [], Nat.le_refl 0, apart⟩
    have start (tokens : List Token) (fuel : Nat) :=
      process_eq_run host bridge library depth forbidden fuel tokens
    simp only [EndsAs, start]
    set one : Machine σ ρ := ⟨{ state with depth := 1 }, bridge, library, [{ ahead := tokens }]⟩
    set both : Machine σ ρ :=
      ⟨{ state with depth := 1 }, bridge, library, [{ ahead := join tokens tokens' }]⟩
    have together : one.Together True 0 0 (some lowest) both := by
      have ready : Frame.Ready True (some post) { ahead := tokens } { ahead := join tokens tokens' } :=
        ⟨rfl, by simp, paired, fun _ => .nil⟩
      have stack : Stacked True (some lowest) one.frames both.frames :=
        .bottom (.ready ready .resolve)
      exact ⟨⟨rfl, .refl Paired.refl _, rfl⟩, stack, rfl, rfl⟩
    have unbounded : Unbounded host 0 (some lowest) one :=
      .inl ⟨rfl, fun _ mem => by cases mem; rfl⟩
    exact together.runsTo_iff_behind host forbidden unbounded rfl rfl same ending

/-- Two groups with a script each, the second of them behind a block end. -/
theorem process_join_iff_of_groups :
    let ending : Ending Nat Unit :=
      ⟨⟨[.evaluated "1" "1", .evaluated "2" "2"], #[], none, 0, 2, ()⟩, [], 0, none⟩
    let tokens : List Token := [⟨.group, ""⟩, ⟨.groupScript, "1"⟩, ⟨.boundary, ";;"⟩]
    let tokens' : List Token := [⟨.group, ""⟩, ⟨.groupScript, "2"⟩, ⟨.boundary, ""⟩]
    EndsAs echo ⟨{}, 0, (), []⟩ (join tokens tokens') ending ∧
      ∃ fuel machine left, process echo fuel ⟨{}, 0, (), []⟩ tokens = .finished machine left ∧
        EndsAs echo machine tokens' ending := by
  intro ending tokens tokens'
  have joined : EndsAs echo ⟨{}, 0, (), []⟩ (join tokens tokens') ending := ⟨9, rfl⟩
  have turns := (process_join_iff echo {} 0 () rfl ⟨⟨.boundary, ";;"⟩, rfl, by decide⟩
    (by decide) ending).mp joined
  exact ⟨joined, turns.resolve_left fun faulty => nomatch faulty.2⟩

end Machine

end Linework.Expansion
