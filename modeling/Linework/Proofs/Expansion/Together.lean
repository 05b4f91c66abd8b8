import Linework.Proofs.Assoc
import Linework.Proofs.Expansion.Frames
import Linework.Proofs.Expansion.Seen

/-!
# Machines that go together

Two machines go together when the same can be seen of them and their frames are paired. They then make
the same moves until the sequence at the bottom of the first stack ends where that of the second goes
on. Two cases need care: a bound may forbid one of them alone to process a block, unless they have
begun as many; and a sequence that leads by an empty command takes one more move.
-/

namespace Linework.Expansion

/-- The bottoms of two stacks whose lowest paired sequences end at different places: what the second of
these goes on with, and the frames below them. -/
structure Bottom where
  post : List Token
  outer : List Frame
  outer' : List Frame
  fewer : outer'.length ≤ outer.length
  apart : Apart (some post)

/-- Frame by frame, two stacks are paired. -/
inductive Stacked (exact : Prop) : Option Bottom → List Frame → List Frame → Prop
  | nil : Stacked exact none [] []
  | bottom {bottom : Bottom} {frame frame' : Frame} :
      frame.Paired exact (some bottom.post) frame' →
      Stacked exact (some bottom) (frame :: bottom.outer) (frame' :: bottom.outer')
  | cons {bottom : Option Bottom} {frame frame' : Frame} {frames frames' : List Frame} :
      frame.Paired exact none frame' → Stacked exact bottom frames frames' →
      Stacked exact bottom (frame :: frames) (frame' :: frames')

/-- What is below two paired frames. -/
inductive Below (exact : Prop) : Option Bottom → Option (List Token) → List Frame → List Frame → Prop
  | bottom (bottom : Bottom) : Below exact (some bottom) (some bottom.post) bottom.outer bottom.outer'
  | stacked {bottom : Option Bottom} {frames frames' : List Frame} :
      Stacked exact bottom frames frames' → Below exact bottom none frames frames'

variable {exact : Prop} {bottom : Option Bottom} {rest : Option (List Token)}

theorem Below.push {frame frame' : Frame} {frames frames' : List Frame}
    (below : Below exact bottom rest frames frames') (paired : frame.Paired exact rest frame') :
    Stacked exact bottom (frame :: frames) (frame' :: frames') := by
  cases below with
  | bottom => exact .bottom paired
  | stacked stack => exact .cons paired stack

theorem Below.apart {frames frames' : List Frame} (below : Below exact bottom rest frames frames') :
    Apart rest := by
  cases below with
  | bottom bottom => exact bottom.apart
  | stacked => exact fun token mem => nomatch mem

namespace Stacked

theorem length_le {frames frames' : List Frame} (stack : Stacked exact bottom frames frames') :
    frames'.length ≤ frames.length := by
  induction stack with
  | nil => exact Nat.le_refl 0
  | @bottom bottom => exact Nat.succ_le_succ bottom.fewer
  | cons _ _ ih => exact Nat.succ_le_succ ih

theorem length_eq {frames frames' : List Frame} (stack : Stacked exact bottom frames frames')
    (even : ∀ bottom' ∈ bottom, bottom'.outer'.length = bottom'.outer.length) :
    frames'.length = frames.length := by
  induction stack with
  | nil => rfl
  | @bottom bottom => rw [List.length_cons, List.length_cons, even bottom rfl]
  | cons _ _ ih => rw [List.length_cons, List.length_cons, ih even]

/-- Two stacks are both empty, or have paired frames on top. -/
theorem top {frames frames' : List Frame} (stack : Stacked exact bottom frames frames') :
    bottom = none ∧ frames = [] ∧ frames' = [] ∨ ∃ rest frame frame' outer outer', frames = frame :: outer ∧
      frames' = frame' :: outer' ∧ frame.Paired exact rest frame' ∧
      Below exact bottom rest outer outer' := by
  cases stack with
  | nil => exact .inl ⟨rfl, rfl, rfl⟩
  | bottom paired => exact .inr ⟨_, _, _, _, _, rfl, rfl, paired, .bottom _⟩
  | cons paired stack => exact .inr ⟨_, _, _, _, _, rfl, rfl, paired, .stacked stack⟩

end Stacked

/-! ## Machines -/

variable {σ ρ : Type}

/-- The machine in the outcome of a move. -/
def Move.machine : Move σ ρ → Machine σ ρ
  | .next machine => machine
  | .finished machine _ => machine
  | .failed machine _ _ => machine

/-- The same can be seen of two machines, and their blocks are paired. The first has begun `extra`
blocks more. -/
structure Machine.Level (exact : Prop) (extra : Nat) (first second : Machine σ ρ) : Prop where
  seen : first.seen = second.seen
  blocks : Assoc.Alike (Paired exact none) first.state.blocks second.state.blocks
  expansions : first.state.expansions = second.state.expansions + extra

/-- Two machines that go together; `base` sequences are being processed outside of both. -/
structure Machine.Together (exact : Prop) (extra base : Nat) (bottom : Option Bottom)
    (first second : Machine σ ρ) : Prop extends Machine.Level exact extra first second where
  frames : Stacked exact bottom first.frames second.frames
  depth : first.state.depth = base + first.frames.length
  depth' : second.state.depth = base + second.frames.length

/-- The outcomes of two moves go together. -/
inductive Move.Together (exact : Prop) (extra base : Nat) (bottom : Option Bottom) :
    Move σ ρ → Move σ ρ → Prop
  | next {first second : Machine σ ρ} : first.Together exact extra base bottom second →
      Together exact extra base bottom (.next first) (.next second)
  | finished {first second : Machine σ ρ} {tokens tokens' : List Token} :
      bottom = none → first.Level exact extra second →
      Together exact extra base bottom (.finished first tokens) (.finished second tokens')
  | failed {first second : Machine σ ρ} {tokens tokens' : List Token} {fault : Fault} :
      first.Level exact extra second →
      Together exact extra base bottom (.failed first tokens fault) (.failed second tokens' fault)

/-- No bound sets two machines apart in a move of the first: they have begun equally many sequences, or
the move passes over none. -/
def Calm (extra : Nat) (first second : Machine σ ρ) (move : Move σ ρ) : Prop :=
  (extra = 0 ∧ first.state.depth = second.state.depth) ∨
    move.machine.state.skipped = first.state.skipped

variable {extra base : Nat} {first second : Machine σ ρ} (host : Host σ ρ)

namespace Machine

/-- Another state, bridge and library of which the same can be seen. -/
theorem Level.of_seen (level : first.Level exact extra second) {first' second' : Machine σ ρ}
    (seen : first'.seen = second'.seen) (blocks : first'.state.blocks = first.state.blocks)
    (blocks' : second'.state.blocks = second.state.blocks)
    (expansions : first'.state.expansions = first.state.expansions)
    (expansions' : second'.state.expansions = second.state.expansions) :
    first'.Level exact extra second' :=
  ⟨seen, blocks ▸ blocks' ▸ level.blocks, expansions ▸ expansions' ▸ level.expansions⟩

theorem Together.fail (together : first.Together exact extra base bottom second) (fault : Fault) :
    Move.Together exact extra base bottom (first.fail fault) (second.fail fault) :=
  .failed (together.toLevel.of_seen together.seen rfl rfl rfl rfl)

theorem Together.evaluate {code : String} {go go' : Machine σ ρ → String → Move σ ρ}
    (together : first.Together exact extra base bottom second)
    (calm : Calm extra first second (evaluate host first code go))
    (goes : ∀ (first' second' : Machine σ ρ) (output : String),
      first'.Together exact extra base bottom second' → first'.frames = first.frames →
      second'.frames = second.frames → Calm extra first' second' (go first' output) →
      Move.Together exact extra base bottom (go first' output) (go' second' output)) :
    Move.Together exact extra base bottom (Machine.evaluate host first code go)
      (Machine.evaluate host second code go') := by
  obtain ⟨events, results, previous, dispatched, bridge, library⟩ := seen_eq_iff.mp together.seen
  unfold Machine.evaluate at calm ⊢
  rw [bridge] at calm ⊢
  cases evaluated : host.bridge.evaluate code second.bridge with
  | mk outcome bridge' =>
      rw [evaluated] at calm
      cases outcome with
      | error fault =>
          have after : Together exact extra base bottom { first with bridge := bridge' }
              { second with bridge := bridge' } := by
            refine ⟨⟨?_, together.blocks, together.expansions⟩, together.frames, together.depth,
              together.depth'⟩
            exact seen_eq_iff.mpr ⟨events, results, previous, dispatched, rfl, library⟩
          exact after.fail fault
      | ok output =>
          refine goes _ _ output ?_ rfl rfl ?_
          · refine ⟨⟨?_, together.blocks, together.expansions⟩, together.frames, together.depth,
              together.depth'⟩
            refine seen_eq_iff.mpr ⟨?_, results, previous, dispatched, rfl, library⟩
            rw [State.events_record _ rfl, State.events_record _ rfl, events]
          · apply calm.imp id
            intro quiet
            rw [quiet, State.skipped_record]
            rfl

section Top

variable {frame frame' : Frame} {outer outer' : List Frame}

/-- The uppermost sequences, changed. -/
theorem Together.goOn {next next' : Frame} (together : first.Together exact extra base bottom second)
    (top : first.frames = frame :: outer) (top' : second.frames = frame' :: outer')
    (below : Below exact bottom rest outer outer') (paired : next.Paired exact rest next') :
    Together exact extra base bottom { first with frames := next :: outer }
      { second with frames := next' :: outer' } := by
  refine ⟨together.toLevel.of_seen together.seen rfl rfl rfl rfl, below.push paired, ?_, ?_⟩
  · rw [together.depth, top]
    rfl
  · rw [together.depth', top']
    rfl

/-- Other remarks are no difference. -/
theorem Together.note (together : first.Together exact extra base bottom second) (remark remark' : Note) :
    Together exact extra base bottom { first with state := first.state.note remark }
      { second with state := second.state.note remark' } := by
  refine ⟨together.toLevel.of_seen ?_ rfl rfl rfl rfl, together.frames, together.depth, together.depth'⟩
  obtain ⟨events, others⟩ := seen_eq_iff.mp together.seen
  refine seen_eq_iff.mpr ⟨?_, others⟩
  rw [State.events_note, State.events_note, events]

/-- Where a sequence of the second machine is under way, both machines are inside of one, and the first
is as deep as the second. -/
theorem Together.depths (together : first.Together exact extra base bottom second)
    (nonempty : second.frames ≠ []) :
    second.state.depth ≠ 0 ∧ second.state.depth ≤ first.state.depth := by
  constructor
  · rw [together.depth']
    exact Nat.ne_of_gt (Nat.add_pos_right base (List.length_pos_iff.mpr nonempty))
  · rw [together.depth, together.depth']
    exact Nat.add_le_add_left together.frames.length_le base

/-- Beginning a sequence in both machines. -/
theorem Together.begin {body body' : List Token}
    (together : first.Together exact extra base bottom second) (bodies : Paired exact none body body') :
    Together exact extra base bottom
      { first with
        state := { first.state with
          depth := first.state.depth + 1
          expansions := first.state.expansions + 1 }
        frames := { ahead := body } :: first.frames }
      { second with
        state := { second.state with
          depth := second.state.depth + 1
          expansions := second.state.expansions + 1 }
        frames := { ahead := body' } :: second.frames } := by
  refine ⟨⟨together.seen, together.blocks, ?_⟩, .cons ?_ together.frames, ?_, ?_⟩
  · simp only [together.expansions]
    exact Nat.add_right_comm _ _ _
  · exact .ready ⟨rfl, by simp, bodies, fun _ => .nil⟩ .resolve
  · simp only [together.depth]
    rfl
  · simp only [together.depth']
    rfl

/-- A sequence that the first machine begins, the second begins too. Where the first skips one, the
machines have used up as much, and the second skips it as well. -/
theorem Together.enter {body body' : List Token}
    (together : first.Together exact extra base bottom second) (nonempty : second.frames ≠ [])
    (bodies : Paired exact none body body')
    (calm : (extra = 0 ∧ first.state.depth = second.state.depth) ∨
      (enter host first body).state.skipped = first.state.skipped) :
    Together exact extra base bottom (enter host first body) (enter host second body') := by
  obtain ⟨inside', deeper⟩ := together.depths nonempty
  have inside : first.state.depth ≠ 0 := fun zero => inside' (Nat.le_zero.mp (zero ▸ deeper))
  have longer : second.state.expansions ≤ first.state.expansions := by
    rw [together.expansions]
    exact Nat.le_add_right _ extra
  have noted (remark : Note) (skips : Event.isSkip (.noted remark)) :
      ¬({ first with state := first.state.note remark } : Machine σ ρ).state.skipped =
        first.state.skipped := by
    rw [State.skipped_note, if_pos skips]
    exact Nat.succ_ne_self _
  unfold Machine.enter at calm ⊢
  simp only [inside, inside', if_false] at calm ⊢
  by_cases tooDeep : host.limits.nesting ≤ first.state.depth
  · rw [if_pos tooDeep] at calm ⊢
    rcases calm with ⟨_, sameDepth⟩ | quiet
    · rw [if_pos (sameDepth ▸ tooDeep)]
      exact together.note _ _
    · exact absurd quiet (noted _ rfl)
  · rw [if_neg tooDeep] at calm ⊢
    have notTooDeep : ¬host.limits.nesting ≤ second.state.depth := by omega
    rw [if_neg notTooDeep]
    by_cases tooMany : host.limits.expansions ≤ first.state.expansions
    · rw [if_pos tooMany] at calm ⊢
      rcases calm with ⟨same, _⟩ | quiet
      · have sameCount : first.state.expansions = second.state.expansions := by
          rw [together.expansions, same, Nat.add_zero]
        rw [if_pos (sameCount ▸ tooMany)]
        exact together.note _ _
      · exact absurd quiet (noted _ rfl)
    · have notTooMany : ¬host.limits.expansions ≤ second.state.expansions := by omega
      rw [if_neg tooMany, if_neg notTooMany]
      exact together.begin bodies

/-- Dispatching leaves machines that go together. -/
theorem Together.dispatched (together : first.Together exact extra base bottom second)
    {after after' : Machine σ ρ} (seen : after.seen = after'.seen) (kept : first.Kept after)
    (kept' : second.Kept after') : after.Together exact extra base bottom after' := by
  refine ⟨together.toLevel.of_seen seen kept.blocks kept'.blocks kept.expansions kept'.expansions,
    ?_, ?_, ?_⟩
  · rw [kept.frames, kept'.frames]
    exact together.frames
  · rw [kept.depth, kept.frames]
    exact together.depth
  · rw [kept'.depth, kept'.frames]
    exact together.depth'

/-- Turning the regions before paired positions into commands. -/
theorem Together.processRegion (together : first.Together exact extra base bottom second)
    (top : first.frames = frame :: outer) (top' : second.frames = frame' :: outer')
    (below : Below exact bottom rest outer outer') (ready : frame.Ready exact rest frame')
    (task : frame.task = .resolve) (task' : frame'.task = .resolve) (nonempty : frame'.live ≠ []) :
    Move.Together exact extra base bottom (processRegion host first frame outer)
      (processRegion host second frame' outer') := by
  obtain ⟨sameTokens, parted⟩ := ready.live.region
  obtain ⟨events, results, previous, dispatched, bridge, library⟩ := seen_eq_iff.mp together.seen
  have skipped := Frame.Paired.skip_resolve parted nonempty task task'
  rw [sameTokens] at skipped
  unfold Machine.processRegion
  simp only [sameTokens, previous]
  cases recognize host second.state.previous (frame'.live.takeWhile (!·.isBoundary)) with
  | error fault => exact together.fail fault
  | ok command? =>
      cases command? with
      | none => exact .next (together.goOn top top' below skipped)
      | some command =>
          have remembered : Together exact extra base bottom
              { first with state := { first.state with previous := some command.snapshot } }
              { second with state := { second.state with previous := some command.snapshot } } :=
            ⟨together.toLevel.of_seen
              (seen_eq_iff.mpr ⟨events, results, rfl, dispatched, bridge, library⟩) rfl rfl rfl rfl,
              together.frames, together.depth, together.depth'⟩
          have alike := dispatch_alike host remembered.seen command
          have kept := dispatch_kept host
            { first with state := { first.state with previous := some command.snapshot } } command
          have kept' := dispatch_kept host
            { second with state := { second.state with previous := some command.snapshot } } command
          simp only
          generalize dispatch host { first with
            state := { first.state with previous := some command.snapshot } } command = one,
            dispatch host { second with
              state := { second.state with previous := some command.snapshot } } command = other
            at alike kept kept' ⊢
          cases alike with
          | ok same =>
              have after := remembered.dispatched same kept kept'
              exact .next (after.goOn (kept.frames.trans top) (kept'.frames.trans top') below skipped)
          | error same => exact (remembered.dispatched same kept kept').fail _

/-- Leaving two paired sequences that have both ended. -/
theorem Together.leave (together : first.Together exact extra base bottom second)
    (top : first.frames = frame :: outer) (top' : second.frames = frame' :: outer')
    (stack : Stacked exact bottom outer outer') (tokens tokens' : List Token) :
    Move.Together exact extra base bottom
      (let machine := { first with
        state := { first.state with depth := first.state.depth - 1 }
        frames := outer }
       if outer.isEmpty then .finished machine tokens else .next machine)
      (let machine := { second with
        state := { second.state with depth := second.state.depth - 1 }
        frames := outer' }
       if outer'.isEmpty then .finished machine tokens' else .next machine) := by
  have level : Level exact extra
      { first with state := { first.state with depth := first.state.depth - 1 }, frames := outer }
      { second with state := { second.state with depth := second.state.depth - 1 }, frames := outer' } :=
    together.toLevel.of_seen together.seen rfl rfl rfl rfl
  have sameOuter : outer.isEmpty = outer'.isEmpty := by cases stack <;> rfl
  simp only [sameOuter]
  split
  · rename_i empty
    refine .finished ?_ level
    cases stack with
    | nil => rfl
    | bottom => cases empty
    | cons => cases empty
  · refine .next ⟨level, stack, ?_, ?_⟩
    · simp only [together.depth, top, List.length_cons]
      omega
    · simp only [together.depth', top', List.length_cons]
      omega

theorem Together.finishRegion (together : first.Together exact extra base bottom second)
    (top : first.frames = frame :: outer) (top' : second.frames = frame' :: outer')
    (below : Below exact bottom rest outer outer') (ready : frame.Ready exact rest frame')
    (task : frame.task = .resolve) (task' : frame'.task = .resolve)
    (calm : Calm extra first second (finishRegion host first frame outer)) :
    Move.Together exact extra base bottom (finishRegion host first frame outer)
      (finishRegion host second frame' outer') := by
  have paired := ready.live
  obtain ⟨sameBlock, parted⟩ := paired.invoked
  unfold Machine.finishRegion at calm ⊢
  rw [paired.isEmpty_eq, sameBlock] at calm ⊢
  by_cases ended : frame'.live = []
  · cases below with
    | bottom bottom => exact absurd ended paired.ne_nil
    | stacked stack =>
        rw [if_pos (List.isEmpty_iff.mpr ended), if_pos (List.isEmpty_iff.mpr ended)]
        exact together.leave top top' stack _ _
  · have goesOn : ¬frame'.live.isEmpty = true := fun empty => ended (List.isEmpty_iff.mp empty)
    rw [if_neg goesOn] at calm ⊢
    rw [if_neg goesOn]
    cases invoked : invokedBlock? frame'.live with
    | none => exact together.processRegion host top top' below ready task task' ended
    | some name =>
        rw [invoked] at parted calm
        have skipped := Frame.Paired.skip_resolve (parted (Option.some_ne_none _)) ended task task'
        have after := together.goOn top top' below skipped
        have values := together.blocks.get? name
        simp only at calm ⊢
        generalize first.state.blocks.get? name = body?, second.state.blocks.get? name = body'?
          at values calm ⊢
        cases values with
        | none => exact .next after
        | some bodies =>
            have noted := after.note (.invoking name) (.invoking name)
            refine .next (noted.enter host (List.cons_ne_nil _ _) bodies ?_)
            refine calm.imp id fun quiet => quiet.trans ?_
            rw [State.skipped_note]
            rfl

/-! ## One move -/

/-- Storing paired bodies, and erasing their definitions. -/
theorem Together.define {token : Token} {following following' : List Token}
    (together : first.Together exact extra base bottom second)
    (top : first.frames = frame :: outer) (top' : second.frames = frame' :: outer')
    (below : Below exact bottom rest outer outer') (ready : frame.Ready exact rest frame')
    (task : frame.task = .resolve) (task' : frame'.task = .resolve)
    (ahead : frame.ahead = token :: following) (ahead' : frame'.ahead = token :: following')
    (tails : Paired exact rest following following') (atStart : frame'.region = [])
    (name remainder : String) :
    Move.Together exact extra base bottom (define first frame outer name remainder following)
      (define second frame' outer' name remainder following') := by
  have bodies := tails.body (if remainder.isEmpty then [] else [⟨.text, remainder⟩])
  have parted := tails.parted_body
  have apart := below.apart
  have erase (done ahead : List Token) (count : Nat) : Focus.erase (count + 1) ⟨done, token :: ahead⟩ =
      Focus.seam ⟨done, ahead.drop count⟩ := rfl
  have erased : (frame.edit (Focus.erase ((blockBody following).length + 2))).Paired exact rest
      (frame'.edit (Focus.erase ((blockBody following').length + 2))) := by
    refine ready.edit task task' (fun before => ?_) (fun before => ?_) parted.remaining
      (fun within => absurd atStart within) apart
    · rw [ahead, erase]
    · rw [ahead', erase]
  have after := together.goOn top top' below erased
  refine .next ⟨⟨?_, after.blocks.put name bodies, after.expansions⟩, after.frames, after.depth,
    after.depth'⟩
  obtain ⟨events, others⟩ := seen_eq_iff.mp after.seen
  refine seen_eq_iff.mpr ⟨?_, others⟩
  rw [State.events_note, State.events_note]
  exact events

/-- Starting a loop with paired bodies. -/
theorem Together.startLoop {token : Token} {following following' : List Token}
    (together : first.Together exact extra base bottom second)
    (top : first.frames = frame :: outer) (top' : second.frames = frame' :: outer')
    (below : Below exact bottom rest outer outer') (ready : frame.Ready exact rest frame')
    (ahead : frame.ahead = token :: following) (ahead' : frame'.ahead = token :: following')
    (tails : Paired exact rest following following') (atStart : frame'.region = [])
    (init condition step : String) {separator separator' : Token} {left left' : List Token}
    (heads : LoopPaired exact rest following following' ([init, condition, step], separator, left)
      ([init, condition, step], separator', left')) :
    Move.Together exact extra base bottom
      (startLoop first frame outer init condition step separator left)
      (startLoop second frame' outer' init condition step separator' left') := by
  have whole := heads.cons tails token
  have live : frame.live = frame.ahead := by
    rw [Frame.live, ready.region, atStart]
    rfl
  have live' : frame'.live = frame'.ahead := by
    rw [Frame.live, atStart]
    rfl
  have parted : Parted exact rest frame.live frame'.live
      (frame.ahead.length - left.length + loopClosing separator left)
      (frame'.ahead.length - left'.length + loopClosing separator' left') := by
    rw [live, live', ahead, ahead']
    exact whole.parted
  have nonempty : frame'.live ≠ [] := by
    rw [live', ahead']
    exact List.cons_ne_nil _ _
  have tasks (tokens tokens' : List Token) : Task.Paired exact tokens tokens'
      (.beginLoop init ⟨condition, step, closeBody (loopBody separator left), 0⟩)
      (.beginLoop init ⟨condition, step, closeBody (loopBody separator' left'), 0⟩) :=
    .beginLoop ⟨rfl, rfl, rfl, whole.body⟩
  exact .next (together.goOn top top' below (Frame.Paired.skip parted nonempty tasks))

section Ahead

variable {done done' region following following' : List Token} {token : Token}

/-- Moving over the same token ahead. -/
theorem Together.advance (together : first.Together exact extra base bottom second)
    (top : first.frames = ⟨done, region, token :: following, .resolve⟩ :: outer)
    (top' : second.frames = ⟨done', region, token :: following', .resolve⟩ :: outer')
    (below : Below exact bottom rest outer outer')
    (ready : Frame.Ready exact rest ⟨done, region, token :: following, .resolve⟩
      ⟨done', region, token :: following', .resolve⟩)
    (inside : token.isBoundary = false) :
    Move.Together exact extra base bottom
      (.next { first with
        frames := Frame.advance ⟨done, region, token :: following, .resolve⟩ :: outer })
      (.next { second with
        frames := Frame.advance ⟨done', region, token :: following', .resolve⟩ :: outer' }) :=
  .next (together.goOn top top' below (ready.advance inside))

/-- Where regions begin, the same text begins a definition or a loop, or neither. -/
theorem Together.resolveText (together : first.Together exact extra base bottom second)
    (top : first.frames = ⟨done, [], token :: following, .resolve⟩ :: outer)
    (top' : second.frames = ⟨done', [], token :: following', .resolve⟩ :: outer')
    (below : Below exact bottom rest outer outer')
    (ready : Frame.Ready exact rest ⟨done, [], token :: following, .resolve⟩
      ⟨done', [], token :: following', .resolve⟩)
    (tails : Paired exact rest following following') (isText : token.kind = .text) :
    Move.Together exact extra base bottom
      (resolve host first ⟨done, [], token :: following, .resolve⟩ outer)
      (resolve host second ⟨done', [], token :: following', .resolve⟩ outer') := by
  have inside : token.isBoundary = false := by
    rw [Token.isBoundary, isText]
    rfl
  have advances := together.advance top top' below ready inside
  have loops := tails.loop []
  unfold Machine.resolve
  simp only [isText, List.isEmpty_nil, if_true]
  cases definition? token.text with
  | some found => exact together.define top top' below ready rfl rfl rfl rfl tails rfl _ _
  | none =>
      simp only
      split
      · generalize loopHead? [] following = head?, loopHead? [] following' = head'? at loops ⊢
        cases loops with
        | none => exact advances
        | @some head head' heads =>
            obtain ⟨scripts, separator, left⟩ := head
            obtain ⟨scripts', separator', left'⟩ := head'
            obtain rfl : scripts = scripts' := heads.scripts
            rcases scripts with _ | ⟨init, _ | ⟨condition, _ | ⟨step, _ | ⟨other, others⟩⟩⟩⟩
            · exact advances
            · exact advances
            · exact advances
            · exact together.startLoop top top' below ready rfl rfl tails rfl _ _ _ heads
            · exact advances
      · exact advances

/-- Resolving the same token ahead. -/
theorem Together.resolveToken (together : first.Together exact extra base bottom second)
    (top : first.frames = ⟨done, region, token :: following, .resolve⟩ :: outer)
    (top' : second.frames = ⟨done', region, token :: following', .resolve⟩ :: outer')
    (below : Below exact bottom rest outer outer')
    (ready : Frame.Ready exact rest ⟨done, region, token :: following, .resolve⟩
      ⟨done', region, token :: following', .resolve⟩)
    (tails : Paired exact rest following following')
    (calm : Calm extra first second
      (resolve host first ⟨done, region, token :: following, .resolve⟩ outer)) :
    Move.Together exact extra base bottom
      (resolve host first ⟨done, region, token :: following, .resolve⟩ outer)
      (resolve host second ⟨done', region, token :: following', .resolve⟩ outer') := by
  have advances (other : token.kind ≠ .boundary) :=
    together.advance top top' below ready (by simpa [Token.isBoundary] using other)
  cases kind : token.kind with
  | boundary =>
      unfold Machine.resolve at calm ⊢
      simp only [kind] at calm ⊢
      exact together.finishRegion host top top' below ready rfl rfl calm
  | group =>
      unfold Machine.resolve
      simp only [kind]
      refine .next (together.goOn top top' below ?_)
      exact .ready ⟨ready.region, ready.inside, ready.ahead, ready.heads⟩ (.fold kind)
  | script =>
      unfold Machine.resolve at calm ⊢
      simp only [kind] at calm ⊢
      apply together.evaluate host calm
      intro first' second' output together' same same' _
      have splice (tokens before : List Token) :
          Focus.splice (outputTokens output) ⟨before, token :: tokens⟩ =
            Focus.seam ⟨before, join (outputTokens output) tokens⟩ := rfl
      have joined := tails.join (outputTokens output)
      have spliced := ready.edit rfl rfl (splice following) (splice following') (.paired joined)
        (fun _ => joined) below.apart
      have after := together'.note (.spliced token.text (outputTokens output))
        (.spliced token.text (outputTokens output))
      exact .next (after.goOn (same.trans top) (same'.trans top') below spliced)
  | text =>
      cases region with
      | nil => exact together.resolveText host top top' below ready tails kind
      | cons last earlier =>
          unfold Machine.resolve
          simp only [kind, List.isEmpty_cons, Bool.false_eq_true, if_false]
          exact advances (by rw [kind]; decide)
  | string =>
      unfold Machine.resolve
      simp only [kind]
      exact advances (by rw [kind]; decide)
  | groupScript =>
      unfold Machine.resolve
      simp only [kind]
      exact advances (by rw [kind]; decide)

end Ahead

/-- Resolving what is ahead. -/
theorem Together.resolve (together : first.Together exact extra base bottom second)
    (top : first.frames = frame :: outer) (top' : second.frames = frame' :: outer')
    (below : Below exact bottom rest outer outer') (ready : frame.Ready exact rest frame')
    (task : frame.task = .resolve) (task' : frame'.task = .resolve)
    (calm : Calm extra first second (resolve host first frame outer)) :
    Move.Together exact extra base bottom (resolve host first frame outer)
      (resolve host second frame' outer') := by
  obtain ⟨done, region, ahead, _⟩ := frame
  obtain ⟨done', region', ahead', _⟩ := frame'
  obtain rfl : region = region' := ready.region
  obtain rfl : _ = Task.resolve := task
  obtain rfl : _ = Task.resolve := task'
  have paired := ready.ahead
  simp only at paired
  cases paired with
  | nil => exact together.finishRegion host top top' below ready rfl rfl calm
  | last closes => exact together.finishRegion host top top' below ready rfl rfl calm
  | cons token tails => exact together.resolveToken host top top' below ready tails calm

/-- Folding the same run behind the same group. -/
theorem Together.foldGroup {done done' region following following' : List Token} {group : Token}
    {text : String} {afterScript : Bool}
    (together : first.Together exact extra base bottom second)
    (top : first.frames = ⟨done, region, group :: following, .fold text afterScript⟩ :: outer)
    (top' : second.frames = ⟨done', region, group :: following', .fold text afterScript⟩ :: outer')
    (below : Below exact bottom rest outer outer')
    (ready : Frame.Ready exact rest ⟨done, region, group :: following, .fold text afterScript⟩
      ⟨done', region, group :: following', .fold text afterScript⟩)
    (isGroup : group.kind = .group)
    (calm : Calm extra first second (foldGroup host first
      ⟨done, region, group :: following, .fold text afterScript⟩ outer text afterScript)) :
    Move.Together exact extra base bottom
      (foldGroup host first ⟨done, region, group :: following, .fold text afterScript⟩ outer text
        afterScript)
      (foldGroup host second ⟨done', region, group :: following', .fold text afterScript⟩ outer' text
        afterScript) := by
  have inside : group.isBoundary = false := by
    rw [Token.isBoundary, isGroup]
    rfl
  obtain ⟨_, sameHead, tails⟩ := ready.ahead.head inside
  obtain ⟨_, rfl⟩ := List.cons.inj sameHead
  -- What the fold makes of two frames that have come past paired tokens.
  have replaced {left left' : List Token} (task : Task) (paired : Paired exact rest left left')
      (group' : Token) : Frame.Ready exact rest ⟨done, region, group' :: left, task⟩
        ⟨done', region, group' :: left', task⟩ :=
    ⟨rfl, ready.inside, .cons group' paired, ready.heads⟩
  have finished : Move.Together exact extra base bottom
      (.next { first with
        frames := Frame.advance ⟨done, region, { group with text := text } :: following, .resolve⟩
          :: outer })
      (.next { second with
        frames := Frame.advance ⟨done', region, { group with text := text } :: following', .resolve⟩
          :: outer' }) :=
    .next (together.goOn top top' below
      ((replaced .resolve tails { group with text := text }).advance inside))
  unfold Machine.foldGroup at calm ⊢
  simp only at calm ⊢
  cases tails with
  | nil => exact finished
  | last closes => exact finished
  | @cons left left' token tails =>
      simp only at calm ⊢
      have folded (text : String) (afterScript : Bool) :
          Frame.Paired exact rest ⟨done, region, group :: left, .fold text afterScript⟩
            ⟨done', region, group :: left', .fold text afterScript⟩ :=
        .ready (replaced _ tails group) (.fold isGroup)
      split
      · rename_i isScript
        rw [if_pos isScript] at calm
        apply together.evaluate host calm
        intro first' second' output together' same same' _
        exact .next (together'.goOn (same.trans top) (same'.trans top') below (folded _ true))
      · split
        · exact .next (together.goOn top top' below (folded _ false))
        · exact finished

/-- Deciding on the next iteration of two loops. -/
theorem Together.testLoop {loop loop' : Loop}
    (together : first.Together exact extra base bottom second)
    (top : first.frames = frame :: outer) (top' : second.frames = frame' :: outer')
    (below : Below exact bottom rest outer outer') (loops : loop.Paired exact loop')
    (paired : frame.Paired exact rest frame') (busy : frame.task ≠ .resolve)
    (calm : Calm extra first second (testLoop host first frame outer loop)) :
    Move.Together exact extra base bottom (testLoop host first frame outer loop)
      (testLoop host second frame' outer' loop') := by
  have left := paired.withTask busy fun _ _ => .resolve
  have entered := paired.withTask busy fun _ _ => .advanceLoop loops
  unfold Machine.testLoop at calm ⊢
  rw [← loops.iteration, ← loops.condition]
  simp only at calm ⊢
  split
  · exact .next (together.goOn top top' below left)
  · rename_i goesOn
    rw [if_neg goesOn] at calm
    apply together.evaluate host calm
    intro first' second' output together' same same' calm'
    split
    · rename_i isTrue
      rw [if_pos isTrue] at calm'
      have noted := (together'.note (.iteration loop.iteration) (.iteration loop.iteration)).goOn
        (same.trans top) (same'.trans top') below entered
      refine .next (noted.enter host (List.cons_ne_nil _ _) loops.body ?_)
      refine calm'.imp id fun quiet => quiet.trans ?_
      rw [State.skipped_note]
      rfl
    · exact .next (together'.goOn (same.trans top) (same'.trans top') below left)

end Top

/-! ## The next moves -/

/-- The lowest paired sequence of the first machine has come to its end, and nothing else is to be done
in it; that of the second goes on. -/
def Parting (bottom : Option Bottom) (first second : Machine σ ρ) : Prop :=
  ∃ (below : Bottom) (done done' : List Token), bottom = some below ∧
    first.frames = ⟨done, [], [], .resolve⟩ :: below.outer ∧
    second.frames = ⟨done', [], below.post, .resolve⟩ :: below.outer' ∧
    Headed (some below.post) done done'

/-- The next move is an empty command at the start of a sequence. -/
def Leading (machine : Machine σ ρ) : Prop :=
  ∃ separator ahead outer, separator.isBoundary ∧
    machine.frames = ⟨[], [], separator :: ahead, .resolve⟩ :: outer

/-- An empty command is passed over, and nothing can be seen of it. -/
theorem step_of_leading {machine : Machine σ ρ} {separator : Token} {ahead : List Token}
    {outer : List Frame} (boundary : separator.isBoundary)
    (frames : machine.frames = ⟨[], [], separator :: ahead, .resolve⟩ :: outer) :
    step host machine =
      .next { machine with frames := ⟨[separator], [], ahead, .resolve⟩ :: outer } := by
  have kind : separator.kind = .boundary := by simpa [Token.isBoundary] using boundary
  have noBlock : invokedBlock? (separator :: ahead) = none := by
    cases ahead <;> simp [invokedBlock?, kind]
  have nothing : (separator :: ahead).takeWhile (!·.isBoundary) = [] := by simp [boundary]
  have unnamed : recognize host machine.state.previous [] = .ok none := rfl
  simp [Machine.step, frames, Machine.resolve, kind, Machine.finishRegion, Frame.live, noBlock,
    Machine.processRegion, nothing, unnamed, Frame.skip]

section Step

variable {frame frame' : Frame} {outer outer' : List Frame}

/-- The moves of paired frames that have not come to where they part. -/
theorem Together.step_of_ready (together : first.Together exact extra base bottom second)
    (top : first.frames = frame :: outer) (top' : second.frames = frame' :: outer')
    (below : Below exact bottom rest outer outer') (ready : frame.Ready exact rest frame')
    (tasks : Task.Paired exact frame.ahead frame'.ahead frame.task frame'.task)
    (calm : Calm extra first second (step host first))
    (idle : frame.task = .resolve ∨ ∃ text afterScript, frame.task = .fold text afterScript) :
    Move.Together exact extra base bottom (step host first) (step host second) := by
  obtain ⟨done, region, ahead, task⟩ := frame
  obtain ⟨done', region', ahead', task'⟩ := frame'
  obtain rfl : region = region' := ready.region
  unfold Machine.step at calm ⊢
  rw [top] at calm ⊢
  rw [top']
  simp only at tasks
  cases tasks with
  | resolve => exact together.resolve host top top' below ready rfl rfl calm
  | fold isGroup => exact together.foldGroup host top top' below ready isGroup calm
  | beginLoop => simp at idle
  | testLoop => simp at idle
  | advanceLoop => simp at idle

/-- The moves of frames that are busy with a loop. -/
theorem Together.step_of_busy (together : first.Together exact extra base bottom second)
    (top : first.frames = frame :: outer) (top' : second.frames = frame' :: outer')
    (below : Below exact bottom rest outer outer') (paired : frame.Paired exact rest frame')
    (calm : Calm extra first second (step host first)) (busy : frame.task ≠ .resolve)
    (busy' : ∀ text afterScript, frame.task ≠ .fold text afterScript) :
    Move.Together exact extra base bottom (step host first) (step host second) := by
  obtain ⟨loop, loop', loops, whichever⟩ := paired.tasks.loop busy busy'
  unfold Machine.step at calm ⊢
  rw [top] at calm ⊢
  rw [top']
  simp only at calm ⊢
  rcases whichever with ⟨init, task, task'⟩ | ⟨task, task'⟩ | ⟨task, task'⟩
  · rw [task] at calm ⊢
    rw [task']
    apply together.evaluate host calm
    intro first' second' _ together' same same' _
    exact .next (together'.goOn (same.trans top) (same'.trans top') below
      (paired.withTask busy fun _ _ => .testLoop loops))
  · rw [task] at calm ⊢
    rw [task']
    exact together.testLoop host top top' below loops paired busy calm
  · rw [task] at calm ⊢
    rw [task']
    simp only [← loops.step]
    apply together.evaluate host calm
    intro first' second' _ together' same same' _
    exact .next (together'.goOn (same.trans top) (same'.trans top') below
      (paired.withTask busy fun _ _ => .testLoop
        ⟨loops.condition, rfl, congrArg (· + 1) loops.iteration, loops.body⟩))

/-- Behind the empty command, the second sequence leads no more. -/
theorem Together.behind_lead {token separator : Token} {earlier ahead ahead' : List Token}
    (together : first.Together exact extra base bottom second)
    (top : first.frames = ⟨token :: earlier, [], ahead, .resolve⟩ :: outer)
    (top' : second.frames = ⟨[], [], separator :: ahead', .resolve⟩ :: outer')
    (below : Below exact bottom rest outer outer') (ended : rest = none) (boundary : token.isBoundary)
    (boundary' : separator.isBoundary) (paired : Paired exact rest ahead ahead') :
    first.Together exact extra base bottom
      { second with frames := ⟨[separator], [], ahead', .resolve⟩ :: outer' } := by
  have kinds : token.kind = separator.kind := by
    rw [Token.isBoundary, beq_iff_eq] at boundary boundary'
    rw [boundary, boundary']
  have ready : Frame.Ready exact rest ⟨token :: earlier, [], ahead, .resolve⟩
      ⟨[separator], [], ahead', .resolve⟩ :=
    ⟨rfl, by simp, paired, fun _ => .cons kinds fun goesOn => absurd ended goesOn⟩
  refine ⟨together.toLevel.of_seen together.seen rfl rfl rfl rfl, ?_, together.depth, ?_⟩
  · rw [top]
    exact below.push (.ready ready .resolve)
  · rw [together.depth', top']
    rfl

/-- What the next moves of machines that go together are. -/
theorem Together.step (together : first.Together exact extra base bottom second)
    (calm : Calm extra first second (step host first)) :
    Move.Together exact extra base bottom (step host first) (step host second) ∨
      Parting bottom first second ∨
      Leading second ∧ ∃ second', step host second = .next second' ∧
        first.Together exact extra base bottom second' ∧ ¬Leading second' := by
  rcases together.frames.top with
    ⟨lowest, empty, empty'⟩ | ⟨rest, frame, frame', outer, outer', top, top', paired, below⟩
  · left
    unfold Machine.step
    rw [empty, empty']
    exact .finished lowest together.toLevel
  · by_cases idle : frame.task = .resolve ∨ ∃ text afterScript, frame.task = .fold text afterScript
    · cases paired with
      | ready ready tasks =>
          exact .inl (together.step_of_ready host top top' below ready tasks calm idle)
      | past goesOn heads tasks =>
          cases tasks with
          | resolve =>
              cases below with
              | bottom lowest =>
                  cases goesOn
                  exact .inr (.inl ⟨lowest, _, _, rfl, top, top', heads⟩)
              | stacked => cases goesOn
          | beginLoop => simp at idle
          | testLoop => simp at idle
          | advanceLoop => simp at idle
      | lead ended boundary boundary' ahead =>
          right
          right
          refine ⟨⟨_, _, _, boundary', top'⟩, _, step_of_leading host boundary' top', ?_, ?_⟩
          · exact together.behind_lead top top' below ended boundary boundary' ahead
          · rintro ⟨_, _, _, _, again⟩
            simp at again
    · rw [not_or, not_exists] at idle
      refine .inl (together.step_of_busy host top top' below paired calm idle.1 fun text afterScript => ?_)
      exact fun folds => idle.2 text ⟨afterScript, folds⟩

end Step

end Machine

end Linework.Expansion
