import Linework.Proofs.Expansion.Definition
import Mathlib

/-!
# Loops

A loop evaluates its first script, and then goes round: its condition is asked, and if it holds, a copy of
the body is processed and the last script is evaluated. No round sees what another one has done to its copy,
and the sequence that the loop stands in is not edited.
-/

namespace Linework

namespace Expansion

open Node

/-! ## Heads and bodies -/

/-- What stands between the word of a loop and the separator behind its head: three scripts, and blanks. -/
structure LoopHead (header : List Token) (init condition step : String) : Prop where
  blank : ∀ token ∈ header, token.kind = .script ∨ isBlankToken token
  scripts : (header.filter (·.kind == .script)).map (·.text) = [init, condition, step]

/-- The body of a loop behind the separator of its head, and what is left behind the loop. Where that
separator ends a block, the body is empty. -/
inductive LoopBody (separator : Token) : List Token → List Token → List Token → Prop
  | empty {left : List Token} : endsBlock separator → LoopBody separator left [] left
  | block {tokens body left : List Token} : endsBlock separator = false → Captures tokens body left →
      LoopBody separator tokens body left

theorem loopHead?_of_blank {found : List String} {header rest : List Token} {separator : Token}
    (blank : ∀ token ∈ header, token.kind = .script ∨ isBlankToken token) (bounds : separator.isBoundary)
    (three : found.length + (header.filter (·.kind == .script)).length = 3) :
    loopHead? found (header ++ separator :: rest) =
      some (found.reverse ++ (header.filter (·.kind == .script)).map (·.text), separator, rest) := by
  induction header generalizing found with
  | nil =>
      have boundary : separator.kind = .boundary := eq_of_beq bounds
      have full : found.length = 3 := three
      simp [loopHead?, isBlankToken, boundary, bounds, full]
  | cons token header ih =>
      obtain ⟨first, others⟩ := List.forall_mem_cons.mp blank
      rw [List.cons_append, loopHead?]
      rcases first with script | blankFirst
      · have more : (token.text :: found).length + (header.filter (·.kind == .script)).length = 3 := by
          rw [List.filter_cons_of_pos (by simp [script]), List.length_cons] at three
          rw [List.length_cons]
          omega
        have fewer : found.length < 3 := by
          rw [List.length_cons] at more
          omega
        rw [if_pos (by simp [script, fewer]), ih others more, List.filter_cons_of_pos (by simp [script])]
        simp
      · have text : token.kind = .text := eq_of_beq (Bool.and_eq_true_iff.mp blankFirst).1
        have noScript : (token.kind == .script) = false := by simp [text]
        rw [List.filter_cons_of_neg (by simp [noScript])] at three ⊢
        rw [if_neg (by simp [noScript]), if_pos blankFirst, ih others three]

theorem LoopHead.loopHead?_eq {header rest : List Token} {init condition step : String} {separator : Token}
    (head : LoopHead header init condition step) (bounds : separator.isBoundary) :
    loopHead? [] (header ++ separator :: rest) = some ([init, condition, step], separator, rest) := by
  have three : (header.filter (·.kind == .script)).length = 3 := by
    rw [← List.length_map (f := (·.text)), head.scripts]
    rfl
  rw [loopHead?_of_blank head.blank bounds (by simp [three]), head.scripts]
  rfl

namespace LoopBody

variable {separator : Token} {tokens body left : List Token}

theorem captured_eq (captures : LoopBody separator tokens body left) :
    (if endsBlock separator then [] else blockBody tokens) = body := by
  cases captures with
  | empty ends => exact if_pos ends
  | block goesOn captures => rw [goesOn, captures.blockBody_eq]; rfl

theorem drop_eq (captures : LoopBody separator tokens body left) :
    tokens.drop (if endsBlock separator then 0 else body.length + 1) = left := by
  cases captures with
  | empty ends => rw [if_pos ends, List.drop_zero]
  | block goesOn captures =>
      rw [goesOn]
      exact captures.drop_eq

end LoopBody

namespace Machine

variable {σ ρ : Type} (host : Host σ ρ) {machine : Machine σ ρ}

/-- A loop at the start of a region is begun, and both positions are moved behind it. -/
theorem step_of_loop {outer : List Frame} {passed header rest body left : List Token}
    {word init condition step : String} {separator : Token}
    (frames : machine.frames =
      ⟨passed.reverse, [], ⟨.text, word⟩ :: (header ++ separator :: rest), .resolve⟩ :: outer)
    (isLoop : isLoopWord word) (head : LoopHead header init condition step)
    (bounds : separator.isBoundary) (captures : LoopBody separator rest body left) :
    ∃ read, read ++ left = passed ++ ⟨.text, word⟩ :: (header ++ separator :: rest) ∧
      Machine.step host machine = .next
        { machine with frames :=
          ⟨read.reverse, [], left, .beginLoop init ⟨condition, step, closeBody body, 0⟩⟩ :: outer } := by
  let live : List Token := ⟨.text, word⟩ :: (header ++ separator :: rest)
  let count := header.length + 2 + if endsBlock separator then 0 else body.length + 1
  have dropped : live.drop count = left := by
    have behind : live.drop (header.length + 2) = rest := by
      simp [live, List.drop_append]
    rw [← List.drop_drop, behind, captures.drop_eq]
  have length : live.length - rest.length = header.length + 2 := by
    simp [live]
    omega
  refine ⟨passed ++ live.take count, ?_, ?_⟩
  · rw [← dropped, List.append_assoc, List.take_append_drop]
  · unfold Machine.step
    rw [frames]
    simp only [resolve, List.isEmpty_nil, if_true, definition?_eq_none_of_isLoopWord isLoop, isLoop,
      head.loopHead?_eq bounds, startLoop, captures.captured_eq]
    have skipped : Frame.skip ⟨passed.reverse, [], live, .resolve⟩ count =
        ⟨(passed ++ live.take count).reverse, [], left, .resolve⟩ := by
      simp [Frame.skip, Frame.live, dropped]
    rw [length, skipped]

end Machine

namespace Commons

variable {σ ρ : Type} (host : Host σ ρ) {commons commons' final : Commons σ ρ} {machine : Machine σ ρ}
  {store : Store} {frame : Frame} {outer bottom : List Frame} {moves : Nat}

/-! ## As far as a configuration -/

/-- The moves up to the first configuration that is as wanted. -/
inductive Until (wanted : Commons σ ρ → Prop) : Nat → Commons σ ρ → Commons σ ρ → Prop
  | here {commons : Commons σ ρ} : wanted commons → Until wanted 0 commons commons
  | next {moves : Nat} {commons commons' final : Commons σ ρ} : ¬wanted commons →
      Commons.step host commons = .next commons' → Until wanted moves commons' final →
      Until wanted (moves + 1) commons final

namespace Until

variable {wanted weaker : Commons σ ρ → Prop} {host}

/-- On the way to a configuration, what follows from what is wanted comes first. -/
theorem split (reaches : Until host wanted moves commons final)
    (implies : ∀ reached, wanted reached → weaker reached) :
    ∃ first later between, moves = first + later ∧ Until host weaker first commons between ∧
      Until host wanted later between final := by
  induction reaches with
  | @here commons isWanted => exact ⟨0, 0, commons, rfl, .here (implies commons isWanted), .here isWanted⟩
  | @next moves commons commons' final notYet moved rest ih =>
      by_cases isWeaker : weaker commons
      · exact ⟨0, moves + 1, commons, (Nat.zero_add _).symm, .here isWeaker, .next notYet moved rest⟩
      · obtain ⟨first, later, between, rfl, early, late⟩ := ih
        exact ⟨first + 1, later, between, by omega, .next isWeaker moved early, late⟩

theorem append {first later : Nat} {between : Commons σ ρ} (early : Until host weaker first commons between)
    (implies : ∀ reached, wanted reached → weaker reached) (late : Until host wanted later between final) :
    Until host wanted (first + later) commons final := by
  induction early with
  | here => rwa [Nat.zero_add]
  | @next moves commons commons' between notYet moved _ ih =>
      rw [Nat.add_right_comm]
      exact .next (fun isWanted => notYet (implies commons isWanted)) moved (ih late)

theorem eq_of_wanted (reaches : Until host wanted moves commons final) (isWanted : wanted commons) :
    final = commons := by
  cases reaches with
  | here => rfl
  | next notYet => exact absurd isWanted notYet

end Until

/-! ## Frames that rest -/

theorem Follows.suffix {frames : List Frame} (follows : Follows frame outer frames) : outer <:+ frames := by
  cases follows with
  | left => exact List.suffix_refl outer
  | stays _ suffix => exact (List.suffix_cons _ _).trans suffix

theorem resting_subset {frames : List Frame} (suffix : bottom <:+ frames) :
    resting bottom ⊆ resting frames := by
  apply List.append_subset.mpr
  constructor
  · exact List.subset_append_of_subset_left _ (suffix.sublist.map _).subset
  · exact List.subset_append_of_subset_right _ (suffix.sublist.filterMap _).subset

/-- A move inside of frames leaves them, and what they rest on, as it is. -/
theorem Shows.step_inside (shows : commons.Shows store machine) (top : commons.frames = frame :: outer)
    (suffix : bottom <:+ outer) (moved : Commons.step host commons = .next commons') :
    ∃ store' machine', commons'.Shows store' machine' ∧ bottom <:+ commons'.frames ∧
      ∀ sequence ∈ resting bottom, store'.nodes sequence = store.nodes sequence := by
  have both := shows.step host top
  rw [moved] at both
  generalize Machine.step host machine = move at both
  cases both with
  | next shows' keeps follows =>
      refine ⟨_, _, shows', suffix.trans follows.suffix, fun sequence rests => ?_⟩
      have rests' := resting_subset suffix rests
      have inside := shows.resting_lt (resting_subset (top ▸ List.suffix_cons frame outer) rests')
      exact keeps.nodes sequence inside (shows.ne_of_resting top rests')

/-- Until the sequences inside of frames are left, the frames and what they rest on stay as they are. -/
theorem Until.leaves (shows : commons.Shows store machine) (suffix : bottom <:+ commons.frames)
    (reaches : Until host (fun reached => reached.frames.length ≤ bottom.length) moves commons final) :
    final.frames = bottom ∧ ∃ store' machine', final.Shows store' machine' ∧
      ∀ sequence ∈ resting bottom, store'.nodes sequence = store.nodes sequence := by
  induction reaches generalizing store machine with
  | here back =>
      exact ⟨(suffix.eq_of_length_le back).symm, store, machine, shows, fun _ _ => rfl⟩
  | @next moves commons commons' final deeper moved _ ih =>
      cases top : commons.frames with
      | nil => simp [top] at deeper
      | cons frame outer =>
          rw [top] at suffix deeper
          have inside : bottom <:+ outer := by
            rcases List.suffix_cons_iff.mp suffix with same | inside
            · simp [same] at deeper
            · exact inside
          obtain ⟨store', machine', shows', suffix', kept⟩ := shows.step_inside host top inside moved
          obtain ⟨frames, store'', machine'', shows'', kept'⟩ := ih shows' suffix'
          refine ⟨frames, store'', machine'', shows'', fun sequence rests => ?_⟩
          rw [kept' sequence rests, kept sequence rests]

/-! ## Rounds -/

/-- The commons with a frame, at a task, and others around it. -/
def tasked (commons : Commons σ ρ) (frame : Frame) (outer : List Frame) (task : Task) : Commons σ ρ :=
  { commons with frames := { frame with task := task } :: outer }

/-- A new sequence of the tokens is processed up to the first configuration in which it has been left.
Where a bound forbids to process it, that is at once. -/
def Processes (tokens : List Token) (commons processed : Commons σ ρ) : Prop :=
  let made := commons.shelf.make tokens
  ∃ moves, Until host (fun reached => reached.frames.length ≤ commons.frames.length) moves
    (enter host { commons with shelf := made.1 } made.2) processed

/-- The condition of a loop has answered `true`: the last script is evaluated once the body has been
processed. -/
def accepted (commons : Commons σ ρ) (frame : Frame) (outer : List Frame) (loop : Loop) (bridge : σ) :
    Commons σ ρ :=
  ((commons.heard loop.condition "true" bridge).noting (.iteration loop.iteration)).tasked frame outer
    (.advanceLoop loop)

/-- The rounds of the loop of a frame, from one on, with the answers of the condition in their order: the
condition is asked unless the bound is reached, and after each answer `true` the tokens are processed as a
new sequence, and the last script is evaluated. -/
inductive Rounds (frame : Frame) (outer : List Frame) (tokens : List Token) :
    Loop → Commons σ ρ → List String → Commons σ ρ → Prop
  | capped {loop : Loop} {commons : Commons σ ρ} : host.limits.iterations ≤ loop.iteration →
      Rounds frame outer tokens loop commons [] commons
  | refused {loop : Loop} {commons : Commons σ ρ} {output : String} {bridge : σ} :
      ¬host.limits.iterations ≤ loop.iteration →
      host.bridge.evaluate loop.condition commons.bridge = (.ok output, bridge) → output ≠ "true" →
      Rounds frame outer tokens loop commons [output] (commons.heard loop.condition output bridge)
  | round {loop : Loop} {commons processed final : Commons σ ρ} {bridge bridge' : σ} {output : String}
      {answers : List String} : ¬host.limits.iterations ≤ loop.iteration →
      host.bridge.evaluate loop.condition commons.bridge = (.ok "true", bridge) →
      Processes host tokens (commons.accepted frame outer loop bridge) processed →
      host.bridge.evaluate loop.step processed.bridge = (.ok output, bridge') →
      Rounds frame outer tokens { loop with iteration := loop.iteration + 1 }
        (processed.heard loop.step output bridge') answers final →
      Rounds frame outer tokens loop commons ("true" :: answers) final

/-- A loop from its first script to the configuration behind it: the script is evaluated once, and then the
loop goes round. -/
def Unrolls (frame : Frame) (outer : List Frame) (init : String) (loop : Loop) (tokens : List Token)
    (commons : Commons σ ρ) (answers : List String) (final : Commons σ ρ) : Prop :=
  ∃ output bridge left, host.bridge.evaluate init commons.bridge = (.ok output, bridge) ∧
    Rounds host frame outer tokens loop (commons.heard init output bridge) answers left ∧
    final = left.tasked frame outer .resolve

section Loops

variable {host} {loop : Loop} {tokens : List Token} {answers : List String}

/-- The answers of the condition are `true`, as often as there are rounds; then comes another answer, or
nothing where the bound is reached. -/
theorem Rounds.answers_eq (rounds : Rounds host frame outer tokens loop commons answers final) :
    ∃ (count : Nat) (last : List String), answers = List.replicate count "true" ++ last ∧
      ((last = [] ∧ count = host.limits.iterations.toNat - loop.iteration) ∨
        (count < host.limits.iterations.toNat - loop.iteration ∧
          ∃ output, last = [output] ∧ output ≠ "true")) := by
  induction rounds with
  | capped bounded =>
      refine ⟨0, [], rfl, .inl ⟨rfl, ?_⟩⟩
      omega
  | @refused loop _ output _ goesOn _ other =>
      refine ⟨0, [output], rfl, .inr ⟨?_, output, rfl, other⟩⟩
      omega
  | @round loop _ _ _ _ _ _ _ goesOn _ _ _ _ ih =>
      obtain ⟨count, last, rfl, ends⟩ := ih
      refine ⟨count + 1, last, rfl, ?_⟩
      rcases ends with ⟨none, isCount⟩ | ⟨fewer, another⟩
      · refine .inl ⟨none, ?_⟩
        simp only at isCount
        omega
      · refine .inr ⟨?_, another⟩
        simp only at fewer
        omega

/-- How often the condition is asked, and how many rounds there are, where it answers `true` this often in a
row. -/
theorem Rounds.counts (rounds : Rounds host frame outer tokens loop commons answers final) {count : ℕ∞}
    (often : ∀ (index : Nat) (answer : String), answers[index]? = some answer →
      (answer = "true" ↔ (index : ℕ∞) < count)) :
    (answers.length : ℕ∞) = min (count + 1) ↑(host.limits.iterations.toNat - loop.iteration) ∧
      (answers.count "true" : ℕ∞) = min count ↑(host.limits.iterations.toNat - loop.iteration) := by
  obtain ⟨trues, last, rfl, ends⟩ := rounds.answers_eq
  have atLeast : (trues : ℕ∞) ≤ count := by
    by_contra fewer
    obtain ⟨few, rfl⟩ := ENat.ne_top_iff_exists.mp (ne_top_of_lt (not_le.mp fewer))
    have inside : few < trues := by exact_mod_cast not_le.mp fewer
    have isTrue : (List.replicate trues "true" ++ last)[few]? = some "true" := by
      rw [List.getElem?_append_left (by simpa using inside), List.getElem?_replicate, if_pos inside]
    exact lt_irrefl _ ((often few "true" isTrue).mp rfl)
  rcases ends with ⟨rfl, rfl⟩ | ⟨fewer, output, rfl, other⟩
  · have more : _ ≤ count + 1 := atLeast.trans le_self_add
    rw [min_eq_right more, min_eq_right atLeast, List.append_nil]
    simp
  · -- The answer that ends the loop is not `true`.
    have atMost : count ≤ trues :=
      not_lt.mp fun more => other ((often trues output (by simp)).mpr more)
    obtain rfl := le_antisymm atMost atLeast
    have within : (trues : ℕ∞) + 1 ≤ ↑(host.limits.iterations.toNat - loop.iteration) := by
      exact_mod_cast fewer
    have within' : (trues : ℕ∞) ≤ _ := le_self_add.trans within
    have noMore : [output].count "true" = 0 := List.count_eq_zero.mpr (by simpa using other.symm)
    rw [min_eq_left within, min_eq_left within', List.count_append, noMore]
    simp

/-- The loop of the innermost frame is at its condition. Its body, and the sequence that it stands in, read
so. -/
structure Looping (store : Store) (commons : Commons σ ρ) (frame : Frame) (outer : List Frame) (loop : Loop)
    (tokens : List Token) (passed ahead : List Node) : Prop where
  shows : ∃ machine, (commons.tasked frame outer (.testLoop loop)).Shows store machine
  stands : frame.Stands store passed [] ahead
  body : store.tokens loop.body = tokens

/-- A frame between the moves of its loop may take another of them up. -/
theorem Shows.tasked {task task' : Task} {body : SequenceId}
    (shows : commons.Shows store machine) (top : commons.frames = { frame with task := task } :: outer)
    (under : task.body? = some body)
    (answers : ∀ ahead, ∃ task'', task'.Shows store task'' [] ahead)
    (bodies : ∀ body' ∈ task'.body?, body' = body) :
    ∃ machine', (commons.tasked frame outer task').Shows store machine' := by
  obtain ⟨cut, cuts, shown, _, cutsEq⟩ := List.forall₂_cons_left_iff.mp (top ▸ shows.frames)
  cases shown with
  | @mk passed region ahead cutTask stands taskShows =>
      have nowhere : region = [] := by
        change task.Shows store cutTask region ahead at taskShows
        cases taskShows with
        | resolve | fold => cases under
        | beginLoop | testLoop | advanceLoop => rfl
      subst nowhere
      obtain ⟨task'', answer⟩ := answers ahead
      have shown' : Frame.Shows store { frame with task := task' } (Walk.Frame.cut passed [] ahead task'') :=
        .mk (stands.withTask task') answer
      have same : ({ frame with task := task' } : Frame).sequence = frame.sequence := rfl
      refine ⟨_, shows.goOn top cutsEq shows.shelf (.refl _ _) same shown' ?_⟩
      intro body' under'
      obtain rfl := bodies body' under'
      exact shows.body (top ▸ List.mem_cons_self) under

/-! ### The moves of a loop -/

theorem evaluate_ok {code output : String} {bridge : σ} (go : Commons σ ρ → String → Move σ ρ)
    (answered : host.bridge.evaluate code commons.bridge = (.ok output, bridge)) :
    evaluate host commons code go = go (commons.heard code output bridge) output := by
  rw [evaluate, answered]
  rfl

theorem evaluate_error {code : String} {fault : Fault} {bridge : σ} (go : Commons σ ρ → String → Move σ ρ)
    (answered : host.bridge.evaluate code commons.bridge = (.error fault, bridge)) :
    evaluate host commons code go ≠ .next commons' := by
  rw [evaluate, answered]
  nofun

theorem step_of_capped (bounded : host.limits.iterations ≤ loop.iteration) :
    Commons.step host (commons.tasked frame outer (.testLoop loop)) =
      .next (commons.tasked frame outer .resolve) := by
  change testLoop host _ _ _ _ = _
  rw [testLoop, if_pos bounded]
  rfl

theorem step_of_refused {output : String} {bridge : σ} (goesOn : ¬host.limits.iterations ≤ loop.iteration)
    (answered : host.bridge.evaluate loop.condition commons.bridge = (.ok output, bridge))
    (other : output ≠ "true") :
    Commons.step host (commons.tasked frame outer (.testLoop loop)) =
      .next ((commons.heard loop.condition output bridge).tasked frame outer .resolve) := by
  have answered' : host.bridge.evaluate loop.condition
      (commons.tasked frame outer (.testLoop loop)).bridge = (.ok output, bridge) := answered
  change testLoop host _ _ _ _ = _
  rw [testLoop, if_neg goesOn, evaluate_ok _ answered']
  simp only [beq_iff_eq, other, if_false]
  rfl

theorem step_of_fault {fault : Fault} {bridge : σ} (goesOn : ¬host.limits.iterations ≤ loop.iteration)
    (answered : host.bridge.evaluate loop.condition commons.bridge = (.error fault, bridge)) :
    Commons.step host (commons.tasked frame outer (.testLoop loop)) ≠ .next commons' := by
  change testLoop host _ _ _ _ ≠ _
  rw [testLoop, if_neg goesOn]
  exact evaluate_error _ answered

theorem step_of_advance {output : String} {bridge : σ}
    (top : commons.frames = { frame with task := .advanceLoop loop } :: outer)
    (answered : host.bridge.evaluate loop.step commons.bridge = (.ok output, bridge)) :
    Commons.step host commons =
      .next ((commons.heard loop.step output bridge).tasked frame outer
        (.testLoop { loop with iteration := loop.iteration + 1 })) := by
  rw [Commons.step, top]
  exact evaluate_ok _ answered

theorem step_of_advance_fault {fault : Fault} {bridge : σ}
    (top : commons.frames = { frame with task := .advanceLoop loop } :: outer)
    (answered : host.bridge.evaluate loop.step commons.bridge = (.error fault, bridge)) :
    Commons.step host commons ≠ .next commons' := by
  rw [Commons.step, top]
  exact evaluate_error _ answered

/-- What rests while a new sequence is processed stays as it is. -/
theorem Processes.leaves {processed : Commons σ ρ} (shows : commons.Shows store machine)
    (processes : Processes host tokens commons processed) :
    processed.frames = commons.frames ∧ ∃ store' machine', processed.Shows store' machine' ∧
      ∀ sequence ∈ resting commons.frames, store'.nodes sequence = store.nodes sequence := by
  obtain ⟨moves, reaches⟩ := processes
  have entered := shows.enterNew host tokens
  obtain ⟨frames, store', machine', shows', kept⟩ :=
    Until.leaves host entered (suffix_enter host _ _) reaches
  refine ⟨frames, store', machine', shows', fun sequence rests => ?_⟩
  rw [kept sequence rests]
  exact store.nodes_make tokens (shows.resting_lt rests).ne'

namespace Looping

variable {passed ahead : List Node}

theorem shows_accepted (looping : Looping store commons frame outer loop tokens passed ahead) (bridge : σ) :
    ∃ machine, (commons.accepted frame outer loop bridge).Shows store machine := by
  obtain ⟨machine, shows⟩ := looping.shows
  have noted := (shows.heard loop.condition "true" bridge).noting (.iteration loop.iteration)
  exact noted.tasked rfl rfl (fun _ => ⟨_, .advanceLoop⟩) (by simp [Task.body?])

/-- After a round, the loop is at its condition again, with its body and its sequence as they were. -/
theorem again {bridge bridge' : σ} {processed : Commons σ ρ} {output : String}
    (looping : Looping store commons frame outer loop tokens passed ahead)
    (processes : Processes host tokens (commons.accepted frame outer loop bridge) processed) :
    ∃ store', Looping store' (processed.heard loop.step output bridge') frame outer
      { loop with iteration := loop.iteration + 1 } tokens passed ahead := by
  obtain ⟨machine, shows⟩ := looping.shows_accepted bridge
  obtain ⟨frames, store', machine', shows', kept⟩ := Processes.leaves shows processes
  have under : loop.body ∈ Task.body? (.advanceLoop loop) := rfl
  refine ⟨store', ?_, ?_, ?_⟩
  · have heard := shows'.heard loop.step output bridge'
    exact heard.tasked frames rfl (fun _ => ⟨_, .testLoop⟩) (by simp [Task.body?])
  · have isBusy : frame.sequence ∈ busy processed.frames := by
      rw [frames]
      exact List.mem_cons_self
    refine ⟨shows'.busy_lt isBusy, ?_, looping.stands.main, looping.stands.lookahead, by simp⟩
    rw [kept frame.sequence (List.mem_append_left _ List.mem_cons_self), looping.stands.nodes]
  · rw [Store.tokens, kept loop.body (body_mem_resting List.mem_cons_self under)]
    exact looping.body

/-- What is begun in a round is a new sequence of the tokens of the body. -/
theorem step_of_accepted {bridge : σ} (looping : Looping store commons frame outer loop tokens passed ahead)
    (goesOn : ¬host.limits.iterations ≤ loop.iteration)
    (answered : host.bridge.evaluate loop.condition commons.bridge = (.ok "true", bridge)) :
    let accepted := commons.accepted frame outer loop bridge
    let made := accepted.shelf.make tokens
    Commons.step host (commons.tasked frame outer (.testLoop loop)) =
      .next (enter host { accepted with shelf := made.1 } made.2) := by
  obtain ⟨machine, shows⟩ := looping.shows_accepted bridge
  have answered' : host.bridge.evaluate loop.condition
      (commons.tasked frame outer (.testLoop loop)).bridge = (.ok "true", bridge) := answered
  have copied : enterCopy host (commons.accepted frame outer loop bridge) loop.body =
      enter host
        { commons.accepted frame outer loop bridge with
          shelf := ((commons.accepted frame outer loop bridge).shelf.make tokens).1 }
        ((commons.accepted frame outer loop bridge).shelf.make tokens).2 := by
    rw [enterCopy, Shelf.copy, shows.shelf.content_eq, looping.body]
  intro accepted made
  change testLoop host _ _ _ _ = _
  rw [testLoop, if_neg goesOn, evaluate_ok _ answered']
  exact congrArg Move.next copied

end Looping

/-! ### A loop as a whole -/

/-- The frame is the innermost one, and resolves what is at its cursors. -/
def Resumes (frame : Frame) (outer : List Frame) (reached : Commons σ ρ) : Prop :=
  reached.frames = { frame with task := .resolve } :: outer

theorem not_resumes {task : Task} {body : SequenceId}
    (top : commons.frames = { frame with task := task } :: outer) (under : task.body? = some body) :
    ¬commons.Resumes frame outer := by
  intro resumes
  obtain ⟨same, _⟩ := List.cons.inj (top.symm.trans resumes)
  obtain rfl : task = .resolve := congrArg Frame.task same
  cases under

theorem length_of_resumes {reached : Commons σ ρ} {bridge : σ} (resumes : reached.Resumes frame outer) :
    reached.frames.length ≤ (commons.accepted frame outer loop bridge).frames.length := by
  rw [resumes]
  rfl

namespace Looping

variable {passed ahead : List Node} {left : Commons σ ρ}

/-- A run that comes back to the frame behind its loop has gone through the rounds of the loop. -/
theorem rounds (looping : Looping store commons frame outer loop tokens passed ahead)
    (reaches : Until host (Resumes frame outer) moves (commons.tasked frame outer (.testLoop loop)) final) :
    ∃ answers left, Rounds host frame outer tokens loop commons answers left ∧
      final = left.tasked frame outer .resolve := by
  induction moves using Nat.strong_induction_on generalizing commons store loop with
  | _ moves ih =>
      cases reaches with
      | here resumes => exact absurd resumes (not_resumes rfl rfl)
      | @next moves _ next _ _ moved rest =>
          by_cases bounded : host.limits.iterations ≤ loop.iteration
          · rw [step_of_capped bounded] at moved
            obtain rfl := Move.next.inj moved
            exact ⟨[], commons, .capped bounded, rest.eq_of_wanted rfl⟩
          rcases answered : host.bridge.evaluate loop.condition commons.bridge with ⟨fault | output, bridge⟩
          · exact absurd moved (step_of_fault bounded answered)
          by_cases isTrue : output = "true"
          · subst isTrue
            rw [looping.step_of_accepted bounded answered] at moved
            obtain rfl := Move.next.inj moved
            obtain ⟨first, later, between, rfl, early, late⟩ := rest.split fun _ => length_of_resumes
            have processes : Processes host tokens (commons.accepted frame outer loop bridge) between :=
              ⟨first, early⟩
            obtain ⟨machine, shows⟩ := looping.shows_accepted bridge
            obtain ⟨top, _⟩ := Processes.leaves shows processes
            cases late with
            | here resumes => exact absurd resumes (not_resumes top rfl)
            | @next later _ _ _ _ moved' rest' =>
                rcases stepped : host.bridge.evaluate loop.step between.bridge with
                  ⟨fault | output, bridge'⟩
                · exact absurd moved' (step_of_advance_fault top stepped)
                · rw [step_of_advance top stepped] at moved'
                  obtain rfl := Move.next.inj moved'
                  obtain ⟨store', again⟩ := looping.again processes
                  obtain ⟨answers, left, rounds, isLeft⟩ := ih later (by omega) again rest'
                  exact ⟨_, left, .round bounded answered processes stepped rounds, isLeft⟩
          · rw [step_of_refused bounded answered isTrue] at moved
            obtain rfl := Move.next.inj moved
            exact ⟨[output], _, .refused bounded answered isTrue, rest.eq_of_wanted rfl⟩

/-- A run goes through the rounds of a loop, and comes back to the frame behind it. -/
theorem comes_back (looping : Looping store commons frame outer loop tokens passed ahead)
    (rounds : Rounds host frame outer tokens loop commons answers left) :
    ∃ moves, Until host (Resumes frame outer) moves (commons.tasked frame outer (.testLoop loop))
      (left.tasked frame outer .resolve) := by
  induction rounds generalizing store with
  | capped bounded => exact ⟨1, .next (not_resumes rfl rfl) (step_of_capped bounded) (.here rfl)⟩
  | refused goesOn answered other =>
      exact ⟨1, .next (not_resumes rfl rfl) (step_of_refused goesOn answered other) (.here rfl)⟩
  | @round loop commons processed left bridge bridge' output answers goesOn answered processes stepped _ ih =>
      obtain ⟨machine, shows⟩ := looping.shows_accepted bridge
      obtain ⟨top, _⟩ := Processes.leaves shows processes
      obtain ⟨store', again⟩ := looping.again processes
      obtain ⟨later, rest⟩ := ih again
      obtain ⟨first, early⟩ := processes
      have moved := looping.step_of_accepted goesOn answered
      have late := Until.next (not_resumes top rfl) (step_of_advance top stepped) rest
      exact ⟨_, .next (not_resumes rfl rfl) moved (early.append (fun _ => length_of_resumes) late)⟩

/-- Behind a loop, the sequence that it stands in is as it was. -/
theorem leaves (looping : Looping store commons frame outer loop tokens passed ahead)
    (rounds : Rounds host frame outer tokens loop commons answers left) :
    ∃ store' machine, (left.tasked frame outer .resolve).Shows store' machine ∧
      frame.Stands store' passed [] ahead := by
  induction rounds generalizing store with
  | capped =>
      obtain ⟨machine, shows⟩ := looping.shows
      obtain ⟨machine', shows'⟩ := shows.tasked rfl rfl (fun _ => ⟨_, .resolve⟩) fun _ under => by cases under
      exact ⟨store, machine', shows', looping.stands⟩
  | @refused loop commons output bridge =>
      obtain ⟨machine, shows⟩ := looping.shows
      have heard := shows.heard loop.condition output bridge
      obtain ⟨machine', shows'⟩ := heard.tasked rfl rfl (fun _ => ⟨_, .resolve⟩) fun _ under => by cases under
      exact ⟨store, machine', shows', looping.stands⟩
  | round _ _ processes _ _ ih =>
      obtain ⟨store', again⟩ := looping.again processes
      exact ih again

end Looping

end Loops

/-! ## Loops over a common memory -/

section Begun

variable {host} {loop : Loop} {init : String} {tokens : List Token} {passed ahead : List Node}

theorem Task.Shows.loop_of_begin {task : Task} {loop' : Expansion.Loop} {region : List Node}
    (answers : task.Shows store (.beginLoop init loop') region ahead) :
    ∃ loop, task = .beginLoop init loop ∧ loop.condition = loop'.condition ∧ loop.step = loop'.step ∧
      store.tokens loop.body = loop'.body ∧ loop.iteration = loop'.iteration := by
  cases answers with
  | @beginLoop _ _ loop => exact ⟨loop, rfl, rfl, rfl, rfl, rfl⟩

/-- Once the first script of a loop has been evaluated, the loop is at its condition. -/
theorem Shows.looping (shows : commons.Shows store machine)
    (top : commons.frames = { frame with task := .beginLoop init loop } :: outer)
    (stands : frame.Stands store passed [] ahead) (body : store.tokens loop.body = tokens) (output : String)
    (bridge : σ) :
    Looping store (commons.heard init output bridge) frame outer loop tokens passed ahead := by
  refine ⟨?_, stands, body⟩
  exact (shows.heard init output bridge).tasked top rfl (fun _ => ⟨_, .testLoop⟩) (by simp [Task.body?])

/-- A run comes back to the frame of a loop just where it has unrolled the loop. -/
theorem unrolls_iff
    (looping : ∀ output bridge,
      Looping store (commons.heard init output bridge) frame outer loop tokens passed ahead)
    (top : commons.frames = { frame with task := .beginLoop init loop } :: outer) :
    (∃ moves, Until host (Resumes frame outer) moves commons final) ↔
      ∃ answers, Unrolls host frame outer init loop tokens commons answers final := by
  have next {output : String} {bridge : σ}
      (answered : host.bridge.evaluate init commons.bridge = (.ok output, bridge)) :
      Commons.step host commons =
        .next ((commons.heard init output bridge).tasked frame outer (.testLoop loop)) := by
    rw [Commons.step, top]
    exact evaluate_ok _ answered
  constructor
  · rintro ⟨moves, reaches⟩
    cases reaches with
    | here resumes => exact absurd resumes (not_resumes top rfl)
    | next _ moved rest =>
        rcases answered : host.bridge.evaluate init commons.bridge with ⟨fault | output, bridge⟩
        · rw [Commons.step, top] at moved
          exact absurd moved (evaluate_error _ answered)
        · rw [next answered] at moved
          obtain rfl := Move.next.inj moved
          obtain ⟨answers, left, rounds, isLeft⟩ := (looping output bridge).rounds rest
          exact ⟨answers, output, bridge, left, answered, rounds, isLeft⟩
  · rintro ⟨answers, output, bridge, left, answered, rounds, rfl⟩
    obtain ⟨moves, reaches⟩ := (looping output bridge).comes_back rounds
    exact ⟨moves + 1, .next (not_resumes top rfl) (next answered) reaches⟩

end Begun

/-- A loop at the start of a region, with three scripts in its head. Its body reaches up to the separator
that ends its block, or is empty where the separator behind the head does. The cursors are moved behind it
at once, and nothing is evaluated or called. From there, the run comes back to its frame just where it
unrolls the loop: the first script is evaluated once; the condition is asked, and as long as it answers
`true` and the bound is not reached, the tokens of the body and an empty separator are processed as a new
sequence, and the last script is evaluated. Where the condition answers `true` a number of times in a row,
possibly without end, the body and the last script take their turns as often, and the condition is asked
once more, both at most as often as the bound says. The sequence is left as it was, and both cursors are at
what stands behind the loop. -/
theorem loop_unrolls (sound : commons.Sound) (top : commons.frames = frame :: outer)
    (resolving : frame.task = .resolve) {passed header rest body left : List Token}
    {word init condition step : String} {separator : Token}
    (starts : frame.At commons.shelf passed (⟨.text, word⟩ :: (header ++ separator :: rest)))
    (isLoop : isLoopWord word) (head : LoopHead header init condition step)
    (bounds : separator.isBoundary) (captures : LoopBody separator rest body left) :
    let bound := host.limits.iterations.toNat
    ∃ begun frame' loop, Commons.step host commons = .next begun ∧
      begun.core.seen = commons.core.seen ∧ frame'.sequence = frame.sequence ∧
      loop.condition = condition ∧ loop.step = step ∧ loop.iteration = 0 ∧
      ∀ final,
        ((∃ moves, Until host (Resumes frame' outer) moves begun final) ↔
          ∃ answers, Unrolls host frame' outer init loop (closeBody body) begun answers final) ∧
        ∀ answers, Unrolls host frame' outer init loop (closeBody body) begun answers final →
          (∀ count : ℕ∞,
            (∀ (index : Nat) (answer : String), answers[index]? = some answer →
              (answer = "true" ↔ (index : ℕ∞) < count)) →
            (answers.length : ℕ∞) = min (count + 1) bound ∧
              (answers.count "true" : ℕ∞) = min count bound) ∧
          final.shelf.content frame.sequence = commons.shelf.content frame.sequence ∧
          ∃ read, frame'.At final.shelf read left := by
  intro bound
  obtain ⟨store, machine, shows⟩ := sound
  obtain ⟨cut, cuts, shown, others, cutsEq⟩ := List.forall₂_cons_left_iff.mp (top ▸ shows.frames)
  have cutEq := starts.cut_eq resolving shows.shelf shown
  obtain ⟨read, whole, moved⟩ := Machine.step_of_loop host (cutEq ▸ cutsEq) isLoop head bounds captures
  obtain ⟨begun, store', stepEq, shows', _, follows⟩ := shows.step_next host top moved
  obtain ⟨inner, outer', shown', others', top'⟩ := List.forall₂_cons_right_iff.mp shows'.frames
  rw [top'] at follows
  obtain ⟨same, rfl⟩ := follows.stays_of_length (others'.length_eq.trans others.length_eq.symm)
  obtain ⟨passedNodes, ahead, stands, readEq, leftEq, answers⟩ := shown'.stands
  obtain ⟨loop, taskEq, rfl, rfl, bodyEq, firstRound⟩ := answers.loop_of_begin
  have top'' : begun.frames = { inner with task := .beginLoop init loop } :: outer' := by
    rw [top', ← taskEq]
  have looping := shows'.looping top'' stands bodyEq
  refine ⟨begun, inner, loop, stepEq, ?_, same, rfl, rfl, firstRound, fun final => ⟨unrolls_iff looping top'', ?_⟩⟩
  · rw [shows'.seen_eq, shows.seen_eq]
    rfl
  · rintro answers ⟨output, bridge, final, answered, rounds, rfl⟩
    obtain ⟨store'', machine'', shows'', stands''⟩ := (looping output bridge).leaves rounds
    have ends := stands''.at shows''.shelf
    rw [readEq, leftEq] at ends
    refine ⟨fun count often => ?_, ?_, read, ends⟩
    · have counts := rounds.counts often
      rwa [firstRound, Nat.sub_zero] at counts
    · rw [← same, ends.whole, whole, same, starts.whole]

/-- The configuration after a move, unless the run is over. -/
def moved? (commons : Commons σ ρ) : Option (Commons σ ρ) :=
  match Commons.step host commons with
  | .next commons => some commons
  | _ => none

theorem moved?_eq_some_iff : moved? host commons = some commons' ↔ Commons.step host commons = .next commons' := by
  unfold moved?
  cases Commons.step host commons <;> simp

/-- Move until as few frames are left. -/
def untilFew (few : Nat) : Nat → Commons σ ρ → Option (Commons σ ρ)
  | 0, commons => if commons.frames.length ≤ few then some commons else none
  | fuel + 1, commons =>
    if commons.frames.length ≤ few then some commons else (moved? host commons).bind (untilFew few fuel)

/-- Process a new sequence of the tokens in at most so many moves. -/
def processing (fuel : Nat) (tokens : List Token) (commons : Commons σ ρ) : Option (Commons σ ρ) :=
  let made := commons.shelf.make tokens
  untilFew host commons.frames.length fuel (enter host { commons with shelf := made.1 } made.2)

theorem exists_until_of_untilFew {few fuel : Nat} (reached : untilFew host few fuel commons = some final) :
    ∃ moves, Until host (fun reached => reached.frames.length ≤ few) moves commons final := by
  induction fuel generalizing commons with
  | zero =>
      obtain ⟨left, same⟩ := Option.ite_none_right_eq_some.mp reached
      obtain rfl := Option.some.inj same
      exact ⟨0, .here left⟩
  | succ fuel ih =>
      unfold untilFew at reached
      by_cases left : commons.frames.length ≤ few
      · rw [if_pos left] at reached
        obtain rfl := Option.some.inj reached
        exact ⟨0, .here left⟩
      · rw [if_neg left] at reached
        obtain ⟨commons', moved, reached⟩ := Option.bind_eq_some_iff.mp reached
        obtain ⟨moves, reaches⟩ := ih reached
        exact ⟨moves + 1, .next left ((moved?_eq_some_iff host).mp moved) reaches⟩

theorem processes_of_processing {fuel : Nat} {tokens : List Token}
    (reached : processing host fuel tokens commons = some final) : Processes host tokens commons final :=
  exists_until_of_untilFew host reached

/-- Collaborators that let a loop with the condition `c` go round twice when its scripts are the first. The
bridge counts the scripts, and the library the calls of `x`. -/
def twice : Host Nat Nat where
  bridge :=
    { evaluate := fun code count =>
        (.ok (if code = "c" ∧ count < 5 then "true" else code), count + 1)
      bind := fun _ _ count => count }
  registry := ⟨fun name => .ok (name == "x"), fun _ => .ok [], fun _ _ calls => (.ok none, calls + 1)⟩

/-- The commons in which tokens begin to be processed. -/
def twiceOn (tokens : List Token) : Commons Nat Nat :=
  let empty : Commons Nat Nat := { bridge := 0, library := 0 }
  let made := empty.shelf.make tokens
  enter twice { empty with shelf := made.1 } made.2

/-- A loop with a text in its body, and a text behind it. -/
def loopTokens : List Token :=
  [⟨.text, ".for "⟩, ⟨.script, "i"⟩, ⟨.script, "c"⟩, ⟨.script, "s"⟩, ⟨.boundary, "\n"⟩, ⟨.text, "x"⟩,
    ⟨.boundary, ";;"⟩, ⟨.text, "y"⟩, ⟨.boundary, ";"⟩]

/-- The two rounds of the loop: what has been counted after the first and after the second. -/
theorem processing_twice (frame : Frame) (sequence : SequenceId) :
    (moved? twice (twiceOn loopTokens)).bind (fun begun =>
      (processing twice 9 (closeBody [⟨.text, "x"⟩])
        ((begun.heard "i" "i" 1).accepted frame [] ⟨"c", "s", sequence, 0⟩ 2)).bind fun once =>
        (processing twice 9 (closeBody [⟨.text, "x"⟩])
          ((once.heard "s" "s" 3).accepted frame [] ⟨"c", "s", sequence, 1⟩ 4)).map fun again =>
            (once.bridge, again.bridge, again.library)) = some (2, 4, 2) := by
  cbv

/-- A loop that goes round twice: its body is called twice, and six scripts are evaluated, the condition three
times. -/
theorem loop_unrolls_of_document :
    let commons := twiceOn (Token.tokenize ".for {i}{c}{s}\nx;;y;")
    ∃ begun frame final moves, Commons.step twice commons = .next begun ∧
      Until twice (Resumes frame []) moves begun final ∧
      final.shelf.content frame.sequence = commons.shelf.content frame.sequence ∧
      final.bridge = 6 ∧ final.library = 2 := by
  let header : List Token := [⟨.script, "i"⟩, ⟨.script, "c"⟩, ⟨.script, "s"⟩]
  let body : List Token := [⟨.text, "x"⟩]
  let left : List Token := [⟨.text, "y"⟩, ⟨.boundary, ";"⟩]
  have read : Token.tokenize ".for {i}{c}{s}\nx;;y;" = loopTokens := by
    decide +kernel
  rw [read]
  intro commons
  obtain ⟨frame, sound, top, resolving, starts⟩ :=
    Sound.opens twice ⟨_, _, shows_empty 0 0⟩ rfl rfl (by decide) loopTokens
  have fused : Token.fused loopTokens =
      ⟨.text, ".for "⟩ :: (header ++ ⟨.boundary, "\n"⟩ :: (body ++ ⟨.boundary, ";;"⟩ :: left)) := by
    decide +kernel
  have head : LoopHead header "i" "c" "s" := ⟨by decide +kernel, by decide +kernel⟩
  have captures : LoopBody ⟨.boundary, "\n"⟩ (body ++ ⟨.boundary, ";;"⟩ :: left) body left :=
    .block (by decide +kernel) (.ended (by decide +kernel) (by decide +kernel))
  obtain ⟨begun, frame', ⟨condition, step, sequence, iteration⟩, moved, seen, same, isCondition, isStep, first,
    back⟩ := loop_unrolls twice sound top resolving (fused ▸ starts) (by decide +kernel) head rfl captures
  obtain rfl : condition = "c" := isCondition
  obtain rfl : step = "s" := isStep
  obtain rfl : iteration = 0 := first
  have answered : begun.bridge = 0 := congrArg Seen.bridge seen
  have began : moved? twice (twiceOn loopTokens) = some begun := (moved?_eq_some_iff twice).mpr moved
  have goes := processing_twice frame' sequence
  rw [began, Option.bind_some] at goes
  obtain ⟨once, firstRound, goes⟩ := Option.bind_eq_some_iff.mp goes
  obtain ⟨again, secondRound, counts⟩ := Option.map_eq_some_iff.mp goes
  obtain ⟨afterOnce, afterAgain, calls⟩ : once.bridge = 2 ∧ again.bridge = 4 ∧ again.library = 2 := by
    simpa using counts
  have rounds : Rounds twice frame' [] (closeBody body) ⟨"c", "s", sequence, 0⟩ (begun.heard "i" "i" 1)
      ["true", "true", "c"] ((again.heard "s" "s" 5).heard "c" "c" 6) := by
    have within (round : Fin 3) : ¬twice.limits.iterations ≤ (round : Nat) := by
      revert round
      decide
    refine .round (within 0) rfl (processes_of_processing twice firstRound) ?_
      (.round (within 1) rfl (processes_of_processing twice secondRound) ?_ (.refused (within 2) rfl (by decide)))
    · rw [afterOnce]
      rfl
    · rw [afterAgain]
      rfl
  have unrolls : Unrolls twice frame' [] "i" ⟨"c", "s", sequence, 0⟩ (closeBody body) begun
      ["true", "true", "c"] _ :=
    ⟨"i", 1, _, by rw [answered]; rfl, rounds, rfl⟩
  obtain ⟨moves, reaches⟩ := (back _).1.mpr ⟨_, unrolls⟩
  exact ⟨begun, frame', _, moves, moved, reaches, same ▸ ((back _).2 _ unrolls).2.1, rfl, calls⟩

end Commons

end Expansion

end Linework
