import Linework.Proofs.Expansion.Fragments
import Linework.Proofs.Expansion.Separator

/-!
# Commands before scripts

What stands behind a separator has no part in what is done before it, as long as nothing is captured:
the run over a sequence that ends with a separator, and the run over the same sequence with others
behind it, make the same moves until the first has ended. So whatever a source does up to a separator,
it does before any script behind that separator is evaluated.
-/

namespace Linework

variable {first second rest tokens : List Token} {token : Token}

/-- The last token is a separator. -/
def Terminated (tokens : List Token) : Prop :=
  ∃ last ∈ tokens.getLast?, last.isBoundary

theorem Terminated.ne_nil (terminated : Terminated tokens) : tokens ≠ [] := by
  rintro rfl
  obtain ⟨_, impossible, _⟩ := terminated
  cases impossible

theorem Terminated.append (terminated : Terminated second) (first : List Token) :
    Terminated (first ++ second) := by
  obtain ⟨last, isLast, boundary⟩ := terminated
  refine ⟨last, ?_, boundary⟩
  rw [List.getLast?_append, Option.mem_def.mp isLast]
  rfl

theorem Terminated.tail (terminated : Terminated (token :: tokens)) :
    tokens = [] ∧ token.isBoundary ∨ Terminated tokens := by
  obtain ⟨last, isLast, boundary⟩ := terminated
  cases tokens with
  | nil =>
      obtain rfl : token = last := by simpa using isLast
      exact .inl ⟨rfl, boundary⟩
  | cons next others => exact .inr ⟨last, by simpa using isLast, boundary⟩

/-- What follows a token that is no separator ends with one. -/
theorem Terminated.tail_of_inside (terminated : Terminated (token :: tokens))
    (inside : token.isBoundary = false) : Terminated tokens := by
  rcases terminated.tail with ⟨_, boundary⟩ | terminated'
  · rw [inside] at boundary
    cases boundary
  · exact terminated'

theorem Terminated.join (terminated : Terminated second) (first : List Token) :
    Terminated (join first second) := by
  obtain ⟨last, isLast, boundary⟩ := terminated
  obtain ⟨earlier, rfl⟩ := List.getLast?_eq_some_iff.mp isLast
  by_cases alone : earlier = []
  · subst alone
    rcases List.eq_nil_or_concat first with rfl | ⟨others, other, rfl⟩
    · exact ⟨last, rfl, boundary⟩
    · rw [List.concat_eq_append, join_append_singleton]
      apply Terminated.append
      cases fuses : fuse? other last with
      | none => exact ⟨last, by simp [glue, fuses], boundary⟩
      | some fused =>
          obtain ⟨kind, lastKind, _⟩ := Token.kind_of_fuse? fuses
          refine ⟨fused, by simp [glue, fuses], ?_⟩
          rwa [Token.isBoundary, kind, ← lastKind]
  · rw [Token.join_append first alone]
    exact Terminated.append ⟨last, rfl, boundary⟩ _

/-- What is behind other tokens plays no part at a seam. -/
theorem Focus.seam_append_right (before : List Token) (nonempty : tokens ≠ []) (rest : List Token) :
    seam ⟨before, tokens ++ rest⟩ =
      ⟨(seam ⟨before, tokens⟩).before, (seam ⟨before, tokens⟩).after ++ rest⟩ := by
  obtain ⟨next, others, rfl⟩ := List.exists_cons_of_ne_nil nonempty
  cases before with
  | nil => rfl
  | cons last earlier => cases fuses : fuse? last next <;> simp [seam, fuses]

/-- What stands behind a seam stood behind it before, but for a token of the same kind as the last before
the seam. -/
theorem Focus.after_seam (before tokens : List Token) :
    (seam ⟨before, tokens⟩).after = tokens ∨
      ∃ last ∈ before.head?, ∃ next, tokens = next :: (seam ⟨before, tokens⟩).after ∧
        next.kind = last.kind := by
  cases before with
  | nil => exact .inl rfl
  | cons last earlier =>
      cases tokens with
      | nil => exact .inl rfl
      | cons next others =>
          cases fuses : fuse? last next with
          | none => exact .inl (by simp [seam, fuses])
          | some fused =>
              obtain ⟨_, nextKind, _⟩ := Token.kind_of_fuse? fuses
              exact .inr ⟨last, rfl, next, by simp [seam, fuses], nextKind⟩

namespace Expansion

/-- A separator ends the search for the head of a loop. -/
theorem loopHead?_append (found : List String) (terminated : Terminated tokens) (rest : List Token) :
    loopHead? found (tokens ++ rest) =
      (loopHead? found tokens).map fun (scripts, separator, left) =>
        (scripts, separator, left ++ rest) := by
  fun_induction loopHead? found tokens with
  | case1 => exact absurd rfl terminated.ne_nil
  | case2 found token others another ih =>
      have isScript : token.kind = .script := eq_of_beq (Bool.and_eq_true_iff.mp another).1
      rw [List.cons_append, loopHead?, if_pos another]
      exact ih (terminated.tail_of_inside (by simp [Token.isBoundary, isScript]))
  | case3 found token others notAnother blank ih =>
      have isText : token.kind = .text := eq_of_beq (Bool.and_eq_true_iff.mp blank).1
      rw [List.cons_append, loopHead?, if_neg notAnother, if_pos blank]
      exact ih (terminated.tail_of_inside (by simp [Token.isBoundary, isText]))
  | case4 found token others notAnother notBlank closed =>
      rw [List.cons_append, loopHead?, if_neg notAnother, if_neg notBlank, if_pos closed]
      rfl
  | case5 found token others notAnother notBlank notClosed =>
      rw [List.cons_append, loopHead?, if_neg notAnother, if_neg notBlank, if_neg notClosed]
      rfl

/-! ## Frames -/

namespace Frame

variable {frame : Frame}

/-- The sequence with others behind it. -/
def followedBy (rest : List Token) (frame : Frame) : Frame :=
  { frame with ahead := frame.ahead ++ rest }

/-- Either the last token ahead is a separator, or all is done. -/
inductive Closed (frame : Frame) : Prop
  | terminated : Terminated frame.ahead → Closed frame
  | ended : frame.region = [] → frame.ahead = [] → frame.task = .resolve → Closed frame

theorem live_followedBy (frame : Frame) (rest : List Token) :
    (frame.followedBy rest).live = frame.live ++ rest := by
  simp [live, followedBy]

theorem skip_followedBy {count : Nat} (within : count ≤ frame.live.length) (rest : List Token) :
    (frame.followedBy rest).skip count = (frame.skip count).followedBy rest := by
  unfold skip
  rw [live_followedBy, List.take_append_of_le_length within, List.drop_append_of_le_length within]
  rfl

/-- An edit that comes down to a seam. -/
theorem edit_followedBy {change : Focus Token → Focus Token} {ahead : List Token}
    (nonempty : ahead ≠ [])
    (seam : ∀ before, change ⟨before, frame.ahead⟩ = Focus.seam ⟨before, ahead⟩)
    (seam' : ∀ before, change ⟨before, frame.ahead ++ rest⟩ = Focus.seam ⟨before, ahead ++ rest⟩) :
    (frame.followedBy rest).edit change = (frame.edit change).followedBy rest := by
  simp only [edit, followedBy, seam, seam', Focus.seam_append_right _ nonempty]
  split <;> rfl

/-- At a seam, the last separator is fused at most with a separator that has been passed. -/
theorem Settled.closed_edit (settled : frame.Settled) (task : frame.task = .resolve)
    {change : Focus Token → Focus Token} {ahead : List Token} (terminated : Terminated ahead)
    (seam : ∀ before, change ⟨before, frame.ahead⟩ = Focus.seam ⟨before, ahead⟩) :
    (frame.edit change).Closed := by
  unfold Frame.edit
  split
  · rename_i atStart
    simp only [seam]
    rcases Focus.after_seam frame.done ahead with same | ⟨_, _, next, split, _⟩
    · exact .terminated (same.symm ▸ terminated)
    · rw [split] at terminated
      rcases terminated.tail with ⟨empty, _⟩ | terminated'
      · exact .ended (List.isEmpty_iff.mp atStart) empty task
      · exact .terminated terminated'
  · simp only [seam]
    rcases Focus.after_seam frame.region ahead with same | ⟨last, isLast, next, split, kind⟩
    · exact .terminated (same.symm ▸ terminated)
    · have inside : next.isBoundary = false := by
        rw [Token.isBoundary, kind]
        exact settled.orderly.inside last (List.mem_of_mem_head? isLast)
      rw [split] at terminated
      exact .terminated (terminated.tail_of_inside inside)

/-- Where a separator is to come, the command at the main position is there already. -/
theorem Settled.command_followedBy (settled : frame.Settled) (resolved : frame.isResolved)
    (terminated : Terminated frame.ahead) (rest : List Token) :
    (frame.followedBy rest).command = frame.command := by
  have task := task_of_isResolved resolved
  have orderly : (frame.followedBy rest).Orderly :=
    ⟨settled.orderly.inside, by simp [followedBy, task]⟩
  have resolved' : (frame.followedBy rest).isResolved := by
    obtain ⟨token, others, ahead⟩ := List.exists_cons_of_ne_nil terminated.ne_nil
    simpa [isResolved, followedBy, task, ahead] using resolved
  rw [orderly.command_eq resolved', settled.orderly.command_eq resolved]
  rfl

/-- Behind a command, the sequence still ends with a separator, or it has ended. -/
theorem Settled.closed_skip (settled : frame.Settled) (resolved : frame.isResolved)
    (terminated : Terminated frame.ahead) : (frame.skip (frame.command.length + 1)).Closed := by
  have task : frame.task = .resolve := task_of_isResolved resolved
  have left := settled.ahead_skip resolved
  obtain ⟨token, others, ahead⟩ := List.exists_cons_of_ne_nil terminated.ne_nil
  rw [ahead] at left terminated
  rcases terminated.tail with ⟨empty, _⟩ | terminated'
  · exact .ended rfl (left.trans empty) task
  · exact .terminated (left.symm ▸ terminated')

theorem Settled.skip_command_followedBy (settled : frame.Settled) (resolved : frame.isResolved)
    (terminated : Terminated frame.ahead) (rest : List Token) :
    (frame.followedBy rest).skip (frame.command.length + 1) =
      (frame.skip (frame.command.length + 1)).followedBy rest := by
  apply skip_followedBy
  have positive := List.length_pos_iff.mpr terminated.ne_nil
  rw [settled.orderly.command_eq resolved, Frame.live, List.length_append]
  omega

end Frame

/-! ## Moves -/

/-- The outcomes of two moves, of which the second is of a sequence with others behind it: they are the
same, or both runs have failed, or the second has captured something. -/
inductive Move.Trails {σ ρ : Type} (rest : List Token) : Move σ ρ → Move σ ρ → Prop
  | next {machine machine' : Machine σ ρ} {frame : Frame} : machine.frames = [frame] → frame.Closed →
      machine' = machine.withFrames [frame.followedBy rest] → Trails rest (.next machine) (.next machine')
  | failed {machine machine' : Machine σ ρ} {tokens tokens' : List Token} {fault fault' : Fault} :
      machine'.state.codes = machine.state.codes →
      Trails rest (.failed machine tokens fault) (.failed machine' tokens' fault')
  | captures {move : Move σ ρ} {machine' : Machine σ ρ} : ¬machine'.Straight →
      Trails rest move (.next machine')

namespace Machine

variable {σ ρ : Type} (host : Host σ ρ) {machine : Machine σ ρ} {frame : Frame}

theorem trails_evaluate (frames : List Frame) (code : String) {go go' : Machine σ ρ → String → Move σ ρ}
    (goes : ∀ machine output, Move.Trails rest (go machine output) (go' (machine.withFrames frames) output)) :
    Move.Trails rest (evaluate host machine code go)
      (evaluate host (machine.withFrames frames) code go') := by
  unfold evaluate
  simp only [withFrames]
  rcases host.bridge.evaluate code machine.bridge with ⟨fault | output, bridge⟩
  · exact .failed rfl
  · exact goes _ output

/-- Before the last separator, the same block is invoked. -/
theorem invokedBlock?_append (terminated : Terminated tokens) (rest : List Token) :
    invokedBlock? (tokens ++ rest) = invokedBlock? tokens := by
  match tokens with
  | [] => exact absurd rfl terminated.ne_nil
  | [token] =>
      rcases terminated.tail with ⟨_, boundary⟩ | impossible
      · have noText : token.kind ≠ .text := by
          rw [eq_of_beq boundary]
          simp
        cases rest with
        | nil => rfl
        | cons next others => simp [invokedBlock?, noText]
      · exact absurd rfl impossible.ne_nil
  | _ :: _ :: _ => rfl

theorem trails_processRegion (settled : frame.Settled) (resolved : frame.isResolved)
    (terminated : Terminated frame.ahead) :
    Move.Trails rest (processRegion host machine frame [])
      (processRegion host (machine.withFrames [frame.followedBy rest]) (frame.followedBy rest) []) := by
  have command : (frame.followedBy rest).live.takeWhile (!·.isBoundary) =
      frame.live.takeWhile (!·.isBoundary) := settled.command_followedBy resolved terminated rest
  have skipped := settled.skip_command_followedBy resolved terminated rest
  have closed := settled.closed_skip resolved terminated
  unfold Frame.command at skipped closed
  unfold processRegion
  simp only [command, skipped]
  rw [show (machine.withFrames [frame.followedBy rest]).state = machine.state from rfl]
  split
  · exact .failed rfl
  · exact .next rfl closed rfl
  · rename_i command _
    have reframed := dispatch_reframed host (machine.recalling command) [frame.followedBy rest] command
    change dispatch host { machine.withFrames [frame.followedBy rest] with
      state := { machine.state with previous := some command.snapshot } } command = _ at reframed
    have recalled : { machine with state := { machine.state with previous := some command.snapshot } } =
        machine.recalling command := rfl
    rw [reframed, recalled]
    cases dispatch host (machine.recalling command) command with
    | error failure => exact .failed rfl
    | ok middle => exact .next rfl closed rfl

theorem trails_finishRegion (settled : frame.Settled) (resolved : frame.isResolved)
    (terminated : Terminated frame.ahead) (blocks : machine.state.blocks = []) :
    Move.Trails rest (finishRegion host machine frame [])
      (finishRegion host (machine.withFrames [frame.followedBy rest]) (frame.followedBy rest) []) := by
  have terminated' : Terminated frame.live := terminated.append _
  have nonempty : frame.live.isEmpty = false := by
    simpa using terminated'.ne_nil
  have nonempty' : (frame.followedBy rest).live.isEmpty = false := by
    rw [Frame.live_followedBy]
    simp [terminated'.ne_nil]
  unfold finishRegion
  simp only [nonempty, nonempty', Bool.false_eq_true, if_false]
  rw [Frame.live_followedBy, invokedBlock?_append terminated']
  split
  · rename_i name invoked
    have unknown : machine.state.blocks.get? name = none := by
      rw [blocks]
      rfl
    have count := (Frame.command_length_of_invokedBlock? invoked).2
    have skipped := settled.skip_command_followedBy resolved terminated rest
    have closed := settled.closed_skip resolved terminated
    rw [count] at skipped closed
    simp only [withFrames, unknown, skipped]
    exact .next rfl closed rfl
  · exact trails_processRegion host settled resolved terminated

/-- An output takes the place of a script before the last separator. -/
theorem trails_splice (settled : frame.Settled) (task : frame.task = .resolve) {script : Token}
    {others : List Token} (ahead : frame.ahead = script :: others) (terminated : Terminated others)
    (output : List Token) :
    (frame.edit (Focus.splice output)).Closed ∧
      (frame.followedBy rest).edit (Focus.splice output) =
        (frame.edit (Focus.splice output)).followedBy rest := by
  have joined : Terminated (join output others) := terminated.join output
  have seam (before : List Token) : Focus.splice output ⟨before, frame.ahead⟩ =
      Focus.seam ⟨before, join output others⟩ := by
    rw [ahead]
    rfl
  have seam' (before : List Token) : Focus.splice output ⟨before, frame.ahead ++ rest⟩ =
      Focus.seam ⟨before, join output others ++ rest⟩ := by
    rw [ahead, ← Token.join_append output terminated.ne_nil]
    rfl
  exact ⟨settled.closed_edit task joined seam, Frame.edit_followedBy joined.ne_nil seam seam'⟩

theorem trails_define (move : Move σ ρ) (machine : Machine σ ρ) (frame : Frame)
    (name remainder : String) (others : List Token) :
    Move.Trails rest move (define machine frame [] name remainder others) :=
  .captures fun straight => Assoc.put_ne_nil _ _ _ straight.blocks

theorem trails_startLoop (move : Move σ ρ) (machine : Machine σ ρ) (frame : Frame)
    (init condition step : String) (separator : Token) (left : List Token) :
    Move.Trails rest move (startLoop machine frame [] init condition step separator left) :=
  .captures fun straight => nomatch straight.loops _ List.mem_cons_self

/-- Resolving a token before the last separator. -/
theorem trails_resolve (settled : frame.Settled) (task : frame.task = .resolve)
    (terminated : Terminated frame.ahead) (blocks : machine.state.blocks = []) :
    Move.Trails rest (resolve host machine frame [])
      (resolve host (machine.withFrames [frame.followedBy rest]) (frame.followedBy rest) []) := by
  obtain ⟨done, region, ahead, _⟩ := frame
  obtain rfl : _ = Task.resolve := task
  obtain ⟨token, others, rfl⟩ := List.exists_cons_of_ne_nil terminated.ne_nil
  have inside (notBoundary : token.kind ≠ .boundary) : Terminated others :=
    terminated.tail_of_inside (by simpa [Token.isBoundary] using notBoundary)
  have advance (notBoundary : token.kind ≠ .boundary) :
      Move.Trails rest (.next { machine with frames := [⟨done, token :: region, others, .resolve⟩] })
        (.next { machine with frames := [⟨done, token :: region, others ++ rest, .resolve⟩] }) :=
    .next rfl (.terminated (inside notBoundary)) rfl
  unfold resolve
  simp only [Frame.followedBy, List.cons_append, withFrames, Frame.advance]
  cases kind : token.kind with
  | boundary =>
      have resolved : Frame.isResolved ⟨done, region, token :: others, .resolve⟩ := by
        simp [Frame.isResolved, Token.isBoundary, kind]
      exact trails_finishRegion host settled resolved terminated blocks
  | group => exact .next rfl (.terminated terminated) rfl
  | script =>
      apply trails_evaluate host [_] token.text
      intro machine output
      obtain ⟨closed, edited⟩ :=
        trails_splice settled rfl rfl (inside (by simp [kind])) (outputTokens output)
      exact .next rfl closed (by rw [← edited]; rfl)
  | string | groupScript => exact advance (by simp [kind])
  | text =>
      have onwards := advance (by simp [kind])
      have sameHead := loopHead?_append [] (inside (by simp [kind])) rest
      cases region with
      | cons => exact onwards
      | nil =>
          simp only [List.isEmpty_nil, if_true]
          cases definition? token.text with
          | some definition => exact trails_define _ _ _ _ _ _
          | none =>
              by_cases loops : isLoopWord token.text
              · simp only [loops, if_true, sameHead]
                rcases loopHead? [] others with _ | ⟨scripts, separator, left⟩
                · exact onwards
                · -- A loop has three scripts.
                  rcases scripts with _ | ⟨init, _ | ⟨condition, _ | ⟨step, _ | _⟩⟩⟩
                  · exact onwards
                  · exact onwards
                  · exact onwards
                  · exact trails_startLoop _ _ _ _ _ _ _ _
                  · exact onwards
              · simp only [loops]
                exact onwards

/-- Folding a run before the last separator. -/
theorem trails_foldGroup (settled : frame.Settled) {text : String} {afterScript : Bool}
    (task : frame.task = .fold text afterScript) (terminated : Terminated frame.ahead) :
    Move.Trails rest (foldGroup host machine frame [] text afterScript)
      (foldGroup host (machine.withFrames [frame.followedBy rest]) (frame.followedBy rest) []
        text afterScript) := by
  obtain ⟨done, region, ahead, _⟩ := frame
  obtain rfl : _ = Task.fold text afterScript := task
  obtain ⟨group, following, rfl⟩ := List.exists_cons_of_ne_nil terminated.ne_nil
  have isGroup : group.kind = .group := settled.folds text afterScript rfl group rfl
  have followingTerminated : Terminated following :=
    terminated.tail_of_inside (by simp [Token.isBoundary, isGroup])
  obtain ⟨piece, others, rfl⟩ := List.exists_cons_of_ne_nil followingTerminated.ne_nil
  -- The group stays where it is while pieces that are no separators are taken out behind it.
  have without (inside : piece.isBoundary = false) : Terminated (group :: others) :=
    (followingTerminated.tail_of_inside inside).append [group]
  unfold foldGroup
  simp only [Frame.followedBy, List.cons_append, Frame.advance]
  split
  · rename_i script
    apply trails_evaluate host [_] piece.text
    intro machine output
    exact .next rfl (.terminated (without (by simp [Token.isBoundary, eq_of_beq script]))) rfl
  · split
    · rename_i joined
      have isPiece : piece.kind = .group := eq_of_beq (Bool.and_eq_true_iff.mp joined).1
      exact .next rfl (.terminated (without (by simp [Token.isBoundary, isPiece]))) rfl
    · exact .next rfl (.terminated followingTerminated) rfl

/-- As long as nothing is captured, both machines make the same move. -/
theorem trails_step (frames : machine.frames = [frame]) (settled : frame.Settled)
    (terminated : Terminated frame.ahead) (straight : machine.Straight) (rest : List Token) :
    Move.Trails rest (Machine.step host machine)
      (Machine.step host (machine.withFrames [frame.followedBy rest])) := by
  have noLoop : frame.task.body? = none :=
    straight.loops frame (by rw [frames]; exact List.mem_cons_self)
  have task' : (frame.followedBy rest).task = frame.task := rfl
  unfold Machine.step
  rw [frames]
  simp only [withFrames, task']
  cases task : frame.task with
  | resolve => exact trails_resolve host settled task terminated straight.blocks
  | fold text afterScript => exact trails_foldGroup host settled task terminated
  | beginLoop | testLoop | advanceLoop =>
      rw [task] at noLoop
      cases noLoop

/-! ## Runs -/

theorem straight_iff (frames : machine.frames = [frame]) :
    machine.Straight ↔ machine.state.blocks = [] ∧ frame.task.body? = none := by
  constructor
  · intro straight
    exact ⟨straight.blocks, straight.loops frame (by rw [frames]; exact List.mem_cons_self)⟩
  · rintro ⟨blocks, noLoop⟩
    refine ⟨blocks, ?_⟩
    rw [frames]
    exact List.forall_mem_singleton.mpr noLoop

/-- What stands behind has no part in whether anything is captured. -/
theorem straight_followedBy (frames : machine.frames = [frame]) (rest : List Token) :
    (machine.withFrames [frame.followedBy rest]).Straight ↔ machine.Straight := by
  have frames' : (machine.withFrames [frame.followedBy rest]).frames = [frame.followedBy rest] := rfl
  rw [straight_iff frames', straight_iff frames]
  rfl

/-- A run that captures nothing reads on. -/
theorem Reads.run (plain : host.bridge.Plain) {all : List String} (fuel : Nat)
    (reads : machine.Reads all frame)
    (straight : ∀ fuel machine', Machine.run host fuel machine = .next machine' → machine'.Straight) :
    Move.Reads all (Machine.run host fuel machine) := by
  induction fuel generalizing machine frame with
  | zero => exact .next reads
  | succ fuel ih =>
      have stepped := reads.step host plain (straight 0 machine rfl) fun machine' moved =>
        straight 1 machine' (run_succ host moved 0)
      rw [Machine.run]
      cases moved : Machine.step host machine with
      | next machine' =>
          rw [moved] at stepped
          obtain ⟨reads'⟩ := stepped
          apply ih reads'
          intro fuel machine'' reached
          exact straight (fuel + 1) machine'' ((run_succ host moved fuel).trans reached)
      | finished | failed =>
          rw [moved] at stepped
          exact stepped

/-- Where all is done, the run ends at once. -/
theorem Reads.finishes {front : List String} (reads : machine.Reads front frame)
    (atStart : frame.region = []) (ended : frame.ahead = []) (task : frame.task = .resolve) :
    ∃ machine' left, Machine.run host 1 machine = .finished machine' left ∧
      machine'.state.codes = front ∧ machine'.state.events = machine.state.events := by
  have codes := reads.codes
  obtain ⟨done, region, ahead, _⟩ := frame
  obtain rfl : _ = [] := atStart
  obtain rfl : _ = [] := ended
  obtain rfl : _ = Task.resolve := task
  rw [Machine.run, step_of_ended host reads.frames]
  refine ⟨_, _, rfl, ?_, rfl⟩
  rw [← codes]
  exact (List.append_nil _).symm

/-- By the time that a script behind a separator has been evaluated, the run over what stands before it has
ended, and all that has happened in it has happened first. -/
theorem exists_finished_of_codes (plain : host.bridge.Plain) {front : List String} (fuel : Nat)
    (reads : machine.Reads front frame) (closed : frame.Closed)
    (straight : ∀ fuel machine',
      Machine.run host fuel (machine.withFrames [frame.followedBy rest]) = .next machine' →
        machine'.Straight)
    (behind : front.length <
      (Machine.run host fuel (machine.withFrames [frame.followedBy rest])).machine.state.codes.length) :
    ∃ used machine' left, Machine.run host used machine = .finished machine' left ∧
      machine'.state.codes = front ∧
      machine'.Precedes (Machine.run host fuel (machine.withFrames [frame.followedBy rest])).machine := by
  induction fuel generalizing machine frame with
  | zero =>
      have before : machine.state.codes.length ≤ front.length := by
        rw [← reads.codes, List.length_append]
        exact Nat.le_add_right _ _
      exact absurd before (Nat.not_le.mpr behind)
  | succ fuel ih =>
      cases closed with
      | ended atStart ended task =>
          obtain ⟨machine', left, finished, codes, events⟩ := reads.finishes host atStart ended task
          refine ⟨1, machine', left, finished, codes, ?_⟩
          rw [Precedes, events]
          exact precedes_run host (fuel + 1) (machine.withFrames [frame.followedBy rest])
      | terminated terminated =>
          have straight' := (straight_followedBy reads.frames rest).mp (straight 0 _ rfl)
          have trails := trails_step host reads.frames reads.settled terminated straight' rest
          have onwards (second' : Machine σ ρ) (moved : Machine.step host
              (machine.withFrames [frame.followedBy rest]) = .next second') : second'.Straight :=
            straight 1 second' (run_succ host moved 0)
          generalize secondStep : Machine.step host (machine.withFrames [frame.followedBy rest]) = move'
            at trails onwards
          generalize firstStep : Machine.step host machine = move at trails
          cases trails with
          | @next first' second' frame' frames' closed' same =>
              subst same
              have stepped := reads.step host plain straight' fun machine' moved => by
                obtain rfl : first' = machine' := by simpa [firstStep] using moved
                exact (straight_followedBy frames' rest).mp (onwards _ rfl)
              rw [firstStep] at stepped
              obtain ⟨reads'⟩ := stepped
              obtain rfl := List.singleton_inj.mp (frames'.symm.trans reads'.frames)
              rw [run_succ host secondStep] at behind ⊢
              obtain ⟨used, machine', left, finished, done⟩ := ih reads' closed'
                (fun fuel machine' reached =>
                  straight (fuel + 1) machine' ((run_succ host secondStep fuel).trans reached)) behind
              exact ⟨used + 1, machine', left, (run_succ host firstStep used).trans finished, done⟩
          | failed codes =>
              have stepped := reads.step host plain straight' (by simp [firstStep])
              rw [firstStep] at stepped
              obtain ⟨⟩ | ⟨⟩ | ⟨first⟩ := stepped
              rw [Machine.run, secondStep, Move.machine, codes] at behind
              exact absurd first.length_le (Nat.not_le.mpr behind)
          | captures captured => exact absurd (onwards _ rfl) captured

/-! ## Sources -/

variable (bridge : σ) (library : ρ)

/-- The machine that begins to process the tokens, where a bound does not forbid it. -/
def beginning (tokens : List Token) : Machine σ ρ :=
  ⟨{ depth := 1 }, bridge, library, [{ ahead := tokens }]⟩

theorem reads_beginning (enclosed : Enclosed tokens) :
    (beginning bridge library tokens).Reads (fragments tokens) { ahead := tokens } :=
  ⟨rfl, Frame.settled_of_nil [] enclosed, List.nil_append _⟩

/-- Over every source, with a bridge whose answers bring no scripts, a run that defines no block and starts
no loop ends. At any time, the codes evaluated so far are the first of the scripts of the source, in their
order, and they are all of them where the run has finished. And once a script behind a separator has been
evaluated, the run over what stands up to the separator, by itself, finishes with exactly the scripts
before it, and whatever happens in that run has happened before. -/
theorem process_straight (nests : 0 < host.limits.nesting) (plain : host.bridge.Plain) (source : String)
    (straight : ∀ fuel machine',
      process host fuel ⟨{}, bridge, library, []⟩ (Token.tokenize source) = .next machine' →
        machine'.Straight) :
    (∃ fuel, (process host fuel ⟨{}, bridge, library, []⟩ (Token.tokenize source)).isOver) ∧
      ∀ fuel,
        let move := process host fuel ⟨{}, bridge, library, []⟩ (Token.tokenize source)
        move.machine.state.codes <+: fragments (Token.tokenize source) ∧
        (∀ machine' tokens, move = .finished machine' tokens →
          machine'.state.codes = fragments (Token.tokenize source)) ∧
        ∀ front separator rest, Token.tokenize source = front ++ separator :: rest →
          separator.isBoundary → (fragments front).length < move.machine.state.codes.length →
          ∃ used machine' left,
            process host used ⟨{}, bridge, library, []⟩ (front ++ [separator]) = .finished machine' left ∧
            machine'.state.codes = fragments front ∧
            machine'.state.events <+: move.machine.state.events := by
  have allowed : ¬host.limits.nesting ≤ 0 := not_le.mpr nests
  have processed (tokens : List Token) (fuel : Nat) :
      process host fuel ⟨{}, bridge, library, []⟩ tokens =
        run host fuel (beginning bridge library tokens) :=
    process_eq_run host bridge library rfl allowed fuel tokens
  simp only [processed] at straight ⊢
  have enclosed := Token.enclosed_tokenize source
  have reads := reads_beginning bridge library enclosed
  constructor
  · have orderly : (beginning bridge library (Token.tokenize source)).Orderly := by
      constructor
      · exact List.forall_mem_singleton.mpr (Frame.orderly_of_nil [] _)
      · exact Nat.le_refl 1
    exact exists_run_isOver host orderly (plain.bounded bridge)
  · intro fuel
    have readsOn := reads.run host plain fuel straight
    refine ⟨readsOn.codes, ?_, ?_⟩
    · intro machine' tokens finished
      rw [finished] at readsOn
      obtain ⟨⟩ | ⟨codes⟩ := readsOn
      exact codes
    · intro front separator rest split boundary behind
      have regrouped : Token.tokenize source = (front ++ [separator]) ++ rest := by simp [split]
      have same : beginning bridge library (Token.tokenize source) =
          (beginning bridge library (front ++ [separator])).withFrames
            [Frame.followedBy rest { ahead := front ++ [separator] }] := by
        rw [regrouped]
        rfl
      have noFragment : separator.isFragment = false := Token.isFragment_of_kind (eq_of_beq boundary)
      have before : fragments (front ++ [separator]) = fragments front := by
        rw [fragments_append, fragments_cons_of_not noFragment]
        exact List.append_nil _
      have frontEnclosed : Enclosed (front ++ [separator]) := by
        rw [split] at enclosed
        apply (cut_of_closed enclosed (by simpa using boundary)).1.append
        exact enclosed_singleton (by simp [eq_of_beq boundary])
      have terminated : Terminated (front ++ [separator]) := ⟨separator, by simp, boundary⟩
      rw [same] at straight behind ⊢
      rw [← before] at behind ⊢
      exact exists_finished_of_codes host plain fuel (reads_beginning bridge library frontEnclosed)
        (.terminated terminated) straight behind

/-- Whether the machine captures nothing as long as the run goes on. -/
def capturesNothing : Move σ ρ → Bool
  | .next machine => machine.state.blocks.isEmpty && machine.frames.all (·.task.body?.isNone)
  | _ => true

theorem straight_of_capturesNothing {machine : Machine σ ρ} (straight : capturesNothing (.next machine)) :
    machine.Straight := by
  obtain ⟨blocks, loops⟩ := Bool.and_eq_true_iff.mp straight
  constructor
  · exact List.isEmpty_iff.mp blocks
  · simpa using loops

/-- Two commands with scripts, whose outputs have a separator and another command in them. By the time
that the last script has been evaluated, the first command has been dispatched. -/
theorem process_straight_of_commands :
    let host : Host Nat Nat :=
      { bridge := { evaluate := fun _ count => (.ok "1;dot", count + 1), bind := fun _ _ count => count }
        registry := ⟨fun name => .ok (name == "dot"), fun _ => .ok [], fun _ _ count =>
          (.ok (some ⟨"dot", [], some "d", some .null⟩), count + 1)⟩ }
    let source := "dot \x7ba\x7d;dot (b\x7bc\x7dd) \x7be\x7d"
    let move := process host 40 ⟨{}, 0, 0, []⟩ (Token.tokenize source)
    move.machine.state.codes = ["a", "c", "e"] ∧
      ∃ used machine' left,
        process host used ⟨{}, 0, 0, []⟩ [⟨.text, "dot "⟩, ⟨.script, "a"⟩, ⟨.boundary, ";"⟩] =
          .finished machine' left ∧
        machine'.state.codes = ["a"] ∧ machine'.state.events <+: move.machine.state.events := by
  intro host source move
  have plain : host.bridge.Plain := by
    intro code state output state' answer
    obtain rfl : "1;dot" = output := by simpa [host] using congrArg Prod.fst answer
    decide +kernel
  have ended : (process host 40 ⟨{}, 0, 0, []⟩ (Token.tokenize source)).isOver := by decide +kernel
  have straight (fuel : Nat) (machine' : Machine Nat Nat)
      (reached : process host fuel ⟨{}, 0, 0, []⟩ (Token.tokenize source) = .next machine') :
      machine'.Straight := by
    have early : ∀ fuel < 40,
        capturesNothing (process host fuel ⟨{}, 0, 0, []⟩ (Token.tokenize source)) := by decide +kernel
    by_cases before : fuel < 40
    · exact straight_of_capturesNothing (reached ▸ early fuel before)
    · obtain ⟨more, rfl⟩ := Nat.exists_eq_add_of_le (Nat.le_of_not_lt before)
      rw [process_of_isOver host ended more] at reached
      rw [reached] at ended
      cases ended
  have codes : move.machine.state.codes = ["a", "c", "e"] := by decide +kernel
  have split : Token.tokenize source = [⟨.text, "dot "⟩, ⟨.script, "a"⟩] ++ ⟨.boundary, ";"⟩ ::
      [⟨.text, "dot "⟩, ⟨.group, "b"⟩, ⟨.groupScript, "c"⟩, ⟨.group, "d"⟩, ⟨.text, " "⟩, ⟨.script, "e"⟩,
        ⟨.boundary, ""⟩] := by decide +kernel
  obtain ⟨_, course⟩ := process_straight host 0 0 (by decide) plain source straight
  obtain ⟨_, _, before⟩ := course 40
  refine ⟨codes, before _ _ _ split rfl ?_⟩
  change _ < move.machine.state.codes.length
  rw [codes]
  decide

end Machine

end Expansion

end Linework
