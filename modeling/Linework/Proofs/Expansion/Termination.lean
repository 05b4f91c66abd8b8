import Linework.Proofs.Expansion.Course
import Linework.Proofs.Expansion.Runs
import Linework.Proofs.Token.Fused
import Mathlib.Data.Prod.Lex

/-!
# Runs that end

A run goes on for ever only where scripts keep on answering with scripts. In every move, the first of
these to change becomes smaller: how many answers with scripts may still come; how many blocks and loop
bodies may still be begun; how many scripts stand ahead in the sequences under way; and the effort that
is left, which counts the tokens ahead and the iterations of the loops.
-/

namespace Linework

/-- Whether the token is a script whose output takes its place. -/
def Token.isScript (token : Token) : Bool :=
  token.kind == .script

/-- How many scripts a sequence has. -/
def scripts (tokens : List Token) : Nat :=
  tokens.countP Token.isScript

/-! ## Seams -/

/-- No script is fused with another token. -/
theorem scripts_glue (token : Token) (tokens : List Token) :
    scripts (glue token tokens) = scripts [token] + scripts tokens := by
  cases tokens with
  | nil => rfl
  | cons next rest =>
      cases fuses : fuse? token next with
      | none => simp [glue, fuses, scripts, List.countP_cons, Nat.add_comm]
      | some fused =>
          obtain ⟨same, kind, rfl⟩ := Token.fuse?_eq_some_iff.mp fuses
          have noScript : token.kind ≠ .script := by
            intro script
            rw [script] at kind
            cases kind
          simp [glue, fuses, scripts, Token.isScript, noScript, ← same]

theorem scripts_join (first second : List Token) :
    scripts (join first second) = scripts first + scripts second := by
  rcases List.eq_nil_or_concat first with rfl | ⟨earlier, last, rfl⟩
  · exact (Nat.zero_add _).symm
  · rw [List.concat_eq_append, join_append_singleton]
    have glued := scripts_glue last second
    simp only [scripts, List.countP_append] at glued ⊢
    omega

theorem Focus.suffix_seam (before after : List Token) : (seam ⟨before, after⟩).after <:+ after := by
  unfold seam
  split
  · rename_i next rest _ aheadEq
    split
    · simp only at aheadEq
      rw [aheadEq]
      exact List.suffix_cons next rest
    · exact List.suffix_refl after
  · exact List.suffix_refl after

/-- What is fused at a seam is a separator where the token before it was one. -/
theorem Focus.inside_seam {before : List Token} (after : List Token)
    (inside : ∀ token ∈ before, token.isBoundary = false) :
    ∀ token ∈ (seam ⟨before, after⟩).before, token.isBoundary = false := by
  cases before with
  | nil => exact inside
  | cons last earlier =>
      cases after with
      | nil => exact inside
      | cons next rest =>
          cases fuses : fuse? last next with
          | none => simpa [seam, fuses] using inside
          | some fused =>
              obtain ⟨_, _, rfl⟩ := Token.fuse?_eq_some_iff.mp fuses
              simpa [seam, fuses, Token.isBoundary] using inside

theorem scripts_le_of_suffix {tokens tokens' : List Token} (suffix : tokens' <:+ tokens) :
    scripts tokens' ≤ scripts tokens :=
  suffix.sublist.countP_le

namespace Expansion

/-- Whether an output brings new scripts. -/
def bringsScripts (output : String) : Bool :=
  (Token.tokenize output).any Token.isScript

theorem scripts_outputTokens {output : String} (noScripts : bringsScripts output = false) :
    scripts (outputTokens output) = 0 := by
  have none : ∀ token ∈ Token.tokenize output, ¬token.isScript := by
    simpa [bringsScripts] using noScripts
  refine List.countP_eq_zero.mpr fun token mem => none token ?_
  unfold outputTokens at mem
  simp only at mem
  split at mem
  · exact List.mem_of_mem_dropLast mem
  · exact mem

/-- The head of a loop takes its scripts out of the tokens. -/
theorem scripts_of_loopHead? {found found' : List String} {separator : Token} {tokens left : List Token}
    (head : loopHead? found tokens = some (found', separator, left)) :
    left <:+ tokens ∧ scripts left + found'.length ≤ scripts tokens + found.length := by
  fun_induction loopHead? found tokens with
  | case1 => cases head
  | case2 found token rest another ih =>
      obtain ⟨suffix, fewer⟩ := ih head
      refine ⟨suffix.trans (List.suffix_cons token rest), ?_⟩
      have isScript : token.isScript := (Bool.and_eq_true_iff.mp another).1
      rw [List.length_cons] at fewer
      simp only [scripts, List.countP_cons_of_pos isScript] at fewer ⊢
      omega
  | case3 found token rest _ blank ih =>
      obtain ⟨suffix, fewer⟩ := ih head
      refine ⟨suffix.trans (List.suffix_cons token rest), ?_⟩
      have more := scripts_le_of_suffix (List.suffix_cons token rest)
      omega
  | case4 found token rest _ _ closed =>
      cases head
      refine ⟨List.suffix_cons _ _, ?_⟩
      have more := scripts_le_of_suffix (List.suffix_cons separator left)
      rw [List.length_reverse]
      omega
  | case5 => cases head

namespace Frame

/-! ## Frames -/

/-- A sequence whose region has no separator, and that folds no separator. -/
structure Orderly (frame : Frame) : Prop where
  inside : ∀ token ∈ frame.region, token.isBoundary = false
  folds : ∀ text afterScript, frame.task = .fold text afterScript →
    ∀ group ∈ frame.ahead.head?, group.isBoundary = false

/-- How many iterations a loop has left. -/
def roundsLeft (limits : Limits) (iteration : Nat) : Nat :=
  (limits.iterations - iteration).toNat

/-- How much is left to do before the next token. -/
def pending (limits : Limits) (frame : Frame) : Nat :=
  match frame.task with
  | .resolve => if frame.region = [] then 1 else 2
  | .fold _ _ => if frame.ahead = [] then 3 else 0
  | .beginLoop _ loop => 2 * roundsLeft limits loop.iteration + 4
  | .testLoop loop => 2 * roundsLeft limits loop.iteration + 3
  | .advanceLoop loop => 2 * roundsLeft limits (loop.iteration + 1) + 4

/-- How much is left to do in a sequence, apart from its scripts. -/
def effort (limits : Limits) (frame : Frame) : Nat :=
  3 * frame.ahead.length + pending limits frame

/-- A sequence has fewer scripts ahead than another, or no more of them and less to do. -/
def Descends (limits : Limits) (frame' frame : Frame) : Prop :=
  scripts frame'.ahead < scripts frame.ahead ∨
    scripts frame'.ahead ≤ scripts frame.ahead ∧ effort limits frame' < effort limits frame

variable {limits : Limits} {frame frame' : Frame}

theorem Descends.of_effort (suffix : frame'.ahead <:+ frame.ahead)
    (less : effort limits frame' < effort limits frame) : Descends limits frame' frame :=
  .inr ⟨scripts_le_of_suffix suffix, less⟩

theorem pending_resolve (limits : Limits) (done region ahead : List Token) :
    1 ≤ pending limits ⟨done, region, ahead, .resolve⟩ ∧
      pending limits ⟨done, region, ahead, .resolve⟩ ≤ 2 := by
  unfold pending
  simp only
  split <;> omega

theorem pending_fold (limits : Limits) (done region following : List Token) (group : Token)
    (text : String) (afterScript : Bool) :
    pending limits ⟨done, region, group :: following, .fold text afterScript⟩ = 0 :=
  rfl

/-- Where a region begins, there is nothing to be asked for. -/
theorem orderly_of_nil (done ahead : List Token) : Orderly ⟨done, [], ahead, .resolve⟩ :=
  ⟨by simp, nofun⟩

/-- Moving past a token that is no separator leaves no separator in the region. -/
theorem orderly_advance (done rest : List Token) {token : Token} {region : List Token}
    (inside : token.isBoundary = false) (others : ∀ other ∈ region, other.isBoundary = false) :
    Orderly (Frame.advance ⟨done, region, token :: rest, .resolve⟩) :=
  ⟨List.forall_mem_cons.mpr ⟨inside, others⟩, nofun⟩

/-- What a frame does by itself leaves it less to do. -/
theorem Passes.descends (orderly : frame.Orderly) (passes : frame.Passes limits frame') :
    frame'.Orderly ∧ frame'.Descends limits frame := by
  obtain ⟨done, region, ahead, task⟩ := frame
  cases passes with
  | @advance token rest task ahead inside _ _ =>
      obtain rfl : _ = Task.resolve := task
      obtain rfl : _ = token :: rest := ahead
      refine ⟨orderly_advance done rest inside orderly.inside, ?_⟩
      refine .of_effort (List.suffix_cons token rest) ?_
      have before := pending_resolve limits done region (token :: rest)
      have after := pending_resolve limits done (token :: region) rest
      simp only [effort, Frame.advance, List.length_cons]
      omega
  | @beginFold group following task ahead isGroup =>
      obtain rfl : _ = Task.resolve := task
      obtain rfl : _ = group :: following := ahead
      refine ⟨⟨orderly.inside, by simp [Token.isBoundary, isGroup]⟩, ?_⟩
      refine .of_effort (List.suffix_refl _) ?_
      have before := pending_resolve limits done region (group :: following)
      simp only [effort, pending_fold]
      omega
  | @foldPiece group piece rest text task ahead isGroup =>
      obtain rfl : _ = Task.fold text true := task
      obtain rfl : _ = group :: piece :: rest := ahead
      refine ⟨⟨orderly.inside, fun _ _ _ => orderly.folds text true rfl⟩, .inr ⟨?_, ?_⟩⟩
      · exact ((List.sublist_cons_self piece rest).cons_cons group).countP_le
      · simp [effort, pending_fold]
  | @finishFold group following text afterScript task ahead _ =>
      obtain rfl : _ = Task.fold text afterScript := task
      obtain rfl : _ = group :: following := ahead
      have inside : group.isBoundary = false := orderly.folds text afterScript rfl group rfl
      refine ⟨orderly_advance done following inside orderly.inside, ?_⟩
      refine .of_effort (List.suffix_cons group following) ?_
      have after := pending_resolve limits done ({ group with text := text } :: region) following
      simp only [effort, Frame.advance, pending_fold, List.length_cons]
      omega
  | @abandonFold text afterScript task ahead =>
      obtain rfl : _ = Task.fold text afterScript := task
      obtain rfl : _ = [] := ahead
      refine ⟨⟨orderly.inside, by simp⟩, .of_effort (List.suffix_refl _) ?_⟩
      have after := pending_resolve limits done region []
      have before : pending limits ⟨done, region, [], .fold text afterScript⟩ = 3 := rfl
      simp only [effort, before]
      omega
  | @startLoop word separator rest left init condition step task noRegion ahead text loops head =>
      obtain rfl : _ = [] := noRegion
      obtain rfl : _ = word :: rest := ahead
      -- The scripts of the loop's head are not ahead any more.
      obtain ⟨suffix, fewer⟩ := scripts_of_loopHead? head
      refine ⟨⟨by simp [Frame.skip], by simp⟩, .inl ?_⟩
      have remaining : (word :: rest).drop ((word :: rest).length - left.length) = left :=
        (List.suffix_iff_eq_drop.mp (suffix.trans (List.suffix_cons word rest))).symm
      have skipped := scripts_le_of_suffix (List.drop_suffix (loopClosing separator left) left)
      have more := scripts_le_of_suffix (List.suffix_cons word rest)
      simp only [Frame.skip, Frame.live, List.reverse_nil, List.nil_append, ← List.drop_drop, remaining]
      simp only [List.length_cons, List.length_nil] at fewer
      omega
  | @endLoop loop task bounded =>
      obtain rfl : _ = Task.testLoop loop := task
      refine ⟨⟨orderly.inside, by simp⟩, .of_effort (List.suffix_refl _) ?_⟩
      have after := pending_resolve limits done region ahead
      simp only [effort]
      simp only [pending] at after ⊢
      omega

/-- What a frame does with an answer leaves it less to do. -/
theorem Hears.descends (orderly : frame.Orderly) {code output : String}
    (hears : frame.Hears code output frame') : frame'.Orderly ∧ frame'.Descends limits frame := by
  obtain ⟨done, region, ahead, task⟩ := frame
  cases hears with
  | @foldScript group piece rest text output afterScript task ahead =>
      obtain rfl : _ = Task.fold text afterScript := task
      obtain rfl : _ = group :: piece :: rest := ahead
      refine ⟨⟨orderly.inside, fun _ _ _ => orderly.folds text afterScript rfl⟩, .inr ⟨?_, ?_⟩⟩
      · exact ((List.sublist_cons_self piece rest).cons_cons group).countP_le
      · simp [effort, pending_fold]
  | @beginLoop _ output loop task =>
      obtain rfl : _ = Task.beginLoop code loop := task
      refine ⟨⟨orderly.inside, by simp⟩, .of_effort (List.suffix_refl _) ?_⟩
      simp only [effort, pending]
      omega
  | @leaveLoop output loop task =>
      obtain rfl : _ = Task.testLoop loop := task
      refine ⟨⟨orderly.inside, by simp⟩, .of_effort (List.suffix_refl _) ?_⟩
      have after := pending_resolve limits done region ahead
      simp only [effort]
      simp only [pending] at after ⊢
      omega
  | @advanceLoop output loop task =>
      obtain rfl : _ = Task.advanceLoop loop := task
      refine ⟨⟨orderly.inside, by simp⟩, .of_effort (List.suffix_refl _) ?_⟩
      simp only [effort, pending]
      omega

/-- A loop that goes on for another iteration. -/
theorem Orderly.descends_iterate (orderly : frame.Orderly) {loop : Loop}
    (task : frame.task = .testLoop loop) (allowed : ¬limits.iterations ≤ loop.iteration) :
    Orderly { frame with task := .advanceLoop loop } ∧
      Descends limits { frame with task := .advanceLoop loop } frame := by
  refine ⟨⟨orderly.inside, by simp⟩, .of_effort (List.suffix_refl _) ?_⟩
  simp only [effort, pending, task, roundsLeft]
  omega

theorem task_of_isResolved (resolved : frame.isResolved) : frame.task = .resolve := by
  cases task : frame.task with
  | resolve => rfl
  | fold | beginLoop | testLoop | advanceLoop => simp [isResolved, task] at resolved

theorem isBoundary_of_isResolved (resolved : frame.isResolved) :
    ∀ token ∈ frame.ahead.head?, token.isBoundary := by
  simpa [isResolved, task_of_isResolved resolved, Option.all_eq_true] using resolved

/-- A command takes the whole region. -/
theorem Orderly.command_eq (orderly : frame.Orderly) (resolved : frame.isResolved) :
    frame.command = frame.region.reverse := by
  have closed := isBoundary_of_isResolved resolved
  rw [command, live, List.takeWhile_append_of_pos (by simpa using orderly.inside)]
  cases ahead : frame.ahead with
  | nil => simp
  | cons token rest =>
      rw [ahead] at closed
      simp [closed token rfl]

/-- Moving behind a command and the separator after it. -/
theorem Orderly.descends_skip (orderly : frame.Orderly) (resolved : frame.isResolved)
    (nonempty : frame.live ≠ []) :
    Orderly (frame.skip (frame.command.length + 1)) ∧
      Descends limits (frame.skip (frame.command.length + 1)) frame := by
  have task := task_of_isResolved resolved
  rw [orderly.command_eq resolved, List.length_reverse]
  obtain ⟨done, region, ahead, _⟩ := frame
  obtain rfl : _ = Task.resolve := task
  have remaining :
      (Frame.live ⟨done, region, ahead, .resolve⟩).drop (region.length + 1) = ahead.tail := by
    rw [live, ← List.drop_drop, ← List.length_reverse, List.drop_left, List.drop_one]
  refine ⟨orderly_of_nil _ _, .of_effort ?_ ?_⟩
  · simp only [Frame.skip, remaining]
    exact List.tail_suffix ahead
  · simp only [Frame.skip, effort, remaining]
    cases ahead with
    | nil =>
        have behind : region ≠ [] := by simpa [live] using nonempty
        simp [pending, behind]
    | cons token rest =>
        have before := pending_resolve limits done region (token :: rest)
        simp only [pending, List.tail_cons, List.length_cons, if_true] at before ⊢
        omega

/-- An invocation is all that its region has. -/
theorem command_length_of_invokedBlock? {name : String} (invoked : invokedBlock? frame.live = some name) :
    frame.live ≠ [] ∧ frame.command.length + 1 = 2 := by
  unfold invokedBlock? at invoked
  split at invoked
  · rename_i token next rest live
    split at invoked
    · rename_i alone
      obtain ⟨isText, closed⟩ := Bool.and_eq_true_iff.mp alone
      have inside : token.isBoundary = false := by simp [Token.isBoundary, eq_of_beq isText]
      simp [command, live, inside, closed]
    · cases invoked
  · cases invoked

/-- An edit at a token ahead that comes down to a seam. -/
theorem Orderly.edit (orderly : frame.Orderly) (task : frame.task = .resolve) {ahead : List Token}
    {change : Focus Token → Focus Token}
    (seam : ∀ before, change ⟨before, frame.ahead⟩ = Focus.seam ⟨before, ahead⟩) :
    Orderly (frame.edit change) ∧ (frame.edit change).ahead <:+ ahead ∧
      (frame.edit change).task = .resolve ∧ (frame.region = [] → (frame.edit change).region = []) := by
  unfold Frame.edit
  split
  · rename_i empty
    have noRegion : frame.region = [] := List.isEmpty_iff.mp empty
    simp only [seam]
    refine ⟨⟨by simp [noRegion], by simp [task]⟩, Focus.suffix_seam _ _, task, fun same => same⟩
  · rename_i behind
    simp only [seam]
    have inside := Focus.inside_seam ahead orderly.inside
    refine ⟨⟨inside, by simp [task]⟩, Focus.suffix_seam _ _, task, ?_⟩
    intro noRegion
    rw [noRegion] at behind
    exact absurd rfl behind

/-- An output without scripts leaves one script less. -/
theorem Orderly.descends_splice (orderly : frame.Orderly) (task : frame.task = .resolve) {script : Token}
    {rest : List Token} (ahead : frame.ahead = script :: rest) (isScript : script.isScript)
    (output : List Token) :
    Orderly (frame.edit (Focus.splice output)) ∧
      (scripts output = 0 → Descends limits (frame.edit (Focus.splice output)) frame) := by
  have seam (before : List Token) : Focus.splice output ⟨before, frame.ahead⟩ =
      Focus.seam ⟨before, join output rest⟩ := by
    rw [ahead]
    rfl
  obtain ⟨orderly', suffix, _⟩ := orderly.edit task seam
  refine ⟨orderly', fun noScript => .inl ?_⟩
  have fewer := scripts_le_of_suffix suffix
  rw [scripts_join, noScript] at fewer
  have one : scripts frame.ahead = scripts rest + 1 := by
    rw [ahead]
    exact List.countP_cons_of_pos isScript
  omega

/-- Erasing a definition. -/
theorem Orderly.descends_erase (orderly : frame.Orderly) (task : frame.task = .resolve)
    (noRegion : frame.region = []) {word : Token} {rest : List Token} (ahead : frame.ahead = word :: rest)
    (count : Nat) :
    Orderly (frame.edit (Focus.erase (count + 1))) ∧
      Descends limits (frame.edit (Focus.erase (count + 1))) frame := by
  have seam (before : List Token) : Focus.erase (count + 1) ⟨before, frame.ahead⟩ =
      Focus.seam ⟨before, rest.drop count⟩ := by
    rw [ahead]
    rfl
  obtain ⟨orderly', suffix, task', noRegion'⟩ := orderly.edit task seam
  have within := suffix.trans (List.drop_suffix count rest)
  refine ⟨orderly', .of_effort (ahead ▸ within.trans (List.suffix_cons word rest)) ?_⟩
  have fewer := within.length_le
  simp only [effort, pending, task, task', noRegion, noRegion' noRegion, ahead, List.length_cons]
  omega

end Frame

/-! ## Bridges -/

namespace Bridge

variable {σ ρ : Type} {bridge : Bridge σ} {state state' : σ} {code output : String} {limit : Nat}

/-- From this state on, the bridge can give these answers one after the other. Between them, results may
be made known to it. -/
inductive Answers (bridge : Bridge σ) : σ → List String → Prop
  | nil {state : σ} : Answers bridge state []
  | cons {state state' : σ} {code output : String} {answers : List String} :
      bridge.evaluate code state = (.ok output, state') → Answers bridge state' answers →
      Answers bridge state (output :: answers)
  | bind {state : σ} {name : String} {interface : Datum} {answers : List String} :
      Answers bridge (bridge.bind name interface state) answers → Answers bridge state answers

/-- From this state on, at most so many answers bring new scripts. -/
def Bounded (bridge : Bridge σ) (limit : Nat) (state : σ) : Prop :=
  ∀ answers, bridge.Answers state answers → answers.countP bringsScripts ≤ limit

/-- An answer with new scripts uses up the bound. -/
theorem Bounded.answered (bounded : bridge.Bounded limit state)
    (answer : bridge.evaluate code state = (.ok output, state')) :
    ∃ limit' ≤ limit, bridge.Bounded limit' state' ∧ (bringsScripts output → limit' < limit) := by
  have counted (answers : List String) (answered : bridge.Answers state' answers) :
      answers.countP bringsScripts + (if bringsScripts output then 1 else 0) ≤ limit := by
    rw [← List.countP_cons]
    exact bounded _ (.cons answer answered)
  by_cases brings : bringsScripts output
  · simp only [brings, if_true] at counted
    have positive := counted [] .nil
    refine ⟨limit - 1, Nat.sub_le limit 1, fun answers answered => ?_, fun _ => by omega⟩
    have within := counted answers answered
    omega
  · refine ⟨limit, Nat.le_refl limit, fun answers answered => ?_, fun does => absurd does brings⟩
    exact (Nat.le_add_right _ _).trans (counted answers answered)

theorem Bounded.learn (bounded : bridge.Bounded limit state) (result? : Option Result) :
    bridge.Bounded limit (bridge.learn result? state) := by
  unfold Bridge.learn
  split
  · intro answers answered
    exact bounded answers (.bind answered)
  · exact bounded

end Bridge

/-! ## Machines -/

namespace Machine

variable {σ ρ : Type} (host : Host σ ρ) {machine machine' : Machine σ ρ} {limit : Nat}

theorem bounded_emit {name : String} {arguments : Arguments}
    (bounded : host.bridge.Bounded limit machine.bridge)
    (emitted : emit host machine name arguments = .ok machine') :
    host.bridge.Bounded limit machine'.bridge := by
  obtain ⟨result?, library', _, seen⟩ := seen_emit host emitted
  have bridge : machine'.bridge = host.bridge.learn result? machine.bridge := congrArg Seen.bridge seen
  rw [bridge]
  exact bounded.learn result?

/-- Dispatching asks for no answer. -/
theorem bounded_dispatch {command : Command} (bounded : host.bridge.Bounded limit machine.bridge)
    (dispatched : dispatch host machine command = .ok machine') :
    host.bridge.Bounded limit machine'.bridge := by
  have dispatches := dispatches host machine command
  rw [dispatched] at dispatches
  cases dispatches with
  | refused _ outcome => cases outcome
  | unknown _ outcome | repeated _ _ outcome =>
      obtain rfl := Except.ok.inj outcome
      exact bounded
  | opening _ _ _ _ opened outcome => exact bounded_emit host (bounded_emit host bounded opened) outcome
  | unopened _ _ _ _ _ outcome => cases outcome
  | first _ _ _ outcome | later _ _ _ outcome => exact bounded_emit host bounded outcome

/-- All sequences under way are orderly, and the depth counts them. -/
structure Orderly (machine : Machine σ ρ) : Prop where
  frames : ∀ frame ∈ machine.frames, frame.Orderly
  depth : machine.frames.length ≤ machine.state.depth

/-- How many blocks and loop bodies may still be begun. -/
def credit (limits : Limits) (machine : Machine σ ρ) : Nat :=
  (limits.expansions - machine.state.expansions).toNat

/-- The scripts ahead in all sequences under way. -/
def scriptsAhead (machine : Machine σ ρ) : Nat :=
  machine.frames.foldr (fun frame others => scripts frame.ahead + others) 0

/-- The effort that is left in all sequences under way. -/
def effort (limits : Limits) (machine : Machine σ ρ) : Nat :=
  machine.frames.foldr (fun frame others => frame.effort limits + others) 0

/-- What becomes smaller in every move. -/
def rank (limits : Limits) (limit : Nat) (machine : Machine σ ρ) : ℕ ×ₗ ℕ ×ₗ ℕ ×ₗ ℕ :=
  toLex (limit, toLex (credit limits machine, toLex (scriptsAhead machine, effort limits machine)))

/-- The next machine is below a machine, with a bound on the answers that are still to come. -/
def Below (limit : Nat) (machine machine' : Machine σ ρ) : Prop :=
  ∃ limit', host.bridge.Bounded limit' machine'.bridge ∧ machine'.Orderly ∧
    rank host.limits limit' machine' < rank host.limits limit machine

variable {limits : Limits} {limit' : Nat} {frame frame' : Frame} {outer : List Frame}

theorem rank_lt_of_limit (fewer : limit' < limit) :
    rank limits limit' machine' < rank limits limit machine := by
  simp only [rank, Prod.Lex.toLex_lt_toLex]
  omega

theorem rank_lt_of_credit (noMore : limit' ≤ limit)
    (fewer : credit limits machine' < credit limits machine) :
    rank limits limit' machine' < rank limits limit machine := by
  simp only [rank, Prod.Lex.toLex_lt_toLex]
  omega

/-- One sequence has come further, and all others are as they were. -/
theorem rank_lt_of_descends (noMore : limit' ≤ limit)
    (expansions : machine'.state.expansions = machine.state.expansions)
    (frames : machine.frames = frame :: outer) (frames' : machine'.frames = frame' :: outer)
    (descends : frame'.Descends limits frame) :
    rank limits limit' machine' < rank limits limit machine := by
  simp only [rank, Prod.Lex.toLex_lt_toLex, credit, scriptsAhead, effort, expansions, frames, frames',
    List.foldr_cons, true_and]
  unfold Frame.Descends at descends
  omega

theorem Orderly.replace (orderly : machine.Orderly) (frames : machine.frames = frame :: outer)
    (depth : machine'.state.depth = machine.state.depth) (frames' : machine'.frames = frame' :: outer)
    (orderly' : frame'.Orderly) : machine'.Orderly := by
  have inside := orderly.frames
  have counted := orderly.depth
  rw [frames] at inside counted
  refine ⟨?_, ?_⟩
  · rw [frames']
    exact List.forall_mem_cons.mpr ⟨orderly', (List.forall_mem_cons.mp inside).2⟩
  · rwa [frames', depth]

theorem Orderly.enter (orderly : machine.Orderly) (tokens : List Token) :
    (enter host machine tokens).Orderly := by
  have counted := orderly.depth
  have begun := List.forall_mem_cons.mpr ⟨Frame.orderly_of_nil [] tokens, orderly.frames⟩
  unfold Machine.enter
  simp only
  split
  · exact ⟨orderly.frames, counted⟩
  · split
    · rename_i outermost
      rw [outermost] at counted
      exact ⟨begun, Nat.succ_le_succ counted⟩
    · split
      · exact ⟨orderly.frames, counted⟩
      · exact ⟨begun, Nat.succ_le_succ counted⟩

/-- Beginning a sequence inside of another uses up the bound on these, where it is not forbidden. -/
theorem rank_enter_le (orderly : machine.Orderly) (inner : machine.frames ≠ []) (tokens : List Token) :
    rank host.limits limit (enter host machine tokens) ≤ rank host.limits limit machine := by
  have counted := orderly.depth
  have begun := List.length_pos_iff.mpr inner
  unfold enter
  simp only
  split
  · exact le_refl _
  · split
    · omega
    · split
      · exact le_refl _
      · refine (rank_lt_of_credit (Nat.le_refl limit) ?_).le
        simp only [credit]
        omega

theorem bridge_enter (machine : Machine σ ρ) (tokens : List Token) :
    (enter host machine tokens).bridge = machine.bridge :=
  congrArg Seen.bridge (seen_enter host machine tokens)

/-- Going on in a sequence, and beginning another one inside of it. -/
theorem Below.enter (below : Below host limit machine machine') (inner : machine'.frames ≠ [])
    (tokens : List Token) : Below host limit machine (Machine.enter host machine' tokens) := by
  obtain ⟨limit', bounded, orderly, less⟩ := below
  exact ⟨limit', by rwa [bridge_enter], orderly.enter host tokens,
    (rank_enter_le host orderly inner tokens).trans_lt less⟩

/-- Going further in the innermost sequence. -/
theorem below_of_descends (orderly : machine.Orderly) (frames : machine.frames = frame :: outer)
    (noMore : limit' ≤ limit) (bounded : host.bridge.Bounded limit' machine'.bridge)
    (depth : machine'.state.depth = machine.state.depth)
    (expansions : machine'.state.expansions = machine.state.expansions)
    (frames' : machine'.frames = frame' :: outer)
    (further : frame'.Orderly ∧ frame'.Descends host.limits frame) :
    Below host limit machine machine' :=
  ⟨limit', bounded, orderly.replace frames depth frames' further.1,
    rank_lt_of_descends noMore expansions frames frames' further.2⟩

/-- Leaving the innermost sequence, where nothing is left to do in it. -/
theorem below_leaving (orderly : machine.Orderly) (bounded : host.bridge.Bounded limit machine.bridge)
    (frames : machine.frames = frame :: outer) (resolved : frame.isResolved) :
    Below host limit machine (machine.leaving outer) := by
  obtain ⟨inside, counted⟩ := orderly
  rw [frames] at inside counted
  have positive : 0 < frame.effort host.limits := by
    simp only [Frame.effort, Frame.pending, Frame.task_of_isResolved resolved]
    split <;> omega
  refine ⟨limit, bounded,
    ⟨(List.forall_mem_cons.mp inside).2, Nat.le_sub_of_add_le counted⟩, ?_⟩
  simp only [rank, Prod.Lex.toLex_lt_toLex, credit, scriptsAhead, effort, leaving, frames,
    List.foldr_cons, true_and]
  omega

/-- Every move after which a run goes on leads to a machine below. -/
theorem below_of_step (orderly : machine.Orderly) (bounded : host.bridge.Bounded limit machine.bridge)
    (moved : step host machine = .next machine') : Below host limit machine machine' := by
  rcases frames : machine.frames with _ | ⟨frame, outer⟩
  · rw [step_of_nil host frames] at moved
    cases moved
  · have moves := moves_step host frames
    rw [moved] at moves
    have inside := orderly.frames frame (frames ▸ List.mem_cons_self)
    cases moves with
    | pass passes =>
        exact below_of_descends host orderly frames (Nat.le_refl limit) bounded rfl rfl rfl
          (passes.descends inside)
    | hear hears answer =>
        obtain ⟨limit', noMore, bounded', _⟩ := bounded.answered answer
        exact below_of_descends host orderly frames noMore bounded' rfl rfl rfl
          (hears.descends inside)
    | @splice script rest output bridge task ahead isScript answer =>
        obtain ⟨limit', noMore, bounded', used⟩ := bounded.answered answer
        obtain ⟨orderly', descends⟩ :=
          inside.descends_splice task ahead (beq_iff_eq.mpr isScript) (outputTokens output)
        by_cases brings : bringsScripts output
        · exact ⟨limit', bounded', orderly.replace frames rfl rfl orderly',
            rank_lt_of_limit (used brings)⟩
        · exact below_of_descends host orderly frames noMore bounded' rfl rfl rfl
            ⟨orderly', descends (scripts_outputTokens (by simpa using brings))⟩
    | define task noRegion ahead =>
        exact below_of_descends host orderly frames (Nat.le_refl limit) bounded rfl rfl rfl
          (inside.descends_erase task noRegion ahead _)
    | @iterate loop bridge task allowed answer =>
        obtain ⟨limit', noMore, bounded', _⟩ := bounded.answered answer
        have further : Below host limit machine
            (((machine.heard loop.condition "true" bridge).noting (.iteration loop.iteration)).withFrames
              ({ frame with task := .advanceLoop loop } :: outer)) :=
          below_of_descends host orderly frames noMore bounded' rfl rfl rfl
            (inside.descends_iterate task allowed)
        exact further.enter host (List.cons_ne_nil _ _) loop.body
    | leave resolved => exact below_leaving host orderly bounded frames resolved
    | @invoke name body resolved invoked known =>
        obtain ⟨nonempty, count⟩ := Frame.command_length_of_invokedBlock? invoked
        have further : Below host limit machine
            ((machine.noting (.invoking name)).withFrames (frame.skip 2 :: outer)) := by
          rw [← count]
          exact below_of_descends host orderly frames (Nat.le_refl limit) bounded rfl rfl rfl
            (inside.descends_skip resolved nonempty)
        exact further.enter host (List.cons_ne_nil _ _) body
    | invokeUnknown resolved invoked =>
        obtain ⟨nonempty, count⟩ := Frame.command_length_of_invokedBlock? invoked
        rw [← count]
        exact below_of_descends host orderly frames (Nat.le_refl limit) bounded rfl rfl rfl
          (inside.descends_skip resolved nonempty)
    | dismiss resolved nonempty uninvoked read =>
        exact below_of_descends host orderly frames (Nat.le_refl limit) bounded rfl rfl rfl
          (inside.descends_skip resolved nonempty)
    | @perform command middle resolved nonempty uninvoked read dispatched =>
        have kept := kept_of_dispatch host dispatched
        have recalled : host.bridge.Bounded limit (machine.recalling command).bridge := bounded
        have bounded' : host.bridge.Bounded limit middle.bridge :=
          bounded_dispatch host recalled dispatched
        exact below_of_descends host orderly frames (Nat.le_refl limit) bounded' kept.depth
          kept.expansions rfl (inside.descends_skip resolved nonempty)

/-- From an orderly machine, every run comes to an end. -/
theorem exists_run_isOver (orderly : machine.Orderly)
    (bounded : host.bridge.Bounded limit machine.bridge) : ∃ fuel, (run host fuel machine).isOver := by
  induction ranked : rank host.limits limit machine using WellFoundedLT.induction
    generalizing limit machine with
  | ind _ ih =>
      subst ranked
      cases moved : step host machine with
      | next machine' =>
          obtain ⟨limit', bounded', orderly', less⟩ := below_of_step host orderly bounded moved
          obtain ⟨fuel, ended⟩ := ih _ less orderly' bounded' rfl
          exact ⟨fuel + 1, by rwa [run_succ host moved]⟩
      | finished | failed =>
          refine ⟨1, ?_⟩
          rw [run, moved]
          rfl

/-- Where a bridge gives at most so many answers that bring new scripts, every sequence is processed to
the end, in every state, within all limits and whatever blocks and loops do. -/
theorem process_terminates (state : State) (bridge : σ) (library : ρ) (tokens : List Token)
    (bounded : host.bridge.Bounded limit bridge) :
    ∃ fuel, (process host fuel ⟨state, bridge, library, []⟩ tokens).isOver := by
  have start : Orderly (⟨state, bridge, library, []⟩ : Machine σ ρ) := ⟨by simp, Nat.zero_le _⟩
  have entered := start.enter host tokens
  have bounded' :
      host.bridge.Bounded limit (enter host ⟨state, bridge, library, []⟩ tokens).bridge := by
    rwa [bridge_enter]
  unfold process
  simp only
  split
  · exact ⟨0, rfl⟩
  · exact exists_run_isOver host entered bounded'

/-- A bridge whose first answer is a script, and all others the word by which a loop goes on. -/
def onceScript : Bridge Nat where
  evaluate _ count := (.ok (if count = 0 then "\x7bx\x7d" else "true"), count + 1)
  bind _ _ count := count

theorem onceScript_bounded : onceScript.Bounded 1 0 := by
  have counted (answers : List String) (count : Nat) (answered : onceScript.Answers count answers) :
      answers.countP bringsScripts ≤ if count = 0 then 1 else 0 := by
    induction answered with
    | nil => exact Nat.zero_le _
    | @cons count count' code output answers answer _ ih =>
        cases answer
        rw [List.countP_cons]
        split at ih
        · contradiction
        · have last : answers.countP bringsScripts = 0 := Nat.le_zero.mp ih
          rw [last]
          by_cases first : count = 0
          · simp only [first, if_true]
            split <;> omega
          · have plain : ¬bringsScripts "true" := by decide +kernel
            simp [first, plain]
    | bind _ ih => exact ih
  exact fun answers answered => counted answers 0 answered

/-- A block that invokes itself twice, invoked by a loop that never stops by itself. -/
theorem process_terminates_of_recursion :
    let host : Host Nat Unit :=
      { bridge := onceScript
        registry := ⟨fun _ => .ok false, fun _ => .ok [], fun _ _ _ => (.ok none, ())⟩ }
    let tokens := Token.tokenize "\x7bs\x7d;_a @a;@a;;;.for\x7bi\x7d\x7bc\x7d\x7bs\x7d;@a;;;"
    onceScript.Bounded 1 0 ∧ ∃ fuel, (process host fuel ⟨{}, 0, (), []⟩ tokens).isOver := by
  intro host tokens
  exact ⟨onceScript_bounded, process_terminates host {} 0 () tokens onceScript_bounded⟩

end Machine

end Expansion

end Linework
