import Linework.Proofs.Expansion.Course
import Linework.Proofs.Expansion.Enclosed

/-!
# Each script is evaluated once, in its turn

As long as no block is known and no loop is under way, there is one sequence only, and nothing of it is
copied. If outputs bring no scripts of their own, the codes evaluated so far and the scripts that are
ahead are then always the scripts of the source, in their order: an evaluation moves one from the ones
to the others, and no other move takes a script away.
-/

namespace Linework

/-- Whether the token is a script, be it one inside of a group. -/
def Token.isFragment (token : Token) : Bool :=
  token.kind == .script || token.kind == .groupScript

/-- The texts of the scripts of a sequence, in their order. -/
def fragments (tokens : List Token) : List String :=
  (tokens.filter Token.isFragment).map (·.text)

variable {token : Token}

theorem fragments_append (first second : List Token) :
    fragments (first ++ second) = fragments first ++ fragments second := by
  simp [fragments]

theorem fragments_cons (isFragment : token.isFragment) (tokens : List Token) :
    fragments (token :: tokens) = token.text :: fragments tokens := by
  simp [fragments, isFragment]

theorem fragments_cons_of_not (noFragment : token.isFragment = false) (tokens : List Token) :
    fragments (token :: tokens) = fragments tokens := by
  simp [fragments, noFragment]

theorem Token.isFragment_of_kind {kind : Kind} (same : token.kind = kind) :
    token.isFragment = (kind == .script || kind == .groupScript) := by
  rw [isFragment, same]

/-- No fragment is fused with another token. -/
theorem Token.isFragment_of_fuse? {next fused : Token} (fuses : fuse? token next = some fused) :
    token.isFragment = false ∧ next.isFragment = false ∧ fused.isFragment = false := by
  obtain ⟨same, fusing, rfl⟩ := Token.fuse?_eq_some_iff.mp fuses
  have apart : token.isFragment = false := by
    unfold isFragment
    cases kind : token.kind with
    | text | boundary | group | string => rfl
    | script | groupScript => simp [kind, Kind.fuses] at fusing
  unfold isFragment at apart ⊢
  rw [← same]
  exact ⟨apart, apart, apart⟩

theorem fragments_join (first second : List Token) :
    fragments (join first second) = fragments first ++ fragments second := by
  rcases List.eq_nil_or_concat first with rfl | ⟨earlier, last, rfl⟩
  · rfl
  · rw [List.concat_eq_append, join_append_singleton, fragments_append, fragments_append,
      List.append_assoc]
    congr 1
    cases second with
    | nil => simp [glue, fragments]
    | cons next rest =>
        cases fuses : fuse? last next with
        | none => simp only [glue, fuses, ← fragments_append, List.singleton_append]
        | some fused =>
            obtain ⟨noLast, noNext, noFused⟩ := Token.isFragment_of_fuse? fuses
            simp only [glue, fuses, fragments_cons_of_not noFused, fragments_cons_of_not noNext,
              fragments_cons_of_not noLast]
            rfl

/-- What stands behind a seam has all the fragments of what stood behind it. -/
theorem fragments_seam (before tokens : List Token) :
    fragments (Focus.seam ⟨before, tokens⟩).after = fragments tokens := by
  cases before with
  | nil => rfl
  | cons last earlier =>
      cases tokens with
      | nil => rfl
      | cons next rest =>
          cases fuses : fuse? last next with
          | none => simp only [Focus.seam, fuses]
          | some fused =>
              obtain ⟨_, noNext, _⟩ := Token.isFragment_of_fuse? fuses
              simp only [Focus.seam, fuses, fragments_cons_of_not noNext]

namespace Expansion

/-- Whether an output brings scripts of any sort. -/
def bringsFragments (output : String) : Bool :=
  (Token.tokenize output).any Token.isFragment

theorem fragments_outputTokens {output : String} (noFragments : bringsFragments output = false) :
    fragments (outputTokens output) = [] := by
  have none : ∀ token ∈ Token.tokenize output, ¬token.isFragment := by
    simpa [bringsFragments] using noFragments
  rw [fragments, List.map_eq_nil_iff, List.filter_eq_nil_iff]
  intro token mem
  apply none
  unfold outputTokens at mem
  simp only at mem
  split at mem
  · exact List.mem_of_mem_dropLast mem
  · exact mem

/-! ## Frames -/

namespace Frame

variable {limits : Limits} {frame frame' : Frame} {rest : List Token}

theorem Settled.orderly (settled : frame.Settled) : frame.Orderly := by
  constructor
  · intro token inRegion
    have kind := settled.region token inRegion
    unfold Token.isBoundary
    cases same : token.kind with
    | boundary => simp [same, commandKinds] at kind
    | text | group | string | script | groupScript => rfl
  · intro text afterScript task group isHead
    simp [Token.isBoundary, settled.folds text afterScript task group isHead]

theorem Settled.ahead_skip (settled : frame.Settled) (resolved : frame.isResolved) :
    (frame.skip (frame.command.length + 1)).ahead = frame.ahead.tail := by
  rw [settled.orderly.command_eq resolved, Frame.skip, Frame.live, ← List.drop_drop, List.drop_left,
    List.drop_one]

/-- Moving behind a command passes no script. -/
theorem Settled.fragments_skip (settled : frame.Settled) (resolved : frame.isResolved) :
    fragments (frame.skip (frame.command.length + 1)).ahead = fragments frame.ahead := by
  have closed := isBoundary_of_isResolved resolved
  rw [settled.ahead_skip resolved]
  cases ahead : frame.ahead with
  | nil => rfl
  | cons separator behind =>
      rw [ahead] at closed
      have boundary : separator.kind = .boundary := eq_of_beq (closed separator rfl)
      exact (fragments_cons_of_not (Token.isFragment_of_kind boundary) behind).symm

/-- What a frame does by itself passes no script, unless it starts a loop. -/
theorem Passes.fragments (settled : frame.Settled) (passes : frame.Passes limits frame')
    (noLoop : frame'.task.body? = none) : fragments frame'.ahead = fragments frame.ahead := by
  obtain ⟨done, region, ahead, task⟩ := frame
  cases passes with
  | @advance token rest task ahead inside noGroup noScript =>
      obtain rfl : _ = token :: rest := ahead
      have noPiece : token.kind ≠ .groupScript := settled.ahead.head token rfl
      have apart : token.isFragment = false := by simp [Token.isFragment, noScript, noPiece]
      exact (fragments_cons_of_not apart rest).symm
  | beginFold | abandonFold | endLoop => rfl
  | @foldPiece group piece rest text task ahead isPiece =>
      obtain rfl : _ = group :: piece :: rest := ahead
      have isGroup : group.kind = .group := settled.folds text true task group rfl
      simp only [fragments_cons_of_not (Token.isFragment_of_kind isGroup),
        fragments_cons_of_not (Token.isFragment_of_kind isPiece)]
  | @finishFold group following text afterScript task ahead =>
      obtain rfl : _ = group :: following := ahead
      have isGroup : group.kind = .group := settled.folds text afterScript task group rfl
      exact (fragments_cons_of_not (Token.isFragment_of_kind isGroup) following).symm
  | startLoop => cases noLoop

/-- An answer is one to the next script, unless a loop has asked. -/
theorem Hears.fragments (settled : frame.Settled) {code output : String}
    (hears : frame.Hears code output frame') (noLoop : frame.task.body? = none) :
    fragments frame.ahead = code :: fragments frame'.ahead := by
  obtain ⟨done, region, ahead, task⟩ := frame
  cases hears with
  | @foldScript group piece rest text output afterScript task ahead isScript =>
      obtain rfl : _ = group :: piece :: rest := ahead
      have isGroup : group.kind = .group := settled.folds text afterScript task group rfl
      have isPiece : piece.isFragment := Token.isFragment_of_kind isScript
      simp only [fragments_cons_of_not (Token.isFragment_of_kind isGroup), fragments_cons isPiece]
  | beginLoop task | leaveLoop task | advanceLoop task =>
      obtain rfl := task
      cases noLoop

/-- An output without scripts leaves the others. -/
theorem fragments_splice {script : Token} (ahead : frame.ahead = script :: rest)
    (isScript : script.kind = .script) {output : String} (noFragments : bringsFragments output = false) :
    fragments frame.ahead =
      script.text :: fragments (frame.edit (Focus.splice (outputTokens output))).ahead := by
  have isFragment : script.isFragment := Token.isFragment_of_kind isScript
  have joined : fragments (join (outputTokens output) rest) = fragments rest := by
    rw [fragments_join, fragments_outputTokens noFragments, List.nil_append]
  rw [ahead, fragments_cons isFragment, ← joined]
  unfold Frame.edit
  split <;> simp only [ahead, Focus.splice, fragments_seam]

end Frame

/-! ## Events -/

/-- The code of an evaluation. -/
def Event.code? : Event → Option String
  | .evaluated code _ => some code
  | _ => none

/-- The codes evaluated so far, in their order. -/
def State.codes (state : State) : List String :=
  state.events.filterMap Event.code?

namespace Machine

variable {σ ρ : Type} (host : Host σ ρ) {machine machine' middle : Machine σ ρ}

/-- The events of a machine are those of another and some more, of which none is an evaluation. -/
def Acts (machine machine' : Machine σ ρ) : Prop :=
  ∃ more, machine'.state.events = machine.state.events ++ more ∧ more.filterMap Event.code? = []

theorem Acts.of_events (same : machine'.state.events = machine.state.events) :
    machine.Acts machine' :=
  ⟨[], by rw [same, List.append_nil], rfl⟩

theorem Acts.trans (first : machine.Acts middle) (second : middle.Acts machine') :
    machine.Acts machine' := by
  obtain ⟨more, events, quiet⟩ := first
  obtain ⟨more', events', quiet'⟩ := second
  refine ⟨more ++ more', by rw [events', events, List.append_assoc], ?_⟩
  rw [List.filterMap_append, quiet, quiet']
  rfl

theorem Acts.codes (acts : machine.Acts machine') : machine'.state.codes = machine.state.codes := by
  obtain ⟨more, events, quiet⟩ := acts
  rw [State.codes, events, List.filterMap_append, quiet, List.append_nil]
  rfl

theorem quiet_boundBy (name : String) (arguments : Arguments) (result? : Option Result) :
    (.called name arguments :: boundBy result?).filterMap Event.code? = [] := by
  unfold boundBy
  cases result?.bind Result.binding? <;> rfl

theorem acts_emit (machine : Machine σ ρ) (name : String) (arguments : Arguments) :
    machine.Acts (outcome (emit host machine name arguments)) := by
  cases emitted : emit host machine name arguments with
  | ok machine' =>
      obtain ⟨result?, library', _, seen⟩ := seen_emit host emitted
      refine ⟨.called name arguments :: boundBy result?, congrArg Seen.events seen, ?_⟩
      exact quiet_boundBy name arguments result?
  | error failure =>
      obtain ⟨_, _, seen⟩ | ⟨result, _, _, _, _, _, seen⟩ := seen_emit_failed host emitted
      · exact ⟨[.called name arguments], congrArg Seen.events seen, rfl⟩
      · refine ⟨.called name arguments :: boundBy (some result), congrArg Seen.events seen, ?_⟩
        exact quiet_boundBy name arguments (some result)

/-- A command evaluates nothing. -/
theorem acts_dispatch (machine : Machine σ ρ) (command : Command) :
    machine.Acts (outcome (dispatch host machine command)) := by
  cases dispatches host machine command with
  | refused _ same =>
      rw [same]
      exact .of_events rfl
  | unknown _ same | repeated _ _ same =>
      rw [same]
      exact .of_events (State.events_note _ _)
  | @opening middle _ _ _ _ opened same =>
      have first := acts_emit host machine host.limits.initCommand []
      rw [opened] at first
      rw [← same]
      exact first.trans (acts_emit host middle command.name command.arguments)
  | unopened _ _ _ _ failed same =>
      have first := acts_emit host machine host.limits.initCommand []
      rw [failed] at first
      rw [same]
      exact first
  | first _ _ _ same | later _ _ _ same =>
      rw [← same]
      exact acts_emit host machine command.name command.arguments

theorem events_heard (machine : Machine σ ρ) (code output : String) (bridge : σ) :
    (machine.heard code output bridge).state.events =
      machine.state.events ++ [.evaluated code output] :=
  congrArg Seen.events (seen_heard machine code output bridge)

theorem codes_heard (machine : Machine σ ρ) (code output : String) (bridge : σ) :
    (machine.heard code output bridge).state.codes = machine.state.codes ++ [code] := by
  rw [State.codes, events_heard, List.filterMap_append]
  rfl

theorem acts_noting (machine : Machine σ ρ) (note : Note) : machine.Acts (machine.noting note) :=
  .of_events (State.events_note _ _)

theorem acts_enter (machine : Machine σ ρ) (note : Note) (frames : List Frame) (tokens : List Token) :
    machine.Acts (enter host ((machine.noting note).withFrames frames) tokens) := by
  have seen : (enter host ((machine.noting note).withFrames frames) tokens).seen = machine.seen := by
    simp
  exact .of_events (congrArg Seen.events seen)

theorem acts_define (machine : Machine σ ρ) (frame : Frame) (outer : List Frame)
    (name remainder : String) (rest : List Token) :
    machine.Acts (define machine frame outer name remainder rest).machine :=
  .of_events (congrArg Seen.events (seen_define machine frame outer name remainder rest))

/-! ## What has happened -/

/-- What has happened in a machine has happened before in another. -/
def Precedes (machine machine' : Machine σ ρ) : Prop :=
  machine.state.events <+: machine'.state.events

theorem Acts.precedes (acts : machine.Acts machine') : machine.Precedes machine' := by
  obtain ⟨more, events, _⟩ := acts
  exact ⟨more, events.symm⟩

theorem precedes_heard (machine : Machine σ ρ) (code output : String) (bridge : σ) :
    machine.Precedes (machine.heard code output bridge) :=
  ⟨_, (events_heard machine code output bridge).symm⟩

/-- Nothing that has happened is undone by a move. -/
theorem precedes_step (machine : Machine σ ρ) : machine.Precedes (step host machine).machine := by
  rcases frames : machine.frames with _ | ⟨frame, outer⟩
  · rw [step_of_nil host frames]
    exact List.prefix_refl _
  · have moves := moves_step host frames
    generalize step host machine = move at moves
    cases moves with
    | pass | refuse | leave | finish | invokeUnknown | dismiss | misread => exact List.prefix_refl _
    | @hear _ code output bridge => exact precedes_heard machine code output bridge
    | @splice script rest output bridge =>
        have answered := precedes_heard machine script.text output bridge
        exact List.IsPrefix.trans answered (acts_noting _ _).precedes
    | define => exact (acts_define machine frame outer _ _ _).precedes
    | @iterate loop bridge =>
        have answered := precedes_heard machine loop.condition "true" bridge
        exact List.IsPrefix.trans answered (acts_enter host _ _ _ _).precedes
    | invoke => exact (acts_enter host machine _ _ _).precedes
    | @perform command middle _ _ _ _ dispatched | @abort command middle _ _ _ _ _ dispatched =>
        have acts := acts_dispatch host (machine.recalling command) command
        rw [dispatched] at acts
        exact Acts.precedes acts

theorem precedes_run (fuel : Nat) (machine : Machine σ ρ) :
    machine.Precedes (run host fuel machine).machine := by
  induction fuel generalizing machine with
  | zero => exact List.prefix_refl _
  | succ fuel ih =>
      have first := precedes_step host machine
      rw [run]
      cases moved : step host machine with
      | next middle =>
          rw [moved] at first
          exact List.IsPrefix.trans first (ih middle)
      | finished | failed =>
          rw [moved] at first
          exact first

end Machine

/-! ## Machines -/

/-- No block is known, and no loop is under way. -/
structure Machine.Straight {σ ρ : Type} (machine : Machine σ ρ) : Prop where
  blocks : machine.state.blocks = []
  loops : ∀ frame ∈ machine.frames, frame.task.body? = none

/-- One sequence is under way. What has been evaluated and what is ahead are together all fragments. -/
structure Machine.Reads {σ ρ : Type} (all : List String) (machine : Machine σ ρ) (frame : Frame) :
    Prop where
  frames : machine.frames = [frame]
  settled : frame.Settled
  codes : machine.state.codes ++ fragments frame.ahead = all

/-- What has been evaluated when a move is made: the first fragments, or all where the run ends well. -/
inductive Move.Reads {σ ρ : Type} (all : List String) : Move σ ρ → Prop
  | next {machine : Machine σ ρ} {frame : Frame} : machine.Reads all frame → Reads all (.next machine)
  | finished {machine : Machine σ ρ} {tokens : List Token} : machine.state.codes = all →
      Reads all (.finished machine tokens)
  | failed {machine : Machine σ ρ} {tokens : List Token} {fault : Fault} :
      machine.state.codes <+: all → Reads all (.failed machine tokens fault)

theorem Move.Reads.codes {σ ρ : Type} {all : List String} {move : Move σ ρ} (reads : move.Reads all) :
    move.machine.state.codes <+: all := by
  cases reads with
  | next reads => exact ⟨_, reads.codes⟩
  | finished codes => exact codes ▸ List.prefix_refl _
  | failed codes => exact codes

/-- No answer of the bridge has a script in it. -/
def Bridge.Plain {σ : Type} (bridge : Bridge σ) : Prop :=
  ∀ code state output state', bridge.evaluate code state = (.ok output, state') →
    bringsFragments output = false

theorem Bridge.Plain.bounded {σ : Type} {bridge : Bridge σ} (plain : bridge.Plain) (state : σ) :
    bridge.Bounded 0 state := by
  intro answers answered
  induction answered with
  | nil => exact Nat.le_refl 0
  | bind _ ih => exact ih
  | @cons _ _ code output answers answer _ ih =>
      have noFragments : ∀ token ∈ Token.tokenize output, token.isFragment = false := by
        simpa [bringsFragments] using plain _ _ _ _ answer
      have noScripts : bringsScripts output = false := by
        simp only [bringsScripts, List.any_eq_false]
        intro token mem isScript
        have apart := noFragments token mem
        rw [Token.isFragment, show (token.kind == .script) = true from isScript] at apart
        cases apart
      rwa [List.countP_cons_of_neg (by simp [noScripts])]

namespace Machine

variable {σ ρ : Type} (host : Host σ ρ) {machine machine' : Machine σ ρ}
  {all : List String} {frame frame' : Frame}

theorem Reads.quiet (reads : machine.Reads all frame) (acts : machine.Acts machine')
    (frames : machine'.frames = [frame']) (settled : frame'.Settled)
    (same : fragments frame'.ahead = fragments frame.ahead) : machine'.Reads all frame' :=
  ⟨frames, settled, by rw [acts.codes, same, reads.codes]⟩

theorem Reads.heard (reads : machine.Reads all frame) {code : String}
    (codes : machine'.state.codes = machine.state.codes ++ [code])
    (frames : machine'.frames = [frame']) (settled : frame'.Settled)
    (next : fragments frame.ahead = code :: fragments frame'.ahead) : machine'.Reads all frame' := by
  refine ⟨frames, settled, ?_⟩
  rw [codes, List.append_assoc, List.singleton_append, ← next, reads.codes]

/-- Behind a command, the machine reads on. -/
theorem Reads.skip (reads : machine.Reads all frame) (acts : machine.Acts machine')
    (resolved : frame.isResolved)
    (frames : machine'.frames = [frame.skip (frame.command.length + 1)]) :
    machine'.Reads all (frame.skip (frame.command.length + 1)) :=
  reads.quiet acts frames (reads.settled.skip (Frame.task_of_isResolved resolved))
    (reads.settled.fragments_skip resolved)

theorem Reads.fail (reads : machine.Reads all frame) (acts : machine.Acts machine') (fault : Fault) :
    Move.Reads all (machine'.fail fault) := by
  apply Move.Reads.failed
  have codes : machine'.state.codes = machine.state.codes := acts.codes
  rw [← reads.codes, ← codes]
  exact List.prefix_append _ _

/-- Every move reads on. -/
theorem Reads.step (plain : host.bridge.Plain) (reads : machine.Reads all frame)
    (straight : machine.Straight)
    (goesOn : ∀ machine', Machine.step host machine = .next machine' → machine'.Straight) :
    Move.Reads all (Machine.step host machine) := by
  have settled := reads.settled
  have noLoop : frame.task.body? = none :=
    straight.loops frame (by rw [reads.frames]; exact List.mem_cons_self)
  have moves := moves_step host reads.frames
  generalize Machine.step host machine = move at moves goesOn
  cases moves with
  | pass passes =>
      have noLoop' := (goesOn _ rfl).loops _ List.mem_cons_self
      exact .next (reads.quiet (.of_events rfl) rfl (passes.settled settled)
        (passes.fragments settled noLoop'))
  | @hear _ code output bridge hears =>
      exact .next (reads.heard (codes_heard machine code output bridge) rfl (hears.settled settled)
        (hears.fragments settled noLoop))
  | @refuse code fault bridge =>
      have acts : machine.Acts { machine with bridge := bridge } := .of_events rfl
      exact reads.fail acts fault
  | @splice script rest output bridge task ahead isScript answer =>
      have noFragments := plain _ _ _ _ answer
      have noted := (acts_noting (machine.heard script.text output bridge)
        (.spliced script.text (outputTokens output))).codes
      exact .next (reads.heard (noted.trans (codes_heard machine _ _ _)) rfl
        (settled.splice task ahead isScript output) (Frame.fragments_splice ahead isScript noFragments))
  | define =>
      -- The block is known from now on.
      exact absurd (goesOn _ rfl).blocks (Assoc.put_ne_nil _ _ _)
  | iterate task =>
      rw [task] at noLoop
      cases noLoop
  | leave _ _ inner => exact absurd rfl inner
  | finish resolved empty =>
      apply Move.Reads.finished
      have ended : frame.ahead = [] := by
        simpa using (List.append_eq_nil_iff.mp empty).2
      have codes : machine.state.codes ++ [] = all := by
        have codes := reads.codes
        rwa [ended] at codes
      rwa [List.append_nil] at codes
  | invoke _ _ known =>
      rw [straight.blocks] at known
      cases known
  | invokeUnknown resolved invoked =>
      obtain ⟨_, count⟩ := Frame.command_length_of_invokedBlock? invoked
      rw [← count]
      exact .next (reads.skip (.of_events rfl) resolved rfl)
  | dismiss resolved => exact .next (reads.skip (.of_events rfl) resolved rfl)
  | misread => exact reads.fail (.of_events rfl) _
  | @perform command middle resolved _ _ _ dispatched =>
      have acts := acts_dispatch host (machine.recalling command) command
      rw [dispatched] at acts
      exact .next (reads.skip acts resolved rfl)
  | @abort command middle fault _ _ _ _ dispatched =>
      have acts := acts_dispatch host (machine.recalling command) command
      rw [dispatched] at acts
      exact reads.fail acts fault

end Machine

end Expansion

end Linework
