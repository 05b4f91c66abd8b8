import Linework.Proofs.Expansion.Invariant
import Linework.Proofs.Expansion.Termination
import Linework.Proofs.Token.Enclosed

/-!
# Scripts are resolved before their command is read

The region between the two positions has no script in it: a token gets there by the lookahead position
moving over it, and that one resolves the scripts and groups it comes to. A script of a group could
slip through if it stood anywhere else than inside of a run that starts with a group. Ahead of the
lookahead position none does, and neither does one in the bodies of blocks and loops: these are read
from sources and outputs, and every edit and every capture keeps runs together.
-/

namespace Linework

namespace Focus

/-- What is fused at a seam is of the kind of the token before it. -/
theorem kind_before_seam {before : List Token} {kinds : List Kind} (after : List Token)
    (inside : ∀ token ∈ before, token.kind ∈ kinds) :
    ∀ token ∈ (seam ⟨before, after⟩).before, token.kind ∈ kinds := by
  cases before with
  | nil => exact inside
  | cons last earlier =>
      cases after with
      | nil => exact inside
      | cons next rest =>
          cases fuses : fuse? last next with
          | none => simpa [seam, fuses] using inside
          | some fused =>
              obtain ⟨kind, _⟩ := Token.kind_of_fuse? fuses
              simpa [seam, fuses, kind] using inside

end Focus

namespace Expansion

variable {tokens front rest : List Token}

/-! ## Parts of sequences -/

/-- A sequence can be cut at a separator. -/
theorem cut_of_closed (enclosed : Enclosed (front ++ rest))
    (closed : ∀ token ∈ rest.head?, token.isBoundary) :
    Enclosed front ∧ Enclosed ((front ++ rest).drop (front.length + 1)) := by
  have boundary : ∀ token ∈ rest.head?, token.kind = .boundary := by
    simpa [Token.isBoundary] using closed
  constructor
  · apply enclosed.of_append_left
    intro token isNext
    simp [boundary token isNext]
  · rw [← List.drop_drop, List.drop_left]
    cases rest with
    | nil => exact enclosed_nil
    | cons separator behind =>
        have kind : separator.kind = .boundary := boundary separator rfl
        have restEnclosed : Enclosed (separator :: behind) :=
          enclosed.of_append_right (by simp [kind])
        exact restEnclosed.tail (by simp [kind])

/-- What stands before the first separator of some sort, and what stands behind it. -/
theorem cut_takeWhile {stays : Token → Bool} (enclosed : Enclosed tokens)
    (stops : ∀ token, stays token = false → token.isBoundary) :
    Enclosed (tokens.takeWhile stays) ∧
      Enclosed (tokens.drop ((tokens.takeWhile stays).length + 1)) := by
  have parts := List.takeWhile_append_dropWhile (p := stays) (l := tokens)
  rw [← parts] at enclosed
  have cut := cut_of_closed enclosed fun token isNext => ?_
  · rwa [parts] at cut
  · apply stops
    have stopped := List.head?_dropWhile_not stays tokens
    rw [Option.mem_def.mp isNext] at stopped
    simpa using stopped

theorem cut_blockBody (enclosed : Enclosed tokens) :
    Enclosed (blockBody tokens) ∧ Enclosed (tokens.drop ((blockBody tokens).length + 1)) := by
  apply cut_takeWhile enclosed
  intro token ends
  have endsBlock : endsBlock token := by simpa using ends
  exact (Bool.and_eq_true_iff.mp endsBlock).1

theorem enclosed_closeBody (enclosed : Enclosed tokens) : Enclosed (closeBody tokens) := by
  have separator : Enclosed [⟨.boundary, ""⟩] := enclosed_singleton nofun
  exact (enclosed.append separator).fused

theorem enclosed_outputTokens (output : String) : Enclosed (outputTokens output) := by
  have enclosed := Token.enclosed_tokenize output
  unfold outputTokens
  simp only
  split
  · rename_i closed
    obtain ⟨earlier, split⟩ := List.getLast?_eq_some_iff.mp closed
    rw [split] at enclosed ⊢
    rw [List.dropLast_concat]
    apply enclosed.of_append_left
    simp
  · exact enclosed

/-- A separator stands between the head of a loop and what follows. -/
theorem exists_of_loopHead? {found found' : List String} {separator : Token} {left : List Token}
    (head : loopHead? found tokens = some (found', separator, left)) :
    separator.isBoundary ∧ ∃ front, tokens = front ++ separator :: left := by
  fun_induction loopHead? found tokens with
  | case1 | case5 => cases head
  | case2 found token rest _ ih | case3 found token rest _ _ ih =>
      obtain ⟨boundary, front, rfl⟩ := ih head
      exact ⟨boundary, token :: front, rfl⟩
  | case4 found token rest _ _ closed =>
      cases head
      exact ⟨(Bool.and_eq_true_iff.mp closed).1, [], rfl⟩

/-! ## Frames -/

/-- The kinds of tokens that a command is read from. -/
def commandKinds : List Kind :=
  [.text, .group, .string]

/-- The body of the loop that is under way. -/
def Task.body? : Task → Option (List Token)
  | .beginLoop _ loop | .testLoop loop | .advanceLoop loop => some loop.body
  | .resolve | .fold _ _ => none

namespace Frame

/-- A sequence without scripts in its region. Ahead, scripts of groups stand inside of runs, and a run
that is being folded still starts with its group. -/
structure Settled (frame : Frame) : Prop where
  region : ∀ token ∈ frame.region, token.kind ∈ commandKinds
  ahead : Enclosed frame.ahead
  folds : ∀ text afterScript, frame.task = .fold text afterScript →
    ∀ group ∈ frame.ahead.head?, group.kind = .group
  body : ∀ body ∈ frame.task.body?, Enclosed body

variable {limits : Limits} {frame frame' : Frame}

theorem settled_of_nil (done : List Token) {ahead : List Token} (enclosed : Enclosed ahead) :
    Settled ⟨done, [], ahead, .resolve⟩ :=
  ⟨by simp, enclosed, nofun, nofun⟩

theorem Settled.live (settled : frame.Settled) : Enclosed frame.live := by
  have plain : Enclosed frame.region.reverse := by
    apply enclosed_of_ne
    intro token inRegion script
    have kind := settled.region token (List.mem_reverse.mp inRegion)
    rw [script] at kind
    simp [commandKinds] at kind
  exact plain.append settled.ahead

/-- Behind a command and the separator after it. -/
theorem Settled.skip (settled : frame.Settled) (task : frame.task = .resolve) :
    Settled (frame.skip (frame.command.length + 1)) := by
  have cut : Enclosed (frame.live.drop (frame.command.length + 1)) := by
    apply (cut_takeWhile settled.live _).2
    simp
  unfold Frame.skip
  rw [task]
  exact settled_of_nil _ cut

/-- The region takes in a token that a command is read from. -/
theorem Settled.advance (settled : frame.Settled) (task : frame.task = .resolve) {token : Token}
    (ahead : frame.ahead = token :: rest) (plain : token.kind ∈ commandKinds)
    (enclosed : Enclosed rest) : frame.advance.Settled := by
  unfold Frame.advance
  rw [ahead]
  exact ⟨List.forall_mem_cons.mpr ⟨plain, settled.region⟩, enclosed, by simp [task],
    by simp [task, Task.body?]⟩

/-- An edit at a token ahead that comes down to a seam. -/
theorem Settled.edit (settled : frame.Settled) (task : frame.task = .resolve) {ahead : List Token}
    {change : Focus Token → Focus Token} (enclosed : Enclosed ahead)
    (seam : ∀ before, change ⟨before, frame.ahead⟩ = Focus.seam ⟨before, ahead⟩) :
    (frame.edit change).Settled := by
  unfold Frame.edit
  split
  · simp only [seam]
    exact ⟨settled.region, enclosed.seam _, by simp [task], by simp [task, Task.body?]⟩
  · simp only [seam]
    exact ⟨Focus.kind_before_seam ahead settled.region, enclosed.seam _, by simp [task],
      by simp [task, Task.body?]⟩

/-- An output takes the place of its script. -/
theorem Settled.splice (settled : frame.Settled) (task : frame.task = .resolve) {script : Token}
    (ahead : frame.ahead = script :: rest) (isScript : script.kind = .script) (output : String) :
    (frame.edit (Focus.splice (outputTokens output))).Settled := by
  have aheadEnclosed := settled.ahead
  rw [ahead] at aheadEnclosed
  have restEnclosed : Enclosed rest := aheadEnclosed.tail (by simp [isScript])
  apply settled.edit task ((enclosed_outputTokens output).append restEnclosed).join
  intro before
  rw [ahead]
  rfl

/-- A definition is erased, and its body captured. -/
theorem Settled.define (settled : frame.Settled) (task : frame.task = .resolve) {word : Token}
    (ahead : frame.ahead = word :: rest) (text : word.kind = .text) :
    Enclosed (blockBody rest) ∧
      (frame.edit (Focus.erase ((blockBody rest).length + 2))).Settled := by
  have aheadEnclosed := settled.ahead
  rw [ahead] at aheadEnclosed
  obtain ⟨body, behind⟩ := cut_blockBody (aheadEnclosed.tail (by simp [text]))
  refine ⟨body, settled.edit task behind fun before => ?_⟩
  rw [ahead]
  rfl

/-- The body of a loop is captured, and the loop passed over. -/
theorem cut_loop (separator : Token) {left : List Token} (enclosed : Enclosed left) :
    Enclosed (loopBody separator left) ∧ Enclosed (left.drop (loopClosing separator left)) := by
  unfold loopClosing loopBody
  split
  · exact ⟨enclosed_nil, enclosed⟩
  · exact cut_blockBody enclosed

theorem Passes.settled (settled : frame.Settled) (passes : frame.Passes limits frame') :
    frame'.Settled := by
  obtain ⟨done, region, ahead, task⟩ := frame
  cases passes with
  | @advance token rest task ahead inside noGroup noScript =>
      obtain rfl : _ = token :: rest := ahead
      have noPiece : token.kind ≠ .groupScript := settled.ahead.head token rfl
      have plain : token.kind ∈ commandKinds := by
        cases kind : token.kind with
        | text | group | string => simp [commandKinds]
        | boundary => simp [Token.isBoundary, kind] at inside
        | script => exact absurd kind noScript
        | groupScript => exact absurd kind noPiece
      exact settled.advance task rfl plain (settled.ahead.tail noGroup)
  | @beginFold group following task ahead isGroup =>
      obtain rfl : _ = group :: following := ahead
      exact ⟨settled.region, settled.ahead, by simp [isGroup], by simp [Task.body?]⟩
  | @foldPiece group piece rest text task ahead isPiece =>
      obtain rfl : _ = group :: piece :: rest := ahead
      have isGroup : group.kind = .group := settled.folds text true task group rfl
      exact ⟨settled.region, settled.ahead.erase_piece isGroup, by simp [isGroup], by simp [Task.body?]⟩
  | @finishFold group following text afterScript task ahead noScript =>
      obtain rfl : _ = group :: following := ahead
      have isGroup : group.kind = .group := settled.folds text afterScript task group rfl
      have followingEnclosed : Enclosed following :=
        Enclosed.of_append_right (show Enclosed ([group] ++ following) from settled.ahead) noScript
      exact ⟨List.forall_mem_cons.mpr ⟨by simp [isGroup, commandKinds], settled.region⟩,
        followingEnclosed, by simp [Frame.advance], by simp [Frame.advance, Task.body?]⟩
  | @abandonFold text afterScript task ahead =>
      exact ⟨settled.region, settled.ahead, by simp, by simp [Task.body?]⟩
  | @startLoop word separator rest left init condition step task noRegion ahead text loops head =>
      obtain rfl : _ = [] := noRegion
      obtain rfl : _ = word :: rest := ahead
      obtain ⟨boundary, front, rfl⟩ := exists_of_loopHead? head
      have isBoundary : separator.kind = .boundary := by simpa [Token.isBoundary] using boundary
      have behindHead : Enclosed (separator :: left) :=
        Enclosed.of_append_right (show Enclosed ((word :: front) ++ separator :: left) from settled.ahead)
          (by simp [isBoundary])
      obtain ⟨body, behind⟩ := cut_loop separator (behindHead.tail (by simp [isBoundary]))
      have remaining : (word :: (front ++ separator :: left)).drop
          ((word :: (front ++ separator :: left)).length - left.length) = left := by
        apply (List.suffix_iff_eq_drop.mp _).symm
        exact ⟨word :: (front ++ [separator]), by simp⟩
      refine ⟨List.forall_mem_nil _, ?_, by simp, by simpa [Task.body?] using enclosed_closeBody body⟩
      simp only [Frame.skip, Frame.live, List.reverse_nil, List.nil_append, ← List.drop_drop, remaining]
      exact behind
  | endLoop task =>
      exact ⟨settled.region, settled.ahead, by simp, by simp [Task.body?]⟩

theorem Hears.settled (settled : frame.Settled) {code output : String}
    (hears : frame.Hears code output frame') : frame'.Settled := by
  obtain ⟨done, region, ahead, task⟩ := frame
  cases hears with
  | @foldScript group piece rest text output afterScript task ahead isScript =>
      obtain rfl : _ = group :: piece :: rest := ahead
      have isGroup : group.kind = .group := settled.folds text afterScript task group rfl
      exact ⟨settled.region, settled.ahead.erase_piece isGroup, by simp [isGroup], nofun⟩
  | beginLoop task | advanceLoop task =>
      obtain rfl := task
      exact ⟨settled.region, settled.ahead, nofun, settled.body⟩
  | leaveLoop task =>
      exact ⟨settled.region, settled.ahead, nofun, nofun⟩

end Frame

/-! ## Machines -/

/-- Scripts of groups stand inside of runs in all blocks. -/
def State.Enclosed (state : State) : Prop :=
  ∀ entry ∈ state.blocks, Linework.Enclosed entry.2

namespace Machine

variable {σ ρ : Type} (host : Host σ ρ) {machine machine' : Machine σ ρ} {frame : Frame}
  {outer : List Frame}

/-- All sequences under way are settled, and the blocks can be processed. -/
structure Settled (machine : Machine σ ρ) : Prop where
  frames : ∀ frame ∈ machine.frames, frame.Settled
  blocks : machine.state.Enclosed

/-- The innermost sequence is another one now. -/
theorem Settled.replace (settled : machine.Settled) (frames : machine.frames = frame :: outer)
    (blocks : machine'.state.blocks = machine.state.blocks) {frame' : Frame}
    (frames' : machine'.frames = frame' :: outer) (inner : frame'.Settled) : machine'.Settled := by
  have all := settled.frames
  rw [frames] at all
  constructor
  · rw [frames']
    exact List.forall_mem_cons.mpr ⟨inner, (List.forall_mem_cons.mp all).2⟩
  · unfold State.Enclosed
    rw [blocks]
    exact settled.blocks

theorem Settled.enter (settled : machine.Settled) {tokens : List Token} (enclosed : Enclosed tokens) :
    (enter host machine tokens).Settled := by
  have begun := List.forall_mem_cons.mpr ⟨Frame.settled_of_nil [] enclosed, settled.frames⟩
  unfold Machine.enter
  simp only
  split
  · exact ⟨settled.frames, settled.blocks⟩
  · split
    · exact ⟨begun, settled.blocks⟩
    · split
      · exact ⟨settled.frames, settled.blocks⟩
      · exact ⟨begun, settled.blocks⟩

/-- Every move keeps the sequences settled. -/
theorem Settled.step (settled : machine.Settled) (moved : step host machine = .next machine') :
    machine'.Settled := by
  rcases frames : machine.frames with _ | ⟨frame, outer⟩
  · rw [step_of_nil host frames] at moved
    cases moved
  · have moves := moves_step host frames
    rw [moved] at moves
    obtain ⟨inner, others⟩ := List.forall_mem_cons.mp (frames ▸ settled.frames)
    cases moves with
    | pass passes => exact settled.replace frames rfl rfl (passes.settled inner)
    | hear hears => exact settled.replace frames rfl rfl (hears.settled inner)
    | @splice script rest output bridge task ahead isScript =>
        exact settled.replace frames rfl rfl (inner.splice task ahead isScript output)
    | @define word rest name remainder task noRegion ahead text =>
        obtain ⟨body, erased⟩ := inner.define task ahead text
        constructor
        · exact List.forall_mem_cons.mpr ⟨erased, others⟩
        · intro entry mem
          rcases Assoc.mem_put mem with known | rfl
          · exact settled.blocks entry known
          · apply enclosed_closeBody
            split
            · exact body
            · exact body.cons nofun
    | @iterate loop bridge task =>
        have body : Enclosed loop.body := inner.body loop.body (by rw [task]; rfl)
        have inner' : Frame.Settled { frame with task := .advanceLoop loop } :=
          ⟨inner.region, inner.ahead, nofun, by simpa [Task.body?] using body⟩
        apply Settled.enter host _ body
        exact settled.replace frames rfl rfl inner'
    | leave => exact ⟨others, settled.blocks⟩
    | @invoke name body resolved invoked known =>
        have skipped := inner.skip (Frame.task_of_isResolved resolved)
        rw [(Frame.command_length_of_invokedBlock? invoked).2] at skipped
        apply Settled.enter host _ (settled.blocks _ (Assoc.mem_of_get? known))
        exact settled.replace frames rfl rfl skipped
    | invokeUnknown resolved invoked =>
        have skipped := inner.skip (Frame.task_of_isResolved resolved)
        rw [(Frame.command_length_of_invokedBlock? invoked).2] at skipped
        exact settled.replace frames rfl rfl skipped
    | dismiss resolved =>
        exact settled.replace frames rfl rfl (inner.skip (Frame.task_of_isResolved resolved))
    | @perform command middle resolved _ _ _ dispatched =>
        have kept := kept_of_dispatch host dispatched
        exact settled.replace frames kept.blocks rfl (inner.skip (Frame.task_of_isResolved resolved))

end Machine

namespace Walk

namespace Frame

/-- The tokens from the lookahead cursor on. -/
def ahead (frame : Frame) : List Token :=
  (frame.memory.nodesFrom frame.lookahead).map (·.token)

/-- Whether the command at the main cursor can be read: the lookahead cursor is at a separator or at the
end. -/
def isResolved (frame : Frame) : Bool :=
  (frame.memory.tokenAt? frame.lookahead).all Token.isBoundary

variable {frame : Frame} {cut : Expansion.Frame}

theorem Shows.ahead (shows : frame.Shows cut) : frame.ahead = cut.ahead := by
  obtain ⟨placed, _⟩ := shows
  rw [Frame.ahead, placed.lookahead, placed.holds_ahead.nodesFrom]
  rfl

theorem Shows.command (shows : frame.Shows cut) (resolved : frame.isResolved) :
    frame.command = cut.region.reverse := by
  obtain ⟨placed, _⟩ := shows
  rw [placed.command]
  · simp [Frame.cut]
  · intro node isHead
    rw [isResolved, placed.tokenAt?_lookahead, Option.mem_def.mp isHead] at resolved
    exact resolved

end Frame

variable {σ ρ : Type} (host : Host σ ρ)

theorem Shows.exists_cut {walk : Walk σ ρ} {machine : Machine σ ρ} (shows : walk.Shows machine)
    {frame : Frame} (underWay : frame ∈ walk.frames) : ∃ cut ∈ machine.frames, frame.Shows cut := by
  have frames := shows.frames
  generalize walk.frames = all, machine.frames = cuts at frames underWay
  induction frames with
  | nil => cases underWay
  | @cons first cut _ _ shown _ ih =>
      rcases List.mem_cons.mp underWay with rfl | later
      · exact ⟨cut, List.mem_cons_self, shown⟩
      · obtain ⟨cut', mem, shown'⟩ := ih later
        exact ⟨cut', List.mem_cons_of_mem _ mem, shown'⟩

/-- In every run over a source, whatever its scripts answer and whichever commands are known: at every
move, the scripts of groups that are ahead in a sequence stand directly between two groups, and so they
do in all blocks; and wherever a command is read, be it of the document, of a block or of a loop, it is
read from texts, groups and strings. -/
theorem run_settled (bridge : σ) (library : ρ) (source : String) (moves : Nat) (walk' : Walk σ ρ)
    (reached : run host moves (enter host ⟨{}, bridge, library, []⟩ (Token.tokenize source)) =
      .next walk') :
    (∀ entry ∈ walk'.state.blocks, Enclosed entry.2) ∧
      ∀ frame ∈ walk'.frames, Enclosed frame.ahead ∧
        (frame.isResolved →
          ∀ token ∈ frame.command, token.kind = .text ∨ token.kind = .group ∨ token.kind = .string) := by
  have start : Shows (⟨{}, bridge, library, []⟩ : Walk σ ρ) ⟨{}, bridge, library, []⟩ :=
    ⟨rfl, rfl, rfl, .nil, nofun⟩
  have entered := start.enter host (Token.tokenize source)
  rw [Token.fused_eq_self (Token.isFused_tokenize source)] at entered
  have settled : (Machine.enter host ⟨{}, bridge, library, []⟩ (Token.tokenize source)).Settled := by
    apply Machine.Settled.enter host _ (Token.enclosed_tokenize source)
    exact ⟨nofun, nofun⟩
  obtain ⟨moves', _, shown⟩ := entered.run host moves
  rw [reached] at shown
  cases reached' : Machine.run host moves' _ with
  | finished | failed =>
      rw [reached'] at shown
      cases shown
  | next machine' =>
      rw [reached'] at shown
      obtain ⟨shows⟩ := shown
      have settled' : machine'.Settled :=
        Machine.run_keeps host (fun settled moved => settled.step host moved) settled reached'
      constructor
      · rw [← shows.state]
        exact settled'.blocks
      · intro frame underWay
        obtain ⟨cut, mem, shown⟩ := shows.exists_cut underWay
        have cutSettled := settled'.frames cut mem
        constructor
        · rw [shown.ahead]
          exact cutSettled.ahead
        · intro resolved token inCommand
          rw [shown.command resolved] at inCommand
          simpa [commandKinds] using cutSettled.region token (List.mem_reverse.mp inCommand)

/-- A block with a run and a script whose output has another one, where its first command is read: the
scripts of both runs are resolved. -/
theorem run_settled_of_block :
    let host : Host Unit Unit :=
      { bridge :=
          { evaluate := fun code _ => (.ok (if code = "s" then "(u\x7by\x7dv);t" else "1"), ())
            bind := fun _ _ _ => () }
        registry := ⟨fun _ => .ok false, fun _ => .ok [], fun _ _ _ => (.ok none, ())⟩ }
    let walk : Walk Unit Unit :=
      enter host ⟨{}, (), (), []⟩ (Token.tokenize "_m a (\x7bx\x7db) \x7bs\x7d;;;@m;")
    ∃ walk', run host 16 walk = .next walk' ∧
      walk'.frames.map Frame.command =
        [[⟨.text, "a "⟩, ⟨.group, "1b"⟩, ⟨.text, " "⟩, ⟨.group, "u1v"⟩], []] ∧
      ∀ frame ∈ walk'.frames, Enclosed frame.ahead ∧ (frame.isResolved →
        ∀ token ∈ frame.command, token.kind = .text ∨ token.kind = .group ∨ token.kind = .string) := by
  intro host walk
  have commands : (run host 16 walk).frames.map Frame.command =
      [[⟨.text, "a "⟩, ⟨.group, "1b"⟩, ⟨.text, " "⟩, ⟨.group, "u1v"⟩], []] := by decide +kernel
  cases reached : run host 16 walk with
  | next walk' =>
      rw [reached] at commands
      exact ⟨walk', rfl, commands, (run_settled host () () _ 16 walk' reached).2⟩
  | finished walk' tokens | failed walk' tokens fault =>
      rw [reached] at commands
      simp [Move.frames] at commands

end Walk

end Expansion

end Linework
