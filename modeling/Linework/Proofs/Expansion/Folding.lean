import Linework.Proofs.Expansion.Cursors

/-!
# Folding the run behind a group

Behind a group may come a run of scripts, and of groups that each stand directly behind a script. The walk
folds the run into the group: it evaluates the scripts from left to right, puts their answers and the texts of
the groups behind the text of the group, and takes the cells of the run out of the sequence one by one.

A cell that is taken out stands behind the group, which fuses with nothing. So nothing else in the sequence
changes, and the lookahead cursor stays at the group.
-/

namespace Linework

/-! ## Runs behind a group -/

namespace Token

/-- Whether a token is folded with the one before it: a script is, and a group directly behind a script. -/
def Joins (before token : Token) : Prop :=
  token.kind = .groupScript ∨ token.kind = .group ∧ before.kind = .groupScript

instance (before token : Token) : Decidable (Joins before token) :=
  inferInstanceAs (Decidable (_ ∨ _))

/-- A run of tokens that are folded one after the other, behind a token. -/
def IsRun (first : Token) (run : List Token) : Prop :=
  (first :: run).IsChain Joins

instance (first : Token) (run : List Token) : Decidable (IsRun first run) :=
  inferInstanceAs (Decidable (List.IsChain _ _))

/-- A run is the longest one at the beginning of the tokens behind a token. -/
structure IsLongestRun (first : Token) (run rest : List Token) : Prop where
  isRun : IsRun first run
  longest : ∀ longer, longer <+: run ++ rest → IsRun first longer → longer.length ≤ run.length

/-- A run is the longest one if it does not go on with the token behind it. -/
theorem isLongestRun_iff {first : Token} {run rest : List Token} :
    IsLongestRun first run rest ↔ IsRun first run ∧ ∀ next ∈ rest.head?, ¬IsRun first (run ++ [next]) := by
  constructor
  · rintro ⟨isRun, longest⟩
    refine ⟨isRun, fun next isNext goesOn => ?_⟩
    obtain ⟨others, rfl⟩ := List.head?_eq_some_iff.mp isNext
    have tooLong := longest (run ++ [next]) ⟨others, by simp⟩ goesOn
    rw [List.length_append] at tooLong
    exact Nat.not_succ_le_self _ tooLong
  · rintro ⟨isRun, ends⟩
    refine ⟨isRun, fun longer isPrefix goesOn => ?_⟩
    by_contra tooLong
    cases rest with
    | nil =>
        have short := isPrefix.length_le
        rw [List.append_nil] at short
        exact tooLong short
    | cons next others =>
        have onePrefix : run ++ [next] <+: run ++ next :: others := ⟨others, by simp⟩
        have within : run ++ [next] <+: longer :=
          List.prefix_of_prefix_length_le onePrefix isPrefix (by simp; omega)
        exact ends next rfl <| List.IsChain.prefix goesOn ((List.prefix_cons_inj first).mpr within)

/-- The texts of the scripts among tokens. -/
def scriptTexts (tokens : List Token) : List String :=
  (tokens.filter (·.kind == .groupScript)).map (·.text)

/-- The texts that a run adds to its group when its scripts have been answered: the answers in place of the
scripts. -/
def foldedTexts : List Token → List String → List String
  | [], _ => []
  | token :: rest, answers =>
    if token.kind = .groupScript then answers.headD "" :: foldedTexts rest answers.tail
    else token.text :: foldedTexts rest answers

end Token

namespace Expansion

/-- Evaluate scripts one after the other, each in the state in which the one before it has left the bridge. A
fault is the end of it. -/
def Bridge.evaluateAll {σ : Type} (bridge : Bridge σ) : List String → σ → Except Fault (List String) × σ
  | [], state => (.ok [], state)
  | code :: codes, state =>
    match bridge.evaluate code state with
    | (.error fault, state) => (.error fault, state)
    | (.ok answer, state) =>
      match bridge.evaluateAll codes state with
      | (.error fault, state) => (.error fault, state)
      | (.ok answers, state) => (.ok (answer :: answers), state)

namespace Walk

open Node

namespace Frame

variable {frame : Frame} {passed following : List Node} {group node : Node}

/-- The lookahead cursor is at a group between other nodes. -/
structure AtGroup (frame : Frame) (passed : List Node) (group : Node) (following : List Node) : Prop where
  holds : frame.memory.Holds frame.ends (passed ++ group :: following)
  lookahead : frame.lookahead = some group.id
  isGroup : group.token.kind = .group

/-- The frame when a cell has been taken out that adds to the text of the group. -/
def takeOut (frame : Frame) (address : Nat) (text : String) (afterScript : Bool) : Frame :=
  let removed := Spot.remove ⟨frame.memory, frame.ends, some address⟩
  { frame.edited removed with phase := .fold removed.position text afterScript }

namespace AtGroup

theorem tokenAt?_next (atGroup : frame.AtGroup passed group following) :
    frame.memory.tokenAt? (firstOr following none) = following.head?.map (·.token) := by
  have holds : frame.memory.Holds frame.ends ((passed ++ [group]) ++ following) := by
    rw [List.append_assoc]
    exact atGroup.holds
  exact holds.tokenAt?

/-- The cell behind the group can be taken out, and what follows it is next. -/
theorem takeOut (atGroup : frame.AtGroup passed group (node :: following)) (text : String)
    (afterScript : Bool) :
    (frame.takeOut node.id text afterScript).AtGroup passed group following ∧
      (frame.takeOut node.id text afterScript).phase = .fold (firstOr following none) text afterScript := by
  have shows : Spot.Shows ⟨frame.memory, frame.ends, some node.id⟩
      ⟨group :: passed.reverse, node :: following⟩ :=
    ⟨by simpa [Focus.toList] using atGroup.holds, rfl⟩
  have after := shows.remove_behind (fuse?_of_isGroup atGroup.isGroup)
  have holds := after.holds
  rw [Focus.toList, List.reverse_cons, List.reverse_reverse, List.append_assoc] at holds
  refine ⟨⟨holds, atGroup.lookahead, atGroup.isGroup⟩, ?_⟩
  rw [Frame.takeOut, after.position]

/-- Another text for the group. -/
theorem setText (atGroup : frame.AtGroup passed group following) (text : String) :
    (frame.edited (Spot.setText ⟨frame.memory, frame.ends, frame.lookahead⟩ text)).AtGroup passed
      ⟨group.id, ⟨.group, text⟩⟩ following := by
  have shows : Spot.Shows ⟨frame.memory, frame.ends, frame.lookahead⟩
      ⟨passed.reverse, group :: following⟩ :=
    ⟨by simpa [Focus.toList] using atGroup.holds, atGroup.lookahead⟩
  have holds := (shows.setText text).holds
  rw [Focus.toList, List.reverse_reverse, atGroup.isGroup] at holds
  exact ⟨holds, atGroup.lookahead, rfl⟩

end AtGroup

end Frame

variable {σ ρ : Type} {host : Host σ ρ} {walk : Walk σ ρ} {frame : Frame} {outer : List Frame}
  {passed rest : List Node} {group : Node} {text : String}

/-! ## One move -/

section Moves

variable {node : Node} {following : List Node} {afterScript : Bool}

/-- At a group, the walk turns to the cells behind it. -/
theorem step_group (current : walk.frames = frame :: outer) (phase : frame.phase = .inner)
    (atGroup : frame.AtGroup passed group rest) :
    step host walk = .next { walk with
      frames := { frame with phase := .fold (firstOr rest none) group.token.text false } :: outer } := by
  have here : frame.memory.tokenAt? frame.lookahead = some group.token := by
    rw [atGroup.lookahead]
    exact atGroup.holds.tokenAt?
  have next : frame.memory.next frame.lookahead = firstOr rest none := by
    rw [atGroup.lookahead]
    exact atGroup.holds.next
  unfold step
  rw [current]
  simp only [phase]
  unfold resolve
  rw [here, next]
  simp only [atGroup.isGroup]

theorem step_of_fold {walker : Option Nat} (current : walk.frames = frame :: outer)
    (phase : frame.phase = .fold walker text afterScript) :
    step host walk = foldGroup host walk frame outer walker text afterScript := by
  unfold step
  rw [current]
  simp only [phase]

/-- A script of the run is evaluated and taken out. -/
theorem step_script (current : walk.frames = frame :: outer)
    (phase : frame.phase = .fold (some node.id) text afterScript)
    (atGroup : frame.AtGroup passed group (node :: following)) (isScript : node.token.kind = .groupScript) :
    step host walk = evaluate host walk node.token.text fun walk answer =>
      .next { walk with frames := frame.takeOut node.id (text ++ answer) true :: outer } := by
  have next : frame.memory.tokenAt? (some node.id) = some node.token := atGroup.tokenAt?_next
  rw [step_of_fold current phase]
  unfold foldGroup
  rw [next]
  simp only
  rw [if_pos (by simp [isScript])]
  rfl

/-- A group of the run is taken out. -/
theorem step_piece (current : walk.frames = frame :: outer)
    (phase : frame.phase = .fold (some node.id) text true)
    (atGroup : frame.AtGroup passed group (node :: following)) (isGroup : node.token.kind = .group) :
    step host walk =
      .next { walk with frames := frame.takeOut node.id (text ++ node.token.text) false :: outer } := by
  have next : frame.memory.tokenAt? (some node.id) = some node.token := atGroup.tokenAt?_next
  rw [step_of_fold current phase]
  unfold foldGroup
  rw [next]
  simp only
  rw [if_neg (by simp [isGroup]), if_pos (by simp [isGroup])]
  rfl

/-- Where the run ends, the group takes the folded text. -/
theorem step_finish (current : walk.frames = frame :: outer)
    (phase : frame.phase = .fold (firstOr rest none) text afterScript)
    (atGroup : frame.AtGroup passed group rest)
    (ends : ∀ next ∈ rest.head?, next.token.kind ≠ .groupScript ∧
      (next.token.kind = .group → afterScript = false)) :
    let folded := frame.edited (Spot.setText ⟨frame.memory, frame.ends, frame.lookahead⟩ text)
    step host walk = .next { walk with frames := folded.advance :: outer } := by
  intro folded
  rw [step_of_fold current phase]
  unfold foldGroup
  rw [atGroup.tokenAt?_next]
  cases rest with
  | nil => rfl
  | cons next others =>
      obtain ⟨noScript, noPiece⟩ := ends next rfl
      simp only [List.head?_cons, Option.map_some]
      rw [if_neg (by simpa using noScript), if_neg (by simpa using noPiece)]

end Moves

/-! ## The whole run -/

/-- So many moves fold a run into a group. They evaluate its scripts from left to right, and the first fault
ends the walk. Without one, the texts of the run stand behind the text of the group, all other nodes of the
sequence are as they were, and the lookahead cursor moves on from the group. -/
def Folds (host : Host σ ρ) (walk : Walk σ ρ) (moves : Nat) (frame : Frame) (outer : List Frame)
    (passed : List Node) (group : Node) (run : List Token) (rest : List Node) : Prop :=
  let codes := Token.scriptTexts run
  match host.bridge.evaluateAll codes walk.bridge with
  | (.ok answers, bridge) =>
    let text := group.token.text ++ String.join (Token.foldedTexts run answers)
    let log := walk.state.log ++ (List.zipWith Event.evaluated codes answers).toArray
    ∃ folded : Frame, folded.AtGroup passed ⟨group.id, ⟨.group, text⟩⟩ rest ∧ folded.main = frame.main ∧
      Walk.run host moves walk = .next { walk with
        state := { walk.state with log := log }
        bridge := bridge
        frames := folded.advance :: outer }
  | (.error fault, bridge) =>
    ∃ stopped tokens, Walk.run host moves walk = .failed stopped tokens fault ∧ stopped.bridge = bridge

namespace Folds

variable {node : Node} {run : List Token} {moves : Nat}

/-- A move before the run is folded that changes nothing but the sequence. -/
theorem of_next (after : Frame) (moved : step host walk = .next { walk with frames := after :: outer })
    (main : after.main = frame.main)
    (folds : Folds host { walk with frames := after :: outer } moves after outer passed group run rest) :
    Folds host walk (moves + 1) frame outer passed group run rest := by
  unfold Folds at folds ⊢
  rw [Walk.run, moved, ← main]
  exact folds

/-- A script in front of a run that is folded. -/
theorem cons_script (moved : step host walk = evaluate host walk node.token.text fun walk answer =>
      .next { walk with frames := frame.takeOut node.id (text ++ answer) true :: outer })
    (isScript : node.token.kind = .groupScript)
    (onwards : ∀ state bridge answer,
      let frame := frame.takeOut node.id (text ++ answer) true
      Folds host ⟨state, bridge, walk.library, frame :: outer⟩ moves frame outer passed
        ⟨group.id, ⟨.group, text ++ answer⟩⟩ run rest) :
    Folds host walk (moves + 1) frame outer passed ⟨group.id, ⟨.group, text⟩⟩ (node.token :: run) rest := by
  have codes : Token.scriptTexts (node.token :: run) = node.token.text :: Token.scriptTexts run := by
    simp [Token.scriptTexts, isScript]
  simp only [Folds, codes, Bridge.evaluateAll]
  rw [Walk.run, moved]
  unfold evaluate
  rcases host.bridge.evaluate node.token.text walk.bridge with ⟨fault | answer, bridge⟩
  · exact ⟨_, _, rfl, rfl⟩
  · have folds := onwards (walk.state.record (.evaluated node.token.text answer)) bridge answer
    simp only [Folds] at folds ⊢
    rcases all : host.bridge.evaluateAll (Token.scriptTexts run) bridge with ⟨fault | answers, bridge⟩
    · rw [all] at folds
      exact folds
    · rw [all] at folds
      obtain ⟨folded, atGroup, main, moves⟩ := folds
      refine ⟨folded, ?_, main, ?_⟩
      · rw [String.append_assoc, ← String.join_cons] at atGroup
        simpa [Token.foldedTexts, isScript] using atGroup
      · rw [moves]
        simp [State.record]

/-- A group in front of a run that is folded. -/
theorem cons_group {token : Token} (isGroup : token.kind = .group)
    (folds : Folds host walk moves frame outer passed ⟨group.id, ⟨.group, text ++ token.text⟩⟩ run rest) :
    Folds host walk moves frame outer passed ⟨group.id, ⟨.group, text⟩⟩ (token :: run) rest := by
  have codes : Token.scriptTexts (token :: run) = Token.scriptTexts run := by
    simp [Token.scriptTexts, isGroup]
  simp only [Folds, codes] at folds ⊢
  split at folds
  · obtain ⟨folded, atGroup, rest⟩ := folds
    refine ⟨folded, ?_, rest⟩
    rw [String.append_assoc, ← String.join_cons] at atGroup
    simpa [Token.foldedTexts, isGroup] using atGroup
  · exact folds

end Folds

/-- From the cell behind the group on, the walk folds the whole run. `last` is the token that has been folded
last. -/
theorem folds_run {run : List Node} {last : Token} (current : walk.frames = frame :: outer)
    (phase : frame.phase = .fold (firstOr (run ++ rest) none) text (last.kind == .groupScript))
    (atGroup : frame.AtGroup passed group (run ++ rest)) (isRun : Token.IsRun last (tokens run))
    (ends : ∀ next ∈ rest.head?, ¬Token.IsRun last (tokens run ++ [next.token])) :
    Folds host walk (run.length + 1) frame outer passed ⟨group.id, ⟨.group, text⟩⟩ (tokens run) rest := by
  induction run generalizing walk frame last text with
  | nil =>
      have apart : ∀ next ∈ rest.head?, next.token.kind ≠ .groupScript ∧
          (next.token.kind = .group → (last.kind == .groupScript) = false) := by
        intro next isNext
        have noJoin : ¬Token.Joins last next.token := by
          simpa [Token.IsRun] using ends next isNext
        simpa [Token.Joins] using noJoin
      have finished : step host walk = _ := step_finish current phase atGroup apart
      refine ⟨frame.edited (Spot.setText ⟨frame.memory, frame.ends, frame.lookahead⟩ text), ?_, rfl, ?_⟩
      · simpa [Token.foldedTexts] using atGroup.setText text
      · unfold Walk.run
        rw [finished]
        simp [Token.scriptTexts, tokens, Walk.run]
  | cons node run ih =>
      obtain ⟨joins, isRun⟩ := List.isChain_cons_cons.mp isRun
      have ends : ∀ next ∈ rest.head?, ¬Token.IsRun node.token (tokens run ++ [next.token]) :=
        fun next isNext goesOn => ends next isNext (List.isChain_cons_cons.mpr ⟨joins, goesOn⟩)
      rcases joins with isScript | ⟨isGroup, behindScript⟩
      · refine Folds.cons_script (step_script current phase atGroup isScript) isScript ?_
        intro state bridge answer
        have taken := atGroup.takeOut (text ++ answer) true
        refine ih rfl ?_ taken.1 isRun ends
        rw [taken.2, isScript]
        rfl
      · have phase : frame.phase = .fold (some node.id) text true := by
          rw [phase, behindScript]
          rfl
        refine Folds.cons_group isGroup
          (Folds.of_next _ (step_piece current phase atGroup isGroup) rfl ?_)
        have taken := atGroup.takeOut (text ++ node.token.text) false
        refine ih rfl ?_ taken.1 isRun ends
        rw [taken.2, isGroup]
        rfl

/-- A group takes in the run behind it, whatever stands before it and behind the run. -/
theorem folds_group {run : List Node} (current : walk.frames = frame :: outer)
    (phase : frame.phase = .inner) (atGroup : frame.AtGroup passed group (run ++ rest))
    (longest : Token.IsLongestRun group.token (tokens run) (tokens rest)) :
    Folds host walk (run.length + 2) frame outer passed group (tokens run) rest := by
  obtain ⟨isRun, ends⟩ := Token.isLongestRun_iff.mp longest
  have atGroup' : Frame.AtGroup { frame with phase := .fold (firstOr (run ++ rest) none) group.token.text false }
      passed group (run ++ rest) := ⟨atGroup.holds, atGroup.lookahead, atGroup.isGroup⟩
  have text : (⟨group.id, ⟨.group, group.token.text⟩⟩ : Node) = group := by
    rw [← atGroup.isGroup]
  refine Folds.of_next _ (step_group current phase atGroup) rfl (text ▸ folds_run rfl ?_ atGroup' isRun ?_)
  · rw [atGroup.isGroup]
    rfl
  · intro next isNext
    exact ends next.token (by rw [tokens, List.head?_map, Option.mem_def.mp isNext]; rfl)

/-- Two scripts and the groups behind them are folded. The group behind these is an argument of its own. -/
theorem folds_group_of_scripts :
    let host : Host Nat Unit :=
      { bridge :=
          { evaluate := fun code count => (.ok (if count = 0 then "1" else code), count + 1)
            bind := fun _ _ count => count }
        registry := ⟨fun _ => .ok false, fun _ => .ok [], fun _ _ _ => (.ok none, ())⟩ }
    let passed : List Node := [⟨0, ⟨.text, "put"⟩⟩]
    let group : Node := ⟨1, ⟨.group, "a"⟩⟩
    let run : List Node :=
      [⟨2, ⟨.groupScript, "x"⟩⟩, ⟨3, ⟨.group, "b"⟩⟩, ⟨4, ⟨.groupScript, "y"⟩⟩, ⟨5, ⟨.group, "c"⟩⟩]
    let rest : List Node := [⟨6, ⟨.group, "d"⟩⟩, ⟨7, ⟨.groupScript, "z"⟩⟩]
    let frame : Frame :=
      { Frame.ofTokens (tokens (passed ++ group :: (run ++ rest))) with lookahead := some 1, phase := .inner }
    let walk : Walk Nat Unit := ⟨{}, 0, (), [frame]⟩
    frame.AtGroup passed group (run ++ rest) ∧
      Token.IsLongestRun group.token (tokens run) (tokens rest) ∧
      ∃ folded : Frame, folded.AtGroup passed ⟨1, ⟨.group, "a1byc"⟩⟩ rest ∧ folded.main = frame.main ∧
        Walk.run host 6 walk =
          .next ⟨{ log := #[.evaluated "x" "1", .evaluated "y" "y"] }, 2, (), [folded.advance]⟩ := by
  intro host passed group run rest frame walk
  have numbers : numbered 0 (Token.fused (tokens (passed ++ group :: (run ++ rest)))) =
      passed ++ group :: (run ++ rest) := by decide
  have holds := (Memory.holds_build {} (tokens (passed ++ group :: (run ++ rest)))).1
  have atGroup : frame.AtGroup passed group (run ++ rest) := ⟨numbers ▸ holds, rfl, rfl⟩
  have longest : Token.IsLongestRun group.token (tokens run) (tokens rest) :=
    Token.isLongestRun_iff.mpr (by decide)
  have folds : Folds host walk 6 frame [] passed group (tokens run) rest :=
    folds_group rfl rfl atGroup longest
  exact ⟨atGroup, longest, folds⟩

end Walk

end Expansion

end Linework
