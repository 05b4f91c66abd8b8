import Linework.Proofs.Expansion.Walk

/-!
# The invariant of the two cursors

A run of the walk starts with a sequence and blocks that were built by appending tokens. Whatever
scripts answer and whichever commands are known, its cursors stay on linked cells, in their order, with
no separator from the one to the other. The run is that of the machine, turn by turn.
-/

namespace Linework.Expansion

/-- The state with its blocks as appending their tokens builds them. -/
def State.appended (state : State) : State :=
  { state with blocks := state.blocks.map fun (name, body) => (name, Token.fused body) }

theorem State.fused_appended (state : State) : state.appended.Fused := by
  intro entry mem
  obtain ⟨⟨name, body⟩, _, rfl⟩ := List.mem_map.mp mem
  exact Token.isFused_fused body

namespace Walk

/-- What holds of the cells and the cursors of a sequence at every move. -/
structure Frame.Sound (frame : Frame) : Prop where
  /-- The cells are linked both ways. The main cursor is at one of them or at the end, the lookahead
  cursor there or behind it, and no separator stands from the one to the other. -/
  placed : ∃ passed region ahead, frame.Placed passed region ahead
  /-- Of two neighbours of one kind, neither is a text or a separator. -/
  separate : frame.tokens.IsChain fun first second =>
    first.kind = second.kind → first.kind ≠ .text ∧ first.kind ≠ .boundary
  /-- Where a region begins, the cursors are at one place. -/
  together : frame.phase = .outer → frame.main = frame.lookahead
  /-- Where a region ends, reading its command leaves the main cursor at the lookahead cursor. -/
  read : frame.phase = .inner →
    (∀ token ∈ frame.memory.tokenAt? frame.lookahead, token.isBoundary) →
      frame.commandEnd = frame.lookahead

theorem Frame.Shows.sound {frame : Frame} {cut : Expansion.Frame} (shows : frame.Shows cut) :
    frame.Sound := by
  cases shows with
  | @mk passed region ahead task placed answers =>
      refine ⟨⟨passed, region, ahead, placed⟩, ?_, fun atOuter => ?_, fun _ closed => ?_⟩
      · rw [placed.tokens]
        apply (Node.isFused_tokens.mpr placed.fused).imp
        intro first second apart same
        obtain ⟨notTexts, notBoundaries⟩ := Token.fuse?_eq_none_iff_kinds.mp apart
        exact ⟨fun text => notTexts ⟨text, same ▸ text⟩,
          fun boundary => notBoundaries ⟨boundary, same ▸ boundary⟩⟩
      · rw [atOuter] at answers
        cases answers
        exact placed.main_eq_lookahead_iff.mpr rfl
      · refine placed.commandEnd fun node isHead => closed node.token ?_
        rw [placed.tokenAt?_lookahead, Option.mem_def.mp isHead]
        rfl

variable {σ ρ : Type} (host : Host σ ρ)

/-- Every sequence under way in a walk that shows a machine is sound. -/
theorem Shows.sound {walk : Walk σ ρ} {machine : Machine σ ρ} (shows : walk.Shows machine) :
    ∀ frame ∈ walk.frames, frame.Sound := by
  have frames := shows.frames
  generalize walk.frames = all, machine.frames = cuts at frames
  induction frames with
  | nil =>
      intro frame mem
      cases mem
  | cons first _ ih => exact List.forall_mem_cons.mpr ⟨first.sound, ih⟩

/-- From any state and for any collaborators, the walk over a sequence makes the moves of the machine,
and every sequence under way is sound at every move: the document's and those of blocks and loops. -/
theorem run_sound (state : State) (bridge : σ) (library : ρ) (tokens : List Token) :
    let walk := enter host ⟨state.appended, bridge, library, []⟩ tokens
    let machine := Machine.enter host ⟨state.appended, bridge, library, []⟩ (Token.fused tokens)
    (∀ moves, ∃ moves' ≤ moves,
      Move.Shows (run host moves walk) (Machine.run host moves' machine)) ∧
    (∀ moves', ∃ moves, Move.Shows (run host moves walk) (Machine.run host moves' machine)) ∧
    ∀ moves walk', run host moves walk = .next walk' → ∀ frame ∈ walk'.frames, frame.Sound := by
  intro walk machine
  have start : Shows (⟨state.appended, bridge, library, []⟩ : Walk σ ρ)
      ⟨state.appended, bridge, library, []⟩ :=
    ⟨rfl, rfl, rfl, .nil, state.fused_appended⟩
  have entered : walk.Shows machine := start.enter host tokens
  refine ⟨fun moves => entered.run host moves, fun moves' => entered.run_of_machine host moves', ?_⟩
  intro moves walk' reached
  obtain ⟨moves', _, shown⟩ := entered.run host moves
  rw [reached] at shown
  generalize Machine.run host moves' machine = move at shown
  cases shown with
  | next shows => exact shows.sound

/-- The sequences that are under way after a move. -/
def Move.frames : Move σ ρ → List Frame
  | .next walk => walk.frames
  | .finished _ _ | .failed _ _ _ => []

/-- A document that invokes a block, three moves on: the block's own sequence is under way too. -/
theorem run_sound_of_invocation :
    let host : Host Unit Unit :=
      { bridge := { evaluate := fun _ _ => (.ok "", ()), bind := fun _ _ _ => () }
        registry := ⟨fun _ => .ok false, fun _ => .ok [], fun _ _ _ => (.ok none, ())⟩ }
    let state : State := { blocks := [("b", [⟨.text, "grid"⟩, ⟨.boundary, ""⟩])] }
    let walk := enter host ⟨state.appended, (), (), []⟩ [⟨.text, "@"⟩, ⟨.text, "b"⟩, ⟨.boundary, ";"⟩]
    ∃ walk', run host 3 walk = .next walk' ∧ walk'.frames.length = 2 ∧
      ∀ frame ∈ walk'.frames, frame.Sound := by
  intro host state walk
  have nested : (run host 3 walk).frames.length = 2 := by decide +kernel
  cases reached : run host 3 walk with
  | next walk' =>
      rw [reached] at nested
      exact ⟨walk', rfl, nested, (run_sound host state () () _).2.2 3 walk' reached⟩
  | finished walk' tokens | failed walk' tokens fault =>
      rw [reached] at nested
      simp [Move.frames] at nested

end Walk

end Linework.Expansion
