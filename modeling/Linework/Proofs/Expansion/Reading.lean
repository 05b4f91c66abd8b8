import Linework.Proofs.Expansion.Commons
import Linework.Proofs.Expansion.Runs
import Linework.Proofs.Expansion.Seen

/-!
# What is read of a common memory

The walk over a common memory is read in tokens: what its frames have before their cursors and behind, what
its blocks hold, and what can be seen of the run. Where the sequences under way are kept apart, the readings
are those of the machine.
-/

namespace Linework

namespace Expansion

open Node

namespace Commons

variable {σ ρ : Type} (host : Host σ ρ) {commons : Commons σ ρ} {machine : Machine σ ρ} {store : Store}
  {frame : Frame} {outer : List Frame}

/-! ## Frames -/

/-- Both cursors of a frame are at one place in its sequence, with these tokens before it and behind. -/
structure Frame.At (shelf : Shelf) (frame : Frame) (passed live : List Token) : Prop where
  whole : shelf.content frame.sequence = passed ++ live
  live : (shelf.memory.nodesFrom frame.main).map (·.token) = live
  together : frame.lookahead = frame.main

theorem Frame.At.cut_eq {shelf : Shelf} {cut : Expansion.Frame} {passed live : List Token}
    (starts : frame.At shelf passed live) (resolving : frame.task = .resolve)
    (shelfShows : shelf.Shows store) (shown : frame.Shows store cut) :
    cut = ⟨passed.reverse, [], live, .resolve⟩ := by
  cases shown with
  | @mk passedNodes region ahead task stands answers =>
      rw [resolving] at answers
      obtain rfl : task = .resolve := by
        cases answers
        rfl
      have placed := stands.placed shelfShows
      have nowhere : region = [] := placed.main_eq_lookahead_iff.mp starts.together.symm
      subst nowhere
      have liveEq : Node.tokens ahead = live := by
        have read : shelf.memory.nodesFrom frame.main = [] ++ ahead := placed.live
        rw [← starts.live, read]
        rfl
      have whole := starts.whole
      rw [shelfShows.content_eq, Store.tokens, stands.nodes, List.map_append, ← liveEq] at whole
      have passedEq : Node.tokens passedNodes = passed := List.append_cancel_right whole
      rw [← passedEq, ← liveEq]
      rfl

theorem Frame.Stands.at {shelf : Shelf} {passed ahead : List Node}
    (stands : frame.Stands store passed [] ahead) (shelfShows : shelf.Shows store) :
    frame.At shelf (Node.tokens passed) (Node.tokens ahead) := by
  have placed := stands.placed shelfShows
  constructor
  · rw [shelfShows.content_eq, Store.tokens, stands.nodes, List.map_append]
    rfl
  · have read : shelf.memory.nodesFrom frame.main = [] ++ ahead := placed.live
    rw [read]
    rfl
  · exact (placed.main_eq_lookahead_iff.mpr rfl).symm

/-- A frame that goes with a machine's frame with both positions at one place. -/
theorem Frame.Shows.stands {passed live : List Token} {task : Expansion.Task}
    (shown : frame.Shows store ⟨passed.reverse, [], live, task⟩) :
    ∃ passedNodes ahead, frame.Stands store passedNodes [] ahead ∧ Node.tokens passedNodes = passed ∧
      Node.tokens ahead = live ∧ frame.task.Shows store task [] ahead := by
  generalize cutEq : (⟨passed.reverse, [], live, task⟩ : Expansion.Frame) = cut at shown
  cases shown with
  | @mk passedNodes region ahead _ stands answers =>
      obtain ⟨passedEq, regionEq, liveEq, taskEq⟩ := Expansion.Frame.mk.inj cutEq
      have nowhere : region = [] := by simpa using regionEq.symm
      subst nowhere taskEq
      exact ⟨passedNodes, ahead, stands, (List.reverse_inj.mp passedEq).symm, liveEq.symm, answers⟩

theorem Frame.Shows.at {shelf : Shelf} {passed live : List Token} {task : Expansion.Task}
    (shown : frame.Shows store ⟨passed.reverse, [], live, task⟩) (shelfShows : shelf.Shows store) :
    frame.At shelf passed live := by
  obtain ⟨_, _, stands, rfl, rfl, _⟩ := shown.stands
  exact stands.at shelfShows

theorem Frame.Shows.resolving {passed live : List Token}
    (shown : frame.Shows store ⟨passed.reverse, [], live, .resolve⟩) : frame.task = .resolve := by
  obtain ⟨_, _, _, _, _, answers⟩ := shown.stands
  generalize frame.task = task at answers
  cases answers
  rfl

/-- What a frame reads is fused. -/
theorem Frame.At.fused {shelf : Shelf} {passed live : List Token} (starts : frame.At shelf passed live)
    (shelfShows : shelf.Shows store) : IsFused (passed ++ live) := by
  rw [← starts.whole, shelfShows.content_eq]
  exact isFused_tokens.mpr (shelfShows.fused frame.sequence)

/-! ## Blocks, and what is seen -/

theorem Shows.block?_eq (shows : commons.Shows store machine) (name : String) :
    commons.block? name = machine.state.blocks.get? name := by
  rw [shows.get?_blocks, Commons.block?]
  cases commons.blocks.get? name with
  | none => rfl
  | some sequence => exact congrArg some (shows.shelf.content_eq sequence)

theorem Shows.seen_eq (shows : commons.Shows store machine) : commons.core.seen = machine.seen := by
  refine Machine.seen_eq_iff.mpr ⟨?_, ?_, ?_, ?_, shows.bridge.symm, shows.library.symm⟩
  · rw [shows.state]
    rfl
  · rw [shows.state]
    rfl
  · rw [shows.state]
    rfl
  · rw [shows.state]
    rfl

/-! ## Moves -/

/-- A move of the machine is a move of the commons. -/
theorem Shows.step_next {machine' : Machine σ ρ} (shows : commons.Shows store machine)
    (top : commons.frames = frame :: outer) (moved : Machine.step host machine = .next machine') :
    ∃ commons' store', Commons.step host commons = .next commons' ∧ commons'.Shows store' machine' ∧
      store.Keeps store' frame.sequence ∧ Follows frame outer commons'.frames := by
  have both := shows.step host top
  rw [moved] at both
  generalize Commons.step host commons = move at both
  cases both with
  | next shows' keeps follows => exact ⟨_, _, rfl, shows', keeps, follows⟩

/-- A move that leaves as many sequences under way leaves the same ones. -/
theorem Follows.stays_of_length {frame' : Frame} {outer' : List Frame}
    (follows : Follows frame outer (frame' :: outer')) (length : outer'.length = outer.length) :
    frame'.sequence = frame.sequence ∧ outer' = outer := by
  cases follows with
  | left => simp at length
  | stays same suffix =>
      obtain ⟨rfl, rfl⟩ := List.cons.inj (suffix.eq_of_length (by simp [length]))
      exact ⟨same, rfl⟩

/-- The commons in the outcome of a move. -/
def Move.reached : Move σ ρ → Commons σ ρ
  | .next commons => commons
  | .finished commons _ => commons
  | .failed commons _ _ => commons

theorem Move.Same.shows {move : Move σ ρ} {move' : Expansion.Move σ ρ} (same : Move.Same move move') :
    ∃ store, move.reached.Shows store move'.machine := by
  cases same with
  | next shows => exact ⟨_, shows⟩
  | finished shows => exact ⟨_, shows⟩
  | failed shows => exact ⟨_, shows⟩

/-- A run leaves what it has come to sound. -/
theorem Sound.run (sound : commons.Sound) (fuel : Nat) : (Commons.run host fuel commons).reached.Sound := by
  obtain ⟨store, machine, shows⟩ := sound
  obtain ⟨store', shows'⟩ := (shows.run host fuel).shows
  exact ⟨store', _, shows'⟩

/-- A document is begun in a sound configuration, with both cursors at its first token. -/
theorem Sound.opens (sound : commons.Sound) (idle : commons.frames = [])
    (fresh : commons.state.depth = 0) (room : 0 < host.limits.nesting) (tokens : List Token) :
    let made := commons.shelf.make tokens
    let opened := enter host { commons with shelf := made.1 } made.2
    ∃ frame, opened.Sound ∧ opened.frames = [frame] ∧ frame.task = .resolve ∧
      frame.At opened.shelf [] (Token.fused tokens) := by
  intro made opened
  obtain ⟨store, machine, shows⟩ := sound
  have shows' : opened.Shows _ _ := shows.enterNew host tokens
  have closed : ¬host.limits.nesting ≤ 0 := by omega
  have depth : machine.state.depth = 0 := by
    rw [shows.state]
    exact fresh
  have none : machine.frames = [] := List.forall₂_nil_left_iff.mp (idle ▸ shows.frames)
  have cuts : (Machine.enter host machine (Token.fused tokens)).frames =
      [⟨[].reverse, [], Token.fused tokens, .resolve⟩] := by
    simp [Machine.enter, depth, closed, none]
  have top : opened.frames =
      [{ sequence := made.2, main := (made.1.start made.2).node?, lookahead := (made.1.start made.2).node? }] := by
    simp [opened, enter, fresh, closed, idle]
  have shown := shows'.frames
  rw [top, cuts, List.forall₂_cons] at shown
  exact ⟨_, ⟨_, _, shows'⟩, top, rfl, shown.1.at shows'.shelf⟩

end Commons

end Expansion

end Linework
