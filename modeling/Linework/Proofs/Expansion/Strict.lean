import Linework.Expansion.Strict
import Linework.Proofs.Expansion.Dependable
import Linework.Proofs.Expansion.Invariant
import Linework.Proofs.Token.Strict

/-!
# Nothing slips

A walk that shows a machine finds everything as it takes it to be: each guard says what is relied on
behind it. So the walk that takes things for granted makes the moves of the walk that does not. And with
collaborators that give back what they are asked for, no run of the machine ends by a fault.
-/

namespace Linework.Expansion

open Node

/-! ## Heads of loops -/

theorem kind_of_isBlankToken {token : Token} (blank : isBlankToken token) : token.kind = .text :=
  eq_of_beq (Bool.and_eq_true_iff.mp blank).1

/-- What is recognised as the head of a loop has three scripts and a separator to be read. -/
theorem readLoopHead_of_isLoopHead {missing : Nat} {tokens : List Token} {scripts : List String}
    (head : Strict.isLoopHead missing tokens) (count : scripts.length + missing = 3) :
    ∃ init condition step separator rest,
      Strict.readLoopHead scripts tokens = .ok ([init, condition, step], separator, rest) ∧
        loopHead? scripts tokens = some ([init, condition, step], separator, rest) := by
  fun_induction Strict.isLoopHead missing tokens generalizing scripts with
  | case1 => cases head
  | case2 token rest ih =>
      rcases Bool.or_eq_true_iff.mp head with closed | blankHead
      · obtain ⟨step, condition, init, rfl⟩ := List.length_eq_three.mp count
        have boundary : token.kind = .boundary := eq_of_beq closed
        refine ⟨init, condition, step, token, rest, ?_, ?_⟩
        · simp [Strict.readLoopHead, closed]
        · simp [loopHead?, isBlankToken, boundary, closed]
      · obtain ⟨blank, after⟩ := Bool.and_eq_true_iff.mp blankHead
        obtain ⟨init, condition, step, separator, left, reads, found⟩ := ih after count
        have text := kind_of_isBlankToken blank
        refine ⟨init, condition, step, separator, left, ?_, ?_⟩
        · simpa [Strict.readLoopHead, Token.isBoundary, text] using reads
        · simpa [loopHead?, text, blank] using found
  | case3 missing token rest isScript ih =>
      have script : token.kind = .script := eq_of_beq isScript
      have count' : (token.text :: scripts).length + missing = 3 := by
        rw [List.length_cons]
        omega
      obtain ⟨init, condition, step, separator, left, reads, found⟩ := ih head count'
      have fewer : scripts.length < 3 := by omega
      refine ⟨init, condition, step, separator, left, ?_, ?_⟩
      · simpa [Strict.readLoopHead, Token.isBoundary, script] using reads
      · simpa [loopHead?, script, fewer] using found
  | case4 missing token rest noScript ih =>
      obtain ⟨blank, after⟩ := Bool.and_eq_true_iff.mp head
      obtain ⟨init, condition, step, separator, left, reads, found⟩ := ih after count
      have text := kind_of_isBlankToken blank
      refine ⟨init, condition, step, separator, left, ?_, ?_⟩
      · simpa [Strict.readLoopHead, Token.isBoundary, text] using reads
      · simpa [loopHead?, text, blank] using found

/-- Where no head of a loop is recognised, there is none. -/
theorem loopHead?_of_not_isLoopHead {missing : Nat} {tokens : List Token} {scripts : List String}
    (head : Strict.isLoopHead missing tokens = false) (count : scripts.length + missing = 3) :
    loopHead? scripts tokens = none := by
  fun_induction Strict.isLoopHead missing tokens generalizing scripts with
  | case1 => rfl
  | case2 token rest ih =>
      obtain ⟨open', blankHead⟩ := Bool.or_eq_false_iff.mp head
      have full : ¬scripts.length < 3 := by omega
      cases blank : isBlankToken token with
      | false => simp [loopHead?, blank, open', full]
      | true =>
          rw [blank, Bool.true_and] at blankHead
          simpa [loopHead?, blank, full] using ih blankHead count
  | case3 missing token rest isScript ih =>
      have fewer : scripts.length < 3 := by omega
      have count' : (token.text :: scripts).length + missing = 3 := by
        rw [List.length_cons]
        omega
      simpa [loopHead?, eq_of_beq isScript, fewer] using ih head count'
  | case4 missing token rest noScript ih =>
      have missed : scripts.length ≠ 3 := by omega
      cases blank : isBlankToken token with
      | false => simp [loopHead?, blank, noScript, missed]
      | true =>
          rw [blank, Bool.true_and] at head
          simpa [loopHead?, blank, noScript] using ih head count

/-! ## Moves -/

namespace Walk

open Linework.Strict

variable {σ ρ : Type} (host : Host σ ρ) {walk : Walk σ ρ} {machine : Machine σ ρ} {frame : Frame}
  {passed region ahead : List Node} {outer : List Frame}

theorem strict_evaluate {code : String} {go : Walk σ ρ → String → Move σ ρ}
    {go' : Walk σ ρ → String → Except Slip (Move σ ρ)}
    (goes : ∀ walk output, go' walk output = .ok (go walk output)) :
    Strict.evaluate host walk code go' = .ok (evaluate host walk code go) := by
  unfold Strict.evaluate evaluate
  rcases host.bridge.evaluate code walk.bridge with ⟨fault | output, bridge⟩
  · rfl
  · exact goes _ output

namespace Frame.Placed

/-- Where something is left from the main cursor on, the cursor is at it. -/
theorem tokenAt?_main {node : Node} {rest : List Node} (placed : frame.Placed passed region ahead)
    (live : region ++ ahead = node :: rest) :
    frame.memory.tokenAt? frame.main = some node.token ∧
      frame.memory.next frame.main = firstOr rest none ∧
      frame.memory.tokenAt? (firstOr rest none) = rest.head?.map (·.token) := by
  have holds := placed.holds
  have main := placed.main
  rw [live] at holds main
  have holds' : frame.memory.Holds frame.ends ((passed ++ [node]) ++ rest) := by
    rw [List.append_assoc]
    exact holds
  rw [main]
  exact ⟨holds.tokenAt?, holds.next, holds'.tokenAt?⟩

end Frame.Placed

theorem strict_isClosed {node : Node} {rest : List Node} (placed : frame.Placed passed region ahead)
    (live : region ++ ahead = node :: rest) :
    Strict.isClosed frame = .ok (rest.head?.any fun following => following.token.isBoundary) := by
  obtain ⟨_, next, atNext⟩ := placed.tokenAt?_main live
  unfold Strict.isClosed
  simp only [next]
  cases rest with
  | nil => rfl
  | cons following others =>
      have found : frame.memory.tokenAt? (some following.id) = some following.token := atNext
      simp [tokenAt_eq found]

theorem strict_finishRegion (placed : frame.Placed passed region ahead) :
    Strict.finishRegion host walk frame outer = .ok (finishRegion host walk frame outer) := by
  unfold Strict.finishRegion finishRegion
  rcases liveEq : region ++ ahead with _ | ⟨node, rest⟩
  · have ended : frame.main.isNone := placed.main_isNone_iff.mpr liveEq
    rw [if_pos ended, if_pos ended]
    rfl
  · have started : ¬frame.main.isNone := by
      rw [placed.main_isNone_iff, liveEq]
      exact List.cons_ne_nil _ _
    obtain ⟨atMain, _⟩ := placed.tokenAt?_main liveEq
    have invoked : invokedBlock? (Node.tokens (node :: rest)) =
        if node.token.kind == .text && rest.head?.any fun following => following.token.isBoundary then
          invocation? node.token.text
        else none := by
      cases rest <;> simp [invokedBlock?]
    rw [if_neg started, if_neg started, placed.live, liveEq, invoked]
    simp only [tokenAt_eq atMain, strict_isClosed placed liveEq, ok_bind]
    split
    · rename_i alone
      obtain ⟨closed, marked⟩ := Bool.and_eq_true_iff.mp alone
      obtain ⟨name, invokes⟩ := Option.isSome_iff_exists.mp marked
      rw [if_pos closed, invokes]
      simp only
      cases walk.state.blocks.get? name <;> rfl
    · rename_i unmarked
      split
      · rename_i name invokes
        split at invokes
        · rename_i closed
          exact absurd (by simp [closed, invokes]) unmarked
        · cases invokes
      · rfl

/-- Where a text at both cursors begins a definition, the marker is found again. -/
theorem strict_define {head : Node} {name remainder : String}
    (placed : frame.Placed passed [] (head :: ahead))
    (defines : definition? head.token.text = some (name, remainder)) :
    Strict.define walk frame outer = .ok (define walk frame outer name remainder) := by
  obtain ⟨atMain, _⟩ := placed.tokenAt?_main rfl
  have following : frame.live.tail.map (·.token) = Node.tokens ahead := by
    rw [placed.live]
    rfl
  unfold Strict.define define
  simp only [tokenAt_eq atMain, ok_bind, defines, following]
  set captured := blockBody (Node.tokens ahead)
  obtain ⟨whole, ending⟩ := placed.behind_reaches captured.length
  have shows := placed.shows
  rw [List.append_nil, ← placed.main_eq_lookahead_iff.mpr rfl, ← whole] at shows
  have aheadFused := placed.fused_ahead
  rw [← whole] at aheadFused
  rw [eraseTo_eq shows (by simp) ending (isFused_append.mp aheadFused).2.1]
  rfl

/-- Where a text at both cursors starts a loop, its head is read; and it is recognised where it does. -/
theorem strict_loop {head : Node} (placed : frame.Placed passed [] (head :: ahead))
    (text : head.token.kind = .text) :
    (do if ← Strict.startsLoop frame then Strict.startLoop walk frame outer
        else return .next { walk with frames := frame.advance :: outer }) =
      .ok (if isLoopWord head.token.text then
        match loopHead? [] (frame.live.tail.map (·.token)) with
        | some ([init, condition, step], separator, rest) =>
          startLoop walk frame outer init condition step separator rest
        | _ => .next { walk with frames := frame.advance :: outer }
      else .next { walk with frames := frame.advance :: outer }) := by
  obtain ⟨atMain, _⟩ := placed.tokenAt?_main rfl
  simp only [Strict.startsLoop, tokenAt_eq atMain, ok_bind, pure_eq_ok, text, beq_self_eq_true,
    Bool.true_and]
  cases word : isLoopWord head.token.text with
  | false => rfl
  | true =>
      cases isHead : Strict.isLoopHead 3 (frame.live.tail.map (·.token)) with
      | false =>
          rw [loopHead?_of_not_isLoopHead isHead rfl]
          rfl
      | true =>
          obtain ⟨init, condition, step, separator, rest, reads, found⟩ :=
            readLoopHead_of_isLoopHead isHead (List.length_nil ▸ Nat.zero_add 3)
          rw [found]
          simp only [Bool.and_self, if_true, Strict.startLoop, reads, ok_bind]
          rfl

theorem strict_resolve (placed : frame.Placed passed region ahead) :
    Strict.resolve host walk frame outer = .ok (resolve host walk frame outer) := by
  unfold Strict.resolve resolve
  rw [placed.tokenAt?_lookahead]
  cases ahead with
  | nil =>
      have ended : frame.lookahead = none := placed.lookahead
      simp only [ended, Option.isNone_none, if_true]
      exact strict_finishRegion host placed
  | cons node ahead =>
      have here : frame.lookahead = some node.id := placed.lookahead
      have found : frame.memory.tokenAt? frame.lookahead = some node.token := placed.tokenAt?_lookahead
      have started : ¬frame.lookahead.isNone := by simp [here]
      simp only [if_neg started, tokenAt_eq found, ok_bind, List.head?_cons, Option.map_some]
      cases kind : node.token.kind with
      | boundary => exact strict_finishRegion host placed
      | group | string | groupScript => rfl
      | script =>
          refine strict_evaluate host fun walk output => ?_
          obtain ⟨out, outHolds, _, outFused, shows, apart⟩ :=
            placed.built (outputTokens output) (isFused_outputTokens output)
          simp only [replaceWith_eq shows placed.fused_ahead.tail outHolds outFused apart, ok_bind]
          rfl
      | text =>
          by_cases together : region = []
          · subst together
            have same : frame.main = frame.lookahead := placed.main_eq_lookahead_iff.mpr rfl
            simp only [same, decide_true, Bool.true_and, if_true]
            cases defines : definition? node.token.text with
            | none => exact strict_loop placed kind
            | some definition => exact strict_define placed defines
          · have apart : ¬frame.main = frame.lookahead := together ∘ placed.main_eq_lookahead_iff.mp
            simp only [apart, decide_false, Bool.false_and, Bool.false_eq_true, if_false]
            rfl

theorem strict_foldGroup {group : Node} {text : String} {afterScript : Bool}
    (placed : frame.Placed passed region (group :: ahead)) :
    Strict.foldGroup host walk frame outer (firstOr ahead none) text afterScript =
      .ok (foldGroup host walk frame outer (firstOr ahead none) text afterScript) := by
  have finish : (do
      let spot ← setText ⟨frame.memory, frame.ends, frame.lookahead⟩ text
      return .next { walk with frames := (frame.edited spot).advance :: outer }) =
      Except.ok (.next { walk with
        frames := (frame.edited (Spot.setText ⟨frame.memory, frame.ends, frame.lookahead⟩
          text)).advance :: outer } : Move σ ρ) := by
    rw [setText_eq placed.shows]
    rfl
  unfold Strict.foldGroup foldGroup
  rw [placed.tokenAt?_next]
  cases ahead with
  | nil => exact finish
  | cons node rest =>
      have found : frame.memory.tokenAt? (some node.id) = some node.token := placed.tokenAt?_next
      have removes := remove_eq placed.shows_behind placed.fused_ahead.tail.tail
      simp only [firstOr_cons, Option.isNone_some, Bool.false_eq_true, if_false, tokenAt_eq found,
        ok_bind, removes, List.head?_cons, Option.map_some]
      split
      · exact strict_evaluate host fun walk output => rfl
      · split
        · rfl
        · exact finish

/-- The next move does not slip. -/
theorem Shows.strict_step (shows : walk.Shows machine) :
    Strict.step host walk = .ok (Walk.step host walk) := by
  have frames := shows.frames
  unfold Strict.step
  rcases framesEq : walk.frames with _ | ⟨frame, outer⟩
  · simp only [Walk.step, framesEq]
    rfl
  · rw [framesEq] at frames
    obtain ⟨cut, cuts, inner, _, _⟩ := List.forall₂_cons_left_iff.mp frames
    cases inner with
    | mk placed answers =>
        simp only
        cases phase : frame.phase with
        | inner =>
            simp only [Walk.step, framesEq, phase]
            exact strict_resolve host placed
        | fold walker text afterScript =>
            simp only [Walk.step, framesEq, phase]
            rw [phase] at answers
            cases answers with
            | fold => exact strict_foldGroup host placed
        | outer | beginLoop | testLoop | advanceLoop => rfl

/-- A move that is shown goes on to a walk that is shown. -/
theorem Shows.next {walk' : Walk σ ρ} (shows : walk.Shows machine)
    (moved : Walk.step host walk = .next walk') : ∃ machine', walk'.Shows machine' := by
  by_cases turning : walk.Turning
  · obtain ⟨turned, turn, shows', _⟩ := shows.turn host turning
    obtain rfl : turned = walk' := Move.next.inj (turn.symm.trans moved)
    exact ⟨machine, shows'⟩
  · have shown := shows.step host turning
    rw [moved] at shown
    generalize Machine.step host machine = move at shown
    cases shown with
    | next shows' => exact ⟨_, shows'⟩

end Walk

/-! ## Collaborators that give back what they are asked for -/

/-- Every script has an answer, every value can be bound, and every known command has a schema and a handler
that returns. -/
structure Host.Reliable {σ ρ : Type} (host : Host σ ρ) : Prop where
  answers : ∀ code state, ∃ output state', host.bridge.evaluate code state = (.ok output, state')
  binds : host.bridge.Binds
  describes : ∀ name, host.registry.knows name → ∃ schema, host.registry.schema name = .ok schema
  returns : host.registry.Returns

/-- Collaborators that give back what they are asked for do so whatever the arguments are. -/
theorem Host.Reliable.dependable {σ ρ : Type} {host : Host σ ρ} (reliable : host.Reliable) :
    host.Dependable fun _ _ => True where
  answers := reliable.answers
  binds := reliable.binds
  describes := reliable.describes
  serves := reliable.returns
  forms := ⟨fun _ => trivial, fun _ _ _ _ => trivial, fun _ _ _ _ _ => trivial, fun _ _ _ _ => trivial⟩

namespace Machine

variable {σ ρ : Type} (host : Host σ ρ)

theorem hasFailed_run (reliable : host.Reliable) (fuel : Nat) (machine : Machine σ ρ) :
    (run host fuel machine).hasFailed = false :=
  reliable.dependable.hasFailed_run (fun _ _ => trivial) fuel

end Machine

end Linework.Expansion
