import Linework.Proofs.Expansion.Together

/-!
# Runs that go together

From machines that go together, every run of the one goes with a run of the other: until the two part,
where they do, and to the end, where they do not.
-/

namespace Linework.Expansion

/-- Whether a run has ended. -/
def Move.isOver {σ ρ : Type} : Move σ ρ → Bool
  | .next _ => false
  | _ => true

namespace Machine

variable {σ ρ : Type} {exact : Prop} {extra base : Nat} {bottom : Option Bottom}
  {first second machine machine' : Machine σ ρ} (host : Host σ ρ)

/-! ## Runs of one machine -/

theorem run_succ (moves : Machine.step host machine = .next machine') (fuel : Nat) :
    run host (fuel + 1) machine = run host fuel machine' := by
  rw [run, moves]

/-- A run that goes on after a number of moves. -/
theorem run_add {used : Nat} (reached : run host used machine = .next machine') (fuel : Nat) :
    run host (used + fuel) machine = run host fuel machine' := by
  induction used generalizing machine with
  | zero =>
      cases reached
      rw [Nat.zero_add]
  | succ used ih =>
      rw [Nat.succ_add, run]
      rw [run] at reached
      cases moved : Machine.step host machine with
      | next next =>
          rw [moved] at reached
          exact ih reached
      | finished => rw [moved] at reached; cases reached
      | failed => rw [moved] at reached; cases reached

/-- What every move keeps, a run keeps. -/
theorem run_keeps {holds : Machine σ ρ → Prop}
    (keeps : ∀ {machine machine'}, holds machine → Machine.step host machine = .next machine' →
      holds machine')
    {used : Nat} (start : holds machine) (reached : run host used machine = .next machine') :
    holds machine' := by
  induction used generalizing machine with
  | zero =>
      cases reached
      exact start
  | succ used ih =>
      rw [run] at reached
      cases moved : Machine.step host machine with
      | next next =>
          rw [moved] at reached
          exact ih (keeps start moved) reached
      | finished => rw [moved] at reached; cases reached
      | failed => rw [moved] at reached; cases reached

/-- What every move keeps, also one that ends the run, is kept to the end. -/
theorem machine_run_keeps (holds : Machine σ ρ → Prop)
    (keeps : ∀ {machine}, holds machine → holds (Machine.step host machine).machine)
    (start : holds machine) (fuel : Nat) : holds (run host fuel machine).machine := by
  induction fuel generalizing machine with
  | zero => exact start
  | succ fuel ih =>
      have kept := keeps start
      rw [run]
      cases moved : Machine.step host machine with
      | next next =>
          rw [moved] at kept
          exact ih kept
      | finished | failed =>
          rw [moved] at kept
          exact kept

/-- A run that is over stays as it is. -/
theorem run_of_isOver {used : Nat} (ended : (run host used machine).isOver) (fuel : Nat) :
    run host (used + fuel) machine = run host used machine := by
  induction used generalizing machine with
  | zero => cases ended
  | succ used ih =>
      rw [Nat.succ_add, run, run]
      rw [run] at ended
      cases moves : Machine.step host machine with
      | next next =>
          rw [moves] at ended
          exact ih ended
      | finished => rfl
      | failed => rfl

theorem process_of_isOver {used : Nat} {tokens : List Token}
    (ended : (process host used machine tokens).isOver) (fuel : Nat) :
    process host (used + fuel) machine tokens = process host used machine tokens := by
  unfold process at ended ⊢
  simp only at ended ⊢
  split
  · rfl
  · rename_i entered
    rw [if_neg entered] at ended
    exact run_of_isOver host ended fuel

theorem machine_run_one : (run host 1 machine).machine = (Machine.step host machine).machine := by
  rw [run]
  cases Machine.step host machine <;> rfl

/-- A run in which no bound forbids to process a sequence. -/
def Quiet (machine : Machine σ ρ) : Prop :=
  ∀ fuel, (run host fuel machine).machine.state.skipped = machine.state.skipped

theorem Quiet.of_run {used : Nat} (quiet : Quiet host machine)
    (reached : run host used machine = .next machine') : Quiet host machine' := by
  intro fuel
  have before := quiet used
  have after := quiet (used + fuel)
  rw [reached] at before
  rw [run_add host reached] at after
  rw [after, ← before]
  rfl

/-! ## Runs of two machines -/

/-- No bound sets two machines apart: they have begun equally many sequences and will, or the first
passes ended none. -/
def Unbounded (extra : Nat) (bottom : Option Bottom) (first : Machine σ ρ) : Prop :=
  (extra = 0 ∧ ∀ lowest ∈ bottom, lowest.outer'.length = lowest.outer.length) ∨ Quiet host first

theorem Unbounded.of_run {used : Nat} (unbounded : Unbounded host extra bottom machine)
    (reached : run host used machine = .next machine') : Unbounded host extra bottom machine' :=
  unbounded.imp id fun quiet => quiet.of_run host reached

theorem Together.calm (together : first.Together exact extra base bottom second)
    (unbounded : Unbounded host extra bottom first) :
    Calm extra first second (Machine.step host first) := by
  refine unbounded.imp (fun even => ⟨even.1, ?_⟩) fun quiet => ?_
  · rw [together.depth, together.depth', together.frames.length_eq even.2]
  · rw [← machine_run_one]
    exact quiet 1

/-- Two runs that have come to where they part. -/
def Parts (exact : Prop) (extra base : Nat) (bottom : Option Bottom) (first second : Machine σ ρ)
    (used used' : Nat) : Prop :=
  ∃ first' second' : Machine σ ρ, run host used first = .next first' ∧
    run host used' second = .next second' ∧ first'.Together exact extra base bottom second' ∧
    Parting bottom first' second'

theorem Parts.here (together : first.Together exact extra base bottom second)
    (parting : Parting bottom first second) : Parts host exact extra base bottom first second 0 0 :=
  ⟨first, second, rfl, rfl, together, parting⟩

theorem Parts.next {used used' : Nat} {first' second' : Machine σ ρ}
    (parts : Parts host exact extra base bottom first' second' used used')
    (moves : Machine.step host first = .next first') (moves' : Machine.step host second = .next second') :
    Parts host exact extra base bottom first second (used + 1) (used' + 1) := by
  obtain ⟨last, last', reached, reached', others⟩ := parts
  exact ⟨last, last', (run_succ host moves used).trans reached,
    (run_succ host moves' used').trans reached', others⟩

theorem Parts.next' {used used' : Nat} {second' : Machine σ ρ}
    (parts : Parts host exact extra base bottom first second' used used')
    (moves' : Machine.step host second = .next second') :
    Parts host exact extra base bottom first second used (used' + 1) := by
  obtain ⟨last, last', reached, reached', others⟩ := parts
  exact ⟨last, last', reached, (run_succ host moves' used').trans reached', others⟩

/-- What one move of both machines makes of two runs, given what comes after it. -/
private theorem run_of_moved {fuel : Nat} {move : Move σ ρ}
    (moved : Move.Together exact extra base bottom move (Machine.step host second))
    (oneStep : Machine.step host first = move)
    (after : ∀ first' second' : Machine σ ρ, move = .next first' →
      first'.Together exact extra base bottom second' →
      (∃ fuel', Move.Together exact extra base bottom (run host fuel first') (run host fuel' second')) ∨
        ∃ used ≤ fuel, ∃ used', Parts host exact extra base bottom first' second' used used') :
    (∃ fuel', Move.Together exact extra base bottom (run host (fuel + 1) first)
        (run host fuel' second)) ∨
      ∃ used ≤ fuel + 1, ∃ used', Parts host exact extra base bottom first second used used' := by
  generalize otherStep : Machine.step host second = move' at moved
  cases moved with
  | next together =>
      rcases after _ _ rfl together with ⟨fuel', moved⟩ | ⟨used, fewer, used', parts⟩
      · refine .inl ⟨fuel' + 1, ?_⟩
        rwa [run_succ host oneStep, run_succ host otherStep]
      · exact .inr ⟨used + 1, Nat.succ_le_succ fewer, used' + 1, parts.next host oneStep otherStep⟩
  | finished lowest level =>
      refine .inl ⟨1, ?_⟩
      rw [run, run, oneStep, otherStep]
      exact .finished lowest level
  | failed level =>
      refine .inl ⟨1, ?_⟩
      rw [run, run, oneStep, otherStep]
      exact .failed level

/-- Every run of the first machine goes with a run of the second, up to where they part. -/
theorem Together.run (fuel : Nat) (together : first.Together exact extra base bottom second)
    (unbounded : Unbounded host extra bottom first) :
    (∃ fuel', Move.Together exact extra base bottom (Machine.run host fuel first)
        (Machine.run host fuel' second)) ∨
      ∃ used ≤ fuel, ∃ used', Parts host exact extra base bottom first second used used' := by
  induction fuel generalizing first second with
  | zero => exact .inl ⟨0, .next together⟩
  | succ fuel ih =>
      have calm {second : Machine σ ρ} (together : first.Together exact extra base bottom second) :=
        together.calm host unbounded
      have onwards {second : Machine σ ρ} (moved : Move.Together exact extra base bottom
          (Machine.step host first) (Machine.step host second)) :=
        run_of_moved host moved rfl fun first' second' moves together' =>
          ih together' (unbounded.of_run host (run_succ host moves 0))
      rcases together.step host (calm together) with
        moved | parting | ⟨_, second', otherStep, together', level⟩
      · exact onwards moved
      · exact .inr ⟨0, Nat.zero_le _, 0, .here host together parting⟩
      · -- The second has passed ended its empty command, and both make their next moves.
        rcases together'.step host (calm together') with moved | parting | ⟨leads, _⟩
        · rcases onwards moved with ⟨fuel', moved⟩ | ⟨used, fewer, used', parts⟩
          · refine .inl ⟨fuel' + 1, ?_⟩
            rwa [run_succ host otherStep]
          · exact .inr ⟨used, fewer, used' + 1, parts.next' host otherStep⟩
        · exact .inr ⟨0, Nat.zero_le _, 1, (Parts.here host together' parting).next' host otherStep⟩
        · exact absurd leads level

/-- Every run of the second machine goes with a run of the first, up to where they part. -/
theorem Together.run' (fuel' : Nat) (together : first.Together exact extra base bottom second)
    (unbounded : Unbounded host extra bottom first) :
    (∃ fuel, Move.Together exact extra base bottom (Machine.run host fuel first)
        (Machine.run host fuel' second)) ∨
      ∃ used' ≤ fuel', ∃ used, Parts host exact extra base bottom first second used used' := by
  induction fuel' generalizing first second with
  | zero => exact .inl ⟨0, .next together⟩
  | succ fuel' ih =>
      rcases together.step host (together.calm host unbounded) with
        moved | parting | ⟨_, second', otherStep, together', _⟩
      · generalize oneStep : Machine.step host first = move,
          otherStep : Machine.step host second = move' at moved
        cases moved with
        | next together' =>
            have unbounded' := unbounded.of_run host (run_succ host oneStep 0)
            rcases ih together' unbounded' with ⟨fuel, moved⟩ | ⟨used', fewer, used, parts⟩
            · refine .inl ⟨fuel + 1, ?_⟩
              rwa [run_succ host oneStep, run_succ host otherStep]
            · exact .inr ⟨used' + 1, Nat.succ_le_succ fewer, used + 1,
                parts.next host oneStep otherStep⟩
        | finished lowest level =>
            refine .inl ⟨1, ?_⟩
            rw [Machine.run, Machine.run, oneStep, otherStep]
            exact .finished lowest level
        | failed level =>
            refine .inl ⟨1, ?_⟩
            rw [Machine.run, Machine.run, oneStep, otherStep]
            exact .failed level
      · exact .inr ⟨0, Nat.zero_le _, 0, .here host together parting⟩
      · rcases ih together' unbounded with ⟨fuel, moved⟩ | ⟨used', fewer, used, parts⟩
        · refine .inl ⟨fuel, ?_⟩
          rwa [run_succ host otherStep]
        · exact .inr ⟨used' + 1, Nat.succ_le_succ fewer, used, parts.next' host otherStep⟩

end Machine

end Linework.Expansion
