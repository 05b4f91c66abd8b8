import Linework.Proofs.Expansion.Standing

/-!
# Frames that go in pairs

Two frames are paired when their sequences are, from their positions on, and when their positions are
at the same token with the same region before it. Reading, skipping and editing paired frames in the
same way leaves paired frames. There are two more situations: the first sequence may have come to its
end, and the second may lead by an empty command.
-/

namespace Linework.Expansion

/-- Two loops that differ in their bodies only, which are paired. -/
structure Loop.Paired (exact : Prop) (first second : Loop) : Prop where
  condition : first.condition = second.condition
  step : first.step = second.step
  iteration : first.iteration = second.iteration
  body : Expansion.Paired exact none first.body second.body

/-- Two frames with these tokens ahead do the same next. -/
inductive Task.Paired (exact : Prop) : List Token → List Token → Task → Task → Prop
  | resolve {ahead ahead' : List Token} : Task.Paired exact ahead ahead' .resolve .resolve
  | fold {group : Token} {following following' : List Token} {text : String} {afterScript : Bool} :
      group.kind = .group →
      Task.Paired exact (group :: following) (group :: following') (.fold text afterScript)
        (.fold text afterScript)
  | beginLoop {ahead ahead' : List Token} {init : String} {loop loop' : Loop} :
      loop.Paired exact loop' →
      Task.Paired exact ahead ahead' (.beginLoop init loop) (.beginLoop init loop')
  | testLoop {ahead ahead' : List Token} {loop loop' : Loop} :
      loop.Paired exact loop' → Task.Paired exact ahead ahead' (.testLoop loop) (.testLoop loop')
  | advanceLoop {ahead ahead' : List Token} {loop loop' : Loop} :
      loop.Paired exact loop' →
      Task.Paired exact ahead ahead' (.advanceLoop loop) (.advanceLoop loop')

/-- What is to be done in a loop, if neither a token is to be resolved nor a run to be folded. -/
theorem Task.Paired.loop {exact : Prop} {ahead ahead' : List Token} {task task' : Task}
    (tasks : Task.Paired exact ahead ahead' task task') (busy : task ≠ .resolve)
    (busy' : ∀ text afterScript, task ≠ .fold text afterScript) :
    ∃ loop loop' : Loop, loop.Paired exact loop' ∧
      ((∃ init, task = .beginLoop init loop ∧ task' = .beginLoop init loop') ∨
        (task = .testLoop loop ∧ task' = .testLoop loop') ∨
        (task = .advanceLoop loop ∧ task' = .advanceLoop loop')) := by
  cases tasks with
  | resolve => exact absurd rfl busy
  | fold => exact absurd rfl (busy' _ _)
  | beginLoop loops => exact ⟨_, _, loops, .inl ⟨_, rfl, rfl⟩⟩
  | testLoop loops => exact ⟨_, _, loops, .inr (.inl ⟨rfl, rfl⟩)⟩
  | advanceLoop loops => exact ⟨_, _, loops, .inr (.inr ⟨rfl, rfl⟩)⟩

namespace Frame

/-- Two frames at the same place of paired sequences. -/
structure Ready (exact : Prop) (rest : Option (List Token)) (first second : Frame) : Prop where
  region : first.region = second.region
  inside : ∀ token ∈ second.region, token.isBoundary = false
  ahead : Expansion.Paired exact rest first.ahead second.ahead
  heads : second.region = [] → Headed rest first.done second.done

/-- Two frames that make the same moves, but for those past the end of the first sequence and one empty
command by which the second may lead. -/
inductive Paired (exact : Prop) (rest : Option (List Token)) : Frame → Frame → Prop
  | ready {first second : Frame} :
      first.Ready exact rest second →
      Task.Paired exact first.ahead second.ahead first.task second.task →
      Paired exact rest first second
  | past {done done' post : List Token} {task task' : Task} :
      rest = some post → Headed rest done done' → Task.Paired exact [] post task task' →
      Paired exact rest ⟨done, [], [], task⟩ ⟨done', [], post, task'⟩
  | lead {token separator : Token} {earlier ahead ahead' : List Token} :
      rest = none → token.isBoundary → separator.isBoundary →
      Expansion.Paired exact rest ahead ahead' →
      Paired exact rest ⟨token :: earlier, [], ahead, .resolve⟩ ⟨[], [], separator :: ahead', .resolve⟩

variable {exact : Prop} {rest : Option (List Token)} {first second : Frame}

/-- Paired positions where regions begin, as frames. -/
theorem Paired.of_standing {focus focus' : Focus Token}
    (standing : Standing exact rest focus focus') :
    Paired exact rest ⟨focus.before, [], focus.after, .resolve⟩
      ⟨focus'.before, [], focus'.after, .resolve⟩ := by
  cases standing with
  | paired heads ahead => exact .ready ⟨rfl, by simp, ahead, fun _ => heads⟩ .resolve
  | past goesOn heads => exact .past goesOn heads .resolve
  | lead ended boundary boundary' ahead => exact .lead ended boundary boundary' ahead

theorem Paired.tasks (paired : first.Paired exact rest second) :
    Task.Paired exact first.ahead second.ahead first.task second.task := by
  cases paired with
  | ready _ tasks => exact tasks
  | past _ _ tasks => exact tasks
  | lead => exact .resolve

/-- Whoever is busy with a loop may go on to anything else. -/
theorem Paired.withTask (paired : first.Paired exact rest second) (busy : first.task ≠ .resolve)
    {task task' : Task} (tasks : ∀ ahead ahead', Task.Paired exact ahead ahead' task task') :
    Paired exact rest { first with task := task } { second with task := task' } := by
  cases paired with
  | ready ready _ => exact .ready ⟨ready.region, ready.inside, ready.ahead, ready.heads⟩ (tasks _ _)
  | past goesOn heads _ => exact .past goesOn heads (tasks _ _)
  | lead => exact absurd rfl busy

/-- Moving both positions to the same place. -/
theorem Paired.skip {count count' : Nat}
    (parted : Parted exact rest first.live second.live count count') (nonempty : second.live ≠ [])
    {task task' : Task} (tasks : ∀ ahead ahead', Task.Paired exact ahead ahead' task task') :
    Paired exact rest { first.skip count with task := task } { second.skip count' with task := task' } := by
  have passed : second.live.take count' ≠ [] := by
    simp [List.take_eq_nil_iff, nonempty, Nat.pos_iff_ne_zero.mp parted.positive]
  have heads := Headed.of_passed parted.kinds passed parted.closed first.done second.done
  have remaining := parted.remaining
  unfold Frame.skip
  generalize first.live.drop count = left, second.live.drop count' = left' at remaining
  cases remaining with
  | paired ahead => exact .ready ⟨rfl, by simp, ahead, fun _ => heads⟩ (tasks _ _)
  | past goesOn => exact .past goesOn heads (tasks _ _)

theorem Paired.skip_resolve {count count' : Nat}
    (parted : Parted exact rest first.live second.live count count') (nonempty : second.live ≠ [])
    (task : first.task = .resolve) (task' : second.task = .resolve) :
    Paired exact rest (first.skip count) (second.skip count') := by
  have skipped := Paired.skip parted nonempty fun _ _ => Task.Paired.resolve
  have same : { first.skip count with task := .resolve } = first.skip count := by
    rw [← task]
    rfl
  have same' : { second.skip count' with task := .resolve } = second.skip count' := by
    rw [← task']
    rfl
  rwa [same, same'] at skipped

namespace Ready

theorem live (ready : first.Ready exact rest second) :
    Expansion.Paired exact rest first.live second.live := by
  rw [Frame.live, Frame.live, ready.region]
  exact ready.ahead.append _

/-- Moving over an ordinary token. -/
theorem advance {done done' region ahead ahead' : List Token} {token : Token} {task task' : Task}
    (ready : Ready exact rest ⟨done, region, token :: ahead, task⟩
      ⟨done', region, token :: ahead', task'⟩)
    (inside : token.isBoundary = false) :
    Paired exact rest ⟨done, token :: region, ahead, .resolve⟩
      ⟨done', token :: region, ahead', .resolve⟩ := by
  obtain ⟨second, sameHead, tails⟩ := ready.ahead.head inside
  obtain ⟨_, rfl⟩ := List.cons.inj sameHead
  refine .ready ⟨rfl, ?_, tails, fun empty => nomatch empty⟩ .resolve
  exact List.forall_mem_cons.mpr ⟨inside, ready.inside⟩

/-- An edit that comes down to a seam. -/
theorem edit {ahead ahead' : List Token} {change change' : Focus Token → Focus Token}
    (ready : first.Ready exact rest second) (task : first.task = .resolve) (task' : second.task = .resolve)
    (seam : ∀ before, change ⟨before, first.ahead⟩ = Focus.seam ⟨before, ahead⟩)
    (seam' : ∀ before, change' ⟨before, second.ahead⟩ = Focus.seam ⟨before, ahead'⟩)
    (remaining : Remaining exact rest ahead ahead')
    (within : second.region ≠ [] → Expansion.Paired exact rest ahead ahead') (apart : Apart rest) :
    Paired exact rest (first.edit change) (second.edit change') := by
  obtain ⟨done, region, _, _⟩ := first
  obtain ⟨done', region', _, _⟩ := second
  obtain rfl : region = region' := ready.region
  obtain rfl : _ = Task.resolve := task
  obtain rfl : _ = Task.resolve := task'
  cases region with
  | nil =>
      have standing := (ready.heads rfl).seam remaining apart
      simp only [Frame.edit, List.isEmpty_nil, if_true]
      rw [← seam, ← seam'] at standing
      exact .of_standing standing
  | cons last earlier =>
      have inside := List.forall_mem_cons.mp ready.inside
      obtain ⟨last', front, front', inside', paired, seamed, seamed'⟩ :=
        (within (List.cons_ne_nil _ _)).seam inside.1 earlier
      rw [← seam] at seamed
      rw [← seam'] at seamed'
      simp only [Frame.edit, List.isEmpty_cons, Bool.false_eq_true, if_false, seamed, seamed']
      refine .ready ⟨rfl, ?_, paired, fun empty => nomatch empty⟩ .resolve
      exact List.forall_mem_cons.mpr ⟨inside', inside.2⟩

end Ready

end Frame

end Linework.Expansion
