import Mathlib.Data.List.Basic

/-!
# Computations that do not fail

A computation yields what it is asked for: it does not fail, and its value has a property. Computations
are put together by passing such values on.
-/

namespace Linework

variable {α β ε : Type} {holds : α → Prop} {holds' : β → Prop}

/-- A computation does not fail, and something holds of its value. -/
def Yields (computation : Except ε α) (holds : α → Prop) : Prop :=
  ∃ value, computation = .ok value ∧ holds value

namespace Yields

theorem ok {value : α} (held : holds value) : Yields (.ok value : Except ε α) holds :=
  ⟨value, rfl, held⟩

theorem pure {value : α} (held : holds value) : Yields (Pure.pure value : Except ε α) holds :=
  ⟨value, rfl, held⟩

theorem bind {computation : Except ε α} {next : α → Except ε β}
    (yields : Yields computation holds) (after : ∀ value, holds value → Yields (next value) holds') :
    Yields (computation >>= next) holds' := by
  obtain ⟨value, rfl, held⟩ := yields
  exact after value held

theorem weaken {computation : Except ε α} {weaker : α → Prop} (yields : Yields computation holds)
    (implies : ∀ value, holds value → weaker value) : Yields computation weaker := by
  obtain ⟨value, computed, held⟩ := yields
  exact ⟨value, computed, implies value held⟩

/-- A computation over a list yields what each of its steps keeps. -/
theorem foldlM {step : β → α → Except ε β} {items : List α} {start : β} (held : holds' start)
    (keeps : ∀ state, holds' state → ∀ item ∈ items, Yields (step state item) holds') :
    Yields (items.foldlM step start) holds' := by
  induction items generalizing start with
  | nil => exact .pure held
  | cons item rest ih =>
      rw [List.foldlM_cons]
      apply (keeps start held item List.mem_cons_self).bind
      intro state heldNext
      apply ih heldNext
      intro state held' item' mem
      exact keeps state held' item' (List.mem_cons_of_mem _ mem)

theorem mapM {step : α → Except ε β} {items : List α}
    (yields : ∀ item ∈ items, Yields (step item) fun _ => True) :
    Yields (items.mapM step) fun _ => True := by
  induction items with
  | nil => exact .pure trivial
  | cons item rest ih =>
      rw [List.mapM_cons]
      apply (yields item List.mem_cons_self).bind
      intro value _
      apply (ih fun item' mem => yields item' (List.mem_cons_of_mem _ mem)).bind
      intro values _
      exact .pure trivial

end Yields

end Linework
