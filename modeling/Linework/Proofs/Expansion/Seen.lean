import Linework.Proofs.Expansion.Dispatch

/-!
# What can be seen of a run

A run is known by the scripts it evaluates, the handlers it calls and the results it binds, by what it
accumulates, and by its collaborators. Remarks for those who trace it, the sequences under way and the
counts that bound it are no part of this. What a command does depends on what was seen before it only.
-/

namespace Linework.Expansion

/-- Whether the event is a remark. -/
def Event.isNote : Event → Bool
  | .noted _ => true
  | _ => false

/-- Whether the event is the remark that a bound has forbidden to process a sequence. -/
def Event.isSkip : Event → Bool
  | .noted .nestingLimit | .noted .expansionLimit => true
  | _ => false

namespace State

/-- The evaluations, calls and binds, in their order. -/
def events (state : State) : List Event :=
  state.log.toList.filter (!·.isNote)

/-- How many sequences a bound has forbidden to process. -/
def skipped (state : State) : Nat :=
  state.log.toList.countP Event.isSkip

@[simp]
theorem events_note (state : State) (remark : Note) : (state.note remark).events = state.events := by
  simp [events, State.note, record, Event.isNote]

theorem events_record (state : State) {event : Event} (happened : event.isNote = false) :
    (state.record event).events = state.events ++ [event] := by
  simp [events, record, happened]

@[simp]
theorem skipped_record (state : State) (event : Event) :
    (state.record event).skipped = state.skipped + if event.isSkip then 1 else 0 := by
  simp [skipped, record, List.countP_append]

theorem skipped_note (state : State) (remark : Note) :
    (state.note remark).skipped = state.skipped + if Event.isSkip (.noted remark) then 1 else 0 :=
  skipped_record state _

end State

/-- Collaborators to run small examples with: a script is its own output, and no command is known. The
bridge counts the scripts. -/
def echo : Host Nat Unit where
  bridge := { evaluate := fun code count => (.ok code, count + 1), bind := fun _ _ count => count }
  registry := ⟨fun _ => .ok false, fun _ => .ok [], fun _ _ _ => (.ok none, ())⟩

/-- What can be seen of a run. -/
structure Seen (σ ρ : Type) where
  events : List Event
  results : Array Result
  previous : Option Command
  dispatched : Nat
  bridge : σ
  library : ρ

namespace Machine

variable {σ ρ : Type} (host : Host σ ρ)

/-- What can be seen of the run that led to a machine. -/
def seen (machine : Machine σ ρ) : Seen σ ρ :=
  ⟨machine.state.events, machine.state.results, machine.state.previous, machine.state.dispatched,
    machine.bridge, machine.library⟩

/-- The outcomes of two dispatches look the same. -/
inductive Alike : Except (Machine σ ρ × Fault) (Machine σ ρ) →
    Except (Machine σ ρ × Fault) (Machine σ ρ) → Prop
  | ok {first second : Machine σ ρ} : first.seen = second.seen → Alike (.ok first) (.ok second)
  | error {first second : Machine σ ρ} {fault : Fault} : first.seen = second.seen →
      Alike (.error (first, fault)) (.error (second, fault))

variable {first second : Machine σ ρ}

theorem seen_eq_iff : first.seen = second.seen ↔
    first.state.events = second.state.events ∧ first.state.results = second.state.results ∧
      first.state.previous = second.state.previous ∧
      first.state.dispatched = second.state.dispatched ∧ first.bridge = second.bridge ∧
      first.library = second.library := by
  simp [seen]

theorem emit_alike (same : first.seen = second.seen) (name : String) (arguments : Arguments) :
    Alike (emit host first name arguments) (emit host second name arguments) := by
  obtain ⟨events, results, previous, dispatched, bridge, library⟩ := seen_eq_iff.mp same
  unfold State.events at events
  unfold emit
  rw [library]
  rcases host.registry.invoke name arguments second.library with ⟨result, library'⟩
  rcases result with fault | result?
  · exact .error (by simp [seen, State.events, State.note, State.record, *])
  · rcases result? with _ | ⟨command, elements, bound?, interface?⟩
    · exact .ok (by simp [seen, State.events, State.note, State.record, *])
    · rcases bound? with _ | bound
      · exact .ok (by simp [seen, State.events, State.note, State.record, *])
      · rcases interface? with _ | interface
        · exact .ok (by simp [seen, State.events, State.note, State.record, *])
        · simp only [bridge]
          split
          · exact .ok (by simp [seen, State.events, State.note, State.record, *])
          · split
            · exact .ok (by simp [seen, State.events, State.note, State.record, *])
            · exact .error (by simp [seen, State.events, State.note, State.record, *])

/-- Dispatching does the same from machines of which the same can be seen. -/
theorem dispatch_alike (same : first.seen = second.seen) (command : Command) :
    Alike (dispatch host first command) (dispatch host second command) := by
  obtain ⟨events, results, previous, dispatched, bridge, library⟩ := seen_eq_iff.mp same
  have noted (remark : Note) : Alike (.ok { first with state := first.state.note remark })
      (.ok { second with state := second.state.note remark }) := by
    refine .ok (seen_eq_iff.mpr ⟨?_, results, previous, dispatched, bridge, library⟩)
    simpa using events
  unfold dispatch
  simp only [dispatched]
  split
  · exact .error same
  · exact noted _
  · split
    · split
      · exact emit_alike host same _ _
      · split
        · exact .error same
        · exact emit_alike host same _ _
        · have opened := emit_alike host same host.limits.initCommand []
          generalize emit host first host.limits.initCommand [] = one,
            emit host second host.limits.initCommand [] = other at opened
          cases opened with
          | ok same' => exact emit_alike host same' _ _
          | error same' => exact .error same'
    · split
      · exact noted _
      · exact emit_alike host same _ _

end Machine

end Linework.Expansion
