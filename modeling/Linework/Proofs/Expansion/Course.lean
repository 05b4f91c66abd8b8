import Linework.Proofs.Expansion.Moves
import Linework.Proofs.Expansion.Together

/-!
# The course of a run

A run is a sequence of evaluations and calls. Each is answered by its collaborator in the state to which
the answers before have brought it. What a call gives back is a result of the run, and it is made known
to scripts before anything else happens.
-/

namespace Linework

/-- The name and the interface by which scripts find a result, if it has both. -/
def Result.binding? (result : Result) : Option (String × Datum) :=
  match result.name, result.interface with
  | some name, some interface => if name.isEmpty then none else some (name, interface)
  | _, _ => none

namespace Expansion

/-- The event by which what a handler has given back is made known. -/
def boundBy (result? : Option Result) : List Event :=
  ((result?.bind Result.binding?).map fun binding => .bound binding.1).toList

/-- The state of the bridge once what a handler has given back is known. -/
def Bridge.learn {σ : Type} (bridge : Bridge σ) (result? : Option Result) (state : σ) : σ :=
  match result?.bind Result.binding? with
  | some (name, interface) => bridge.bind name interface state
  | none => state

variable {σ ρ : Type} (host : Host σ ρ)

/-- From these states of the bridge and of the library, the events can happen in their order, and they
leave these results and states. -/
inductive Course (bridge : σ) (library : ρ) : List Event → List Result → σ → ρ → Prop
  | start : Course bridge library [] [] bridge library
  | evaluated {events : List Event} {results : List Result} {bridge' bridge'' : σ} {library' : ρ}
      {code output : String} : Course bridge library events results bridge' library' →
      host.bridge.evaluate code bridge' = (.ok output, bridge'') →
      Course bridge library (events ++ [.evaluated code output]) results bridge'' library'
  | called {events : List Event} {results : List Result} {bridge' : σ} {library' library'' : ρ}
      {name : String} {arguments : Arguments} {result? : Option Result} :
      Course bridge library events results bridge' library' → host.registry.knows name →
      host.registry.invoke name arguments library' = (.ok result?, library'') →
      Course bridge library (events ++ .called name arguments :: boundBy result?)
        (results ++ result?.toList) (host.bridge.learn result? bridge') library''

/-- The handler that an event calls, with its arguments. -/
def Event.call? : Event → Option (String × Arguments)
  | .called name arguments => some (name, arguments)
  | _ => none

/-- A call and what makes its result known are one call. -/
theorem filterMap_call?_called (name : String) (arguments : Arguments) (result? : Option Result) :
    (.called name arguments :: boundBy result?).filterMap Event.call? = [(name, arguments)] := by
  unfold boundBy
  cases result?.bind Result.binding? with
  | none => rfl
  | some binding => rfl

/-- Only known commands are called. -/
theorem Course.knows {bridge bridge' : σ} {library library' : ρ} {events : List Event}
    {results : List Result} (course : Course host bridge library events results bridge' library') :
    ∀ call ∈ events.filterMap Event.call?, host.registry.knows call.1 := by
  induction course with
  | start =>
      intro call mem
      cases mem
  | evaluated _ _ ih =>
      rw [List.filterMap_append]
      simpa [Event.call?] using ih
  | called _ known _ ih =>
      rw [List.filterMap_append, filterMap_call?_called]
      intro call mem
      rcases List.mem_append.mp mem with earlier | latest
      · exact ih call earlier
      · rw [List.mem_singleton.mp latest]
        exact known

/-! ## Calls -/

namespace Seen

/-- The calls of handlers, in their order. -/
def calls (seen : Seen σ ρ) : List (String × Arguments) :=
  seen.events.filterMap Event.call?

/-- What can be seen once a handler has returned. -/
def returned (seen : Seen σ ρ) (name : String) (arguments : Arguments) (result? : Option Result)
    (library : ρ) : Seen σ ρ where
  events := seen.events ++ .called name arguments :: boundBy result?
  results := seen.results ++ result?.toList
  previous := seen.previous
  dispatched := seen.dispatched + 1
  bridge := host.bridge.learn result? seen.bridge
  library := library

/-- What can be seen once a script has answered. -/
def heard (seen : Seen σ ρ) (code output : String) (bridge : σ) : Seen σ ρ :=
  { seen with events := seen.events ++ [.evaluated code output], bridge := bridge }

theorem calls_heard (seen : Seen σ ρ) (code output : String) (bridge : σ) :
    (seen.heard code output bridge).calls = seen.calls := by
  rw [calls, heard, List.filterMap_append]
  exact List.append_nil _

theorem calls_returned (seen : Seen σ ρ) (name : String) (arguments : Arguments)
    (result? : Option Result) (library : ρ) :
    (seen.returned host name arguments result? library).calls = seen.calls ++ [(name, arguments)] := by
  rw [calls, returned, List.filterMap_append, filterMap_call?_called]
  rfl

end Seen

namespace Machine

variable {machine machine' : Machine σ ρ}

/-- A handler is called once, and all that follows from it is what it gives back. -/
theorem seen_emit {name : String} {arguments : Arguments}
    (emitted : emit host machine name arguments = .ok machine') :
    ∃ result? library', host.registry.invoke name arguments machine.library = (.ok result?, library') ∧
      machine'.seen = machine.seen.returned host name arguments result? library' := by
  unfold emit at emitted
  rcases answer : host.registry.invoke name arguments machine.library with ⟨fault | result?, library'⟩
  · rw [answer] at emitted
    cases emitted
  · rw [answer] at emitted
    refine ⟨result?, library', rfl, ?_⟩
    rcases result? with _ | ⟨command, elements, bound?, interface?⟩
    · cases emitted
      simp [seen, Seen.returned, State.events, State.note, State.record, Event.isNote, boundBy,
        Bridge.learn]
    · rcases bound? with _ | bound
      · cases emitted
        simp [seen, Seen.returned, State.events, State.note, State.record, Event.isNote, boundBy,
          Bridge.learn, Result.binding?]
      · rcases interface? with _ | interface
        · cases emitted
          simp [seen, Seen.returned, State.events, State.note, State.record, Event.isNote, boundBy,
            Bridge.learn, Result.binding?]
        · simp only at emitted
          split at emitted
          · rename_i anonymous
            cases emitted
            simp [seen, Seen.returned, State.events, State.note, State.record, Event.isNote, boundBy,
              Bridge.learn, Result.binding?, anonymous]
          · rename_i named
            split at emitted
            · cases emitted
              simp [seen, Seen.returned, State.events, State.note, State.record, Event.isNote, boundBy,
                Bridge.learn, Result.binding?, named]
            · cases emitted

/-- A call fails where the handler raises the fault, or where it has returned and its result cannot be made
known. -/
theorem seen_emit_failed {name : String} {arguments : Arguments} {fault : Fault}
    (failed : emit host machine name arguments = .error (machine', fault)) :
    (∃ library', host.registry.invoke name arguments machine.library = (.error fault, library') ∧
      machine'.seen = { machine.seen with
        events := machine.seen.events ++ [.called name arguments], library := library' }) ∨
    ∃ result library' binding, result.binding? = some binding ∧
      host.registry.invoke name arguments machine.library = (.ok (some result), library') ∧
      host.bridge.bindFault binding.1 binding.2 machine.bridge = some fault ∧
      machine'.seen = machine.seen.returned host name arguments (some result) library' := by
  unfold emit at failed
  rcases answer : host.registry.invoke name arguments machine.library with ⟨raised | result?, library'⟩
  · rw [answer] at failed
    cases failed
    refine .inl ⟨library', rfl, ?_⟩
    simp [seen, State.events, State.note, State.record, Event.isNote]
  · rw [answer] at failed
    rcases result? with _ | ⟨command, elements, bound?, interface?⟩
    · cases failed
    · rcases bound? with _ | bound
      · cases failed
      · rcases interface? with _ | interface
        · cases failed
        · simp only at failed
          split at failed
          · cases failed
          · rename_i named
            split at failed
            · cases failed
            · rename_i refused
              cases failed
              have binding : Result.binding? ⟨command, elements, some bound, some interface⟩ =
                  some (bound, interface) := by
                simp [Result.binding?, named]
              refine .inr ⟨_, library', (bound, interface), binding, rfl, refused, ?_⟩
              simp [seen, Seen.returned, State.events, State.note, State.record, Event.isNote, boundBy,
                Bridge.learn, binding]

/-! ## Moves -/

@[simp]
theorem seen_noting (machine : Machine σ ρ) (note : Note) :
    (machine.noting note).seen = machine.seen := by
  rw [seen, noting, State.events_note]
  rfl

@[simp]
theorem seen_withFrames (machine : Machine σ ρ) (frames : List Frame) :
    (machine.withFrames frames).seen = machine.seen :=
  rfl

@[simp]
theorem seen_enter (machine : Machine σ ρ) (tokens : List Token) :
    (enter host machine tokens).seen = machine.seen := by
  unfold enter
  simp only
  split
  · exact seen_noting machine .nestingLimit
  · split
    · rfl
    · split
      · exact seen_noting machine .expansionLimit
      · rfl

theorem seen_define (machine : Machine σ ρ) (frame : Frame) (outer : List Frame)
    (name remainder : String) (rest : List Token) :
    (define machine frame outer name remainder rest).machine.seen = machine.seen :=
  seen_noting _ _

theorem seen_heard (machine : Machine σ ρ) (code output : String) (bridge : σ) :
    (machine.heard code output bridge).seen = machine.seen.heard code output bridge := by
  rw [seen, heard, State.events_record _ rfl]
  rfl

end Machine

end Expansion

end Linework
