import Linework.Proofs.Expansion.Reading
import Linework.Proofs.Expansion.Runs
import Mathlib.Data.List.TakeWhile

/-!
# Definitions

A definition at the start of a region is taken out of the sequence as far as the separator that ends its
block, and is stored under its name. The stored block is a sequence of its own, and invocations process
copies of it: until its name is defined again, it reads as it was stored.
-/

namespace Linework

/-- Where the two sides of a position do not fuse, the seam changes nothing. -/
theorem Focus.seam_eq_self {before after : List Token}
    (apart : ∀ last ∈ before.head?, ∀ next ∈ after.head?, fuse? last next = none) :
    Focus.seam ⟨before, after⟩ = ⟨before, after⟩ := by
  cases before with
  | nil => rfl
  | cons last earlier =>
      cases after with
      | nil => rfl
      | cons next rest => simp [Focus.seam, apart last rfl next rfl]

namespace Expansion

open Node

/-! ## Captured bodies -/

/-- The body of a block that begins the tokens, and what is left behind the separator that ends it. A block
that no separator ends takes all tokens. -/
inductive Captures : List Token → List Token → List Token → Prop
  | ended {body left : List Token} {separator : Token} : (∀ token ∈ body, endsBlock token = false) →
      endsBlock separator → Captures (body ++ separator :: left) body left
  | open {body : List Token} : (∀ token ∈ body, endsBlock token = false) → Captures body body []

namespace Captures

variable {tokens body left : List Token}

theorem blockBody_eq (captures : Captures tokens body left) : blockBody tokens = body := by
  cases captures with
  | @ended body left separator goesOn ends =>
      unfold blockBody
      rw [List.takeWhile_append_of_pos (by simpa using goesOn)]
      simp [ends]
  | «open» goesOn =>
      unfold blockBody
      rw [List.takeWhile_eq_self_iff]
      simpa using goesOn

theorem drop_eq (captures : Captures tokens body left) : tokens.drop (body.length + 1) = left := by
  cases captures with
  | @ended body left separator => exact List.drop_length_add_append 1
  | «open» => exact List.drop_of_length_le (Nat.le_succ _)

/-- Behind the separator that ends a block stands no separator. -/
theorem inside_left (captures : Captures tokens body left) (fused : IsFused tokens) :
    ∀ next ∈ left.head?, next.kind ≠ .boundary := by
  cases captures with
  | @ended body left separator _ ends =>
      intro next mem boundary
      obtain ⟨isBoundary, _⟩ := Bool.and_eq_true_iff.mp ends
      have apart := (isFused_cons.mp (isFused_append.mp fused).2.1).1 next mem
      exact (Token.fuse?_eq_none_iff_kinds.mp apart).2 ⟨eq_of_beq isBoundary, boundary⟩
  | «open» => exact fun _ mem => nomatch mem

/-- Where a text and the block behind it are taken out of a sequence, the two sides do not fuse. -/
theorem apart (captures : Captures tokens body left) {passed : List Token} {text : String}
    (fused : IsFused (passed ++ ⟨.text, text⟩ :: tokens)) :
    ∀ last ∈ passed.getLast?, ∀ next ∈ left.head?, fuse? last next = none := by
  obtain ⟨_, restFused, seam⟩ := isFused_append.mp fused
  intro last lastMem next nextMem
  have beforeText := Token.fuse?_eq_none_iff_kinds.mp (seam last lastMem ⟨.text, text⟩ rfl)
  have inside := captures.inside_left restFused.tail next nextMem
  refine Token.fuse?_eq_none_iff_kinds.mpr ⟨fun texts => ?_, fun boundaries => inside boundaries.2⟩
  exact beforeText.1 ⟨texts.1, rfl⟩

end Captures

/-! ## One definition -/

namespace Machine

variable {σ ρ : Type} (host : Host σ ρ) {machine machine' : Machine σ ρ}

/-- The body that a definition stores. -/
def definedBody (remainder : String) (body : List Token) : List Token :=
  closeBody ((if remainder.isEmpty then [] else [⟨.text, remainder⟩]) ++ body)

theorem step_of_definition {outer : List Frame} {passed tokens body left : List Token}
    {text name remainder : String}
    (frames : machine.frames = ⟨passed.reverse, [], ⟨.text, text⟩ :: tokens, .resolve⟩ :: outer)
    (defines : definition? text = some (name, remainder)) (captures : Captures tokens body left)
    (fused : IsFused (passed ++ ⟨.text, text⟩ :: tokens)) :
    step host machine = .next
      { machine with
        state := State.note
          { machine.state with blocks := machine.state.blocks.put name (definedBody remainder body) }
          (.defined name (definedBody remainder body))
        frames := ⟨passed.reverse, [], left, .resolve⟩ :: outer } := by
  have erased : Focus.erase (body.length + 2) ⟨passed.reverse, ⟨.text, text⟩ :: tokens⟩ =
      ⟨passed.reverse, left⟩ := by
    have dropped : (⟨.text, text⟩ :: tokens).drop (body.length + 2) = left := captures.drop_eq
    have apart := captures.apart fused
    rw [← List.head?_reverse] at apart
    rw [Focus.erase, dropped, Focus.seam_eq_self apart]
    rfl
  unfold step
  rw [frames]
  simp only [resolve, List.isEmpty_nil, if_true, defines, define, captures.blockBody_eq, Frame.edit, erased]
  rfl

end Machine

/-! ## Definitions of one name -/

/-- Whether the event is the definition of a block of the name. -/
def Event.defines (name : String) : Event → Bool
  | .noted (.defined other _) => other == name
  | _ => false

/-- How often a block of the name has been defined. -/
def State.definitions (state : State) (name : String) : Nat :=
  state.log.toList.countP (Event.defines name)

@[simp]
theorem State.definitions_record (state : State) (event : Event) (name : String) :
    (state.record event).definitions name =
      state.definitions name + if event.defines name then 1 else 0 := by
  simp [definitions, record, List.countP_append]

/-- From one state to a later one: unless it has been defined again, the block is the same. -/
structure State.Recalls (name : String) (earlier later : State) : Prop where
  fewer : earlier.definitions name ≤ later.definitions name
  same : later.definitions name = earlier.definitions name →
    later.blocks.get? name = earlier.blocks.get? name

namespace State.Recalls

variable {name : String} {first second third : State}

theorem of_eq (definitions : second.definitions name = first.definitions name)
    (blocks : second.blocks = first.blocks) : Recalls name first second :=
  ⟨definitions.ge, fun _ => congrArg (·.get? name) blocks⟩

theorem trans (earlier : Recalls name first second) (later : Recalls name second third) :
    Recalls name first third := by
  constructor
  · exact earlier.fewer.trans later.fewer
  · intro none
    have fewer := earlier.fewer
    have fewer' := later.fewer
    rw [later.same (by omega), earlier.same (by omega)]

theorem record (state : State) {event : Event} (other : event.defines name = false) :
    Recalls name state (state.record event) :=
  .of_eq (by simp [other]) rfl

/-- A definition changes the block of its name only. -/
theorem define (state : State) (defined : String) (body : List Token) :
    Recalls name state
      (State.note { state with blocks := state.blocks.put defined body } (.defined defined body)) := by
  have count : (State.note { state with blocks := state.blocks.put defined body }
      (.defined defined body)).definitions name =
      state.definitions name + if defined == name then 1 else 0 :=
    State.definitions_record _ _ _
  constructor
  · omega
  · intro none
    have different : ¬defined == name := by
      intro same
      rw [count, if_pos same] at none
      omega
    exact (Assoc.get?_put _ _ _ _).trans (if_neg different)

end State.Recalls

namespace Machine

variable {σ ρ : Type} (host : Host σ ρ) {machine machine' : Machine σ ρ} (name : String)

theorem definitions_emit (machine : Machine σ ρ) (command : String) (arguments : Arguments) :
    (outcome (emit host machine command arguments)).state.definitions name =
      machine.state.definitions name := by
  unfold emit
  rcases host.registry.invoke command arguments machine.library with ⟨_ | (_ | result), library⟩
  · simp [outcome, State.note, Event.defines]
  · simp [outcome, State.note, State.definitions, State.record, Event.defines]
  · rcases result with ⟨command, elements, _ | bound, _ | interface⟩
    · simp [outcome, State.note, State.definitions, State.record, Event.defines]
    · simp [outcome, State.note, State.definitions, State.record, Event.defines]
    · simp [outcome, State.note, State.definitions, State.record, Event.defines]
    · by_cases anonymous : bound.isEmpty
      · simp [anonymous, outcome, State.note, State.definitions, State.record, Event.defines]
      · simp only [anonymous]
        cases host.bridge.bindFault bound interface machine.bridge <;>
          simp [outcome, State.note, State.definitions, State.record, Event.defines]

theorem definitions_dispatch (machine : Machine σ ρ) (command : Command) :
    (outcome (dispatch host machine command)).state.definitions name = machine.state.definitions name := by
  have dispatched := dispatches host machine command
  generalize dispatch host machine command = result at dispatched
  cases dispatched with
  | refused _ same =>
      rw [same]
      rfl
  | unknown _ same | repeated _ _ same =>
      rw [same]
      simp [outcome, noting, State.note, Event.defines]
  | opening _ _ _ _ opened called =>
      have first := definitions_emit host name machine host.limits.initCommand []
      rw [opened] at first
      rw [← called, definitions_emit, ← first]
      rfl
  | unopened _ _ _ _ failed same =>
      rw [same, ← failed, definitions_emit]
  | first _ _ _ called | later _ _ _ called =>
      rw [← called, definitions_emit]

theorem recalls_enter (machine : Machine σ ρ) (tokens : List Token) :
    State.Recalls name machine.state (enter host machine tokens).state := by
  apply State.Recalls.of_eq
  · unfold enter
    simp only
    split
    · simp [State.note, Event.defines]
    · split
      · rfl
      · split
        · simp [State.note, Event.defines]
        · rfl
  · unfold enter
    simp only
    split
    · rfl
    · split
      · rfl
      · split <;> rfl

theorem recalls_dispatch {machine : Machine σ ρ} {command : Command}
    {result : Except (Machine σ ρ × Fault) (Machine σ ρ)}
    (dispatched : dispatch host (machine.recalling command) command = result) :
    State.Recalls name machine.state (outcome result).state := by
  rw [← dispatched]
  exact .of_eq (definitions_dispatch host name _ command) (dispatch_kept host _ command).blocks

/-- A move changes the block of a name only by defining it. -/
theorem recalls_step (machine : Machine σ ρ) :
    State.Recalls name machine.state (step host machine).machine.state := by
  rcases frames : machine.frames with _ | ⟨frame, outer⟩
  · rw [step_of_nil host frames]
    exact .of_eq rfl rfl
  · have moves := moves_step host frames
    generalize step host machine = move at moves
    have heard (code output : String) :=
      State.Recalls.record machine.state (rfl : Event.defines name (.evaluated code output) = false)
    cases moves with
    | pass | invokeUnknown | dismiss | refuse | misread | leave | finish => exact .of_eq rfl rfl
    | hear => exact heard _ _
    | splice => exact (heard _ _).trans (.record _ rfl)
    | define => exact .define _ _ _
    | iterate =>
        refine State.Recalls.trans ?_ (recalls_enter host name _ _)
        exact (heard _ _).trans (.record _ rfl)
    | invoke =>
        refine State.Recalls.trans ?_ (recalls_enter host name _ _)
        exact .record _ rfl
    | perform _ _ _ _ dispatched => exact recalls_dispatch host name dispatched
    | abort _ _ _ _ dispatched =>
        exact (recalls_dispatch host name dispatched).trans (.of_eq rfl rfl)

theorem recalls_run (fuel : Nat) (machine : Machine σ ρ) :
    State.Recalls name machine.state (run host fuel machine).machine.state := by
  apply machine_run_keeps host fun reached => State.Recalls name machine.state reached.state
  · intro reached recalls
    exact recalls.trans (recalls_step host name reached)
  · exact .of_eq rfl rfl

end Machine

/-! ## Definitions over a common memory -/

namespace Commons

variable {σ ρ : Type} (host : Host σ ρ) {commons : Commons σ ρ} {machine : Machine σ ρ} {store : Store}
  {frame : Frame} {outer : List Frame}

theorem Shows.definitions_eq (shows : commons.Shows store machine) (name : String) :
    commons.state.definitions name = machine.state.definitions name := by
  rw [shows.state]
  rfl

/-- A definition at the start of a region, up to the separator that ends its block: the block is stored, as
its tokens and an empty separator; no other block changes; the sequence is what stood before the
definition and what stood behind it, and both cursors are at the seam; nothing is evaluated and nothing is
called. As long as the name is not defined again, the block reads as it was stored, whatever the run
does. -/
theorem define_captures (sound : commons.Sound) (top : commons.frames = frame :: outer)
    (resolving : frame.task = .resolve) {passed tokens body left : List Token}
    {text name remainder : String}
    (starts : frame.At commons.shelf passed (⟨.text, text⟩ :: tokens))
    (defines : definition? text = some (name, remainder)) (captures : Captures tokens body left) :
    let first : List Token := if remainder.isEmpty then [] else [⟨.text, remainder⟩]
    let stored := Token.fused (first ++ body ++ [⟨.boundary, ""⟩])
    ∃ commons' frame', Commons.step host commons = .next commons' ∧ commons'.block? name = some stored ∧
      (∀ other, other ≠ name → commons'.block? other = commons.block? other) ∧
      commons'.frames = frame' :: outer ∧ frame'.sequence = frame.sequence ∧ frame'.task = .resolve ∧
      frame'.At commons'.shelf passed left ∧ join passed left = passed ++ left ∧
      commons'.core.seen = commons.core.seen ∧
      ∀ fuel, let later := (Commons.run host fuel commons').reached
        later.state.definitions name = commons'.state.definitions name →
          later.block? name = some stored := by
  intro first stored
  obtain ⟨store, machine, shows⟩ := sound
  obtain ⟨cut, cuts, shown, others, cutsEq⟩ := List.forall₂_cons_left_iff.mp (top ▸ shows.frames)
  have cutEq := starts.cut_eq resolving shows.shelf shown
  have fused := starts.fused shows.shelf
  have moved := Machine.step_of_definition host (cutEq ▸ cutsEq) defines captures fused
  obtain ⟨commons', store', stepEq, shows', _, follows⟩ := shows.step_next host top moved
  obtain ⟨frame', outer', shown', others', top'⟩ := List.forall₂_cons_right_iff.mp shows'.frames
  rw [top'] at follows
  obtain ⟨same, rfl⟩ := follows.stays_of_length (others'.length_eq.trans others.length_eq.symm)
  refine ⟨commons', frame', stepEq, ?_, ?_, top', same, shown'.resolving, shown'.at shows'.shelf,
    join_eq_append (captures.apart fused), ?_, ?_⟩
  · rw [shows'.block?_eq]
    exact (Assoc.get?_put _ _ _ _).trans (if_pos BEq.rfl)
  · intro other different
    rw [shows'.block?_eq, shows.block?_eq]
    exact (Assoc.get?_put _ _ _ _).trans (if_neg (by simpa using different.symm))
  · rw [shows'.seen_eq, shows.seen_eq]
    exact Machine.seen_eq_iff.mpr ⟨State.events_note _ _, rfl, rfl, rfl, rfl, rfl⟩
  · intro fuel later none
    obtain ⟨store'', later'⟩ := (shows'.run host fuel).shows
    rw [later'.definitions_eq, shows'.definitions_eq] at none
    rw [later'.block?_eq, (Machine.recalls_run host name fuel _).same none]
    exact (Assoc.get?_put _ _ _ _).trans (if_pos BEq.rfl)

/-- A block of two regions is stored, and what stands behind it is left. -/
theorem define_captures_of_document :
    let empty : Commons Nat Unit := { bridge := 0, library := () }
    let made := empty.shelf.make (Token.tokenize "_a hi;ho;;;@a;")
    let commons := enter echo { empty with shelf := made.1 } made.2
    let stored : List Token := [⟨.text, "hi"⟩, ⟨.boundary, ";"⟩, ⟨.text, "ho"⟩, ⟨.boundary, ""⟩]
    ∃ commons', Commons.step echo commons = .next commons' ∧ commons'.block? "a" = some stored := by
  intro empty made commons stored
  obtain ⟨frame, sound, top, resolving, starts⟩ :=
    Sound.opens echo ⟨_, _, shows_empty 0 ()⟩ rfl rfl (by decide) (Token.tokenize "_a hi;ho;;;@a;")
  let left : List Token := [⟨.text, "@a"⟩, ⟨.boundary, ";"⟩]
  let body : List Token := [⟨.boundary, ";"⟩, ⟨.text, "ho"⟩]
  have read : Token.fused (Token.tokenize "_a hi;ho;;;@a;") =
      ⟨.text, "_a hi"⟩ :: (body ++ ⟨.boundary, ";;;"⟩ :: left) := by decide +kernel
  have captures : Captures (body ++ ⟨.boundary, ";;;"⟩ :: left) body left :=
    .ended (by decide +kernel) (by decide +kernel)
  have defines : definition? "_a hi" = some ("a", "hi") := by decide +kernel
  obtain ⟨commons', _, moved, isStored, _⟩ :=
    define_captures echo sound top resolving (read ▸ starts) defines captures
  exact ⟨commons', moved, isStored⟩

end Commons

end Expansion

end Linework
