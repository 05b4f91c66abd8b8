import Linework.Expansion.Commons
import Linework.Proofs.Expansion.Moves
import Linework.Proofs.Expansion.Walk
import Linework.Proofs.Token.Keeping

/-!
# Sequences that are kept apart

A configuration over a common memory goes with one of the machine, in which blocks, loop bodies and
sequences under way are separate values, where the sequences under way are distinct and none of them is a
block or the body of a loop. An edit of one sequence then leaves the readings of all others alone, and to
process a copy is to begin a new sequence.
-/

namespace Linework

open Node

namespace Shelf

variable {shelf : Shelf} {store : Store}

theorem Shows.content_eq (shows : shelf.Shows store) (sequence : SequenceId) :
    shelf.content sequence = store.tokens sequence := by
  rw [Shelf.content, shows.nodes_eq, Store.tokens]

/-- The tokens of a sequence on a shelf are fused. -/
theorem Shows.fused_tokens (shows : shelf.Shows store) (sequence : SequenceId) :
    Token.fused (store.tokens sequence) = store.tokens sequence :=
  Token.fused_eq_self (isFused_tokens.mpr (shows.fused sequence))

/-- A new sequence reads as the tokens, fused. -/
theorem Shows.content_make (shows : shelf.Shows store) (tokens : List Token) :
    (shelf.make tokens).1.content (shelf.make tokens).2 = Token.fused tokens := by
  rw [(shows.make tokens).content_eq, ← store.tokens_make tokens, ← shows.count]
  rfl

end Shelf

namespace Expansion

namespace Commons

/-! ## The configurations that go together -/

/-- A loop as the machine has it, with its body read. -/
def Loop.read (store : Store) (loop : Loop) : Expansion.Loop :=
  ⟨loop.condition, loop.step, store.tokens loop.body, loop.iteration⟩

/-- The sequence that the body of a task's loop is copied from. -/
def Task.body? : Task → Option SequenceId
  | .resolve | .fold _ _ _ => none
  | .beginLoop _ loop | .testLoop loop | .advanceLoop loop => some loop.body

/-- How the task of a frame answers to that of a machine's frame. -/
inductive Task.Shows (store : Store) : Task → Expansion.Task → List Node → List Node → Prop
  | resolve {region ahead : List Node} : Shows store .resolve .resolve region ahead
  | fold {region rest : List Node} {group : Node} {text : String} {afterScript : Bool} :
      group.token.kind = .group →
      Shows store (.fold (firstOr rest none) text afterScript) (.fold text afterScript) region
        (group :: rest)
  | beginLoop {ahead : List Node} {init : String} {loop : Loop} :
      Shows store (.beginLoop init loop) (.beginLoop init (loop.read store)) [] ahead
  | testLoop {ahead : List Node} {loop : Loop} :
      Shows store (.testLoop loop) (.testLoop (loop.read store)) [] ahead
  | advanceLoop {ahead : List Node} {loop : Loop} :
      Shows store (.advanceLoop loop) (.advanceLoop (loop.read store)) [] ahead

/-- The nodes of a frame's sequence are three runs: those passed, the region from the main cursor to the
lookahead cursor, and those ahead. -/
structure Frame.Stands (store : Store) (frame : Frame) (passed region ahead : List Node) : Prop where
  inside : frame.sequence < store.sequences.length
  nodes : store.nodes frame.sequence = passed ++ (region ++ ahead)
  main : frame.main = firstOr (region ++ ahead) none
  lookahead : frame.lookahead = firstOr ahead none
  resolved : ∀ node ∈ region, node.token.isBoundary = false

/-- The sequence and the cursors of a frame are the cut sequence of a machine's frame. -/
inductive Frame.Shows (store : Store) : Frame → Expansion.Frame → Prop
  | mk {frame : Frame} {passed region ahead : List Node} {task : Expansion.Task} :
      frame.Stands store passed region ahead → frame.task.Shows store task region ahead →
      Shows store frame (Walk.Frame.cut passed region ahead task)

variable {σ ρ : Type}

/-- The sequences under way. -/
def busy (frames : List Frame) : List SequenceId :=
  frames.map (·.sequence)

/-- The sequences that are kept to be copied: the blocks, and the bodies of the loops under way. -/
def kept (commons : Commons σ ρ) : List SequenceId :=
  commons.blocks.map (·.2) ++ commons.frames.filterMap (·.task.body?)

/-- The blocks, read. -/
def readBlocks (store : Store) (blocks : Assoc String SequenceId) : Assoc String (List Token) :=
  blocks.map fun entry => (entry.1, store.tokens entry.2)

/-- The machine's state. -/
def read (commons : Commons σ ρ) (store : Store) : State :=
  { commons.state with blocks := readBlocks store commons.blocks }

/-- The commons and the machine are in the same configuration. The sequences under way are distinct, and
none of them is kept to be copied. -/
structure Shows (commons : Commons σ ρ) (store : Store) (machine : Machine σ ρ) : Prop where
  shelf : commons.shelf.Shows store
  state : machine.state = commons.read store
  bridge : machine.bridge = commons.bridge
  library : machine.library = commons.library
  frames : List.Forall₂ (Frame.Shows store) commons.frames machine.frames
  distinct : (busy commons.frames).Nodup
  apart : ∀ sequence ∈ commons.kept,
    sequence < store.sequences.length ∧ sequence ∉ busy commons.frames

/-- After a move of the innermost frame, it has been left, or it is still there, perhaps with a new one
inside of it. The outer frames are as they were. -/
inductive Follows (frame : Frame) (outer : List Frame) : List Frame → Prop
  | left : Follows frame outer outer
  | stays {frame' : Frame} {frames : List Frame} : frame'.sequence = frame.sequence →
      frame' :: outer <:+ frames → Follows frame outer frames

/-- The outcomes of two moves are the same. A move that the walk goes on after has edited the sequence of
the innermost frame only. -/
inductive Move.Shows (store : Store) (frame : Frame) (outer : List Frame) :
    Move σ ρ → Expansion.Move σ ρ → Prop
  | next {commons : Commons σ ρ} {store' : Store} {machine : Machine σ ρ} :
      commons.Shows store' machine → store.Keeps store' frame.sequence →
      Follows frame outer commons.frames → Shows store frame outer (.next commons) (.next machine)
  | finished {commons : Commons σ ρ} {store' : Store} {machine : Machine σ ρ} {tokens : List Token} :
      commons.Shows store' machine →
      Shows store frame outer (.finished commons tokens) (.finished machine tokens)
  | failed {commons : Commons σ ρ} {store' : Store} {machine : Machine σ ρ} {tokens : List Token}
      {fault : Fault} : commons.Shows store' machine →
      Shows store frame outer (.failed commons tokens fault) (.failed machine tokens fault)

/-! ## What an edit leaves alone -/

section Keeping

variable {store store' : Store} {sequence : SequenceId} {frame : Frame} {cut : Expansion.Frame}
  {passed region ahead : List Node} {task : Task} {task' : Expansion.Task}

theorem Frame.Stands.keep (stands : frame.Stands store passed region ahead)
    (keeps : store.Keeps store' sequence) (different : frame.sequence ≠ sequence) :
    frame.Stands store' passed region ahead := by
  refine ⟨stands.inside.trans_le keeps.count, ?_, stands.main, stands.lookahead, stands.resolved⟩
  rw [keeps.nodes _ stands.inside different, stands.nodes]

theorem Loop.read_keep {loop : Loop} (keeps : store.Keeps store' sequence)
    (inside : loop.body < store.sequences.length) (different : loop.body ≠ sequence) :
    loop.read store' = loop.read store := by
  rw [Loop.read, Loop.read, keeps.tokens inside different]

theorem Task.Shows.keep (shows : task.Shows store task' region ahead)
    (keeps : store.Keeps store' sequence)
    (bodies : ∀ body ∈ task.body?, body < store.sequences.length ∧ body ≠ sequence) :
    task.Shows store' task' region ahead := by
  cases shows with
  | resolve => exact .resolve
  | fold isGroup => exact .fold isGroup
  | @beginLoop ahead init loop =>
      obtain ⟨inside, different⟩ := bodies loop.body rfl
      rw [← loop.read_keep keeps inside different]
      exact .beginLoop
  | @testLoop ahead loop =>
      obtain ⟨inside, different⟩ := bodies loop.body rfl
      rw [← loop.read_keep keeps inside different]
      exact .testLoop
  | @advanceLoop ahead loop =>
      obtain ⟨inside, different⟩ := bodies loop.body rfl
      rw [← loop.read_keep keeps inside different]
      exact .advanceLoop

theorem Frame.Shows.keep (shows : frame.Shows store cut) (keeps : store.Keeps store' sequence)
    (different : frame.sequence ≠ sequence)
    (bodies : ∀ body ∈ frame.task.body?, body < store.sequences.length ∧ body ≠ sequence) :
    frame.Shows store' cut := by
  cases shows with
  | mk stands task => exact .mk (stands.keep keeps different) (task.keep keeps bodies)

theorem keep_frames {frames : List Frame} {cuts : List Expansion.Frame}
    (shows : List.Forall₂ (Frame.Shows store) frames cuts) (keeps : store.Keeps store' sequence)
    (different : ∀ frame ∈ frames, frame.sequence ≠ sequence)
    (bodies : ∀ frame ∈ frames, ∀ body ∈ frame.task.body?,
      body < store.sequences.length ∧ body ≠ sequence) :
    List.Forall₂ (Frame.Shows store') frames cuts := by
  induction shows with
  | nil => exact .nil
  | cons first rest ih =>
      obtain ⟨firstDifferent, restDifferent⟩ := List.forall_mem_cons.mp different
      obtain ⟨firstBodies, restBodies⟩ := List.forall_mem_cons.mp bodies
      exact .cons (first.keep keeps firstDifferent firstBodies) (ih restDifferent restBodies)

theorem sequence_lt_of_shows {frames : List Frame} {cuts : List Expansion.Frame}
    (shows : List.Forall₂ (Frame.Shows store) frames cuts) :
    ∀ frame ∈ frames, frame.sequence < store.sequences.length := by
  induction shows with
  | nil => exact fun _ mem => absurd mem List.not_mem_nil
  | cons first rest ih =>
      refine List.forall_mem_cons.mpr ⟨?_, ih⟩
      cases first with
      | mk stands => exact stands.inside

theorem readBlocks_keep {blocks : Assoc String SequenceId} (keeps : store.Keeps store' sequence)
    (outside : ∀ entry ∈ blocks, entry.2 < store.sequences.length ∧ entry.2 ≠ sequence) :
    readBlocks store' blocks = readBlocks store blocks := by
  apply List.map_congr_left
  intro entry mem
  obtain ⟨inside, different⟩ := outside entry mem
  rw [keeps.tokens inside different]

theorem readBlocks_put (store : Store) (blocks : Assoc String SequenceId) (name : String)
    (sequence : SequenceId) :
    readBlocks store (blocks.put name sequence) =
      (readBlocks store blocks).put name (store.tokens sequence) := by
  induction blocks with
  | nil => rfl
  | cons entry rest ih =>
      simp only [readBlocks, List.map_cons, Assoc.put] at ih ⊢
      split
      · rfl
      · rw [List.map_cons, ih]

theorem get?_readBlocks (store : Store) (blocks : Assoc String SequenceId) (name : String) :
    (readBlocks store blocks).get? name = (blocks.get? name).map store.tokens := by
  induction blocks with
  | nil => rfl
  | cons entry rest ih =>
      simp only [readBlocks, List.map_cons] at ih ⊢
      unfold Assoc.get?
      split
      · rfl
      · exact ih

/-- An earlier change that has kept as much. -/
theorem Move.Shows.after {outer : List Frame} {move : Move σ ρ} {move' : Expansion.Move σ ρ}
    (moved : Move.Shows store' frame outer move move') (keeps : store.Keeps store' frame.sequence) :
    Move.Shows store frame outer move move' := by
  cases moved with
  | next shows later follows => exact .next shows (keeps.trans later) follows
  | finished shows => exact .finished shows
  | failed shows => exact .failed shows

end Keeping

/-! ## Parts of a move -/

variable (host : Host σ ρ) {commons : Commons σ ρ} {machine : Machine σ ρ} {store : Store}
  {sequence : SequenceId} {outer : List Frame}

/-- The commons after a script has answered. -/
def heard (commons : Commons σ ρ) (code output : String) (bridge : σ) : Commons σ ρ :=
  { commons with bridge := bridge, state := commons.state.record (.evaluated code output) }

theorem Shows.heard (shows : commons.Shows store machine) (code output : String) (bridge : σ) :
    (commons.heard code output bridge).Shows store (machine.heard code output bridge) := by
  refine ⟨shows.shelf, ?_, rfl, shows.library, shows.frames, shows.distinct, shows.apart⟩
  rw [Machine.heard, shows.state]
  rfl

/-- The commons with a remark. -/
def noting (commons : Commons σ ρ) (note : Note) : Commons σ ρ :=
  { commons with state := commons.state.note note }

theorem Shows.noting (shows : commons.Shows store machine) (note : Note) :
    (commons.noting note).Shows store (machine.noting note) := by
  refine ⟨shows.shelf, ?_, shows.bridge, shows.library, shows.frames, shows.distinct, shows.apart⟩
  rw [Machine.noting, shows.state]
  rfl

theorem Frame.Shows.tokens_eq {frame : Frame} {cut : Expansion.Frame} (shows : frame.Shows store cut) :
    store.tokens frame.sequence = cut.tokens := by
  cases shows with
  | mk stands _ => rw [Store.tokens, stands.nodes, Walk.Frame.tokens_cut]

theorem getLast?_tokens {shelf : Shelf} {frames : List Frame} {cuts : List Expansion.Frame}
    (shelfShows : shelf.Shows store) (shows : List.Forall₂ (Frame.Shows store) frames cuts) :
    (frames.getLast?.map fun frame => shelf.content frame.sequence) =
      cuts.getLast?.map Expansion.Frame.tokens := by
  induction shows with
  | nil => rfl
  | @cons frame cut frames cuts first rest ih =>
      cases rest with
      | nil => simp [shelfShows.content_eq, first.tokens_eq]
      | cons second others => simpa using ih

/-- Fewer sequences under way. -/
theorem kept_subset (commons : Commons σ ρ) {frames : List Frame} (suffix : frames <:+ commons.frames) :
    kept { commons with frames := frames } ⊆ commons.kept := by
  unfold kept
  apply List.append_subset.mpr
  constructor
  · exact List.subset_append_left _ _
  · apply List.Subset.trans _ (List.subset_append_right _ _)
    exact (suffix.sublist.filterMap _).subset

theorem Shows.fewer (shows : commons.Shows store machine) {frames : List Frame}
    {cuts : List Expansion.Frame} (suffix : frames <:+ commons.frames)
    (others : List.Forall₂ (Frame.Shows store) frames cuts) :
    Shows { commons with frames := frames } store { machine with frames := cuts } := by
  have busySuffix : (busy frames).Sublist (busy commons.frames) := suffix.sublist.map _
  refine ⟨shows.shelf, shows.state, shows.bridge, shows.library, others, ?_, ?_⟩
  · exact shows.distinct.sublist busySuffix
  · intro sequence mem
    obtain ⟨inside, free⟩ := shows.apart sequence (kept_subset commons suffix mem)
    exact ⟨inside, fun taken => free (busySuffix.subset taken)⟩

theorem Shows.fail (shows : commons.Shows store machine) (fault : Fault) :
    Move.Shows store frame outer (commons.fail fault) (machine.fail fault) := by
  have none := shows.fewer (List.nil_suffix) .nil
  have lengths := shows.frames.length_eq
  unfold Commons.fail Machine.fail
  simp only [getLast?_tokens shows.shelf shows.frames, lengths]
  have after : Shows
      { commons with
        state := { commons.state with depth := commons.state.depth - machine.frames.length }
        frames := [] } store
      { machine with
        state := { machine.state with depth := machine.state.depth - machine.frames.length }
        frames := [] } := by
    refine ⟨none.shelf, ?_, none.bridge, none.library, .nil, none.distinct, none.apart⟩
    rw [shows.state]
    rfl
  exact .failed after

theorem Shows.evaluate (shows : commons.Shows store machine) (code : String)
    {go : Commons σ ρ → String → Move σ ρ} {go' : Machine σ ρ → String → Expansion.Move σ ρ}
    (goes : ∀ output bridge, Move.Shows store frame outer
      (go (commons.heard code output bridge) output) (go' (machine.heard code output bridge) output)) :
    Move.Shows store frame outer (Commons.evaluate host commons code go)
      (Machine.evaluate host machine code go') := by
  unfold Commons.evaluate Machine.evaluate
  rw [shows.bridge]
  rcases host.bridge.evaluate code commons.bridge with ⟨fault | output, bridge⟩
  · have after : Shows { commons with bridge := bridge } store { machine with bridge := bridge } :=
      ⟨shows.shelf, shows.state, rfl, shows.library, shows.frames, shows.distinct, shows.apart⟩
    exact after.fail fault
  · exact goes output bridge

theorem Shows.busy_lt (shows : commons.Shows store machine) (mem : sequence ∈ busy commons.frames) :
    sequence < store.sequences.length := by
  obtain ⟨frame, frameMem, rfl⟩ := List.mem_map.mp mem
  exact sequence_lt_of_shows shows.frames frame frameMem

/-- The body of a loop under way is kept. -/
theorem Shows.body (shows : commons.Shows store machine) {frame : Frame} (mem : frame ∈ commons.frames)
    {body : SequenceId} (under : body ∈ frame.task.body?) :
    body < store.sequences.length ∧ body ∉ busy commons.frames :=
  shows.apart body (List.mem_append_right _ (List.mem_filterMap.mpr ⟨frame, mem, under⟩))

theorem Shows.block (shows : commons.Shows store machine) {entry : String × SequenceId}
    (mem : entry ∈ commons.blocks) :
    entry.2 < store.sequences.length ∧ entry.2 ∉ busy commons.frames :=
  shows.apart entry.2 (List.mem_append_left _ (List.mem_map_of_mem mem))

/-- The sequences of frames, and those that the bodies of their loops are copied from. -/
def resting (frames : List Frame) : List SequenceId :=
  busy frames ++ frames.filterMap (·.task.body?)

theorem sequence_mem_resting {frame : Frame} {frames : List Frame} (mem : frame ∈ frames) :
    frame.sequence ∈ resting frames :=
  List.mem_append_left _ (List.mem_map_of_mem mem)

theorem body_mem_resting {frame : Frame} {frames : List Frame} (mem : frame ∈ frames) {body : SequenceId}
    (under : body ∈ frame.task.body?) : body ∈ resting frames :=
  List.mem_append_right _ (List.mem_filterMap.mpr ⟨frame, mem, under⟩)

theorem Shows.resting_lt (shows : commons.Shows store machine) {sequence : SequenceId}
    (rests : sequence ∈ resting commons.frames) : sequence < store.sequences.length := by
  rcases List.mem_append.mp rests with isBusy | isBody
  · exact shows.busy_lt isBusy
  · obtain ⟨inner, mem, body⟩ := List.mem_filterMap.mp isBody
    exact (shows.body mem body).1

/-- The innermost sequence is none of those that rest. -/
theorem Shows.ne_of_resting (shows : commons.Shows store machine) {frame : Frame}
    (top : commons.frames = frame :: outer) {sequence : SequenceId} (rests : sequence ∈ resting outer) :
    sequence ≠ frame.sequence := by
  rintro rfl
  rcases List.mem_append.mp rests with isBusy | isBody
  · have distinct := shows.distinct
    rw [top, busy, List.map_cons, List.nodup_cons] at distinct
    exact distinct.1 isBusy
  · obtain ⟨inner, mem, body⟩ := List.mem_filterMap.mp isBody
    have free := (shows.body (top ▸ List.mem_cons_of_mem _ mem) body).2
    rw [top] at free
    exact free List.mem_cons_self

/-- The block of a name, read. -/
theorem Shows.get?_blocks (shows : commons.Shows store machine) (name : String) :
    machine.state.blocks.get? name = (commons.blocks.get? name).map store.tokens := by
  rw [shows.state]
  exact get?_readBlocks store commons.blocks name

section Innermost

variable {frame frame' : Frame} {cut cut' : Expansion.Frame} {cuts : List Expansion.Frame} {shelf : Shelf}
  {store' : Store}

/-- An edit of the innermost sequence is not seen in the others. -/
theorem Shows.goOn (shows : commons.Shows store machine) (frames : commons.frames = frame :: outer)
    (machineFrames : machine.frames = cut :: cuts) (shelfShows : shelf.Shows store')
    (keeps : store.Keeps store' frame.sequence) (same : frame'.sequence = frame.sequence)
    (inner : frame'.Shows store' cut')
    (bodies : ∀ body ∈ frame'.task.body?,
      body < store'.sequences.length ∧ body ∉ busy commons.frames) :
    Shows { commons with shelf := shelf, frames := frame' :: outer } store'
      { machine with frames := cut' :: cuts } := by
  have innermost : frame.sequence ∈ busy commons.frames := by
    rw [frames]
    exact List.mem_cons_self
  have busyEq : busy (frame' :: outer) = busy commons.frames := by
    rw [frames, busy, busy, List.map_cons, List.map_cons, same]
  have different {other : SequenceId} (free : other ∉ busy commons.frames) : other ≠ frame.sequence := by
    rintro rfl
    exact free innermost
  obtain ⟨_, others⟩ := List.forall₂_cons.mp (machineFrames ▸ frames ▸ shows.frames)
  have othersKept : List.Forall₂ (Frame.Shows store') outer cuts := by
    refine keep_frames others keeps (fun other mem => ?_) fun other mem body under => ?_
    · exact shows.ne_of_resting frames (sequence_mem_resting mem)
    · have rests := body_mem_resting mem under
      exact ⟨(shows.body (frames ▸ List.mem_cons_of_mem _ mem) under).1, shows.ne_of_resting frames rests⟩
  refine ⟨shelfShows, ?_, shows.bridge, shows.library, .cons inner othersKept, ?_, ?_⟩
  · rw [shows.state]
    unfold read
    rw [readBlocks_keep keeps]
    intro entry mem
    obtain ⟨inside, free⟩ := shows.block mem
    exact ⟨inside, different free⟩
  · rw [busyEq]
    exact shows.distinct
  · intro kept mem
    rw [busyEq]
    rcases List.mem_append.mp mem with block | body
    · obtain ⟨inside, free⟩ := shows.apart kept (List.mem_append_left _ block)
      exact ⟨inside.trans_le keeps.count, free⟩
    · obtain ⟨other, otherMem, under⟩ := List.mem_filterMap.mp body
      rcases List.mem_cons.mp otherMem with rfl | inOuter
      · exact bodies kept under
      · obtain ⟨inside, free⟩ := shows.body (by rw [frames]; exact List.mem_cons_of_mem _ inOuter) under
        exact ⟨inside.trans_le keeps.count, free⟩

end Innermost

/-! ## Beginning a sequence -/

theorem Frame.Stands.withTask {frame : Frame} {passed region ahead : List Node}
    (stands : frame.Stands store passed region ahead) (task : Task) :
    Frame.Stands store { frame with task := task } passed region ahead :=
  ⟨stands.inside, stands.nodes, stands.main, stands.lookahead, stands.resolved⟩

/-- The runs of a frame after an edit. -/
theorem Frame.placed_edited {frame : Frame} {shelf : Shelf} {spot : Spot}
    {passed region ahead : List Node} (memory : shelf.memory = spot.memory)
    (ends : shelf.ends frame.sequence = spot.ends)
    (placed : Walk.Frame.Placed ⟨spot.memory, spot.ends, frame.main, frame.lookahead, .inner⟩
      passed region ahead) :
    (frame.on shelf).Placed passed region ahead := by
  unfold Frame.on
  rw [memory, ends]
  exact placed

theorem Frame.Stands.placed {frame : Frame} {shelf : Shelf} {passed region ahead : List Node}
    (stands : frame.Stands store passed region ahead) (shows : shelf.Shows store) :
    (frame.on shelf).Placed passed region ahead := by
  have holds := shows.holds frame.sequence
  have fused := shows.fused frame.sequence
  rw [stands.nodes] at holds fused
  exact ⟨holds, stands.main, stands.lookahead, fused, stands.resolved⟩

theorem Frame.Stands.of_placed {frame : Frame} {shelf : Shelf} {passed region ahead : List Node}
    (shows : shelf.Shows store) (inside : frame.sequence < store.sequences.length)
    (placed : (frame.on shelf).Placed passed region ahead) :
    frame.Stands store passed region ahead := by
  refine ⟨inside, ?_, placed.main, placed.lookahead, placed.resolved⟩
  rw [← (shows.holds frame.sequence).nodesFrom_head]
  exact placed.holds.nodesFrom_head

/-- A new sequence is none of those that are there. -/
theorem Shows.make (shows : commons.Shows store machine) (tokens : List Token) :
    Shows { commons with shelf := (commons.shelf.make tokens).1 } (store.make tokens).1 machine := by
  have keeps := store.keeps_make tokens store.sequences.length
  have framesKept : List.Forall₂ (Frame.Shows (store.make tokens).1) commons.frames machine.frames := by
    refine keep_frames shows.frames keeps (fun frame mem => ?_) fun frame mem body under => ?_
    · exact (sequence_lt_of_shows shows.frames frame mem).ne
    · obtain ⟨inside, _⟩ := shows.body mem under
      exact ⟨inside, inside.ne⟩
  refine ⟨shows.shelf.make tokens, ?_, shows.bridge, shows.library, framesKept, shows.distinct, ?_⟩
  · rw [shows.state]
    unfold read
    rw [readBlocks_keep keeps]
    intro entry mem
    obtain ⟨inside, _⟩ := shows.block mem
    exact ⟨inside, inside.ne⟩
  · intro kept mem
    obtain ⟨inside, free⟩ := shows.apart kept mem
    exact ⟨inside.trans_le keeps.count, free⟩

/-- A new sequence is begun, with both cursors at its head. -/
theorem Shows.begin (shows : commons.Shows store machine) (tokens : List Token) (state : State) :
    let made := commons.shelf.make tokens
    let head := (made.1.start made.2).node?
    Shows
      { commons with
        shelf := made.1
        state := state
        frames := { sequence := made.2, main := head, lookahead := head } :: commons.frames }
      (store.make tokens).1
      { machine with
        state := { state with blocks := machine.state.blocks }
        frames := { ahead := Token.fused tokens } :: machine.frames } := by
  intro made head
  have shown := shows.make tokens
  have numberEq : made.2 = store.sequences.length := shows.shelf.count
  have atHead := (shown.shelf.holds made.2).head
  let frame : Frame := { sequence := made.2, main := head, lookahead := head }
  have stands : frame.Stands (store.make tokens).1 [] [] ((store.make tokens).1.nodes made.2) := by
    refine ⟨?_, rfl, atHead, atHead, by simp⟩
    rw [store.length_make tokens]
    exact numberEq ▸ Nat.lt_succ_self _
  have inner : frame.Shows (store.make tokens).1 { ahead := Token.fused tokens } := by
    rw [← store.tokens_make tokens, ← numberEq]
    exact .mk stands .resolve
  refine ⟨shown.shelf, ?_, shown.bridge, shown.library, .cons inner shown.frames, ?_, ?_⟩
  · rw [shown.state]
    rfl
  · exact List.nodup_cons.mpr ⟨fun taken => (shows.busy_lt taken).ne numberEq, shows.distinct⟩
  · intro kept mem
    obtain ⟨inside, free⟩ := shows.apart kept mem
    refine ⟨(shown.apart kept mem).1, fun taken => ?_⟩
    rcases List.mem_cons.mp taken with same | old
    · exact inside.ne (same.trans numberEq)
    · exact free old

/-- A new sequence is begun, unless a bound forbids it. -/
theorem Shows.enterNew (shows : commons.Shows store machine) (tokens : List Token) :
    Shows (enter host { commons with shelf := (commons.shelf.make tokens).1 }
        (commons.shelf.make tokens).2)
      (store.make tokens).1 (Machine.enter host machine (Token.fused tokens)) := by
  have made := shows.make tokens
  have depth : machine.state.depth = commons.state.depth := by rw [shows.state]; rfl
  have expansions : machine.state.expansions = commons.state.expansions := by rw [shows.state]; rfl
  unfold Commons.enter Machine.enter
  simp only [depth, expansions]
  split
  · exact made.noting .nestingLimit
  · split
    · have outermost := shows.begin tokens { commons.state with depth := 1 }
      rw [shows.state] at outermost ⊢
      exact outermost
    · split
      · exact made.noting .expansionLimit
      · have inside := shows.begin tokens { commons.state with
          depth := commons.state.depth + 1
          expansions := commons.state.expansions + 1 }
        rw [shows.state] at inside ⊢
        exact inside

theorem Shows.enterCopy (shows : commons.Shows store machine) (sequence : SequenceId) :
    (enterCopy host commons sequence).Shows (store.make (store.tokens sequence)).1
      (Machine.enter host machine (store.tokens sequence)) := by
  have entered := shows.enterNew host (store.tokens sequence)
  rw [shows.shelf.fused_tokens] at entered
  unfold Commons.enterCopy Shelf.copy
  rw [shows.shelf.content_eq]
  exact entered

theorem suffix_enter (commons : Commons σ ρ) (sequence : SequenceId) :
    commons.frames <:+ (enter host commons sequence).frames := by
  unfold Commons.enter
  simp only
  split
  · exact List.suffix_refl _
  · split
    · exact List.suffix_cons _ _
    · split
      · exact List.suffix_refl _
      · exact List.suffix_cons _ _

/-- A move that begins to process a copy. -/
theorem Shows.begins {frame frame' : Frame} (shows : commons.Shows store machine)
    (frames : commons.frames = frame' :: outer) (same : frame'.sequence = frame.sequence)
    (copied : SequenceId) :
    Move.Shows store frame outer (.next (Commons.enterCopy host commons copied))
      (.next (Machine.enter host machine (store.tokens copied))) := by
  refine .next (shows.enterCopy host copied) (store.keeps_make _ frame.sequence) (.stays same ?_)
  rw [← frames]
  exact suffix_enter host { commons with shelf := (commons.shelf.copy copied).1 }
    (commons.shelf.copy copied).2

end Commons

end Expansion

end Linework
