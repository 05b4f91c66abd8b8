import Linework.Expansion.Desk
import Linework.Proofs.Assoc
import Mathlib.Data.Set.Insert

/-!
# What is kept for a repetition is out of reach

Those to whom commands were handed may change what they can reach, keep it, and build new things. They
cannot reach the copy that a desk keeps for the next repetition, since all of it was new when it was made.
So a desk recognizes what the machine does, whatever happens to the commands that it has handed on.
-/

namespace Linework.Expansion

/-! ## Heaps -/

namespace Heap

/-- From one heap to the other, nothing has changed that was there, but for what is at some addresses. -/
structure Spares (heap heap' : Heap) (touched : Set Nat) : Prop where
  fresh_le : heap.fresh ≤ heap'.fresh
  thing?_eq : ∀ address < heap.fresh, address ∉ touched → heap'.thing? address = heap.thing? address

/-- The lists of a mapping are lists, and all of it has been allocated. -/
structure Formed (heap : Heap) (address : Nat) : Prop where
  lists : ∀ entry ∈ heap.entries address, ∃ words, heap.thing? entry.2 = some (.values words)
  allocated : ∀ other ∈ heap.reach address, other < heap.fresh

/-- Whoever knows these addresses gets to know no others by looking there. -/
def Closed (heap : Heap) (known : Set Nat) : Prop :=
  ∀ address ∈ known, address < heap.fresh ∧
    ∀ thing ∈ heap.thing? address, ∀ other ∈ thing.inside, other ∈ known

variable {heap heap' heap'' : Heap} {touched known : Set Nat} {address target : Nat}

namespace Spares

theorem refl (heap : Heap) (touched : Set Nat) : heap.Spares heap touched :=
  ⟨Nat.le_refl _, fun _ _ _ => rfl⟩

theorem trans (earlier : heap.Spares heap' touched) (later : heap'.Spares heap'' touched) :
    heap.Spares heap'' touched := by
  refine ⟨Nat.le_trans earlier.fresh_le later.fresh_le, fun address old apart => ?_⟩
  rw [later.thing?_eq address (Nat.lt_of_lt_of_le old earlier.fresh_le) apart,
    earlier.thing?_eq address old apart]

theorem mono {touched' : Set Nat} (spares : heap.Spares heap' touched) (subset : touched ⊆ touched') :
    heap.Spares heap' touched' :=
  ⟨spares.fresh_le, fun address old apart => spares.thing?_eq address old (apart ∘ @subset address)⟩

end Spares

theorem entries_congr (same : heap'.thing? address = heap.thing? address) :
    heap'.entries address = heap.entries address := by
  rw [entries, same, entries]

theorem values_congr (same : heap'.thing? address = heap.thing? address) :
    heap'.values address = heap.values address := by
  rw [values, same, values]

theorem mem_reach_iff {other : Nat} :
    other ∈ heap.reach address ↔ other = address ∨ ∃ entry ∈ heap.entries address, entry.2 = other := by
  rw [reach, List.mem_cons, List.mem_map]

theorem mem_reach_of_mem_entries {entry : String × Nat} (mem : entry ∈ heap.entries address) :
    entry.2 ∈ heap.reach address :=
  mem_reach_iff.mpr (.inr ⟨entry, mem, rfl⟩)

namespace Formed

/-- What stands in a mapping of lists is within its reach. -/
theorem inside {thing : Thing} {other : Nat} (formed : heap.Formed address)
    (found : thing ∈ heap.thing? target) (reached : target ∈ heap.reach address)
    (mem : other ∈ thing.inside) : other ∈ heap.reach address := by
  rcases mem_reach_iff.mp reached with rfl | ⟨entry, entryMem, rfl⟩
  · cases thing with
    | values words => cases mem
    | mapping entries =>
        have entriesEq : heap.entries target = entries := by rw [Heap.entries, Option.mem_def.mp found]
        rw [reach, entriesEq]
        exact List.mem_cons_of_mem _ mem
  · obtain ⟨words, list⟩ := formed.lists entry entryMem
    obtain rfl := Option.mem_unique found list
    cases mem

variable (formed : heap.Formed address) (spares : heap.Spares heap' touched)
  (apart : ∀ other ∈ heap.reach address, other ∉ touched)
include formed spares apart

theorem thing?_eq {other : Nat} (reached : other ∈ heap.reach address) :
    heap'.thing? other = heap.thing? other :=
  spares.thing?_eq other (formed.allocated other reached) (apart other reached)

theorem entries_eq : heap'.entries address = heap.entries address :=
  entries_congr (formed.thing?_eq spares apart List.mem_cons_self)

theorem reach_eq : heap'.reach address = heap.reach address := by
  rw [reach, formed.entries_eq spares apart, reach]

/-- A mapping that is spared reads as before. -/
theorem arguments_eq : heap'.arguments address = heap.arguments address := by
  rw [Heap.arguments, formed.entries_eq spares apart]
  apply List.map_congr_left
  intro entry mem
  rw [values_congr (formed.thing?_eq spares apart (mem_reach_of_mem_entries mem))]

theorem of_spares : heap'.Formed address := by
  constructor
  · rw [formed.entries_eq spares apart]
    intro entry mem
    rw [formed.thing?_eq spares apart (mem_reach_of_mem_entries mem)]
    exact formed.lists entry mem
  · rw [formed.reach_eq spares apart]
    exact fun other reached => Nat.lt_of_lt_of_le (formed.allocated other reached) spares.fresh_le

end Formed

/-- A mapping stays as it is when only new things are put into the heap. -/
theorem Formed.of_grown (formed : heap.Formed address) (grown : heap.Spares heap' ∅) :
    heap'.Formed address ∧ heap'.arguments address = heap.arguments address ∧
      heap'.reach address = heap.reach address := by
  have apart : ∀ other ∈ heap.reach address, other ∉ (∅ : Set Nat) := fun _ _ => Set.notMem_empty _
  exact ⟨formed.of_spares grown apart, formed.arguments_eq grown apart, formed.reach_eq grown apart⟩

theorem Closed.of_spares (closed : heap.Closed known) (spares : heap.Spares heap' touched)
    (apart : ∀ address ∈ known, address ∉ touched) : heap'.Closed known := by
  intro address mem
  obtain ⟨old, inside⟩ := closed address mem
  refine ⟨Nat.lt_of_lt_of_le old spares.fresh_le, ?_⟩
  rwa [spares.thing?_eq address old (apart address mem)]

theorem Closed.of_grown (closed : heap.Closed known) (grown : heap.Spares heap' ∅) :
    heap'.Closed known :=
  closed.of_spares grown fun _ _ => Set.notMem_empty _

/-! ### New mappings -/

theorem spares_allocate (heap : Heap) (thing : Thing) : heap.Spares (heap.allocate thing).1 ∅ :=
  ⟨Nat.le_succ _, fun _ old _ => if_neg (Nat.ne_of_lt old)⟩

theorem thing?_allocate (heap : Heap) (thing : Thing) :
    (heap.allocate thing).1.thing? heap.fresh = some thing :=
  if_pos rfl

/-- There is a list of values at an address that was still to be given. -/
structure IsNewList (heap heap' : Heap) (address : Nat) : Prop where
  fresh_le : heap.fresh ≤ address
  lt_fresh : address < heap'.fresh
  list : ∃ words, heap'.thing? address = some (.values words)

theorem storeValues_stores (heap : Heap) (arguments : Arguments) :
    heap.Spares (heap.storeValues arguments).1 ∅ ∧
      (∀ entry ∈ (heap.storeValues arguments).2,
        heap.IsNewList (heap.storeValues arguments).1 entry.2) ∧
      (heap.storeValues arguments).2.map
        (fun entry => (entry.1, (heap.storeValues arguments).1.values entry.2)) = arguments := by
  induction arguments generalizing heap with
  | nil => exact ⟨.refl _ _, nofun, rfl⟩
  | cons argument rest ih =>
      obtain ⟨flag, words⟩ := argument
      obtain ⟨spares, new, read⟩ := ih (heap.allocate (.values words)).1
      have list : ((heap.allocate (.values words)).1.storeValues rest).1.thing? heap.fresh =
          some (.values words) := by
        rw [spares.thing?_eq _ (Nat.lt_succ_self _) (Set.notMem_empty _), thing?_allocate]
      refine ⟨(spares_allocate heap _).trans spares, List.forall_mem_cons.mpr ⟨?_, ?_⟩, ?_⟩
      · exact ⟨Nat.le_refl _, spares.fresh_le, words, list⟩
      · intro entry mem
        exact { new entry mem with fresh_le := Nat.le_of_succ_le (new entry mem).fresh_le }
      · rw [storeValues, List.map_cons, read]
        simp only [Heap.allocate] at list ⊢
        rw [values, list]

/-- A heap with a new mapping that reads as the arguments. -/
structure Stores (heap heap' : Heap) (address : Nat) (arguments : Arguments) : Prop where
  spares : heap.Spares heap' ∅
  formed : heap'.Formed address
  arguments_eq : heap'.arguments address = arguments
  fresh_le : ∀ other ∈ heap'.reach address, heap.fresh ≤ other

theorem stores_store (heap : Heap) (arguments : Arguments) :
    heap.Stores (heap.store arguments).1 (heap.store arguments).2 arguments := by
  obtain ⟨spares, new, read⟩ := heap.storeValues_stores arguments
  rw [store]
  generalize heap.storeValues arguments = stored at spares new read
  obtain ⟨heap', entries⟩ := stored
  have later := heap'.spares_allocate (.mapping entries)
  have entriesEq : (heap'.allocate (.mapping entries)).1.entries heap'.fresh = entries := by
    rw [Heap.entries, thing?_allocate]
  have kept : ∀ entry ∈ entries,
      (heap'.allocate (.mapping entries)).1.thing? entry.2 = heap'.thing? entry.2 :=
    fun entry mem => later.thing?_eq _ (new entry mem).lt_fresh (Set.notMem_empty _)
  have reached : ∀ other ∈ (heap'.allocate (.mapping entries)).1.reach heap'.fresh,
      heap.fresh ≤ other ∧ other ≤ heap'.fresh := by
    intro other reached
    rw [mem_reach_iff, entriesEq] at reached
    rcases reached with rfl | ⟨entry, mem, rfl⟩
    · exact ⟨spares.fresh_le, Nat.le_refl _⟩
    · exact ⟨(new entry mem).fresh_le, Nat.le_of_lt (new entry mem).lt_fresh⟩
  constructor
  · exact spares.trans later
  · constructor
    · change ∀ entry ∈ (heap'.allocate (.mapping entries)).1.entries heap'.fresh, _
      rw [entriesEq]
      intro entry mem
      rw [kept entry mem]
      exact (new entry mem).list
    · exact fun other mem => Nat.lt_succ_of_le (reached other mem).2
  · change (heap'.allocate (.mapping entries)).1.arguments heap'.fresh = arguments
    rw [Heap.arguments, entriesEq, ← read]
    exact List.map_congr_left fun entry mem => by rw [values_congr (kept entry mem)]
  · exact fun other mem => (reached other mem).1

/-! ### Changed mappings -/

/-- A heap in which a mapping reads as other arguments, with nothing else changed that was there. -/
structure Changes (heap heap' : Heap) (target : Nat) (arguments : Arguments) : Prop where
  spares : heap.Spares heap' {target}
  formed : heap'.Formed target
  arguments_eq : heap'.arguments target = arguments
  inside : ∀ other ∈ heap'.reach target, other ∈ heap.reach target ∨ heap.fresh ≤ other

theorem Changes.refl (formed : heap.Formed target) :
    heap.Changes heap target (heap.arguments target) :=
  ⟨.refl _ _, formed, rfl, fun _ mem => .inl mem⟩

theorem Changes.trans {first second : Arguments} (earlier : heap.Changes heap' target first)
    (later : heap'.Changes heap'' target second) : heap.Changes heap'' target second := by
  constructor
  · exact earlier.spares.trans later.spares
  · exact later.formed
  · exact later.arguments_eq
  · intro other mem
    rcases later.inside other mem with old | new
    · exact earlier.inside other old
    · exact .inr (Nat.le_trans earlier.spares.fresh_le new)

theorem spares_write (heap : Heap) (address : Nat) (thing : Thing) :
    heap.Spares (heap.write address thing) {address} :=
  ⟨Nat.le_refl _, fun _ _ apart => if_neg apart⟩

/-- A mapping of lists is none of its lists. -/
theorem Formed.ne_of_mem_entries {entry : String × Nat} (formed : heap.Formed target)
    (mem : entry ∈ heap.entries target) : entry.2 ≠ target := by
  intro same
  obtain ⟨words, list⟩ := formed.lists entry mem
  rw [Heap.entries, ← same, list] at mem
  cases mem

section Assign

variable (formed : heap.Formed target) (flag : String) (words : List String)
include formed

theorem Formed.entries_assign :
    (heap.assign target flag words).entries target = (heap.entries target).put flag heap.fresh := by
  have old : target < heap.fresh := formed.allocated target List.mem_cons_self
  rw [← entries_congr ((heap.spares_allocate (.values words)).thing?_eq target old (Set.notMem_empty _))]
  simp [assign, write, Heap.entries, Heap.allocate]

theorem Formed.thing?_assign :
    (heap.assign target flag words).thing? heap.fresh = some (.values words) := by
  have apart : heap.fresh ∉ ({target} : Set Nat) :=
    Nat.ne_of_gt (formed.allocated target List.mem_cons_self)
  exact ((spares_write _ target _).thing?_eq _ (Nat.lt_succ_self _) apart).trans (thing?_allocate _ _)

omit formed in
theorem spares_assign (heap : Heap) (target : Nat) : heap.Spares (heap.assign target flag words) {target} :=
  ((heap.spares_allocate (.values words)).mono (Set.empty_subset _)).trans (spares_write _ target _)

/-- A flag is given new values, and those of the others stay where they are. -/
theorem Formed.reach_assign {other : Nat}
    (reached : other ∈ (heap.assign target flag words).reach target) :
    other ∈ heap.reach target ∨ other = heap.fresh := by
  rw [mem_reach_iff, formed.entries_assign] at reached
  rcases reached with rfl | ⟨entry, mem, rfl⟩
  · exact .inl List.mem_cons_self
  · exact (Assoc.mem_put mem).imp mem_reach_of_mem_entries fun new => by rw [new]

theorem Formed.changes_assign :
    heap.Changes (heap.assign target flag words) target
      (Assoc.put (heap.arguments target) flag words) := by
  have spares := heap.spares_assign flag words target
  have new := formed.thing?_assign flag words
  have kept : ∀ entry ∈ heap.entries target,
      (heap.assign target flag words).thing? entry.2 = heap.thing? entry.2 :=
    fun entry mem => spares.thing?_eq _ (formed.allocated _ (mem_reach_of_mem_entries mem))
      (formed.ne_of_mem_entries mem)
  constructor
  · exact spares
  · constructor
    · rw [formed.entries_assign]
      intro entry mem
      rcases Assoc.mem_put mem with mem | rfl
      · rw [kept entry mem]
        exact formed.lists entry mem
      · exact ⟨words, new⟩
    · intro other mem
      rcases formed.reach_assign flag words mem with mem | rfl
      · exact Nat.lt_of_lt_of_le (formed.allocated other mem) spares.fresh_le
      · exact Nat.lt_succ_self _
  · have newValues : (heap.assign target flag words).values heap.fresh = words := by rw [values, new]
    rw [Heap.arguments, formed.entries_assign, Assoc.map_put, newValues]
    congr 1
    exact List.map_congr_left fun entry mem => by rw [values_congr (kept entry mem)]
  · intro other mem
    exact (formed.reach_assign flag words mem).imp_right fun same => Nat.le_of_eq same.symm

end Assign

theorem Formed.changes_overlay (formed : heap.Formed target) (source : Nat) :
    heap.Changes (heap.overlay target source) target
      (Assoc.update (heap.arguments target) (heap.arguments source)) := by
  rw [overlay, Assoc.update]
  generalize heap.arguments source = others
  induction others generalizing heap with
  | nil => exact .refl formed
  | cons entry rest ih =>
      have first := formed.changes_assign entry.1 entry.2
      have others := ih first.formed
      rw [first.arguments_eq] at others
      exact first.trans others

theorem stores_snapshot (heap : Heap) (address : Nat) :
    heap.Stores (heap.snapshot address).1 (heap.snapshot address).2
      ((heap.arguments address).filter (·.1 != Command.idFlag)) :=
  heap.stores_store _

end Heap

/-! ## Desks -/

namespace Desk

open Heap

/-- What is kept on a desk is out of reach of those who know some addresses. -/
structure Sound (desk : Desk) (known : Set Nat) : Prop where
  closed : desk.heap.Closed known
  formed : ∀ last ∈ desk.previous, desk.heap.Formed last.2
  hidden : ∀ last ∈ desk.previous, ∀ address ∈ desk.heap.reach last.2, address ∉ known

/-- Those who knew some addresses have changed what is there, and may have built new things. -/
structure Meddled (heap : Heap) (known : Set Nat) (heap' : Heap)
    (known' : Set Nat) : Prop where
  spares : heap.Spares heap' known
  closed : heap'.Closed known'
  learnt : ∀ address ∈ known', address ∈ known ∨ heap.fresh ≤ address

variable {desk desk' : Desk} {known known' : Set Nat}

/-- Those who know an address may put there what holds no address but those that they know. -/
theorem meddled_write {heap : Heap} {address : Nat} (closed : heap.Closed known)
    (mem : address ∈ known) (thing : Thing) (inside : ∀ other ∈ thing.inside, other ∈ known) :
    Meddled heap known (heap.write address thing) known := by
  refine ⟨(spares_write heap address thing).mono (Set.singleton_subset_iff.mpr mem),
    fun other otherMem => ⟨(closed other otherMem).1, fun found isThere => ?_⟩, fun _ => .inl⟩
  by_cases here : other = address
  · obtain rfl : thing = found := by simpa [write, here] using isThere
    exact inside
  · exact (closed other otherMem).2 found (by simpa [write, here] using isThere)

/-- Whatever is done by those who cannot reach what is kept on a desk, it stays as it is. -/
theorem Sound.meddle {heap' : Heap} (sound : desk.Sound known)
    (meddled : Meddled desk.heap known heap' known') :
    Sound ⟨heap', desk.previous⟩ known' ∧ command? ⟨heap', desk.previous⟩ = desk.command? := by
  have reach {last : String × Nat} (isLast : last ∈ desk.previous) :=
    (sound.formed last isLast).reach_eq meddled.spares (sound.hidden last isLast)
  constructor
  · constructor
    · exact meddled.closed
    · intro last isLast
      exact (sound.formed last isLast).of_spares meddled.spares (sound.hidden last isLast)
    · intro last isLast address reached learnt
      rw [reach isLast] at reached
      rcases meddled.learnt address learnt with known | new
      · exact sound.hidden last isLast address reached known
      · exact Nat.not_lt_of_le new ((sound.formed last isLast).allocated address reached)
  · rw [command?, command?]
    cases kept : desk.previous with
    | none => rfl
    | some last =>
        have same := (sound.formed last kept).arguments_eq meddled.spares (sound.hidden last kept)
        simp only [Option.map_some, same]

/-- A desk has handed on a command whose mapping is at an address, and has kept its copy out of reach of
those who know the command. -/
structure Yields (known : Set Nat) (command : Command) (address : Nat) (desk' : Desk) : Prop where
  arguments_eq : desk'.heap.arguments address = command.arguments
  command?_eq : desk'.command? = some command.snapshot
  sound : desk'.Sound (known ∪ {other | other ∈ desk'.heap.reach address})

theorem yields_handOn {heap : Heap} {address : Nat} (closed : heap.Closed known)
    (formed : heap.Formed address) (name : String) :
    Yields known ⟨name, heap.arguments address⟩ address (handOn heap name address).2 := by
  have stores := heap.stores_snapshot address
  have closed' := closed.of_grown stores.spares
  obtain ⟨formed', argumentsEq, reachEq⟩ := formed.of_grown stores.spares
  constructor
  · exact argumentsEq
  · exact congrArg (fun arguments => some (Command.mk name arguments)) stores.arguments_eq
  · constructor
    · rintro other (old | reached)
      · obtain ⟨allocated, inside⟩ := closed' other old
        exact ⟨allocated, fun thing found inner mem => .inl (inside thing found inner mem)⟩
      · exact ⟨formed'.allocated other reached,
          fun thing found inner mem => .inr (formed'.inside found reached mem)⟩
    · rintro last ⟨⟩
      exact stores.formed
    · -- All of the copy is newer than what was known or is handed on.
      rintro last ⟨⟩ other copied (old | reached)
      · exact Nat.not_lt_of_le (stores.fresh_le other copied) (closed other old).1
      · have old : other ∈ heap.reach address := reachEq ▸ reached
        exact Nat.not_lt_of_le (stores.fresh_le other copied) (formed.allocated other old)

variable {σ ρ : Type} (host : Host σ ρ)

theorem Sound.bindNew (sound : desk.Sound known) {name : String} {schema : Schema}
    (schemaEq : Machine.schemaOf host name = .ok schema) (words : List String) :
    ∃ address desk', desk.bindNew host name words = .ok (some (name, address), desk') ∧
      Yields known ⟨name, Command.bind schema words⟩ address desk' := by
  have stores := desk.heap.stores_store (Command.bind schema words)
  have yields := yields_handOn (sound.closed.of_grown stores.spares) stores.formed name
  rw [stores.arguments_eq] at yields
  refine ⟨_, _, ?_, yields⟩
  simp only [Desk.bindNew, schemaEq]
  rfl

theorem Sound.bindAgain (sound : desk.Sound known) {last : String × Nat} (isLast : last ∈ desk.previous)
    {schema : Schema} (schemaEq : Machine.schemaOf host last.1 = .ok schema) (words : List String) :
    ∃ desk', desk.bindAgain host last.1 last.2 words = .ok (some last, desk') ∧
      Yields known ⟨last.1, (desk.heap.arguments last.2).update (Command.bind schema words)⟩ last.2
        desk' := by
  have stores := desk.heap.stores_store (Command.bind schema words)
  obtain ⟨formed, argumentsEq, _⟩ := (sound.formed last isLast).of_grown stores.spares
  have changes := formed.changes_overlay (desk.heap.store (Command.bind schema words)).2
  have closed := (sound.closed.of_grown stores.spares).of_spares changes.spares
    fun address learnt same => sound.hidden last isLast last.2 List.mem_cons_self (same ▸ learnt)
  have yields := yields_handOn closed changes.formed last.1
  rw [changes.arguments_eq, argumentsEq, stores.arguments_eq] at yields
  refine ⟨_, ?_, yields⟩
  simp only [Desk.bindAgain, schemaEq]
  rfl

/-- What a desk answers agrees with what the machine recognizes. -/
inductive Agrees (desk : Desk) (known : Set Nat) :
    Except Fault (Option Command) → Except Fault (Option (String × Nat) × Desk) → Prop
  | fault (fault : Fault) : Agrees desk known (.error fault) (.error fault)
  | nothing : Agrees desk known (.ok none) (.ok (none, desk))
  | command {command : Command} {address : Nat} {desk' : Desk} : Yields known command address desk' →
      Agrees desk known (.ok (some command)) (.ok (some (command.name, address), desk'))

theorem Sound.agrees_bindNew (sound : desk.Sound known) (name : String) (words : List String) :
    desk.Agrees known (do return some ⟨name, Command.bind (← Machine.schemaOf host name) words⟩)
      (desk.bindNew host name words) := by
  cases schemaEq : Machine.schemaOf host name with
  | error fault =>
      simp only [Desk.bindNew, schemaEq]
      exact .fault fault
  | ok schema =>
      obtain ⟨address, desk', bound, yields⟩ := sound.bindNew host schemaEq words
      rw [bound]
      exact .command yields

theorem Sound.recognize (sound : desk.Sound known) (tokens : List Token) :
    desk.Agrees known (Machine.recognize host desk.command? tokens) (desk.recognize host tokens) := by
  rw [Machine.recognize, Desk.recognize]
  cases Command.read? tokens with
  | none => exact .nothing
  | some read =>
      obtain ⟨name, words⟩ := read
      cases kept : desk.previous with
      | none =>
          simp only [command?, kept, Option.map_none]
          exact sound.agrees_bindNew host name words
      | some last =>
          simp only [command?, kept, Option.map_some]
          split
          · cases schemaEq : Machine.schemaOf host last.1 with
            | error fault =>
                simp only [Desk.bindAgain, schemaEq]
                exact .fault fault
            | ok schema =>
                obtain ⟨desk', bound, yields⟩ := sound.bindAgain host kept schemaEq words
                rw [bound]
                exact .command yields
          · exact sound.agrees_bindNew host name words

variable {host} {tokens : List Token}

theorem Sound.exists_handed {command : Command} (sound : desk.Sound known)
    (recognized : Machine.recognize host desk.command? tokens = .ok (some command)) :
    ∃ address desk', desk.recognize host tokens = .ok (some (command.name, address), desk') ∧
      Yields known command address desk' := by
  have agrees := sound.recognize host tokens
  rw [recognized] at agrees
  generalize desk.recognize host tokens = answer at agrees
  cases agrees with
  | command yields => exact ⟨_, _, rfl, yields⟩

theorem Sound.exists_recognized {name : String} {address : Nat} (sound : desk.Sound known)
    (handed : desk.recognize host tokens = .ok (some (name, address), desk')) :
    ∃ command, Machine.recognize host desk.command? tokens = .ok (some command) ∧
      Yields known command address desk' := by
  have agrees := sound.recognize host tokens
  rw [handed] at agrees
  generalize Machine.recognize host desk.command? tokens = outcome at agrees
  cases agrees with
  | command yields => exact ⟨_, rfl, yields⟩

theorem Sound.eq_of_passed (sound : desk.Sound known)
    (passed : desk.recognize host tokens = .ok (none, desk')) : desk' = desk := by
  have agrees := sound.recognize host tokens
  rw [passed] at agrees
  generalize Machine.recognize host desk.command? tokens = outcome at agrees
  cases agrees
  rfl

end Desk

end Linework.Expansion
