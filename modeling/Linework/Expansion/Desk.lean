import Linework.Expansion.Machine

/-!
# Commands that are shared

A command is handed to its handler as it is, not as a copy: the handler may change the mapping of flags
and the lists of values that it was given, and may do so long after. On a `Desk` commands are recognized
as by the machine, but mappings and lists are things in a heap, a repetition overlays the mapping of the
previous command in place, and what is kept for the next repetition is a copy of the mapping and of each of
its lists.
-/

namespace Linework.Expansion

/-- What is kept at an address. -/
inductive Thing where
  | values (words : List String)
  /-- Flags, with the addresses of their values. -/
  | mapping (entries : Assoc String Nat)

/-- The addresses that stand in a thing. -/
def Thing.inside : Thing → List Nat
  | .values _ => []
  | .mapping entries => entries.map (·.2)

/-- The things, by their addresses. -/
structure Heap where
  thing? : Nat → Option Thing := fun _ => none
  /-- The next address to give. -/
  fresh : Nat := 0

namespace Heap

/-- The values at an address. -/
def values (heap : Heap) (address : Nat) : List String :=
  match heap.thing? address with
  | some (.values words) => words
  | _ => []

/-- The entries of the mapping at an address. -/
def entries (heap : Heap) (address : Nat) : Assoc String Nat :=
  match heap.thing? address with
  | some (.mapping entries) => entries
  | _ => []

/-- The mapping at an address with its lists of values, as arguments. -/
def arguments (heap : Heap) (address : Nat) : Arguments :=
  (heap.entries address).map fun entry => (entry.1, heap.values entry.2)

/-- The addresses of a mapping and its lists of values. -/
def reach (heap : Heap) (address : Nat) : List Nat :=
  address :: (heap.entries address).map (·.2)

/-- Put a new thing into the heap. -/
def allocate (heap : Heap) (thing : Thing) : Heap × Nat :=
  ({ thing? := fun other => if other = heap.fresh then some thing else heap.thing? other
     fresh := heap.fresh + 1 }, heap.fresh)

/-- Keep another thing at an address. -/
def write (heap : Heap) (address : Nat) (thing : Thing) : Heap :=
  { heap with thing? := fun other => if other = address then some thing else heap.thing? other }

/-- A new list for the values of each flag. -/
def storeValues (heap : Heap) : Arguments → Heap × Assoc String Nat
  | [] => (heap, [])
  | (flag, words) :: rest =>
    let (heap, address) := heap.allocate (.values words)
    let (heap, entries) := heap.storeValues rest
    (heap, (flag, address) :: entries)

/-- A new mapping with new lists. -/
def store (heap : Heap) (arguments : Arguments) : Heap × Nat :=
  let (heap, entries) := heap.storeValues arguments
  heap.allocate (.mapping entries)

/-- Give a flag of a mapping a new list of values. -/
def assign (heap : Heap) (target : Nat) (flag : String) (words : List String) : Heap :=
  let (heap, address) := heap.allocate (.values words)
  heap.write target (.mapping ((heap.entries target).put flag address))

/-- Overlay the mapping at `target` by copies of the values of another one. -/
def overlay (heap : Heap) (target source : Nat) : Heap :=
  (heap.arguments source).foldl (fun heap entry => heap.assign target entry.1 entry.2) heap

/-- A copy of a mapping and its lists, without the identifier. -/
def snapshot (heap : Heap) (address : Nat) : Heap × Nat :=
  heap.store ((heap.arguments address).filter (·.1 != Command.idFlag))

end Heap

/-- The heap, and the name and the mapping of the previous command. -/
structure Desk where
  heap : Heap := {}
  previous : Option (String × Nat) := none

namespace Desk

/-- The previous command, as it can be read from the heap. -/
def command? (desk : Desk) : Option Command :=
  desk.previous.map fun last => ⟨last.1, desk.heap.arguments last.2⟩

/-- Hand a command on, and keep a copy of it. -/
def handOn (heap : Heap) (name : String) (address : Nat) : Option (String × Nat) × Desk :=
  let (heap, copy) := heap.snapshot address
  (some (name, address), ⟨heap, some (name, copy)⟩)

variable {σ ρ : Type} (host : Host σ ρ)

/-- A command that is no repetition. -/
def bindNew (desk : Desk) (name : String) (words : List String) :
    Except Fault (Option (String × Nat) × Desk) := do
  let (heap, address) := desk.heap.store (Command.bind (← Machine.schemaOf host name) words)
  return handOn heap name address

/-- A repetition of the command of a name whose mapping is at an address. -/
def bindAgain (desk : Desk) (name : String) (address : Nat) (words : List String) :
    Except Fault (Option (String × Nat) × Desk) := do
  let (heap, part) := desk.heap.store (Command.bind (← Machine.schemaOf host name) words)
  return handOn (heap.overlay address part) name address

/-- The name and the mapping of the command that the tokens of a region make, if they have a name. -/
def recognize (desk : Desk) (tokens : List Token) :
    Except Fault (Option (String × Nat) × Desk) :=
  match Command.read? tokens with
  | none => .ok (none, desk)
  | some (name, words) =>
    match desk.previous with
    | some (last, address) =>
      if name == "." then desk.bindAgain host last address words
      else desk.bindNew host name words
    | none => desk.bindNew host name words

end Desk

end Linework.Expansion
