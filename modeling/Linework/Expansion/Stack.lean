import Linework.Expansion.Strict

/-!
# Runs on a bounded call stack

A sequence that is begun inside of another one is processed by a call from within the processing of that
one, so the calls that are open grow with the sequences under way. The limits of a run bound their number,
but are chosen without regard to the stack that the calls are kept on. Here the runs of the machine and of
the walk are given with that stack: a run whose open calls have outgrown it ends by a fault.

Only the calls that sequences under way keep open are counted. What a single move needs for its own work is
taken to be left aside when the size of a stack is given.
-/

namespace Linework.Expansion

/-- The calls that are kept open for a sequence under way: it is processed by a call inside of a call that
minds the limits, and what goes on in it, the invocation of a block for one, is a call in turn. -/
def callsPerSequence : Nat := 3

namespace Machine

variable {σ ρ : Type} (host : Host σ ρ)

/-- The calls that are open. -/
def calls (machine : Machine σ ρ) : Nat :=
  callsPerSequence * machine.frames.length

/-- Make at most `fuel` moves on a stack of so many calls. -/
def runOn (stack : Nat) : Nat → Machine σ ρ → Move σ ρ
  | 0, machine => .next machine
  | fuel + 1, machine =>
    if machine.calls ≤ stack then
      match step host machine with
      | .next machine => runOn stack fuel machine
      | ended => ended
    else machine.fail .stackOverflow

/-- Process a sequence from a given state on a stack of so many calls. -/
def processOn (stack fuel : Nat) (machine : Machine σ ρ) (tokens : List Token) : Move σ ρ :=
  let entered := enter host machine tokens
  if entered.frames.isEmpty then .finished entered tokens else runOn host stack fuel entered

end Machine

namespace Walk

variable {σ ρ : Type} (host : Host σ ρ)

/-- The calls that are open. -/
def calls (walk : Walk σ ρ) : Nat :=
  callsPerSequence * walk.frames.length

/-- Make at most `fuel` moves on a stack of so many calls. -/
def runOn (stack : Nat) : Nat → Walk σ ρ → Move σ ρ
  | 0, walk => .next walk
  | fuel + 1, walk =>
    if walk.calls ≤ stack then
      match step host walk with
      | .next walk => runOn stack fuel walk
      | ended => ended
    else walk.fail .stackOverflow

end Walk

namespace Strict

variable {σ ρ : Type} (host : Host σ ρ)

/-- Make at most `fuel` moves on a stack of so many calls. -/
def runOn (stack : Nat) : Nat → Walk σ ρ → Except Slip (Walk.Move σ ρ)
  | 0, walk => return .next walk
  | fuel + 1, walk =>
    if walk.calls ≤ stack then do
      match ← step host walk with
      | .next walk => runOn stack fuel walk
      | ended => return ended
    else return walk.fail .stackOverflow

end Strict

end Linework.Expansion
