import Linework.Token

/-!
# A position in a sequence

A `Focus` is a sequence cut in two at a position: the items before it, nearest first, and the items
from it on. The editing operations work at the position and keep the sequence fused; each says by its
result where the position ends up, namely at the first item of `after`.
-/

namespace Linework

/-- A sequence and a position in it. The position stands at the head of `after`, or at the end of the
sequence when `after` is empty. -/
structure Focus (α : Type) where
  /-- The items before the position, nearest first. -/
  before : List α
  /-- The items from the position on. -/
  after : List α

namespace Focus

variable {α : Type}

/-- The whole sequence. -/
def toList (focus : Focus α) : List α :=
  focus.before.reverse ++ focus.after

/-- The start of a sequence. -/
def ofList (items : List α) : Focus α :=
  ⟨[], items⟩

/-- Whether the position is at the end of the sequence. -/
def atEnd (focus : Focus α) : Bool :=
  focus.after.isEmpty

/-- The next position. -/
def advance (focus : Focus α) : Focus α :=
  match focus.after with
  | [] => focus
  | item :: rest => ⟨item :: focus.before, rest⟩

/-- Change the item at the position. -/
def modify (f : α → α) (focus : Focus α) : Focus α :=
  match focus.after with
  | [] => focus
  | item :: rest => ⟨focus.before, f item :: rest⟩

variable [Fusible α]

/-- Fuse the item at the position into the one before it; the position moves past the fused item. -/
def seam (focus : Focus α) : Focus α :=
  match focus.before, focus.after with
  | last :: earlier, item :: rest =>
    match fuse? last item with
    | some fused => ⟨fused :: earlier, rest⟩
    | none => focus
  | _, _ => focus

/-- Remove the first `count` items from the position on. -/
def erase (count : Nat) (focus : Focus α) : Focus α :=
  if focus.atEnd then focus else seam ⟨focus.before, focus.after.drop count⟩

/-- Remove the item at the position. -/
def remove (focus : Focus α) : Focus α :=
  focus.erase 1

/-- Replace the item at the position by a sequence. -/
def splice (items : List α) (focus : Focus α) : Focus α :=
  match focus.after with
  | [] => focus
  | _ :: rest => seam ⟨focus.before, join items rest⟩

end Focus

end Linework
