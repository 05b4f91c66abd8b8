/-!
# Tokens

A token is a classified piece of source text. Neighbouring pieces of plain text, and neighbouring
separators, are one token: they *fuse*. Everything that holds a sequence of tokens keeps it fused.
-/

namespace Linework

/-- What a token stands for. -/
inductive Kind where
  /-- Plain words of a command. -/
  | text
  /-- Separators between commands: line breaks and semicolons. -/
  | boundary
  /-- A parenthesised argument, or a piece of one between embedded scripts. -/
  | group
  /-- A quoted argument. -/
  | string
  /-- A script whose output takes its place in the source. -/
  | script
  /-- A script embedded in a group, whose output becomes part of the group. -/
  | groupScript
deriving DecidableEq, Repr

/-- The kinds of which two neighbours are one token. -/
def Kind.fuses : Kind → Bool
  | .text | .boundary => true
  | _ => false

/-- A classified piece of source text. -/
structure Token where
  kind : Kind
  text : String
deriving DecidableEq, Repr

/-- Items of which two neighbours may be one. -/
class Fusible (α : Type) where
  /-- The single item that two neighbours are, if they are one. -/
  fuse? : α → α → Option α

export Fusible (fuse?)

instance : Fusible Token where
  fuse? first second :=
    if first.kind = second.kind ∧ first.kind.fuses then
      some ⟨first.kind, first.text ++ second.text⟩
    else none

/-- Put an item before a sequence, as one with the sequence's head where the two fuse. -/
def glue {α : Type} [Fusible α] (item : α) : List α → List α
  | [] => [item]
  | next :: rest =>
    match fuse? item next with
    | some fused => fused :: rest
    | none => item :: next :: rest

/-- Two sequences in a row, fused at the seam. -/
def join {α : Type} [Fusible α] : List α → List α → List α
  | [], second => second
  | [last], second => glue last second
  | item :: next :: rest, second => item :: join (next :: rest) second

namespace Token

/-- A sequence built by appending tokens one after the other. -/
def fused (tokens : List Token) : List Token :=
  tokens.foldl (fun sequence token => join sequence [token]) []

/-- Whether the token separates commands. -/
def isBoundary (token : Token) : Bool :=
  token.kind == .boundary

end Token

end Linework
