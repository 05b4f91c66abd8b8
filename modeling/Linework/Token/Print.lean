import Linework.Token
import Linework.Text.Quoted

/-!
# Tokens as text

Two forms of a sequence of tokens: source text that reads back as the same tokens, and a listing with
the kind of each token for a human reader.
-/

namespace Linework

namespace Token

/-- A token on its own, as source. -/
def print (token : Token) : String :=
  match token.kind with
  | .group => "(" ++ token.text ++ ")"
  | .string => "\"" ++ token.text ++ "\""
  | .script | .groupScript => "\x7b" ++ token.text ++ "\x7d"
  | .text | .boundary => token.text

/-- What the printer is inside of. -/
inductive Place where
  /-- Outside of every group. -/
  | outside
  /-- Inside a group, after one of its pieces. -/
  | afterPiece
  /-- Inside a group, after one of its scripts, so that a piece of the group may follow. -/
  | afterScript
deriving DecidableEq

/-- The parenthesis that closes the group one is inside of. -/
def Place.closing (place : Place) : String :=
  if place = .outside then "" else ")"

/-- The tokens that follow at a place, as source. -/
def printFrom : Place → List Token → String
  | place, [] => place.closing
  | place, token :: rest =>
    match place, token.kind with
    | .afterScript, .group => token.text ++ printFrom .afterPiece rest
    | _, .group => place.closing ++ "(" ++ token.text ++ printFrom .afterPiece rest
    | .outside, _ => token.print ++ printFrom .outside rest
    | _, .groupScript => token.print ++ printFrom .afterScript rest
    | _, _ => ")" ++ token.print ++ printFrom .outside rest

/-- A sequence of tokens as source. A group and the scripts embedded in it are one parenthesis. -/
def printAll (tokens : List Token) : String :=
  printFrom .outside tokens

end Token

/-- The name of a kind in listings. -/
def Kind.label : Kind → String
  | .text => "TEXT"
  | .boundary => "BOUNDARY"
  | .group => "GROUP"
  | .string => "STRING"
  | .script => "SCRIPT"
  | .groupScript => "GROUP_SCRIPT"

/-- The word for a kind in data. -/
def Kind.word : Kind → String
  | .text => "text"
  | .boundary => "boundary"
  | .group => "group"
  | .string => "string"
  | .script => "script"
  | .groupScript => "group-script"

namespace Token

open Linework.Text

/-- One token as a listing shows it. -/
def describe (token : Token) : String :=
  "Token(" ++ token.kind.label ++ ", " ++ quoted token.text ++ ")"

/-- A sequence of tokens as a listing, one token a line. -/
def list (tokens : List Token) : String :=
  let line (token : Token) : String :=
    "\t\x7bkind:" ++ token.kind.label ++ ", text:" ++ quoted token.text ++ "\x7d"
  "TokenList [\n" ++ "\n".intercalate (tokens.map line) ++ (if tokens.isEmpty then "]" else "\n]")

end Token

end Linework
