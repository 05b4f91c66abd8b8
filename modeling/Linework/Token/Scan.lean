import Linework.Token
import Linework.Token.Body

/-!
# From source to tokens

`tokenize` reads a source once, from left to right. It keeps the *run* of characters that it is inside
of; a character either belongs to the run, or ends it and starts another, or opens a script, whose
body is cut out at once. Groups, strings and scripts that are not closed end with the source.

Every sequence it gives for a source that is not empty ends with a boundary.
-/

namespace Linework.Token

open Linework.Text

/-- The run of characters that the reader is inside of. -/
inductive Run where
  /-- Inside of nothing, as after a closing bracket. -/
  | idle
  | text
  | boundary
  /-- Line breaks after a backslash, which stand for one space. -/
  | continuation
  | group
  | string
deriving DecidableEq

/-- What a character does to the run. -/
inductive Turn where
  /-- It belongs to this run. -/
  | run (run : Run)
  /-- It opens a braced script. -/
  | braced
  /-- It starts a script that ends at the next blank. -/
  | shorthand

/-- The characters that end a line. -/
def isLineEnd (c : Char) : Bool :=
  c == '\r' || c == '\n'

/-- The blanks of the notation. -/
def isSpace (c : Char) : Bool :=
  c == ' ' || c == '\t' || isLineEnd c

/-- Whether a character starts a shorthand script. A sigil does so at the start of a word, unless a
blank follows it. The characters of the run so far are given latest first. -/
def startsShorthand (run : Run) (held : List Char) (c : Char) (next : Option Char) : Bool :=
  (c == '$' || c == '=') && !next.any isSpace &&
    match run with
    | .group => held.isEmpty || held.head?.any isSpace
    | .text => held.head?.any isSpace
    | _ => true

/-- What a character does to the run, given the run's characters so far and the next character. -/
def turn (run : Run) (held : List Char) (c : Char) (next : Option Char) : Turn :=
  match run with
  | .group =>
    if c == ')' then .run .idle
    else if c == '\x7b' then .braced
    else if startsShorthand run held c next then .shorthand
    else .run .group
  | .string => if c == '\x22' then .run .idle else .run .string
  | _ =>
    if run = .continuation && isLineEnd c then .run .continuation
    else if c == '(' then .run .group
    else if c == '\x22' then .run .string
    else if c == '\x7b' then .braced
    else if isLineEnd c || c == ';' then .run .boundary
    else if c == '\\' && next.any isLineEnd then .run .continuation
    else if startsShorthand run held c next then .shorthand
    else .run .text

/-- The token of a run, put before the tokens that follow. -/
def store (run : Run) (held : List Char) (rest : List Token) : List Token :=
  match run with
  | .idle => rest
  | .text => glue ⟨.text, String.ofList held.reverse⟩ rest
  | .boundary => glue ⟨.boundary, String.ofList held.reverse⟩ rest
  | .continuation => glue ⟨.text, " "⟩ rest
  | .group => glue ⟨.group, String.ofList held.reverse⟩ rest
  | .string => glue ⟨.string, String.ofList held.reverse⟩ rest

/-- The end of the source closes the run and, unless it is a separator, adds an empty one. -/
def close (run : Run) (held : List Char) : List Token :=
  match run with
  | .boundary => store .boundary held []
  | _ => store run held [⟨.boundary, ""⟩]

/-- The kind of a script that opens inside the run. -/
def scriptKind (run : Run) : Kind :=
  if run = .group then .groupScript else .script

/-- The run that goes on after a script that opens inside the run. -/
def afterScript (run : Run) : Run :=
  if run = .group then .group else .idle

/-- The characters that end a shorthand script. -/
def endsShorthand (run : Run) (c : Char) : Bool :=
  isSpace c || c == (if run = .group then ')' else ';')

/-- A shorthand script that is `=` and a name refers to the name. -/
def shorthandText : List Char → List Char
  | '=' :: c :: rest => if isAsciiLetter c then '=' :: '$' :: '.' :: c :: rest else '=' :: c :: rest
  | chars => chars

/-- The first characters of the run that a character starts. The brackets of groups and strings are
not part of them. -/
def firstHeld (run : Run) (c : Char) : List Char :=
  match run with
  | .group | .string | .idle => []
  | _ => [c]

/-- Read on inside a run whose characters so far are given latest first. -/
def scan (run : Run) (held : List Char) : List Char → List Token
  | [] => close run held
  | c :: rest =>
    match turn run held c rest.head? with
    | .run next =>
      if next = run then scan run (c :: held) rest
      else store run held (scan next (firstHeld next c) rest)
    | .braced =>
      let script := Body.braced c rest
      store run held (glue ⟨scriptKind run, String.ofList script.1⟩
        (scan (afterScript run) [] (script.2.drop 1)))
    | .shorthand =>
      let script := Body.bare (endsShorthand run) c rest
      store run held (glue ⟨scriptKind run, String.ofList (shorthandText script.1)⟩
        (scan (afterScript run) [] script.2))
termination_by chars => chars.length
decreasing_by
  · simp
  · simp
  · have := Body.length_braced_le c rest
    simp only [List.length_drop, List.length_cons]
    omega
  · have := Body.length_bare_le (endsShorthand run) c rest
    simp only [List.length_cons]
    omega

/-- The tokens of a source. -/
def tokenize (source : String) : List Token :=
  match source.toList with
  | [] => []
  | chars => scan .idle [] chars

end Linework.Token
