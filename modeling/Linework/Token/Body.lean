import Linework.Text.Name

/-!
# Script bodies

A script ends at its closing character, but not at one inside a quoted string, inside a template, or
inside brackets that the script opens itself. While a body is cut out, each reference `$name` in its
code becomes `$.name`; strings and templates are copied as they are.
-/

namespace Linework.Body

open Linework.Text

/-- What the scan is inside of. -/
inductive Mode where
  | code
  | string
  | template
deriving DecidableEq

/-- A construct that is open, and the character that opened it. At the top there is none. -/
structure Open where
  mode : Mode
  opener : Option Char

/-- How far a scan has come. -/
structure Progress where
  /-- The innermost open construct. -/
  inner : Open := ⟨.code, none⟩
  /-- The constructs around it, innermost first. -/
  outer : List Open := []
  /-- The finished part of the body. -/
  script : List Char := []
  /-- The characters since the last change of mode, latest first. -/
  segment : List Char := []
  /-- The next character is the bracket of a template's opening, which has been counted. -/
  counted : Bool := false

/-- Insert a dot between each `$` and the letter after it. -/
def markReferences : List Char → List Char
  | [] => []
  | c :: rest =>
    if c == '$' && rest.head?.any isAsciiLetter then '$' :: '.' :: markReferences rest
    else c :: markReferences rest

/-- Close the segment: mark its references if it is code. -/
def Progress.flush (p : Progress) : Progress :=
  let segment := p.segment.reverse
  let marked := if p.inner.mode = .code then markReferences segment else segment
  { p with script := p.script ++ marked, segment := [] }

/-- Enter a construct. A change of mode starts a new segment. -/
def Progress.enter (p : Progress) (construct : Open) : Progress :=
  let p' := if construct.mode = p.inner.mode then p else p.flush
  { p' with inner := construct, outer := p.inner :: p.outer }

/-- Leave the innermost construct. A change of mode starts a new segment. -/
def Progress.leave (p : Progress) : Progress :=
  match p.outer with
  | [] => p
  | construct :: rest =>
    let p' := if construct.mode = p.inner.mode then p else p.flush
    { p' with inner := construct, outer := rest }

/-- The three quotation marks. -/
def isQuote (c : Char) : Bool :=
  c == '\x22' || c == '\x27' || c == '\x60'

/-- The three opening brackets. -/
def isOpener (c : Char) : Bool :=
  c == '(' || c == '[' || c == '\x7b'

/-- The bracket that closes an opening one. -/
def closer? : Char → Option Char
  | '(' => some ')'
  | '[' => some ']'
  | '\x7b' => some '\x7d'
  | _ => none

/-- The effect of a character on the open constructs, given its neighbours. -/
def Progress.turn (p : Progress) (previous c : Char) (next : Option Char) : Progress :=
  if p.counted then { p with counted := false }
  else if isQuote c then
    match p.inner.mode with
    | .code => p.enter ⟨if c == '\x60' then .template else .string, some c⟩
    | _ => if p.inner.opener = some c && previous != '\\' then p.leave else p
  else
    match p.inner.mode with
    | .code =>
      if p.inner.opener.bind closer? = some c then p.leave
      else if isOpener c then p.enter ⟨.code, some c⟩
      else p
    | .template =>
      if c == '$' && previous != '\\' && next = some '\x7b' then
        { p.enter ⟨.code, some '\x7b'⟩ with counted := true }
      else p
    | .string => p

/-- Take one character into the body. -/
def Progress.step (p : Progress) (previous c : Char) (next : Option Char) : Progress :=
  let p' := p.turn previous c next
  { p' with segment := c :: p'.segment }

/-- Whether the scan stops at a character: outside every construct, at a stopping one. -/
def Progress.stops (p : Progress) (stop : Char → Bool) (c : Char) : Bool :=
  p.outer.isEmpty && stop c

/-- Scan on: the finished body and the characters that are left. -/
def scan (stop : Char → Bool) (p : Progress) (previous : Char) : List Char → List Char × List Char
  | [] => (p.flush.script, [])
  | c :: rest =>
    if p.stops stop c then (p.flush.script, c :: rest)
    else scan stop (p.step previous c rest.head?) c rest

/-- A scan leaves no more characters than it was given. -/
theorem length_scan_le (stop : Char → Bool) (p : Progress) (previous : Char) (chars : List Char) :
    (scan stop p previous chars).2.length ≤ chars.length := by
  induction chars generalizing p previous with
  | nil => simp [scan]
  | cons c rest ih =>
    unfold scan
    split
    · simp
    · exact Nat.le_succ_of_le (ih _ _)

/-- The body that starts with the bracket `first`, which is not part of it. -/
def braced (first : Char) (rest : List Char) : List Char × List Char :=
  scan (· == '\x7d') {} first rest

/-- The body that starts with the character `first` and is part of it, up to a stopping character. -/
def bare (stop : Char → Bool) (first : Char) (rest : List Char) : List Char × List Char :=
  scan stop { segment := [first] } first rest

/-- A braced body leaves no more characters than it was given. -/
theorem length_braced_le (first : Char) (rest : List Char) :
    (braced first rest).2.length ≤ rest.length :=
  length_scan_le _ _ _ _

/-- A bare body leaves no more characters than it was given. -/
theorem length_bare_le (stop : Char → Bool) (first : Char) (rest : List Char) :
    (bare stop first rest).2.length ≤ rest.length :=
  length_scan_le _ _ _ _

/-- Cut the body that starts at `start` out of a source: its text, and the index where the scan
stopped. With `excludeFirst` the character at `start` is not part of the body. -/
def extract (source : String) (start : Nat) (stop : Char → Bool) (excludeFirst : Bool) :
    String × Nat :=
  match source.toList.drop start with
  | [] => ("", start + 1)
  | first :: rest =>
    let (body, left) :=
      if excludeFirst then scan stop {} first rest else bare stop first rest
    (String.ofList body, start + 1 + (rest.length - left.length))

end Linework.Body
