import Linework.Proofs.Token.Body
import Linework.Proofs.Token.Scan

/-!
# Plain spelling

A source may be written in several ways: a shorthand script for a braced one, line breaks after a
backslash for a space, and a group or a string that is left open at the end. Its *plain spelling* has
the braces, the space and the closing brackets. Reading the plain spelling gives the tokens of the
source, as long as each script among them is a whole body between braces.

The reader looks one character ahead, so the two sources have to agree on what comes next as well. They
do as far as it matters: a run sees a line end ahead in one when it does in the other, and a space in
the plain spelling when there is one in the source.
-/

namespace Linework.Token

/-! ## What a character does to a run -/

/-- Line breaks are skipped after a backslash only, and after more of them. -/
theorem turn_eq_continuation {run : Run} {held : List Char} {c : Char} {next : Option Char}
    (turnEq : turn run held c next = .run .continuation) :
    run = .continuation ∨ c = '\\' ∧ run ≠ .group ∧ run ≠ .string := by
  cases run with
  | continuation => exact .inl rfl
  | idle | text | boundary | group | string => grind [turn]

/-- A braced script opens with its brace, and not inside a string. -/
theorem turn_eq_braced {run : Run} {held : List Char} {c : Char} {next : Option Char}
    (turnEq : turn run held c next = .braced) : c = '\x7b' ∧ run ≠ .string := by
  cases run with
  | idle | text | boundary | continuation | group | string => grind [turn]

/-- A shorthand script starts with a sigil, and not inside a string. -/
theorem turn_eq_shorthand {run : Run} {held : List Char} {c : Char} {next : Option Char}
    (turnEq : turn run held c next = .shorthand) : (c = '$' ∨ c = '=') ∧ run ≠ .string := by
  have sigil : startsShorthand run held c next = true → c = '$' ∨ c = '=' := by
    intro starts
    simp only [startsShorthand, Bool.and_eq_true, Bool.or_eq_true, beq_iff_eq] at starts
    exact starts.1.1
  cases run with
  | idle | text | boundary | continuation | group | string => grind [turn]

/-- A brace opens a script everywhere but inside a string. -/
theorem turn_brace {run : Run} (notString : run ≠ .string) (held : List Char) (next : Option Char) :
    turn run held '\x7b' next = .braced := by
  cases run with
  | string => contradiction
  | idle | text | boundary | continuation | group => rfl

/-- Outside of brackets a space is text. -/
theorem turn_space {run : Run} (notGroup : run ≠ .group) (notString : run ≠ .string)
    (held : List Char) (next : Option Char) : turn run held ' ' next = .run .text := by
  cases run with
  | group | string => contradiction
  | idle | text | boundary | continuation => rfl

/-- Skipped line breaks that end are like a space that has been read. -/
theorem turn_text_space {held : List Char} {c : Char} {next : Option Char}
    (ends : turn .continuation held c next ≠ .run .continuation) :
    turn .text [' '] c next = turn .continuation held c next := by
  grind [turn, startsShorthand, isSpace]

/-- A character that stays in a run, or ends it, does so as well when the character after it is
another one that is a line end only if the first was, and a space if the first was. -/
theorem turn_congr_next {run next : Run} {held : List Char} {c : Char} {ahead ahead' : Option Char}
    (turnEq : turn run held c ahead = .run next) (goesOn : next ≠ .continuation)
    (lineEnd : ahead'.any isLineEnd = true → ahead.any isLineEnd = true)
    (space : ahead.any isSpace = true → ahead'.any isSpace = true) :
    turn run held c ahead' = .run next := by
  cases run with
  | idle | text | boundary | continuation | group | string => grind [turn, startsShorthand]

/-! ## Putting tokens in front -/

/-- A token of a kind that does not fuse stays apart from those that follow. -/
theorem glue_eq_cons {token : Token} (apart : token.kind.fuses = false) (tokens : List Token) :
    glue token tokens = token :: tokens := by
  cases tokens with
  | nil => rfl
  | cons next rest =>
      have fuses : fuse? token next = none := by
        rw [fuse?_eq_none_iff, apart]
        simp
      simp only [glue, fuses]

theorem glue_scriptKind (run : Run) (script : String) (tokens : List Token) :
    glue ⟨scriptKind run, script⟩ tokens = ⟨scriptKind run, script⟩ :: tokens := by
  apply glue_eq_cons
  cases run <;> rfl

/-! ## Runs of text and of separators -/

/-- The runs of which two in a row are one token. -/
def Run.Fuses (run : Run) : Prop :=
  run = .text ∨ run = .boundary

/-- Two tokens of a kind that fuses, put in front one after the other, are one. -/
theorem glue_glue {kind : Kind} (fuses : kind.fuses = true) (first second : String)
    (rest : List Token) :
    glue ⟨kind, first⟩ (glue ⟨kind, second⟩ rest) = glue ⟨kind, first ++ second⟩ rest := by
  have fused : glue (⟨kind, first⟩ : Token) [⟨kind, second⟩] = [⟨kind, first ++ second⟩] := by
    simp [glue, fuse?, fuses]
  have inRow := glue_join ⟨kind, first⟩ [⟨kind, second⟩] rest
  rwa [fused] at inRow

/-- What has been read of a run earlier comes before what is read of it later. -/
theorem store_append {run : Run} (fuses : run.Fuses) (held more : List Char) (rest : List Token) :
    store run (held ++ more) rest = store run more (store run held rest) := by
  obtain rfl | rfl := fuses
  · rw [store, store, store, glue_glue rfl, List.reverse_append, String.ofList_append]
  · rw [store, store, store, glue_glue rfl, List.reverse_append, String.ofList_append]

/-- Such a run looks back at its last character only. -/
theorem turn_append {run : Run} (fuses : run.Fuses) {held : List Char} (nonempty : held ≠ [])
    (more : List Char) (c : Char) (next : Option Char) :
    turn run (held ++ more) c next = turn run held c next := by
  obtain ⟨last, earlier, rfl⟩ := List.exists_cons_of_ne_nil nonempty
  obtain rfl | rfl := fuses <;> rfl

/-- What stands earlier in such a run only comes before what is read on. -/
theorem scan_held_append {run : Run} (fuses : run.Fuses) {held : List Char} (nonempty : held ≠ [])
    (more chars : List Char) : scan run (held ++ more) chars = store run more (scan run held chars) := by
  induction chars generalizing held with
  | nil =>
      rw [scan, scan]
      obtain rfl | rfl := fuses
      · exact store_append (.inl rfl) held more [⟨.boundary, ""⟩]
      · exact store_append (.inr rfl) held more []
  | cons c rest ih =>
      rw [scan, scan, turn_append fuses nonempty more]
      cases turn run held c rest.head? with
      | run next =>
          by_cases stays : next = run
          · simp only [stays, if_true]
            exact ih (List.cons_ne_nil c held)
          · simp only [stays, if_false]
            exact store_append fuses held more _
      | braced | shorthand => exact store_append fuses held more _

/-- A character that starts a run, or goes on with a run of text, leaves the token of the characters
before it in front of those that follow. -/
theorem scan_cons_run {run next : Run} {held rest : List Char} {c : Char}
    (turnEq : turn run held c rest.head? = .run next)
    (starts : next = run → run = .text ∧ held ≠ []) :
    scan run held (c :: rest) = store run held (scan next (firstHeld next c) rest) := by
  by_cases stays : next = run
  · obtain ⟨rfl, nonempty⟩ := starts stays
    subst stays
    rw [scan_stay turnEq]
    exact scan_held_append (.inl rfl) (List.cons_ne_nil c []) held rest
  · exact scan_move turnEq stays

/-- A braced script that is a whole body is read as it is. -/
theorem scan_script {run : Run} (notString : run ≠ .string) {script : String}
    (delimited : Body.SelfDelimiting script) (held rest : List Char) :
    scan run held ('\x7b' :: (script.toList ++ '\x7d' :: rest)) =
      store run held (glue ⟨scriptKind run, script⟩ (scan (afterScript run) [] rest)) := by
  rw [scan, turn_brace notString, delimited.braced_eq]
  simp only [String.ofList_toList, List.drop_one, List.tail_cons]

/-! ## The plain spelling -/

/-- What stands in the plain spelling for a character that leads from one run to another. -/
def written (run next : Run) (c : Char) : List Char :=
  if next = .continuation then
    if run = .continuation then [] else [' ']
  else [c]

/-- The bracket that closes a run. -/
def Run.closing : Run → List Char
  | .group => [')']
  | .string => ['\x22']
  | .idle | .text | .boundary | .continuation => []

/-- The plain spelling of the rest of a source that is read on inside a run. -/
def spell (run : Run) (held : List Char) : List Char → List Char
  | [] => run.closing
  | c :: rest =>
    match turn run held c rest.head? with
    | .run next =>
      written run next c ++ spell next (if next = run then c :: held else firstHeld next c) rest
    | .braced =>
      let script := Body.braced c rest
      '\x7b' :: (script.1 ++ '\x7d' :: spell (afterScript run) [] (script.2.drop 1))
    | .shorthand =>
      let script := Body.bare (endsShorthand run) c rest
      '\x7b' :: (shorthandText script.1 ++ '\x7d' :: spell (afterScript run) [] script.2)
termination_by chars => chars.length
decreasing_by
  · simp
  · have := Body.length_braced_le c rest
    simp only [List.length_drop, List.length_cons]
    omega
  · have := Body.length_bare_le (endsShorthand run) c rest
    simp only [List.length_cons]
    omega

/-- Outside of skipped line breaks, the plain spelling starts with a line end when the source does, and
with a space when the source does. -/
theorem head?_spell {run : Run} (notSkipping : run ≠ .continuation) (held chars : List Char) :
    ((spell run held chars).head?.any isLineEnd = true → chars.head?.any isLineEnd = true) ∧
      (chars.head?.any isSpace = true → (spell run held chars).head?.any isSpace = true) := by
  cases chars with
  | nil =>
      cases run with
      | idle | text | boundary | continuation | group | string => simp [spell, Run.closing, isLineEnd]
  | cons c rest =>
      rw [spell]
      cases turnEq : turn run held c rest.head? with
      | run next =>
          by_cases skips : next = .continuation
          · subst skips
            obtain impossible | ⟨rfl, _⟩ := turn_eq_continuation turnEq
            · contradiction
            · simp [written, notSkipping, isLineEnd, isSpace]
          · simp [written, skips]
      | braced =>
          obtain ⟨rfl, _⟩ := turn_eq_braced turnEq
          simp
      | shorthand =>
          obtain ⟨rfl | rfl, _⟩ := turn_eq_shorthand turnEq <;> simp [isLineEnd, isSpace]

/-! ## Reading the plain spelling -/

/-- Each script among the tokens is a whole body between braces. -/
def Delimited (tokens : List Token) : Prop :=
  ∀ token ∈ tokens, token.kind = .script ∨ token.kind = .groupScript →
    Body.SelfDelimiting token.text

instance (tokens : List Token) : Decidable (Delimited tokens) :=
  List.decidableBAll _ tokens

/-- A token that is put in front takes no script away. -/
theorem Delimited.of_glue {token : Token} {tokens : List Token}
    (delimited : Delimited (glue token tokens)) : Delimited tokens := by
  intro script scriptMem isScript
  cases tokens with
  | nil => contradiction
  | cons next rest =>
      cases fuses : fuse? token next with
      | none =>
          simp only [glue, fuses] at delimited
          exact delimited script (List.mem_cons_of_mem token scriptMem) isScript
      | some fused =>
          simp only [glue, fuses] at delimited
          rcases List.mem_cons.mp scriptMem with rfl | scriptMem
          · obtain ⟨sameKind, kindFuses, _⟩ := fuse?_eq_some_iff.mp fuses
            rw [sameKind] at kindFuses
            rcases isScript with kind | kind <;> simp [kind, Kind.fuses] at kindFuses
          · exact delimited script (List.mem_cons_of_mem fused scriptMem) isScript

theorem Delimited.of_store {run : Run} {held : List Char} {tokens : List Token}
    (delimited : Delimited (store run held tokens)) : Delimited tokens := by
  cases run with
  | idle => exact delimited
  | text | boundary | continuation | group | string => exact delimited.of_glue

/-- A script that is put in front is a whole body. -/
theorem Delimited.script {run : Run} {script : String} {tokens : List Token}
    (delimited : Delimited (glue ⟨scriptKind run, script⟩ tokens)) :
    Body.SelfDelimiting script := by
  rw [glue_scriptKind] at delimited
  have isScript : scriptKind run = .script ∨ scriptKind run = .groupScript := by
    cases run <;> simp [scriptKind]
  exact delimited ⟨scriptKind run, script⟩ List.mem_cons_self isScript

/-- The run that the plain spelling is inside of. A space in place of line breaks is text. -/
def Run.plain : Run → Run
  | .continuation => .text
  | run => run

/-- The characters of the run that the plain spelling is inside of. -/
def Run.plainHeld (run : Run) (held : List Char) : List Char :=
  if run = .continuation then [' '] else held

theorem plain_of_ne {run : Run} (notSkipping : run ≠ .continuation) : run.plain = run := by
  cases run with
  | continuation => contradiction
  | idle | text | boundary | group | string => rfl

theorem plainHeld_of_ne {run : Run} (notSkipping : run ≠ .continuation) (held : List Char) :
    run.plainHeld held = held :=
  if_neg notSkipping

theorem store_plain (run : Run) (held : List Char) (rest : List Token) :
    store run.plain (run.plainHeld held) rest = store run held rest := by
  cases run <;> rfl

theorem turn_plain {run next : Run} {held : List Char} {c : Char} {ahead : Option Char}
    (turnEq : turn run held c ahead = .run next) (goesOn : next ≠ .continuation) :
    turn run.plain (run.plainHeld held) c ahead = .run next := by
  by_cases skipping : run = .continuation
  · subst skipping
    have ends : turn .continuation held c ahead ≠ .run .continuation := by
      simpa [turnEq] using goesOn
    exact (turn_text_space ends).trans turnEq
  · rwa [plain_of_ne skipping, plainHeld_of_ne skipping]

/-- The plain spelling of the end of a source closes the run that the end of the source closes. -/
theorem scan_closing (run : Run) (held : List Char) :
    scan run.plain (run.plainHeld held) run.closing = close run held := by
  cases run with
  | idle | text | boundary | continuation =>
      simp [Run.plain, Run.plainHeld, Run.closing, scan, close, store]
  | group | string =>
      simp [Run.plain, Run.plainHeld, Run.closing, scan, turn, firstHeld, close, store]

/-- What stands for a character that ends a run ends it as well, with the same token. -/
theorem scan_written {run next : Run} {held rest : List Char} {c : Char} {ahead : Option Char}
    (turnEq : turn run held c ahead = .run next) (starts : next ≠ run)
    (nonempty : run = .text → held ≠ [])
    (agree : next ≠ .continuation →
      (rest.head?.any isLineEnd = true → ahead.any isLineEnd = true) ∧
        (ahead.any isSpace = true → rest.head?.any isSpace = true)) :
    scan run.plain (run.plainHeld held) (written run next c ++ rest) =
      store run held (scan next.plain (next.plainHeld (firstHeld next c)) rest) := by
  by_cases skips : next = .continuation
  · subst skips
    obtain rfl | ⟨_, notGroup, notString⟩ := turn_eq_continuation turnEq
    · contradiction
    · have notSkipping : run ≠ .continuation := Ne.symm starts
      have space : written run .continuation c = [' '] := by simp [written, notSkipping]
      rw [space, plain_of_ne notSkipping, plainHeld_of_ne notSkipping]
      exact scan_cons_run (turn_space notGroup notString held rest.head?)
        fun isText => ⟨isText.symm, nonempty isText.symm⟩
  · have turnSame : turn run.plain (run.plainHeld held) c rest.head? = .run next :=
      turn_plain (turn_congr_next turnEq skips (agree skips).1 (agree skips).2) skips
    have same : written run next c = [c] := if_neg skips
    rw [same, plain_of_ne skips, plainHeld_of_ne skips, ← store_plain run held]
    apply scan_cons_run turnSame
    intro stays
    by_cases skipping : run = .continuation
    · subst skipping
      exact ⟨rfl, List.cons_ne_nil _ _⟩
    · rw [plain_of_ne skipping] at stays
      contradiction

/-- What stands for a script is a script of the same text. -/
theorem scan_script_plain {run : Run} (notString : run ≠ .string) {script : List Char}
    (delimited : Body.SelfDelimiting (String.ofList script)) (held rest : List Char) :
    scan run.plain (run.plainHeld held) ('\x7b' :: (script ++ '\x7d' :: rest)) =
      store run held (glue ⟨scriptKind run, String.ofList script⟩
        (scan (afterScript run).plain ((afterScript run).plainHeld []) rest)) := by
  have plainNotString : run.plain ≠ .string := by
    cases run <;> first | contradiction | simp [Run.plain]
  have whole := scan_script plainNotString delimited (run.plainHeld held) rest
  rw [String.toList_ofList, store_plain] at whole
  rw [whole]
  cases run <;> rfl

/-- Reading the plain spelling of the rest of a source gives the tokens of the rest of the source. -/
theorem scan_spell {run : Run} {held chars : List Char} (nonempty : run = .text → held ≠ [])
    (delimited : Delimited (scan run held chars)) :
    scan run.plain (run.plainHeld held) (spell run held chars) = scan run held chars := by
  induction run, held, chars using scan.induct with
  | case1 run held =>
      rw [spell, scan, scan_closing]
  | case2 held c rest run turnEq ih =>
      rw [scan_stay turnEq] at delimited ⊢
      rw [spell, turnEq]
      simp only [if_true]
      have further := ih (fun _ => List.cons_ne_nil c held) delimited
      by_cases skips : run = .continuation
      · subst skips
        exact further
      · have next := head?_spell skips (c :: held) rest
        have turnSame := turn_congr_next turnEq skips next.1 next.2
        have same : written run run c = [c] := if_neg skips
        rw [plain_of_ne skips, plainHeld_of_ne skips] at further ⊢
        rw [same, List.singleton_append, scan_stay turnSame]
        exact further
  | case3 run held c rest next turnEq starts ih =>
      rw [scan_move turnEq starts] at delimited ⊢
      rw [spell, turnEq]
      simp only [starts, if_false]
      have further := ih (by rintro rfl; simp [firstHeld]) delimited.of_store
      rw [← further]
      exact scan_written turnEq starts nonempty fun skips => head?_spell skips _ rest
  | case4 run held c rest turnEq script ih =>
      obtain ⟨_, notString⟩ := turn_eq_braced turnEq
      rw [scan_braced turnEq] at delimited ⊢
      rw [spell, turnEq]
      have scripts := delimited.of_store
      have further := ih (by cases run <;> simp [afterScript]) scripts.of_glue
      simp only
      rw [scan_script_plain notString scripts.script, further]
  | case5 run held c rest turnEq script ih =>
      obtain ⟨_, notString⟩ := turn_eq_shorthand turnEq
      rw [scan_shorthand turnEq] at delimited ⊢
      rw [spell, turnEq]
      have scripts := delimited.of_store
      have further := ih (by cases run <;> simp [afterScript]) scripts.of_glue
      simp only
      rw [scan_script_plain notString scripts.script, further]

end Linework.Token
