import Linework.Token.Print
import Linework.Proofs.Token.Spelling

/-!
# Printed tokens read back

The printer writes the tokens of a source in the plain spelling of the source, and the plain spelling
reads as the source does. So the printed tokens of a source read back as the same tokens, as long as
each script among them is a whole body between braces.

A group and the scripts in it are several tokens and one parenthesis. That the printer closes it in the
right place rests on two facts about the tokens of a source: a piece of the group follows each script of
the group, and no script of a group follows anything else.
-/

namespace Linework.Token

/-! ## The first token that is read -/

theorem kind_head?_glue (token : Token) (tokens : List Token) :
    (glue token tokens).head?.map Token.kind = some token.kind := by
  cases tokens with
  | nil => rfl
  | cons next rest =>
      cases fuses : fuse? token next with
      | none => simp [glue, fuses]
      | some fused =>
          obtain ⟨_, _, rfl⟩ := fuse?_eq_some_iff.mp fuses
          simp [glue, fuses]

/-- Inside a group, the first token that is read is a piece of the group. -/
theorem exists_scan_group (held chars : List Char) :
    ∃ text rest, scan .group held chars = ⟨.group, text⟩ :: rest := by
  have piece : ∀ held tokens, ∃ text rest, store .group held tokens = ⟨.group, text⟩ :: rest :=
    fun held tokens => ⟨_, _, glue_eq_cons rfl tokens⟩
  induction chars generalizing held with
  | nil =>
      rw [scan]
      exact piece held [⟨.boundary, ""⟩]
  | cons c rest ih =>
      rw [scan]
      cases turn .group held c rest.head? with
      | run next =>
          by_cases stays : next = .group
          · simp only [stays, if_true]
            exact ih (c :: held)
          · simp only [stays, if_false]
            exact piece held _
      | braced | shorthand => exact piece held _

/-- The sequence does not start with a script of a group. -/
def StartsOutside (tokens : List Token) : Prop :=
  tokens.head?.map Token.kind ≠ some .groupScript

theorem startsOutside_store {run : Run} {held : List Char} {tokens : List Token}
    (outside : run = .idle → StartsOutside tokens) : StartsOutside (store run held tokens) := by
  cases run with
  | idle => exact outside rfl
  | text | boundary | continuation | group | string =>
      unfold StartsOutside
      simp only [store]
      rw [kind_head?_glue]
      simp

/-- No sequence that is read starts with a script of a group. -/
theorem startsOutside_scan (run : Run) (held chars : List Char) :
    StartsOutside (scan run held chars) := by
  induction run, held, chars using scan.induct with
  | case1 run held =>
      rw [scan]
      unfold close
      split
      · exact startsOutside_store (by simp)
      · exact startsOutside_store fun _ => by simp [StartsOutside]
  | case2 held c rest run turnEq ih =>
      rw [scan_stay turnEq]
      exact ih
  | case3 run held c rest next turnEq starts ih =>
      rw [scan_move turnEq starts]
      exact startsOutside_store fun _ => ih
  | case4 run held c rest turnEq script ih =>
      rw [scan_braced turnEq]
      apply startsOutside_store
      rintro rfl
      rw [glue_scriptKind]
      simp [StartsOutside, scriptKind]
  | case5 run held c rest turnEq script ih =>
      rw [scan_shorthand turnEq]
      apply startsOutside_store
      rintro rfl
      rw [glue_scriptKind]
      simp [StartsOutside, scriptKind]

/-! ## Printing what is read -/

/-- What stands in the plain spelling for the characters of a run so far, given latest first. -/
def opened (held : List Char) : Run → List Char
  | .idle => []
  | .text | .boundary => held.reverse
  | .continuation => [' ']
  | .group => '(' :: held.reverse
  | .string => '\x22' :: held.reverse

/-- Tokens that fuse print as one after the other. -/
theorem printFrom_glue {kind : Kind} (fuses : kind.fuses = true) (text : String)
    (tokens : List Token) :
    printFrom .outside (glue ⟨kind, text⟩ tokens) = text ++ printFrom .outside tokens := by
  have alone : ∀ text rest, printFrom .outside (⟨kind, text⟩ :: rest) =
      text ++ printFrom .outside rest := by
    intro text rest
    cases kind with
    | text | boundary => simp [printFrom, print]
    | group | string | script | groupScript => contradiction
  cases tokens with
  | nil => exact alone text []
  | cons next rest =>
      obtain ⟨nextKind, nextText⟩ := next
      by_cases same : kind = nextKind
      · subst same
        simp only [glue, fuse?, fuses, and_self, if_true]
        rw [alone, alone, String.append_assoc]
      · simp only [glue, fuse?, same, false_and, if_false]
        exact alone text _

/-- After a group that no script of a group follows, the group is closed. -/
theorem printFrom_afterPiece {tokens : List Token} (outside : StartsOutside tokens) :
    printFrom .afterPiece tokens = ")" ++ printFrom .outside tokens := by
  cases tokens with
  | nil => rfl
  | cons token rest =>
      obtain ⟨kind, text⟩ := token
      cases kind with
      | groupScript => exact absurd rfl outside
      | group =>
          simp only [printFrom, Place.closing, reduceCtorEq, if_false, if_true, String.empty_append,
            String.append_assoc]
      | text | boundary | string | script =>
          simp only [printFrom, String.append_assoc]

/-- A run that ends prints as what has been read of it and the bracket that closes it. -/
theorem printFrom_store (run : Run) (held : List Char) {tokens : List Token}
    (outside : StartsOutside tokens) :
    (printFrom .outside (store run held tokens)).toList =
      opened held run ++ run.closing ++ (printFrom .outside tokens).toList := by
  cases run with
  | idle => simp [store, opened, Run.closing]
  | text | boundary | continuation =>
      rw [store, printFrom_glue rfl]
      simp [opened, Run.closing]
  | group =>
      rw [store, glue_eq_cons rfl]
      simp [printFrom, printFrom_afterPiece outside, Place.closing, opened, Run.closing]
  | string =>
      rw [store, glue_eq_cons rfl]
      simp [printFrom, print, opened, Run.closing]

/-- A script prints between braces, after what has been read of the run that it opens in. A group goes
on after it without a new bracket. -/
theorem printFrom_store_script {run : Run} (notString : run ≠ .string) (held : List Char)
    (script : String) {chars rest : List Char}
    (after : (printFrom .outside (scan (afterScript run) [] chars)).toList =
      opened [] (afterScript run) ++ rest) :
    (printFrom .outside (store run held (glue ⟨scriptKind run, script⟩
      (scan (afterScript run) [] chars)))).toList =
      opened held run ++ '\x7b' :: (script.toList ++ '\x7d' :: rest) := by
  rw [glue_scriptKind]
  by_cases inGroup : run = .group
  · subst inGroup
    change (printFrom .outside (scan .group [] chars)).toList = opened [] .group ++ rest at after
    -- The group's next piece follows the script, so the printer opens no new parenthesis.
    obtain ⟨text, others, scanEq⟩ := exists_scan_group [] chars
    simp only [scriptKind, afterScript, if_true]
    rw [scanEq] at after ⊢
    have piece : text.toList ++ (printFrom .afterPiece others).toList = rest := by
      simpa [printFrom, Place.closing, opened] using after
    rw [store, glue_eq_cons rfl]
    simp [printFrom, print, Place.closing, opened, ← piece]
  · have noBracket : run.closing = [] := by
      cases run <;> first | contradiction | rfl
    simp only [scriptKind, afterScript, inGroup, if_false] at after ⊢
    rw [printFrom_store run held (by simp [StartsOutside]), noBracket]
    simp [printFrom, print, after, opened]

/-- A character that goes on in a run is written after what has been read of the run. -/
theorem opened_cons {run : Run} {held : List Char} {c : Char} {ahead : Option Char}
    (turnEq : turn run held c ahead = .run run) :
    opened (c :: held) run = opened held run ++ written run run c := by
  cases run with
  | idle => grind [turn]
  | text | boundary | continuation | group | string => simp [opened, written]

/-- A character that ends a run is the bracket that closes it, or the first that is written of the run
that it starts. -/
theorem closing_append_opened {run next : Run} {held : List Char} {c : Char} {ahead : Option Char}
    (turnEq : turn run held c ahead = .run next) (starts : next ≠ run) :
    run.closing ++ opened (firstHeld next c) next = written run next c := by
  cases run with
  | idle | text | boundary | continuation | group | string =>
      grind [turn, opened, firstHeld, written, Run.closing]

/-- The tokens of the rest of a source print as the plain spelling of the rest of the source, after what
has been read of the run. -/
theorem toList_printFrom_scan (run : Run) (held chars : List Char) :
    (printFrom .outside (scan run held chars)).toList = opened held run ++ spell run held chars := by
  induction run, held, chars using scan.induct with
  | case1 run held =>
      have nothing : StartsOutside [] := by simp [StartsOutside]
      have separator : StartsOutside [⟨.boundary, ""⟩] := by simp [StartsOutside]
      rw [scan, spell]
      unfold close
      split
      · simp [printFrom_store .boundary held nothing, Run.closing, printFrom, Place.closing]
      · simp [printFrom_store run held separator, printFrom, print, Place.closing]
  | case2 held c rest run turnEq ih =>
      rw [scan_stay turnEq, spell, turnEq]
      simp only [if_true]
      rw [ih, opened_cons turnEq, List.append_assoc]
  | case3 run held c rest next turnEq starts ih =>
      rw [scan_move turnEq starts, spell, turnEq]
      simp only [starts, if_false]
      rw [printFrom_store run held (startsOutside_scan next _ rest), ih,
        ← closing_append_opened turnEq starts]
      simp only [List.append_assoc]
  | case4 run held c rest turnEq script ih =>
      obtain ⟨_, notString⟩ := turn_eq_braced turnEq
      rw [scan_braced turnEq, spell, turnEq]
      have printed := printFrom_store_script notString held (String.ofList script.1) ih
      rwa [String.toList_ofList] at printed
  | case5 run held c rest turnEq script ih =>
      obtain ⟨_, notString⟩ := turn_eq_shorthand turnEq
      rw [scan_shorthand turnEq, spell, turnEq]
      have printed :=
        printFrom_store_script notString held (String.ofList (shorthandText script.1)) ih
      rwa [String.toList_ofList] at printed

/-! ## The round trip -/

/-- The plain spelling of a source that is not empty is not empty. -/
theorem spell_ne_nil (c : Char) (rest : List Char) : spell .idle [] (c :: rest) ≠ [] := by
  rw [spell]
  cases turnEq : turn .idle [] c rest.head? with
  | run next =>
      by_cases skips : next = .continuation <;> simp [written, skips]
  | braced | shorthand => simp

/-- The printed tokens of a source read back as the tokens of the source, when each script among them
is a whole body between braces. -/
theorem tokenize_printAll (source : String) (delimited : Delimited (tokenize source)) :
    tokenize (printAll (tokenize source)) = tokenize source := by
  cases charsEq : source.toList with
  | nil =>
      have empty : tokenize source = [] := by simp [tokenize, charsEq]
      rw [empty]
      rfl
  | cons c rest =>
      have read : tokenize source = scan .idle [] (c :: rest) := by simp [tokenize, charsEq]
      rw [read] at delimited ⊢
      have printed : (printAll (scan .idle [] (c :: rest))).toList = spell .idle [] (c :: rest) :=
        toList_printFrom_scan .idle [] (c :: rest)
      have again : tokenize (printAll (scan .idle [] (c :: rest))) =
          scan .idle [] (spell .idle [] (c :: rest)) := by
        unfold tokenize
        rw [printed]
        split
        · rename_i nothing
          exact absurd nothing (spell_ne_nil c rest)
        · rfl
      have notText : Run.idle = .text → ([] : List Char) ≠ [] := by simp
      rw [again]
      exact scan_spell notText delimited

/-- A source with two shorthand scripts, skipped line breaks and a group that is left open. -/
theorem tokenize_printAll_of_open_group :
    Delimited (tokenize "a =x \\\nb (c \x7b[d]\x7d $e") ∧
      tokenize (printAll (tokenize "a =x \\\nb (c \x7b[d]\x7d $e")) =
        tokenize "a =x \\\nb (c \x7b[d]\x7d $e" :=
  have delimited : Delimited (tokenize "a =x \\\nb (c \x7b[d]\x7d $e") := by decide +kernel
  ⟨delimited, tokenize_printAll _ delimited⟩

end Linework.Token
