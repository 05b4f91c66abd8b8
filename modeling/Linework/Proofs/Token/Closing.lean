import Linework.Proofs.Token.Passage

/-!
# Closing what is open

What a source leaves open at its end the printer closes, each construct with one bracket. For groups and
strings that is what the end of the source did. It is so for a script whose constructs are all closed; but
inside a script that has a bracket, a string or a template open, the brace that the printer puts behind the
script belongs to the script, and the tokens that are read back are other ones.

Which of the two it is shows in the list of the scripts among the tokens. Tokens are glued together, but
scripts never are, so the list is easier to follow than the tokens.
-/

namespace Linework.Token

/-! ## The scripts among tokens -/

/-- The texts of the scripts among tokens. -/
def scripts (tokens : List Token) : List String :=
  (tokens.filter fun token => token.kind = .script ∨ token.kind = .groupScript).map Token.text

theorem scripts_cons {kind : Kind} (noScript : ¬(kind = .script ∨ kind = .groupScript)) (text : String)
    (tokens : List Token) : scripts (⟨kind, text⟩ :: tokens) = scripts tokens := by
  simp [scripts, noScript]

theorem scripts_glue {token : Token} (noScript : ¬(token.kind = .script ∨ token.kind = .groupScript))
    (tokens : List Token) : scripts (glue token tokens) = scripts tokens := by
  cases tokens with
  | nil => exact scripts_cons noScript token.text []
  | cons next rest =>
      cases fuses : fuse? token next with
      | none =>
          simp only [glue, fuses]
          exact scripts_cons noScript token.text (next :: rest)
      | some fused =>
          obtain ⟨sameKind, _, rfl⟩ := fuse?_eq_some_iff.mp fuses
          have nextNoScript : ¬(next.kind = .script ∨ next.kind = .groupScript) := sameKind ▸ noScript
          simp only [glue, fuses]
          exact (scripts_cons noScript _ rest).trans (scripts_cons nextNoScript next.text rest).symm

theorem scripts_store (run : Run) (held : List Char) (tokens : List Token) :
    scripts (store run held tokens) = scripts tokens := by
  cases run with
  | idle => rfl
  | text | boundary | continuation | group | string => exact scripts_glue (by simp) tokens

theorem scripts_glue_script (run : Run) (script : String) (tokens : List Token) :
    scripts (glue ⟨scriptKind run, script⟩ tokens) = script :: scripts tokens := by
  have isScript : scriptKind run = .script ∨ scriptKind run = .groupScript := by
    cases run <;> simp [scriptKind]
  rw [glue_scriptKind]
  simp [scripts, isScript]

theorem delimited_iff_scripts {tokens : List Token} :
    Delimited tokens ↔ ∀ script ∈ scripts tokens, Body.SelfDelimiting script := by
  simp only [Delimited, scripts, List.mem_map, List.mem_filter, decide_eq_true_eq]
  constructor
  · rintro delimited _ ⟨token, ⟨tokenMem, isScript⟩, rfl⟩
    exact delimited token tokenMem isScript
  · intro whole token tokenMem isScript
    exact whole token.text ⟨token, ⟨tokenMem, isScript⟩, rfl⟩

/-! ## Reading a script again -/

/-- A brace opens a script with the body that starts with it, also in the plain spelling. -/
theorem scan_brace_plain {run : Run} (notString : run ≠ .string) (held rest : List Char) :
    scan run.plain held ('\x7b' :: rest) =
      store run.plain held (glue ⟨scriptKind run, String.ofList (Body.braced '\x7b' rest).1⟩
        (scan (afterScript run) [] ((Body.braced '\x7b' rest).2.drop 1))) := by
  have plainNotString : run.plain ≠ .string := by
    cases run <;> first | contradiction | simp [Run.plain]
  rw [scan, turn_brace plainNotString]
  cases run <;> rfl

theorem scripts_scan_character {run next : Run} {held rest : List Char} {c : Char}
    (turnEq : turn run held c rest.head? = .run next) :
    scripts (scan run held (c :: rest)) =
      scripts (scan next (if next = run then c :: held else firstHeld next c) rest) := by
  by_cases stays : next = run
  · subst stays
    rw [scan_stay turnEq, if_pos rfl]
  · rw [scan_move turnEq stays, if_neg stays]
    exact scripts_store run held _

theorem scripts_scan_braced {run : Run} {held rest : List Char} {c : Char}
    (turnEq : turn run held c rest.head? = .braced) :
    scripts (scan run held (c :: rest)) =
      String.ofList (Body.braced c rest).1 ::
        scripts (scan (afterScript run) [] ((Body.braced c rest).2.drop 1)) := by
  rw [scan_braced turnEq, scripts_store, scripts_glue_script]

/-- What stands in the plain spelling for a character has the same scripts behind it as before it. -/
theorem scripts_scan_written {run next : Run} {held rest : List Char} {c : Char}
    (turnEq : turn run held c rest.head? = .run next) (nonempty : run = .text → held ≠ []) :
    let held' := if next = run then c :: held else firstHeld next c
    scripts (scan run.plain (run.plainHeld held) (written run next c ++ spell next held' rest)) =
      scripts (scan next.plain (next.plainHeld held') (spell next held' rest)) := by
  intro held'
  by_cases stays : next = run
  · subst stays
    by_cases skips : next = .continuation
    · subst skips
      rfl
    · have ahead := head?_spell skips held' rest
      have turnSame := turn_congr_next turnEq skips ahead.1 ahead.2
      have same : written next next c = [c] := if_neg skips
      have extended : held' = c :: held := if_pos rfl
      rw [plain_of_ne skips, plainHeld_of_ne skips, plainHeld_of_ne skips, same, List.singleton_append,
        scripts_scan_character turnSame, if_pos rfl, extended]
  · have started : held' = firstHeld next c := if_neg stays
    rw [scan_written turnEq stays nonempty fun skips => head?_spell skips held' rest, scripts_store,
      started]

/-! ## Scripts that the end of the source closes -/

/-- The scripts of the rest of a source without shorthand scripts are whole bodies, when each script that goes
to the end of the source can be closed by a brace. -/
theorem delimited_scan {run : Run} {held chars : List Char}
    (spelledOut : ∀ passage ∈ passages run held chars, passage.isSpelledOut)
    (closable : ∀ passage ∈ passages run held chars, passage.IsClosable) :
    Delimited (scan run held chars) := by
  rw [delimited_iff_scripts]
  induction run, held, chars using passages.induct with
  | case1 run held =>
      have noScripts : scripts (scan run held []) = [] := by
        rw [scan]
        unfold close
        split <;> rw [scripts_store] <;> rfl
      simp [noScripts]
  | case2 run held c rest next turnEq ih =>
      simp only [dite_eq_ite] at ih
      rw [passages_character turnEq] at spelledOut closable
      rw [scripts_scan_character turnEq]
      exact ih (List.forall_mem_cons.mp spelledOut).2 (List.forall_mem_cons.mp closable).2
  | case3 run held c rest turnEq left ih =>
      obtain ⟨rfl, _⟩ := turn_eq_braced turnEq
      simp only [left] at ih
      rw [passages_braced turnEq] at spelledOut closable
      obtain ⟨first, others⟩ := List.forall_mem_cons.mp closable
      rw [scripts_scan_braced turnEq, List.forall_mem_cons]
      refine ⟨?_, ih (List.forall_mem_cons.mp spelledOut).2 others⟩
      by_cases unclosed : (Body.braced '\x7b' rest).2 = []
      · rw [unclosed, codeOf_of_unclosed unclosed] at first
        exact Body.selfDelimiting_of_endsOutside ((Body.isClosable_iff_endsOutside unclosed).mp (first rfl))
      · exact Body.selfDelimiting_of_endsOutside (Body.endsOutside_of_closed unclosed)
  | case4 run held c rest turnEq ih =>
      rw [passages_shorthand turnEq] at spelledOut
      exact absurd (List.forall_mem_cons.mp spelledOut).1 (by simp [Passage.isSpelledOut])

/-- If the plain spelling of the rest of a source has the same scripts as that rest, then each script that
goes to the end of the source can be closed by a brace. -/
theorem isClosable_of_scripts {run : Run} {held chars : List Char} (nonempty : run = .text → held ≠ [])
    (spelledOut : ∀ passage ∈ passages run held chars, passage.isSpelledOut)
    (same : scripts (scan run.plain (run.plainHeld held) (spell run held chars)) =
      scripts (scan run held chars)) :
    ∀ passage ∈ passages run held chars, passage.IsClosable := by
  induction run, held, chars using passages.induct with
  | case1 run held => simp
  | case2 run held c rest next turnEq ih =>
      simp only [dite_eq_ite] at ih
      rw [spell, turnEq] at same
      simp only at same
      rw [scripts_scan_written turnEq nonempty, scripts_scan_character turnEq] at same
      rw [passages_character turnEq] at spelledOut ⊢
      have nonempty' : next = .text → (if next = run then c :: held else firstHeld next c) ≠ [] := by
        rintro rfl
        split <;> simp [firstHeld]
      exact List.forall_mem_cons.mpr ⟨trivial, ih nonempty' (List.forall_mem_cons.mp spelledOut).2 same⟩
  | case3 run held c rest turnEq left ih =>
      obtain ⟨rfl, notString⟩ := turn_eq_braced turnEq
      simp only [left] at ih
      rw [spell, turnEq, scripts_scan_braced turnEq] at same
      simp only at same
      rw [scan_brace_plain notString, scripts_store, scripts_glue_script, List.cons.injEq] at same
      obtain ⟨sameBody, sameScripts⟩ := same
      rw [passages_braced turnEq] at spelledOut ⊢
      rw [List.forall_mem_cons]
      by_cases unclosed : (Body.braced '\x7b' rest).2 = []
      · rw [unclosed, List.drop_nil, passages_nil, codeOf_of_unclosed unclosed]
        have outside := Body.endsOutside_of_braced (String.ofList_injective sameBody)
        exact ⟨fun _ => (Body.isClosable_iff_endsOutside unclosed).mpr outside, by simp⟩
      · refine ⟨fun isOpen => absurd isOpen (by simp [unclosed]), ?_⟩
        -- A closed script is read again as it is, and what is behind it is read on.
        have closed := Body.selfDelimiting_of_endsOutside (Body.endsOutside_of_closed unclosed)
        have whole := closed.braced_eq
          (spell (afterScript run) [] ((Body.braced '\x7b' rest).2.drop 1))
        rw [String.toList_ofList] at whole
        rw [whole, List.drop_one, List.tail_cons] at sameScripts
        have plain : (afterScript run).plain = afterScript run := by cases run <;> rfl
        have plainHeld : (afterScript run).plainHeld [] = [] := by cases run <;> rfl
        exact ih (by cases run <;> simp [afterScript]) (List.forall_mem_cons.mp spelledOut).2
          (by rw [plain, plainHeld, sameScripts])
  | case4 run held c rest turnEq ih =>
      rw [passages_shorthand turnEq] at spelledOut
      exact absurd (List.forall_mem_cons.mp spelledOut).1 (by simp [Passage.isSpelledOut])

/-! ## Printed endings -/

/-- The printed tokens of a source are read as its plain spelling is. -/
theorem tokenize_printAll_eq_scan {source : String} (nonempty : source.toList ≠ []) :
    tokenize (printAll (tokenize source)) = scan .idle [] (spell .idle [] source.toList) := by
  obtain ⟨c, rest, charsEq⟩ := List.exists_cons_of_ne_nil nonempty
  rw [tokenize, toList_printAll_tokenize, charsEq]
  split
  · rename_i nothing
    exact absurd nothing (spell_ne_nil c rest)
  · rfl

/-- The printed tokens of a source without shorthand scripts read back as the tokens of the source, exactly
when each script that the end of the source closes can be closed by a brace. -/
theorem tokenize_printAll_iff {source : String}
    (spelledOut : ∀ passage ∈ passagesOf source, passage.isSpelledOut) :
    tokenize (printAll (tokenize source)) = tokenize source ↔
      ∀ passage ∈ passagesOf source, passage.IsClosable := by
  by_cases empty : source.toList = []
  · simp [passagesOf, empty, printAll, printFrom, Place.closing, tokenize]
  · have read : tokenize source = scan .idle [] source.toList := by
      unfold tokenize
      split
      · contradiction
      · rfl
    have notText : Run.idle = .text → ([] : List Char) ≠ [] := by simp
    rw [tokenize_printAll_eq_scan empty, read]
    constructor
    · intro same
      exact isClosable_of_scripts notText spelledOut (congrArg scripts same)
    · intro closable
      exact scan_spell notText (delimited_scan spelledOut closable)

/-- A source that ends inside a script of a group, behind all that the script opens. -/
theorem tokenize_printAll_of_closable_script :
    (∀ passage ∈ passagesOf "a (b \x7b$x[')'] + `\x7d`", passage.isSpelledOut) ∧
      (∀ passage ∈ passagesOf "a (b \x7b$x[')'] + `\x7d`", passage.IsClosable) ∧
      tokenize (printAll (tokenize "a (b \x7b$x[')'] + `\x7d`")) = tokenize "a (b \x7b$x[')'] + `\x7d`" :=
  have spelledOut : ∀ passage ∈ passagesOf "a (b \x7b$x[')'] + `\x7d`", passage.isSpelledOut := by
    decide +kernel
  have closable : ∀ passage ∈ passagesOf "a (b \x7b$x[')'] + `\x7d`", passage.IsClosable := by
    decide +kernel
  ⟨spelledOut, closable, (tokenize_printAll_iff spelledOut).mpr closable⟩

/-- A source that ends inside brackets in a script. -/
theorem tokenize_printAll_ne_of_open_bracket :
    (∀ passage ∈ passagesOf "\x7b(", passage.isLiteral) ∧
      tokenize (printAll (tokenize "\x7b(")) ≠ tokenize "\x7b(" := by
  decide +kernel

end Linework.Token
