import Linework.Proofs.Token.Nesting

/-!
# The grammar of script bodies

The code of a script is made of characters, of quotations, and of code between brackets. In a quotation a
backslash escapes the character after it, and in one between backquotes there may be code again, between
`${` and `}`. The scan for the end of a script is to see these parts: the script ends at the first closing
brace that is in none of them.

The scan takes a character for an escaped one when a backslash stands before it. That is right but for one
case: after an escaped backslash nothing is escaped. The scan goes wrong where such a backslash is the last
thing in a quotation, or stands before `${`; everywhere else it follows the grammar, at any depth.
-/

namespace Linework.Body

/-- Where a text stands. -/
inductive Part where
  /-- At the top of a script, or between brackets. -/
  | code
  /-- Between two of a quotation mark. -/
  | quoted (mark : Char)

/-- The texts that can stand in a part. Whether a character can be escaped may depend on the quotation marks
around it and on what follows it between them. -/
inductive IsWritten (escapes : Char → Char → List Char → Prop) : Part → List Char → Prop where
  | empty (part : Part) : IsWritten escapes part []
  | character {c : Char} {rest : List Char} (noQuote : isQuote c = false) (noOpener : isOpener c = false)
      (noCloser : isCloser c = false) (others : IsWritten escapes .code rest) :
      IsWritten escapes .code (c :: rest)
  | quotation {mark : Char} {text rest : List Char} (isMark : isQuote mark)
      (inside : IsWritten escapes (.quoted mark) text) (others : IsWritten escapes .code rest) :
      IsWritten escapes .code (mark :: (text ++ mark :: rest))
  | bracketed {opener closer : Char} {code rest : List Char} (closes : closer? opener = some closer)
      (inside : IsWritten escapes .code code) (others : IsWritten escapes .code rest) :
      IsWritten escapes .code (opener :: (code ++ closer :: rest))
  | content {mark c : Char} {rest : List Char} (noMark : c ≠ mark) (noBackslash : c ≠ '\\')
      (noCode : ¬(mark = '\x60' ∧ c = '$' ∧ rest.head? = some '\x7b'))
      (others : IsWritten escapes (.quoted mark) rest) : IsWritten escapes (.quoted mark) (c :: rest)
  | escape {mark c : Char} {rest : List Char} (escaped : escapes mark c rest)
      (others : IsWritten escapes (.quoted mark) rest) :
      IsWritten escapes (.quoted mark) ('\\' :: c :: rest)
  | interpolation {code rest : List Char} (inside : IsWritten escapes .code code)
      (others : IsWritten escapes (.quoted '\x60') rest) :
      IsWritten escapes (.quoted '\x60') ('$' :: '\x7b' :: (code ++ '\x7d' :: rest))

/-- Any character can be escaped anywhere. -/
def Anywhere (_mark _c : Char) (_rest : List Char) : Prop :=
  True

/-- The rest of a quotation does not begin with code. -/
def ContinuesAsText (mark : Char) (rest : List Char) : Prop :=
  rest ≠ [] ∧ ¬(mark = '\x60' ∧ ['$', '\x7b'] <+: rest)

/-- A backslash is not escaped at the end of a quotation, nor before code in one. -/
def InsideText (mark c : Char) (rest : List Char) : Prop :=
  c = '\\' → ContinuesAsText mark rest

namespace Nesting

/-- What a scan leaves of the characters, up to a brace that closes the script. -/
def remaining (nesting : Nesting) (previous : Char) (chars : List Char) : List Char :=
  (nesting.cut (· == '\x7d') previous chars).2

theorem remaining_cons {nesting : Nesting} {c : Char} (goesOn : nesting.outer = [] → c ≠ '\x7d')
    (previous : Char) (rest : List Char) :
    nesting.remaining previous (c :: rest) =
      (nesting.turn previous c rest.head?).remaining c rest := by
  have notStops : ¬nesting.stops (· == '\x7d') c := by
    simpa [stops] using goesOn
  rw [remaining, cut_of_goesOn notStops]
  rfl

/-! ## Turns in code -/

/-- Inside code with something around it. -/
def inCode (opener : Option Char) (outer : List Open) : Nesting :=
  ⟨⟨.code, opener⟩, outer, false⟩

/-- Inside a quotation. -/
def inQuotation (mark : Char) (outer : List Open) : Nesting :=
  ⟨⟨if mark = '\x60' then .template else .string, some mark⟩, outer, false⟩

variable {opener : Option Char} {outer : List Open}

theorem turn_code_congr_previous (previous previous' c : Char) (next : Option Char) :
    (inCode opener outer).turn previous c next = (inCode opener outer).turn previous' c next := by
  grind [turn, Progress.turn, inCode, progress]

theorem turn_character {c : Char} (noQuote : isQuote c = false) (noOpener : isOpener c = false)
    (noCloser : isCloser c = false) (previous : Char) (next : Option Char) :
    (inCode opener outer).turn previous c next = inCode opener outer := by
  have closesNothing := closes_nothing noCloser opener
  simp [turn, Progress.turn, inCode, progress, noQuote, noOpener, closesNothing, Progress.nesting]

theorem turn_mark {mark : Char} (isMark : isQuote mark) (previous : Char) (next : Option Char) :
    (inCode opener outer).turn previous mark next = inQuotation mark (⟨.code, opener⟩ :: outer) := by
  grind [turn, Progress.turn, inCode, inQuotation, progress, Progress.enter, Progress.flush,
    Progress.nesting]

/-- Brackets are neither quotation marks nor each other. -/
theorem brackets_of_closer? {c closer : Char} (closes : closer? c = some closer) :
    isQuote c = false ∧ isOpener c ∧ isCloser c = false ∧ isQuote closer = false ∧ c ≠ '\x7d' := by
  unfold closer? at closes
  split at closes
  all_goals first | contradiction | (obtain rfl := Option.some.inj closes; decide)

theorem turn_opener {c closer : Char} (closes : closer? c = some closer) (previous : Char)
    (next : Option Char) :
    (inCode opener outer).turn previous c next = inCode (some c) (⟨.code, opener⟩ :: outer) := by
  obtain ⟨noQuote, isOpener, noCloser, _⟩ := brackets_of_closer? closes
  have closesNothing := closes_nothing noCloser opener
  simp [turn, Progress.turn, inCode, progress, noQuote, isOpener, closesNothing, Progress.enter,
    Progress.nesting]

theorem turn_closer {c closer : Char} (closes : closer? c = some closer) (construct : Open)
    (previous : Char) (next : Option Char) :
    (inCode (some c) (construct :: outer)).turn previous closer next = ⟨construct, outer, false⟩ := by
  obtain ⟨_, _, _, noQuote, _⟩ := brackets_of_closer? closes
  grind [turn, Progress.turn, inCode, progress, Progress.leave, Progress.flush, Progress.nesting]

/-! ## Turns in quotations -/

variable {mark : Char}

/-- A character in a quotation that neither ends it nor begins code in it, or that stands behind a
backslash. -/
theorem turn_content {previous c : Char} {next : Option Char} (noMark : c = mark → previous = '\\')
    (noCode : mark = '\x60' → c = '$' → next = some '\x7b' → previous = '\\') :
    (inQuotation mark outer).turn previous c next = inQuotation mark outer := by
  grind [turn, Progress.turn, inQuotation, progress, Progress.nesting]

theorem turn_end {previous : Char} (isMark : isQuote mark) (noBackslash : previous ≠ '\\')
    (construct : Open) (next : Option Char) :
    (inQuotation mark (construct :: outer)).turn previous mark next = ⟨construct, outer, false⟩ := by
  grind [turn, Progress.turn, inQuotation, progress, Progress.leave, Progress.flush, Progress.nesting]

theorem turn_interpolation {previous : Char} (noBackslash : previous ≠ '\\') :
    (inQuotation '\x60' outer).turn previous '$' (some '\x7b') =
      { inCode (some '\x7b') (⟨.template, some '\x60'⟩ :: outer) with counted := true } := by
  grind [turn, Progress.turn, inQuotation, inCode, progress, Progress.enter, Progress.flush,
    Progress.nesting, isQuote]

/-- The brace of `${` has been counted. -/
theorem turn_counted (nesting : Nesting) (previous c : Char) (next : Option Char) :
    { nesting with counted := true }.turn previous c next = { nesting with counted := false } :=
  rfl

/-! ## Texts that are passed -/

/-- In code it does not matter which character is before. -/
theorem remaining_congr_previous (previous previous' : Char) (chars : List Char) :
    (inCode opener outer).remaining previous chars = (inCode opener outer).remaining previous' chars := by
  cases chars with
  | nil => rfl
  | cons c rest => rw [remaining, remaining, cut, cut, turn_code_congr_previous previous previous']

/-- The scan goes over a text that stands in a part, and behind it has the same constructs open as before it.
Behind the text of a quotation it has left the quotation. -/
def Passes : Part → List Char → Prop
  | .code, code => ∀ opener outer previous tail,
      (inCode opener outer).remaining previous (code ++ tail) = (inCode opener outer).remaining previous tail
  | .quoted mark, text => ∀ construct outer previous tail, isQuote mark →
      (previous = '\\' → ContinuesAsText mark text) →
      (inQuotation mark (construct :: outer)).remaining previous (text ++ mark :: tail) =
        Nesting.remaining ⟨construct, outer, false⟩ mark tail

theorem passes_nil (part : Part) : Passes part [] := by
  cases part with
  | code => exact fun opener outer previous tail => rfl
  | quoted mark =>
      intro construct outer previous tail isMark follows
      have noBackslash : previous ≠ '\\' := fun backslash => (follows backslash).1 rfl
      rw [List.nil_append, remaining_cons (by simp [inQuotation]), turn_end isMark noBackslash]

section Code

variable {c closer : Char} {text rest : List Char}

theorem Passes.character (noQuote : isQuote c = false) (noOpener : isOpener c = false)
    (noCloser : isCloser c = false) (passes : Passes .code rest) : Passes .code (c :: rest) := by
  intro opener outer previous tail
  have noBrace : c ≠ '\x7d' := by
    rintro rfl
    contradiction
  rw [List.cons_append, remaining_cons fun _ => noBrace, turn_character noQuote noOpener noCloser,
    passes, remaining_congr_previous c previous]

theorem Passes.quotation (isMark : isQuote mark) (inside : Passes (.quoted mark) text)
    (passes : Passes .code rest) : Passes .code (mark :: (text ++ mark :: rest)) := by
  intro opener outer previous tail
  have noBrace : mark ≠ '\x7d' := by
    rintro rfl
    contradiction
  have noBackslash : mark ≠ '\\' := by
    rintro rfl
    contradiction
  rw [List.cons_append, remaining_cons fun _ => noBrace, turn_mark isMark, List.append_assoc,
    List.cons_append, inside _ _ mark _ isMark fun backslash => absurd backslash noBackslash]
  exact (passes opener outer mark tail).trans (remaining_congr_previous mark previous tail)

theorem Passes.bracketed (closes : closer? c = some closer) (inside : Passes .code text)
    (passes : Passes .code rest) : Passes .code (c :: (text ++ closer :: rest)) := by
  intro opener outer previous tail
  obtain ⟨_, _, _, _, noBrace⟩ := brackets_of_closer? closes
  rw [List.cons_append, remaining_cons fun _ => noBrace, turn_opener closes, List.append_assoc,
    List.cons_append, inside, remaining_cons (by simp [inCode]), turn_closer closes]
  exact (passes opener outer closer tail).trans (remaining_congr_previous closer previous tail)

end Code

section Quotations

variable {c : Char} {code rest : List Char}

theorem Passes.content (noMark : c ≠ mark) (noBackslash : c ≠ '\\')
    (noCode : ¬(mark = '\x60' ∧ c = '$' ∧ rest.head? = some '\x7b'))
    (passes : Passes (.quoted mark) rest) : Passes (.quoted mark) (c :: rest) := by
  intro construct outer previous tail isMark _
  have ahead : (rest ++ mark :: tail).head? = some '\x7b' → rest.head? = some '\x7b' := by
    cases rest with
    | nil =>
        intro isBrace
        obtain rfl := Option.some.inj isBrace
        contradiction
    | cons => exact id
  have noCodeAhead : mark = '\x60' → c = '$' → (rest ++ mark :: tail).head? = some '\x7b' →
      previous = '\\' :=
    fun isTemplate isSigil isBrace => absurd ⟨isTemplate, isSigil, ahead isBrace⟩ noCode
  rw [List.cons_append, remaining_cons (by simp [inQuotation]),
    turn_content (fun isMark => absurd isMark noMark) noCodeAhead]
  exact passes construct outer c tail isMark fun backslash => absurd backslash noBackslash

theorem Passes.escape (escaped : InsideText mark c rest) (passes : Passes (.quoted mark) rest) :
    Passes (.quoted mark) ('\\' :: c :: rest) := by
  intro construct outer previous tail isMark _
  have noMark : '\\' ≠ mark := by
    rintro rfl
    contradiction
  rw [List.cons_append, List.cons_append, remaining_cons (by simp [inQuotation]),
    turn_content (fun isMark => absurd isMark noMark) (by simp),
    remaining_cons (by simp [inQuotation]), turn_content (fun _ => rfl) (fun _ _ _ => rfl)]
  exact passes construct outer c tail isMark escaped

theorem Passes.interpolation (inside : Passes .code code) (passes : Passes (.quoted '\x60') rest) :
    Passes (.quoted '\x60') ('$' :: '\x7b' :: (code ++ '\x7d' :: rest)) := by
  intro construct outer previous tail isMark follows
  have noBackslash : previous ≠ '\\' := by
    intro backslash
    exact (follows backslash).2 ⟨rfl, ⟨_, rfl⟩⟩
  rw [List.cons_append, List.cons_append, remaining_cons (by simp [inQuotation]), List.head?_cons,
    turn_interpolation noBackslash, remaining_cons (by simp [inCode]), turn_counted, List.append_assoc,
    List.cons_append]
  have passed := inside (some '\x7b') (⟨.template, some '\x60'⟩ :: construct :: outer) '\x7b'
    ('\x7d' :: (rest ++ '\x60' :: tail))
  rw [remaining_cons (by simp [inCode]), turn_closer rfl] at passed
  exact passed.trans (passes construct outer '\x7d' tail isMark (by simp))

end Quotations

/-- A text that is written by the grammar is passed, when no backslash is escaped at the end of a quotation
or before code in one. -/
theorem passes_of_isWritten {part : Part} {chars : List Char} (written : IsWritten InsideText part chars) :
    Passes part chars := by
  induction written with
  | empty part => exact passes_nil part
  | character noQuote noOpener noCloser _ passes => exact passes.character noQuote noOpener noCloser
  | quotation isMark _ _ inside passes => exact inside.quotation isMark passes
  | bracketed closes _ _ inside passes => exact inside.bracketed closes passes
  | content noMark noBackslash noCode _ passes => exact passes.content noMark noBackslash noCode
  | escape escaped _ passes => exact passes.escape escaped
  | interpolation _ _ inside passes => exact inside.interpolation passes

end Nesting

/-! ## Where a script ends -/

/-- The scan for the end of a script stops at the brace behind a body that is written by the grammar, whatever
stands behind it. No backslash is to be escaped at the end of a quotation or before code in one. -/
theorem extract_stops_behind_body {body : String} (written : IsWritten InsideText .code body.toList)
    (rest : String) :
    (extract ("\x7b" ++ body ++ "\x7d" ++ rest) 0 (· == '\x7d') true).2 = body.length + 1 := by
  have chars : ("\x7b" ++ body ++ "\x7d" ++ rest).toList =
      '\x7b' :: (body.toList ++ '\x7d' :: rest.toList) := by
    simp
  have passed : (braced '\x7b' (body.toList ++ '\x7d' :: rest.toList)).2 = '\x7d' :: rest.toList := by
    rw [braced_eq_cut]
    exact (Nesting.passes_of_isWritten written none [] '\x7b' _).trans
      (congrArg Prod.snd (Nesting.cut_of_stops rfl '\x7b' rest.toList))
  unfold extract
  rw [chars]
  simp only [List.drop_zero, if_true]
  unfold braced at passed
  rw [passed]
  simp only [List.length_append, List.length_cons, String.length_toList]
  omega

/-- A bracket in a string in a template in brackets, with an escaped backslash before it. -/
theorem extract_stops_behind_template :
    IsWritten InsideText .code "[`$\x7b\"\\\\)\"\x7d`]".toList ∧
      (extract ("\x7b" ++ "[`$\x7b\"\\\\)\"\x7d`]" ++ "\x7d" ++ ")") 0 (· == '\x7d') true).2 = 13 := by
  have string : IsWritten InsideText (.quoted '\x22') ['\\', '\\', ')'] :=
    .escape (fun _ => ⟨by simp, by simp⟩) (.content (by decide) (by decide) (by simp) (.empty _))
  have template : IsWritten InsideText (.quoted '\x60')
      ('$' :: '\x7b' :: ('\x22' :: (['\\', '\\', ')'] ++ '\x22' :: []) ++ '\x7d' :: [])) :=
    .interpolation (.quotation (by decide) string (.empty _)) (.empty _)
  have written : IsWritten InsideText .code "[`$\x7b\"\\\\)\"\x7d`]".toList :=
    .bracketed rfl (.quotation (by decide) template (.empty _)) (.empty _)
  exact ⟨written, extract_stops_behind_body written ")"⟩

/-- A string that ends with an escaped backslash is written by the grammar; but the scan does not see its end,
and goes on to the end of the source. -/
theorem extract_overruns_escaped_backslash :
    IsWritten Anywhere .code "'\\\\'".toList ∧
      (extract ("\x7b" ++ "'\\\\'" ++ "\x7d" ++ "") 0 (· == '\x7d') true).2 ≠ "'\\\\'".length + 1 := by
  have string : IsWritten Anywhere (.quoted '\x27') ['\\', '\\'] :=
    .escape trivial (.empty _)
  exact ⟨.quotation (by decide) string (.empty _), by decide +kernel⟩

end Linework.Body
