import Linework.Proofs.Token.Nesting
import Mathlib.Order.Bounds.Defs

/-!
# Bodies by the delimiters that are open

A scan carries a stack of constructs and a segment that it closes when the mode changes. Neither is needed
to say what it finds. The characters that have been read tell which delimiters are open, and these tell
whether the body ends before the next character, and whether a `$` there is in code.

A body ends at the first index at which the source is over, or nothing is open and the character is a
stopping one. Its text is that of the source up to there, with a dot behind each `$` that stands in code
before a letter.
-/

namespace Linework.Body

open Linework.Text

variable {stop : Char → Bool}

/-! ## Open delimiters -/

/-- What stands inside of a delimiter. -/
def modeIn (delimiter : Char) : Mode :=
  if delimiter = '\x60' then .template else if isQuote delimiter then .string else .code

/-- What stands inside of open delimiters, innermost first. -/
def modeWithin : List Char → Mode
  | [] => .code
  | delimiter :: _ => modeIn delimiter

/-- Whether characters, latest first, end in a `$` that no backslash escapes. -/
def endsInSigil : List Char → Bool
  | '$' :: previous :: _ => previous != '\\'
  | _ => false

/-- The delimiters that are open behind a character. Before it, `opened` are open, and the characters `read`
have been read, latest first. -/
def meet (opened : List Char) (c : Char) (read : List Char) : List Char :=
  match modeWithin opened with
  | .code =>
    if isQuote c || isOpener c then c :: opened
    else if opened.head?.bind closer? = some c then opened.tail
    else opened
  | .string => if opened.head? = some c ∧ read.head? ≠ some '\\' then opened.tail else opened
  | .template =>
    if opened.head? = some c ∧ read.head? ≠ some '\\' then opened.tail
    else if c = '\x7b' ∧ endsInSigil read then c :: opened
    else opened

/-- The delimiters that are open behind characters that have been read, latest first. The first character of
a body opens nothing. -/
def delimiters : List Char → List Char
  | [] | [_] => []
  | c :: previous :: earlier => meet (delimiters (previous :: earlier)) c (previous :: earlier)

/-- A `$` opens and closes nothing. -/
theorem meet_sigil (opened read : List Char) : meet opened '$' read = opened := by
  cases opened with
  | nil => rfl
  | cons delimiter outer =>
      have closesNothing := closes_nothing (show isCloser '$' = false by rfl) (some delimiter)
      have inside : delimiter = '$' → modeIn delimiter = .code := by
        rintro rfl
        rfl
      unfold meet
      split
      · rw [if_neg (by decide)]
        exact if_neg closesNothing
      all_goals
        rename_i quoted
        have different : delimiter ≠ '$' := fun same => by simp [modeWithin, inside same] at quoted
        simp [different]

theorem endsInSigil_cons (c previous : Char) (earlier : List Char) :
    endsInSigil (c :: previous :: earlier) ↔ c = '$' ∧ previous ≠ '\\' := by
  unfold endsInSigil
  split <;> simp_all

/-! ## The constructs of a scan -/

namespace Nesting

/-- The constructs around the innermost of open delimiters. -/
def enclosing : List Char → List Open
  | [] => []
  | _ :: outer => ⟨modeWithin outer, outer.head?⟩ :: enclosing outer

/-- The constructs that open delimiters belong to. -/
def ofDelimiters (opened : List Char) : Nesting :=
  ⟨⟨modeWithin opened, opened.head?⟩, enclosing opened, false⟩

/-- Whether the next character is the brace with which code begins in a template. -/
def Expects (read : List Char) (next : Option Char) : Prop :=
  modeWithin (delimiters read) = .template ∧ endsInSigil read ∧ next = some '\x7b'

instance (read : List Char) (next : Option Char) : Decidable (Expects read next) :=
  inferInstanceAs (Decidable (_ ∧ _ ∧ _))

/-- The constructs of a scan that has read characters, latest first. It counts the brace of `${` with the
`$`. -/
def reached (read : List Char) (next : Option Char) : Nesting :=
  if Expects read next then { ofDelimiters ('\x7b' :: delimiters read) with counted := true }
  else ofDelimiters (delimiters read)

theorem nesting_enter (opened : List Char) (delimiter : Char) :
    ((ofDelimiters opened).progress.enter ⟨modeIn delimiter, some delimiter⟩).nesting =
      ofDelimiters (delimiter :: opened) := by
  unfold Progress.enter
  simp only
  split <;> rfl

theorem nesting_leave (opened : List Char) (delimiter : Char) :
    (ofDelimiters (delimiter :: opened)).progress.leave.nesting = ofDelimiters opened := by
  unfold Progress.leave ofDelimiters progress
  simp only [enclosing]
  split <;> rfl

theorem modeIn_of_not_isQuote {c : Char} (noQuote : isQuote c = false) : modeIn c = .code := by
  have noTemplate : c ≠ '\x60' := by
    rintro rfl
    contradiction
  rw [modeIn, if_neg noTemplate, if_neg (by simp [noQuote])]

/-- Outside of code, the innermost delimiter is a quotation mark. -/
theorem exists_mark_of_modeWithin {opened : List Char} (quoted : modeWithin opened ≠ .code) :
    ∃ mark outer, opened = mark :: outer ∧ isQuote mark := by
  cases opened with
  | nil => contradiction
  | cons mark outer =>
      refine ⟨mark, outer, rfl, ?_⟩
      by_contra noQuote
      exact quoted (modeIn_of_not_isQuote (eq_false_of_ne_true noQuote))

/-- In code, a scan opens and closes what the delimiters tell. -/
theorem turn_code {opened : List Char} (inCode : modeWithin opened = .code) (previous c : Char)
    (next : Option Char) (read : List Char) :
    (ofDelimiters opened).turn previous c next = ofDelimiters (meet opened c read) := by
  have inner : (ofDelimiters opened).progress.inner = ⟨.code, opened.head?⟩ := by
    rw [← inCode]
    rfl
  have counted : (ofDelimiters opened).progress.counted = false := rfl
  unfold turn Progress.turn meet
  simp only [inner, counted, inCode, Bool.false_eq_true, if_false]
  by_cases isMark : isQuote c
  · have entered := nesting_enter opened c
    rw [modeIn] at entered
    simpa [isMark] using entered
  · have noQuote : isQuote c = false := eq_false_of_ne_true isMark
    by_cases closes : opened.head?.bind closer? = some c
    · obtain ⟨delimiter, isHead, isCloser⟩ := Option.bind_eq_some_iff.mp closes
      obtain ⟨outer, rfl⟩ := List.head?_eq_some_iff.mp isHead
      have noOpener : isOpener c = false := by
        unfold closer? at isCloser
        split at isCloser <;> first | contradiction | (obtain rfl := Option.some.inj isCloser; rfl)
      simpa [noQuote, noOpener, closes, isCloser] using nesting_leave outer delimiter
    · by_cases opens : isOpener c
      · have entered := nesting_enter opened c
        rw [modeIn_of_not_isQuote noQuote] at entered
        simpa [noQuote, opens, closes] using entered
      · simp only [noQuote, opens, closes, Bool.false_eq_true, if_false]
        rfl

/-- In a quotation, a quotation mark closes it or is a part of it. -/
theorem turn_quotation {mark : Char} {outer : List Char} (quoted : modeWithin (mark :: outer) ≠ .code)
    (previous : Char) {c : Char} (isQuotation : isQuote c) (next : Option Char) :
    (ofDelimiters (mark :: outer)).turn previous c next =
      if mark = c ∧ previous ≠ '\\' then ofDelimiters outer else ofDelimiters (mark :: outer) := by
  have inner : (ofDelimiters (mark :: outer)).progress.inner = ⟨modeWithin (mark :: outer), some mark⟩ := rfl
  have counted : (ofDelimiters (mark :: outer)).progress.counted = false := rfl
  unfold turn Progress.turn
  rw [counted, if_neg Bool.false_ne_true, if_pos isQuotation, inner]
  split
  · contradiction
  · by_cases closes : mark = c ∧ previous ≠ '\\'
    · rw [if_pos closes, if_pos (by simpa using closes)]
      exact nesting_leave outer mark
    · rw [if_neg closes, if_neg (by simpa using closes)]
      rfl

/-- In a string, a scan closes what the delimiters tell. -/
theorem turn_string {opened : List Char} (inString : modeWithin opened = .string) (previous c : Char)
    (next : Option Char) (earlier : List Char) :
    (ofDelimiters opened).turn previous c next = ofDelimiters (meet opened c (previous :: earlier)) := by
  have quoted : modeWithin opened ≠ .code := by simp [inString]
  obtain ⟨mark, outer, rfl, isMark⟩ := exists_mark_of_modeWithin quoted
  have met : meet (mark :: outer) c (previous :: earlier) =
      if mark = c ∧ previous ≠ '\\' then outer else mark :: outer := by
    simp [meet, inString]
  rw [met, apply_ite ofDelimiters]
  by_cases isQuotation : isQuote c
  · exact turn_quotation quoted previous isQuotation next
  · have differs : mark ≠ c := fun same => isQuotation (same ▸ isMark)
    have inner : (ofDelimiters (mark :: outer)).progress.inner = ⟨.string, some mark⟩ := by
      rw [← inString]
      rfl
    unfold turn Progress.turn
    simp only [inner, isQuotation, differs, false_and, if_false, Bool.false_eq_true]
    rfl

/-- In a template too, but a scan begins code with the `$` of `${` and not with the brace. -/
theorem turn_template {opened : List Char} (inTemplate : modeWithin opened = .template) (previous c : Char)
    (next : Option Char) (earlier : List Char)
    (noBrace : ¬(c = '\x7b' ∧ endsInSigil (previous :: earlier))) :
    (ofDelimiters opened).turn previous c next =
      if c = '$' ∧ previous ≠ '\\' ∧ next = some '\x7b' then
        { ofDelimiters ('\x7b' :: opened) with counted := true }
      else ofDelimiters (meet opened c (previous :: earlier)) := by
  have quoted : modeWithin opened ≠ .code := by simp [inTemplate]
  obtain ⟨mark, outer, rfl, isMark⟩ := exists_mark_of_modeWithin quoted
  have met : meet (mark :: outer) c (previous :: earlier) =
      if mark = c ∧ previous ≠ '\\' then outer else mark :: outer := by
    simp [meet, inTemplate, noBrace]
  rw [met, apply_ite ofDelimiters]
  by_cases isQuotation : isQuote c
  · have noSigil : c ≠ '$' := by
      rintro rfl
      contradiction
    rw [if_neg fun begins => noSigil begins.1]
    exact turn_quotation quoted previous isQuotation next
  · have differs : mark ≠ c := fun same => isQuotation (same ▸ isMark)
    have inner : (ofDelimiters (mark :: outer)).progress.inner = ⟨.template, some mark⟩ := by
      rw [← inTemplate]
      rfl
    have counted : (ofDelimiters (mark :: outer)).progress.counted = false := rfl
    unfold turn Progress.turn
    simp only [inner, counted, isQuotation, differs, false_and, if_false, Bool.false_eq_true]
    by_cases begins : c = '$' ∧ previous ≠ '\\' ∧ next = some '\x7b'
    · rw [if_pos begins, if_pos (by simpa [and_assoc] using begins)]
      exact congrArg (fun nesting : Nesting => { nesting with counted := true })
        (nesting_enter (mark :: outer) '\x7b')
    · rw [if_neg begins, if_neg (by simpa [and_assoc] using begins)]
      rfl

/-- The brace of `${` opens code in a template. -/
theorem meet_brace {opened read : List Char} (inTemplate : modeWithin opened = .template)
    (sigil : endsInSigil read) : meet opened '\x7b' read = '\x7b' :: opened := by
  have quoted : modeWithin opened ≠ .code := by simp [inTemplate]
  obtain ⟨mark, outer, rfl, isMark⟩ := exists_mark_of_modeWithin quoted
  have noMark : mark ≠ '\x7b' := by
    rintro rfl
    contradiction
  simp [meet, inTemplate, noMark, sigil]

/-- Code is expected behind a `$` in a template. -/
theorem expects_cons_iff {previous c : Char} {earlier : List Char} {next : Option Char} :
    Expects (c :: previous :: earlier) next ↔
      modeWithin (delimiters (previous :: earlier)) = .template ∧
        c = '$' ∧ previous ≠ '\\' ∧ next = some '\x7b' := by
  unfold Expects
  rw [endsInSigil_cons, delimiters, and_assoc]
  refine and_congr_left fun following => ?_
  obtain ⟨rfl, _⟩ := following
  rw [meet_sigil]

/-- Reading another character turns the constructs of a scan into those behind it. -/
theorem turn_reached (previous c : Char) (earlier : List Char) (next : Option Char) :
    (reached (previous :: earlier) (some c)).turn previous c next = reached (c :: previous :: earlier) next := by
  have met : delimiters (c :: previous :: earlier) =
      meet (delimiters (previous :: earlier)) c (previous :: earlier) := rfl
  by_cases expects : Expects (previous :: earlier) (some c)
  · -- The brace of `${` has been counted, and is the delimiter that is open now.
    rw [reached, if_pos expects]
    obtain ⟨inTemplate, sigil, isBrace⟩ := expects
    obtain rfl := Option.some.inj isBrace
    have expectsNothing : ¬Expects ('\x7b' :: previous :: earlier) next := fun expects =>
      absurd (expects_cons_iff.mp expects).2.1 (by decide)
    rw [reached, if_neg expectsNothing, met, meet_brace inTemplate sigil]
    rfl
  · rw [reached, if_neg expects]
    cases mode : modeWithin (delimiters (previous :: earlier)) with
    | code =>
        have expectsNothing : ¬Expects (c :: previous :: earlier) next := fun expects => by
          simp [(expects_cons_iff.mp expects).1] at mode
        rw [turn_code mode, reached, if_neg expectsNothing, met]
    | string =>
        have expectsNothing : ¬Expects (c :: previous :: earlier) next := fun expects => by
          simp [(expects_cons_iff.mp expects).1] at mode
        rw [turn_string mode, reached, if_neg expectsNothing, met]
    | template =>
        have noBrace : ¬(c = '\x7b' ∧ endsInSigil (previous :: earlier)) := by
          rintro ⟨rfl, sigil⟩
          exact expects ⟨mode, sigil, rfl⟩
        rw [turn_template mode previous c next earlier noBrace, reached, met]
        by_cases begins : c = '$' ∧ previous ≠ '\\' ∧ next = some '\x7b'
        · have expectsCode := expects_cons_iff.mpr ⟨mode, begins⟩
          obtain ⟨rfl, _⟩ := id begins
          rw [if_pos begins, if_pos expectsCode, meet_sigil]
        · have expectsNothing : ¬Expects (c :: previous :: earlier) next := fun expects =>
            begins (expects_cons_iff.mp expects).2
          rw [if_neg begins, if_neg expectsNothing]

/-- Nothing is open around the innermost construct when no delimiter is open. -/
theorem stops_reached (read : List Char) (next : Option Char) (c : Char) :
    (reached read next).stops stop c ↔ delimiters read = [] ∧ stop c := by
  have noneAround : (reached read next).outer.isEmpty ↔ delimiters read = [] := by
    unfold reached
    split
    · rename_i expects
      have someOpen : delimiters read ≠ [] := by
        intro nothing
        have inTemplate := expects.1
        rw [nothing] at inTemplate
        contradiction
      simp [ofDelimiters, enclosing, someOpen]
    · cases delimiters read <;> simp [ofDelimiters, enclosing]
  rw [stops, Bool.and_eq_true, noneAround]

/-- What a character becomes in a body depends on what it is in, and on the character that follows it there. -/
theorem copy_reached (previous c : Char) (earlier : List Char) {next following : Option Char}
    (ahead : ∀ d ∈ following, next = some d) :
    (reached (c :: previous :: earlier) next).copy c following =
      if modeWithin (delimiters (previous :: earlier)) = .code then mark c following else [c] := by
  by_cases unmarked : ¬(c = '$' ∧ following.any isAsciiLetter)
  · have same : mark c following = [c] := if_neg (by simpa using unmarked)
    rw [copy_of_not _ unmarked, same, ite_self]
  · obtain ⟨rfl, letter⟩ := not_not.mp unmarked
    obtain ⟨d, isFollowing, isLetter⟩ := (Option.any_eq_true isAsciiLetter _).mp letter
    have expectsNothing : ¬Expects ('$' :: previous :: earlier) next := by
      intro expects
      obtain rfl := Option.some.inj ((ahead d isFollowing).symm.trans expects.2.2)
      exact absurd isLetter (by decide)
    rw [copy, reached, if_neg expectsNothing, delimiters, meet_sigil]
    rfl

end Nesting

/-! ## Scanning by delimiters -/

/-- The characters of a body that are still to be read, when characters have been read, latest first. -/
def span (stop : Char → Bool) (read : List Char) : List Char → List Char
  | [] => []
  | c :: rest => if delimiters read = [] ∧ stop c then [] else c :: span stop (c :: read) rest

/-- A text with a dot behind each `$` that stands in code before a letter, when characters have been read
before it, latest first. -/
def marked (read : List Char) : List Char → List Char
  | [] => []
  | c :: rest =>
    (if modeWithin (delimiters read) = .code then mark c rest.head? else [c]) ++ marked (c :: read) rest

theorem isPrefix_span (stop : Char → Bool) (read chars : List Char) : span stop read chars <+: chars := by
  induction chars generalizing read with
  | nil => exact List.prefix_refl []
  | cons c rest ih =>
      rw [span]
      split
      · exact List.nil_prefix
      · exact (List.prefix_cons_inj c).mpr (ih (c :: read))

/-- Whether the body can end behind so many of the characters that are still to be read. -/
def EndsBehind (stop : Char → Bool) (read chars : List Char) (count : Nat) : Prop :=
  count = chars.length ∨
    delimiters ((chars.take count).reverse ++ read) = [] ∧ ∃ c, chars[count]? = some c ∧ stop c

theorem endsBehind_succ_iff {read rest : List Char} {c : Char} {count : Nat} :
    EndsBehind stop read (c :: rest) (count + 1) ↔ EndsBehind stop (c :: read) rest count := by
  simp [EndsBehind]

/-- A body ends as soon as it can. -/
theorem isLeast_span (read chars : List Char) :
    IsLeast {count | EndsBehind stop read chars count} (span stop read chars).length := by
  induction chars generalizing read with
  | nil => exact ⟨.inl rfl, fun count _ => Nat.zero_le count⟩
  | cons c rest ih =>
      rw [span]
      by_cases ends : delimiters read = [] ∧ stop c
      · rw [if_pos ends]
        exact ⟨.inr ⟨ends.1, c, rfl, ends.2⟩, fun count _ => Nat.zero_le count⟩
      · rw [if_neg ends]
        refine ⟨endsBehind_succ_iff.mpr (ih (c :: read)).1, fun count canEnd => ?_⟩
        cases count with
        | zero =>
            rcases canEnd with nothing | ⟨nothingOpen, d, isFirst, stops⟩
            · contradiction
            · obtain rfl := Option.some.inj isFirst
              exact absurd ⟨nothingOpen, stops⟩ ends
        | succ count => exact Nat.succ_le_succ ((ih (c :: read)).2 (endsBehind_succ_iff.mp canEnd))

/-- A scan collects the characters up to the end of the body, and marks them. -/
theorem scan_eq_marked {p : Progress} {previous : Char} {earlier chars : List Char}
    (tells : p.nesting = .reached (previous :: earlier) chars.head?) :
    let body := span stop (previous :: earlier) chars
    scan stop p previous chars =
      (p.collected body.head? ++ marked (previous :: earlier) body, chars.drop body.length) := by
  induction chars generalizing p previous earlier with
  | nil =>
      intro body
      rw [scan, script_flush p (show ¬none.any isAsciiLetter by simp)]
      simp [body, span, marked]
  | cons c rest ih =>
      intro body
      rw [List.head?_cons] at tells
      have stops : p.stops stop c ↔ delimiters (previous :: earlier) = [] ∧ stop c := by
        rw [← Nesting.stops_reached (previous :: earlier) (some c), ← tells]
        rfl
      have bodyEq : body = if delimiters (previous :: earlier) = [] ∧ stop c then [] else
          c :: span stop (c :: previous :: earlier) rest := rfl
      rw [scan]
      by_cases ends : delimiters (previous :: earlier) = [] ∧ stop c
      · rw [if_pos (stops.mpr ends), bodyEq, if_pos ends,
          script_flush p (show ¬none.any isAsciiLetter by simp)]
        simp [marked]
      · have onwards : (p.step previous c rest.head?).nesting =
            .reached (c :: previous :: earlier) rest.head? := by
          rw [← Nesting.turn_reached, ← tells]
          exact nesting_turn p previous c rest.head?
        have ahead : ∀ d ∈ (span stop (c :: previous :: earlier) rest).head?, rest.head? = some d :=
          fun d isHead => by
            obtain ⟨more, whole⟩ := isPrefix_span stop (c :: previous :: earlier) rest
            rw [← whole, List.head?_append, isHead]
            rfl
        rw [if_neg (mt stops.mp ends), ih onwards, collected_step, tells, Nesting.turn_reached,
          Nesting.copy_reached previous c earlier ahead, bodyEq, if_neg ends]
        simp [marked]

/-- The body that begins with a character, with that character or without it. -/
theorem extract_eq_marked {source : String} {start : Nat} {first : Char} {rest : List Char}
    (behind : source.toList.drop start = first :: rest) (excludeFirst : Bool) :
    let body := span stop [first] rest
    extract source start stop excludeFirst =
      (String.ofList (if excludeFirst then marked [first] body else marked [] (first :: body)),
        start + 1 + body.length) := by
  intro body
  have lengths : rest.length - (rest.drop body.length).length = body.length := by
    have shorter : body.length ≤ rest.length := (isPrefix_span stop [first] rest).length_le
    rw [List.length_drop]
    omega
  have begins (segment : List Char) : ({ segment := segment } : Progress).nesting = .reached [first] rest.head? :=
    rfl
  unfold extract bare
  rw [behind]
  cases excludeFirst with
  | true =>
      have scanned : scan stop {} first rest = (marked [first] body, rest.drop body.length) :=
        scan_eq_marked (begins [])
      simp only [if_true, scanned, lengths]
  | false =>
      have scanned : scan stop { segment := [first] } first rest =
          (mark first body.head? ++ [] ++ marked [first] body, rest.drop body.length) :=
        scan_eq_marked (begins [first])
      simp only [Bool.false_eq_true, if_false, scanned, lengths, List.append_nil]
      rfl

/-! ## Indices -/

/-- The delimiters that are open before the character at an index, in a body that begins at `start`. -/
def delimitersAt (chars : List Char) (start index : Nat) : List Char :=
  delimiters ((chars.take index).drop start).reverse

/-- Whether a body that begins at `start` can end before an index: the source is over, or nothing is open
and the character is a stopping one. -/
def EndsAt (chars : List Char) (start : Nat) (stop : Char → Bool) (index : Nat) : Prop :=
  index = chars.length ∨ delimitersAt chars start index = [] ∧ ∃ c, chars[index]? = some c ∧ stop c

/-- Whether the character at an index is a `$` in code, and a letter follows it before `stopped`. -/
def IsReferenceAt (chars : List Char) (start stopped index : Nat) : Prop :=
  chars[index]? = some '$' ∧ modeWithin (delimitersAt chars start index) = .code ∧
    index + 1 < stopped ∧ (chars[index + 1]?).any isAsciiLetter

instance (chars : List Char) (start stopped index : Nat) :
    Decidable (IsReferenceAt chars start stopped index) :=
  inferInstanceAs (Decidable (_ ∧ _ ∧ _ ∧ _))

/-- The characters from `first` on and before `stopped`, with a dot behind each reference. -/
def dotted (chars : List Char) (start first stopped : Nat) : List Char :=
  (((chars.take stopped).drop first).zipIdx first).flatMap fun (c, index) =>
    if IsReferenceAt chars start stopped index then [c, '.'] else [c]

/-- Marking by what has been read is marking by indices. -/
theorem marked_eq {chars before read text left : List Char} {start stopped : Nat}
    (whole : chars = before ++ (read.reverse ++ (text ++ left))) (begins : before.length = start)
    (ends : start + read.length + text.length = stopped) :
    marked read text =
      (text.zipIdx (start + read.length)).flatMap fun (c, index) =>
        if IsReferenceAt chars start stopped index then [c, '.'] else [c] := by
  subst begins
  induction text generalizing read with
  | nil => rfl
  | cons c rest ih =>
      have regrouped : chars = before ++ ((c :: read).reverse ++ (rest ++ left)) := by
        simp [whole]
      have onwards := ih regrouped (by rw [← ends, List.length_cons, List.length_cons]; omega)
      rw [List.length_cons, ← Nat.add_assoc] at onwards
      have here : chars[before.length + read.length]? = some c := by
        simp [whole]
      have next : chars[before.length + read.length + 1]? = (rest ++ left).head? := by
        have length : (before ++ (c :: read).reverse).length = before.length + read.length + 1 := by
          simp [Nat.add_assoc]
        rw [regrouped, ← List.append_assoc, ← length, List.getElem?_append_right (Nat.le_refl _),
          Nat.sub_self, List.head?_eq_getElem?]
      have opened : delimitersAt chars before.length (before.length + read.length) = delimiters read := by
        rw [delimitersAt, whole, ← List.append_assoc, List.take_left' (by simp), List.drop_left,
          List.reverse_reverse]
      have isReference : IsReferenceAt chars before.length stopped (before.length + read.length) ↔
          modeWithin (delimiters read) = .code ∧ c = '$' ∧ rest.head?.any isAsciiLetter := by
        unfold IsReferenceAt
        rw [here, next, opened, ← ends, Option.some.injEq, and_left_comm]
        cases rest with
        | nil => simp
        | cons d others => simp
      rw [marked, List.zipIdx_cons, List.flatMap_cons, onwards]
      refine congrArg (· ++ _) ?_
      simp only [isReference]
      by_cases inCode : modeWithin (delimiters read) = .code
      · simp only [inCode, true_and, if_true, mark, Bool.and_eq_true, beq_iff_eq]
        split
        · rename_i reference
          rw [reference.1]
        · rfl
      · rw [if_neg inCode, if_neg fun reference => inCode reference.1]

theorem endsAt_iff_endsBehind {chars rest : List Char} {start : Nat} {first : Char}
    (behind : chars.drop start = first :: rest) (count : Nat) :
    EndsAt chars start stop (start + 1 + count) ↔ EndsBehind stop [first] rest count := by
  have length : chars.length = start + 1 + rest.length := by
    have lengths := congrArg List.length behind
    rw [List.length_drop, List.length_cons] at lengths
    omega
  have sameChar : chars[start + 1 + count]? = rest[count]? := by
    rw [Nat.add_assoc, ← List.getElem?_drop, behind, Nat.add_comm 1, List.getElem?_cons_succ]
  have sameDelimiters : delimitersAt chars start (start + 1 + count) =
      delimiters ((rest.take count).reverse ++ [first]) := by
    rw [delimitersAt, List.drop_take, behind, Nat.add_assoc, Nat.add_sub_cancel_left, Nat.add_comm 1,
      List.take_succ_cons, List.reverse_cons]
  rw [EndsAt, EndsBehind, length, sameChar, sameDelimiters, Nat.add_left_cancel_iff]

/-- The body that is cut out is the text of the source up to where it ends, with its references marked. -/
theorem marked_span_eq_dotted {chars rest : List Char} {start : Nat} {c : Char}
    (behind : chars.drop start = c :: rest) (excludeFirst : Bool) :
    let body := span stop [c] rest
    (if excludeFirst then marked [c] body else marked [] (c :: body)) =
      dotted chars start (if excludeFirst then start + 1 else start) (start + 1 + body.length) := by
  intro body
  obtain ⟨left, restEq⟩ := isPrefix_span stop [c] rest
  have whole : chars = chars.take start ++ (c :: (body ++ left)) := by
    rw [restEq, ← behind, List.take_append_drop]
  have length : (chars.take start).length = start := by
    have short := congrArg List.length behind
    rw [List.length_drop, List.length_cons] at short
    rw [List.length_take]
    omega
  have upTo : (chars.take (start + 1 + body.length)).drop start = c :: body := by
    rw [List.drop_take, behind, Nat.add_assoc, Nat.add_sub_cancel_left, Nat.add_comm 1,
      List.take_succ_cons, ← List.prefix_iff_eq_take.mp (isPrefix_span stop [c] rest)]
  cases excludeFirst with
  | true =>
      have behindFirst : (chars.take (start + 1 + body.length)).drop (start + 1) = body := by
        rw [← List.drop_drop, upTo, List.drop_one, List.tail_cons]
      have whole' : chars = chars.take start ++ ([c].reverse ++ (body ++ left)) := whole
      rw [if_pos rfl, if_pos rfl, dotted, behindFirst]
      exact marked_eq whole' length rfl
  | false =>
      have whole' : chars = chars.take start ++ ([].reverse ++ ((c :: body) ++ left)) := whole
      rw [if_neg Bool.false_ne_true, if_neg Bool.false_ne_true, dotted, upTo]
      refine marked_eq whole' length ?_
      rw [List.length_nil, List.length_cons]
      omega

/-- The scan for the end of a body, one character at a time. The body that begins at `start` ends at the first
index behind `start` at which it can end. Its text is that of the source up to there, with the character at
`start` or without it, and with a dot behind each `$` that stands in code before a letter of the body. All
else is copied as it stands. -/
theorem extract_eq_dotted {source : String} {start : Nat} (inside : start < source.length)
    (stop : Char → Bool) (excludeFirst : Bool) :
    let (script, stopped) := extract source start stop excludeFirst
    let first := if excludeFirst then start + 1 else start
    start < stopped ∧ stopped ≤ source.length ∧
      IsLeast {index | start < index ∧ EndsAt source.toList start stop index} stopped ∧
      script = String.ofList (dotted source.toList start first stopped) := by
  obtain ⟨c, rest, behind⟩ : ∃ c rest, source.toList.drop start = c :: rest := by
    apply List.exists_cons_of_ne_nil
    rwa [ne_eq, List.drop_eq_nil_iff, String.length_toList, Nat.not_le]
  have least := @isLeast_span stop [c] rest
  have prefixLength := (isPrefix_span stop [c] rest).length_le
  have lengths := congrArg List.length behind
  rw [List.length_drop, List.length_cons, String.length_toList] at lengths
  rw [extract_eq_marked behind excludeFirst]
  refine ⟨by omega, by omega, ⟨⟨by omega, ?_⟩, ?_⟩, ?_⟩
  · exact (endsAt_iff_endsBehind behind _).mpr least.1
  · rintro index ⟨later, canEnd⟩
    obtain ⟨count, rfl⟩ := Nat.exists_eq_add_of_le (Nat.succ_le_of_lt later)
    exact Nat.add_le_add_left (least.2 ((endsAt_iff_endsBehind behind count).mp canEnd)) (start + 1)
  · rw [marked_span_eq_dotted behind]

/-- References before a quotation mark, in brackets in a template, and before the letter that ends the body. -/
theorem extract_eq_dotted_of_letter :
    let source := "x$b'$c;'\x60$d$\x7b$e[;$f]\x7d$g\x60$z"
    let stop : Char → Bool := fun c => c == ';' || c == 'z'
    let script := "$.b'$c;'\x60$d$\x7b$.e[;$.f]\x7d$g\x60$"
    1 < source.length ∧ extract source 1 stop false = (script, 25) ∧ 1 < 25 ∧ 25 ≤ source.length ∧
      IsLeast {index | 1 < index ∧ EndsAt source.toList 1 stop index} 25 ∧
      script = String.ofList (dotted source.toList 1 1 25) := by
  intro source stop script
  have inside : 1 < source.length := by decide +kernel
  have found : extract source 1 stop false = (script, 25) := by decide +kernel
  have described := extract_eq_dotted inside stop false
  rw [found] at described
  exact ⟨inside, found, described⟩

end Linework.Body
