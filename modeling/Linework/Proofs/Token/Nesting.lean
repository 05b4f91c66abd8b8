import Linework.Proofs.Token.Body
import Mathlib.Data.List.Chain

/-!
# Bodies, one character at a time

A scan collects a body in segments, and marks the references of a segment when it is done. What the scan
does with a character depends on the constructs that are open alone, and what the character becomes in the
body depends on them and on the character after it. So a body can be cut out one character at a time, and
that is what this file works with.

The dots that are put into a body are of no consequence to a scan. A body that has been cut out once is
therefore left alone when it is scanned again.
-/

namespace Linework.Body

open Linework.Text

variable {stop : Char → Bool}

/-! ## Open constructs -/

/-- The part of a scan's progress that decides how it goes on: all but what has been collected. -/
structure Nesting where
  inner : Open := ⟨.code, none⟩
  outer : List Open := []
  counted : Bool := false

/-- The constructs that are open in a scan. -/
def Progress.nesting (p : Progress) : Nesting :=
  ⟨p.inner, p.outer, p.counted⟩

namespace Nesting

/-- A scan that has collected nothing yet. -/
def progress (nesting : Nesting) : Progress :=
  { inner := nesting.inner, outer := nesting.outer, counted := nesting.counted }

/-- The effect of a character on the open constructs, given its neighbours. -/
def turn (nesting : Nesting) (previous c : Char) (next : Option Char) : Nesting :=
  (nesting.progress.turn previous c next).nesting

/-- Whether a scan stops at a character. -/
def stops (nesting : Nesting) (stop : Char → Bool) (c : Char) : Bool :=
  nesting.outer.isEmpty && stop c

theorem turn_of_isPlain {c : Char} (plain : isPlain c) (nesting : Nesting) (previous : Char)
    (next : Option Char) : nesting.turn previous c next = { nesting with counted := false } := by
  rw [turn, Body.turn_of_isPlain plain]
  rfl

/-- Of the character before, it matters only whether it is a backslash. -/
theorem turn_congr_previous {previous previous' : Char} (plain : previous ≠ '\\')
    (plain' : previous' ≠ '\\') (nesting : Nesting) (c : Char) (next : Option Char) :
    nesting.turn previous c next = nesting.turn previous' c next := by
  grind [turn, Progress.turn]

/-- Of the character after, it matters only whether it is a brace. -/
theorem turn_congr_next {next next' : Option Char} (same : next = some '\x7b' ↔ next' = some '\x7b')
    (nesting : Nesting) (previous c : Char) :
    nesting.turn previous c next = nesting.turn previous c next' := by
  grind [turn, Progress.turn]

/-- A `$` in code opens and closes nothing. -/
theorem turn_sigil {nesting : Nesting} {previous : Char} {next : Option Char}
    (inCode : (nesting.turn previous '$' next).inner.mode = .code) (noBrace : next ≠ some '\x7b') :
    nesting.turn previous '$' next = { nesting with counted := false } := by
  have closesNothing := closes_nothing (show isCloser '$' = false by rfl) nesting.inner.opener
  obtain ⟨inner, outer, counted⟩ := nesting
  unfold turn Progress.turn at inCode ⊢
  simp only [progress, show isQuote '$' = false by rfl, show isOpener '$' = false by rfl] at *
  cases counted with
  | true => rfl
  | false =>
      cases mode : inner.mode <;> simp_all [Progress.nesting]

end Nesting

/-- What a scan has collected has no part in what a character opens and closes. -/
theorem nesting_turn (p : Progress) (previous c : Char) (next : Option Char) :
    (p.turn previous c next).nesting = p.nesting.turn previous c next := by
  obtain ⟨inner, outer, script, segment, counted⟩ := p
  cases outer <;>
    grind [Nesting.turn, Nesting.progress, Progress.nesting, Progress.turn, Progress.enter,
      Progress.leave, Progress.flush]

/-- A letter is plain. -/
theorem isPlain_of_isAsciiLetter {c : Char} (letter : isAsciiLetter c) : isPlain c := by
  cases plain : isPlain c with
  | true => rfl
  | false =>
      simp only [isPlain, isQuote, isOpener, isCloser, Bool.and_eq_false_iff, Bool.not_eq_false',
        Bool.or_eq_true, beq_iff_eq, bne_eq_false_iff_eq] at plain
      rcases plain with ((((rfl | rfl) | rfl) | ((rfl | rfl) | rfl)) | ((rfl | rfl) | rfl)) | rfl <;>
        exact absurd letter (by decide)

/-- A character goes on in the segment, or starts another one and is no letter. -/
theorem turn_cases (p : Progress) (previous c : Char) (next : Option Char) :
    ((p.turn previous c next).script = p.script ∧ (p.turn previous c next).segment = p.segment ∧
        (p.turn previous c next).inner.mode = p.inner.mode) ∨
      ((p.turn previous c next).script = p.flush.script ∧ (p.turn previous c next).segment = [] ∧
        ¬isAsciiLetter c) := by
  by_cases letter : isAsciiLetter c
  · left
    rw [turn_of_isPlain (isPlain_of_isAsciiLetter letter)]
    exact ⟨rfl, rfl, rfl⟩
  · grind [Progress.turn, Progress.enter, Progress.leave, Progress.flush]

/-! ## Cutting by characters -/

/-- What a character of code becomes in a body. -/
def mark (c : Char) (next : Option Char) : List Char :=
  if c == '$' && next.any isAsciiLetter then ['$', '.'] else [c]

/-- A part of a body with its references marked, when a character may follow it. -/
def markBefore (next : Option Char) : List Char → List Char
  | [] => []
  | c :: rest => mark c (rest.head?.or next) ++ markBefore next rest

theorem markReferences_eq_markBefore (chars : List Char) : markReferences chars = markBefore none chars := by
  induction chars with
  | nil => rfl
  | cons c rest ih =>
      rw [markReferences, markBefore, mark, Option.or_none, ih]
      split <;> rfl

theorem markBefore_concat (next : Option Char) (chars : List Char) (c : Char) :
    markBefore next (chars ++ [c]) = markBefore (some c) chars ++ mark c next := by
  induction chars with
  | nil => simp [markBefore]
  | cons first rest ih =>
      have follows : (rest ++ [c]).head?.or next = rest.head?.or (some c) := by
        cases rest <;> rfl
      rw [List.cons_append, markBefore, markBefore, follows, ih, List.append_assoc]

/-- A character that is no letter is as good as none. -/
theorem markBefore_of_noLetter {next : Option Char} (noLetter : ¬next.any isAsciiLetter)
    (chars : List Char) : markBefore next chars = markBefore none chars := by
  induction chars with
  | nil => rfl
  | cons c rest ih =>
      have same : mark c (rest.head?.or next) = mark c (rest.head?.or none) := by
        cases rest with
        | nil => simp [mark, noLetter]
        | cons => rfl
      rw [markBefore, markBefore, same, ih]

namespace Nesting

/-- What a character becomes in a body when it has had its effect. -/
def copy (nesting : Nesting) (c : Char) (next : Option Char) : List Char :=
  if nesting.inner.mode = .code then mark c next else [c]

/-- Cut a body out: the body and the characters that are left. -/
def cut (stop : Char → Bool) (nesting : Nesting) (previous : Char) :
    List Char → List Char × List Char
  | [] => ([], [])
  | c :: rest =>
    if nesting.stops stop c then ([], c :: rest)
    else
      let nesting' := nesting.turn previous c rest.head?
      let found := cut stop nesting' c rest
      (nesting'.copy c rest.head? ++ found.1, found.2)

end Nesting

/-- What has been collected so far, when a character may follow it. -/
def Progress.collected (p : Progress) (next : Option Char) : List Char :=
  p.script ++
    if p.inner.mode = .code then markBefore next p.segment.reverse else p.segment.reverse

theorem script_flush (p : Progress) {next : Option Char} (noLetter : ¬next.any isAsciiLetter) :
    p.flush.script = p.collected next := by
  rw [Progress.collected, markBefore_of_noLetter noLetter, ← markReferences_eq_markBefore]
  rfl

/-- A step collects what the character becomes, whatever follows it in the body. -/
theorem collected_step (p : Progress) (previous c : Char) (next following : Option Char) :
    (p.step previous c next).collected following =
      p.collected (some c) ++ (p.nesting.turn previous c next).copy c following := by
  have mode : (p.nesting.turn previous c next).inner.mode = (p.turn previous c next).inner.mode := by
    rw [← nesting_turn]
    rfl
  unfold Nesting.copy
  rw [mode, Progress.step, Progress.collected]
  rcases turn_cases p previous c next with ⟨script, segment, sameMode⟩ | ⟨script, segment, noLetter⟩
  · rw [script, segment, sameMode, List.reverse_cons, markBefore_concat, Progress.collected]
    split <;> rw [List.append_assoc]
  · rw [script, segment, script_flush p (show ¬(some c).any isAsciiLetter from noLetter)]
    simp [markBefore]

/-- A scan that does not stop at letters cuts the body out character by character. -/
theorem scan_eq_cut (goesOn : ∀ c, isAsciiLetter c → stop c = false) (p : Progress) (previous : Char)
    (chars : List Char) :
    scan stop p previous chars =
      (p.collected chars.head? ++ (p.nesting.cut stop previous chars).1,
        (p.nesting.cut stop previous chars).2) := by
  induction chars generalizing p previous with
  | nil =>
      rw [scan, Nesting.cut, script_flush p (show ¬none.any isAsciiLetter by simp), List.append_nil]
      rfl
  | cons c rest ih =>
      rw [scan, Nesting.cut, show p.nesting.stops stop c = p.stops stop c from rfl]
      split
      · rename_i stops
        have noLetter : ¬isAsciiLetter c := by
          intro letter
          simp [Progress.stops, goesOn c letter] at stops
        rw [script_flush p (show ¬(some c).any isAsciiLetter from noLetter), List.append_nil]
        rfl
      · have nesting : (p.step previous c rest.head?).nesting = p.nesting.turn previous c rest.head? :=
          nesting_turn p previous c rest.head?
        rw [ih, collected_step, nesting, List.append_assoc]
        rfl

/-- A braced script does not end at a letter. -/
theorem letter_goesOn (c : Char) (letter : isAsciiLetter c) : (c == '\x7d') = false := by
  rw [beq_eq_false_iff_ne]
  rintro rfl
  exact absurd letter (by decide)

theorem braced_eq_cut (first : Char) (rest : List Char) :
    braced first rest = ({} : Nesting).cut (· == '\x7d') first rest :=
  scan_eq_cut letter_goesOn {} first rest

/-! ## Bodies without references -/

/-- No `$` is directly followed by a letter. -/
def IsUnmarked (chars : List Char) : Prop :=
  chars.IsChain fun c next => ¬(c = '$' ∧ isAsciiLetter next)

instance (chars : List Char) : Decidable (IsUnmarked chars) :=
  inferInstanceAs (Decidable (List.IsChain _ _))

namespace Nesting

theorem copy_of_not (nesting : Nesting) {c : Char} {next : Option Char}
    (unmarked : ¬(c = '$' ∧ next.any isAsciiLetter)) : nesting.copy c next = [c] := by
  have same : mark c next = [c] := if_neg (by simpa using unmarked)
  rw [copy, same, ite_self]

theorem cut_of_stops {nesting : Nesting} {c : Char} (stops : nesting.stops stop c) (previous : Char)
    (rest : List Char) : nesting.cut stop previous (c :: rest) = ([], c :: rest) := by
  rw [cut, if_pos stops]

theorem cut_of_goesOn {nesting : Nesting} {c : Char} (goesOn : ¬nesting.stops stop c) (previous : Char)
    (rest : List Char) :
    nesting.cut stop previous (c :: rest) =
      ((nesting.turn previous c rest.head?).copy c rest.head? ++
          ((nesting.turn previous c rest.head?).cut stop c rest).1,
        ((nesting.turn previous c rest.head?).cut stop c rest).2) := by
  rw [cut, if_neg goesOn]

/-- What is left of the characters is the end of them, and begins where the scan stops. -/
theorem exists_of_cut (stop : Char → Bool) (nesting : Nesting) (previous : Char) (chars : List Char) :
    (∃ code, chars = code ++ (nesting.cut stop previous chars).2) ∧
      ∀ last ∈ (nesting.cut stop previous chars).2.head?, stop last := by
  induction chars generalizing nesting previous with
  | nil => exact ⟨⟨[], rfl⟩, by simp [cut]⟩
  | cons c rest ih =>
      by_cases stops : nesting.stops stop c
      · rw [cut_of_stops stops]
        refine ⟨⟨[], rfl⟩, fun last isLast => ?_⟩
        obtain rfl := Option.some.inj isLast
        exact (Bool.and_eq_true_iff.mp stops).2
      · rw [cut_of_goesOn stops]
        obtain ⟨⟨code, whole⟩, isStop⟩ := ih (nesting.turn previous c rest.head?) c
        refine ⟨⟨c :: code, ?_⟩, isStop⟩
        rw [List.cons_append, ← whole]

/-- Code in which nothing is marked is copied as it stands. -/
theorem cut_of_isUnmarked (letters : ∀ c, isAsciiLetter c → stop c = false) {nesting : Nesting}
    {previous : Char} {chars code : List Char}
    (whole : chars = code ++ (nesting.cut stop previous chars).2) (unmarked : IsUnmarked code) :
    (nesting.cut stop previous chars).1 = code := by
  induction chars generalizing nesting previous code with
  | nil => exact (List.append_eq_nil_iff.mp whole.symm).1.symm
  | cons c rest ih =>
      by_cases stops : nesting.stops stop c
      · rw [cut_of_stops stops] at whole ⊢
        exact (List.self_eq_append_left.mp whole).symm
      · rw [cut_of_goesOn stops] at whole ⊢
        obtain ⟨⟨others, restEq⟩, isStop⟩ :=
          exists_of_cut stop (nesting.turn previous c rest.head?) c rest
        have codeEq : code = c :: others := by
          apply List.append_cancel_right
          rw [← whole, List.cons_append, ← restEq]
        subst codeEq
        -- The character after the code is no letter, for the scan stops there.
        have noReference : ¬(c = '$' ∧ rest.head?.any isAsciiLetter) := by
          cases others with
          | nil =>
              rintro ⟨_, letter⟩
              obtain ⟨last, isLast, letter⟩ := (Option.any_eq_true isAsciiLetter _).mp letter
              rw [restEq] at isLast
              exact absurd (isStop last isLast) (by simp [letters last letter])
          | cons next others =>
              have chain := List.isChain_cons_cons.mp unmarked
              rw [restEq]
              exact chain.1
        rw [copy_of_not _ noReference, ih restEq unmarked.tail]
        rfl

/-! ## Scanning again -/

/-- Two characters ahead that make no difference. -/
def Alike (next next' : Option Char) : Prop :=
  (next = some '\x7b' ↔ next' = some '\x7b') ∧ next.any isAsciiLetter = next'.any isAsciiLetter

theorem turn_congr {next next' : Option Char} (alike : Alike next next') (nesting : Nesting)
    (previous c : Char) : nesting.turn previous c next = nesting.turn previous c next' :=
  turn_congr_next alike.1 nesting previous c

theorem copy_congr {next next' : Option Char} (alike : Alike next next') (nesting : Nesting) (c : Char) :
    nesting.copy c next = nesting.copy c next' := by
  rw [copy, copy, mark, mark, alike.2]

theorem cut_congr_previous {previous previous' : Char} (plain : previous ≠ '\\')
    (plain' : previous' ≠ '\\') (nesting : Nesting) (chars : List Char) :
    nesting.cut stop previous chars = nesting.cut stop previous' chars := by
  cases chars with
  | nil => rfl
  | cons c rest => rw [cut, cut, turn_congr_previous plain plain']

/-- The constructs that are open where a scan ends, and the character before. -/
def reach (stop : Char → Bool) (nesting : Nesting) (previous : Char) : List Char → Nesting × Char
  | [] => (nesting, previous)
  | c :: rest =>
    if nesting.stops stop c then (nesting, previous)
    else reach stop (nesting.turn previous c rest.head?) c rest

/-- What a character becomes in a body is taken for it by another scan. -/
theorem cut_copy (dot : stop '.' = false) {nesting : Nesting} {previous c : Char} {next : Option Char}
    {tail : List Char} (goesOn : ¬nesting.stops stop c) (alike : Alike next tail.head?) :
    let nesting' := nesting.turn previous c next
    nesting.cut stop previous (nesting'.copy c next ++ tail) =
      (nesting'.copy c next ++ (nesting'.cut stop c tail).1, (nesting'.cut stop c tail).2) := by
  intro nesting'
  by_cases marked : nesting'.inner.mode = .code ∧ c = '$' ∧ next.any isAsciiLetter
  · obtain ⟨inCode, rfl, letter⟩ := marked
    have noBrace : next ≠ some '\x7b' := by
      rintro rfl
      exact absurd letter (by decide)
    have unchanged : nesting' = { nesting with counted := false } := turn_sigil inCode noBrace
    have copied : nesting'.copy '$' next = ['$', '.'] := by
      rw [copy, if_pos inCode, mark, letter]
      rfl
    have sameTurn : nesting.turn previous '$' (some '.') = nesting' :=
      turn_congr_next (by simp [noBrace]) nesting previous '$'
    have dotGoesOn : ¬nesting'.stops stop '.' := by
      simp [stops, dot]
    have dotTurn : nesting'.turn '$' '.' tail.head? = nesting' := by
      rw [turn_of_isPlain (by decide), unchanged]
    rw [copied, List.cons_append, cut_of_goesOn goesOn, List.singleton_append, List.head?_cons, sameTurn,
      cut_of_goesOn dotGoesOn, dotTurn, copy_of_not nesting' (c := '$') (by decide),
      copy_of_not nesting' (c := '.') (by simp),
      cut_congr_previous (show '.' ≠ '\\' by decide) (show '$' ≠ '\\' by decide)]
    rfl
  · have same : nesting'.copy c next = [c] := by
      rw [copy]
      split
      · rename_i inCode
        exact if_neg (by simpa [inCode] using marked)
      · rfl
    rw [same, List.singleton_append, cut_of_goesOn goesOn, ← turn_congr alike, ← copy_congr alike]
    exact congrArg (fun copied => (copied ++ _, _)) same

/-- A character becomes itself, and a dot at most. -/
theorem head?_copy (nesting : Nesting) (c : Char) (next : Option Char) :
    (nesting.copy c next).head? = some c := by
  grind [copy, mark]

/-- What another character ahead makes no difference to. -/
theorem alike_head?_cut {nesting : Nesting} {previous : Char} {chars tail : List Char}
    (alike : Alike (nesting.cut stop previous chars).2.head? tail.head?) :
    Alike chars.head? ((nesting.cut stop previous chars).1 ++ tail).head? := by
  cases chars with
  | nil => exact alike
  | cons c rest =>
      by_cases stops : nesting.stops stop c
      · rw [cut_of_stops stops] at alike ⊢
        exact alike
      · rw [cut_of_goesOn stops]
        rw [List.append_assoc, List.head?_append, head?_copy]
        exact ⟨Iff.rfl, rfl⟩

/-- A body that has been cut out is left alone by another scan, which ends in the same constructs. -/
theorem cut_again (dot : stop '.' = false) {nesting : Nesting} {previous : Char} {chars : List Char}
    (tail : List Char)
    (alike : Alike (nesting.cut stop previous chars).2.head? tail.head?) :
    let body := (nesting.cut stop previous chars).1
    let (reached, last) := nesting.reach stop previous chars
    nesting.cut stop previous (body ++ tail) =
      (body ++ (reached.cut stop last tail).1, (reached.cut stop last tail).2) := by
  induction chars generalizing nesting previous with
  | nil => rfl
  | cons c rest ih =>
      by_cases stops : nesting.stops stop c
      · rw [cut_of_stops stops, reach, if_pos stops]
        rfl
      · rw [cut_of_goesOn stops] at alike
        rw [cut_of_goesOn stops, reach, if_neg stops]
        dsimp only
        rw [List.append_assoc, cut_copy dot stops (alike_head?_cut alike), ih alike, List.append_assoc]

/-- Code that a scan has cut up to its end is cut in the same way when more follows. -/
theorem cut_onwards {nesting : Nesting} {previous : Char} {code : List Char} (tail : List Char)
    (toEnd : (nesting.cut stop previous code).2 = []) (alike : Alike none tail.head?) :
    let (reached, last) := nesting.reach stop previous code
    nesting.cut stop previous (code ++ tail) =
      ((nesting.cut stop previous code).1 ++ (reached.cut stop last tail).1,
        (reached.cut stop last tail).2) := by
  induction code generalizing nesting previous with
  | nil => rfl
  | cons c rest ih =>
      by_cases stops : nesting.stops stop c
      · rw [cut_of_stops stops] at toEnd
        contradiction
      · have ahead : Alike rest.head? (rest ++ tail).head? := by
          cases rest with
          | nil => exact alike
          | cons next rest => exact ⟨Iff.rfl, rfl⟩
        rw [cut_of_goesOn stops] at toEnd ⊢
        rw [reach, if_neg stops, List.cons_append, cut_of_goesOn stops, ← turn_congr ahead,
          ← copy_congr ahead]
        dsimp only
        rw [ih toEnd, List.append_assoc]

/-- A scan that leaves something has ended where it stops. -/
theorem stops_reach {nesting : Nesting} {previous last : Char} {chars left : List Char}
    (found : (nesting.cut stop previous chars).2 = last :: left) :
    (nesting.reach stop previous chars).1.stops stop last := by
  induction chars generalizing nesting previous with
  | nil => contradiction
  | cons c rest ih =>
      by_cases stops : nesting.stops stop c
      · rw [cut_of_stops stops] at found
        obtain ⟨rfl, _⟩ := List.cons.inj found
        rwa [reach, if_pos stops]
      · rw [cut_of_goesOn stops] at found
        rw [reach, if_neg stops]
        exact ih found

end Nesting

/-! ## Closing braces -/

/-- A brace behind the code of a script closes the script. -/
def IsClosable (code : List Char) : Prop :=
  (braced '\x7b' (code ++ ['\x7d'])).2 = ['\x7d']

instance (code : List Char) : Decidable (IsClosable code) :=
  inferInstanceAs (Decidable (_ = _))

/-- Nothing is open in a script where the scan for its end comes to an end. -/
def EndsOutside (code : List Char) : Prop :=
  (({} : Nesting).reach (· == '\x7d') '\x7b' code).1.stops (· == '\x7d') '\x7d'

/-- A brace is no letter, and opens no part of a template. -/
theorem alike_brace : Nesting.Alike none (some '\x7d') :=
  ⟨by decide, by decide⟩

/-- A brace that does not close a script belongs to it. -/
theorem cut_brace_ne_nil {nesting : Nesting} (goesOn : ¬nesting.stops (· == '\x7d') '\x7d') (last : Char)
    (left : List Char) : (nesting.cut (· == '\x7d') last ('\x7d' :: left)).1 ≠ [] := by
  rw [Nesting.cut_of_goesOn goesOn, Nesting.copy_of_not _ (by simp)]
  exact List.cons_ne_nil _ _

/-- A script that is closed is closed by a brace. -/
theorem eq_brace_of_braced {first last : Char} {rest left : List Char}
    (found : (braced first rest).2 = last :: left) : last = '\x7d' := by
  have isStop := (Nesting.exists_of_cut (· == '\x7d') {} first rest).2 last
  rw [← braced_eq_cut, found] at isStop
  exact eq_of_beq (isStop rfl)

theorem endsOutside_of_closed {rest : List Char} (closed : (braced '\x7b' rest).2 ≠ []) :
    EndsOutside rest := by
  obtain ⟨last, left, found⟩ := List.exists_cons_of_ne_nil closed
  obtain rfl := eq_brace_of_braced found
  rw [braced_eq_cut] at found
  exact Nesting.stops_reach found

/-- What follows a body is a brace, or nothing, which is as good. -/
theorem alike_left (rest : List Char) : Nesting.Alike (braced '\x7b' rest).2.head? (some '\x7d') := by
  cases found : (braced '\x7b' rest).2 with
  | nil => exact alike_brace
  | cons last left =>
      obtain rfl := eq_brace_of_braced found
      exact ⟨Iff.rfl, rfl⟩

/-- Another scan of a body takes it whole, and goes on as the first would have. -/
theorem braced_again (rest more : List Char) :
    let (reached, last) := ({} : Nesting).reach (· == '\x7d') '\x7b' rest
    let onwards := reached.cut (· == '\x7d') last ('\x7d' :: more)
    braced '\x7b' ((braced '\x7b' rest).1 ++ '\x7d' :: more) =
      ((braced '\x7b' rest).1 ++ onwards.1, onwards.2) := by
  have alike := alike_left rest
  rw [braced_eq_cut] at alike
  rw [braced_eq_cut, braced_eq_cut]
  exact Nesting.cut_again (by decide) ('\x7d' :: more) alike

/-- A body is whole between braces when nothing is open where the scan for its end came to an end. -/
theorem selfDelimiting_of_endsOutside {rest : List Char} (outside : EndsOutside rest) :
    SelfDelimiting (String.ofList (braced '\x7b' rest).1) := by
  rw [selfDelimiting_iff, String.toList_ofList, braced_again, Nesting.cut_of_stops outside,
    List.append_nil]

/-- If a script keeps its body when a brace is put behind the body, then nothing was open at its end. -/
theorem endsOutside_of_braced {rest more : List Char}
    (same : (braced '\x7b' ((braced '\x7b' rest).1 ++ '\x7d' :: more)).1 = (braced '\x7b' rest).1) :
    EndsOutside rest := by
  by_contra goesOn
  rw [braced_again] at same
  exact cut_brace_ne_nil goesOn _ more (List.self_eq_append_right.mp same.symm)

/-- A brace closes a script that goes to the end of the source if nothing is open there. -/
theorem isClosable_iff_endsOutside {code : List Char} (unclosed : (braced '\x7b' code).2 = []) :
    IsClosable code ↔ EndsOutside code := by
  unfold IsClosable
  rw [braced_eq_cut] at unclosed ⊢
  have onwards := Nesting.cut_onwards ['\x7d'] unclosed alike_brace
  rw [onwards]
  dsimp only
  by_cases outside : EndsOutside code
  · rw [Nesting.cut_of_stops outside]
    exact iff_of_true rfl outside
  · rw [Nesting.cut_of_goesOn outside]
    exact iff_of_false (List.cons_ne_nil _ _).symm outside

end Linework.Body
