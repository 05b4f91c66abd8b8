import Linework.Proofs.Token.Lexical

/-!
# Levels of brackets

In code a scan keeps account of the brackets that are open, and of nothing else. When they are known at
the start of a piece of code, the piece can be cut out with its references marked, and they are known
again behind it. A quotation in code is copied as it stands, and leaves the brackets as they were.
-/

namespace Linework.Body

open Linework.Text

/-! ## Open brackets -/

/-- The brackets that are open behind a character, innermost first. There are none when the character
closes a bracket that is not the innermost. -/
def level? (openers : List Char) (c : Char) : Option (List Char) :=
  if isOpener c then some (c :: openers)
  else if isCloser c then
    match openers with
    | opener :: outer => if closer? opener = some c then some outer else none
    | [] => none
  else some openers

/-- The brackets that are open behind some code. -/
def levels? (openers chars : List Char) : Option (List Char) :=
  chars.foldlM level? openers

theorem exists_of_levels?_cons {openers final rest : List Char} {c : Char}
    (levels : levels? openers (c :: rest) = some final) :
    ∃ openers', level? openers c = some openers' ∧ levels? openers' rest = some final :=
  Option.bind_eq_some_iff.mp levels

theorem exists_of_levels?_append {openers final code rest : List Char}
    (levels : levels? openers (code ++ rest) = some final) :
    ∃ openers', levels? openers code = some openers' ∧ levels? openers' rest = some final := by
  rw [levels?, List.foldlM_append] at levels
  exact Option.bind_eq_some_iff.mp levels

theorem exists_of_isOpener {c : Char} (opens : isOpener c) : ∃ closer, closer? c = some closer := by
  simp only [isOpener, Bool.or_eq_true, beq_iff_eq] at opens
  rcases opens with (rfl | rfl) | rfl
  · exact ⟨')', rfl⟩
  · exact ⟨']', rfl⟩
  · exact ⟨'\x7d', rfl⟩

namespace Nesting

/-- What is around code in brackets. -/
def around : List Char → List Open
  | [] => []
  | _ :: outer => ⟨.code, outer.head?⟩ :: around outer

/-- Inside code in brackets. -/
def atLevel (openers : List Char) : Nesting :=
  inCode openers.head? (around openers)

/-- In code, the brackets alone decide what is open. -/
theorem turn_level {openers openers' : List Char} {c : Char} (noQuote : isQuote c = false)
    (level : level? openers c = some openers') (previous : Char) (next : Option Char) :
    (atLevel openers).turn previous c next = atLevel openers' := by
  unfold level? at level
  split at level
  · rename_i opens
    obtain ⟨closer, closes⟩ := exists_of_isOpener opens
    obtain rfl := Option.some.inj level
    exact turn_opener closes previous next
  · rename_i noOpener
    split at level
    · cases openers with
      | nil => contradiction
      | cons opener outer =>
          by_cases closes : closer? opener = some c
          · obtain rfl : outer = openers' := by simpa [closes] using level
            exact turn_closer closes ⟨.code, outer.head?⟩ previous next
          · simp [closes] at level
    · rename_i noCloser
      obtain rfl := Option.some.inj level
      exact turn_character noQuote (eq_false_of_ne_true noOpener) (eq_false_of_ne_true noCloser)
        previous next

/-- The scan does not stop at a bracket that closes one of the code. -/
theorem goesOn_of_level? {openers openers' : List Char} {c : Char}
    (level : level? openers c = some openers') : ¬(atLevel openers).stops (· == '\x7d') c := by
  cases openers with
  | nil =>
      intro stops
      have isBrace : (c == '\x7d') = true := stops
      obtain rfl := eq_of_beq isBrace
      contradiction
  | cons => simp [stops, atLevel, inCode, around]

/-! ## Cutting code and quotations -/

/-- Characters that a scan copies as they stand, and the rest of what it finds. -/
def behind (copied : List Char) (found : List Char × List Char) : List Char × List Char :=
  (copied ++ found.1, found.2)

theorem cut_code_congr_previous (previous previous' : Char) (openers chars : List Char) :
    (atLevel openers).cut (· == '\x7d') previous chars =
      (atLevel openers).cut (· == '\x7d') previous' chars := by
  cases chars with
  | nil => rfl
  | cons c rest => rw [atLevel, cut, cut, turn_code_congr_previous previous previous']

/-- A piece is cut out with its references marked, when no letter follows it. -/
theorem cut_piece {openers openers' piece tail : List Char} (noQuote : ∀ c ∈ piece, isQuote c = false)
    (levels : levels? openers piece = some openers') (noLetter : ¬tail.head?.any isAsciiLetter)
    (previous previous' : Char) :
    (atLevel openers).cut (· == '\x7d') previous (piece ++ tail) =
      behind (markReferences piece) ((atLevel openers').cut (· == '\x7d') previous' tail) := by
  rw [markReferences_eq_markBefore, ← markBefore_of_noLetter noLetter]
  induction piece generalizing openers previous with
  | nil =>
      obtain rfl := Option.some.inj levels
      exact cut_code_congr_previous previous previous' openers tail
  | cons c rest ih =>
      obtain ⟨inner, level, levels⟩ := exists_of_levels?_cons levels
      obtain ⟨noQuoteFirst, noQuoteRest⟩ := List.forall_mem_cons.mp noQuote
      have head : (rest ++ tail).head? = rest.head?.or tail.head? := List.head?_append
      rw [List.cons_append, cut_of_goesOn (goesOn_of_level? level),
        turn_level noQuoteFirst level, ih noQuoteRest levels, head]
      simp [behind, markBefore, copy, atLevel, inCode]

variable {mark : Char}

theorem copy_mark (isMark : isQuote mark) (nesting : Nesting) (next : Option Char) :
    nesting.copy mark next = [mark] := by
  apply copy_of_not
  rintro ⟨rfl, _⟩
  contradiction

/-- What stands in a quotation is copied, and the quotation mark behind it. -/
theorem cut_content {content : List Char} (isMark : isQuote mark) (noTemplate : mark ≠ '\x60')
    (noMark : mark ∉ content) (noBackslash : '\\' ∉ content) (openers : List Char) {previous : Char}
    (plain : previous ≠ '\\') (tail : List Char) :
    (inQuotation mark (⟨.code, openers.head?⟩ :: around openers)).cut (· == '\x7d') previous
        (content ++ mark :: tail) =
      behind (content ++ [mark]) ((atLevel openers).cut (· == '\x7d') mark tail) := by
  have goesOn (c : Char) :
      ¬(inQuotation mark (⟨.code, openers.head?⟩ :: around openers)).stops (· == '\x7d') c := by
    simp [stops, inQuotation]
  induction content generalizing previous with
  | nil =>
      rw [List.nil_append, cut_of_goesOn (goesOn mark), turn_end isMark plain, copy_mark isMark]
      rfl
  | cons c rest ih =>
      rw [List.mem_cons, not_or] at noMark noBackslash
      have copied : (inQuotation mark (⟨.code, openers.head?⟩ :: around openers)).copy c
          (rest ++ mark :: tail).head? = [c] := by
        simp [copy, inQuotation, noTemplate]
      rw [List.cons_append, cut_of_goesOn (goesOn c),
        turn_content (fun same => absurd same.symm noMark.1) (fun same => absurd same noTemplate),
        ih noMark.2 noBackslash.2 (Ne.symm noBackslash.1), copied]
      rfl

/-- A quotation in code is copied as it stands. -/
theorem cut_quotation {content : List Char} (isMark : isQuote mark) (noTemplate : mark ≠ '\x60')
    (noMark : mark ∉ content) (noBackslash : '\\' ∉ content) (openers : List Char) (previous : Char)
    (tail : List Char) :
    (atLevel openers).cut (· == '\x7d') previous (mark :: (content ++ mark :: tail)) =
      behind (mark :: (content ++ [mark])) ((atLevel openers).cut (· == '\x7d') mark tail) := by
  have noBrace : mark ≠ '\x7d' ∧ mark ≠ '\\' := by
    constructor <;>
      · rintro rfl
        contradiction
  have goesOn : ¬(atLevel openers).stops (· == '\x7d') mark := by
    simp [stops, noBrace.1]
  rw [cut_of_goesOn goesOn, copy_mark isMark, atLevel, turn_mark isMark,
    cut_content isMark noTemplate noMark noBackslash openers noBrace.2 tail]
  rfl

end Nesting

end Linework.Body
