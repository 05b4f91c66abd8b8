import Linework.Proofs.Script.Sigil
import Linework.Proofs.Token.Level
import Mathlib.Data.List.Infix

/-!
# References in scripts

A reference `$name` of a script goes two ways before it is run. When the body of the script is cut out of
the source it becomes `$.name`, and when the script is run the sigil `$.` is taken off again. Either way
looks for the literals in the script for itself, for what stands in a literal is not to be touched: the
first keeps account of what is open, the second knows nothing but quotation marks.

They find the same literals, so that in the end a reference has lost its `$` wherever it stands in code, and
nothing else has changed.
-/

namespace Linework.Script

open Linework.Text
open Linework.Body (markReferences levels? extract)

/-! ## Code with literals in it -/

/-- The literal of a text, on one line and without escapes: its quotation mark and what is between two of
it. -/
structure TextLiteral where
  quote : Char
  content : List Char
  isMark : isQuote quote := by decide
  noMark : quote ∉ content := by decide
  noBackslash : '\\' ∉ content := by decide
  noLineBreak : '\n' ∉ content := by decide

/-- A literal as it is written. -/
def TextLiteral.chars (literal : TextLiteral) : List Char :=
  literal.quote :: (literal.content ++ [literal.quote])

theorem TextLiteral.chars_append (literal : TextLiteral) (tail : List Char) :
    literal.chars ++ tail = literal.quote :: (literal.content ++ literal.quote :: tail) := by
  simp [chars]

/-- Literals with a piece of code behind each, as they are written. -/
def written (others : List (TextLiteral × List Char)) : List Char :=
  others.flatMap fun (literal, piece) => literal.chars ++ piece

/-- Code in the order in which it is written. -/
structure Code where
  /-- The piece before the first literal. -/
  first : List Char
  /-- The literals, and the piece behind each. -/
  others : List (TextLiteral × List Char)

namespace Code

/-- Code as it is written. -/
def chars (code : Code) : List Char :=
  code.first ++ written code.others

/-- What stands outside of the literals. -/
def pieces (code : Code) : List (List Char) :=
  code.first :: code.others.map Prod.snd

/-- The same literals between other pieces. -/
def mapPieces (change : List Char → List Char) (code : Code) : Code :=
  ⟨change code.first, code.others.map (Prod.map id change)⟩

end Code

/-- A piece of code has no quotation marks and no sigils. -/
structure IsPiece (piece : List Char) : Prop where
  noQuote : ∀ c ∈ piece, Body.isQuote c = false
  noSigil : ¬['$', '.'] <:+: piece

instance (piece : List Char) : Decidable (IsPiece piece) :=
  decidable_of_iff (piece.all (!Body.isQuote ·) ∧ ¬['$', '.'] <:+: piece)
    ⟨fun both => ⟨by simpa using both.1, both.2⟩, fun sound => ⟨by simpa using sound.noQuote, sound.noSigil⟩⟩

/-- Code whose literals stand apart, and whose brackets are nested when the pieces are taken together. -/
structure Code.IsSound (code : Code) : Prop where
  pieces : ∀ piece ∈ code.pieces, IsPiece piece
  apart : ∀ entry ∈ code.others.dropLast, entry.2 ≠ []
  nested : levels? [] code.pieces.flatten = some []

theorem Code.IsSound.first_and_others {code : Code} (sound : code.IsSound) :
    IsPiece code.first ∧ ∀ entry ∈ code.others, IsPiece entry.2 := by
  obtain ⟨first, others⟩ := List.forall_mem_cons.mp sound.pieces
  exact ⟨first, List.forall_mem_map.mp others⟩

/-- Delete each `$` that is directly followed by a letter. -/
def bareReferences : List Char → List Char
  | [] => []
  | c :: rest =>
    if c == '$' && rest.head?.any isAsciiLetter then bareReferences rest else c :: bareReferences rest

section

variable {literal : TextLiteral} {piece tail : List Char} {others : List (TextLiteral × List Char)}

theorem written_cons (literal : TextLiteral) (piece : List Char) (others : List (TextLiteral × List Char)) :
    written ((literal, piece) :: others) = literal.chars ++ (piece ++ written others) :=
  List.append_assoc literal.chars piece (written others)

/-- What stands behind a piece begins with the mark of a literal. -/
theorem isQuote_of_head?_written {c : Char} (head : (written others).head? = some c) : isQuote c := by
  cases others with
  | nil => contradiction
  | cons entry others =>
      obtain rfl := Option.some.inj head
      exact entry.1.isMark

theorem IsPiece.isQuote_eq_false (sound : IsPiece piece) : ∀ c ∈ piece, isQuote c = false := by
  intro c inside
  have noQuote := sound.noQuote c inside
  grind [Body.isQuote, isQuote]

/-! ## Cutting the code out -/

/-- A literal is copied as it stands. -/
theorem cut_literal (literal : TextLiteral) (openers : List Char) (previous : Char) (tail : List Char) :
    (Body.Nesting.atLevel openers).cut (· == '\x7d') previous (literal.chars ++ tail) =
      Body.Nesting.behind literal.chars
        ((Body.Nesting.atLevel openers).cut (· == '\x7d') literal.quote tail) := by
  have isMark := literal.isMark
  rw [literal.chars_append]
  apply Body.Nesting.cut_quotation _ _ literal.noMark literal.noBackslash
  all_goals grind [isQuote, Body.isQuote]

/-- No letter follows a piece. -/
theorem noLetter_written (others : List (TextLiteral × List Char)) :
    ¬(written others ++ ['\x7d']).head?.any isAsciiLetter := by
  rw [List.head?_append]
  cases head : (written others).head? with
  | none => decide
  | some c =>
      have isMark := isQuote_of_head?_written head
      simp only [isQuote, Bool.or_eq_true, beq_iff_eq] at isMark
      rcases isMark with rfl | rfl <;> decide

/-- Literals are copied, and the pieces behind them are cut out with their references marked, up to the
brace behind them all. -/
theorem cut_written (sound : ∀ entry ∈ others, IsPiece entry.2) {openers : List Char}
    (levels : levels? openers (others.map Prod.snd).flatten = some []) (previous : Char) :
    (Body.Nesting.atLevel openers).cut (· == '\x7d') previous (written others ++ ['\x7d']) =
      (written (others.map (Prod.map id markReferences)), ['\x7d']) := by
  induction others generalizing openers previous with
  | nil =>
      obtain rfl := Option.some.inj levels
      exact Body.Nesting.cut_of_stops rfl previous []
  | cons entry others ih =>
      obtain ⟨literal, piece⟩ := entry
      -- The literal leaves the brackets as they are, and its piece may open and close some.
      obtain ⟨inner, levels, levelsRest⟩ := Body.exists_of_levels?_append levels
      obtain ⟨soundPiece, soundRest⟩ := List.forall_mem_cons.mp sound
      rw [written_cons, List.append_assoc, cut_literal literal openers, List.append_assoc,
        Body.Nesting.cut_piece soundPiece.noQuote levels (noLetter_written others) literal.quote '\x7b',
        ih soundRest levelsRest, List.map_cons, Prod.map_apply, written_cons]
      rfl

/-- Sound code is cut out whole, with its references marked and its literals as they stand. -/
theorem braced_code {code : Code} (sound : code.IsSound) :
    Body.braced '\x7b' (code.chars ++ ['\x7d']) = ((code.mapPieces markReferences).chars, ['\x7d']) := by
  obtain ⟨openers, levels, levelsRest⟩ := Body.exists_of_levels?_append sound.nested
  obtain ⟨soundFirst, soundRest⟩ := sound.first_and_others
  rw [Body.braced_eq_cut, Code.chars, List.append_assoc]
  refine (Body.Nesting.cut_piece soundFirst.noQuote levels (noLetter_written code.others) '\x7b' '\x7b').trans ?_
  rw [cut_written soundRest levelsRest]
  rfl

theorem extract_code {code : Code} (sound : code.IsSound) :
    (extract ("\x7b" ++ String.ofList code.chars ++ "\x7d") 0 (· == '\x7d') true).1 =
      String.ofList (code.mapPieces markReferences).chars := by
  have chars : ("\x7b" ++ String.ofList code.chars ++ "\x7d").toList =
      '\x7b' :: (code.chars ++ ['\x7d']) := by
    simp
  have whole := braced_code sound
  unfold Body.braced at whole
  unfold extract
  rw [chars]
  simp only [List.drop_zero, if_true, whole]

/-! ## Dropping the sigils again -/

theorem head?_markReferences (piece : List Char) : (markReferences piece).head? = piece.head? := by
  cases piece <;> grind [markReferences]

/-- The sigils of a piece are those of its references. -/
theorem dropSigils_piece (sound : IsPiece piece) (noDot : tail.head? ≠ some '.') :
    dropSigils (markReferences piece ++ tail) = bareReferences piece ++ dropSigils tail := by
  have noQuote := sound.isQuote_eq_false
  have noSigil := sound.noSigil
  clear sound
  induction piece with
  | nil => rfl
  | cons c piece ih =>
      obtain ⟨noQuoteFirst, noQuoteRest⟩ := List.forall_mem_cons.mp noQuote
      have noSigilRest : ¬['$', '.'] <:+: piece := fun inside =>
        noSigil (inside.trans (List.suffix_cons c piece).isInfix)
      specialize ih noQuoteRest noSigilRest
      by_cases reference : (c == '$' && piece.head?.any isAsciiLetter) = true
      · rw [markReferences, bareReferences, if_pos reference, if_pos reference, List.cons_append,
          List.cons_append, dropSigils_sigil, ih]
      · rw [markReferences, bareReferences, if_neg reference, if_neg reference, List.cons_append,
          dropSigils_cons noQuoteFirst, ih]
        · rfl
        · rintro rfl isDot
          rw [List.head?_append, head?_markReferences] at isDot
          cases piece with
          | nil => exact noDot isDot
          | cons c piece =>
              obtain rfl := Option.some.inj isDot
              exact noSigil ⟨[], piece, rfl⟩

theorem takeLiteral?_chars (single : tail.head? ≠ some literal.quote) :
    takeLiteral? (literal.chars ++ tail) = some (literal.chars, tail) := by
  rw [literal.chars_append]
  exact takeLiteral?_content literal.isMark literal.noMark literal.noBackslash literal.noLineBreak single

theorem noDot_written (others : List (TextLiteral × List Char)) : (written others).head? ≠ some '.' := by
  intro isDot
  have isMark := isQuote_of_head?_written isDot
  contradiction

/-- Behind a literal there is a piece or nothing, so that the mark of the literal is not there again. -/
theorem single_mark (sound : IsPiece piece) (apart : others = [] ∨ piece ≠ []) :
    (markReferences piece ++ written others).head? ≠ some literal.quote := by
  rw [List.head?_append, head?_markReferences]
  cases piece with
  | nil =>
      obtain rfl := apart.resolve_right fun nonempty => nonempty rfl
      exact Option.some_ne_none _ ∘ Eq.symm
  | cons c piece =>
      intro same
      have isMark := literal.isMark
      rw [← Option.some.inj same, sound.isQuote_eq_false c List.mem_cons_self] at isMark
      contradiction

theorem apart_cons (apart : ∀ entry ∈ ((literal, piece) :: others).dropLast, entry.2 ≠ []) :
    (others = [] ∨ piece ≠ []) ∧ ∀ entry ∈ others.dropLast, entry.2 ≠ [] := by
  cases others with
  | nil => simp
  | cons next others =>
      rw [List.dropLast_cons_of_ne_nil (List.cons_ne_nil next others)] at apart
      exact ⟨.inr (apart _ List.mem_cons_self), fun _ mem => apart _ (List.mem_cons_of_mem _ mem)⟩

/-- The literals are found where they were written, and the references in the pieces behind them lose their
sigils. -/
theorem dropSigils_written (sound : ∀ entry ∈ others, IsPiece entry.2)
    (apart : ∀ entry ∈ others.dropLast, entry.2 ≠ []) :
    dropSigils (written (others.map (Prod.map id markReferences))) =
      written (others.map (Prod.map id bareReferences)) := by
  induction others with
  | nil => rfl
  | cons entry others ih =>
      obtain ⟨literal, piece⟩ := entry
      obtain ⟨soundPiece, soundRest⟩ := List.forall_mem_cons.mp sound
      obtain ⟨apart, apartRest⟩ := apart_cons apart
      specialize ih soundRest apartRest
      have single : (markReferences piece ++
          written (others.map (Prod.map id markReferences))).head? ≠ some literal.quote :=
        single_mark soundPiece (apart.imp_left (congrArg (List.map (Prod.map id markReferences))))
      rw [List.map_cons, List.map_cons, Prod.map_apply, Prod.map_apply, written_cons, written_cons]
      exact (dropSigils_literal (takeLiteral?_chars single)).trans
        (congrArg (literal.chars ++ ·) ((dropSigils_piece soundPiece (noDot_written _)).trans
          (congrArg (bareReferences piece ++ ·) ih)))

end

/-! ## Both ways together -/

/-- In a script that has been cut out of the source and rid of its sigils, each reference has lost its `$`
and each literal is as it was written. -/
theorem dropSigils_extract {code : Code} (sound : code.IsSound) :
    dropSigils (extract ("\x7b" ++ String.ofList code.chars ++ "\x7d") 0 (· == '\x7d') true).1.toList =
      (code.mapPieces bareReferences).chars := by
  rw [extract_code sound, String.toList_ofList]
  obtain ⟨soundFirst, soundRest⟩ := sound.first_and_others
  calc dropSigils (code.mapPieces markReferences).chars
    _ = bareReferences code.first ++ dropSigils (written (code.others.map (Prod.map id markReferences))) :=
      dropSigils_piece soundFirst (noDot_written _)
    _ = (code.mapPieces bareReferences).chars :=
      congrArg (bareReferences code.first ++ ·) (dropSigils_written soundRest sound.apart)

/-- Nested brackets around two literals: one with the other quotation mark and a closing bracket in it, and an
empty one between two sigils. -/
def bracketedCode : Code where
  first := "$f($x[".toList
  others :=
    [({ quote := '\x22', content := "$y]'".toList }, "], $$".toList),
      ({ quote := '\x27', content := [] }, "$$z)".toList)]

theorem dropSigils_extract_of_brackets :
    bracketedCode.IsSound ∧
      dropSigils (extract "\x7b$f($x[\"$y]'\"], $$''$$z)\x7d" 0 (· == '\x7d') true).1.toList =
        "f(x[\"$y]'\"], $$''$z)".toList := by
  have sound : bracketedCode.IsSound := by
    constructor <;> decide
  have source : "\x7b$f($x[\"$y]'\"], $$''$$z)\x7d" =
      "\x7b" ++ String.ofList bracketedCode.chars ++ "\x7d" := by
    decide
  rw [source, dropSigils_extract sound]
  exact ⟨sound, by decide⟩

end Linework.Script
