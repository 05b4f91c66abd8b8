import Linework.Proofs.Text.Word
import Linework.Proofs.Token.Concatenation

/-!
# Phrases

A phrase is a line of words and groups with a space before each. It is read as one command: words that are
not parted by a group are one text, and each group is a token of its own. Nothing of a phrase is lost or
torn, so that its words and the insides of its groups are the argument words of the command.
-/

namespace Linework.Token

open Linework.Text

/-! ## Pieces -/

/-- A part of a phrase. -/
inductive Piece where
  | word (text : String)
  | group (text : String)

namespace Piece

/-- What stands in a word, or between the parentheses of a group. -/
def text : Piece → String
  | word text | group text => text

/-- A piece as source. -/
def source : Piece → String
  | word text => text
  | group text => "(" ++ text ++ ")"

end Piece

/-- A character that means something to the reader wherever it stands: a bracket, a quotation mark, a
semicolon, a sigil or a backslash. -/
def isReserved (c : Char) : Bool :=
  c == '(' || c == ')' || c == '\x7b' || c == '\x7d' || c == '\x22' || c == ';' || c == '$' || c == '='
    || c == '\\'

/-- Nothing in a text is reserved. -/
def IsFree (text : String) : Prop :=
  ∀ c ∈ text.toList, isReserved c = false

instance (text : String) : Decidable (IsFree text) :=
  decidable_of_iff (text.toList.all (!isReserved ·)) (by simp [IsFree])

/-- Words have no blanks in them, and nothing in a piece is reserved. -/
def Piece.IsSound : Piece → Prop
  | word text => IsWord text ∧ IsFree text
  | group text => IsFree text

/-- The pieces of a phrase as source, each behind a space. -/
def phraseSource (pieces : List Piece) : List Char :=
  pieces.flatMap fun piece => ' ' :: piece.source.toList

/-- The tokens of a phrase behind a text that is still open. -/
def phraseTokens (pending : List Char) : List Piece → List Token
  | [] => if pending = [] then [] else [⟨.text, String.ofList pending⟩]
  | .word text :: rest => phraseTokens (pending ++ ' ' :: text.toList) rest
  | .group text :: rest =>
    ⟨.text, String.ofList (pending ++ [' '])⟩ :: ⟨.group, text⟩ :: phraseTokens [] rest

/-! ## Reading a phrase -/

/-- Outside of every bracket, a character that is not reserved and ends no line is plain text. -/
theorem turn_of_free {run : Run} (outside : run = .idle ∨ run = .text) {c : Char}
    (free : isReserved c = false) (noLineEnd : isLineEnd c = false) (held : List Char)
    (next : Option Char) : turn run held c next = .run .text := by
  rcases outside with rfl | rfl <;> grind [turn, startsShorthand, isReserved]

theorem turn_group_of_free {c : Char} (free : isReserved c = false) (held : List Char)
    (next : Option Char) : turn .group held c next = .run .group := by
  grind [turn, startsShorthand, isReserved]

theorem isLineEnd_of_not_blank {c : Char} (solid : isBlank c = false) : isLineEnd c = false := by
  rw [isLineEnd, Bool.or_eq_false_iff, beq_eq_false_iff_ne, beq_eq_false_iff_ne]
  constructor
  · rintro rfl
    exact absurd solid (by decide +kernel)
  · rintro rfl
    exact absurd solid (by decide +kernel)

/-- A free word is taken into the text that is open. -/
theorem scan_word {text : List Char} (solid : ∀ c ∈ text, isBlank c = false)
    (free : ∀ c ∈ text, isReserved c = false) (held rest : List Char) :
    scan .text held (text ++ rest) = scan .text (text.reverse ++ held) rest := by
  induction text generalizing held with
  | nil => rfl
  | cons c text ih =>
      obtain ⟨solidFirst, solidOthers⟩ := List.forall_mem_cons.mp solid
      obtain ⟨freeFirst, freeOthers⟩ := List.forall_mem_cons.mp free
      rw [List.cons_append,
        scan_stay (turn_of_free (.inr rfl) freeFirst (isLineEnd_of_not_blank solidFirst) held _),
        ih solidOthers freeOthers]
      simp

/-- A group with a free text is read up to its parenthesis. -/
theorem scan_group {text : List Char} (free : ∀ c ∈ text, isReserved c = false) (held rest : List Char) :
    scan .group held (text ++ ')' :: rest) =
      store .group (text.reverse ++ held) (scan .idle [] rest) := by
  induction text generalizing held with
  | nil =>
      have closes : turn .group held ')' rest.head? = .run .idle := by simp [turn]
      exact scan_move closes (by decide)
  | cons c text ih =>
      obtain ⟨freeFirst, freeOthers⟩ := List.forall_mem_cons.mp free
      rw [List.cons_append, scan_stay (turn_group_of_free freeFirst held _), ih freeOthers]
      simp

/-- Read on behind a text that may be empty. -/
def scanBehind (pending rest : List Char) : List Token :=
  if pending = [] then scan .idle [] rest else scan .text pending.reverse rest

theorem scanBehind_space (pending rest : List Char) :
    scanBehind pending (' ' :: rest) = scan .text (' ' :: pending.reverse) rest := by
  have space (run : Run) (outside : run = .idle ∨ run = .text) (held : List Char) :
      turn run held ' ' rest.head? = .run .text :=
    turn_of_free outside (by decide) (by decide) held _
  unfold scanBehind
  split
  · rename_i nothing
    subst nothing
    exact scan_move (space .idle (.inl rfl) []) (by decide)
  · exact scan_stay (space .text (.inr rfl) _)

/-- A phrase is read as its tokens and the separator that ends the source. -/
theorem scanBehind_phrase {pieces : List Piece} (sound : ∀ piece ∈ pieces, piece.IsSound)
    (pending : List Char) :
    scanBehind pending (phraseSource pieces) = phraseTokens pending pieces ++ [⟨.boundary, ""⟩] := by
  induction pieces generalizing pending with
  | nil =>
      unfold scanBehind phraseTokens phraseSource
      split
      · rw [List.flatMap_nil, scan]
        rfl
      · rw [List.flatMap_nil, scan, close, store, List.reverse_reverse]
        · rfl
        · simp
  | cons piece rest ih =>
      obtain ⟨first, others⟩ := List.forall_mem_cons.mp sound
      cases piece with
      | word text =>
          have source : phraseSource (.word text :: rest) = ' ' :: (text.toList ++ phraseSource rest) := rfl
          have nonempty : pending ++ ' ' :: text.toList ≠ [] := by simp
          have behind := ih others (pending ++ ' ' :: text.toList)
          rw [scanBehind, if_neg nonempty] at behind
          rw [source, scanBehind_space, scan_word first.1.solid first.2, phraseTokens, ← behind]
          simp
      | group text =>
          have source : phraseSource (.group text :: rest) =
              ' ' :: '(' :: (text.toList ++ ')' :: phraseSource rest) := by
            simp [phraseSource, Piece.source]
          have opens (held : List Char) (next : Option Char) : turn .text held '(' next = .run .group := by
            simp [turn, isLineEnd]
          have behind := ih others []
          rw [scanBehind, if_pos rfl] at behind
          have group : store .group (text.toList.reverse ++ []) (phraseTokens [] rest ++ [⟨.boundary, ""⟩]) =
              ⟨.group, text⟩ :: (phraseTokens [] rest ++ [⟨.boundary, ""⟩]) := by
            rw [store, glue_eq_cons rfl]
            simp
          rw [source, scanBehind_space, scan_move (opens _ _) (by decide), firstHeld, scan_group first,
            behind, group, phraseTokens]
          simp [store, glue, fuse?]

/-- No token of a phrase ends its region. -/
theorem isBoundary_of_mem_phraseTokens {pieces : List Piece} {pending : List Char} {token : Token}
    (mem : token ∈ phraseTokens pending pieces) : token.isBoundary = false := by
  induction pieces generalizing pending with
  | nil =>
      unfold phraseTokens at mem
      split at mem
      · cases mem
      · rw [List.mem_singleton.mp mem]
        rfl
  | cons piece rest ih =>
      cases piece with
      | word text => exact ih mem
      | group text =>
          rcases List.mem_cons.mp mem with rfl | mem
          · rfl
          rcases List.mem_cons.mp mem with rfl | mem
          · rfl
          · exact ih mem

/-- A phrase behind a word is read as one region. -/
theorem region_phrase {head : String} (isWord : IsWord head) (free : IsFree head) {pieces : List Piece}
    (sound : ∀ piece ∈ pieces, piece.IsSound) {source : String}
    (sourceEq : source.toList = head.toList ++ phraseSource pieces) :
    (tokenize source).takeWhile (!·.isBoundary) = phraseTokens head.toList pieces := by
  have nonempty : head.toList ≠ [] := by simpa using isWord.nonempty
  have read : tokenize source = scanBehind head.toList (phraseSource pieces) := by
    have notEmpty : source ≠ "" := by
      rintro rfl
      exact nonempty (List.append_eq_nil_iff.mp sourceEq.symm).1
    obtain ⟨c, rest, headEq⟩ := List.exists_cons_of_ne_nil nonempty
    have solid := isWord.solid
    unfold IsFree at free
    rw [headEq, List.forall_mem_cons] at solid free
    rw [tokenize_of_ne_empty notEmpty, sourceEq, scanBehind, if_neg nonempty, headEq, List.cons_append,
      scan_move (turn_of_free (.inl rfl) free.1 (isLineEnd_of_not_blank solid.1) [] _) (by decide),
      store, firstHeld, scan_word solid.2 free.2, List.reverse_cons]
    all_goals simp
  have inside : ∀ token ∈ phraseTokens head.toList pieces, (!token.isBoundary) = true := by
    intro token mem
    rw [isBoundary_of_mem_phraseTokens mem]
    rfl
  rw [read, scanBehind_phrase sound, List.takeWhile_append_of_pos inside]
  simp [isBoundary]

end Linework.Token
