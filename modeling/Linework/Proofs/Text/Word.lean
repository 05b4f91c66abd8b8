import Linework.Text.Blank
import Mathlib.Tactic.Common

/-!
# Words of a text

A word is a piece of text without blanks. The words of a text are read across its words and apart at its
blanks: a blank ends the words before it, and those behind it are the words of what is behind it.
-/

namespace Linework.Text

/-- A piece of text that is a word by itself. -/
structure IsWord (word : String) : Prop where
  nonempty : word ≠ ""
  solid : ∀ c ∈ word.toList, isBlank c = false

theorem isWord_of_all {word : String} (nonempty : word ≠ "") (solid : word.toList.all (!isBlank ·)) :
    IsWord word :=
  ⟨nonempty, by simpa using solid⟩

instance (word : String) : Decidable (IsWord word) :=
  decidable_of_iff (word ≠ "" ∧ word.toList.all (!isBlank ·))
    ⟨fun both => isWord_of_all both.1 both.2, fun isWord => ⟨isWord.nonempty, by simpa using isWord.solid⟩⟩

/-- Words in a line, with a space between them. -/
def line (words : List String) : String :=
  String.ofList ([' '].intercalate (words.map String.toList))

theorem wordsFrom_append_solid {chars : List Char} (solid : ∀ c ∈ chars, isBlank c = false)
    (word rest : List Char) :
    wordsFrom word (chars ++ rest) = wordsFrom (chars.reverse ++ word) rest := by
  induction chars generalizing word with
  | nil => rfl
  | cons c chars ih =>
      obtain ⟨notBlank, others⟩ := List.forall_mem_cons.mp solid
      rw [List.cons_append, wordsFrom, notBlank, if_neg Bool.false_ne_true, ih others]
      simp

theorem words_line {words : List String} (solid : ∀ word ∈ words, IsWord word) :
    Text.words (line words) = words := by
  have wordsFrom_line : wordsFrom [] ([' '].intercalate (words.map String.toList)) =
      words.map String.toList := by
    induction words with
    | nil => rfl
    | cons word others ih =>
        obtain ⟨isWord, othersSolid⟩ := List.forall_mem_cons.mp solid
        have nonempty : word.toList.reverse ≠ [] := by
          simpa using isWord.nonempty
        cases others with
        | nil =>
            have read := wordsFrom_append_solid isWord.solid [] []
            simp only [List.append_nil, wordsFrom, List.isEmpty_iff, nonempty, if_false] at read
            simpa using read
        | cons next others =>
            have blank : isBlank ' ' = true := by decide +kernel
            rw [List.map_cons, List.map_cons, List.intercalate_cons_cons, List.append_assoc,
              wordsFrom_append_solid isWord.solid, List.singleton_append, wordsFrom, if_pos blank,
              List.append_nil]
            simp only [List.isEmpty_iff, nonempty, if_false, List.reverse_reverse]
            rw [← List.map_cons, ih othersSolid]
  rw [Text.words, line, String.toList_ofList, wordsFrom_line]
  simp

/-- A blank parts the words before it from those behind it. -/
theorem wordsFrom_append_blank {c : Char} (blank : isBlank c) (word chars rest : List Char) :
    wordsFrom word (chars ++ c :: rest) = wordsFrom word chars ++ wordsFrom [] rest := by
  induction chars generalizing word with
  | nil =>
      rw [List.nil_append, wordsFrom, wordsFrom, if_pos blank]
      split <;> rfl
  | cons first chars ih =>
      rw [List.cons_append, wordsFrom, wordsFrom]
      split
      · split
        · exact ih []
        · rw [ih, List.cons_append]
      · exact ih (first :: word)

/-- A blank at the end of a text adds no word. -/
theorem words_append_blank {c : Char} (blank : isBlank c) (chars : List Char) :
    words (String.ofList (chars ++ [c])) = words (String.ofList chars) := by
  have parted := wordsFrom_append_blank blank [] chars []
  rw [wordsFrom] at parted
  simpa [words] using congrArg (List.map String.ofList) parted

theorem words_of_isWord {word : String} (isWord : IsWord word) : words word = [word] := by
  have alone := wordsFrom_append_solid isWord.solid [] []
  have nonempty : word.toList ≠ [] := by simpa using isWord.nonempty
  simp only [List.append_nil, wordsFrom, List.isEmpty_iff, List.reverse_eq_nil_iff, nonempty, if_false,
    List.reverse_reverse] at alone
  simp [words, alone]

/-- A word behind a blank is one more word. -/
theorem words_append_word {c : Char} (blank : isBlank c) (chars : List Char) {word : String}
    (isWord : IsWord word) :
    words (String.ofList (chars ++ c :: word.toList)) = words (String.ofList chars) ++ [word] := by
  rw [← words_of_isWord isWord]
  simp [words, wordsFrom_append_blank blank]

end Linework.Text
