import Linework.Script.Sigil

/-!
# Sigils, one character at a time

The places that are looked at for sigils are as many as there are characters, and so never too few. What is
done at a place then depends on what stands there alone: a literal is passed over, a sigil is dropped, and
any other character is kept.
-/

namespace Linework.Script

/-! ## Taking literals -/

variable {quote : Char} {chars literal rest : List Char}

theorem append_of_throughTriple? (found : throughTriple? quote chars = some (literal, rest)) :
    chars = literal ++ rest := by
  fun_induction throughTriple? quote chars generalizing literal <;> grind [Option.map_eq_some_iff]

theorem append_of_throughQuote? (found : throughQuote? quote chars = some (literal, rest)) :
    chars = literal ++ rest := by
  fun_induction throughQuote? quote chars generalizing literal <;> grind [Option.map_eq_some_iff]

theorem append_of_takeLiteral? (found : takeLiteral? chars = some (literal, rest)) :
    chars = literal ++ rest ∧ literal ≠ [] := by
  unfold takeLiteral? at found
  split at found <;>
    grind [Option.map_eq_some_iff, → append_of_throughTriple?, → append_of_throughQuote?]

/-- A literal takes some of the characters. -/
theorem length_of_takeLiteral? (found : takeLiteral? chars = some (literal, rest)) :
    rest.length < chars.length := by
  obtain ⟨rfl, nonempty⟩ := append_of_takeLiteral? found
  have positive := List.length_pos_iff.mpr nonempty
  rw [List.length_append]
  omega

theorem throughQuote?_cons {c : Char} (noBackslash : c ≠ '\\') (noLineBreak : c ≠ '\n')
    (noQuote : c ≠ quote) :
    throughQuote? quote (c :: chars) =
      (throughQuote? quote chars).map fun (inside, rest) => (c :: inside, rest) := by
  rw [throughQuote?]
  · simp [noBackslash, noLineBreak, noQuote]
  · simp [noBackslash]

theorem throughQuote?_self (noBackslash : quote ≠ '\\') :
    throughQuote? quote (quote :: chars) = some ([quote], chars) := by
  rw [throughQuote?]
  · simp
  · simp [noBackslash]

theorem throughQuote?_content {content : List Char} (isQuote : quote ≠ '\\')
    (noQuote : quote ∉ content) (noBackslash : '\\' ∉ content) (noLineBreak : '\n' ∉ content) :
    throughQuote? quote (content ++ quote :: rest) = some (content ++ [quote], rest) := by
  induction content with
  | nil => exact throughQuote?_self isQuote
  | cons c content ih =>
      rw [List.mem_cons, not_or] at noQuote noBackslash noLineBreak
      rw [List.cons_append, throughQuote?_cons (Ne.symm noBackslash.1) (Ne.symm noLineBreak.1)
        (Ne.symm noQuote.1), ih noQuote.2 noBackslash.2 noLineBreak.2]
      rfl

/-- Unless three marks stand in a row, the literal goes to the next mark. -/
theorem takeLiteral?_cons (mark : isQuote quote)
    (noTriple : chars.head? = some quote → chars.tail.head? ≠ some quote) :
    takeLiteral? (quote :: chars) =
      (throughQuote? quote chars).map fun (inside, rest) => (quote :: inside, rest) := by
  rcases chars with _ | ⟨b, _ | ⟨c, others⟩⟩
  · simp [takeLiteral?, mark]
  · simp [takeLiteral?, mark]
  · have single : (b == quote && c == quote) = false := by
      simpa using noTriple
    simp [takeLiteral?, mark, single]

/-- A literal is taken for one when its mark does not stand behind it again. -/
theorem takeLiteral?_content {content : List Char} (mark : isQuote quote) (noQuote : quote ∉ content)
    (noBackslash : '\\' ∉ content) (noLineBreak : '\n' ∉ content) (single : rest.head? ≠ some quote) :
    takeLiteral? (quote :: (content ++ quote :: rest)) = some (quote :: (content ++ [quote]), rest) := by
  have isQuote : quote ≠ '\\' := by
    rintro rfl
    contradiction
  rw [takeLiteral?_cons mark, throughQuote?_content isQuote noQuote noBackslash noLineBreak]
  · rfl
  · cases content with
    | nil => exact fun _ => single
    | cons c others =>
        intro isMark
        obtain rfl := Option.some.inj isMark
        exact absurd List.mem_cons_self noQuote

/-! ## Dropping sigils -/

variable {c : Char} {count : Nat}

theorem takeLiteral?_of_noQuote (noQuote : isQuote c = false) : takeLiteral? (c :: chars) = none := by
  rcases chars with _ | ⟨b, _ | ⟨d, others⟩⟩ <;> simp [takeLiteral?, noQuote]

theorem dropSigilsFrom_literal (found : takeLiteral? (c :: chars) = some (literal, rest)) :
    dropSigilsFrom (count + 1) (c :: chars) = literal ++ dropSigilsFrom count rest := by
  simp only [dropSigilsFrom.eq_def (count + 1), found]

theorem dropSigilsFrom_sigil :
    dropSigilsFrom (count + 1) ('$' :: '.' :: rest) = dropSigilsFrom count rest := by
  simp only [dropSigilsFrom.eq_def (count + 1), takeLiteral?_of_noQuote (show isQuote '$' = false by rfl)]

theorem dropSigilsFrom_cons (noLiteral : takeLiteral? (c :: rest) = none)
    (noSigil : c = '$' → rest.head? ≠ some '.') :
    dropSigilsFrom (count + 1) (c :: rest) = c :: dropSigilsFrom count rest := by
  rw [dropSigilsFrom, noLiteral]
  rintro others rfl rfl
  exact noSigil rfl rfl

/-- It is enough to look at as many places as there are. -/
theorem dropSigilsFrom_congr {count' : Nat} (enough : chars.length ≤ count)
    (enough' : chars.length ≤ count') : dropSigilsFrom count chars = dropSigilsFrom count' chars := by
  induction count generalizing chars count' with
  | zero =>
      obtain rfl := List.length_eq_zero_iff.mp (Nat.le_zero.mp enough)
      cases count' <;> rfl
  | succ count ih =>
      rcases count' with _ | count'
      · obtain rfl := List.length_eq_zero_iff.mp (Nat.le_zero.mp enough')
        rfl
      rcases chars with _ | ⟨c, rest⟩
      · rfl
      rw [List.length_cons] at enough enough'
      cases found : takeLiteral? (c :: rest) with
      | some taken =>
          have shorter := length_of_takeLiteral? found
          rw [List.length_cons] at shorter
          rw [dropSigilsFrom_literal found, dropSigilsFrom_literal found]
          exact congrArg (taken.1 ++ ·) (ih (by omega) (by omega))
      | none =>
          by_cases sigil : c = '$' ∧ rest.head? = some '.'
          · obtain ⟨rfl, isDot⟩ := sigil
            obtain ⟨others, rfl⟩ := List.head?_eq_some_iff.mp isDot
            rw [List.length_cons] at enough enough'
            rw [dropSigilsFrom_sigil, dropSigilsFrom_sigil]
            exact ih (by omega) (by omega)
          · have noSigil := fun isSigil isDot => sigil ⟨isSigil, isDot⟩
            rw [dropSigilsFrom_cons found noSigil, dropSigilsFrom_cons found noSigil]
            exact congrArg (c :: ·) (ih (by omega) (by omega))

theorem dropSigilsFrom_eq (enough : chars.length ≤ count) : dropSigilsFrom count chars = dropSigils chars :=
  dropSigilsFrom_congr enough (Nat.le_refl _)

theorem dropSigils_literal (found : takeLiteral? chars = some (literal, rest)) :
    dropSigils chars = literal ++ dropSigils rest := by
  have shorter := length_of_takeLiteral? found
  obtain ⟨c, others, rfl⟩ := List.exists_cons_of_length_pos (Nat.zero_lt_of_lt shorter)
  exact (dropSigilsFrom_literal found).trans
    (congrArg (literal ++ ·) (dropSigilsFrom_eq (Nat.le_of_lt_succ shorter)))

theorem dropSigils_sigil : dropSigils ('$' :: '.' :: rest) = dropSigils rest :=
  dropSigilsFrom_sigil.trans (dropSigilsFrom_eq (by simp))

theorem dropSigils_cons (noQuote : isQuote c = false) (noSigil : c = '$' → rest.head? ≠ some '.') :
    dropSigils (c :: rest) = c :: dropSigils rest :=
  dropSigilsFrom_cons (takeLiteral?_of_noQuote noQuote) noSigil

end Linework.Script
