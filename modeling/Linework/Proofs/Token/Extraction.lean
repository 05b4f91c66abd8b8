import Linework.Proofs.Token.Nesting

/-!
# Bodies that are cut out again

A body that is closed in its source is a whole body between any two braces. Its references have their dots
by then, and none is given another one; the brace behind it is the one that closes it, whatever follows.
-/

namespace Linework.Body

variable {stop : Char → Bool} {source script : String} {start stopped : Nat}

/-- In code, the character before decides nothing. -/
theorem Nesting.cut_congr_of_code {nesting : Nesting} (inCode : nesting.inner.mode = .code)
    (previous previous' : Char) (chars : List Char) :
    nesting.cut stop previous chars = nesting.cut stop previous' chars := by
  cases chars with
  | nil => rfl
  | cons c rest =>
      have sameTurn : nesting.turn previous c rest.head? = nesting.turn previous' c rest.head? := by
        grind [turn, Progress.turn, progress]
      rw [cut, cut, sameTurn]

/-- A braced body is the same behind any character. -/
theorem braced_congr (first first' : Char) (rest : List Char) : braced first rest = braced first' rest := by
  rw [braced_eq_cut, braced_eq_cut, Nesting.cut_congr_of_code rfl first first']

/-- What is cut out of a source is a braced body, and the rest of the source is left. -/
theorem extract_of_drop {first : Char} {rest : List Char} (behind : source.toList.drop start = first :: rest) :
    extract source start (· == '\x7d') true =
      (String.ofList (braced first rest).1, start + 1 + (rest.length - (braced first rest).2.length)) := by
  unfold extract braced
  rw [behind]
  rfl

/-- Where the scan stops inside of a source, it has found the brace that closes the body. -/
theorem exists_closed_of_extract (found : extract source start (· == '\x7d') true = (script, stopped))
    (inside : stopped < source.length) :
    ∃ rest, (braced '\x7b' rest).2 ≠ [] ∧ script = String.ofList (braced '\x7b' rest).1 := by
  have lengths : (source.toList.drop start).length = source.length - start := by
    rw [List.length_drop, String.length_toList]
  cases behind : source.toList.drop start with
  | nil =>
      unfold extract at found
      rw [behind] at found lengths
      obtain ⟨_, rfl⟩ := Prod.mk.inj found
      rw [List.length_nil] at lengths
      omega
  | cons first rest =>
      rw [extract_of_drop behind, braced_congr first '\x7b'] at found
      obtain ⟨scriptEq, stoppedEq⟩ := Prod.mk.inj found
      refine ⟨rest, fun nothing => ?_, scriptEq.symm⟩
      rw [behind, List.length_cons] at lengths
      rw [nothing, List.length_nil] at stoppedEq
      omega

/-- The brace behind a self-delimiting text closes it, whatever follows. -/
theorem SelfDelimiting.extract_eq (delimited : SelfDelimiting script) (more : String) :
    extract ("\x7b" ++ script ++ "\x7d" ++ more) 0 (· == '\x7d') true = (script, script.length + 1) := by
  have behind : ("\x7b" ++ script ++ "\x7d" ++ more).toList.drop 0 =
      '\x7b' :: (script.toList ++ '\x7d' :: more.toList) := by
    simp
  rw [extract_of_drop behind, delimited.braced_eq, String.ofList_toList]
  simp only [List.length_append, List.length_cons, String.length_toList, Prod.mk.injEq, true_and]
  omega

/-- A body that has been cut out up to the brace that closes it is cut out again where it stands between
braces: the dots that were put into it move nothing, and no reference is given a second one. -/
theorem extract_again (found : extract source start (· == '\x7d') true = (script, stopped))
    (inside : stopped < source.length) (more : String) :
    extract ("\x7b" ++ script ++ "\x7d" ++ more) 0 (· == '\x7d') true = (script, script.length + 1) := by
  obtain ⟨rest, closed, rfl⟩ := exists_closed_of_extract found inside
  exact (selfDelimiting_of_endsOutside (endsOutside_of_closed closed)).extract_eq more

/-- References beside quotes, in brackets and in a template, which begins behind a backslash. -/
theorem extract_again_of_template :
    let source := "a\\$b['$c\\'\x7d', `$d$\x7b$e\x7d`]\x7d f"
    let script := "$.b['$c\\'\x7d', `$d$\x7b$.e\x7d`]"
    extract source 1 (· == '\x7d') true = (script, 24) ∧ 24 < source.length ∧
      extract ("\x7b" ++ script ++ "\x7d" ++ "'\x7d") 0 (· == '\x7d') true = (script, script.length + 1) := by
  intro source script
  have found : extract source 1 (· == '\x7d') true = (script, 24) := by decide +kernel
  have inside : 24 < source.length := by decide +kernel
  exact ⟨found, inside, extract_again found inside "'\x7d"⟩

end Linework.Body
