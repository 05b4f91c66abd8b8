import Linework.Proofs.Token.Concatenation

/-!
# Sources in a row at a separator

A source that ends with a separator outside of every bracket is read to its end before anything behind it
is looked at. So whatever stands behind it is read as a source of its own: a sigil or a backslash at its
head does what it does there, and only the separators on both sides of the seam become one.

The sequence of a source that ends in any other way is dangling: an empty separator stands behind something
that is none. What follows is proved of all sequences that are not.
-/

namespace Linework.Token

/-! ## The last character -/

/-- A run that is left open without dangling is one of separators. -/
theorem boundary_of_not_dangling {run : Run} {held : List Char} (busy : run ≠ .idle)
    (ended : ¬Dangling (close run held)) : run = .boundary := by
  by_contra noSeparator
  exact ended (dangling_close run busy noSeparator held)

/-- A source that ends with a closing bracket is dangling. -/
theorem dangling_store_idle {run : Run} {held : List Char} {c : Char} {ahead : Option Char}
    (turnEq : turn run held c ahead = .run .idle) : Dangling (store run held (close .idle [])) := by
  cases run with
  | group | string => exact ⟨[], _, rfl, rfl⟩
  | idle | text | boundary | continuation => grind [turn]

/-- A separator is read without a look at what follows it. -/
theorem turn_of_boundary {run : Run} {held : List Char} {c : Char} {ahead : Option Char}
    (turnEq : turn run held c ahead = .run .boundary) (ahead' : Option Char) :
    turn run held c ahead' = .run .boundary := by
  cases run with
  | idle | text | boundary | continuation | group | string => grind [turn, startsShorthand]

/-- The last character of a source that does not dangle is a separator, unless a script starts there. -/
theorem boundary_of_last {run next : Run} {held : List Char} {c : Char}
    (turnEq : turn run held c none = .run next) (ended : ¬Dangling (scan run held [c])) :
    next = .boundary := by
  by_cases stays : next = run
  · subst stays
    rw [scan_stay turnEq, scan] at ended
    refine boundary_of_not_dangling ?_ ended
    rintro rfl
    exact turn_idle_ne_idle turnEq
  · rw [scan_move turnEq stays, scan] at ended
    by_cases bracket : next = .idle
    · subst bracket
      exact absurd (dangling_store_idle turnEq) ended
    · exact boundary_of_not_dangling bracket fun dangling => ended (dangling.store run held)

/-- What stands behind a source that does not dangle changes nothing for any of its characters. -/
theorem turn_append_more {run : Run} {held rest : List Char} {c : Char}
    (ended : ¬Dangling (scan run held (c :: rest))) (more : List Char) :
    turn run held c (rest ++ more).head? = turn run held c rest.head? := by
  cases rest with
  | cons d others => rfl
  | nil =>
      rw [List.head?_nil]
      cases turnEq : turn run held c none with
      | run next =>
          obtain rfl := boundary_of_last turnEq ended
          exact turn_of_boundary turnEq _
      | braced | shorthand =>
          -- The script would be left open.
          rw [scan, List.head?_nil, turnEq] at ended
          exact absurd ((dangling_script run _).store run held) ended

/-! ## Reading on behind a separator -/

section Scripts

variable {run : Run} {held left more : List Char} {script : String}

/-- A source that does not dangle ends behind its last script. -/
theorem ne_nil_of_script (ended : ¬Dangling
    (store run held (glue ⟨scriptKind run, script⟩ (scan (afterScript run) [] left)))) : left ≠ [] := by
  rintro rfl
  exact ended ((dangling_script run script).store run held)

/-- A script and what is read behind it, in a row with what stands behind the source. -/
theorem store_script_append
    (ended : ¬Dangling
      (store run held (glue ⟨scriptKind run, script⟩ (scan (afterScript run) [] left))))
    (goesOn : ¬Dangling (scan (afterScript run) [] left) → scan (afterScript run) [] (left ++ more) =
      join (scan (afterScript run) [] left) (scan .idle [] more)) :
    store run held (glue ⟨scriptKind run, script⟩ (scan (afterScript run) [] (left ++ more))) =
      join (store run held (glue ⟨scriptKind run, script⟩ (scan (afterScript run) [] left)))
        (scan .idle [] more) := by
  rw [goesOn fun dangling => ended ((dangling.glue _).store run held), glue_join, store_join]

end Scripts

/-- The rest of a source that does not dangle, and a source behind it, are read in a row. -/
theorem scan_append_of_not_dangling {run : Run} {held chars : List Char}
    (reads : run = .idle → chars ≠ []) (ended : ¬Dangling (scan run held chars)) (more : List Char) :
    scan run held (chars ++ more) = join (scan run held chars) (scan .idle [] more) := by
  induction run, held, chars using scan.induct with
  | case1 run held =>
      rw [scan] at ended
      obtain rfl := boundary_of_not_dangling (fun idle => reads idle rfl) ended
      rw [List.nil_append, scan_eq_store (.inr rfl) fun _ _ _ => rfl, scan]
      rfl
  | case2 held c rest run turnEq ih =>
      have turnEq' := (turn_append_more ended more).trans turnEq
      have busy : run ≠ .idle := by
        rintro rfl
        exact turn_idle_ne_idle turnEq
      rw [scan_stay turnEq] at ended ⊢
      rw [List.cons_append, scan_stay turnEq']
      exact ih (absurd · busy) ended
  | case3 run held c rest next turnEq moves ih =>
      have turnEq' := (turn_append_more ended more).trans turnEq
      rw [scan_move turnEq moves] at ended ⊢
      have further : next = .idle → rest ≠ [] := by
        rintro rfl rfl
        rw [scan] at ended
        exact ended (dangling_store_idle turnEq)
      rw [List.cons_append, scan_move turnEq' moves,
        ih further fun dangling => ended (dangling.store run held), store_join]
  | case4 run held c rest turnEq script ih =>
      have turnEq' := (turn_append_more ended more).trans turnEq
      rw [scan_braced turnEq] at ended ⊢
      have nonempty := ne_nil_of_script ended
      have stopped : (Body.braced c rest).2 ≠ [] := fun nothing => nonempty (by rw [nothing]; rfl)
      have found : Body.braced c (rest ++ more) =
          ((Body.braced c rest).1, (Body.braced c rest).2 ++ more) := Body.scan_append stopped more
      rw [List.cons_append, scan_braced turnEq', found,
        List.drop_append_of_le_length (List.length_pos_iff.mpr stopped)]
      exact store_script_append ended (ih fun _ => nonempty)
  | case5 run held c rest turnEq script ih =>
      have turnEq' := (turn_append_more ended more).trans turnEq
      rw [scan_shorthand turnEq] at ended ⊢
      have nonempty := ne_nil_of_script ended
      have found : Body.bare (endsShorthand run) c (rest ++ more) =
          ((Body.bare (endsShorthand run) c rest).1, (Body.bare (endsShorthand run) c rest).2 ++ more) :=
        Body.scan_append nonempty more
      rw [List.cons_append, scan_shorthand turnEq', found]
      exact store_script_append ended (ih fun _ => nonempty)

/-- The tokens of a source that ends with a separator outside of every bracket, and of any source behind
it, are those of the first with those of the second appended one after the other. -/
theorem tokenize_append {first : String} (ends : ∃ last ∈ (tokenize first).getLast?, last.text ≠ "")
    (second : String) :
    tokenize (first ++ second) =
      (tokenize second).foldl (fun tokens token => join tokens [token]) (tokenize first) := by
  obtain ⟨last, isLast, text⟩ := ends
  have ended := not_dangling isLast text
  have nonempty : first ≠ "" := by
    rintro rfl
    cases isLast
  by_cases nothing : second = ""
  · subst nothing
    rw [String.append_empty]
    rfl
  · rw [foldl_join (isFused_tokenize second), tokenize_of_ne_empty nothing]
    rw [tokenize_of_ne_empty nonempty] at ended ⊢
    rw [tokenize_of_ne_empty (by simp [nonempty]), String.toList_append]
    exact scan_append_of_not_dangling (fun _ => by simpa using nonempty) ended second.toList

/-- Separators on both sides of the seam, a script that ends before it, and a shorthand script and a group
that is left open behind it. -/
theorem tokenize_append_of_straddling :
    (∃ last ∈ (tokenize "grid (a \x7bb\x7d) =x;").getLast?, last.text ≠ "") ∧
      tokenize ("grid (a \x7bb\x7d) =x;" ++ ";\r\n$y (a") =
        (tokenize ";\r\n$y (a").foldl (fun tokens token => join tokens [token])
          (tokenize "grid (a \x7bb\x7d) =x;") := by
  have ends : ∃ last ∈ (tokenize "grid (a \x7bb\x7d) =x;").getLast?, last.text ≠ "" := by
    decide +kernel
  exact ⟨ends, tokenize_append ends ";\r\n$y (a"⟩

end Linework.Token
