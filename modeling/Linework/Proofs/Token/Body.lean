import Linework.Token.Body

/-!
# Where a script body ends

A body is cut out by looking at one character and its neighbours at a time, so that what comes after
the character that ends it plays no part. A text that is a whole body when it stands between braces is
therefore the same body wherever it stands between braces.
-/

namespace Linework.Body

variable {stop : Char → Bool}

/-- What a scan leaves is the end of what it was given. -/
theorem suffix_scan (p : Progress) (previous : Char) (chars : List Char) :
    (scan stop p previous chars).2 <:+ chars := by
  induction chars generalizing p previous with
  | nil =>
      exact List.nil_suffix
  | cons c rest ih =>
      rw [scan]
      split
      · exact List.suffix_refl (c :: rest)
      · exact (ih _ _).trans (List.suffix_cons c rest)

/-- A scan that stops behind a text stops there whatever follows the character that it stops at. -/
theorem scan_append_cons {p : Progress} {previous last : Char} {text body rest : List Char}
    (stopped : scan stop p previous (text ++ last :: rest) = (body, last :: rest))
    (rest' : List Char) :
    scan stop p previous (text ++ last :: rest') = (body, last :: rest') := by
  induction text generalizing p previous with
  | nil =>
      rw [List.nil_append, scan] at stopped ⊢
      split at stopped
      · rename_i stops
        rw [if_pos stops]
        rw [Prod.mk.injEq] at stopped ⊢
        exact ⟨stopped.1, rfl⟩
      · -- What is left would be longer than what was given.
        have shorter := length_scan_le stop (p.step previous last rest.head?) last rest
        rw [stopped, List.length_cons] at shorter
        omega
  | cons c chars ih =>
      rw [List.cons_append, scan] at stopped ⊢
      have sameNext : (chars ++ last :: rest').head? = (chars ++ last :: rest).head? := by
        cases chars <;> rfl
      split at stopped
      · have lengths := congrArg List.length (Prod.mk.inj stopped).2
        simp only [List.length_cons, List.length_append] at lengths
        omega
      · rename_i goesOn
        rw [if_neg goesOn, sameNext]
        exact ih stopped

/-- A scan that stops before the end leaves, with more behind what it is given, that much more. -/
theorem scan_append {p : Progress} {previous : Char} {chars : List Char}
    (stopped : (scan stop p previous chars).2 ≠ []) (more : List Char) :
    scan stop p previous (chars ++ more) =
      ((scan stop p previous chars).1, (scan stop p previous chars).2 ++ more) := by
  obtain ⟨text, whole⟩ : (scan stop p previous chars).2 <:+ chars := suffix_scan p previous chars
  obtain ⟨last, left, leaves⟩ := List.exists_cons_of_ne_nil stopped
  have found : scan stop p previous (text ++ last :: left) =
      ((scan stop p previous chars).1, last :: left) := by
    rw [← leaves, whole]
  have onwards := scan_append_cons found (left ++ more)
  rw [← List.cons_append, ← List.append_assoc, ← leaves, whole] at onwards
  exact onwards

/-- What a scan leaves begins with a character that stops it. -/
theorem stop_of_scan {p : Progress} {previous last : Char} {chars left : List Char}
    (stopped : (scan stop p previous chars).2 = last :: left) : stop last := by
  induction chars generalizing p previous with
  | nil => simp [scan] at stopped
  | cons c rest ih =>
      rw [scan] at stopped
      split at stopped
      · rename_i stops
        obtain ⟨rfl, _⟩ := List.cons.inj stopped
        exact (Bool.and_eq_true_iff.mp stops).2
      · exact ih stopped

/-- A body that ends before a last character ends there whatever is in place of that character. -/
theorem exists_scan_append {p : Progress} {previous next : Char} {chars : List Char}
    (goesOn : ¬stop next) (stopped : (scan stop p previous (chars ++ [next])).2 ≠ []) :
    ∃ body text last left, stop last ∧ chars = text ++ last :: left ∧
      ∀ more, scan stop p previous (chars ++ more) = (body, last :: (left ++ more)) := by
  obtain ⟨last, left, leaves⟩ := List.exists_cons_of_ne_nil stopped
  have stops := stop_of_scan leaves
  obtain ⟨text, whole⟩ : (scan stop p previous (chars ++ [next])).2 <:+ chars ++ [next] :=
    suffix_scan p previous (chars ++ [next])
  obtain ⟨body, found⟩ : ∃ body, scan stop p previous (chars ++ [next]) = (body, last :: left) :=
    ⟨_, Prod.ext rfl leaves⟩
  rw [leaves] at whole
  -- The stopping character is not the one at the end, so that something is left behind it.
  rcases List.eq_nil_or_concat left with rfl | ⟨left, final, rfl⟩
  · obtain ⟨_, same⟩ := List.append_inj' whole rfl
    exact absurd (List.cons.inj same).1 fun same => goesOn (same ▸ stops)
  · rw [List.concat_eq_append] at whole found
    rw [← List.cons_append, ← List.append_assoc] at whole
    obtain ⟨charsEq, _⟩ := List.append_inj' whole rfl
    refine ⟨body, text, last, left, stops, charsEq.symm, fun more => ?_⟩
    rw [← whole, List.append_assoc, List.cons_append] at found
    rw [← charsEq, List.append_assoc, List.cons_append]
    exact scan_append_cons found (left ++ more)

/-- A text that is a whole script body when it stands between braces. -/
def SelfDelimiting (text : String) : Prop :=
  extract ("\x7b" ++ text ++ "\x7d") 0 (· == '\x7d') true = (text, text.length + 1)

instance (text : String) : Decidable (SelfDelimiting text) :=
  inferInstanceAs (Decidable (_ = _))

/-- A self-delimiting text is cut out whole, up to the closing brace. -/
theorem selfDelimiting_iff {text : String} :
    SelfDelimiting text ↔
      braced '\x7b' (text.toList ++ ['\x7d']) = (text.toList, ['\x7d']) := by
  have chars : ("\x7b" ++ text ++ "\x7d").toList = '\x7b' :: (text.toList ++ ['\x7d']) := by
    simp
  unfold SelfDelimiting extract braced
  rw [chars]
  simp only [List.drop_zero, if_true]
  have suffix : (scan (· == '\x7d') {} '\x7b' (text.toList ++ ['\x7d'])).2 <:+
      text.toList ++ ['\x7d'] := suffix_scan _ _ _
  generalize scan (· == '\x7d') {} '\x7b' (text.toList ++ ['\x7d']) = found at suffix ⊢
  obtain ⟨body, left⟩ := found
  constructor
  · intro whole
    rw [Prod.mk.injEq] at whole
    have lengthLe := suffix.length_le
    have length : left.length = 1 := by
      have stopped := whole.2
      simp only [List.length_append, List.length_singleton, String.length_toList] at stopped lengthLe
      omega
    have leftEq : left = ['\x7d'] := by
      have drop := List.suffix_iff_eq_drop.mp suffix
      rw [length] at drop
      simpa using drop
    rw [← whole.1, leftEq, String.toList_ofList]
  · intro whole
    rw [Prod.mk.injEq] at whole
    rw [whole.1, whole.2, String.ofList_toList]
    simp only [List.length_append, List.length_singleton, String.length_toList, Prod.mk.injEq,
      true_and]
    omega

/-- The braces around a self-delimiting text hold it and nothing else. -/
theorem SelfDelimiting.braced_eq {text : String} (delimited : SelfDelimiting text)
    (rest : List Char) :
    braced '\x7b' (text.toList ++ '\x7d' :: rest) = (text.toList, '\x7d' :: rest) :=
  scan_append_cons (selfDelimiting_iff.mp delimited) rest

/-! ## Plain bodies -/

/-- The three closing brackets. -/
def isCloser (c : Char) : Bool :=
  c == ')' || c == ']' || c == '\x7d'

/-- Whether a character of a body stands for itself: it neither opens nor closes anything, and refers to
nothing. -/
def isPlain (c : Char) : Bool :=
  !isQuote c && !isOpener c && !isCloser c && c != '$'

theorem markReferences_of_notMem {chars : List Char} (absent : '$' ∉ chars) :
    markReferences chars = chars := by
  induction chars with
  | nil => rfl
  | cons c rest ih =>
      rw [List.mem_cons, not_or] at absent
      have noReference : ¬(c == '$' && rest.head?.any Text.isAsciiLetter) = true := by
        simp [Ne.symm absent.1]
      rw [markReferences, if_neg noReference, ih absent.2]

/-- Only a closing bracket closes a bracket. -/
theorem closes_nothing {c : Char} (noCloser : isCloser c = false) (opener : Option Char) :
    ¬opener.bind closer? = some c := by
  intro closes
  obtain ⟨opener, _, closes⟩ := Option.bind_eq_some_iff.mp closes
  unfold closer? at closes
  split at closes
  all_goals first | contradiction | (obtain rfl := Option.some.inj closes; contradiction)

/-- A plain character opens and closes no construct. -/
theorem turn_of_isPlain {c : Char} (plain : isPlain c) (p : Progress) (previous : Char)
    (next : Option Char) : p.turn previous c next = { p with counted := false } := by
  simp only [isPlain, Bool.and_eq_true, Bool.not_eq_true', bne_iff_ne] at plain
  obtain ⟨⟨⟨noQuote, noOpener⟩, noCloser⟩, noSigil⟩ := plain
  unfold Progress.turn
  rw [noQuote, noOpener, if_neg (closes_nothing noCloser p.inner.opener)]
  split
  · rfl
  · rename_i notCounted
    have same : { p with counted := false } = p := by
      rw [← eq_false_of_ne_true notCounted]
    rw [same]
    cases p.inner.mode <;> simp [noSigil]

/-- A body of plain characters is cut out as it stands, up to the closing brace. -/
theorem braced_of_isPlain {code : List Char} (plain : ∀ c ∈ code, isPlain c) (first : Char)
    (rest : List Char) : braced first (code ++ '\x7d' :: rest) = (code, '\x7d' :: rest) := by
  have read (previous : Char) (segment : List Char) (noReference : '$' ∉ segment) :
      scan (· == '\x7d') { segment := segment } previous (code ++ '\x7d' :: rest) =
        (segment.reverse ++ code, '\x7d' :: rest) := by
    induction code generalizing previous segment with
    | nil =>
        have absent : '$' ∉ segment.reverse := by simpa using noReference
        simp [scan, Progress.stops, Progress.flush, markReferences_of_notMem absent]
    | cons c others ih =>
        obtain ⟨plainFirst, plainOthers⟩ := List.forall_mem_cons.mp plain
        have goesOn : ¬(c == '\x7d') = true := by
          rintro isBrace
          rw [eq_of_beq isBrace] at plainFirst
          exact absurd plainFirst (by decide)
        have absent : '$' ∉ c :: segment := by
          rw [List.mem_cons, not_or]
          refine ⟨?_, noReference⟩
          rintro rfl
          exact absurd plainFirst (by decide)
        have onwards := ih plainOthers c (c :: segment) absent
        rw [List.reverse_cons, List.append_assoc, List.singleton_append] at onwards
        rw [List.cons_append, scan, if_neg (by simpa [Progress.stops] using goesOn), Progress.step,
          turn_of_isPlain plainFirst]
        exact onwards
  exact read first [] (by simp)

end Linework.Body
