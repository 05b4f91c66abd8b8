import Linework.Proofs.Token.RoundTrip

/-!
# Sources in a row

The tokens of two sources in a row are those of the one and then those of the other, joined at the seam:
when the first ends outside of every bracket, and neither has a character that is read by what stands
beside it. The empty separator at the end of the first is not there when the second goes on.

A source that ends inside of brackets shows by its tokens: with one more separator behind it, the last
two of them are something else than a separator and the empty separator.
-/

namespace Linework.Token

/-! ## Characters that are read alone -/

/-- Whether a character is read without a look at those beside it: it is no sigil and no backslash. -/
def isSteady (c : Char) : Bool :=
  c != '$' && c != '=' && c != '\\'

/-- Every character of the source is read without a look at those beside it. -/
def Steady (chars : List Char) : Prop :=
  ∀ c ∈ chars, isSteady c

instance (chars : List Char) : Decidable (Steady chars) :=
  decidable_of_iff (chars.all isSteady) List.all_eq_true

theorem Steady.of_cons {c : Char} {chars : List Char} (steady : Steady (c :: chars)) :
    isSteady c ∧ Steady chars :=
  List.forall_mem_cons.mp steady

theorem turn_of_steady {c : Char} (steady : isSteady c) (run : Run) (held : List Char)
    (next next' : Option Char) : turn run held c next = turn run held c next' := by
  cases run with
  | idle | text | boundary | continuation | group | string =>
      grind [turn, startsShorthand, isSteady]

/-- Outside of brackets such a character does the same in every run. -/
theorem turn_of_fuses {run : Run} (fuses : run.Fuses) {c : Char} (steady : isSteady c)
    (held : List Char) (next : Option Char) : turn run held c next = turn .idle [] c next := by
  obtain rfl | rfl := fuses <;> grind [turn, startsShorthand, isSteady]

theorem ne_continuation_of_steady {run next : Run} {held : List Char} {c : Char}
    {ahead : Option Char} (steady : isSteady c) (notSkipping : run ≠ .continuation)
    (turnEq : turn run held c ahead = .run next) : next ≠ .continuation := by
  rintro rfl
  obtain impossible | ⟨rfl, _⟩ := turn_eq_continuation turnEq
  · exact notSkipping impossible
  · exact absurd steady (by decide)

theorem ne_shorthand_of_steady {run : Run} {held : List Char} {c : Char} {ahead : Option Char}
    (steady : isSteady c) : turn run held c ahead ≠ .shorthand := by
  intro turnEq
  obtain ⟨rfl | rfl, _⟩ := turn_eq_shorthand turnEq <;> exact absurd steady (by decide)

theorem turn_idle_ne_idle {held : List Char} {c : Char} {ahead : Option Char} :
    turn .idle held c ahead ≠ .run .idle := by
  grind [turn]

/-! ## The end of a sequence -/

/-- The empty separator. -/
abbrev emptySeparator : Token :=
  ⟨.boundary, ""⟩

/-- A sequence without the empty separator that the end of a source adds. -/
def trim (tokens : List Token) : List Token :=
  if tokens.getLast? = some emptySeparator then tokens.dropLast else tokens

theorem trim_append_singleton (front : List Token) (last : Token) :
    trim (front ++ [last]) = if last = emptySeparator then front else front ++ [last] := by
  simp [trim]

theorem glue_append (token : Token) {second : List Token} (nonempty : second ≠ [])
    (third : List Token) : glue token (second ++ third) = glue token second ++ third := by
  obtain ⟨next, rest, rfl⟩ := List.exists_cons_of_ne_nil nonempty
  cases fuses : fuse? token next <;> simp [glue, fuses]

/-- What stands behind another token plays no part at the seam. -/
theorem join_append (first : List Token) {second : List Token} (nonempty : second ≠ [])
    (third : List Token) : join first (second ++ third) = join first second ++ third := by
  rcases List.eq_nil_or_concat first with rfl | ⟨earlier, last, rfl⟩
  · rfl
  · rw [List.concat_eq_append, join_append_singleton, join_append_singleton,
      glue_append last nonempty, List.append_assoc]

/-- What is put in front leaves the end of the sequence as it is. -/
theorem trim_glue {token : Token} (notEmpty : token ≠ emptySeparator) {tokens : List Token}
    (nonempty : tokens ≠ []) : trim (glue token tokens) = glue token (trim tokens) := by
  rcases List.eq_nil_or_concat tokens with rfl | ⟨front, last, rfl⟩
  · contradiction
  rw [List.concat_eq_append, trim_append_singleton]
  cases front with
  | cons first others =>
      rw [glue_append token (by simp), trim_append_singleton]
      split
      · rfl
      · rw [glue_append token (by simp)]
  | nil =>
      rw [List.nil_append]
      cases fuses : fuse? token last with
      | none =>
          have apart : glue token [last] = [token] ++ [last] := by simp [glue, fuses]
          rw [apart, trim_append_singleton]
          split
          · rfl
          · rw [apart]
      | some fused =>
          obtain ⟨kinds, _, rfl⟩ := fuse?_eq_some_iff.mp fuses
          have together : glue token [last] = [] ++ [⟨token.kind, token.text ++ last.text⟩] := by
            simp [glue, fuses]
          rw [together, trim_append_singleton]
          split
          · -- Only a token without text fuses to the empty separator.
            rename_i isEmpty
            obtain ⟨kind, text⟩ := token
            simp only [Token.mk.injEq, String.append_eq_empty_iff] at isEmpty
            simp [isEmpty.1, isEmpty.2.1] at notEmpty
          · split
            · rename_i lastEmpty
              subst lastEmpty
              simp [glue]
            · rw [together]

/-- A run has a token of its own, which is not the empty separator. -/
def Run.Begun (run : Run) (held : List Char) : Prop :=
  run.Fuses → held ≠ []

theorem trim_store {run : Run} {held : List Char} (begun : run.Begun held) {tokens : List Token}
    (nonempty : tokens ≠ []) : trim (store run held tokens) = store run held (trim tokens) := by
  cases run with
  | idle => rfl
  | text | continuation | group | string =>
      exact trim_glue (by simp) nonempty
  | boundary =>
      refine trim_glue ?_ nonempty
      simpa using begun (.inr rfl)

theorem store_join (run : Run) (held : List Char) (second third : List Token) :
    store run held (join second third) = join (store run held second) third := by
  cases run with
  | idle => rfl
  | text | boundary | continuation | group | string => exact glue_join _ second third

theorem store_ne_nil (run : Run) (held : List Char) {tokens : List Token} (nonempty : tokens ≠ []) :
    store run held tokens ≠ [] := by
  cases run with
  | idle => exact nonempty
  | text | boundary | continuation | group | string => exact glue_ne_nil _ tokens

theorem scan_ne_nil (run : Run) (held chars : List Char) : scan run held chars ≠ [] := by
  induction run, held, chars using scan.induct with
  | case1 run held =>
      rw [scan]
      unfold close
      split
      · exact glue_ne_nil _ []
      · exact store_ne_nil run held (List.cons_ne_nil _ [])
  | case2 held c rest run turnEq ih =>
      rw [scan_stay turnEq]
      exact ih
  | case3 run held c rest next turnEq moves ih =>
      rw [scan_move turnEq moves]
      exact store_ne_nil run held ih
  | case4 run held c rest turnEq script ih =>
      rw [scan_braced turnEq]
      exact store_ne_nil run held (glue_ne_nil _ _)
  | case5 run held c rest turnEq script ih =>
      rw [scan_shorthand turnEq]
      exact store_ne_nil run held (glue_ne_nil _ _)

/-! ## Ends inside of brackets -/

/-- The sequence ends with something that is no separator and the empty separator. -/
def Dangling (tokens : List Token) : Prop :=
  ∃ front last, last.isBoundary = false ∧ tokens = front ++ [last, emptySeparator]

theorem Dangling.glue {tokens : List Token} (dangling : Dangling tokens) (token : Token) :
    Dangling (glue token tokens) := by
  obtain ⟨front, last, inside, rfl⟩ := dangling
  cases front with
  | cons first others =>
      exact ⟨Linework.glue token (first :: others), last, inside, glue_append token (by simp) _⟩
  | nil =>
      cases fuses : fuse? token last with
      | none => exact ⟨[token], last, inside, by simp [Linework.glue, fuses]⟩
      | some fused =>
          obtain ⟨kinds, _, rfl⟩ := fuse?_eq_some_iff.mp fuses
          refine ⟨[], _, ?_, by simp only [Linework.glue, List.nil_append, fuses]; rfl⟩
          rw [isBoundary, kinds]
          exact inside

theorem Dangling.store {tokens : List Token} (dangling : Dangling tokens) (run : Run)
    (held : List Char) : Dangling (store run held tokens) := by
  cases run with
  | idle => exact dangling
  | text | boundary | continuation | group | string => exact dangling.glue _

/-- A sequence whose last token has a text is not dangling. -/
theorem not_dangling {tokens : List Token} {last : Token} (isLast : last ∈ tokens.getLast?)
    (text : last.text ≠ "") : ¬Dangling tokens := by
  rintro ⟨front, other, _, rfl⟩
  rw [← List.singleton_append, ← List.append_assoc, List.getLast?_concat, Option.mem_some_iff] at isLast
  exact text (by rw [← isLast])

/-- A run that is left open is dangling, unless it is one of separators. -/
theorem dangling_close (run : Run) (busy : run ≠ .idle) (noSeparator : run ≠ .boundary)
    (held : List Char) : Dangling (close run held) := by
  cases run with
  | idle | boundary => contradiction
  | text | continuation | group | string => exact ⟨[], _, rfl, rfl⟩

/-- A script that is left open is dangling. -/
theorem dangling_script (run : Run) (script : String) :
    Dangling (glue ⟨scriptKind run, script⟩ (scan (afterScript run) [] [])) := by
  rw [glue_scriptKind, scan]
  cases run with
  | group => exact (dangling_close .group (by decide) (by decide) []).glue ⟨.groupScript, script⟩
  | idle | text | boundary | continuation | string => exact ⟨[], _, rfl, rfl⟩

/-! ## Reading on -/

/-- Inside of nothing, nothing is held. -/
theorem scan_idle (held chars : List Char) : scan .idle held chars = scan .idle [] chars := by
  cases chars with
  | nil =>
      rw [scan, scan]
      rfl
  | cons c rest =>
      have same : turn .idle held c rest.head? = turn .idle [] c rest.head? := rfl
      cases turnEq : turn .idle [] c rest.head? with
      | run next =>
          have moves : next ≠ .idle := by
            rintro rfl
            exact turn_idle_ne_idle turnEq
          rw [scan_move turnEq moves, scan_move (same.trans turnEq) moves]
          rfl
      | braced =>
          rw [scan_braced turnEq, scan_braced (same.trans turnEq)]
          rfl
      | shorthand =>
          rw [scan_shorthand turnEq, scan_shorthand (same.trans turnEq)]
          rfl

/-- What is read on in a run that fuses is what is read anew, behind the run so far, when the first
character does the same in both. -/
theorem scan_eq_store {run : Run} (fuses : run.Fuses) {held chars : List Char}
    (same : ∀ c rest, chars = c :: rest → turn run held c rest.head? = turn .idle [] c rest.head?) :
    scan run held chars = store run held (scan .idle [] chars) := by
  cases chars with
  | nil =>
      rw [scan, scan]
      obtain rfl | rfl := fuses
      · rfl
      · simp [close, store, glue, fuse?, Kind.fuses]
  | cons c rest =>
      have turnSame := same c rest rfl
      cases turnEq : turn .idle [] c rest.head? with
      | run next =>
          have moves : next ≠ .idle := by
            rintro rfl
            exact turn_idle_ne_idle turnEq
          rw [scan_move turnEq moves]
          by_cases stays : next = run
          · subst stays
            have alone : firstHeld next c = [c] := by obtain rfl | rfl := fuses <;> rfl
            rw [scan_stay (turnSame.trans turnEq), alone]
            exact scan_held_append fuses (List.cons_ne_nil c []) held rest
          · rw [scan_move (turnSame.trans turnEq) stays]
            rfl
      | braced =>
          rw [scan_braced turnEq, scan_braced (turnSame.trans turnEq)]
          obtain rfl | rfl := fuses <;> rfl
      | shorthand =>
          rw [scan_shorthand turnEq, scan_shorthand (turnSame.trans turnEq)]
          obtain rfl | rfl := fuses <;> rfl

/-- A source that is read on behind a run is read behind the token of the run, when a separator there
does not end inside of brackets. -/
theorem scan_eq_join {run : Run} {held : List Char} (notSkipping : run ≠ .continuation)
    (begun : run.Begun held) (closed : ¬Dangling (scan run held [';'])) {more : List Char}
    (steady : Steady more) : scan run held more = join (trim (close run held)) (scan .idle [] more) := by
  have same (fuses : run.Fuses) (c : Char) (rest : List Char) (moreEq : more = c :: rest) :
      turn run held c rest.head? = turn .idle [] c rest.head? :=
    turn_of_fuses fuses (Steady.of_cons (moreEq ▸ steady)).1 held _
  cases run with
  | continuation => exact absurd rfl notSkipping
  | idle => exact scan_idle held more
  | text => exact scan_eq_store (.inl rfl) (same (.inl rfl))
  | boundary =>
      have whole : close .boundary held = [] ++ [⟨.boundary, String.ofList held.reverse⟩] := rfl
      rw [whole, trim_append_singleton, if_neg (by simpa using begun (.inr rfl)),
        scan_eq_store (.inr rfl) (same (.inr rfl))]
      rfl
  -- The separator is read as a part of the bracket, which is then left open.
  | group =>
      have read : scan .group held [';'] = close .group (';' :: held) := by
        simp [scan, turn, startsShorthand]
      exact absurd (read ▸ dangling_close .group (by decide) (by decide) _) closed
  | string =>
      have read : scan .string held [';'] = close .string (';' :: held) := by simp [scan, turn]
      exact absurd (read ▸ dangling_close .string (by decide) (by decide) _) closed

/-- A script that is read in a source which does not end inside of brackets is read to its end, whatever
follows the source. -/
theorem exists_braced_append {run : Run} {held : List Char} {c : Char} {rest : List Char}
    (turnEq : turn run held c (rest ++ [';']).head? = .braced)
    (closed : ¬Dangling (scan run held (c :: (rest ++ [';'])))) :
    ∃ body last left, left ⊆ rest ∧
      ∀ more, Body.braced c (rest ++ more) = (body, last :: (left ++ more)) := by
  rw [scan_braced turnEq] at closed
  have stops : (Body.braced c (rest ++ [';'])).2 ≠ [] := by
    intro open'
    rw [open'] at closed
    exact closed ((dangling_script run _).store run held)
  obtain ⟨body, _, last, left, _, restEq, found⟩ := Body.exists_scan_append (by decide) stops
  exact ⟨body, last, left, fun other mem => by simp [restEq, mem], found⟩

/-- Outside of brackets, the rest of a source and a source behind it are read in a row, when with a
separator behind it the rest does not end inside of brackets. -/
theorem scan_append {run : Run} {held chars : List Char} (notSkipping : run ≠ .continuation)
    (begun : run.Begun held) (steady : Steady chars)
    (closed : ¬Dangling (scan run held (chars ++ [';']))) {more : List Char} (steady' : Steady more) :
    scan run held (chars ++ more) = join (trim (scan run held chars)) (scan .idle [] more) := by
  induction run, held, chars using scan.induct with
  | case1 run held =>
      rw [List.nil_append] at closed ⊢
      rw [scan]
      exact scan_eq_join notSkipping begun closed steady'
  | case2 held c rest run turnEq ih =>
      obtain ⟨first, others⟩ := steady.of_cons
      have turnSame (next : Option Char) : turn run held c next = .run run :=
        (turn_of_steady first run held next _).trans turnEq
      rw [List.cons_append, scan_stay (turnSame _)] at closed ⊢
      rw [scan_stay (turnSame _)]
      exact ih notSkipping (fun _ => List.cons_ne_nil c held) others closed
  | case3 run held c rest next turnEq starts ih =>
      obtain ⟨first, others⟩ := steady.of_cons
      have turnSame (ahead : Option Char) : turn run held c ahead = .run next :=
        (turn_of_steady first run held ahead _).trans turnEq
      have goesOn := ne_continuation_of_steady first notSkipping turnEq
      have begun' : next.Begun (firstHeld next c) := by
        rintro (rfl | rfl) <;> simp [firstHeld]
      rw [List.cons_append, scan_move (turnSame _) starts] at closed ⊢
      rw [scan_move (turnSame _) starts, ih goesOn begun' others fun dangling => closed (dangling.store run held),
        trim_store begun (scan_ne_nil _ _ _), store_join]
  | case4 run held c rest turnEq script ih =>
      obtain ⟨first, others⟩ := steady.of_cons
      have turnSame (ahead : Option Char) : turn run held c ahead = .braced :=
        (turn_of_steady first run held ahead _).trans turnEq
      have goesOn : afterScript run ≠ .continuation := by cases run <;> simp [afterScript]
      have begun' : (afterScript run).Begun [] := by
        cases run <;> rintro (impossible | impossible) <;> cases impossible
      have notEmpty (text : String) : (⟨scriptKind run, text⟩ : Token) ≠ emptySeparator := by
        cases run <;> simp [scriptKind]
      rw [List.cons_append] at closed ⊢
      obtain ⟨body, last, left, within, found⟩ := exists_braced_append (turnSame _) closed
      have foundAlone : Body.braced c rest = (body, last :: left) := by simpa using found []
      have leftSteady : Steady left := fun other mem => others other (within mem)
      have scriptEq : script = (body, last :: left) := foundAlone
      rw [scriptEq] at ih
      rw [scan_braced (turnSame _)] at closed ⊢
      rw [scan_braced (turnSame _)]
      simp only [found, foundAlone, List.drop_one, List.tail_cons] at closed ih ⊢
      rw [ih goesOn begun' leftSteady fun dangling => closed ((dangling.glue _).store run held),
        trim_store begun (glue_ne_nil _ _), trim_glue (notEmpty _) (scan_ne_nil _ _ _), glue_join,
        store_join]
  | case5 run held c rest turnEq script ih =>
      exact absurd turnEq (ne_shorthand_of_steady steady.of_cons.1)

/-! ## Whole sources -/

/-- A source that ends outside of brackets: a separator behind it is read as one. -/
def Closed (source : String) : Prop :=
  source = "" ∨ ∃ last ∈ (tokenize (source ++ ";")).getLast?, last.text ≠ ""

instance (source : String) : Decidable (Closed source) :=
  inferInstanceAs (Decidable (_ ∨ ∃ last ∈ (tokenize (source ++ ";")).getLast?, last.text ≠ ""))

theorem tokenize_of_ne_empty {source : String} (nonempty : source ≠ "") :
    tokenize source = scan .idle [] source.toList := by
  unfold tokenize
  split
  · rename_i nothing
    exact absurd (String.toList_eq_nil_iff.mp nothing) nonempty
  · rfl

theorem trim_tokenize (source : String) :
    trim (tokenize source) = trim (scan .idle [] source.toList) := by
  by_cases empty : source = ""
  · subst empty
    simp [tokenize, scan, close, store, trim]
  · rw [tokenize_of_ne_empty empty]

theorem Closed.not_dangling {source : String} (closed : Closed source) :
    ¬Dangling (scan .idle [] (source.toList ++ [';'])) := by
  have read : scan .idle [] (source.toList ++ [';']) = tokenize (source ++ ";") := by
    rw [tokenize_of_ne_empty (by simp), String.toList_append]
    rfl
  rw [read]
  obtain rfl | ⟨last, isLast, text⟩ := closed
  · have isLast : (⟨.boundary, ";"⟩ : Token) ∈ (tokenize ("" ++ ";")).getLast? := by decide +kernel
    exact Token.not_dangling isLast (by decide)
  · exact Token.not_dangling isLast text

/-- A source that is closed and what is read behind it, in a row. -/
theorem Closed.scan_append {source : String} (closed : Closed source) (steady : Steady source.toList)
    {more : List Char} (steady' : Steady more) :
    scan .idle [] (source.toList ++ more) = join (trim (tokenize source)) (scan .idle [] more) := by
  have begun : Run.idle.Begun [] := by rintro (impossible | impossible) <;> cases impossible
  rw [trim_tokenize]
  exact Token.scan_append (by simp) begun steady closed.not_dangling steady'

end Linework.Token
