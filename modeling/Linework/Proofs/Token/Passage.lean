import Linework.Proofs.Token.Nesting
import Linework.Proofs.Token.RoundTrip

/-!
# What the reader passes

The reader takes a source character by character, but for scripts, which it takes whole. What it takes is a
sequence of *passages*, and the last of them says what is open where the source ends: a group, a string, a
script, or a script in a group.

A source of characters and braced scripts alone is its own plain spelling, but for the brackets of what is
open at its end. So the tokens of such a source print as the source itself and those brackets: no character
is lost, and none is put in.
-/

namespace Linework.Token

/-! ## Passages -/

/-- What the reader takes in one go. -/
inductive Passage where
  /-- A character that belongs to a run. -/
  | character (run : Run)
  /-- A braced script inside a run: its code as it stands in the source, and whether a brace closes it. -/
  | braced (run : Run) (code : List Char) (isClosed : Bool)
  /-- A shorthand script inside a run. -/
  | shorthand (run : Run)

/-- The code of the script that starts with the bracket `first`, as it stands in the source. -/
def codeOf (first : Char) (rest : List Char) : List Char :=
  rest.take (rest.length - (Body.braced first rest).2.length)

/-- The passages of the rest of a source that is read on inside a run. -/
def passages (run : Run) (held : List Char) : List Char → List Passage
  | [] => []
  | c :: rest =>
    match turn run held c rest.head? with
    | .run next => .character next :: passages next (if next = run then c :: held else firstHeld next c) rest
    | .braced =>
      let left := (Body.braced c rest).2
      .braced run (codeOf c rest) (!left.isEmpty) :: passages (afterScript run) [] (left.drop 1)
    | .shorthand =>
      .shorthand run :: passages (afterScript run) [] (Body.bare (endsShorthand run) c rest).2
termination_by chars => chars.length
decreasing_by
  · simp
  · have := Body.length_braced_le c rest
    simp only [List.length_drop, List.length_cons]
    omega
  · have := Body.length_bare_le (endsShorthand run) c rest
    simp only [List.length_cons]
    omega

@[simp]
theorem passages_nil (run : Run) (held : List Char) : passages run held [] = [] := by
  rw [passages]

theorem passages_character {run next : Run} {held rest : List Char} {c : Char}
    (turnEq : turn run held c rest.head? = .run next) :
    passages run held (c :: rest) =
      .character next :: passages next (if next = run then c :: held else firstHeld next c) rest := by
  rw [passages, turnEq]

theorem passages_braced {run : Run} {held rest : List Char} {c : Char}
    (turnEq : turn run held c rest.head? = .braced) :
    passages run held (c :: rest) =
      .braced run (codeOf c rest) (!(Body.braced c rest).2.isEmpty) ::
        passages (afterScript run) [] ((Body.braced c rest).2.drop 1) := by
  rw [passages, turnEq]

theorem passages_shorthand {run : Run} {held rest : List Char} {c : Char}
    (turnEq : turn run held c rest.head? = .shorthand) :
    passages run held (c :: rest) =
      .shorthand run :: passages (afterScript run) [] (Body.bare (endsShorthand run) c rest).2 := by
  rw [passages, turnEq]

/-- The passages of a source. -/
def passagesOf (source : String) : List Passage :=
  passages .idle [] source.toList

namespace Passage

/-- Whether it is no shorthand script. -/
def isSpelledOut : Passage → Bool
  | .character _ | .braced _ _ _ => true
  | .shorthand _ => false

/-- Whether it stands for itself: it is no shorthand script, and none of the line breaks that are skipped. -/
def isLiteral : Passage → Bool
  | .character run => run ≠ .continuation
  | .braced _ _ _ => true
  | .shorthand _ => false

/-- It is no script in which `$` is directly followed by a letter. -/
def IsUnmarked : Passage → Prop
  | .braced _ code _ => Body.IsUnmarked code
  | .character _ | .shorthand _ => True

instance : DecidablePred IsUnmarked
  | .braced _ code _ => inferInstanceAs (Decidable (Body.IsUnmarked code))
  | .character _ | .shorthand _ => inferInstanceAs (Decidable True)

/-- If it is a script that no brace closes, then one more brace would close it. -/
def IsClosable : Passage → Prop
  | .braced _ code isClosed => isClosed = false → Body.IsClosable code
  | .character _ | .shorthand _ => True

instance : DecidablePred IsClosable
  | .braced _ code isClosed => inferInstanceAs (Decidable (isClosed = false → Body.IsClosable code))
  | .character _ | .shorthand _ => inferInstanceAs (Decidable True)

/-- The brackets that are missing when the source ends with it. -/
def closing : Passage → List Char
  | .character run => run.closing
  | .braced run _ isClosed => (if isClosed then [] else ['\x7d']) ++ (afterScript run).closing
  | .shorthand run => (afterScript run).closing

end Passage

/-- The brackets that are missing at the end of a source that has been read on inside a run. -/
def missing (run : Run) (passages : List Passage) : List Char :=
  (passages.getLast?.map Passage.closing).getD run.closing

/-- The brackets that are missing at the end of a source. -/
def missingOf (source : String) : String :=
  String.ofList (missing .idle (passagesOf source))

theorem missing_cons (run : Run) (passage : Passage) (rest : List Passage) :
    missing run (passage :: rest) = (rest.getLast?.map Passage.closing).getD passage.closing := by
  cases rest with
  | nil => rfl
  | cons next rest => rw [missing, List.getLast?_cons_cons, List.getLast?_cons]; rfl

/-! ## Literal sources -/

theorem codeOf_append (first : Char) (rest : List Char) :
    codeOf first rest ++ (Body.braced first rest).2 = rest :=
  List.suffix_iff_eq_append.mp (Body.suffix_scan _ _ _)

/-- A script that no brace closes goes to the end of the source. -/
theorem codeOf_of_unclosed {first : Char} {rest : List Char} (unclosed : (Body.braced first rest).2 = []) :
    codeOf first rest = rest := by
  have whole := codeOf_append first rest
  rwa [unclosed, List.append_nil] at whole

/-- A script in which nothing is marked has its code for its body. -/
theorem body_of_isUnmarked {first : Char} {rest : List Char}
    (unmarked : Body.IsUnmarked (codeOf first rest)) :
    (Body.braced first rest).1 = codeOf first rest := by
  have whole := (codeOf_append first rest).symm
  rw [Body.braced_eq_cut] at whole ⊢
  exact Body.Nesting.cut_of_isUnmarked Body.letter_goesOn whole unmarked

/-- The plain spelling of the rest of a literal source is that rest, and the brackets that are missing. -/
theorem spell_of_literal {run : Run} {held chars : List Char}
    (literal : ∀ passage ∈ passages run held chars, passage.isLiteral ∧ passage.IsUnmarked) :
    spell run held chars = chars ++ missing run (passages run held chars) := by
  induction run, held, chars using passages.induct with
  | case1 run held =>
      rw [spell, passages_nil]
      rfl
  | case2 run held c rest next turnEq ih =>
      simp only [dite_eq_ite] at ih
      rw [passages_character turnEq] at literal ⊢
      obtain ⟨first, others⟩ := List.forall_mem_cons.mp literal
      have kept : written run next c = [c] := if_neg (of_decide_eq_true first.1)
      rw [spell, turnEq]
      simp only
      rw [ih others, kept, missing_cons]
      rfl
  | case3 run held c rest turnEq left ih =>
      obtain ⟨rfl, _⟩ := turn_eq_braced turnEq
      simp only [left] at ih
      rw [passages_braced turnEq] at literal ⊢
      obtain ⟨first, others⟩ := List.forall_mem_cons.mp literal
      rw [spell, turnEq]
      simp only
      rw [ih others, body_of_isUnmarked first.2, missing_cons]
      cases leftEq : (Body.braced '\x7b' rest).2 with
      | nil =>
          rw [List.drop_nil, passages_nil, codeOf_of_unclosed leftEq]
          rfl
      | cons last left =>
          obtain rfl := Body.eq_brace_of_braced leftEq
          have whole := codeOf_append '\x7b' rest
          rw [leftEq] at whole
          simp only [missing, Passage.closing, List.isEmpty_cons, Bool.not_false, if_true, List.nil_append,
            List.drop_one, List.tail_cons, List.cons_append]
          refine congrArg (List.cons '\x7b') ?_
          rw [← List.cons_append, ← List.append_assoc, whole]
  | case4 run held c rest turnEq ih =>
      rw [passages_shorthand turnEq] at literal
      obtain ⟨first, _⟩ := List.forall_mem_cons.mp literal
      exact absurd first.1 (by simp [Passage.isLiteral])

/-- The tokens of a source print as its plain spelling. -/
theorem toList_printAll_tokenize (source : String) :
    (printAll (tokenize source)).toList = spell .idle [] source.toList := by
  unfold tokenize
  cases source.toList with
  | nil =>
      rw [spell]
      rfl
  | cons c rest => exact toList_printFrom_scan .idle [] (c :: rest)

/-- The tokens of a literal source print as the source and the brackets that are missing at its end. -/
theorem printAll_tokenize_of_literal {source : String}
    (literal : ∀ passage ∈ passagesOf source, passage.isLiteral ∧ passage.IsUnmarked) :
    printAll (tokenize source) = source ++ missingOf source := by
  apply String.toList_injective
  rw [toList_printAll_tokenize, spell_of_literal literal, String.toList_append, missingOf,
    String.toList_ofList, passagesOf]

/-- A source that ends inside a script of a group. -/
theorem printAll_tokenize_of_open_script :
    (∀ passage ∈ passagesOf "a$b; \"(\" (c \x7bx[0\x7d = \x7b$ y",
        passage.isLiteral ∧ passage.IsUnmarked) ∧
      printAll (tokenize "a$b; \"(\" (c \x7bx[0\x7d = \x7b$ y") =
        "a$b; \"(\" (c \x7bx[0\x7d = \x7b$ y" ++ "\x7d)" := by
  have literal : ∀ passage ∈ passagesOf "a$b; \"(\" (c \x7bx[0\x7d = \x7b$ y",
      passage.isLiteral ∧ passage.IsUnmarked := by decide +kernel
  have missing : missingOf "a$b; \"(\" (c \x7bx[0\x7d = \x7b$ y" = "\x7d)" := by decide +kernel
  exact ⟨literal, missing ▸ printAll_tokenize_of_literal literal⟩

end Linework.Token
