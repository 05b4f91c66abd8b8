import Linework.Proofs.Expansion.Marker
import Linework.Proofs.Token.Fused

/-!
# Sequences that go in pairs

Two sequences are *paired* when they are the same tokens, except that where the first ends with a
separator, the second may have another separator and may go on behind it. A pairing is *exact* when
nothing that is captured from the two may differ. What the machine reads, captures and splices is the
same in paired sequences, up to the end of the first.

`rest` is what the second sequence has behind the end of the first; without it the two end together.
-/

namespace Linework.Expansion

/-! ## Captured bodies -/

private theorem join_boundary (tokens : List Token) :
    ∃ front earlier, ∀ text,
      join tokens [⟨.boundary, text⟩] = front ++ [⟨.boundary, earlier ++ text⟩] := by
  rcases List.eq_nil_or_concat tokens with rfl | ⟨front, ⟨kind, earlier⟩, rfl⟩
  · exact ⟨[], "", fun text => by simp⟩
  · by_cases boundary : kind = .boundary
    · subst boundary
      refine ⟨front, earlier, fun text => ?_⟩
      rw [List.concat_eq_append, join_append_singleton]
      rfl
    · refine ⟨front ++ [⟨kind, earlier⟩], "", fun text => ?_⟩
      have apart : fuse? (⟨kind, earlier⟩ : Token) ⟨.boundary, text⟩ = none :=
        Token.fuse?_eq_none_iff.mpr fun same => boundary same.1
      rw [List.concat_eq_append, join_append_singleton]
      simp [glue, apart]

/-- A captured body ends with a separator, and a separator captured last only changes its text. -/
theorem closeBody_eq (tokens : List Token) :
    ∃ front text, closeBody tokens = front ++ [⟨.boundary, text⟩] ∧
      ∀ last, ∃ text', closeBody (tokens ++ [⟨.boundary, last⟩]) = front ++ [⟨.boundary, text'⟩] := by
  obtain ⟨front, earlier, closed⟩ := join_boundary (Token.fused tokens)
  refine ⟨front, earlier ++ "", ?_, fun last => ⟨earlier ++ last ++ "", ?_⟩⟩
  · rw [closeBody, Token.fused_append_singleton, closed]
  · rw [closeBody, Token.fused_append_singleton, Token.fused_append_singleton, closed,
      join_append_singleton]
    rfl

theorem blockBody_cons_of_ends {token : Token} (ends : endsBlock token) (tokens : List Token) :
    blockBody (token :: tokens) = [] := by
  simp [blockBody, ends]

/-- A separator with two semicolons in a row ends what is captured. -/
theorem endsBlock_boundary {text : String} (ends : hasBlockEnd text.toList) :
    endsBlock ⟨.boundary, text⟩ :=
  Bool.and_eq_true_iff.mpr ⟨rfl, ends⟩

theorem blockBody_cons {token : Token} (goesOn : endsBlock token = false) (tokens : List Token) :
    blockBody (token :: tokens) = token :: blockBody tokens := by
  simp [blockBody, goesOn]

/-- At the last separators, either nothing is captured, or the separator at the very end is. -/
theorem blockBody_last {text : String} {post : List Token}
    (ending : post = [] ∨ hasBlockEnd text.toList) :
    blockBody (⟨.boundary, text⟩ :: post) = [] ∨
      blockBody (⟨.boundary, text⟩ :: post) = [⟨.boundary, text⟩] := by
  cases ends : endsBlock ⟨.boundary, text⟩ with
  | true => exact .inl (blockBody_cons_of_ends ends post)
  | false =>
      right
      rcases ending with rfl | semicolons
      · exact blockBody_cons ends []
      · rw [endsBlock, semicolons] at ends
        cases ends

/-! ## Paired sequences -/

/-- Whether a capture that reaches the last separators of two paired sequences gives paired bodies. -/
def Closes (exact : Prop) (rest : Option (List Token)) (first second : String) : Prop :=
  match rest with
  | none => ¬exact
  | some _ => hasBlockEnd second.toList ∧ (exact → hasBlockEnd first.toList)

/-- The sequences are the same up to the last separator of the first. -/
inductive Paired (exact : Prop) (rest : Option (List Token)) : List Token → List Token → Prop
  | nil : rest = none → Paired exact rest [] []
  | last {text text' : String} : Closes exact rest text text' →
      Paired exact rest [⟨.boundary, text⟩] (⟨.boundary, text'⟩ :: rest.getD [])
  | cons {first second : List Token} (token : Token) :
      Paired exact rest first second → Paired exact rest (token :: first) (token :: second)

/-- What is left of paired sequences behind parts of them: they are paired, or the first has ended. -/
inductive Remaining (exact : Prop) (rest : Option (List Token)) : List Token → List Token → Prop
  | paired {first second : List Token} : Paired exact rest first second →
      Remaining exact rest first second
  | past {post : List Token} : rest = some post → Remaining exact rest [] post

variable {exact : Prop} {rest : Option (List Token)} {first second : List Token}

namespace Paired

theorem refl (tokens : List Token) : Paired exact none tokens tokens := by
  induction tokens with
  | nil => exact .nil rfl
  | cons token tokens ih => exact .cons token ih

theorem eq_of_exact (is : exact) (paired : Paired exact none first second) : first = second := by
  induction paired with
  | nil => rfl
  | last closes => exact absurd is closes
  | cons token _ ih => rw [ih]

theorem append (paired : Paired exact rest first second) (front : List Token) :
    Paired exact rest (front ++ first) (front ++ second) := by
  induction front with
  | nil => exact paired
  | cons token front ih => exact .cons token ih

/-- The first tokens are the same one, unless they are separators. -/
theorem head {token : Token} (paired : Paired exact rest (token :: first) second)
    (inside : token.isBoundary = false) :
    ∃ second', second = token :: second' ∧ Paired exact rest first second' := by
  cases paired with
  | last closes => cases inside
  | cons _ tails => exact ⟨_, rfl, tails⟩

theorem isEmpty_eq (paired : Paired exact rest first second) : first.isEmpty = second.isEmpty := by
  cases paired <;> rfl

theorem ne_nil {post : List Token} (paired : Paired exact (some post) first second) :
    second ≠ [] := by
  cases paired with
  | nil absent => cases absent
  | last closes => exact List.cons_ne_nil _ _
  | cons token tails => exact List.cons_ne_nil _ _

/-- What is captured from paired sequences is paired. -/
theorem body (paired : Paired exact rest first second) (front : List Token) :
    Paired exact none (closeBody (front ++ blockBody first))
      (closeBody (front ++ blockBody second)) := by
  induction paired generalizing front with
  | nil => exact refl _
  | @last text text' closes =>
      by_cases is : exact
      · cases rest with
        | none => exact absurd is closes
        | some post =>
            obtain ⟨secondEnds, firstEnds⟩ := closes
            rw [blockBody_cons_of_ends (endsBlock_boundary (firstEnds is)),
              blockBody_cons_of_ends (endsBlock_boundary secondEnds)]
            exact refl _
      · obtain ⟨base, plain, plainEq, longer⟩ := closeBody_eq front
        have form {captured : List Token} {last : String}
            (either : captured = [] ∨ captured = [⟨.boundary, last⟩]) :
            ∃ closing, closeBody (front ++ captured) = base ++ [⟨.boundary, closing⟩] := by
          rcases either with rfl | rfl
          · rw [List.append_nil]
            exact ⟨plain, plainEq⟩
          · exact longer last
        have ending : rest.getD [] = [] ∨ hasBlockEnd text'.toList := by
          cases rest with
          | none => exact .inl rfl
          | some post => exact .inr closes.1
        have alone : ([] : List Token) = [] ∨ hasBlockEnd text.toList := .inl rfl
        obtain ⟨closing, firstEq⟩ := form (blockBody_last alone)
        obtain ⟨closing', secondEq⟩ := form (blockBody_last ending)
        rw [firstEq, secondEq]
        have closed : Paired exact none [⟨.boundary, closing⟩] [⟨.boundary, closing'⟩] := .last is
        exact closed.append base
  | @cons first second token _ ih =>
      cases ends : endsBlock token with
      | true =>
          rw [blockBody_cons_of_ends ends, blockBody_cons_of_ends ends]
          exact refl _
      | false =>
          rw [blockBody_cons ends, blockBody_cons ends, List.append_cons front token (blockBody first),
            List.append_cons front token (blockBody second)]
          exact ih (front ++ [token])

/-! ## Spliced outputs -/

theorem glue (paired : Paired exact rest first second) (token : Token) :
    Paired exact rest (Linework.glue token first) (Linework.glue token second) := by
  cases paired with
  | nil ended => exact .cons token (.nil ended)
  | @last text text' closes =>
      by_cases boundary : token.kind = .boundary
      · obtain ⟨kind, earlier⟩ := token
        subst boundary
        refine .last ?_
        cases rest with
        | none => exact closes
        | some post =>
            refine ⟨?_, fun is => ?_⟩
            · rw [String.toList_append]
              exact hasBlockEnd_append_right closes.1 _
            · rw [String.toList_append]
              exact hasBlockEnd_append_right (closes.2 is) _
      · have apart (text : String) : fuse? token (⟨.boundary, text⟩ : Token) = none :=
          Token.fuse?_eq_none_iff.mpr fun same => boundary same.1
        simp only [Linework.glue, apart]
        exact .cons token (.last closes)
  | cons next tails =>
      unfold Linework.glue
      simp only
      split
      · exact .cons _ tails
      · exact .cons token (.cons next tails)

theorem join (paired : Paired exact rest first second) (output : List Token) :
    Paired exact rest (Linework.join output first) (Linework.join output second) := by
  rcases List.eq_nil_or_concat output with rfl | ⟨front, last, rfl⟩
  · exact paired
  · rw [List.concat_eq_append, join_append_singleton, join_append_singleton]
    exact (paired.glue last).append front

end Paired

/-! ## Parts of paired sequences -/

/-- Two counts that reach the same place: as many tokens of the same kinds, up to a separator where the
second sequence goes on, and what is left. -/
structure Parted (exact : Prop) (rest : Option (List Token)) (first second : List Token)
    (count count' : Nat) : Prop where
  positive : 0 < count'
  kinds : (first.take count).map (·.kind) = (second.take count').map (·.kind)
  closed : rest ≠ none → ∀ token ∈ (second.take count').getLast?, token.isBoundary
  remaining : Remaining exact rest (first.drop count) (second.drop count')

namespace Parted

theorem nil (ended : rest = none) (count : Nat) {count' : Nat} (positive : 0 < count') :
    Parted exact rest [] [] count count' := by
  refine ⟨positive, by simp, fun some => absurd ended some, ?_⟩
  rw [List.drop_nil, List.drop_nil]
  exact .paired (.nil ended)

theorem last {text text' : String} {count count' : Nat} (positive : 0 < count) (positive' : 0 < count')
    (one : rest ≠ none → count' = 1) :
    Parted exact rest [⟨.boundary, text⟩] (⟨.boundary, text'⟩ :: rest.getD []) count count' := by
  obtain ⟨count, rfl⟩ := Nat.exists_eq_succ_of_ne_zero (Nat.pos_iff_ne_zero.mp positive)
  cases rest with
  | none =>
      obtain ⟨count', rfl⟩ := Nat.exists_eq_succ_of_ne_zero (Nat.pos_iff_ne_zero.mp positive')
      refine ⟨positive', by simp, fun some => absurd rfl some, ?_⟩
      simpa using Remaining.paired (.nil rfl)
  | some post =>
      obtain rfl := one (by simp)
      refine ⟨positive', by simp, fun _ token mem => ?_, ?_⟩
      · obtain rfl : ⟨.boundary, text'⟩ = token := by simpa using mem
        rfl
      · simpa using Remaining.past rfl

/-- A separator that both have. -/
theorem here {token : Token} (boundary : token.isBoundary) (paired : Paired exact rest first second) :
    Parted exact rest (token :: first) (token :: second) 1 1 := by
  refine ⟨Nat.one_pos, rfl, fun _ other mem => ?_, .paired paired⟩
  obtain rfl : token = other := by simpa using mem
  exact boundary

theorem cons {count count' : Nat} (parted : Parted exact rest first second count count')
    (paired : Paired exact rest first second) (token : Token) :
    Parted exact rest (token :: first) (token :: second) (count + 1) (count' + 1) := by
  refine ⟨Nat.succ_pos _, by simp [parted.kinds], fun goesOn other mem => ?_, parted.remaining⟩
  apply parted.closed goesOn other
  obtain ⟨post, rfl⟩ := Option.ne_none_iff_exists'.mp goesOn
  obtain ⟨head, tail, rfl⟩ := List.exists_cons_of_ne_nil paired.ne_nil
  obtain ⟨count', rfl⟩ := Nat.exists_eq_succ_of_ne_zero (Nat.pos_iff_ne_zero.mp parted.positive)
  simpa using mem

end Parted

namespace Paired

/-- The tokens up to the next separator are the same. -/
theorem region (paired : Paired exact rest first second) :
    first.takeWhile (!·.isBoundary) = second.takeWhile (!·.isBoundary) ∧
      Parted exact rest first second ((first.takeWhile (!·.isBoundary)).length + 1)
        ((second.takeWhile (!·.isBoundary)).length + 1) := by
  induction paired with
  | nil ended => exact ⟨rfl, .nil ended 1 Nat.one_pos⟩
  | last closes => exact ⟨rfl, .last Nat.one_pos Nat.one_pos fun _ => rfl⟩
  | cons token tails ih =>
      cases boundary : token.isBoundary with
      | true =>
          simp only [List.takeWhile_cons, boundary]
          exact ⟨rfl, .here boundary tails⟩
      | false =>
          simp only [List.takeWhile_cons, boundary, Bool.not_false, if_true, List.length_cons]
          exact ⟨by rw [ih.1], ih.2.cons tails token⟩

theorem parted_body (paired : Paired exact rest first second) :
    Parted exact rest first second ((blockBody first).length + 1)
      ((blockBody second).length + 1) := by
  induction paired with
  | nil ended => exact .nil ended _ (Nat.succ_pos _)
  | last closes =>
      refine .last (Nat.succ_pos _) (Nat.succ_pos _) fun goesOn => ?_
      obtain ⟨post, rfl⟩ := Option.ne_none_iff_exists'.mp goesOn
      rw [blockBody_cons_of_ends (endsBlock_boundary closes.1)]
      rfl
  | cons token tails ih =>
      cases ends : endsBlock token with
      | true =>
          rw [blockBody_cons_of_ends ends, blockBody_cons_of_ends ends]
          exact .here (Bool.and_eq_true_iff.mp ends).1 tails
      | false =>
          rw [blockBody_cons ends, blockBody_cons ends]
          exact ih.cons tails token

/-- The same block is invoked at the heads, if one is. -/
theorem invoked (paired : Paired exact rest first second) :
    invokedBlock? first = invokedBlock? second ∧
      (invokedBlock? second ≠ none → Parted exact rest first second 2 2) := by
  cases paired with
  | nil => exact ⟨rfl, fun impossible => absurd rfl impossible⟩
  | last closes => 
      cases rest.getD [] <;> exact ⟨rfl, fun impossible => absurd rfl impossible⟩
  | cons token tails =>
      cases tails with
      | nil => exact ⟨rfl, fun impossible => absurd rfl impossible⟩
      | last closes =>
          exact ⟨rfl, fun _ => (Parted.last Nat.one_pos Nat.one_pos fun _ => rfl).cons (.last closes) token⟩
      | cons next tails =>
          constructor
          · rfl
          · intro invokes
            have boundary : next.isBoundary := by
              by_contra inside
              simp [invokedBlock?, inside] at invokes
            exact (Parted.here boundary tails).cons (.cons next tails) token

end Paired

/-! ## Loops -/

/-- The body of a loop, given the separator behind its head and what follows. -/
def loopBody (separator : Token) (tokens : List Token) : List Token :=
  if endsBlock separator then [] else blockBody tokens

/-- How many tokens the body takes, with the separator that ends it. -/
def loopClosing (separator : Token) (tokens : List Token) : Nat :=
  if endsBlock separator then 0 else (loopBody separator tokens).length + 1

/-- Two loop heads, read at the heads of two sequences: the same scripts, paired bodies, and loops that
end at the same place. -/
structure LoopPaired (exact : Prop) (rest : Option (List Token)) (first second : List Token)
    (head head' : List String × Token × List Token) : Prop where
  scripts : head.1 = head'.1
  body : Paired exact none (closeBody (loopBody head.2.1 head.2.2))
    (closeBody (loopBody head'.2.1 head'.2.2))
  shorter : head.2.2.length ≤ first.length
  shorter' : head'.2.2.length ≤ second.length
  parted : Parted exact rest first second
    (first.length - head.2.2.length + loopClosing head.2.1 head.2.2)
    (second.length - head'.2.2.length + loopClosing head'.2.1 head'.2.2)

theorem LoopPaired.cons {head head' : List String × Token × List Token}
    (heads : LoopPaired exact rest first second head head') (paired : Paired exact rest first second)
    (token : Token) : LoopPaired exact rest (token :: first) (token :: second) head head' := by
  refine ⟨heads.scripts, heads.body, Nat.le_succ_of_le heads.shorter,
    Nat.le_succ_of_le heads.shorter', ?_⟩
  have longer := heads.parted.cons paired token
  rw [List.length_cons, List.length_cons, Nat.sub_add_comm heads.shorter,
    Nat.sub_add_comm heads.shorter', Nat.add_right_comm, Nat.add_right_comm _ 1]
  exact longer

theorem LoopPaired.last {text text' : String} (closes : Closes exact rest text text')
    (scripts : List String) :
    LoopPaired exact rest [⟨.boundary, text⟩] (⟨.boundary, text'⟩ :: rest.getD [])
      (scripts, ⟨.boundary, text⟩, []) (scripts, ⟨.boundary, text'⟩, rest.getD []) := by
  have positive (count : Nat) : 0 < 1 + count := Nat.add_pos_left Nat.one_pos count
  refine ⟨rfl, ?_, Nat.zero_le _, Nat.le_succ _, ?_⟩
  · have empty (separator : Token) : loopBody separator [] = [] := by
      unfold loopBody
      split <;> rfl
    have empty' : loopBody ⟨.boundary, text'⟩ (rest.getD []) = [] := by
      cases rest with
      | none => exact empty _
      | some post => exact if_pos (endsBlock_boundary closes.1)
    simp only [empty, empty']
    exact .refl _
  · simp only [List.length_cons, Nat.add_sub_cancel_left, List.length_nil]
    refine .last (positive _) (positive _) fun goesOn => ?_
    obtain ⟨post, rfl⟩ := Option.ne_none_iff_exists'.mp goesOn
    rw [loopClosing, if_pos (endsBlock_boundary closes.1)]

theorem LoopPaired.here {token : Token} (boundary : token.isBoundary)
    (paired : Paired exact rest first second) (scripts : List String) :
    LoopPaired exact rest (token :: first) (token :: second) (scripts, token, first)
      (scripts, token, second) := by
  refine ⟨rfl, ?_, Nat.le_succ _, Nat.le_succ _, ?_⟩
  · simp only [loopBody]
    split
    · exact .refl _
    · exact paired.body []
  · simp only [List.length_cons, Nat.add_sub_cancel_left, loopClosing, loopBody]
    split
    · exact .here boundary paired
    · rw [Nat.add_comm 1, Nat.add_comm 1]
      exact paired.parted_body.cons paired token

/-- A loop starts at the head of both of two paired sequences, or of none. -/
theorem Paired.loop (paired : Paired exact rest first second) (scripts : List String) :
    Option.Rel (LoopPaired exact rest first second) (loopHead? scripts first)
      (loopHead? scripts second) := by
  induction paired generalizing scripts with
  | nil => exact .none
  | @last text text' closes =>
      have reads (text : String) (post : List Token) : loopHead? scripts (⟨.boundary, text⟩ :: post) =
          if scripts.length == 3 then some (scripts.reverse, ⟨.boundary, text⟩, post) else none := rfl
      rw [reads, reads]
      split
      · exact .some (.last closes _)
      · exact .none
  | @cons first second token tails ih =>
      have onwards (scripts : List String) :
          Option.Rel (LoopPaired exact rest (token :: first) (token :: second))
            (loopHead? scripts first) (loopHead? scripts second) := by
        have heads := ih scripts
        generalize loopHead? scripts first = head, loopHead? scripts second = head' at heads
        cases heads with
        | none => exact .none
        | some heads => exact .some (heads.cons tails token)
      unfold loopHead?
      split
      · exact onwards _
      · split
        · exact onwards _
        · split
          · rename_i separator
            exact .some (.here (Bool.and_eq_true_iff.mp separator).1 tails _)
          · exact .none

end Linework.Expansion
