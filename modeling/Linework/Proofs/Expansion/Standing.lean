import Linework.Proofs.Expansion.Paired

/-!
# Paired positions

Where an edit ends at paired sequences, the item before the position may fuse with what follows. Behind
a region the two seams are the same. Where a region begins, they depend on what was passed before: the
last tokens passed are of one kind, or the first sequence has passed a separator and the second nothing
yet. In the latter case a separator that the first sequence fuses with the passed one stays at the head
of the second: the second *leads* by an empty command.
-/

namespace Linework.Expansion

/-- What was passed last in two sequences. -/
inductive Headed (rest : Option (List Token)) : List Token → List Token → Prop
  | nil : Headed rest [] []
  | cons {token token' : Token} {earlier earlier' : List Token} :
      token.kind = token'.kind → (rest ≠ none → token'.isBoundary) →
      Headed rest (token :: earlier) (token' :: earlier')
  | fresh {token : Token} {earlier : List Token} :
      rest = none → token.isBoundary → Headed rest (token :: earlier) []

/-- Two positions where regions begin. -/
inductive Standing (exact : Prop) (rest : Option (List Token)) : Focus Token → Focus Token → Prop
  | paired {done done' ahead ahead' : List Token} :
      Headed rest done done' → Paired exact rest ahead ahead' →
      Standing exact rest ⟨done, ahead⟩ ⟨done', ahead'⟩
  | past {done done' post : List Token} :
      rest = some post → Headed rest done done' → Standing exact rest ⟨done, []⟩ ⟨done', post⟩
  | lead {token separator : Token} {earlier ahead ahead' : List Token} :
      rest = none → token.isBoundary → separator.isBoundary → Paired exact rest ahead ahead' →
      Standing exact rest ⟨token :: earlier, ahead⟩ ⟨[], separator :: ahead'⟩

/-- What the second sequence goes on with does not begin with a separator. -/
def Apart (rest : Option (List Token)) : Prop :=
  ∀ token ∈ (rest.getD []).head?, token.isBoundary = false

variable {exact : Prop} {rest : Option (List Token)} {first second : List Token}

theorem fuse?_boundary {token other : Token} (boundary : token.isBoundary) (boundary' : other.isBoundary) :
    ∃ fused : Token, fuse? token other = some fused ∧ fused.isBoundary := by
  rw [Token.isBoundary, beq_iff_eq] at boundary boundary'
  refine ⟨⟨token.kind, token.text ++ other.text⟩, Token.fuse?_eq_some_iff.mpr ?_, ?_⟩
  · simp [boundary, boundary', Kind.fuses]
  · simp [Token.isBoundary, boundary]

theorem fuse?_eq_none_of_boundary {token other : Token} (apart : token.isBoundary ≠ other.isBoundary) :
    fuse? token other = none := by
  rw [Token.fuse?_eq_none_iff]
  rintro ⟨same, _⟩
  rw [Token.isBoundary, Token.isBoundary, same] at apart
  exact apart rfl

/-- The last tokens of two parts that were passed. -/
theorem Headed.of_passed {passed passed' : List Token}
    (kinds : passed.map (·.kind) = passed'.map (·.kind)) (nonempty : passed' ≠ [])
    (closed : rest ≠ none → ∀ token ∈ passed'.getLast?, token.isBoundary) (done done' : List Token) :
    Headed rest (passed.reverse ++ done) (passed'.reverse ++ done') := by
  rcases List.eq_nil_or_concat passed' with rfl | ⟨front', last', rfl⟩
  · exact absurd rfl nonempty
  · rcases List.eq_nil_or_concat passed with rfl | ⟨front, last, rfl⟩
    · simp at kinds
    · have sameLast : last.kind = last'.kind := by
        have ends := congrArg List.getLast? kinds
        simpa using ends
      simp only [List.concat_eq_append, List.reverse_append, List.reverse_singleton,
        List.cons_append]
      exact .cons sameLast fun goesOn => closed goesOn last' (by simp)

/-- Behind a region, the two seams are the same. -/
theorem Paired.seam {last : Token} (paired : Paired exact rest first second)
    (inside : last.isBoundary = false) (earlier : List Token) :
    ∃ last' first' second', last'.isBoundary = false ∧ Paired exact rest first' second' ∧
      Focus.seam ⟨last :: earlier, first⟩ = ⟨last' :: earlier, first'⟩ ∧
      Focus.seam ⟨last :: earlier, second⟩ = ⟨last' :: earlier, second'⟩ := by
  cases paired with
  | nil ended => exact ⟨last, [], [], inside, .nil ended, rfl, rfl⟩
  | @last text text' closes =>
      have unfused (text : String) : fuse? last (⟨.boundary, text⟩ : Token) = none :=
        fuse?_eq_none_of_boundary (by rw [inside]; simp [Token.isBoundary])
      exact ⟨last, _, _, inside, .last closes, by simp [Focus.seam, unfused],
        by simp [Focus.seam, unfused]⟩
  | @cons first second token tails =>
      cases fuses : fuse? last token with
      | none =>
          exact ⟨last, _, _, inside, .cons token tails, by simp [Focus.seam, fuses],
            by simp [Focus.seam, fuses]⟩
      | some fused =>
          refine ⟨fused, first, second, ?_, tails, by simp [Focus.seam, fuses],
            by simp [Focus.seam, fuses]⟩
          obtain ⟨_, _, rfl⟩ := Token.fuse?_eq_some_iff.mp fuses
          exact inside

private theorem seam_eq {token next : Token} {earlier tokens : List Token} :
    Focus.seam ⟨token :: earlier, next :: tokens⟩ =
      match fuse? token next with
      | some fused => ⟨fused :: earlier, tokens⟩
      | none => ⟨token :: earlier, next :: tokens⟩ := by
  cases fuses : fuse? token next <;> simp [Focus.seam, fuses]

/-- Behind tokens of one kind, both seams fuse or neither does. -/
private theorem seam_of_kinds {token token' : Token} {earlier earlier' : List Token}
    (kinds : token.kind = token'.kind) (closed : rest ≠ none → token'.isBoundary)
    (paired : Paired exact rest first second) :
    Standing exact rest (Focus.seam ⟨token :: earlier, first⟩)
      (Focus.seam ⟨token' :: earlier', second⟩) := by
  -- One more token of each: of one kind, and what is left of the sequences behind them.
  have onwards {next next' : Token} {left left' : List Token} (same : next.kind = next'.kind)
      (unfused : Paired exact rest (next :: left) (next' :: left'))
      (remaining : Remaining exact rest left left') :
      Standing exact rest (Focus.seam ⟨token :: earlier, next :: left⟩)
        (Focus.seam ⟨token' :: earlier', next' :: left'⟩) := by
    have together := Token.isSome_fuse?_congr kinds same
    rw [seam_eq, seam_eq]
    cases fuses : fuse? token next with
    | none =>
        rw [fuses] at together
        rw [Option.isSome_eq_false_iff.mp together.symm |> Option.isNone_iff_eq_none.mp]
        exact .paired (.cons kinds closed) unfused
    | some fused =>
        rw [fuses] at together
        obtain ⟨fused', fuses'⟩ := Option.isSome_iff_exists.mp together.symm
        obtain ⟨_, _, rfl⟩ := Token.fuse?_eq_some_iff.mp fuses
        rw [fuses']
        obtain ⟨_, _, rfl⟩ := Token.fuse?_eq_some_iff.mp fuses'
        have heads : Headed rest (⟨token.kind, token.text ++ next.text⟩ :: earlier)
            (⟨token'.kind, token'.text ++ next'.text⟩ :: earlier') := .cons kinds closed
        cases remaining with
        | paired tails => exact .paired heads tails
        | past goesOn => exact .past goesOn heads
  cases paired with
  | nil ended => exact .paired (.cons kinds closed) (.nil ended)
  | last closes =>
      refine onwards rfl (.last closes) ?_
      cases rest with
      | none => exact .paired (.nil rfl)
      | some post => exact .past rfl
  | cons next tails => exact onwards rfl (.cons next tails) (.paired tails)

/-- Behind a separator in the first sequence and at the start of the second, only the first fuses. -/
private theorem seam_of_fresh {token : Token} {earlier : List Token} (ended : rest = none)
    (boundary : token.isBoundary) (paired : Paired exact rest first second) :
    Standing exact rest (Focus.seam ⟨token :: earlier, first⟩) (Focus.seam ⟨[], second⟩) := by
  have start (tokens : List Token) : Focus.seam ⟨[], tokens⟩ = ⟨[], tokens⟩ := rfl
  rw [start]
  cases paired with
  | nil => exact .paired (.fresh ended boundary) (.nil ended)
  | @last text text' closes =>
      have separator : (⟨.boundary, text⟩ : Token).isBoundary := rfl
      obtain ⟨fused, fuses, fusedBoundary⟩ := fuse?_boundary boundary separator
      rw [seam_eq, fuses]
      subst ended
      exact .lead rfl fusedBoundary rfl (.nil rfl)
  | @cons first second next tails =>
      rw [seam_eq]
      cases nextBoundary : next.isBoundary with
      | true =>
          obtain ⟨fused, fuses, fusedBoundary⟩ := fuse?_boundary boundary nextBoundary
          rw [fuses]
          exact .lead ended fusedBoundary nextBoundary tails
      | false =>
          rw [fuse?_eq_none_of_boundary (by simp [boundary, nextBoundary])]
          exact .paired (.fresh ended boundary) (.cons next tails)

/-- Where regions begin, seams leave positions where regions begin. -/
theorem Headed.seam {done done' : List Token} (heads : Headed rest done done')
    (remaining : Remaining exact rest first second) (apart : Apart rest) :
    Standing exact rest (Focus.seam ⟨done, first⟩) (Focus.seam ⟨done', second⟩) := by
  cases remaining with
  | paired paired =>
      cases heads with
      | nil => exact .paired .nil paired
      | cons kinds closed => exact seam_of_kinds kinds closed paired
      | fresh ended boundary => exact seam_of_fresh ended boundary paired
  | @past post goesOn =>
      cases heads with
      | nil => exact .past goesOn .nil
      | @cons token token' earlier earlier' kinds closed =>
          have still : Focus.seam ⟨token' :: earlier', second⟩ = ⟨token' :: earlier', second⟩ := by
            cases second with
            | nil => rfl
            | cons next tokens =>
                have inside := apart next (by rw [goesOn]; rfl)
                have boundary := closed (by rw [goesOn]; exact Option.some_ne_none _)
                have unfused : fuse? token' next = none :=
                  fuse?_eq_none_of_boundary (by simp [boundary, inside])
                rw [seam_eq, unfused]
          rw [still]
          exact .past goesOn (.cons kinds closed)
      | fresh ended => rw [ended] at goesOn; cases goesOn

end Linework.Expansion
