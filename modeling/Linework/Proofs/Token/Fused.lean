import Linework.Token.Focus
import Mathlib.Data.List.Chain

/-!
# Sequences without fusible neighbours

A sequence is *fused* when no two neighbours in it fuse. Appending, joining and every edit at a
position of a sequence keep it so. All of this rests on one law of fusing: the item that two items
become fuses to its left as the first of them does, and to its right as the second does.
-/

namespace Linework

/-- What fusing has to satisfy: seen from the left a fused item is like its first part, and seen from
the right like its second. -/
class LawfulFusible (α : Type) [Fusible α] : Prop where
  isSome_fuse?_left {first second fused : α} (other : α) :
    fuse? first second = some fused → (fuse? other fused).isSome = (fuse? other first).isSome
  isSome_fuse?_right {first second fused : α} (other : α) :
    fuse? first second = some fused → (fuse? fused other).isSome = (fuse? second other).isSome

/-- No two neighbours of the sequence fuse. -/
def IsFused {α : Type} [Fusible α] (items : List α) : Prop :=
  items.IsChain fun first second => fuse? first second = none

instance {α : Type} [Fusible α] [DecidableEq α] (items : List α) : Decidable (IsFused items) :=
  inferInstanceAs (Decidable (items.IsChain fun first second => fuse? first second = none))

namespace Token

/-- Two tokens fuse when they are of one kind, and that kind fuses. -/
theorem fuse?_eq_some_iff {first second fused : Token} :
    fuse? first second = some fused ↔
      first.kind = second.kind ∧ first.kind.fuses ∧
        fused = ⟨first.kind, first.text ++ second.text⟩ := by
  change (if first.kind = second.kind ∧ first.kind.fuses then _ else none) = some fused ↔ _
  split
  · rename_i same
    rw [Option.some.injEq]
    exact ⟨fun equal => ⟨same.1, same.2, equal.symm⟩, fun ⟨_, _, equal⟩ => equal.symm⟩
  · rename_i different
    constructor
    · intro impossible
      contradiction
    · rintro ⟨kinds, fuses, _⟩
      exact absurd ⟨kinds, fuses⟩ different

theorem fuse?_eq_none_iff {first second : Token} :
    fuse? first second = none ↔ ¬(first.kind = second.kind ∧ first.kind.fuses) := by
  change (if first.kind = second.kind ∧ first.kind.fuses then _ else none) = none ↔ _
  split
  · rename_i same
    simp only [reduceCtorEq, false_iff, not_not]
    exact same
  · rename_i different
    exact ⟨fun _ => different, fun _ => rfl⟩

/-- Two tokens stay apart unless both are texts or both are separators. -/
theorem fuse?_eq_none_iff_kinds {first second : Token} : fuse? first second = none ↔
    ¬(first.kind = .text ∧ second.kind = .text) ∧
      ¬(first.kind = .boundary ∧ second.kind = .boundary) := by
  rw [fuse?_eq_none_iff]
  cases first.kind <;> cases second.kind <;> decide

/-- Whether two tokens fuse is a matter of their kinds. -/
theorem isSome_fuse?_congr {first second first' second' : Token} (firstKind : first.kind = first'.kind)
    (secondKind : second.kind = second'.kind) :
    (fuse? first second).isSome = (fuse? first' second').isSome := by
  rw [Bool.eq_iff_iff, Option.isSome_iff_ne_none, Option.isSome_iff_ne_none, ne_eq, ne_eq,
    fuse?_eq_none_iff, fuse?_eq_none_iff, firstKind, secondKind]

instance : LawfulFusible Token where
  isSome_fuse?_left other fuses := by
    obtain ⟨_, _, rfl⟩ := fuse?_eq_some_iff.mp fuses
    exact isSome_fuse?_congr rfl rfl
  isSome_fuse?_right other fuses := by
    obtain ⟨kinds, _, rfl⟩ := fuse?_eq_some_iff.mp fuses
    exact isSome_fuse?_congr kinds rfl

end Token

variable {α : Type} [Fusible α]

@[simp]
theorem isFused_nil : IsFused ([] : List α) :=
  List.isChain_nil

@[simp]
theorem isFused_singleton (item : α) : IsFused [item] :=
  List.isChain_singleton item

theorem isFused_cons {item : α} {rest : List α} :
    IsFused (item :: rest) ↔ (∀ next ∈ rest.head?, fuse? item next = none) ∧ IsFused rest :=
  List.isChain_cons

theorem isFused_append {first second : List α} :
    IsFused (first ++ second) ↔ IsFused first ∧ IsFused second ∧
      ∀ last ∈ first.getLast?, ∀ next ∈ second.head?, fuse? last next = none :=
  List.isChain_append

theorem IsFused.tail {item : α} {rest : List α} (fused : IsFused (item :: rest)) : IsFused rest :=
  (isFused_cons.mp fused).2

/-! ## Joining -/

@[simp]
theorem join_nil (second : List α) : join [] second = second :=
  rfl

@[simp]
theorem join_singleton (last : α) (second : List α) : join [last] second = glue last second :=
  rfl

theorem glue_ne_nil (item : α) (items : List α) : glue item items ≠ [] := by
  cases items with
  | nil => exact List.cons_ne_nil item []
  | cons next rest => cases fuses : fuse? item next <;> simp [glue, fuses]

/-- Only the last item of the first sequence meets the second one. -/
theorem join_append_singleton (first : List α) (last : α) (second : List α) :
    join (first ++ [last]) second = first ++ glue last second := by
  induction first with
  | nil => rfl
  | cons item rest ih =>
      cases rest with
      | nil => simp [join]
      | cons next others =>
          simp only [List.cons_append, join] at ih ⊢
          rw [ih]

/-- Only the last part of the first sequence meets the second one. -/
theorem append_join {second : List α} (nonempty : second ≠ []) (first third : List α) :
    join (first ++ second) third = first ++ join second third := by
  rcases List.eq_nil_or_concat second with rfl | ⟨earlier, last, rfl⟩
  · contradiction
  · rw [List.concat_eq_append, ← List.append_assoc, join_append_singleton, join_append_singleton,
      List.append_assoc]

theorem join_nil_right (first : List α) : join first [] = first := by
  rcases List.eq_nil_or_concat first with rfl | ⟨earlier, last, rfl⟩
  · rfl
  · rw [List.concat_eq_append, join_append_singleton]
    rfl

/-- The item glued on, alone or as a part, is the head of the result. -/
theorem head?_glue_eq_none_iff [LawfulFusible α] (other item : α) (items : List α) :
    (∀ next ∈ (glue item items).head?, fuse? other next = none) ↔ fuse? other item = none := by
  cases items with
  | nil => simp [glue]
  | cons next rest =>
      cases fuses : fuse? item next with
      | none => simp [glue, fuses]
      | some fused =>
          have same := LawfulFusible.isSome_fuse?_left other fuses
          simp only [glue, fuses, List.head?_cons, Option.mem_some_iff, forall_eq']
          rw [← Option.isNone_iff_eq_none, ← Option.isNone_iff_eq_none, ← Option.not_isSome,
            ← Option.not_isSome, same]

theorem IsFused.glue [LawfulFusible α] {item : α} {items : List α} (fused : IsFused items) :
    IsFused (glue item items) := by
  cases items with
  | nil => simp [Linework.glue]
  | cons next rest =>
      cases fuses : fuse? item next with
      | none =>
          simp only [Linework.glue, fuses]
          exact isFused_cons.mpr ⟨by simpa using fuses, fused⟩
      | some joined =>
          simp only [Linework.glue, fuses]
          obtain ⟨apart, restFused⟩ := isFused_cons.mp fused
          refine isFused_cons.mpr ⟨fun other otherMem => ?_, restFused⟩
          have same := LawfulFusible.isSome_fuse?_right other fuses
          rw [apart other otherMem] at same
          simpa using same

theorem IsFused.join [LawfulFusible α] {first second : List α} (firstFused : IsFused first)
    (secondFused : IsFused second) : IsFused (join first second) := by
  rcases List.eq_nil_or_concat first with rfl | ⟨earlier, last, rfl⟩
  · exact secondFused
  · rw [List.concat_eq_append] at firstFused ⊢
    rw [join_append_singleton]
    obtain ⟨earlierFused, _, apart⟩ := isFused_append.mp firstFused
    refine isFused_append.mpr ⟨earlierFused, secondFused.glue, fun before beforeMem => ?_⟩
    exact (head?_glue_eq_none_iff before last second).mpr (apart before beforeMem last (by simp))

/-- Sequences that do not fuse at the seam are joined by putting them in a row. -/
theorem join_eq_append {first second : List α}
    (apart : ∀ last ∈ first.getLast?, ∀ next ∈ second.head?, fuse? last next = none) :
    join first second = first ++ second := by
  rcases List.eq_nil_or_concat first with rfl | ⟨earlier, last, rfl⟩
  · rfl
  · rw [List.concat_eq_append, join_append_singleton]
    cases second with
    | nil => simp [Linework.glue]
    | cons next rest =>
        have none : fuse? last next = none := apart last (by simp) next (by simp)
        simp [Linework.glue, none]

/-! ## Tokens in a row -/

namespace Token

/-- Fusing does not depend on which two of three tokens come first. -/
theorem fuse?_fused {first second fused : Token} (fuses : fuse? first second = some fused)
    (third : Token) : fuse? fused third = (fuse? second third).bind (fuse? first ·) := by
  obtain ⟨kinds, fusing, rfl⟩ := fuse?_eq_some_iff.mp fuses
  by_cases same : second.kind = third.kind
  · have fusing' := kinds ▸ fusing
    simp [fuse?, kinds, same, same ▸ fusing', String.append_assoc]
  · simp [fuse?, kinds, same]

/-- A token meets the first of two sequences in a row only. -/
theorem glue_join (token : Token) (second third : List Token) :
    glue token (join second third) = join (glue token second) third := by
  cases second with
  | nil => rfl
  | cons next rest =>
      cases rest with
      | cons other others =>
          cases fuses : fuse? token next <;> simp [join, glue, fuses]
      | nil =>
          cases third with
          | nil => simp [join_nil_right, glue]
          | cons last later =>
              cases fuses : fuse? token next with
              | none =>
                  have apart := (head?_glue_eq_none_iff token next (last :: later)).mpr fuses
                  rw [← join_singleton token, join_eq_append (by simpa using apart)]
                  simp [glue, fuses, join]
              | some fused =>
                  have both := fuse?_fused fuses last
                  cases meets : fuse? next last with
                  | none =>
                      rw [meets, Option.bind_none] at both
                      simp [glue, fuses, meets, both]
                  | some later =>
                      have all := LawfulFusible.isSome_fuse?_left token meets
                      rw [fuses] at all
                      obtain ⟨whole, wholeEq⟩ := Option.isSome_iff_exists.mp all
                      rw [meets, Option.bind_some] at both
                      simp [glue, fuses, meets, both, wholeEq]

theorem join_assoc (first second third : List Token) :
    join (join first second) third = join first (join second third) := by
  rcases List.eq_nil_or_concat first with rfl | ⟨earlier, last, rfl⟩
  · rfl
  · rw [List.concat_eq_append, join_append_singleton, join_append_singleton,
      append_join (glue_ne_nil last second), ← glue_join]

end Token

/-! ## Building by appending -/

namespace Token

theorem fused_append_singleton (tokens : List Token) (token : Token) :
    fused (tokens ++ [token]) = join (fused tokens) [token] := by
  simp [fused]

/-- A sequence that is built by appending is fused. -/
theorem isFused_fused (tokens : List Token) : IsFused (fused tokens) := by
  induction tokens using List.reverseRecOn with
  | nil => exact isFused_nil
  | append_singleton tokens token ih =>
      rw [fused_append_singleton]
      exact ih.join (isFused_singleton token)

/-- To append the tokens of a fused sequence one after the other is to join the sequence. -/
theorem foldl_join {second : List Token} (isFused : IsFused second) (first : List Token) :
    second.foldl (fun sequence token => join sequence [token]) first = join first second := by
  induction second using List.reverseRecOn with
  | nil => exact (join_nil_right first).symm
  | append_singleton earlier token ih =>
      obtain ⟨earlierFused, _, apart⟩ := isFused_append.mp isFused
      rw [List.foldl_append, ih earlierFused, ← join_eq_append apart, ← join_assoc]
      rfl

theorem fused_append (first : List Token) {second : List Token} (isFused : IsFused second) :
    fused (first ++ second) = join (fused first) second := by
  rw [fused, List.foldl_append, foldl_join isFused, fused]

/-- Appending the tokens of a fused sequence one after the other gives the sequence again. -/
theorem fused_eq_self {tokens : List Token} (isFused : IsFused tokens) : fused tokens = tokens :=
  foldl_join isFused []

end Token

/-! ## Editing at a position -/

namespace Focus

/-- The seam is the join of what stands before the position and what stands after it. -/
theorem toList_seam (before after : List α) :
    (seam ⟨before, after⟩).toList = join before.reverse after := by
  cases before with
  | nil => rfl
  | cons last earlier =>
      rw [List.reverse_cons, join_append_singleton]
      cases after with
      | nil => simp [seam, toList, Linework.glue]
      | cons next rest =>
          cases fuses : fuse? last next <;> simp [seam, toList, Linework.glue, fuses]

/-- What stands before the nearest item plays no part at the seam. -/
theorem seam_append {before : List α} (nonempty : before ≠ []) (earlier after : List α) :
    seam ⟨before ++ earlier, after⟩ =
      ⟨(seam ⟨before, after⟩).before ++ earlier, (seam ⟨before, after⟩).after⟩ := by
  obtain ⟨last, others, rfl⟩ := List.exists_cons_of_ne_nil nonempty
  cases after with
  | nil => rfl
  | cons next rest =>
      cases fuses : fuse? last next <;> simp [seam, fuses]

end Focus

end Linework
