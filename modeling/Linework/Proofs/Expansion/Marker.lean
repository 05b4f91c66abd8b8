import Linework.Expansion.Machine
import Mathlib.Data.List.Infix

/-!
# Facts about markers

A separator that ends a block still does with other characters before or after it, as it has when
separators fuse. A text that invokes a block is no other marker, and neither is the word of a loop.
-/

namespace Linework.Expansion

open Linework.Text

theorem hasBlockEnd_iff {chars : List Char} : hasBlockEnd chars ↔ [';', ';'] <:+: chars := by
  induction chars with
  | nil => simp [hasBlockEnd]
  | cons c rest ih =>
      rw [List.infix_cons_iff, ← ih, List.cons_prefix_cons]
      by_cases semicolon : c = ';'
      · subst semicolon
        cases rest with
        | nil => simp [hasBlockEnd]
        | cons next rest =>
            rw [hasBlockEnd, List.head?_cons, Bool.or_eq_true_iff, beq_iff_eq, Option.some.injEq,
              List.cons_prefix_cons]
            simp [eq_comm (a := next)]
      · simp [hasBlockEnd, Ne.symm semicolon]

theorem hasBlockEnd_append_right {chars : List Char} (ends : hasBlockEnd chars) (earlier : List Char) :
    hasBlockEnd (earlier ++ chars) :=
  hasBlockEnd_iff.mpr ((hasBlockEnd_iff.mp ends).trans (List.suffix_append earlier chars).isInfix)

theorem hasBlockEnd_append_left {chars : List Char} (ends : hasBlockEnd chars) (later : List Char) :
    hasBlockEnd (chars ++ later) :=
  hasBlockEnd_iff.mpr ((hasBlockEnd_iff.mp ends).trans (List.prefix_append chars later).isInfix)

/-! ## Invocations -/

theorem head?_of_markedName? {mark : Char} {text name : String} {rest : List Char}
    (marked : markedName? mark text = some (name, rest)) :
    (text.toList.dropWhile isBlank).head? = some mark := by
  unfold markedName? at marked
  split at marked
  · rename_i c chars split
    split at marked
    · rename_i isMark
      rw [split, eq_of_beq isMark]
      rfl
    · cases marked
  · cases marked

theorem head?_of_invocation? {text name : String} (invokes : invocation? text = some name) :
    (text.toList.dropWhile isBlank).head? = some '@' := by
  unfold invocation? at invokes
  split at invokes
  · rename_i marked
    exact head?_of_markedName? marked
  · cases invokes

theorem definition?_eq_none_of_invocation? {text name : String}
    (invokes : invocation? text = some name) : definition? text = none := by
  have atSign := head?_of_invocation? invokes
  cases marked : markedName? '_' text with
  | none => rw [definition?, marked, Option.map_none]
  | some found =>
      rw [head?_of_markedName? marked] at atSign
      cases atSign

/-! ## The word of a loop -/

theorem head?_of_isLoopWord {text : String} (isLoop : isLoopWord text) :
    (text.toList.dropWhile isBlank).head? = some '.' := by
  have trimmed : trimBy isBlank text.toList = ".for".toList := eq_of_beq isLoop
  -- What is left after trimming at the right end is a beginning.
  have front : ".for".toList <+: text.toList.dropWhile isBlank := by
    rw [← trimmed, trimBy]
    generalize text.toList.dropWhile isBlank = start
    have suffix := List.reverse_prefix.mpr (List.dropWhile_suffix isBlank (l := start.reverse))
    rwa [List.reverse_reverse] at suffix
  obtain ⟨later, start⟩ := front
  rw [← start]
  rfl

theorem isLoopWord_eq_false_of_invocation? {text name : String}
    (invokes : invocation? text = some name) : isLoopWord text = false := by
  refine Bool.eq_false_iff.mpr fun isLoop => ?_
  have clash := (head?_of_invocation? invokes).symm.trans (head?_of_isLoopWord isLoop)
  cases clash

theorem definition?_eq_none_of_isLoopWord {text : String} (isLoop : isLoopWord text) :
    definition? text = none := by
  cases marked : markedName? '_' text with
  | none => rw [definition?, marked, Option.map_none]
  | some found =>
      have clash := (head?_of_markedName? marked).symm.trans (head?_of_isLoopWord isLoop)
      cases clash

end Linework.Expansion
