import Linework.Proofs.Token.Fused
import Linework.Token.Scan

/-!
# What the reader gives is fused

What the reader does with one character, each of the four ways in an equation of its own. It glues each
token onto those that follow it, so that no two neighbours of its result fuse.
-/

namespace Linework.Token

/-! ## One character -/

section Steps

variable {run next : Run} {held rest : List Char} {c : Char}

/-- A character that belongs to the run. -/
theorem scan_stay (turnEq : turn run held c rest.head? = .run run) :
    scan run held (c :: rest) = scan run (c :: held) rest := by
  simp only [scan, turnEq, if_true]

/-- A character that ends the run and starts another. -/
theorem scan_move (turnEq : turn run held c rest.head? = .run next) (moves : next ≠ run) :
    scan run held (c :: rest) = store run held (scan next (firstHeld next c) rest) := by
  simp only [scan, turnEq, moves, if_false]

/-- A character that opens a braced script. -/
theorem scan_braced (turnEq : turn run held c rest.head? = .braced) :
    scan run held (c :: rest) =
      store run held (glue ⟨scriptKind run, String.ofList (Body.braced c rest).1⟩
        (scan (afterScript run) [] ((Body.braced c rest).2.drop 1))) := by
  simp only [scan, turnEq]

/-- A character that starts a shorthand script. -/
theorem scan_shorthand (turnEq : turn run held c rest.head? = .shorthand) :
    scan run held (c :: rest) =
      store run held
        (glue ⟨scriptKind run, String.ofList (shorthandText (Body.bare (endsShorthand run) c rest).1)⟩
          (scan (afterScript run) [] (Body.bare (endsShorthand run) c rest).2)) := by
  simp only [scan, turnEq]

end Steps

/-! ## No neighbours that fuse -/

theorem isFused_store {run : Run} {held : List Char} {rest : List Token} (fused : IsFused rest) :
    IsFused (store run held rest) := by
  cases run with
  | idle => exact fused
  | text | boundary | continuation | group | string => exact fused.glue

theorem isFused_close (run : Run) (held : List Char) : IsFused (close run held) := by
  unfold close
  split
  · exact isFused_store isFused_nil
  · exact isFused_store (isFused_singleton _)

theorem isFused_scan (run : Run) (held chars : List Char) : IsFused (scan run held chars) := by
  induction run, held, chars using scan.induct with
  | case1 run held =>
      rw [scan]
      exact isFused_close run held
  | case2 held c rest next turnEq ih =>
      rw [scan_stay turnEq]
      exact ih
  | case3 run held c rest next turnEq moves ih =>
      rw [scan_move turnEq moves]
      exact isFused_store ih
  | case4 run held c rest turnEq script ih =>
      rw [scan_braced turnEq]
      exact isFused_store ih.glue
  | case5 run held c rest turnEq script ih =>
      rw [scan_shorthand turnEq]
      exact isFused_store ih.glue

/-- No two neighbours among the tokens of a source fuse. -/
theorem isFused_tokenize (source : String) : IsFused (tokenize source) := by
  unfold tokenize
  split
  · exact isFused_nil
  · exact isFused_scan _ _ _

end Linework.Token
