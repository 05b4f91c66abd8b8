import Linework.Proofs.Script.Language
import Linework.Script.Session

/-!
# Evaluation in the script language

What evaluation makes of fragments is a fact about all languages. Here are fragments of the script language for
each of the cases: a quotient that there is, one that there is not, and a number that cannot be written.
-/

namespace Linework.Script.Session

open Linework.Script.Language

/-- A quotient is given as text, and a division by zero is reported. -/
theorem evaluate_of_quotients :
    (language.Ends "=7 // 2" ({} : Session).world ∧
      ∃ after, evaluate "=7 // 2" {} = (.ok "3", { world := after })) ∧
    language.Ends "7 // 0" ({} : Session).world ∧
      ∃ after, evaluate "7 // 0" {} = (.ok "", {
        world := after
        reports := #["ScriptError: ZeroDivisionError: integer division or modulo by zero\n" ++
          "  in \x7b7 // 0\x7d"] }) := by
  have quotientEnds : language.Ends "=7 // 2" ({} : Session).world := by
    decide +kernel
  have divisionEnds : language.Ends "7 // 0" ({} : Session).world := by
    decide +kernel
  have succeeds : language.reply? "=7 // 2" ({} : Session).world = some (.text "3") := by
    decide +kernel
  have fails : language.reply? "7 // 0" ({} : Session).world =
      some (.failure "ZeroDivisionError: integer division or modulo by zero") := by
    decide +kernel
  obtain ⟨written, _⟩ := evaluate_of_ends quotientEnds
  obtain ⟨_, reported, _⟩ := evaluate_of_ends divisionEnds
  obtain ⟨after, returns⟩ := exists_ends_of_reply? succeeds
  obtain ⟨after', throws⟩ := exists_ends_of_reply? fails
  exact ⟨⟨quotientEnds, after, written _ _ (comes_of_reply returns)⟩,
    divisionEnds, after', reported _ _ (comes_of_reply throws)⟩

/-- An integer of one digit too many has no text, and the evaluation raises a fault. -/
theorem evaluate_raises_of_long_integer :
    language.Ends "=10**4300" ({} : Session).world ∧ ¬∃ text, (evaluate "=10**4300" {}).1 = .ok text := by
  refine ⟨by decide +kernel, ?_⟩
  rintro ⟨text, returned⟩
  have raised : (evaluate "=10**4300" {}).1.isOk = false := by
    decide +kernel
  rw [returned] at raised
  contradiction

end Linework.Script.Session
