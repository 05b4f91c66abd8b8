import Linework.Proofs.Assoc
import Linework.Proofs.Script.Frame
import Linework.Proofs.Script.Place
import Linework.Proofs.Script.Session
import Linework.Proofs.Script.Sigil

/-!
# Expressions and blocks agree

A fragment that is an expression can be given with an equals sign in front, as a value, or without one, as a
block. Both are read as the same expression unless a literal goes over several lines, whose later lines get
the margin of the block. A block is then run at a place of its own, after which the functions that it defines
are named.
-/

namespace Linework.Script

open Linework.Text

variable {chars : List Char} {code : String} {expr : Expr}

/-! ## Reading -/

theorem trimBy_rdropWhile {passes : Char → Bool} (nonempty : trimBy passes (chars.rdropWhile passes) ≠ []) :
    trimBy passes chars = trimBy passes (chars.rdropWhile passes) := by
  obtain ⟨trail, whole, trailPasses⟩ := exists_trimBy passes (chars.rdropWhile passes)
  have around := @trimBy_append ((chars.rdropWhile passes).takeWhile passes) _
    (trail ++ chars.rtakeWhile passes) passes nonempty (any_head_trimBy ..) (any_getLast_trimBy ..)
  rw [← List.append_assoc, ← whole, List.rdropWhile_append_rtakeWhile] at around
  have passed : ∀ c ∈ trail ++ chars.rtakeWhile passes, passes c := by
    rw [List.forall_mem_append]
    exact ⟨fun c member => List.mem_takeWhile_imp (trailPasses c member), fun c => List.mem_rtakeWhile_imp⟩
  rw [around, List.rdropWhile_eq_nil_iff.mpr passed,
    List.dropWhile_eq_nil_iff.mpr fun c => List.mem_takeWhile_imp, List.nil_append, List.append_nil]

theorem trimBy_equals (chars : List Char) : trimBy isBlank ('=' :: chars) = '=' :: chars.rdropWhile isBlank := by
  have solid : isBlank '=' = false := by decide +kernel
  exact @trimBy_append [] ['='] chars isBlank nofun solid solid

/-- What a fragment is read as. -/
def Fragment.read (code : String) : Except Flaw Fragment :=
  let chars := dropSigils code.toList
  match trimBy isBlank chars with
  | [] => .ok .empty
  | '=' :: rest => readValue (trimBy isBlank rest)
  | _ => readStatements chars

theorem run_eq_runRead (code : String) : language.run code = Fragment.runRead (Fragment.read code) := by
  unfold Language.run Fragment.read
  dsimp only
  generalize trimBy isBlank (dropSigils code.toList) = trimmed
  rcases trimmed with _ | ⟨first, rest⟩
  · rfl
  · by_cases equals : first = '='
    · subst equals
      rfl
    · simp [equals, language]

theorem read_of_equals (code : String) :
    Fragment.read ("=" ++ code) =
      Fragment.readValue (trimBy isBlank ((dropSigils code.toList).rdropWhile isBlank)) := by
  have chars : ("=" ++ code).toList = '=' :: code.toList := String.toList_append
  have sigils : dropSigils ('=' :: code.toList) = '=' :: dropSigils code.toList :=
    dropSigils_cons (by decide) nofun
  unfold Fragment.read
  rw [chars, sigils]
  dsimp only
  rw [trimBy_equals]
  rfl

theorem readValue_eq_expression (read : Fragment.readValue chars = .ok (.expression expr)) :
    readExpression chars = .ok expr ∧ expr.bindsWell false maxNesting := by
  unfold Fragment.readValue at read
  cases found : readExpression chars with
  | error flaw =>
      rw [found] at read
      exact nomatch read
  | ok value =>
      rw [found] at read
      change (if value.bindsWell false maxNesting then _ else _) = _ at read
      split at read
      case isTrue binds =>
        obtain rfl := Fragment.expression.inj (Except.ok.inj read)
        exact ⟨rfl, binds⟩
      · exact nomatch read

theorem fragmentMakesSense_of_bindsWell {depth : Nat} (binds : expr.bindsWell false (depth + 2)) :
    fragmentMakesSense (depth + 2) [.expression expr] := by
  simp [fragmentMakesSense, declaresInTime, makesSense, statementMakesSense, Statement.exprs, Statement.blocks,
    binds]

theorem read_block (reads : Fragment.read ("=" ++ code) = .ok (.expression expr))
    (plain : hasPlainEnds (dropSigils code.toList))
    (short : ∀ lexeme ∈ lexemes (unifyLineEnds (trimBy isBlank (dropSigils code.toList))),
      lexeme.spansLines = false) :
    Fragment.read code = .ok (.block [.expression expr]) := by
  rw [read_of_equals] at reads
  obtain ⟨readExpr, binds⟩ := readValue_eq_expression reads
  rw [← trimBy_rdropWhile (ne_nil_of_readExpression readExpr)] at readExpr
  have block := readBlock_of_readExpression plain short readExpr
  have isStatements : Fragment.read code = Fragment.readStatements (dropSigils code.toList) := by
    unfold Fragment.read
    dsimp only
    split
    case h_1 empty => exact absurd empty (ne_nil_of_readExpression readExpr)
    case h_2 rest same =>
      rw [same] at readExpr
      exact absurd readExpr readExpression_equals
    case h_3 => rfl
  rw [isStatements]
  unfold Fragment.readStatements
  rw [block]
  have sense : fragmentMakesSense maxNesting [.expression expr] := fragmentMakesSense_of_bindsWell binds
  change (if fragmentMakesSense maxNesting [.expression expr] then _ else _) = _
  rw [if_pos sense]
  rfl

/-! ## Running -/

theorem Expr.fits_mono {layers layers' : Nat} (few : layers ≤ layers') (fits : expr.fits layers) :
    expr.fits layers' := by
  induction layers generalizing expr layers' with
  | zero => contradiction
  | succ layers ih =>
      obtain ⟨layers', rfl⟩ := Nat.exists_eq_add_of_lt few
      unfold Expr.fits at fits ⊢
      rw [List.all_eq_true] at fits ⊢
      exact fun part member => ih (by omega) (fits part member)

/-- Layers that a block has room for are room enough for its expression on its own. -/
theorem fits_of_statement (fits : (Statement.expression expr).fits maxVisited) : expr.fits maxCompiled := by
  obtain ⟨inside, _⟩ := Bool.and_eq_true_iff.mp fits
  exact Expr.fits_mono (by decide) (List.all_eq_true.mp inside expr (List.mem_singleton_self expr))

theorem runBlock_expression (fits : (Statement.expression expr).fits maxVisited)
    (own : (fragmentNames maxNesting [.expression expr]).own = []) :
    Fragment.runBlock [.expression expr] = (do
      modify fun world => { world with shared := world.shared.erase fragmentName }
      eval maxSteps { path := fragmentName ++ ".<locals>." } expr) := by
  have leaves : ∀ site, exec (maxSteps + 3) site [.leave (some expr)] =
      (eval maxSteps site expr >>= fun value => return .left value) := by
    intro site
    rw [exec, execOne, evalOptional]
    simp
  unfold Fragment.runBlock Fragment.openOwn
  rw [own, leaveAtEnd]
  simp [leaves, fits]

/-- A block that is an expression is run as the expression, at a place of its own. -/
theorem run_block {world : World} (fits : (Statement.expression expr).fits maxVisited)
    (own : (fragmentNames maxNesting [.expression expr]).own = [])
    (unused : fragmentName ∉ world.shared.keys) :
    (Fragment.block [.expression expr]).run.run.run world =
      (eval maxSteps { path := fragmentName ++ ".<locals>." } expr).run.run world := by
  have same : { world with shared := world.shared.erase fragmentName } = world := by
    rw [Assoc.erase_of_absent unused]
  change (Fragment.runBlock [.expression expr]).run.run world = _
  rw [runBlock_expression fits own]
  change (eval maxSteps _ expr).run.run { world with shared := world.shared.erase fragmentName } = _
  rw [same]

theorem run_expression (fits : (Statement.expression expr).fits maxVisited) :
    (Fragment.expression expr).run = eval maxSteps {} expr := by
  simp [Fragment.run, fits_of_statement fits]

namespace Session

variable {session : Session}

/-- An expression is read as the same expression with an equals sign in front and as a block, unless a literal
in it goes over several lines or blanks around it are not plain. As a block it is run like the expression, but
at a place of its own: the full names of the functions and generators that it defines begin with the name of the
block. So an expression that defines none and that succeeds comes to the same text both times, with the same
effects. Excepted are expressions with too many layers for the names of a block to be collected, those that bind
a name in a comprehension alone, which a block has to itself, and worlds in which the name of the block is
taken. -/
theorem evaluate_block (reads : Fragment.read ("=" ++ code) = .ok (.expression expr))
    (plain : hasPlainEnds (dropSigils code.toList))
    (short : ∀ lexeme ∈ lexemes (unifyLineEnds (trimBy isBlank (dropSigils code.toList))),
      lexeme.spansLines = false)
    (fits : (Statement.expression expr).fits maxVisited)
    (own : (fragmentNames maxNesting [.expression expr]).own = [])
    (unused : fragmentName ∉ session.world.shared.keys) :
    Fragment.read code = .ok (.block [.expression expr]) ∧
      (language.run code).run.run session.world =
        (eval maxSteps { path := fragmentName ++ ".<locals>." } expr).run.run session.world ∧
      (expr.isFunctionFree → ∀ text after,
        evaluate ("=" ++ code) session = (.ok text, { session with world := after }) →
        evaluate code session = (.ok text, { session with world := after })) := by
  have block := read_block reads plain short
  have runs : (language.run code).run.run session.world =
      (eval maxSteps { path := fragmentName ++ ".<locals>." } expr).run.run session.world := by
    rw [run_eq_runRead, block]
    exact run_block fits own unused
  refine ⟨block, runs, fun free text after => Language.evaluate_of_run_eq ?_⟩
  have alone : language.run ("=" ++ code) = eval maxSteps {} expr := by
    rw [run_eq_runRead, reads]
    exact run_expression fits
  have place := @eval_path maxSteps {} expr (fragmentName ++ ".<locals>.") free
  rw [runs, alone, ← place]

/-- An expression over two lines. -/
theorem evaluate_block_sum : ∃ after,
    evaluate "=(1 +\n 2)" {} = (.ok "3", { world := after }) ∧
      evaluate "(1 +\n 2)" {} = (.ok "3", { world := after }) := by
  obtain ⟨expr, reads, fits, own, free⟩ :
      ∃ expr, Fragment.read ("=" ++ "(1 +\n 2)") = .ok (.expression expr) ∧
        (Statement.expression expr).fits maxVisited ∧
        (fragmentNames maxNesting [.expression expr]).own = [] ∧ expr.isFunctionFree := by
    have found : (match Fragment.read "=(1 +\n 2)" with
        | .ok (.expression expr) => (Statement.expression expr).fits maxVisited &&
          ((fragmentNames maxNesting [.expression expr]).own.isEmpty && expr.isFunctionFree)
        | _ => false) = true := by
      decide +kernel
    split at found
    case h_1 expr reads =>
      obtain ⟨fits, found⟩ := Bool.and_eq_true_iff.mp found
      obtain ⟨own, free⟩ := Bool.and_eq_true_iff.mp found
      exact ⟨expr, reads, fits, List.isEmpty_iff.mp own, free⟩
    · contradiction
  have short : ∀ lexeme ∈ lexemes (unifyLineEnds (trimBy isBlank (dropSigils "(1 +\n 2)".toList))),
      lexeme.spansLines = false := by
    decide +kernel
  have replied : language.reply? "=(1 +\n 2)" ({} : Session).world = some (.text "3") := by
    decide +kernel
  obtain ⟨after, ends⟩ := Language.exists_ends_of_reply? replied
  have succeeds : evaluate "=(1 +\n 2)" {} = (.ok "3", { world := after }) :=
    Language.evaluate_eq_ok_iff.mpr ends
  have agree := @evaluate_block "(1 +\n 2)" expr {} reads (by decide +kernel) short fits own (by decide +kernel)
  exact ⟨after, succeeds, agree.2.2 free "3" after succeeds⟩

/-- The later lines of a literal get the margin of a block. -/
theorem evaluate_block_differs :
    (evaluate "='''a\nb'''" {}).1.toOption = some "a\nb" ∧
      (evaluate "'''a\nb'''" {}).1.toOption = some "a\n    b" := by
  decide +kernel

end Session

end Linework.Script
