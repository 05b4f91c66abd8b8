import Linework.Proofs.Expansion.Walk
import Linework.Proofs.Token.Concatenation

/-!
# Splicing is substitution

A script's output takes the place of the script's token. Where the source before the script and the
output both end outside of brackets, the sequence is then the one of the source with the output written
in place of the script, braces and all. Text joins on both sides, and separators meet across an empty
output; of the empty separators at the ends of the sources in between none is left.
-/

namespace Linework.Expansion

open Node Token

/-- A script between braces, and the source after it, as they are read outside of brackets. -/
theorem scan_plainScript {code : String} (plain : ∀ c ∈ code.toList, Body.isPlain c)
    (post : List Char) :
    scan .idle [] ('\x7b' :: (code.toList ++ '\x7d' :: post)) =
      ⟨.script, code⟩ :: scan .idle [] post := by
  rw [scan, turn_brace (by simp), Body.braced_of_isPlain plain]
  simp only [store, String.ofList_toList, List.drop_one, List.tail_cons]
  exact glue_scriptKind .idle code _

/-- The tokens of a source with a script in it: those before the script without the empty separator, the
script, and those after it. -/
theorem tokenize_script {pre post code : String} (closed : Closed pre) (steady : Steady pre.toList)
    (steadyCode : Steady code.toList) (steadyPost : Steady post.toList)
    (plain : ∀ c ∈ code.toList, Body.isPlain c) :
    tokenize (pre ++ "\x7b" ++ code ++ "\x7d" ++ post) =
      outputTokens pre ++ ⟨.script, code⟩ :: scan .idle [] post.toList := by
  have behind : Steady ('\x7b' :: (code.toList ++ '\x7d' :: post.toList)) := by
    simp only [Steady, List.forall_mem_cons, List.forall_mem_append]
    exact ⟨by decide, steadyCode, by decide, steadyPost⟩
  have chars : (pre ++ "\x7b" ++ code ++ "\x7d" ++ post).toList =
      pre.toList ++ '\x7b' :: (code.toList ++ '\x7d' :: post.toList) := by simp
  have unfused : ∀ last : Token, fuse? last ⟨.script, code⟩ = none := by
    intro last
    rw [fuse?_eq_none_iff]
    rintro ⟨same, fuses⟩
    rw [same] at fuses
    cases fuses
  rw [tokenize_of_ne_empty (by simp), chars, closed.scan_append steady behind, scan_plainScript plain]
  exact join_eq_append fun last _ next isHead => by
    rw [← Option.some.inj isHead]
    exact unfused last

/-- The tokens of two closed sources and a third in a row. -/
theorem tokenize_inRow {pre output post : String} (preClosed : Closed pre)
    (outputClosed : Closed output) (preSteady : Steady pre.toList) (outputSteady : Steady output.toList)
    (postSteady : Steady post.toList) (nonempty : pre ++ output ++ post ≠ "") :
    tokenize (pre ++ output ++ post) =
      join (outputTokens pre) (join (outputTokens output) (scan .idle [] post.toList)) := by
  have behind : Steady (output.toList ++ post.toList) :=
    List.forall_mem_append.mpr ⟨outputSteady, postSteady⟩
  rw [tokenize_of_ne_empty nonempty, String.toList_append, String.toList_append, List.append_assoc,
    preClosed.scan_append preSteady behind, outputClosed.scan_append outputSteady postSteady]
  rfl

namespace Walk

/-- The sequence after the cell at a cursor was replaced by the cells of other tokens. -/
theorem Frame.tokens_replaceWith {tokens rest output : List Token} {token : Token}
    (fused : IsFused (tokens ++ token :: rest)) (outputFused : IsFused output) :
    let frame := Frame.ofTokens (tokens ++ token :: rest)
    let cursor := frame.behind tokens.length
    let built := frame.memory.build output
    let spot := Spot.replaceWith ⟨built.1, frame.ends, cursor⟩ built.2
    frame.tokens = tokens ++ token :: rest ∧ frame.memory.tokenAt? cursor = some token ∧
      (frame.edited spot).tokens = join tokens (join output rest) := by
  intro frame cursor built spot
  obtain ⟨nodes, start, nodeTokens⟩ := Frame.placed_ofTokens (tokens ++ token :: rest)
  rw [fused_eq_self fused] at nodeTokens
  obtain ⟨before, after, rfl, beforeTokens, afterTokens⟩ := List.map_eq_append_iff.mp nodeTokens
  obtain ⟨node, others, rfl, rfl, rfl⟩ := List.map_eq_cons_iff.mp afterTokens
  have lengths : tokens.length = before.length := by rw [← beforeTokens, List.length_map]
  have cursorEq : cursor = firstOr ((([] : List Node) ++ (before ++ node :: others)).drop
      tokens.length) none := start.behind tokens.length
  have reached := start.skip tokens.length
  rw [← cursorEq, lengths, List.nil_append, List.nil_append, List.drop_left, List.take_left] at reached
  obtain ⟨_, _, _, spliced, cutEq⟩ := reached.splice .resolve output outputFused
  refine ⟨?_, ?_, ?_⟩
  · rw [start.tokens, ← nodeTokens]
    rfl
  · exact reached.tokenAt?_lookahead
  · have tokensEq := spliced.tokens
    rw [← Frame.tokens_cut _ _ _ .resolve, ← cutEq] at tokensEq
    have seam := Focus.toList_seam (Node.tokens before).reverse (join output (Node.tokens others))
    rw [List.reverse_reverse] at seam
    rw [← beforeTokens]
    exact tokensEq.trans seam

/-- A source with a plain script behind a closed source, and a closed output. With the cursor at the
script's cell, replacing the cell by those of the output, without the output's empty separator, leaves
the tokens of the source with the output in place of the script; and so does the splice of the machine. -/
theorem replaceWith_output_eq_tokenize {pre output post code : String}
    (preClosed : Closed pre) (outputClosed : Closed output) (preSteady : Steady pre.toList)
    (outputSteady : Steady output.toList) (postSteady : Steady post.toList)
    (codeSteady : Steady code.toList) (codePlain : ∀ c ∈ code.toList, Body.isPlain c)
    (nonempty : pre ++ output ++ post ≠ "") :
    let source := pre ++ "\x7b" ++ code ++ "\x7d" ++ post
    let frame := Frame.ofTokens (tokenize source)
    let front := (outputTokens pre).length
    let built := frame.memory.build (outputTokens output)
    let spot := Spot.replaceWith ⟨built.1, frame.ends, frame.behind front⟩ built.2
    frame.tokens = tokenize source ∧ (tokenize source).take front = outputTokens pre ∧
      frame.memory.tokenAt? (frame.behind front) = some ⟨.script, code⟩ ∧
      (frame.edited spot).tokens = tokenize (pre ++ output ++ post) ∧
      (Focus.splice (outputTokens output)
        ⟨(outputTokens pre).reverse, (tokenize source).drop front⟩).toList =
        tokenize (pre ++ output ++ post) := by
  intro source frame front built spot
  have read : tokenize source = outputTokens pre ++ ⟨.script, code⟩ :: scan .idle [] post.toList :=
    tokenize_script preClosed preSteady codeSteady postSteady codePlain
  have whole := tokenize_inRow preClosed outputClosed preSteady outputSteady postSteady nonempty
  have fused : IsFused (outputTokens pre ++ ⟨.script, code⟩ :: scan .idle [] post.toList) :=
    read ▸ isFused_tokenize source
  obtain ⟨frameTokens, atScript, replaced⟩ :=
    Frame.tokens_replaceWith fused (isFused_outputTokens output)
  rw [← read] at frameTokens atScript replaced
  refine ⟨frameTokens, ?_, atScript, replaced.trans whole.symm, ?_⟩
  · rw [read, List.take_left]
  · have seam := Focus.toList_seam (outputTokens pre).reverse
      (join (outputTokens output) (scan .idle [] post.toList))
    rw [List.reverse_reverse] at seam
    rw [read, List.drop_left, whole]
    exact seam

/-- An output that goes on with a word before it and ends with a separator that another follows. -/
theorem replaceWith_output_eq_tokenize_of_seams :
    Closed "grid (1 \x7bx\x7d);po" ∧ Closed "int 3;" ∧
      let frame := Frame.ofTokens (tokenize "grid (1 \x7bx\x7d);po\x7bi\x7d\naxis (y")
      let built := frame.memory.build (outputTokens "int 3;")
      let spot := Spot.replaceWith ⟨built.1, frame.ends, frame.behind 6⟩ built.2
      frame.memory.tokenAt? (frame.behind 6) = some ⟨.script, "i"⟩ ∧
        (frame.edited spot).tokens = tokenize "grid (1 \x7bx\x7d);point 3;\naxis (y" := by
  have closed : Closed "grid (1 \x7bx\x7d);po" ∧ Closed "int 3;" := by decide +kernel
  have front : (outputTokens "grid (1 \x7bx\x7d);po").length = 6 := by decide +kernel
  have postSteady : Steady "\naxis (y".toList := by decide +kernel
  have codeSteady : Steady "i".toList := by decide +kernel
  have codePlain : ∀ c ∈ "i".toList, Body.isPlain c := List.all_eq_true.mp (by decide +kernel)
  have replaced := replaceWith_output_eq_tokenize closed.1 closed.2 (by decide +kernel)
    (by decide +kernel) postSteady codeSteady codePlain (by decide +kernel)
  rw [front] at replaced
  exact ⟨closed.1, closed.2, replaced.2.2.1, replaced.2.2.2.1⟩

end Walk

end Linework.Expansion
