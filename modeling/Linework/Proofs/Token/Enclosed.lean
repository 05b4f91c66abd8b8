import Linework.Proofs.Token.Concatenation

/-!
# Scripts inside of groups

A script that is embedded in a group is a piece of a run: the text of the group before it and the text
of the group behind it stand next to it, be they empty. The reader gives such runs only, and they stay
runs when sequences are joined, cut at other tokens, or fused at a seam.
-/

namespace Linework

/-- Every group script of the sequence stands directly between two groups. -/
def Enclosed (tokens : List Token) : Prop :=
  ∀ before piece after, tokens = before ++ piece :: after → piece.kind = .groupScript →
    (∃ group ∈ before.getLast?, group.kind = .group) ∧ ∃ group ∈ after.head?, group.kind = .group

namespace Token

/-- Two tokens of which neither is a group script, unless the other is a group. -/
def Meets (first second : Token) : Prop :=
  (first.kind = .groupScript → second.kind = .group) ∧
    (second.kind = .groupScript → first.kind = .group)

theorem meets_of_ne {first second : Token} (firstNoScript : first.kind ≠ .groupScript)
    (secondNoScript : second.kind ≠ .groupScript) : first.Meets second :=
  ⟨(absurd · firstNoScript), (absurd · secondNoScript)⟩

end Token

variable {tokens first second rest : List Token} {token group piece : Token}

theorem Enclosed.isChain (enclosed : Enclosed tokens) : tokens.IsChain Token.Meets := by
  have behind (earlier later : List Token) (cut : tokens = earlier ++ later) :
      later.IsChain Token.Meets := by
    induction later generalizing earlier with
    | nil => exact List.isChain_nil
    | cons token rest ih =>
        refine List.isChain_cons.mpr ⟨fun next isNext => ?_, ih (earlier ++ [token]) (by simp [cut])⟩
        constructor
        · intro script
          obtain ⟨_, other, isOther, isGroup⟩ := enclosed earlier token rest cut script
          rwa [Option.mem_unique isNext isOther]
        · intro script
          obtain ⟨others, rfl⟩ := List.head?_eq_some_iff.mp isNext
          obtain ⟨⟨other, isOther, isGroup⟩, _⟩ :=
            enclosed (earlier ++ [token]) next others (by simp [cut]) script
          obtain rfl : token = other := by simpa using isOther
          exact isGroup
  exact behind [] tokens rfl

/-- Group scripts are enclosed where all neighbours allow it and none is the first or the last token. -/
theorem enclosed_iff : Enclosed tokens ↔ tokens.IsChain Token.Meets ∧
    (∀ token ∈ tokens.head?, token.kind ≠ .groupScript) ∧
      ∀ token ∈ tokens.getLast?, token.kind ≠ .groupScript := by
  constructor
  · intro enclosed
    refine ⟨enclosed.isChain, fun token isFirst script => ?_, fun token isLast script => ?_⟩
    · obtain ⟨rest, rfl⟩ := List.head?_eq_some_iff.mp isFirst
      obtain ⟨⟨group, impossible, _⟩, _⟩ := enclosed [] token rest rfl script
      cases impossible
    · obtain ⟨earlier, rfl⟩ := List.getLast?_eq_some_iff.mp isLast
      obtain ⟨_, group, impossible, _⟩ := enclosed earlier token [] rfl script
      cases impossible
  · rintro ⟨chain, noFirst, noLast⟩ before piece after rfl script
    obtain ⟨_, chain, met⟩ := List.isChain_append.mp chain
    have meets := (List.isChain_cons.mp chain).1
    constructor
    · cases isLast : before.getLast? with
      | none =>
          obtain rfl := List.getLast?_eq_none_iff.mp isLast
          exact absurd script (noFirst piece rfl)
      | some group => exact ⟨group, rfl, (met group isLast piece rfl).2 script⟩
    · cases after with
      | nil => exact absurd script (noLast piece (by simp))
      | cons group others => exact ⟨group, rfl, (meets group rfl).1 script⟩

theorem enclosed_nil : Enclosed [] :=
  enclosed_iff.mpr ⟨List.isChain_nil, nofun, nofun⟩

theorem enclosed_singleton (noScript : token.kind ≠ .groupScript) : Enclosed [token] :=
  enclosed_iff.mpr ⟨List.isChain_singleton token, by simpa, by simpa⟩

theorem Enclosed.head (enclosed : Enclosed tokens) :
    ∀ token ∈ tokens.head?, token.kind ≠ .groupScript :=
  (enclosed_iff.mp enclosed).2.1

theorem Enclosed.append (firstEnclosed : Enclosed first) (secondEnclosed : Enclosed second) :
    Enclosed (first ++ second) := by
  obtain ⟨firstChain, firstHead, firstLast⟩ := enclosed_iff.mp firstEnclosed
  obtain ⟨secondChain, secondHead, secondLast⟩ := enclosed_iff.mp secondEnclosed
  refine enclosed_iff.mpr ⟨List.isChain_append.mpr ⟨firstChain, secondChain, ?_⟩, ?_, ?_⟩
  · intro last isLast next isNext
    exact Token.meets_of_ne (firstLast last isLast) (secondHead next isNext)
  · intro token isFirst
    rw [List.head?_append, Option.mem_def, Option.or_eq_some_iff] at isFirst
    rcases isFirst with isFirst | ⟨_, isFirst⟩
    · exact firstHead token isFirst
    · exact secondHead token isFirst
  · intro token isLast
    rw [List.getLast?_append, Option.mem_def, Option.or_eq_some_iff] at isLast
    rcases isLast with isLast | ⟨_, isLast⟩
    · exact secondLast token isLast
    · exact firstLast token isLast

theorem Enclosed.cons (noScript : token.kind ≠ .groupScript) (enclosed : Enclosed tokens) :
    Enclosed (token :: tokens) :=
  (enclosed_singleton noScript).append enclosed

/-- A sequence without group scripts has none to enclose. -/
theorem enclosed_of_ne (noScripts : ∀ token ∈ tokens, token.kind ≠ .groupScript) :
    Enclosed tokens := by
  induction tokens with
  | nil => exact enclosed_nil
  | cons token rest ih =>
      obtain ⟨noScript, others⟩ := List.forall_mem_cons.mp noScripts
      exact (ih others).cons noScript

/-- A sequence can be cut before any token that is no group script. -/
theorem Enclosed.of_append_right (enclosed : Enclosed (first ++ second))
    (noScript : ∀ token ∈ second.head?, token.kind ≠ .groupScript) : Enclosed second := by
  obtain ⟨chain, _, noLast⟩ := enclosed_iff.mp enclosed
  refine enclosed_iff.mpr ⟨(List.isChain_append.mp chain).2.1, noScript, fun token isLast => ?_⟩
  apply noLast
  rw [List.getLast?_append, isLast]
  rfl

/-- A sequence can be cut before any token that is no group. -/
theorem Enclosed.of_append_left (enclosed : Enclosed (first ++ second))
    (noGroup : ∀ token ∈ second.head?, token.kind ≠ .group) : Enclosed first := by
  intro before piece after cut script
  obtain ⟨behind, group, isNext, isGroup⟩ :=
    enclosed before piece (after ++ second) (by simp [cut]) script
  refine ⟨behind, group, ?_, isGroup⟩
  rw [List.head?_append, Option.mem_def, Option.or_eq_some_iff] at isNext
  rcases isNext with isNext | ⟨_, isNext⟩
  · exact isNext
  · exact absurd isGroup (noGroup group isNext)

/-- What follows a token that is no group stands for itself. -/
theorem Enclosed.tail (enclosed : Enclosed (token :: tokens)) (noGroup : token.kind ≠ .group) :
    Enclosed tokens := by
  apply Enclosed.of_append_right (show Enclosed ([token] ++ tokens) from enclosed)
  intro next isNext script
  exact noGroup (((List.isChain_cons.mp enclosed.isChain).1 next isNext).2 script)

/-! ## Runs -/

/-- A run goes on with a script and a group. -/
theorem Enclosed.cons_script (isGroup : group.kind = .group) (enclosed : Enclosed tokens)
    (followed : ∃ next ∈ tokens.head?, next.kind = .group) : Enclosed (group :: piece :: tokens) := by
  obtain ⟨chain, _, noLast⟩ := enclosed_iff.mp enclosed
  obtain ⟨next, isNext, nextGroup⟩ := followed
  obtain ⟨rest, rfl⟩ := List.head?_eq_some_iff.mp isNext
  refine enclosed_iff.mpr ⟨?_, by simp [isGroup], by simpa [List.getLast?_cons_cons] using noLast⟩
  exact .cons_cons ⟨by simp [isGroup], fun _ => isGroup⟩
    (.cons_cons ⟨fun _ => nextGroup, by simp [nextGroup]⟩ chain)

/-- Taking the next piece out of a run leaves a run. -/
theorem Enclosed.erase_piece (isGroup : group.kind = .group)
    (enclosed : Enclosed (group :: piece :: rest)) : Enclosed (group :: rest) := by
  intro before script after cut isScript
  cases before with
  | nil =>
      obtain ⟨rfl, _⟩ := List.cons.inj cut
      simp [isGroup] at isScript
  | cons _ earlier =>
      obtain ⟨rfl, rfl⟩ := List.cons.inj cut
      obtain ⟨⟨other, isLast, otherGroup⟩, behind⟩ :=
        enclosed (group :: piece :: earlier) script after rfl isScript
      refine ⟨?_, behind⟩
      cases earlier with
      | nil => exact ⟨group, rfl, isGroup⟩
      | cons next others => exact ⟨other, by simpa using isLast, otherGroup⟩

/-! ## Seams -/

/-- What two tokens fuse to is of their kind, and neither a group nor a group script. -/
theorem Token.kind_of_fuse? {fused next : Token} (fuses : fuse? token next = some fused) :
    fused.kind = token.kind ∧ next.kind = token.kind ∧ token.kind ≠ .group ∧
      token.kind ≠ .groupScript := by
  obtain ⟨same, fusing, rfl⟩ := Token.fuse?_eq_some_iff.mp fuses
  refine ⟨rfl, same.symm, ?_, ?_⟩
  · intro kind
    simp [kind, Kind.fuses] at fusing
  · intro kind
    simp [kind, Kind.fuses] at fusing

/-- Two neighbours that fuse are cut out of no run. -/
theorem Enclosed.fuse {fused next : Token} (fuses : fuse? token next = some fused)
    (enclosed : Enclosed (first ++ token :: next :: rest)) : Enclosed (first ++ fused :: rest) := by
  obtain ⟨kind, nextKind, noGroup, noScript⟩ := Token.kind_of_fuse? fuses
  have behind : Enclosed (token :: next :: rest) := enclosed.of_append_right (by simpa using noScript)
  have restEnclosed : Enclosed rest := (behind.tail noGroup).tail (nextKind ▸ noGroup)
  exact (enclosed.of_append_left (by simpa using noGroup)).append (restEnclosed.cons (kind ▸ noScript))

theorem Enclosed.join (enclosed : Enclosed (first ++ second)) : Enclosed (join first second) := by
  rcases List.eq_nil_or_concat first with rfl | ⟨earlier, last, rfl⟩
  · exact enclosed
  · rw [List.concat_eq_append] at enclosed ⊢
    rw [join_append_singleton]
    cases second with
    | nil => simpa [Linework.glue] using enclosed
    | cons next rest =>
        rw [List.append_assoc] at enclosed
        cases fuses : fuse? last next with
        | none => simpa [Linework.glue, fuses] using enclosed
        | some fused => simpa [Linework.glue, fuses] using enclosed.fuse fuses

theorem Enclosed.glue (noScript : token.kind ≠ .groupScript) (enclosed : Enclosed tokens) :
    Enclosed (glue token tokens) :=
  Enclosed.join (show Enclosed ([token] ++ tokens) from enclosed.cons noScript)

/-- Appending the tokens of a sequence one after the other keeps its runs. -/
theorem Enclosed.fused (enclosed : Enclosed tokens) : Enclosed (Token.fused tokens) := by
  have appended (built rest : List Token) (enclosed : Enclosed (built ++ rest)) :
      Enclosed (rest.foldl (fun sequence token => Linework.join sequence [token]) built) := by
    induction rest generalizing built with
    | nil => simpa using enclosed
    | cons token rest ih =>
        apply ih
        rw [← Token.join_append built (by simp)]
        exact enclosed.join
  exact appended [] tokens enclosed

/-- What stands behind a seam is a part of the sequence that stood behind it. -/
theorem Enclosed.seam (before : List Token) (enclosed : Enclosed tokens) :
    Enclosed (Focus.seam ⟨before, tokens⟩).after := by
  cases before with
  | nil => exact enclosed
  | cons last earlier =>
      cases tokens with
      | nil => exact enclosed
      | cons next rest =>
          cases fuses : fuse? last next with
          | none => simpa only [Focus.seam, fuses] using enclosed
          | some fused =>
              obtain ⟨_, nextKind, noGroup, _⟩ := Token.kind_of_fuse? fuses
              simp only [Focus.seam, fuses]
              exact enclosed.tail (nextKind ▸ noGroup)

/-! ## Reading -/

namespace Token

theorem enclosed_store (run : Run) (held : List Char) (enclosed : Enclosed rest) :
    Enclosed (store run held rest) := by
  cases run with
  | idle => exact enclosed
  | text | boundary | continuation | group | string => exact enclosed.glue nofun

theorem enclosed_close (run : Run) (held : List Char) : Enclosed (close run held) := by
  unfold close
  split
  · exact enclosed_store _ held enclosed_nil
  · exact enclosed_store run held (enclosed_singleton nofun)

/-- A script inside of a run is enclosed where the reader goes on inside of the same run. -/
theorem enclosed_store_script (run : Run) (held chars : List Char) (script : String)
    (enclosed : Enclosed (scan (afterScript run) [] chars)) :
    Enclosed (store run held (glue ⟨scriptKind run, script⟩ (scan (afterScript run) [] chars))) := by
  by_cases inGroup : run = .group
  · subst inGroup
    obtain ⟨text, others, scanEq⟩ := exists_scan_group [] chars
    have followed : ∃ next ∈ (scan (afterScript .group) [] chars).head?, next.kind = .group := by
      change ∃ next ∈ (scan .group [] chars).head?, next.kind = .group
      rw [scanEq]
      exact ⟨⟨.group, text⟩, rfl, rfl⟩
    rw [glue_scriptKind, store, glue_eq_cons rfl]
    exact enclosed.cons_script rfl followed
  · have noScript : scriptKind run ≠ .groupScript := by simp [scriptKind, inGroup]
    exact enclosed_store run held (enclosed.glue noScript)

theorem enclosed_scan (run : Run) (held chars : List Char) : Enclosed (scan run held chars) := by
  induction run, held, chars using scan.induct with
  | case1 run held =>
      rw [scan]
      exact enclosed_close run held
  | case2 held c rest next turnEq ih =>
      rw [scan_stay turnEq]
      exact ih
  | case3 run held c rest next turnEq moves ih =>
      rw [scan_move turnEq moves]
      exact enclosed_store run held ih
  | case4 run held c rest turnEq script ih =>
      rw [scan_braced turnEq]
      exact enclosed_store_script run held _ _ ih
  | case5 run held c rest turnEq script ih =>
      rw [scan_shorthand turnEq]
      exact enclosed_store_script run held _ _ ih

/-- The reader gives group scripts inside of groups only. -/
theorem enclosed_tokenize (source : String) : Enclosed (tokenize source) := by
  unfold tokenize
  split
  · exact enclosed_nil
  · exact enclosed_scan _ _ _

end Token

end Linework
