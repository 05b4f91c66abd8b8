import Linework.Proofs.Token.Enclosed

/-!
# The shape of what the reader gives

The tokens of a source can be told by their looks. Each kind of token has its own characters, the last
token is a separator, and it is the only one that may be empty. Those who take the tokens on, the printer
and the machine among them, count on this and do not look again.

What makes a token look so is what the reader holds of its run: characters that the run may have, and at
least one of them where the run would fuse with its like.
-/

namespace Linework

/-- The characters that the text of a token of a kind may have. -/
def Kind.Admits : Kind → Char → Prop
  | .text, c => c ∉ ['(', '\x7b', '\x22', ';', '\r', '\n']
  | .boundary, c => c ∈ ['\r', '\n', ';']
  | .group, c => c ∉ [')', '\x7b']
  | .string, c => c ≠ '\x22'
  | .script, _ | .groupScript, _ => True

namespace Token

/-- A token that the reader may give: its characters are those of its kind, and plain text is not empty. -/
structure Formed (token : Token) : Prop where
  characters : ∀ c ∈ token.text.toList, token.kind.Admits c
  nonempty : token.kind = .text → token.text ≠ ""

/-- A sequence of such tokens, which ends with a separator, the only one that may be empty. -/
structure Finished (tokens : List Token) : Prop where
  formed : ∀ token ∈ tokens, token.Formed
  closed : ∃ front last, tokens = front ++ [last] ∧ last.kind = .boundary ∧
    ∀ token ∈ front, token.kind = .boundary → token.text ≠ ""

/-! ## Gluing -/

theorem Formed.fuse {first second fused : Token} (firstFormed : first.Formed)
    (secondFormed : second.Formed) (fuses : fuse? first second = some fused) : fused.Formed := by
  obtain ⟨kinds, _, rfl⟩ := fuse?_eq_some_iff.mp fuses
  constructor
  · intro c mem
    rw [String.toList_append, List.mem_append] at mem
    rcases mem with inFirst | inSecond
    · exact firstFormed.characters c inFirst
    · exact kinds ▸ secondFormed.characters c inSecond
  · intro isText empty
    exact firstFormed.nonempty isText (String.append_eq_empty_iff.mp empty).1

theorem Finished.glue {token : Token} {tokens : List Token} (finished : Finished tokens)
    (formed : token.Formed) (nonempty : token.kind = .boundary → token.text ≠ "") :
    Finished (glue token tokens) := by
  obtain ⟨allFormed, front, last, rfl, lastKind, frontNonempty⟩ := finished
  cases front with
  | nil =>
      obtain ⟨lastFormed, _⟩ := List.forall_mem_cons.mp allFormed
      cases fuses : fuse? token last with
      | none =>
          simp only [List.nil_append, Linework.glue, fuses]
          exact ⟨by simpa using ⟨formed, lastFormed⟩, [token], last, rfl, lastKind, by simpa⟩
      | some fused =>
          simp only [List.nil_append, Linework.glue, fuses]
          have fusedKind : fused.kind = .boundary := by
            rw [(kind_of_fuse? fuses).1, ← (kind_of_fuse? fuses).2.1, lastKind]
          exact ⟨by simpa using formed.fuse lastFormed fuses, [], fused, rfl, fusedKind, by simp⟩
  | cons next others =>
      rw [List.cons_append] at allFormed ⊢
      obtain ⟨nextFormed, othersFormed⟩ := List.forall_mem_cons.mp allFormed
      obtain ⟨_, othersNonempty⟩ := List.forall_mem_cons.mp frontNonempty
      cases fuses : fuse? token next with
      | none =>
          simp only [Linework.glue, fuses]
          refine ⟨List.forall_mem_cons.mpr ⟨formed, allFormed⟩, token :: next :: others, last, rfl,
            lastKind, List.forall_mem_cons.mpr ⟨nonempty, frontNonempty⟩⟩
      | some fused =>
          simp only [Linework.glue, fuses]
          refine ⟨List.forall_mem_cons.mpr ⟨formed.fuse nextFormed fuses, othersFormed⟩,
            fused :: others, last, rfl, lastKind, List.forall_mem_cons.mpr ⟨?_, othersNonempty⟩⟩
          obtain ⟨_, _, rfl⟩ := fuse?_eq_some_iff.mp fuses
          intro isBoundary empty
          exact nonempty isBoundary (String.append_eq_empty_iff.mp empty).1

/-! ## Runs -/

/-- The characters that a run may hold. -/
def Run.Admits : Run → Char → Prop
  | .text, c => Kind.text.Admits c
  | .boundary, c => Kind.boundary.Admits c
  | .group, c => Kind.group.Admits c
  | .string, c => Kind.string.Admits c
  | .idle, _ | .continuation, _ => True

/-- What a run holds makes a token that the reader may give. -/
structure Run.Sound (run : Run) (held : List Char) : Prop where
  admits : ∀ c ∈ held, run.Admits c
  begun : run.Begun held

/-- A character that is put in a run may be held by it. -/
theorem admits_of_turn {run next : Run} {held : List Char} {c : Char} {ahead : Option Char}
    (turnEq : turn run held c ahead = .run next) (put : next = run ∨ c ∈ firstHeld next c) :
    next.Admits c := by
  unfold turn at turnEq
  split at turnEq
  -- A group or a string that ends leaves the reader idle, and its last bracket is put nowhere.
  · split_ifs at turnEq <;> cases turnEq <;> simp_all [Run.Admits, Kind.Admits]
  · split_ifs at turnEq <;> cases turnEq <;> simp_all [Run.Admits, Kind.Admits]
  · rename_i notGroup notString
    split_ifs at turnEq <;> cases turnEq <;>
      simp_all [Run.Admits, Kind.Admits, firstHeld, isLineEnd, or_assoc]

theorem Run.Sound.stay {run : Run} {held : List Char} {c : Char} {ahead : Option Char}
    (sound : run.Sound held) (turnEq : turn run held c ahead = .run run) : run.Sound (c :: held) :=
  ⟨List.forall_mem_cons.mpr ⟨admits_of_turn turnEq (.inl rfl), sound.admits⟩,
    fun _ => List.cons_ne_nil c held⟩

theorem eq_of_mem_firstHeld {run : Run} {c d : Char} (mem : d ∈ firstHeld run c) : d = c := by
  cases run <;> simp_all [firstHeld]

theorem sound_firstHeld {run next : Run} {held : List Char} {c : Char} {ahead : Option Char}
    (turnEq : turn run held c ahead = .run next) : next.Sound (firstHeld next c) := by
  constructor
  · intro d mem
    obtain rfl := eq_of_mem_firstHeld mem
    exact admits_of_turn turnEq (.inr mem)
  · rintro (rfl | rfl) <;> exact List.cons_ne_nil c []

theorem sound_afterScript (run : Run) : (afterScript run).Sound [] := by
  refine ⟨nofun, ?_⟩
  cases run <;> rintro (impossible | impossible) <;> cases impossible

theorem formed_of_held {kind : Kind} {held : List Char} (admits : ∀ c ∈ held, kind.Admits c)
    (nonempty : kind = .text → held ≠ []) : Formed ⟨kind, String.ofList held.reverse⟩ := by
  refine ⟨fun c mem => admits c (by simpa using mem), fun isText empty => nonempty isText ?_⟩
  simpa using empty

theorem Finished.store {run : Run} {held : List Char} {tokens : List Token}
    (finished : Finished tokens) (sound : run.Sound held) : Finished (store run held tokens) := by
  cases run with
  | idle => exact finished
  | text =>
      exact finished.glue (formed_of_held sound.admits fun _ => sound.begun (.inl rfl)) nofun
  | boundary =>
      refine finished.glue (formed_of_held sound.admits nofun) fun _ empty => ?_
      exact sound.begun (.inr rfl) (by simpa using empty)
  | continuation => exact finished.glue ⟨by simp [Kind.Admits], by decide⟩ nofun
  | group | string => exact finished.glue (formed_of_held sound.admits nofun) nofun

theorem finished_singleton {text : String} (admits : ∀ c ∈ text.toList, Kind.boundary.Admits c) :
    Finished [⟨.boundary, text⟩] :=
  ⟨by simpa using ⟨admits, nofun⟩, [], _, rfl, rfl, by simp⟩

theorem finished_close {run : Run} {held : List Char} (sound : run.Sound held) :
    Finished (close run held) := by
  unfold close
  split
  · exact finished_singleton fun c mem => sound.admits c (by simpa using mem)
  · exact (finished_singleton (by simp)).store sound

/-- A script in front of a sequence. -/
theorem Finished.script {tokens : List Token} (finished : Finished tokens) (run : Run)
    (script : String) : Finished (Linework.glue ⟨scriptKind run, script⟩ tokens) := by
  cases run with
  | idle | text | boundary | continuation | group | string =>
      exact finished.glue ⟨fun _ _ => trivial, nofun⟩ nofun

theorem finished_scan {run : Run} {held : List Char} (sound : run.Sound held) (chars : List Char) :
    Finished (scan run held chars) := by
  induction run, held, chars using scan.induct with
  | case1 run held =>
      rw [scan]
      exact finished_close sound
  | case2 held c rest run turnEq ih =>
      rw [scan_stay turnEq]
      exact ih (sound.stay turnEq)
  | case3 run held c rest next turnEq moves ih =>
      rw [scan_move turnEq moves]
      exact (ih (sound_firstHeld turnEq)).store sound
  | case4 run held c rest turnEq script ih =>
      rw [scan_braced turnEq]
      exact ((ih (sound_afterScript run)).script run _).store sound
  | case5 run held c rest turnEq script ih =>
      rw [scan_shorthand turnEq]
      exact ((ih (sound_afterScript run)).script run _).store sound

/-! ## Whole sources -/

/-- The shape of the tokens of a source. -/
structure Shaped (tokens : List Token) : Prop extends Finished tokens where
  separate : tokens.IsChain fun first second =>
    ¬(first.kind = .text ∧ second.kind = .text) ∧ ¬(first.kind = .boundary ∧ second.kind = .boundary)
  enclosed : Enclosed tokens

/-- The tokens of a source have that shape, and there are some, unless the source is empty. -/
theorem shaped_tokenize_iff (source : String) : Shaped (tokenize source) ↔ source ≠ "" := by
  constructor
  · rintro shaped rfl
    obtain ⟨front, last, nothing, _⟩ := shaped.closed
    simp [tokenize] at nothing
  · intro nonempty
    have sound : Run.idle.Sound [] := sound_afterScript .idle
    have finished := finished_scan sound source.toList
    rw [← tokenize_of_ne_empty nonempty] at finished
    have separate := (isFused_tokenize source).imp fun _ _ => fuse?_eq_none_iff_kinds.mp
    exact ⟨finished, separate, enclosed_tokenize source⟩

end Token

end Linework
