import Linework.Proofs.Script.Margin
import Linework.Script.Lexeme

/-!
# Texts that are cut alike

The text of an expression on its own, and the same text in a block: there its lines have other margins, and
blanks with an end of a line follow it. What is cut from the front of the one is cut from the front of the
other, as long as it holds no line end itself.
-/

namespace Linework.Script

open Linework.Text Linework.Decimal

variable {chars chars' rest trail : List Char} {fresh : Bool} {c : Char}

/-- A blank of an expression that stands in no literal. -/
def isOpenBlank (c : Char) : Bool :=
  isGap c || c == '\n'

/-- Blanks with an end of a line among them. -/
def Trails (trail : List Char) : Prop :=
  (∀ c ∈ trail, isOpenBlank c) ∧ '\n' ∈ trail

/-- Two texts that differ in their margins, and in blanks behind the second one. -/
def Near (fresh : Bool) (chars chars' : List Char) : Prop :=
  ∃ trail, Trails trail ∧ dropMargins fresh (chars ++ trail) = dropMargins fresh chars'

theorem isOpenBlank_iff : isOpenBlank c ↔ c = ' ' ∨ c = '\t' ∨ c = '\x0c' ∨ c = '\n' := by
  simp [isOpenBlank, isGap, or_assoc]

namespace Trails

theorem exists_cons (trails : Trails trail) : ∃ c rest, trail = c :: rest ∧ isOpenBlank c := by
  cases trail with
  | nil => exact nomatch trails.2
  | cons c rest => exact ⟨c, rest, rfl, trails.1 c List.mem_cons_self⟩

theorem dropWhile {passes : Char → Bool} (stops : passes '\n' = false) (trails : Trails trail) :
    Trails (trail.dropWhile passes) := by
  refine ⟨fun c member => trails.1 c ((List.dropWhile_suffix passes).mem member), ?_⟩
  have present := trails.2
  rw [← List.takeWhile_append_dropWhile (p := passes) (l := trail), List.mem_append] at present
  refine present.resolve_left fun member => ?_
  exact absurd (List.all_eq_true.mp List.all_takeWhile _ member) (by simp [stops])

end Trails

/-! ## Tests that no blank passes -/

/-- The blanks. -/
def blanks : List Char :=
  ['\t', '\n', '\x0b', '\x0c', '\r', '\x1c', '\x1d', '\x1e', '\x1f', ' ', '\u0085', '\u00a0', '\u1680',
    '\u2000', '\u2001', '\u2002', '\u2003', '\u2004', '\u2005', '\u2006', '\u2007', '\u2008', '\u2009',
    '\u200a', '\u2028', '\u2029', '\u202f', '\u205f', '\u3000']

theorem mem_blanks (blank : isBlank c) : c ∈ blanks := by
  have code : c.toNat ∈ blanks.map Char.toNat := by
    simp only [isBlank, Ranges.covers, blankRanges, List.any_toArray, List.any_cons, List.any_nil,
      Bool.or_eq_true, Bool.and_eq_true, decide_eq_true_eq, Bool.false_eq_true, or_false] at blank
    simp only [blanks, List.map_cons, List.map_nil, List.mem_cons, List.not_mem_nil, or_false, Char.reduceToNat]
    omega
  obtain ⟨c', member, same⟩ := List.mem_map.mp code
  rwa [← Char.toNat_inj.mp same]

theorem isBlank_of_isOpenBlank (blank : isOpenBlank c) : isBlank c := by
  rcases isOpenBlank_iff.mp blank with rfl | rfl | rfl | rfl <;> decide +kernel

theorem not_isOpenBlank (noBlank : isBlank c = false) : isOpenBlank c = false := by
  rw [Bool.eq_false_iff] at noBlank ⊢
  exact fun blank => noBlank (isBlank_of_isOpenBlank blank)

theorem not_endsLine (noBlank : isBlank c = false) : endsLine c = false := by
  rw [Bool.eq_false_iff] at noBlank ⊢
  exact fun ends => noBlank (isBlank_of_endsLine ends)

/-- A test that no blank passes. -/
structure Solid (test : Char → Bool) : Prop where
  fails : ∀ c ∈ blanks, test c = false

namespace Solid

variable {test : Char → Bool}

theorem not_isBlank (solid : Solid test) (passes : test c) : isBlank c = false := by
  rw [Bool.eq_false_iff]
  intro blank
  rw [solid.fails c (mem_blanks blank)] at passes
  contradiction

theorem of_blank (solid : Solid test) (blank : isOpenBlank c) : test c = false :=
  solid.fails c (mem_blanks (isBlank_of_isOpenBlank blank))

theorem not_blank (solid : Solid test) (passes : test c) : isOpenBlank c = false :=
  not_isOpenBlank (solid.not_isBlank passes)

theorem not_ends (solid : Solid test) (passes : test c) : endsLine c = false :=
  not_endsLine (solid.not_isBlank passes)

theorem of_all (fails : blanks.all fun c => !test c) : Solid test where
  fails c member := by simpa using List.all_eq_true.mp fails c member

theorem beq {mark : Char} (solid : mark ∉ blanks) : Solid (· == mark) where
  fails c member := by
    rw [beq_eq_false_iff_ne]
    rintro rfl
    exact solid member

theorem or {test' : Char → Bool} (solid : Solid test) (solid' : Solid test') :
    Solid fun c => test c || test' c where
  fails c member := by rw [solid.fails c member, solid'.fails c member, Bool.or_false]

end Solid

/-- None of several words holds a blank. -/
theorem not_isBlank_of_all {words : List String} {word : String}
    (solid : words.all fun word => word.toList.all fun c => !isBlank c) (member : word ∈ words) :
    ∀ c ∈ word.toList, isBlank c = false := by
  intro c isChar
  simpa using List.all_eq_true.mp (List.all_eq_true.mp solid word member) c isChar

/-! ## Texts that are near -/

namespace Near

theorem trails_of_nil (near : Near fresh [] chars') : Trails chars' := by
  obtain ⟨trail, trails, same⟩ := near
  rw [List.nil_append] at same
  refine ⟨fun c member => ?_, ?_⟩
  · cases blank : isMarginBlank c with
    | true => rcases isMarginBlank_iff.mp blank with rfl | rfl <;> decide
    | false => exact trails.1 c (mem_of_mem_dropMargins (same ▸ mem_dropMargins blank member))
  · exact mem_of_mem_dropMargins (same ▸ mem_dropMargins (by decide) trails.2)

theorem cons (near : Near false (c :: chars) chars') :
    ∃ rest', chars' = c :: rest' ∧ Near (endsLine c) chars rest' := by
  obtain ⟨trail, trails, same⟩ := near
  cases chars' with
  | nil => exact nomatch same
  | cons c' rest' =>
      obtain ⟨rfl, same⟩ := List.cons.inj same
      exact ⟨rest', rfl, trail, trails, same⟩

theorem cons_right (near : Near false chars (c :: chars')) (solid : isOpenBlank c = false) :
    ∃ rest, chars = c :: rest ∧ Near (endsLine c) rest chars' := by
  cases chars with
  | nil =>
      have blank := near.trails_of_nil.1 c List.mem_cons_self
      rw [solid] at blank
      contradiction
  | cons first rest =>
      obtain ⟨rest', same, near⟩ := near.cons
      obtain ⟨rfl, rfl⟩ := List.cons.inj same
      exact ⟨rest, rfl, near⟩

/-- A character that ends no line stands in front of both texts. -/
theorem cons_of_not_ends (near : Near false (c :: chars) chars') (noEnd : endsLine c = false) :
    ∃ rest', chars' = c :: rest' ∧ Near false chars rest' := by
  obtain ⟨rest', same, near⟩ := near.cons
  exact ⟨rest', same, noEnd ▸ near⟩

theorem ne_nil (near : Near fresh chars chars') : chars' ≠ [] := by
  rintro rfl
  obtain ⟨trail, trails, same⟩ := near
  have member : '\n' ∈ dropMargins fresh (chars ++ trail) :=
    mem_dropMargins (by decide) (List.mem_append_right _ trails.2)
  rw [same] at member
  exact nomatch member

/-- What both texts begin with, where no blank passes the test. -/
theorem any_head (near : Near false chars chars') {test : Char → Bool} (solid : Solid test) :
    chars'.head?.any test = chars.head?.any test := by
  cases chars with
  | nil =>
      obtain ⟨c, rest, rfl, blank⟩ := near.trails_of_nil.exists_cons
      simp [solid.of_blank blank]
  | cons c rest =>
      obtain ⟨rest', rfl, _⟩ := near.cons
      rfl

/-- A character that passes such a test stands in front of both texts. -/
theorem cons_of_solid (near : Near false (c :: chars) chars') {test : Char → Bool} (solid : Solid test)
    (passes : test c) : ∃ rest', chars' = c :: rest' ∧ Near false chars rest' :=
  near.cons_of_not_ends (solid.not_ends passes)

theorem cons_right_of_solid (near : Near false chars (c :: chars')) {test : Char → Bool}
    (solid : Solid test) (passes : test c) : ∃ rest, chars = c :: rest ∧ Near false rest chars' := by
  obtain ⟨rest, same, onward⟩ := near.cons_right (solid.not_blank passes)
  exact ⟨rest, same, solid.not_ends passes ▸ onward⟩

/-- Blanks are passed on both sides. -/
theorem dropWhile (near : Near fresh chars chars') {passes : Char → Bool} (space : passes ' ')
    (tab : passes '\t') (stops : passes '\n' = false) :
    Near false (chars.dropWhile passes) (chars'.dropWhile passes) := by
  obtain ⟨trail, trails, same⟩ := near
  have dropped := congrArg (List.dropWhile passes) same
  rw [dropWhile_dropMargins space tab, dropWhile_dropMargins space tab, List.dropWhile_append] at dropped
  split at dropped
  case isTrue empty =>
    rw [List.isEmpty_iff.mp empty]
    exact ⟨trail.dropWhile passes, trails.dropWhile stops, dropped⟩
  case isFalse => exact ⟨trail, trails, dropped⟩

/-- A word that holds no blanks stands in front of both texts or of none. -/
theorem isPrefixOf {word : List Char} (near : Near false chars chars')
    (solid : ∀ c ∈ word, isBlank c = false) :
    word.isPrefixOf chars' = word.isPrefixOf chars := by
  induction word generalizing chars chars' with
  | nil => simp
  | cons c word ih =>
      obtain ⟨first, others⟩ := List.forall_mem_cons.mp solid
      cases chars with
      | nil =>
          obtain ⟨d, rest, rfl, blank⟩ := near.trails_of_nil.exists_cons
          have differs : c ≠ d := by
            rintro rfl
            rw [not_isOpenBlank first] at blank
            contradiction
          simp [List.isPrefixOf, differs]
      | cons d chars =>
          cases ends : endsLine d with
          | true =>
              obtain ⟨chars', rfl, _⟩ := near.cons
              have differs : c ≠ d := by
                rintro rfl
                rw [not_endsLine first] at ends
                contradiction
              rw [List.isPrefixOf, List.isPrefixOf, beq_eq_false_iff_ne.mpr differs, Bool.false_and,
                Bool.false_and]
          | false =>
              obtain ⟨chars', rfl, onward⟩ := near.cons_of_not_ends ends
              rw [List.isPrefixOf, List.isPrefixOf, ih onward others]

/-- What stands behind a word in front of both texts. -/
theorem drop {word : List Char} (near : Near false chars chars')
    (solid : ∀ c ∈ word, isBlank c = false) (stands : word.isPrefixOf chars) :
    Near false (chars.drop word.length) (chars'.drop word.length) := by
  induction word generalizing chars chars' with
  | nil => exact near
  | cons c word ih =>
      obtain ⟨first, others⟩ := List.forall_mem_cons.mp solid
      cases chars with
      | nil => contradiction
      | cons d chars =>
          rw [List.isPrefixOf, Bool.and_eq_true, beq_iff_eq] at stands
          obtain ⟨rfl, stands⟩ := stands
          obtain ⟨chars', rfl, onward⟩ := near.cons_of_not_ends (not_endsLine first)
          exact ih onward others stands

/-- The same characters are taken from both texts, if no line ends among them. -/
theorem takeWhile {passes : Char → Bool} (near : Near false chars chars')
    (blank : ∀ c, isOpenBlank c → passes c = false) (short : ∀ c ∈ chars.takeWhile passes, endsLine c = false) :
    chars'.takeWhile passes = chars.takeWhile passes ∧
      Near false (chars.dropWhile passes) (chars'.dropWhile passes) := by
  induction chars generalizing chars' with
  | nil =>
      obtain ⟨c, rest, rfl, isBlank⟩ := near.trails_of_nil.exists_cons
      have stops : ¬passes c := by simp [blank c isBlank]
      rw [List.takeWhile_cons_of_neg stops, List.dropWhile_cons_of_neg stops]
      exact ⟨rfl, near⟩
  | cons c chars ih =>
      by_cases goesOn : passes c
      · rw [List.takeWhile_cons_of_pos goesOn] at short ⊢
        obtain ⟨first, others⟩ := List.forall_mem_cons.mp short
        obtain ⟨chars', rfl, onward⟩ := near.cons_of_not_ends first
        obtain ⟨same, nearRest⟩ := ih onward others
        rw [List.takeWhile_cons_of_pos goesOn, List.dropWhile_cons_of_pos goesOn,
          List.dropWhile_cons_of_pos goesOn, same]
        exact ⟨rfl, nearRest⟩
      · obtain ⟨rest', rfl, _⟩ := near.cons
        rw [List.takeWhile_cons_of_neg goesOn, List.takeWhile_cons_of_neg goesOn,
          List.dropWhile_cons_of_neg goesOn, List.dropWhile_cons_of_neg goesOn]
        exact ⟨rfl, near⟩

end Near

end Linework.Script
