import Linework.Drawing.Library
import Linework.Proofs.Decimal.Range
import Linework.Proofs.Fault

/-!
# Grids are drawn over any bounds

Spacings are integers and floats, and both are counted exactly as far as they go. An integer is made a
float only where it is within the range of floats: the spacings are small, no more than a thousand lines are
drawn, and where a bound is rounded to a multiple of a spacing the count of spacings is the integer nearest to
a finite number.
-/

namespace Linework

open Linework.Decimal

/-! ## Numbers -/

namespace Number

/-- A number that can be made a float: one that is an integer is not too large. -/
def IsConvertible : Number → Prop
  | .int n => InRange n
  | .float _ => True

theorem yields_intToFloat {n : Int} (inRange : InRange n) :
    Yields (intToFloat n) (· = ofInt n) := by
  unfold intToFloat
  simp only [isInf_ofInt inRange]
  exact .ok rfl

theorem IsConvertible.yields_toFloat {number : Number} (convertible : number.IsConvertible) :
    Yields number.toFloat fun _ => True := by
  cases number with
  | int n => exact (yields_intToFloat convertible).weaken fun _ _ => trivial
  | float x => exact .ok trivial

variable {onInts : Int → Int → Int} {onFloats : Float → Float → Float} {first second : Number}

/-- What is worked out of a float is a float. -/
theorem yields_combine_left (x : Float) (convertible : second.IsConvertible) :
    Yields (combine onInts onFloats (.float x) second) fun result => ∃ y, result = .float y := by
  unfold combine
  apply convertible.yields_toFloat.bind
  intro y _
  exact .pure ⟨_, rfl⟩

theorem yields_combine_right (convertible : first.IsConvertible) (x : Float) :
    Yields (combine onInts onFloats first (.float x)) fun result => ∃ y, result = .float y := by
  cases first with
  | int n =>
      apply convertible.yields_toFloat.bind
      intro y _
      exact .pure ⟨_, rfl⟩
  | float y => exact yields_combine_left y trivial

@[simp]
theorem number?_toDatum (number : Number) : number.toDatum.number? = some number := by
  cases number <;> rfl

end Number

namespace Drawing

/-! ## The nearest candidate -/

theorem yields_search {distance : Datum → Except Fault Number} {candidates : List Datum} {best : Datum}
    {least : Number} (measured : ∀ candidate ∈ candidates, Yields (distance candidate) fun _ => True) :
    Yields (nearest.search distance best least candidates) (· ∈ best :: candidates) := by
  induction candidates generalizing best least with
  | nil => exact .ok (List.mem_singleton.mpr rfl)
  | cons candidate rest ih =>
      unfold nearest.search
      apply (measured candidate List.mem_cons_self).bind
      intro number _
      have measuredRest := fun other mem => measured other (List.mem_cons_of_mem _ mem)
      split
      · apply (ih measuredRest).weaken
        intro found mem
        exact List.mem_cons_of_mem _ mem
      · apply (ih measuredRest).weaken
        intro found mem
        rcases List.mem_cons.mp mem with rfl | mem
        · exact List.mem_cons_self
        · exact List.mem_cons_of_mem _ (List.mem_cons_of_mem _ mem)

@[simp]
theorem operands_toDatum (operator : String) (first second : Number) :
    Datum.operands operator first.toDatum second.toDatum = .ok (first, second) := by
  simp [Datum.operands]

/-- How far a candidate is from a float. -/
def distanceTo (x : Float) (candidate : Datum) : Except Fault Number := do
  let (a, b) ← Datum.operands "-" candidate (.float x)
  return (← Number.combine (· - ·) (· - ·) a b).magnitude

theorem yields_distanceTo (x : Float) {number : Number} (convertible : number.IsConvertible) :
    Yields (distanceTo x number.toDatum) fun _ => True := by
  unfold distanceTo
  rw [show Datum.float x = (Number.float x).toDatum from rfl, operands_toDatum]
  apply (Number.yields_combine_right convertible x).bind
  intro result _
  exact .pure trivial

/-- To a float, one of some numbers is the nearest. -/
theorem yields_nearest (x : Float) {candidates : List Datum} (nonempty : candidates ≠ [])
    (numbers : ∀ candidate ∈ candidates,
      ∃ number : Number, candidate = number.toDatum ∧ number.IsConvertible) :
    Yields (nearest (.float x) candidates) (· ∈ candidates) := by
  have measured : ∀ candidate ∈ candidates, Yields (distanceTo x candidate) fun _ => True := by
    intro candidate mem
    obtain ⟨number, rfl, convertible⟩ := numbers candidate mem
    exact yields_distanceTo x convertible
  cases candidates with
  | nil => exact absurd rfl nonempty
  | cons first rest =>
      change Yields (distanceTo x first >>= fun least =>
        nearest.search (distanceTo x) first least rest) _
      apply (measured first List.mem_cons_self).bind
      intro least _
      exact yields_search fun candidate mem => measured candidate (List.mem_cons_of_mem _ mem)

/-! ## Spacings -/

/-- A spacing that grid lines may have: not zero, and small if it is an integer. -/
def IsSpacing : Number → Prop
  | .int n => n.natAbs ≤ 100 ∧ (ofInt n == 0) = false
  | .float x => (x == 0) = false

instance : DecidablePred IsSpacing
  | .int n => inferInstanceAs (Decidable (n.natAbs ≤ 100 ∧ (ofInt n == 0) = false))
  | .float x => inferInstanceAs (Decidable ((x == 0) = false))

theorem IsSpacing.isConvertible {spacing : Number} (isSpacing : IsSpacing spacing) :
    spacing.IsConvertible := by
  cases spacing with
  | int n =>
      have small : n.natAbs ≤ 100 := isSpacing.1
      exact inRange_of_lt (by omega)
  | float x => trivial

/-- The spacings that grid lines may have by default, as numbers. -/
def spacingNumbers : List Number :=
  spacings.filterMap Datum.number?

theorem spacings_eq_map : spacings = spacingNumbers.map Number.toDatum :=
  rfl

theorem isSpacing_of_mem : ∀ number ∈ spacingNumbers, IsSpacing number := by
  decide +kernel

theorem exists_of_mem_spacings {datum : Datum} (mem : datum ∈ spacings) :
    ∃ spacing : Number, datum = spacing.toDatum ∧ IsSpacing spacing := by
  rw [spacings_eq_map] at mem
  obtain ⟨spacing, listed, rfl⟩ := List.mem_map.mp mem
  exact ⟨spacing, rfl, isSpacing_of_mem spacing listed⟩

/-! ## Grid lines -/

theorem IsSpacing.yields_toFloat {spacing : Number} (isSpacing : IsSpacing spacing) :
    Yields spacing.toFloat fun y => (y == 0) = false := by
  cases spacing with
  | int n =>
      apply (Number.yields_intToFloat isSpacing.isConvertible).weaken
      rintro _ rfl
      exact isSpacing.2
  | float x => exact .ok isSpacing

/-- Dividing by a spacing is never dividing by zero. -/
theorem yields_divide (x : Float) {spacing : Number} (isSpacing : IsSpacing spacing) :
    Yields (Number.divide (.float x) spacing) fun _ => True := by
  unfold Number.divide
  apply isSpacing.yields_toFloat.bind
  intro y nonzero
  rw [nonzero]
  exact .pure trivial

/-- A start from which whole spacings can be counted: a float unless the spacing is an integer. -/
def IsStartFor (spacing : Number) : Number → Prop
  | .int _ => ∃ n, spacing = .int n
  | .float _ => True

/-- A float rounded to a multiple of a spacing is a start. The quotient is finite where it is rounded, so the
count of steps is a float again. -/
theorem yields_roundDatumToMultiple (x : Float) {spacing : Number} (isSpacing : IsSpacing spacing) :
    Yields (roundDatumToMultiple (.float x) spacing.toDatum) fun start =>
      ∃ number : Number, start = number.toDatum ∧ IsStartFor spacing number := by
  unfold roundDatumToMultiple
  rw [show Datum.float x = (Number.float x).toDatum from rfl, operands_toDatum]
  apply (yields_divide x isSpacing).bind
  intro steps _
  split
  · rename_i finite
    cases spacing with
    | int n => exact .ok ⟨_, rfl, n, rfl⟩
    | float y =>
        have convertible : (Number.int (nearestInt steps)).IsConvertible := inRange_nearestInt finite
        apply (Number.yields_combine_right convertible y).bind
        rintro _ ⟨z, rfl⟩
        exact .ok ⟨.float z, rfl, trivial⟩
  · exact .ok ⟨.float x, rfl, trivial⟩

/-- A number of spacings that is not too large is a number, and an integer if the spacing is one. -/
theorem yields_offset {spacing : Number} (isSpacing : IsSpacing spacing) {count : Nat}
    (few : count ≤ 1000) :
    Yields (Number.combine (· * ·) (· * ·) (.int count) spacing) fun offset =>
      offset.IsConvertible ∧ ∀ n, spacing = .int n → ∃ k, offset = .int k := by
  cases spacing with
  | int n =>
      have small : ((count : Int) * n).natAbs ≤ 1000 * 100 := by
        rw [Int.natAbs_mul]
        exact Nat.mul_le_mul few isSpacing.1
      have inRange : InRange ((count : Int) * n) := inRange_of_lt (by omega)
      exact .ok ⟨inRange, fun _ _ => ⟨_, rfl⟩⟩
  | float y =>
      have convertible : (Number.int count).IsConvertible := inRange_of_lt (by omega)
      apply (Number.yields_combine_right convertible y).weaken
      rintro _ ⟨z, rfl⟩
      exact ⟨trivial, nofun⟩

theorem yields_position {start spacing offset : Number} (isStart : IsStartFor spacing start)
    (convertible : offset.IsConvertible) (whole : ∀ n, spacing = .int n → ∃ k, offset = .int k) :
    Yields (Number.combine (· + ·) (· + ·) start offset) fun _ => True := by
  cases start with
  | int m =>
      obtain ⟨n, isInt⟩ := isStart
      obtain ⟨k, rfl⟩ := whole n isInt
      exact .ok trivial
  | float x => exact (Number.yields_combine_left x convertible).weaken fun _ _ => trivial

/-- The positions of grid lines can be counted as far as a thousand. -/
theorem yields_gridPositions (bound : Float) {start spacing : Number} (isSpacing : IsSpacing spacing)
    (isStart : IsStartFor spacing start) {count tries : Nat} (few : count + tries ≤ 1000) :
    Yields (Library.gridPositions start spacing bound count tries) fun _ => True := by
  induction tries generalizing count with
  | zero => exact .ok trivial
  | succ tries ih =>
      unfold Library.gridPositions
      apply (yields_offset isSpacing (by omega)).bind
      rintro offset ⟨convertible, whole⟩
      apply (yields_position isStart convertible whole).bind
      intro position _
      split
      · exact .pure trivial
      · apply (ih (by omega)).bind
        intro positions _
        exact .pure trivial

theorem yields_gridLines (low high : Float) {spacing : Number} (isSpacing : IsSpacing spacing) :
    Yields (Library.gridLines low high spacing) fun _ => True := by
  unfold Library.gridLines
  apply (yields_roundDatumToMultiple low isSpacing).bind
  rintro _ ⟨start, rfl, isStart⟩
  rw [Number.number?_toDatum]
  have few : 0 + Library.maxGridLines ≤ 1000 := by decide
  apply (yields_gridPositions high isSpacing isStart few).bind
  intro positions _
  exact .pure trivial

/-- The default spacing for an extent, which may be infinite or negative. -/
theorem yields_nearest_spacings (extent : Float) :
    Yields (nearest (.float extent) spacings) fun spacing =>
      IsSpacing ((spacing.number?).getD (.int 1)) := by
  have numbers : ∀ candidate ∈ spacings,
      ∃ number : Number, candidate = number.toDatum ∧ number.IsConvertible := by
    intro candidate mem
    obtain ⟨spacing, rfl, isSpacing⟩ := exists_of_mem_spacings mem
    exact ⟨spacing, rfl, isSpacing.isConvertible⟩
  apply (yields_nearest extent (by simp [spacings]) numbers).weaken
  intro candidate mem
  obtain ⟨spacing, rfl, isSpacing⟩ := exists_of_mem_spacings mem
  rwa [Number.number?_toDatum]

theorem yields_spacings {first second : Except Fault Number} (yields : Yields first IsSpacing)
    (yields' : Yields second IsSpacing) :
    Yields (do return (← first, ← second)) fun (xspacing, yspacing) =>
      IsSpacing xspacing ∧ IsSpacing yspacing := by
  apply yields.bind
  intro xspacing isSpacing
  apply yields'.bind
  intro yspacing isSpacing'
  exact .pure ⟨isSpacing, isSpacing'⟩

theorem yields_gridSpacings (arguments : Arguments) (width height : Float) :
    Yields (Library.gridSpacings arguments width height) fun (xspacing, yspacing) =>
      IsSpacing xspacing ∧ IsSpacing yspacing := by
  have byDefault (extent : Float) : Yields (do
      return ((← nearest (.float (extent / 10)) spacings).number?).getD (.int 1)) IsSpacing := by
    apply (yields_nearest_spacings (extent / 10)).bind
    intro spacing isSpacing
    exact .pure isSpacing
  have byDefaults := yields_spacings (byDefault width) (byDefault height)
  unfold Library.gridSpacings
  simp only
  split
  · split
    · rename_i positive
      obtain ⟨x, y⟩ := Bool.and_eq_true_iff.mp positive
      exact .pure ⟨beq_zero_of_pos (of_decide_eq_true x), beq_zero_of_pos (of_decide_eq_true y)⟩
    · exact byDefaults
  · exact byDefaults

end Drawing

end Linework
