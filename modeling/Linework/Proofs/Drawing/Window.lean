import Linework.Drawing.Measure
import Linework.Drawing.Window
import Linework.Proofs.Decimal.Range
import Linework.Proofs.Decimal.Value

/-!
# The window through its updates

Only the words of an update are checked, and each axis on its own: bounds stay finite and in order, and extents
stay above zero whatever the words are. What is worked out from finite bounds is not checked again: an extent,
the ratio of two of them and a length that is derived with it are finite just where the exact ones are below the
overflow.
-/

namespace Linework.Drawing

open Decimal

/-! ## One axis -/

/-- A number, and the one that shows it with ten decimal places, are finite just if an exact value is below the
overflow. -/
structure FiniteBelow (x : Float) (exact : ℚ) : Prop where
  finite_iff : x.isFinite ↔ exact < overflow
  shown_iff : (roundPlaces x 10).isFinite ↔ exact < overflow

theorem finiteBelow_of_iff {x : Float} {exact : ℚ} (finite : x.isFinite ↔ exact < overflow) :
    FiniteBelow x exact :=
  ⟨finite, (isFinite_roundPlaces (by decide)).trans finite⟩

/-- Finite bounds in order, with the extent between them. -/
structure Spans (low high extent : Float) : Prop where
  low_finite : low.isFinite
  high_finite : high.isFinite
  ordered : low < high
  extent_eq : extent = high - low
  positive : 0 < extent
  finite : FiniteBelow extent (exactValue high - exactValue low)

variable {low high extent : Float}

theorem spans_of_lt (lowFinite : low.isFinite) (highFinite : high.isFinite) (ordered : low < high) :
    Spans low high (high - low) :=
  ⟨lowFinite, highFinite, ordered, rfl, sub_pos_of_lt lowFinite highFinite ordered,
    finiteBelow_of_iff (isFinite_sub_iff lowFinite highFinite ordered)⟩

/-- Finite bounds that are not in order are reset. -/
theorem spans_reset (lowFinite : low.isFinite) (highFinite : high.isFinite) :
    let bounds : Float × Float := if low ≥ high then (-100, 100) else (low, high)
    Spans bounds.1 bounds.2 (bounds.2 - bounds.1) := by
  intro bounds
  by_cases inverted : low ≥ high
  · have reset : bounds = (-100, 100) := if_pos inverted
    rw [reset]
    exact spans_of_lt (by decide +kernel) (by decide +kernel) (by decide +kernel)
  · have kept : bounds = (low, high) := if_neg inverted
    have ordered : low < high := by
      rw [lt_iff_exactValue lowFinite highFinite]
      exact not_le.mp ((le_iff_exactValue highFinite lowFinite).not.mp inverted)
    rw [kept]
    exact spans_of_lt lowFinite highFinite ordered

/-- The ratio of one extent to another is a number, and it scales lengths. -/
structure Relates (extent other : Float) : Prop where
  divides : quotient other extent = .ok (other / extent)
  finite : extent.isFinite → other.isFinite →
    FiniteBelow (other / extent) (exactValue other / exactValue extent)
  scales : ∀ length : Float, length.isFinite → (other / extent).isFinite →
    FiniteBelow (length * (other / extent)) |exactValue length * exactValue (other / extent)|

theorem relates_of_pos {other : Float} (positive : 0 < extent) (otherPositive : 0 < other) :
    Relates extent other := by
  constructor
  · unfold quotient
    rw [beq_zero_of_pos positive]
    rfl
  · intro finite otherFinite
    exact finiteBelow_of_iff (isFinite_div_iff otherFinite finite otherPositive positive)
  · intro length lengthFinite ratioFinite
    exact finiteBelow_of_iff (isFinite_mul_iff lengthFinite ratioFinite)

/-! ## Words and data -/

theorem floatsOf_words (words : List String) :
    floatsOf (words.map .text) = .ok (words.mapM readFloat?) := by
  induction words with
  | nil => rfl
  | cons word words ih =>
      rw [List.map_cons, floatsOf, Datum.toFloat, List.mapM_cons]
      cases readFloat? word with
      | none => rfl
      | some x =>
          simp only [ih]
          cases words.mapM readFloat? <;> rfl

theorem itemsBefore?_words (words : List String) (count : Nat) :
    itemsBefore? count (.list (words.map .text)) = some ((words.take count).map .text) := by
  have positive : ¬(count : Int) < 0 := Int.not_lt.mpr (Int.natCast_nonneg count)
  rw [itemsBefore?, itemsBefore?.cut, if_neg positive, Int.toNat_natCast, ← List.map_take]

/-- Data that are words are read as numbers as the words are. -/
theorem parseFloats_words (words : List String) (count : Nat) :
    parseFloats (.list (words.map .text)) count = .ok (wordFloats? words count) := by
  have size : (Datum.list (words.map .text)).size = .ok words.length := by
    rw [Datum.size, List.length_map]
  unfold parseFloats wordFloats?
  rw [size, itemsBefore?_words]
  simp only [floatsOf_words, bind, Except.bind, pure, Except.pure, Int.ofNat_lt, Bool.false_eq_true, if_false]
  by_cases few : words.length < count
  · rw [if_pos few, if_pos few]
  · rw [if_neg few, if_neg few]
    cases (words.take count).mapM readFloat? with
    | none => rfl
    | some numbers => exact congrArg Except.ok Option.filter_some

/-- A float is tidied as it is as a datum. -/
theorem tidyDatum_float (x : Float) : tidyDatum (.float x) = .ok (tidy x) :=
  rfl

/-- A number under a flag is what the words under the flag are read as. -/
theorem floatOr_words (arguments : Arguments) (flag : String) (default : Datum) :
    floatOr (arguments.map fun (flag, words) => (.text flag, .list (words.map .text))) (.text flag) default =
      .ok (match flagFloats? arguments flag 1 with
        | some (x :: _) => .float x
        | _ => default) := by
  have found : Assoc.get? (arguments.map fun (flag, words) => (Datum.text flag, Datum.list (words.map .text)))
      (.text flag) = (arguments.get? flag).map fun words => .list (words.map .text) := by
    induction arguments with
    | nil => rfl
    | cons argument rest ih =>
        simp only [List.map_cons, Assoc.get?, ih, apply_ite (Option.map _)]
        rfl
  unfold floatOr flagFloats?
  rw [found]
  cases arguments.get? flag with
  | none => rfl
  | some words =>
      have read : parseFloats (.list (words.map .text)) 1 = .ok (wordFloats? words 1) :=
        parseFloats_words words 1
      simp only [Option.map_some, Option.getD_some, read, bind, Except.bind, Option.bind]
      rcases wordFloats? words 1 with _ | _ | ⟨x, rest⟩ <;> rfl

/-! ## Windows -/

/-- Numbers that are read from words are finite. -/
theorem finite_of_wordFloats? {words : List String} {count : Nat} {numbers : List Float}
    (read : wordFloats? words count = some numbers) : ∀ x ∈ numbers, x.isFinite := by
  unfold wordFloats? at read
  split at read
  · cases read
  · obtain ⟨all, _, checked⟩ := Option.bind_eq_some_iff.mp read
    split at checked
    · rename_i finite
      obtain rfl : all = numbers := Option.some.inj checked
      exact List.all_eq_true.mp finite
    · cases checked

namespace Window

/-- What holds of a window: both axes span something, and their extents relate to each other. -/
structure Usable (window : Window) : Prop where
  horizontal : Spans window.xmin window.xmax window.xrange
  vertical : Spans window.ymin window.ymax window.yrange
  height : Relates window.xrange window.yrange
  width : Relates window.yrange window.xrange

theorem usable_of_spans {window : Window} (horizontal : Spans window.xmin window.xmax window.xrange)
    (vertical : Spans window.ymin window.ymax window.yrange) : window.Usable :=
  ⟨horizontal, vertical, relates_of_pos horizontal.positive vertical.positive,
    relates_of_pos vertical.positive horizontal.positive⟩

theorem usable_default : Usable {} := by
  have extent : (200 : Float) = 100 - -100 := by decide +kernel
  have spans : Spans (-100) 100 200 := by
    rw [extent]
    exact spans_of_lt (by decide +kernel) (by decide +kernel) (by decide +kernel)
  exact usable_of_spans spans spans

/-- An update leaves a window usable, whatever its words are. -/
theorem Usable.update {window : Window} (usable : window.Usable) (words : Option (List String)) :
    (window.update words).Usable := by
  obtain ⟨horizontal, vertical, _, _⟩ := usable
  unfold Window.update
  split
  rename_i xmin ymin xmax ymax taken
  have finite : xmin.isFinite ∧ ymin.isFinite ∧ xmax.isFinite ∧ ymax.isFinite := by
    split at taken
    · rename_i read
      cases taken
      obtain ⟨given, _, read⟩ := Option.bind_eq_some_iff.mp read
      have finite := finite_of_wordFloats? read
      exact ⟨finite _ (by simp), finite _ (by simp), finite _ (by simp), finite _ (by simp)⟩
    · cases taken
      exact ⟨horizontal.low_finite, vertical.low_finite, horizontal.high_finite, vertical.high_finite⟩
  obtain ⟨xminFinite, yminFinite, xmaxFinite, ymaxFinite⟩ := finite
  exact usable_of_spans (spans_reset xminFinite xmaxFinite) (spans_reset yminFinite ymaxFinite)

/-- Every window that updates lead to is usable. -/
theorem usable_updates (calls : List (Option (List String))) : (calls.foldl Window.update {}).Usable := by
  suffices run : ∀ window : Window, window.Usable → (calls.foldl Window.update window).Usable from
    run {} usable_default
  induction calls with
  | nil => exact fun _ usable => usable
  | cons words calls ih => exact fun window usable => ih _ (usable.update words)

/-- Finite bounds can be too far apart for a finite extent. -/
theorem updates_overflow : ¬∀ calls : List (Option (List String)),
    (calls.foldl Window.update {}).xrange.isFinite ∧ (calls.foldl Window.update {}).yrange.isFinite := by
  intro finite
  have far := finite [some ["-1e308", "-1e308", "1e308", "1e308"]]
  exact absurd far.1 (by decide +kernel)

end Window

end Linework.Drawing
