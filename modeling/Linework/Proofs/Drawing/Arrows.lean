import Linework.Drawing.Library
import Mathlib.Tactic.Common

/-!
# Arrow markers

Each drawing has arrow markers with identifiers of its own, in which a number tells the drawing from others.
The identifiers go into the elements of axes, as the values of two attributes, and nowhere else: a library
with other identifiers returns the same results, apart from those values, and keeps the same state.
-/

namespace Linework

open Linework.Drawing Linework.Decimal

/-- The key of an attribute is found by its text alone. -/
theorem Datum.beq_text_iff {key : Datum} {name : String} :
    (key == Datum.text name) = true ↔ key = .text name := by
  change Datum.sameKey key (.text name) = true ↔ key = .text name
  cases key with
  | text other => simp [Datum.sameKey]
  | _ => simp [Datum.sameKey, Datum.asInt?]

namespace Drawing.Library

/-! ## Setting attributes -/

theorem set_set (attributes : Attributes) (name : String) (value value' : Datum) :
    set (set attributes name value) name value' = set attributes name value' := by
  unfold set
  induction attributes with
  | nil => simp [Assoc.put, Datum.beq_text_iff.mpr]
  | cons entry rest ih =>
      by_cases same : entry.1 == .text name
      · simp [Assoc.put, same]
      · simp [Assoc.put, same, ih]

theorem attribute?_set_self (attributes : Attributes) (name : String) (value : Datum) :
    attribute? (set attributes name value) name = some value := by
  unfold set attribute? Datum.entry?
  induction attributes with
  | nil => simp [Assoc.put, Assoc.get?, Datum.beq_text_iff.mpr]
  | cons entry rest ih =>
      by_cases same : entry.1 == .text name
      · simp [Assoc.put, Assoc.get?, same]
      · simp [Assoc.put, Assoc.get?, same, ih]

/-- Two names are not the names of one key. -/
theorem not_beq_of_beq {key : Datum} {name other : String} (distinct : name ≠ other)
    (same : (key == Datum.text name) = true) : (key == Datum.text other) = false := by
  rw [Bool.eq_false_iff]
  intro also
  rw [Datum.beq_text_iff.mp same] at also
  cases Datum.beq_text_iff.mp also
  exact distinct rfl

theorem attribute?_set_of_ne (attributes : Attributes) {name other : String} (distinct : name ≠ other)
    (value : Datum) : attribute? (set attributes other value) name = attribute? attributes name := by
  unfold set attribute? Datum.entry?
  induction attributes with
  | nil => simp [Assoc.put, Assoc.get?, not_beq_of_beq distinct.symm (Datum.beq_text_iff.mpr rfl)]
  | cons entry rest ih =>
      by_cases same : entry.1 == .text other
      · simp [Assoc.put, Assoc.get?, same, not_beq_of_beq distinct.symm same]
      · by_cases found : entry.1 == .text name <;> simp [Assoc.put, Assoc.get?, same, found, ih]

/-- An attribute that is there keeps its place, so that it may be set before another one or after it. -/
theorem set_comm {attributes : Attributes} {name other : String} (distinct : name ≠ other)
    (present : (attribute? attributes name).isSome) (value value' : Datum) :
    set (set attributes other value') name value = set (set attributes name value) other value' := by
  unfold attribute? Datum.entry? at present
  unfold set
  induction attributes with
  | nil => cases present
  | cons entry rest ih =>
      by_cases found : entry.1 == .text name
      · simp [Assoc.put, found, not_beq_of_beq distinct found]
      · have inRest : (Assoc.get? rest (.text name)).isSome := by
          simpa [Assoc.get?, found] using present
        by_cases same : entry.1 == .text other
        · simp [Assoc.put, found, same]
        · simp [Assoc.put, found, same, ih inRest]

theorem attributeTexts_set (attributes : Attributes) (name : String) (value : Datum) :
    attributeTexts (set attributes name value) =
      set (attributeTexts attributes) name (.text value.spliced) := by
  unfold set attributeTexts
  induction attributes with
  | nil => rfl
  | cons entry rest ih =>
      by_cases same : entry.1 == .text name
      · simp [Assoc.put, same]
      · simp [Assoc.put, same, ih]

theorem attribute?_attributeTexts (attributes : Attributes) (name : String) :
    attribute? (attributeTexts attributes) name =
      (attribute? attributes name).map (.text ·.spliced) := by
  unfold attribute? Datum.entry? attributeTexts
  induction attributes with
  | nil => rfl
  | cons entry rest ih =>
      by_cases same : entry.1 == .text name
      · simp [Assoc.get?, same]
      · simp [Assoc.get?, same, ih]

/-! ## Attributes that point at arrows -/

/-- The attributes with markers at both ends. -/
def pointing (start finish : String) (attributes : Attributes) : Attributes :=
  setText (setText attributes "marker-start" ("url(#" ++ start ++ ")"))
    "marker-end" ("url(#" ++ finish ++ ")")

/-- There are markers at both ends. -/
structure HasMarkers (attributes : Attributes) : Prop where
  start : (attribute? attributes "marker-start").isSome
  finish : (attribute? attributes "marker-end").isSome

theorem hasMarkers_pointing (start finish : String) (attributes : Attributes) :
    HasMarkers (pointing start finish attributes) := by
  unfold pointing setText
  constructor
  · rw [attribute?_set_of_ne _ (by decide), attribute?_set_self]
    rfl
  · rw [attribute?_set_self]
    rfl

theorem HasMarkers.set {attributes : Attributes} (marked : HasMarkers attributes) (name : String)
    (value : Datum) : HasMarkers (set attributes name value) := by
  have stays {marker : String} (there : (attribute? attributes marker).isSome) :
      (attribute? (Library.set attributes name value) marker).isSome := by
    by_cases same : marker = name
    · rw [same, attribute?_set_self]
      rfl
    · rwa [attribute?_set_of_ne _ same]
  exact ⟨stays marked.start, stays marked.finish⟩

theorem HasMarkers.unless {attributes : Attributes} (marked : HasMarkers attributes) (given : Bool)
    (name value : String) : HasMarkers (if given then attributes else setText attributes name value) := by
  cases given with
  | true => exact marked
  | false => exact marked.set name _

theorem HasMarkers.attributeTexts {attributes : Attributes} (marked : HasMarkers attributes) :
    HasMarkers (attributeTexts attributes) := by
  constructor
  · rw [attribute?_attributeTexts, Option.isSome_map]
    exact marked.start
  · rw [attribute?_attributeTexts, Option.isSome_map]
    exact marked.finish

/-- Of markers at both ends the last that are set count. -/
theorem pointing_pointing (start finish start' finish' : String) (attributes : Attributes) :
    pointing start' finish' (pointing start finish attributes) = pointing start' finish' attributes := by
  have there : (attribute? (setText attributes "marker-start" ("url(#" ++ start ++ ")"))
      "marker-start").isSome := by
    unfold setText
    rw [attribute?_set_self]
    rfl
  unfold pointing
  unfold setText at there ⊢
  rw [set_comm (by decide) there, set_set, set_set]

theorem pointing_set {attributes : Attributes} (marked : HasMarkers attributes) {name : String}
    (notStart : "marker-start" ≠ name) (notFinish : "marker-end" ≠ name) (start finish : String)
    (value : Datum) :
    pointing start finish (set attributes name value) =
      set (pointing start finish attributes) name value := by
  unfold pointing setText
  rw [set_comm notStart marked.start, set_comm notFinish (marked.set _ _).finish]

/-- Setting an attribute that is not given has nothing to do with the markers. -/
theorem pointing_unless {attributes : Attributes} (marked : HasMarkers attributes) {given : Bool}
    {name value start finish : String} (notStart : "marker-start" ≠ name)
    (notFinish : "marker-end" ≠ name) :
    pointing start finish (if given then attributes else setText attributes name value) =
      if given then pointing start finish attributes
      else setText (pointing start finish attributes) name value := by
  cases given with
  | true => rfl
  | false => exact pointing_set marked notStart notFinish start finish _

theorem attributeTexts_pointing (start finish : String) (attributes : Attributes) :
    attributeTexts (pointing start finish attributes) =
      pointing start finish (attributeTexts attributes) := by
  unfold pointing setText
  rw [attributeTexts_set, attributeTexts_set]
  rfl

theorem attribute?_pointing (start finish : String) (attributes : Attributes) {name : String}
    (notStart : name ≠ "marker-start") (notFinish : name ≠ "marker-end") :
    attribute? (pointing start finish attributes) name = attribute? attributes name := by
  unfold pointing setText
  rw [attribute?_set_of_ne _ notFinish, attribute?_set_of_ne _ notStart]

end Drawing.Library

/-! ## Results of a library with other arrows -/

/-- An element whose markers are the given arrows. -/
def Element.withArrows (start finish : String) (element : Element) : Element :=
  { element with attributes := Library.pointing start finish element.attributes }

/-- A result with other arrows, which axes alone have. -/
def Result.withArrows (start finish : String) (result : Result) : Result :=
  if result.command = "axis" then
    { result with elements := result.elements.map (·.withArrows start finish) }
  else result

namespace Result

variable (start finish : String) (result : Result)

theorem name_withArrows : (result.withArrows start finish).name = result.name := by
  unfold withArrows
  split <;> rfl

theorem interface_withArrows : (result.withArrows start finish).interface = result.interface := by
  unfold withArrows
  split <;> rfl

theorem withArrows_of_ne (noAxis : result.command ≠ "axis") : result.withArrows start finish = result :=
  if_neg noAxis

/-- What scripts see of a result has nothing to do with its arrows. -/
theorem withArrows_withInterface (interface : Option Datum) :
    { result.withArrows start finish with name := result.name, interface := interface } =
      withArrows start finish { result with interface := interface } := by
  unfold withArrows
  split <;> rfl

end Result

namespace Drawing.Library

/-- A library whose arrow markers have other identifiers. -/
def withArrows (start finish : String) (library : Library) : Library :=
  { library with arrowStart := start, arrowEnd := finish }

variable (start finish : String) (library : Library)

theorem element_withArrows {attributes : Attributes} (marked : HasMarkers attributes) (tag : String) :
    (library.withArrows start finish).element tag (pointing start finish attributes) =
      (library.element tag attributes).withArrows start finish := by
  unfold element Element.withArrows
  simp only [attributeTexts_pointing, attribute?_pointing start finish (attributeTexts attributes)
    (show "stroke-width" ≠ "marker-start" by decide) (show "stroke-width" ≠ "marker-end" by decide)]
  split
  · split
    · simp only [setText, withArrows]
      rw [pointing_set marked.attributeTexts (by decide) (by decide)]
    · rfl
  · rfl

/-- The attributes of an axis along a path, with strokes as they are given or thin and faint. -/
def strokedAlong (path : String) (arguments : Arguments) (attributes : Attributes) : Attributes :=
  let attributes := if arguments.has "sw" then attributes else setText attributes "stroke-width" "1"
  let attributes :=
    if arguments.has "so" then attributes else setText attributes "stroke-opacity" "0.6"
  setText attributes "d" path

theorem HasMarkers.strokedAlong {attributes : Attributes} (marked : HasMarkers attributes)
    (path : String) (arguments : Arguments) : HasMarkers (strokedAlong path arguments attributes) :=
  ((marked.unless _ _ _).unless _ _ _).set _ _

theorem pointing_strokedAlong {attributes : Attributes} (marked : HasMarkers attributes)
    (path : String) (arguments : Arguments) :
    pointing start finish (strokedAlong path arguments attributes) =
      strokedAlong path arguments (pointing start finish attributes) := by
  have thin := marked.unless (arguments.has "sw") "stroke-width" "1"
  have faint := thin.unless (arguments.has "so") "stroke-opacity" "0.6"
  unfold strokedAlong
  simp only
  rw [← pointing_unless marked (by decide) (by decide), ← pointing_unless thin (by decide) (by decide)]
  exact pointing_set faint (by decide) (by decide) start finish _

/-- Both axes point at the arrows of the library. -/
theorem axis_eq (arguments : Arguments) (parameters : Parameters) :
    library.axis arguments parameters =
      (attributesOf (argumentData arguments) parameters).map fun own =>
        let pointed := pointing library.arrowStart library.arrowEnd own
        let (xmin, ymin, xmax, ymax) := library.window.bounds arguments
        let across := "M " ++ tidy xmin ++ " 0 H " ++ tidy xmax
        let upward := "M 0 " ++ tidy ymin ++ " V " ++ tidy ymax
        { command := "axis"
          elements := [
            library.element "path" (strokedAlong across arguments pointed),
            library.element "path" (strokedAlong upward arguments pointed)] } := by
  unfold axis
  cases attributesOf (argumentData arguments) parameters <;> rfl

/-- The axes of a library with other arrows are its axes with other arrows. -/
theorem axis_withArrows (arguments : Arguments) (parameters : Parameters) :
    (library.withArrows start finish).axis arguments parameters =
      (library.axis arguments parameters).map (·.withArrows start finish) := by
  rw [axis_eq, axis_eq]
  cases attributesOf (argumentData arguments) parameters with
  | error fault => rfl
  | ok own =>
      have marked := hasMarkers_pointing library.arrowStart library.arrowEnd own
      have along (path : String) :
          (library.withArrows start finish).element "path"
              (strokedAlong path arguments (pointing start finish own)) =
            (library.element "path" (strokedAlong path arguments
              (pointing library.arrowStart library.arrowEnd own))).withArrows start finish := by
        rw [← pointing_pointing library.arrowStart library.arrowEnd start finish own,
          ← pointing_strokedAlong start finish marked,
          element_withArrows start finish library (marked.strokedAlong path arguments)]
      simp only [Except.map, Result.withArrows, if_true, List.map_cons, List.map_nil, ← along]
      rfl

/-! ## Handlers -/

theorem setScale_withArrows (word : String) :
    (library.withArrows start finish).setScale word = (library.setScale word).withArrows start finish := by
  unfold setScale
  split <;> rfl

/-- Opening a drawing has nothing to do with its arrows. -/
theorem init_withArrows (arguments : Arguments) (parameters : Parameters) :
    (library.withArrows start finish).init arguments parameters =
      (library.init arguments parameters).map (·.map (·.withArrows start finish))
        (·.withArrows start finish) := by
  unfold init
  have same : (library.withArrows start finish).window = library.window := rfl
  simp only [same]
  cases attributesOf (argumentData arguments) parameters >>=
      completeSize (library.window.update (arguments.get? "r")) with
  | error fault => rfl
  | ok attributes =>
      have unmarked (result : Result) (isInit : result.command = "init") :
          result.withArrows start finish = result :=
        Result.withArrows_of_ne start finish result (by simp [isInit])
      rcases arguments.get? "fss" with _ | (_ | ⟨word, rest⟩)
      · unfold withArrows
        simp only [Prod.map, Except.map, unmarked, element]
      · rfl
      · have scaled := setScale_withArrows start finish
          { library with window := library.window.update (arguments.get? "r"), scale := 1 } word
        unfold withArrows at scaled ⊢
        simp only [scaled, Prod.map, Except.map, unmarked, element]

/-- A computation whose last part gives the same results with other arrows gives the same. -/
theorem map_bind_eq {α : Type} {computation : Except Fault α} {next : α → Except Fault Result}
    (same : ∀ value, (next value).map (·.withArrows start finish) = next value) :
    (computation >>= next).map (·.withArrows start finish) = computation >>= next := by
  cases computation with
  | error fault => rfl
  | ok value => exact same value

theorem map_grid (arguments : Arguments) (parameters : Parameters) :
    (library.grid arguments parameters).map (·.withArrows start finish) =
      library.grid arguments parameters := by
  unfold grid
  simp only
  apply map_bind_eq
  rintro ⟨xspacing, yspacing⟩
  apply map_bind_eq
  intro xs
  apply map_bind_eq
  intro ys
  apply map_bind_eq
  intro attributes
  exact congrArg Except.ok (Result.withArrows_of_ne start finish _ (show "grid" ≠ "axis" by decide))

theorem map_point (arguments : Arguments) (parameters : Parameters) :
    (library.point arguments parameters).map (·.withArrows start finish) =
      library.point arguments parameters := by
  unfold point
  apply map_bind_eq
  intro attributes
  exact congrArg Except.ok (Result.withArrows_of_ne start finish _ (show "point" ≠ "axis" by decide))

/-- A handler of a library with other arrows does what the library's own does, and returns its result with
other arrows. -/
theorem invoke_withArrows (name : String) (arguments : Arguments) (parameters : Parameters) :
    (library.withArrows start finish).invoke name arguments parameters =
      (library.invoke name arguments parameters).map (·.map (·.map (·.withArrows start finish)))
        (·.withArrows start finish) := by
  have some_map (computation : Except Fault Result) :
      (computation.map some).map (·.map (·.withArrows start finish)) =
        (computation.map (·.withArrows start finish)).map some := by
    cases computation <;> rfl
  unfold invoke
  split
  · rw [init_withArrows]
    rcases library.init arguments parameters with ⟨result, library'⟩
    simp only [Prod.map, some_map]
  · have same : (library.withArrows start finish).grid arguments parameters =
        library.grid arguments parameters := rfl
    simp only [Prod.map, some_map, map_grid, same]
  · simp only [Prod.map, some_map, axis_withArrows]
  · have same : (library.withArrows start finish).point arguments parameters =
        library.point arguments parameters := rfl
    simp only [Prod.map, some_map, map_point, same]
  · rfl

/-! ## Numbers of drawings -/

/-- What the identifiers of a drawing's arrows begin with. -/
def arrowStem (options : Assoc Datum Datum) (number : Nat) : String :=
  (option options "id_prefix" (.text "cgraph")).plain ++ "_id_" ++ natText number ++ "_"

/-- A library as a drawing of another number has it. -/
def numbered (options : Assoc Datum Datum) (number : Nat) (library : Library) : Library :=
  library.withArrows (arrowStem options number ++ "arrow_start") (arrowStem options number ++ "arrow_end")

/-- Drawings that are begun with the same options differ in the identifiers of their arrows alone. -/
theorem create_eq_map (options : Assoc Datum Datum) (number number' : Nat) :
    create options number' = (create options number).map (numbered options number') := by
  unfold create
  cases (option options "default_stroke_width" (.int 1)).toFloat with
  | error fault => rfl
  | ok strokeWidth =>
      cases (option options "default_font_size" (.int 16)).toFloat with
      | error fault => rfl
      | ok fontSize => rfl

end Drawing.Library

end Linework
