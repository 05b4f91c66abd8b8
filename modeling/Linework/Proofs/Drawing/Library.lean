import Linework.Proofs.Command
import Linework.Proofs.Drawing.Grid

/-!
# Handlers return for all words

Three things could go wrong. A window that was updated has extents that are not zero, so they can be divided
by each other. Grids are drawn over any bounds. And the scale of fonts and strokes is looked up only where it
is bound, and then it has a value, for no flag with an arity of zero is a scale in a sound table.
-/

namespace Linework.Drawing

open Linework.Decimal

/-! ## Descriptions -/

/-- A description that can be used: a map with an arity, whose long name can be a key. -/
def isUsable (description : Datum) : Bool :=
  match description with
  | .dict entries => (Datum.entry? entries "name").all hashable && (arity description).toOption.isSome
  | _ => false

/-- The descriptions of all flags can be used. -/
def Parameters.Usable (parameters : Parameters) : Prop :=
  ∀ entry ∈ parameters, isUsable entry.2

theorem describe_dict (entries : List (Datum × Datum)) : describe (.dict entries) = .ok entries := by
  cases entries <;> rfl

theorem yields_describe {description : Datum} (usable : isUsable description) :
    Yields (describe description) fun entries => (Datum.entry? entries "name").all hashable := by
  cases description with
  | dict entries =>
      rw [describe_dict]
      exact .ok (Bool.and_eq_true_iff.mp usable).1
  | _ => cases usable

theorem Parameters.Usable.yields_describe {parameters : Parameters} (usable : parameters.Usable)
    (flag : Datum) :
    Yields (describe ((Assoc.get? parameters flag).getD .null)) fun entries =>
      (Datum.entry? entries "name").all hashable := by
  cases described : Assoc.get? parameters flag with
  | none => exact .ok rfl
  | some description =>
      obtain ⟨key, mem⟩ := Assoc.exists_mem_of_get? described
      exact Drawing.yields_describe (usable _ mem)

theorem yields_joinTexts (index : Nat) (words : List String) :
    Yields (joinTexts index (words.map .text)) fun _ => True := by
  induction words generalizing index with
  | nil => exact .ok trivial
  | cons word rest ih =>
      rw [List.map_cons, joinTexts]
      apply (ih (index + 1)).bind
      intro words _
      exact .pure trivial

/-- Words give attributes, whatever they are. -/
theorem yields_attributesOf {parameters : Parameters} (usable : parameters.Usable) (arguments : Arguments) :
    Yields (attributesOf (argumentData arguments) parameters) fun _ => True := by
  unfold attributesOf argumentData
  apply Yields.foldlM trivial
  intro attributes _ item mem
  obtain ⟨⟨flag, words⟩, _, rfl⟩ := List.mem_map.mp mem
  apply (usable.yields_describe (.text flag)).bind
  intro entries named
  split
  · apply (yields_joinTexts 0 words).bind
    intro joined _
    have key : hashable ((Datum.entry? entries "name").getD (.text flag)) := by
      cases name : Datum.entry? entries "name" with
      | none => rfl
      | some name =>
          rw [name] at named
          exact named
    simp only [key, if_true]
    exact .pure trivial
  · exact .pure trivial

/-! ## Windows -/

theorem extent_beq_zero (low high : Float) :
    let bounds : Float × Float := if low ≥ high then (-100, 100) else (low, high)
    (bounds.2 - bounds.1 == 0) = false := by
  simp only
  split
  · decide +kernel
  · rename_i ordered
    exact sub_beq_zero ordered

/-- The extents of a window that was updated are not zero. -/
theorem Window.update_extents (window : Window) (words : Option (List String)) :
    ((window.update words).xrange == 0) = false ∧ ((window.update words).yrange == 0) = false := by
  unfold Window.update
  constructor <;> exact extent_beq_zero _ _

theorem yields_quotient {x y : Float} (nonzero : (y == 0) = false) : Yields (quotient x y) fun _ => True := by
  unfold quotient
  rw [nonzero]
  exact .ok trivial

theorem yields_completeSize {window : Window} (width : (window.xrange == 0) = false)
    (height : (window.yrange == 0) = false) (attributes : Attributes) :
    Yields (Library.completeSize window attributes) fun _ => True := by
  unfold Library.completeSize
  simp only
  split
  · apply (yields_quotient width).bind
    intro ratio _
    split <;> exact .pure trivial
  · apply (yields_quotient height).bind
    intro ratio _
    split <;> exact .pure trivial
  · exact .pure trivial

/-! ## Handlers -/

namespace Library

variable {parameters : Parameters} (library : Library) (arguments : Arguments)

theorem yields_init (usable : parameters.Usable) (scaled : arguments.get? "fss" ≠ some []) :
    Yields (library.init arguments parameters).1 fun _ => True := by
  obtain ⟨width, height⟩ := library.window.update_extents (arguments.get? "r")
  have sized : Yields (attributesOf (argumentData arguments) parameters >>=
      completeSize (library.window.update (arguments.get? "r"))) fun _ => True := by
    apply (yields_attributesOf usable arguments).bind
    intro attributes _
    exact yields_completeSize width height attributes
  obtain ⟨attributes, computed, _⟩ := sized
  unfold init
  simp only [computed]
  rcases words : arguments.get? "fss" with _ | _ | ⟨word, rest⟩
  · exact .ok trivial
  · exact absurd words scaled
  · exact .ok trivial

theorem yields_grid (usable : parameters.Usable) :
    Yields (library.grid arguments parameters) fun _ => True := by
  unfold grid
  simp only
  apply (yields_gridSpacings arguments _ _).bind
  rintro ⟨xspacing, yspacing⟩ ⟨isSpacing, isSpacing'⟩
  apply (yields_gridLines _ _ isSpacing).bind
  intro xs _
  apply (yields_gridLines _ _ isSpacing').bind
  intro ys _
  apply (yields_attributesOf usable arguments).bind
  intro attributes _
  exact .pure trivial

theorem yields_axis (usable : parameters.Usable) :
    Yields (library.axis arguments parameters) fun _ => True := by
  apply (yields_attributesOf usable arguments).bind
  intro attributes _
  exact .pure trivial

theorem yields_point (usable : parameters.Usable) :
    Yields (library.point arguments parameters) fun _ => True := by
  apply (yields_attributesOf usable arguments).bind
  intro attributes _
  exact .pure trivial

/-- Every handler returns a result, whatever the words are, as long as a scale that is bound has a value. -/
theorem exists_invoke {name : String} (known : name ∈ commandNames) (usable : parameters.Usable)
    (scaled : name = "init" → arguments.get? "fss" ≠ some []) :
    ∃ result library', library.invoke name arguments parameters = (.ok (some result), library') := by
  simp only [commandNames, List.mem_cons, List.not_mem_nil, or_false] at known
  rcases known with rfl | rfl | rfl | rfl
  · obtain ⟨result, computed, _⟩ := library.yields_axis arguments usable
    exact ⟨result, library, by simp [invoke, computed, Except.map]⟩
  · obtain ⟨result, computed, _⟩ := library.yields_grid arguments usable
    exact ⟨result, library, by simp [invoke, computed, Except.map]⟩
  · obtain ⟨result, computed, _⟩ := library.yields_init arguments usable (scaled rfl)
    exact ⟨result, (library.init arguments parameters).2, by simp [invoke, computed, Except.map]⟩
  · obtain ⟨result, computed, _⟩ := library.yields_point arguments usable
    exact ⟨result, library, by simp [invoke, computed, Except.map]⟩

end Library

/-! ## Tables of commands -/

theorem yields_arity {description : Datum} (usable : isUsable description) :
    Yields (arity description) fun _ => True := by
  cases description with
  | dict entries =>
      have known := (Bool.and_eq_true_iff.mp usable).2
      cases computed : arity (.dict entries) with
      | ok count => exact .ok trivial
      | error fault =>
          rw [computed] at known
          cases known
  | _ => cases usable

theorem Parameters.Usable.yields_schema {parameters : Parameters} (usable : parameters.Usable) :
    Yields parameters.schema fun _ => True := by
  apply Yields.mapM
  intro entry mem
  apply (yields_arity (usable entry mem)).bind
  intro count _
  exact .pure trivial

namespace CommandTable

/-- The commands of a table have handlers and descriptions that can be used, and a scale has a value. -/
def isSound (table : CommandTable) : Bool :=
  table.all fun (name, parameters) =>
    Library.commandNames.contains name && parameters.all (isUsable ·.2) &&
      parameters.schema.toOption.all fun schema => Assoc.get? (wordSchema schema) "fss" != some 0

variable {table : CommandTable}

/-- What a sound table holds of a command that is known. -/
theorem exists_parameters (sound : table.isSound) {name : String} (known : Assoc.has table name) :
    ∃ parameters : Parameters, table.parameters name = .ok parameters ∧ name ∈ Library.commandNames ∧
      parameters.Usable ∧
      ∀ schema, parameters.schema = .ok schema → Assoc.get? (wordSchema schema) "fss" ≠ some 0 := by
  obtain ⟨parameters, found⟩ := Option.isSome_iff_exists.mp known
  have checked := List.all_eq_true.mp sound _ (Assoc.mem_of_get? found)
  simp only [Bool.and_eq_true] at checked
  obtain ⟨⟨named, usable⟩, scaled⟩ := checked
  refine ⟨parameters, ?_, ?_, ?_, ?_⟩
  · rw [CommandTable.parameters, found]
  · exact List.contains_iff_mem.mp named
  · exact List.all_eq_true.mp usable
  · intro schema described
    rw [described] at scaled
    exact bne_iff_ne.mp scaled

/-- A known command has a schema. -/
theorem exists_schema (sound : table.isSound) {name : String} (known : Assoc.has table name) :
    ∃ schema, table.schema name = .ok schema := by
  obtain ⟨parameters, found, _, usable, _⟩ := exists_parameters sound known
  obtain ⟨schema, described, _⟩ := usable.yields_schema
  refine ⟨schema, ?_⟩
  rw [CommandTable.schema, found]
  exact described

/-- The handler of a known command returns a result for all arguments that conform to its schema. A scale
that is bound has a value then, for its arity is not zero. -/
theorem exists_invoke (sound : table.isSound) {name : String} (known : Assoc.has table name)
    {arguments : Arguments} (library : Library)
    (admits : ∀ schema, table.schema name = .ok schema → (wordSchema schema).Admits arguments) :
    ∃ result library', table.invoke name arguments library = (.ok (some result), library') := by
  obtain ⟨parameters, found, named, usable, scaled⟩ := exists_parameters sound known
  obtain ⟨schema, described, _⟩ := usable.yields_schema
  have own : table.schema name = .ok schema := by
    rw [CommandTable.schema, found]
    exact described
  unfold CommandTable.invoke
  rw [found]
  apply library.exists_invoke arguments named usable
  intro _ empty
  obtain ⟨count, arity, length⟩ := (admits schema own).get? empty
  have none : count = 0 := length.symm
  rw [none] at arity
  exact scaled schema described arity

end CommandTable

end Linework.Drawing
