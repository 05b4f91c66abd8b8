import Linework.Command
import Linework.Proofs.Assoc

/-!
# Arguments that are bound by a schema

Binding gives a flag its values only if there are as many as the schema says. So no flag of a command has
more or fewer values than its arity, also after commands were overlaid and their identifiers forgotten.
Each flag is bound once.
-/

namespace Linework

/-- Each flag has an arity in the schema, and as many values. -/
def Schema.Admits (schema : Schema) (arguments : Arguments) : Prop :=
  ∀ entry ∈ arguments, ∃ arity, schema.get? entry.1 = some arity ∧ (entry.2.length : Int) = arity

namespace Schema.Admits

variable {schema : Schema} {arguments : Arguments}

theorem nil : schema.Admits [] :=
  nofun

theorem put {flag : String} {values : List String} {arity : Int} (admits : schema.Admits arguments)
    (known : schema.get? flag = some arity) (enough : (values.length : Int) = arity) :
    schema.Admits (Assoc.put arguments flag values) := by
  intro entry mem
  rcases Assoc.mem_put mem with old | rfl
  · exact admits entry old
  · exact ⟨arity, known, enough⟩

theorem update {other : Arguments} (admits : schema.Admits arguments)
    (admitsOther : schema.Admits other) : schema.Admits (Assoc.update arguments other) := by
  unfold Assoc.update
  induction other generalizing arguments with
  | nil => exact admits
  | cons entry rest ih =>
      obtain ⟨arity, known, enough⟩ := admitsOther entry List.mem_cons_self
      apply ih
      · exact admits.put known enough
      · exact fun entry mem => admitsOther entry (List.mem_cons_of_mem _ mem)

theorem filter (admits : schema.Admits arguments) (keeps : String × List String → Bool) :
    schema.Admits (arguments.filter keeps) :=
  fun entry mem => admits entry (List.mem_filter.mp mem).1

/-- A flag that is bound has as many values as its arity says. -/
theorem get? {flag : String} {values : List String} (admits : schema.Admits arguments)
    (bound : Assoc.get? arguments flag = some values) :
    ∃ arity, schema.get? flag = some arity ∧ (values.length : Int) = arity :=
  admits (flag, values) (Assoc.mem_of_get? bound)

theorem bindFrom {total skip position : Nat} {words : List String} (admits : schema.Admits arguments) :
    schema.Admits (Command.bindFrom schema total skip position arguments words) := by
  fun_induction Command.bindFrom schema total skip position arguments words with
  | case1 => exact admits
  | case2 _ _ _ _ _ ih | case3 _ _ _ _ _ ih => exact ih admits
  | case4 position bound word rest arity known values bound' ih =>
      apply ih
      by_cases enough : (values.length : Int) = arity
      · rw [show bound' = Assoc.put bound word values from if_pos enough]
        exact admits.put known enough
      · rw [show bound' = bound from if_neg enough]
        exact admits

end Schema.Admits

/-- What is bound by a schema conforms to it. -/
theorem Schema.admits_bind (schema : Schema) (words : List String) :
    schema.Admits (Command.bind schema words) :=
  Admits.nil.bindFrom

namespace Command

theorem nodup_keys_bindFrom {schema : Schema} {total skip position : Nat} {bound : Arguments}
    {words : List String} (distinct : bound.keys.Nodup) :
    (bindFrom schema total skip position bound words).keys.Nodup := by
  fun_induction bindFrom schema total skip position bound words with
  | case1 => exact distinct
  | case2 _ _ _ _ _ ih | case3 _ _ _ _ _ ih => exact ih distinct
  | case4 position bound word rest arity known values bound' ih =>
      apply ih
      by_cases enough : (values.length : Int) = arity
      · rw [show bound' = bound.put word values from if_pos enough]
        exact Assoc.nodup_keys_put distinct word values
      · rw [show bound' = bound from if_neg enough]
        exact distinct

theorem nodup_keys_bind (schema : Schema) (words : List String) : (bind schema words).keys.Nodup :=
  nodup_keys_bindFrom List.nodup_nil

end Command

end Linework
