import Linework.Proofs.Command

/-!
# How words are bound

Words are read from the left. A flag takes as many words as its arity says, so whether a word is read as a
flag depends on all words before it: it stands in *flag position* when they are complete, which is to say
that each flag among them has all of its values. Complete words are bound by themselves, and what stands
behind them is bound as if it stood alone and laid over them. A flag that has too few words behind it binds
nothing.
-/

namespace Linework

variable {schema : Schema}

/-- Words among which no flag is short of values: each is no flag, or a flag with its values behind it. -/
inductive Schema.Complete (schema : Schema) : List String → Prop where
  | nil : schema.Complete []
  | word {word : String} {rest : List String} (noFlag : schema.get? word = none)
      (others : schema.Complete rest) : schema.Complete (word :: rest)
  | flag {flag : String} {arity : Int} {values rest : List String} (known : schema.get? flag = some arity)
      (enough : (values.length : Int) = arity) (others : schema.Complete rest) :
      schema.Complete (flag :: (values ++ rest))

namespace Command

/-! ## One word at a time -/

theorem valuesAfter_of_nonneg {arity : Int} (nonneg : 0 ≤ arity) (total position : Nat)
    (rest : List String) : valuesAfter total position arity rest = rest.take arity.toNat := by
  have inside : ¬(position : Int) + arity < 0 := by omega
  have count : (position : Int) + arity - position = arity := by omega
  rw [valuesAfter]
  simp only [inside, if_false, count]

/-- Where no arity is negative, it does not matter how many words there are before and behind. -/
theorem bindFrom_congr (nonneg : ∀ entry ∈ schema, 0 ≤ entry.2) (total total' : Nat)
    (skip position position' : Nat) (bound : Arguments) (words : List String) :
    bindFrom schema total skip position bound words =
      bindFrom schema total' skip position' bound words := by
  induction words generalizing skip position position' bound with
  | nil => rfl
  | cons word rest ih =>
      cases skip with
      | succ skip => exact ih skip _ _ bound
      | zero =>
          rw [bindFrom, bindFrom]
          cases known : schema.get? word with
          | none => exact ih 0 _ _ bound
          | some arity =>
              have arityNonneg : 0 ≤ arity := nonneg (word, arity) (Assoc.mem_of_get? known)
              simp only [valuesAfter_of_nonneg arityNonneg]
              exact ih _ _ _ _

/-- Words that are taken as values bind nothing themselves. -/
theorem bindFrom_append_taken (schema : Schema) (total position : Nat) (bound : Arguments)
    (values rest : List String) :
    bindFrom schema total values.length position bound (values ++ rest) =
      bindFrom schema total 0 (position + values.length) bound rest := by
  induction values generalizing position with
  | nil => rfl
  | cons value values ih =>
      rw [List.length_cons, List.cons_append, bindFrom, ih, Nat.add_right_comm, Nat.add_assoc]

/-- What words bind is laid over what has been bound before. -/
theorem bindFrom_eq_update (schema : Schema) (total skip position : Nat) (bound : Arguments)
    (words : List String) :
    bindFrom schema total skip position bound words =
      bound.update (bindFrom schema total skip position [] words) := by
  induction words generalizing skip position bound with
  | nil => rfl
  | cons word rest ih =>
      cases skip with
      | succ skip => exact ih skip (position + 1) bound
      | zero =>
          rw [bindFrom, bindFrom]
          cases schema.get? word with
          | none => exact ih 0 (position + 1) bound
          | some arity =>
              simp only
              split
              · -- The flag is put first, and what its rest binds is laid over it.
                generalize valuesAfter total (position + 1) arity rest = values
                have distinct : (Assoc.put ([] : Arguments) word values).keys.Nodup :=
                  List.pairwise_singleton _ word
                rw [ih _ _ (Assoc.put bound word values), ih _ _ (Assoc.put [] word values),
                  ← Assoc.update_update bound distinct]
                rfl
              · exact ih _ _ bound

theorem bind_of_word (nonneg : ∀ entry ∈ schema, 0 ≤ entry.2) {word : String}
    (noFlag : schema.get? word = none) (rest : List String) : bind schema (word :: rest) = bind schema rest := by
  rw [bind, bindFrom, noFlag]
  exact bindFrom_congr nonneg _ _ 0 _ 0 [] rest

variable {flag : String} {arity : Int} {values : List String}

theorem bind_of_flag (nonneg : ∀ entry ∈ schema, 0 ≤ entry.2) (known : schema.get? flag = some arity)
    (enough : (values.length : Int) = arity) (rest : List String) :
    bind schema (flag :: (values ++ rest)) = Assoc.update [(flag, values)] (bind schema rest) := by
  have arityNonneg : 0 ≤ arity := nonneg (flag, arity) (Assoc.mem_of_get? known)
  have taken : (values ++ rest).take arity.toNat = values := by
    rw [← enough, Int.toNat_natCast, List.take_left]
  rw [bind, bindFrom, known]
  simp only [valuesAfter_of_nonneg arityNonneg, taken, enough, if_true]
  rw [bindFrom_append_taken, bindFrom_eq_update, bind, Assoc.put]
  exact congrArg _ (bindFrom_congr nonneg _ _ 0 _ 0 [] rest)

/-- A flag that is short of words binds nothing, nor do the words behind it. -/
theorem bind_of_short (nonneg : ∀ entry ∈ schema, 0 ≤ entry.2) (known : schema.get? flag = some arity)
    (short : (values.length : Int) < arity) : bind schema (flag :: values) = [] := by
  have arityNonneg : 0 ≤ arity := nonneg (flag, arity) (Assoc.mem_of_get? known)
  have taken : values.take arity.toNat = values := List.take_of_length_le (by omega)
  rw [bind, bindFrom, known]
  simp only [valuesAfter_of_nonneg arityNonneg, taken, Int.ne_of_lt short, if_false]
  have skipped := bindFrom_append_taken schema (flag :: values).length (0 + 1) [] values []
  rw [List.append_nil] at skipped
  exact skipped

end Command

/-! ## Complete words -/

namespace Schema

variable {flag : String} {arity : Int} {values : List String}

theorem complete_cons_of_word {word : String} (noFlag : schema.get? word = none) (rest : List String) :
    schema.Complete (word :: rest) ↔ schema.Complete rest := by
  constructor
  · intro complete
    cases complete with
    | word _ others => exact others
    | flag known _ _ => exact absurd (noFlag.symm.trans known) (by simp)
  · exact .word noFlag

/-- Complete words that begin with a flag go on with its values and with complete words. -/
theorem complete_cons_of_flag (known : schema.get? flag = some arity) (rest : List String) :
    schema.Complete (flag :: rest) ↔
      ∃ values others, rest = values ++ others ∧ (values.length : Int) = arity ∧ schema.Complete others := by
  constructor
  · intro complete
    cases complete with
    | word noFlag _ => exact absurd (noFlag.symm.trans known) (by simp)
    | flag known' enough others =>
        obtain rfl := Option.some.inj (known.symm.trans known')
        exact ⟨_, _, rfl, enough, others⟩
  · rintro ⟨values, others, rfl, enough, complete⟩
    exact .flag known enough complete

/-- Behind complete words, words are complete if they are so by themselves. -/
theorem Complete.append_iff {first : List String} (complete : schema.Complete first) (second : List String) :
    schema.Complete (first ++ second) ↔ schema.Complete second := by
  induction complete with
  | nil => rfl
  | word noFlag _ ih => exact (complete_cons_of_word noFlag _).trans ih
  | @flag flag arity values rest known enough _ ih =>
      rw [← ih, List.cons_append, List.append_assoc, complete_cons_of_flag known]
      constructor
      · rintro ⟨values', others, same, enough', complete⟩
        have length : values.length = values'.length := by omega
        exact (List.append_inj same length).2 ▸ complete
      · exact fun complete => ⟨values, _, rfl, enough, complete⟩

/-- A value of a flag does not stand in flag position: the words up to it are not complete. -/
theorem not_complete_of_short {before : List String} (complete : schema.Complete before)
    (known : schema.get? flag = some arity) (short : (values.length : Int) < arity) :
    ¬schema.Complete (before ++ flag :: values) := by
  rw [complete.append_iff, complete_cons_of_flag known]
  rintro ⟨taken, others, rfl, enough, _⟩
  rw [List.length_append] at short
  omega

/-- All words are complete but for a flag that may be short of words at their end. -/
theorem complete_or_short (nonneg : ∀ entry ∈ schema, 0 ≤ entry.2) (words : List String) :
    schema.Complete words ∨
      ∃ before flag arity values, words = before ++ flag :: values ∧ schema.Complete before ∧
        schema.get? flag = some arity ∧ (values.length : Int) < arity := by
  induction length : words.length using Nat.strongRecOn generalizing words with
  | _ length ih =>
      subst length
      rcases words with _ | ⟨word, rest⟩
      · exact .inl .nil
      cases known : schema.get? word with
      | none =>
          rcases ih _ (Nat.lt_succ_self _) rest rfl with complete | ⟨before, short⟩
          · exact .inl (.word known complete)
          · rcases short with ⟨flag, arity, values, rfl, complete, short⟩
            exact .inr ⟨word :: before, flag, arity, values, rfl, .word known complete, short⟩
      | some arity =>
          by_cases short : (rest.length : Int) < arity
          · exact .inr ⟨[], word, arity, rest, rfl, .nil, known, short⟩
          · have arityNonneg : 0 ≤ arity := nonneg (word, arity) (Assoc.mem_of_get? known)
            have enough : ((rest.take arity.toNat).length : Int) = arity := by
              rw [List.length_take]
              omega
            have parts : rest.take arity.toNat ++ rest.drop arity.toNat = rest :=
              List.take_append_drop arity.toNat rest
            have shorter : (rest.drop arity.toNat).length < (word :: rest).length := by
              rw [List.length_drop, List.length_cons]
              omega
            rcases ih _ shorter _ rfl with complete | ⟨before, flag, arity', values, left, complete, short⟩
            · refine .inl ?_
              rw [← parts]
              exact .flag known enough complete
            · refine .inr ⟨word :: (rest.take arity.toNat ++ before), flag, arity', values, ?_,
                .flag known enough complete, short⟩
              rw [List.cons_append, List.append_assoc, ← left, parts]

end Schema

namespace Command

section

variable (nonneg : ∀ entry ∈ schema, 0 ≤ entry.2) {first words : List String} {entry : String × List String}
include nonneg

/-- What stands behind complete words is laid over what they bind. -/
theorem bind_append (complete : schema.Complete first) (second : List String) :
    bind schema (first ++ second) = Assoc.update (bind schema first) (bind schema second) := by
  induction complete with
  | nil =>
      have distinct : (Assoc.keys ([] ++ bind schema second)).Nodup := nodup_keys_bind schema second
      exact (Assoc.update_eq_append distinct).symm
  | word noFlag _ ih => rw [List.cons_append, bind_of_word nonneg noFlag, bind_of_word nonneg noFlag, ih]
  | @flag flag _ values rest known enough _ ih =>
      rw [List.cons_append, List.append_assoc, bind_of_flag nonneg known enough,
        bind_of_flag nonneg known enough, ih, Assoc.update_update _ (nodup_keys_bind schema rest)]

/-- What complete words bind is a flag in flag position, with the values behind it. -/
theorem exists_of_mem_bind_of_complete (complete : schema.Complete words) (mem : entry ∈ bind schema words) :
    ∃ before after, words = before ++ entry.1 :: (entry.2 ++ after) ∧ schema.Complete before := by
  induction complete with
  | nil => cases mem
  | @word word rest noFlag _ ih =>
      rw [bind_of_word nonneg noFlag] at mem
      obtain ⟨before, after, rfl, complete⟩ := ih mem
      exact ⟨word :: before, after, rfl, .word noFlag complete⟩
  | @flag flag arity values rest known enough _ ih =>
      rw [bind_of_flag nonneg known enough] at mem
      rcases Assoc.mem_update mem with isFlag | inRest
      · obtain rfl := List.mem_singleton.mp isFlag
        exact ⟨[], rest, rfl, .nil⟩
      · obtain ⟨before, after, rfl, complete⟩ := ih inRest
        exact ⟨flag :: (values ++ before), after, by simp, .flag known enough complete⟩

/-- A flag with too few words behind it does not disturb what is bound before it. -/
theorem bind_append_short (complete : schema.Complete first) {flag : String} {arity : Int}
    {values : List String} (known : schema.get? flag = some arity)
    (short : (values.length : Int) < arity) :
    bind schema (first ++ flag :: values) = bind schema first := by
  rw [bind_append nonneg complete, bind_of_short nonneg known short]
  rfl

/-- What words bind is a flag in flag position, with the values behind it. -/
theorem exists_of_mem_bind (mem : entry ∈ bind schema words) :
    ∃ before after, words = before ++ entry.1 :: (entry.2 ++ after) ∧ schema.Complete before := by
  rcases schema.complete_or_short nonneg words with complete | ⟨first, flag, arity, values, rfl, rest⟩
  · exact exists_of_mem_bind_of_complete nonneg complete mem
  · obtain ⟨complete, known, short⟩ := rest
    rw [bind_append_short nonneg complete known short] at mem
    obtain ⟨before, after, rfl, completeBefore⟩ := exists_of_mem_bind_of_complete nonneg complete mem
    exact ⟨before, after ++ flag :: values, by simp, completeBefore⟩

end

/-- Each flag that words bind is in the schema, has as many values as its arity says, and stands in flag
position with these values behind it. What stands behind complete words is laid over what they bind. A flag
in flag position is bound to its values; if it is short of words, then it disturbs nothing, and in neither
case is one of its values read as a flag. -/
theorem bind_by_position (nonneg : ∀ entry ∈ schema, 0 ≤ entry.2) :
    (∀ words, ∀ entry ∈ bind schema words, schema.get? entry.1 = some (entry.2.length : Int) ∧
      ∃ before after, words = before ++ entry.1 :: (entry.2 ++ after) ∧ schema.Complete before) ∧
    (∀ first second, schema.Complete first →
      bind schema (first ++ second) = (bind schema first).update (bind schema second)) ∧
    ∀ before flag arity, schema.Complete before → schema.get? flag = some arity →
      ∀ values : List String,
        ((values.length : Int) = arity →
          bind schema (before ++ flag :: values) = (bind schema before).put flag values) ∧
        ((values.length : Int) < arity →
          bind schema (before ++ flag :: values) = bind schema before ∧
            ¬schema.Complete (before ++ flag :: values)) := by
  refine ⟨fun words entry mem => ⟨?_, exists_of_mem_bind nonneg mem⟩,
    fun first second complete => bind_append nonneg complete second,
    fun before flag arity complete known values => ⟨fun enough => ?_, fun short => ?_⟩⟩
  · obtain ⟨arity, known, enough⟩ := schema.admits_bind words entry mem
    rw [known, enough]
  · have alone := bind_of_flag nonneg known enough []
    rw [List.append_nil] at alone
    rw [bind_append nonneg complete, alone]
    rfl
  · exact ⟨bind_append_short nonneg complete known short,
      Schema.not_complete_of_short complete known short⟩

/-- A flag as a value of another flag, one that is bound twice, one without values and one that is short of
words. -/
theorem bind_by_position_of_repeated_flag :
    let schema : Schema := [("p", 2), ("t", 1), ("w", 0)]
    let first := ["x", "t", "p", "w"]
    let second := ["p", "t", "w", "t", "x", "t"]
    (∀ entry ∈ schema, 0 ≤ entry.2) ∧ schema.Complete first ∧
      bind schema (first ++ second) = [("t", ["x"]), ("w", []), ("p", ["t", "w"])] ∧
      (∃ before after, first ++ second = before ++ "p" :: (["t", "w"] ++ after) ∧ schema.Complete before) ∧
      bind schema (first ++ ["p", "t"]) = bind schema first ∧ ¬schema.Complete (first ++ ["p", "t"]) := by
  intro schema first second
  have nonneg : ∀ entry ∈ schema, 0 ≤ entry.2 := by decide
  have last : schema.Complete ("w" :: ([] ++ [])) := .flag rfl rfl .nil
  have taken : schema.Complete ("t" :: (["p"] ++ ["w"])) := .flag rfl rfl last
  have complete : schema.Complete first := .word rfl taken
  obtain ⟨positions, overlays, flags⟩ := bind_by_position nonneg
  have bound : bind schema (first ++ second) = [("t", ["x"]), ("w", []), ("p", ["t", "w"])] :=
    (overlays first second complete).trans (by decide)
  have mem : ("p", ["t", "w"]) ∈ bind schema (first ++ second) := by simp [bound]
  exact ⟨nonneg, complete, bound, (positions _ _ mem).2, (flags first "p" 2 complete rfl ["t"]).2 (by decide)⟩

end Command

end Linework
