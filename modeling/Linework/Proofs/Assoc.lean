import Linework.Assoc
import Mathlib.Data.List.Forall2

/-!
# Entries of maps

Which entries a map has after a key was put, which values its keys then have, how maps are laid over each
other, and maps that agree on their keys and have related values.
-/

namespace Linework.Assoc

variable {κ ν : Type} [BEq κ] [LawfulBEq κ]

theorem mem_of_get? {map : Assoc κ ν} {key : κ} {value : ν} (found : map.get? key = some value) :
    (key, value) ∈ map := by
  induction map with
  | nil => cases found
  | cons entry rest ih =>
      obtain ⟨first, held⟩ := entry
      unfold get? at found
      split at found
      · rename_i same
        obtain rfl := eq_of_beq same
        cases found
        exact List.mem_cons_self
      · exact List.mem_cons_of_mem _ (ih found)

theorem mem_put {map : Assoc κ ν} {key : κ} {value : ν} {entry : κ × ν}
    (mem : entry ∈ map.put key value) : entry ∈ map ∨ entry = (key, value) := by
  induction map with
  | nil => exact .inr (List.mem_singleton.mp mem)
  | cons first rest ih =>
      unfold put at mem
      split at mem
      · rename_i same
        rcases List.mem_cons.mp mem with rfl | inRest
        · rw [eq_of_beq same]
          exact .inr rfl
        · exact .inl (List.mem_cons_of_mem _ inRest)
      · rcases List.mem_cons.mp mem with rfl | inRest
        · exact .inl List.mem_cons_self
        · exact (ih inRest).imp_left (List.mem_cons_of_mem _)

omit [LawfulBEq κ] in
theorem exists_mem_of_get? {map : Assoc κ ν} {key : κ} {value : ν} (found : map.get? key = some value) :
    ∃ key', (key', value) ∈ map := by
  induction map with
  | nil => cases found
  | cons entry rest ih =>
      obtain ⟨first, held⟩ := entry
      unfold get? at found
      split at found
      · cases found
        exact ⟨first, List.mem_cons_self⟩
      · obtain ⟨key', mem⟩ := ih found
        exact ⟨key', List.mem_cons_of_mem _ mem⟩

omit [LawfulBEq κ] in
theorem put_ne_nil (map : Assoc κ ν) (key : κ) (value : ν) : map.put key value ≠ [] := by
  unfold put
  split
  · exact List.cons_ne_nil _ _
  · split <;> exact List.cons_ne_nil _ _

/-! ## The values of keys -/

theorem get?_put (map : Assoc κ ν) (key : κ) (value : ν) (other : κ) :
    (map.put key value).get? other = if key == other then some value else map.get? other := by
  induction map with
  | nil => rfl
  | cons entry rest ih =>
      obtain ⟨first, held⟩ := entry
      unfold put
      split
      · rename_i same
        obtain rfl := eq_of_beq same
        unfold get?
        split <;> rfl
      · rename_i different
        unfold get?
        rw [ih]
        by_cases here : first == other
        · obtain rfl := eq_of_beq here
          have notKey : (key == first) = false := by
            rw [beq_eq_false_iff_ne]
            rintro rfl
            exact different BEq.rfl
          simp [notKey]
        · simp [here]

theorem get?_eq_none {map : Assoc κ ν} {key : κ} (absent : key ∉ map.keys) : map.get? key = none := by
  rw [Option.eq_none_iff_forall_not_mem]
  exact fun value found => absent (List.mem_map_of_mem (mem_of_get? found))

/-- Where each key of the second map stands in it once, its values hide those of the first. -/
theorem get?_update (map : Assoc κ ν) {other : Assoc κ ν} (distinct : other.keys.Nodup) (key : κ) :
    (map.update other).get? key = (other.get? key).or (map.get? key) := by
  induction other generalizing map with
  | nil => rfl
  | cons entry rest ih =>
      obtain ⟨first, held⟩ := entry
      obtain ⟨absent, restDistinct⟩ := List.nodup_cons.mp distinct
      have unfolded : map.update ((first, held) :: rest) = (map.put first held).update rest := rfl
      rw [unfolded, ih _ restDistinct, get?_put, get?]
      split
      · rename_i same
        obtain rfl := eq_of_beq same
        rw [get?_eq_none absent]
        rfl
      · rfl

/-- What a choice among the keys leaves. -/
theorem get?_filter (map : Assoc κ ν) (keeps : κ → Bool) (key : κ) :
    get? (map.filter fun entry => keeps entry.1) key = if keeps key then map.get? key else none := by
  induction map with
  | nil => simp [get?]
  | cons entry rest ih =>
      obtain ⟨first, held⟩ := entry
      rw [List.filter_cons]
      split
      · rename_i kept
        unfold get?
        rw [ih]
        split
        · rename_i same
          obtain rfl := eq_of_beq same
          rw [if_pos kept]
        · rfl
      · rename_i dropped
        rw [ih]
        split
        · rename_i kept
          have different : (first == key) = false := by
            rw [beq_eq_false_iff_ne]
            rintro rfl
            exact dropped kept
          rw [get?, different]
          rfl
        · rfl

theorem mem_keys_put {map : Assoc κ ν} {key other : κ} {value : ν}
    (mem : other ∈ (map.put key value).keys) : other ∈ map.keys ∨ other = key := by
  obtain ⟨entry, entryMem, rfl⟩ := List.mem_map.mp mem
  rcases mem_put entryMem with old | rfl
  · exact .inl (List.mem_map_of_mem old)
  · exact .inr rfl

theorem nodup_keys_put {map : Assoc κ ν} (distinct : map.keys.Nodup) (key : κ) (value : ν) :
    (map.put key value).keys.Nodup := by
  induction map with
  | nil => exact List.pairwise_singleton _ key
  | cons entry rest ih =>
      obtain ⟨first, held⟩ := entry
      obtain ⟨absent, restDistinct⟩ := List.nodup_cons.mp distinct
      unfold put
      split
      · rename_i same
        obtain rfl := eq_of_beq same
        exact distinct
      · rename_i different
        refine List.nodup_cons.mpr ⟨fun mem => ?_, ih restDistinct⟩
        rcases mem_keys_put mem with old | rfl
        · exact absent old
        · exact different BEq.rfl

omit [LawfulBEq κ] in
/-- To put a key and then change all values is to change them and then put the key with its changed
value. -/
theorem map_put {μ : Type} (change : ν → μ) (map : Assoc κ ν) (key : κ) (value : ν) :
    (map.put key value).map (fun entry => (entry.1, change entry.2)) =
      put (map.map fun entry => (entry.1, change entry.2)) key (change value) := by
  induction map with
  | nil => rfl
  | cons entry rest ih =>
      obtain ⟨first, held⟩ := entry
      unfold put
      rw [List.map_cons]
      split <;> simp_all

/-! ## Overlaying -/

omit [BEq κ] [LawfulBEq κ] in
@[simp]
theorem keys_cons (entry : κ × ν) (map : Assoc κ ν) : keys (entry :: map) = entry.1 :: map.keys :=
  rfl

theorem put_cons_self (key : κ) (held value : ν) (map : Assoc κ ν) :
    put ((key, held) :: map) key value = (key, value) :: map := by
  rw [put, if_pos BEq.rfl]

theorem put_cons_of_ne {first key : κ} (different : first ≠ key) (held value : ν) (map : Assoc κ ν) :
    put ((first, held) :: map) key value = (first, held) :: map.put key value := by
  rw [put, if_neg (by simpa using different)]

theorem put_eq_append {map : Assoc κ ν} {key : κ} (absent : key ∉ map.keys) (value : ν) :
    map.put key value = map ++ [(key, value)] := by
  induction map with
  | nil => rfl
  | cons entry rest ih =>
      obtain ⟨different, absentRest⟩ := List.ne_and_not_mem_of_not_mem_cons absent
      rw [put_cons_of_ne different.symm, ih absentRest, List.cons_append]

/-- Of two values for one key the later counts. -/
theorem put_put (map : Assoc κ ν) (key : κ) (earlier later : ν) :
    (map.put key earlier).put key later = map.put key later := by
  induction map with
  | nil => exact put_cons_self key earlier later []
  | cons entry rest ih =>
      rcases entry with ⟨first, held⟩
      by_cases same : first = key
      · subst same
        rw [put_cons_self, put_cons_self, put_cons_self]
      · rw [put_cons_of_ne same, put_cons_of_ne same, put_cons_of_ne same, ih]

/-- A key that has its place can be put before or after another one. -/
theorem put_comm {map : Assoc κ ν} {key other : κ} (placed : key ∈ map.keys) (different : other ≠ key)
    (value otherValue : ν) :
    (map.put other otherValue).put key value = (map.put key value).put other otherValue := by
  induction map with
  | nil => cases placed
  | cons entry rest ih =>
      rcases entry with ⟨first, held⟩
      by_cases isKey : first = key
      · subst isKey
        rw [put_cons_of_ne different.symm, put_cons_self, put_cons_self, put_cons_of_ne different.symm]
      · have placedRest : key ∈ keys rest := (List.mem_cons.mp placed).resolve_left (Ne.symm isKey)
        by_cases isOther : first = other
        · subst isOther
          rw [put_cons_self, put_cons_of_ne isKey, put_cons_of_ne isKey, put_cons_self]
        · rw [put_cons_of_ne isOther, put_cons_of_ne isKey, put_cons_of_ne isKey,
            put_cons_of_ne isOther, ih placedRest]

theorem mem_keys_put_self (map : Assoc κ ν) (key : κ) (value : ν) : key ∈ (map.put key value).keys := by
  induction map with
  | nil => exact List.mem_singleton_self key
  | cons entry rest ih =>
      rcases entry with ⟨first, held⟩
      by_cases same : first = key
      · subst same
        rw [put_cons_self]
        exact List.mem_cons_self
      · rw [put_cons_of_ne same]
        exact List.mem_cons_of_mem _ ih

theorem mem_keys_put_of_mem {map : Assoc κ ν} {key : κ} (placed : key ∈ map.keys) (other : κ) (value : ν) :
    key ∈ (map.put other value).keys := by
  induction map with
  | nil => cases placed
  | cons entry rest ih =>
      rcases entry with ⟨first, held⟩
      by_cases same : first = other
      · subst same
        rw [put_cons_self]
        exact placed
      · rw [put_cons_of_ne same]
        rcases List.mem_cons.mp placed with here | inRest
        · exact here ▸ List.mem_cons_self
        · exact List.mem_cons_of_mem _ (ih inRest)

omit [LawfulBEq κ] in
theorem update_cons (map : Assoc κ ν) (entry : κ × ν) (other : Assoc κ ν) :
    map.update (entry :: other) = (map.put entry.1 entry.2).update other :=
  rfl

/-- An overlay that does not have a key leaves its value alone. -/
theorem put_update {map other : Assoc κ ν} {key : κ} (placed : key ∈ map.keys) (absent : key ∉ other.keys)
    (value : ν) : (map.update other).put key value = (map.put key value).update other := by
  induction other generalizing map with
  | nil => rfl
  | cons entry rest ih =>
      obtain ⟨different, absentRest⟩ := List.ne_and_not_mem_of_not_mem_cons absent
      rw [update_cons, update_cons, ih (mem_keys_put_of_mem placed _ _) absentRest,
        put_comm placed different.symm]

/-- To overlay and then put a key is to put it into the overlay. -/
theorem update_put (map : Assoc κ ν) {other : Assoc κ ν} (distinct : other.keys.Nodup) (key : κ)
    (value : ν) : map.update (other.put key value) = (map.update other).put key value := by
  induction other generalizing map with
  | nil => rfl
  | cons entry rest ih =>
      rcases entry with ⟨first, held⟩
      obtain ⟨absent, restDistinct⟩ := List.nodup_cons.mp distinct
      by_cases same : first = key
      · subst same
        rw [put_cons_self, update_cons, update_cons, put_update (mem_keys_put_self map first held) absent,
          put_put]
      · rw [put_cons_of_ne same, update_cons, update_cons, ih _ restDistinct]

/-- Overlays can be laid upon each other first. -/
theorem update_update (map : Assoc κ ν) {second : Assoc κ ν} (distinct : second.keys.Nodup)
    (third : Assoc κ ν) : (map.update second).update third = map.update (second.update third) := by
  induction third generalizing second with
  | nil => rfl
  | cons entry rest ih =>
      rw [update_cons, update_cons, ← update_put map distinct, ih (nodup_keys_put distinct _ _)]

/-- An overlay of new keys goes behind the others. -/
theorem update_eq_append {map other : Assoc κ ν} (distinct : (map ++ other).keys.Nodup) :
    map.update other = map ++ other := by
  induction other generalizing map with
  | nil => exact (List.append_nil map).symm
  | cons entry rest ih =>
      have absent : entry.1 ∉ map.keys := by
        rw [keys, List.map_append, List.nodup_append] at distinct
        intro placed
        exact distinct.2.2 _ placed _ List.mem_cons_self rfl
      rw [update_cons, put_eq_append absent, ih (by simpa using distinct), List.append_assoc]
      rfl

theorem mem_update {map other : Assoc κ ν} {entry : κ × ν} (mem : entry ∈ map.update other) :
    entry ∈ map ∨ entry ∈ other := by
  induction other generalizing map with
  | nil => exact .inl mem
  | cons first rest ih =>
      rcases ih mem with inPut | inRest
      · rcases mem_put inPut with old | rfl
        · exact .inl old
        · exact .inr List.mem_cons_self
      · exact .inr (List.mem_cons_of_mem _ inRest)

/-! ## Forgetting -/

theorem erase_of_absent {map : Assoc κ ν} {key : κ} (absent : key ∉ map.keys) : map.erase key = map := by
  rw [erase, List.filter_eq_self]
  intro entry mem
  have different : entry.1 ≠ key := by
    rintro rfl
    exact absent (List.mem_map_of_mem mem)
  simpa using different

theorem absent_of_get? {map : Assoc κ ν} {key : κ} (nothing : map.get? key = none) : key ∉ map.keys := by
  induction map with
  | nil => exact List.not_mem_nil
  | cons entry rest ih =>
      rcases entry with ⟨first, held⟩
      unfold get? at nothing
      split at nothing
      · cases nothing
      · rename_i different
        rw [keys_cons, List.mem_cons, not_or]
        refine ⟨?_, ih nothing⟩
        rintro rfl
        exact different BEq.rfl

/-- A key that is forgotten and put first again has only changed its place. -/
theorem perm_cons_erase {map : Assoc κ ν} (distinct : map.keys.Nodup) {key : κ} {value : ν}
    (found : map.get? key = some value) : map.Perm ((key, value) :: map.erase key) := by
  induction map with
  | nil => cases found
  | cons entry rest ih =>
      rcases entry with ⟨first, held⟩
      obtain ⟨absent, restDistinct⟩ := List.nodup_cons.mp distinct
      unfold get? at found
      split at found
      · rename_i same
        obtain rfl := eq_of_beq same
        obtain rfl := Option.some.inj found
        have erased : erase ((first, held) :: rest) first = rest := by
          have restErased := erase_of_absent absent
          rw [erase] at restErased
          simp [erase, restErased]
        rw [erased]
      · rename_i different
        have erased : erase ((first, held) :: rest) key = (first, held) :: erase rest key := by
          simp [erase, different]
        rw [erased]
        exact ((ih restDistinct found).cons _).trans (.swap _ _ _)

/-! ## Maps with related values -/

variable {related : ν → ν → Prop}

/-- Two maps have the same keys in the same order, and related values. -/
def Alike (related : ν → ν → Prop) (first second : Assoc κ ν) : Prop :=
  List.Forall₂ (fun entry other => entry.1 = other.1 ∧ related entry.2 other.2) first second

omit [BEq κ] [LawfulBEq κ] in
theorem Alike.refl (reflexive : ∀ value, related value value) (map : Assoc κ ν) :
    Alike related map map :=
  List.forall₂_same.mpr fun entry _ => ⟨rfl, reflexive entry.2⟩

omit [BEq κ] [LawfulBEq κ] in
/-- Maps whose values are not only related but equal are one map. -/
theorem Alike.eq {first second : Assoc κ ν} (alike : Alike related first second)
    (equal : ∀ value value', related value value' → value = value') : first = second := by
  induction alike with
  | nil => rfl
  | cons same _ ih => rw [Prod.ext same.1 (equal _ _ same.2), ih]

omit [LawfulBEq κ] in
theorem Alike.get? {first second : Assoc κ ν} (alike : Alike related first second) (key : κ) :
    Option.Rel related (first.get? key) (second.get? key) := by
  induction alike with
  | nil => exact .none
  | @cons entry other rest others same _ ih =>
      obtain ⟨k, v⟩ := entry
      obtain ⟨k', v'⟩ := other
      obtain ⟨rfl, values⟩ := same
      unfold Assoc.get?
      split
      · exact .some values
      · exact ih

omit [LawfulBEq κ] in
theorem Alike.put {first second : Assoc κ ν} (alike : Alike related first second) (key : κ)
    {value value' : ν} (values : related value value') :
    Alike related (first.put key value) (second.put key value') := by
  induction alike with
  | nil => exact .cons ⟨rfl, values⟩ .nil
  | @cons entry other rest others same rests ih =>
      obtain ⟨k, v⟩ := entry
      obtain ⟨k', v'⟩ := other
      obtain ⟨rfl, held⟩ := same
      unfold Assoc.put
      split
      · exact .cons ⟨rfl, values⟩ rests
      · exact .cons ⟨rfl, held⟩ ih

end Linework.Assoc
