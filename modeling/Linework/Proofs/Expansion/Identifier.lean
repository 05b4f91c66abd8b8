import Linework.Proofs.Binding
import Linework.Proofs.Expansion.Repeats
import Linework.Proofs.Text.Word

/-!
# The identifier behind a command's name

A word `name:ident` names a command and puts the flag `id` and the identifier before the other argument
words. Where the schema has no such flag, the identifier is one more word that could be a flag itself. So
it changes nothing if it is no flag of the schema, and only then.
-/

namespace Linework

namespace Command

variable {schema : Schema}

/-! ## Binding -/

variable {ident : String}

theorem bind_identified (nonneg : ∀ entry ∈ schema, 0 ≤ entry.2) (noId : schema.get? idFlag = none)
    (noFlag : schema.get? ident = none) (words : List String) :
    bind schema (idFlag :: ident :: words) = bind schema words := by
  rw [bind_of_word nonneg noId, bind_of_word nonneg noFlag]

/-- An identifier that is a flag takes as many of the words behind it as are repetitions of it, where these
by themselves are one too few. -/
theorem bind_identified_ne {arity : Int} (nonneg : ∀ entry ∈ schema, 0 ≤ entry.2)
    (noId : schema.get? idFlag = none) (isFlag : schema.get? ident = some arity) :
    bind schema (idFlag :: ident :: List.replicate arity.toNat ident) ≠
      bind schema (List.replicate arity.toNat ident) := by
  have arityNonneg : 0 ≤ arity := nonneg (ident, arity) (Assoc.mem_of_get? isFlag)
  have identified : bind schema (idFlag :: ident :: List.replicate arity.toNat ident) =
      [(ident, List.replicate arity.toNat ident)] := by
    have enough : ((List.replicate arity.toNat ident).length : Int) = arity := by
      rw [List.length_replicate, Int.toNat_of_nonneg arityNonneg]
    have alone := bind_of_flag nonneg isFlag enough []
    rw [List.append_nil] at alone
    rw [bind_of_word nonneg noId, alone]
    rfl
  have plain : bind schema (List.replicate arity.toNat ident) = [] := by
    cases enough : arity.toNat with
    | zero => rfl
    | succ count =>
        have short : ((List.replicate count ident).length : Int) < arity := by
          rw [List.length_replicate]
          omega
        rw [List.replicate_succ]
        exact bind_of_short nonneg isFlag short
  rw [identified, plain]
  exact List.cons_ne_nil _ _

/-! ## Reading -/

/-- From its end, a text without colons is passed over as a whole. -/
theorem takeWhile_reverse_colon {chars : List Char} (plain : ':' ∉ chars) (rest : List Char) :
    (chars.reverse ++ rest).takeWhile (· != ':') = chars.reverse ++ rest.takeWhile (· != ':') := by
  apply List.takeWhile_append_of_pos
  intro c mem
  have different : c ≠ ':' := by
    rintro rfl
    exact plain (List.mem_reverse.mp mem)
  simpa using different

theorem splitName_of_notMem {word : String} (plain : ':' ∉ word.toList) :
    splitName word = (word, []) := by
  have whole := takeWhile_reverse_colon plain []
  rw [List.append_nil, List.takeWhile_nil, List.append_nil] at whole
  simp [splitName, whole]

theorem splitName_identified {name : String} (nameNonempty : name ≠ "") (nonempty : ident ≠ "")
    (plain : ':' ∉ ident.toList) :
    splitName (name ++ ":" ++ ident) = (name, [idFlag, ident]) := by
  have chars : (name ++ ":" ++ ident).toList = name.toList ++ ':' :: ident.toList := by simp
  have behind := takeWhile_reverse_colon plain (':' :: name.toList.reverse)
  rw [List.takeWhile_cons_of_neg (by decide), List.append_nil] at behind
  have reversed : (name.toList ++ ':' :: ident.toList).reverse =
      ident.toList.reverse ++ ':' :: name.toList.reverse := by simp
  have count : name.toList.length + (ident.toList.length + 1) - ident.toList.length - 1 =
      name.toList.length := by omega
  have shorter : ident.toList.length < name.toList.length + (ident.toList.length + 1) := by omega
  rw [splitName]
  simp only [chars, reversed, behind, List.reverse_reverse, List.length_append, List.length_cons, count,
    List.take_left, String.ofList_toList]
  simp [nameNonempty, nonempty, shorter]

/-- Behind a name, the argument words are read one after the other. -/
theorem readFrom_append {name : String} (nonempty : name ≠ "") (first second : List String)
    (tokens : List Token) :
    readFrom name (first ++ second) tokens = (name, first ++ (readFrom name second tokens).2) := by
  have named : name.isEmpty = false := by simpa using nonempty
  induction tokens generalizing second with
  | nil => rfl
  | cons token rest ih =>
      rw [readFrom, readFrom]
      cases token.kind with
      | text =>
          simp only [named, Bool.false_eq_true, if_false]
          cases Text.words token.text with
          | nil => exact ih second
          | cons word others =>
              simp only [List.append_assoc]
              exact ih _
      | group | string =>
          simp only [named, Bool.false_eq_true, if_false, List.append_assoc]
          exact ih _
      | boundary | script | groupScript => exact ih second

/-- What is read where a text begins with a word that cuts into a name and an identifier, if any. -/
theorem read?_text {text word name : String} {identified words : List String}
    (textWords : Text.words text = word :: words) (split : splitName word = (name, identified))
    (nonempty : name ≠ "") (others : List Token) :
    read? (⟨.text, text⟩ :: others) =
      some (name, identified ++ (readFrom name words others).2) := by
  have named : name.isEmpty = false := by simpa using nonempty
  have read : readFrom "" [] (⟨.text, text⟩ :: others) =
      readFrom name (identified ++ words) others := by
    rw [readFrom]
    simp [textWords, split]
  rw [read?, read, readFrom_append nonempty]
  simp only [named, Bool.false_eq_true, if_false]

end Command

namespace Expansion.Machine

variable {σ ρ : Type} (host : Host σ ρ) {name ident : String} {schema : Schema}

/-- For a command whose schema has no flag `id` and no negative arity, the identifier behind its name makes
no difference to its arguments, whatever words and tokens follow, exactly when the identifier is no flag of
the schema. -/
theorem recognize_identified_iff (known : host.registry.knows name)
    (schemaEq : host.registry.schema name = .ok schema)
    (noId : schema.get? Command.idFlag = none) (nonneg : ∀ entry ∈ schema, 0 ≤ entry.2)
    (isWord : Text.IsWord name) (noColon : ':' ∉ name.toList) (other : name ≠ ".")
    (identIsWord : Text.IsWord ident) (identNoColon : ':' ∉ ident.toList)
    (previous : Option Command) :
    (∀ text text' words others,
      Text.words text = (name ++ ":" ++ ident) :: words → Text.words text' = name :: words →
        recognize host previous (⟨.text, text⟩ :: others) =
          recognize host previous (⟨.text, text'⟩ :: others)) ↔
      schema.get? ident = none := by
  have schemaOfEq : schemaOf host name = .ok schema := by
    rw [schemaOf, Registry.knows_eq_true_iff.mp known]
    exact schemaEq
  have splitIdentified :=
    Command.splitName_identified isWord.nonempty identIsWord.nonempty identNoColon
  have split := Command.splitName_of_notMem noColon
  constructor
  · intro same
    by_contra isFlag
    obtain ⟨arity, flagArity⟩ := Option.ne_none_iff_exists'.mp isFlag
    let words := List.replicate arity.toNat ident
    have solid : ∀ word ∈ words, Text.IsWord word := fun word mem => by
      rwa [List.eq_of_mem_replicate mem]
    have identified : Text.IsWord (name ++ ":" ++ ident) := by
      refine ⟨by simp, fun c mem => ?_⟩
      simp only [String.toList_append, List.mem_append] at mem
      rcases mem with (inName | inColon) | inIdent
      · exact isWord.solid c inName
      · rw [List.mem_singleton.mp inColon]
        decide +kernel
      · exact identIsWord.solid c inIdent
    have textWords := Text.words_line (List.forall_mem_cons.mpr ⟨identified, solid⟩)
    have textWords' := Text.words_line (List.forall_mem_cons.mpr ⟨isWord, solid⟩)
    have recognized := same _ _ words [] textWords textWords'
    rw [recognize_of_ne host previous (Command.read?_text textWords splitIdentified isWord.nonempty [])
        other schemaOfEq,
      recognize_of_ne host previous (Command.read?_text textWords' split isWord.nonempty []) other
        schemaOfEq] at recognized
    simp only [Except.ok.injEq, Option.some.injEq, Command.mk.injEq, true_and] at recognized
    exact Command.bind_identified_ne nonneg noId flagArity recognized
  · intro noFlag text text' words others textWords textWords'
    rw [recognize_of_ne host previous
        (Command.read?_text textWords splitIdentified isWord.nonempty others) other schemaOfEq,
      recognize_of_ne host previous (Command.read?_text textWords' split isWord.nonempty others) other
        schemaOfEq]
    have bound := Command.bind_identified nonneg noId noFlag (Command.readFrom name words others).2
    rw [List.nil_append, List.cons_append, List.singleton_append, bound]

/-- An identifier that is no flag, before a flag with its value in a group. -/
theorem recognize_identified_of_plain :
    let host : Host Nat Unit :=
      { echo with registry := ⟨fun _ => .ok true, fun _ => .ok [("t", 1)], fun _ _ _ => (.ok none, ())⟩ }
    recognize host none [⟨.text, "label:a t "⟩, ⟨.group, "some words"⟩] =
      recognize host none [⟨.text, "label t "⟩, ⟨.group, "some words"⟩] := by
  intro host
  have known : host.registry.knows "label" := rfl
  have schemaEq : host.registry.schema "label" = .ok [("t", 1)] := rfl
  have isWord : Text.IsWord "label" := Text.isWord_of_all (by decide) (by decide +kernel)
  have identIsWord : Text.IsWord "a" := Text.isWord_of_all (by decide) (by decide +kernel)
  have same := (recognize_identified_iff host known schemaEq rfl (by decide) isWord (by decide) (by decide)
    identIsWord (by decide) none).mpr rfl
  apply same "label:a t " "label t " ["t"]
  · decide +kernel
  · decide +kernel

/-- An identifier that is a flag takes the next word as its value: `label:t hi` has the argument that
`label hi` has not. -/
theorem recognize_identified_ne_of_flag :
    let schema : Schema := [("t", 1)]
    let host : Host Nat Unit :=
      { echo with registry := ⟨fun _ => .ok true, fun _ => .ok schema, fun _ _ _ => (.ok none, ())⟩ }
    schema.get? Command.idFlag = none ∧
      recognize host none [⟨.text, "label:t hi"⟩] = .ok (some ⟨"label", [("t", ["hi"])]⟩) ∧
      recognize host none [⟨.text, "label hi"⟩] = .ok (some ⟨"label", []⟩) := by
  intro schema host
  have schemaEq : schemaOf host "label" = .ok schema := rfl
  have read : Command.read? [⟨.text, "label:t hi"⟩] = some ("label", ["id", "t", "hi"]) := by
    decide +kernel
  have read' : Command.read? [⟨.text, "label hi"⟩] = some ("label", ["hi"]) := by decide +kernel
  refine ⟨rfl, ?_, ?_⟩
  · exact recognize_of_ne host none read (by decide) schemaEq
  · exact recognize_of_ne host none read' (by decide) schemaEq

end Expansion.Machine

end Linework
