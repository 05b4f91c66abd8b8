import Linework.Datum.Print
import Linework.Proofs.Expansion.Identifier
import Linework.Proofs.Token.Phrase

/-!
# Printed commands

A command prints as a phrase: its name, with the identifier behind a colon, then each flag and the flag's
values. A value that is empty or has blanks in it stands in parentheses, so that every value is one argument
word. As each flag is given as many values as its arity says, no value is read as a flag, whatever it looks
like, and the command that is read back binds the same values to the same flags.
-/

namespace Linework

open Linework.Text

namespace Token

variable {name : String} {pieces : List Piece}

/-! ## The words of a phrase -/

theorem readFrom_text (named : name ≠ "") (arguments : List String) (text : String) (rest : List Token) :
    Command.readFrom name arguments (⟨.text, text⟩ :: rest) =
      Command.readFrom name (arguments ++ words text) rest := by
  have notEmpty : name.isEmpty = false := by simpa using named
  rw [Command.readFrom]
  cases words text with
  | nil => rw [List.append_nil]
  | cons first others => simp [notEmpty]

theorem readFrom_group (named : name ≠ "") (arguments : List String) (text : String) (rest : List Token) :
    Command.readFrom name arguments (⟨.group, text⟩ :: rest) =
      Command.readFrom name (arguments ++ [text]) rest := by
  have notEmpty : name.isEmpty = false := by simpa using named
  rw [Command.readFrom]
  simp [notEmpty]

/-- Behind a name, the argument words of a phrase are those of the open text and then its pieces. -/
theorem readFrom_phraseTokens (named : name ≠ "") (sound : ∀ piece ∈ pieces, piece.IsSound)
    (arguments : List String) (pending : List Char) :
    Command.readFrom name arguments (phraseTokens pending pieces) =
      (name, arguments ++ words (String.ofList pending) ++ pieces.map Piece.text) := by
  induction pieces generalizing arguments pending with
  | nil =>
      unfold phraseTokens
      split
      · rename_i nothing
        subst nothing
        rw [Command.readFrom, show words (String.ofList []) = [] from rfl]
        simp
      · rw [readFrom_text named, Command.readFrom]
        simp
  | cons piece rest ih =>
      obtain ⟨first, others⟩ := List.forall_mem_cons.mp sound
      have blank : isBlank ' ' = true := by decide +kernel
      cases piece with
      | word text =>
          rw [phraseTokens, ih others, words_append_word blank pending first.1]
          simp [Piece.text]
      | group text =>
          rw [phraseTokens, readFrom_text named, readFrom_group named, ih others,
            words_append_blank blank pending, show words (String.ofList []) = [] from rfl]
          simp [Piece.text]

/-- A phrase whose first word cuts into a name and an identifier, if any, is read as a command. -/
theorem read?_phraseTokens {pending : List Char} {head : String} {identified others : List String}
    (named : name ≠ "") (sound : ∀ piece ∈ pieces, piece.IsSound)
    (pendingWords : words (String.ofList pending) = head :: others)
    (split : Command.splitName head = (name, identified)) :
    Command.read? (phraseTokens pending pieces) =
      some (name, identified ++ (others ++ pieces.map Piece.text)) := by
  have blank : isBlank ' ' = true := by decide +kernel
  induction pieces generalizing pending others with
  | nil =>
      have nonempty : pending ≠ [] := by
        rintro rfl
        cases pendingWords
      rw [phraseTokens, if_neg nonempty, Command.read?_text pendingWords split named, Command.readFrom]
      simp
  | cons piece rest ih =>
      obtain ⟨first, restSound⟩ := List.forall_mem_cons.mp sound
      cases piece with
      | word text =>
          have longer : words (String.ofList (pending ++ ' ' :: text.toList)) = head :: (others ++ [text]) := by
            rw [words_append_word blank pending first.1, pendingWords]
            rfl
          rw [phraseTokens, ih restSound longer]
          simp [Piece.text]
      | group text =>
          have same := (words_append_blank blank pending).trans pendingWords
          rw [phraseTokens, Command.read?_text same split named, readFrom_group named,
            readFrom_phraseTokens named restSound, show words (String.ofList []) = [] from rfl]
          simp [Piece.text]

end Token

namespace Command

open Token

/-! ## Commands that are printed as phrases -/

/-- A command as a datum, with its values as texts. -/
def datum (command : Command) : Datum :=
  .command command.name (command.arguments.map fun entry => (entry.1, .list (entry.2.map .text)))

theorem valueTexts_texts (values : List String) : Datum.valueTexts (.list (values.map .text)) = values := by
  have texts : (values.map Datum.text).map Datum.spliced = values := by
    rw [List.map_map]
    exact List.map_id'' (fun value => by rw [Function.comp_apply, Datum.spliced]) values
  exact texts

/-- As a datum a command prints as by itself. -/
theorem print_datum (command : Command) (width level : Nat) :
    command.datum.print width level = command.print := by
  have texts : (command.arguments.map fun entry => (entry.1, Datum.list (entry.2.map .text))).map
      (fun entry => (entry.1, Datum.valueTexts entry.2)) = command.arguments := by
    rw [List.map_map]
    exact List.map_id'' (fun entry => congrArg (Prod.mk entry.1) (valueTexts_texts entry.2)) command.arguments
  rw [datum, Datum.print]
  exact congrArg (fun arguments => printCommand command.name
    ((Assoc.get? arguments idFlag).bind List.head?) (Assoc.erase arguments idFlag)) texts

/-- What a value is printed as. -/
def pieceOf (value : String) : Piece :=
  if value.isEmpty || value.toList.any isBlank then .group value else .word value

theorem source_pieceOf (value : String) : (pieceOf value).source = printArgument value := by
  unfold pieceOf printArgument
  split <;> rfl

theorem text_pieceOf (value : String) : (pieceOf value).text = value := by
  unfold pieceOf
  split <;> rfl

theorem isSound_pieceOf {value : String} (free : IsFree value) : (pieceOf value).IsSound := by
  unfold pieceOf
  split
  · exact free
  · rename_i solid
    rw [Bool.or_eq_true, not_or] at solid
    refine ⟨⟨?_, ?_⟩, free⟩
    · simpa using solid.1
    · simpa using solid.2

/-- The phrase of flags and their values. -/
def pieces (flags : Arguments) : List Piece :=
  flags.flatMap fun entry => .word entry.1 :: entry.2.map pieceOf

/-- The words of flags and their values. -/
def spelled (flags : Arguments) : List String :=
  flags.flatMap fun entry => entry.1 :: entry.2

theorem text_pieces (flags : Arguments) : (pieces flags).map Piece.text = spelled flags := by
  induction flags with
  | nil => rfl
  | cons entry rest ih =>
      have values : (entry.2.map pieceOf).map Piece.text = entry.2 := by
        rw [List.map_map]
        exact List.map_id'' text_pieceOf entry.2
      rw [pieces, spelled, List.flatMap_cons, List.flatMap_cons, List.map_append, List.map_cons, values]
      exact congrArg _ ih

theorem intercalate_space (first : List Char) (rest : List (List Char)) :
    [' '].intercalate (first :: rest) = first ++ rest.flatMap (' ' :: ·) := by
  induction rest generalizing first with
  | nil => simp
  | cons next rest ih =>
      rw [List.intercalate_cons_cons, ih, List.flatMap_cons, List.append_assoc]
      rfl

/-- A printed command is a word and a phrase. -/
theorem toList_printCommand (name : String) (ident : Option String) (flags : Arguments) :
    (printCommand name ident flags).toList =
      (ident.elim name (name ++ ":" ++ ·)).toList ++ phraseSource (pieces flags) := by
  have sources : (flags.flatMap fun entry => entry.1 :: entry.2.map printArgument) =
      (pieces flags).map Piece.source := by
    rw [pieces, List.map_flatMap]
    refine List.flatMap_congr fun entry _ => ?_
    rw [List.map_cons, List.map_map]
    exact congrArg _ (List.map_congr_left fun value _ => (source_pieceOf value).symm)
  have printed : printCommand name ident flags =
      " ".intercalate (ident.elim name (name ++ ":" ++ ·) :: (pieces flags).map Piece.source) := by
    rw [← sources]
    cases ident <;> rfl
  rw [printed, String.toList_intercalate, List.map_cons, List.map_map]
  refine (intercalate_space _ _).trans ?_
  rw [List.flatMap_map]
  rfl

/-! ## Binding what was printed -/

/-- Flags with as many values as a schema says are bound as they are spelled. -/
theorem bind_spelled {schema : Schema} (nonneg : ∀ entry ∈ schema, 0 ≤ entry.2) {flags : Arguments}
    (admitted : schema.Admits flags) (distinct : flags.keys.Nodup) : bind schema (spelled flags) = flags := by
  induction flags with
  | nil => rfl
  | cons entry rest ih =>
      obtain ⟨arity, known, enough⟩ := admitted entry List.mem_cons_self
      have others := ih (fun other mem => admitted other (List.mem_cons_of_mem _ mem))
        (List.nodup_cons.mp distinct).2
      have bound := bind_of_flag nonneg known enough (spelled rest)
      rw [others, Assoc.update_eq_append distinct] at bound
      exact bound

/-- A command that can be printed in a form that reads back: its flags are those of a schema with as many
values as it says, its name, flags and identifier are words, and nothing in it is reserved. -/
structure IsPrintable (schema : Schema) (command : Command) : Prop where
  name : IsWord command.name
  nameFree : IsFree command.name
  noColon : ':' ∉ command.name.toList
  noRepetition : command.name ≠ "."
  distinct : command.arguments.keys.Nodup
  admitted : schema.Admits command.arguments
  flags : ∀ entry ∈ command.arguments, IsWord entry.1 ∧ IsFree entry.1
  values : ∀ entry ∈ command.arguments, ∀ value ∈ entry.2, IsFree value
  ident : ∀ values, command.arguments.get? idFlag = some values →
    ∃ ident, values = [ident] ∧ IsWord ident ∧ ':' ∉ ident.toList

theorem isSound_pieces {schema : Schema} {command : Command} (printable : command.IsPrintable schema)
    {flags : Arguments} (subset : flags ⊆ command.arguments) : ∀ piece ∈ pieces flags, piece.IsSound := by
  intro piece mem
  obtain ⟨entry, entryMem, pieceMem⟩ := List.mem_flatMap.mp mem
  rcases List.mem_cons.mp pieceMem with rfl | valueMem
  · exact printable.flags entry (subset entryMem)
  · obtain ⟨value, inValues, rfl⟩ := List.mem_map.mp valueMem
    exact isSound_pieceOf (printable.values entry (subset entryMem) value inValues)

theorem IsPrintable.isWord_identified {schema : Schema} {command : Command} {ident : String}
    (printable : command.IsPrintable schema) (isWord : IsWord ident) : IsWord (command.name ++ ":" ++ ident) := by
  refine ⟨by simp, fun c mem => ?_⟩
  simp only [String.toList_append, List.mem_append] at mem
  rcases mem with (inName | isColon) | inIdent
  · exact printable.name.solid c inName
  · rw [List.mem_singleton.mp isColon]
    decide +kernel
  · exact isWord.solid c inIdent

theorem IsPrintable.isFree_identified {schema : Schema} {command : Command} {ident : String}
    (printable : command.IsPrintable schema) (isFree : IsFree ident) : IsFree (command.name ++ ":" ++ ident) := by
  intro c mem
  simp only [String.toList_append, List.mem_append] at mem
  rcases mem with (inName | isColon) | inIdent
  · exact printable.nameFree c inName
  · rw [List.mem_singleton.mp isColon]
    rfl
  · exact isFree c inIdent

/-- A source that is a word and a phrase of flags is read as the name in the word, and as the identifier in
it and the flags with their values. -/
theorem read?_of_source {head name source : String} {identified : List String} {flags : Arguments}
    (isWord : IsWord head) (isFree : IsFree head) (named : name ≠ "")
    (split : splitName head = (name, identified)) (sound : ∀ piece ∈ pieces flags, piece.IsSound)
    (sourceEq : source.toList = head.toList ++ phraseSource (pieces flags)) :
    read? ((tokenize source).takeWhile (!·.isBoundary)) = some (name, identified ++ spelled flags) := by
  have pending : words (String.ofList head.toList) = [head] := by
    rw [String.ofList_toList, words_of_isWord isWord]
  rw [region_phrase isWord isFree sound sourceEq, read?_phraseTokens named sound pending split, text_pieces]
  rfl

/-- A printed command is read as its name and its arguments as they are spelled, those of the identifier
first. -/
theorem exists_read?_print {schema : Schema} {command : Command} (printable : command.IsPrintable schema) :
    ∃ arguments : Arguments, command.arguments.Perm arguments ∧
      read? ((tokenize command.print).takeWhile (!·.isBoundary)) =
        some (command.name, spelled arguments) := by
  have sound : ∀ piece ∈ pieces (command.arguments.erase idFlag), piece.IsSound :=
    isSound_pieces printable fun _ mem => (List.mem_filter.mp mem).1
  have named := printable.name.nonempty
  cases found : command.arguments.get? idFlag with
  | none =>
      refine ⟨command.arguments.erase idFlag, ?_, ?_⟩
      · rw [Assoc.erase_of_absent (Assoc.absent_of_get? found)]
      · apply read?_of_source printable.name printable.nameFree named (splitName_of_notMem printable.noColon)
          sound
        rw [Command.print, found]
        exact toList_printCommand command.name none _
  | some values =>
      obtain ⟨ident, rfl, isWord, noColon⟩ := printable.ident values found
      have isFree : IsFree ident :=
        printable.values _ (Assoc.mem_of_get? found) ident List.mem_cons_self
      refine ⟨(idFlag, [ident]) :: command.arguments.erase idFlag,
        Assoc.perm_cons_erase printable.distinct found, ?_⟩
      apply read?_of_source (printable.isWord_identified isWord) (printable.isFree_identified isFree) named
        (splitName_identified named isWord.nonempty noColon) sound
      rw [Command.print, found]
      exact toList_printCommand command.name (some ident) _

end Command

namespace Expansion.Machine

variable {σ ρ : Type} (host : Host σ ρ) {command : Command} {schema : Schema}

/-- The command that is read from a printed command has its name, and binds the same values to the same
flags. -/
theorem recognize_print (nonneg : ∀ entry ∈ schema, 0 ≤ entry.2) (printable : command.IsPrintable schema)
    (known : host.registry.knows command.name) (schemaEq : host.registry.schema command.name = .ok schema)
    (previous : Option Command) (width level : Nat) :
    ∃ arguments : Arguments, arguments.Perm command.arguments ∧
      recognize host previous
          ((Token.tokenize (command.datum.print width level)).takeWhile (!·.isBoundary)) =
        .ok (some ⟨command.name, arguments⟩) := by
  have schemaOfEq : schemaOf host command.name = .ok schema := by
    rw [schemaOf, Registry.knows_eq_true_iff.mp known]
    exact schemaEq
  obtain ⟨arguments, same, read⟩ := Command.exists_read?_print printable
  have admitted : schema.Admits arguments := fun entry mem => printable.admitted entry (same.symm.subset mem)
  have distinct : arguments.keys.Nodup := (same.map Prod.fst).nodup_iff.mp printable.distinct
  refine ⟨arguments, same.symm, ?_⟩
  rw [Command.print_datum, recognize_of_ne host previous read printable.noRepetition schemaOfEq,
    Command.bind_spelled nonneg admitted distinct]

/-- An identifier that does not come first, an empty value, one that looks like a flag, and one with a line
break. -/
theorem recognize_print_of_blanks :
    let schema : Schema := [("id", 1), ("p", 2), ("r", 1)]
    let command : Command := ⟨"point", [("p", ["", "r"]), ("id", ["a"]), ("r", ["1 2\n3"])]⟩
    let host : Host Nat Unit :=
      { echo with registry := ⟨fun _ => .ok true, fun _ => .ok schema, fun _ _ _ => (.ok none, ())⟩ }
    command.print = "point:a p () r r (1 2\n3)" ∧ command.IsPrintable schema ∧
      ∃ arguments : Arguments, arguments.Perm command.arguments ∧
        recognize host none ((Token.tokenize (command.datum.print 2 0)).takeWhile (!·.isBoundary)) =
          .ok (some ⟨command.name, arguments⟩) := by
  intro schema command host
  have printable : command.IsPrintable schema :=
    { name := by decide +kernel
      nameFree := by decide +kernel
      noColon := by decide
      noRepetition := by decide
      distinct := by decide
      admitted := by
        intro entry mem
        simp only [command, List.mem_cons, List.not_mem_nil, or_false] at mem
        rcases mem with rfl | rfl | rfl <;> exact ⟨_, rfl, rfl⟩
      flags := by decide +kernel
      values := by decide +kernel
      ident := by
        intro values found
        obtain rfl := Option.some.inj found
        exact ⟨"a", rfl, by decide +kernel, by decide⟩ }
  exact ⟨by decide +kernel, printable, recognize_print host (by decide) printable rfl rfl none 2 0⟩

end Expansion.Machine

end Linework
