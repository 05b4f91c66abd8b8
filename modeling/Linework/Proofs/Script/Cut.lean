import Linework.Proofs.Script.Level
import Linework.Proofs.Script.Token
import Linework.Proofs.Script.Whole

/-!
# An expression is cut alike on its own and in a block

In a block the lines of an expression have other margins, and an end of a line follows it. Its lexemes are the
same nevertheless: margins count only at the start of a line that is not continued, and the only such line
with content is the first one.
-/

namespace Linework.Script

open Linework.Text

variable {chars chars' rest rest' : List Char} {c : Char} {margin : Margin}

/-! ## Steps -/

/-- What is cut from a piece on. -/
def Piece.onward (count : Nat) (piece : Piece) : List Lexeme :=
  match piece.next with
  | some (cut, rest) => piece.lexemes ++ lexemesFrom count cut rest
  | none => piece.lexemes

variable {count : Nat} {cut : Cut} {margins margins' : List Margin} {brackets : List Char}

theorem lexemesFrom_line (nonempty : chars ≠ []) :
    lexemesFrom (count + 1) ⟨margins, [], true⟩ chars =
      (startLine ⟨margins, [], true⟩ chars).onward count := by
  cases chars with
  | nil => contradiction
  | cons c rest => rfl

theorem lexemesFrom_inside :
    lexemesFrom (count + 1) ⟨margins, brackets, false⟩ chars =
      match chars.dropWhile isGap with
      | [] => finish ⟨margins, brackets, false⟩
      | c :: rest => (piece ⟨margins, brackets, false⟩ c rest).onward count := by
  cases chars <;> rfl

/-- Whether a line that begins with a character may hold no content. -/
def beginsIdly (c : Char) : Bool :=
  c == '#' || c == '\n' || c == '\\'

theorem startLine_of_nil (stops : (measureMargin 0 ⟨0, 0⟩ chars).2 = []) :
    startLine cut chars = ⟨[], some (cut, [])⟩ := by
  simp [startLine, stops]

theorem startLine_of_idle (stops : (measureMargin 0 ⟨0, 0⟩ chars).2 = c :: rest) (idle : beginsIdly c) :
    startLine cut chars = piece cut c rest := by
  unfold startLine
  dsimp only
  rw [stops]
  exact if_pos idle

theorem startLine_of_content (stops : (measureMargin 0 ⟨0, 0⟩ chars).2 = c :: rest)
    (content : beginsIdly c = false) :
    startLine cut chars =
      match changeMargin (measureMargin 0 ⟨0, 0⟩ chars).1 cut.margins with
      | (lexemes, .ok margins) =>
        ⟨lexemes, some ({ cut with margins := margins, atStart := false }, c :: rest)⟩
      | (lexemes, .error flaw) => ⟨lexemes ++ [.flawed flaw false], none⟩ := by
  unfold startLine
  dsimp only
  rw [stops]
  exact if_neg (Bool.eq_false_iff.mp content)

theorem eq_newline (blank : isOpenBlank c) (noGap : isGap c = false) : c = '\n' := by
  rw [isOpenBlank, Bool.or_eq_true, beq_iff_eq] at blank
  exact blank.resolve_left (Bool.eq_false_iff.mp noGap)

/-- Blanks at the start of a line hold no lexemes. -/
theorem lexemesFrom_blank (blank : ∀ c ∈ chars, isOpenBlank c) (enough : chars.length < count) :
    lexemesFrom count ⟨margins, [], true⟩ chars = (margins.drop 1).map (fun _ => .dedent) ++ [.stop] := by
  induction count generalizing chars with
  | zero => exact absurd enough (Nat.not_lt_zero _)
  | succ count ih =>
      cases empty : chars with
      | nil => rfl
      | cons first others =>
          rw [lexemesFrom_line (List.cons_ne_nil _ _), ← empty]
          have suffix := measureMargin_suffix 0 ⟨0, 0⟩ chars
          cases stops : (measureMargin 0 ⟨0, 0⟩ chars).2 with
          | nil =>
              rw [startLine_of_nil stops]
              refine ih nofun ?_
              rw [empty] at enough
              simp only [List.length_cons, List.length_nil] at enough ⊢
              omega
          | cons c rest =>
              have noGap := any_head_measureMargin 0 ⟨0, 0⟩ chars
              rw [stops] at suffix noGap
              obtain rfl := eq_newline (blank c (suffix.mem List.mem_cons_self)) noGap
              rw [startLine_of_idle stops (by decide)]
              refine ih (fun d member => blank d (suffix.mem (List.mem_cons_of_mem _ member))) ?_
              have shorter := suffix.length_le
              simp only [List.length_cons] at shorter
              omega

/-! ## Lines without content -/

/-- Lexemes of which the first stands in no expression and ends none. -/
def Unfit (lexemes : List Lexeme) : Prop :=
  ∃ lexeme rest, lexemes = lexeme :: rest ∧ lexeme.isInner = false ∧ lexeme.isNewline = false ∧ lexeme ≠ .stop

theorem not_ended_cons {lexeme : Lexeme} {lexemes : List Lexeme} (notNewline : lexeme.isNewline = false)
    (notStop : lexeme ≠ .stop) : ¬Ended (lexeme :: lexemes) := by
  rw [Ended, List.dropWhile_cons_of_neg (by simp [notNewline])]
  exact notStop

theorem Unfit.not_ended {lexemes : List Lexeme} (unfit : Unfit lexemes) : ¬Ended lexemes := by
  obtain ⟨lexeme, rest, rfl, notInner, notNewline, notStop⟩ := unfit
  exact not_ended_cons notNewline notStop

theorem Unfit.dropWhile {lexemes : List Lexeme} (unfit : Unfit lexemes) :
    lexemes.dropWhile Lexeme.isInner = lexemes := by
  obtain ⟨lexeme, rest, rfl, notInner, notNewline, notStop⟩ := unfit
  exact List.dropWhile_cons_of_neg (by simp [notInner])

/-- What the lexemes of an expression from the start of a line on are, beside those of the same text in a
block. -/
inductive LineStart (count' : Nat) (margins' : List Margin) (chars' : List Char) (lexemes lexemes' : List Lexeme) :
    Prop where
  /-- Nothing follows in either text. -/
  | ended (stops : lexemes = [.stop])
      (stops' : lexemes' = (margins'.drop 1).map (fun _ => .dedent) ++ [.stop])
  | unfit (unfit : Unfit lexemes)
  /-- A line with content follows. -/
  | content {count : Nat} {margin' : Margin} {c : Char} {rest rest' : List Char}
      (lexemes_eq : lexemes = lexemesFrom count ⟨[⟨0, 0⟩], [], false⟩ (c :: rest))
      (noGap : isGap c = false) (noIdle : beginsIdly c = false)
      (near : Near false (c :: rest) (c :: rest'))
      (deeper : isPadded true chars' → isBlank c = false → 0 < margin'.column ∧ 0 < margin'.plain)
      (lexemes_eq' : ∀ margins, changeMargin margin' margins' = ([.indent], .ok margins) →
        ∃ count, count' + rest'.length ≤ count + chars'.length ∧
          lexemes' = .indent :: lexemesFrom count ⟨margins, [], false⟩ (c :: rest'))

/-- A line without content is passed. -/
theorem LineStart.pass {lexemes lexemes' : List Lexeme} {count' : Nat} {rest' : List Char}
    (start : LineStart count' margins' rest' lexemes lexemes') (shorter : rest'.length < chars'.length)
    (padded : isPadded true chars' → isPadded true rest') :
    LineStart (count' + 1) margins' chars' lexemes lexemes' := by
  cases start with
  | ended stops stops' => exact .ended stops stops'
  | unfit unfit => exact .unfit unfit
  | content lexemes_eq noGap noIdle near deeper lexemes_eq' =>
      refine .content lexemes_eq noGap noIdle near (fun isPadded => deeper (padded isPadded)) ?_
      intro margins deepens
      obtain ⟨count, enough, same⟩ := lexemes_eq' margins deepens
      exact ⟨count, by omega, same⟩

/-- What follows a comment is the end of its line. -/
theorem isPadded_of_comment (padded : isPadded false (chars.dropWhile (· != '\n'))) :
    isPadded true (chars.dropWhile (· != '\n')) := by
  have stops := any_head_dropWhile (· != '\n') chars
  cases behind : chars.dropWhile (· != '\n') with
  | nil => rfl
  | cons c rest =>
      rw [behind] at stops padded
      obtain rfl : c = '\n' := by simpa using stops
      have isEnd : isBlank '\n' := isBlank_of_endsLine (by decide)
      simpa [isPadded, isEnd] using padded

theorem blank_of_dropWhile (blank : ∀ c ∈ chars.dropWhile isGap, isOpenBlank c) :
    ∀ c ∈ chars, isOpenBlank c := by
  intro c member
  rw [← List.takeWhile_append_dropWhile (p := isGap) (l := chars), List.mem_append] at member
  rcases member with member | member
  · have gap := List.all_eq_true.mp List.all_takeWhile c member
    simp [isOpenBlank, gap]
  · exact blank c member

theorem piece_backslash (goesOn : ∀ d others, rest ≠ '\n' :: d :: others) :
    piece cut '\\' rest = .flaw .ungrammatical false := by
  cases rest with
  | nil => rfl
  | cons c rest =>
      by_cases isNewline : c = '\n'
      · subst isNewline
        cases rest with
        | nil => rfl
        | cons d others => exact absurd rfl (goesOn d others)
      · simp [piece, isNewline]

/-- On its own an expression begins without a margin. -/
theorem changeMargin_outer (margin : Margin) :
    changeMargin margin [⟨0, 0⟩] = ([], .ok [⟨0, 0⟩]) ∨
      changeMargin margin [⟨0, 0⟩] = ([.indent], .ok [margin, ⟨0, 0⟩]) ∨
        ∃ flaw, changeMargin margin [⟨0, 0⟩] = ([], .error flaw) := by
  simp only [changeMargin]
  split
  case isTrue =>
    split
    · exact .inl rfl
    · exact .inr (.inr ⟨_, rfl⟩)
  case isFalse differs =>
    have deeper : 0 < margin.column := Nat.pos_of_ne_zero fun same => differs (beq_iff_eq.mpr same)
    rw [if_pos deeper, if_neg (by decide)]
    split
    · exact .inr (.inr ⟨_, rfl⟩)
    · exact .inr (.inl rfl)

/-- Behind the end of a text on its own, its block holds blanks. -/
theorem lineStart_of_nil {count' : Nat} (aligned : Aligned chars chars') (enough : chars'.length ≤ count')
    (stops : (measureMargin 0 ⟨0, 0⟩ chars).2 = []) :
    LineStart (count' + 1) margins' chars' ((startLine ⟨[⟨0, 0⟩], [], true⟩ chars).onward count)
      ((startLine ⟨margins', [], true⟩ chars').onward count') := by
  have trails := (aligned.near_of_stops stops rfl).trails_of_nil
  have suffix' := measureMargin_suffix 0 ⟨0, 0⟩ chars'
  have noGap := any_head_measureMargin 0 ⟨0, 0⟩ chars'
  obtain ⟨c, rest', stops', blank⟩ := trails.exists_cons
  rw [stops'] at trails suffix' noGap
  obtain rfl := eq_newline blank noGap
  rw [startLine_of_nil stops, startLine_of_idle stops' (by decide)]
  cases count with
  | zero => exact .unfit ⟨_, [], rfl, rfl, rfl, nofun⟩
  | succ count =>
      refine .ended rfl (lexemesFrom_blank ?_ ?_)
      · exact fun d member => trails.1 d (List.mem_cons_of_mem _ member)
      · exact Nat.lt_of_lt_of_le suffix'.length_le enough

/-- Lines with content: on its own the text must begin without a margin. -/
theorem lineStart_of_content {count' : Nat} (near : Near false (c :: rest) (c :: rest'))
    (stops : (measureMargin 0 ⟨0, 0⟩ chars).2 = c :: rest)
    (stops' : (measureMargin 0 ⟨0, 0⟩ chars').2 = c :: rest') (noIdle : beginsIdly c = false) :
    LineStart (count' + 1) margins' chars' ((startLine ⟨[⟨0, 0⟩], [], true⟩ chars).onward count)
      ((startLine ⟨margins', [], true⟩ chars').onward count') := by
  have noGap := any_head_measureMargin 0 ⟨0, 0⟩ chars
  have shorter := (measureMargin_suffix 0 ⟨0, 0⟩ chars').length_le
  rw [stops] at noGap
  rw [stops', List.length_cons] at shorter
  have deeper : isPadded true chars' → isBlank c = false →
      0 < (measureMargin 0 ⟨0, 0⟩ chars').1.column ∧ 0 < (measureMargin 0 ⟨0, 0⟩ chars').1.plain :=
    fun padded solid => measureMargin_pos padded (.inl rfl) stops' solid
  rw [startLine_of_content stops noIdle]
  rcases changeMargin_outer (measureMargin 0 ⟨0, 0⟩ chars).1 with same | same | ⟨flaw, same⟩
  · rw [same]
    refine .content rfl noGap noIdle near deeper ?_
    intro margins deepens
    rw [startLine_of_content stops' noIdle, deepens]
    exact ⟨count', by omega, rfl⟩
  · rw [same]
    exact .unfit ⟨_, _, rfl, rfl, rfl, nofun⟩
  · rw [same]
    exact .unfit ⟨_, [], rfl, rfl, rfl, nofun⟩

theorem lineStart_of_aligned {count' : Nat} (aligned : Aligned chars chars') (enough : chars'.length < count') :
    LineStart count' margins' chars' (lexemesFrom count ⟨[⟨0, 0⟩], [], true⟩ chars)
      (lexemesFrom count' ⟨margins', [], true⟩ chars') := by
  -- Each line without content takes one step in either text, but the block may be the longer text or the shorter.
  induction count generalizing chars chars' count' with
  | zero => exact .unfit ⟨_, [], rfl, rfl, rfl, nofun⟩
  | succ count ih =>
      by_cases empty : chars = []
      · subst empty
        exact .ended rfl (lexemesFrom_blank (blank_of_dropWhile aligned.trails_of_nil.1) enough)
      have nonempty' : chars' ≠ [] := by
        rintro rfl
        exact aligned.ne_nil rfl
      obtain ⟨count', rfl⟩ := Nat.exists_eq_succ_of_ne_zero (Nat.ne_zero_of_lt enough)
      rw [lexemesFrom_line empty, lexemesFrom_line nonempty']
      cases stops : (measureMargin 0 ⟨0, 0⟩ chars).2 with
      | nil => exact lineStart_of_nil aligned (Nat.le_of_lt_succ enough) stops
      | cons c rest =>
          by_cases isMark : c = '\\'
          · subst isMark
            have goesOn : ∀ d others, rest ≠ '\n' :: d :: others := by
              rintro d others rfl
              exact measureMargin_ne_continued 0 ⟨0, 0⟩ chars stops
            rw [startLine_of_idle stops (by decide), piece_backslash goesOn]
            exact .unfit ⟨_, [], rfl, rfl, rfl, nofun⟩
          have near := aligned.near_of_stops stops (by simpa using isMark)
          have suffix' := measureMargin_suffix 0 ⟨0, 0⟩ chars'
          obtain ⟨rest', stops', behind⟩ := near.cons
          rw [stops'] at near suffix'
          have shorter : rest'.length < chars'.length := suffix'.length_le
          have padded : isPadded true chars' → isPadded (endsLine c) rest' := fun padded =>
            isPadded_tail (isPadded_of_suffix suffix' padded)
          by_cases isComment : c = '#'
          · subst isComment
            have passed := List.dropWhile_suffix (· != '\n') (l := rest')
            have least := passed.length_le
            have onward : Near false (rest.dropWhile (· != '\n')) (rest'.dropWhile (· != '\n')) :=
              behind.dropWhile (by decide) (by decide) (by decide)
            rw [startLine_of_idle stops (by decide), startLine_of_idle stops' (by decide)]
            refine (ih onward.aligned (by omega)).pass (by omega) fun isPadded => ?_
            exact isPadded_of_comment (isPadded_of_suffix passed (padded isPadded))
          by_cases isNewline : c = '\n'
          · subst isNewline
            rw [startLine_of_idle stops (by decide), startLine_of_idle stops' (by decide)]
            exact (ih behind.aligned (by omega)).pass shorter padded
          exact lineStart_of_content near stops stops' (by simp [beginsIdly, isMark, isComment, isNewline])

theorem dropWhile_isOpenBlank (chars : List Char) :
    (chars.dropWhile isGap).dropWhile isOpenBlank = chars.dropWhile isOpenBlank := by
  induction chars with
  | nil => rfl
  | cons c rest ih =>
      cases gap : isGap c with
      | false => rw [List.dropWhile_cons_of_neg (by simp [gap])]
      | true =>
          rw [List.dropWhile_cons_of_pos gap, ih, List.dropWhile_cons_of_pos (by simp [isOpenBlank, gap])]

/-- A block may begin with lines without content. -/
theorem lineStart_of_near {count' : Nat} (near : Near false chars (chars'.dropWhile isOpenBlank))
    (noGap : chars.head?.any isGap = false) (enough : chars'.length < count') :
    LineStart count' margins' chars' (lexemesFrom count ⟨[⟨0, 0⟩], [], true⟩ chars)
      (lexemesFrom count' ⟨margins', [], true⟩ chars') := by
  induction count' generalizing chars' with
  | zero => exact absurd enough (Nat.not_lt_zero _)
  | succ count' ih =>
      rw [← dropWhile_isOpenBlank] at near
      by_cases isLine : (chars'.dropWhile isGap).head?.any (· == '\n')
      · have some' : chars'.dropWhile isGap ≠ [] := by
          intro empty
          rw [empty] at isLine
          contradiction
        obtain ⟨c, rest', stands⟩ := List.exists_cons_of_ne_nil some'
        have suffix := List.dropWhile_suffix isGap (l := chars')
        rw [stands] at isLine suffix near
        obtain rfl : c = '\n' := beq_iff_eq.mp isLine
        have near : Near false chars (rest'.dropWhile isOpenBlank) := near
        have stops : (measureMargin 0 ⟨0, 0⟩ chars').2 = '\n' :: rest' := by
          rw [← measureMargin_dropWhile, stands]
          rfl
        have shorter : rest'.length < chars'.length := suffix.length_le
        have nonempty : chars' ≠ [] := by
          rintro rfl
          contradiction
        rw [lexemesFrom_line nonempty, startLine_of_idle stops (by decide)]
        refine (ih near (Nat.lt_of_lt_of_le shorter (Nat.le_of_lt_succ enough))).pass shorter ?_
        intro padded
        exact isPadded_tail (isPadded_of_suffix suffix padded)
      · refine lineStart_of_aligned ?_ enough
        have stops : (chars'.dropWhile isGap).head?.any isOpenBlank = false := by
          have noGap' := any_head_dropWhile isGap chars'
          cases stands : chars'.dropWhile isGap with
          | nil => rfl
          | cons c rest =>
              rw [stands] at noGap' isLine
              exact Bool.or_eq_false_iff.mpr ⟨noGap', Bool.eq_false_iff.mpr isLine⟩
        rw [dropWhile_of_head stops] at near
        rw [Aligned, dropWhile_of_head noGap]
        exact near

/-! ## Lines with content -/

theorem piece_of_content (noIdle : beginsIdly c = false) :
    piece cut c rest =
      match bracketsBehind? cut.brackets c, token? c rest with
      | some brackets, some (lexeme, rest) =>
        ⟨[lexeme], some ({ cut with brackets := brackets, atStart := false }, rest)⟩
      | _, _ => .flaw .ungrammatical true := by
  simp only [beginsIdly, Bool.or_eq_false_iff] at noIdle
  obtain ⟨⟨noComment, noNewline⟩, noMark⟩ := noIdle
  unfold piece
  rw [if_neg (Bool.eq_false_iff.mp noComment), if_neg (Bool.eq_false_iff.mp noNewline)]
  exact if_neg (Bool.eq_false_iff.mp noMark)

/-- A step inside of a line: it ends the reading of an expression, or it gives the same in a block. -/
inductive PieceStep (brackets : List Char) (c : Char) (chars chars' : List Char) : Prop where
  | unfit (unfit : ∀ margins count, Unfit ((piece ⟨margins, brackets, false⟩ c chars).onward count))
  | fit {found : List Lexeme} {brackets' : List Char} {rest : List Char} (inner : Inner found)
      (goesOn : ∀ margins, piece ⟨margins, brackets, false⟩ c chars =
        ⟨found, some (⟨margins, brackets', false⟩, rest)⟩)
      (alike : (∀ lexeme ∈ found, lexeme.spansLines = false) → ∃ rest', Aligned rest rest' ∧
        rest'.length ≤ chars'.length ∧ ∀ margins, piece ⟨margins, brackets, false⟩ c chars' =
          ⟨found, some (⟨margins, brackets', false⟩, rest')⟩)

theorem pieceStep_of_content (near : Near false (c :: chars) (c :: chars')) (noIdle : beginsIdly c = false) :
    PieceStep brackets c chars chars' := by
  cases behind : bracketsBehind? brackets c with
  | none =>
      refine .unfit fun margins count => ?_
      rw [piece_of_content noIdle, behind]
      exact ⟨_, [], rfl, rfl, rfl, nofun⟩
  | some brackets' =>
      cases cut : token? c chars with
      | none =>
          refine .unfit fun margins count => ?_
          rw [piece_of_content noIdle, behind, cut]
          exact ⟨_, [], rfl, rfl, rfl, nofun⟩
      | some found =>
          obtain ⟨lexeme, rest⟩ := found
          rcases isInner_of_token? cut with isInner | rfl
          · refine @PieceStep.fit _ _ _ _ [lexeme] brackets' rest ?_ ?_ ?_
            · exact List.forall_mem_singleton.mpr isInner
            · intro margins
              rw [piece_of_content noIdle, behind, cut]
            · intro short
              obtain ⟨rest', cut', nearRest, shorter⟩ :=
                token?_of_near near cut isInner (short lexeme List.mem_cons_self)
              refine ⟨rest', nearRest.aligned, shorter, fun margins => ?_⟩
              rw [piece_of_content noIdle, behind, cut']
          · refine .unfit fun margins count => ?_
            rw [piece_of_content noIdle, behind, cut]
            exact ⟨_, _, rfl, rfl, rfl, nofun⟩

theorem pieceStep_of_near (near : Near false (c :: chars) (c :: chars')) (noNewline : c ≠ '\n') :
    PieceStep brackets c chars chars' := by
  obtain ⟨_, same, behind⟩ := near.cons
  obtain rfl := (List.cons.inj same).2
  by_cases isComment : c = '#'
  · subst isComment
    refine @PieceStep.fit _ _ _ _ [] brackets (chars.dropWhile (· != '\n')) Inner.nil (fun _ => rfl) fun _ => ?_
    refine ⟨chars'.dropWhile (· != '\n'), ?_, (List.dropWhile_suffix _).length_le, fun _ => rfl⟩
    exact (behind.dropWhile (by decide) (by decide) (by decide)).aligned
  by_cases isMark : c = '\\'
  · subst isMark
    by_cases goesOn : ∃ d others, chars = '\n' :: d :: others
    · obtain ⟨d, others, rfl⟩ := goesOn
      obtain ⟨others', rfl, onward⟩ := behind.cons
      obtain ⟨d', others', rfl⟩ := List.exists_cons_of_ne_nil onward.ne_nil
      refine @PieceStep.fit _ _ _ _ [] brackets (d :: others) Inner.nil (fun _ => rfl) fun _ => ?_
      exact ⟨d' :: others', onward.aligned, Nat.le_succ _, fun _ => rfl⟩
    · refine .unfit fun margins count => ?_
      rw [piece_backslash fun d others same => goesOn ⟨d, others, same⟩]
      exact ⟨_, [], rfl, rfl, rfl, nofun⟩
  exact pieceStep_of_content near (by simp [beginsIdly, isComment, noNewline, isMark])

/-! ## Whole texts -/

/-- What is cut from content on: a lexeme first, or a flaw. -/
theorem lexemesFrom_content (noGap : isGap c = false) (noIdle : beginsIdly c = false) :
    (∃ flaw certain, lexemesFrom count ⟨margins, brackets, false⟩ (c :: rest) = [.flawed flaw certain]) ∨
      ∃ lexeme between lexemes, token? c rest = some (lexeme, between) ∧
        lexemesFrom count ⟨margins, brackets, false⟩ (c :: rest) = lexeme :: lexemes := by
  cases count with
  | zero => exact .inl ⟨_, _, rfl⟩
  | succ count =>
      rw [lexemesFrom_inside, List.dropWhile_cons_of_neg (by simp [noGap])]
      dsimp only
      rw [piece_of_content noIdle]
      cases bracketsBehind? brackets c with
      | none => exact .inl ⟨_, _, rfl⟩
      | some brackets' =>
          cases token? c rest with
          | none => exact .inl ⟨_, _, rfl⟩
          | some found => exact .inr ⟨found.1, found.2, _, rfl, rfl⟩

/-- Content ends no expression. -/
theorem not_ended_of_content (noGap : isGap c = false) (noIdle : beginsIdly c = false) :
    ¬Ended (lexemesFrom count ⟨margins, brackets, false⟩ (c :: rest)) := by
  rcases lexemesFrom_content noGap noIdle with ⟨flaw, certain, same⟩ | ⟨lexeme, between, lexemes, cut, same⟩
  · rw [same]
    exact not_ended_cons rfl nofun
  · rw [same]
    rcases isInner_of_token? cut with isInner | rfl
    · cases lexeme <;> first | contradiction | exact not_ended_cons rfl nofun
    · exact not_ended_cons rfl nofun

/-- Behind the line of an expression its block is closed. -/
theorem closing_of_aligned {count' : Nat} (aligned : Aligned chars chars') (enough : chars'.length < count')
    (ended : Ended (lexemesFrom count ⟨[⟨0, 0⟩], [], true⟩ chars)) :
    lexemesFrom count' ⟨[margin, ⟨0, 0⟩], [], true⟩ chars' = [.dedent, .stop] := by
  cases @lineStart_of_aligned _ _ count [margin, ⟨0, 0⟩] _ aligned enough with
  | ended stops stops' => exact stops'
  | unfit unfit => exact absurd ended unfit.not_ended
  | content lexemes_eq noGap noIdle near deeper lexemes_eq' =>
      rw [lexemes_eq] at ended
      exact absurd ended (not_ended_of_content noGap noIdle)

/-- Where the expression ends, nothing but the end of its line and of its block is left. -/
theorem line_of_trails {count' : Nat} (trails : Trails (chars'.dropWhile isGap))
    (enough : chars'.length + 1 < count') :
    lexemesFrom count' ⟨[margin, ⟨0, 0⟩], [], false⟩ chars' = [.newline, .dedent, .stop] := by
  obtain ⟨count', rfl⟩ := Nat.exists_eq_succ_of_ne_zero (Nat.ne_zero_of_lt enough)
  have shorter := (List.dropWhile_suffix isGap (l := chars')).length_le
  have noGap := any_head_dropWhile isGap chars'
  obtain ⟨c, rest', stands', blank⟩ := trails.exists_cons
  rw [lexemesFrom_inside]
  rw [stands'] at trails shorter noGap ⊢
  obtain rfl := eq_newline blank noGap
  have blanks : ∀ d ∈ rest', isOpenBlank d := fun d member =>
    trails.1 d (List.mem_cons_of_mem _ member)
  refine congrArg (.newline :: ·) (lexemesFrom_blank blanks ?_)
  rw [List.length_cons] at shorter
  omega

/-- From the middle of a line on, an expression is cut alike in its block. -/
theorem line_of_aligned {count' : Nat} (aligned : Aligned chars chars') (enough : chars'.length + 1 < count')
    (ended : Ended ((lexemesFrom count ⟨[⟨0, 0⟩], brackets, false⟩ chars).dropWhile Lexeme.isInner))
    (short : ∀ lexeme ∈ lexemesFrom count ⟨[⟨0, 0⟩], brackets, false⟩ chars, lexeme.spansLines = false) :
    lexemesFrom count' ⟨[margin, ⟨0, 0⟩], brackets, false⟩ chars' =
      (lexemesFrom count ⟨[⟨0, 0⟩], brackets, false⟩ chars).takeWhile Lexeme.isInner ++
        [.newline, .dedent, .stop] := by
  induction count generalizing chars chars' count' brackets with
  | zero => exact absurd ended (not_ended_cons rfl nofun)
  | succ count ih =>
      rw [lexemesFrom_inside] at ended short
      conv_rhs => rw [lexemesFrom_inside]
      have near : Near false (chars.dropWhile isGap) (chars'.dropWhile isGap) := aligned
      cases stands : chars.dropWhile isGap with
      | nil =>
          rw [stands] at ended near
          cases brackets with
          | cons bracket brackets => exact absurd ended (not_ended_cons rfl nofun)
          | nil => exact line_of_trails near.trails_of_nil enough
      | cons c rest =>
          rw [stands] at ended short near
          obtain ⟨count', rfl⟩ := Nat.exists_eq_succ_of_ne_zero (Nat.ne_zero_of_lt enough)
          have shorter := (List.dropWhile_suffix isGap (l := chars')).length_le
          obtain ⟨rest', stands', behind⟩ := near.cons
          rw [lexemesFrom_inside]
          rw [stands'] at near shorter ⊢
          rw [List.length_cons] at shorter
          dsimp only at ended short ⊢
          by_cases isNewline : c = '\n'
          · subst isNewline
            cases brackets with
            | cons bracket brackets =>
                have enough : rest'.length + 1 < count' := by omega
                exact ih behind.aligned enough ended short
            | nil =>
                have enough : rest'.length < count' := by omega
                exact congrArg (.newline :: ·) (closing_of_aligned behind.aligned enough ended)
          · cases pieceStep_of_near near isNewline with
            | unfit unfit =>
                have unfit := unfit [⟨0, 0⟩] count
                rw [unfit.dropWhile] at ended
                exact absurd ended unfit.not_ended
            | @fit found brackets' others inner goesOn alike =>
                rw [goesOn] at ended short ⊢
                have short := List.forall_mem_append.mp short
                obtain ⟨others', aligned, least, goesOn'⟩ := alike short.1
                have enough : others'.length + 1 < count' := by omega
                rw [goesOn']
                have ended : Ended ((found ++ lexemesFrom count _ others).dropWhile Lexeme.isInner) := ended
                rw [List.dropWhile_append_of_pos inner] at ended
                change found ++ lexemesFrom count' _ others' = _
                rw [ih aligned enough ended short.2]
                change _ = (found ++ lexemesFrom count _ others).takeWhile Lexeme.isInner ++ _
                rw [List.takeWhile_append_of_pos inner, List.append_assoc]

theorem changeMargin_deeper (deeper : 0 < margin.column ∧ 0 < margin.plain) :
    changeMargin margin [⟨0, 0⟩] = ([.indent], .ok [margin, ⟨0, 0⟩]) := by
  have notSame : ¬margin.column == 0 := fun same => absurd (beq_iff_eq.mp same) (Nat.ne_of_gt deeper.1)
  simp only [changeMargin]
  rw [if_neg notSame, if_pos deeper.1, if_neg (by decide), if_neg (Nat.not_le_of_gt deeper.2)]

theorem not_isBlank_of_content (noGap : isGap c = false) (noIdle : beginsIdly c = false)
    (begins : (lexemesFrom count ⟨margins, brackets, false⟩ (c :: rest)).head?.any Lexeme.isInner) :
    isBlank c = false := by
  rcases lexemesFrom_content noGap noIdle with ⟨flaw, certain, same⟩ | ⟨lexeme, between, lexemes, cut, same⟩
  · rw [same] at begins
    contradiction
  · rw [same] at begins
    exact not_isBlank_of_token? cut begins

/-- The lexemes of an expression in a block: those of the expression on its own, as the one line of the block. -/
theorem lexemes_of_near (near : Near false chars (chars'.dropWhile isOpenBlank))
    (first : chars.head?.any isGap = false) (padded : isPadded true chars')
    (begins : (lexemes chars).head?.any Lexeme.isInner)
    (ended : Ended ((lexemes chars).dropWhile Lexeme.isInner))
    (short : ∀ lexeme ∈ lexemes chars, lexeme.spansLines = false) :
    lexemes chars' = .indent :: ((lexemes chars).takeWhile Lexeme.isInner ++ [.newline, .dedent, .stop]) := by
  have enough : chars'.length < 2 * chars'.length + 2 := by omega
  unfold lexemes at *
  cases @lineStart_of_near _ _ (2 * chars.length + 2) [⟨0, 0⟩] _ near first enough with
  | ended stops stops' =>
      rw [stops] at begins
      contradiction
  | unfit unfit =>
      rw [unfit.dropWhile] at ended
      exact absurd ended unfit.not_ended
  | content lexemes_eq noGap noIdle near' deeper lexemes_eq' =>
      rw [lexemes_eq] at begins ended short ⊢
      have solid := not_isBlank_of_content noGap noIdle begins
      obtain ⟨count', least, same⟩ := lexemes_eq' _ (changeMargin_deeper (deeper padded solid))
      rw [same]
      have nonempty : chars'.length ≠ 0 := by
        rw [Ne, List.length_eq_zero_iff]
        rintro rfl
        exact near.ne_nil rfl
      refine congrArg (.indent :: ·) (line_of_aligned near'.aligned ?_ ended short)
      rw [List.length_cons]
      omega

end Linework.Script
