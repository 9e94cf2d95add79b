import DumpTransfer.Proofs.Conversion.InsertionLiterals
import DumpTransfer.Proofs.Sql.Scanning

/-! Tokens of insertions of plain values. White space between them is lost, and the strings are
decoded.
-/

namespace DumpTransfer.Conversion.Insertion

open Sql

-----------------------------------------------------------------------------------------
-- Plain values
-----------------------------------------------------------------------------------------

/-- What a mark is read as when a statement is taken apart. -/
def Mark.read : Mark → Text
  | plain char _ => [char]
  | escaped char => [Token.unescaped char]
  | quotes => ['\'']

/-- Whether a text consists of digits. -/
def isDigits (text : Text) : Bool :=
  !text.isEmpty && text.all Char.isDigit

/-- Whether a text is an integer, with or without a sign. -/
def isInteger : Text → Bool
  | '-' :: digits | '+' :: digits => isDigits digits
  | digits => isDigits digits

/-- Whether a value is null, an integer or a string without the name of a character set. -/
def Value.isPlain : Value → Bool
  | null _ | string none _ => true
  | number text _ => isInteger text
  | hexNumber _ _ _ | hexLiteral _ _ _ | bitLiteral _ _ _ | string (some _) _ => false

/-- Rows of plain values are inserted into a table whose name stands between back quotes. -/
structure IsPlain (insertion : Insertion) : Prop where
  verb : ∃ word, insertion.verb = .insert word
  name : ∃ name, insertion.name = .quoted name
  rows : insertion.rows ≠ []
  values : ∀ value ∈ values insertion.rows, value.isPlain = true

-----------------------------------------------------------------------------------------
-- Tokens
-----------------------------------------------------------------------------------------

/-- The tokens of an integer. -/
def integerTokens : Text → List Token
  | '-' :: digits => [.sign "-", .number digits]
  | '+' :: digits => [.sign "+", .number digits]
  | digits => [.number digits]

/-- The tokens of a plain value. -/
def Value.tokens : Value → List Token
  | null word => [.word word.text]
  | number text _ => integerTokens text
  | string _ marks => [.string (marks.flatMap Mark.read)]
  | hexNumber _ _ _ | hexLiteral _ _ _ | bitLiteral _ _ _ => []

/-- The tokens of signs with white space between them. -/
def signTokens (text : Text) : List Token :=
  (text.filter isMark).map fun char => .sign char.toString

def pieceTokens : List Piece → List Token
  | [] => []
  | .signs text :: rest => signTokens text ++ pieceTokens rest
  | .value value :: rest => value.tokens ++ pieceTokens rest

/-- The tokens of an insertion into a table of the given name. -/
def tokens (insertion : Insertion) (name : Text) : List Token :=
  .word insertion.verb.word :: .word insertion.into.text :: .quotedName name
    :: .word insertion.valuesWord.text
    :: (pieceTokens insertion.rowPieces ++ signTokens insertion.ending)

-----------------------------------------------------------------------------------------
-- Scanning
-----------------------------------------------------------------------------------------

variable {rest : Text} {after : List Token}

theorem stops_of_over (isOver : Over rest)
    : Token.Stops rest := by
  intro char head
  have sign := isOver char head
  refine ⟨?_, ?_, ?_⟩
  · simpa using holds_of_isSign (! Token.isWordPart ·) rfl sign
  · rintro rfl
    cases sign
  · rintro rfl
    cases sign

theorem first?_space {char : Char} (space : isSpace char = true)
    : Token.first? char rest = some (none, rest) := by
  simp only [isSpace, spaces, List.contains_cons, List.contains_nil, Bool.or_false,
    Bool.or_eq_true, beq_iff_eq] at space
  rcases space with rfl | rfl | rfl | rfl | rfl | rfl <;> rfl

theorem isPlainSign_of_isMark {char : Char} (mark : isMark char = true)
    : Token.isPlainSign char = true :=
  holds_of_isMark Token.isPlainSign rfl mark

/-- Of signs and white space the signs are tokens. -/
theorem scans_signs {text : Text} (signs : Signs text) (scans : Token.Scans rest after)
    : Token.Scans (text ++ rest) (signTokens text ++ after) := by
  induction text with
  | nil => exact scans
  | cons char more ih =>
      have later := ih fun other member => signs other (by simp [member])
      by_cases mark : isMark char = true
      · have single : signTokens (char :: more) = .sign char.toString :: signTokens more := by
          simp [signTokens, mark]
        rw [single]
        exact later.plainSign (isPlainSign_of_isMark mark)
      · have space : isSpace char = true := by
          simpa [isSign, mark] using signs char (by simp)
        have nothing : signTokens (char :: more) = signTokens more := by
          simp [signTokens, mark]
        rw [nothing]
        exact Token.Scans.gap (first?_space space) (Nat.le_refl _) later

theorem signTokens_space (space : Space)
    : signTokens space.text = [] := by
  have noMark : space.text.filter isMark = [] := by
    refine List.filter_eq_nil_iff.mpr fun char member mark => ?_
    have blank := holds_of_isMark (! isSpace ·) rfl mark
    simp [space.isSpace char member] at blank
  rw [signTokens, noMark]
  rfl

theorem scans_space (space : Space) (scans : Token.Scans rest after)
    : Token.Scans (space.text ++ rest) after := by
  simpa [signTokens_space] using scans_signs space.signs scans

theorem scans_spelling {word : String} [Capitals word] (spelling : Spelling word)
    (isOver : Over rest) (scans : Token.Scans rest after)
    : Token.Scans (spelling.text ++ rest) (.word spelling.text :: after) :=
  scans.letters spelling.isAlpha spelling.ne_nil (stops_of_over isOver)

theorem stringBody?_plain {char : Char} (isPlain : char ≠ '\'' ∧ char ≠ '\\') {text : Text}
    (isThere : text ≠ [])
    : Token.stringBody? '\'' (char :: text)
      = (Token.stringBody? '\'' text).map fun (value, after) => (char :: value, after) := by
  obtain ⟨next, others, rfl⟩ := List.exists_cons_of_ne_nil isThere
  rw [Token.stringBody?]
  all_goals simp [isPlain]

/-- A string is read mark by mark up to the quote that ends it. -/
theorem stringBody?_marks (marks : List Mark) (stop : rest.head? ≠ some '\'')
    : Token.stringBody? '\'' (marks.flatMap Mark.source ++ '\'' :: rest)
      = some (marks.flatMap Mark.read, rest) := by
  induction marks with
  | nil =>
      cases rest with
      | nil => rfl
      | cons char more =>
          have other : char ≠ '\'' := fun same => stop (congrArg some same)
          simp [Token.stringBody?, other]
  | cons mark others ih =>
      cases mark with
      | plain char isPlain =>
          have isThere : others.flatMap Mark.source ++ '\'' :: rest ≠ [] := by
            simp
          have step := stringBody?_plain isPlain isThere
          rw [ih] at step
          simpa [Mark.source, Mark.read] using step
      | escaped char => simp [Mark.source, Mark.read, Token.stringBody?, ih]
      | quotes => simp [Mark.source, Mark.read, Token.stringBody?, ih]

theorem scans_string (marks : List Mark) (stop : rest.head? ≠ some '\'')
    (scans : Token.Scans rest after)
    : Token.Scans ('\'' :: (marks.flatMap Mark.source ++ '\'' :: rest))
        (.string (marks.flatMap Mark.read) :: after) := by
  have read : Token.first? '\'' (marks.flatMap Mark.source ++ '\'' :: rest)
      = some (some (.string (marks.flatMap Mark.read)), rest) := by
    change (Token.stringBody? '\'' _).map _ = _
    rw [stringBody?_marks marks stop]
    rfl
  exact Token.Scans.token read (by simp; omega) scans

theorem scans_digits {digits : Text} (isDigits : isDigits digits = true) (isOver : Over rest)
    (scans : Token.Scans rest after)
    : Token.Scans (digits ++ rest) (.number digits :: after) := by
  simp only [Insertion.isDigits, Bool.and_eq_true, Bool.not_eq_true', List.isEmpty_eq_false_iff,
    List.all_eq_true] at isDigits
  exact scans.digits isDigits.2 isDigits.1 (stops_of_over isOver)

theorem scans_integer {text : Text} (integer : isInteger text = true) (isOver : Over rest)
    (scans : Token.Scans rest after)
    : Token.Scans (text ++ rest) (integerTokens text ++ after) := by
  unfold isInteger at integer
  split at integer
  · rename_i digits
    have number := scans_digits integer isOver scans
    cases digits with
    | nil => cases integer
    | cons first more =>
        have digit : first.isDigit = true := by
          simp only [isDigits, List.all_cons, Bool.and_eq_true] at integer
          exact integer.2.1
        exact number.minus digit
  · rename_i digits
    exact (scans_digits integer isOver scans).plainSign rfl
  · rename_i noMinus noPlus
    have single : integerTokens text = [.number text] := by
      unfold integerTokens
      split
      · exact absurd rfl (noMinus _)
      · exact absurd rfl (noPlus _)
      · rfl
    rw [single]
    exact scans_digits integer isOver scans

/-- A plain value before a sign is its tokens. -/
theorem scans_value {value : Value} (isPlain : value.isPlain = true) (isOver : Over rest)
    (scans : Token.Scans rest after)
    : Token.Scans (value.source ++ rest) (value.tokens ++ after) := by
  cases value with
  | null word => exact scans_spelling word isOver scans
  | number text isNumber => exact scans_integer isPlain isOver scans
  | string introducer marks =>
      cases introducer with
      | none =>
          simpa [Value.source, Value.tokens]
            using scans_string marks (not_quote_of_over isOver) scans
      | some introducer => cases isPlain
  | hexNumber _ _ _ | hexLiteral _ _ _ | bitLiteral _ _ _ => cases isPlain

/-- Well-spaced pieces are the tokens of their signs and values. -/
theorem scans_pieces {pieces : List Piece} {settled : Bool} (spaced : WellSpaced settled pieces)
    (isPlain : ∀ value, .value value ∈ pieces → value.isPlain = true)
    (scans : Token.Scans rest after)
    : Token.Scans (written Value.source pieces ++ rest) (pieceTokens pieces ++ after) := by
  induction pieces generalizing settled with
  | nil => exact scans
  | cons piece others ih =>
      have plainOthers (value : Value) (member : .value value ∈ others) : value.isPlain = true :=
        isPlain value (by simp [member])
      cases piece with
      | signs text =>
          rw [written, pieceTokens, List.append_assoc, List.append_assoc]
          exact scans_signs spaced.1 (ih spaced.2 plainOthers)
      | value value =>
          have ends := ends_written spaced.2.2 spaced.2.1 Value.source rest
          rw [written, pieceTokens, List.append_assoc, List.append_assoc]
          exact scans_value (isPlain value (by simp)) ends.isOver (ih spaced.2.2 plainOthers)

theorem Gap.isOver (gap : Gap) (rest : Text)
    : Over (gap.text ++ rest) := by
  obtain ⟨first, more, same, space⟩ := gap.exists_first
  intro char head
  rw [same] at head
  obtain rfl := Option.some.inj head
  simp [isSign, space]

/-- The values among pieces are those that the pieces hold. -/
theorem mem_pieceValues {pieces : List Piece} {value : Value} (member : .value value ∈ pieces)
    : value ∈ pieceValues pieces :=
  List.mem_filterMap.mpr ⟨_, member, rfl⟩

/-- A plain insertion is the tokens of its words, of its name and of its rows. -/
theorem scans_source {insertion : Insertion} (plain : insertion.IsPlain) {name : Text}
    (named : insertion.name = .quoted name)
    : Token.Scans insertion.source (insertion.tokens name) := by
  obtain ⟨word, verb⟩ := plain.verb
  have ending := scans_signs insertion.signs_ending Token.scans_nil
  rw [List.append_nil, List.append_nil] at ending
  have rows := scans_pieces insertion.wellSpaced_rowPieces
    (fun value member => plain.values value
      (insertion.pieceValues_rowPieces ▸ mem_pieceValues member)) ending
  have words := scans_spelling insertion.valuesWord (insertion.over_rows Value.source) rows
  have afterName := scans_space insertion.afterName.toSpace words
  have nameEnds := insertion.ends_toValues (written Value.source insertion.rowPieces
    ++ insertion.ending)
  rw [toValues, List.append_assoc] at nameEnds
  have nameToken := Token.Scans.name name (nameEnds.not_mem rfl) afterName
  have into := scans_spelling insertion.into (insertion.beforeName.isOver _)
    (scans_space insertion.beforeName.toSpace nameToken)
  have insert := scans_spelling word (insertion.beforeInto.isOver _)
    (scans_space insertion.beforeInto.toSpace into)
  have whole := scans_space insertion.before insert
  rw [source, verb, named, tokens, verb]
  simpa [Verb.source, Verb.word, Name.source] using whole

end DumpTransfer.Conversion.Insertion
