import DumpTransfer.Proofs.Conversion.InsertionTokens
import DumpTransfer.Proofs.Sql.Rows

/-! Insertions of plain values as they are read: one statement, with the rows of the insertion and
each value in canonical form.
-/

namespace DumpTransfer.Conversion.Insertion

open Sql Parser

-----------------------------------------------------------------------------------------
-- Tokens of rows
-----------------------------------------------------------------------------------------

theorem pieceTokens_append (first second : List Piece)
    : pieceTokens (first ++ second) = pieceTokens first ++ pieceTokens second := by
  induction first with
  | nil => rfl
  | cons piece rest ih => cases piece <;> simp [pieceTokens, ih]

/-- Pieces with commas between them have their tokens with commas between them. -/
theorem pieceTokens_separated (items : List (List Piece))
    : pieceTokens (separated items) = commaJoined (items.map pieceTokens) := by
  induction items with
  | nil => rfl
  | cons first others ih =>
      cases others with
      | nil => rfl
      | cons second more =>
          have comma : signTokens [','] = [.sign ","] := rfl
          rw [separated, pieceTokens_append, pieceTokens, comma, ih]
          rfl

theorem pieceTokens_entry (entry : Entry)
    : pieceTokens entry.pieces = entry.value.tokens := by
  simp [Entry.pieces, pieceTokens, signTokens_space]

theorem pieceTokens_row (row : Row)
    : pieceTokens row.pieces
      = Grammar.rowTokens (row.entries.map fun entry => entry.value.tokens) := by
  have opening : signTokens ['('] = [.sign "("] := rfl
  have closing : signTokens [')'] = [.sign ")"] := rfl
  have entries : (row.entries.map Entry.pieces).map pieceTokens
      = row.entries.map fun entry => entry.value.tokens := by
    rw [List.map_map]
    exact List.map_congr_left fun entry _ => pieceTokens_entry entry
  simp [Row.pieces, pieceTokens, pieceTokens_append, pieceTokens_separated, signTokens_space,
    opening, closing, entries, Grammar.rowTokens]

theorem pieceTokens_rowPieces (insertion : Insertion)
    : pieceTokens insertion.rowPieces
      = commaJoined (insertion.rows.map fun row =>
          Grammar.rowTokens (row.entries.map fun entry => entry.value.tokens)) := by
  rw [rowPieces, pieceTokens_separated, List.map_map]
  exact congrArg commaJoined (List.map_congr_left fun row _ => pieceTokens_row row)

-----------------------------------------------------------------------------------------
-- Values
-----------------------------------------------------------------------------------------

/-- An integer in canonical form. -/
def integerPhrase : Text → Phrase
  | '-' :: digits => "-" ++ .plain digits
  | '+' :: digits => "+" ++ .plain digits
  | digits => .plain digits

/-- A plain value in canonical form. -/
def Value.phrase : Value → Phrase
  | null _ => "NULL"
  | number text _ => integerPhrase text
  | string _ marks => .quoted '\'' (marks.flatMap Mark.read)
  | hexNumber _ _ _ | hexLiteral _ _ _ | bitLiteral _ _ _ => []

/-- A word in either case is the keyword that it spells. -/
theorem Spelling.keyword_eq {word : String} [Capitals word] (spelling : Spelling word)
    : Token.keyword (.word spelling.text) = word := by
  have capitals : spelling.text.flatMap Alphabet.capitals = Text.asciiUpper spelling.text := by
    rw [Text.asciiUpper, List.map_eq_flatMap]
    exact List.flatMap_congr fun char member =>
      Alphabet.capitals_of_isAlpha (spelling.isAlpha char member)
  rw [Token.keyword, capitals, spelling.spells, Text.toString, Text.ofString_eq,
    String.ofList_toList]

/-- The tokens of an integer are one number, or a sign and a number. -/
theorem integerTokens_cases (text : Text)
    : (integerTokens text = [.number text] ∧ integerPhrase text = .plain text)
      ∨ ∃ sign digits, (sign = "-" ∨ sign = "+")
        ∧ integerTokens text = [.sign sign, .number digits]
        ∧ integerPhrase text = .plain (Text.ofString sign) ++ .plain digits := by
  unfold integerTokens
  split
  · rename_i digits
    exact Or.inr ⟨"-", digits, Or.inl rfl, rfl, rfl⟩
  · rename_i digits
    exact Or.inr ⟨"+", digits, Or.inr rfl, rfl, rfl⟩
  · rename_i noMinus noPlus
    exact Or.inl ⟨rfl, by rw [integerPhrase] <;> assumption⟩

/-- A plain value is read wherever it is closed. -/
theorem readsValue (depth : Nat) {value : Value} (isPlain : value.isPlain = true)
    : Grammar.ReadsValue (Grammar.ofDepth (depth + 2)) value.tokens value.phrase := by
  have other {token : Token} (noSign : ∀ spelling, token ≠ .sign spelling) : token ≠ .sign ")" :=
    noSign ")"
  cases value with
  | null word =>
      exact ⟨⟨_, _, rfl, other (by simp)⟩, fun after closes =>
        Grammar.Expression.read_null word.keyword_eq closes 0⟩
  | number text isNumber =>
      rcases integerTokens_cases text with ⟨tokens, phrase⟩ | ⟨sign, digits, either, tokens, phrase⟩
      · rw [Value.tokens, Value.phrase, tokens, phrase]
        exact ⟨⟨_, _, rfl, other (by simp)⟩, fun after closes =>
          Grammar.Expression.read_number text closes 0⟩
      · rw [Value.tokens, Value.phrase, tokens, phrase]
        refine ⟨⟨_, _, rfl, by rcases either with rfl | rfl <;> decide⟩, fun after closes => ?_⟩
        exact Grammar.Expression.read_signed either closes
          (Grammar.Expression.read_number digits closes 40) 0
  | string introducer marks =>
      exact ⟨⟨_, _, rfl, other (by simp)⟩, fun after closes =>
        Grammar.Expression.read_string _ closes 0⟩
  | hexNumber _ _ _ | hexLiteral _ _ _ | bitLiteral _ _ _ => cases isPlain

-----------------------------------------------------------------------------------------
-- Statements
-----------------------------------------------------------------------------------------

/-- A tuple in canonical form. -/
def Row.phrase (row : Row) : Phrase :=
  .parenthesized (.list (row.entries.map fun entry => entry.value.phrase))

/-- A plain insertion as it is read. -/
def statement (insertion : Insertion) (name : Text) : Statement :=
  .insert ("INSERT" ++ (" INTO" ++ " ")) [⟨name, some '`'⟩]
    (" " ++ ("VALUES " ++ .list (insertion.rows.map Row.phrase)))

theorem ending_tokens (insertion : Insertion)
    : signTokens insertion.ending = [] ∨ signTokens insertion.ending = [.sign ";"] := by
  unfold ending
  cases insertion.terminator with
  | none => exact Or.inl rfl
  | some space =>
      have spaces := signTokens_space space
      refine Or.inr ?_
      rw [signTokens, List.map_eq_nil_iff] at spaces
      rw [signTokens, List.filter_cons_of_pos rfl, spaces]
      rfl

theorem mem_values {insertion : Insertion} {row : Row} (ofInsertion : row ∈ insertion.rows)
    {entry : Entry} (ofRow : entry ∈ row.entries)
    : entry.value ∈ values insertion.rows :=
  List.mem_flatMap.mpr ⟨row, ofInsertion, List.mem_map_of_mem ofRow⟩

/-- A plain insertion is read as one statement. -/
theorem ofText?_source {insertion : Insertion} (plain : insertion.IsPlain) {name : Text}
    (named : insertion.name = .quoted name)
    : Statement.ofText? insertion.source = some [insertion.statement name] := by
  obtain ⟨word, verb⟩ := plain.verb
  have ends := insertion.ending_tokens
  have idle : Idle (signTokens insertion.ending) := by
    rcases ends with none | semicolon
    · rw [none]
      intro token head
      cases head
    · rw [semicolon]
      intro token head
      obtain rfl := Option.some.inj head
      rfl
  have noComma : (signTokens insertion.ending).head? ≠ some (.sign ",") := by
    rcases ends with none | semicolon
    · rw [none]
      simp
    · rw [semicolon]
      decide
  have reads (row : Row) (ofInsertion : row ∈ insertion.rows) (entry : Entry)
      (ofRow : entry ∈ row.entries)
      : Grammar.ReadsValue (Grammar.ofDepth 48) _ _ :=
    readsValue 46 (plain.values _ (mem_values ofInsertion ofRow))
  have rows := Grammar.Rows.read_apply plain.rows reads noComma
  rw [← pieceTokens_rowPieces] at rows
  have query := Grammar.Query.read_apply idle insertion.valuesWord.keyword_eq rows
  have insert : Grammar.Change.insert (Grammar.ofDepth 49) "INSERT"
        (.word insertion.into.text :: .quotedName name :: _) = _ :=
    Grammar.Change.insert_apply insertion.into.keyword_eq insertion.valuesWord.keyword_eq idle
      query "INSERT"
  have read : (Grammar.ofDepth 50).statement _ = _ :=
    (Grammar.Statement.read_insert word.keyword_eq _).trans insert
  have list := Grammar.StatementList.read_single (by simp) read ends
  have scan := (scans_source plain named).scan?_eq
  rw [tokens, verb, Verb.word] at scan
  rw [Statement.ofText?, scan]
  dsimp only [Option.bind_eq_bind, Option.bind_some, Statement.maxDepth]
  rw [list]
  rfl

end DumpTransfer.Conversion.Insertion
