import DumpTransfer.Proofs.Sql.Requoting
import DumpTransfer.Proofs.Sql.Spans

/-! A statement is divided into its runs and nothing is lost. Code and literals take turns, literals
are whole and names are closed wherever another run follows, and a change to the code that keeps it
so leaves every literal in its place.
-/

namespace DumpTransfer.Sql

-----------------------------------------------------------------------------------------
-- Whole literals
-----------------------------------------------------------------------------------------

/-- What comes after the first quote of a literal, up to its last one. -/
inductive EndsLiteral (style : LiteralStyle) : Text → Prop where
  | quote : EndsLiteral style ['\'']
  | plain {char : Char} {rest : Text} (noQuote : char ≠ '\'')
      (noEscape : style = .backslash → char ≠ '\\') (later : EndsLiteral style rest)
      : EndsLiteral style (char :: rest)
  | twice {rest : Text} (later : EndsLiteral style rest)
      : EndsLiteral style ('\'' :: '\'' :: rest)
  | escaped {char : Char} {rest : Text} (isBackslash : style = .backslash)
      (later : EndsLiteral style rest)
      : EndsLiteral style ('\\' :: char :: rest)

/-- A literal from its first quote to its last one. -/
def IsWholeLiteral (style : LiteralStyle) (text : Text) : Prop :=
  ∃ rest, text = '\'' :: rest ∧ EndsLiteral style rest

namespace Quoting

variable {style : LiteralStyle} {text : Text}

/-- A text that keeps to a literal and comes out of it at its end, from each place in a literal on.
After a quote the literal has ended or goes on with another one.
-/
structure LeavesLiteral (style : LiteralStyle) (text : Text) : Prop where
  literal
    : Keeps style true .literal text → Quoting.literal.after style text = .code →
        EndsLiteral style text
  quoted
    : Keeps style true .code text → Quoting.code.after style text = .code →
        EndsLiteral style ('\'' :: text)
  escaped
    : style = .backslash → Keeps style true .escaped text →
        Quoting.escaped.after style text = .code → EndsLiteral style ('\\' :: text)

/-- By induction over the text, in step with the place. -/
theorem leavesLiteral (style : LiteralStyle) (text : Text)
    : LeavesLiteral style text := by
  induction text with
  | nil =>
      refine ⟨fun _ ends => ?_, fun _ _ => .quote, fun _ _ ends => ?_⟩
      · cases ends
      · cases ends
  | cons char rest ih =>
      refine ⟨fun keeps ends => ?_, fun keeps ends => ?_, fun isBackslash keeps ends => ?_⟩
      · rw [after, List.foldl_cons] at ends
        obtain ⟨-, later⟩ := keeps
        by_cases escapes : char = '\\' ∧ style = .backslash
        · obtain ⟨rfl, isBackslash⟩ := escapes
          have next : Quoting.literal.step style '\\' = .escaped := by simp [step, isBackslash]
          rw [next] at later ends
          exact ih.escaped isBackslash later ends
        by_cases quote : char = '\''
        · subst quote
          exact ih.quoted later ends
        · have next : Quoting.literal.step style char = .literal := by
            simp_all [step]
          rw [next] at later ends
          refine .plain quote (fun isBackslash same => escapes ⟨same, isBackslash⟩) ?_
          exact ih.literal later ends
      · obtain ⟨opens, later⟩ := keeps
        obtain ⟨-, rfl⟩ := opens_literal rfl opens
        exact .twice (ih.literal later ends)
      · exact .escaped isBackslash (ih.literal keeps.2 ends)

theorem Keeps.isWholeLiteral (keeps : Keeps style true .code text) (filled : text ≠ [])
    (ends : Quoting.code.after style text = .code)
    : IsWholeLiteral style text := by
  obtain ⟨char, rest, rfl⟩ := List.exists_cons_of_ne_nil filled
  obtain ⟨opens, later⟩ := keeps
  obtain ⟨-, rfl⟩ := opens_literal rfl opens
  exact ⟨rest, rfl, (leavesLiteral style rest).literal later ends⟩

end Quoting

-----------------------------------------------------------------------------------------
-- Names in code
-----------------------------------------------------------------------------------------

namespace QuotedName

/-- No single quote stands outside the names of a text. -/
def NoLooseQuote (text : Text) : Prop :=
  Token.sign '\'' ∉ tokens text

/-- Every name of a text ends. -/
def NamesClosed (text : Text) : Prop :=
  ∀ token ∈ tokens text, token.isClosed = true

instance (text : Text) : Decidable (NoLooseQuote text) :=
  inferInstanceAs (Decidable (_ ∉ _))

instance (text : Text) : Decidable (NamesClosed text) :=
  inferInstanceAs (Decidable (∀ token ∈ tokens text, token.isClosed = true))

variable {style : LiteralStyle} {code : Text}

theorem Readable.placed_of_noLooseQuote {tokens : List Token} (readable : Readable tokens)
    (noLoose : Token.sign '\'' ∉ tokens)
    : Placed tokens := by
  induction readable with
  | nil => trivial
  | @sign char rest plain later ih =>
      obtain ⟨differs, others⟩ := List.ne_and_not_mem_of_not_mem_cons noLoose
      exact ⟨fun same => differs (same ▸ rfl), plain, ih others⟩
  | name isName apart later ih =>
      exact ⟨isName, ih (List.not_mem_of_not_mem_cons noLoose)⟩
  | unclosed isName => exact ⟨isName, rfl⟩

theorem Placed.noLooseQuote {tokens : List Token} (placed : Placed tokens)
    : Token.sign '\'' ∉ tokens := by
  induction tokens with
  | nil => exact List.not_mem_nil
  | cons token rest ih =>
      cases token with
      | sign char =>
          refine List.not_mem_cons_of_ne_of_not_mem (fun same => placed.1 ?_) (ih placed.2.2)
          exact (Token.sign.inj same).symm
      | name quote spelling => exact List.not_mem_cons_of_ne_of_not_mem nofun (ih placed.2)
      | unclosed quote spelling => simp [placed.2]

theorem placed_iff
    : Placed (tokens code) ↔ NoLooseQuote code :=
  ⟨Placed.noLooseQuote, (tokens_read code).2.placed_of_noLooseQuote⟩

/-- Code keeps out of literals if and only if it has no single quote outside its names. -/
theorem keeps_code_iff
    : Quoting.Keeps style false .code code ↔ NoLooseQuote code := by
  refine ⟨fun keeps => placed_iff.mp (placed_tokens keeps), fun noLoose => ?_⟩
  have walked := ((placed_iff.mpr noLoose).walk style).1
  rwa [(tokens_read code).1] at walked

/-- After code comes code again if and only if its names are closed. -/
theorem after_code_iff (noLoose : NoLooseQuote code)
    : Quoting.code.after style code = .code ↔ NamesClosed code := by
  have walked := ((placed_iff.mpr noLoose).walk style).2
  rwa [(tokens_read code).1] at walked

end QuotedName

namespace Segment

open QuotedName

variable {style : LiteralStyle} {quoting : Quoting} {before runs : List Segment}
  {change : Text → Text}

-----------------------------------------------------------------------------------------
-- Runs next to each other
-----------------------------------------------------------------------------------------

/-- What is left of a partition after some of its runs. -/
theorem Partition.of_append (partition : Partition style .code (before ++ runs))
    : Partition style .code runs := by
  induction before with
  | nil => exact partition
  | cons run before ih =>
      apply ih
      rw [List.cons_append] at partition
      cases left : before ++ runs with
      | nil => exact .nil _
      | cons next more =>
          rw [left] at partition
          exact partition.beside.2.2

theorem Partition.alternates (partition : Partition style quoting runs)
    : runs.IsChain fun run next => next.isLiteral ≠ run.isLiteral := by
  induction partition with
  | nil => exact .nil
  | last => exact .singleton _
  | more filled keeps ends other later ih => exact .cons_cons other ih

-----------------------------------------------------------------------------------------
-- Changes that keep the literals
-----------------------------------------------------------------------------------------

/-- The literals of a statement, in order. -/
def literals (runs : List Segment) : List Segment :=
  runs.filter isLiteral

/-- A change to the code of runs that keeps names closed, puts no single quote outside them and
leaves something of the code between two literals.
-/
structure KeepsLiterals (change : Text → Text) (runs : List Segment) : Prop where
  noLooseQuote : ∀ text, .code text ∈ runs → NoLooseQuote (change text)
  namesClosed : ∀ text, .code text ∈ runs → NamesClosed text → NamesClosed (change text)
  filled
    : ∀ before first text second after,
        runs = before ++ .literal first :: .code text :: .literal second :: after →
          change text ≠ []

theorem literals_revised (filled : ∀ run ∈ runs, run.text ≠ [])
    : literals (revised change runs) = literals runs := by
  induction runs with
  | nil => rfl
  | cons run runs ih =>
      obtain ⟨first, others⟩ := List.forall_mem_cons.mp filled
      cases run with
      | literal text =>
          have kept : ((literal text).withCode change).text ≠ [] := first
          rw [revised_cons_of_filled kept]
          exact congrArg (List.cons _) (ih others)
      | code text =>
          refine Eq.trans ?_ (ih others)
          by_cases empty : ((code text).withCode change).text = []
          · rw [revised_cons_of_empty empty]
          · rw [revised_cons_of_filled empty]
            rfl

theorem KeepsLiterals.keepsPlaces (keeps : KeepsLiterals change runs)
    (partition : Partition style .code runs)
    : KeepsPlaces style change runs where
  keeps text member := keeps_code_iff.mpr (keeps.noLooseQuote text member)
  ends text member ends := by
    have before := keeps_code_iff.mp (partition.keeps_of_mem rfl member)
    have closed := keeps.namesClosed text member ((after_code_iff before).mp ends)
    exact (after_code_iff (keeps.noLooseQuote text member)).mpr closed
  filled := keeps.filled

/-- A statement is divided into its runs. They are filled, take turns and make up the statement, and
the search through its bytes finds them between characters. A literal that another run follows is
whole, and code has no single quote outside its names, which are closed if a literal follows. So a
change to the code that changes nothing gives the statement again, and after one that keeps names
closed, puts no single quote outside them and leaves something between two literals, the statement
has the same literals in the same order between what has become of its code.
-/
theorem runs_divide_statement (style : LiteralStyle) (statement : Text)
    : (ofText style statement).flatMap text = statement
      ∧ (∀ run ∈ ofText style statement, run.text ≠ [])
      ∧ ((ofText style statement).IsChain fun run next => next.isLiteral ≠ run.isLiteral)
      ∧ Offset.spans style statement = Offset.spansOf 0 (ofText style statement)
      ∧ (∀ span ∈ Offset.spans style statement,
          Offset.IsBetween statement span.start ∧ Offset.IsBetween statement span.finish)
      ∧ (∀ before text next after,
          ofText style statement = before ++ .literal text :: next :: after →
            IsWholeLiteral style text)
      ∧ (∀ text, .code text ∈ ofText style statement → NoLooseQuote text)
      ∧ (∀ before text literal after,
          ofText style statement = before ++ .code text :: .literal literal :: after →
            NamesClosed text)
      ∧ onCode style id statement = statement
      ∧ ∀ change, KeepsLiterals change (ofText style statement) →
          ofText style (onCode style change statement) = revised change (ofText style statement)
          ∧ literals (ofText style (onCode style change statement))
            = literals (ofText style statement) := by
  have whole := flatMap_ofText style statement
  have partition := partition_ofText style statement
  have noLoose : ∀ text, .code text ∈ ofText style statement → NoLooseQuote text :=
    fun text member => keeps_code_iff.mp (partition.keeps_of_mem rfl member)
  have ends : ∀ before run next after, ofText style statement = before ++ run :: next :: after →
      Quoting.code.after style run.text = .code :=
    fun before run next after split => (split ▸ partition).of_append.beside.1
  refine ⟨whole, fun run => partition.filled_of_mem, partition.alternates,
    Offset.spans_eq style statement, ?_, ?_, noLoose, ?_, ?_, ?_⟩
  · intro span member
    rw [Offset.spans_eq] at member
    have between := Offset.isBetween_of_mem_spansOf [] member
    rwa [List.nil_append, whole] at between
  · intro before text next after split
    have member : .literal text ∈ ofText style statement := by simp [split]
    exact Quoting.Keeps.isWholeLiteral (partition.keeps_of_mem rfl member)
      (partition.filled_of_mem member) (ends _ _ _ _ split)
  · intro before text literal after split
    exact (after_code_iff (noLoose text (by simp [split]))).mp (ends _ _ _ _ split)
  · exact (changed_of_unchanged fun _ _ => rfl).trans whole
  · intro change keeps
    have runs := (keeps.keepsPlaces partition).ofText_onCode
    exact ⟨runs, runs ▸ literals_revised fun run => partition.filled_of_mem⟩

/-- A row of a table with a quote in its name. -/
def quotedTableRow : Text :=
  "INSERT INTO `Year's` VALUES ('It\\'s \u00e9'), ('Open"

/-- Letters in code are made small without a literal being taken for code. -/
theorem literals_of_small_letters
    : KeepsLiterals Text.asciiLower (ofText .backslash quotedTableRow)
      ∧ literals (ofText .backslash (onCode .backslash Text.asciiLower quotedTableRow))
        = [.literal "'It\\'s \u00e9'", .literal "'Open"] := by
  have runs : ofText .backslash quotedTableRow
      = [.code "INSERT INTO `Year's` VALUES (", .literal "'It\\'s \u00e9'", .code "), (",
          .literal "'Open"] := by
    decide +kernel
  have keeps : KeepsLiterals Text.asciiLower (ofText .backslash quotedTableRow) := by
    have codes (text : Text) (member : .code text ∈ ofText .backslash quotedTableRow)
        : text = "INSERT INTO `Year's` VALUES (" ∨ text = "), (" := by
      simpa [runs] using member
    refine ⟨fun text member => ?_, fun text member _ => ?_, fun before _ text _ after split => ?_⟩
    · rcases codes text member with rfl | rfl <;> decide +kernel
    · rcases codes text member with rfl | rfl <;> decide +kernel
    · rcases codes text (by simp [split]) with rfl | rfl <;> decide +kernel
  obtain ⟨-, -, -, -, -, -, -, -, -, changes⟩ := runs_divide_statement .backslash quotedTableRow
  refine ⟨keeps, (changes _ keeps).2.trans ?_⟩
  rw [runs]
  rfl

end Segment

end DumpTransfer.Sql
