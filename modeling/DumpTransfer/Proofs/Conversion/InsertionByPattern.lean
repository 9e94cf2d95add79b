import DumpTransfer.Proofs.Conversion.InsertionNames

/-! Insertions adapted by patterns as whole statements: the words and the layout stay, the name of
the table and the values come into standard form.
-/

namespace DumpTransfer.Conversion.Insertion

open Sql

-----------------------------------------------------------------------------------------
-- Parts of statements
-----------------------------------------------------------------------------------------

/-- What stands before the name of the table. -/
def opening (insertion : Insertion) : Text :=
  insertion.before.text ++ insertion.verb.source ++ insertion.beforeInto.text
    ++ insertion.into.text ++ insertion.beforeName.text

/-- What stands between the name of the table and the rows. -/
def toValues (insertion : Insertion) : Text :=
  insertion.afterName.text ++ insertion.valuesWord.text

/-- The statement with another text for the name and other texts for the values. -/
def assembled (insertion : Insertion) (name : Text) (write : Value → Text) : Text :=
  insertion.opening
    ++ (name ++ (insertion.toValues
      ++ (written write insertion.rowPieces ++ insertion.ending)))

theorem source_eq (insertion : Insertion)
    : insertion.source = insertion.assembled insertion.name.source Value.source := by
  simp [source, assembled, opening, toValues]

theorem Verb.plain_source (verb : Verb)
    : Plain verb.source := by
  cases verb with
  | insert word => exact word.plain (by decide)
  | insertIgnore word between ignore =>
      exact ((word.plain (by decide)).append between.plain).append (ignore.plain (by decide))
  | replace word => exact word.plain (by decide)

theorem plain_opening (insertion : Insertion)
    : Plain insertion.opening :=
  ((((insertion.before.plain).append insertion.verb.plain_source).append
    insertion.beforeInto.plain).append (insertion.into.plain (by decide))).append
    insertion.beforeName.plain

theorem plain_toValues (insertion : Insertion)
    : Plain insertion.toValues :=
  insertion.afterName.plain.append (insertion.valuesWord.plain (by decide))

/-- White space stands right before the name. -/
theorem exists_opening (insertion : Insertion)
    : ∃ text char, insertion.opening = text ++ [char] ∧ isSpace char = true := by
  obtain ⟨init, last, same, space⟩ := insertion.beforeName.exists_last
  exact ⟨insertion.before.text ++ insertion.verb.source ++ insertion.beforeInto.text
    ++ insertion.into.text ++ init, last, by simp [opening, same], space⟩

/-- White space stands right after the name. -/
theorem exists_toValues (insertion : Insertion)
    : ∃ char text, insertion.toValues = char :: text ∧ isSpace char = true := by
  obtain ⟨first, more, same, space⟩ := insertion.afterName.exists_first
  exact ⟨first, more ++ insertion.valuesWord.text, by simp [toValues, same], space⟩

theorem signs_ending (insertion : Insertion)
    : Signs insertion.ending := by
  unfold ending
  cases insertion.terminator with
  | none => simp [Signs]
  | some after =>
      intro char member
      rcases List.mem_cons.mp member with rfl | member
      · rfl
      · exact after.signs char member

theorem wellSpaced_rowPieces (insertion : Insertion)
    : WellSpaced false insertion.rowPieces :=
  wellSpaced_rows insertion.rows false

theorem ends_toValues (insertion : Insertion) (rest : Text)
    : Ends (insertion.toValues ++ rest) := by
  obtain ⟨char, text, same, space⟩ := insertion.exists_toValues
  exact ⟨char, text ++ rest, by simp [same], by simp [isSign, space]⟩

/-- The word before the rows is over where they begin. -/
theorem over_rows (insertion : Insertion) (write : Value → Text)
    : Over (written write insertion.rowPieces ++ insertion.ending) := by
  cases rows : insertion.rows with
  | nil =>
      have none : insertion.rowPieces = [] := by rw [rowPieces, rows]; rfl
      rw [none]
      intro char member
      exact insertion.signs_ending char (List.mem_of_mem_head? member)
  | cons row others =>
      have begins : beginsWithSign insertion.rowPieces = true := by
        rw [rowPieces, rows]
        cases others <;> simp [separated, Row.pieces, beginsWithSign]
      exact (ends_written insertion.wellSpaced_rowPieces begins write insertion.ending).isOver

/-- A pass that keeps the words and the signs of a statement and changes its name and its values
changes nothing else.
-/
theorem assembled_pass (insertion : Insertion) {pass : Text → Text}
    {before after : Value → Text} {name changed : Text} (empty : pass [] = [])
    (keepsOpening : ∀ rest, pass (insertion.opening ++ rest) = insertion.opening ++ pass rest)
    (changesName : ∀ rest, pass (name ++ (insertion.toValues ++ rest))
      = changed ++ pass (insertion.toValues ++ rest))
    (keepsWords : ∀ rest, Over rest →
      pass (insertion.toValues ++ rest) = insertion.toValues ++ pass rest)
    (keepsSigns : ∀ text rest, Signs text → pass (text ++ rest) = text ++ pass rest)
    (changesValue : ∀ value rest, Ends rest →
      pass (before value ++ rest) = after value ++ pass rest)
    : pass (insertion.assembled name before) = insertion.assembled changed after := by
  have ending := keepsSigns insertion.ending [] insertion.signs_ending
  rw [List.append_nil, empty, List.append_nil] at ending
  rw [assembled, keepsOpening, changesName, keepsWords _ (insertion.over_rows before),
    written_pass keepsSigns changesValue insertion.wellSpaced_rowPieces, ending]
  rfl

theorem Signs.unquoted {text : Text} (signs : Signs text)
    : Unquoted text :=
  unquoted_of isSign signs (by decide)

-----------------------------------------------------------------------------------------
-- Standard form
-----------------------------------------------------------------------------------------

theorem normalize_source (insertion : Insertion)
    : Literal.normalize insertion.source
      = insertion.assembled insertion.name.source (·.form.text) := by
  rw [Literal.normalize_eq, source_eq]
  refine insertion.assembled_pass rfl ?_ ?_ ?_ ?_ ?_
  · exact Literal.normalizeFrom_unquoted insertion.plain_opening.unquoted
  · exact fun rest => insertion.name.normalizeFrom_source _
  · exact fun rest _ => Literal.normalizeFrom_unquoted insertion.plain_toValues.unquoted rest
  · exact fun text rest signs => Literal.normalizeFrom_unquoted signs.unquoted rest
  · exact fun value rest _ => normalizeFrom_value value rest

theorem requoted_normalized (insertion : Insertion)
    : requoted (insertion.assembled insertion.name.source (·.form.text))
      = insertion.assembled insertion.name.inDoubleQuotes (·.form.text) := by
  refine insertion.assembled_pass rfl ?_ ?_ ?_ ?_ ?_
  · exact requoted_unquoted insertion.plain_opening.unquoted
  · exact fun rest => insertion.name.requoted_source (insertion.ends_toValues rest)
  · exact fun rest _ => requoted_unquoted insertion.plain_toValues.unquoted rest
  · exact fun text rest signs => requoted_unquoted signs.unquoted rest
  · exact fun value rest ends => requoted_form value.unquoted_code ends.isOver

theorem standardize_source (insertion : Insertion)
    : ByPattern.standardize insertion.source
      = insertion.assembled insertion.name.inDoubleQuotes (·.form.text) := by
  rw [ByPattern.standardize, normalize_source, QuotedName.requote_eq]
  exact insertion.requoted_normalized

-----------------------------------------------------------------------------------------
-- Hexadecimal numbers
-----------------------------------------------------------------------------------------

/-- The halfway form of a statement, between adapting and completing it. -/
def halfway (insertion : Insertion) : Text :=
  insertion.assembled insertion.name.worded (·.byteForm.text)

theorem worded_opening (insertion : Insertion) (rest : Text)
    : worded (insertion.opening ++ rest) = insertion.opening ++ worded rest := by
  have noX : 'x' ∉ insertion.opening := insertion.plain_opening.not_mem rfl
  obtain ⟨text, char, same, space⟩ := insertion.exists_opening
  have outside : Alphabet.isWord char = false := isWord_of_isSign (by simp [isSign, space])
  refine Segment.onCode_code rfl (Segment.isCode_unquoted insertion.plain_opening.unquoted)
    fun later _ => ?_
  have stays := ByPattern.adaptWords_of_no_x noX
  rw [same] at stays ⊢
  rw [ByPattern.adaptWords_append_of_sign text outside, stays]

theorem worded_standardized (insertion : Insertion)
    : worded (insertion.assembled insertion.name.inDoubleQuotes (·.form.text))
      = insertion.halfway := by
  refine insertion.assembled_pass rfl insertion.worded_opening ?_ ?_ ?_ ?_
  · exact fun rest => insertion.name.worded_inDoubleQuotes (insertion.ends_toValues rest)
  · intro rest isOver
    have noX : 'x' ∉ insertion.toValues := insertion.plain_toValues.not_mem rfl
    refine Segment.onCode_code rfl (Segment.isCode_unquoted insertion.plain_toValues.unquoted)
      fun later begins => ?_
    rw [ByPattern.adaptWords_append _ (breaks_of_over (over_of_begins isOver begins)),
      ByPattern.adaptWords_of_no_x noX]
  · exact fun text rest signs => worded_signs signs rest
  · exact fun value rest ends => worded_value value ends.isOver

-----------------------------------------------------------------------------------------
-- Adapting
-----------------------------------------------------------------------------------------

theorem separates_of_isAlpha {char : Char} (letter : char.isAlpha = true)
    : StatementKind.separates char = false := by
  have others : char ≠ '(' ∧ char ≠ '`' ∧ char ≠ '"' := by
    refine ⟨?_, ?_, ?_⟩ <;> rintro rfl <;> cases letter
  simp [StatementKind.separates, Alphabet.isBlank_of_isAlpha letter, others]

theorem separates_of_isSpace {char : Char} (space : isSpace char = true)
    : StatementKind.separates char = true :=
  holds_of_isSpace StatementKind.separates rfl space

/-- The first word of an insertion. -/
def Verb.word : Verb → Text
  | insert word | insertIgnore word _ _ => word.text
  | replace word => word.text

theorem exists_afterWord (insertion : Insertion)
    : ∃ char rest,
        insertion.opening = insertion.before.text ++ (insertion.verb.word ++ char :: rest)
        ∧ isSpace char = true := by
  cases verb : insertion.verb with
  | insert word | replace word =>
      obtain ⟨char, rest, same, space⟩ := insertion.beforeInto.exists_first
      exact ⟨char, rest ++ insertion.into.text ++ insertion.beforeName.text,
        by simp [opening, verb, Verb.word, Verb.source, same], space⟩
  | insertIgnore word between ignore =>
      obtain ⟨char, rest, same, space⟩ := between.exists_first
      exact ⟨char, rest ++ ignore.text ++ insertion.beforeInto.text ++ insertion.into.text
        ++ insertion.beforeName.text,
        by simp [opening, verb, Verb.word, Verb.source, same], space⟩

theorem Verb.isAlpha_word (verb : Verb)
    : ∀ char ∈ verb.word, char.isAlpha = true := by
  cases verb with
  | insert word | insertIgnore word _ _ => exact word.isAlpha
  | replace word => exact word.isAlpha

theorem Verb.word_ne_nil (verb : Verb)
    : verb.word ≠ [] := by
  cases verb with
  | insert word | insertIgnore word _ _ => exact word.ne_nil
  | replace word => exact word.ne_nil

theorem Verb.capitals_word (verb : Verb)
    : Text.asciiUpper verb.word = "INSERT" ∨ Text.asciiUpper verb.word = "REPLACE" := by
  cases verb with
  | insert word | insertIgnore word _ _ => exact Or.inl word.spells
  | replace word => exact Or.inr word.spells

/-- The first word of a text is found past white space and ends before white space. -/
theorem nextWord_eq {before word rest : Text} {char : Char}
    (spaces : ∀ char ∈ before, isSpace char = true)
    (letters : ∀ char ∈ word, char.isAlpha = true) (isThere : word ≠ [])
    (space : isSpace char = true)
    : (StatementKind.nextWord (before ++ (word ++ char :: rest))).1 = Text.asciiUpper word := by
  obtain ⟨first, others, rfl⟩ := List.exists_cons_of_ne_nil isThere
  have passed : (before ++ (first :: others ++ char :: rest)).dropWhile StatementKind.separates
      = first :: others ++ char :: rest := by
    rw [List.dropWhile_append_of_pos fun other member =>
      separates_of_isSpace (spaces other member), List.cons_append,
      List.dropWhile_cons_of_neg (by simp [separates_of_isAlpha (letters first (by simp))])]
  have taken : (first :: others ++ char :: rest).takeWhile (! StatementKind.separates ·)
      = first :: others := by
    rw [List.takeWhile_append_of_pos fun other member => by
      simp [separates_of_isAlpha (letters other member)],
      List.takeWhile_cons_of_neg (by simp [separates_of_isSpace space]), List.append_nil]
  rw [StatementKind.nextWord, passed, taken]

/-- A statement that begins like an insertion is told to be one. -/
theorem ofStatement_opening (insertion : Insertion) (rest : Text)
    : StatementKind.ofStatement (insertion.opening ++ rest) = .insert := by
  obtain ⟨char, more, same, space⟩ := insertion.exists_afterWord
  have first
      : (StatementKind.nextWord (insertion.opening ++ rest)).1
        = Text.asciiUpper insertion.verb.word := by
    rw [same, List.append_assoc, List.append_assoc, List.cons_append]
    exact nextWord_eq insertion.before.isSpace insertion.verb.isAlpha_word
      insertion.verb.word_ne_nil space
  have distinct : Text.ofString "INSERT" ≠ "CREATE" ∧ Text.ofString "INSERT" ≠ "DROP"
      ∧ Text.ofString "REPLACE" ≠ "CREATE" ∧ Text.ofString "REPLACE" ≠ "DROP" := by
    simp only [Text.ofString_eq]
    decide
  unfold StatementKind.ofStatement
  dsimp only
  rw [first]
  rcases insertion.verb.capitals_word with word | word
  · simp [word, distinct]
  · simp [word, distinct]

/-- Adapting an insertion by patterns succeeds, with the halfway form of the statement. -/
theorem adapt_source (insertion : Insertion) (target : Destination)
    : (ByPattern.strategy.adapt target insertion.source).result = .ok insertion.halfway := by
  change (ByPattern.adapt insertion.source).result = _
  unfold ByPattern.adapt
  dsimp only
  rw [standardize_source]
  have kind : StatementKind.ofStatement
      (insertion.assembled insertion.name.inDoubleQuotes (·.form.text)) = .insert :=
    insertion.ofStatement_opening _
  rw [kind]
  have rule : ByPattern.hexNumber.replaceAll ByPattern.byteLiteral = ByPattern.adaptWords :=
    funext ByPattern.replaceAll_hexNumber
  dsimp only
  rw [rule]
  exact congrArg Except.ok insertion.worded_standardized

end DumpTransfer.Conversion.Insertion
