import DumpTransfer.Proofs.Conversion.Insertion

/-! Passes over insertions piece by piece. Rows are signs and values with a sign on both sides of
each value, so a pass that keeps signs and changes each value before a sign changes the values of
all rows and nothing else.
-/

namespace DumpTransfer.Conversion.Insertion

-----------------------------------------------------------------------------------------
-- Signs between values
-----------------------------------------------------------------------------------------

/-- Brackets, commas and semicolons. -/
def marks : Text :=
  ['(', ')', ',', ';']

def isMark (char : Char) : Bool :=
  marks.contains char

/-- The characters between values and after the last row. -/
def isSign (char : Char) : Bool :=
  isSpace char || isMark char

/-- Signs alone. -/
def Signs (text : Text) : Prop :=
  ∀ char ∈ text, isSign char = true

/-- A text at the start of which a value is over. -/
def Ends (text : Text) : Prop :=
  ∃ char rest, text = char :: rest ∧ isSign char = true

/-- What holds of each character of white space holds of all white space. -/
theorem holds_of_isSpace (holds : Char → Bool) (all : spaces.all holds = true) {char : Char}
    (space : isSpace char = true)
    : holds char = true :=
  List.all_eq_true.mp all char (List.contains_iff_mem.mp space)

theorem holds_of_isMark (holds : Char → Bool) (all : marks.all holds = true) {char : Char}
    (mark : isMark char = true)
    : holds char = true :=
  List.all_eq_true.mp all char (List.contains_iff_mem.mp mark)

theorem holds_of_isSign (holds : Char → Bool) (all : (spaces ++ marks).all holds = true)
    {char : Char} (sign : isSign char = true)
    : holds char = true := by
  rw [List.all_append, Bool.and_eq_true] at all
  rcases Bool.or_eq_true_iff.mp sign with space | mark
  · exact holds_of_isSpace holds all.1 space
  · exact holds_of_isMark holds all.2 mark

theorem isWord_of_isSign {char : Char} (sign : isSign char = true)
    : Alphabet.isWord char = false := by
  simpa using holds_of_isSign (! Alphabet.isWord ·) rfl sign

/-- No value begins at the start of a text. -/
def Over (text : Text) : Prop :=
  ∀ char ∈ text.head?, isSign char = true

theorem Ends.isOver {text : Text} (ends : Ends text)
    : Over text := by
  obtain ⟨char, rest, rfl, sign⟩ := ends
  simpa [Over] using sign

/-- Whether pieces begin with a sign. -/
def beginsWithSign : List Piece → Bool
  | [] | .value _ :: _ => false
  | .signs text :: rest => !text.isEmpty || beginsWithSign rest

/-- Every value stands between signs. The flag tells whether what comes before the pieces ends
with a bracket or a comma, white space apart.
-/
def WellSpaced : Bool → List Piece → Prop
  | _, [] => True
  | settled, .signs text :: rest => Signs text ∧ WellSpaced (settled || text.any isMark) rest
  | settled, .value _ :: rest =>
      settled = true ∧ beginsWithSign rest = true ∧ WellSpaced false rest

theorem Space.signs (space : Space)
    : Signs space.text := by
  intro char member
  simp [isSign, space.isSpace char member]

theorem ends_written {pieces : List Piece} {settled : Bool} (spaced : WellSpaced settled pieces)
    (begins : beginsWithSign pieces = true) (write : Value → Text) (tail : Text)
    : Ends (written write pieces ++ tail) := by
  induction pieces generalizing settled with
  | nil => cases begins
  | cons piece rest ih =>
      cases piece with
      | value value => cases begins
      | signs text =>
          cases text with
          | nil => exact ih spaced.2 begins
          | cons char more =>
              exact ⟨char, more ++ written write rest ++ tail, by simp [written],
                spaced.1 char (by simp)⟩

/-- A pass that keeps signs, and changes a value when a sign follows it, changes the values of
well-spaced pieces one by one.
-/
theorem written_pass {pass : Text → Text} {before after : Value → Text}
    (keepsSigns : ∀ text rest, Signs text → pass (text ++ rest) = text ++ pass rest)
    (changesValue : ∀ value rest, Ends rest →
      pass (before value ++ rest) = after value ++ pass rest)
    {pieces : List Piece} {settled : Bool} (spaced : WellSpaced settled pieces) (tail : Text)
    : pass (written before pieces ++ tail) = written after pieces ++ pass tail := by
  induction pieces generalizing settled with
  | nil => rfl
  | cons piece rest ih =>
      cases piece with
      | signs text =>
          rw [written, written, List.append_assoc, keepsSigns text _ spaced.1, ih spaced.2,
            List.append_assoc]
      | value value =>
          have ends := ends_written spaced.2.2 spaced.2.1 before tail
          rw [written, written, List.append_assoc, changesValue value _ ends, ih spaced.2.2,
            List.append_assoc]

/-- A bracket or a comma may follow anything. -/
theorem wellSpaced_mark {char : Char} (mark : isMark char = true) (settled : Bool)
    {rest : List Piece} (spaced : WellSpaced true rest)
    : WellSpaced settled (.signs [char] :: rest) :=
  ⟨by simp [Signs, isSign, mark], by simpa [mark] using spaced⟩

theorem wellSpaced_space (space : Space) {rest : List Piece} (spaced : WellSpaced true rest)
    : WellSpaced true (.signs space.text :: rest) :=
  ⟨space.signs, spaced⟩

/-- A value in white space is well spaced when a bracket or a comma follows. -/
theorem wellSpaced_entry (entry : Entry) {char : Char} (mark : isMark char = true)
    {rest : List Piece} (spaced : WellSpaced true rest)
    : WellSpaced true (entry.pieces ++ .signs [char] :: rest) := by
  refine wellSpaced_space entry.before ⟨rfl, ?_, entry.after.signs, ?_⟩
  · simp [beginsWithSign]
  · exact wellSpaced_mark mark _ spaced

theorem wellSpaced_entries (entries : List Entry) {rest : List Piece}
    (spaced : WellSpaced true rest)
    : WellSpaced true (separated (entries.map Entry.pieces) ++ .signs [')'] :: rest) := by
  induction entries with
  | nil => exact wellSpaced_mark rfl _ spaced
  | cons entry others ih =>
      cases others with
      | nil => exact wellSpaced_entry entry rfl spaced
      | cons second more =>
          simp only [List.map_cons, separated, List.append_assoc, List.cons_append]
          exact wellSpaced_entry entry rfl ih

theorem wellSpaced_row (row : Row) (settled : Bool) {rest : List Piece}
    (spaced : WellSpaced true rest)
    : WellSpaced settled (row.pieces ++ rest) := by
  simp only [Row.pieces, List.append_assoc, List.cons_append, List.nil_append]
  refine ⟨row.before.signs, wellSpaced_mark rfl _ ?_⟩
  exact wellSpaced_entries row.entries (wellSpaced_space row.after spaced)

/-- Rows may follow a word, since a parenthesis stands before their first value. -/
theorem wellSpaced_rows (rows : List Row) (settled : Bool)
    : WellSpaced settled (separated (rows.map Row.pieces)) := by
  induction rows generalizing settled with
  | nil => trivial
  | cons row others ih =>
      cases others with
      | nil =>
          have closed : WellSpaced true [] := trivial
          rw [← List.append_nil (separated _)]
          exact wellSpaced_row row settled closed
      | cons second more =>
          exact wellSpaced_row row settled (wellSpaced_mark rfl _ (ih true))

-----------------------------------------------------------------------------------------
-- Words and white space
-----------------------------------------------------------------------------------------

/-- White space and the letters of the words of insertions, which lack the letter of
hexadecimal numbers.
-/
def isPlain (char : Char) : Bool :=
  isSpace char || (char.isAlpha && char ≠ 'x')

def Plain (text : Text) : Prop :=
  ∀ char ∈ text, isPlain char = true

theorem Plain.append {first second : Text} (plainFirst : Plain first) (plainSecond : Plain second)
    : Plain (first ++ second) := by
  intro char member
  rcases List.mem_append.mp member with member | member
  · exact plainFirst char member
  · exact plainSecond char member

theorem Plain.not_mem {text : Text} (plain : Plain text) {char : Char}
    (other : isPlain char = false)
    : char ∉ text :=
  fun member => Bool.noConfusion ((plain char member).symm.trans other)

theorem Plain.unquoted {text : Text} (plain : Plain text)
    : Sql.Unquoted text := by
  intro char member
  refine ⟨?_, ?_, ?_⟩ <;> rintro rfl <;> exact plain.not_mem rfl member

/-- White space before a word begins with a character of white space. -/
theorem Gap.exists_first (gap : Gap)
    : ∃ char rest, gap.text = char :: rest ∧ isSpace char = true := by
  obtain ⟨first, rest, same⟩ := List.exists_cons_of_ne_nil gap.isThere
  exact ⟨first, rest, same, gap.isSpace first (by simp [same])⟩

/-- White space after a word ends with a character of white space. -/
theorem Gap.exists_last (gap : Gap)
    : ∃ init char, gap.text = init ++ [char] ∧ isSpace char = true := by
  obtain ⟨init, last, same⟩ := (List.eq_nil_or_concat gap.text).resolve_left gap.isThere
  exact ⟨init, last, by simpa using same, gap.isSpace last (by simp [same])⟩

theorem Space.plain (space : Space)
    : Plain space.text := by
  intro char member
  simp [isPlain, space.isSpace char member]

/-- Words in capitals. -/
class Capitals (word : String) : Prop where
  isThere : word.toList ≠ []
  isUpper : word.toList.all Char.isUpper = true

instance capitals_null : Capitals "NULL" := ⟨by decide, rfl⟩

instance capitals_hex : Capitals "X" := ⟨by decide, rfl⟩

instance capitals_bits : Capitals "B" := ⟨by decide, rfl⟩

instance capitals_insert : Capitals "INSERT" := ⟨by decide, rfl⟩

instance capitals_ignore : Capitals "IGNORE" := ⟨by decide, rfl⟩

instance capitals_replace : Capitals "REPLACE" := ⟨by decide, rfl⟩

instance capitals_into : Capitals "INTO" := ⟨by decide, rfl⟩

instance capitals_values : Capitals "VALUES" := ⟨by decide, rfl⟩

theorem Spelling.toUpper_mem {word : String} (spelling : Spelling word) {char : Char}
    (member : char ∈ spelling.text)
    : char.toUpper ∈ word.toList := by
  rw [← Text.ofString_eq, ← spelling.spells, Text.asciiUpper]
  exact List.mem_map_of_mem member

theorem Spelling.isUpper_toUpper {word : String} [capitals : Capitals word]
    (spelling : Spelling word) {char : Char} (member : char ∈ spelling.text)
    : char.toUpper.isUpper = true :=
  List.all_eq_true.mp capitals.isUpper _ (spelling.toUpper_mem member)

theorem Spelling.isAlpha {word : String} [Capitals word] (spelling : Spelling word)
    : ∀ char ∈ spelling.text, char.isAlpha = true :=
  fun _ member => Alphabet.isAlpha_of_toUpper (spelling.isUpper_toUpper member)

theorem Spelling.ne_nil {word : String} [capitals : Capitals word] (spelling : Spelling word)
    : spelling.text ≠ [] := by
  intro none
  have same := spelling.spells
  rw [none, Text.ofString_eq] at same
  exact capitals.isThere same.symm

/-- A word has a last letter. -/
theorem Spelling.exists_last {word : String} [Capitals word] (spelling : Spelling word)
    : ∃ init last, spelling.text = init ++ [last] ∧ last.isAlpha = true := by
  obtain ⟨init, last, same⟩ := (List.eq_nil_or_concat spelling.text).resolve_left spelling.ne_nil
  exact ⟨init, last, by simpa using same, spelling.isAlpha last (by simp [same])⟩

theorem Spelling.exists_first {word : String} [Capitals word] (spelling : Spelling word)
    : ∃ first rest, spelling.text = first :: rest ∧ first.isAlpha = true := by
  obtain ⟨first, rest, same⟩ := List.exists_cons_of_ne_nil spelling.ne_nil
  exact ⟨first, rest, same, spelling.isAlpha first (by simp [same])⟩

theorem Spelling.exists_single {word : String} {capital : Char} (spelling : Spelling word)
    (single : word.toList = [capital])
    : ∃ char, spelling.text = [char] ∧ char.toUpper = capital := by
  have spells := spelling.spells
  rw [Text.ofString_eq, single] at spells
  obtain ⟨char, rest, same, upper, none⟩ := List.map_eq_cons_iff.mp spells
  exact ⟨char, same.trans (congrArg _ (List.map_eq_nil_iff.mp none)), upper⟩

/-- The words of insertions are plain. -/
theorem Spelling.plain {word : String} [Capitals word] (spelling : Spelling word)
    (other : 'X' ∉ word.toList)
    : Plain spelling.text := by
  intro char member
  have noX : char ≠ 'x' := by
    rintro rfl
    exact other (spelling.toUpper_mem member)
  simp [isPlain, spelling.isAlpha char member, noX]

end DumpTransfer.Conversion.Insertion
