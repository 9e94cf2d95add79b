import DumpTransfer.Proofs.Definition.Rules
import DumpTransfer.Proofs.ForeignKey.Clauses
import DumpTransfer.Proofs.Sql.Requoting
import DumpTransfer.Proofs.Text.Trimming

/-! Declarations of foreign keys as a dump writes them: names between back quotes, words in either
case, and white space wherever it may stand. A declaration is taken whole by the patterns that
search for it, and its parts are noted under their labels.
-/

namespace DumpTransfer.ForeignKey

open Pattern Sql
open Text (Lacks Parted)
open Conversion.Heading (isKeyword Gap spelling_stops spelling_takes)
open Conversion.Insertion (Spelling)

-----------------------------------------------------------------------------------------
-- Names
-----------------------------------------------------------------------------------------

/-- White space, possibly none. -/
structure Spaces where
  text : Text
  blank : Text.Blank text

/-- The words that declarations begin with are not mentioned. -/
structure Unmentioned (text : Text) : Prop where
  constraint : Lacks "CONSTRAINT" text
  foreign : Lacks "FOREIGN" text

/-- A name that does not mention the words that declarations begin with. -/
structure BackQuoted where
  value : Text
  isThere : value ≠ []
  unmentioned : Unmentioned value

def BackQuoted.written (name : BackQuoted) : Text :=
  nameText '`' name.value

variable {rest : Text}

theorem BackQuoted.exists_written (name : BackQuoted)
    : ∃ inside, name.written = '`' :: inside ++ ['`'] :=
  ⟨Text.doubling '`' name.value, rfl⟩

theorem BackQuoted.noting (name : BackQuoted) (label : String) (stop : rest.head? ≠ some '`')
    : (SourceName.pattern label).TakesNoting name.written rest [(label, name.written)]
      ∧ (SourceName.strictPattern label).TakesNoting name.written rest [(label, name.written)] := by
  have quoted := Conversion.Heading.quoted_takes name.isThere stop
  exact ⟨(quoted.orElse _).noting.group label, (quoted.orElse _).noting.group label⟩

theorem BackQuoted.decode_written (name : BackQuoted)
    : SourceName.decode name.written = name.value :=
  (Conversion.Heading.Name.quoted name.value name.isThere).decode

theorem BackQuoted.stops (name : BackQuoted) (rest : Text)
    : ∀ char ∈ (name.written ++ rest).head?, Alphabet.isBlank char = false := by
  obtain ⟨inside, same⟩ := name.exists_written
  rw [same]
  simpa using by decide

theorem Spaces.takes (spaces : Spaces)
    (stop : ∀ char ∈ rest.head?, Alphabet.isBlank char = false)
    : blanks.Takes spaces.text rest :=
  run_takes spaces.blank stop

/-- No back quote comes after white space where another sign stands. -/
theorem Spaces.no_quote (spaces : Spaces) {sign : Char} (other : sign ≠ '`') (rest : Text)
    : (spaces.text ++ sign :: rest).head? ≠ some '`' := by
  intro same
  cases text : spaces.text with
  | nil =>
      rw [text] at same
      exact other (Option.some.inj same)
  | cons space more =>
      rw [text] at same
      obtain rfl := Option.some.inj same
      exact absurd (spaces.blank '`' (by simp [text])) (by decide)

-----------------------------------------------------------------------------------------
-- Lists of columns
-----------------------------------------------------------------------------------------

/-- A column in a list. Its name has no sign that ends it there. -/
structure ListedColumn where
  before : Spaces
  name : BackQuoted
  after : Spaces
  unsigned : ',' ∉ name.value ∧ ')' ∉ name.value

def ListedColumn.text (column : ListedColumn) : Text :=
  column.before.text ++ (column.name.written ++ column.after.text)

def columnsText (columns : List ListedColumn) : Text :=
  Text.joinWith [','] (columns.map ListedColumn.text)

/-- Columns between parentheses. -/
def listText (columns : List ListedColumn) : Text :=
  '(' :: (columnsText columns ++ [')'])

theorem not_mem_doubling {quote sign : Char} {name : Text} (none : sign ∉ name)
    : sign ∉ Text.doubling quote name := by
  induction name with
  | nil => exact none
  | cons char more ih =>
      rw [List.mem_cons, not_or] at none
      rw [Text.doubling]
      split <;> simp [none.1, ih none.2]

/-- A sign that is in no name is not in a column either. -/
theorem ListedColumn.not_mem_text (column : ListedColumn) {sign : Char}
    (none : sign ∉ column.name.value) (noQuote : sign ≠ '`')
    (notBlank : Alphabet.isBlank sign = false)
    : sign ∉ column.text := by
  have inSpaces (spaces : Spaces) : sign ∉ spaces.text := fun member =>
    Bool.noConfusion (notBlank.symm.trans (spaces.blank sign member))
  simp [text, BackQuoted.written, nameText, inSpaces, noQuote, not_mem_doubling none]

@[simp] theorem columnsText_singleton (column : ListedColumn)
    : columnsText [column] = column.text :=
  rfl

theorem columnsText_cons (column second : ListedColumn) (more : List ListedColumn)
    : columnsText (column :: second :: more)
      = column.text ++ ',' :: columnsText (second :: more) := by
  simp [columnsText, Text.joinWith]

theorem not_mem_columnsText (columns : List ListedColumn)
    : ')' ∉ columnsText columns := by
  induction columns with
  | nil => exact List.not_mem_nil
  | cons column others ih =>
      have first := column.not_mem_text column.unsigned.2 (by decide) (by decide)
      cases others with
      | nil => simpa using first
      | cons second more =>
          rw [columnsText_cons]
          simp [first, ih]

theorem list_noting (label : String) (columns : List ListedColumn) (rest : Text)
    : (nameList label).TakesNoting (listText columns) rest [(label, columnsText columns)] := by
  have inside : (run (· ≠ ')')).Takes (columnsText columns) ([')'] ++ rest) := by
    refine run_takes (fun char member => ?_) (by simp)
    have other : char ≠ ')' := fun same => not_mem_columnsText columns (same ▸ member)
    simpa using other
  have opens : (char '(').Takes ['('] (columnsText columns ++ [')'] ++ rest) :=
    one_takes (by decide) _
  have closes : (char ')').Takes [')'] rest := one_takes (by decide) _
  have both := opens.noting.append ((inside.noting.group label).append closes.noting)
  exact both

theorem parts_of_columns {column : ListedColumn} {others : List ListedColumn}
    : Text.partsBetween (· = ',') (columnsText (column :: others))
      = (column :: others).map ListedColumn.text := by
  have noComma (column : ListedColumn) : ∀ char ∈ column.text, decide (char = ',') = false := by
    intro char member
    have none := column.not_mem_text column.unsigned.1 (by decide) (by decide)
    exact decide_eq_false fun same => none (same ▸ member)
  induction others generalizing column with
  | nil => exact Text.partsBetween_of_none (noComma column)
  | cons second more ih =>
      rw [columnsText_cons, Text.partsBetween_append (noComma column) (by decide), ih]
      rfl

theorem ListedColumn.trim_text (column : ListedColumn)
    : column.text.trim = column.name.written := by
  obtain ⟨inside, same⟩ := column.name.exists_written
  have tight : Text.Tight column.name.written :=
    ⟨'`' :: inside, '`', same, by decide, by decide⟩
  exact tight.trim_append (by rw [same]; rfl) (by decide) column.before.blank column.after.blank

/-- The names of the columns in a list are read in order. -/
theorem columnsOf_columnsText (columns : List ListedColumn)
    : columnsOf (columnsText columns) = columns.map (·.name.value) := by
  cases columns with
  | nil => rfl
  | cons column others =>
      rw [columnsOf, parts_of_columns]
      generalize column :: others = columns
      induction columns with
      | nil => rfl
      | cons column others ih =>
          have start : (Place.start column.name.written).after = column.name.written ++ [] :=
            (List.append_nil _).symm
          have stop : ([] : Text).head? ≠ some '`' := by simp
          obtain ⟨reached, found, -, notes⟩ := (column.name.noting "name" stop).2.matches start
          have name : SourceName.at? reached "name" = some column.name.value := by
            rw [SourceName.at?, Place.group?_eq, notes]
            exact congrArg some column.name.decode_written
          rw [List.map_cons, List.filterMap_cons, ih, column.trim_text, find?,
            columnName, findFrom_here found]
          simp [name]

-----------------------------------------------------------------------------------------
-- Declarations
-----------------------------------------------------------------------------------------

/-- The name of a foreign key, with the word before it. -/
structure Naming where
  constraint : Spelling "CONSTRAINT"
  before : Gap
  name : BackQuoted
  after : Gap

/-- The table that is referred to, in its database if one is given. -/
structure Target where
  database : Option (BackQuoted × Spaces × Spaces)
  table : BackQuoted
  after : Spaces

/-- A declaration of a foreign key. -/
structure Declaration where
  naming : Option Naming
  foreign : Spelling "FOREIGN"
  beforeKey : Gap
  key : Spelling "KEY"
  beforeIndex : Spaces
  index : Option (BackQuoted × Spaces)
  columns : List ListedColumn
  beforeReferences : Spaces
  references : Spelling "REFERENCES"
  beforeTarget : Gap
  target : Target
  referenced : List ListedColumn
  clauses : List Clause

def Naming.text (naming : Naming) : Text :=
  naming.constraint.text ++ (naming.before.text ++ (naming.name.written ++ naming.after.text))

def databaseText : Option (BackQuoted × Spaces × Spaces) → Text
  | none => []
  | some (name, before, after) => name.written ++ (before.text ++ '.' :: after.text)

def Target.text (target : Target) : Text :=
  databaseText target.database ++ (target.table.written ++ target.after.text)

def indexText : Option (BackQuoted × Spaces) → Text
  | none => []
  | some (name, after) => name.written ++ after.text

namespace Declaration

/-- What the declaration refers to, and what it says of rows that are referred to. -/
def referenceText (declaration : Declaration) : Text :=
  declaration.references.text ++ (declaration.beforeTarget.text ++ (declaration.target.text
    ++ (listText declaration.referenced ++ clausesText declaration.clauses)))

/-- The declaration without its name. -/
def said (declaration : Declaration) : Text :=
  declaration.foreign.text ++ (declaration.beforeKey.text ++ (declaration.key.text
    ++ (declaration.beforeIndex.text ++ ((indexText declaration.index
    ++ listText declaration.columns) ++ (declaration.beforeReferences.text
    ++ declaration.referenceText)))))

/-- The name of the foreign key, if it is given. -/
def heading (declaration : Declaration) : Text :=
  (declaration.naming.map Naming.text).getD []

def text (declaration : Declaration) : Text :=
  declaration.heading ++ declaration.said

/-- What a search notes of the declaration. -/
def notes (declaration : Declaration) : Notes :=
  [("actions", clausesText declaration.clauses),
      ("referenced", columnsText declaration.referenced),
      ("table", declaration.target.table.written)]
    ++ (declaration.target.database.map fun (name, _) => ("database", name.written)).toList
    ++ [("columns", columnsText declaration.columns)]
    ++ (declaration.index.map fun (name, _) => ("index", name.written)).toList

end Declaration

-----------------------------------------------------------------------------------------
-- Taking declarations
-----------------------------------------------------------------------------------------

/-- A name is missed where no name begins. -/
theorem name_misses (label : String) {sign : Char} (other : sign ≠ '`')
    (notBare : SourceName.isBareFolded sign = false) (rest : Text)
    : (SourceName.pattern label).Misses (sign :: rest) := by
  have quoted : SourceName.quoted.Misses (sign :: rest) :=
    ((one_misses (by simpa using other) rest).append _).append _
  have bare : (someOf SourceName.isBareFolded).Misses (sign :: rest) :=
    (one_misses notBare rest).append _
  exact fun next place after => (quoted.orElse bare) _ place after

/-- A doubled text ends at the first quote after which none comes. -/
theorem doubling_append_inj {quote : Char} {value other first second : Text}
    (stop : first.head? ≠ some quote) (stopOther : second.head? ≠ some quote)
    (same : Text.doubling quote value ++ quote :: first
      = Text.doubling quote other ++ quote :: second)
    : first = second := by
  have read := congrArg (Sql.QuotedName.readName quote) same
  rw [Sql.QuotedName.readName_doubling quote value stop,
    Sql.QuotedName.readName_doubling quote other stopOther] at read
  exact Option.some.inj (Prod.mk.inj read).2

/-- What is matched as a name between back quotes is one. -/
theorem exists_of_quoted {place reached : Place} (matched : SourceName.quoted.Matches place reached)
    : ∃ value left, place.after = nameText '`' value ++ left ∧ reached.after = left := by
  obtain ⟨middle, ⟨opened, opens, inside, part, several⟩, closes⟩ := matched
  have further : opened.offset < inside.offset := by
    rcases part with ⟨char, rest, -, -, rfl⟩ | twice
    · exact Nat.lt_succ_self _
    · obtain ⟨text, rest, -, rfl, rfl⟩ := (describes_exactly _ _ _).mp twice
      rw [Text.ofString_eq]
      exact Nat.lt_add_of_pos_right (by decide)
  have whole : (char '`' ++ many (one (· ≠ '`') <|> exactly "``") ++ char '`').Matches place
      reached :=
    ⟨middle, ⟨opened, opens, .more part further several⟩, closes⟩
  have twice : Text.ofString "``" = ['`', '`'] := by
    rw [Text.ofString_eq]
    rfl
  rw [twice] at whole
  obtain ⟨text, left, after, ⟨value, rfl⟩, rfl⟩ := (describes_quoted '`' _ _).mp whole
  exact ⟨value, left, after, rfl⟩

/-- A name between back quotes is matched as a whole or up to a back quote in it. -/
theorem rest_of_quoted {name : BackQuoted} (stop : rest.head? ≠ some '`') {place reached : Place}
    (after : place.after = name.written ++ rest) (matched : SourceName.quoted.Matches place reached)
    : reached.after = rest ∨ reached.after.head? = some '`' := by
  obtain ⟨value, left, stands, rfl⟩ := exists_of_quoted matched
  by_cases inside : reached.after.head? = some '`'
  · exact .inr inside
  · have same : Text.doubling '`' value ++ '`' :: reached.after
        = Text.doubling '`' name.value ++ '`' :: rest := by
      simpa [BackQuoted.written, nameText] using stands.symm.trans after
    exact .inl (doubling_append_inj inside stop same)

/-- The name of a table is not taken for that of a database, since no dot comes after it. -/
theorem database_misses (table : BackQuoted) (after : Spaces) (rest : Text)
    : (SourceName.pattern "database" ++ (blanks ++ (char '.' ++ blanks))).Misses
        (table.written ++ (after.text ++ '(' :: rest)) := by
  refine misses_of_not_matches ?_
  rintro place reached stands ⟨named, ⟨inner, name, rfl⟩, spaced, blank, _, dot, -⟩
  obtain ⟨spaces, left, split, all, rfl⟩ := (describes_run _ _ _).mp blank
  obtain ⟨_, others, begins, rfl, -⟩ := (describes_char '.' _ _).mp dot
  have begins : left = '.' :: others := begins
  have split : inner.after = spaces ++ left := split
  rcases name with quoted | bare
  · -- After the name comes its own back quote, or white space and no dot.
    rcases rest_of_quoted (after.no_quote (by decide) rest) stands quoted with whole | inside
    · rw [whole, begins] at split
      have dropped := congrArg (List.dropWhile Alphabet.isBlank) split
      rw [(Text.span_run after.blank (by simp [Alphabet.isBlank])).2,
        (Text.span_run all (by simp [Alphabet.isBlank])).2] at dropped
      cases dropped
    · rw [split, begins] at inside
      cases spaces with
      | nil => cases inside
      | cons space more =>
          obtain rfl := Option.some.inj inside
          exact absurd (all '`' (by simp)) (by decide)
  · obtain ⟨text, others, split, ⟨isThere, all⟩, -⟩ := (describes_someOf _ _ _).mp bare
    obtain ⟨char, more, rfl⟩ := List.exists_cons_of_ne_nil isThere
    obtain ⟨inside, same⟩ := table.exists_written
    rw [stands, same] at split
    obtain ⟨rfl, -⟩ := List.cons.inj split
    exact absurd (all '`' (by simp)) (by decide)

namespace Target

variable (target : Target)

theorem noting (rest : Text)
    : (optional (SourceName.pattern "database" ++ blanks ++ char '.' ++ blanks)
        ++ (SourceName.pattern "table" ++ blanks)).TakesNoting target.text ('(' :: rest)
          (("table", target.table.written)
            :: (target.database.map fun (name, _) => ("database", name.written)).toList) := by
  obtain ⟨database, table, after⟩ := target
  have spaces : blanks.Takes after.text ('(' :: rest) := after.takes (by simpa using by decide)
  have taken := (table.noting "table" (after.no_quote (by decide) rest)).1.append spaces.noting
  cases database with
  | none =>
      refine Misses.optional_append_noting (Misses.append ?_ _) taken
      have misses := database_misses table after rest
      rw [← List.append_assoc] at misses
      exact misses
  | some given =>
      obtain ⟨name, before, behind⟩ := given
      have spaced : blanks.Takes behind.text (table.written ++ after.text ++ '(' :: rest) := by
        rw [List.append_assoc]
        exact behind.takes (table.stops _)
      have dot : (char '.').Takes ['.']
          (behind.text ++ (table.written ++ after.text ++ '(' :: rest)) :=
        one_takes (by decide) _
      have space : blanks.Takes before.text (['.'] ++ behind.text
          ++ (table.written ++ after.text ++ '(' :: rest)) :=
        before.takes (by simpa using by decide)
      have between : (blanks ++ (char '.' ++ blanks)).Takes (before.text ++ (['.'] ++ behind.text))
          (table.written ++ after.text ++ '(' :: rest) := space.append (dot.append spaced)
      have stop : (before.text ++ (['.'] ++ behind.text)
          ++ (table.written ++ after.text ++ '(' :: rest)).head? ≠ some '`' := by
        rw [List.append_assoc]
        exact before.no_quote (by decide) _
      have named := (name.noting "database" stop).1.append between.noting
      exact named.optional.append taken

theorem stops (rest : Text)
    : ∀ char ∈ (target.text ++ rest).head?, Alphabet.isBlank char = false := by
  obtain ⟨database, table, after⟩ := target
  cases database with
  | none =>
      rw [text, databaseText, List.nil_append, List.append_assoc]
      exact table.stops _
  | some given =>
      rw [text, databaseText, List.append_assoc, List.append_assoc]
      exact given.1.stops _

end Target

namespace Declaration

variable (given : Declaration)

/-- What the declaration refers to is taken with its clauses. -/
theorem reference_noting (closes : Closes rest)
    : (letters "REFERENCES" ++ (gap
        ++ ((optional (SourceName.pattern "database" ++ blanks ++ char '.' ++ blanks)
            ++ (SourceName.pattern "table" ++ blanks))
          ++ (nameList "referenced" ++ group "actions" (many Shape.referenceAction))))).TakesNoting
        given.referenceText rest
        ([("actions", clausesText given.clauses),
            ("referenced", columnsText given.referenced)]
          ++ (("table", given.target.table.written)
            :: (given.target.database.map fun (name, _) =>
              ("database", name.written)).toList)) := by
  have actions := (clauses_take given.clauses closes).noting.group "actions"
  have columns := (list_noting "referenced" given.referenced
    (clausesText given.clauses ++ rest)).append actions
  have target := (given.target.noting (columnsText given.referenced ++ [')']
    ++ clausesText given.clauses ++ rest)).append columns
  have gap := (given.beforeTarget.takes (given.target.stops
    (listText given.referenced ++ clausesText given.clauses ++ rest))).noting
  rw [← List.append_assoc] at gap
  have word := (spelling_takes rfl given.references (given.beforeTarget.text
    ++ (given.target.text
      ++ (listText given.referenced ++ clausesText given.clauses)) ++ rest)).noting
  have whole := word.append (gap.append target)
  rw [List.append_nil, List.append_nil] at whole
  exact whole

/-- The columns are taken after the name of an index, if there is one. -/
theorem columns_noting (rest : Text)
    : (optional (SourceName.pattern "index" ++ blanks) ++ nameList "columns").TakesNoting
        (indexText given.index ++ listText given.columns) rest
        ([("columns", columnsText given.columns)]
          ++ (given.index.map fun (name, _) => ("index", name.written)).toList) := by
  have columns := list_noting "columns" given.columns rest
  cases given.index with
  | none =>
      refine Misses.optional_append_noting (Misses.append ?_ _) columns
      exact (name_misses "index" (by decide) (by decide) _).append _
  | some index =>
      obtain ⟨name, after⟩ := index
      have spaces : blanks.Takes after.text (listText given.columns ++ rest) :=
        after.takes (by simpa [listText] using by decide)
      have stop : (after.text ++ (listText given.columns ++ rest)).head? ≠ some '`' :=
        after.no_quote (by decide) _
      exact ((name.noting "index" stop).1.append spaces.noting).optional.append columns

theorem stops_columns (rest : Text)
    : ∀ char ∈ (indexText given.index ++ listText given.columns ++ rest).head?,
        Alphabet.isBlank char = false := by
  cases given.index with
  | none => simpa [indexText, listText] using by decide
  | some index =>
      rw [indexText, List.append_assoc, List.append_assoc]
      exact index.1.stops _

/-- A declaration is taken whole, and its parts are noted. -/
theorem noting (closes : Closes rest)
    : declaration.TakesNoting given.said rest given.notes := by
  have reference := given.reference_noting closes
  have blank := (given.beforeReferences.takes (spelling_stops rfl given.references
    (given.beforeTarget.text ++ (given.target.text
      ++ (listText given.referenced ++ clausesText given.clauses)) ++ rest))).noting
  rw [← List.append_assoc] at blank
  have columns := (given.columns_noting (given.beforeReferences.text ++ given.referenceText
    ++ rest)).append (blank.append reference)
  have blanks : blanks.Takes given.beforeIndex.text (indexText given.index ++ listText given.columns
      ++ (given.beforeReferences.text ++ given.referenceText) ++ rest) := by
    rw [List.append_assoc]
    exact given.beforeIndex.takes (given.stops_columns _)
  have key := spelling_takes rfl given.key (given.beforeIndex.text
    ++ (indexText given.index ++ listText given.columns
      ++ (given.beforeReferences.text ++ given.referenceText)) ++ rest)
  have gap : gap.Takes given.beforeKey.text (given.key.text ++ (given.beforeIndex.text
      ++ (indexText given.index ++ listText given.columns
        ++ (given.beforeReferences.text ++ given.referenceText))) ++ rest) := by
    rw [List.append_assoc]
    exact given.beforeKey.takes (spelling_stops rfl given.key _)
  have foreign := spelling_takes rfl given.foreign (given.beforeKey.text ++ (given.key.text
    ++ (given.beforeIndex.text ++ (indexText given.index ++ listText given.columns
      ++ (given.beforeReferences.text ++ given.referenceText)))) ++ rest)
  have whole := foreign.noting.append (gap.noting.append (key.noting.append
    (blanks.noting.append columns)))
  simp only [List.append_nil] at whole
  intro place after
  obtain ⟨reached, reads, noted, goesOn⟩ := whole place after
  refine ⟨reached, reads, ?_, goesOn⟩
  rw [noted, notes]
  simp

end Declaration

end DumpTransfer.ForeignKey
