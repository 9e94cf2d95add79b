import DumpTransfer.Proofs.Conversion.HeadingReaders
import DumpTransfer.Proofs.Extraction.LineEnds

/-! Lines that announce a database or a table, as the tool that writes dumps writes them. Whatever
the name is, a line in one of these forms is told to be of its kind, with the name itself.
-/

namespace DumpTransfer.Dump

open Conversion Sql Pattern
open Conversion.Heading (Gap Phrase Priority Act optionalText priorityText)
open Conversion.Insertion (Spelling)

/-- Words on how soon rows are inserted. -/
abbrev InsertPriority :=
  Priority ⊕ Phrase ["HIGH_PRIORITY"]

def InsertPriority.text : InsertPriority → Text
  | .inl priority => priorityText (some priority)
  | .inr phrase => phrase.text

/-- The form of a line that announces what comes after it. -/
inductive Announcement where
  /-- The comment on the current database, in its one spelling. -/
  | comment
  /-- The statement that makes a database the current one. -/
  | use (verb : Spelling "USE") (between : Gap)
  /-- A statement about a table: its definition, its removal, or rows of it. -/
  | table (heading : Heading)
  /-- A statement with rows that are inserted sooner or later than others. -/
  | rows (verb : Spelling "INSERT") (priority : InsertPriority)
      (ignore : Option (Phrase ["IGNORE"])) (into : Phrase ["INTO"]) (between : Gap)

namespace Announcement

/-- What stands before the name. -/
def before : Announcement → Text
  | comment => "-- Current Database: "
  | use verb between => verb.text ++ between.text
  | table heading => heading.text
  | rows verb priority ignore into between =>
      verb.text ++ (priority.text ++ (optionalText ignore ++ into.text)) ++ between.text

/-- What has to stand after the name. -/
def after : Announcement → Text
  | use _ _ => [';']
  | comment | table _ | rows _ _ _ _ _ => []

/-- What the scanner is to make of the line. -/
def marker (name : Text) : Announcement → Marker
  | comment | use _ _ => .boundary name
  | table heading => heading.act.marker name
  | rows _ _ _ _ _ => .rows name

/-- A line of the form, with a name between back quotes and more text after it. -/
def line (announcement : Announcement) (name rest : Text) : Text :=
  announcement.before ++ (nameText '`' name ++ (announcement.after ++ rest))

end Announcement

variable {name rest : Text}

-----------------------------------------------------------------------------------------
-- Names
-----------------------------------------------------------------------------------------

theorem decode_nameText (isThere : name ≠ [])
    : SourceName.decode (nameText '`' name) = name :=
  (Heading.Name.quoted name isThere).decode

/-- No white space and no word stands where a name between back quotes begins. -/
theorem stops_nameText (name rest : Text)
    : ∀ char ∈ (nameText '`' name ++ rest).head?, Alphabet.isBlank char = false := by
  intro char head
  obtain rfl := Option.some.inj head
  decide

/-- A name between back quotes is taken whatever comes after it, except for another back quote. -/
theorem tableName_noting (isThere : name ≠ []) (stop : rest.head? ≠ some '`') (between : Gap)
    : Marker.tableName.TakesNoting (between.text ++ nameText '`' name) rest
        [("name", nameText '`' name)] :=
  (between.takes (stops_nameText name rest)).noting.append
    (((Heading.quoted_takes isThere stop).orElse _).noting.group "name")

/-- Conditions on a table are not taken for its name. -/
theorem misses_guard_nameText (between : Gap) (name rest : Text) (body : Pattern)
    : (gap ++ (letters "IF" ++ (gap ++ body))).Misses
        (between.text ++ (nameText '`' name ++ rest)) := by
  have apart : (letters "IF").CannotBegin '`' := letters_cannotBegin rfl (by decide)
  exact between.misses (stops_nameText name rest)
    (fun _ blank => (Heading.letters_cannotBegin_blank rfl blank).append _)
    ((apart.misses _).append _)

-----------------------------------------------------------------------------------------
-- Forms
-----------------------------------------------------------------------------------------

/-- A form with a name after white space finds the name. -/
theorem nameIn_tableName {form : Pattern} {before : Text} (isThere : name ≠ [])
    (stop : rest.head? ≠ some '`') (between : Gap)
    (takes : form.Takes before (between.text ++ (nameText '`' name ++ rest)))
    : Marker.nameIn (form ++ Marker.tableName)
        (before ++ (between.text ++ (nameText '`' name ++ rest))) = some name := by
  have named := tableName_noting isThere stop between
  have found := Heading.nameIn_of_noting (TakesNoting.append (by simpa using takes.noting) named)
  simpa [decode_nameText isThere] using found

theorem comment_eq
    : Announcement.comment.before
      = Text.ofString "--" ++ [' '] ++ Text.ofString "Current Database:" ++ [' '] := by
  simp only [Announcement.before, Text.ofString_eq]
  rfl

/-- The comment on the current database names it. -/
theorem boundary?_comment (isThere : name ≠ []) (stop : rest.head? ≠ some '`')
    : boundary? (Announcement.comment.line name rest) = some name := by
  have space (next : Text) (stop : ∀ char ∈ next.head?, Alphabet.isBlank char = false)
      : blanks.Takes [' '] next :=
    run_takes (by simp; decide) stop
  have colon (more : Text)
      : ∀ char ∈ (Text.ofString "Current Database:" ++ more).head?,
          Alphabet.isBlank char = false := by
    rw [Text.ofString_eq]
    simp
    decide
  have words
      : (exactly "--" ++ blanks ++ exactly "Current Database:" ++ blanks).Takes
          Announcement.comment.before (nameText '`' name ++ rest) := by
    rw [comment_eq]
    exact (((exactly_takes _ _).append (space _ (colon _))).append
      (exactly_takes _ _)).append (space _ (stops_nameText name rest))
  have named
      : (SourceName.strictPattern "name").TakesNoting (nameText '`' name) rest
          [("name", nameText '`' name)] :=
    ((Heading.quoted_takes isThere stop).orElse _).noting.group "name"
  have dashes : (Announcement.comment.line name rest).startsWith "--" = true := by
    rw [Announcement.line, comment_eq]
    simp only [Text.ofString_eq]
    rfl
  have found := Heading.nameIn_of_noting (words.noting.append named)
  rw [List.append_assoc, decode_nameText isThere] at found
  rw [boundary?, if_pos dashes]
  exact found

/-- The statement that makes a database the current one names it. -/
theorem boundary?_use (verb : Spelling "USE") (between : Gap) (isThere : name ≠ []) (rest : Text)
    : boundary? ((Announcement.use verb between).line name rest) = some name := by
  have stop : (';' :: rest).head? ≠ some '`' := by simp
  have nothing : blanks.Takes [] (';' :: rest) := run_takes (by simp) (by simp; decide)
  have ended : (blanks ++ Pattern.char ';').Takes [';'] rest :=
    nothing.append (one_takes (by decide) rest)
  have named := (tableName_noting isThere stop between).append ended.noting
  have found : Marker.nameIn Marker.namingStatement _ = _ := Heading.nameIn_of_noting
    (TakesNoting.append (Heading.spelling_takes rfl verb _).noting named)
  have noComment : ¬ ((Announcement.use verb between).line name rest).startsWith "--" = true := by
    intro comment
    obtain ⟨more, same⟩ := head_of_comment comment
    have head : ((Announcement.use verb between).line name rest).head?.map Char.toUpper
        = some 'U' := by
      rw [Announcement.line, Announcement.before, List.append_assoc]
      exact Heading.head_of_spelling rfl verb _
    rw [same] at head
    cases head
  rw [decode_nameText isThere] at found
  rw [boundary?, if_neg noComment]
  simpa [Announcement.line, Announcement.before, Announcement.after] using found

/-- Words on how soon rows are inserted are taken. -/
theorem InsertPriority.takes (priority : InsertPriority) (rest : Text)
    : (Marker.modifier (anyWord ["LOW_PRIORITY", "DELAYED", "HIGH_PRIORITY"])).Takes
        priority.text rest := by
  have word {word : String} (known : Heading.isKeyword word = true) (between : Gap)
      (spelling : Spelling word)
      (takes : (anyWord ["LOW_PRIORITY", "DELAYED", "HIGH_PRIORITY"]).Takes spelling.text rest)
      : (Marker.modifier (anyWord ["LOW_PRIORITY", "DELAYED", "HIGH_PRIORITY"])).Takes
          (between.text ++ spelling.text) rest :=
    ((between.takes (Heading.spelling_stops known spelling rest)).append takes).optional
  rcases priority with (⟨between, spelling⟩ | ⟨between, spelling⟩) | ⟨between, spelling⟩
  · exact word rfl between spelling ((Heading.spelling_takes rfl spelling rest).orElse _)
  · refine word rfl between spelling (Misses.orElse_takes ?_ ?_)
    · exact Heading.spelling_misses rfl (by decide) spelling rest
    · exact (Heading.spelling_takes rfl spelling rest).orElse _
  · refine word rfl between spelling (Misses.orElse_takes ?_ (Misses.orElse_takes ?_ ?_))
    · exact Heading.spelling_misses rfl (by decide) spelling rest
    · exact Heading.spelling_misses rfl (by decide) spelling rest
    · exact Heading.spelling_takes rfl spelling rest

/-- An insertion with words on how soon rows are inserted is taken up to the name. -/
theorem rows_takes (verb : Spelling "INSERT") (priority : InsertPriority)
    (ignore : Option (Phrase ["IGNORE"])) (into : Phrase ["INTO"]) (following : Text)
    : (letters "INSERT" ++ Marker.modifier (anyWord ["LOW_PRIORITY", "DELAYED", "HIGH_PRIORITY"])
          ++ Marker.modifier (letters "IGNORE") ++ gap ++ letters "INTO").Takes
        (verb.text ++ (priority.text ++ (optionalText ignore ++ into.text))) following := by
  have notIgnore (rest : Text) : (gap ++ anyWord ["IGNORE"]).Misses (into.text ++ rest) :=
    into.misses rfl rfl (by decide) rest
  exact (Heading.spelling_takes rfl verb _).append <| (priority.takes _).append <|
    (Heading.optional_takes rfl ignore (notIgnore _)).append (into.takes rfl _)

theorem ofLine_rows (verb : Spelling "INSERT") (priority : InsertPriority)
    (ignore : Option (Phrase ["IGNORE"])) (into : Phrase ["INTO"]) (between : Gap)
    (isThere : name ≠ []) (stop : rest.head? ≠ some '`')
    : Marker.ofLine ((Announcement.rows verb priority ignore into between).line name rest)
      = .rows name := by
  have found : Marker.nameIn Marker.inserting _ = _ :=
    nameIn_tableName isThere stop between (rows_takes verb priority ignore into _)
  have head (more : Text) : (verb.text ++ more).head?.map Char.toUpper = some 'I' :=
    Heading.head_of_spelling rfl verb more
  rw [List.append_assoc] at found
  rw [Announcement.line, Announcement.before, List.append_assoc, List.append_assoc]
  unfold Marker.ofLine
  rw [head]
  exact congrArg (fun name? => (name?.map Marker.rows).getD .other) found

theorem ofLine_table (heading : Heading) (isThere : name ≠ []) (stop : rest.head? ≠ some '`')
    : Marker.ofLine ((Announcement.table heading).line name rest) = heading.act.marker name := by
  obtain ⟨act, between⟩ := heading
  have taken := act.form_takes_of_misses (misses_guard_nameText between name rest)
  rw [Announcement.line, Announcement.before, Heading.text, List.append_assoc]
  exact act.ofLine_of_nameIn (nameIn_tableName isThere stop between taken)

/-- A line that announces a database or a table is told to be of its kind and to name what is
written in it, whatever the name is and however the words before it are spelled and set apart. Only
another back quote right after the name could add to it. And asking any line for a boundary gives a
database exactly if a boundary is what the line is told to be.
-/
theorem markers_name_what_is_written (announcement : Announcement) (isThere : name ≠ [])
    (stop : (announcement.after ++ rest).head? ≠ some '`')
    : Marker.ofLine (announcement.line name rest) = announcement.marker name
      ∧ ∀ line database,
          boundary? line = some database ↔ Marker.ofLine line = .boundary database := by
  refine ⟨?_, fun line database => (ofLine_eq_boundary_iff line database).symm⟩
  cases announcement with
  | comment => exact (ofLine_eq_boundary_iff _ _).mpr (boundary?_comment isThere stop)
  | use verb between =>
      exact (ofLine_eq_boundary_iff _ _).mpr (boundary?_use verb between isThere rest)
  | table heading => exact ofLine_table heading isThere stop
  | rows verb priority ignore into between =>
      exact ofLine_rows verb priority ignore into between isThere stop

/-- How an insertion may begin whose rows can wait. -/
def delayedRows : Announcement :=
  .rows ⟨"insert", by decide +kernel⟩
    (.inl (.inr (.last ⟨[' '], by simp, by simp [Text.Blank]; decide⟩
      ⟨"Delayed", by decide +kernel⟩)))
    none
    (.last ⟨['\t'], by simp, by simp [Text.Blank]; decide⟩ ⟨"INTO", by decide +kernel⟩)
    ⟨[' '], by simp, by simp [Text.Blank]; decide⟩

/-- A name with a back quote at its end is told from the quote that ends it. -/
theorem delayed_rows_announced
    : Marker.ofLine "insert Delayed\tINTO `a``` VALUES (1);" = .rows "a`" := by
  have line : delayedRows.line "a`" " VALUES (1);"
      = Text.ofString "insert Delayed\tINTO `a``` VALUES (1);" := by
    decide +kernel
  have isThere : Text.ofString "a`" ≠ [] := by decide +kernel
  have stop : (delayedRows.after ++ Text.ofString " VALUES (1);").head? ≠ some '`' := by
    decide +kernel
  rw [← line]
  exact (markers_name_what_is_written delayedRows isThere stop).1

end DumpTransfer.Dump
