import DumpTransfer.Proofs.Conversion.TargetWords
import DumpTransfer.Proofs.Warehouse.Destinations

/-! Tables placed in one target after another. What is placed is again a name that is read, so that
only the table's own name goes from one target into the next, and the last target decides.
-/

namespace DumpTransfer.Conversion.Completion

open Sql
open Sql.ObjectName (Part Dot Dotted EndsName)
open TargetWords (Unworded)

-----------------------------------------------------------------------------------------
-- Lists of names
-----------------------------------------------------------------------------------------

/-- A comma with the white space around it. -/
structure Comma where
  before : Text
  after : Text
  blankBefore : Text.Blank before
  blankAfter : Text.Blank after

def Comma.text (comma : Comma) : Text :=
  comma.before ++ ',' :: comma.after

/-- A comma with a space after it. -/
def Comma.spaced : Comma :=
  ⟨[], [' '], by simp [Text.Blank], by simp [Text.Blank, Alphabet.isBlank]⟩

/-- Names with commas between them. -/
inductive Listing where
  | last (name : Dotted)
  | more (name : Dotted) (comma : Comma) (rest : Listing)

namespace Listing

def written : Listing → Text
  | last name => name.written
  | more name comma rest => name.written ++ (comma.text ++ rest.written)

/-- The tables that are named, without what they are qualified with. -/
def tables : Listing → List Text
  | last name => [name.object]
  | more name _ rest => name.object :: rest.tables

/-- There is no comma. -/
def IsSingle : Listing → Prop
  | last _ => True
  | more _ _ _ => False

/-- No list is empty. -/
theorem exists_tables (names : Listing) : ∃ first others, names.tables = first :: others := by
  cases names with
  | last name => exact ⟨_, _, rfl⟩
  | more name comma rest => exact ⟨_, _, rfl⟩

theorem stops (names : Listing) (rest : Text)
    : ∀ char ∈ (names.written ++ rest).head?, Alphabet.isBlank char = false := by
  cases names with
  | last name => exact name.stops rest
  | more name comma others =>
      rw [written, List.append_assoc]
      exact name.stops _

theorem length_tables_le (names : Listing) : names.tables.length ≤ names.written.length := by
  have isThere (name : Dotted) : 0 < name.written.length := by
    have enough := name.length_values_le
    cases name <;> simp only [Dotted.values, List.length_cons] at enough <;> omega
  induction names with
  | last name => exact isThere name
  | more name comma rest ih =>
      have first := isThere name
      simp only [tables, written, Comma.text, List.length_cons, List.length_append]
      omega

end Listing

/-- Tables in a target, with commas between them. -/
def placed (target : Destination) (tables : List Text) : Text :=
  Text.joinWith ", " (tables.map target.qualify)

theorem placed_cons (target : Destination) (table : Text) {tables : List Text}
    (isThere : ∃ first others, tables = first :: others)
    : placed target (table :: tables) = target.qualify table ++ ", " ++ placed target tables := by
  obtain ⟨first, others, rfl⟩ := isThere
  rfl

-----------------------------------------------------------------------------------------
-- Placing names
-----------------------------------------------------------------------------------------

/-- A name ends before a comma. -/
theorem Comma.endsName (comma : Comma) (rest : Text) : EndsName (comma.text ++ rest) := by
  have parts : comma.text ++ rest = comma.before ++ ',' :: (comma.after ++ rest) := by simp [text]
  rw [parts]
  have apart : ObjectName.isWordPart ',' = false ∧ ',' ≠ '"' := by decide
  have head := ObjectName.head_apart comma.blankBefore apart (comma.after ++ rest)
  exact {
    noQuote := fun quote => (head '"' quote).2 rfl
    noPart := fun char isHead => (head char isHead).1
    noDot := ObjectName.afterDot?_eq_none_iff.mp
      (ObjectName.afterDot?_of_blank comma.blankBefore (by simp [Alphabet.isAsciiBlank])) }

/-- Names are placed in the target one after the other. By induction over the list. -/
theorem placeNames_written (target : Destination) (several : Bool) (names : Listing) {rest : Text}
    (ends : EndsName rest) (single : several = false → names.IsSingle)
    (noComma : several = true → (rest.dropWhile Alphabet.isBlank).head? ≠ some ',') {bound : Nat}
    (enough : names.tables.length ≤ bound)
    : placeNames target several bound (names.written ++ rest)
      = placed target names.tables ++ rest := by
  induction names generalizing bound with
  | last name =>
      cases bound with
      | zero => cases enough
      | succ bound =>
          rw [placeNames, Listing.written, name.read?_written ends]
          dsimp only
          rw [Dotted.getLastD_values]
          split
          next later after => exact absurd (by rw [after]; rfl) (noComma rfl)
          next _ => rfl
  | more name comma others ih =>
      cases bound with
      | zero => cases enough
      | succ bound =>
          obtain rfl : several = true := by
            cases several with
            | true => rfl
            | false => exact (single rfl).elim
          have parts : Listing.written (.more name comma others) ++ rest
              = name.written ++ (comma.text ++ (others.written ++ rest)) := by
            simp [Listing.written]
          have toComma : (comma.text ++ (others.written ++ rest)).dropWhile Alphabet.isBlank
              = ',' :: (comma.after ++ (others.written ++ rest)) := by
            rw [Comma.text, List.append_assoc]
            exact (Text.span_run comma.blankBefore (by simp [Alphabet.isBlank])).2
          have toName : (comma.after ++ (others.written ++ rest)).dropWhile Alphabet.isBlank
              = others.written ++ rest :=
            (Text.span_run comma.blankAfter (others.stops rest)).2
          rw [placeNames, parts, name.read?_written (comma.endsName _)]
          dsimp only
          rw [toComma]
          change target.qualify (name.values.getLastD []) ++ ", " ++ placeNames target true bound
            ((comma.after ++ (others.written ++ rest)).dropWhile Alphabet.isBlank) = _
          rw [toName, ih (by simp) (Nat.le_of_succ_le_succ enough), Dotted.getLastD_values,
            Listing.tables, placed_cons _ _ others.exists_tables]
          simp

-----------------------------------------------------------------------------------------
-- Placed names
-----------------------------------------------------------------------------------------

/-- A table in a target is a name with the table as its last part. -/
theorem exists_dotted_object (target : Destination) (table : Text)
    : ∃ name : Dotted, name.written = target.qualify table ∧ name.object = table := by
  obtain ⟨name, written, values⟩ := target.exists_dotted_qualify table
  refine ⟨name, written, ?_⟩
  rw [← Dotted.getLastD_values, values, Destination.partsOf]
  cases target.catalog <;> rfl

/-- Placed tables are names again, of the same tables. By induction over the list. -/
theorem Listing.exists_placed (target : Destination) (names : Listing)
    : ∃ again : Listing, again.written = placed target names.tables
        ∧ again.tables = names.tables ∧ (names.IsSingle → again.IsSingle) := by
  induction names with
  | last name =>
      obtain ⟨again, written, object⟩ := exists_dotted_object target name.object
      exact ⟨.last again, written, congrArg ([·]) object, id⟩
  | more name comma others ih =>
      obtain ⟨again, written, object⟩ := exists_dotted_object target name.object
      obtain ⟨othersAgain, othersWritten, same, -⟩ := ih
      refine ⟨.more again .spaced othersAgain, ?_, ?_, id⟩
      · rw [Listing.tables, placed_cons _ _ others.exists_tables, Listing.written, written,
          othersWritten, List.append_assoc, Text.ofString_eq]
        rfl
      · rw [Listing.tables, Listing.tables, object, same]

theorem unworded_quote (name rest : Text) : Unworded (Identifier.quote name ++ rest) :=
  ⟨[], '"', Text.doubling '"' name ++ ['"'] ++ rest, by simp [Identifier.quote], .inl rfl, by simp⟩

/-- A catalog without quotes has no white space before the dot. -/
theorem unworded_catalogText (catalog rest : Text)
    : Unworded (Destination.catalogText catalog ++ ("." ++ rest)) := by
  rw [Destination.catalogText]
  split
  next plain =>
    refine ⟨catalog, '.', rest, by simp [Text.ofString_eq], .inr rfl, fun char member => ?_⟩
    have isPart := ObjectName.isWordPart_of_isPlainPart
      (ObjectName.isPlainPart_of_mem plain char member)
    refine Bool.eq_false_iff.mpr fun blank => ?_
    exact absurd isPart.1 (by simp [(ObjectName.apart_of_isBlank blank).1])
  next _ => exact unworded_quote catalog _

theorem unworded_qualify (target : Destination) (table rest : Text)
    : Unworded (target.qualify table ++ rest) := by
  rw [Destination.qualify, Destination.schemaText]
  cases target.catalog with
  | none =>
      simp only [List.append_assoc]
      exact unworded_quote _ _
  | some catalog =>
      simp only [List.append_assoc]
      exact unworded_catalogText catalog _

theorem unworded_placed (target : Destination) (names : Listing) (rest : Text)
    : Unworded (placed target names.tables ++ rest) := by
  cases names with
  | last name => exact unworded_qualify target name.object rest
  | more name comma others =>
      rw [Listing.tables, placed_cons _ _ others.exists_tables, List.append_assoc,
        List.append_assoc]
      exact unworded_qualify target name.object _

-----------------------------------------------------------------------------------------
-- Statements
-----------------------------------------------------------------------------------------

/-- A statement whose tables are placed: the words before their names, the names and what follows
them. Only tables to be dropped are several.
-/
structure Placeable (kind : StatementKind) where
  opening : Text
  names : Listing
  rest : Text
  opens : (beforeTarget.matchStart? (opening ++ (names.written ++ rest))).map Place.after
    = some (names.written ++ rest)
  ends : EndsName rest
  single : kind ≠ .dropTable → names.IsSingle
  noComma : kind = .dropTable → (rest.dropWhile Alphabet.isBlank).head? ≠ some ','

namespace Placeable

variable {kind : StatementKind}

def text (statement : Placeable kind) : Text :=
  statement.opening ++ (statement.names.written ++ statement.rest)

/-- The statement with its tables in a target. -/
def textIn (statement : Placeable kind) (target : Destination) : Text :=
  statement.opening ++ (placed target statement.names.tables ++ statement.rest)

/-- The names are placed, and nothing else changes. -/
theorem placeTables_text (statement : Placeable kind) (target : Destination)
    : placeTables target kind statement.text = statement.textIn target := by
  obtain ⟨opening, names, rest, opens, ends, single, noComma⟩ := statement
  obtain ⟨place, matched, after⟩ := Option.map_eq_some_iff.mp opens
  obtain ⟨-, reads⟩ := Pattern.matches_of_matchAt? matched
  have since : place.textSince (.start (opening ++ (names.written ++ rest))) = opening := by
    have split : opening ++ (names.written ++ rest)
        = place.textSince (.start (opening ++ (names.written ++ rest))) ++ place.after :=
      reads.after
    rw [after] at split
    exact (List.append_cancel_right split).symm
  have enough : names.tables.length ≤ (names.written ++ rest).length + 1 := by
    have shorter := names.length_tables_le
    rw [List.length_append]
    omega
  rw [text, placeTables, matched]
  dsimp only
  rw [since, after, placeNames_written target _ names ends (by simpa using single)
    (by simpa using noComma) enough]
  rfl

/-- The statement with its tables in a target is one whose tables are placed, and they are the same.
-/
theorem exists_textIn (statement : Placeable kind) (target : Destination)
    : ∃ again : Placeable kind, again.text = statement.textIn target
        ∧ ∀ other : Destination, again.textIn other = statement.textIn other := by
  obtain ⟨opening, names, rest, opens, ends, single, noComma⟩ := statement
  obtain ⟨namesAgain, written, tables, stillSingle⟩ := names.exists_placed target
  obtain ⟨place, matched, after⟩ := Option.map_eq_some_iff.mp opens
  have matchedAgain := TargetWords.beforeTarget_again matched after
    (unworded_placed target names rest)
  refine ⟨⟨opening, namesAgain, rest, ?_, ends, fun one => stillSingle (single one), noComma⟩,
    ?_, fun other => ?_⟩
  · rw [written, matchedAgain, Option.map_some, Place.past_after]
  · exact congrArg (fun names => opening ++ (names ++ rest)) written
  · exact congrArg (fun tables => opening ++ (placed other tables ++ rest)) tables

/-- Tables are placed by their own names whatever they were qualified with, so that of several
targets the last one decides.
-/
theorem last_target_decides (statement : Placeable kind) (target other : Destination)
    : placeTables target kind statement.text = statement.textIn target
      ∧ placeTables other kind (placeTables target kind statement.text)
        = placeTables other kind statement.text := by
  refine ⟨statement.placeTables_text target, ?_⟩
  obtain ⟨again, text, texts⟩ := statement.exists_textIn target
  calc placeTables other kind (placeTables target kind statement.text)
    _ = placeTables other kind again.text := by rw [statement.placeTables_text, text]
    _ = again.textIn other := again.placeTables_text other
    _ = statement.textIn other := texts other
    _ = placeTables other kind statement.text := (statement.placeTables_text other).symm

/-- Witness: two tables to be dropped, one of them with a dot and a quote in its name. -/
theorem lines_requalified
    : ∃ statement : Placeable .dropTable,
        statement.text = "DROP TABLE IF EXISTS \"old\" . \"a.b\"\"c\" , shop.if CASCADE"
        ∧ placeTables ⟨some "legacy", "Shop"⟩ .dropTable statement.text
          = "DROP TABLE IF EXISTS legacy.\"Shop\".\"a.b\"\"c\", legacy.\"Shop\".\"if\" CASCADE"
        ∧ placeTables ⟨none, "copy"⟩ .dropTable
            (placeTables ⟨some "legacy", "Shop"⟩ .dropTable statement.text)
          = placeTables ⟨none, "copy"⟩ .dropTable statement.text := by
  let quoted : Dotted := .more (.quoted "old")
    ⟨[' '], [' '], by simp [Alphabet.isAsciiBlank], by simp [Alphabet.isAsciiBlank]⟩
    (.last (.quoted "a.b\"c"))
  let bare : Dotted := .more
    (.bare 's' ['h', 'o', 'p'] (by decide +kernel) (List.all_eq_true.mp (by decide +kernel)))
    .tight (.last (.bare 'i' ['f'] (by decide +kernel) (List.all_eq_true.mp (by decide +kernel))))
  let comma : Comma := { Comma.spaced with
    before := [' ']
    blankBefore := Comma.spaced.blankAfter }
  let statement : Placeable .dropTable := {
    opening := "DROP TABLE IF EXISTS "
    names := .more quoted comma (.last bare)
    rest := " CASCADE"
    opens := by decide +kernel
    ends := {
      noQuote := by decide +kernel
      noPart := by
        have blank : Alphabet.isBlank ' ' = true := rfl
        simp [Text.ofString_eq, ObjectName.apart_of_isBlank blank]
      noDot := by decide +kernel }
    single := fun other => absurd rfl other
    noComma := fun _ => by decide +kernel }
  obtain ⟨placed, again⟩ := statement.last_target_decides ⟨some "legacy", "Shop"⟩ ⟨none, "copy"⟩
  exact ⟨statement, by decide +kernel, placed.trans (by decide +kernel), again⟩

end Placeable

end DumpTransfer.Conversion.Completion
