import DumpTransfer.Conversion.ByTree
import DumpTransfer.Proofs.Conversion.InsertionCompleted
import DumpTransfer.Proofs.Conversion.InsertionQualified
import DumpTransfer.Proofs.Conversion.InsertionRead
import DumpTransfer.Proofs.Sql.Rendering

/-! Insertions of plain values adapted by structure. What has been read is written anew, in a
layout of its own and with every string between quotes again; completing it is completing an
insertion in that layout.
-/

namespace DumpTransfer.Conversion.Insertion

open Sql

-----------------------------------------------------------------------------------------
-- Values written anew
-----------------------------------------------------------------------------------------

/-- What is written for a string: its value, in which two quotes in a row have become one. -/
def restoredValue (marks : List Mark) : Text :=
  Text.halving '\'' (marks.flatMap Mark.read)

/-- The mark that stands for a character. -/
def markOf (char : Char) : Mark :=
  if quote : char = '\'' then .quotes
  else if backslash : char = '\\' then .escaped '\\'
  else .plain char ⟨quote, backslash⟩

theorem value_markOf (char : Char)
    : (markOf char).value = [char] := by
  unfold markOf
  split
  · rename_i quote
    rw [quote, Mark.value]
  · split
    · rename_i backslash
      rw [backslash]
      rfl
    · rfl

theorem value_marksOf (value : Text)
    : (value.map markOf).flatMap Mark.value = value := by
  induction value with
  | nil => rfl
  | cons char rest ih => simp [value_markOf, ih]

/-- A plain value as it is written anew. -/
def Value.restated : Value → Value
  | null _ => null ⟨"NULL", spells_null⟩
  | string _ marks => string none ((restoredValue marks).map markOf)
  | value => value

/-- A string is read without a quote right after a backslash. -/
def Value.IsSteady : Value → Prop
  | string _ marks => Steady '\'' (marks.flatMap Mark.read)
  | _ => True

instance : DecidablePred Value.IsSteady := fun value =>
  match value with
  | .string _ marks => inferInstanceAs (Decidable (Steady '\'' (marks.flatMap Mark.read)))
  | .null _ | .number _ _ | .hexNumber _ _ _ | .hexLiteral _ _ _ | .bitLiteral _ _ _ =>
      inferInstanceAs (Decidable True)

variable {rename : Text → QualifiedName}

theorem renderWith_integerPhrase (text : Text)
    : (integerPhrase text).renderWith rename = text := by
  unfold integerPhrase
  split
  · simp [Text.ofString_eq]
  · simp [Text.ofString_eq]
  · simp

/-- A plain value in canonical form is written as the value that it is restated to. -/
theorem renderWith_phrase {value : Value} (isPlain : value.isPlain = true)
    (steady : value.IsSteady)
    : value.phrase.renderWith rename = value.restated.byteForm.text := by
  cases value with
  | null word => simp [Value.phrase, Value.restated, Value.byteForm, Value.form, Form.text]
  | number text isNumber =>
      simp [Value.phrase, Value.restated, Value.byteForm, Value.form, Form.text,
        renderWith_integerPhrase]
  | string introducer marks =>
      rw [Value.phrase, Phrase.renderWith_quoted, between_eq steady]
      simp [Value.restated, Value.byteForm, Value.form, Form.text, value_marksOf, restoredValue]
      rfl
  | hexNumber _ _ _ | hexLiteral _ _ _ | bitLiteral _ _ _ => cases isPlain

-----------------------------------------------------------------------------------------
-- Rows written anew
-----------------------------------------------------------------------------------------

def noSpace : Space :=
  ⟨[], List.forall_mem_nil _⟩

def oneSpace : Space :=
  ⟨[' '], List.forall_mem_singleton.mpr rfl⟩

def oneGap : Gap :=
  ⟨oneSpace, space_ne_nil⟩

/-- Values with a comma and a space between each two. -/
def entriesOf : List Value → List Entry
  | [] => []
  | first :: others =>
      ⟨noSpace, first, noSpace⟩ :: others.map fun value => ⟨oneSpace, value, noSpace⟩

/-- The insertion of tuples in canonical layout. -/
def listing (tuples : List (List Value)) : Insertion where
  before := noSpace
  verb := .insert ⟨"INSERT", spells_insert⟩
  beforeInto := oneGap
  into := ⟨"INTO", spells_into⟩
  beforeName := oneGap
  name := .quoted []
  afterName := oneGap
  valuesWord := ⟨"VALUES", spells_values⟩
  rows := tuples.map fun values => ⟨oneSpace, entriesOf values, noSpace⟩
  terminator := none

/-- Tuples as texts with commas between them. -/
def listed (tuples : List (List Text)) : Text :=
  Text.joinWith ", " (tuples.map fun values => "(" ++ Text.joinWith ", " values ++ ")")

theorem written_separated (write : Value → Text) (items : List (List Piece))
    : written write (separated items) = Text.joinWith [','] (items.map (written write)) := by
  induction items with
  | nil => rfl
  | cons first others ih =>
      cases others with
      | nil => rfl
      | cons second more =>
          rw [separated, written_append, written, ih]
          simp [Text.joinWith]

theorem joinWith_prepend (separator before first : Text) (others : List Text)
    : Text.joinWith separator ((before ++ first) :: others)
      = before ++ Text.joinWith separator (first :: others) := by
  cases others with
  | nil => rfl
  | cons second more => simp [Text.joinWith]

/-- A comma and a space stand between texts when a space stands before each but the first. -/
theorem joinWith_spaced (first : Text) (others : List Text)
    : Text.joinWith [','] (first :: others.map ([' '] ++ ·))
      = Text.joinWith ", " (first :: others) := by
  induction others generalizing first with
  | nil => rfl
  | cons second more ih =>
      rw [List.map_cons, Text.joinWith, joinWith_prepend, ih second, Text.joinWith]
      simp [Text.ofString_eq]

theorem written_entriesOf (write : Value → Text) (values : List Value)
    : written write (separated ((entriesOf values).map Entry.pieces))
      = Text.joinWith ", " (values.map write) := by
  cases values with
  | nil => rfl
  | cons first others =>
      have spaced := joinWith_spaced (write first) (others.map write)
      rw [List.map_map] at spaced
      rw [written_separated, List.map_cons, ← spaced]
      simp [entriesOf, Entry.pieces, written, noSpace, oneSpace, Function.comp_def]

theorem written_listing (write : Value → Text) {tuples : List (List Value)}
    (isThere : tuples ≠ [])
    : written write (listing tuples).rowPieces
      = ' ' :: listed (tuples.map fun values => values.map write) := by
  have row (values : List Value)
      : written write (Row.pieces ⟨oneSpace, entriesOf values, noSpace⟩)
        = [' '] ++ ("(" ++ Text.joinWith ", " (values.map write) ++ ")") := by
    simp [Row.pieces, written, written_append, written_entriesOf, noSpace, oneSpace,
      Text.ofString_eq]
  have rows : ((listing tuples).rows.map Row.pieces).map (written write)
      = (tuples.map fun values => "(" ++ Text.joinWith ", " (values.map write) ++ ")").map
          ([' '] ++ ·) := by
    simp only [listing, List.map_map]
    exact List.map_congr_left fun values _ => row values
  obtain ⟨first, others, rfl⟩ := List.exists_cons_of_ne_nil isThere
  rw [rowPieces, written_separated, rows, List.map_cons, List.map_cons, joinWith_prepend,
    joinWith_spaced, listed]
  simp [Function.comp_def]

/-- The insertion of tuples as it is assembled from its parts. -/
theorem assembled_listing {tuples : List (List Value)} (isThere : tuples ≠ []) (name : Text)
    (write : Value → Text)
    : (listing tuples).assembled name write
      = "INSERT INTO " ++ name ++ " VALUES "
        ++ listed (tuples.map fun values => values.map write) := by
  rw [assembled, written_listing write isThere]
  simp [opening, toValues, ending, listing, Verb.source, noSpace, oneGap, oneSpace,
    Text.ofString_eq]

/-- A list of tuples ends with the bracket of the last one. -/
theorem tight_listed {tuples : List (List Text)} (isThere : tuples ≠ [])
    : Text.Tight (listed tuples) := by
  induction tuples with
  | nil => exact absurd rfl isThere
  | cons first others ih =>
      cases others with
      | nil => exact ⟨"(" ++ Text.joinWith ", " first, ')', by simp [listed, Text.joinWith,
          Text.ofString_eq], by decide, by decide⟩
      | cons second more =>
          have same : listed (first :: second :: more)
              = "(" ++ Text.joinWith ", " first ++ ")" ++ ", " ++ listed (second :: more) :=
            rfl
          rw [same]
          exact (ih (by simp)).append _

theorem adaptedAs_listing {tuples : List (List Value)} (isThere : tuples ≠ []) (placed : Text)
    : (listing tuples).adaptedAs placed
      = "INSERT INTO " ++ placed ++ " VALUES "
        ++ listed (tuples.map fun values => values.map Value.adapted) := by
  have tight : Text.Tight (listed (tuples.map fun values => values.map Value.adapted)) :=
    tight_listed (by simpa using isThere)
  have trimmed :=
    (tight.append ("INSERT INTO " ++ placed ++ " VALUES ")).trimEnd_append Text.blank_nil
  rw [List.append_nil] at trimmed
  rw [adaptedAs, written_listing Value.adapted isThere]
  simpa [listing, Verb.adapted, Verb.clause, oneGap, oneSpace, Text.ofString_eq] using trimmed

-----------------------------------------------------------------------------------------
-- Names written anew
-----------------------------------------------------------------------------------------

/-- A name is written anew without a quote right after a backslash. -/
def SteadyName (target : Destination) (name : Text) : Prop :=
  Steady '"' name ∧ Steady '"' target.schema
    ∧ ∀ catalog ∈ target.catalog, Steady '"' catalog

/-- The parts of a name as they are written anew, with two quotes in a row made one. -/
def restatedName (name : QualifiedName) : List NamePart :=
  name.map fun part => { part with value := Text.halving '"' part.value }

/-- A part of a name stands without quotes where it needs none, and else between double ones. -/
theorem mem_nameOf {target : Destination} {name : Text} {part : NamePart}
    (member : part ∈ target.nameOf name)
    : (part.quote = none ∧ Identifier.isPlain part.value = true)
      ∨ part.quote = some '"'
        ∧ (part.value = name ∨ part.value = target.schema ∨ target.catalog = some part.value) := by
  rw [Destination.nameOf] at member
  rcases List.mem_append.mp member with inCatalog | member
  · cases catalog : target.catalog with
    | none => simp [catalog] at inCatalog
    | some catalogName =>
        simp only [catalog, Option.map_some, Option.toList_some, List.mem_singleton] at inCatalog
        by_cases plain : Identifier.isPlain catalogName = true
        · rw [if_pos plain] at inCatalog
          exact Or.inl (by simp [inCatalog, plain])
        · rw [if_neg plain] at inCatalog
          exact Or.inr (by simp [inCatalog])
  · simp only [List.mem_cons, List.not_mem_nil, or_false] at member
    rcases member with rfl | rfl
    · exact Or.inr ⟨rfl, Or.inr (Or.inl rfl)⟩
    · exact Or.inr ⟨rfl, Or.inl rfl⟩

theorem halving_of_isPlain {name : Text} (plain : Identifier.isPlain name = true)
    : Text.halving '"' name = name := by
  have unquoted : '"' ∉ name := not_mem_of_isPlain plain rfl
  have same := Text.doubling_of_not_mem unquoted
  have back := Text.halving_doubling '"' name
  rwa [same] at back

theorem render_nameOf {target : Destination} {name : Text} (steady : SteadyName target name)
    : (target.nameOf name).render = dotted (restatedName (target.nameOf name)) := by
  rw [QualifiedName.render, dotted, restatedName, List.map_map]
  refine congrArg (Text.joinWith ".") (List.map_congr_left fun part member => ?_)
  rcases mem_nameOf member with ⟨bare, plain⟩ | ⟨quoted, origin⟩
  · simp [NamePart.render, partText, bare, halving_of_isPlain plain]
  · have isSteady : Steady '"' part.value := by
      rcases origin with same | same | same
      · exact same ▸ steady.1
      · exact same ▸ steady.2.1
      · exact steady.2.2 _ same
    simp [NamePart.render, partText, quoted, between_eq isSteady]

theorem isStandard_restatedName (target : Destination) (name : Text)
    : ∀ part ∈ restatedName (target.nameOf name), IsStandard part := by
  intro restated member bare
  obtain ⟨part, inName, rfl⟩ := List.mem_map.mp member
  rcases mem_nameOf inName with ⟨_, plain⟩ | ⟨quoted, _⟩
  · rwa [halving_of_isPlain plain]
  · rw [quoted] at bare
    cases bare

/-- The table that a name of the target is completed to. -/
def restatedTable (target : Destination) (name : Text) : Text :=
  target.qualify (kept (Text.halving '"' name))

theorem forms_nameOf (target : Destination) (name : Text)
    : ∃ stored, NameForms target (dotted (restatedName (target.nameOf name))) stored
        (restatedTable target name) := by
  have isThere : restatedName (target.nameOf name) ≠ [] := by
    simp [restatedName, Destination.nameOf]
  have forms := forms_dotted target isThere (isStandard_restatedName target name)
  have last
      : (((restatedName (target.nameOf name)).map keptPart).map (·.value)).getLastD []
        = kept (Text.halving '"' name) := by
    cases target.catalog <;>
      simp [restatedName, Destination.nameOf, keptPart, List.getLastD_eq_getLast?]
  rw [last] at forms
  exact ⟨_, forms⟩

-----------------------------------------------------------------------------------------
-- Adapting and completing
-----------------------------------------------------------------------------------------

/-- The values of rows, row by row. -/
def tuples (insertion : Insertion) : List (List Value) :=
  insertion.rows.map fun row => row.entries.map (·.value)

/-- The values of rows as they are written anew. -/
def restatedTuples (insertion : Insertion) : List (List Value) :=
  insertion.tuples.map fun values => values.map Value.restated

theorem renderWith_statement {insertion : Insertion} (plain : insertion.IsPlain)
    (steady : ∀ value ∈ values insertion.rows, value.IsSteady) (target : Destination)
    {name : Text} (steadyName : SteadyName target name)
    : ((ByTree.adaptStatement target (insertion.statement name)).phrase).renderWith target.nameOf
      = (listing insertion.restatedTuples).assembled (dotted (restatedName (target.nameOf name)))
          (·.byteForm.text) := by
  have isThere : insertion.restatedTuples ≠ [] := by
    simpa [restatedTuples, tuples] using plain.rows
  have several : 1 < (target.nameOf name).length := by
    simp [Destination.nameOf]
  have row {row : Row} (member : row ∈ insertion.rows)
      : row.phrase.renderWith target.nameOf
        = "(" ++ Text.joinWith ", " (row.entries.map fun entry =>
            entry.value.restated.byteForm.text) ++ ")" := by
    have entries : (row.entries.map fun entry => entry.value.phrase).map
          (Phrase.renderWith target.nameOf)
        = row.entries.map fun entry => entry.value.restated.byteForm.text := by
      rw [List.map_map]
      exact List.map_congr_left fun entry inRow =>
        renderWith_phrase (plain.values _ (mem_values member inRow))
          (steady _ (mem_values member inRow))
    rw [Row.phrase, Phrase.renderWith_parenthesized, Phrase.renderWith_list, entries]
  have rows : (insertion.rows.map Row.phrase).map (Phrase.renderWith target.nameOf)
      = (insertion.restatedTuples.map fun values => values.map (·.byteForm.text)).map
          fun values => "(" ++ Text.joinWith ", " values ++ ")" := by
    simp only [restatedTuples, tuples, List.map_map]
    refine List.map_congr_left fun one member => (row member).trans ?_
    simp [Function.comp_def]
  have object : QualifiedName.object [⟨name, some '`'⟩] = name := rfl
  rw [assembled_listing isThere, listed, ← rows, ← render_nameOf steadyName]
  simp [statement, ByTree.adaptStatement, Statement.phrase, object,
    Phrase.renderWith_relation several, Text.ofString_eq]

/-- A plain insertion is adapted by structure. -/
theorem adaptByTree_source {insertion : Insertion} (plain : insertion.IsPlain)
    (steady : ∀ value ∈ values insertion.rows, value.IsSteady) (target : Destination)
    {name : Text} (named : insertion.name = .quoted name) (steadyName : SteadyName target name)
    : ByTree.strategy.adapt target insertion.source
      = ⟨.ok ((listing insertion.restatedTuples).assembled
          (dotted (restatedName (target.nameOf name))) (·.byteForm.text)), []⟩ := by
  have kind : StatementKind.ofStatement insertion.source = .insert := by
    rw [source_eq]
    exact insertion.ofStatement_opening _
  have whole : ByTree.upToColumns insertion.source = insertion.source := by
    rw [ByTree.upToColumns, kind, if_pos (by decide)]
  have unfolded : ByTree.strategy.adapt = ByTree.adapt := rfl
  have silent : ByTree.warnings (insertion.statement name) = [] := rfl
  rw [unfolded, ByTree.adapt, whole, ofText?_source plain named]
  dsimp only
  rw [renderWith_statement plain steady target steadyName, silent]

/-- A plain insertion adapted by structure is completed to the insertion of its tuples as they are
written anew.
-/
theorem complete_byTree {insertion : Insertion} (plain : insertion.IsPlain)
    (target : Destination) (name : Text)
    : (Completion.complete target ((listing insertion.restatedTuples).assembled
          (dotted (restatedName (target.nameOf name))) (·.byteForm.text))).1
      = "INSERT INTO " ++ restatedTable target name ++ " VALUES "
        ++ listed (insertion.restatedTuples.map fun values => values.map Value.adapted) := by
  have isThere : insertion.restatedTuples ≠ [] := by
    simpa [restatedTuples, tuples] using plain.rows
  obtain ⟨stored, forms⟩ := forms_nameOf target name
  rw [forms.complete_assembled]
  exact adaptedAs_listing isThere _

end DumpTransfer.Conversion.Insertion
