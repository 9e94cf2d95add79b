import DumpTransfer.Destination
import DumpTransfer.Proofs.Sql.ObjectNames
import DumpTransfer.Proofs.Text.Trimming

/-! The target of a database: a schema of its name, in the catalog that the configured text asks
for. That catalog is the text itself unless it is blank or has white space at an end. Tables are
written with their schemas in names that are read back part by part.
-/

namespace DumpTransfer.Destination

open Sql.ObjectName (Part Dot Dotted EndsName)

variable {configured : Option Text} {database : Text} {target : Destination}

/-- The schema for a database has its name and lies in the catalog that is asked for. -/
theorem eq_of_of? (found : of? configured database = .ok target)
    : target = ⟨catalogOf configured, database⟩ := by
  unfold of? at found
  cases valid : Identifier.validate database with
  | error failure =>
      rw [valid] at found
      cases found
  | ok _ =>
      rw [valid] at found
      cases catalog : catalogOf configured with
      | none =>
          rw [catalog] at found
          cases found
          rfl
      | some asked =>
          rw [catalog] at found
          cases validCatalog : Identifier.validate asked with
          | error failure =>
              simp only [bind, Except.bind, validCatalog] at found
              cases found
          | ok _ =>
              simp only [bind, Except.bind, validCatalog] at found
              cases found
              rfl

theorem schema_of (found : of? configured database = .ok target)
    : target.schema = database :=
  congrArg Destination.schema (eq_of_of? found)

theorem catalog_of (found : of? configured database = .ok target)
    : target.catalog = catalogOf configured :=
  congrArg Destination.catalog (eq_of_of? found)

theorem catalogOf_eq_self_iff (configured : Option Text)
    : catalogOf configured = configured
      ↔ ∀ text ∈ configured, text ≠ [] ∧ Text.trim text = text := by
  cases configured with
  | none => simp [catalogOf]
  | some text =>
      constructor
      · intro same other member
        obtain rfl := Option.some.inj member
        obtain ⟨found, held⟩ := Option.filter_eq_some_iff.mp same
        exact ⟨by simpa using held, Option.some.inj found⟩
      · intro normal
        obtain ⟨filled, trimmed⟩ := normal text rfl
        simp [catalogOf, trimmed, filled]

/-- What is asked for as a catalog is not blank and has no white space at its ends. -/
theorem catalogOf_catalogOf (configured : Option Text)
    : catalogOf (catalogOf configured) = catalogOf configured := by
  refine (catalogOf_eq_self_iff _).mpr fun text asked => ?_
  obtain ⟨found, filled⟩ := Option.filter_eq_some_iff.mp asked
  obtain ⟨written, -, rfl⟩ := Option.map_eq_some_iff.mp found
  exact ⟨by simpa using filled, Text.trim_trim written⟩

-----------------------------------------------------------------------------------------
-- Written names
-----------------------------------------------------------------------------------------

/-- The parts of the name of a table: the catalog if there is one, the schema and the table. -/
def partsOf (target : Destination) (table : Text) : List Text :=
  target.catalog.toList ++ [target.schema, table]

/-- The parts of a table's name tell where it is. -/
theorem partsOf_injective {left right : Destination} {table other : Text}
    (same : left.partsOf table = right.partsOf other)
    : left = right ∧ table = other := by
  obtain ⟨leftCatalog, leftSchema⟩ := left
  obtain ⟨rightCatalog, rightSchema⟩ := right
  cases leftCatalog <;> cases rightCatalog <;> simp_all [partsOf]

/-- A table in a target is written as a name of these parts. -/
theorem exists_dotted_qualify (target : Destination) (table : Text)
    : ∃ name : Dotted,
        name.written = target.qualify table ∧ name.values = target.partsOf table := by
  have catalogPart (catalog : Text)
      : ∃ part : Part, part.written = catalogText catalog ∧ part.value = catalog := by
    rw [catalogText]
    split
    next plain => exact Sql.ObjectName.exists_part_of_isPlain plain
    next _ => exact ⟨.quoted catalog, rfl, rfl⟩
  have dotText : Dot.tight.text = Text.ofString "." := by
    rw [Text.ofString_eq]
    rfl
  cases isCatalog : target.catalog with
  | none =>
      refine ⟨.more (.quoted target.schema) .tight (.last (.quoted table)), ?_, ?_⟩
      · simp [Dotted.written, dotText, qualify, schemaText, isCatalog]
      · simp [Dotted.values, Part.value, partsOf, isCatalog]
  | some catalog =>
      obtain ⟨part, written, value⟩ := catalogPart catalog
      refine ⟨.more part .tight (.more (.quoted target.schema) .tight (.last (.quoted table))),
        ?_, ?_⟩
      · simp [Dotted.written, written, dotText, qualify, schemaText, isCatalog]
      · rw [Dotted.values, value, partsOf, isCatalog]
        rfl

/-- The name of a table is read part by part up to what cannot be in it. -/
theorem read?_qualify (target : Destination) (table : Text) {rest : Text} (ends : EndsName rest)
    : Sql.ObjectName.read? (target.qualify table ++ rest) = some (target.partsOf table, rest) := by
  obtain ⟨name, written, values⟩ := target.exists_dotted_qualify table
  rw [← written, ← values]
  exact name.read?_written ends

/-- No two tables are written alike. -/
theorem qualify_injective {left right : Destination} {table other : Text}
    (same : left.qualify table = right.qualify other)
    : left = right ∧ table = other := by
  have read := left.read?_qualify table .nil
  rw [same, right.read?_qualify other .nil] at read
  exact partsOf_injective (Prod.mk.inj (Option.some.inj read)).1.symm

end DumpTransfer.Destination
