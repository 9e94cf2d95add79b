import DumpTransfer.Identifier
import DumpTransfer.Sql.QualifiedName

/-! Where one database of the dump lands in the warehouse: a schema of the same name, inside an
umbrella catalog if the run has one.
-/

namespace DumpTransfer

/-- A schema of the warehouse. -/
structure Destination where
  catalog : Option Text
  schema : Text
  deriving DecidableEq, Repr

namespace Destination

/-- The umbrella catalog that a configured text asks for; blanks alone ask for none. -/
def catalogOf (requested : Option Text) : Option Text :=
  (requested.map Text.trim).filter (! ·.isEmpty)

/-- The target of a database under the configured umbrella catalog. -/
def of? (requested : Option Text) (database : Text) : Except Failure Destination := do
  Identifier.validate database
  match catalogOf requested with
  | some catalog =>
      Identifier.validate catalog
      return ⟨some catalog, database⟩
  | none => return ⟨none, database⟩

/-- A catalog as it stands in a statement, quoted only where needed. -/
def catalogText (catalog : Text) : Text :=
  if Identifier.isPlain catalog then catalog else Identifier.quote catalog

/-- The schema as it stands in a statement. -/
def schemaText (target : Destination) : Text :=
  match target.catalog with
  | some catalog => catalogText catalog ++ "." ++ Identifier.quote target.schema
  | none => Identifier.quote target.schema

/-- A table of the schema as it stands in a statement. -/
def qualify (target : Destination) (table : Text) : Text :=
  target.schemaText ++ "." ++ Identifier.quote table

/-- A table of the schema as a name of several parts. -/
def nameOf (target : Destination) (table : Text) : Sql.QualifiedName :=
  let quoted (part : Text) : Sql.NamePart := ⟨part, some '"'⟩
  let catalog := target.catalog.map fun catalog =>
    if Identifier.isPlain catalog then ⟨catalog, none⟩ else quoted catalog
  catalog.toList ++ [quoted target.schema, quoted table]

/-- The statement that creates the schema inside its catalog. -/
def creationStatement (target : Destination) : Text :=
  "CREATE SCHEMA IF NOT EXISTS " ++ Identifier.quote target.schema

/-- The schema as it is displayed. -/
def display (target : Destination) : Text :=
  match target.catalog with
  | some catalog => catalog ++ "." ++ target.schema
  | none => target.schema

end Destination

end DumpTransfer
