import DumpTransfer.Sql.Phrase

/-! Statements, as far as their parts matter for a conversion: table definitions have columns with
their types and attributes, and constraints. All else of a statement is kept in canonical form.
-/

namespace DumpTransfer.Sql

/-- What an attribute of a column says. -/
inductive AttributeKind where
  | nullability
  | default
  | primaryKey
  | uniqueness
  | reference
  | check
  /-- The column numbers the rows of its table. -/
  | rowNumbering
  /-- The column gets a value whenever its row is written. -/
  | update
  | generation
  | comment
  | characterSet
  deriving DecidableEq, Repr

/-- An attribute of a column in canonical form. -/
structure Attribute where
  kind : AttributeKind
  phrase : Phrase
  deriving DecidableEq, Repr

/-- A column of a table. -/
structure Column where
  name : NamePart
  type : Phrase
  collation : Option QualifiedName
  attributes : List Attribute
  deriving DecidableEq, Repr

/-- What a constraint on a table says. -/
inductive ConstraintKind where
  | primaryKey
  | uniqueness
  | foreignKey
  | check
  /-- An index, which is no constraint but is declared like one. -/
  | index
  deriving DecidableEq, Repr

/-- A constraint on a table in canonical form. -/
structure TableConstraint where
  kind : ConstraintKind
  phrase : Phrase
  deriving DecidableEq, Repr

/-- A table definition. -/
structure TableDefinition where
  /-- What stands before the name. -/
  head : Phrase
  name : QualifiedName
  /-- What stands between the name and the columns. -/
  place : Phrase
  columns : List Column
  constraints : List TableConstraint
  /-- What stands between the columns and the tables that the definition is taken from. -/
  rowIdentity : Phrase
  /-- The tables that the definition is taken from, with the words before them. -/
  models : Phrase
  options : Phrase
  /-- The query whose rows the table is made of. -/
  query : Option Phrase
  deriving DecidableEq, Repr

/-- The attributes of a column as they are written after its type. -/
def Column.attributePhrase (column : Column) : Phrase :=
  column.attributes.flatMap fun said => Phrase.plain " " ++ said.phrase

/-- A column as it is written. -/
def Column.phrase (column : Column) : Phrase :=
  Phrase.plain column.name.render ++ " " ++ column.type
    ++ Phrase.spaced (column.collation.map fun name => "COLLATE " ++ Phrase.name name)
    ++ column.attributePhrase

/-- The columns and constraints as they are written. They are left out only where something
else says what the table consists of.
-/
def TableDefinition.body (definition : TableDefinition) : Phrase :=
  let items :=
    definition.columns.map Column.phrase ++ definition.constraints.map (·.phrase)
  if !items.isEmpty then " (" ++ .list items ++ ")"
  else if definition.query.isNone && definition.models.isEmpty then " ()"
  else []

/-- A definition as it is written. -/
def TableDefinition.phrase (definition : TableDefinition) : Phrase :=
  definition.head ++ Phrase.relation definition.name ++ definition.place ++ definition.body
    ++ definition.rowIdentity ++ definition.models ++ definition.options
    ++ Phrase.spaced (definition.query.map fun query => "AS " ++ query)

/-- A statement. -/
inductive Statement where
  | createTable (definition : TableDefinition)
  /-- Objects that are removed. -/
  | drop (head : Phrase) (names : List QualifiedName) (tail : Phrase)
  /-- Rows that are added to a table. -/
  | insert (head : Phrase) (table : QualifiedName) (tail : Phrase)
  | other (phrase : Phrase)
  deriving DecidableEq, Repr

/-- A statement in canonical form. -/
def Statement.phrase : Statement → Phrase
  | createTable definition => definition.phrase
  | drop head names tail => head ++ (Phrase.list (names.map Phrase.name) ++ tail)
  | insert head table tail => head ++ (Phrase.relation table ++ tail)
  | other phrase => phrase

end DumpTransfer.Sql
