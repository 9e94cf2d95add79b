import DumpTransfer.ColumnType
import DumpTransfer.Conversion.Strategy
import DumpTransfer.Sql.Grammar.Statement
import DumpTransfer.Sql.Parenthesis
import DumpTransfer.Sql.StatementKind

/-! Adapting by structure: a statement is read as a whole, its columns, constraints and table
names are replaced, and it is written in canonical form. A statement that cannot be read is
refused. Options of a table are not read, since none of them is kept.
-/

namespace DumpTransfer.Conversion.ByTree

open Sql

/-- A table definition up to the end of its column list, any other statement as it is. -/
def upToColumns (statement : Text) : Text :=
  if StatementKind.ofStatement statement ≠ .createTable then statement
  else
    match Parenthesis.firstOpen? statement with
    | none => statement
    | some (head, list) =>
        match Parenthesis.body? list with
        | none => statement
        | some (body, _) => head ++ "(" ++ body ++ ")"

/-- Whether an attribute has a counterpart in the warehouse that cannot break the load. -/
def isKeptAttribute : AttributeKind → Bool
  | .reference | .uniqueness | .update | .rowNumbering | .comment | .characterSet => false
  | .nullability | .default | .primaryKey | .check | .generation => true

/-- Whether a constraint is kept. Foreign keys are attached later, and indexes not at all. -/
def isKeptConstraint : ConstraintKind → Bool
  | .primaryKey | .check => true
  | .uniqueness | .foreignKey | .index => false

/-- Whether a column numbers the rows of its table. -/
def numbersRows (column : Column) : Bool :=
  column.attributes.any (·.kind = .rowNumbering)

/-- The warehouse type for a column. -/
def typeOf (column : Column) : WarehouseType :=
  ColumnType.mapText column.type.render (numbersRows column)

/-- A column with a warehouse type and with the attributes that are kept. -/
def adaptColumn (column : Column) : Column :=
  { column with
    type := .plain (typeOf column).name
    attributes := column.attributes.filter fun said => isKeptAttribute said.kind }

/-- What is lost with the type of a column. -/
def columnWarning (table : Text) (column : Column) : Option Text :=
  (typeOf column).warning.map fun warning =>
    table ++ "." ++ column.name.value ++ ": " ++ warning

/-- A table definition for the warehouse. -/
def adaptDefinition (target : Destination) (definition : TableDefinition)
    : TableDefinition :=
  { definition with
    name := target.nameOf definition.name.object
    columns := definition.columns.map adaptColumn
    constraints := definition.constraints.filter fun constraint =>
      isKeptConstraint constraint.kind }

/-- A statement for the warehouse. -/
def adaptStatement (target : Destination) : Statement → Statement
  | .createTable definition => .createTable (adaptDefinition target definition)
  | .drop head names tail => .drop head (names.map fun name => target.nameOf name.object) tail
  | .insert head table tail => .insert head (target.nameOf table.object) tail
  | .other phrase => .other phrase

/-- What is warned of in a statement. -/
def warnings : Statement → List Text
  | .createTable definition =>
      definition.columns.filterMap (columnWarning definition.name.object)
  | _ => []

/-- A statement. -/
def adapt (target : Destination) (statement : Text) : Adaptation :=
  match Statement.ofText? (upToColumns statement) with
  | none => { result := .error "sql parser error" }
  | some [read] =>
      { result := .ok ((adaptStatement target read).phrase.renderWith target.nameOf),
        warnings := warnings read }
  | some statements =>
      { result := .error
          ("expected one statement, parsed " ++ Text.ofNat statements.length) }

/-- Adapting by structure. -/
def strategy : Strategy :=
  ⟨"tree", adapt⟩

end DumpTransfer.Conversion.ByTree
