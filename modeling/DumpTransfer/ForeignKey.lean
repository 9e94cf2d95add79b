import DumpTransfer.Destination
import DumpTransfer.SourceName
import DumpTransfer.Sql.Shape

/-! Foreign keys as the table definitions of a dump declare them, and the statements that
attach them to the loaded tables and validate them.
-/

namespace DumpTransfer

/-- A foreign key. -/
structure ForeignKey where
  /-- The declared name, or one made from the table's name and a number. -/
  name : Text
  table : Text
  columns : List Text
  /-- The database of the other table, if it is given. -/
  referencedDatabase : Option Text
  referencedTable : Text
  referencedColumns : List Text
  /-- What is done when a referenced row is deleted. -/
  onDelete : Option Text
  /-- What is done when a referenced row is updated. -/
  onUpdate : Option Text
  deriving DecidableEq, Repr

namespace ForeignKey

/-- The other table, which may lie in the schema of another database under the same catalog. -/
def referencedName (key : ForeignKey) (target : Destination) : Except Failure Text :=
  match key.referencedDatabase with
  | some database =>
      if database = target.schema then .ok (target.qualify key.referencedTable)
      else do
        let other ← Destination.of? target.catalog database
        return other.qualify key.referencedTable
  | none => .ok (target.qualify key.referencedTable)

/-- What is said of an action, if one is declared. -/
def actionClause (event : String) (action : Option Text) : Text :=
  match action with
  | some action => " ON " ++ event ++ " " ++ action
  | none => []

/-- The statement that attaches the foreign key without checking the rows that are there. -/
def attachStatement (key : ForeignKey) (target : Destination) : Except Failure Text := do
  let referenced ← key.referencedName target
  return "ALTER TABLE " ++ target.qualify key.table ++ " ADD CONSTRAINT "
    ++ Identifier.quote key.name ++ " FOREIGN KEY (" ++ Identifier.quoteAll key.columns
    ++ ") REFERENCES " ++ referenced ++ " (" ++ Identifier.quoteAll key.referencedColumns
    ++ ")" ++ actionClause "DELETE" key.onDelete ++ actionClause "UPDATE" key.onUpdate
    ++ " NOT VALID"

/-- The statement that checks the rows that are there. -/
def checkStatement (key : ForeignKey) (target : Destination) : Text :=
  "ALTER TABLE " ++ target.qualify key.table ++ " VALIDATE CONSTRAINT "
    ++ Identifier.quote key.name

/-- Names between parentheses, recorded under a label as one text. -/
def nameList (label : String) : Pattern :=
  .char '(' ++ .group label (.run (· ≠ ')')) ++ .char ')'

/-- A declaration from its first keyword on. -/
def declaration : Pattern :=
  .words ["FOREIGN", "KEY"] ++ .blanks
    ++ .optional (SourceName.pattern "index" ++ .blanks)
    ++ nameList "columns" ++ .blanks
    ++ .letters "REFERENCES" ++ .gap
    ++ .optional (SourceName.pattern "database" ++ .blanks ++ .char '.' ++ .blanks)
    ++ SourceName.pattern "table" ++ .blanks
    ++ nameList "referenced"
    ++ .group "actions" (.many Sql.Shape.referenceAction)

/-- A declaration with a name. -/
def named : Pattern :=
  .wordEdge ++ .letters "CONSTRAINT" ++ .gap ++ SourceName.pattern "name" ++ .gap ++ declaration

/-- A declaration, whether it has a name or not. -/
def unnamed : Pattern :=
  .wordEdge ++ declaration

/-- A name of a column. -/
def columnName : Pattern :=
  SourceName.strictPattern "name"

/-- The columns in a list. What stands around a name, such as a length, is passed over. -/
def columnsOf (list : Text) : List Text :=
  (Text.partsBetween (· = ',') list).filterMap fun part => do
    let found ← columnName.find? part.trim
    SourceName.at? found.finish "name"

/-- One action of a declaration. -/
def singleAction : Pattern :=
  .letters "ON" ++ .gap ++ .group "event" (.anyWord ["DELETE", "UPDATE"]) ++ .gap
    ++ .group "action" Sql.Shape.action

/-- The action for an event in capitals with single spaces; the last one given holds. -/
def actionFor (event : String) (actions : Text) : Option Text :=
  let given := (singleAction.findAll actions).filter fun found =>
    Text.equalsIgnoringCase (found.finish.group "event") event
  given.getLast?.map fun found =>
    (Text.joinWith [' '] (found.finish.group "action").words).flatMap Alphabet.capitals

/-- The foreign key that a declaration found in the definition of a table stands for. -/
def ofMatch (table name : Text) (found : Pattern.Match) : ForeignKey :=
  let place := found.finish
  { name := Identifier.stored name
    table
    columns := columnsOf (place.group "columns")
    referencedDatabase := SourceName.at? place "database"
    referencedTable := (SourceName.at? place "table").getD []
    referencedColumns := columnsOf (place.group "referenced")
    onDelete := actionFor "DELETE" (place.group "actions")
    onUpdate := actionFor "UPDATE" (place.group "actions") }

/-- Whether a place lies within a match. -/
def isWithin (offset : Nat) (found : Pattern.Match) : Bool :=
  found.start ≤ offset && offset < found.finish.offset

/-- The name made for the declaration of a given number among those without a name. -/
def generatedName (table : Text) (number : Nat) : Text :=
  "fk_" ++ table ++ "_" ++ Text.ofNat number

/-- The foreign keys with names, and where they are declared. -/
def namedKeys (table : Text) (declarations : List Pattern.Match) : List (Nat × ForeignKey) :=
  declarations.filterMap fun found =>
    (SourceName.at? found.finish "name").map fun name => (found.start, ofMatch table name found)

/-- The foreign keys without names, and where they are declared. -/
def unnamedKeys (table : Text) (declarations : List Pattern.Match) : List (Nat × ForeignKey) :=
  (declarations.zipIdx 1).map fun (found, number) =>
    (found.start, ofMatch table (generatedName table number) found)

/-- The foreign keys that the definition of a table declares, in order. -/
def ofDefinition (definition table : Text) : List ForeignKey :=
  let withNames := named.findAll definition
  let others := (unnamed.findAll definition).filter fun found =>
    !withNames.any (isWithin found.start)
  let found := namedKeys table withNames ++ unnamedKeys table others
  (found.mergeSort fun left right => left.1 ≤ right.1).map (·.2)

end ForeignKey

end DumpTransfer
