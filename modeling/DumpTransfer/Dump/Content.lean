import DumpTransfer.Text.Basic

/-! What a dump holds of a database: its tables in the order in which they first appear, each
with its definition and its data statements, and a count of the statements that belong to no
table.
-/

namespace DumpTransfer.Dump

/-- A table as the dump holds it. -/
structure Table where
  name : Text
  /-- The text of the table's definition, if there is one. -/
  definition : Option Text := none
  /-- The statements with the table's rows, in dump order. -/
  insertions : List Text := []
  /-- The number of rows that the statements seem to hold. -/
  estimatedRows : Nat := 0
  deriving DecidableEq, Repr

/-- A database as the dump holds it. Tables are found by name. -/
structure Database where
  name : Text
  tables : List Table := []
  /-- For each table that was unknown when rows of it came, the number of such statements. -/
  orphans : List (Text × Nat) := []
  deriving DecidableEq, Repr

namespace Database

/-- Whether a table is known. -/
def hasTable (content : Database) (table : Text) : Bool :=
  content.tables.any (·.name = table)

/-- The content with a table made known. -/
def withTable (content : Database) (table : Text) : Database :=
  if content.hasTable table then content
  else { content with tables := content.tables ++ [{ name := table }] }

/-- The content with the table of a name changed. -/
def updateTable (content : Database) (table : Text)
    (change : Table → Table)
    : Database :=
  { content with
    tables := content.tables.map fun entry =>
      if entry.name = table then change entry else entry }

/-- The content with one more statement counted for an unknown table. -/
def addOrphan (content : Database) (table : Text) : Database :=
  if content.orphans.any (·.1 = table) then
    { content with
      orphans := content.orphans.map fun entry =>
        if entry.1 = table then (entry.1, entry.2 + 1) else entry }
  else { content with orphans := content.orphans ++ [(table, 1)] }

/-- The number of rows that all tables seem to hold. -/
def estimatedRows (content : Database) : Nat :=
  (content.tables.map (·.estimatedRows)).foldr (· + ·) 0

/-- The number of statements that belong to no table. -/
def orphanTotal (content : Database) : Nat :=
  (content.orphans.map (·.2)).foldr (· + ·) 0

/-- Whether the dump held nothing of the database. -/
def isEmpty (content : Database) : Bool :=
  content.tables.isEmpty && content.orphans.isEmpty

end Database

end DumpTransfer.Dump
