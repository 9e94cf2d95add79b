import DumpTransfer.Sql.Grammar.Basic
import DumpTransfer.Sql.Grammar.RowLimit
import DumpTransfer.Sql.Grammar.Source
import DumpTransfer.Sql.Grammar.Storage

/-! Changes of the rows of tables: rows that are added, changed and deleted, and rows that are
given value by value.
-/

-----------------------------------------------------------------------------------------
-- Rows
-----------------------------------------------------------------------------------------

namespace DumpTransfer.Sql.Grammar.Rows

/-- Rows in canonical form. -/
structure Row where
  /-- Whether the row is marked as one. -/
  isMarked : Bool
  values : Phrase

/-- A row of values, which may be empty. -/
def row (inner : Grammar) : Parser Row := do
  let isMarked ← Parser.keyword "ROW"
  let values ← Parser.parenthesized do
    return .list (← Parser.commaSeparatedBefore ")" (inner.expression 0))
  return { isMarked, values }

/-- Rows of values, after their keyword. Either all of them are marked as rows or none. -/
def read (inner : Grammar) : Parser Phrase := do
  let rows ← Parser.commaSeparated (row inner)
  let mark : Phrase := if rows.any (·.isMarked) then "ROW" else []
  return "VALUES " ++ .list (rows.map fun row => mark ++ row.values)

end DumpTransfer.Sql.Grammar.Rows

-----------------------------------------------------------------------------------------
-- Changes
-----------------------------------------------------------------------------------------

namespace DumpTransfer.Sql.Grammar.Change

/-- A column, or several between parentheses, that get a value. -/
def target : Parser Phrase := do
  if ← Parser.isSign "(" then Parser.parenthesized (Parser.list Parser.name) else Parser.name

/-- A column that gets a value. -/
def assignment (inner : Grammar) : Parser Phrase := do
  let columns ← target
  Parser.expectSign "="
  return columns ++ " = " ++ (← inner.expression 0)

/-- Columns that get values. -/
def assignments (inner : Grammar) : Parser Phrase :=
  Parser.list (assignment inner)

/-- The columns that rows are given for, before a space, or nothing. -/
def columns : Parser Phrase := do
  if ← Parser.isSign "(" then
    let names ← Parser.inParentheses (Parser.commaSeparatedBefore ")" Parser.part)
    return if names.isEmpty then [] else .parenthesized (.list names) ++ " "
  else return []

/-- The partitions that rows are added to, before a space, or nothing. -/
def partition (inner : Grammar) : Parser Phrase := do
  match ← Parser.clause? ["PARTITION"] inner.expressionList with
  | some phrase => return phrase ++ " "
  | none => return []

/-- A name for the rows that are added, with names for their columns. -/
def rowName : Parser Phrase :=
  Parser.clause ["AS"] do return (← Parser.name) ++ (← Parser.optionalPartList)

/-- The rows that new ones are compared with. -/
def conflictTarget : Parser Phrase := do
  if ← Parser.isSign "(" then Parser.partList
  else Parser.clause ["ON", "CONSTRAINT"] Parser.name

/-- What happens to a new row that is in conflict with another one, after the keyword. -/
def onConflict (inner : Grammar) : Parser Phrase := do
  let place ← conflictTarget
  Parser.expectKeyword "DO"
  if ← Parser.keyword "NOTHING" then return " ON CONFLICT" ++ place ++ " DO NOTHING"
  else
    Parser.expectKeywords ["UPDATE", "SET"]
    let changes ← assignments inner
    return " ON CONFLICT" ++ place ++ " DO UPDATE SET " ++ changes ++ (← inner.filter)

/-- What happens to rows that are there already, if anything is said of it. -/
def onDuplicate (inner : Grammar) : Parser Phrase := do
  if ← Parser.keyword "ON" then
    if ← Parser.keyword "CONFLICT" then onConflict inner
    else
      Parser.expectKeywords ["DUPLICATE", "KEY", "UPDATE"]
      return " ON DUPLICATE KEY UPDATE " ++ (← assignments inner)
  else return []

/-- The rows that are added, with the columns that they are given for. -/
def added (inner : Grammar) : Parser Phrase := do
  if ← Parser.keywords ["DEFAULT", "VALUES"] then return "DEFAULT VALUES"
  else
    let names ← columns
    let parts ← partition inner
    return names ++ parts ++ (← inner.query)

/-- Rows that are written to files, after the keyword for the place of these. -/
def toDirectory (inner : Grammar) (head : Phrase) : Parser Statement := do
  let path ← Parser.stringValue
  let format ← Parser.clause ["STORED", "AS"] FileFormat.read
  return .other
    (head ++ " DIRECTORY " ++ .quoted '\'' path ++ format ++ " " ++ (← inner.query))

/-- Rows that are added to a table, after the given keyword. -/
def insert (inner : Grammar) (keyword : String) : Parser Statement := do
  let priority ← Parser.spacedAny ["LOW_PRIORITY", "DELAYED", "HIGH_PRIORITY"]
  let tolerant ← Parser.spacedKeyword "IGNORE"
  let overwriting ← Parser.spacedKeyword "OVERWRITE"
  let into ← Parser.spacedKeyword "INTO"
  let nearby ← Parser.spacedKeyword "LOCAL"
  if ← Parser.keyword "DIRECTORY" then toDirectory inner ("INSERT" ++ overwriting ++ nearby)
  else
    let word ← Parser.spacedKeyword "TABLE"
    let table ← Parser.qualifiedName
    let rows ← added inner
    let name ← rowName
    let otherwise ← onDuplicate inner
    let returned ← Item.returned inner
    return .insert (keyword ++ priority ++ tolerant ++ overwriting ++ into ++ word ++ " ") table
      (" " ++ rows ++ name ++ otherwise ++ returned)

/-- A change of rows, after its keyword. A word for a further table says nothing without one. -/
def update (inner : Grammar) : Parser Phrase := do
  let table ← Source.joined inner
  Parser.expectKeyword "SET"
  let changes ← assignments inner
  let _ ← Parser.keyword "FROM"
  let condition ← inner.filter
  return "UPDATE " ++ table ++ " SET " ++ changes ++ condition ++ (← Item.returned inner)

/-- The tables whose rows are deleted, where they are not those that the rows are taken from. -/
def deletedFrom : Parser Phrase := do
  if ← Parser.isKeyword ["FROM"] then return []
  else return (← Parser.list Parser.name) ++ " "

/-- A deletion of rows, after its keyword. -/
def delete (inner : Grammar) : Parser Phrase := do
  let tables ← deletedFrom
  Parser.expectKeyword "FROM"
  let source ← Source.tables inner
  let others ← Parser.clause ["USING"] (Source.tables inner)
  let condition ← inner.filter
  let returned ← Item.returned inner
  let order ← inner.orderBy
  let most ← Parser.after "LIMIT" (RowLimit.count? inner)
  return "DELETE " ++ tables ++ "FROM " ++ source ++ others ++ condition ++ returned ++ order
    ++ .spaced (most.join.map ("LIMIT " ++ ·))

/-- Which rows a part of a merge is for, and whether they are new ones. -/
def mergedRows : Parser (Phrase × Bool) := do
  let negated ← Parser.keyword "NOT"
  Parser.expectKeyword "MATCHED"
  if negated then
    if ← Parser.keywords ["BY", "SOURCE"] then return ("NOT MATCHED BY SOURCE", false)
    else return ("NOT MATCHED" ++ (← Parser.spacedKeywords ["BY", "TARGET"]), true)
  else return ("MATCHED", false)

/-- What a merge does with rows, given whether they are new ones. -/
def mergeAction (inner : Grammar) (isNew : Bool) : Parser Phrase := do
  match ← Parser.oneOf ["UPDATE", "DELETE", "INSERT"], isNew with
  | "UPDATE", false =>
      Parser.expectKeyword "SET"
      return "UPDATE SET " ++ (← assignments inner)
  | "DELETE", false => return "DELETE"
  | "INSERT", true =>
      let names ← columns
      Parser.expectKeyword "VALUES"
      return "INSERT " ++ names ++ (← Rows.read inner)
  | _, _ => failure

/-- A part of a merge; there are such up to the end of the statement. -/
def mergePart? (inner : Grammar) : Parser (Option Phrase) := do
  if (← Parser.atEnd) || (← Parser.isSign ";") then return none
  else
    Parser.expectKeyword "WHEN"
    let (rows, isNew) ← mergedRows
    let condition ← Parser.clause ["AND"] (inner.expression 0)
    Parser.expectKeyword "THEN"
    let action ← mergeAction inner isNew
    return some ("WHEN " ++ rows ++ condition ++ " THEN " ++ action)

/-- A merge of one table into another, after its keyword. -/
def merge (inner : Grammar) : Parser Phrase := do
  let into ← Parser.spacedKeyword "INTO"
  let table ← Source.factor inner
  Parser.expectKeyword "USING"
  let source ← Source.factor inner
  Parser.expectKeyword "ON"
  let condition ← inner.expression 0
  let parts ← Parser.items (mergePart? inner)
  return "MERGE" ++ into ++ " " ++ table ++ " USING " ++ source ++ " ON " ++ condition ++ " "
    ++ .joinWith " " parts

end DumpTransfer.Sql.Grammar.Change
