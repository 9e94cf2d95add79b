import DumpTransfer.Sql.Grammar.Item
import DumpTransfer.Sql.Grammar.NewTable
import DumpTransfer.Sql.Grammar.Removal

/-! Statements for the upkeep of tables: their statistics, their partitions, what is held in memory
of them, and how they are locked.
-/

namespace DumpTransfer.Sql.Grammar.Maintenance

/-- Tables that are emptied, after the keyword. -/
def truncation (inner : Grammar) : Parser Phrase := do
  let word ← Parser.leadingKeyword "TABLE"
  let only ← Parser.leadingKeyword "ONLY"
  let tables ← Parser.list Parser.relation
  let partition ← Parser.clause ["PARTITION"] inner.expressionList
  return "TRUNCATE " ++ word ++ only ++ tables ++ partition ++ (← NewTable.servers)

/-- What is found out about a table. -/
structure Analysis where
  partition : Phrase
  statistics : Phrase
  /-- Whether the rows are left alone. -/
  scan : Phrase
  cache : Phrase
  columns : Phrase
  deriving DecidableEq, Repr

namespace Analysis

/-- The columns that are looked at. -/
def columnList : Parser Phrase := do
  return .spaced (← Parser.attempt (Parser.list Parser.part))

/-- The same with one more part, if there is one. -/
def extend? (inner : Grammar) (analysis : Analysis) : Parser (Option Analysis) := do
  match ← Parser.anyKeyword ["PARTITION", "FOR", "CACHE", "NOSCAN", "COMPUTE"] with
  | none => return none
  | some "PARTITION" =>
      return some { analysis with partition := " PARTITION " ++ (← inner.expressionList) }
  | some "NOSCAN" => return some { analysis with scan := " NOSCAN" }
  | some "FOR" =>
      Parser.expectKeyword "COLUMNS"
      return some { analysis with columns := " FOR COLUMNS" ++ (← columnList) }
  | some "CACHE" =>
      Parser.expectKeyword "METADATA"
      return some { analysis with cache := " CACHE METADATA" }
  | some _ =>
      Parser.expectKeyword "STATISTICS"
      return some { analysis with statistics := " COMPUTE STATISTICS" }

/-- The same with as many more parts as there are, at most as many as a list has members. -/
def extendWithin (inner : Grammar) (analysis : Analysis) : List α → Parser Analysis
  | [] => return analysis
  | _ :: bound => do
      match ← analysis.extend? inner with
      | some more => more.extendWithin inner bound
      | none => return analysis

/-- In canonical form. -/
def phrase (analysis : Analysis) : Phrase :=
  analysis.partition ++ analysis.statistics ++ analysis.scan ++ analysis.cache
    ++ analysis.columns

end Analysis

/-- What is found out about a table, after the keyword. -/
def analysis (inner : Grammar) : Parser Phrase := do
  Parser.expectKeyword "TABLE"
  let table ← Parser.relation
  let nothing : Analysis :=
    { partition := [], statistics := [], scan := [], cache := [], columns := [] }
  return "ANALYZE TABLE " ++ table ++ (← nothing.extendWithin inner (← get)).phrase

/-- What is done with partitions that are found or missed, or nothing that is written. -/
def partitionAction : Parser Phrase := do
  let action ← Parser.spacedAny ["ADD", "DROP", "SYNC"]
  Parser.expectKeyword "PARTITIONS"
  return if action.isEmpty then [] else action ++ " PARTITIONS"

/-- A check of the partitions of a table, after the keyword. -/
def partitionCheck : Parser Phrase := do
  let repair ← Parser.leadingKeyword "REPAIR"
  Parser.expectKeyword "TABLE"
  let table ← Parser.relation
  return "MSCK " ++ repair ++ "TABLE " ++ table
    ++ ((← Parser.attempt partitionAction).getD [])

/-- Options of a table that is held in memory. -/
def cacheOptions (inner : Grammar) : Parser Phrase := do
  let given ← inner.options ["OPTIONS"]
  return if given.isEmpty then [] else " OPTIONS" ++ .parenthesized (.list given)

/-- A table that is held in memory, after the keyword. -/
def cache (inner : Grammar) : Parser Phrase := do
  let flag : Phrase ←
    if ← Parser.isKeyword ["TABLE"] then pure [] else pure ((← Parser.name) ++ " ")
  Parser.expectKeyword "TABLE"
  let table ← Parser.relation
  let options ← cacheOptions inner
  let head := "CACHE " ++ flag ++ "TABLE " ++ table ++ options
  if ← Parser.atEnd then return head
  else
    let word ← Parser.spacedKeyword "AS"
    return head ++ word ++ " " ++ (← inner.query)

/-- A table that is no longer held in memory, after the keyword. -/
def uncache : Parser Phrase := do
  Parser.expectKeyword "TABLE"
  let tolerant ← Removal.tolerance
  return "UNCACHE TABLE " ++ tolerant ++ (← Parser.relation)

/-- How a table is locked. -/
def lockKind : Parser Phrase := do
  if ← Parser.keyword "READ" then return "READ" ++ (← Parser.spacedKeyword "LOCAL")
  else
    let priority ← Parser.leadingKeyword "LOW_PRIORITY"
    Parser.expectKeyword "WRITE"
    return priority ++ "WRITE"

/-- A table that is locked. -/
def lock : Parser Phrase := do
  let table ← Parser.part
  let name ← Item.otherName ["LOW_PRIORITY", "READ", "WRITE"]
  return table ++ name ++ " " ++ (← lockKind)

/-- Tables that are locked, after the keyword. -/
def locks : Parser Phrase := do
  Parser.expectKeyword "TABLES"
  return "LOCK TABLES " ++ (← Parser.list lock)

/-- Tables that are no longer locked, after the keyword. -/
def unlock : Parser Phrase := do
  Parser.expectKeyword "TABLES"
  return "UNLOCK TABLES"

end DumpTransfer.Sql.Grammar.Maintenance
