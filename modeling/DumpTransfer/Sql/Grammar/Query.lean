import DumpTransfer.Sql.Grammar.Change
import DumpTransfer.Sql.Grammar.Purpose
import DumpTransfer.Sql.Grammar.Selection

/-! Queries: selections, rows given one by one and whole tables, and what is made of several of
them.
-/

namespace DumpTransfer.Sql.Grammar.Query

/-- A part of the name of a whole table. -/
def tablePart : Token → Parser Phrase
  | .word value | .quotedName value => return .plain value
  | _ => failure

/-- A whole table, after its keyword. Two tokens after the name are passed over where these are
not the rest of it.
-/
def table : Parser Phrase := do
  let first ← Parser.next
  let second ← Parser.peek?
  let third ← Parser.ahead? 1
  Parser.skip
  Parser.skip
  if second = some (.sign ".") then
    match third with
    | some third => return "TABLE " ++ (← tablePart first) ++ "." ++ (← tablePart third)
    | none => failure
  else return "TABLE " ++ (← tablePart first)

/-- A query without a set operation at its outermost level. -/
def simple (inner : Grammar) : Parser Phrase := do
  if ← Parser.isSign "(" then Parser.parenthesized inner.query
  else
    match ← Parser.oneOf ["SELECT", "TABLE", "VALUES"] with
    | "SELECT" => Selection.read inner
    | "TABLE" => table
    | _ => Rows.read inner

/-- What tells which rows of two queries are the same, after a space, or nothing. -/
def quantifier : Parser Phrase := do
  if ← Parser.keywords ["DISTINCT", "BY", "NAME"] then return " DISTINCT BY NAME"
  else if ← Parser.keywords ["BY", "NAME"] then return " BY NAME"
  else if ← Parser.keywords ["ALL", "BY", "NAME"] then return " ALL BY NAME"
  else Parser.spacedAny ["ALL", "DISTINCT"]

/-- A set operation with its second query, if there is one. -/
def combination? (inner : Grammar) : Parser (Option Phrase) := do
  match ← Parser.anyKeyword ["UNION", "EXCEPT", "INTERSECT"] with
  | none => return none
  | some operation =>
      let same ← quantifier
      return some (.spacedWord operation ++ same ++ " " ++ (← simple inner))

/-- A query with a name of its own. -/
def namedQuery (inner : Grammar) : Parser Phrase := do
  let name ← Parser.part
  let columns ← Parser.optionalPartList
  Parser.expectKeyword "AS"
  let query ← Parser.parenthesized inner.query
  return name ++ columns ++ " AS " ++ query ++ (← Parser.clause ["FROM"] Parser.part)

/-- The queries with names of their own that a query begins with, before a space, or nothing. -/
def namedQueries (inner : Grammar) : Parser Phrase := do
  let queries ← Parser.clause? ["WITH"] do
    return (← Parser.leadingKeyword "RECURSIVE") ++ (← Parser.list (namedQuery inner))
  match queries with
  | some queries => return queries ++ " "
  | none => return []

/-- Rows that are selected, without the queries with names before them. -/
def selected (inner : Grammar) : Parser Phrase := do
  let first ← simple inner
  let more ← Parser.items (combination? inner)
  let order ← inner.orderBy
  let limit ← RowLimit.read inner
  let fetched ← RowLimit.fetch
  return first ++ more.flatten ++ order ++ limit ++ fetched ++ (← Purpose.read)

/-- A query. A change of rows may stand in its place. -/
def read (inner : Grammar) : Parser Phrase := do
  let named ← namedQueries inner
  if ← Parser.keyword "INSERT" then return named ++ (← Change.insert inner "INSERT").phrase
  else if ← Parser.keyword "UPDATE" then return named ++ (← Change.update inner)
  else return named ++ (← selected inner)

end DumpTransfer.Sql.Grammar.Query
