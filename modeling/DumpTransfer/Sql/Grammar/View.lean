import DumpTransfer.Sql.Grammar.Basic
import DumpTransfer.Sql.Grammar.NewTable

/-! Views: queries with names. Policies say which rows of a table its users may see and change. -/

-----------------------------------------------------------------------------------------
-- Policies
-----------------------------------------------------------------------------------------

namespace DumpTransfer.Sql.Grammar.Policy

/-- Someone that a policy is for. -/
def owner : Parser Phrase := do
  match ← Parser.anyKeyword ["CURRENT_USER", "CURRENT_ROLE", "SESSION_USER"] with
  | some word => return (word : Phrase)
  | none => Parser.part

/-- Whom a policy is for, and which rows it is about. -/
def extent (inner : Grammar) : Parser Phrase := do
  let owners ← Parser.clause ["TO"] (Parser.list owner)
  let seen ← Parser.clause ["USING"] inner.parenthesized
  return owners ++ seen ++ (← Parser.clause ["WITH", "CHECK"] inner.parenthesized)

/-- The name of a policy and the table that it is for. -/
def place : Parser Phrase := do
  let name ← Parser.part
  Parser.expectKeyword "ON"
  return name ++ " ON " ++ (← Parser.relation)

/-- A new policy, after its keyword. -/
def creation (inner : Grammar) : Parser Phrase := do
  let subject ← place
  let kind ← Parser.clause ["AS"] do
    return ((← Parser.oneOf ["PERMISSIVE", "RESTRICTIVE"]) : Phrase)
  let command ← Parser.clause ["FOR"] do
    return ((← Parser.oneOf ["ALL", "SELECT", "INSERT", "UPDATE", "DELETE"]) : Phrase)
  return "CREATE POLICY " ++ subject ++ kind ++ command ++ (← extent inner)

/-- A change of a policy, after its keyword. -/
def alteration (inner : Grammar) : Parser Phrase := do
  let subject ← place
  if ← Parser.keyword "RENAME" then
    Parser.expectKeyword "TO"
    return "ALTER POLICY " ++ subject ++ " RENAME TO " ++ (← Parser.part)
  else return "ALTER POLICY " ++ subject ++ (← extent inner)

end DumpTransfer.Sql.Grammar.Policy

-----------------------------------------------------------------------------------------
-- Views
-----------------------------------------------------------------------------------------

namespace DumpTransfer.Sql.Grammar.View

/-- Names between parentheses after a space, or nothing if there are none. -/
def columns : Parser Phrase := do
  if ← Parser.isSign "(" then
    let names ← Parser.inParentheses (Parser.commaSeparatedBefore ")" Parser.part)
    return if names.isEmpty then [] else " " ++ .parenthesized (.list names)
  else return []

/-- A new view, given whether it is temporary. -/
def creation (inner : Grammar) (replacing temporary : Phrase) : Parser Phrase := do
  let kept ← Parser.leadingKeyword "MATERIALIZED"
  Parser.expectKeyword "VIEW"
  let name ← Parser.name
  let names ← columns
  let options ← inner.options ["WITH"]
  let clusters ←
    if ← Parser.keyword "CLUSTER" then
      Parser.expectKeyword "BY"
      if ← Parser.isSign "(" then pure (" CLUSTER BY " ++ (← Parser.partList)) else pure []
    else pure []
  Parser.expectKeyword "AS"
  return "CREATE " ++ replacing ++ kept ++ temporary ++ "VIEW " ++ name
    ++ NewTable.written "WITH" options ++ names ++ clusters ++ " AS " ++ (← inner.query)

/-- A change of a view, after its keyword. -/
def alteration (inner : Grammar) : Parser Phrase := do
  let name ← Parser.relation
  let names ← Parser.optionalPartList
  let options ← inner.options ["WITH"]
  Parser.expectKeyword "AS"
  return "ALTER VIEW " ++ name ++ NewTable.written "WITH" options ++ names ++ " AS "
    ++ (← inner.query)

end DumpTransfer.Sql.Grammar.View
