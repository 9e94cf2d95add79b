import DumpTransfer.Sql.Parser

/-! Privileges that are granted and revoked. -/

namespace DumpTransfer.Sql.Grammar.Privilege

/-- Privileges that may be limited to some columns. -/
def columnKinds : List String := ["INSERT", "REFERENCES", "SELECT", "UPDATE"]

/-- Privileges on whole objects. -/
def objectKinds : List String :=
  ["CONNECT", "CREATE", "DELETE", "EXECUTE", "TEMPORARY", "TRIGGER", "TRUNCATE", "USAGE"]

/-- A privilege. -/
def one : Parser Phrase := do
  let kind ← Parser.oneOf (columnKinds ++ objectKinds)
  let columns ← if columnKinds.contains kind then Parser.optionalPartList else pure []
  return (kind : Phrase) ++ columns

/-- The privileges. -/
def kinds : Parser Phrase := do
  if ← Parser.keyword "ALL" then return "ALL" ++ (← Parser.spacedKeyword "PRIVILEGES")
  else Parser.list one

/-- The objects that the privileges are on. -/
def objects : Parser Phrase := do
  let names := Parser.list Parser.name
  if ← Parser.keywords ["ALL", "TABLES", "IN", "SCHEMA"] then
    return "ALL TABLES IN SCHEMA " ++ (← names)
  else if ← Parser.keywords ["ALL", "SEQUENCES", "IN", "SCHEMA"] then
    return "ALL SEQUENCES IN SCHEMA " ++ (← names)
  else
    match ← Parser.anyKeyword ["SEQUENCE", "SCHEMA", "TABLE"] with
    | some "TABLE" | none => names
    | some kind => return .leadingWord kind ++ (← names)

/-- Privileges with the objects that they are on. -/
def extent : Parser Phrase := do
  let granted ← kinds
  Parser.expectKeyword "ON"
  return granted ++ " ON " ++ (← objects)

/-- Who grants the privileges. -/
def grantor : Parser Phrase :=
  Parser.clause ["GRANTED", "BY"] Parser.part

/-- Privileges that are granted, after the keyword. -/
def grant : Parser Phrase := do
  let granted ← extent
  Parser.expectKeyword "TO"
  let grantees ← Parser.list Parser.part
  let further ← Parser.spacedKeywords ["WITH", "GRANT", "OPTION"]
  return "GRANT " ++ granted ++ " TO " ++ grantees ++ further ++ (← grantor)

/-- Privileges that are revoked, after the keyword. Unless it is said otherwise, they are not where
others depend on them.
-/
def revoke : Parser Phrase := do
  let revoked ← extent
  Parser.expectKeyword "FROM"
  let grantees ← Parser.list Parser.part
  let source ← grantor
  let cascade ← Parser.keyword "CASCADE"
  let restrict ← Parser.keyword "RESTRICT"
  if cascade && restrict then failure
  return "REVOKE " ++ revoked ++ " FROM " ++ grantees ++ source
    ++ (if cascade then " CASCADE" else " RESTRICT" : Phrase)

end DumpTransfer.Sql.Grammar.Privilege
