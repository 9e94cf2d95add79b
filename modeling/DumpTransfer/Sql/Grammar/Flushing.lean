import DumpTransfer.Sql.Parser

/-! Statements that write out what a server holds back. -/

namespace DumpTransfer.Sql.Grammar.Flushing

/-- Tables that are written out, and what is done with them meanwhile. -/
structure Tables where
  names : Phrase
  isLocked : Bool
  isExported : Bool
  deriving DecidableEq, Repr

namespace Tables

/-- The same with what comes next. Keywords without a meaning here are passed over, and what is no
word ends the tables and is passed over too.
-/
def extend? (tables : Tables) : Parser (Option Tables) := do
  match ← Parser.peek? with
  | some (.quotedName _) => return some { tables with names := ← Parser.list Parser.name }
  | some (.word spelling) =>
      if !Keyword.isKeyword (.word spelling) then
        return some { tables with names := ← Parser.list Parser.name }
      else if ← Parser.keyword "WITH" then
        return some { tables with isLocked := ← Parser.keywords ["READ", "LOCK"] }
      else if ← Parser.keyword "FOR" then
        return some { tables with isExported := ← Parser.keyword "EXPORT" }
      else
        Parser.skip
        return some tables
  | _ =>
      Parser.skip
      return none

/-- The same with all that comes next, at most as many parts as a list has members. -/
def extendWithin (tables : Tables) : List α → Parser Tables
  | [] => return tables
  | _ :: bound => do
      match ← tables.extend? with
      | some more => more.extendWithin bound
      | none => return tables

/-- In canonical form. -/
def phrase (tables : Tables) : Phrase :=
  (if tables.names.isEmpty then [] else Phrase.plain " " ++ tables.names)
    ++ (if tables.isLocked then " WITH READ LOCK" else [] : Phrase)
    ++ (if tables.isExported then " FOR EXPORT" else [] : Phrase)

end Tables

/-- Tables, after the word for them. -/
def tables : Parser Phrase := do
  let nothing : Tables := { names := [], isLocked := false, isExported := false }
  return "TABLES" ++ (← nothing.extendWithin (() :: (← get).map fun _ => ())).phrase

/-- Kinds of logs. -/
def logKinds : List String := ["BINARY", "ENGINE", "ERROR", "GENERAL", "SLOW"]

/-- Other things that are written out. -/
def others : List String :=
  ["HOSTS", "LOGS", "OPTIMIZER_COSTS", "PRIVILEGES", "STATUS", "USER_RESOURCES"]

/-- What is written out. -/
def subject : Parser Phrase := do
  match ← Parser.oneOf (["RELAY", "TABLES"] ++ logKinds ++ others) with
  | "TABLES" => tables
  | "RELAY" =>
      Parser.expectKeyword "LOGS"
      return "RELAY LOGS" ++ (← Parser.clause ["FOR", "CHANNEL"] Parser.name)
  | word =>
      if logKinds.contains word then
        Parser.expectKeyword "LOGS"
        return .ofWord word ++ " LOGS"
      else return .ofWord word

/-- What is written out, after the keyword. -/
def read : Parser Phrase := do
  let reach ← Parser.leadingAny ["NO_WRITE_TO_BINLOG", "LOCAL"]
  return "FLUSH " ++ reach ++ (← subject)

end DumpTransfer.Sql.Grammar.Flushing
