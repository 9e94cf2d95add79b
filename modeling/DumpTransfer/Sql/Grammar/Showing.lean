import DumpTransfer.Sql.Grammar.Basic

/-! Statements that show what there is. -/

namespace DumpTransfer.Sql.Grammar.Showing

/-- Which of the things are shown, after a space, or nothing. -/
def restriction (inner : Grammar) : Parser Phrase := do
  if ← Parser.keyword "LIKE" then return " LIKE " ++ .quoted '\'' (← Parser.stringValue)
  else if ← Parser.keyword "ILIKE" then
    return " ILIKE " ++ .plain (quotedText '\'' (← Parser.stringValue))
  else if ← Parser.isKeyword ["WHERE"] then inner.filter
  else
    match ← Parser.attempt Parser.stringValue with
    | some name => return " " ++ .quoted '\'' name
    | none => return []

/-- The columns of a table, after the words for them. A database after the table is written before
it.
-/
def columns (inner : Grammar) (head : Phrase) : Parser Phrase := do
  let _ ← Parser.oneOf ["FROM", "IN"]
  let name ← Parser.qualifiedName
  let database ←
    match ← Parser.anyKeyword ["FROM", "IN"] with
    | some _ => pure [← Parser.namePart]
    | none => pure []
  return head ++ "COLUMNS FROM " ++ .relation (database ++ name) ++ (← restriction inner)

/-- The database that is looked into. -/
def database : Parser Phrase := do
  let within ← Parser.clause ["FROM"] Parser.part
  if within.isEmpty then Parser.clause ["IN"] Parser.part else return within

/-- Things of a kind in a database, after the words for them. -/
def contents (inner : Grammar) (head : Phrase) : Parser Phrase := do
  let within ← database
  return head ++ within ++ (← restriction inner)

/-- The statement that creates something, after its first words. -/
def creation : Parser Phrase := do
  let kind ← Parser.oneOf ["TABLE", "TRIGGER", "FUNCTION", "PROCEDURE", "EVENT", "VIEW"]
  return "SHOW CREATE " ++ .leadingWord kind ++ (← Parser.name)

/-- A word of a variable after a space, or nothing for any other token; none at the end and before
an equals sign.
-/
def variableWord? : Parser (Option Phrase) := do
  if (← Parser.atEnd) || (← Parser.isSign "=") then return none
  else
    match ← Parser.next with
    | .word spelling => return some (" " ++ .plain spelling)
    | .quotedName name => return some (" " ++ .quoted '`' name)
    | _ => return some []

/-- Kinds of things of which all are shown that fit. -/
def simpleKinds : List String := ["COLLATION", "DATABASES", "SCHEMAS"]

/-- What is shown where columns, tables and the like are not, given for whom variables are. -/
def other (inner : Grammar) (session everywhere : Phrase) : Parser Phrase := do
  if ← Parser.keyword "CREATE" then creation
  else
    match ← Parser.anyKeyword ["VARIABLES", "STATUS"] with
    | some kind =>
        return "SHOW" ++ everywhere ++ session ++ .spacedWord kind ++ (← restriction inner)
    | none =>
        match ← Parser.anyKeyword simpleKinds with
        | some kind => return "SHOW" ++ .spacedWord kind ++ (← restriction inner)
        | none => return "SHOW" ++ (← Parser.items variableWord?).flatten

/-- A statement that shows something, after its keyword. -/
def read (inner : Grammar) : Parser Phrase := do
  let extended ← Parser.leadingKeyword "EXTENDED"
  let full ← Parser.leadingKeyword "FULL"
  let session ← Parser.spacedKeyword "SESSION"
  let everywhere ← Parser.spacedKeyword "GLOBAL"
  let detail := extended ++ full
  match ← Parser.anyKeyword ["COLUMNS", "FIELDS", "TABLES", "VIEWS", "FUNCTIONS"] with
  | some "TABLES" => contents inner ("SHOW " ++ detail ++ "TABLES")
  | some "VIEWS" => contents inner "SHOW VIEWS"
  | some "FUNCTIONS" => return "SHOW FUNCTIONS" ++ (← restriction inner)
  | some _ => columns inner ("SHOW " ++ detail)
  | none =>
      if ← Parser.keywords ["MATERIALIZED", "VIEWS"] then
        contents inner "SHOW MATERIALIZED VIEWS"
      else if detail.isEmpty then other inner session everywhere
      else failure

end DumpTransfer.Sql.Grammar.Showing
