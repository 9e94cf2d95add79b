import DumpTransfer.Sql.Grammar.Alteration
import DumpTransfer.Sql.Grammar.Copying
import DumpTransfer.Sql.Grammar.Creation
import DumpTransfer.Sql.Grammar.Cursor
import DumpTransfer.Sql.Grammar.Expression
import DumpTransfer.Sql.Grammar.Flushing
import DumpTransfer.Sql.Grammar.Maintenance
import DumpTransfer.Sql.Grammar.Prepared
import DumpTransfer.Sql.Grammar.Privilege
import DumpTransfer.Sql.Grammar.Query
import DumpTransfer.Sql.Grammar.Setting
import DumpTransfer.Sql.Grammar.Showing

/-! Whole statements, each told by its first words. -/

namespace DumpTransfer.Sql.Grammar.Statement

/-- A procedure that is called, after the keyword. -/
def calling (inner : Grammar) : Parser Phrase := do
  let name ← Parser.name
  if ← Parser.isSign "(" then return "CALL " ++ (← Call.read inner name)
  else return "CALL " ++ name

/-- A query or a session that is ended, after the keyword. -/
def kill : Parser Phrase := do
  let kind ← Parser.leadingAny ["CONNECTION", "QUERY"]
  return "KILL " ++ kind ++ (← Parser.digits)

/-- What a session forgets, after the keyword. -/
def discard : Parser Phrase := do
  match ← Parser.oneOf ["ALL", "PLANS", "SEQUENCES", "TEMP", "TEMPORARY"] with
  | "TEMPORARY" => return "DISCARD TEMP"
  | word => return "DISCARD " ++ Phrase.ofWord word

/-- A database that is added to a session, after the keyword. -/
def attaching (inner : Grammar) : Parser Phrase := do
  let word ← Parser.leadingKeyword "DATABASE"
  let file ← inner.expression 0
  Parser.expectKeyword "AS"
  return "ATTACH " ++ word ++ file ++ " AS " ++ (← Parser.part)

/-- A condition that has to hold, after the keyword. -/
def assertion (inner : Grammar) : Parser Phrase := do
  let condition ← inner.expression 0
  return "ASSERT " ++ condition ++ (← Parser.clause ["AS"] (inner.expression 0))

/-- A setting of the database, after the keyword. -/
def pragma : Parser Phrase := do
  let name ← Parser.name
  let value := Value.ofKinds [.number, .placeholder, .string]
  if ← Parser.isSign "(" then return "PRAGMA " ++ name ++ (← Parser.parenthesized value)
  else if ← Parser.sign "=" then return "PRAGMA " ++ name ++ " = " ++ (← value)
  else return "PRAGMA " ++ name

/-- Rows that are written to a file, after the keyword. -/
def unloading (inner : Grammar) : Parser Phrase := do
  let query ← Parser.parenthesized inner.query
  Parser.expectKeyword "TO"
  let place ← Parser.part
  return "UNLOAD" ++ query ++ " TO " ++ place
    ++ NewTable.written "WITH" (← inner.options ["WITH"])

/-- Statements about transactions and sessions that begin with a keyword. -/
def ofSession? (inner : Grammar) : String → Option (Parser Phrase)
  | "ATTACH" => some (attaching inner)
  | "BEGIN" => some Transaction.begin_
  | "COMMIT" => some Transaction.commit
  | "DISCARD" => some discard
  | "END" => some Transaction.commit
  | "FLUSH" => some Flushing.read
  | "GRANT" => some Privilege.grant
  | "KILL" => some kill
  | "PRAGMA" => some pragma
  | "RELEASE" => some Transaction.release
  | "REVOKE" => some Privilege.revoke
  | "ROLLBACK" => some Transaction.rollback
  | "SAVEPOINT" => some do return "SAVEPOINT " ++ (← Parser.part)
  | "SET" => some (Setting.read inner)
  | "SHOW" => some (Showing.read inner)
  | "START" => some Transaction.start
  | "USE" => some do return "USE " ++ (← Parser.name)
  | _ => none

/-- Statements about tables and other statements that begin with a keyword. -/
def ofContent? (inner : Grammar) : String → Option (Parser Phrase)
  | "ALTER" => some (Alteration.read inner)
  | "ANALYZE" => some (Maintenance.analysis inner)
  | "ASSERT" => some (assertion inner)
  | "CACHE" => some (Maintenance.cache inner)
  | "CALL" => some (calling inner)
  | "CLOSE" => some Cursor.closing
  | "COPY" => some (Copying.read inner)
  | "DEALLOCATE" => some Prepared.deallocation
  | "DECLARE" => some (Cursor.declaration inner)
  | "DELETE" => some (Change.delete inner)
  | "EXEC" | "EXECUTE" => some (Prepared.execution inner)
  | "FETCH" => some Cursor.fetch
  | "LOCK" => some Maintenance.locks
  | "MERGE" => some (Change.merge inner)
  | "MSCK" => some Maintenance.partitionCheck
  | "PREPARE" => some (Prepared.preparation inner)
  | "TRUNCATE" => some (Maintenance.truncation inner)
  | "UNCACHE" => some Maintenance.uncache
  | "UNLOAD" => some (unloading inner)
  | "UNLOCK" => some Maintenance.unlock
  | "UPDATE" => some (Change.update inner)
  | _ => none

/-- Statements that begin with a keyword. -/
def afterKeyword (inner : Grammar) (keyword : String) : Parser Statement :=
  match keyword with
  | "CREATE" => Creation.read inner
  | "DROP" => Removal.read inner
  | "INSERT" => Change.insert inner "INSERT"
  | "REPLACE" => Change.insert inner "REPLACE"
  | "DESC" | "DESCRIBE" | "EXPLAIN" =>
      return .other (← Prepared.explanation inner keyword)
  | _ =>
      match ofSession? inner keyword <|> ofContent? inner keyword with
      | some reading => return .other (← reading)
      | none => failure

/-- A statement. -/
def read (inner : Grammar) : Parser Statement := do
  let isQuery ← Parser.isKeyword ["SELECT", "WITH", "VALUES"]
  if isQuery || (← Parser.isSign "(") then return .other (← inner.query)
  else afterKeyword inner (← Parser.next).keyword

end DumpTransfer.Sql.Grammar.Statement

namespace DumpTransfer.Sql

/-- The grammar in which parts are nested at most as deeply as given. -/
def Grammar.ofDepth : Nat → Grammar
  | 0 => .flat
  | depth + 1 =>
      let inner := ofDepth depth
      { expression := Grammar.Expression.read inner
        enclosed := Grammar.Expression.enclosed inner
        query := Grammar.Query.read inner
        statement := Grammar.Statement.read inner }

namespace Statement

/-- How deeply the parts of a statement may be nested. -/
def maxDepth : Nat :=
  50

/-- The statements of a text, if it can be read as such. -/
def ofText? (text : Text) : Option (List Statement) := do
  let tokens ← Token.scan? text
  match Grammar.StatementList.read (Grammar.ofDepth maxDepth).statement tokens with
  | .ok (statements, _) => some statements
  | .error _ => none

end Statement

end DumpTransfer.Sql
