import DumpTransfer.Sql.Grammar.Basic
import DumpTransfer.Sql.Grammar.Value
import DumpTransfer.Sql.Parser

/-! Variables and properties of a session that are set. Transactions are among them: their
beginning, their end, and the points in them that can be returned to.
-/

-----------------------------------------------------------------------------------------
-- Transactions
-----------------------------------------------------------------------------------------

namespace DumpTransfer.Sql.Grammar.Transaction

/-- How far a transaction sees what others do. -/
def isolation : Parser Phrase := do
  if ← Parser.keywords ["READ", "UNCOMMITTED"] then return "ISOLATION LEVEL READ UNCOMMITTED"
  else if ← Parser.keywords ["READ", "COMMITTED"] then return "ISOLATION LEVEL READ COMMITTED"
  else if ← Parser.keywords ["REPEATABLE", "READ"] then return "ISOLATION LEVEL REPEATABLE READ"
  else
    Parser.expectKeyword "SERIALIZABLE"
    return "ISOLATION LEVEL SERIALIZABLE"

/-- One property of a transaction, if there is one. -/
def mode? : Parser (Option Phrase) := do
  if ← Parser.keywords ["ISOLATION", "LEVEL"] then return some (← isolation)
  else if ← Parser.keywords ["READ", "ONLY"] then return some "READ ONLY"
  else if ← Parser.keywords ["READ", "WRITE"] then return some "READ WRITE"
  else return none

/-- One property with those right after it that follow a comma. -/
def modeGroup? : Parser (Option (List Phrase)) := do
  match ← mode? with
  | none => return none
  | some first =>
      let more ← Parser.items do
        if ← Parser.sign "," then
          match ← mode? with
          | some mode => return some mode
          | none => failure
        else return none
      return some (first :: more)

/-- Properties of a transaction after a space, or nothing. There need not be commas between them.
-/
def modes : Parser Phrase := do
  let given := (← Parser.items modeGroup?).flatten
  return if given.isEmpty then [] else " " ++ .list given

/-- The beginning of a transaction, after its keyword. -/
def start : Parser Phrase := do
  Parser.expectKeyword "TRANSACTION"
  return "START TRANSACTION" ++ (← modes)

/-- The same under another keyword. -/
def begin_ : Parser Phrase := do
  let _ ← Parser.anyKeyword ["TRANSACTION", "WORK"]
  return "BEGIN TRANSACTION" ++ (← modes)

/-- Whether another transaction follows at once. -/
def chain : Parser Phrase := do
  let _ ← Parser.anyKeyword ["TRANSACTION", "WORK"]
  if ← Parser.keyword "AND" then
    let isAlone ← Parser.keyword "NO"
    Parser.expectKeyword "CHAIN"
    return if isAlone then [] else " AND CHAIN"
  else return []

/-- The end of a transaction whose changes are kept, after its keyword. -/
def commit : Parser Phrase := do
  return "COMMIT" ++ (← chain)

/-- What a transaction is undone to. -/
def undoPoint : Parser Phrase := do
  if ← Parser.keyword "TO" then
    let _ ← Parser.keyword "SAVEPOINT"
    return " TO SAVEPOINT " ++ (← Parser.part)
  else return []

/-- The end of a transaction whose changes are undone, after its keyword. -/
def rollback : Parser Phrase := do
  let following ← chain
  return "ROLLBACK" ++ following ++ (← undoPoint)

/-- A point that is no longer returned to, after the keyword. -/
def release : Parser Phrase := do
  let _ ← Parser.keyword "SAVEPOINT"
  return "RELEASE SAVEPOINT " ++ (← Parser.part)

end DumpTransfer.Sql.Grammar.Transaction

-----------------------------------------------------------------------------------------
-- Settings
-----------------------------------------------------------------------------------------

namespace DumpTransfer.Sql.Grammar.Setting

/-- The role that a session takes on. -/
def role (reach : Option String) : Parser Phrase := do
  Parser.expectKeyword "ROLE"
  let name : Phrase ← if ← Parser.keyword "NONE" then pure "NONE" else Parser.part
  return "SET" ++ .spaced (reach.map Phrase.ofWord) ++ " ROLE " ++ name

/-- The variable that is set. -/
def variable_ : Parser Phrase := do
  if ← Parser.keywords ["TIME", "ZONE"] then return "TIMEZONE" else Parser.name

/-- The character set of a session, after the words that set it. -/
def names : Parser Phrase := do
  if ← Parser.keyword "DEFAULT" then return "SET NAMES DEFAULT"
  else
    let characters ← Parser.stringValue
    let order ← Parser.after "COLLATE" Parser.stringValue
    return "SET NAMES " ++ .plain characters
      ++ .spaced (order.map fun order => "COLLATE " ++ Phrase.plain order)

/-- A value of a variable. -/
def value (inner : Grammar) : Parser Phrase := do
  if ← isQuery then return .parenthesized (← inner.query) else inner.expression 0

/-- What a session does with its transactions, after the word for the subject. -/
def transactions : Parser Phrase := do
  match ← Parser.clause? ["SNAPSHOT"] Value.any with
  | some snapshot => return "SET TRANSACTION " ++ snapshot
  | none => return "SET TRANSACTION" ++ (← Transaction.modes)

/-- Something that is set without an equals sign: the time zone, or how transactions are done. -/
def special (inner : Grammar) (reach : Option String) (nearby : Phrase) (name : Text)
    : Parser Phrase := do
  if Text.equalsIgnoringCase name "timezone" then
    return "SET " ++ nearby ++ "TIME ZONE " ++ (← inner.expression 0)
  else if name = Text.ofString "CHARACTERISTICS" then
    Parser.expectKeywords ["AS", "TRANSACTION"]
    return "SET SESSION CHARACTERISTICS AS TRANSACTION" ++ (← Transaction.modes)
  else if name = Text.ofString "TRANSACTION" && reach.isNone then transactions
  else failure

/-- What is set once it is known for whom. -/
def subject (inner : Grammar) (reach : Option String) : Parser Phrase := do
  let nearby : Phrase := if reach = some "LOCAL" then "LOCAL " else []
  let shared : Phrase := if reach = some "HIVEVAR" then "HIVEVAR:" else []
  let target ← variable_
  if Text.equalsIgnoringCase target.render "names" then names
  else
    let isAssigned ← if ← Parser.sign "=" then pure true else Parser.keyword "TO"
    if isAssigned then
      return "SET " ++ nearby ++ shared ++ target ++ " = " ++ (← Parser.list (value inner))
    else special inner reach nearby target.render

/-- A statement that sets something, after its keyword. -/
def read (inner : Grammar) : Parser Phrase := do
  let reach ← Parser.anyKeyword ["SESSION", "LOCAL", "HIVEVAR"]
  if reach = some "HIVEVAR" then
    Parser.expectSign ":"
    subject inner reach
  else
    match ← Parser.attempt (role reach) with
    | some phrase => return phrase
    | none => subject inner reach

end DumpTransfer.Sql.Grammar.Setting
