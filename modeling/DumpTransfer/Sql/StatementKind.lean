import DumpTransfer.Text.Alphabet

/-! The kinds of statements that conversion treats differently. -/

namespace DumpTransfer.Sql

/-- What a statement does, judged by its first words. -/
inductive StatementKind where
  | createTable
  | dropTable
  | insert
  | delete
  | other
  deriving DecidableEq, Repr

namespace StatementKind

/-- Characters between the words that tell the kind. -/
def separates (char : Char) : Bool :=
  Alphabet.isBlank char || char = '(' || char = '`' || char = '"'

/-- The word at the start of a text, past any separators, and the text after it. -/
def nextWord (statement : Text) : Text × Text :=
  let rest := statement.dropWhile separates
  (Text.asciiUpper (rest.takeWhile (! separates ·)), rest.dropWhile (! separates ·))

/-- The kind of a statement. -/
def ofStatement (statement : Text) : StatementKind :=
  let (first, afterFirst) := nextWord statement
  let (second, afterSecond) := nextWord afterFirst
  let (third, _) := nextWord afterSecond
  let aboutTable : Bool :=
    second = "TABLE" || (second = "TEMPORARY" && third = "TABLE")
  if first = "CREATE" && aboutTable then .createTable
  else if first = "DROP" && aboutTable then .dropTable
  else if first = "INSERT" || first = "REPLACE" then .insert
  else if first = "DELETE" then .delete
  else .other

end StatementKind

end DumpTransfer.Sql
