import DumpTransfer.Sql.Grammar.Storage

/-! Definitions of tables. -/

namespace DumpTransfer.Sql.Grammar.NewTable

/-- Options that are to be written between parentheses after given words, or nothing. -/
def written (words : String) (options : List Phrase) : Phrase :=
  if options.isEmpty then [] else .spacedWord words ++ " " ++ .parenthesized (.list options)

/-- A word, as the value of an option. -/
def word : Parser Phrase := do
  match ← Parser.next with
  | .word value | .quotedName value => return .plain value
  | _ => failure

/-- A word after an equals sign. -/
def wordValue : Parser Phrase := do
  Parser.expectSign "="
  return "=" ++ (← word)

/-- What keeps the rows of the table, with its parameters. -/
def engine : Parser Phrase := do
  if ← Parser.keyword "ENGINE" then
    let name ← wordValue
    let parameters ← if ← Parser.isSign "(" then Parser.partList else pure []
    return " ENGINE" ++ name ++ parameters
  else return []

/-- The number of the first row. -/
def firstNumber : Parser Phrase :=
  Parser.clause ["AUTO_INCREMENT"] do
    let _ ← Parser.sign "="
    Parser.digitsBelow (Nat.pow 2 32)

/-- What the rows are ordered by. -/
def order (inner : Grammar) : Parser Phrase :=
  Parser.clause ["ORDER", "BY"] do
    if ← Parser.isSign "(" then
      Parser.parenthesized do
        return .list (← Parser.commaSeparatedBefore ")" (inner.expression 0))
    else inner.expression 0

/-- The character set of the texts. -/
def characters : Parser Phrase := do
  if ← Parser.keywords ["DEFAULT", "CHARSET"] then return " DEFAULT CHARSET" ++ (← wordValue)
  else return []

/-- The collation of the texts. -/
def collation : Parser Phrase := do
  if ← Parser.keyword "COLLATE" then return " COLLATE" ++ (← wordValue) else return []

/-- What happens to the rows at the end of a transaction. -/
def onCommit : Parser Phrase := do
  if ← Parser.keywords ["ON", "COMMIT"] then
    if ← Parser.keywords ["DELETE", "ROWS"] then return " ON COMMIT DELETE ROWS"
    else if ← Parser.keywords ["PRESERVE", "ROWS"] then return " ON COMMIT PRESERVE ROWS"
    else
      Parser.expectKeyword "DROP"
      return " ON COMMIT DROP"
  else return []

/-- A comment on the table. -/
def comment : Parser Phrase := do
  if ← Parser.keyword "COMMENT" then
    let isEquation ← Parser.sign "="
    let value ← Parser.string
    return (if isEquation then " COMMENT = '" else " COMMENT '" : Phrase) ++ .plain value ++ "'"
  else return []

/-- Options of a table after its columns. They are written in another order than they are read. -/
def options (inner : Grammar) : Parser Phrase := do
  let partition ← Storage.partition inner
  let storage ← Storage.read inner
  let parameters ← inner.options ["WITH"]
  let properties ← inner.options ["TBLPROPERTIES"]
  let keeper ← engine
  let number ← firstNumber
  let ordered ← order inner
  let charset ← characters
  let sorted ← collation
  let ending ← onCommit
  let strict ← Parser.spacedKeyword "STRICT"
  let remark ← comment
  return partition ++ storage.phrase ++ written "TBLPROPERTIES" properties
    ++ written "WITH" parameters ++ keeper ++ remark ++ number ++ ordered ++ charset ++ sorted
    ++ ending ++ strict

/-- A name that counts only if it can be read; its tokens are passed over in any case. -/
def looseName : Parser (Option Phrase) := do
  match ← Parser.attempt Parser.name with
  | some name => return some name
  | none =>
      let _ ← Parser.items do
        Parser.attempt do
          let _ ← Parser.namePart
          Parser.expectSign "."
      Parser.skip
      return none

/-- A table that the definition is taken from, after one of the given words. -/
def model (words : List String) (written : String) : Parser Phrase := do
  match ← Parser.anyKeyword words with
  | some _ => return .spaced ((← looseName).map fun name => .leadingWord written ++ name)
  | none => return []

/-- The servers that a definition is for. -/
def servers : Parser Phrase :=
  Parser.clause ["ON", "CLUSTER"] Parser.part

/-- That a definition is only for an object that is not there yet, before a space. -/
def tolerance : Parser Phrase :=
  Parser.leadingKeywords ["IF", "NOT", "EXISTS"]

/-- A table definition, after its first words in canonical form. -/
def read (inner : Grammar) (head : Phrase) : Parser Statement := do
  let tolerant ← tolerance
  let name ← Parser.qualifiedName
  let place ← servers
  let like ← model ["LIKE", "ILIKE"] "LIKE"
  let clone ← model ["CLONE"] "CLONE"
  let items ← Definition.body inner
  let rowIdentity ← Parser.spacedKeywords ["WITHOUT", "ROWID"]
  let options ← options inner
  let query ← Parser.after "AS" inner.query
  return .createTable {
    head := head ++ tolerant
    name, place, rowIdentity, options, query
    columns := items.filterMap Sum.getRight?
    constraints := items.filterMap Sum.getLeft?
    models := like ++ clone }

/-- A definition of a table whose rows are kept elsewhere, after its first words in canonical
form. It has to say where.
-/
def external (inner : Grammar) (head : Phrase) : Parser Statement := do
  let tolerant ← tolerance
  let name ← Parser.qualifiedName
  let items ← Definition.body inner
  let partition ← Storage.partition inner
  let storage ← Storage.read inner
  let properties ← inner.options ["TBLPROPERTIES"]
  if storage.location.isEmpty then failure
  return .createTable {
    head := head ++ tolerant
    name
    place := []
    columns := items.filterMap Sum.getRight?
    constraints := items.filterMap Sum.getLeft?
    rowIdentity := []
    models := []
    options := partition ++ storage.externalPhrase ++ written "TBLPROPERTIES" properties
    query := none }

end DumpTransfer.Sql.Grammar.NewTable
