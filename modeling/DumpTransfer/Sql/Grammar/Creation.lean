import DumpTransfer.Sql.Grammar.Basic
import DumpTransfer.Sql.Grammar.View

/-! Statements that create something, and statements one after the other as parts of them. -/

-----------------------------------------------------------------------------------------
-- Statements one after the other
-----------------------------------------------------------------------------------------

namespace DumpTransfer.Sql.Grammar.StatementList

/-- Passes over semicolons and tells whether there were any. -/
def separators : Parser Bool := do
  let found ← Parser.items do
    if ← Parser.sign ";" then return some () else return none
  return !found.isEmpty

/-- A statement after another one, if there is one. -/
def following? (statement : Parser Statement) : Parser (Option Statement) := do
  let separated ← separators
  if ← Parser.atEnd then return none
  else if separated then return some (← statement)
  else if ← Parser.isKeyword ["END"] then return none
  else failure

/-- Statements with semicolons between them, up to the end or up to the keyword for it. -/
def read (statement : Parser Statement) : Parser (List Statement) := do
  let _ ← separators
  if ← Parser.atEnd then return []
  else
    let first ← statement
    return first :: (← Parser.items (following? statement))

end DumpTransfer.Sql.Grammar.StatementList

-----------------------------------------------------------------------------------------
-- Creation
-----------------------------------------------------------------------------------------

namespace DumpTransfer.Sql.Grammar.Creation

/-- The columns that an index holds besides its own. -/
def heldColumns : Parser Phrase :=
  Parser.clause ["INCLUDE"] <| Parser.parenthesized do
    return .joinWith "," (← Parser.commaSeparated Parser.part)

/-- Whether missing values count as different in an index. -/
def nullDistinction : Parser Phrase := do
  if ← Parser.keyword "NULLS" then
    let negated ← Parser.spacedKeyword "NOT"
    Parser.expectKeyword "DISTINCT"
    return " NULLS" ++ negated ++ " DISTINCT"
  else return []

/-- The name of an index before a space, and the keyword after it. The name may only be left out
where the index has to be new.
-/
def indexName (tolerant : Phrase) : Parser Phrase := do
  if !tolerant.isEmpty || !(← Parser.isKeyword ["ON"]) then
    let name ← Parser.name
    Parser.expectKeyword "ON"
    return name ++ " ON "
  else
    Parser.skip
    return "ON "

/-- An index, after its first words in canonical form. -/
def index (inner : Grammar) (head : Phrase) : Parser Phrase := do
  let parallel ← Parser.leadingKeyword "CONCURRENTLY"
  let tolerant ← NewTable.tolerance
  let name ← indexName tolerant
  let table ← Parser.relation
  let method ← Parser.clause ["USING"] do return (← Parser.part) ++ " "
  let columns ← Parser.inParentheses (Parser.commaSeparated inner.ordering)
  let held ← heldColumns
  let nulls ← nullDistinction
  return head ++ parallel ++ tolerant ++ name ++ table ++ method
    ++ .parenthesized (.joinWith "," columns) ++ held ++ nulls ++ (← inner.filter)

/-- An extension, after its keyword. -/
def extension : Parser Phrase := do
  let tolerant ← NewTable.tolerance
  let name ← Parser.part
  let said? ← Parser.after "WITH" do
    let schema ← Parser.clause ["SCHEMA"] Parser.part
    let version ← Parser.clause ["VERSION"] Parser.part
    return schema ++ version ++ (← Parser.spacedKeyword "CASCADE")
  let said : Option Phrase := (said?.filter (!·.isEmpty)).map fun phrase => "WITH" ++ phrase
  return "CREATE EXTENSION " ++ tolerant ++ name ++ .spaced said

/-- A table that a module makes up, after its first keyword. -/
def virtualTable : Parser Phrase := do
  Parser.expectKeyword "TABLE"
  let tolerant ← NewTable.tolerance
  let name ← Parser.relation
  Parser.expectKeyword "USING"
  let maker ← Parser.part
  return "CREATE VIRTUAL TABLE " ++ tolerant ++ name ++ " USING " ++ maker
    ++ (← Parser.optionalPartList)

/-- A schema, after its keyword. -/
def schema : Parser Phrase := do
  let tolerant ← NewTable.tolerance
  let owner? := Parser.clause? ["AUTHORIZATION"] Parser.part
  match ← owner? with
  | some owner => return "CREATE SCHEMA " ++ tolerant ++ owner
  | none =>
      let name ← Parser.name
      return "CREATE SCHEMA " ++ tolerant ++ name ++ .spaced (← owner?)

/-- A place of a database, if one is given. -/
def databasePlace? : Parser (Option (String × Phrase)) := do
  match ← Parser.anyKeyword ["LOCATION", "MANAGEDLOCATION"] with
  | some word => return some (word, .spacedWord word ++ " " ++ (← Parser.rawString))
  | none => return none

/-- A database, after its keyword. The last place of each kind is the one that holds. -/
def database : Parser Phrase := do
  let tolerant ← NewTable.tolerance
  let name ← Parser.name
  let given := (← Parser.items databasePlace?).reverse
  return "CREATE DATABASE " ++ tolerant ++ name ++ (given.lookup "LOCATION").getD []
    ++ (given.lookup "MANAGEDLOCATION").getD []

/-- Roles, after their keyword. -/
def roles : Parser Phrase := do
  let tolerant ← NewTable.tolerance
  let names ← Parser.list Parser.name
  let _ ← Parser.keyword "WITH"
  return "CREATE ROLE " ++ tolerant ++ names

/-- A sequence, after its keyword. -/
def sequence (temporary : Phrase) : Parser Phrase := do
  let tolerant ← NewTable.tolerance
  let name ← Parser.name
  let type ← Parser.clause ["AS"] TypeName.written
  let options ← Sequence.options
  let owner ← Parser.clause ["OWNED", "BY"] do
    if ← Parser.keyword "NONE" then return "NONE" else Parser.name
  return "CREATE " ++ temporary ++ "SEQUENCE " ++ tolerant ++ name ++ type ++ options ++ owner

/-- An item of a list with commas between its items and possibly after the last. -/
def listItem? (item : Parser Phrase) : Parser (Option Phrase) := do
  if ← Parser.isSign ")" then return none
  else
    let phrase ← item
    unless ← Parser.isSign ")" do Parser.expectSign ","
    return some phrase

/-- Items between parentheses with commas between them and possibly after the last, none if there
are no parentheses.
-/
def looseList (item : Parser Phrase) : Parser (List Phrase) := do
  if ← Parser.isSign "(" then
    let given ← Parser.inParentheses (Parser.items (listItem? item))
    return given.filter (!·.isEmpty)
  else return []

/-- A part of a type of values with several parts. -/
def typePart : Parser Phrase := do
  let name ← Parser.part
  let type ← TypeName.written
  return name ++ " " ++ type ++ (← Parser.clause ["COLLATE"] Parser.name)

/-- A type, after its keyword. -/
def type : Parser Phrase := do
  let name ← Parser.name
  Parser.expectKeyword "AS"
  if ← Parser.keyword "ENUM" then
    let labels ← Parser.inParentheses (Parser.commaSeparatedBefore ")" Parser.part)
    return "CREATE TYPE " ++ name ++ " AS ENUM " ++ .parenthesized (.list labels)
  else
    let parts ← looseList typePart
    return "CREATE TYPE " ++ name ++ " AS " ++ .parenthesized (.list parts)

/-- A parameter of a procedure, which may be missing before a comma. -/
def parameter : Parser Phrase := do
  match ← Parser.peek? with
  | some (.word _) | some (.quotedName _) =>
      let name ← Parser.part
      return name ++ " " ++ (← TypeName.written)
  | _ => return []

/-- A procedure, after its keyword. -/
def procedure (inner : Grammar) (altering : Phrase) : Parser Phrase := do
  let name ← Parser.name
  let given ← looseList parameter
  let parameters : Phrase := if given.isEmpty then [] else " " ++ .parenthesized (.list given)
  Parser.expectKeywords ["AS", "BEGIN"]
  let statements ← StatementList.read inner.statement
  Parser.expectKeyword "END"
  return "CREATE " ++ altering ++ "PROCEDURE " ++ name ++ parameters ++ " AS BEGIN "
    ++ .joinWith "; " (statements.map (·.phrase)) ++ " END"

/-- A name for a secret or for the place where it is kept, which counts only if it can be read. -/
def secretName : Parser (Option Phrase) := do
  match ← Parser.attempt Parser.part with
  | some name => return some name
  | none =>
      Parser.skip
      return none

/-- The name of a secret and the place where it is kept, each before a space. -/
def secretPlace : Parser Phrase := do
  if ← Parser.isSign "(" then return []
  else
    let isKept ← Parser.isKeyword ["IN"]
    let name ← if isKept then pure none else secretName
    let place? ← Parser.after "IN" secretName
    let again? ← if isKept && place?.join.isNone then Parser.after "IN" secretName else pure none
    let place : Option Phrase := (place?.join <|> again?.join).map fun place => "IN " ++ place
    return (name.toList ++ place.toList).flatMap fun phrase => phrase ++ " "

/-- A part of a secret. -/
def secretOption : Parser Phrase := do
  let key ← Parser.part
  return key ++ " " ++ (← Parser.part)

/-- A secret, after its keyword. -/
def secret (head : Phrase) : Parser Phrase := do
  let tolerant ← NewTable.tolerance
  let place ← secretPlace
  let content ← Parser.inParentheses do
    Parser.expectKeyword "TYPE"
    let kind ← Parser.part
    if ← Parser.sign "," then return kind ++ ", " ++ (← Parser.list secretOption)
    else return kind
  return head ++ "SECRET " ++ tolerant ++ place ++ "( TYPE " ++ content ++ " )"

/-- Something that cannot replace another thing. -/
def once (inner : Grammar) (altering temporary : Phrase) : Parser Phrase := do
  if ← Parser.keywords ["UNIQUE", "INDEX"] then index inner "CREATE UNIQUE INDEX "
  else
    let kinds := [
      "DATABASE", "EXTENSION", "INDEX", "PROCEDURE", "ROLE", "SCHEMA", "SEQUENCE", "TYPE",
      "VIRTUAL"]
    match ← Parser.oneOf kinds with
    | "DATABASE" => database
    | "EXTENSION" => extension
    | "INDEX" => index inner "CREATE INDEX "
    | "PROCEDURE" => procedure inner altering
    | "ROLE" => roles
    | "SCHEMA" => schema
    | "SEQUENCE" => sequence temporary
    | "TYPE" => type
    | _ => virtualTable

/-- A statement that creates something, after its keyword. Words that say nothing of what is created
are passed over.
-/
def read (inner : Grammar) : Parser Statement := do
  let replacing ← Parser.leadingKeywords ["OR", "REPLACE"]
  let altering ← Parser.leadingKeywords ["OR", "ALTER"]
  let nearby ← Parser.leadingKeyword "LOCAL"
  let everywhere ← Parser.leadingKeyword "GLOBAL"
  let transient ← Parser.leadingKeyword "TRANSIENT"
  let isTemporary := (← Parser.anyKeyword ["TEMP", "TEMPORARY"]).isSome
  let temporary : Phrase := if isTemporary then "TEMPORARY " else []
  let reach := if everywhere.isEmpty then nearby else everywhere
  if ← Parser.keyword "TABLE" then
    NewTable.read inner ("CREATE " ++ replacing ++ reach ++ temporary ++ transient ++ "TABLE ")
  else if ← Parser.keywords ["EXTERNAL", "TABLE"] then
    NewTable.external inner ("CREATE " ++ replacing ++ "EXTERNAL TABLE ")
  else if ← Parser.isKeyword ["MATERIALIZED", "VIEW"] then
    return .other (← View.creation inner replacing temporary)
  else if ← Parser.keyword "POLICY" then return .other (← Policy.creation inner)
  else if ← Parser.keyword "SECRET" then
    return .other (← secret ("CREATE " ++ replacing ++ temporary))
  else if replacing.isEmpty then return .other (← once inner altering temporary)
  else failure

end DumpTransfer.Sql.Grammar.Creation
