import DumpTransfer.Sql.Grammar.Basic
import DumpTransfer.Sql.Grammar.TypeName

/-! Statements that remove something. -/

namespace DumpTransfer.Sql.Grammar.Removal

/-- Kinds of objects of which several can be removed at once. -/
def kinds : List String := [
  "TABLE", "VIEW", "INDEX", "ROLE", "SCHEMA", "DATABASE", "SEQUENCE", "STAGE", "TYPE"]

/-- That it does not matter whether the object is there, before a space. -/
def tolerance : Parser Phrase :=
  Parser.leadingKeywords ["IF", "EXISTS"]

/-- Objects, after the word for their kind. What depends on them is removed or keeps them, except
for roles, on which nothing depends.
-/
def objects (temporary : Phrase) (kind : String) : Parser Statement := do
  let tolerant ← tolerance
  let names ← Parser.commaSeparated Parser.qualifiedName
  let cascade ← Parser.spacedKeyword "CASCADE"
  let restrict ← Parser.spacedKeyword "RESTRICT"
  let purge ← Parser.spacedKeyword "PURGE"
  let tail := cascade ++ restrict ++ purge
  if !cascade.isEmpty && !restrict.isEmpty || kind = "ROLE" && !tail.isEmpty then failure
  return .drop ("DROP " ++ temporary ++ .leadingWord kind ++ tolerant) names tail

/-- What happens to what depends on a removed object. -/
def dependents : Parser Phrase :=
  Parser.spacedAny ["CASCADE", "RESTRICT"]

/-- The type of an argument, with a name before it. A name without a meaning of its own is never the
type.
-/
def namedType : Parser Phrase := do
  let first ← Parser.peek?
  let type ← TypeName.read
  if type.kind = .custom then
    let name ←
      match first with
      | some (.word spelling) => pure (.plain spelling)
      | some (.quotedName name) => pure (.quoted '`' name)
      | _ => failure
    return name ++ " " ++ (← TypeName.written)
  else return type.phrase

/-- An argument of a function that is told by its arguments. -/
def argument (inner : Grammar) : Parser Phrase := do
  let direction ← Parser.leadingAny ["IN", "OUT", "INOUT"]
  let type ← namedType
  let hasDefault ← if ← Parser.keyword "DEFAULT" then pure true else Parser.sign "="
  let default ← if hasDefault then pure (" = " ++ (← inner.expression 0)) else pure []
  return direction ++ type ++ default

/-- A function, which may be told by its arguments. -/
def function (inner : Grammar) : Parser Phrase := do
  let name ← Parser.name
  if ← Parser.isSign "(" then
    let arguments ← Parser.inParentheses (Parser.commaSeparatedBefore ")" (argument inner))
    return if arguments.isEmpty then name else name ++ .parenthesized (.list arguments)
  else return name

/-- Functions or procedures, after the word for their kind. -/
def functions (inner : Grammar) (kind : String) : Parser Phrase := do
  let tolerant ← tolerance
  let removed ← Parser.list (function inner)
  return "DROP " ++ .leadingWord kind ++ tolerant ++ removed ++ (← dependents)

/-- A policy, after the word for it. -/
def policy : Parser Phrase := do
  let tolerant ← tolerance
  let name ← Parser.part
  Parser.expectKeyword "ON"
  let table ← Parser.relation
  return "DROP POLICY " ++ tolerant ++ name ++ " ON " ++ table ++ (← dependents)

/-- A secret, after the word for it. The place where it is kept counts only if it can be read. -/
def secret (temporary : Phrase) : Parser Phrase := do
  let tolerant ← tolerance
  let name ← Parser.part
  let head := "DROP " ++ temporary ++ "SECRET " ++ tolerant ++ name
  if ← Parser.keyword "FROM" then
    match ← Parser.attempt Parser.part with
    | some place => return head ++ " FROM " ++ place
    | none =>
        Parser.skip
        return head
  else return head

/-- A statement that removes something, after its keyword. -/
def read (inner : Grammar) : Parser Statement := do
  let temporary ← Parser.leadingKeyword "TEMPORARY"
  match ← Parser.oneOf (kinds ++ ["FUNCTION", "POLICY", "PROCEDURE", "SECRET"]) with
  | "FUNCTION" => return .other (← functions inner "FUNCTION")
  | "POLICY" => return .other (← policy)
  | "PROCEDURE" => return .other (← functions inner "PROCEDURE")
  | "SECRET" => return .other (← secret temporary)
  | kind => objects temporary kind

end DumpTransfer.Sql.Grammar.Removal
