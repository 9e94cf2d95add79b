import DumpTransfer.Sql.Grammar.TypeName
import DumpTransfer.Sql.Grammar.Basic

/-! Statements about other statements: they are prepared, executed and explained. -/

namespace DumpTransfer.Sql.Grammar.Prepared

/-- A statement that is prepared, after the keyword. -/
def preparation (inner : Grammar) : Parser Phrase := do
  let name ← Parser.part
  let types : Phrase ←
    if ← Parser.isSign "(" then
      pure ((← Parser.parenthesized (Parser.list TypeName.written)) ++ " ")
    else pure []
  Parser.expectKeyword "AS"
  return "PREPARE " ++ name ++ " " ++ types ++ "AS " ++ (← inner.statement).phrase

/-- The values that a prepared statement is executed with. -/
def arguments (inner : Grammar) : Parser Phrase := do
  if ← Parser.isSign "(" then
    Parser.parenthesized do
      return .list (← Parser.commaSeparatedBefore ")" (inner.expression 0))
  else if (← Parser.atEnd) || (← Parser.isKeyword ["USING"]) || (← Parser.isSign ";") then
    return []
  else return " " ++ (← inner.expressions)

/-- A prepared statement that is executed, after the keyword. -/
def execution (inner : Grammar) : Parser Phrase := do
  let name ← Parser.name
  let given ← arguments inner
  return "EXECUTE " ++ name ++ given ++ (← Parser.clause ["USING"] inner.expressions)

/-- A prepared statement that is given up, after the keyword. -/
def deallocation : Parser Phrase := do
  let word ← Parser.leadingKeyword "PREPARE"
  return "DEALLOCATE " ++ word ++ (← Parser.part)

/-- Words that begin an explanation. -/
def explanationWords : List String := ["DESC", "DESCRIBE", "EXPLAIN"]

/-- What an explanation says of a statement. -/
def extent : Parser Phrase := do
  if ← Parser.keywords ["QUERY", "PLAN"] then return "QUERY PLAN "
  else if ← Parser.keyword "ESTIMATE" then return "ESTIMATE "
  else
    let measured ← Parser.leadingKeyword "ANALYZE"
    let verbose ← Parser.leadingKeyword "VERBOSE"
    if ← Parser.keyword "FORMAT" then
      let format ← Parser.oneOf ["TEXT", "GRAPHVIZ", "JSON"]
      return measured ++ verbose ++ "FORMAT " ++ .leadingWord format
    else return measured ++ verbose

/-- An explanation of a statement or of a table, after the given keyword. Explanations are not
explained, and of a table it says the same in every extent.
-/
def explanation (inner : Grammar) (keyword : String) : Parser Phrase := do
  let said ← extent
  let isNested ← Parser.isKeyword explanationWords
  match ← Parser.attempt inner.statement with
  | some statement =>
      if isNested then failure else return .leadingWord keyword ++ said ++ statement.phrase
  | none =>
      let form ← Parser.leadingAny ["EXTENDED", "FORMATTED"]
      return .leadingWord keyword ++ form ++ (← Parser.relation)

end DumpTransfer.Sql.Grammar.Prepared
