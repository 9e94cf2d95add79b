import DumpTransfer.Sql.Grammar.Basic
import DumpTransfer.Sql.Grammar.Value

/-! Cursors: places in the rows of a query that are moved by statements of their own. -/

namespace DumpTransfer.Sql.Grammar.Cursor

/-- Whether a cursor outlives the transaction. -/
def holding : Parser Phrase := do
  match ← Parser.anyKeyword ["WITH", "WITHOUT"] with
  | some word =>
      Parser.expectKeyword "HOLD"
      return .spacedWord word ++ " HOLD"
  | none => return []

/-- A new cursor, after the keyword. -/
def declaration (inner : Grammar) : Parser Phrase := do
  let name ← Parser.part
  let binary ← Parser.spacedKeyword "BINARY"
  let sensitivity ← Parser.spacedAny ["INSENSITIVE", "ASENSITIVE"]
  let scroll ← Parser.spacedKeyword "SCROLL"
  let fixed ← if scroll.isEmpty then Parser.spacedKeywords ["NO", "SCROLL"] else pure []
  Parser.expectKeyword "CURSOR"
  let hold ← holding
  Parser.expectKeyword "FOR"
  return "DECLARE " ++ name ++ binary ++ sensitivity ++ scroll ++ fixed ++ " CURSOR" ++ hold
    ++ " FOR " ++ (← inner.query)

/-- A number of rows after the given keyword, or all of them. -/
def rowsOrAll (keyword : String) : Parser Phrase := do
  if ← Parser.keyword "ALL" then return .leadingWord keyword ++ "ALL"
  else return .leadingWord keyword ++ (← Value.number)

/-- Which rows are fetched. -/
def direction : Parser Phrase := do
  let words := [
    "NEXT", "PRIOR", "FIRST", "LAST", "ALL", "ABSOLUTE", "RELATIVE", "FORWARD", "BACKWARD"]
  match ← Parser.anyKeyword words with
  | some "ABSOLUTE" => return "ABSOLUTE " ++ (← Value.number)
  | some "RELATIVE" => return "RELATIVE " ++ (← Value.number)
  | some "FORWARD" => rowsOrAll "FORWARD"
  | some "BACKWARD" => rowsOrAll "BACKWARD"
  | some word => return .ofWord word
  | none => Value.number

/-- Rows that are fetched, after the keyword. -/
def fetch : Parser Phrase := do
  let rows ← direction
  let _ ← Parser.oneOf ["FROM", "IN"]
  let name ← Parser.part
  return "FETCH " ++ rows ++ " IN " ++ name ++ (← Parser.clause ["INTO"] Parser.name)

/-- A cursor that is closed, or all of them, after the keyword. -/
def closing : Parser Phrase := do
  if ← Parser.keyword "ALL" then return "CLOSE ALL" else return "CLOSE " ++ (← Parser.part)

end DumpTransfer.Sql.Grammar.Cursor
