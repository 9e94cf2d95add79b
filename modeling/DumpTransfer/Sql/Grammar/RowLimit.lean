import DumpTransfer.Sql.Grammar.Value
import DumpTransfer.Sql.Grammar.Basic

/-! How many rows of a query are wanted and how many are passed over before them. -/

namespace DumpTransfer.Sql.Grammar

/-- Which rows are wanted, as far as that is said. -/
structure RowLimit where
  /-- The most rows. -/
  count : Option Phrase
  /-- The rows before them. -/
  start : Option Phrase

namespace RowLimit

/-- The most rows that are wanted, after its keyword, unless it is all. -/
def count? (inner : Grammar) : Parser (Option Phrase) := do
  if ← Parser.keyword "ALL" then return none else return some (← inner.expression 0)

/-- How many rows are passed over, after its keyword. -/
def offset (inner : Grammar) : Parser Phrase := do
  return (← inner.expression 0) ++ (← Parser.spacedAny ["ROW", "ROWS"])

/-- The same with what comes next. After a comma follows the number of wanted rows, and what
stands before it is the number of rows before them.
-/
def extend (inner : Grammar) (given : RowLimit) : Parser RowLimit := do
  let count ←
    match given.count with
    | some count => pure (some count)
    | none => Option.join <$> Parser.after "LIMIT" (count? inner)
  let start ←
    match given.start with
    | some start => pure (some start)
    | none => Parser.after "OFFSET" (offset inner)
  if count.isSome && start.isNone then
    if ← Parser.sign "," then return { count := some (← inner.expression 0), start := count }
    else return { count, start }
  else return { count, start }

/-- Both numbers, in either order. -/
def read (inner : Grammar) : Parser Phrase := do
  let early ← extend inner { count := none, start := none }
  let given ← extend inner early
  return .spaced (given.count.map ("LIMIT " ++ ·)) ++ .spaced (given.start.map ("OFFSET " ++ ·))

/-- How many rows are fetched, with the words that say it of rows. -/
def fetchCount : Parser Phrase := do
  if (← Parser.anyKeyword ["ROW", "ROWS"]).isSome then return "ROWS"
  else
    let count ← Value.any
    let percent ← Parser.spacedKeyword "PERCENT"
    let _ ← Parser.oneOf ["ROW", "ROWS"]
    return count ++ percent ++ " ROWS"

/-- The rows that are fetched, if that is said. -/
def fetch : Parser Phrase := do
  if ← Parser.keyword "FETCH" then
    let _ ← Parser.oneOf ["FIRST", "NEXT"]
    let count ← fetchCount
    if ← Parser.keyword "ONLY" then return " FETCH FIRST " ++ count ++ " ONLY"
    else
      Parser.expectKeywords ["WITH", "TIES"]
      return " FETCH FIRST " ++ count ++ " WITH TIES"
  else return []

end RowLimit

end DumpTransfer.Sql.Grammar
