import DumpTransfer.Sql.Grammar.Basic
import DumpTransfer.Sql.Grammar.Item
import DumpTransfer.Sql.Grammar.Value

/-! Calls of functions: their arguments, what is said of the rows that they gather, and the
windows that they look at. Some arguments are spans of time.
-/

-----------------------------------------------------------------------------------------
-- Units of time
-----------------------------------------------------------------------------------------

namespace DumpTransfer.Sql.Grammar.TimeUnit

/-- Units in which spans of time are given. -/
def ofSpans : List String := [
  "CENTURY", "DAY", "DECADE", "DOW", "DOY", "EPOCH", "HOUR", "ISODOW", "ISOYEAR", "JULIAN",
  "MICROSECOND", "MICROSECONDS", "MILLENIUM", "MILLENNIUM", "MILLISECOND", "MILLISECONDS",
  "MINUTE", "MONTH", "NANOSECOND", "NANOSECONDS", "QUARTER", "SECOND", "TIMEZONE",
  "TIMEZONE_HOUR", "TIMEZONE_MINUTE", "WEEK", "YEAR"]

/-- Units that are parts of points in time. -/
def ofPoints : List String :=
  ofSpans ++ [
    "DATE", "DATETIME", "DAYOFWEEK", "DAYOFYEAR", "ISOWEEK", "TIME", "TIMEZONE_ABBR",
    "TIMEZONE_REGION"]

/-- A unit. -/
def read : Parser String :=
  Parser.oneOf ofPoints

/-- A precision between parentheses after a space, or nothing. -/
def precision : Parser Phrase := do
  if ← Parser.isSign "(" then return " " ++ (← Parser.parenthesized Parser.digits)
  else return []

/-- The precision of seconds and that of their fraction, or nothing. -/
def secondPrecision : Parser Phrase := do
  if ← Parser.isSign "(" then
    let digits : Parser Phrase := do
      let whole ← Parser.digits
      if ← Parser.sign "," then return whole ++ ", " ++ (← Parser.digits) else return whole
    return " " ++ (← Parser.parenthesized digits)
  else return []

/-- The last unit of a span that is given in several, or nothing. -/
def lastUnit : Parser Phrase := do
  if ← Parser.keyword "TO" then
    let unit ← read
    let fraction ← if unit = "SECOND" then precision else pure []
    return " TO " ++ (unit : Phrase) ++ fraction
  else return []

/-- A span of time, after its keyword. -/
def interval (inner : Grammar) : Parser Phrase := do
  let amount ← inner.expression 0
  let unit ← Parser.oneOf ofSpans
  let extent ←
    if unit = "SECOND" then secondPrecision else pure ((← precision) ++ (← lastUnit))
  return "INTERVAL " ++ amount ++ .spacedWord unit ++ extent

end DumpTransfer.Sql.Grammar.TimeUnit

-----------------------------------------------------------------------------------------
-- Calls
-----------------------------------------------------------------------------------------

namespace DumpTransfer.Sql.Grammar.Call

/-- A word that asks for all values or for different ones, before a space, or nothing. -/
def treatment : Parser Phrase := do
  let all ← Parser.leadingKeyword "ALL"
  let distinct ← Parser.leadingKeyword "DISTINCT"
  if all.isEmpty || distinct.isEmpty then return all ++ distinct else failure

/-- An argument that is given by its name. -/
def namedArgument (inner : Grammar) : Parser Phrase := do
  let name ← Parser.part
  Parser.expectSign "=>"
  return name ++ " => " ++ (← Item.orWildcard inner)

/-- An argument. -/
def argument (inner : Grammar) : Parser Phrase := do
  match ← Parser.attempt (namedArgument inner) with
  | some phrase => return phrase
  | none => Item.orWildcard inner

/-- What stands for the values that are left out of a text that is too long, after a space, or
nothing.
-/
def filler (inner : Grammar) : Parser Phrase := do
  match ← Parser.peek? with
  | some (.string _) | some (.escaped _) | some (.national _) | some (.bytes _) =>
      return " " ++ (← inner.expression 0)
  | _ => return []

/-- What happens where gathered values make too long a text, if anything is said of it. -/
def overflow? (inner : Grammar) : Parser (Option Phrase) := do
  if ← Parser.keywords ["ON", "OVERFLOW"] then
    if ← Parser.keyword "ERROR" then return some "ON OVERFLOW ERROR"
    else
      Parser.expectKeyword "TRUNCATE"
      let ending ← filler inner
      let count ← Parser.oneOf ["WITH", "WITHOUT"]
      Parser.expectKeyword "COUNT"
      return some ("ON OVERFLOW TRUNCATE" ++ ending ++ .spacedWord count ++ " COUNT")
  else return none

/-- What may follow the arguments of a function that gathers rows. -/
def gathering (inner : Grammar) : Parser Phrase := do
  let order ← inner.orderBy
  let limit ← Parser.clause ["LIMIT"] (inner.expression 0)
  let separator ← Parser.clause ["SEPARATOR"] Value.any
  return order ++ limit ++ separator ++ .spaced (← overflow? inner)

/-- The arguments of a function, after the opening parenthesis. -/
def arguments (inner : Grammar) : Parser Phrase := do
  if ← Parser.sign ")" then return "()"
  else
    let wanted ← treatment
    let items ← Parser.list (argument inner)
    let more ← gathering inner
    Parser.expectSign ")"
    return .parenthesized (wanted ++ items ++ more)

/-- A distance from the row at hand, or none where the window has no bound. -/
def distance (inner : Grammar) : Parser Phrase := do
  if ← Parser.keyword "UNBOUNDED" then return "UNBOUNDED"
  else
    match ← Parser.peek? with
    | some (.string _) => TimeUnit.interval inner
    | _ => inner.expression 0

/-- A bound of the rows of a window. -/
def frameBound (inner : Grammar) : Parser Phrase := do
  if ← Parser.keywords ["CURRENT", "ROW"] then return "CURRENT ROW"
  else
    let amount ← distance inner
    return amount ++ .spacedWord (← Parser.oneOf ["PRECEDING", "FOLLOWING"])

/-- The rows of a window that count for one of them. -/
def frame (inner : Grammar) : Parser Phrase := do
  let unit ← Parser.oneOf ["ROWS", "RANGE", "GROUPS"]
  if ← Parser.keyword "BETWEEN" then
    let first ← frameBound inner
    Parser.expectKeyword "AND"
    return .leadingWord unit ++ "BETWEEN " ++ first ++ " AND " ++ (← frameBound inner)
  else return .leadingWord unit ++ (← frameBound inner)

/-- The name of the window that another one is made from. -/
def baseWindow? : Parser (Option Phrase) := do
  match ← Parser.peek? with
  | some (.word spelling) =>
      if Keyword.isKeyword (.word spelling) then return none else return some (← Parser.part)
  | some (.quotedName _) => return some (← Parser.part)
  | _ => return none

/-- A window between parentheses. -/
def window (inner : Grammar) : Parser Phrase :=
  Parser.parenthesized do
    let base ← baseWindow?
    let partition ← Parser.clause? ["PARTITION", "BY"] inner.expressions
    let order ← inner.orderBy?
    let rows ← if ← Parser.isSign ")" then pure none else some <$> frame inner
    return .joinWith " " (base.toList ++ partition.toList ++ order.toList ++ rows.toList)

/-- A window with a name. -/
def namedWindow (inner : Grammar) : Parser Phrase := do
  let name ← Parser.part
  Parser.expectKeyword "AS"
  return name ++ " AS " ++ (← window inner)

/-- The window that a function looks at, or its name. -/
def windowOrName (inner : Grammar) : Parser Phrase := do
  if ← Parser.isSign "(" then window inner else Parser.part

/-- The order in which a function gathers rows. -/
def withinGroup (inner : Grammar) : Parser Phrase :=
  Parser.clause ["WITHIN", "GROUP"] <| Parser.parenthesized do
    match ← inner.orderBy? with
    | some order => return order
    | none => failure

/-- What a function does where there is no value. -/
def nullTreatment : Parser Phrase := do
  match ← Parser.anyKeyword ["RESPECT", "IGNORE"] with
  | some word =>
      Parser.expectKeyword "NULLS"
      return .spacedWord word ++ " NULLS"
  | none => return []

/-- A call of a function, after its name. -/
def read (inner : Grammar) (name : Phrase) : Parser Phrase := do
  Parser.expectSign "("
  let given ← arguments inner
  let order ← withinGroup inner
  let nulls ← nullTreatment
  return name ++ given ++ order ++ nulls ++ (← Parser.clause ["OVER"] (windowOrName inner))

end DumpTransfer.Sql.Grammar.Call
