import DumpTransfer.Sql.Grammar.Source

/-! Selections: which columns of which rows are wanted, and how these are brought together. -/

namespace DumpTransfer.Sql.Grammar.Selection

/-- What makes two rows the same, after the keyword. -/
def distinction (inner : Grammar) : Parser Phrase := do
  if ← Parser.keyword "ON" then
    let columns ← Parser.parenthesized do
      return .list (← Parser.commaSeparatedBefore ")" (inner.expression 0))
    return "DISTINCT ON " ++ columns
  else return "DISTINCT"

/-- Whether only different rows are wanted, after a space, or nothing. -/
def distinct (inner : Grammar) : Parser Phrase := do
  let isAll ← Parser.keyword "ALL"
  match ← Parser.after "DISTINCT" (distinction inner) with
  | none => return []
  | some phrase => if isAll then failure else return " " ++ phrase

/-- How many of the first rows are wanted. -/
def topCount (inner : Grammar) : Parser Phrase := do
  if ← Parser.isSign "(" then inner.parenthesized else Parser.digits

/-- Which of the first rows are wanted, after a space, or nothing. -/
def top (inner : Grammar) : Parser Phrase :=
  Parser.clause ["TOP"] do
    let count ← topCount inner
    return count ++ (← Parser.spacedKeyword "PERCENT")
      ++ (← Parser.spacedKeywords ["WITH", "TIES"])

/-- The table that the rows are put into. -/
def target : Parser Phrase :=
  Parser.clause ["INTO"] do
    let temporary : Phrase :=
      if (← Parser.anyKeyword ["TEMP", "TEMPORARY"]).isSome then "TEMPORARY " else []
    let unlogged ← Parser.leadingKeyword "UNLOGGED"
    let table ← Parser.leadingKeyword "TABLE"
    return temporary ++ unlogged ++ table ++ (← Parser.name)

/-- Words after the name of a view of lists that are no name for its columns. -/
def wordsAfterView : List String := ["CLUSTER", "GROUP", "HAVING", "LATERAL", "WHERE"]

/-- A table whose rows are the members of lists, if there is one. -/
def listView? (inner : Grammar) : Parser (Option Phrase) := do
  if ← Parser.keywords ["LATERAL", "VIEW"] then
    let outer ← Parser.spacedKeyword "OUTER"
    let lists ← inner.expression 0
    let name ← Parser.name
    let columns ← Parser.commaSeparated (Item.otherName? wordsAfterView)
    let named := columns.filterMap id
    let names : Phrase := if named.isEmpty then [] else " AS " ++ .list named
    return some (" LATERAL VIEW" ++ outer ++ " " ++ lists ++ " " ++ name ++ names)
  else return none

/-- How rows are grouped. -/
def groups (inner : Grammar) : Parser Phrase :=
  Parser.clause ["GROUP", "BY"] do
    if ← Parser.keyword "ALL" then return "ALL" else inner.expressions

/-- How rows are distributed and sorted before they are brought together. -/
def distribution (inner : Grammar) : Parser Phrase := do
  let clusters ← Parser.clause ["CLUSTER", "BY"] inner.expressions
  let parts ← Parser.clause ["DISTRIBUTE", "BY"] inner.expressions
  return clusters ++ parts ++ (← Parser.clause ["SORT", "BY"] inner.expressions)

/-- Windows with names, and a condition on what functions yield over them, in either order. -/
def windows (inner : Grammar) : Parser Phrase := do
  let named := Parser.clause ["WINDOW"] (Parser.list (Call.namedWindow inner))
  let first ← named
  let condition ← Parser.clause ["QUALIFY"] (inner.expression 0)
  let last ← if first.isEmpty then named else pure []
  return first ++ condition ++ last

/-- A selection, after its keyword. -/
def read (inner : Grammar) : Parser Phrase := do
  let different ← distinct inner
  let most ← top inner
  let items ← Parser.list (Item.read inner)
  let into ← target
  let source ← Parser.clause ["FROM"] (Source.tables inner)
  let views ← Parser.items (listView? inner)
  let condition ← inner.filter
  let grouped ← groups inner
  let distributed ← distribution inner
  let groupCondition ← Parser.clause ["HAVING"] (inner.expression 0)
  return "SELECT" ++ different ++ most ++ " " ++ items ++ into ++ source ++ views.flatten
    ++ condition ++ grouped ++ distributed ++ groupCondition ++ (← windows inner)

end DumpTransfer.Sql.Grammar.Selection
