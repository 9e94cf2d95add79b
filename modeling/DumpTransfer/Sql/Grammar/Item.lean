import DumpTransfer.Sql.Grammar.Basic

/-! Selected items and arguments that stand for all columns, and other names for items and
tables.
-/

namespace DumpTransfer.Sql.Grammar.Item

/-- Words after a selected item that are no other name for it. -/
def wordsAfterItem : List String := [
  "ANALYZE", "CLUSTER", "DISTRIBUTE", "END", "EXCEPT", "EXPLAIN", "FETCH", "FROM", "GROUP",
  "HAVING", "INTERSECT", "INTO", "LATERAL", "LIMIT", "OFFSET", "ORDER", "SELECT", "SORT", "TOP",
  "UNION", "VIEW", "WHERE", "WITH"]

/-- Words after a table that are no other name for it. -/
def wordsAfterTable : List String := [
  "ANALYZE", "CLUSTER", "CONNECT", "CROSS", "DISTRIBUTE", "END", "EXCEPT", "EXPLAIN", "FETCH",
  "FOR", "FORMAT", "FULL", "GLOBAL", "GROUP", "HAVING", "INNER", "INTERSECT", "JOIN", "LATERAL",
  "LEFT", "LIMIT", "MATCH_RECOGNIZE", "NATURAL", "OFFSET", "ON", "ORDER", "OUTER", "PARTITION",
  "PIVOT", "PREWHERE", "QUALIFY", "RIGHT", "SELECT", "SET", "SETTINGS", "SORT", "START", "TOP",
  "UNION", "UNPIVOT", "USING", "VIEW", "WHERE", "WINDOW", "WITH"]

/-- Another name; without its keyword it is none of the given words. -/
def otherName? (reserved : List String) : Parser (Option Phrase) := do
  if ← Parser.keyword "AS" then return some (← Parser.part)
  else if ← Parser.isKeyword reserved then return none
  else Parser.attempt Parser.part

/-- Another name as it is written after what it names. -/
def otherName (reserved : List String) : Parser Phrase := do
  match ← otherName? reserved with
  | some name => return " AS " ++ name
  | none => return []

/-- Another name for a table, with names for its columns. -/
def tableName : Parser Phrase := do
  match ← otherName? wordsAfterTable with
  | some name => return " AS " ++ name ++ (← Parser.optionalPartList)
  | none => return []

/-- Another name where it has to follow the keyword. -/
def nameAfterAs? : Parser (Option Phrase) :=
  Parser.clause? ["AS"] Parser.part

/-- A part of a name before all its columns, or the sign for these. -/
def furtherPart : Parser (Option Phrase) := do
  if ← Parser.sign "*" then return none
  else
    match ← Parser.next with
    | .word spelling => return some (.plain spelling)
    | .quotedName name => return some (.quoted '`' name)
    | .string value => return some (.quoted '\'' value)
    | _ => failure

/-- The sign for all columns, or a name with it. -/
def allColumns : Parser Phrase := do
  match ← furtherPart with
  | none => return "*"
  | some first =>
      let more ← Parser.items do
        if ← Parser.sign "." then return some (← furtherPart) else return none
      if more.getLast? = some none && more.dropLast.all Option.isSome then
        return .joinWith "." (first :: more.map fun part => part.getD "*")
      else failure

/-- The sign for all columns or a name with it, if one comes next. -/
def wildcard? : Parser (Option Phrase) :=
  Parser.attempt allColumns

/-- An expression or a sign for all columns. -/
def orWildcard (inner : Grammar) : Parser Phrase := do
  match ← wildcard? with
  | some phrase => return phrase
  | none => inner.expression 0

/-- A selected item. -/
def read (inner : Grammar) : Parser Phrase := do
  match ← wildcard? with
  | some phrase => return phrase
  | none =>
      let value ← inner.expression 0
      if Text.equalsIgnoringCase value.render "from" then failure
      else return value ++ (← otherName wordsAfterItem)

/-- Items that come back from a change, if any are asked for. -/
def returned (inner : Grammar) : Parser Phrase :=
  Parser.clause ["RETURNING"] (Parser.list (read inner))

end DumpTransfer.Sql.Grammar.Item
