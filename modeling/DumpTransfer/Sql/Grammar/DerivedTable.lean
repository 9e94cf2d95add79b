import DumpTransfer.Sql.Grammar.Call
import DumpTransfer.Sql.Grammar.TypeName

/-! Tables that are made out of something else: out of the values of a document, or out of
another table whose rows become columns or whose columns become rows.
-/

namespace DumpTransfer.Sql.Grammar.DerivedTable

/-- A function of the rows that become columns. -/
def aggregate (inner : Grammar) : Parser Phrase := do
  match ← Parser.next with
  | .word name | .quotedName name =>
      let call ← Call.read inner (.plain name)
      return call ++ .spaced (← Item.nameAfterAs?)
  | _ => failure

/-- A value whose rows become a column. -/
def pivotValue (inner : Grammar) : Parser Phrase := do
  let value ← inner.expression 0
  return value ++ .spaced (← Item.nameAfterAs?)

/-- The values whose rows become columns. -/
def pivotValues (inner : Grammar) : Parser Phrase := do
  if ← Parser.keyword "ANY" then return "ANY" ++ (← inner.orderBy)
  else if ← isQuery then inner.query
  else Parser.list (pivotValue inner)

/-- What tells which rows of a table become columns. -/
def pivot (inner : Grammar) : Parser Phrase := do
  let content ← Parser.parenthesized do
    let functions ← Parser.list (aggregate inner)
    Parser.expectKeyword "FOR"
    let column ← Parser.name
    Parser.expectKeyword "IN"
    let values ← Parser.parenthesized (pivotValues inner)
    let otherwise ← Parser.clause ["DEFAULT", "ON", "NULL"] inner.parenthesized
    return functions ++ " FOR " ++ column ++ " IN " ++ values ++ otherwise
  return " PIVOT" ++ content ++ (← Item.tableName)

/-- What tells which columns of a table become rows. -/
def unpivot : Parser Phrase := do
  let content ← Parser.parenthesized do
    let value ← Parser.part
    Parser.expectKeyword "FOR"
    let name ← Parser.part
    Parser.expectKeyword "IN"
    return value ++ " FOR " ++ name ++ " IN " ++ (← Parser.partList)
  return " UNPIVOT" ++ content ++ (← Item.tableName)

/-- One exchange of rows and columns, if there is one. -/
def rotation? (inner : Grammar) : Parser (Option Phrase) := do
  if ← Parser.keyword "PIVOT" then return some (← pivot inner)
  else if ← Parser.keyword "UNPIVOT" then return some (← unpivot)
  else return none

/-- The exchanges of rows and columns after a table. -/
def rotations (inner : Grammar) : Parser Phrase := do
  return (← Parser.items (rotation? inner)).flatten

/-- Where a document has no value, or not the right one, and what takes its place. -/
inductive Substitute where
  | empty (value : Phrase)
  | error (value : Phrase)

/-- What takes the place of a value, if anything is said of it. -/
def substitute? : Parser (Option Substitute) := do
  match ← Parser.anyKeyword ["NULL", "ERROR", "DEFAULT"] with
  | none => return none
  | some word =>
      let value ← if word = "DEFAULT" then Value.any else pure []
      let written : Phrase :=
        if value.isEmpty then (word : Phrase) else .leadingWord word ++ value
      Parser.expectKeyword "ON"
      match ← Parser.oneOf ["EMPTY", "ERROR"] with
      | "EMPTY" => return some (.empty written)
      | _ => return some (.error written)

/-- The last substitutes that are given, in their fixed order. -/
def substitutes : Parser Phrase := do
  let given ← Parser.items substitute?
  let onEmpty := (given.filterMap fun
    | .empty value => some value
    | .error _ => none).getLast?
  let onError := (given.filterMap fun
    | .error value => some value
    | .empty _ => none).getLast?
  return .spaced (onEmpty.map (· ++ " ON EMPTY")) ++ .spaced (onError.map (· ++ " ON ERROR"))

/-- A column with values of a document. -/
def documentColumn : Parser Phrase := do
  let name ← Parser.part
  if ← Parser.keyword "FOR" then
    Parser.expectKeyword "ORDINALITY"
    return name ++ " FOR ORDINALITY"
  else
    let type ← TypeName.written
    let exists_ ← Parser.spacedKeyword "EXISTS"
    Parser.expectKeyword "PATH"
    let path ← Value.any
    return name ++ " " ++ type ++ exists_ ++ " PATH " ++ path ++ (← substitutes)

/-- Columns of a document between parentheses, nested less deeply than a list is long. -/
def documentColumns : List Token → Parser Phrase
  | [] => failure
  | _ :: bound =>
      Parser.parenthesized <| Parser.list do
        if ← Parser.keyword "NESTED" then
          let _ ← Parser.keyword "PATH"
          let path ← Value.any
          Parser.expectKeyword "COLUMNS"
          return "NESTED PATH " ++ path ++ " COLUMNS " ++ (← documentColumns bound)
        else documentColumn

/-- A table of values of a document, after its keyword. -/
def document (inner : Grammar) : Parser Phrase := do
  let content ← Parser.parenthesized do
    let value ← inner.expression 0
    Parser.expectSign ","
    let path ← Value.any
    Parser.expectKeyword "COLUMNS"
    return value ++ ", " ++ path ++ " COLUMNS" ++ (← documentColumns (← get))
  return "JSON_TABLE" ++ content ++ (← Item.tableName)

end DumpTransfer.Sql.Grammar.DerivedTable
