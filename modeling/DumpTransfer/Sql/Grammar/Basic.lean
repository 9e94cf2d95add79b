import DumpTransfer.Sql.Parser
import DumpTransfer.Sql.Statement

/-! What the parts of the grammar that contain one another know of each other: how what is
nested one level deeper is read.
-/

namespace DumpTransfer.Sql

/-- How nested parts of a statement are read. -/
structure Grammar where
  /-- An expression in which every operator binds more tightly than the given strength. -/
  expression : Nat → Parser Phrase
  /-- The same, in parentheses of its own or, where it is a query, in those of the query. -/
  enclosed : Nat → Parser Phrase
  /-- A query. -/
  query : Parser Phrase
  /-- A statement. -/
  statement : Parser Statement

namespace Grammar

/-- The grammar in which nothing may be nested. -/
def flat : Grammar :=
  ⟨fun _ => throw .depth, fun _ => throw .depth, throw .depth, throw .depth⟩

/-- Whether a query comes next. -/
def isQuery : Parser Bool :=
  Parser.isKeyword ["SELECT", "WITH"]

/-- Expressions with commas between them. -/
def expressions (inner : Grammar) : Parser Phrase :=
  Parser.list (inner.expression 0)

/-- An expression between parentheses. -/
def parenthesized (inner : Grammar) : Parser Phrase :=
  Parser.parenthesized (inner.expression 0)

/-- Expressions between parentheses. -/
def expressionList (inner : Grammar) : Parser Phrase :=
  Parser.parenthesized inner.expressions

/-- A condition after its keyword, if there is one. -/
def filter (inner : Grammar) : Parser Phrase :=
  Parser.clause ["WHERE"] (inner.expression 0)

/-- An expression to order by, with the direction. -/
def ordering (inner : Grammar) : Parser Phrase := do
  let expression ← inner.expression 0
  let direction ← Parser.spacedAny ["ASC", "DESC"]
  let first ← Parser.spacedKeywords ["NULLS", "FIRST"]
  let last ← if first.isEmpty then Parser.spacedKeywords ["NULLS", "LAST"] else pure []
  return expression ++ direction ++ first ++ last

/-- The order asked for, if any is. -/
def orderBy? (inner : Grammar) : Parser (Option Phrase) :=
  Parser.clause? ["ORDER", "BY"] (Parser.list inner.ordering)

/-- The order asked for, after a space, or nothing. -/
def orderBy (inner : Grammar) : Parser Phrase := do
  return .spaced (← inner.orderBy?)

/-- An option with its value. -/
def option (inner : Grammar) : Parser Phrase := do
  let name ← Parser.part
  Parser.expectSign "="
  return name ++ " = " ++ (← inner.expression 0)

/-- Options between parentheses after given words, nothing if there are none. -/
def options (inner : Grammar) (words : List String) : Parser (List Phrase) := do
  if ← Parser.keywords words then
    Parser.inParentheses (Parser.commaSeparatedBefore ")" inner.option)
  else return []

end Grammar

end DumpTransfer.Sql
