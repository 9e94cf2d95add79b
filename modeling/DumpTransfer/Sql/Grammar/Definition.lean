import DumpTransfer.Sql.Grammar.Constraint
import DumpTransfer.Sql.Grammar.TypeName
import DumpTransfer.Sql.Grammar.Value

/-! Columns of tables with what is said of them, and the sequences that number them. -/

-----------------------------------------------------------------------------------------
-- Sequences of numbers
-----------------------------------------------------------------------------------------

namespace DumpTransfer.Sql.Grammar.Sequence

/-- The step from one number to the next. -/
def step : Parser Phrase := do
  if ← Parser.keyword "INCREMENT" then
    let word ← Parser.spacedKeyword "BY"
    return " INCREMENT" ++ word ++ " " ++ (← Value.signedNumber)
  else return []

/-- A bound of the numbers, by its keyword. -/
def bound (keyword : String) : Parser Phrase := do
  if ← Parser.keyword keyword then return .spacedWord keyword ++ " " ++ (← Value.signedNumber)
  else Parser.spacedKeywords ["NO", keyword]

/-- The first number. -/
def start : Parser Phrase := do
  if ← Parser.keyword "START" then
    let word ← Parser.spacedKeyword "WITH"
    return " START" ++ word ++ " " ++ (← Value.signedNumber)
  else return []

/-- Whether the numbers begin anew after the last one. -/
def cycle : Parser Phrase := do
  if ← Parser.keywords ["NO", "CYCLE"] then return " NO CYCLE" else Parser.spacedKeyword "CYCLE"

/-- What is said of a sequence. -/
def options : Parser Phrase := do
  let increment ← step
  let least ← bound "MINVALUE"
  let most ← bound "MAXVALUE"
  let first ← start
  let kept ← Parser.clause ["CACHE"] Value.signedNumber
  return increment ++ least ++ most ++ first ++ kept ++ (← cycle)

/-- What is said of the sequence of a column between parentheses, or nothing. -/
def ofColumn : Parser Phrase := do
  if ← Parser.isSign "(" then
    let said ← Parser.inParentheses options
    return if said.isEmpty then [] else " (" ++ said ++ " )"
  else return []

end DumpTransfer.Sql.Grammar.Sequence

-----------------------------------------------------------------------------------------
-- Columns
-----------------------------------------------------------------------------------------

namespace DumpTransfer.Sql.Grammar.Definition

/-- The expression that a generated column is computed by, and whether it is stored. -/
def computation (inner : Grammar) : Parser Phrase := do
  let expression ← inner.parenthesized
  return "AS " ++ expression ++ (← Parser.spacedAny ["STORED", "VIRTUAL"])

/-- How a column is generated, after the keyword. Where the words do not go on as expected, those
that did are passed over and nothing is said of the column.
-/
def generation? (inner : Grammar) : Parser (Option Phrase) := do
  if ← Parser.keywords ["ALWAYS", "AS", "IDENTITY"] then
    return some ("GENERATED ALWAYS AS IDENTITY" ++ (← Sequence.ofColumn))
  else if ← Parser.keywords ["BY", "DEFAULT", "AS", "IDENTITY"] then
    return some ("GENERATED BY DEFAULT AS IDENTITY" ++ (← Sequence.ofColumn))
  else if ← Parser.keywords ["ALWAYS", "AS"] then
    if ← Parser.isSign "(" then return some ("GENERATED ALWAYS " ++ (← computation inner))
    else return none
  else return none

/-- An attribute that tells which values a column may have, if there is one. -/
def valueAttribute? (inner : Grammar) : Parser (Option Attribute) := do
  if ← Parser.keywords ["CHARACTER", "SET"] then
    return some ⟨.characterSet, "CHARACTER SET " ++ (← Parser.name)⟩
  else if ← Parser.keywords ["NOT", "NULL"] then return some ⟨.nullability, "NOT NULL"⟩
  else if ← Parser.keyword "COMMENT" then
    return some ⟨.comment, "COMMENT " ++ .quoted '\'' (← Parser.string)⟩
  else if ← Parser.keyword "NULL" then return some ⟨.nullability, "NULL"⟩
  else if ← Parser.keyword "DEFAULT" then
    return some ⟨.default, "DEFAULT " ++ (← inner.expression 0)⟩
  else if ← Parser.keywords ["PRIMARY", "KEY"] then
    return some ⟨.primaryKey, "PRIMARY KEY" ++ (← Constraint.timing)⟩
  else if ← Parser.keyword "UNIQUE" then
    return some ⟨.uniqueness, "UNIQUE" ++ (← Constraint.timing)⟩
  else if ← Parser.keyword "REFERENCES" then
    return some ⟨.reference, ← Constraint.reference Parser.optionalPartList⟩
  else if ← Parser.keyword "CHECK" then return some ⟨.check, ← Constraint.check inner⟩
  else return none

/-- An attribute that tells where the values of a column come from, if there is one. Words of other
dialects are passed over.
-/
def originAttribute? (inner : Grammar) : Parser (Option Attribute) := do
  if ← Parser.keyword "AUTO_INCREMENT" then
    return some ⟨.rowNumbering, "AUTO_INCREMENT"⟩
  else
    let _ ← Parser.keyword "AUTOINCREMENT"
    let _ ← Parser.keyword "ASC"
    let _ ← Parser.keyword "DESC"
    if ← Parser.keywords ["ON", "UPDATE"] then
      return some ⟨.update, "ON UPDATE " ++ (← inner.expression 0)⟩
    else if ← Parser.keyword "GENERATED" then
      return (← generation? inner).map fun phrase => ⟨.generation, phrase⟩
    else if ← Parser.keyword "AS" then return some ⟨.generation, ← computation inner⟩
    else
      let _ ← Parser.keyword "IDENTITY"
      return none

/-- An attribute of a column, if there is one. -/
def attribute? (inner : Grammar) : Parser (Option Attribute) := do
  match ← valueAttribute? inner with
  | some said => return some said
  | none => originAttribute? inner

/-- A part of a column after its type: an attribute, which may have a name, or a collation. -/
def part? (inner : Grammar) : Parser (Option (Attribute ⊕ QualifiedName)) := do
  match ← Parser.after "CONSTRAINT" Parser.part with
  | some name =>
      match ← attribute? inner with
      | some said =>
          let phrase := "CONSTRAINT " ++ name ++ " " ++ said.phrase
          return some (.inl { said with phrase })
      | none => failure
  | none =>
      match ← attribute? inner with
      | some said => return some (.inl said)
      | none => return (← Parser.after "COLLATE" Parser.qualifiedName).map .inr

/-- A column. The last collation is the one that holds. -/
def column (inner : Grammar) : Parser Column := do
  let name ← Parser.namePart
  let type ← TypeName.written
  let first ← Parser.after "COLLATE" Parser.qualifiedName
  let parts ← Parser.items (part? inner)
  return {
    name, type
    collation := (first.toList ++ parts.filterMap Sum.getRight?).getLast?
    attributes := parts.filterMap Sum.getLeft? }

/-- A constraint or a column. -/
def item (inner : Grammar) : Parser (TableConstraint ⊕ Column) := do
  match ← Constraint.read? inner with
  | some constraint => return .inl constraint
  | none =>
      match ← Parser.peek? with
      | some (.word _) | some (.quotedName _) => return .inr (← column inner)
      | _ => failure

/-- The constraints and columns of a table between parentheses, none if there are none. -/
def body (inner : Grammar) : Parser (List (TableConstraint ⊕ Column)) := do
  if ← Parser.isSign "(" then
    Parser.inParentheses (Parser.commaSeparatedBefore ")" (item inner))
  else return []

end DumpTransfer.Sql.Grammar.Definition
