import DumpTransfer.Sql.Grammar.DerivedTable

/-! What a query takes its rows from: tables, queries in their place, and tables joined with one
another.
-/

namespace DumpTransfer.Sql.Grammar.Source

/-- A table, or what stands for one. -/
structure Factor where
  phrase : Phrase
  /-- Whether it consists of joined tables between parentheses, around which there may be
  further parentheses.
  -/
  isJoin : Bool

/-- Arguments between parentheses, none of them or more. -/
def arguments (inner : Grammar) : Parser Phrase :=
  Parser.parenthesized do
    return .list (← Parser.commaSeparatedBefore ")" (Call.argument inner))

/-- A query between parentheses, with the name that it gets. -/
def subquery (inner : Grammar) : Parser Phrase := do
  return (← Parser.parenthesized inner.query) ++ (← Item.tableName)

/-- What may refer to the tables before it, after its keyword. -/
def lateral (inner : Grammar) : Parser Phrase := do
  if ← Parser.isSign "(" then return "LATERAL " ++ (← subquery inner)
  else
    let name ← Parser.name
    return "LATERAL " ++ name ++ (← arguments inner) ++ (← Item.tableName)

/-- A table that an expression yields, after its keyword. -/
def ofExpression (inner : Grammar) : Parser Phrase := do
  return "TABLE" ++ (← inner.parenthesized) ++ (← Item.tableName)

/-- Hints for the use of a table, if they come next. -/
def hints (inner : Grammar) : Parser Phrase := do
  if (← Parser.isKeyword ["WITH"]) && (← Parser.ahead? 1) = some (.sign "(") then
    Parser.clause ["WITH"] inner.expressionList
  else return []

/-- A table that is named, or a function that yields one. -/
def named (inner : Grammar) : Parser Phrase := do
  let table ← Parser.relation
  let partitions ← Parser.clause? ["PARTITION"] Parser.partList
  let given ← if ← Parser.isSign "(" then arguments inner else pure []
  let numbered ← Parser.spacedKeywords ["WITH", "ORDINALITY"]
  let name ← Item.tableName
  let wishes ← hints inner
  return table ++ partitions.getD [] ++ given ++ numbered ++ name ++ wishes
    ++ (← DerivedTable.rotations inner)

/-- What two tables have to agree on. -/
def condition (inner : Grammar) : Parser Phrase := do
  if ← Parser.keyword "ON" then return " ON " ++ (← inner.expression 0)
  else if ← Parser.keyword "USING" then return " USING" ++ (← Parser.partList)
  else return []

/-- The words of a join with one side whose rows are all kept, or only looked up. -/
def sidedJoin (side : String) : Parser Phrase := do
  match ← Parser.oneOf ["OUTER", "SEMI", "ANTI", "JOIN"] with
  | "JOIN" => return .leadingWord side ++ "JOIN "
  | "OUTER" =>
      Parser.expectKeyword "JOIN"
      return .leadingWord side ++ "JOIN "
  | kind =>
      Parser.expectKeyword "JOIN"
      return .leadingWord side ++ .leadingWord kind ++ "JOIN "

/-- The words of a join that has a condition, if there is one. -/
def joinWords? : Parser (Option Phrase) := do
  match ← Parser.anyKeyword ["INNER", "JOIN", "LEFT", "RIGHT", "FULL"] with
  | none => return none
  | some "JOIN" => return some "JOIN "
  | some "INNER" =>
      Parser.expectKeyword "JOIN"
      return some "JOIN "
  | some "FULL" =>
      let _ ← Parser.keyword "OUTER"
      Parser.expectKeyword "JOIN"
      return some "FULL JOIN "
  | some side => return some (← sidedJoin side)

/-- A join on a condition, or on all columns of the same name, if there is one. -/
def conditionalJoin? (inner : Grammar) (factor : Parser Factor) : Parser (Option Phrase) := do
  let natural ← Parser.leadingKeyword "NATURAL"
  match ← joinWords? with
  | none => if natural.isEmpty then return none else failure
  | some words =>
      let table ← factor
      let matching ← if natural.isEmpty then condition inner else pure []
      return some (natural ++ words ++ table.phrase ++ matching)

/-- A join without a condition of its own, after its first word. -/
def specialJoin (inner : Grammar) (factor : Parser Factor) (word : String) : Parser Phrase := do
  match word, ← Parser.oneOf ["JOIN", "APPLY"] with
  | "ASOF", "JOIN" =>
      let table ← factor
      let nearest ← Parser.clause? ["MATCH_CONDITION"] inner.parenthesized
      match nearest with
      | some nearest =>
          return "ASOF JOIN " ++ table.phrase ++ " " ++ nearest ++ (← condition inner)
      | none => failure
  | "CROSS", kind => return "CROSS " ++ .leadingWord kind ++ (← factor).phrase
  | "OUTER", "APPLY" => return "OUTER APPLY " ++ (← factor).phrase
  | _, _ => failure

/-- A table joined to those before it, if one is. -/
def join? (inner : Grammar) (factor : Parser Factor) : Parser (Option Phrase) := do
  let everywhere ← Parser.spacedKeyword "GLOBAL"
  let join ←
    match ← Parser.anyKeyword ["CROSS", "OUTER", "ASOF"] with
    | some word => some <$> specialJoin inner factor word
    | none => conditionalJoin? inner factor
  return join.map fun join => everywhere ++ " " ++ join

/-- Tables joined with one another, and whether there are no parentheses to put around them. -/
def joinedWith (inner : Grammar) (factor : Parser Factor) : Parser Factor := do
  let first ← factor
  let joins ← Parser.items (join? inner factor)
  return ⟨first.phrase ++ joins.flatten, first.isJoin || !joins.isEmpty⟩

/-- A table, or what stands for one, with fewer parentheses around it than a list has members. -/
def factorWithin (inner : Grammar) : List Token → Parser Factor
  | [] => failure
  | _ :: bound => do
      if ← Parser.keyword "LATERAL" then return ⟨← lateral inner, false⟩
      else if ← Parser.keyword "TABLE" then return ⟨← ofExpression inner, false⟩
      else if ← Parser.isSign "(" then
        match ← Parser.attempt (subquery inner) with
        | some query => return ⟨query ++ (← DerivedTable.rotations inner), false⟩
        | none =>
            let joined ← Parser.inParentheses (joinedWith inner (factorWithin inner bound))
            if joined.isJoin then
              return ⟨.parenthesized joined.phrase ++ (← Item.tableName), true⟩
            else failure
      else if (← Parser.isKeyword ["JSON_TABLE"]) && (← Parser.ahead? 1) = some (.sign "(") then
        Parser.skip
        return ⟨← DerivedTable.document inner, false⟩
      else return ⟨← named inner, false⟩

/-- A table, or what stands for one. Every parenthesis around it takes a token. -/
def factor (inner : Grammar) : Parser Phrase := do
  return (← factorWithin inner (← get)).phrase

/-- Tables joined with one another. -/
def joined (inner : Grammar) : Parser Phrase := do
  return (← joinedWith inner (factorWithin inner (← get))).phrase

/-- Joined tables with commas between them. -/
def tables (inner : Grammar) : Parser Phrase :=
  Parser.list (joined inner)

end DumpTransfer.Sql.Grammar.Source
