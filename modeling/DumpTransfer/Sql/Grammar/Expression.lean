import DumpTransfer.Sql.Grammar.Operand

/-! Expressions: operands with operators that bind with different strengths. Operators are read
from left to right as long as they bind more tightly than what surrounds them.
-/

namespace DumpTransfer.Sql.Grammar.Expression

/-- Strength of marks after an operand and of casts. -/
def markStrength : Nat :=
  50

/-- Strength of changes of the time zone. -/
def zoneStrength : Nat :=
  41

/-- Strength of products. -/
def productStrength : Nat :=
  40

/-- Strength of ranges and comparisons. -/
def comparisonStrength : Nat :=
  20

/-- Strength of comparisons with a pattern. -/
def patternStrength : Nat :=
  19

/-- Signs between two operands with their strengths, and how they are written. -/
def signs : List (String × Nat × String) := [
  ("=", comparisonStrength, "="), ("==", comparisonStrength, "="),
  ("<>", comparisonStrength, "<>"), ("!=", comparisonStrength, "<>"),
  ("<", comparisonStrength, "<"), ("<=", comparisonStrength, "<="),
  (">", comparisonStrength, ">"), (">=", comparisonStrength, ">="),
  ("<=>", comparisonStrength, "<=>"), ("~", comparisonStrength, "~"),
  ("~*", comparisonStrength, "~*"), ("!~", comparisonStrength, "!~"),
  ("!~*", comparisonStrength, "!~*"), ("~~", comparisonStrength, "~~"),
  ("~~*", comparisonStrength, "~~*"), ("!~~", comparisonStrength, "!~~"),
  ("!~~*", comparisonStrength, "!~~*"), ("|", 21, "|"), ("^", 22, "^"), ("&", 23, "&"),
  ("+", 30, "+"), ("-", 30, "-"), ("*", productStrength, "*"), ("/", productStrength, "/"),
  ("%", productStrength, "%"), ("||", productStrength, "||"), ("->", 16, "->"),
  ("->>", 16, "->>"), ("@>", 16, "@>"), ("<@", 16, "<@"), ("@?", 16, "@?"), ("@@", 16, "@@")]

/-- Words between two operands with their strengths. -/
def words : List (String × Nat) := [("AND", 10), ("OR", 5), ("XOR", 24)]

/-- The strength of an operator between two operands, and how it is written. -/
def operator? : Token → Option (Nat × String)
  | .sign spelling => signs.lookup spelling
  | token => (words.lookup token.keyword).map fun strength => (strength, token.keyword)

/-- Signs that end an expression between operands, with the strength from which on nothing else
ends before them. What follows them cannot be read.
-/
def strangeSigns : List (String × Nat) := [
  ("&&", markStrength), ("^@", markStrength), ("<<", 22), (">>", 22)]

/-- Signs after an operand. -/
def marks : List String := ["::", "!", "["]

/-- The strength of a test that begins with a keyword and may be negated. -/
def testStrength? : String → Option Nat
  | "IN" | "BETWEEN" => some comparisonStrength
  | "LIKE" | "ILIKE" | "RLIKE" | "REGEXP" | "SIMILAR" => some patternStrength
  | _ => none

/-- The strength of a keyword after an operand, given the tokens after it. -/
def keywordStrength (keyword : String) (rest : List Token) : Nat :=
  match keyword with
  | "NOT" => (rest.head?.bind fun following => testStrength? following.keyword).getD 0
  | "AT" => if (rest.take 2).map Token.keyword = ["TIME", "ZONE"] then zoneStrength else 0
  | "IS" => 17
  | "DIV" => productStrength
  | "OPERATOR" => comparisonStrength
  | _ => (testStrength? keyword).getD 0

/-- How tightly what comes next binds to the operand before it, zero if it does not. -/
def strengthOf : List Token → Nat
  | [] => 0
  | token :: rest =>
      match operator? token, token with
      | some (strength, _), _ => strength
      | none, .sign spelling =>
          if marks.contains spelling then markStrength
          else (strangeSigns.lookup spelling).getD 0
      | none, _ => keywordStrength token.keyword rest

/-- Signs that compare with some or all of several values. -/
def comparisons : List String := ["=", "<>", "<", "<=", ">", ">="]

/-- Whether a query follows an opening parenthesis that comes next. -/
def isNestedQuery : Parser Bool := do
  return (← Parser.isSign "(")
    && (← Parser.ahead? 1).any fun token => ["SELECT", "WITH"].contains token.keyword

/-- The values that an operand is compared with, after the word that tells with how many. -/
def comparedValues (inner : Grammar) (strength : Nat) : Parser Phrase := do
  if ← isNestedQuery then inner.enclosed strength
  else
    Parser.expectSign "("
    let values ← inner.enclosed strength
    Parser.expectSign ")"
    return values

/-- The second operand of an operator. -/
def secondOperand (inner : Grammar) (strength : Nat) (written : String) : Parser Phrase := do
  match ← Parser.anyKeyword ["ALL", "ANY", "SOME"] with
  | none => inner.expression strength
  | some quantifier =>
      let values ← comparedValues inner strength
      if comparisons.contains written then return quantifier ++ values else failure

/-- What is asked about an operand, after the keyword that begins the question. -/
def nature (inner : Grammar) : Parser Phrase := do
  let negated ← Parser.leadingKeyword "NOT"
  match ← Parser.anyKeyword ["NULL", "TRUE", "FALSE", "UNKNOWN"] with
  | some word => return "IS " ++ negated ++ (word : Phrase)
  | none =>
      Parser.expectKeywords ["DISTINCT", "FROM"]
      return "IS " ++ negated ++ "DISTINCT FROM " ++ (← inner.expression 0)

/-- The values or the query that an operand is searched in, after the keyword. -/
def membership (inner : Grammar) : Parser Phrase := do
  if ← Parser.keyword "UNNEST" then return "IN UNNEST" ++ (← inner.parenthesized)
  else
    let members ← Parser.parenthesized do
      if ← isQuery then inner.query else inner.expressions
    return "IN " ++ members

/-- The bounds that an operand is compared with, after the keyword. -/
def range (inner : Grammar) : Parser Phrase := do
  let low ← inner.expression comparisonStrength
  Parser.expectKeyword "AND"
  return "BETWEEN " ++ low ++ " AND " ++ (← inner.expression comparisonStrength)

/-- The pattern that an operand is compared with, and what takes the meaning from its signs. -/
def pattern (inner : Grammar) : Parser Phrase := do
  return (← inner.expression patternStrength) ++ (← Parser.clause ["ESCAPE"] Parser.rawString)

/-- The comparison with an expression for texts, whose keyword may be written in two ways. -/
def expressionMatch (inner : Grammar) : Parser Phrase := do
  let regular ← Parser.keyword "REGEXP"
  let _ ← Parser.keyword "RLIKE"
  return (if regular then "REGEXP " else "RLIKE " : Phrase)
    ++ (← inner.expression patternStrength)

/-- A test of an operand, which may be negated. -/
def test (inner : Grammar) : Parser Phrase := do
  let negated ← Parser.leadingKeyword "NOT"
  if ← Parser.isKeyword ["REGEXP", "RLIKE"] then return negated ++ (← expressionMatch inner)
  else
    match ← Parser.anyKeyword ["IN", "BETWEEN", "LIKE", "ILIKE", "SIMILAR"] with
    | some "IN" => return negated ++ (← membership inner)
    | some "BETWEEN" => return negated ++ (← range inner)
    | some "SIMILAR" =>
        Parser.expectKeyword "TO"
        return negated ++ "SIMILAR TO " ++ (← pattern inner)
    | some word =>
        let any ← Parser.leadingKeyword "ANY"
        return negated ++ .leadingWord word ++ any ++ (← pattern inner)
    | none => failure

/-- What follows an operand after a mark. -/
def afterMark (inner : Grammar) : Parser Phrase := do
  if ← Parser.sign "::" then return "::" ++ (← TypeName.written)
  else if ← Parser.sign "!" then return "!"
  else
    Parser.expectSign "["
    let key ← inner.expression 0
    Parser.expectSign "]"
    return "[" ++ key ++ "]"

/-- What follows an operand: a mark, a test, or an operator with its second operand. -/
def continuation (inner : Grammar) : Parser Phrase := do
  match ← Parser.peek? with
  | none => failure
  | some token =>
      if marks.any fun mark => token = .sign mark then afterMark inner
      else if token.keyword = "NOT" || (testStrength? token.keyword).isSome then
        return " " ++ (← test inner)
      else
        Parser.skip
        match operator? token, token.keyword with
        | some (strength, written), _ =>
            return " " ++ (written : Phrase) ++ " " ++ (← secondOperand inner strength written)
        | none, "IS" => return " " ++ (← nature inner)
        | none, "DIV" => return " DIV " ++ (← inner.expression 0)
        | none, "AT" =>
            Parser.expectKeywords ["TIME", "ZONE"]
            return " AT TIME ZONE " ++ (← inner.expression zoneStrength)
        | none, _ => failure

/-- What follows an operand with more than the given strength, if anything does. -/
def continuation? (inner : Grammar) (strength : Nat) : Parser (Option Phrase) := do
  if strengthOf (← get) ≤ strength then return none else return some (← continuation inner)

/-- An expression in which every operator binds more tightly than the given strength. -/
def read (inner : Grammar) (strength : Nat) : Parser Phrase := do
  let first ← Operand.read inner
  return first.phrase ++ (← Parser.items (continuation? inner strength)).flatten

/-- The same, in parentheses of its own or, where it is a query, in those of the query. -/
def enclosed (inner : Grammar) (strength : Nat) : Parser Phrase := do
  let first ← Operand.read inner
  let more ← Parser.items (continuation? inner strength)
  if first.isQuery && more.isEmpty then return first.phrase
  else return .parenthesized (first.phrase ++ more.flatten)

end DumpTransfer.Sql.Grammar.Expression
