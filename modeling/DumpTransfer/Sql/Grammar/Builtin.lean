import DumpTransfer.Sql.Grammar.Call
import DumpTransfer.Sql.Grammar.TypeName

/-! Operands that begin with a word of their own and whose parts stand between words: distinctions
of cases, casts, and functions with names for their arguments.
-/

namespace DumpTransfer.Sql.Grammar.Builtin

/-- A distinction of cases. -/
def caseOf (inner : Grammar) : Parser Phrase := do
  let subject : Phrase ←
    if ← Parser.isKeyword ["WHEN"] then pure [] else pure (" " ++ (← inner.expression 0))
  let branch : Parser Phrase := do
    let condition ← inner.expression 0
    Parser.expectKeyword "THEN"
    return " WHEN " ++ condition ++ " THEN " ++ (← inner.expression 0)
  Parser.expectKeyword "WHEN"
  let first ← branch
  let more ← Parser.items (Parser.after "WHEN" branch)
  let otherwise ← Parser.clause ["ELSE"] (inner.expression 0)
  Parser.expectKeyword "END"
  return "CASE" ++ subject ++ first ++ more.flatten ++ otherwise ++ " END"

/-- A function of time, whose arguments may be left out. -/
def time (inner : Grammar) (name : Phrase) : Parser Phrase := do
  if ← Parser.sign "(" then return name ++ (← Call.arguments inner) else return name

/-- How a text is read when it is cast. -/
def castFormat : Parser Phrase :=
  Parser.clause ["FORMAT"] do
    return (← Value.any) ++ (← Parser.clause ["AT", "TIME", "ZONE"] Value.any)

/-- A cast, after the given keyword. -/
def cast (inner : Grammar) (keyword : String) : Parser Phrase := do
  let written ← Parser.parenthesized do
    let value ← inner.expression 0
    Parser.expectKeyword "AS"
    let type ← TypeName.written
    return value ++ " AS " ++ type ++ (← castFormat)
  return keyword ++ written

/-- A conversion to a type or to a character set, after its keyword. -/
def conversion (inner : Grammar) : Parser Phrase := do
  let written ← Parser.parenthesized do
    let value ← inner.expression 0
    if ← Parser.keyword "USING" then return value ++ " USING " ++ (← Parser.name)
    else
      Parser.expectSign ","
      let type ← TypeName.written
      return value ++ ", " ++ type ++ (← Parser.clause ["CHARACTER", "SET"] Parser.name)
  return "CONVERT" ++ written

/-- A part of a point in time, after its keyword. -/
def extraction (inner : Grammar) : Parser Phrase := do
  let written ← Parser.parenthesized do
    let unit ← TimeUnit.read
    Parser.expectKeyword "FROM"
    return .leadingWord unit ++ "FROM " ++ (← inner.expression 0)
  return "EXTRACT" ++ written

/-- What a number is rounded to: a unit of time, so many places, or nothing that is named. -/
def scale : Parser Phrase := do
  if ← Parser.keyword "TO" then return " TO " ++ ((← TimeUnit.read) : Phrase)
  else if ← Parser.sign "," then return ", " ++ (← Value.ofKinds [.number])
  else return []

/-- A rounded number, after the given keyword. -/
def rounding (inner : Grammar) (keyword : String) : Parser Phrase := do
  return keyword ++ (← Parser.parenthesized do return (← inner.expression 0) ++ (← scale))

/-- The place of a part in a text, after its keyword. Its operands are those of a comparison. -/
def position (inner : Grammar) : Parser Phrase := do
  let written ← Parser.parenthesized do
    let part ← inner.expression 20
    Parser.expectKeyword "IN"
    return part ++ " IN " ++ (← inner.expression 0)
  return "POSITION" ++ written

/-- A part of a text, after its keyword. Where the start follows a comma, the length is written
after one as well.
-/
def substring (inner : Grammar) : Parser Phrase := do
  let written ← Parser.parenthesized do
    let text ← inner.expression 0
    let isList ← Parser.sign ","
    let start ←
      if isList then pure (", " ++ (← inner.expression 0))
      else Parser.clause ["FROM"] (inner.expression 0)
    let hasLength ← if ← Parser.keyword "FOR" then pure true else Parser.sign ","
    if hasLength then
      let length ← inner.expression 0
      return text ++ start ++ (if isList then ", " else " FOR " : Phrase) ++ length
    else return text ++ start
  return "SUBSTRING" ++ written

/-- A text with a part replaced, after its keyword. -/
def overlay (inner : Grammar) : Parser Phrase := do
  let written ← Parser.parenthesized do
    let text ← inner.expression 0
    Parser.expectKeyword "PLACING"
    let part ← inner.expression 0
    Parser.expectKeyword "FROM"
    let start ← inner.expression 0
    let length ← Parser.clause ["FOR"] (inner.expression 0)
    return text ++ " PLACING " ++ part ++ " FROM " ++ start ++ length
  return "OVERLAY" ++ written

/-- A text without given characters at its ends, after its keyword. A comma at the end has no
meaning.
-/
def trimming (inner : Grammar) : Parser Phrase := do
  let written ← Parser.parenthesized do
    let side ← Parser.leadingAny ["BOTH", "LEADING", "TRAILING"]
    let first ← inner.expression 0
    if ← Parser.keyword "FROM" then return side ++ first ++ " FROM " ++ (← inner.expression 0)
    else
      let _ ← Parser.sign ","
      return side ++ first
  return "TRIM" ++ written

/-- A test whether there are rows, after its keyword. -/
def existence (inner : Grammar) : Parser Phrase := do
  return "EXISTS " ++ (← Parser.parenthesized inner.query)

/-- A negation, after its keyword. -/
def negation (inner : Grammar) : Parser Phrase := do
  if ← Parser.keyword "EXISTS" then return "NOT " ++ (← existence inner)
  else return "NOT " ++ (← inner.expression 15)

/-- How texts are searched. -/
def searchMode : Parser Phrase := do
  if ← Parser.keywords ["IN", "NATURAL", "LANGUAGE", "MODE"] then
    return " IN NATURAL LANGUAGE MODE"
      ++ (← Parser.spacedKeywords ["WITH", "QUERY", "EXPANSION"])
  else if ← Parser.keywords ["IN", "BOOLEAN", "MODE"] then return " IN BOOLEAN MODE"
  else Parser.spacedKeywords ["WITH", "QUERY", "EXPANSION"]

/-- A search in indexed texts, after its keyword. -/
def search : Parser Phrase := do
  let columns ← Parser.partList
  Parser.expectKeyword "AGAINST"
  let words ← Parser.parenthesized do return (← Value.any) ++ (← searchMode)
  return "MATCH " ++ columns ++ " AGAINST " ++ words

/-- The members of a list, after the opening bracket. -/
def members (inner : Grammar) : Parser Phrase := do
  let read ← Parser.commaSeparatedBefore "]" (inner.expression 0)
  Parser.expectSign "]"
  return "[" ++ Phrase.list read ++ "]"

/-- What a keyword begins, if it has a meaning of its own before an operand. -/
def afterKeyword? (inner : Grammar) (spelling : Text) : Option (Parser Phrase) :=
  match Token.keyword (.word spelling) with
  | "CURRENT_TIMESTAMP" | "CURRENT_TIME" | "CURRENT_DATE" | "LOCALTIME" | "LOCALTIMESTAMP" =>
      some (time inner (.plain spelling))
  | "CASE" => some (caseOf inner)
  | "CAST" => some (cast inner "CAST")
  | "TRY_CAST" => some (cast inner "TRY_CAST")
  | "SAFE_CAST" => some (cast inner "SAFE_CAST")
  | "CONVERT" => some (conversion inner)
  | "EXISTS" => some (existence inner)
  | "EXTRACT" => some (extraction inner)
  | "CEIL" => some (rounding inner "CEIL")
  | "FLOOR" => some (rounding inner "FLOOR")
  | "SUBSTRING" => some (substring inner)
  | "OVERLAY" => some (overlay inner)
  | "TRIM" => some (trimming inner)
  | "INTERVAL" => some (TimeUnit.interval inner)
  | "NOT" => some (negation inner)
  | "MATCH" => some search
  | _ => none

end DumpTransfer.Sql.Grammar.Builtin
