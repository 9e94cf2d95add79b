import DumpTransfer.Sql.Grammar.Builtin

/-! Operands: values, columns, calls, and expressions or queries between parentheses. -/

namespace DumpTransfer.Sql.Grammar

/-- An operand in canonical form. -/
structure Operand where
  phrase : Phrase
  /-- Whether it is a query between parentheses and nothing else. -/
  isQuery : Bool
  deriving DecidableEq, Repr

namespace Operand

/-- A further part of the name of a column or a function. -/
def furtherPart : Parser Phrase := do
  match ← Parser.next with
  | .word spelling => return .plain spelling
  | .quotedName name => return .quoted '`' name
  | .string value => return .quoted '\'' value
  | _ => failure

/-- A column or a call, after the first part of its name. -/
def named (inner : Grammar) (first : Phrase) : Parser Phrase := do
  let more ← Parser.items do
    if ← Parser.sign "." then return some (← furtherPart) else return none
  let name := Phrase.joinWith "." (first :: more)
  if ← Parser.isSign "(" then Call.read inner name else return name

/-- A string or bytes, which may follow the name of their character set. -/
def introduced? : Parser (Option Phrase) := do
  match ← Parser.peek? with
  | some (.string _) | some (.doubleQuoted _) | some (.bytes _) => return some (← Value.any)
  | _ => return none

/-- A column, a call, or a string after the name of its character set. -/
def ofName (inner : Grammar) (name : Text) (written : Phrase) : Parser Phrase := do
  let literal ← if name.head? = some '_' then introduced? else pure none
  match literal with
  | some literal => return .plain name ++ " " ++ literal
  | none => named inner written

/-- The place of a part in a text, or a call of a function of the same name. -/
def positionOrCall (inner : Grammar) (spelling : Text) : Parser Phrase := do
  match ← Parser.attempt (Builtin.position inner) with
  | some phrase => return phrase
  | none => Call.read inner (.plain spelling)

/-- A list, after the word that begins it, or what else the word is the name of. -/
def listOrName (inner : Grammar) (spelling : Text) : Parser Phrase := do
  if ← Parser.sign "[" then return "ARRAY" ++ (← Builtin.members inner)
  else if ← Parser.isSign "(" then
    return .plain spelling ++ (← Parser.parenthesized inner.query)
  else ofName inner spelling (.plain spelling)

/-- An operand that begins with a bare word. -/
def ofWord (inner : Grammar) (spelling : Text) : Parser Phrase := do
  let isCall ← Parser.isSign "("
  match Token.keyword (.word spelling), isCall with
  | "TRUE", _ => return "true"
  | "FALSE", _ => return "false"
  | "NULL", _ => return "NULL"
  | "POSITION", true => positionOrCall inner spelling
  | "ARRAY", _ => listOrName inner spelling
  | _, _ => (Builtin.afterKeyword? inner spelling).getD (ofName inner spelling (.plain spelling))

/-- A value after the name of its type. -/
def typed (inner : Grammar) : Parser Phrase := do
  let type ← TypeName.read
  match type.kind with
  | .interval => TimeUnit.interval inner
  | .known => return type.phrase ++ " " ++ .quoted '\'' (← Parser.stringValue)
  | .custom => failure

/-- Expressions or a query between parentheses, or a part of what they yield. -/
def parenthesized (inner : Grammar) : Parser Operand := do
  let isQuery ← Grammar.isQuery
  let content ← if isQuery then inner.query else inner.expressions
  Parser.expectSign ")"
  if ← Parser.sign "." then
    match ← Parser.next with
    | .word spelling => return ⟨.parenthesized content ++ "." ++ .plain spelling, false⟩
    | .quotedName name => return ⟨.parenthesized content ++ "." ++ .quoted '`' name, false⟩
    | _ => failure
  else return ⟨.parenthesized content, isQuery⟩

/-- An operand that begins with neither a word nor a parenthesis. -/
def ofOther (inner : Grammar) : Parser Phrase := do
  match ← Parser.peek? with
  | some (.escaped _) => failure
  | _ =>
      if ← Parser.sign "-" then return "-" ++ (← inner.expression 40)
      else if ← Parser.sign "+" then return "+" ++ (← inner.expression 40)
      else if ← Parser.sign "[" then Builtin.members inner
      else Value.any

/-- An operand without a collation, other than a value after the name of its type. -/
def plain (inner : Grammar) : Parser Operand := do
  match ← Parser.peek? with
  | some (.word spelling) =>
      Parser.skip
      return ⟨← ofWord inner spelling, false⟩
  | some (.quotedName name) =>
      Parser.skip
      return ⟨← ofName inner name (.quoted '`' name), false⟩
  | _ =>
      if ← Parser.sign "(" then parenthesized inner else return ⟨← ofOther inner, false⟩

/-- An operand, with its collation. -/
def read (inner : Grammar) : Parser Operand := do
  match ← Parser.attempt (typed inner) with
  | some phrase => return ⟨phrase, false⟩
  | none =>
      let operand ← plain inner
      if ← Parser.keyword "COLLATE" then
        return ⟨operand.phrase ++ " COLLATE " ++ (← Parser.name), false⟩
      else return operand

end Operand

end DumpTransfer.Sql.Grammar
