import DumpTransfer.Sql.Parser

/-! Values that are written out: numbers, strings, bytes, truth values, and placeholders for
values that are given later.
-/

namespace DumpTransfer.Sql.Grammar

/-- What kind of value is written, where not every kind may be. -/
inductive ValueKind where
  | number
  | placeholder
  | string
  | other
  deriving DecidableEq, Repr

/-- A value in canonical form. -/
structure Value where
  kind : ValueKind
  phrase : Phrase
  deriving DecidableEq, Repr

namespace Value

/-- The value that a token is by itself. -/
def ofToken? : Token → Option Value
  | .number digits => some ⟨.number, .plain digits⟩
  | .string value => some ⟨.string, .quoted '\'' value⟩
  | .doubleQuoted value => some ⟨.string, .quoted '"' value⟩
  | .national value => some ⟨.other, "N'" ++ .plain value ++ "'"⟩
  | .bytes digits => some ⟨.other, "X'" ++ .plain digits ++ "'"⟩
  | .placeholder digits => some ⟨.placeholder, .plain ('?' :: digits)⟩
  | _ => none

/-- A character of a string with escapes as it is written. -/
def escape : Char → Text
  | '\'' => ['\\', '\'']
  | '\\' => ['\\', '\\']
  | '\n' => ['\\', 'n']
  | '\t' => ['\\', 't']
  | '\r' => ['\\', 'r']
  | char => [char]

/-- The name of a placeholder. -/
def placeholderName : Parser Text := do
  match ← Parser.next with
  | .word spelling => return spelling
  | .quotedName name => return name
  | .number digits => if digits.contains 'L' then failure else return digits
  | _ => failure

/-- A placeholder after its sign. -/
def placeholder (sign : Char) : Parser Value := do
  return ⟨.placeholder, .plain (sign :: (← placeholderName))⟩

/-- A value. -/
def read : Parser Value := do
  let token ← Parser.next
  match ofToken? token, token with
  | some value, _ => return value
  | none, .sign ":" => placeholder ':'
  | none, .sign "@" => placeholder '@'
  | none, .escaped value => return ⟨.other, "E'" ++ .plain (value.flatMap escape) ++ "'"⟩
  | none, _ =>
      match token.keyword with
      | "TRUE" => return ⟨.other, "true"⟩
      | "FALSE" => return ⟨.other, "false"⟩
      | "NULL" => return ⟨.other, "NULL"⟩
      | _ => failure

/-- A value of one of several kinds. -/
def ofKinds (kinds : List ValueKind) : Parser Phrase := do
  let value ← read
  if kinds.contains value.kind then return value.phrase else failure

/-- A value of any kind. -/
def any : Parser Phrase := do
  return (← read).phrase

/-- A number, or a placeholder for one. -/
def number : Parser Phrase :=
  ofKinds [.number, .placeholder]

/-- A number that may have a sign. -/
def signedNumber : Parser Phrase := do
  if ← Parser.sign "+" then return "+" ++ (← number)
  else if ← Parser.sign "-" then return "-" ++ (← number)
  else number

end Value

end DumpTransfer.Sql.Grammar
