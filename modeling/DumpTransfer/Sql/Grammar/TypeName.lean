import DumpTransfer.Sql.Parser

/-! Types of columns and of casts. Names of the dialect are put into their own spelling; any other
name is taken for a type of its own and kept as it is.
-/

namespace DumpTransfer.Sql.Grammar

/-- What a type is, where not every one may stand. -/
inductive TypeKind where
  /-- A type of the dialect. -/
  | known
  /-- Spans of time, whose values are written in a way of their own. -/
  | interval
  /-- A name of no meaning in the dialect. -/
  | custom
  deriving DecidableEq, Repr

/-- A type in canonical form. -/
structure TypeName where
  kind : TypeKind
  phrase : Phrase
  deriving DecidableEq, Repr

namespace TypeName

/-- Types without arguments. -/
def bareNames : List String := [
  "BOOL", "BOOLEAN", "BYTEA", "DATE", "FLOAT4", "FLOAT64", "FLOAT8", "INT64", "INTERVAL", "JSON",
  "JSONB", "REAL", "REGCLASS", "TEXT", "TRIGGER", "UUID"]

/-- Types without arguments that are not written in capitals. -/
def mixedNames : List (String × String) := [
  ("DATE32", "Date32"), ("FLOAT32", "Float32"), ("INT16", "Int16"), ("INT32", "Int32"),
  ("INT128", "Int128"), ("INT256", "Int256"), ("UINT8", "UInt8"), ("UINT16", "UInt16"),
  ("UINT32", "UInt32"), ("UINT64", "UInt64"), ("UINT128", "UInt128"), ("UINT256", "UInt256")]

/-- Types that may have a width and may be unsigned. -/
def integerNames : List String := [
  "BIGINT", "INT", "INT2", "INT4", "INT8", "INTEGER", "MEDIUMINT", "SMALLINT", "TINYINT"]

/-- Types that may have a length or a precision. -/
def sizedNames : List String := [
  "BINARY", "BLOB", "BYTES", "CLOB", "DATETIME", "FLOAT", "STRING", "TIMESTAMPTZ", "TIMETZ",
  "VARBINARY"]

/-- Types that may have a precision and a scale. -/
def exactNames : List String := ["BIGDECIMAL", "BIGNUMERIC", "DEC", "DECIMAL", "NUMERIC"]

/-- Types of characters that may be of varying length. -/
def characterNames : List String := ["CHAR", "CHARACTER"]

/-- Types of characters of varying length. -/
def varyingNames : List String := ["NVARCHAR", "VARCHAR"]

/-- Types of points in time that may have a zone. -/
def zonedNames : List String := ["TIME", "TIMESTAMP"]

/-- Types whose values are chosen from a list of strings. -/
def choiceNames : List String := ["ENUM", "SET"]

/-- What is read between parentheses if these come next. -/
def optionally (arguments : Parser Phrase) : Parser Phrase := do
  if ← Parser.isSign "(" then Parser.parenthesized arguments else return []

/-- A precision and, after a comma, a scale. -/
def precisionAndScale : Parser Phrase := do
  let precision ← Parser.digits
  if ← Parser.sign "," then return precision ++ "," ++ (← Parser.digits)
  else return precision

/-- A length in characters, with the unit if it is given. -/
def characterLength : Parser Phrase := do
  if ← Parser.keyword "MAX" then return "MAX"
  else return (← Parser.digits) ++ (← Parser.spacedAny ["CHARACTERS", "OCTETS"])

/-- The zone of a point in time. -/
def zone : Parser Phrase := do
  match ← Parser.anyKeyword ["WITH", "WITHOUT"] with
  | none => return []
  | some word =>
      Parser.expectKeywords ["TIME", "ZONE"]
      return .spacedWord word ++ " TIME ZONE"

/-- A string as it is written. -/
def choice : Parser Phrase := do
  return .quoted '\'' (← Parser.string)

/-- A precision and, after a comma, the name of a zone. -/
def precisionAndZone : Parser Phrase := do
  let precision ← Parser.digits
  if ← Parser.sign "," then return precision ++ ", " ++ (← Parser.rawString)
  else return precision

/-- What follows the name of a type of the dialect. -/
def afterName? (name : String) : Option (Parser Phrase) :=
  if bareNames.contains name then some (return [])
  else if integerNames.contains name then some do
    return (← optionally Parser.digits) ++ (← Parser.spacedKeyword "UNSIGNED")
  else if sizedNames.contains name then some (optionally Parser.digits)
  else if exactNames.contains name then some (optionally precisionAndScale)
  else if varyingNames.contains name then some (optionally characterLength)
  else if characterNames.contains name then some do
    if ← Parser.keyword "VARYING" then return " VARYING" ++ (← optionally characterLength)
    else if ← Parser.keywords ["LARGE", "OBJECT"] then
      return " LARGE OBJECT" ++ (← optionally Parser.digits)
    else optionally characterLength
  else if zonedNames.contains name then some do
    return (← optionally Parser.digits) ++ (← zone)
  else if choiceNames.contains name then some (Parser.parenthesized (Parser.list choice))
  else if name = "DOUBLE" then some (Parser.spacedKeyword "PRECISION")
  else none

/-- A type of the dialect, after its name. -/
def known? (name : String) : Option (Parser Phrase) :=
  match mixedNames.lookup name with
  | some written => some (return written)
  | none =>
      if name = "DATETIME64" then some do
        return "DateTime64" ++ (← Parser.parenthesized precisionAndZone)
      else if name = "FIXEDSTRING" then some do
        return "FixedString" ++ (← Parser.parenthesized Parser.digits)
      else (afterName? name).map fun reading => return (name : Phrase) ++ (← reading)

/-- One modifier of a type with a name of its own, or a comma, which is no modifier. -/
def modifier : Parser (Option (List Phrase)) := do
  match ← Parser.next with
  | .sign ")" => return none
  | .sign "," => return some []
  | .word spelling => return some [.plain spelling]
  | .quotedName name => return some ["`" ++ .plain name ++ "`"]
  | .number digits => return some [.plain (digits.filter (· ≠ 'L'))]
  | .string value => return some [.plain value]
  | _ => failure

/-- The modifiers of a type with a name of its own. -/
def modifiers : Parser Phrase := do
  if ← Parser.sign "(" then
    let read := (← Parser.items modifier).flatten
    return if read.isEmpty then [] else .parenthesized (.list read)
  else return []

/-- A type with a name of its own. -/
def custom : Parser TypeName := do
  return ⟨.custom, (← Parser.name) ++ (← modifiers)⟩

/-- A type other than one of lists. -/
def simple : Parser TypeName := do
  match ← Parser.peek? with
  | some (.word spelling) =>
      let name := Token.keyword (.word spelling)
      match known? name with
      | some reading =>
          Parser.skip
          return ⟨if name = "INTERVAL" then .interval else .known, ← reading⟩
      | none => custom
  | some (.quotedName _) => custom
  | _ => failure

/-- The bracket that closes a type of lists, given whether that has been passed over already.
Tells whether the bracket of another such type has been passed over with it.
-/
def closing (isClosed : Bool) : Parser Bool := do
  if isClosed then return false
  else if ← Parser.sign ">" then return false
  else if ← Parser.sign ">>" then return true
  else failure

/-- Empty brackets, if they come next. -/
def emptyBrackets? : Parser (Option Phrase) := do
  if ← Parser.sign "[" then
    Parser.expectSign "]"
    return some "[]"
  else return none

/-- A type in which others are nested less deeply than a list is long, and whether the bracket has
been passed over that closes a type around it.
-/
def readWithin : List Token → Parser (TypeName × Bool)
  | [] => failure
  | _ :: bound => do
      let (type, isClosed) ←
        if ← Parser.keyword "ARRAY" then
          Parser.expectSign "<"
          let (item, isClosed) ← readWithin bound
          let isClosed ← closing isClosed
          pure (⟨.known, "ARRAY<" ++ item.phrase ++ ">"⟩, isClosed)
        else pure (← simple, false)
      let brackets ← Parser.items emptyBrackets?
      let kind := if brackets.isEmpty then type.kind else .known
      return (⟨kind, type.phrase ++ brackets.flatten⟩, isClosed)

/-- A type, and what kind it is of. Every type takes a token, so that none is nested more deeply
than there are tokens.
-/
def read : Parser TypeName := do
  let (type, isClosed) ← readWithin (← get)
  if isClosed then failure else return type

/-- A type in canonical form. -/
def written : Parser Phrase := do
  return (← read).phrase

end TypeName

end DumpTransfer.Sql.Grammar
