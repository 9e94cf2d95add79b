import DumpTransfer.Sql.Grammar.Basic

/-! Rows that are copied between tables and files. -/

namespace DumpTransfer.Sql.Grammar.Copying

/-- A string of one character. -/
def character : Parser Phrase := do
  let value ← Parser.stringValue
  if (Text.toString value).utf8ByteSize = 1 then return "'" ++ .plain value ++ "'" else failure

/-- A string in canonical form. -/
def quotedString : Parser Phrase := do
  return .quoted '\'' (← Parser.stringValue)

/-- What is switched on by a keyword, unless it is said to be off. -/
def switch : Parser Phrase := do
  match ← Parser.anyKeyword ["TRUE", "FALSE"] with
  | some "FALSE" => return " FALSE"
  | _ => return []

/-- What follows the name of an option. -/
def optionValue : String → Parser Phrase
  | "FORMAT" => return " " ++ (← Parser.part)
  | "FREEZE" | "HEADER" => switch
  | "DELIMITER" | "QUOTE" | "ESCAPE" => return " " ++ (← character)
  | "NULL" | "ENCODING" => return " " ++ (← quotedString)
  | _ => return " " ++ (← Parser.partList)

/-- Names of options. -/
def optionNames : List String := [
  "DELIMITER", "ENCODING", "ESCAPE", "FORCE_NOT_NULL", "FORCE_NULL", "FORCE_QUOTE", "FORMAT",
  "FREEZE", "HEADER", "NULL", "QUOTE"]

/-- An option. -/
def option : Parser Phrase := do
  let name ← Parser.oneOf optionNames
  return .ofWord name ++ (← optionValue name)

/-- Options between parentheses after a space, or nothing. -/
def options : Parser Phrase := do
  if ← Parser.isSign "(" then return " " ++ (← Parser.parenthesized (Parser.list option))
  else return []

/-- An older option for values with commas between them. -/
def olderValueOption : Parser Phrase := do
  match ← Parser.oneOf ["HEADER", "QUOTE", "ESCAPE", "FORCE"] with
  | "HEADER" => return "HEADER"
  | "FORCE" =>
      if ← Parser.keywords ["NOT", "NULL"] then
        return "FORCE NOT NULL " ++ (← Parser.list Parser.part)
      else
        Parser.expectKeyword "QUOTE"
        return "FORCE QUOTE " ++ (← Parser.list Parser.part)
  | word =>
      let _ ← Parser.keyword "AS"
      return .leadingWord word ++ (← character)

/-- An option in its older form. -/
def olderOption : Parser Phrase := do
  match ← Parser.oneOf ["BINARY", "DELIMITER", "NULL", "CSV"] with
  | "BINARY" => return "BINARY"
  | "CSV" =>
      let given ← Parser.items (Parser.attempt olderValueOption)
      return .joinWith " " ("CSV" :: given)
  | "DELIMITER" =>
      let _ ← Parser.keyword "AS"
      return "DELIMITER " ++ (← character)
  | _ =>
      let _ ← Parser.keyword "AS"
      return "NULL " ++ (← quotedString)

/-- The table or the query that rows are copied between, and whether it is a query. -/
def source (inner : Grammar) : Parser (Phrase × Bool) := do
  if ← Parser.isSign "(" then return (← Parser.parenthesized inner.query, true)
  else
    let name ← Parser.name
    return (name ++ (← Parser.optionalPartList), false)

/-- The file, or what stands for one. -/
def file : Parser Phrase := do
  match ← Parser.anyKeyword ["STDIN", "STDOUT", "PROGRAM"] with
  | some "PROGRAM" => return "PROGRAM " ++ (← quotedString)
  | some word => return .ofWord word
  | none => quotedString

/-- Passes over the rows that come after a statement where they take the place of a file. -/
def inlineRows : Parser Unit := do
  Parser.expectSign ";"
  set ([] : List Token)

/-- Rows that are copied, after the keyword. -/
def read (inner : Grammar) : Parser Phrase := do
  let (rows, isQuery) ← source inner
  let way ← Parser.oneOf ["FROM", "TO"]
  if isQuery && way = "FROM" then failure
  let isInline ← Parser.isKeyword ["STDIN"]
  let place ← file
  let _ ← Parser.keyword "WITH"
  let given ← options
  let older ← Parser.items (Parser.attempt olderOption)
  if isInline then inlineRows
  return "COPY " ++ rows ++ .spacedWord way ++ " " ++ place ++ given
    ++ (older.flatMap fun one => Phrase.plain " " ++ one)

end DumpTransfer.Sql.Grammar.Copying
