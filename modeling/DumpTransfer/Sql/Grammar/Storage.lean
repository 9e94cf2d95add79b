import DumpTransfer.Sql.Grammar.Definition
import DumpTransfer.Sql.Parser

/-! Where and in which form the rows of a table are kept outside the database, with the formats of
the files that hold them.
-/

-----------------------------------------------------------------------------------------
-- Formats
-----------------------------------------------------------------------------------------

namespace DumpTransfer.Sql.Grammar.FileFormat

/-- Names of formats. -/
def names : List String :=
  ["AVRO", "JSONFILE", "ORC", "PARQUET", "RCFILE", "SEQUENCEFILE", "TEXTFILE"]

/-- A format. -/
def read : Parser Phrase := do
  return ((← Parser.oneOf names) : Phrase)

end DumpTransfer.Sql.Grammar.FileFormat

-----------------------------------------------------------------------------------------
-- Storage
-----------------------------------------------------------------------------------------

namespace DumpTransfer.Sql.Grammar

/-- The form of the files of a table. -/
structure StoredForm where
  phrase : Phrase
  /-- Whether it has a name, rather than being given by what reads and writes the files. -/
  isNamed : Bool
  deriving DecidableEq, Repr

/-- How the rows of a table are kept, each part after a space. -/
structure Storage where
  /-- How a row is written. -/
  rows : Phrase
  form : Option StoredForm
  /-- Options of what writes the rows. -/
  properties : Phrase
  /-- Where the files are. -/
  location : Phrase
  deriving DecidableEq, Repr

namespace Storage

/-- Words that introduce what separates or stands for parts of a row, after the first word. -/
def separatorWords : List (String × List String) := [
  ("FIELDS", ["TERMINATED", "BY"]), ("COLLECTION", ["ITEMS", "TERMINATED", "BY"]),
  ("MAP", ["KEYS", "TERMINATED", "BY"]), ("LINES", ["TERMINATED", "BY"]),
  ("NULL", ["DEFINED", "AS"])]

/-- What separates or stands for parts of a row, if it comes next. A first word that does not go
on as expected is passed over.
-/
def separator? : Parser (Option Phrase) := do
  match ← Parser.anyKeyword (separatorWords.map (·.1)) with
  | none => return none
  | some word =>
      let words := (separatorWords.lookup word).getD []
      if ← Parser.keywords words then
        let sign ← Parser.part
        let mark ←
          if word = "FIELDS" then Parser.clause ["ESCAPED", "BY"] Parser.part else pure []
        return some (" " ++ .leadingWord (" ".intercalate (word :: words)) ++ sign ++ mark)
      else return none

/-- How a row is written, after the first word. -/
def rowForm : Parser Phrase := do
  Parser.expectKeyword "FORMAT"
  if ← Parser.keyword "SERDE" then return " ROW FORMAT SERDE " ++ (← Parser.rawString)
  else
    let _ ← Parser.keyword "DELIMITED"
    return " ROW FORMAT DELIMITED" ++ (← Parser.items separator?).flatten

/-- The form of the files, after the first word. -/
def storedForm (inner : Grammar) : Parser StoredForm := do
  Parser.expectKeyword "AS"
  if ← Parser.keyword "INPUTFORMAT" then
    let input ← inner.expression 0
    Parser.expectKeyword "OUTPUTFORMAT"
    let output ← inner.expression 0
    return ⟨" STORED AS INPUTFORMAT " ++ input ++ " OUTPUTFORMAT " ++ output, false⟩
  else return ⟨" STORED AS " ++ (← FileFormat.read), true⟩

/-- The same with one more part, if there is one. -/
def extend? (inner : Grammar) (storage : Storage) : Parser (Option Storage) := do
  if ← Parser.keyword "ROW" then return some { storage with rows := ← rowForm }
  else if ← Parser.keyword "STORED" then
    return some { storage with form := some (← storedForm inner) }
  else if ← Parser.keyword "LOCATION" then
    return some { storage with location := " LOCATION " ++ (← Parser.rawString) }
  else if ← Parser.keywords ["WITH", "SERDEPROPERTIES"] then
    let options ← Parser.parenthesized (Parser.list inner.option)
    return some { storage with properties := " WITH SERDEPROPERTIES " ++ options }
  else return none

/-- The same with as many more parts as there are, at most as many as a list has members. -/
def extendWithin (inner : Grammar) (storage : Storage) : List α → Parser Storage
  | [] => return storage
  | _ :: bound => do
      match ← storage.extend? inner with
      | some more => more.extendWithin inner bound
      | none => return storage

/-- How the rows of a table are kept. The last part of each kind is the one that holds. -/
def read (inner : Grammar) : Parser Storage := do
  let nothing : Storage := { rows := [], form := none, properties := [], location := [] }
  nothing.extendWithin inner (← get)

/-- In canonical form, for a table whose rows the database keeps itself. -/
def phrase (storage : Storage) : Phrase :=
  storage.rows ++ (storage.form.map (·.phrase)).getD [] ++ storage.properties
    ++ storage.location

/-- In canonical form, for a table whose rows are kept elsewhere. A form with a name comes after
the options.
-/
def externalPhrase (storage : Storage) : Phrase :=
  match storage.form with
  | some ⟨form, true⟩ => storage.rows ++ storage.properties ++ form ++ storage.location
  | _ => storage.phrase

/-- The columns by whose values the rows are kept apart. -/
def partition (inner : Grammar) : Parser Phrase :=
  Parser.clause ["PARTITIONED", "BY"] <| Parser.parenthesized <| Parser.list do
    return (← Definition.column inner).phrase

end Storage

end DumpTransfer.Sql.Grammar
