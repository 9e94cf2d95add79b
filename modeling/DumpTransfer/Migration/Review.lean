import DumpTransfer.Conversion.Converter
import DumpTransfer.Dump.Content
import DumpTransfer.Instant

/-! Files in which people review the converted statements of a database before or after a run:
every table's definition with the first of its data statements.
-/

namespace DumpTransfer.Migration.Review

/-- Characters of a database name that may stand in the name of a file. -/
def isFilePart (char : Char) : Bool :=
  Alphabet.isAlphanumeric char || char = '_' || char = '-' || char = '$'

/-- The name of the file for a database. It names no other directory whatever the database is
called.
-/
def fileName (database : Text) : Text :=
  database.map (fun char => if isFilePart char then char else '_') ++ "_converted.sql"

/-- The path of the file for a database, directly inside a directory. -/
def path (directory database : Text) : Text :=
  if directory.isEmpty || Text.endsWith directory "/" then directory ++ fileName database
  else directory ++ "/" ++ fileName database

/-- A converted statement, or why there is none. -/
def statement (conversion : Conversion.Converted) : Text :=
  if !conversion.success then
    "-- conversion failed: " ++ Text.joinWith "; " conversion.errors ++ "\n"
  else if conversion.isEmpty then []
  else conversion.sql ++ ";\n"

/-- The part of the file on one table. -/
def table (convert : Text → Conversion.Converted) (sample : Nat) (content : Dump.Table)
    : Text :=
  let definition : Text :=
    match content.definition with
    | some definition => statement (convert definition)
    | none => "-- no CREATE TABLE statement found in dump\n"
  let data : Text := (content.insertions.take sample).flatMap (statement ∘ convert)
  let omitted := content.insertions.length - sample
  let remark : Text :=
    if omitted = 0 then []
    else "-- ... " ++ Text.ofNat omitted ++ " more data statement(s) omitted\n"
  "\n-- Table: " ++ content.name ++ "\n" ++ definition ++ data ++ remark

/-- The text of the file for a database. -/
def text (converter : Conversion.Converter) (target : Destination)
    (content : Dump.Database) (sample : Nat) (writtenAt : Instant)
    : Text :=
  let tables : Text := content.tables.flatMap (table (converter.convert target) sample)
  "-- Converted SQL for MySQL database `" ++ content.name ++ "`\n"
    ++ "-- Target schema: " ++ target.display ++ "\n"
    ++ "-- Generated: " ++ writtenAt.render "+00:00" ++ "\n"
    ++ "-- Tables: " ++ Text.ofNat content.tables.length ++ "\n\n"
    ++ target.creationStatement ++ ";\n"
    ++ tables

end DumpTransfer.Migration.Review
