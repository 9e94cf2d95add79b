import DumpTransfer.Decimal
import DumpTransfer.Document
import DumpTransfer.Instant

/-! What became of a migration: of the whole run, of each database and of each table, as a document
and as a summary for people.
-/

namespace DumpTransfer.Migration

/-- What became of a table. -/
structure TableResult where
  table : Text
  success : Bool
  /-- The number of rows that the warehouse took. -/
  rows : Nat := 0
  error : Option Text := none
  /-- The time taken, as far as somebody measured it. -/
  seconds : Float := 0.0
  /-- What the conversions warned of, without repetition. -/
  warnings : List Text := []
  deriving Repr

/-- What became of a database. -/
structure DatabaseResult where
  database : Text
  /-- The schema in the warehouse as it is displayed. -/
  schema : Text
  tables : List TableResult := []
  /-- The time taken, as far as somebody measured it. -/
  seconds : Float := 0.0
  /-- Why no table could be loaded, if that is so. -/
  error : Option Text := none
  warnings : List Text := []
  deriving Repr

namespace DatabaseResult

/-- Whether everything went well. -/
def success (result : DatabaseResult) : Bool :=
  result.error.isNone && result.tables.all (·.success)

/-- The number of rows that the warehouse took. -/
def rows (result : DatabaseResult) : Nat :=
  (result.tables.map (·.rows)).foldr (· + ·) 0

/-- The tables that failed. -/
def failures (result : DatabaseResult) : List TableResult :=
  result.tables.filter (! ·.success)

end DatabaseResult

/-- What tells one run from another. -/
structure RunStamp where
  id : Text := []
  beginning : Instant := ⟨0⟩
  deriving DecidableEq, Repr

/-- What became of a run. -/
structure Report where
  stamp : RunStamp := {}
  ending : Instant := ⟨0⟩
  /-- Whether nothing was sent to a warehouse. -/
  isDryRun : Bool
  /-- Whether the run was stopped early. -/
  isCancelled : Bool := false
  databases : List DatabaseResult := []
  /-- Databases that were asked for and are not in the dump. -/
  skipped : List Text := []
  deriving Repr

namespace Report

/-- Whether the run came to its end and everything went well. -/
def success (report : Report) : Bool :=
  !report.isCancelled && report.databases.all (·.success)

/-- The time from beginning to end. -/
def seconds (report : Report) : Float :=
  report.stamp.beginning.secondsUntil report.ending

/-- The number of tables that were attempted. -/
def attemptCount (report : Report) : Nat :=
  (report.databases.map (·.tables.length)).foldr (· + ·) 0

/-- The number of tables that failed. -/
def failureCount (report : Report) : Nat :=
  (report.databases.map (·.failures.length)).foldr (· + ·) 0

/-- The number of rows that the warehouse took. -/
def rows (report : Report) : Nat :=
  (report.databases.map (·.rows)).foldr (· + ·) 0

end Report

/-- A result for a table as part of a document. -/
def TableResult.document (result : TableResult) : Document :=
  .record <|
    Document.field "table" (.text result.table)
    ++ Document.field "success" (.boolean result.success)
    ++ Document.field "rows_migrated" (.number (Text.ofNat result.rows))
    ++ Document.fieldIf "error" (result.error.map .text)
    ++ Document.field "duration_seconds" (.number (Decimal.shortestText result.seconds))
    ++ Document.fieldUnlessEmpty "warnings" (result.warnings.map .text)

/-- A result for a database as part of a document. -/
def DatabaseResult.document (result : DatabaseResult) : Document :=
  .record <|
    Document.field "database" (.text result.database)
    ++ Document.field "schema" (.text result.schema)
    ++ Document.field "tables" (.list (result.tables.map TableResult.document))
    ++ Document.field "duration_seconds" (.number (Decimal.shortestText result.seconds))
    ++ Document.fieldIf "error" (result.error.map .text)
    ++ Document.fieldUnlessEmpty "warnings" (result.warnings.map .text)

/-- A report as a document. -/
def Report.document (report : Report) : Document :=
  .record <|
    Document.field "run_id" (.text report.stamp.id)
    ++ Document.field "started_at" (.text (report.stamp.beginning.render "Z"))
    ++ Document.field "completed_at" (.text (report.ending.render "Z"))
    ++ Document.field "dry_run" (.boolean report.isDryRun)
    ++ Document.field "cancelled" (.boolean report.isCancelled)
    ++ Document.field "databases" (.list (report.databases.map DatabaseResult.document))
    ++ Document.fieldUnlessEmpty "skipped_databases" (report.skipped.map .text)

-----------------------------------------------------------------------------------------
-- Summaries for people: a line for every database and every table
-----------------------------------------------------------------------------------------

/-- The sign for what went well and for what did not. -/
def mark (success : Bool) : Text :=
  if success then "✓" else "✗"

/-- The lines on a table. -/
def TableResult.summary (isVerbose : Bool) (result : TableResult) : List Text :=
  let outcome :=
    match result.error with
    | none => mark true ++ " " ++ result.table ++ ": " ++ Text.ofNat result.rows ++ " rows"
    | some error => mark false ++ " " ++ result.table ++ ": " ++ error
  let warnings := if isVerbose then result.warnings else []
  ("      " ++ outcome) :: warnings.map (Text.prepend "          warning: ")

/-- The lines on a database. -/
def DatabaseResult.summary (isVerbose : Bool) (result : DatabaseResult) : List Text :=
  ("  " ++ mark result.success ++ " " ++ result.database ++ " -> " ++ result.schema ++ " ("
      ++ Text.ofNat result.tables.length ++ " tables, " ++ Text.ofNat result.rows ++ " rows, "
      ++ Decimal.withTwoPlaces result.seconds ++ "s)")
    :: result.error.toList.map (Text.prepend "      error: ")
    ++ result.warnings.map (Text.prepend "      warning: ")
    ++ result.tables.flatMap (TableResult.summary isVerbose)

/-- How a run ended. -/
def Report.title (report : Report) : Text :=
  if report.isCancelled then "Migration cancelled"
  else if report.isDryRun then "Dry run completed"
  else "Migration completed"

/-- The lines on a run. -/
def Report.summaryLines (report : Report) (isVerbose : Bool) : List Text :=
  [[], report.title, "  Run ID: " ++ report.stamp.id,
    "  Duration: " ++ Decimal.withTwoPlaces report.seconds ++ "s"]
  ++ report.databases.flatMap (DatabaseResult.summary isVerbose)
  ++ report.skipped.map (fun (name : Text) => "  - " ++ name ++ ": not found in dump, skipped")
  ++ ["  Tables: " ++ Text.ofNat (report.attemptCount - report.failureCount) ++ "/"
      ++ Text.ofNat report.attemptCount ++ " succeeded",
    "  Rows: " ++ Text.ofNat report.rows]

/-- The summary of a run. -/
def Report.summary (report : Report) (isVerbose : Bool) : Text :=
  (report.summaryLines isVerbose).flatMap (· ++ ['\n'])

end DumpTransfer.Migration
