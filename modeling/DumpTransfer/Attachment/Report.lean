import DumpTransfer.Decimal
import DumpTransfer.Document
import DumpTransfer.Instant

/-! What became of the foreign keys that were to be attached to loaded tables, as a document and
as a summary for people.
-/

namespace DumpTransfer.Attachment

/-- What became of a foreign key. -/
inductive Status where
  /-- It was attached, and validated if that was wanted. -/
  | added
  /-- It was there already and nothing was done. -/
  | unchanged
  /-- It was there already without validation and was validated. -/
  | validated
  | failed
  deriving DecidableEq, Repr

/-- The word for a status in documents. -/
def Status.word : Status → Text
  | added => "added"
  | unchanged => "already_exists"
  | validated => "validated"
  | failed => "failed"

/-- What became of a foreign key of a table. -/
structure KeyResult where
  database : Text
  table : Text
  key : Text
  status : Status
  /-- Whether its rows were checked now. -/
  isValidated : Bool
  /-- Why it failed. -/
  error : Option Text := none
  deriving DecidableEq, Repr

/-- What became of all of them. -/
structure Report where
  beginning : Instant := ⟨0⟩
  ending : Instant := ⟨0⟩
  /-- The time taken, as far as somebody measured it. -/
  seconds : Float := 0.0
  /-- Whether validation was wanted. -/
  validates : Bool
  /-- Whether the pass was stopped early. -/
  isCancelled : Bool := false
  results : List KeyResult := []
  deriving Repr

namespace Report

/-- The number of foreign keys with a status. -/
def count (report : Report) (status : Status) : Nat :=
  report.results.countP fun result => result.status = status

/-- The number of foreign keys attached. -/
def addedCount (report : Report) : Nat :=
  report.count .added

/-- The number of foreign keys that were there already, whether they were validated now or not. -/
def presentCount (report : Report) : Nat :=
  report.count .unchanged + report.count .validated

/-- The number of foreign keys that could not be attached or validated. -/
def failureCount (report : Report) : Nat :=
  report.count .failed

/-- Whether the pass came to its end without a failure. -/
def success (report : Report) : Bool :=
  report.failureCount = 0 && !report.isCancelled

end Report

/-- A result as part of a document. -/
def KeyResult.document (result : KeyResult) : Document :=
  .record <|
    Document.field "database" (.text result.database)
    ++ Document.field "table" (.text result.table)
    ++ Document.field "constraint" (.text result.key)
    ++ Document.field "status" (.text result.status.word)
    ++ Document.field "validated" (.boolean result.isValidated)
    ++ Document.fieldIf "error" (result.error.map .text)

/-- A report as a document. -/
def Report.document (report : Report) : Document :=
  .record <|
    Document.field "started_at" (.text (report.beginning.render "Z"))
    ++ Document.field "completed_at" (.text (report.ending.render "Z"))
    ++ Document.field "duration_seconds" (.number (Decimal.shortestText report.seconds))
    ++ Document.field "validate" (.boolean report.validates)
    ++ Document.field "cancelled" (.boolean report.isCancelled)
    ++ Document.field "results" (.list (report.results.map KeyResult.document))

-----------------------------------------------------------------------------------------
-- Summaries for people: a line for each foreign key and the totals
-----------------------------------------------------------------------------------------

/-- What is said of a foreign key after its name. -/
def KeyResult.note (result : KeyResult) : Text :=
  match result.status with
  | .added => if result.isValidated then " (added, validated)" else " (added)"
  | .unchanged => " (already exists)"
  | .validated => " (already exists, validated)"
  | .failed => ": " ++ result.error.getD "unknown error"

/-- The line on a foreign key. -/
def KeyResult.summary (result : KeyResult) : Text :=
  "  " ++ (if result.status = .failed then "✗" else "✓" : Text) ++ " " ++ result.database ++ "."
    ++ result.table ++ "." ++ result.key ++ result.note

/-- The line with the totals. -/
def Report.totals (report : Report) : Text :=
  "  Added: " ++ Text.ofNat report.addedCount ++ "  Already present: "
    ++ Text.ofNat report.presentCount ++ "  Failed: " ++ Text.ofNat report.failureCount
    ++ "  (" ++ Decimal.withTwoPlaces report.seconds ++ "s)"

/-- The lines on a pass. -/
def Report.summaryLines (report : Report) : List Text :=
  [[], if report.isCancelled then "Constraint pass cancelled" else "Constraint pass completed"]
  ++ report.results.map KeyResult.summary ++ [report.totals]

/-- The summary of a pass. -/
def Report.summary (report : Report) : Text :=
  report.summaryLines.flatMap (· ++ ['\n'])

end DumpTransfer.Attachment
