import DumpTransfer.Text.Basic

/-! The causes for which a whole run is given up, and their wording. Failures of single tables
and constraints are part of the reports instead.
-/

namespace DumpTransfer

/-- Why an operation was given up. -/
inductive Failure where
  /-- A setting, a name or a statement cannot be used. -/
  | configuration (message : Text)
  /-- There is no dump file at the path. -/
  | noDump (path : Text)
  /-- No connection to the warehouse could be had. -/
  | connection (message context : Text)
  /-- The dump could not be read to its end. -/
  | extraction (message : Text)
  /-- A file operation was refused by the system. -/
  | file (message : Text)
  /-- A settings document is not well formed or does not fit the settings. -/
  | settings
  /-- The run was cancelled. -/
  | cancelled
  deriving DecidableEq, Repr

namespace Failure

/-- The wording of a failure. -/
def message : Failure → Text
  | configuration text => "Configuration error: " ++ text
  | noDump path => "Dump file not found: " ++ path
  | connection text context => "Pool error: " ++ text ++ "\n  Context: " ++ context
  | extraction text => "Extraction failed: " ++ text
  | file text => "IO error: " ++ text
  | settings => "YAML error"
  | cancelled => "Migration cancelled"

/-- The failure below a failure, if it wraps one. -/
def cause : Failure → Option Text
  | file text => some text
  | _ => none

/-- The wording of a failure followed by what caused it. -/
def detailed (failure : Failure) : Text :=
  "Error: " ++ failure.message ++ "\n" ++
    match failure.cause with
    | some text => "\nCaused by:\n  1: " ++ text
    | none => []

end Failure

end DumpTransfer
