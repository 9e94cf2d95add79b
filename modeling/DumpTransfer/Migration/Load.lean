import DumpTransfer.Conversion.Converter
import DumpTransfer.Dump.Content
import DumpTransfer.Migration.Report
import DumpTransfer.Warehouse.Script

/-! Loading one table: its definition and its rows are converted and executed in one
transaction. A rehearsal makes the same conversions and executes nothing.
-/

namespace DumpTransfer.Migration

/-- What the tables of a database have in common when they are loaded. -/
structure Job where
  converter : Conversion.Converter
  target : Destination
  /-- Whether nothing is sent to a warehouse. -/
  isDryRun : Bool

/-- The number of rows loaded or why the table failed, and what was warned of. -/
structure Loaded where
  result : Except Text Nat
  warnings : List Text

namespace Job

/-- A statement for the warehouse. -/
def convert (job : Job) (statement : Text) : Conversion.Converted :=
  job.converter.convert job.target statement

/-- Executes a statement for the table. -/
def execute (job : Job) (statement : Text) : Script (Except Failure Nat) :=
  .execute job.target statement

/-- Why a table failed whose data statement of a given number could not be converted. -/
def unconverted (number : Nat) (conversion : Conversion.Converted) : Text :=
  "data statement " ++ Text.ofNat number ++ " could not be converted: "
    ++ Text.joinWith "; " conversion.errors

/-- Converts data statements, the first of which has the given number, without executing them. -/
def rehearseData (job : Job) (number : Nat) (warnings : List Text) : List Text → Loaded
  | [] => ⟨.ok 0, warnings⟩
  | statement :: rest =>
      let conversion := job.convert statement
      let warnings := warnings ++ conversion.warnings
      if conversion.success then job.rehearseData (number + 1) warnings rest
      else ⟨.error (unconverted number conversion), warnings⟩

/-- Converts and executes data statements, the first of which has the given number, after some
rows have been loaded.
-/
def loadData (job : Job) (number rows : Nat) (warnings : List Text)
    : List Text → Script Loaded
  | [] => return ⟨.ok rows, warnings⟩
  | statement :: rest => do
      let conversion := job.convert statement
      let warnings := warnings ++ conversion.warnings
      if !conversion.success then return ⟨.error (unconverted number conversion), warnings⟩
      else if conversion.isEmpty then job.loadData (number + 1) rows warnings rest
      else
        match ← job.execute conversion.sql with
        | .ok count => job.loadData (number + 1) (rows + count) warnings rest
        | .error failure =>
            return ⟨.error ("data statement " ++ Text.ofNat number ++ " failed: "
              ++ failure.message), warnings⟩

/-- Makes the table anew and loads its rows, in a transaction that is open. -/
def loadContent (job : Job) (table : Dump.Table) (definition : Text)
    (warnings : List Text)
    : Script Loaded := do
  let drop := "DROP TABLE IF EXISTS " ++ job.target.qualify table.name ++ " CASCADE"
  match ← job.execute drop with
  | .error failure => return ⟨.error ("drop failed: " ++ failure.message), warnings⟩
  | .ok _ =>
      match ← job.execute definition with
      | .error failure => return ⟨.error ("create failed: " ++ failure.message), warnings⟩
      | .ok _ => job.loadData 1 0 warnings table.insertions

/-- Makes the table anew and loads its rows, in a transaction of its own. -/
def transact (job : Job) (table : Dump.Table) (definition : Text)
    (warnings : List Text)
    : Script Loaded := do
  match ← job.execute "BEGIN" with
  | .error failure => return ⟨.error failure.message, warnings⟩
  | .ok _ =>
      let loaded ← job.loadContent table definition warnings
      match loaded.result with
      | .error _ =>
          let _ ← job.execute "ROLLBACK"
          return loaded
      | .ok _ =>
          match ← job.execute "COMMIT" with
          | .ok _ => return loaded
          | .error failure =>
              return { loaded with result := .error ("commit failed: " ++ failure.message) }

/-- Loads a table in a session of its own. -/
def loadInSession (job : Job) (table : Dump.Table) (definition : Text)
    (warnings : List Text)
    : Script Loaded := do
  match ← Script.ask (.openSession job.target) with
  | .error failure =>
      return ⟨.error ("could not open warehouse session: " ++ failure.message), warnings⟩
  | .ok () => job.transact table definition warnings

/-- Loads a table whose definition has been found. -/
def loadDefined (job : Job) (table : Dump.Table) (definition : Text) : Script Loaded :=
  let conversion := job.convert definition
  if !conversion.success then
    return ⟨.error ("table definition conversion failed: "
      ++ Text.joinWith "; " conversion.errors), conversion.warnings⟩
  else if job.isDryRun then return job.rehearseData 1 conversion.warnings table.insertions
  else job.loadInSession table conversion.sql conversion.warnings

/-- Loads a table. -/
def load (job : Job) (table : Dump.Table) : Script Loaded :=
  match table.definition with
  | none => return ⟨.error "no CREATE TABLE statement found in dump", []⟩
  | some definition => job.loadDefined table definition

end Job

/-- The result for a table, with every warning once. -/
def Loaded.tableResult (loaded : Loaded) (table : Text) : TableResult :=
  let warnings := loaded.warnings.eraseDups
  match loaded.result with
  | .ok rows => { table, success := true, rows, warnings }
  | .error error => { table, success := false, error := some error, warnings }

/-- Loads a table and comes to its result. -/
def Job.perform (job : Job) (table : Dump.Table) : Script TableResult := do
  return (← job.load table).tableResult table.name

end DumpTransfer.Migration
