import DumpTransfer.Proofs.Conversion.Choices
import DumpTransfer.Proofs.Migration.Transactions

/-! What a table warns of, whatever its statements are converted by and whatever fails. A statement
is attempted when it is converted, and a table warns of all that its attempted statements warn of,
each warning once. So an attempt that fell back on the second choice is always told of.
-/

namespace DumpTransfer.Migration

open Script

-----------------------------------------------------------------------------------------
-- How far a table comes
-----------------------------------------------------------------------------------------

/-- The rows of a table that succeeded, or why it failed. -/
def TableResult.outcome (result : TableResult) : Except Text Nat :=
  match result.error with
  | none => .ok result.rows
  | some error => .error error

namespace Job

variable (job : Job)

/-- The statement that drops a table. -/
def removal (table : Dump.Table) : Text :=
  "DROP TABLE IF EXISTS " ++ job.target.qualify table.name ++ " CASCADE"

/-- Data statements that are converted and carried out, with the calls for them. Nothing is sent of
those that convert to nothing, and nothing at all in a dry run.
-/
inductive CarriesOut : List Text → List Exchange → Prop where
  | nothing : CarriesOut [] []
  | unsent {statement : Text} {rest : List Text} {calls : List Exchange}
      (converted : (job.convert statement).success = true)
      (silent : job.isDryRun = true ∨ (job.convert statement).isEmpty = true)
      (later : CarriesOut rest calls)
      : CarriesOut (statement :: rest) calls
  | sent {statement : Text} {rest : List Text} {calls : List Exchange} (count : Nat)
      (converted : (job.convert statement).success = true)
      (loading : job.isDryRun = false) (held : (job.convert statement).isEmpty = false)
      (later : CarriesOut rest calls)
      : CarriesOut (statement :: rest)
          (job.executed (job.convert statement).sql (.ok count) :: calls)

/-- How far data statements come when the first of them has a given number: those that are
attempted, the calls for them, and the error if one of them fails. The one that fails is the last
that is attempted.
-/
inductive Attempts (number : Nat) : List Text → List Text → List Exchange → Option Text → Prop where
  | all {insertions : List Text} {calls : List Exchange}
      (carried : job.CarriesOut insertions calls)
      : Attempts number insertions insertions calls none
  | unconverted {before : List Text} {calls : List Exchange} (statement : Text)
      (after : List Text) (carried : job.CarriesOut before calls)
      (refused : (job.convert statement).success = false)
      : Attempts number (before ++ statement :: after) (before ++ [statement]) calls
          (some (Job.unconverted (number + before.length) (job.convert statement)))
  | unexecuted {before : List Text} {calls : List Exchange} (statement : Text)
      (after : List Text) (failure : Failure) (carried : job.CarriesOut before calls)
      (converted : (job.convert statement).success = true)
      (loading : job.isDryRun = false) (held : (job.convert statement).isEmpty = false)
      : Attempts number (before ++ statement :: after) (before ++ [statement])
          (calls ++ [job.executed (job.convert statement).sql (.error failure)])
          (some ("data statement " ++ Text.ofNat (number + before.length) ++ " failed: "
            ++ failure.message))

/-- The calls inside the transaction of a table, with the data statements that are attempted and
the error if something fails. None is attempted before the table is there.
-/
inductive Fills (table : Dump.Table) (definition : Text)
    : List Text → List Exchange → Option Text → Prop where
  | undropped (failure : Failure)
      : Fills table definition [] [job.executed (job.removal table) (.error failure)]
          (some ("drop failed: " ++ failure.message))
  | uncreated (dropped : Nat) (failure : Failure)
      : Fills table definition []
          [job.executed (job.removal table) (.ok dropped),
            job.executed (job.convert definition).sql (.error failure)]
          (some ("create failed: " ++ failure.message))
  | created {attempted : List Text} {calls : List Exchange} {error : Option Text}
      (dropped created : Nat) (data : job.Attempts 1 table.insertions attempted calls error)
      : Fills table definition attempted
          (job.executed (job.removal table) (.ok dropped)
            :: job.executed (job.convert definition).sql (.ok created) :: calls)
          error

/-- How a real load ends once the definition of the table is converted. -/
inductive Settles (table : Dump.Table) (definition : Text)
    : List Text → List Exchange → Except Text Nat → Prop where
  | unopened (failure : Failure)
      : Settles table definition [] [job.unopened failure]
          (.error ("could not open warehouse session: " ++ failure.message))
  | unbegun (failure : Failure)
      : Settles table definition [] [job.opened, job.executed "BEGIN" (.error failure)]
          (.error failure.message)
  | rolledBack {attempted : List Text} {calls : List Exchange} {error : Text} (begun : Nat)
      (fills : job.Fills table definition attempted calls (some error))
      (reply : Except Failure Nat)
      : Settles table definition attempted
          (job.opened :: job.executed "BEGIN" (.ok begun) :: calls
            ++ [job.executed "ROLLBACK" reply])
          (.error error)
  | uncommitted {attempted : List Text} {calls : List Exchange} (begun : Nat)
      (fills : job.Fills table definition attempted calls none) (failure : Failure)
      : Settles table definition attempted
          (job.opened :: job.executed "BEGIN" (.ok begun) :: calls
            ++ [job.executed "COMMIT" (.error failure)])
          (.error ("commit failed: " ++ failure.message))
  | committed {attempted : List Text} {calls : List Exchange} (begun count rows : Nat)
      (fills : job.Fills table definition attempted calls none)
      : Settles table definition attempted
          (job.opened :: job.executed "BEGIN" (.ok begun) :: calls
            ++ [job.executed "COMMIT" (.ok count)])
          (.ok rows)

/-- How the load of a table ends: the statements that are attempted, the calls, and the outcome. -/
inductive Ends (table : Dump.Table) : List Text → List Exchange → Except Text Nat → Prop where
  | undefined (missing : table.definition = none)
      : Ends table [] [] (.error "no CREATE TABLE statement found in dump")
  | unconverted {definition : Text} (found : table.definition = some definition)
      (refused : (job.convert definition).success = false)
      : Ends table [definition] []
          (.error ("table definition conversion failed: "
            ++ Text.joinWith "; " (job.convert definition).errors))
  | rehearsed {definition : Text} {attempted : List Text} {error : Option Text}
      (found : table.definition = some definition)
      (converted : (job.convert definition).success = true) (rehearsing : job.isDryRun = true)
      (data : job.Attempts 1 table.insertions attempted [] error)
      : Ends table (definition :: attempted) [] (error.elim (.ok 0) .error)
  | loaded {definition : Text} {attempted : List Text} {calls : List Exchange}
      {outcome : Except Text Nat} (found : table.definition = some definition)
      (converted : (job.convert definition).success = true) (loading : job.isDryRun = false)
      (settles : job.Settles table definition attempted calls outcome)
      : Ends table (definition :: attempted) calls outcome

/-- What all of some statements warn of, in order. -/
def warningsOf (statements : List Text) : List Text :=
  statements.flatMap fun statement => (job.convert statement).warnings

variable {job} {number : Nat} {insertions attempted : List Text} {calls : List Exchange}
  {error : Option Text}

section Loading

variable {σ : Type} (answer : Answer σ)

/-- What a procedure comes to when it attempts some statements after others: it warns of these as
well, and it fails with an error or not at all.
-/
structure ComesTo (job : Job) (loaded : Loaded) (warnings attempted : List Text)
    (error : Option Text)
    : Prop where
  warnings : loaded.warnings = warnings ++ job.warningsOf attempted
  result : ∀ text, loaded.result = .error text ↔ error = some text

theorem ComesTo.after {job : Job} {loaded : Loaded} {warnings attempted : List Text}
    {statement : Text} {error : Option Text}
    (rest : job.ComesTo loaded (warnings ++ (job.convert statement).warnings) attempted error)
    : job.ComesTo loaded warnings (statement :: attempted) error := by
  refine ⟨rest.warnings.trans ?_, rest.result⟩
  rw [warningsOf, warningsOf, List.flatMap_cons, List.append_assoc]

variable (job)

end Loading

end Job

end DumpTransfer.Migration
