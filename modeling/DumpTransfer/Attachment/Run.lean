import DumpTransfer.Attachment.Report
import DumpTransfer.Dump.Scan
import DumpTransfer.ForeignKey
import DumpTransfer.Warehouse.Script

/-! Attaching the foreign keys of a dump once its tables are loaded, since tables are loaded
without regard to their references. A foreign key that fails does not stop the others.
-/

namespace DumpTransfer.Attachment

/-- What a pass is to do. -/
structure Plan where
  /-- The databases whose foreign keys are attached, in this order. -/
  databases : List Text
  /-- The umbrella catalog of the schemas, if there is one. -/
  catalog : Option Text := none
  /-- Whether the rows that are there are checked. -/
  validates : Bool := false
  /-- The number of lines after which progress is noted. -/
  interval : Nat := 100000
  deriving DecidableEq, Repr

/-- Executes a statement in a transaction of its own. -/
def asTransaction (target : Destination) (statement : Text) : Script (Except Failure Nat) := do
  match ← Script.execute target "BEGIN" with
  | .error failure => return .error failure
  | .ok _ =>
      match ← Script.execute target statement with
      | .ok _ => Script.execute target "COMMIT"
      | .error failure =>
          let _ ← Script.execute target "ROLLBACK"
          return .error failure

/-- Validates a foreign key. -/
def validate (target : Destination) (key : ForeignKey) : Script (Except Failure Nat) :=
  asTransaction target (key.checkStatement target)

/-- Attaches a foreign key that is absent, and validates it if that is wanted. -/
def attach (target : Destination) (validates : Bool) (key : ForeignKey)
    : Script (Except Failure Status) := do
  match key.attachStatement target with
  | .error failure => return .error failure
  | .ok statement =>
      match ← asTransaction target statement with
      | .error failure => return .error failure
      | .ok _ =>
          if validates then return (← validate target key).map fun _ => .added
          else return .ok .added

/-- Brings a foreign key into the state that is wanted, from the state that it is in. -/
def settle (target : Destination) (validates : Bool) (key : ForeignKey)
    : Script (Except Failure Status) := do
  match ← Script.ask (.keyPresence target key.table key.name) with
  | .error failure => return .error failure
  | .ok .absent => attach target validates key
  | .ok .validated => return .ok .unchanged
  | .ok .unvalidated =>
      if validates then return (← validate target key).map fun _ => .validated
      else return .ok .unchanged

/-- The result for a foreign key of a database. -/
def resultOf (validates : Bool) (database : Text) (key : ForeignKey)
    (outcome : Except Failure Status)
    : KeyResult :=
  let common : KeyResult :=
    { database, table := key.table, key := key.name, status := .failed, isValidated := false }
  match outcome with
  | .ok status =>
      { common with status, isValidated := validates && (status = .added || status = .validated) }
  | .error failure => { common with error := some failure.message }

/-- Settles foreign keys until the pass is cancelled. -/
def settleKeys (target : Destination) (validates : Bool) (database : Text)
    : List ForeignKey → Script (List KeyResult)
  | [] => return []
  | key :: rest => do
      if ← Script.isCancelled then return []
      else
        let result := resultOf validates database key (← settle target validates key)
        return result :: (← settleKeys target validates database rest)

/-- The foreign keys that the definitions of a database declare, in order. -/
def declaredKeys (content : Dump.Database) : List ForeignKey :=
  content.tables.flatMap fun table =>
    table.definition.toList.flatMap (ForeignKey.ofDefinition · table.name)

/-- Settles the foreign keys of a database. No session is opened if there are none. -/
def settleDatabase (plan : Plan) (content : Dump.Database)
    : Script (Except Failure (List KeyResult)) := do
  match Destination.of? plan.catalog content.name, declaredKeys content with
  | .error failure, _ => return .error failure
  | .ok _, [] => return .ok []
  | .ok target, keys =>
      match ← Script.ask (.openSession target) with
      | .error failure => return .error failure
      | .ok () => return .ok (← settleKeys target plan.validates content.name keys)

/-- Settles the foreign keys of databases, as far as the dump holds them, until the pass is
cancelled, and whether it was.
-/
def settleDatabases (plan : Plan) (lines : List Dump.Line) (available : List Text)
    : List Text → Script (Except Failure (List KeyResult × Bool))
  | [] => return .ok ([], false)
  | name :: rest => do
      if ← Script.isCancelled then return .ok ([], true)
      else if !available.contains name then settleDatabases plan lines available rest
      else
        let content ← Script.readPass (Dump.extractOne plan.interval name lines)
        match ← settleDatabase plan content with
        | .error failure => return .error failure
        | .ok results =>
            return (← settleDatabases plan lines available rest).map fun (others, wasStopped) =>
              (results ++ others, wasStopped)

/-- Attaches the foreign keys of the requested databases of a dump. -/
def run (plan : Plan) (lines : List Dump.Line) : Script (Except Failure Report) := do
  let available ← Script.readPass (Dump.scanNames plan.interval lines)
  match ← settleDatabases plan lines available plan.databases with
  | .error failure => return .error failure
  | .ok (results, wasStopped) =>
      let isCancelled ← Script.isCancelled
      return .ok { validates := plan.validates, isCancelled := wasStopped || isCancelled, results }

end DumpTransfer.Attachment
