import DumpTransfer.Conversion.ByPattern
import DumpTransfer.Conversion.ByTree
import DumpTransfer.Dump.Scan
import DumpTransfer.Migration.Load
import DumpTransfer.Migration.Pool
import DumpTransfer.Migration.Review

/-! A migration: every requested database that the dump holds is extracted, written to a file
for review if that is wanted, and loaded table by table. A table that fails does not stop the
others.
-/

namespace DumpTransfer.Migration

/-- Statements are adapted by structure where that can be done, and by patterns elsewhere. -/
def standardConverter : Conversion.Converter :=
  ⟨Conversion.ByTree.strategy, Conversion.ByPattern.strategy⟩

/-- What a run is to do. -/
structure Plan where
  /-- The databases to migrate, in this order. -/
  databases : List Text
  /-- The umbrella catalog of the schemas, if there is to be one. -/
  catalog : Option Text := none
  isDryRun : Bool := false
  /-- Whether files for review are written. -/
  savesReview : Bool := false
  /-- The directory of the files for review. -/
  reviewDirectory : Text := "converted_sql"
  /-- The number of data statements of a table that are put into a file for review. -/
  sample : Nat := 5
  /-- The number of tables that may be loaded at a time. -/
  workers : Nat := 1
  /-- Whether all databases are extracted in one pass over the dump. -/
  isSinglePass : Bool := false
  /-- The number of lines after which progress is noted. -/
  interval : Nat := 100000
  /-- Whether there is a warehouse. -/
  hasWarehouse : Bool := true
  deriving DecidableEq, Repr

namespace Plan

/-- Whether something is sent to a warehouse. -/
def usesWarehouse (plan : Plan) : Bool :=
  plan.hasWarehouse && !plan.isDryRun

/-- Refuses a plan that cannot be carried out. -/
def check (plan : Plan) : Except Failure Unit :=
  if !plan.isDryRun && !plan.hasWarehouse then
    .error (.configuration
      "a target warehouse connection is required unless --dry-run is set")
  else if plan.workers = 0 then .error (.configuration "workers must be at least 1")
  else .ok ()

/-- The requested databases that the dump holds, each once. -/
def present (plan : Plan) (available : List Text) : List Text :=
  (plan.databases.filter (available.contains ·)).eraseDups

/-- The requested databases that the dump does not hold, as often as they are requested. -/
def missing (plan : Plan) (available : List Text) : List Text :=
  plan.databases.filter (! available.contains ·)

end Plan

/-- What is warned of data that belongs to no table. -/
def orphanWarning (orphan : Text × Nat) : Text :=
  "skipped " ++ Text.ofNat orphan.2 ++ " data statement(s) for table " ++ orphan.1
    ++ " (no table definition seen before them)"

/-- Writes the file for review, and what is warned of if that fails. -/
def writeReview (plan : Plan) (stamp : RunStamp) (target : Destination)
    (content : Dump.Database)
    : Script (List Text) := do
  let text := Review.text standardConverter target content plan.sample stamp.beginning
  match ← Script.ask (.writeReview (Review.path plan.reviewDirectory content.name) text) with
  | .ok () => return []
  | .error failure => return ["review file not written: " ++ failure.message]

/-- Makes sure that there is a schema. -/
def provideSchema (target : Destination) : Script (Except Failure Unit) := do
  match ← Script.ask (.openSession target) with
  | .error failure => return .error failure
  | .ok () =>
      match ← Script.execute target target.creationStatement with
      | .error failure => return .error failure
      | .ok _ => return .ok ()

/-- Loads the tables of a database. -/
def loadTables (plan : Plan) (target : Destination) (content : Dump.Database)
    : Script (List TableResult) :=
  let job : Job := ⟨standardConverter, target, !plan.usesWarehouse⟩
  Pool.run plan.workers (content.tables.map job.perform)

/-- Migrates a database into its schema. -/
def transferInto (plan : Plan) (stamp : RunStamp) (target : Destination)
    (content : Dump.Database)
    : Script DatabaseResult := do
  let orphans := content.orphans.map orphanWarning
  let review ← if plan.savesReview then writeReview plan stamp target content else pure []
  let result : DatabaseResult :=
    { database := content.name, schema := target.display, warnings := orphans ++ review }
  let ensured ← if plan.usesWarehouse then provideSchema target else pure (.ok ())
  match ensured with
  | .error failure =>
      return { result with error := some ("schema creation failed: " ++ failure.message) }
  | .ok () => return { result with tables := ← loadTables plan target content }

/-- Migrates a database. -/
def transferDatabase (plan : Plan) (stamp : RunStamp) (content : Dump.Database)
    : Script DatabaseResult :=
  match Destination.of? plan.catalog content.name with
  | .error failure =>
      return { database := content.name, schema := content.name, error := some failure.message }
  | .ok target => transferInto plan stamp target content

/-- The content of a database: what has been extracted already, or else what a pass over the
dump finds, with what is left of the contents extracted already.
-/
def contentOf (plan : Plan) (lines : List Dump.Line) (name : Text)
    (extracted : List Dump.Database)
    : Script (Dump.Database × List Dump.Database) := do
  match Dump.takeContent name extracted with
  | (some content, rest) => return (content, rest)
  | (none, rest) => return (← Script.readPass (Dump.extractOne plan.interval name lines), rest)

/-- Migrates databases until the run is cancelled, and whether it was. -/
def transferDatabases (plan : Plan) (stamp : RunStamp) (lines : List Dump.Line)
    (extracted : List Dump.Database)
    : List Text → Script (List DatabaseResult × Bool)
  | [] => return ([], false)
  | name :: rest => do
      if ← Script.isCancelled then return ([], true)
      else
        let (content, others) ← contentOf plan lines name extracted
        let result ← transferDatabase plan stamp content
        let (results, isCancelled) ← transferDatabases plan stamp lines others rest
        return (result :: results, isCancelled)

/-- Makes sure that there is the umbrella catalog, if one is configured. -/
def provideCatalog (plan : Plan) : Script (Except Failure Unit) :=
  match plan.usesWarehouse, plan.catalog with
  | true, some catalog => Script.ask (.provideCatalog catalog)
  | _, _ => return .ok ()

/-- Migrates the databases of a dump that has been found. -/
def transferLines (plan : Plan) (stamp : RunStamp) (lines : List Dump.Line)
    : Script (Except Failure Report) := do
  let available ← Script.readPass (Dump.scanNames plan.interval lines)
  let names := plan.present available
  match ← provideCatalog plan with
  | .error failure => return .error failure
  | .ok () =>
      let extracted ←
        if plan.isSinglePass && 1 < names.length then
          Script.readPass (Dump.extractAll plan.interval names lines)
        else pure []
      let (databases, wasStopped) ← transferDatabases plan stamp lines extracted names
      let isCancelled ← Script.isCancelled
      return .ok {
        stamp
        ending := stamp.beginning
        isDryRun := plan.isDryRun
        isCancelled := wasStopped || isCancelled
        databases
        skipped := plan.missing available }

/-- Migrates the databases of a dump. -/
def run (plan : Plan) (stamp : RunStamp) (dump : Except Failure (List Dump.Line))
    : Script (Except Failure Report) :=
  match plan.check, dump with
  | .error failure, _ => return .error failure
  | .ok (), .error failure => return .error failure
  | .ok (), .ok lines => transferLines plan stamp lines

end DumpTransfer.Migration
