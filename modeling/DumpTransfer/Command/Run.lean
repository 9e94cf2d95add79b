import DumpTransfer.Attachment.Run
import DumpTransfer.Command.Invocation
import DumpTransfer.Migration.Run
import DumpTransfer.Settings.Reading

/-! Carrying out what a command line asks for. -/

namespace DumpTransfer.Command

/-- What a command line finds around it. -/
structure Sources where
  /-- The text of the settings file, if one is named. -/
  settings : Option (Except Failure Text)
  dump : Except Failure (List Dump.Line)
  /-- Whether the warehouse of a target can be reached. -/
  connect : Settings.Target → Except Failure Unit
  stamp : Migration.RunStamp := {}

/-- What has been printed, and whether everything went well. -/
structure Outcome where
  printed : Text
  success : Bool
  deriving DecidableEq, Repr

/-- A procedure that may be given up. -/
abbrev Undertaking := ExceptT Failure Script

/-- The settings of a migration under what a command line says of it. -/
def MigrationRequest.settings (request : MigrationRequest) (usual : Settings.Migration)
    : Settings.Migration :=
  { usual with
    catalog := request.catalog <|> usual.catalog
    reviewDirectory := request.reviewDirectory.getD usual.reviewDirectory
    workers := request.workers.getD usual.workers
    savesReview := usual.savesReview || request.savesReview
    isSinglePass := usual.isSinglePass || request.isSinglePass }

/-- What a migration of databases is to do under its settings. -/
def planOf (settings : Settings.Migration) (databases : List Text) (isDryRun : Bool)
    : Migration.Plan :=
  { databases
    catalog := settings.catalog
    isDryRun
    savesReview := settings.savesReview
    reviewDirectory := settings.reviewDirectory
    sample := settings.sample
    workers := settings.workers
    isSinglePass := settings.isSinglePass
    interval := settings.interval
    hasWarehouse := !isDryRun }

/-- A document on lines of its own. -/
def printedDocument (document : Document) : Text :=
  document.render ++ "\n"

/-- Lines of text. -/
def printedLines (lines : List Text) : Text :=
  lines.flatMap (· ++ ['\n'])

/-- Lists the databases of a dump. -/
def listNames (invocation : Invocation) (interval : Nat) (lines : List Dump.Line)
    : Script Text := do
  let names ← Script.readPass (Dump.scanNames interval lines)
  if invocation.printsDocument then return printedDocument (.list (names.map .text))
  else return printedLines names

/-- Lists the databases of a dump with their numbers of tables. -/
def listCounts (invocation : Invocation) (interval : Nat) (lines : List Dump.Line)
    : Script Text := do
  let counts ← Script.readPass (Dump.scanTableCounts interval lines)
  if invocation.printsDocument then
    let fields := counts.map fun (name, count) =>
      (name, Document.record (Document.field "table_count" (.number (Text.ofNat count))))
    return printedDocument (.record fields)
  else
    let title := Text.ofNat counts.length ++ " database(s) in " ++ invocation.dump
    let entries := counts.map fun ((name, count) : Text × Nat) =>
      "  " ++ name ++ ": " ++ Text.ofNat count ++ " table(s)"
    return printedLines (title :: entries)

/-- The lines on the definition of a table, and whether it could be converted. -/
def previewTable (target : Destination) (table : Dump.Table) : List Text × Bool :=
  let title : List Text := [[], "-- Table: " ++ table.name]
  match table.definition with
  | none =>
      let remark : Text := "-- no CREATE TABLE statement found in dump"
      (title ++ [remark], true)
  | some definition =>
      let conversion := Migration.standardConverter.convert target definition
      let line : Text :=
        if conversion.success then conversion.sql ++ ";"
        else "-- conversion failed: " ++ Text.joinWith "; " conversion.errors
      let warnings := conversion.warnings.map (Text.prepend "-- warning: ")
      (title ++ line :: warnings, conversion.success)

/-- Shows converted definitions of a database. -/
def preview (invocation : Invocation) (interval : Nat) (lines : List Dump.Line)
    (target : Destination) (database : Text) (limit : Nat)
    : Undertaking Outcome := do
  let content ← (Script.readPass (Dump.extractOne interval database lines) : Script _)
  if content.isEmpty then
    throw (.configuration ("database " ++ database ++ " not found in " ++ invocation.dump))
  else
    let title := "-- " ++ database ++ " -> " ++ target.display ++ " ("
      ++ Text.ofNat content.tables.length ++ " table(s), showing up to " ++ Text.ofNat limit ++ ")"
    let shown := (content.tables.take limit).map (previewTable target)
    return ⟨printedLines (title :: shown.flatMap (·.1)), shown.all (·.2)⟩

/-- Migrates databases. -/
def migrate (invocation : Invocation) (sources : Sources) (settings : Settings)
    (request : MigrationRequest)
    : Undertaking Outcome := do
  let settings := { settings with migration := request.settings settings.migration }
  settings.check
  if !request.isDryRun then sources.connect (← settings.targetFor "migrate")
  let plan := planOf settings.migration request.databases request.isDryRun
  let report ← ExceptT.mk (Migration.run plan sources.stamp sources.dump)
  let printed :=
    if invocation.printsDocument then printedDocument report.document
    else report.summary invocation.isVerbose
  return ⟨printed, report.success⟩

/-- Attaches foreign keys. -/
def attach (invocation : Invocation) (sources : Sources) (settings : Settings)
    (plan : Attachment.Plan)
    : Undertaking Outcome := do
  let lines ← sources.dump
  sources.connect (← settings.targetFor "the constraint pass")
  let report ← ExceptT.mk (Attachment.run plan lines)
  let printed :=
    if invocation.printsDocument then printedDocument report.document else report.summary
  return ⟨printed, report.success⟩

/-- Carries out what a command line asks for. -/
def Invocation.run (invocation : Invocation) (sources : Sources) : Undertaking Outcome := do
  let settings ← Settings.load sources.settings invocation.url
  let interval := settings.migration.interval
  match invocation.task with
  | .scan countsTables =>
      let lines ← sources.dump
      let list := if countsTables then listCounts else listNames
      return ⟨← list invocation interval lines, true⟩
  | .preview database limit catalog =>
      let lines ← sources.dump
      let target ← Destination.of? (catalog <|> settings.migration.catalog) database
      preview invocation interval lines target database limit
  | .migrate request => migrate invocation sources settings request
  | .attach databases catalog validates =>
      let catalog := catalog <|> settings.migration.catalog
      attach invocation sources settings ⟨databases, catalog, validates, interval⟩

end DumpTransfer.Command
