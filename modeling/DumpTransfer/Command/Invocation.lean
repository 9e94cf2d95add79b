import DumpTransfer.Command.Words

/-! What a command line asks for. One program lists the databases of a dump, shows converted
definitions and migrates databases; the other one attaches foreign keys afterwards.
-/

namespace DumpTransfer.Command

/-- What a command line says of a migration. What it leaves open the settings decide. -/
structure MigrationRequest where
  databases : List Text
  catalog : Option Text
  isDryRun : Bool
  savesReview : Bool
  reviewDirectory : Option Text
  workers : Option Nat
  isSinglePass : Bool
  deriving DecidableEq, Repr

/-- What is to be done with a dump. -/
inductive Task where
  /-- To list its databases, perhaps with their numbers of tables. -/
  | scan (countsTables : Bool)
  /-- To show the converted definitions of some tables of a database. -/
  | preview (database : Text) (limit : Nat) (catalog : Option Text)
  /-- To migrate databases. -/
  | migrate (request : MigrationRequest)
  /-- To attach the foreign keys of migrated databases. -/
  | attach (databases : List Text) (catalog : Option Text) (validates : Bool)
  deriving DecidableEq, Repr

/-- What a command line asks for. -/
structure Invocation where
  /-- The path of the dump. -/
  dump : Text
  task : Task
  /-- The path of the settings, if they are in a file. -/
  settingsFile : Option Text
  /-- A connection string that goes before the settings. -/
  url : Option Text
  /-- Whether results are printed as documents. -/
  printsDocument : Bool
  /-- Whether the warnings for tables are printed. -/
  isVerbose : Bool
  deriving DecidableEq, Repr

/-- A program. -/
inductive Program where
  | transfer
  | attachment
  deriving DecidableEq, Repr

/-- The options of every task. -/
def commonRules : List OptionRule := [
  ⟨"config", some 'c', .single⟩, ⟨"connection-string", none, .single⟩,
  ⟨"output-json", none, .flag⟩, ⟨"log-format", none, .single⟩, ⟨"verbosity", none, .single⟩,
  ⟨"verbose", some 'v', .flag⟩, ⟨"help", some 'h', .help⟩]

/-- The option that asks which program this is. -/
def versionRule : OptionRule :=
  ⟨"version", some 'V', .help⟩

/-- The options of listing. -/
def scanRules : List OptionRule :=
  [⟨"summary", none, .flag⟩]

/-- The options of showing definitions. -/
def previewRules : List OptionRule :=
  [⟨"limit", none, .single⟩, ⟨"schema", none, .single⟩]

/-- The options of migrating. -/
def migrateRules : List OptionRule := [
  ⟨"databases", none, .several⟩, ⟨"schema", none, .single⟩, ⟨"dry-run", none, .flag⟩,
  ⟨"save-sql", none, .flag⟩, ⟨"output-dir", none, .single⟩, ⟨"workers", none, .single⟩,
  ⟨"single-pass", none, .flag⟩]

/-- The options of attaching foreign keys. -/
def attachRules : List OptionRule := [
  ⟨"databases", none, .several⟩, ⟨"schema", none, .single⟩, ⟨"validate", none, .flag⟩,
  versionRule]

namespace Words

/-- The value of an option as a path, which is not empty. -/
def path? (words : Words) (name : String) : Except Refusal (Option Text) :=
  match words.value? name with
  | some [] => .error .usage
  | value => .ok value

/-- The value of an option as a number of 64 bits. -/
def number? (words : Words) (name : String) : Except Refusal (Option Nat) :=
  match words.value? name with
  | none => .ok none
  | some text =>
      match Text.natural? (Nat.pow 2 64) text with
      | some number => .ok (some number)
      | none => .error .usage

/-- The values of the option for databases, of which there must be some. -/
def databases (words : Words) : Except Refusal (List Text) :=
  match words.allValues "databases" with
  | [] => .error .usage
  | names => .ok names

/-- The path of the dump, if it is the only word that belongs to no option. -/
def onlyDump (words : Words) : Except Refusal Text :=
  match words.others with
  | [dump] => if dump.isEmpty then .error .usage else .ok dump
  | _ => .error .usage

/-- The words of a task with what was given before it. What is given later holds. -/
def after (words earlier : Words) : Words :=
  { words with
    flags := words.flags ++ earlier.flags
    values := words.values ++ earlier.values }

/-- A task with the options of every task. -/
def invocation (words : Words) (dump : Text) (task : Task) : Except Refusal Invocation := do
  return {
    dump
    task
    settingsFile := ← words.path? "config"
    url := words.value? "connection-string"
    printsDocument := words.hasFlag "output-json"
    isVerbose := words.hasFlag "verbose" }

/-- What a command line for listing asks for. -/
def scan (words : Words) : Except Refusal Invocation := do
  words.invocation (← words.onlyDump) (.scan (words.hasFlag "summary"))

/-- What a command line for showing definitions asks for. -/
def preview (words : Words) : Except Refusal Invocation := do
  match words.others with
  | [dump, database] =>
      if dump.isEmpty then .error .usage
      else
        let limit := (← words.number? "limit").getD 3
        words.invocation dump (.preview database limit (words.value? "schema"))
  | _ => .error .usage

/-- What a command line for migrating asks for. -/
def migrate (words : Words) : Except Refusal Invocation := do
  words.invocation (← words.onlyDump) (.migrate {
    databases := ← words.databases
    catalog := words.value? "schema"
    isDryRun := words.hasFlag "dry-run"
    savesReview := words.hasFlag "save-sql"
    reviewDirectory := ← words.path? "output-dir"
    workers := ← words.number? "workers"
    isSinglePass := words.hasFlag "single-pass" })

/-- What a command line for attaching foreign keys asks for. -/
def attach (words : Words) : Except Refusal Invocation := do
  words.invocation (← words.onlyDump)
    (.attach (← words.databases) (words.value? "schema") (words.hasFlag "validate"))

end Words

/-- The options of a task by its name, and how its words are read. -/
def taskOf? (name : Text) : Option (List OptionRule × (Words → Except Refusal Invocation)) :=
  match name.toString with
  | "scan" => some (scanRules, Words.scan)
  | "preview" => some (previewRules, Words.preview)
  | "migrate" => some (migrateRules, Words.migrate)
  | _ => none

/-- What a command line asks of the program with several tasks. -/
def readTransfer (arguments : List Text) : Except Refusal Invocation := do
  let rules := versionRule :: commonRules
  let (earlier, rest) ← WordReader.read { rules, stopsAtWord := true } arguments
  match rest with
  | [] => .error .usage
  | name :: rest =>
      match taskOf? name with
      | none => .error (if name = "help" then .help else .usage)
      | some (rules, invocation) =>
          let (words, _) ← WordReader.read { rules := rules ++ commonRules } rest
          invocation (words.after earlier)

/-- What a command line asks of the program that attaches foreign keys. -/
def readAttachment (arguments : List Text) : Except Refusal Invocation := do
  let (words, _) ← WordReader.read { rules := attachRules ++ commonRules } arguments
  words.attach

/-- What a command line asks of a program. -/
def Program.read (program : Program) (arguments : List Text) : Except Refusal Invocation :=
  match program with
  | .transfer => readTransfer arguments
  | .attachment => readAttachment arguments

end DumpTransfer.Command
