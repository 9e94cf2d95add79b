import DumpTransfer.Command.Run
import Std.Time.DateTime.Timestamp

/-! The command line: it reads the files that the words name, carries out what they ask for and
prints the outcome. No warehouse can be reached from here, so only listing, showing and dry runs
come to an end.
-/

namespace DumpTransfer.Main

/-- What the system says of a file operation that it refuses. -/
def fileFailure (error : IO.Error) : Failure :=
  let coded (details : String) (code : UInt32) : Text :=
    Text.ofString details ++ " (os error " ++ Text.ofNat code.toNat ++ ")"
  let message : Text :=
    match error with
    | .noFileOrDirectory _ code details => coded details code
    | .permissionDenied _ code details => coded details code
    | .inappropriateType _ code details => coded details code
    | .alreadyExists _ code details => coded details code
    | .resourceExhausted _ code details => coded details code
    | .invalidArgument _ code details => coded details code
    | .otherError code details => coded details code
    | _ => error.toString
  .file message

/-- Runs a file operation. -/
def attempt (action : IO α) : IO (Except Failure α) := do
  match ← action.toBaseIO with
  | .ok value => return .ok value
  | .error error => return .error (fileFailure error)

/-- The text of a file. -/
def readText (path : Text) : IO (Except Failure Text) := do
  return (← attempt (IO.FS.readFile path.toString)).map String.toList

/-- The lines of a dump. -/
def readDump (path : Text) : IO (Except Failure (List Dump.Line)) := do
  match ← attempt (IO.FS.readBinFile path.toString) with
  | .ok bytes => return .ok (Dump.Line.ofBytes bytes.toList)
  | .error _ => return .error (.noDump path)

/-- The failure of everything that needs a warehouse. -/
def unreachable (purpose : Text) : Failure :=
  .connection "no warehouse can be reached" purpose

/-- Writes a file, and its directory if there is none. -/
def writeFile (path text : Text) : IO (Except Failure Unit) :=
  attempt do
    let directory := Text.dropEndWhile (· ≠ '/') path
    unless directory.isEmpty do IO.FS.createDirAll directory.toString
    IO.FS.writeFile path.toString text.toString

/-- Answers a request. -/
def answer : (request : Request) → IO request.Reply
  | .provideCatalog catalog => return .error (unreachable ("ensuring " ++ catalog))
  | .openSession target =>
      return .error (unreachable ("opening session for " ++ target.display))
  | .execute _ _ => return .error (unreachable "executing a statement")
  | .keyPresence _ _ _ => return .error (unreachable "looking up a foreign key")
  | .isCancelled => return false
  | .writeReview path text => writeFile path text
  | .noteProgress place => IO.eprintln s!"  ... {place.line} lines scanned"

/-- Carries out a procedure. -/
def perform : Script α → IO α
  | .done value => return value
  | .call request next => do perform (next (← answer request))

/-- A number that no other run has, in hexadecimal digits. -/
def newId : IO Text := do
  let bytes ← IO.getRandomBytes 16
  return bytes.toList.flatMap fun byte =>
    let digits := Nat.toDigits 16 byte.toNat
    List.replicate (2 - digits.length) '0' ++ digits

/-- What tells this run from another. -/
def newStamp : IO Migration.RunStamp := do
  let now ← Std.Time.Timestamp.now
  return ⟨← newId, ⟨now.toMillisecondsSinceUnixEpoch.val⟩⟩

/-- How the command line is to be given. -/
def usage : String :=
  "usage: scan DUMP [--summary]\n"
    ++ "       preview DUMP DATABASE [--limit N] [--schema NAME]\n"
    ++ "       migrate DUMP --databases NAME... [--schema NAME] [--dry-run] [--save-sql]\n"
    ++ "               [--output-dir PATH] [--workers N] [--single-pass]\n"
    ++ "       constraints DUMP --databases NAME... [--schema NAME] [--validate]\n"
    ++ "options: --config PATH --connection-string TEXT --output-json --log-format NAME\n"
    ++ "         --verbosity LEVEL --verbose"

/-- Carries out what a command line asks for. -/
def carryOut (invocation : Command.Invocation) : IO UInt32 := do
  let settings ←
    match invocation.settingsFile with
    | some path => pure (some (← readText path))
    | none => pure none
  let sources : Command.Sources :=
    { settings
      dump := ← readDump invocation.dump
      connect := fun target =>
        .error (unreachable ("connecting to " ++ Settings.Target.describe target))
      stamp := ← newStamp }
  match ← perform (invocation.run sources).run with
  | .ok outcome =>
      IO.print outcome.printed.toString
      return if outcome.success then 0 else 1
  | .error failure =>
      IO.eprintln failure.detailed.toString
      return 1

end DumpTransfer.Main

open DumpTransfer

/-- Carries out a command line. Attaching foreign keys is a program of its own, behind the word
for it.
-/
def main (arguments : List String) : IO UInt32 := do
  let words := arguments.map String.toList
  let read :=
    match arguments with
    | "constraints" :: _ => Command.Program.attachment.read (words.drop 1)
    | _ => Command.Program.transfer.read words
  match read with
  | .ok invocation => Main.carryOut invocation
  | .error .help =>
      IO.println Main.usage
      return 0
  | .error .usage =>
      IO.eprintln Main.usage
      return 2
