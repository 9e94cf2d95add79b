import DumpTransfer.Warehouse.Script

/-! A warehouse in memory, for rehearsing procedures. It keeps a record of what it is asked,
knows the foreign keys that committed statements have attached, and fails wherever it is told to.
-/

namespace DumpTransfer.Rehearsal

/-- Where a rehearsal is to go wrong. -/
structure Plan where
  /-- Whether no catalog can be made. -/
  failCatalog : Bool := false
  /-- Schemas, as they are displayed, for which no session can be opened. -/
  failSession : List Text := []
  /-- Parts of statements that fail. -/
  failOn : List Text := []
  /-- Foreign keys that cannot be looked up. -/
  failLookup : List Text := []
  /-- The part of a statement that cancels the procedure when it is executed. -/
  cancelOn : Option Text := none
  /-- Why files for review cannot be written, if they cannot. -/
  blocked : Option Failure := none

/-- A foreign key of the warehouse: its table and its name as they are written, and whether it
has been validated.
-/
structure AttachedKey where
  table : Text
  name : Text
  isValidated : Bool
  deriving DecidableEq, Repr

/-- What a rehearsal has come to. -/
structure State where
  /-- What has been asked of the warehouse. -/
  log : List Text := []
  /-- The foreign keys that have been committed. -/
  attached : List AttachedKey := []
  /-- Those of the open transaction, the latest last. -/
  pending : List AttachedKey := []
  isCancelled : Bool := false
  /-- Files for review by path. -/
  files : List (Text × Text) := []
  progress : List Dump.Location := []
  deriving DecidableEq, Repr

/-- The keys with one of them put in the place of its table and name, or at the end. -/
def putKey (keys : List AttachedKey) (key : AttachedKey) : List AttachedKey :=
  let others := keys.filter fun other => other.table ≠ key.table || other.name ≠ key.name
  others ++ [key]

/-- The text up to a part and the text after it, if the part occurs. -/
def splitAt? (part : Text) : Text → Option (Text × Text)
  | [] => if part.isEmpty then some ([], []) else none
  | char :: rest =>
      match Text.dropPrefix? (char :: rest) part with
      | some after => some ([], after)
      | none => (splitAt? part rest).map fun (before, after) => (char :: before, after)

/-- The foreign key that a statement attaches or validates, if it does. -/
def keyOf? (statement : Text) : Option AttachedKey := do
  let change ← Text.dropPrefix? statement "ALTER TABLE "
  match splitAt? " ADD CONSTRAINT " change with
  | some (table, declaration) =>
      let (name, _) ← splitAt? " FOREIGN KEY (" declaration
      return ⟨table, name, !Text.endsWith statement " NOT VALID"⟩
  | none =>
      let (table, name) ← splitAt? " VALIDATE CONSTRAINT " change
      return ⟨table, name, true⟩

/-- The number of rows that a statement seems to add. -/
def rowCount (statement : Text) : Nat :=
  if Text.startsWith statement "INSERT" then
    Text.occurrences statement "), (" + Text.occurrences statement "),(" + 1
  else 0

/-- The state with one more line in the record. -/
def State.record (state : State) (line : Text) : State :=
  { state with log := state.log ++ [line] }

/-- The state after a statement that has not failed. -/
def State.apply (state : State) (statement : Text) : State :=
  if statement = "COMMIT" then
    { state with attached := state.pending.foldl putKey state.attached, pending := [] }
  else if statement = "ROLLBACK" then { state with pending := [] }
  else
    match keyOf? statement with
    | some key => { state with pending := state.pending ++ [key] }
    | none => state

/-- The state in which the procedure is cancelled, if a statement cancels it. -/
def State.cancelBy (state : State) (plan : Plan) (statement : Text) : State :=
  if plan.cancelOn.any fun part => Text.includes statement part then
    { state with isCancelled := true }
  else state

/-- The number of rows that a statement adds, or its failure. -/
def execute (plan : Plan) (statement : Text) (state : State) : Except Failure Nat × State :=
  let state := (state.record statement).cancelBy plan statement
  if plan.failOn.any fun part => Text.includes statement part then
    (.error (.configuration ("simulated failure: " ++ statement)), state)
  else (.ok (rowCount statement), state.apply statement)

/-- What is known of a foreign key. -/
def keyState (state : State) (target : Destination) (table key : Text) : KeyPresence :=
  let found := state.attached.find? fun attached =>
    attached.table = target.qualify table && attached.name = Identifier.quote key
  match found with
  | none => .absent
  | some attached => if attached.isValidated then .validated else .unvalidated

/-- The files with one of them written. -/
def putFile (files : List (Text × Text)) (path text : Text) : List (Text × Text) :=
  files.filter (fun other => other.1 ≠ path) ++ [(path, text)]

/-- What is answered to a request, and what the rehearsal has come to then. -/
def answer (plan : Plan) : (request : Request) → State → request.Reply × State
  | .provideCatalog catalog, state =>
      let state := state.record ("-- catalog " ++ catalog)
      if plan.failCatalog then
        (.error (.connection "no server" ("ensuring " ++ catalog)), state)
      else (.ok (), state)
  | .openSession target, state =>
      let state := { state.record ("-- session " ++ target.display) with pending := [] }
      if plan.failSession.contains target.display then
        (.error (.connection "no server" ("opening session for " ++ target.display)), state)
      else (.ok (), state)
  | .execute _ statement, state => execute plan statement state
  | .keyPresence target table key, state =>
      if plan.failLookup.contains key then
        (.error (.configuration ("lookup failed: " ++ key)), state)
      else (.ok (keyState state target table key), state)
  | .isCancelled, state => (state.isCancelled, state)
  | .writeReview path text, state =>
      match plan.blocked with
      | some failure => (.error failure, state)
      | none => (.ok (), { state with files := putFile state.files path text })
  | .noteProgress place, state =>
      ((), { state with progress := state.progress ++ [place] })

/-- The result of a procedure and what the rehearsal has come to. -/
def run (plan : Plan) (script : Script α) (state : State) : α × State :=
  script.run (answer plan) state

end DumpTransfer.Rehearsal
