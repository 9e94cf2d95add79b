import DumpTransfer.Dump.Content
import DumpTransfer.Dump.Marker

/-! The machine that collects the content of requested databases from the lines of a dump, one
line at a time. A database is collected during its first visit only, so the databases left and
the one being visited are all that there is to keep.
-/

namespace DumpTransfer.Dump

/-- A statement of which some lines have been read. -/
inductive Pending where
  /-- No statement is open. -/
  | nothing
  /-- The definition of a table, with the text so far. -/
  | definition (table text : Text)
  /-- Rows of a table, with the text so far and whether it ends inside a literal. -/
  | data (table text : Text) (inLiteral : Bool)
  deriving DecidableEq, Repr

/-- The database that the lines belong to. -/
inductive Position where
  /-- No database has been named yet, or all have been collected. -/
  | nowhere
  /-- A database that is not to be collected. -/
  | outside (database : Text)
  /-- A database that is being collected. -/
  | inside (content : Database) (pending : Pending)
  deriving DecidableEq, Repr

/-- Whether more lines are wanted. -/
inductive Step where
  | more
  /-- Every requested database has been visited and left. -/
  | done
  deriving DecidableEq, Repr

/-- A state of the machine. -/
structure Extraction where
  /-- The requested databases, each once. -/
  targets : List Text
  /-- The databases that have been left, in the order of their visits. -/
  finished : List Database
  position : Position
  deriving DecidableEq, Repr

namespace Pending

/-- Whether the text so far ends inside a literal. -/
def inLiteral : Pending → Bool
  | data _ _ open? => open?
  | _ => false

end Pending

namespace Database

/-- The content with the definition of a table recorded. -/
def recordDefinition (content : Database) (table text : Text) : Database :=
  content.updateTable table fun entry => { entry with definition := some text }

/-- The content with one more data statement of a table recorded. -/
def recordData (content : Database) (table text : Text) : Database :=
  content.updateTable table fun entry =>
    { entry with
      insertions := entry.insertions ++ [text],
      estimatedRows := entry.estimatedRows + rowEstimate text }

/-- The content when no more lines of a statement come: rows are kept as they are, the
beginning of a definition is dropped.
-/
def close (content : Database) : Pending → Database
  | .data table text _ => content.recordData table text
  | _ => content

end Database

namespace Position

/-- The name of the database, if there is one. -/
def database : Position → Option Text
  | nowhere => none
  | outside name => some name
  | inside content _ => some content.name

/-- The statement that is open. -/
def pending : Position → Pending
  | inside _ open? => open?
  | _ => .nothing

/-- Whether the text so far of the open statement ends inside a literal. -/
def inLiteral (position : Position) : Bool :=
  position.pending.inLiteral

end Position

namespace Extraction

/-- The machine before the first line. -/
def start (names : List Text) : Extraction :=
  ⟨names.eraseDups, [], .nowhere⟩

/-- A database collected so far, with no statement open, and all those before it. -/
def closed (state : Extraction) : List Database :=
  match state.position with
  | .inside content pending => state.finished ++ [content.close pending]
  | _ => state.finished

/-- What has been collected when no more lines come. -/
def finish (state : Extraction) : List Database :=
  state.closed

/-- Whether a database has been visited and left. -/
def isFinished (state : Extraction) (database : Text) : Bool :=
  state.finished.any (·.name = database)

/-- Whether all requested databases have been visited and left. -/
def allFinished (state : Extraction) : Bool :=
  state.finished.length = state.targets.length

/-- The machine after the current database has been left. -/
def leave (state : Extraction) : Extraction :=
  { state with finished := state.closed, position := .nowhere }

/-- The machine in another database, which is collected if it is wanted and new. -/
def visit (state : Extraction) (database : Text) : Extraction :=
  if state.targets.contains database && !state.isFinished database then
    { state with position := .inside { name := database } .nothing }
  else { state with position := .outside database }

/-- Moves to a database. The machine is done when it leaves the last one requested. -/
def enter (state : Extraction) (database : Text) : Step × Extraction :=
  if state.position.database = some database then (.more, state)
  else
    match state.position with
    | .inside _ _ =>
        let left := state.leave
        if left.allFinished then (.done, left) else (.more, left.visit database)
    | _ => (.more, state.visit database)

/-- Begins or extends a statement with rows, and records it where it ends. -/
def readData (content : Database) (table text line : Text) (inLiteral : Bool)
    : Database × Pending :=
  let inLiteral := endsInLiteral inLiteral line
  if !inLiteral && endsStatement line then (content.recordData table text, .nothing)
  else (content, .data table text inLiteral)

/-- Reads a line of a database while no statement is open. -/
def readMarker (content : Database) (line : Text) : Database × Pending :=
  match Marker.ofLine line with
  | .removal table => (content.withTable table, .nothing)
  | .definition table =>
      let known := content.withTable table
      if isWholeDefinition line then (known.recordDefinition table line, .nothing)
      else (known, .definition table line)
  | .rows table =>
      if content.hasTable table then readData content table line line false
      else (content.addOrphan table, .nothing)
  | .boundary _ | .other => (content, .nothing)

/-- Reads a line that belongs to a database. -/
def readLine (content : Database) (pending : Pending) (line : Text)
    : Database × Pending :=
  match pending with
  | .nothing => readMarker content line
  | .definition table text =>
      let extended := text ++ '\n' :: line
      if closesDefinition line then (content.recordDefinition table extended, .nothing)
      else (content, .definition table extended)
  | .data table text inLiteral =>
      readData content table (text ++ '\n' :: line) line inLiteral

/-- Reads a line. A boundary counts wherever it stands but inside a literal. -/
def feed (state : Extraction) (line : Text) : Step × Extraction :=
  match (if state.position.inLiteral then none else boundary? line) with
  | some database => state.enter database
  | none =>
      match state.position with
      | .inside content pending =>
          let (content, pending) := readLine content pending line
          (.more, { state with position := .inside content pending })
      | _ => (.more, state)

end Extraction

end DumpTransfer.Dump
