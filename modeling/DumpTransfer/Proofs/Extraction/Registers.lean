import DumpTransfer.Proofs.Extraction.Openings

/-! The machine that extracts databases as one with plain registers, each of which an operation
sets by itself. Nothing in the types says which registers go together, so that a register may be
empty where an operation needs it; every such operation has a fallback.
-/

namespace DumpTransfer.Dump

-----------------------------------------------------------------------------------------
-- Values by name
-----------------------------------------------------------------------------------------

/-- Values by name, in the order in which the names came. -/
abbrev Entries (α : Type) :=
  List (Text × α)

namespace Entries

variable {α : Type}

/-- Whether there is a value of a name. -/
def has (entries : Entries α) (name : Text) : Bool :=
  entries.any (·.1 = name)

/-- The values with one for a name that has none. -/
def provide (entries : Entries α) (name : Text) (value : α) : Entries α :=
  if entries.has name then entries else entries ++ [(name, value)]

/-- The values with that of a name changed. -/
def change (entries : Entries α) (name : Text) (changed : α → α) : Entries α :=
  entries.map fun entry => if entry.1 = name then (entry.1, changed entry.2) else entry

theorem has_iff (entries : Entries α) (name : Text)
    : entries.has name = true ↔ name ∈ entries.map (·.1) := by
  simp [has]

theorem provide_of_has {entries : Entries α} {name : Text} (has : entries.has name = true)
    (value : α)
    : entries.provide name value = entries :=
  if_pos has

/-- Only the last value changes if nothing before it has its name. -/
theorem change_concat {entries : Entries α} {name : Text} (absent : name ∉ entries.map (·.1))
    (value : α) (changed : α → α)
    : Entries.change (entries ++ [(name, value)]) name changed
      = entries ++ [(name, changed value)] := by
  have kept : Entries.change entries name changed = entries := by
    refine (List.map_congr_left fun entry member => ?_).trans (List.map_id entries)
    have other : entry.1 ≠ name := fun same => absent (List.mem_map.mpr ⟨entry, member, same⟩)
    rw [if_neg other, id]
  rw [Entries.change, List.map_append, ← Entries.change, kept]
  simp

end Entries

-----------------------------------------------------------------------------------------
-- Registers
-----------------------------------------------------------------------------------------

/-- A database of which the tables are found by the names under which they were put in. -/
structure KeyedDatabase where
  name : Text
  tables : Entries Table := []
  orphans : Entries Nat := []

/-- Which kind of statement is open. -/
inductive Phase where
  | idle
  | definition
  | data
  deriving DecidableEq

/-- Whether the current database is collected. -/
inductive Scope where
  | outside
  | inside
  deriving DecidableEq

/-- The registers of the machine. -/
structure Registers where
  phase : Phase := .idle
  scope : Scope := .outside
  targets : List Text
  finished : List Text := []
  current : Option Text := none
  /-- The table that the text belongs to. -/
  table : Option Text := none
  /-- The text of the open statement. -/
  buffer : Text := []
  inLiteral : Bool := false
  databases : Entries KeyedDatabase := []

/-- What is done where a register that is needed is empty. -/
structure Fallback where
  /-- The name for the current database if there is none. -/
  database : Text := []
  /-- What is put in for a database of which nothing is held. -/
  content : Text → KeyedDatabase := fun name => { name }
  /-- What becomes of a statement that belongs to no table. -/
  untabled : Registers → Registers := id
  /-- What becomes of a statement that belongs to a table of which nothing is held. -/
  unknown : KeyedDatabase → KeyedDatabase := id

namespace Registers

/-- The registers before the first line. -/
def start (names : List Text) : Registers :=
  { targets := names.eraseDups }

/-- No statement is open any more. -/
def reset (registers : Registers) : Registers :=
  { registers with phase := .idle, table := none, buffer := [], inLiteral := false }

/-- A statement begins with a line. -/
def opened (registers : Registers) (phase : Phase) (table line : Text) : Registers :=
  { registers with phase, table := some table, buffer := line }

/-- The open statement goes on with a line. -/
def push (registers : Registers) (line : Text) : Registers :=
  { registers with buffer := registers.buffer ++ '\n' :: line }

section Operations

variable (fallback : Fallback) (registers : Registers)

/-- The name under which the current database is held. -/
def key : Text :=
  registers.current.getD fallback.database

/-- The registers with something held of the current database. -/
def ground : Registers :=
  { registers with
    databases := registers.databases.provide (registers.key fallback)
      (fallback.content (registers.key fallback)) }

/-- The registers with the content of the current database changed. -/
def changeContent (changed : KeyedDatabase → KeyedDatabase) : Registers :=
  let registers := registers.ground fallback
  { registers with databases := registers.databases.change (registers.key fallback) changed }

/-- Whether the current database has a table. -/
def knows (table : Text) : Bool :=
  (registers.databases.lookup (registers.key fallback)).any (·.tables.has table)

/-- Makes a table known. -/
def provideTable (table : Text) : Registers :=
  registers.changeContent fallback fun content =>
    { content with tables := content.tables.provide table { name := table } }

/-- Counts a statement of a table that is not known. -/
def countOrphan (table : Text) : Registers :=
  registers.changeContent fallback fun content =>
    { content with orphans := (content.orphans.provide table 0).change table (· + 1) }

/-- Records the open statement in its table, and has none open then. -/
def record (recorded : Text → Table → Table) : Registers :=
  let taken := { registers with buffer := [], table := none }
  match registers.table with
  | none => (fallback.untabled taken).reset
  | some table =>
      (taken.changeContent fallback fun content =>
        if content.tables.has table then
          { content with tables := content.tables.change table (recorded registers.buffer) }
        else fallback.unknown content).reset

/-- Records the open statement as the definition of its table. -/
def recordDefinition : Registers :=
  registers.record fallback fun text entry => { entry with definition := some text }

/-- Records the open statement among those with rows of its table. -/
def recordData : Registers :=
  registers.record fallback fun text entry =>
    { entry with
      insertions := entry.insertions ++ [text]
      estimatedRows := entry.estimatedRows + rowEstimate text }

/-- Closes the open statement, if there is one. -/
def flush : Registers :=
  match registers.phase with
  | .data => registers.recordData fallback
  | .definition => registers.reset
  | .idle => registers

/-- Leaves the current database. -/
def leave : Registers :=
  match registers.current with
  | some database =>
      { registers with
        current := none
        finished := if database ∈ registers.finished then registers.finished
          else registers.finished ++ [database] }
  | none => registers

/-- Makes another database current, which is collected if it is wanted and new. -/
def visit (database : Text) : Registers :=
  if registers.targets.contains database && !registers.finished.contains database then
    { registers with
      scope := .inside
      current := some database
      databases := registers.databases.provide database { name := database } }
  else { registers with scope := .outside, current := some database }

/-- Moves to a database. -/
def enter (database : Text) : Step × Registers :=
  if registers.current = some database then (.more, registers)
  else
    let flushed := registers.flush fallback
    match flushed.scope with
    | .outside => (.more, flushed.visit database)
    | .inside =>
        let left := flushed.leave
        if left.finished.length = left.targets.length then
          (.done, { left with scope := .outside })
        else (.more, left.visit database)

/-- Takes note of what a line of a data statement opens, and records the statement if the line
ends it.
-/
def readData (line : Text) (inLiteral : Bool) : Registers :=
  let registers := { registers with inLiteral := endsInLiteral inLiteral line }
  if !registers.inLiteral && endsStatement line then registers.recordData fallback
  else registers

/-- Reads a line of a database while no statement is open. -/
def readMarker (line : Text) : Registers :=
  match Marker.ofLine line with
  | .removal table => registers.provideTable fallback table
  | .definition table =>
      let begun := (registers.provideTable fallback table).opened .definition table line
      if isWholeDefinition line then begun.recordDefinition fallback else begun
  | .rows table =>
      let registers := registers.ground fallback
      if registers.knows fallback table then
        (registers.opened .data table line).readData fallback line false
      else registers.countOrphan fallback table
  | .boundary _ | .other => registers

/-- Reads a line that is no boundary. -/
def readLine (line : Text) : Registers :=
  match registers.phase with
  | .definition =>
      let longer := registers.push line
      if closesDefinition line then longer.recordDefinition fallback else longer
  | .data => (registers.push line).readData fallback line registers.inLiteral
  | .idle =>
      match registers.scope with
      | .outside => registers
      | .inside => registers.readMarker fallback line

/-- Reads a line. -/
def feed (line : Text) : Step × Registers :=
  match (if registers.inLiteral then none else boundary? line) with
  | some database => registers.enter fallback database
  | none => (.more, registers.readLine fallback line)

/-- What is held when no more lines come. -/
def finish : Entries KeyedDatabase :=
  (registers.flush fallback).databases

end Operations

/-- The registers are in line with each other. -/
structure Coherent (registers : Registers) : Prop where
  idle
    : registers.phase = .idle →
        registers.table = none ∧ registers.buffer = [] ∧ registers.inLiteral = false
  busy
    : registers.phase ≠ .idle →
        registers.scope = .inside
        ∧ ∃ database content table,
            registers.current = some database
            ∧ (database, content) ∈ registers.databases
            ∧ registers.table = some table
            ∧ table ∈ content.tables.map (·.1)
  literal : registers.inLiteral = true → registers.phase = .data
  data : registers.phase = .data → registers.inLiteral = endsInLiteral false registers.buffer
  inside
    : registers.scope = .inside →
        ∃ database,
          registers.current = some database
          ∧ database ∈ registers.targets
          ∧ database ∉ registers.finished
  finished : registers.finished ⊆ registers.targets
  held
    : registers.databases.map (·.1)
      = registers.finished ++ if registers.scope = .inside then registers.current.toList else []
  heldOnce : (registers.databases.map (·.1)).Nodup
  databasesNamed : ∀ entry ∈ registers.databases, entry.2.name = entry.1
  tablesNamed
    : ∀ entry ∈ registers.databases, ∀ table ∈ entry.2.tables, table.2.name = table.1
  tablesOnce : ∀ entry ∈ registers.databases, (entry.2.tables.map (·.1)).Nodup

end Registers

end DumpTransfer.Dump
