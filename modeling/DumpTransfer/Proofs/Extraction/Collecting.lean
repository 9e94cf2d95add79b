import DumpTransfer.Proofs.Extraction.Registers

/-! The registers of a state of the machine that extracts databases, and what lines do to them while
a database is collected: the same as to its content.
-/

namespace DumpTransfer.Dump

-----------------------------------------------------------------------------------------
-- The registers of a state
-----------------------------------------------------------------------------------------

/-- The content with its tables by name. -/
def Database.keyed (content : Database) : KeyedDatabase :=
  ⟨content.name, content.tables.map fun table => (table.name, table), content.orphans⟩

/-- Contents by the names of their databases. -/
def keyedContents (contents : List Database) : Entries KeyedDatabase :=
  contents.map fun content => (content.name, content.keyed)

namespace Pending

def phase : Pending → Phase
  | nothing => .idle
  | definition _ _ => .definition
  | data _ _ _ => .data

def table? : Pending → Option Text
  | nothing => none
  | definition table _ | data table _ _ => some table

def text : Pending → Text
  | nothing => []
  | definition _ text | data _ text _ => text

end Pending

/-- Whether the database at a position is collected. -/
def Position.scope : Position → Scope
  | nowhere | outside _ => .outside
  | inside _ _ => .inside

/-- The content at a position, as far as it has been collected. -/
def Position.contents : Position → List Database
  | nowhere | outside _ => []
  | inside content _ => [content]

namespace Extraction

/-- The registers of a state. -/
def registers (state : Extraction) : Registers where
  phase := state.position.pending.phase
  scope := state.position.scope
  targets := state.targets
  finished := state.finished.map (·.name)
  current := state.position.database
  table := state.position.pending.table?
  buffer := state.position.pending.text
  inLiteral := state.position.inLiteral
  databases := keyedContents (state.finished ++ state.position.contents)

end Extraction

-----------------------------------------------------------------------------------------
-- Changes of a content by name
-----------------------------------------------------------------------------------------

namespace Database

theorem keyed_has (content : Database) (table : Text)
    : content.keyed.tables.has table = content.hasTable table := by
  rw [Entries.has, keyed, List.any_map]
  rfl

theorem keyed_withTable (content : Database) (table : Text)
    : (content.withTable table).keyed
      = { content.keyed with
          tables := content.keyed.tables.provide table { name := table } } := by
  rw [withTable, Entries.provide, keyed_has]
  split <;> simp [keyed]

theorem keyed_updateTable (content : Database) (table : Text) {change : Table → Table}
    (keeps : ∀ entry, (change entry).name = entry.name)
    : (content.updateTable table change).keyed
      = { content.keyed with tables := content.keyed.tables.change table change } := by
  simp only [keyed, updateTable, Entries.change, List.map_map]
  congr 1
  refine List.map_congr_left fun entry _ => ?_
  by_cases same : entry.name = table <;> simp [same, keeps]

theorem keyed_addOrphan (content : Database) (table : Text)
    : (content.addOrphan table).keyed
      = { content.keyed with
          orphans := (content.keyed.orphans.provide table 0).change table (· + 1) } := by
  by_cases counted : content.orphans.any (·.1 = table) = true
  · have has : content.keyed.orphans.has table = true := counted
    rw [addOrphan, if_pos counted, Entries.provide_of_has has]
    rfl
  · have hasNot : ¬ content.keyed.orphans.has table = true := counted
    have absent : table ∉ content.keyed.orphans.map (·.1) := fun member =>
      hasNot ((Entries.has_iff _ _).mpr member)
    rw [addOrphan, if_neg counted, Entries.provide, if_neg hasNot,
      Entries.change_concat absent]
    rfl

/-- A table that is made known is known. -/
theorem hasTable_withTable (content : Database) (table : Text)
    : (content.withTable table).hasTable table = true := by
  rw [withTable]
  split
  · assumption
  · simp [hasTable]

end Database

theorem keyedContents_append (contents others : List Database)
    : keyedContents (contents ++ others) = keyedContents contents ++ keyedContents others :=
  List.map_append

@[simp] theorem keyedContents_names (contents : List Database)
    : (keyedContents contents).map (·.1) = contents.map (·.name) := by
  rw [keyedContents, List.map_map]
  rfl

-----------------------------------------------------------------------------------------
-- Registers that hold something of the current database
-----------------------------------------------------------------------------------------

namespace Registers

/-- The content of the current database is the last that is held. -/
structure Holds (registers : Registers) (earlier : Entries KeyedDatabase) (database : Text)
    (content : KeyedDatabase)
    : Prop where
  current : registers.current = some database
  databases : registers.databases = earlier ++ [(database, content)]
  absent : database ∉ earlier.map (·.1)

namespace Holds

variable {registers : Registers} {earlier : Entries KeyedDatabase} {database : Text}
variable {content : KeyedDatabase} (holds : registers.Holds earlier database content)
variable (fallback : Fallback)
include holds

theorem key : registers.key fallback = database := by
  simp [Registers.key, holds.current]

theorem ground : registers.ground fallback = registers := by
  have has : registers.databases.has database = true := by
    rw [Entries.has_iff, holds.databases]
    simp
  rw [Registers.ground, holds.key, Entries.provide_of_has has]

theorem changeContent (changed : KeyedDatabase → KeyedDatabase)
    : registers.changeContent fallback changed
      = { registers with databases := earlier ++ [(database, changed content)] } := by
  simp only [Registers.changeContent, holds.ground, holds.key]
  rw [holds.databases, Entries.change_concat holds.absent]

theorem knows (table : Text) : registers.knows fallback table = content.tables.has table := by
  have unheld : earlier.lookup database = none := by
    rw [List.lookup_eq_none_iff]
    intro entry member
    have other : database ≠ entry.1 := fun same =>
      holds.absent (List.mem_map.mpr ⟨entry, member, same.symm⟩)
    simpa using other
  rw [Registers.knows, holds.key, holds.databases, List.lookup_append, unheld]
  simp

/-- A statement is recorded in its table if something is held of it. -/
theorem record {table : Text} (open_ : registers.table = some table)
    (has : content.tables.has table = true) (recorded : Text → Table → Table)
    : registers.record fallback recorded
      = { registers with
            databases := earlier
              ++ [(database,
                { content with
                  tables := content.tables.change table (recorded registers.buffer) })]
        }.reset := by
  have taken
      : ({ registers with buffer := [], table := none } : Registers).Holds earlier database
          content :=
    ⟨holds.current, holds.databases, holds.absent⟩
  simp only [Registers.record, open_, taken.changeContent, has, if_true]
  rfl

end Holds

end Registers

-----------------------------------------------------------------------------------------
-- Lines of a database that is collected
-----------------------------------------------------------------------------------------

/-- An open statement belongs to a table that is known, and whether it ends inside a literal is
noted as its text has it.
-/
def Pending.Grounded (content : Database) : Pending → Prop
  | .nothing => True
  | .definition table _ => content.hasTable table = true
  | .data table text inLiteral =>
      content.hasTable table = true ∧ inLiteral = endsInLiteral false text

section Collecting

variable (fallback : Fallback) {targets : List Text} {finished : List Database}
variable {content : Database} (fresh : content.name ∉ finished.map (·.name))

/-- The registers while a database is collected. -/
abbrev collecting (targets : List Text) (finished : List Database) (content : Database)
    (pending : Pending)
    : Registers :=
  (⟨targets, finished, .inside content pending⟩ : Extraction).registers

include fresh

theorem collecting_holds (pending : Pending)
    : (collecting targets finished content pending).Holds (keyedContents finished) content.name
        content.keyed :=
  ⟨rfl, keyedContents_append finished [content], by rwa [keyedContents_names]⟩

theorem collecting_changeContent (pending : Pending) {changed : KeyedDatabase → KeyedDatabase}
    {next : Database} (named : next.name = content.name)
    (keyed : next.keyed = changed content.keyed)
    : (collecting targets finished content pending).changeContent fallback changed
      = collecting targets finished next pending := by
  rw [(collecting_holds fresh pending).changeContent, ← keyed, ← named]
  have held : keyedContents finished ++ [(next.name, next.keyed)]
      = keyedContents (finished ++ [next]) :=
    (keyedContents_append finished [next]).symm
  rw [held]
  simp [Extraction.registers, Position.contents, Position.database, Position.pending,
    Position.inLiteral, Position.scope, named]

theorem collecting_record {pending : Pending} {table : Text}
    (open_ : pending.table? = some table) (has : content.hasTable table = true)
    {recorded : Text → Table → Table}
    (keeps : ∀ text entry, (recorded text entry).name = entry.name)
    : (collecting targets finished content pending).record fallback recorded
      = collecting targets finished (content.updateTable table (recorded pending.text))
          .nothing := by
  have hasKeyed : content.keyed.tables.has table = true := (content.keyed_has table).trans has
  rw [(collecting_holds fresh pending).record fallback open_ hasKeyed]
  have keyed := content.keyed_updateTable table (keeps pending.text)
  have held := keyedContents_append finished
    [content.updateTable table (recorded pending.text)]
  have last : keyedContents [content.updateTable table (recorded pending.text)]
      = [(content.name, (content.updateTable table (recorded pending.text)).keyed)] :=
    rfl
  rw [last, keyed] at held
  exact congrArg (fun databases =>
    ({ collecting targets finished content pending with databases } : Registers).reset) held.symm

theorem collecting_recordDefinition {table : Text} (text : Text)
    (has : content.hasTable table = true)
    : (collecting targets finished content (.definition table text)).recordDefinition fallback
      = collecting targets finished (content.recordDefinition table text) .nothing := by
  refine collecting_record fallback fresh rfl has ?_
  exact fun _ _ => rfl

theorem collecting_recordData {table : Text} (text : Text) (inLiteral : Bool)
    (has : content.hasTable table = true)
    : (collecting targets finished content (.data table text inLiteral)).recordData fallback
      = collecting targets finished (content.recordData table text) .nothing := by
  refine collecting_record fallback fresh rfl has ?_
  exact fun _ _ => rfl

theorem collecting_readData (table text line : Text) (noted inLiteral : Bool)
    (has : content.hasTable table = true)
    : (collecting targets finished content (.data table text noted)).readData fallback line
        inLiteral
      = collecting targets finished (Extraction.readData content table text line inLiteral).1
          (Extraction.readData content table text line inLiteral).2 := by
  dsimp only [Registers.readData, Extraction.readData]
  split
  · exact collecting_recordData fallback fresh text _ has
  · rfl

theorem collecting_readMarker (line : Text)
    : (collecting targets finished content .nothing).readMarker fallback line
      = collecting targets finished (Extraction.readMarker content line).1
          (Extraction.readMarker content line).2 := by
  have provided (table : Text)
      : (collecting targets finished content .nothing).provideTable fallback table
        = collecting targets finished (content.withTable table) .nothing :=
    collecting_changeContent fallback fresh .nothing (content.withTable_name table)
      (content.keyed_withTable table)
  unfold Registers.readMarker Extraction.readMarker
  cases Marker.ofLine line with
  | boundary database | other => rfl
  | removal table => exact provided table
  | definition table =>
      dsimp only
      rw [provided]
      split
      · exact collecting_recordDefinition fallback (content.withTable_name table ▸ fresh) line
          (content.hasTable_withTable table)
      · rfl
  | rows table =>
      have holds : (collecting targets finished content .nothing).Holds _ _ _ :=
        collecting_holds fresh .nothing
      dsimp only
      rw [holds.ground, holds.knows, Database.keyed_has]
      split
      · rename_i has
        exact collecting_readData fallback fresh table line line false false has
      · exact collecting_changeContent fallback fresh .nothing (content.addOrphan_name table)
          (content.keyed_addOrphan table)

/-- A line that is no boundary does the same to both. -/
theorem collecting_readLine {pending : Pending} (grounded : pending.Grounded content)
    (line : Text)
    : (collecting targets finished content pending).readLine fallback line
      = collecting targets finished (Extraction.readLine content pending line).1
          (Extraction.readLine content pending line).2 := by
  cases pending with
  | nothing => exact collecting_readMarker fallback fresh line
  | definition table text =>
      have longer
          : (collecting targets finished content (.definition table text)).push line
            = collecting targets finished content (.definition table (text ++ '\n' :: line)) :=
        rfl
      have read
          : (collecting targets finished content (.definition table text)).readLine fallback line
            = if closesDefinition line then
                ((collecting targets finished content
                  (.definition table text)).push line).recordDefinition fallback
              else (collecting targets finished content (.definition table text)).push line :=
        rfl
      rw [read, longer, Extraction.readLine]
      split
      · exact collecting_recordDefinition fallback fresh _ grounded
      · rfl
  | data table text inLiteral =>
      rw [Extraction.readLine]
      exact collecting_readData fallback fresh table (text ++ '\n' :: line) line inLiteral
        inLiteral grounded.1

theorem collecting_flush {pending : Pending} (grounded : pending.Grounded content)
    : (collecting targets finished content pending).flush fallback
      = collecting targets finished (content.close pending) .nothing := by
  cases pending with
  | nothing | definition table text => rfl
  | data table text inLiteral =>
      exact collecting_recordData fallback fresh text inLiteral grounded.1

end Collecting

end DumpTransfer.Dump
