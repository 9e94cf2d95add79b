import DumpTransfer.Proofs.Attachment.Names
import DumpTransfer.Proofs.Attachment.Passes
import DumpTransfer.Proofs.Extraction.Lockstep
import DumpTransfer.Proofs.Warehouse.Destinations

/-! Foreign keys by the database, the table and the name under which they are reported. Two of them
are the same to the warehouse when these are the same, since names can be read back from the way
they are written, and a dump declares them once for each table.
-/

namespace DumpTransfer

-----------------------------------------------------------------------------------------
-- Tables of a dump
-----------------------------------------------------------------------------------------

namespace Dump

namespace Extraction

/-- What holds of every state holds at the end of a run, by induction over its lines. -/
theorem Sound.run {state : Extraction} (sound : state.Sound) (lines : List Line)
    : (runExtraction state lines).1.Sound := by
  induction lines generalizing state with
  | nil => exact sound
  | cons line rest ih =>
      have next := sound.feed line.text
      cases fed : state.feed line.text with
      | mk step later =>
          rw [fed] at next
          cases step with
          | more =>
              rw [runExtraction_of_more rest fed]
              exact ih next
          | done =>
              rw [runExtraction_of_done rest fed]
              exact next

theorem Sound.tablesOnce_finish {state : Extraction} (sound : state.Sound)
    : ∀ content ∈ state.finish, content.TablesOnce := by
  cases position : state.position with
  | nowhere | outside name =>
      intro content member
      rw [finish, closed, position] at member
      exact sound.tablesOnce content (List.mem_append_left _ member)
  | inside content pending =>
      have once := (sound.leave position).tablesOnce
      simpa [Extraction.leave, Extraction.finish, Position.contents] using once

end Extraction

/-- No table of a database is found twice in a dump. -/
theorem tablesOnce_extractOne (interval : Nat) (name : Text) (lines : List Line)
    : (extractOne interval name lines).value.TablesOnce := by
  have sound := (Extraction.Sound.start [name]).run lines
  rw [extractOne_eq]
  cases found : contentOf? name (runExtraction (.start [name]) lines).1.finish with
  | none => exact List.nodup_nil
  | some content => exact sound.tablesOnce_finish content (List.mem_of_find?_eq_some found)

end Dump

namespace Attachment

-----------------------------------------------------------------------------------------
-- Labels
-----------------------------------------------------------------------------------------

/-- The database, the table and the name by which a foreign key is known. -/
abbrev Label :=
  Text × Text × Text

def KeyResult.label (result : KeyResult) : Label :=
  (result.database, result.table, result.key)

def Assignment.label (assignment : Assignment) : Label :=
  (assignment.target.schema, assignment.key.table, assignment.key.name)

/-- The labels of the foreign keys that the definitions of a database declare, in order. -/
def labelsOf (content : Dump.Database) : List Label :=
  content.tables.flatMap fun table =>
    table.definition.toList.flatMap fun definition =>
      (ForeignKey.ofDefinition definition table.name).map fun key =>
        (content.name, table.name, key.name)

/-- The labels of the foreign keys that a pass is to settle, in order. -/
def Plan.labels (plan : Plan) (lines : List Dump.Line) : List Label :=
  (plan.databases.filter (Dump.databaseNames lines).contains).flatMap fun name =>
    labelsOf (Dump.extractOne plan.interval name lines).value

theorem resultOf_label (validates : Bool) (assignment : Assignment)
    (outcome : Except Failure Status)
    : (resultOf validates assignment.target.schema assignment.key outcome).label
      = assignment.label := by
  cases outcome <;> rfl

theorem labelsOf_eq (content : Dump.Database)
    : labelsOf content
      = (declaredKeys content).map fun key => (content.name, key.table, key.name) := by
  simp only [labelsOf, declaredKeys, List.map_flatMap]
  refine List.flatMap_congr fun table _ => List.flatMap_congr fun definition _ => ?_
  refine List.map_congr_left fun key member => ?_
  rw [ForeignKey.table_of_mem_ofDefinition definition table.name member]

/-- Where there is a schema for every database, no foreign key is left out. -/
theorem Plan.assignments_label {plan : Plan} {lines : List Dump.Line}
    (schemas : ∀ name ∈ plan.databases, ∃ target, Destination.of? plan.catalog name = .ok target)
    : (plan.assignments lines).map Assignment.label = plan.labels lines := by
  rw [assignments, assignmentsAmong, labels, List.map_flatMap]
  refine List.flatMap_congr fun name member => ?_
  obtain ⟨target, found⟩ := schemas name (List.mem_filter.mp member).1
  have named := Dump.extractOne_name plan.interval name lines
  generalize (Dump.extractOne plan.interval name lines).value = content at named ⊢
  rw [← named] at found
  have schema := Destination.schema_of found
  rw [assignmentsOf, found, labelsOf_eq, List.map_map]
  refine List.map_congr_left fun key _ => ?_
  rw [Function.comp_apply, Assignment.label, schema]

/-- Every schema lies in the catalog of the plan. -/
theorem Plan.catalog_of_mem {plan : Plan} {lines : List Dump.Line} {assignment : Assignment}
    (member : assignment ∈ plan.assignments lines)
    : assignment.target.catalog = Destination.catalogOf plan.catalog := by
  obtain ⟨name, -, member⟩ := List.mem_flatMap.mp member
  unfold assignmentsOf at member
  cases found : Destination.of? plan.catalog
      (Dump.extractOne plan.interval name lines).value.name with
  | error failure =>
      rw [found] at member
      cases member
  | ok target =>
      rw [found] at member
      obtain ⟨key, -, rfl⟩ := List.mem_map.mp member
      exact Destination.catalog_of found

/-- The labels of a table that has a definition. -/
theorem tableLabels_nodup_iff (database : Text) (table : Dump.Table)
    : (table.definition.toList.flatMap fun definition =>
        (ForeignKey.ofDefinition definition table.name).map fun key =>
          (database, table.name, key.name)).Nodup
      ↔ ∀ definition ∈ table.definition, ForeignKey.NamedApart definition table.name := by
  cases table.definition with
  | none => simp
  | some definition =>
      have labelled : Function.Injective fun name : Text => (database, table.name, name) :=
        fun _ _ same => (Prod.mk.inj (Prod.mk.inj same).2).2
      have apart := List.nodup_map_iff (l := (ForeignKey.ofDefinition definition table.name).map
        (·.name)) labelled
      rw [List.map_map] at apart
      simpa [Function.comp_def, ForeignKey.names_nodup_iff] using apart

theorem label_of_mem_labelsOf {content : Dump.Database} {label : Label}
    (member : label ∈ labelsOf content)
    : label.1 = content.name := by
  rw [labelsOf_eq] at member
  obtain ⟨key, -, rfl⟩ := List.mem_map.mp member
  rfl

/-- Where no table is found twice, two labels are the same in one table only. -/
theorem labelsOf_nodup_iff {content : Dump.Database} (once : content.TablesOnce)
    : (labelsOf content).Nodup
      ↔ ∀ table ∈ content.tables, ∀ definition ∈ table.definition,
          ForeignKey.NamedApart definition table.name := by
  rw [labelsOf, List.nodup_flatMap]
  simp only [tableLabels_nodup_iff, and_iff_left_iff_imp]
  intro _
  refine (List.pairwise_map.mp once).imp fun {first second} differ label => ?_
  simp only [List.mem_flatMap, List.mem_map, forall_exists_index, and_imp]
  rintro definition - key - rfl other - another - same
  exact differ (Prod.mk.inj (Prod.mk.inj same).2).1.symm

/-- The foreign keys of a plan have different labels when the names of each table are different. -/
theorem Plan.labels_nodup_iff {plan : Plan} (distinct : plan.databases.Nodup)
    (lines : List Dump.Line)
    : (plan.labels lines).Nodup
      ↔ ∀ name ∈ plan.databases, name ∈ Dump.databaseNames lines →
          ∀ table ∈ (Dump.extractOne plan.interval name lines).value.tables,
            ∀ definition ∈ table.definition,
              ForeignKey.NamedApart definition table.name := by
  have once (name : Text) := Dump.tablesOnce_extractOne plan.interval name lines
  have apart : (plan.databases.filter (Dump.databaseNames lines).contains).Pairwise
      (Function.onFun List.Disjoint fun name =>
        labelsOf (Dump.extractOne plan.interval name lines).value) := by
    refine (distinct.filter _).imp fun {first second} differ label inFirst inSecond => differ ?_
    rw [← Dump.extractOne_name plan.interval first lines,
      ← Dump.extractOne_name plan.interval second lines, ← label_of_mem_labelsOf inFirst,
      ← label_of_mem_labelsOf inSecond]
  rw [labels, List.nodup_flatMap, and_iff_left apart]
  simp only [labelsOf_nodup_iff (once _), List.mem_filter, List.contains_iff_mem, and_imp]

end Attachment

end DumpTransfer
