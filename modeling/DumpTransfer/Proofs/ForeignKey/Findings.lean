import DumpTransfer.ForeignKey
import DumpTransfer.Proofs.Text.Noting
import Mathlib.Data.List.Sort

/-! The foreign keys of a table, from what the two searches find in its definition: where the
declarations are, and the texts that are noted there.
-/

namespace DumpTransfer.ForeignKey

open Pattern

-----------------------------------------------------------------------------------------
-- Keys from findings
-----------------------------------------------------------------------------------------

/-- The name noted under a label, if there is one. -/
def nameIn (label : String) (notes : Notes) : Option Text :=
  (notes.lookup label).map SourceName.decode

/-- The text noted under a label. -/
def textIn (label : String) (notes : Notes) : Text :=
  (notes.lookup label).getD []

/-- The foreign key that the notes of a declaration stand for. -/
def ofNotes (table name : Text) (notes : Notes) : ForeignKey :=
  { name := Identifier.stored name
    table
    columns := columnsOf (textIn "columns" notes)
    referencedDatabase := nameIn "database" notes
    referencedTable := (nameIn "table" notes).getD []
    referencedColumns := columnsOf (textIn "referenced" notes)
    onDelete := actionFor "DELETE" (textIn "actions" notes)
    onUpdate := actionFor "UPDATE" (textIn "actions" notes) }

/-- Whether a place lies within what is found. -/
def covers (offset : Nat) (found : Finding) : Bool :=
  found.start ≤ offset && offset < found.stop

def namedEntries (table : Text) (found : List Finding) : List (Nat × ForeignKey) :=
  found.filterMap fun finding =>
    (nameIn "name" finding.notes).map fun name => (finding.start, ofNotes table name finding.notes)

def numberedEntry (table : Text) (found : Finding) (number : Nat) : Nat × ForeignKey :=
  (found.start, ofNotes table (generatedName table number) found.notes)

/-- The findings that no declaration with a name covers. -/
def uncovered (withNames others : List Finding) : List Finding :=
  others.filter fun finding => !withNames.any (covers finding.start)

def inOrder (entries : List (Nat × ForeignKey)) : List (Nat × ForeignKey) :=
  entries.mergeSort fun left right => left.1 ≤ right.1

/-- The foreign keys that stand for what the two searches find. -/
def ofFindings (table : Text) (withNames others : List Finding) : List ForeignKey :=
  (inOrder (namedEntries table withNames ++ ((uncovered withNames others).zipIdx 1).map fun entry =>
    numberedEntry table entry.1 entry.2)).map (·.2)

theorem ofMatch_eq (table name : Text) (found : Match)
    : ofMatch table name found = ofNotes table name found.finding.notes := by
  simp only [ofMatch, ofNotes, nameIn, textIn, SourceName.at?, Place.group, Place.group?_eq,
    Match.finding]

/-- The keys of a definition depend only on what is found in it. -/
theorem ofDefinition_eq (definition table : Text)
    : ofDefinition definition table
      = ofFindings table ((named.findAll definition).map Match.finding)
          ((unnamed.findAll definition).map Match.finding) := by
  have withNames (found : List Match)
      : namedKeys table found = namedEntries table (found.map Match.finding) := by
    rw [namedKeys, namedEntries, List.filterMap_map]
    simp only [Function.comp_def, SourceName.at?, Place.group?_eq, ofMatch_eq]
    rfl
  have others (found : List Match)
      : unnamedKeys table found = ((found.map Match.finding).zipIdx 1).map fun entry =>
          numberedEntry table entry.1 entry.2 := by
    rw [unnamedKeys, List.zipIdx_map, List.map_map]
    simp only [ofMatch_eq]
    rfl
  have left (withNames others : List Match)
      : uncovered (withNames.map Match.finding) (others.map Match.finding)
        = (others.filter fun found => !withNames.any (isWithin found.start)).map Match.finding := by
    rw [uncovered, List.filter_map]
    simp only [Function.comp_def, List.any_map]
    rfl
  rw [ofFindings, left, ← withNames, ← others]
  rfl

-----------------------------------------------------------------------------------------
-- Order
-----------------------------------------------------------------------------------------

/-- Entries at different places come in the order of these places. -/
theorem inOrder_eq {entries ordered : List (Nat × ForeignKey)} (same : entries.Perm ordered)
    (increasing : ordered.Pairwise fun left right => left.1 < right.1)
    : inOrder entries = ordered := by
  have sorted : (inOrder entries).Pairwise fun left right => left.1 ≤ right.1 := by
    have ordering : (inOrder entries).Pairwise fun left right => decide (left.1 ≤ right.1) = true :=
      List.pairwise_mergeSort (by simpa using fun _ _ _ _ _ _ => Nat.le_trans)
        (by simpa using fun _ _ _ _ => Nat.le_total _ _) entries
    simpa using ordering
  have perm : (inOrder entries).Perm ordered := (List.mergeSort_perm entries _).trans same
  have apart : (ordered.map (·.1)).Nodup := by
    refine (List.pairwise_map.mpr increasing).imp ?_
    exact fun less => Nat.ne_of_lt less
  refine perm.eq_of_pairwise (fun left right isLeft isRight le ge => ?_) sorted
    (increasing.imp Nat.le_of_lt)
  exact List.inj_on_of_nodup_map apart (perm.mem_iff.mp isLeft) isRight (Nat.le_antisymm le ge)

end DumpTransfer.ForeignKey
