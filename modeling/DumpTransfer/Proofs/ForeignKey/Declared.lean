import DumpTransfer.Proofs.ForeignKey.Findings
import DumpTransfer.Proofs.ForeignKey.Layouts

/-! The foreign keys of a table are those that its definition declares, in the order of the
declarations. The ones without a name are numbered in this order.
-/

namespace DumpTransfer.ForeignKey

open Pattern

-----------------------------------------------------------------------------------------
-- Keys of declarations
-----------------------------------------------------------------------------------------

namespace Declaration

variable (given : Declaration)

/-- The foreign key that a declaration stands for under a name. -/
def keyAs (table name : Text) : ForeignKey :=
  { name := Identifier.stored name
    table
    columns := given.columns.map (·.name.value)
    referencedDatabase := given.target.database.map (·.1.value)
    referencedTable := given.target.table.value
    referencedColumns := given.referenced.map (·.name.value)
    onDelete := lastAction .delete given.clauses
    onUpdate := lastAction .update given.clauses }

/-- The notes of a declaration stand for its foreign key, whatever is noted before them. -/
theorem ofNotes_eq (table name : Text) {others : Notes} (none : others.lookup "database" = none)
    : ofNotes table name (given.notes ++ others) = given.keyAs table name := by
  have columns : textIn "columns" (given.notes ++ others) = columnsText given.columns := by
    rw [textIn, notes]
    cases given.target.database <;> rfl
  have referenced
      : textIn "referenced" (given.notes ++ others) = columnsText given.referenced := rfl
  have actions : textIn "actions" (given.notes ++ others) = clausesText given.clauses := rfl
  have table : nameIn "table" (given.notes ++ others) = some given.target.table.value :=
    congrArg some given.target.table.decode_written
  have database : nameIn "database" (given.notes ++ others)
      = given.target.database.map (·.1.value) := by
    rw [nameIn, notes]
    cases given.target.database with
    | none =>
        have nothing := congrArg (Option.map SourceName.decode) none
        cases given.index <;> exact nothing
    | some parts => exact congrArg some parts.1.decode_written
  rw [ofNotes, columns, referenced, actions, table, database, columnsOf_columnsText,
    columnsOf_columnsText, keyAs, ← actionFor_clausesText, ← actionFor_clausesText]
  rfl

theorem nameIn_notes (naming : Naming)
    : nameIn "name" (given.notes ++ [("name", naming.name.written)]) = some naming.name.value := by
  have decoded := congrArg some naming.name.decode_written
  rw [nameIn, notes]
  cases given.target.database <;> cases given.index <;> exact decoded

end Declaration

/-- The foreign keys of declarations in order. The ones without a name are numbered on. -/
def keysFrom (table : Text) : Nat → List Declaration → List ForeignKey
  | _, [] => []
  | number, given :: later =>
      match given.naming with
      | some naming => given.keyAs table naming.name.value :: keysFrom table number later
      | none => given.keyAs table (generatedName table number) :: keysFrom table (number + 1) later

-----------------------------------------------------------------------------------------
-- Declarations at their places
-----------------------------------------------------------------------------------------

namespace Layout

/-- The same, with the places where the searches find them. -/
def entriesFrom (table : Text) : Nat → List Spot → List (Nat × ForeignKey)
  | _, [] => []
  | number, spot :: later =>
      match spot.given.naming with
      | some naming =>
          (spot.start, spot.given.keyAs table naming.name.value) :: entriesFrom table number later
      | none =>
          (spot.start, spot.given.keyAs table (generatedName table number))
            :: entriesFrom table (number + 1) later

variable {table : Text}

theorem entriesFrom_keys (number : Nat) (layout : Layout) (offset : Nat)
    : (entriesFrom table number (layout.spots offset)).map (·.2)
      = keysFrom table number layout.declarations := by
  induction layout generalizing number offset with
  | rest text => rfl
  | item before given later ih =>
      rw [spots, entriesFrom, declarations, keysFrom]
      cases given.naming <;> simp [ih]

theorem entriesFrom_starts (number : Nat) (spots : List Spot)
    : (entriesFrom table number spots).map (·.1) = spots.map (·.start) := by
  induction spots generalizing number with
  | nil => rfl
  | cons spot later ih =>
      rw [entriesFrom]
      cases spot.given.naming <;> simp [ih]

theorem start_le_of_mem (layout : Layout) {offset : Nat} {spot : Spot}
    (isThere : spot ∈ layout.spots offset)
    : offset ≤ spot.start := by
  induction layout generalizing offset with
  | rest text => cases isThere
  | item before given later ih =>
      rcases List.mem_cons.mp isThere with rfl | more
      · exact Nat.le_add_right _ _
      · have atLeast := ih more
        omega

/-- Declarations come one after the other. -/
theorem spots_apart (layout : Layout) (offset : Nat)
    : (layout.spots offset).Pairwise fun left right => left.stop ≤ right.start := by
  induction layout generalizing offset with
  | rest text => exact .nil
  | item before given later ih =>
      exact .cons (fun _ isThere => later.start_le_of_mem isThere) (ih _)

theorem Spot.start_lt_stop (spot : Spot)
    : spot.start < spot.stop := by
  have isThere := List.length_pos_iff.mpr spot.given.text_ne_nil
  rw [Spot.stop]
  omega

/-- The words after the name of a declaration begin within it. -/
theorem Spot.finding_lt_stop (spot : Spot)
    : spot.finding.start < spot.stop := by
  have isThere := List.length_pos_iff.mpr spot.given.said_ne_nil
  simp only [Spot.finding, Spot.stop, Declaration.text, List.length_append]
  omega

theorem Spot.start_le_finding (spot : Spot)
    : spot.start ≤ spot.finding.start :=
  Nat.le_add_right _ _

theorem Spot.finding_of_nameless {spot : Spot} (none : spot.given.naming = none)
    : spot.finding = ⟨spot.start, spot.stop, spot.given.notes⟩ := by
  simp [Spot.finding, Declaration.heading, none]

/-- Two declarations of a definition: one comes before the other, or they are the same. -/
def Spot.Apart (spot other : Spot) : Prop :=
  spot = other ∨ spot.stop ≤ other.start ∨ other.stop ≤ spot.start

/-- A name is found before a declaration exactly if it has one. -/
theorem Spot.covers_iff {spot other : Spot} (apart : spot.Apart other)
    : other.namedFinding.any (covers spot.finding.start) = true
      ↔ spot = other ∧ spot.given.naming.isSome := by
  have after := spot.start_le_finding
  have before := spot.finding_lt_stop
  rw [Spot.namedFinding, Option.any_map]
  rcases apart with rfl | apart
  · cases spot.given.naming with
    | none => simp
    | some naming => simpa [Function.comp_def, covers] using ⟨after, before⟩
  · have differ : spot ≠ other := by
      rintro rfl
      have less := spot.start_lt_stop
      omega
    cases other.given.naming with
    | none => simp [differ]
    | some naming =>
        simp only [Option.any_some, covers, differ, false_and, iff_false,
          Bool.and_eq_true, decide_eq_true_eq]
        omega

/-- The search for declarations of either kind finds a name before exactly those that have one. -/
theorem uncovered_eq {spots : List Spot}
    (apart : spots.Pairwise fun left right => left.stop ≤ right.start)
    : uncovered (spots.filterMap Spot.namedFinding) (spots.map Spot.finding)
      = (spots.filter (·.given.naming.isNone)).map Spot.finding := by
  rw [uncovered, List.filter_map]
  congr 1
  refine List.filter_congr fun spot isThere => ?_
  have symm : Std.Symm Spot.Apart := ⟨fun _ _ either => either.imp Eq.symm Or.symm⟩
  have allApart : spots.Pairwise Spot.Apart := apart.imp fun le => .inr (.inl le)
  have either {other : Spot} (member : other ∈ spots) : spot.Apart other :=
    allApart.forall_of_forall (fun _ _ => .inl rfl) isThere member
  have covered : (spots.filterMap Spot.namedFinding).any (covers spot.finding.start)
      = spot.given.naming.isSome := by
    rw [Bool.eq_iff_iff, List.any_eq_true]
    constructor
    · rintro ⟨finding, found, isWithin⟩
      obtain ⟨other, member, noted⟩ := List.mem_filterMap.mp found
      have hit : other.namedFinding.any (covers spot.finding.start) = true := by
        rw [noted]
        exact isWithin
      exact ((Spot.covers_iff (either member)).mp hit).2
    · intro isNamed
      have hit := (Spot.covers_iff (.inl rfl)).mpr ⟨rfl, isNamed⟩
      obtain ⟨finding, noted, isWithin⟩ := (Option.any_eq_true _ _).mp hit
      exact ⟨finding, List.mem_filterMap.mpr ⟨spot, isThere, noted⟩, isWithin⟩
  rw [Function.comp_apply, covered]
  cases spot.given.naming <;> rfl

/-- The entries of declarations with names and those of the numbered others make up all entries. -/
theorem entries_perm (number : Nat) (spots : List Spot)
    : (namedEntries table (spots.filterMap Spot.namedFinding)
          ++ (((spots.filter (·.given.naming.isNone)).map Spot.finding).zipIdx number).map
            fun entry => numberedEntry table entry.1 entry.2).Perm
        (entriesFrom table number spots) := by
  induction spots generalizing number with
  | nil => exact .nil
  | cons spot later ih =>
      rw [entriesFrom]
      cases isNamed : spot.given.naming with
      | some naming =>
          have noted : spot.namedFinding = some ⟨spot.start, spot.stop,
              spot.given.notes ++ [("name", naming.name.written)]⟩ := by
            rw [Spot.namedFinding, isNamed, Option.map_some]
          rw [List.filterMap_cons, noted, List.filter_cons, if_neg (by simp [isNamed])]
          dsimp only
          rw [namedEntries, List.filterMap_cons]
          dsimp only
          rw [spot.given.nameIn_notes, Option.map_some, spot.given.ofNotes_eq _ _ rfl]
          exact (ih number).cons _
      | none =>
          have noted : spot.namedFinding = none := by
            rw [Spot.namedFinding, isNamed, Option.map_none]
          have nothing : ([] : Notes).lookup "database" = none := rfl
          have key := spot.given.ofNotes_eq table (generatedName table number) nothing
          rw [List.append_nil] at key
          rw [List.filterMap_cons, noted, List.filter_cons, if_pos (by simp [isNamed]),
            List.map_cons, List.zipIdx_cons, List.map_cons]
          dsimp only
          rw [numberedEntry, Spot.finding_of_nameless isNamed, key]
          exact List.perm_middle.trans ((ih (number + 1)).cons _)

end Layout

-----------------------------------------------------------------------------------------
-- Keys of definitions
-----------------------------------------------------------------------------------------

/-- The foreign keys of a table are those that its definition declares, in their order, whatever
stands between the declarations.
-/
theorem ofDefinition_text (layout : Layout) (sound : layout.Sound) (table : Text)
    : ofDefinition layout.text table = keysFrom table 1 layout.declarations := by
  have resumes : Layout.Resumes (Place.start layout.text) [] layout := .inl ⟨rfl, rfl⟩
  have enough : layout.declarations.length ≤ layout.text.length + 1 :=
    Nat.le_succ_of_le layout.length_declarations_le
  have withNames := layout.named_findings sound (Text.lacks_nil rfl) resumes rfl rfl enough
  have others := layout.unnamed_findings sound resumes rfl rfl enough
  have apart := layout.spots_apart 0
  have increasing : (Layout.entriesFrom table 1 (layout.spots 0)).Pairwise
      fun left right => left.1 < right.1 := by
    rw [← List.pairwise_map (f := Prod.fst) (R := (· < ·)), Layout.entriesFrom_starts,
      List.pairwise_map]
    exact apart.imp fun {left _} le => Nat.lt_of_lt_of_le left.start_lt_stop le
  rw [ofDefinition_eq, findAll, findAll, withNames, others]
  dsimp only [Place.start, List.length_nil, Nat.add_zero]
  rw [ofFindings, Layout.uncovered_eq apart, inOrder_eq (Layout.entries_perm 1 _) increasing,
    Layout.entriesFrom_keys]

/-- The words are not mentioned where their letters do not follow each other in either case. -/
theorem unmentioned_of_absent {text : Text}
    (none : ¬ "constraint".toList <:+: text.map Alphabet.foldCase
      ∧ ¬ "foreign".toList <:+: text.map Alphabet.foldCase)
    : Unmentioned text :=
  ⟨Text.lacks_of_absent none.1, Text.lacks_of_absent none.2⟩

namespace Shipments

open Conversion.Heading (Gap)
open Conversion.Insertion (spells_ofString)

theorem blank_space : Text.Blank (Text.ofString " ") := by
  intro char member
  obtain rfl : char = ' ' := by simpa [Text.ofString_eq] using member
  decide

def space : Gap :=
  ⟨" ", by decide +kernel, blank_space⟩

def oneSpace : Spaces :=
  ⟨" ", blank_space⟩

def noSpaces : Spaces :=
  ⟨[], Text.blank_nil⟩

/-- A name with back quotes, a parenthesis and a word of declarations. -/
def partner : BackQuoted :=
  ⟨"a) `REFERENCES` (b", by decide +kernel, unmentioned_of_absent (by decide +kernel)⟩

def region : ListedColumn where
  before := noSpaces
  name := ⟨"reg.ion (", by decide +kernel, unmentioned_of_absent (by decide +kernel)⟩
  after := noSpaces
  unsigned := by decide +kernel

def branch : ListedColumn where
  before := oneSpace
  name := ⟨"KEY\n`", by decide +kernel, unmentioned_of_absent (by decide +kernel)⟩
  after := noSpaces
  unsigned := by decide +kernel

def setNull : Clause where
  beforeOn := space
  on := ⟨"ON", spells_ofString rfl⟩
  beforeEvent := space
  event := .delete
  eventText := ⟨"DELETE", spells_ofString rfl⟩
  beforeAction := space
  words := ["SET", "NULL"]
  known := by decide
  action := "set  Null"
  spelled := by
    have isSet : Text.Spells "SET" ['s', 'e', 't'] := rfl
    have isGap : Text.IsGap [' ', ' '] := ⟨List.cons_ne_nil _ _, by simpa using by decide⟩
    have isNull : Text.Spells "NULL" ['N', 'u', 'l', 'l'] := rfl
    exact ⟨_, _, by decide +kernel, isSet, _, _, rfl, isGap, Text.inRow_singleton.mpr isNull⟩

/-- A declaration of the columns, with or without a name. -/
def reference (naming : Option Naming) (database : Option (BackQuoted × Spaces × Spaces))
    (clauses : List Clause) : Declaration where
  naming
  foreign := ⟨"FOREIGN", spells_ofString rfl⟩
  beforeKey := space
  key := ⟨"KEY", spells_ofString rfl⟩
  beforeIndex := oneSpace
  index := none
  columns := [region, branch]
  beforeReferences := oneSpace
  references := ⟨"REFERENCES", spells_ofString rfl⟩
  beforeTarget := space
  target := ⟨database, partner, oneSpace⟩
  referenced := [branch, region]
  clauses

def naming : Naming :=
  ⟨⟨"CONSTRAINT", spells_ofString rfl⟩, space, partner, space⟩

/-- A definition with two declarations, the first of them without a name. -/
def layout : Layout :=
  .item "CREATE TABLE `shipments` (`id` int, " (reference none (some (partner, noSpaces, noSpaces))
    []) (.item ", KEY `at` (`id`), " (reference (some naming) none [setNull]) (.rest ")"))

theorem sound : layout.Sound := by
  have ended (text : Text) (last : text.getLast? = some ' ')
      : Conversion.Definition.Ended text := by
    rw [Conversion.Definition.Ended, last]
    decide
  have closes (text : Text) (first : text.head? = some ',' ∨ text.head? = some ')')
      : Closes text := by
    cases text with
    | nil => rcases first with none | none <;> cases none
    | cons sign more =>
        exact ⟨[], sign, more, rfl, List.forall_mem_nil _,
          first.imp Option.some.inj Option.some.inj⟩
  refine ⟨unmentioned_of_absent (by decide +kernel), ended _ (by decide +kernel),
    closes _ (.inl (by decide +kernel)), unmentioned_of_absent (by decide +kernel),
    ended _ (by decide +kernel), closes _ (.inr (by decide +kernel)),
    unmentioned_of_absent (by decide +kernel)⟩

end Shipments

/-- Witness: odd names, a list of two columns, a database and an action, and the number of the
declaration without a name.
-/
theorem shipments_declare
    : Shipments.layout.Sound
      ∧ ofDefinition Shipments.layout.text "shipments"
        = [⟨"fk_shipments_1", "shipments", ["reg.ion (", "KEY\n`"], some "a) `REFERENCES` (b",
              "a) `REFERENCES` (b", ["KEY\n`", "reg.ion ("], none, none⟩,
            ⟨"a) `REFERENCES` (b", "shipments", ["reg.ion (", "KEY\n`"], none,
              "a) `REFERENCES` (b", ["KEY\n`", "reg.ion ("], some "SET NULL", none⟩] := by
  refine ⟨Shipments.sound, (ofDefinition_text _ Shipments.sound "shipments").trans ?_⟩
  decide +kernel

end DumpTransfer.ForeignKey
