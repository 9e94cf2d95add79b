import DumpTransfer.Proofs.ForeignKey.Findings
import DumpTransfer.Proofs.Sql.CodeSearches
import DumpTransfer.Proofs.Text.Removal

/-! What the contents of literals have to do with the foreign keys of a table: nothing, as long as
no declaration that the searches find reaches into a literal. But the searches know of no literals.
-/

namespace DumpTransfer.ForeignKey

open Pattern Sql
open Segment (FindsInCode placeEmptied withEmptyLiterals)

-----------------------------------------------------------------------------------------
-- Keys from findings at other places
-----------------------------------------------------------------------------------------

variable {move : Nat → Nat} {withNames others : List Finding}

/-- A place that stays before all places after it. -/
def StaysBefore (move : Nat → Nat) (place : Nat) : Prop :=
  ∀ other, place < other → move place < move other

theorem StaysBefore.le_iff {place other : Nat} (stays : StaysBefore move other)
    (mono : ∀ {place other}, place ≤ other → move place ≤ move other)
    : place ≤ other ↔ move place ≤ move other :=
  ⟨mono, fun le => Nat.le_of_not_lt fun less => Nat.not_lt_of_le le (stays _ less)⟩

theorem StaysBefore.lt_iff {place other : Nat} (stays : StaysBefore move place)
    (mono : ∀ {place other}, place ≤ other → move place ≤ move other)
    : place < other ↔ move place < move other :=
  ⟨stays _, fun less => Nat.lt_of_not_le fun le => Nat.not_le_of_lt less (mono le)⟩

theorem covers_moved {place : Nat} (found : Finding) (stays : StaysBefore move place)
    (mono : ∀ {place other}, place ≤ other → move place ≤ move other)
    : covers (move place) (found.moved move) = covers place found := by
  rw [covers, covers, Finding.moved]
  simp only [stays.le_iff mono, stays.lt_iff mono]

theorem uncovered_moved
    (stays : ∀ found ∈ others, StaysBefore move found.start)
    (mono : ∀ {place other}, place ≤ other → move place ≤ move other)
    : uncovered (withNames.map (Finding.moved move)) (others.map (Finding.moved move))
      = (uncovered withNames others).map (Finding.moved move) := by
  rw [uncovered, uncovered, List.filter_map]
  refine congrArg _ (List.filter_congr fun found member => ?_)
  have covered (other : Finding) : covers (found.moved move).start (other.moved move)
      = covers found.start other := covers_moved other (stays found member) mono
  simp only [Function.comp_def, List.any_map, covered]

def movedEntry (move : Nat → Nat) (entry : Nat × ForeignKey) : Nat × ForeignKey :=
  (move entry.1, entry.2)

theorem inOrder_moved {entries : List (Nat × ForeignKey)}
    (stays : ∀ entry ∈ entries, StaysBefore move entry.1)
    (mono : ∀ {place other}, place ≤ other → move place ≤ move other)
    : inOrder (entries.map (movedEntry move)) = (inOrder entries).map (movedEntry move) := by
  refine (List.map_mergeSort fun left _ right isRight => ?_).symm
  exact decide_eq_decide.mpr ((stays right isRight).le_iff mono)

/-- The places of what is found matter for its order alone. -/
theorem ofFindings_moved (table : Text)
    (stays : ∀ found ∈ withNames ++ others, StaysBefore move found.start)
    (mono : ∀ {place other}, place ≤ other → move place ≤ move other)
    : ofFindings table (withNames.map (Finding.moved move)) (others.map (Finding.moved move))
      = ofFindings table withNames others := by
  have named : namedEntries table (withNames.map (Finding.moved move))
      = (namedEntries table withNames).map (movedEntry move) := by
    rw [namedEntries, namedEntries, List.filterMap_map, List.map_filterMap]
    refine List.filterMap_congr fun found _ => ?_
    rw [Option.map_map]
    rfl
  have numbered (found : List Finding)
      : ((found.map (Finding.moved move)).zipIdx 1).map (fun entry =>
            numberedEntry table entry.1 entry.2)
        = ((found.zipIdx 1).map fun entry => numberedEntry table entry.1 entry.2).map
            (movedEntry move) := by
    rw [List.zipIdx_map, List.map_map, List.map_map]
    rfl
  have staysNamed : ∀ entry ∈ namedEntries table withNames, StaysBefore move entry.1 := by
    intro entry member
    obtain ⟨found, isThere, same⟩ := List.mem_filterMap.mp member
    obtain ⟨name, -, rfl⟩ := Option.map_eq_some_iff.mp same
    exact stays found (List.mem_append_left _ isThere)
  have staysNumbered : ∀ entry ∈ ((uncovered withNames others).zipIdx 1).map (fun entry =>
      numberedEntry table entry.1 entry.2), StaysBefore move entry.1 := by
    intro entry member
    obtain ⟨numbered, isThere, rfl⟩ := List.mem_map.mp member
    have isOther := List.mem_of_mem_filter (List.fst_mem_of_mem_zipIdx isThere)
    exact stays _ (List.mem_append_right _ isOther)
  have staysAll := List.forall_mem_append.mpr ⟨staysNamed, staysNumbered⟩
  rw [ofFindings, ofFindings, named,
    uncovered_moved (fun found isThere => stays found (List.mem_append_right _ isThere)) mono,
    numbered, ← List.map_append, inOrder_moved staysAll mono, List.map_map]
  rfl

-----------------------------------------------------------------------------------------
-- The two searches
-----------------------------------------------------------------------------------------

theorem seesEdges_declaration : declaration.SeesEdges := by
  simp [declaration, nameList, SourceName.pattern, SourceName.quoted, oneOrMore, blanks, gap,
    Shape.referenceAction, Shape.action]

theorem seesEdges_named : named.SeesEdges := by
  simp [named, SourceName.pattern, SourceName.quoted, oneOrMore, gap, seesEdges_declaration]

theorem seesEdges_unnamed : unnamed.SeesEdges :=
  ⟨seesEdges_wordEdge, seesEdges_declaration⟩

/-- Every declaration has a parenthesis. -/
theorem needs_declaration : declaration.Needs (· = '(') := by
  have opens : (char '(').Needs (· = '(') := by
    rintro start reached ⟨found, rest, after, same, rfl⟩
    exact ⟨[found], Place.reads_past after, found, List.mem_singleton_self _, same⟩
  have list : (nameList "referenced").Needs (· = '(') := (opens.append_left _).append_left _
  exact (list.append_right _).append_left _

theorem filled_of_needs {pattern : Pattern} {isPart : Char → Bool} (needs : pattern.Needs isPart)
    : pattern.Filled := by
  intro place reached matched
  obtain ⟨text, reads, char, member, -⟩ := needs place reached matched
  have isThere := List.length_pos_of_mem member
  rw [reads.offset]
  omega

-----------------------------------------------------------------------------------------
-- Keys and literals
-----------------------------------------------------------------------------------------

/-- All declarations that the searches find in the definition of a table stand in code. -/
def DeclaresInCode (definition : Text) : Prop :=
  FindsInCode .backslash named definition ∧ FindsInCode .backslash unnamed definition

instance (definition : Text) : Decidable (DeclaresInCode definition) :=
  inferInstanceAs (Decidable (_ ∧ _))

/-- The foreign keys of a table do not depend on the contents of literals, nor do the names made for
them, if all that is found stands in code, both with these contents and without them.
-/
theorem ofDefinition_withEmptyLiterals {definition : Text} (table : Text)
    (inCode : DeclaresInCode definition)
    (emptyInCode : DeclaresInCode (withEmptyLiterals .backslash definition))
    : ofDefinition (withEmptyLiterals .backslash definition) table
      = ofDefinition definition table := by
  have filledNamed : named.Filled := filled_of_needs (needs_declaration.append_right _)
  have filledUnnamed : unnamed.Filled := filled_of_needs (needs_declaration.append_right _)
  have withNames := Segment.findings_withEmptyLiterals inCode.1 emptyInCode.1 filledNamed
    seesEdges_named
  have others := Segment.findings_withEmptyLiterals inCode.2 emptyInCode.2 filledUnnamed
    seesEdges_unnamed
  rw [ofDefinition_eq, ofDefinition_eq, withNames, others]
  refine ofFindings_moved table (fun found member => ?_) (Segment.placeEmptied_mono _)
  have stays {pattern : Pattern} (filled : pattern.Filled)
      (finds : FindsInCode .backslash pattern definition)
      (isThere : found ∈ (pattern.findAll definition).map Match.finding)
      : StaysBefore (placeEmptied .backslash (Segment.ofText .backslash definition))
          found.start := by
    have isFilled := filled.of_mem_findingsFrom rfl isThere
    intro other less
    exact Segment.placeEmptied_lt (finds found isThere found.start (Nat.le_refl _) isFilled.2) less
  rcases List.mem_append.mp member with isNamed | isOther
  · exact stays filledNamed inCode.1 isNamed
  · exact stays filledUnnamed inCode.2 isOther

/-- A definition whose comment mentions the words of declarations, without making one up. -/
def commented : Text :=
  "CREATE TABLE `t` (`a` int COMMENT 'no CONSTRAINT, see FOREIGN KEY', "
    ++ "FOREIGN KEY (`a`) REFERENCES `b` (`c`))"

/-- Witness: such a comment changes nothing. -/
theorem comment_changes_nothing
    : DeclaresInCode commented
      ∧ withEmptyLiterals .backslash commented
        = "CREATE TABLE `t` (`a` int COMMENT '', FOREIGN KEY (`a`) REFERENCES `b` (`c`))"
      ∧ ofDefinition (withEmptyLiterals .backslash commented) "t" = ofDefinition commented "t" := by
  have inCode : DeclaresInCode commented := by decide +kernel
  have emptyInCode : DeclaresInCode (withEmptyLiterals .backslash commented) := by decide +kernel
  exact ⟨inCode, by decide +kernel, ofDefinition_withEmptyLiterals "t" inCode emptyInCode⟩

/-- A definition whose comment says what was declared once. -/
def declaredInComment : Text :=
  "CREATE TABLE `t` (`a` int COMMENT 'was FOREIGN KEY (`a`) REFERENCES `old` (`c`)', "
    ++ "FOREIGN KEY (`a`) REFERENCES `b` (`c`))"

/-- A declaration in a comment makes a foreign key, and another one gets the next number. -/
theorem comment_declares_key
    : (ofDefinition declaredInComment "t").map (fun key => (key.name, key.referencedTable))
        = [(Text.ofString "fk_t_1", Text.ofString "old"),
          (Text.ofString "fk_t_2", Text.ofString "b")]
      ∧ (ofDefinition (withEmptyLiterals .backslash declaredInComment) "t").map
          (fun key => (key.name, key.referencedTable))
        = [(Text.ofString "fk_t_1", Text.ofString "b")]
      ∧ ofDefinition declaredInComment "t"
        ≠ ofDefinition (withEmptyLiterals .backslash declaredInComment) "t" := by
  have two : (ofDefinition declaredInComment "t").map (fun key => (key.name, key.referencedTable))
      = [(Text.ofString "fk_t_1", Text.ofString "old"),
        (Text.ofString "fk_t_2", Text.ofString "b")] := by
    rw [ofDefinition_eq, ofFindings, inOrder_eq (.refl _) (by decide +kernel)]
    decide +kernel
  have one : (ofDefinition (withEmptyLiterals .backslash declaredInComment) "t").map
      (fun key => (key.name, key.referencedTable))
      = [(Text.ofString "fk_t_1", Text.ofString "b")] := by
    decide +kernel
  refine ⟨two, one, fun same => ?_⟩
  rw [same, one] at two
  exact absurd (congrArg List.length two) (by decide)

end DumpTransfer.ForeignKey
