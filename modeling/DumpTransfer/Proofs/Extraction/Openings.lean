import DumpTransfer.Proofs.Extraction.LineEnds
import DumpTransfer.Proofs.Extraction.Steps

/-! A reading of the lines of a database that looks ahead, and the account of a content by it. A
statement with rows is its line and all lines up to the one that completes it, and it belongs to
its table if the table has been announced before.
-/

namespace DumpTransfer.Dump

-----------------------------------------------------------------------------------------
-- A reading of lines that looks ahead
-----------------------------------------------------------------------------------------

/-- Whether a text is a whole data statement: it ends outside literals and in a semicolon. -/
def isWholeData (text : Text) : Bool :=
  !endsInLiteral false text && endsStatement text

/-- A data statement of a database, given its text so far and the lines after it. It goes on up
to the first line with which it is whole, or to the boundary of another database outside a
literal, or to the end; boundaries of its own database outside a literal are left out.
-/
def statementFrom (database text : Text) : List Text → Text
  | [] => text
  | line :: later =>
      if isWholeData text then text
      else
        match (if endsInLiteral false text then none else boundary? line) with
        | some named => if named = database then statementFrom database text later else text
        | none => statementFrom database (text ++ '\n' :: line) later

/-- A line of a database that is read while no statement is open: what it announces, and the
statement that begins with it if it is one with rows.
-/
structure Opening where
  marker : Marker
  statement : Text

namespace Opening

/-- The table that the line announces, by dropping it or by defining it. -/
def announced? (opening : Opening) : Option Text :=
  match opening.marker with
  | .removal table | .definition table => some table
  | _ => none

/-- The table whose rows the line has. -/
def rows? (opening : Opening) : Option Text :=
  match opening.marker with
  | .rows table => some table
  | _ => none

end Opening

/-- The lines of a database that are read while no statement is open, in dump order. -/
def openings (database : Text) (met : List Extraction.Encounter) : List Opening :=
  met.filterMap fun encounter =>
    match encounter.state.position with
    | .inside content .nothing =>
        if content.name = database then
          some ⟨Marker.ofLine encounter.line,
            statementFrom database encounter.line encounter.later⟩
        else none
    | _ => none

/-- The tables announced, in the order of their first announcements. -/
def announced (openings : List Opening) : List Text :=
  (openings.filterMap Opening.announced?).eraseDups

/-- The statements with rows of a table since the table has been announced. -/
def statementsOf (table : Text) (openings : List Opening) : List Text :=
  (openings.dropWhile fun opening => opening.announced? ≠ some table).filterMap fun opening =>
    if opening.rows? = some table then some opening.statement else none

/-- The number of statements with rows of a table before the table has been announced. -/
def missesOf (table : Text) (openings : List Opening) : Nat :=
  (openings.takeWhile fun opening => opening.announced? ≠ some table).countP fun opening =>
    opening.rows? = some table

/-- The content of a database is what its openings amount to: the tables announced, each with
its statements in dump order, and a count of the statements of tables that were unknown.
-/
structure Database.Accounted (content : Database) (openings : List Opening) : Prop where
  tables : content.tables.map (·.name) = announced openings
  insertions : ∀ table ∈ content.tables, table.insertions = statementsOf table.name openings
  orphansOnce : (content.orphans.map (·.1)).Nodup
  orphans
    : ∀ table,
        content.orphans.lookup table
        = if missesOf table openings = 0 then none else some (missesOf table openings)

-----------------------------------------------------------------------------------------
-- One more opening
-----------------------------------------------------------------------------------------

theorem mem_announced_iff (table : Text) (openings : List Opening)
    : table ∈ announced openings ↔ ∃ opening ∈ openings, opening.announced? = some table := by
  simp [announced, List.mem_eraseDups, List.mem_filterMap]

theorem announced_concat_none {opening : Opening} (silent : opening.announced? = none)
    (openings : List Opening)
    : announced (openings ++ [opening]) = announced openings := by
  simp [announced, silent]

theorem announced_concat_some {opening : Opening} {table : Text}
    (said : opening.announced? = some table) (openings : List Opening)
    : announced (openings ++ [opening])
      = if table ∈ announced openings then announced openings
        else announced openings ++ [table] := by
  unfold announced
  rw [List.filterMap_append, List.filterMap_cons_some said, List.filterMap_nil,
    Repeats.eraseDups_concat]
  simp [List.mem_eraseDups]

/-- A line with rows announces no table. -/
theorem Opening.announced?_of_rows? {opening : Opening} {table : Text}
    (rows : opening.rows? = some table)
    : opening.announced? = none := by
  obtain ⟨marker, statement⟩ := opening
  cases marker <;> simp_all [rows?, announced?]

/-- Nothing is dropped from openings that announce a table up to the one that does. -/
theorem dropWhile_ne_nil_of_known {table : Text} {openings : List Opening}
    (known : table ∈ announced openings)
    : openings.dropWhile (fun opening => opening.announced? ≠ some table) ≠ [] := by
  obtain ⟨opening, member, said⟩ := (mem_announced_iff table openings).mp known
  rw [ne_eq, List.dropWhile_eq_nil_iff]
  intro all
  simpa [said] using all opening member

theorem silent_of_unknown {table : Text} {openings : List Opening}
    (unknown : table ∉ announced openings)
    : ∀ opening ∈ openings, decide (opening.announced? ≠ some table) = true := by
  intro opening member
  have other : opening.announced? ≠ some table := fun said =>
    unknown ((mem_announced_iff table openings).mpr ⟨opening, member, said⟩)
  simpa using other

/-- A known table gets the statement of one more line with its rows. -/
theorem statementsOf_concat_known {table : Text} {openings : List Opening}
    (known : table ∈ announced openings) (opening : Opening)
    : statementsOf table (openings ++ [opening])
      = statementsOf table openings
        ++ if opening.rows? = some table then [opening.statement] else [] := by
  have since := dropWhile_ne_nil_of_known known
  unfold statementsOf
  rw [List.dropWhile_append, if_neg (by simpa using since), List.filterMap_append]
  congr 1
  by_cases rows : opening.rows? = some table <;> simp [rows]

theorem statementsOf_unknown {table : Text} {openings : List Opening}
    (unknown : table ∉ announced openings)
    : statementsOf table openings = [] := by
  rw [statementsOf, List.dropWhile_eq_nil_iff.mpr (silent_of_unknown unknown),
    List.filterMap_nil]

/-- An unknown table gets no statement, not even by the line that announces it. -/
theorem statementsOf_concat_unknown {table : Text} {openings : List Opening}
    (unknown : table ∉ announced openings) (opening : Opening)
    : statementsOf table (openings ++ [opening]) = [] := by
  unfold statementsOf
  rw [List.dropWhile_append, List.dropWhile_eq_nil_iff.mpr (silent_of_unknown unknown)]
  by_cases said : opening.announced? = some table
  · have noRows : opening.rows? ≠ some table := fun rows => by
      simp [Opening.announced?_of_rows? rows] at said
    simp [said, noRows]
  · simp [said]

/-- No line is a miss of a known table. -/
theorem missesOf_concat_known {table : Text} {openings : List Opening}
    (known : table ∈ announced openings) (opening : Opening)
    : missesOf table (openings ++ [opening]) = missesOf table openings := by
  have since := List.length_pos_iff.mpr (dropWhile_ne_nil_of_known known)
  have parted := congrArg List.length (List.takeWhile_append_dropWhile
    (p := fun opening : Opening => opening.announced? ≠ some table) (l := openings))
  rw [List.length_append] at parted
  unfold missesOf
  rw [List.takeWhile_append, if_neg (by omega)]

/-- Every line with rows of an unknown table is a miss. -/
theorem missesOf_concat_unknown {table : Text} {openings : List Opening}
    (unknown : table ∉ announced openings) (opening : Opening)
    : missesOf table (openings ++ [opening])
      = missesOf table openings + if opening.rows? = some table then 1 else 0 := by
  have all := silent_of_unknown unknown
  unfold missesOf
  rw [List.takeWhile_append_of_pos all, List.countP_append,
    List.takeWhile_eq_self_iff.mpr all]
  congr 1
  by_cases rows : opening.rows? = some table
  · simp [rows, Opening.announced?_of_rows? rows]
  · by_cases said : opening.announced? = some table <;> simp [rows, said]

/-- Every line with rows of a table is either one of its statements or a miss. -/
theorem statementsOf_length_add_missesOf (table : Text) (openings : List Opening)
    : (statementsOf table openings).length + missesOf table openings
      = openings.countP fun opening => opening.rows? = some table := by
  have since (later : List Opening)
      : (later.filterMap fun opening =>
          if opening.rows? = some table then some opening.statement else none).length
        = later.countP fun opening => opening.rows? = some table := by
    induction later with
    | nil => rfl
    | cons opening rest ih =>
        by_cases rows : opening.rows? = some table <;> simp [rows, ih]
  have parted := congrArg (List.countP fun opening : Opening => opening.rows? = some table)
    (List.takeWhile_append_dropWhile
      (p := fun opening : Opening => opening.announced? ≠ some table) (l := openings))
  rw [List.countP_append] at parted
  rw [statementsOf, missesOf, since, Nat.add_comm]
  exact parted

-----------------------------------------------------------------------------------------
-- What one line does to an account
-----------------------------------------------------------------------------------------

namespace Database

theorem hasTable_iff (content : Database) (table : Text)
    : content.hasTable table = true ↔ table ∈ content.tables.map (·.name) := by
  simp [hasTable]

theorem updateTable_names (content : Database) (table : Text) {change : Table → Table}
    (keeps : ∀ entry, (change entry).name = entry.name)
    : (content.updateTable table change).tables.map (·.name)
      = content.tables.map (·.name) := by
  rw [updateTable, List.map_map]
  apply List.map_congr_left
  intro entry _
  by_cases this : entry.name = table <;> simp [this, keeps]

theorem hasOrphan_iff (content : Database) (table : Text)
    : content.orphans.any (·.1 = table) = true ↔ table ∈ content.orphans.map (·.1) := by
  simp

theorem lookup_eq_none_of_not_mem {table : Text} {orphans : List (Text × Nat)}
    (absent : table ∉ orphans.map (·.1))
    : orphans.lookup table = none := by
  rw [List.lookup_eq_none_iff]
  intro entry member
  have other : table ≠ entry.1 := fun same =>
    absent (List.mem_map.mpr ⟨entry, member, same.symm⟩)
  simpa using other

theorem lookup_count (table other : Text) (orphans : List (Text × Nat))
    : (orphans.map fun entry =>
        if entry.1 = table then (entry.1, entry.2 + 1) else entry).lookup other
      = (orphans.lookup other).map fun count => if other = table then count + 1 else count := by
  induction orphans with
  | nil => rfl
  | cons entry rest ih =>
      obtain ⟨name, count⟩ := entry
      rw [List.map_cons, List.lookup_cons]
      by_cases this : other = name
      · subst this
        by_cases counted : other = table <;> simp [counted]
      · have differs : (other == name) = false := beq_false_of_ne this
        by_cases counted : name = table
        · subst counted
          simpa [List.lookup_cons, differs] using ih
        · simpa [List.lookup_cons, differs, counted] using ih

/-- One more statement of an unknown table is counted for that table alone. -/
theorem addOrphan_lookup (content : Database) (table other : Text)
    : (content.addOrphan table).orphans.lookup other
      = if other = table then some ((content.orphans.lookup table).getD 0 + 1)
        else content.orphans.lookup other := by
  unfold addOrphan
  split
  · rename_i counted
    have known : content.orphans.lookup table ≠ none := by
      simpa [List.lookup_eq_none_iff] using counted
    obtain ⟨count, found⟩ := Option.ne_none_iff_exists'.mp known
    rw [lookup_count]
    by_cases this : other = table <;> simp [this, found]
  · rename_i fresh
    have absent := lookup_eq_none_of_not_mem fun member =>
      fresh ((hasOrphan_iff content table).mpr member)
    by_cases this : other = table
    · simp [this, List.lookup_append, absent]
    · have differs : (other == table) = false := beq_false_of_ne this
      simp [this, List.lookup_append, List.lookup_cons, differs]

theorem addOrphan_nodup {content : Database} (table : Text)
    (once : (content.orphans.map (·.1)).Nodup)
    : ((content.addOrphan table).orphans.map (·.1)).Nodup := by
  unfold addOrphan
  split
  · rw [List.map_map]
    have same : content.orphans.map ((·.1) ∘ fun entry =>
        if entry.1 = table then (entry.1, entry.2 + 1) else entry)
        = content.orphans.map (·.1) := by
      apply List.map_congr_left
      intro entry _
      by_cases this : entry.1 = table <;> simp [this]
    exact same ▸ once
  · rename_i fresh
    rw [List.map_append, List.map_singleton, ← List.concat_eq_append]
    exact once.concat fun member => fresh ((hasOrphan_iff content table).mpr member)

namespace Accounted

variable {content : Database} {openings : List Opening} {opening : Opening} {table : Text}

theorem hasTable_iff (accounted : content.Accounted openings) (table : Text)
    : content.hasTable table = true ↔ table ∈ announced openings := by
  rw [Database.hasTable_iff, accounted.tables]

/-- A line without rows of a table changes nothing that the table has. -/
theorem statementsOf_concat (openings : List Opening) (other : opening.rows? ≠ some table)
    : statementsOf table (openings ++ [opening]) = statementsOf table openings := by
  by_cases known : table ∈ announced openings
  · simp [statementsOf_concat_known known, other]
  · rw [statementsOf_concat_unknown known, statementsOf_unknown known]

theorem missesOf_concat (openings : List Opening) (other : opening.rows? ≠ some table)
    : missesOf table (openings ++ [opening]) = missesOf table openings := by
  by_cases known : table ∈ announced openings
  · exact missesOf_concat_known known opening
  · simp [missesOf_concat_unknown known, other]

/-- A line that neither announces a table nor has rows changes nothing. -/
theorem silent (accounted : content.Accounted openings) (silent : opening.announced? = none)
    (noRows : opening.rows? = none)
    : content.Accounted (openings ++ [opening]) := by
  have other (table : Text) : opening.rows? ≠ some table := by simp [noRows]
  refine ⟨?_, ?_, accounted.orphansOnce, ?_⟩
  · rw [accounted.tables, announced_concat_none silent]
  · intro table member
    rw [statementsOf_concat openings (other table.name)]
    exact accounted.insertions table member
  · intro table
    rw [missesOf_concat openings (other table)]
    exact accounted.orphans table

/-- A line that announces a table makes it known, with no statements if it is new. -/
theorem announce (accounted : content.Accounted openings)
    (said : opening.announced? = some table)
    : (content.withTable table).Accounted (openings ++ [opening]) := by
  have other (table : Text) : opening.rows? ≠ some table := fun rows => by
    simp [Opening.announced?_of_rows? rows] at said
  have kept : ∀ entry ∈ content.tables,
      entry.insertions = statementsOf entry.name (openings ++ [opening]) := by
    intro entry member
    rw [statementsOf_concat openings (other entry.name)]
    exact accounted.insertions entry member
  have orphans (table : Text) := (accounted.orphans table).trans
    (by rw [← missesOf_concat openings (other table)])
  by_cases known : table ∈ announced openings
  · rw [withTable, if_pos ((accounted.hasTable_iff table).mpr known)]
    refine ⟨?_, kept, accounted.orphansOnce, orphans⟩
    rw [accounted.tables, announced_concat_some said, if_pos known]
  · have new : ¬ content.hasTable table = true :=
      fun has => known ((accounted.hasTable_iff table).mp has)
    rw [withTable, if_neg new]
    refine ⟨?_, ?_, accounted.orphansOnce, orphans⟩
    · simp [accounted.tables, announced_concat_some said, known]
    · intro entry member
      rcases List.mem_append.mp member with earlier | last
      · exact kept entry earlier
      · rw [List.mem_singleton.mp last, statementsOf_concat_unknown known]

/-- Whatever is recorded of a definition, the account stays as it is. -/
theorem recordDefinition (accounted : content.Accounted openings) (table text : Text)
    : (content.recordDefinition table text).Accounted openings := by
  refine ⟨?_, ?_, accounted.orphansOnce, accounted.orphans⟩
  · rw [← accounted.tables]
    exact updateTable_names content table fun _ => rfl
  · intro entry member
    obtain ⟨before, earlier, rfl⟩ := List.mem_map.mp member
    by_cases this : before.name = table
    · simpa [this] using accounted.insertions before earlier
    · simpa [this] using accounted.insertions before earlier

/-- A statement of a known table is recorded as its last one. -/
theorem recordData (accounted : content.Accounted openings)
    (rows : opening.rows? = some table) (has : content.hasTable table = true)
    : (content.recordData table opening.statement).Accounted (openings ++ [opening]) := by
  have known := (accounted.hasTable_iff table).mp has
  refine ⟨?_, ?_, accounted.orphansOnce, ?_⟩
  · rw [announced_concat_none (Opening.announced?_of_rows? rows), ← accounted.tables]
    exact updateTable_names content table fun _ => rfl
  · intro entry member
    obtain ⟨before, earlier, rfl⟩ := List.mem_map.mp member
    have recorded := accounted.insertions before earlier
    by_cases this : before.name = table
    · subst this
      simp [statementsOf_concat_known known, rows, recorded]
    · have other : opening.rows? ≠ some before.name := by simp [rows, Ne.symm this]
      simpa [this, statementsOf_concat openings other] using recorded
  · intro other
    have same : missesOf other (openings ++ [opening]) = missesOf other openings := by
      by_cases this : other = table
      · exact missesOf_concat_known (this ▸ known) opening
      · exact missesOf_concat openings (by simp [rows, Ne.symm this])
    rw [same]
    exact accounted.orphans other

/-- A statement of an unknown table is counted. -/
theorem addOrphan (accounted : content.Accounted openings)
    (rows : opening.rows? = some table) (hasNot : ¬ content.hasTable table = true)
    : (content.addOrphan table).Accounted (openings ++ [opening]) := by
  have unknown : table ∉ announced openings := fun known =>
    hasNot ((accounted.hasTable_iff table).mpr known)
  have tables : (content.addOrphan table).tables = content.tables := by
    unfold Database.addOrphan
    split <;> rfl
  refine ⟨?_, ?_, addOrphan_nodup table accounted.orphansOnce, ?_⟩
  · rw [tables, accounted.tables, announced_concat_none (Opening.announced?_of_rows? rows)]
  · intro entry member
    rw [tables] at member
    have apart : entry.name ≠ table := by
      intro same
      exact hasNot ((Database.hasTable_iff content table).mpr
        (List.mem_map.mpr ⟨entry, member, same⟩))
    rw [statementsOf_concat openings (by simp [rows, Ne.symm apart])]
    exact accounted.insertions entry member
  · intro other
    rw [addOrphan_lookup]
    by_cases this : other = table
    · subst this
      have counted := accounted.orphans other
      rw [missesOf_concat_unknown unknown, if_pos rfl, if_pos rows, counted]
      by_cases none : missesOf other openings = 0 <;> simp [none]
    · rw [if_neg this, missesOf_concat openings (by simp [rows, Ne.symm this])]
      exact accounted.orphans other

end Accounted

end Database

end DumpTransfer.Dump
