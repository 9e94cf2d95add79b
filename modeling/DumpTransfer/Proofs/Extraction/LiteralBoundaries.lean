import DumpTransfer.Proofs.Extraction.Accounting

/-! Boundaries that stand inside literals. A line that begins inside a literal belongs to a value,
whatever it looks like. The machine knows that while it collects rows, and at no other time; the
passes that list databases never know it.
-/

namespace DumpTransfer.Dump

-----------------------------------------------------------------------------------------
-- A reading of a dump that keeps track of literals
-----------------------------------------------------------------------------------------

/-- What is open of a statement that has some text. -/
def unfinished (text : Text) : Option Text :=
  if isWholeData text then none else some text

/-- The statement with rows or a definition that is open after one more line. It ends with a
boundary that stands outside its literals.
-/
def openStatement (before : Option Text) (line : Text) : Option Text :=
  match before with
  | some text =>
      if !endsInLiteral false text && (boundary? line).isSome then none
      else unfinished (text ++ '\n' :: line)
  | none =>
      match Marker.ofLine line with
      | .rows _ | .definition _ => unfinished line
      | _ => none

/-- Whether the line after some others begins inside a literal of a statement. -/
def beginsInLiteral (before : List Text) : Bool :=
  (before.foldl openStatement none).any (endsInLiteral false)

-----------------------------------------------------------------------------------------
-- Passes that list databases
-----------------------------------------------------------------------------------------

@[simp] theorem Summary.addTable_names (summary : Summary)
    : summary.addTable.counts.map (·.1) = summary.counts.map (·.1) := by
  rw [addTable, List.map_map]
  refine List.map_congr_left fun entry _ => ?_
  dsimp only [Function.comp]
  split <;> rfl

theorem databaseNames_concat (lines : List Line) (line : Line)
    : databaseNames (lines ++ [line])
      = match boundary? line.text with
        | some name =>
            if name ∈ databaseNames lines then databaseNames lines
            else databaseNames lines ++ [name]
        | none => databaseNames lines := by
  unfold databaseNames
  rw [List.filterMap_append]
  cases found : boundary? line.text with
  | none => simp [found]
  | some name =>
      have last : [line].filterMap (fun line => boundary? line.text) = [name] := by simp [found]
      rw [last, Repeats.eraseDups_concat]
      simp [List.mem_eraseDups]

/-- Both passes list the same databases, by induction from the last line. -/
theorem tableCounts_names (lines : List Line)
    : (tableCounts lines).map (·.1) = databaseNames lines := by
  induction lines using List.reverseRecOn with
  | nil => rfl
  | append_singleton lines line ih =>
      rw [databaseNames_concat, ← ih]
      unfold tableCounts
      rw [List.foldl_append, List.foldl_cons, List.foldl_nil]
      generalize lines.foldl (fun summary line => summary.read line.text) ({} : Summary) = summary
      rw [Summary.read]
      cases marker : Marker.ofLine line.text with
      | boundary name =>
          rw [(ofLine_eq_boundary_iff line.text name).mp marker]
          have listed
              : summary.counts.any (·.1 = name) = decide (name ∈ summary.counts.map (·.1)) := by
            rw [Bool.eq_iff_iff]
            simp
          by_cases known : name ∈ summary.counts.map (·.1)
          · simp [Summary.enter, listed, known]
          · simp [Summary.enter, listed, known]
      | definition table => simp [boundary?_of_ofLine_ne, marker]
      | _ => simp [boundary?_of_ofLine_ne, marker]

-----------------------------------------------------------------------------------------
-- What the machine collects when a line comes
-----------------------------------------------------------------------------------------

/-- The text of a data statement after one more line. Boundaries of its own database are left out
of it unless they stand inside a literal.
-/
def extendData (database text line : Text) : Text :=
  if !endsInLiteral false text && boundary? line = some database then text
  else text ++ '\n' :: line

namespace Extraction

/-- The machine for some databases after lines with which it was not done. -/
inductive Reached (names : List Text) : List Text → Extraction → Prop where
  | start : Reached names [] (.start names)
  | line {before : List Text} {state next : Extraction} {line : Text}
      (reached : Reached names before state) (fed : state.feed line = (.more, next))
      : Reached names (before ++ [line]) next

/-- A data statement that is being collected: the lines since the one that it began with. -/
structure Collects (state : Extraction) (before : List Text) (content : Database)
    (table text : Text)
    : Prop where
  position
    : state.position = .inside content (.data table text (endsInLiteral false text))
  lines
    : ∃ earlier first later,
        before = earlier ++ first :: later
        ∧ Marker.ofLine first = .rows table
        ∧ text = later.foldl (extendData content.name) first

/-- A statement that goes on with a line has one line more. -/
theorem Collects.goesOn {state next : Extraction} {before : List Text} {content : Database}
    {table text : Text} (collects : state.Collects before content table text) {line : Text}
    {inLiteral : Bool}
    (position : next.position
      = .inside content (.data table (extendData content.name text line) inLiteral))
    (literal : inLiteral = endsInLiteral false (extendData content.name text line))
    : next.Collects (before ++ [line]) content table (extendData content.name text line) := by
  obtain ⟨earlier, first, later, rfl, rows, rfl⟩ := collects.lines
  refine ⟨literal ▸ position, earlier, first, later ++ [line], ?_, rows, ?_⟩
  · simp
  · rw [List.foldl_append]
    rfl

/-- Rows that are left open are those of the table at hand, with the text so far. -/
theorem readData_open {content collected : Database} {table other text whole line : Text}
    {literalBefore inLiteral : Bool}
    (read : readData content other whole line literalBefore
      = (collected, .data table text inLiteral))
    : collected = content ∧ table = other ∧ text = whole
      ∧ inLiteral = endsInLiteral literalBefore line := by
  dsimp only [readData] at read
  split at read
  · cases read
  · cases read
    exact ⟨rfl, rfl, rfl, rfl⟩

/-- Reading a line leaves a data statement open if the line begins one or goes on with one. -/
theorem readLine_open {content collected : Database} {pending : Pending} {line table text : Text}
    {inLiteral : Bool}
    (read : readLine content pending line = (collected, .data table text inLiteral))
    : (pending = .nothing ∧ Marker.ofLine line = .rows table ∧ text = line
        ∧ inLiteral = endsInLiteral false line)
      ∨ ∃ before literalBefore,
          pending = .data table before literalBefore ∧ collected = content
          ∧ text = before ++ '\n' :: line ∧ inLiteral = endsInLiteral literalBefore line := by
  cases pending with
  | nothing =>
      change readMarker content line = _ at read
      unfold readMarker at read
      cases marker : Marker.ofLine line with
      | removal other => simp [marker] at read
      | definition other =>
          simp only [marker] at read
          split at read <;> simp at read
      | rows other =>
          simp only [marker] at read
          split at read
          · obtain ⟨_, rfl, rfl, literal⟩ := readData_open read
            exact .inl ⟨rfl, rfl, rfl, literal⟩
          · simp at read
      | boundary name => simp [marker] at read
      | other => simp [marker] at read
  | definition other before =>
      dsimp only [readLine] at read
      split at read <;> simp at read
  | data other before literalBefore =>
      obtain ⟨same, rfl, rfl, literal⟩ := readData_open read
      exact .inr ⟨before, literalBefore, rfl, same, rfl, literal⟩

/-- A database that has just been entered has no statement open. -/
theorem visit_pending (state : Extraction) (database : Text)
    : (state.visit database).position.pending = .nothing := by
  unfold visit
  split <;> rfl

theorem visit_database (state : Extraction) (database : Text)
    : (state.visit database).position.database = some database := by
  unfold visit
  split <;> rfl

/-- With the boundary of another database no statement stays open. -/
theorem enter_other_pending {state : Extraction} {database : Text}
    (other : state.position.database ≠ some database)
    : (state.enter database).2.position.pending = .nothing := by
  cases position : state.position with
  | inside content pending =>
      have apart := name_ne_of_other position other
      rw [enter_collected position apart]
      split
      · rfl
      · exact visit_pending _ database
  | nowhere | outside name =>
      rw [enter_uncollected other (by simp [position])]
      exact visit_pending _ database

/-- The boundary of another database leads away from the one at hand. -/
theorem enter_other_database {state : Extraction} {database : Text}
    (other : state.position.database ≠ some database)
    : (state.enter database).2.position.database ≠ state.position.database := by
  cases position : state.position with
  | inside content pending =>
      have apart := name_ne_of_other position other
      rw [enter_collected position apart]
      split
      · exact (Option.some_ne_none _).symm
      · rw [visit_database]
        exact fun same => apart (Option.some.inj same).symm
  | nowhere | outside name =>
      rw [← position, enter_uncollected other (by simp [position]), visit_database]
      exact other.symm

/-- Rows are collected as the lines have them, by induction over the lines. -/
theorem Reached.collects {names before : List Text} {state : Extraction}
    (reached : Reached names before state) {content : Database} {table text : Text}
    {inLiteral : Bool} (position : state.position = .inside content (.data table text inLiteral))
    : inLiteral = endsInLiteral false text ∧ state.Collects before content table text := by
  induction reached generalizing content table text inLiteral with
  | start => cases position
  | @line before state next line reached fed ih =>
      cases boundary : boundaryIn? state.position line with
      | some database =>
          rw [feed_of_some boundary] at fed
          by_cases current : state.position.database = some database
          · -- The boundary is one of the database at hand, which is left out of the statement.
            rw [enter_current current] at fed
            cases fed
            obtain ⟨literal, collects⟩ := ih position
            obtain ⟨outside, found⟩ := boundaryIn?_eq_some boundary
            have kept : extendData content.name text line = text := by
              have own : content.name = database := by
                simpa [position, Position.database] using current
              have open? : endsInLiteral false text = false := by
                rw [position] at outside
                exact literal.symm.trans outside
              simp [extendData, open?, own, found]
            refine ⟨literal, ?_⟩
            have further
                : state.Collects (before ++ [line]) content table
                    (extendData content.name text line) :=
              collects.goesOn (by rw [kept]; exact position) (by rw [kept]; exact literal)
            rwa [kept] at further
          · have settled := enter_other_pending current
            rw [fed, position] at settled
            cases settled
      | none =>
          rw [feed_of_none boundary] at fed
          cases fed
          cases held : state.position with
          | nowhere | outside name => simp [held, read] at position
          | inside last pending =>
              rw [held] at position
              obtain ⟨same, opened⟩ := Position.inside.inj position
              rcases readLine_open (Prod.ext same opened) with
                ⟨rfl, rows, rfl, literal⟩ | ⟨text, literalBefore, rfl, rfl, rfl, literal⟩
              · refine ⟨literal, ?_, before, text, [], rfl, rows, rfl⟩
                rw [← literal]
                exact position
              · obtain ⟨rfl, collects⟩ := ih held
                -- No boundary was followed, so the line is none or stands inside a literal.
                have longer : extendData content.name text line = text ++ '\n' :: line := by
                  have plain : (if endsInLiteral false text then none else boundary? line)
                      = none := by
                    simpa [boundaryIn?, held, Position.inLiteral, Position.pending,
                      Pending.inLiteral] using boundary
                  cases inside : endsInLiteral false text with
                  | true => simp [extendData, inside]
                  | false =>
                      rw [inside] at plain
                      have none : boundary? line = none := plain
                      simp [extendData, inside, none]
                have ends := literal.trans (endsInLiteral_append_line false text line).symm
                refine ⟨ends, ?_⟩
                rw [← longer] at ends opened ⊢
                exact collects.goesOn (congrArg₂ Position.inside same opened) ends

/-- The machine passes over the boundary of another database if and only if it is collecting rows
and the text of them, which is made of the lines before the boundary, ends inside a literal. So a
boundary counts inside a definition, inside rows of a table that is not known, and outside the
databases to collect, and it counts for the passes that list databases, which agree on them.
Witness: note_in_literal.
-/
theorem boundary_passed_over_iff {names before : List Text} {state : Extraction}
    (reached : Reached names before state) {line named : Text}
    (boundary : boundary? line = some named) (other : state.position.database ≠ some named)
    : ((state.feed line).2.position.database = state.position.database
        ↔ ∃ content table text,
            state.Collects before content table text ∧ endsInLiteral false text = true)
      ∧ ∀ lines : List Line,
          (tableCounts lines).map (·.1) = databaseNames lines
          ∧ ∀ name,
              name ∈ databaseNames lines ↔ ∃ line ∈ lines, boundary? line.text = some name := by
  refine ⟨⟨fun stays => ?_, fun collecting => ?_⟩, fun lines => ⟨tableCounts_names lines, ?_⟩⟩
  · cases literal : state.position.inLiteral with
    | false =>
        have followed : boundaryIn? state.position line = some named := by
          simp [boundaryIn?, literal, boundary]
        rw [feed_of_some followed] at stays
        exact absurd stays (enter_other_database other)
    | true =>
        cases position : state.position with
        | nowhere | outside name =>
            rw [position] at literal
            cases literal
        | inside content pending =>
            cases pending with
            | nothing | definition table text =>
                rw [position] at literal
                cases literal
            | data table text inLiteral =>
                obtain ⟨same, collects⟩ := reached.collects position
                rw [position] at literal
                exact ⟨content, table, text, collects, same.symm.trans literal⟩
  · obtain ⟨content, table, text, collects, inside⟩ := collecting
    have literal : state.position.inLiteral = true := by
      rw [collects.position]
      exact inside
    have plain : boundaryIn? state.position line = none := by simp [boundaryIn?, literal]
    rw [feed_of_none plain, collects.position]
    simp [read, Position.database]
  · simp [databaseNames, List.mem_eraseDups]

end Extraction

-----------------------------------------------------------------------------------------
-- Literals with a boundary in them
-----------------------------------------------------------------------------------------

/-- A dump with a value of two lines, the second of which looks like a boundary. -/
def noteLines : List Text :=
  ["USE `a`;", "CREATE TABLE `t` (x text);", "INSERT INTO `t` VALUES ('one"]

/-- The machine for the one database after these lines. -/
def noteState : Extraction :=
  noteLines.foldl (fun state line => (state.feed line).2) (.start ["a"])

theorem note_in_literal
    : Extraction.Reached ["a"] noteLines noteState
      ∧ boundary? "USE `b`;" = some "b"
      ∧ noteState.position.database ≠ some "b"
      ∧ (noteState.feed "USE `b`;").2.position.database = noteState.position.database
      ∧ ∃ content table text,
          noteState.Collects noteLines content table text ∧ endsInLiteral false text = true := by
  have entered : Extraction.Reached ["a"] ["USE `a`;"] _ :=
    .line .start (Prod.ext (by decide +kernel) rfl)
  have defined : Extraction.Reached ["a"] ["USE `a`;", "CREATE TABLE `t` (x text);"] _ :=
    .line entered (Prod.ext (by decide +kernel) rfl)
  have reached : Extraction.Reached ["a"] noteLines noteState :=
    .line defined (Prod.ext (by decide +kernel) rfl)
  have boundary : boundary? "USE `b`;" = some "b" := by decide +kernel
  have other : noteState.position.database ≠ some "b" := by decide +kernel
  have stays : (noteState.feed "USE `b`;").2.position.database = noteState.position.database := by
    decide +kernel
  have passedOver := (Extraction.boundary_passed_over_iff reached boundary other).1
  exact ⟨reached, boundary, other, stays, passedOver.mp stays⟩

/-- A dump of one database, with a table whose comment is of two lines. -/
def commentLines : List Text :=
  ["USE `a`;", "CREATE TABLE `t` (", "  `x` int COMMENT 'one"]

/-- Literals do not always hide boundaries: the second line of a comment names a database, to
which the machine moves in the middle of a definition.
-/
theorem literals_hide_not_all_boundaries
    : (¬ ∀ (before : List Text) (line : Text),
          beginsInLiteral before = true →
          databaseNames ((before ++ [line]).map fun text => ⟨text, {}⟩)
            = databaseNames (before.map fun text => ⟨text, {}⟩))
      ∧ ¬ ∀ (names before : List Text) (state : Extraction) (line : Text),
          beginsInLiteral before = true →
          Extraction.Reached names before state →
          (state.feed line).2.position.database = state.position.database := by
  have inside : beginsInLiteral commentLines = true := by decide +kernel
  refine ⟨fun claimed => ?_, fun claimed => ?_⟩
  · exact absurd (claimed commentLines "USE `b`;" inside) (by decide +kernel)
  · have entered : Extraction.Reached ["a", "b"] ["USE `a`;"] _ :=
      .line .start (Prod.ext (by decide +kernel) rfl)
    have begun : Extraction.Reached ["a", "b"] ["USE `a`;", "CREATE TABLE `t` ("] _ :=
      .line entered (Prod.ext (by decide +kernel) rfl)
    have reached : Extraction.Reached ["a", "b"] commentLines _ :=
      .line begun (Prod.ext (by decide +kernel) rfl)
    exact absurd (claimed _ _ _ "USE `b`;" inside reached) (by decide +kernel)

end DumpTransfer.Dump
