import DumpTransfer.Proofs.Extraction.Openings

/-! Every data statement of a dump is accounted for: whatever is requested and whatever the lines
are, the content collected of each database is what the openings of its visit amount to.
-/

namespace DumpTransfer.Dump

-----------------------------------------------------------------------------------------
-- Data statements and the lines that complete them
-----------------------------------------------------------------------------------------

/-- A statement that is whole takes no more lines. -/
theorem statementFrom_of_whole {text : Text} (whole : isWholeData text = true)
    (database : Text) (later : List Text)
    : statementFrom database text later = text := by
  cases later <;> simp [statementFrom, whole]

/-- With one more line a statement that was not whole is whole when that line ends outside
literals and in a semicolon. Witness: a line of white space changes neither.
-/
theorem isWholeData_append_line {text : Text} (open_ : isWholeData text = false) (line : Text)
    : isWholeData (text ++ '\n' :: line)
      = (!endsInLiteral (endsInLiteral false text) line && endsStatement line) := by
  unfold isWholeData
  rw [endsInLiteral_append_line]
  by_cases blank : ∀ char ∈ line, Alphabet.isBlank char = true
  · rw [endsInLiteral_blank _ blank, endsStatement_append_blank text blank,
      endsStatement_blank blank]
    simpa [isWholeData] using open_
  · have written : ∃ char ∈ line, Alphabet.isBlank char = false := by simpa using blank
    rw [endsStatement_append_line text written]

namespace Pending

/-- What holds of an open statement with rows: its table is known, and its text is not whole. -/
def Owes (content : Database) : Pending → Prop
  | .data table text inLiteral =>
      content.hasTable table = true
      ∧ inLiteral = endsInLiteral false text
      ∧ isWholeData text = false
  | _ => True

/-- The opening of the open statement, which is still to be recorded. -/
def owed (database : Text) (later : List Text) : Pending → List Opening
  | .data table text _ => [⟨.rows table, statementFrom database text later⟩]
  | _ => []

/-- The opening that a line is, unless a statement is open. -/
def opened (database line : Text) (later : List Text) : Pending → List Opening
  | .nothing => [⟨Marker.ofLine line, statementFrom database line later⟩]
  | _ => []

end Pending

/-- Beginning or extending a statement leaves it owed or records it. -/
theorem readData_accounted {content : Database} {past : List Opening}
    (accounted : content.Accounted past) {table text line : Text} {inLiteral : Bool}
    (has : content.hasTable table = true) (later : List Text)
    (literal : endsInLiteral inLiteral line = endsInLiteral false text)
    (whole : (!endsInLiteral inLiteral line && endsStatement line) = isWholeData text)
    : let next := Extraction.readData content table text line inLiteral
      ∃ now,
        next.1.Accounted now
        ∧ next.2.Owes next.1
        ∧ now ++ next.2.owed content.name later
          = past ++ [⟨.rows table, statementFrom content.name text later⟩] := by
  unfold Extraction.readData
  dsimp only
  rw [whole, literal]
  split
  · rename_i complete
    rw [statementFrom_of_whole complete]
    have rows : (⟨.rows table, text⟩ : Opening).rows? = some table := rfl
    have recorded := accounted.recordData rows has
    exact ⟨_, recorded, trivial, List.append_nil _⟩
  · rename_i incomplete
    exact ⟨past, accounted, ⟨has, rfl, by simpa using incomplete⟩, rfl⟩

/-- A line read while no statement is open adds its opening. -/
theorem readMarker_accounted {content : Database} {past : List Opening}
    (accounted : content.Accounted past) (line : Text) (later : List Text)
    : let next := Extraction.readMarker content line
      ∃ now,
        next.1.Accounted now
        ∧ next.2.Owes next.1
        ∧ now ++ next.2.owed content.name later
          = past ++ [⟨Marker.ofLine line, statementFrom content.name line later⟩] := by
  unfold Extraction.readMarker
  cases marker : Marker.ofLine line with
  | boundary database | other =>
      exact ⟨_, accounted.silent rfl rfl, trivial, List.append_nil _⟩
  | removal table =>
      exact ⟨_, accounted.announce rfl, trivial, List.append_nil _⟩
  | definition table =>
      have said
          : (⟨.definition table, statementFrom content.name line later⟩ : Opening).announced?
            = some table :=
        rfl
      have known := accounted.announce said
      dsimp only
      split
      · exact ⟨_, known.recordDefinition table line, trivial, List.append_nil _⟩
      · exact ⟨_, known, trivial, List.append_nil _⟩
  | rows table =>
      dsimp only
      split
      · rename_i has
        exact readData_accounted accounted has later rfl rfl
      · rename_i hasNot
        exact ⟨_, accounted.addOrphan rfl hasNot, trivial, List.append_nil _⟩

/-- A line that belongs to a database keeps its account up to the statement that is open.
Witness: one case for each kind of open statement.
-/
theorem readLine_accounted {content : Database} {past : List Opening}
    (accounted : content.Accounted past) {pending : Pending} (owes : pending.Owes content)
    {line : Text} (plain : Extraction.boundaryIn? (.inside content pending) line = none)
    (later : List Text)
    : let next := Extraction.readLine content pending line
      ∃ now,
        next.1.Accounted now
        ∧ next.2.Owes next.1
        ∧ now ++ next.2.owed content.name later
          = past ++ pending.owed content.name (line :: later)
            ++ pending.opened content.name line later := by
  cases pending with
  | nothing =>
      have owed : past ++ Pending.nothing.owed content.name (line :: later) = past :=
        List.append_nil past
      rw [owed]
      exact readMarker_accounted accounted line later
  | definition table text =>
      dsimp only [Extraction.readLine]
      split
      · exact ⟨past, accounted.recordDefinition _ _, trivial,
          by simp [Pending.owed, Pending.opened]⟩
      · exact ⟨past, accounted, trivial, by simp [Pending.owed, Pending.opened]⟩
  | data table text inLiteral =>
      obtain ⟨has, rfl, unfinished⟩ := owes
      have continued
          : statementFrom content.name text (line :: later)
            = statementFrom content.name (text ++ '\n' :: line) later := by
        have plain : (if endsInLiteral false text then none else boundary? line) = none := plain
        simp [statementFrom, unfinished, plain]
      simp only [Pending.owed, Pending.opened, List.append_nil, continued]
      exact readData_accounted accounted has later
        (endsInLiteral_append_line false text line).symm
        (isWholeData_append_line unfinished line).symm

/-- Where a boundary stands outside a literal, it announces nothing but itself. -/
theorem opened_of_boundary (pending : Pending) {line named : Text}
    (boundary : boundary? line = some named) (database : Text) (later : List Text)
    : ∀ opening ∈ pending.opened database line later,
        opening.announced? = none ∧ opening.rows? = none := by
  intro opening member
  have marker := (ofLine_eq_boundary_iff line named).mpr boundary
  cases pending with
  | nothing =>
      rw [List.mem_singleton.mp member, marker]
      exact ⟨rfl, rfl⟩
  | definition table text => cases member
  | data table text inLiteral => cases member

/-- A silent opening, or none, leaves the account as it is. -/
theorem Database.Accounted.opened {content : Database} {past : List Opening}
    (accounted : content.Accounted past) {pending : Pending} {line database : Text}
    {later : List Text}
    (silent : ∀ opening ∈ pending.opened database line later,
      opening.announced? = none ∧ opening.rows? = none)
    : content.Accounted (past ++ pending.opened database line later) := by
  cases pending with
  | nothing =>
      have first := silent _ (List.mem_singleton.mpr rfl)
      exact accounted.silent first.1 first.2
  | definition table text => simpa [Pending.opened] using accounted
  | data table text inLiteral => simpa [Pending.opened] using accounted

/-- A statement that is open when its database is left, or when the lines end, is recorded with
its text so far.
-/
theorem close_accounted {content : Database} {past : List Opening}
    (accounted : content.Accounted past) {pending : Pending} (owes : pending.Owes content)
    {later : List Text}
    (final : ∀ table text inLiteral, pending = .data table text inLiteral →
      statementFrom content.name text later = text)
    : (content.close pending).Accounted (past ++ pending.owed content.name later) := by
  cases pending with
  | nothing => simpa [Pending.owed, Database.close] using accounted
  | definition table text => simpa [Pending.owed, Database.close] using accounted
  | data table text inLiteral =>
      rw [Pending.owed, final table text inLiteral rfl]
      have rows : (⟨.rows table, text⟩ : Opening).rows? = some table := rfl
      exact accounted.recordData rows owes.1

/-- Only one of the two is there, so they may change places. -/
theorem opened_append_owed (pending : Pending) (database line : Text) (lines later : List Text)
    : pending.opened database line later ++ pending.owed database lines
      = pending.owed database lines ++ pending.opened database line later := by
  cases pending <;> simp [Pending.opened, Pending.owed]

/-- A boundary of its own database is left out of a statement. -/
theorem owed_of_own_boundary {content : Database} {pending : Pending}
    (owes : pending.Owes content) {line : Text}
    (boundary : Extraction.boundaryIn? (.inside content pending) line = some content.name)
    (later : List Text)
    : pending.owed content.name (line :: later) = pending.owed content.name later := by
  obtain ⟨outside, found⟩ := Extraction.boundaryIn?_eq_some boundary
  cases pending with
  | nothing => rfl
  | definition table text => rfl
  | data table text inLiteral =>
      obtain ⟨_, rfl, unfinished⟩ := owes
      have plain : endsInLiteral false text = false := outside
      simp [Pending.owed, statementFrom, unfinished, plain, found]

/-- A boundary of another database ends a statement. -/
theorem statementFrom_of_other_boundary {content : Database} {line named : Text}
    {table text : Text} {inLiteral : Bool}
    (owes : (Pending.data table text inLiteral).Owes content)
    (boundary : Extraction.boundaryIn? (.inside content (.data table text inLiteral)) line
      = some named)
    (other : content.name ≠ named) (later : List Text)
    : statementFrom content.name text (line :: later) = text := by
  obtain ⟨outside, found⟩ := Extraction.boundaryIn?_eq_some boundary
  obtain ⟨_, rfl, unfinished⟩ := owes
  have plain : endsInLiteral false text = false := outside
  simp [statementFrom, unfinished, plain, found, other.symm]

-----------------------------------------------------------------------------------------
-- The visit of a database
-----------------------------------------------------------------------------------------

namespace Extraction

theorem openings_cons (database : Text) (met : Encounter) (rest : List Encounter)
    {content : Database} {pending : Pending}
    (inside : met.state.position = .inside content pending) (named : content.name = database)
    : openings database (met :: rest)
      = pending.opened database met.line met.later ++ openings database rest := by
  subst named
  cases pending <;> simp [openings, inside, Pending.opened]

theorem openings_cons_other (database : Text) (met : Encounter) (rest : List Encounter)
    (outside : ∀ content pending, met.state.position = .inside content pending →
      content.name ≠ database)
    : openings database (met :: rest) = openings database rest := by
  obtain ⟨state, line, later⟩ := met
  cases position : state.position with
  | nowhere => simp [openings, position]
  | outside other => simp [openings, position]
  | inside content pending =>
      have other := outside content pending position
      cases pending <;> simp [openings, position, other]

theorem isFinished_feed {state : Extraction} {database : Text}
    (gone : state.isFinished database = true) (line : Text)
    : (state.feed line).2.isFinished database = true := by
  rw [isFinished_iff] at gone ⊢
  exact ((finished_prefix_feed state line).map (·.name)).subset gone

/-- A database that has been left has no more openings, by induction over the lines. -/
theorem Orderly.openings_of_finished {state : Extraction} (orderly : state.Orderly)
    {database : Text} (gone : state.isFinished database = true) (lines : List Line)
    : openings database (encounters state lines) = [] := by
  induction lines generalizing state with
  | nil => rfl
  | cons line rest ih =>
      have outside
          : ∀ content pending, state.position = .inside content pending →
              content.name ≠ database := by
        intro content pending inside same
        have once := orderly.visitedOnce
        rw [visited_of_inside inside, same] at once
        exact (List.nodup_append.mp once).2.2 database ((isFinished_iff _ _).mp gone)
          database (by simp) rfl
      obtain ⟨met, split, none | more⟩ := encounters_cons state line rest
      · rw [split, openings_cons_other _ _ _ outside, none]
        rfl
      · rw [split, openings_cons_other _ _ _ outside, more]
        exact ih (orderly.feed line.text) (isFinished_feed gone line.text)

/-- What is collected of a database is what the openings of the rest of its visit amount to, with
those before and the statement that is open.
Witness: induction over the lines. A line of the database keeps the account, a boundary of the
database itself is passed over, and any other boundary ends the visit.
-/
theorem Orderly.visit_accounted {state : Extraction} (orderly : state.Orderly)
    {content : Database} {pending : Pending} (inside : state.position = .inside content pending)
    {past : List Opening} (accounted : content.Accounted past) (owes : pending.Owes content)
    (lines : List Line)
    : ∃ final ∈ (runExtraction state lines).1.finish,
        final.name = content.name
        ∧ final.Accounted
            (past ++ pending.owed content.name (lines.map (·.text))
              ++ openings content.name (encounters state lines)) := by
  induction lines generalizing state content pending past with
  | nil =>
      refine ⟨content.close pending, ?_, Database.close_name content pending, ?_⟩
      · simp [runExtraction, finish, closed_of_inside inside]
      · simpa [encounters, openings] using close_accounted accounted owes (fun _ _ _ _ => rfl)
  | cons line rest ih =>
      have orderlyNext := orderly.feed line.text
      have first (met : List Encounter)
          : openings content.name (⟨state, line.text, rest.map (·.text)⟩ :: met)
            = pending.opened content.name line.text (rest.map (·.text))
              ++ openings content.name met :=
        openings_cons content.name _ met inside rfl
      cases boundary : boundaryIn? (.inside content pending) line.text with
      | none =>
          have fed := feed_of_none (inside ▸ boundary)
          rw [fed] at orderlyNext
          obtain ⟨now, nowAccounted, nowOwes, same⟩ :=
            readLine_accounted accounted owes boundary (rest.map (·.text))
          have named := readLine_name content pending line.text
          have position : read state.position line.text = .inside
              (readLine content pending line.text).1
              (readLine content pending line.text).2 := by
            rw [inside]
            rfl
          obtain ⟨final, member, finalNamed, finalAccounted⟩ :=
            ih orderlyNext position nowAccounted nowOwes
          rw [named] at finalNamed finalAccounted
          rw [runExtraction_of_more rest fed, encounters_of_more rest fed, first]
          refine ⟨final, member, finalNamed, ?_⟩
          rw [same] at finalAccounted
          simpa only [List.map_cons, List.append_assoc] using finalAccounted
      | some named =>
          have entered := feed_of_some (inside ▸ boundary)
          have silent := opened_of_boundary pending
            (Extraction.boundaryIn?_eq_some boundary).2 content.name (rest.map (·.text))
          by_cases own : content.name = named
          · subst own
            have fed : state.feed line.text = (.more, state) :=
              entered.trans (enter_current (by simp [inside, Position.database]))
            obtain ⟨final, member, finalNamed, finalAccounted⟩ :=
              ih orderly inside (accounted.opened silent) owes
            rw [runExtraction_of_more rest fed, encounters_of_more rest fed, first]
            refine ⟨final, member, finalNamed, ?_⟩
            rw [List.append_assoc past, opened_append_owed] at finalAccounted
            rw [List.map_cons, owed_of_own_boundary owes boundary]
            simpa only [List.append_assoc] using finalAccounted
          · have left : content.close pending ∈ (state.feed line.text).2.finished := by
              rw [entered, enter_collected_finished inside own]
              simp
            have gone : (state.feed line.text).2.isFinished content.name = true := by
              rw [isFinished_iff]
              exact List.mem_map.mpr ⟨_, left, Database.close_name content pending⟩
            have noMore
                : openings content.name (encounters state (line :: rest))
                  = pending.opened content.name line.text (rest.map (·.text)) := by
              obtain ⟨met, split, none | more⟩ := encounters_cons state line rest
              · rw [split, first, none]
                exact List.append_nil _
              · rw [split, first, more, orderlyNext.openings_of_finished gone rest]
                exact List.append_nil _
            refine ⟨content.close pending,
              (finished_feed_prefix_run state line rest).subset left,
              Database.close_name content pending, ?_⟩
            rw [noMore]
            refine (close_accounted accounted owes ?_).opened silent
            intro table text inLiteral this
            subst this
            exact statementFrom_of_other_boundary owes boundary own _

theorem accounted_empty (database : Text)
    : ({ name := database } : Database).Accounted [] :=
  ⟨rfl, by simp, by simp, by simp [missesOf]⟩

/-- Of a database that has not been visited, a run collects what its openings amount to.
Witness: induction over the lines up to the one that begins its only visit.
-/
theorem Orderly.run_accounted {state : Extraction} (orderly : state.Orderly) {database : Text}
    (new : database ∉ state.visited) (lines : List Line)
    : ∀ final ∈ (runExtraction state lines).1.finish,
        final.name = database
        → final.Accounted (openings database (encounters state lines)) := by
  induction lines generalizing state with
  | nil =>
      intro final member named
      exact absurd (List.mem_map.mpr ⟨final, member, named⟩) new
  | cons line rest ih =>
      intro final member named
      have outside
          : ∀ content pending, state.position = .inside content pending →
              content.name ≠ database := by
        intro content pending inside same
        exact new (by rw [visited_of_inside inside]; simp [same])
      have orderlyNext := orderly.feed line.text
      by_cases entered : database ∈ (state.feed line.text).2.visited
      · obtain ⟨goesOn, inside⟩ := feed_new new entered
        have fed : state.feed line.text = (.more, (state.feed line.text).2) :=
          Prod.ext goesOn rfl
        obtain ⟨other, otherMember, otherNamed, accounted⟩ :=
          orderlyNext.visit_accounted inside (accounted_empty database) trivial rest
        rw [runExtraction_of_more rest fed] at member
        have once := (orderlyNext.run rest).visitedOnce
        have same : final = other :=
          List.inj_on_of_nodup_map once member otherMember (named.trans otherNamed.symm)
        rw [encounters_of_more rest fed, openings_cons_other _ _ _ outside, same]
        simpa [Pending.owed] using accounted
      · cases fed : state.feed line.text with
        | mk step next =>
            rw [fed] at entered orderlyNext
            cases step with
            | more =>
                rw [runExtraction_of_more rest fed] at member
                rw [encounters_of_more rest fed, openings_cons_other _ _ _ outside]
                exact ih orderlyNext entered final member named
            | done =>
                rw [runExtraction_of_done rest fed] at member
                exact absurd (List.mem_map.mpr ⟨final, member, named⟩) entered

end Extraction

/-- No data statement is lost, repeated, reordered, changed or filed elsewhere, whatever is
requested and whatever the lines are. Each database collected is a requested one, collected once,
and holds what its openings amount to; each line with rows of a table is among the statements of
that table or is counted as one of an unknown table; and no database is lost of which a line has
been read.
-/
theorem extraction_accounted (names : List Text) (lines : List Line)
    : let collected := (runExtraction (.start names) lines).1.finish
      let met := Extraction.encounters (.start names) lines
      (collected.map (·.name)).Nodup
      ∧ (∀ content ∈ collected,
          content.name ∈ names
          ∧ content.Accounted (openings content.name met)
          ∧ ∀ table,
              (statementsOf table (openings content.name met)).length
                + missesOf table (openings content.name met)
              = (openings content.name met).countP fun opening => opening.rows? = some table)
      ∧ ∀ encounter ∈ met,
          ∀ content pending,
            encounter.state.position = .inside content pending
            → content.name ∈ collected.map (·.name) := by
  have orderly := Extraction.Orderly.start names
  have final := orderly.run lines
  refine ⟨final.visitedOnce, ?_, ?_⟩
  · intro content member
    have requested := final.requested (List.mem_map_of_mem member)
    rw [Extraction.run_targets] at requested
    have accounted := orderly.run_accounted (List.not_mem_nil) lines content member rfl
    exact ⟨List.mem_eraseDups.mp requested, accounted,
      fun table => statementsOf_length_add_missesOf table _⟩
  · intro encounter met content pending inside
    apply Extraction.visited_subset_of_met met
    rw [Extraction.visited_of_inside inside]
    simp

end DumpTransfer.Dump
