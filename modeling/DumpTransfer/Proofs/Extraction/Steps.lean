import DumpTransfer.Dump.Scan
import DumpTransfer.Proofs.Repeats
import Mathlib.Data.List.Perm.Subperm

/-! What one line does to the machine that extracts databases, and what stays as it is over a
whole run: the databases visited are requested ones, each visited once, and what has been
collected of a database is never touched again.
-/

namespace DumpTransfer.Dump

-----------------------------------------------------------------------------------------
-- Contents keep the name of their database
-----------------------------------------------------------------------------------------

namespace Database

@[simp] theorem updateTable_name (content : Database) (table : Text) (change : Table → Table)
    : (content.updateTable table change).name = content.name :=
  rfl

@[simp] theorem recordDefinition_name (content : Database) (table text : Text)
    : (content.recordDefinition table text).name = content.name :=
  rfl

@[simp] theorem recordData_name (content : Database) (table text : Text)
    : (content.recordData table text).name = content.name :=
  rfl

@[simp] theorem withTable_name (content : Database) (table : Text)
    : (content.withTable table).name = content.name := by
  unfold withTable
  split <;> rfl

@[simp] theorem addOrphan_name (content : Database) (table : Text)
    : (content.addOrphan table).name = content.name := by
  unfold addOrphan
  split <;> rfl

@[simp] theorem close_name (content : Database) (pending : Pending)
    : (content.close pending).name = content.name := by
  cases pending <;> rfl

end Database

namespace Extraction

@[simp] theorem readData_name (content : Database) (table text line : Text) (inLiteral : Bool)
    : (readData content table text line inLiteral).1.name = content.name := by
  dsimp only [readData]
  split <;> simp

@[simp] theorem readMarker_name (content : Database) (line : Text)
    : (readMarker content line).1.name = content.name := by
  unfold readMarker
  cases Marker.ofLine line with
  | definition table => dsimp only; split <;> simp
  | rows table => dsimp only; split <;> simp
  | _ => simp

@[simp] theorem readLine_name (content : Database) (pending : Pending) (line : Text)
    : (readLine content pending line).1.name = content.name := by
  cases pending with
  | nothing => simp [readLine]
  | definition table text => dsimp only [readLine]; split <;> simp
  | data table text inLiteral => simp [readLine]

-----------------------------------------------------------------------------------------
-- A line is a boundary to follow or belongs to the database at hand
-----------------------------------------------------------------------------------------

/-- The database that a line makes current, which no line within a literal does. -/
def boundaryIn? (position : Position) (line : Text) : Option Text :=
  if position.inLiteral then none else boundary? line

/-- A boundary that is followed stands outside literals. -/
theorem boundaryIn?_eq_some {position : Position} {line named : Text}
    (boundary : boundaryIn? position line = some named)
    : position.inLiteral = false ∧ boundary? line = some named := by
  unfold boundaryIn? at boundary
  split at boundary
  · cases boundary
  · rename_i outside
    exact ⟨by simpa using outside, boundary⟩

/-- The position after a line that is no boundary. -/
def read (position : Position) (line : Text) : Position :=
  match position with
  | .inside content pending =>
      let next := readLine content pending line
      .inside next.1 next.2
  | other => other

theorem feed_of_none {state : Extraction} {line : Text}
    (plain : boundaryIn? state.position line = none)
    : state.feed line = (.more, { state with position := read state.position line }) := by
  unfold boundaryIn? at plain
  unfold feed
  rw [plain]
  obtain ⟨targets, finished, position⟩ := state
  cases position <;> rfl

theorem feed_of_some {state : Extraction} {line database : Text}
    (boundary : boundaryIn? state.position line = some database)
    : state.feed line = state.enter database := by
  unfold boundaryIn? at boundary
  unfold feed
  rw [boundary]

theorem enter_current {state : Extraction} {database : Text}
    (current : state.position.database = some database)
    : state.enter database = (.more, state) := by
  simp [enter, current]

/-- Another database is visited at once when the current one is not collected. -/
theorem enter_uncollected {state : Extraction} {database : Text}
    (other : state.position.database ≠ some database)
    (uncollected : ∀ content pending, state.position ≠ .inside content pending)
    : state.enter database = (.more, state.visit database) := by
  unfold enter
  rw [if_neg other]
  split
  · rename_i content pending inside
    exact absurd inside (uncollected content pending)
  · rfl

/-- The current database is left, and that may have been the last one to collect. -/
theorem enter_collected {state : Extraction} {content : Database} {pending : Pending}
    {database : Text} (inside : state.position = .inside content pending)
    (other : content.name ≠ database)
    : state.enter database
      = if state.leave.allFinished then (.done, state.leave)
        else (.more, state.leave.visit database) := by
  simp [enter, inside, Position.database, other]

/-- The database that is collected is not one that is named but not current. -/
theorem name_ne_of_other {position : Position} {content : Database} {pending : Pending}
    {database : Text} (inside : position = .inside content pending)
    (other : position.database ≠ some database)
    : content.name ≠ database :=
  fun same => other (by simp [inside, Position.database, same])

/-- What a line may do to the machine. -/
inductive Fed (state : Extraction) (line : Text) : Step × Extraction → Prop where
  /-- No boundary is followed, and the line belongs to the database at hand. -/
  | read (plain : boundaryIn? state.position line = none)
      : Fed state line (.more, { state with position := read state.position line })
  /-- The database at hand is named again. -/
  | stayed {database : Text} (boundary : boundaryIn? state.position line = some database)
      (current : state.position.database = some database)
      : Fed state line (.more, state)
  /-- Another database is visited, and none has to be left for it. -/
  | visited {database : Text} (boundary : boundaryIn? state.position line = some database)
      (other : state.position.database ≠ some database)
      (uncollected : ∀ content pending, state.position ≠ .inside content pending)
      : Fed state line (.more, state.visit database)
  /-- A database is left for another one. -/
  | left {database : Text} {content : Database} {pending : Pending}
      (boundary : boundaryIn? state.position line = some database)
      (inside : state.position = .inside content pending) (other : content.name ≠ database)
      (waiting : state.leave.allFinished = false)
      : Fed state line (.more, state.leave.visit database)
  /-- The last requested database is left. -/
  | done {database : Text} {content : Database} {pending : Pending}
      (boundary : boundaryIn? state.position line = some database)
      (inside : state.position = .inside content pending) (other : content.name ≠ database)
      (all : state.leave.allFinished = true)
      : Fed state line (.done, state.leave)

theorem fed_feed (state : Extraction) (line : Text) : Fed state line (state.feed line) := by
  cases boundary : boundaryIn? state.position line with
  | none =>
      rw [feed_of_none boundary]
      exact .read boundary
  | some database =>
      rw [feed_of_some boundary]
      by_cases current : state.position.database = some database
      · rw [enter_current current]
        exact .stayed boundary current
      · cases position : state.position with
        | nowhere | outside name =>
            have uncollected : ∀ content pending, state.position ≠ .inside content pending := by
              simp [position]
            rw [enter_uncollected current uncollected]
            exact .visited boundary current uncollected
        | inside content pending =>
            have other := name_ne_of_other position current
            rw [enter_collected position other]
            cases all : state.leave.allFinished with
            | true => exact .done boundary position other all
            | false => exact .left boundary position other all

@[simp] theorem visit_targets (state : Extraction) (database : Text)
    : (state.visit database).targets = state.targets := by
  unfold visit
  split <;> rfl

@[simp] theorem visit_finished (state : Extraction) (database : Text)
    : (state.visit database).finished = state.finished := by
  unfold visit
  split <;> rfl

@[simp] theorem leave_targets (state : Extraction)
    : state.leave.targets = state.targets :=
  rfl

@[simp] theorem leave_finished (state : Extraction)
    : state.leave.finished = state.closed :=
  rfl

theorem closed_of_inside {state : Extraction} {content : Database} {pending : Pending}
    (inside : state.position = .inside content pending)
    : state.closed = state.finished ++ [content.close pending] := by
  simp [closed, inside]

/-- Whatever is entered, the database that is left is kept as it has been collected. -/
theorem enter_collected_finished {state : Extraction} {content : Database} {pending : Pending}
    {database : Text} (inside : state.position = .inside content pending)
    (other : content.name ≠ database)
    : (state.enter database).2.finished = state.finished ++ [content.close pending] := by
  rw [enter_collected inside other]
  split <;> simp [closed_of_inside inside]

theorem closed_of_uncollected {state : Extraction}
    (uncollected : ∀ content pending, state.position ≠ .inside content pending)
    : state.closed = state.finished := by
  unfold closed
  split
  · rename_i content pending inside
    exact absurd inside (uncollected content pending)
  · rfl

/-- The databases left so far are among those collected. -/
theorem finished_prefix_closed (state : Extraction)
    : state.finished <+: state.closed := by
  unfold closed
  split
  · exact List.prefix_append _ _
  · exact List.prefix_refl _

/-- No line changes what has been requested. -/
@[simp] theorem feed_targets (state : Extraction) (line : Text)
    : (state.feed line).2.targets = state.targets := by
  have fed := fed_feed state line
  generalize state.feed line = outcome at fed ⊢
  cases fed <;> simp

-----------------------------------------------------------------------------------------
-- Each requested database is visited once
-----------------------------------------------------------------------------------------

/-- The databases that have been collected or are being collected, in the order of their
visits.
-/
def visited (state : Extraction) : List Text :=
  state.closed.map (·.name)

/-- The databases visited are requested ones, and none of them is visited twice. -/
structure Orderly (state : Extraction) : Prop where
  requestedOnce : state.targets.Nodup
  requested : state.visited ⊆ state.targets
  visitedOnce : state.visited.Nodup

/-- A database is found among those left by its name. -/
theorem isFinished_iff (state : Extraction) (database : Text)
    : state.isFinished database = true ↔ database ∈ state.finished.map (·.name) := by
  simp [isFinished]

/-- A database that is wanted and new is collected. -/
theorem visit_of_wanted {state : Extraction} {database : Text}
    (wanted : database ∈ state.targets) (fresh : state.isFinished database = false)
    : state.visit database
      = { state with position := .inside { name := database } .nothing } := by
  simp [visit, wanted, fresh]

/-- A database that is not wanted or has been left is passed over. -/
theorem visit_of_unwanted {state : Extraction} {database : Text}
    (unwanted : database ∉ state.targets ∨ state.isFinished database = true)
    : state.visit database = { state with position := .outside database } := by
  rcases unwanted with unwanted | old
  · simp [visit, unwanted]
  · simp [visit, old]

theorem visited_of_inside {state : Extraction} {content : Database} {pending : Pending}
    (inside : state.position = .inside content pending)
    : state.visited = state.finished.map (·.name) ++ [content.name] := by
  simp [visited, closed_of_inside inside]

theorem visited_of_uncollected {state : Extraction}
    (uncollected : ∀ content pending, state.position ≠ .inside content pending)
    : state.visited = state.finished.map (·.name) := by
  rw [visited, closed_of_uncollected uncollected]

theorem visited_read (state : Extraction) (line : Text)
    : ({ state with position := read state.position line } : Extraction).visited
      = state.visited := by
  obtain ⟨targets, finished, position⟩ := state
  cases position <;> simp [visited, closed, read]

/-- A visit of a database keeps order when all visits before it are over. -/
theorem Orderly.visit {state : Extraction} (orderly : state.Orderly)
    (allOver : state.visited = state.finished.map (·.name)) (database : Text)
    : (state.visit database).Orderly := by
  by_cases wanted : database ∈ state.targets ∧ state.isFinished database = false
  · obtain ⟨wanted, fresh⟩ := wanted
    have absent : database ∉ state.visited := by
      rw [allOver, ← isFinished_iff, fresh]
      exact Bool.false_ne_true
    have grown
        : (state.visit database).visited = state.visited ++ [database] := by
      rw [visit_of_wanted wanted fresh, allOver]
      simp [visited, closed]
    refine ⟨by simpa using orderly.requestedOnce, ?_, ?_⟩
    · rw [grown, visit_targets]
      exact List.append_subset.mpr ⟨orderly.requested, by simpa using wanted⟩
    · rw [grown, ← List.concat_eq_append]
      exact orderly.visitedOnce.concat absent
  · have unwanted : database ∉ state.targets ∨ state.isFinished database = true := by
      by_cases target : database ∈ state.targets
      · exact Or.inr (by simpa [target] using wanted)
      · exact Or.inl target
    have same : (state.visit database).visited = state.visited := by
      rw [visit_of_unwanted unwanted, allOver]
      exact visited_of_uncollected (by simp)
    exact ⟨by simpa using orderly.requestedOnce,
      by simpa [same] using orderly.requested, by simpa [same] using orderly.visitedOnce⟩

theorem Orderly.leave {state : Extraction} (orderly : state.Orderly)
    : state.leave.Orderly :=
  ⟨orderly.requestedOnce, orderly.requested, orderly.visitedOnce⟩

/-- One line keeps the order of visits. Witness: only the boundary of another database changes
the databases visited, and it adds at most the one that it names.
-/
theorem Orderly.feed {state : Extraction} (orderly : state.Orderly) (line : Text)
    : (state.feed line).2.Orderly := by
  have fed := fed_feed state line
  generalize state.feed line = outcome at fed ⊢
  cases fed with
  | read plain =>
      have same := visited_read state line
      exact ⟨orderly.requestedOnce, by rw [same]; exact orderly.requested,
        by rw [same]; exact orderly.visitedOnce⟩
  | stayed _ _ => exact orderly
  | visited _ _ uncollected => exact orderly.visit (visited_of_uncollected uncollected) _
  | left _ _ _ _ => exact orderly.leave.visit rfl _
  | done _ _ _ _ => exact orderly.leave

theorem visited_subset_visit (state : Extraction) (database : Text)
    : state.finished.map (·.name) ⊆ (state.visit database).visited := by
  have kept := (finished_prefix_closed (state.visit database)).map (·.name)
  rw [visit_finished] at kept
  exact kept.subset

/-- A database that has been visited stays among those visited. -/
theorem visited_subset_feed (state : Extraction) (line : Text)
    : state.visited ⊆ (state.feed line).2.visited := by
  have fed := fed_feed state line
  generalize state.feed line = outcome at fed ⊢
  cases fed with
  | read plain =>
      rw [visited_read]
      exact List.Subset.refl _
  | stayed _ _ => exact List.Subset.refl _
  | visited _ _ uncollected =>
      rw [visited_of_uncollected uncollected]
      exact visited_subset_visit state _
  | left _ _ _ _ => exact visited_subset_visit state.leave _
  | done _ _ _ _ => exact List.Subset.refl _

/-- A database that a visit adds is the one being visited, of which nothing is known yet. -/
theorem visit_new {state : Extraction} {database named : Text}
    (allOver : state.visited = state.finished.map (·.name)) (new : database ∉ state.visited)
    (entered : database ∈ (state.visit named).visited)
    : (state.visit named).position = .inside { name := database } .nothing := by
  by_cases wanted : named ∈ state.targets ∧ state.isFinished named = false
  · rw [visit_of_wanted wanted.1 wanted.2] at entered ⊢
    have last : database = named := by
      rw [allOver] at new
      simpa [visited, closed, new] using entered
    rw [last]
  · have unwanted : named ∉ state.targets ∨ state.isFinished named = true := by
      by_cases target : named ∈ state.targets
      · exact Or.inr (by simpa [target] using wanted)
      · exact Or.inl target
    rw [visit_of_unwanted unwanted, visited_of_uncollected (by simp), ← allOver] at entered
    exact absurd entered new

/-- A database that one line adds is the one being visited, of which nothing is known yet. -/
theorem feed_new {state : Extraction} {line database : Text} (new : database ∉ state.visited)
    (entered : database ∈ (state.feed line).2.visited)
    : (state.feed line).1 = .more
      ∧ (state.feed line).2.position = .inside { name := database } .nothing := by
  have fed := fed_feed state line
  generalize state.feed line = outcome at fed entered ⊢
  cases fed with
  | read plain =>
      rw [visited_read] at entered
      exact absurd entered new
  | stayed _ _ => exact absurd entered new
  | visited _ _ uncollected =>
      exact ⟨rfl, visit_new (visited_of_uncollected uncollected) new entered⟩
  | left _ _ _ _ =>
      have vacated : state.leave.visited = state.leave.finished.map (·.name) := rfl
      exact ⟨rfl, visit_new vacated new entered⟩
  | done _ _ _ _ => exact absurd entered new

theorem Orderly.start (names : List Text)
    : (start names).Orderly :=
  ⟨Repeats.nodup_eraseDups names, by simp [visited, closed, Extraction.start],
    by simp [visited, closed, Extraction.start]⟩

/-- When all requested databases have been left, each of them has. Witness: distinct requested
databases, as many as there are requests, are all of them.
-/
theorem Orderly.isFinished_of_allFinished {state : Extraction} (orderly : state.Orderly)
    (allOver : state.visited = state.finished.map (·.name))
    (all : state.allFinished = true) {database : Text} (target : database ∈ state.targets)
    : state.isFinished database = true := by
  have counted : state.visited.length = state.targets.length := by
    simpa [allOver, allFinished] using all
  have complete : state.visited.Perm state.targets :=
    (orderly.visitedOnce.subperm orderly.requested).perm_of_length_le (by omega)
  rw [isFinished_iff, ← allOver]
  exact complete.mem_iff.mpr target

-----------------------------------------------------------------------------------------
-- Runs over the lines of a dump
-----------------------------------------------------------------------------------------

/-- The machine after more lines, also after those with which it is done. -/
def further (state : Extraction) (lines : List Text) : Extraction :=
  lines.foldl (fun state line => (state.feed line).2) state

@[simp] theorem further_nil (state : Extraction) : state.further [] = state :=
  rfl

@[simp] theorem further_cons (state : Extraction) (line : Text) (rest : List Text)
    : state.further (line :: rest) = (state.feed line).2.further rest :=
  rfl

theorem further_append (state : Extraction) (lines more : List Text)
    : state.further (lines ++ more) = (state.further lines).further more :=
  List.foldl_append

/-- A line that the machine is given, the state that it finds, and the lines after it. -/
structure Encounter where
  state : Extraction
  line : Text
  later : List Text

/-- The lines that the machine is given until it is done. -/
def encounters : Extraction → List Line → List Encounter
  | _, [] => []
  | state, line :: rest =>
      ⟨state, line.text, rest.map (·.text)⟩ ::
        match state.feed line.text with
        | (.done, _) => []
        | (.more, next) => encounters next rest

theorem encounters_of_more {state next : Extraction} {line : Line} (rest : List Line)
    (fed : state.feed line.text = (.more, next))
    : encounters state (line :: rest)
      = ⟨state, line.text, rest.map (·.text)⟩ :: encounters next rest := by
  simp [encounters, fed]

theorem encounters_of_done {state final : Extraction} {line : Line} (rest : List Line)
    (fed : state.feed line.text = (.done, final))
    : encounters state (line :: rest) = [⟨state, line.text, rest.map (·.text)⟩] := by
  simp [encounters, fed]

/-- After the first line of a run there is the rest of it, unless the machine is done. -/
theorem encounters_cons (state : Extraction) (line : Line) (rest : List Line)
    : ∃ met,
        encounters state (line :: rest) = ⟨state, line.text, rest.map (·.text)⟩ :: met
        ∧ (met = [] ∨ met = encounters (state.feed line.text).2 rest) := by
  cases fed : state.feed line.text with
  | mk step next =>
      cases step with
      | more => exact ⟨_, encounters_of_more rest fed, Or.inr rfl⟩
      | done => exact ⟨_, encounters_of_done rest fed, Or.inl rfl⟩

theorem runExtraction_of_more {state next : Extraction} {line : Line} (rest : List Line)
    (fed : state.feed line.text = (.more, next))
    : (runExtraction state (line :: rest)).1 = (runExtraction next rest).1 := by
  simp [runExtraction, fed]

theorem runExtraction_of_done {state final : Extraction} {line : Line} (rest : List Line)
    (fed : state.feed line.text = (.done, final))
    : (runExtraction state (line :: rest)).1 = final := by
  simp [runExtraction, fed]

/-- One line leaves alone what has been collected of databases that have been left. -/
theorem finished_prefix_feed (state : Extraction) (line : Text)
    : state.finished <+: (state.feed line).2.finished := by
  have fed := fed_feed state line
  generalize state.feed line = outcome at fed ⊢
  cases fed with
  | read _ | stayed _ _ => exact List.prefix_refl _
  | visited _ _ _ => simp
  | left _ _ _ _ => simpa using finished_prefix_closed state
  | done _ _ _ _ => exact finished_prefix_closed state

/-- A run leaves alone what has been collected of databases that have been left, by induction
over its lines.
-/
theorem finished_prefix_run (state : Extraction) (lines : List Line)
    : state.finished <+: (runExtraction state lines).1.finish := by
  induction lines generalizing state with
  | nil => exact finished_prefix_closed state
  | cons line rest ih =>
      apply (finished_prefix_feed state line.text).trans
      cases fed : state.feed line.text with
      | mk step next =>
          cases step with
          | more =>
              rw [runExtraction_of_more rest fed]
              exact ih next
          | done =>
              rw [runExtraction_of_done rest fed]
              exact finished_prefix_closed next

/-- What has been left by the first line of a run is collected at its end. -/
theorem finished_feed_prefix_run (state : Extraction) (line : Line) (rest : List Line)
    : (state.feed line.text).2.finished <+: (runExtraction state (line :: rest)).1.finish := by
  cases fed : state.feed line.text with
  | mk step next =>
      cases step with
      | more =>
          rw [runExtraction_of_more rest fed]
          exact finished_prefix_run next rest
      | done =>
          rw [runExtraction_of_done rest fed]
          exact finished_prefix_closed next

/-- A database that has been visited is visited at the end of a run. -/
theorem visited_subset_run (state : Extraction) (lines : List Line)
    : state.visited ⊆ (runExtraction state lines).1.visited := by
  induction lines generalizing state with
  | nil => exact List.Subset.refl _
  | cons line rest ih =>
      apply List.Subset.trans (visited_subset_feed state line.text)
      cases fed : state.feed line.text with
      | mk step next =>
          cases step with
          | more =>
              rw [runExtraction_of_more rest fed]
              exact ih next
          | done =>
              rw [runExtraction_of_done rest fed]
              exact List.Subset.refl _

/-- So is a database that has been visited when a line is met. -/
theorem visited_subset_of_met {state : Extraction} {lines : List Line} {encounter : Encounter}
    (met : encounter ∈ encounters state lines)
    : encounter.state.visited ⊆ (runExtraction state lines).1.visited := by
  induction lines generalizing state with
  | nil => cases met
  | cons line rest ih =>
      cases fed : state.feed line.text with
      | mk step next =>
          cases step with
          | more =>
              rw [encounters_of_more rest fed] at met
              rcases List.mem_cons.mp met with rfl | later
              · exact visited_subset_run state (line :: rest)
              · rw [runExtraction_of_more rest fed]
                exact ih later
          | done =>
              rw [encounters_of_done rest fed] at met
              rw [List.mem_singleton.mp met]
              exact visited_subset_run state (line :: rest)

@[simp] theorem run_targets (state : Extraction) (lines : List Line)
    : (runExtraction state lines).1.targets = state.targets := by
  induction lines generalizing state with
  | nil => rfl
  | cons line rest ih =>
      have kept := feed_targets state line.text
      cases fed : state.feed line.text with
      | mk step next =>
          rw [fed] at kept
          cases step with
          | more =>
              rw [runExtraction_of_more rest fed, ih next]
              exact kept
          | done =>
              rw [runExtraction_of_done rest fed]
              exact kept

/-- The order of visits holds at the end of a run, by induction over its lines. -/
theorem Orderly.run {state : Extraction} (orderly : state.Orderly) (lines : List Line)
    : (runExtraction state lines).1.Orderly := by
  induction lines generalizing state with
  | nil => exact orderly
  | cons line rest ih =>
      have next := orderly.feed line.text
      cases fed : state.feed line.text with
      | mk step later =>
          rw [fed] at next
          cases step with
          | more =>
              rw [runExtraction_of_more rest fed]
              exact ih next
          | done =>
              rw [runExtraction_of_done rest fed]
              exact next

end Extraction

end DumpTransfer.Dump
