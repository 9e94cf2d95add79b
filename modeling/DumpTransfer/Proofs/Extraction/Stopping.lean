import DumpTransfer.Proofs.Extraction.Lockstep

/-! The machine may be left as soon as it is done. Then every requested database has been entered
and left, none of them is entered again, and no further line changes what has been collected.
-/

namespace DumpTransfer.Dump

namespace Extraction

-----------------------------------------------------------------------------------------
-- Nothing is left to do
-----------------------------------------------------------------------------------------

/-- Every requested database has been left, and none is being collected. -/
structure Over (state : Extraction) : Prop where
  orderly : state.Orderly
  away : ∀ content pending, state.position ≠ .inside content pending
  all : state.allFinished = true

namespace Over

variable {state : Extraction}

/-- A database is passed over, whether it has been left or was never requested. -/
theorem visit_eq (isOver : state.Over) (database : Text)
    : state.visit database = { state with position := .outside database } := by
  refine visit_of_unwanted ?_
  by_cases target : database ∈ state.targets
  · have allOver := visited_of_uncollected isOver.away
    exact .inr (isOver.orderly.isFinished_of_allFinished allOver isOver.all target)
  · exact .inl target

/-- A line, boundary or not, changes at most which database is passed over. -/
theorem feed_eq (isOver : state.Over) (line : Text)
    : ∃ position, (∀ content pending, position ≠ .inside content pending)
        ∧ state.feed line = (.more, { state with position }) := by
  have fed := fed_feed state line
  generalize state.feed line = outcome at fed ⊢
  cases fed with
  | read plain =>
      refine ⟨_, fun content pending inside => ?_, rfl⟩
      cases position : state.position with
      | inside content pending => exact isOver.away content pending position
      | nowhere | outside name => simp [position, read] at inside
  | stayed _ _ => exact ⟨_, isOver.away, rfl⟩
  | @visited database _ _ _ =>
      exact ⟨.outside database, by simp, congrArg (Prod.mk _) (isOver.visit_eq _)⟩
  | left _ inside _ _ | done _ inside _ _ => exact absurd inside (isOver.away _ _)

theorem feed (isOver : state.Over) (line : Text) : (state.feed line).2.Over := by
  have orderly := isOver.orderly.feed line
  obtain ⟨position, away, fed⟩ := isOver.feed_eq line
  rw [fed] at orderly ⊢
  exact ⟨orderly, away, isOver.all⟩

/-- By induction over the lines. -/
theorem finish_further (isOver : state.Over) (lines : List Text)
    : (state.further lines).finish = state.finish := by
  induction lines generalizing state with
  | nil => rfl
  | cons line rest ih =>
      obtain ⟨position, away, fed⟩ := isOver.feed_eq line
      rw [further_cons, ih (isOver.feed line), fed, finish, finish,
        closed_of_uncollected isOver.away, closed_of_uncollected away]

end Over

theorem over_of_done {state : Extraction} (orderly : state.Orderly) {line : Text}
    (done : (state.feed line).1 = .done)
    : (state.feed line).2.Over := by
  have fed := fed_feed state line
  generalize state.feed line = outcome at fed done ⊢
  cases fed with
  | read _ | stayed _ _ | visited _ _ _ | left _ _ _ _ => cases done
  | done _ _ _ all => exact ⟨orderly.leave, nofun, all⟩

/-- A run that ends where the machine is done comes to what a run over all lines comes to. By
induction over the lines.
-/
theorem Orderly.finish_run {state : Extraction} (orderly : state.Orderly) (lines : List Line)
    : (runExtraction state lines).1.finish
      = (state.further (lines.map (·.text))).finish := by
  induction lines generalizing state with
  | nil => rfl
  | cons line rest ih =>
      rw [List.map_cons, further_cons]
      cases fed : state.feed line.text with
      | mk step next =>
          cases step with
          | more =>
              have kept := orderly.feed line.text
              rw [fed] at kept
              rw [runExtraction_of_more rest fed]
              exact ih kept
          | done =>
              have isOver := over_of_done orderly (congrArg Prod.fst fed)
              rw [fed] at isOver
              rw [runExtraction_of_done rest fed]
              exact (isOver.finish_further _).symm

-----------------------------------------------------------------------------------------
-- Databases entered and left
-----------------------------------------------------------------------------------------

/-- The machine enters a database from elsewhere with the boundary of it, and after each of the
lines that follow it is inside.
-/
structure StaysInside (names before : List Text) (entering : Text) (during : List Text)
    (database : Text)
    : Prop where
  boundary : boundary? entering = some database
  elsewhere : (after names before).position.database ≠ some database
  entered : (after names (before ++ [entering])).position = .inside { name := database } .nothing
  inside
    : ∀ read, read <+: during →
        ∃ content pending,
          (after names (before ++ entering :: read)).position = .inside content pending
          ∧ content.name = database

/-- Among some lines is one with which a database is entered, and a later one, the boundary of
another database, with which it is left.
-/
def EntersAndLeaves (names lines : List Text) (database : Text) : Prop :=
  ∃ before entering during leaving later other,
    lines = before ++ entering :: during ++ leaving :: later
    ∧ StaysInside names before entering during database
    ∧ boundary? leaving = some other
    ∧ other ≠ database
    ∧ (after names (before ++ entering :: during ++ [leaving])).isFinished database = true

section Visits

variable {names lines before during : List Text} {line entering database : Text}

theorem EntersAndLeaves.concat (visited : EntersAndLeaves names lines database) (line : Text)
    : EntersAndLeaves names (lines ++ [line]) database := by
  obtain ⟨before, entering, during, leaving, later, other, rfl, visit⟩ := visited
  exact ⟨before, entering, during, leaving, later ++ [line], other, by simp, visit⟩

/-- The machine goes on staying inside if it is inside after one more line. -/
theorem StaysInside.concat (stays : StaysInside names before entering during database)
    {content : Database} {pending : Pending}
    (inside : (after names (before ++ entering :: during ++ [line])).position
      = .inside content pending)
    (same : content.name = database)
    : StaysInside names before entering (during ++ [line]) database := by
  refine { stays with inside := fun read within => ?_ }
  rcases List.prefix_concat_iff.mp within with rfl | shorter
  · exact ⟨content, pending, by simpa using inside, same⟩
  · exact stays.inside read shorter

/-- A database that is collected after a visit is the one visited, and nothing of it is known. -/
theorem eq_of_visit_inside {state : Extraction} {content : Database} {pending : Pending}
    (inside : (state.visit database).position = .inside content pending)
    : content = { name := database } ∧ pending = .nothing := by
  unfold visit at inside
  split at inside
  · cases inside
    exact ⟨rfl, rfl⟩
  · cases inside

/-- With a line that leads to a visit the database that is collected then is entered. -/
theorem staysInside_of_visit {state : Extraction} {content : Database} {pending : Pending}
    (visits : after names (lines ++ [line]) = state.visit database)
    (boundary : boundary? line = some database)
    (elsewhere : (after names lines).position.database ≠ some database)
    (inside : (after names (lines ++ [line])).position = .inside content pending)
    : StaysInside names lines line [] content.name := by
  obtain ⟨rfl, rfl⟩ := eq_of_visit_inside (visits ▸ inside)
  refine ⟨boundary, elsewhere, inside, fun read within => ?_⟩
  obtain rfl := List.prefix_nil.mp within
  exact ⟨_, _, inside, rfl⟩

/-- A line that is no boundary leads into no database and out of none. -/
theorem exists_inside_of_read {position : Position} {content : Database} {pending : Pending}
    (inside : read position line = .inside content pending)
    : ∃ before pendingBefore,
        position = .inside before pendingBefore ∧ before.name = content.name := by
  cases position with
  | nowhere | outside name => cases inside
  | inside before pendingBefore =>
      obtain ⟨rfl, rfl⟩ := Position.inside.inj inside
      exact ⟨before, pendingBefore, rfl, by simp⟩

/-- The database in which the machine is has been entered with one of the lines, and every database
that has been left was entered and left with two of them.
-/
structure Visits (names lines : List Text) : Prop where
  entered
    : ∀ content pending, (after names lines).position = .inside content pending →
        ∃ before entering during,
          lines = before ++ entering :: during
          ∧ StaysInside names before entering during content.name
  left
    : ∀ database ∈ (after names lines).finished.map (·.name), EntersAndLeaves names lines database

namespace Visits

/-- A line that leads nowhere else prolongs the stay. -/
theorem prolonged (visits : Visits names lines) {earlier content : Database}
    {pendingEarlier pending : Pending}
    (stood : (after names lines).position = .inside earlier pendingEarlier)
    (inside : (after names (lines ++ [line])).position = .inside content pending)
    (same : earlier.name = content.name)
    : ∃ before entering during,
        lines ++ [line] = before ++ entering :: during
        ∧ StaysInside names before entering during content.name := by
  obtain ⟨before, entering, during, rfl, stay⟩ := visits.entered _ _ stood
  refine ⟨before, entering, during ++ [line], by simp, ?_⟩
  rw [← same]
  exact stay.concat inside same.symm

/-- A line with which no database is left leaves the visits before it as they are. -/
theorem kept (visits : Visits names lines)
    (same : (after names (lines ++ [line])).finished = (after names lines).finished)
    : ∀ database ∈ (after names (lines ++ [line])).finished.map (·.name),
        EntersAndLeaves names (lines ++ [line]) database := by
  rw [same]
  exact fun database member => (visits.left database member).concat line

/-- A line that leads out of a database ends the stay. -/
theorem ended (visits : Visits names lines) {content : Database} {pending : Pending} {other : Text}
    (stood : (after names lines).position = .inside content pending)
    (boundary : boundary? line = some other) (apart : content.name ≠ other)
    (closed : (after names (lines ++ [line])).finished = (after names lines).closed)
    : ∀ database ∈ (after names (lines ++ [line])).finished.map (·.name),
        EntersAndLeaves names (lines ++ [line]) database := by
  have finished := closed.trans (closed_of_inside stood)
  intro database member
  rw [finished, List.map_append, List.mem_append] at member
  rcases member with old | last
  · exact (visits.left database old).concat line
  · obtain rfl : database = content.name := by simpa using last
    obtain ⟨before, entering, during, rfl, stay⟩ := visits.entered _ _ stood
    refine ⟨before, entering, during, line, [], other, by simp, stay, boundary, apart.symm, ?_⟩
    rw [isFinished_iff, finished]
    simp

theorem concat (visits : Visits names lines) (line : Text) : Visits names (lines ++ [line]) := by
  have fed := fed_feed (after names lines) line
  have step := after_concat names lines line
  generalize (after names lines).feed line = outcome at fed step
  cases fed with
  | read plain =>
      refine ⟨fun content pending inside => ?_, visits.kept (by rw [step])⟩
      rw [step] at inside
      obtain ⟨earlier, pendingEarlier, stood, same⟩ := exists_inside_of_read inside
      exact visits.prolonged stood (step ▸ inside) same
  | stayed _ _ =>
      refine ⟨fun content pending inside => ?_, visits.kept (by rw [step])⟩
      exact visits.prolonged (step ▸ inside) inside rfl
  | visited boundary other uncollected =>
      obtain ⟨_, boundary⟩ := boundaryIn?_eq_some boundary
      refine ⟨fun content pending inside => ?_, visits.kept (by rw [step, visit_finished])⟩
      exact ⟨lines, line, [], rfl, staysInside_of_visit step boundary other inside⟩
  | @left database _ _ boundary stood other waiting =>
      obtain ⟨_, boundary⟩ := boundaryIn?_eq_some boundary
      refine ⟨fun content pending inside => ?_, visits.ended stood boundary other ?_⟩
      · have elsewhere : (after names lines).position.database ≠ some database := by
          rw [stood]
          exact fun same => other (Option.some.inj same)
        exact ⟨lines, line, [], rfl, staysInside_of_visit step boundary elsewhere inside⟩
      · rw [step, visit_finished, leave_finished]
  | done boundary stood other all =>
      obtain ⟨_, boundary⟩ := boundaryIn?_eq_some boundary
      refine ⟨fun content pending inside => ?_, visits.ended stood boundary other ?_⟩
      · rw [step] at inside
        cases inside
      · rw [step, leave_finished]

/-- By induction from the last line. -/
theorem all (names lines : List Text) : Visits names lines := by
  induction lines using List.reverseRecOn with
  | nil => exact ⟨nofun, nofun⟩
  | append_singleton lines line ih => exact ih.concat line

end Visits

end Visits

/-- Feeding lines until the machine is done comes to what feeding all of them comes to. With the
line that makes it done every requested database has been entered and left, and whatever lines
follow, what has been collected stays as it is. Witness: sales_left.
-/
theorem stopping_loses_nothing (names : List Text) (lines : List Line)
    : (runExtraction (.start names) lines).1.finish
        = (after names (lines.map (·.text))).finish
      ∧ ∀ (before : List Text) (line : Text), ((after names before).feed line).1 = .done →
          (∀ target ∈ names, EntersAndLeaves names (before ++ [line]) target)
          ∧ ∀ later,
              (after names (before ++ line :: later)).finish
              = (after names (before ++ [line])).finish := by
  refine ⟨(Orderly.start names).finish_run lines, fun before line done => ?_⟩
  have isOver := over_of_done (after_sound names before).orderly done
  rw [← after_concat] at isOver
  constructor
  · intro target requested
    have allOver := visited_of_uncollected isOver.away
    have target_mem : target ∈ (after names (before ++ [line])).targets := by
      rw [after_targets]
      exact List.mem_eraseDups.mpr requested
    have finished := isOver.orderly.isFinished_of_allFinished allOver isOver.all target_mem
    exact (Visits.all names (before ++ [line])).left target ((isFinished_iff _ _).mp finished)
  · intro later
    have same : after names (before ++ line :: later)
        = (after names (before ++ [line])).further later := by
      rw [List.append_cons]
      exact further_append _ _ _
    rw [same]
    exact isOver.finish_further later

/-- One request made twice. -/
def requestsOfSales : List Text :=
  ["sales", "sales"]

/-- Lines that end within a definition of the database. -/
def linesOfSales : List Text :=
  [ "USE `crm`;", "DROP TABLE IF EXISTS `c`;", "USE `sales`;", "CREATE TABLE `a` (", "  `x` int" ]

/-- A line that cuts the definition off. -/
def lineAfterSales : Text :=
  "USE `logs`;"

/-- Lines that would count, were the database entered once more. -/
def laterLines : List Text :=
  [ "USE `sales`;", "CREATE TABLE `b` (x int);", "INSERT INTO `b` VALUES ('one", "two');" ]

theorem sales_left
    : ((after requestsOfSales linesOfSales).feed lineAfterSales).1 = .done
      ∧ EntersAndLeaves requestsOfSales (linesOfSales ++ [lineAfterSales]) "sales"
      ∧ (after requestsOfSales (linesOfSales ++ lineAfterSales :: laterLines)).finish
        = (after requestsOfSales (linesOfSales ++ [lineAfterSales])).finish := by
  have done : ((after requestsOfSales linesOfSales).feed lineAfterSales).1 = .done := by
    decide +kernel
  obtain ⟨left, kept⟩ := (stopping_loses_nothing requestsOfSales []).2 _ _ done
  exact ⟨done, left _ (List.mem_cons_self ..), kept laterLines⟩

end Extraction

end DumpTransfer.Dump
