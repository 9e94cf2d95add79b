import DumpTransfer.Proofs.Migration.Workers

/-! What is still started once a run has been cancelled. Whether to go on is asked before a worker
is waited for, so a procedure for which it was asked before the cancellation is started after it,
as soon as there is a worker. No other procedure is, nor is any other database, and what has been
started is brought to its end.
-/

namespace DumpTransfer.Migration

open Script

namespace Pool.State

variable {σ α : Type} {answer : Answer σ}

/-- The number of procedures that have been started, with the one that waits for a worker. -/
def admitted (state : State σ α) : Nat :=
  state.tasks.length + if state.gate = .awaiting then 1 else 0

/-- No more procedures are admitted after a cancellation. -/
theorem Moved.admitted_eq {state next : State σ α} {choice : Choice σ}
    (moved : Moved answer state choice next) (cancelled : Cancelled answer state.world)
    : next.admitted = state.admitted := by
  cases moved with
  -- The answer to the question closes the pool.
  | asked asking waits =>
      have stops : (answer .isCancelled state.world).1 = true := cancelled
      simp [admitted, asking, stops]
  -- The procedure that is started is the one that has been counted as waiting for a worker.
  | started awaiting freed waits => simp [admitted, awaiting]
  | advanced found => simp [admitted]
  | finished found => simp [admitted]
  | changed lasting => rfl

theorem admitted_follow (forGood : CancelsForGood answer) {state later : State σ α}
    {choices : List (Choice σ)} (followed : state.follow answer choices = some later)
    (cancelled : Cancelled answer state.world)
    : later.admitted = state.admitted := by
  have kept := follow_keeps
    (fun moved (both : Cancelled answer (State.world _) ∧ _ = state.admitted) =>
      ⟨moved.lasts forGood both.1, (moved.admitted_eq both.1).trans both.2⟩)
    followed ⟨cancelled, rfl⟩
  exact kept.2

/-- Every task is still there and has asked at least as much. -/
def Extends (earlier later : State σ α) : Prop :=
  ∀ (index : Nat) (task : Task α),
    earlier.tasks[index]? = some task →
      ∃ longer, later.tasks[index]? = some longer ∧ task.record <+: longer.record

theorem Extends.refl (state : State σ α) : state.Extends state :=
  fun _ task found => ⟨task, found, List.prefix_rfl⟩

theorem Extends.trans {first second third : State σ α} (before : first.Extends second)
    (after : second.Extends third)
    : first.Extends third := by
  intro index task found
  obtain ⟨longer, there, shorter⟩ := before index task found
  obtain ⟨longest, last, longer⟩ := after index longer there
  exact ⟨longest, last, shorter.trans longer⟩

/-- A task in the place of another one that has asked no more. -/
theorem extends_set {tasks : List (Task α)} {index : Nat} {task other : Task α}
    (found : tasks[index]? = some task) (longer : task.record <+: other.record)
    : ∀ (place : Nat) (earlier : Task α),
        tasks[place]? = some earlier →
          ∃ later, (tasks.set index other)[place]? = some later
            ∧ earlier.record <+: later.record := by
  intro place earlier there
  have within : index < tasks.length := (List.getElem?_eq_some_iff.mp found).1
  rw [List.getElem?_set]
  by_cases same : index = place
  · subst same
    rw [found] at there
    cases there
    exact ⟨other, by rw [if_pos rfl, if_pos within], longer⟩
  · exact ⟨earlier, by rw [if_neg same, there], List.prefix_rfl⟩

theorem Moved.extends {state next : State σ α} {choice : Choice σ}
    (moved : Moved answer state choice next)
    : state.Extends next := by
  cases moved with
  | asked _ _ => exact Extends.refl state
  | changed _ => exact Extends.refl state
  | started _ _ _ =>
      intro index task found
      refine ⟨task, ?_, List.prefix_rfl⟩
      rw [List.getElem?_append_left (List.getElem?_eq_some_iff.mp found).1]
      exact found
  | advanced found => exact extends_set found (List.prefix_append _ _)
  | finished found => exact extends_set found List.prefix_rfl

theorem follow_extends {state later : State σ α} {choices : List (Choice σ)}
    (followed : state.follow answer choices = some later)
    : state.Extends later :=
  follow_keeps (fun moved (kept : state.Extends _) => kept.trans moved.extends) followed
    (Extends.refl state)

/-- Every procedure that has been started has its result when the pool is over. -/
theorem Sound.length_results {workers : Nat} {state : State σ α}
    (sound : state.Sound answer workers) (complete : state.isOver = true)
    : state.results.length = state.tasks.length := by
  have ended : ∀ task ∈ state.tasks, task.isOver = true := by
    simp only [isOver, Bool.and_eq_true, List.all_eq_true] at complete
    exact complete.2
  rw [results, List.length_filterMap_eq_countP, List.countP_eq_length]
  intro task member
  obtain ⟨value, nothing⟩ := sound.complete task member (ended task member)
  simp [Task.value?, nothing]

end Pool.State

/-- No database is started in a run that has been cancelled, and nothing but that is asked. -/
theorem transferDatabases_cancelled {σ : Type} {answer : Answer σ} {world : σ}
    (cancelled : Cancelled answer world) (plan : Plan) (stamp : RunStamp)
    (lines : List Dump.Line) (extracted : List Dump.Database) (names : List Text)
    : ((transferDatabases plan stamp lines extracted names).run answer world).1
        = ([], !names.isEmpty)
      ∧ (transferDatabases plan stamp lines extracted names).calls answer world = [] := by
  cases names with
  | nil => exact ⟨rfl, rfl⟩
  | cons name rest =>
      have learned : (isCancelled.run answer world).1 = true := cancelled
      rw [transferDatabases, run_bind, calls_bind, calls_isCancelled, learned]
      exact ⟨rfl, rfl⟩

/-- From the moment at which a run is cancelled, a table is started only if it had been asked
whether to go on with it before, and so at most one, which is started in any case before the pool
is over. Tables that have been started are not given up: all of them make their calls until they
are over, and come to a result. No other database is started.
-/
theorem cancellation_admits_one_more {σ : Type} {answer : Answer σ}
    (forGood : CancelsForGood answer) {plan : Plan} {target : Destination}
    {content : Dump.Database} {world : σ} {before choices : List (Pool.Choice σ)}
    {state later : Pool.State σ TableResult}
    (reached
      : (Pool.State.initial plan.workers world
            (content.tables.map (plan.job target).perform)).follow answer before
          = some state)
    (cancelled : Cancelled answer state.world)
    (followed : state.follow answer choices = some later)
    : later.tasks.length ≤ state.tasks.length + (if state.gate = .awaiting then 1 else 0)
      ∧ (later.isOver = true →
          later.tasks.length = state.tasks.length + (if state.gate = .awaiting then 1 else 0)
          ∧ later.results.length = later.tasks.length)
      ∧ state.Extends later
      ∧ (later.isOver = false →
          ∃ choice : Pool.Choice σ,
            choice.isMove = true ∧ (later.move? answer choice).isSome = true)
      ∧ ∀ stamp lines extracted names,
          ((transferDatabases plan stamp lines extracted names).run answer later.world).1
            = ([], !names.isEmpty)
          ∧ (transferDatabases plan stamp lines extracted names).calls answer later.world
            = [] := by
  have sound : later.Sound answer (max plan.workers 1) :=
    ((Pool.State.sound_initial answer plan.workers world _).follow forGood reached).follow forGood
      followed
  have same := Pool.State.admitted_follow forGood followed cancelled
  refine ⟨?_, ?_, Pool.State.follow_extends followed, sound.goes_on (by omega), ?_⟩
  · unfold Pool.State.admitted at same
    omega
  -- A pool is not over while a procedure waits for a worker, so it has been started.
  · intro complete
    have unasked : later.gate ≠ .awaiting := by
      intro awaiting
      have waits := sound.awaiting awaiting
      simp [Pool.State.isOver, awaiting, waits] at complete
    rw [Pool.State.admitted, if_neg unasked] at same
    exact ⟨same, sound.length_results complete⟩
  · exact fun stamp lines extracted names => transferDatabases_cancelled
      (Pool.State.follow_lasts forGood followed cancelled) plan stamp lines extracted names

/-- The second table of the clinic is waited for when the run is cancelled. -/
def beforehand : List (Pool.Choice Nat) :=
  [.ask, .start, .ask, .meanwhile 0]

/-- The first table is brought to its end, and then the second one has a worker. -/
def afterwards : List (Pool.Choice Nat) :=
  List.replicate 6 (.advance 0) ++ [.finish 0, .start]

theorem clinic_admits_second_table
    : ∃ state later : Pool.State Nat TableResult,
        state.tasks.length = 1
        ∧ Cancelled (cancelling (refusing "(1)")) state.world
        ∧ state.follow (cancelling (refusing "(1)")) afterwards = some later
        ∧ later.tasks.length = 2
        ∧ later.tasks.length ≤ state.tasks.length + 1
        ∧ state.Extends later := by
  have reaches
      : (((Pool.State.initial clinicPlan.workers 9
            (Pool.clinicTables.tables.map (clinicPlan.job ⟨none, "clinic"⟩).perform)).follow
            (cancelling (refusing "(1)")) beforehand).map fun state =>
          (state.tasks.length, state.gate, state.world,
            (state.follow (cancelling (refusing "(1)")) afterwards).map fun later =>
              later.tasks.length))
        = some (1, .awaiting, 0, some 2) := by
    decide +kernel
  obtain ⟨state, reached, facts⟩ := Option.map_eq_some_iff.mp reaches
  obtain ⟨one, awaiting, world, goes⟩ : state.tasks.length = 1 ∧ state.gate = .awaiting
      ∧ state.world = 0
      ∧ (state.follow (cancelling (refusing "(1)")) afterwards).map (·.tasks.length) = some 2 := by
    simpa using facts
  obtain ⟨later, followed, two⟩ := Option.map_eq_some_iff.mp goes
  have cancelled : Cancelled (cancelling (refusing "(1)")) state.world := by
    rw [world]
    rfl
  obtain ⟨few, -, extended, -⟩ := cancellation_admits_one_more (cancelsForGood_cancelling _)
    reached cancelled followed
  rw [awaiting, if_pos rfl] at few
  exact ⟨state, later, one, cancelled, followed, two, few, extended⟩

/-- A dump of a database with three tables. -/
def portLines : List Dump.Line :=
  [ "USE `port`;",
    "CREATE TABLE `a` (x int);", "INSERT INTO `a` VALUES (1);",
    "CREATE TABLE `b` (x int);", "INSERT INTO `b` VALUES (2);",
    "CREATE TABLE `c` (x int);", "INSERT INTO `c` VALUES (3);" ].map fun line => ⟨line, {}⟩

def portPlan : Plan := { databases := ["port"] }

/-- The statement with which the run is cancelled. -/
def portInsertion : Text := "INSERT INTO \"port\".\"a\" VALUES (1)"

/-- A statement for another table. -/
def secondInsertion : Text := "INSERT INTO \"port\".\"b\" VALUES (2)"

/-- Another session can be opened after the statement with which a run has been cancelled, and
another table loaded.
-/
theorem cancelled_port_loads_another
    : ¬ ∀ before after : List Text,
        ((run portPlan {} (.ok portLines)).run
              (Rehearsal.answer { cancelOn := some portInsertion }) {}).2.log
          = before ++ portInsertion :: after →
        ("-- session port" : Text) ∉ after ∧ secondInsertion ∉ after := by
  intro never
  have stopped := never
    [ "-- session port", "CREATE SCHEMA IF NOT EXISTS \"port\"", "-- session port", "BEGIN",
      "DROP TABLE IF EXISTS \"port\".\"a\" CASCADE", "CREATE TABLE \"port\".\"a\" (x integer)" ]
    [ "COMMIT", "-- session port", "BEGIN", "DROP TABLE IF EXISTS \"port\".\"b\" CASCADE",
      "CREATE TABLE \"port\".\"b\" (x integer)", secondInsertion, "COMMIT" ]
    (by decide +kernel)
  exact absurd stopped (by decide +kernel)

end DumpTransfer.Migration
