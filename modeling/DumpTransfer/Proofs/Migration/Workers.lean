import DumpTransfer.Proofs.Migration.Interleaving
import DumpTransfer.Proofs.Migration.Reporting
import DumpTransfer.Proofs.Migration.Transactions

/-! What the number of workers is good for. Against a warehouse that always gives the same replies
a procedure makes the same requests and comes to the same result whatever others do in between, so
a pool that nobody cancels comes to the same end in every order and with every number of workers.
-/

namespace DumpTransfer.Migration.Pool

open Script

variable {σ α : Type} {answer : Answer σ} {replies : Replies}

-----------------------------------------------------------------------------------------
-- A procedure among others
-----------------------------------------------------------------------------------------

/-- A task is on the way of its procedure: what it has asked is what the procedure asks when it is
alone, up to what is left.
-/
structure Task.Pursues (task : Task α) (replies : Replies) (procedure : Script α) : Prop where
  record
    : procedure.exchanges (steadily replies) ()
      = task.record ++ task.rest.exchanges (steadily replies) ()
  result
    : (procedure.run (steadily replies) ()).1 = (task.rest.run (steadily replies) ()).1
  calls : task.rest.AsksOnly fun request => request.isForWarehouse = true

/-- A task at the end of its procedure. -/
def Task.ended (replies : Replies) (procedure : Script α) : Task α :=
  ⟨.done (procedure.run (steadily replies) ()).1, procedure.exchanges (steadily replies) (), true⟩

theorem Task.Pursues.begin {procedure : Script α}
    (calls : procedure.AsksOnly fun request => request.isForWarehouse = true)
    : ({ rest := procedure } : Task α).Pursues replies procedure :=
  ⟨rfl, rfl, calls⟩

/-- A request of the task is the next one of its procedure, and so is the reply. -/
theorem Task.Pursues.advance (steady : Steady answer replies) {procedure : Script α}
    {request : Request} {next : request.Reply → Script α} {record : List Exchange} {isOver : Bool}
    (pursues : (⟨.call request next, record, isOver⟩ : Task α).Pursues replies procedure)
    (world : σ)
    : (⟨next (answer request world).1, record ++ [⟨request, (answer request world).1⟩],
        isOver⟩ : Task α).Pursues replies procedure := by
  obtain ⟨sameRecord, sameResult, allowed, calls⟩ := pursues
  rw [steady request world allowed]
  refine ⟨?_, sameResult, calls _⟩
  rw [List.append_assoc]
  exact sameRecord

theorem Task.Pursues.finish {procedure : Script α} {value : α} {record : List Exchange}
    {isOver : Bool} (pursues : (⟨.done value, record, isOver⟩ : Task α).Pursues replies procedure)
    : (⟨.done value, record, true⟩ : Task α) = Task.ended replies procedure := by
  obtain ⟨sameRecord, sameResult, -⟩ := pursues
  rw [Task.ended, sameRecord, sameResult]
  simp [Script.run, Script.exchanges]

namespace State

/-- The procedures are pursued in order, each by its own task. -/
structure Pursues (state : State σ α) (replies : Replies) (procedures : List (Script α))
    : Prop where
  order : state.waiting = procedures.drop state.tasks.length
  tasks
    : ∀ (index : Nat) (task : Task α),
        state.tasks[index]? = some task →
          ∃ procedure, procedures[index]? = some procedure ∧ task.Pursues replies procedure

theorem pursues_initial (replies : Replies) (workers : Nat) (world : σ)
    (procedures : List (Script α))
    : (initial workers world procedures).Pursues replies procedures :=
  ⟨rfl, nofun⟩

/-- A task in the place of another one pursues the procedure of that one. -/
theorem Pursues.set {procedures : List (Script α)} {state : State σ α}
    (pursues : state.Pursues replies procedures) {index : Nat} {task other : Task α}
    (found : state.tasks[index]? = some task)
    (goes : ∀ procedure, task.Pursues replies procedure → other.Pursues replies procedure)
    : ∀ (place : Nat) (task : Task α),
        (state.tasks.set index other)[place]? = some task →
          ∃ procedure, procedures[place]? = some procedure ∧ task.Pursues replies procedure := by
  intro place changed foundChanged
  rw [List.getElem?_set] at foundChanged
  split at foundChanged
  · rename_i same
    subst same
    obtain ⟨procedure, known, pursued⟩ := pursues.tasks index task found
    split at foundChanged
    · cases foundChanged
      exact ⟨procedure, known, goes procedure pursued⟩
    · cases foundChanged
  · exact pursues.tasks place changed foundChanged

theorem Pursues.moved (steady : Steady answer replies) {procedures : List (Script α)}
    (calls : ∀ procedure ∈ procedures,
      procedure.AsksOnly fun request => request.isForWarehouse = true)
    {state next : State σ α} {choice : Choice σ} (moved : Moved answer state choice next)
    (pursues : state.Pursues replies procedures)
    : next.Pursues replies procedures := by
  cases moved with
  | asked _ _ => exact ⟨pursues.order, pursues.tasks⟩
  | changed _ => exact ⟨pursues.order, pursues.tasks⟩
  | @started free next rest awaiting freed waits =>
      have left : procedures.drop state.tasks.length = next :: rest :=
        pursues.order.symm.trans waits
      have known : procedures[state.tasks.length]? = some next := by
        rw [← List.head?_drop, left, List.head?_cons]
      refine ⟨?_, fun index task found => ?_⟩
      · rw [List.length_append, List.length_singleton, ← List.drop_drop, left]
        rfl
      · rw [List.getElem?_append] at found
        split at found
        · exact pursues.tasks index task found
        · rw [List.getElem?_singleton] at found
          split at found
          · cases found
            obtain rfl : index = state.tasks.length := by omega
            exact ⟨next, known, .begin (calls next (List.mem_of_getElem? known))⟩
          · cases found
  | @advanced index request next record isOver found =>
      refine ⟨?_, pursues.set found fun procedure pursued => pursued.advance steady _⟩
      exact pursues.order.trans (by rw [List.length_set])
  | @finished index value record found =>
      refine ⟨?_, pursues.set found fun procedure pursued => ?_⟩
      · exact pursues.order.trans (by rw [List.length_set])
      · exact ⟨pursued.record, pursued.result, pursued.calls⟩

theorem Pursues.follow (steady : Steady answer replies) {procedures : List (Script α)}
    (calls : ∀ procedure ∈ procedures,
      procedure.AsksOnly fun request => request.isForWarehouse = true)
    {state later : State σ α} {choices : List (Choice σ)}
    (followed : state.follow answer choices = some later)
    (pursues : state.Pursues replies procedures)
    : later.Pursues replies procedures :=
  follow_keeps (fun moved (kept : Pursues _ replies procedures) =>
    kept.moved steady calls moved) followed pursues

/-- Every procedure of a pool that is over and not closed has come to its end. -/
theorem Pursues.ended {procedures : List (Script α)} {state : State σ α} {workers : Nat}
    (pursues : state.Pursues replies procedures) (sound : state.Sound answer workers)
    (complete : state.isOver = true) (open_ : state.gate ≠ .closed)
    : state.tasks = procedures.map (Task.ended replies) := by
  simp only [isOver, Bool.and_eq_true, Bool.or_eq_true, List.isEmpty_iff, decide_eq_true_eq,
    open_, or_false, List.all_eq_true] at complete
  obtain ⟨nothing, complete⟩ := complete
  -- Nothing waits, so there is a task for every procedure.
  have all : procedures.length ≤ state.tasks.length := by
    rw [← List.drop_eq_nil_iff, ← pursues.order, nothing]
  apply List.ext_getElem?
  intro index
  rw [List.getElem?_map]
  cases found : state.tasks[index]? with
  | none =>
      have beyond : procedures.length ≤ index :=
        Nat.le_trans all (List.getElem?_eq_none_iff.mp found)
      rw [List.getElem?_eq_none beyond]
      rfl
  | some task =>
      obtain ⟨procedure, known, pursued⟩ := pursues.tasks index task found
      have member := List.mem_of_getElem? found
      obtain ⟨rest, record, isOver⟩ := task
      obtain ⟨value, rfl⟩ := sound.complete _ member (complete _ member)
      obtain rfl : isOver = true := complete _ member
      rw [known, Option.map_some, pursued.finish]

-----------------------------------------------------------------------------------------
-- How much is left to be done
-----------------------------------------------------------------------------------------

/-- The turns of a procedure that is alone: its requests and its end. -/
def turns (replies : Replies) (procedure : Script α) : Nat :=
  (procedure.exchanges (steadily replies) ()).length + 1

/-- The turns that a task has left. -/
def turnsLeft (replies : Replies) (task : Task α) : Nat :=
  if task.isOver then 0 else turns replies task.rest

/-- One more than the moves that a pool has left. A procedure that waits is asked for, and it is
started, before it takes its turns.
-/
def work (state : State σ α) (replies : Replies) : Nat :=
  (state.tasks.map (turnsLeft replies)).sum
    + (state.waiting.map fun procedure => turns replies procedure + 2).sum
    + if state.gate = .awaiting then 0 else 1

theorem sum_turnsLeft_set {tasks : List (Task α)} {index : Nat} {task : Task α}
    (found : tasks[index]? = some task) {other : Task α}
    (fewer : turnsLeft replies other + 1 = turnsLeft replies task)
    : ((tasks.set index other).map (turnsLeft replies)).sum + 1
      = (tasks.map (turnsLeft replies)).sum := by
  obtain ⟨before, after, rfl, replaced⟩ := split_of_found found
  rw [replaced]
  simp only [List.map_append, List.map_cons, List.sum_append, List.sum_cons]
  omega

/-- Every move of a pool that nobody cancels is one of those that are left. -/
theorem work_moved (steady : Steady answer replies) {procedures : List (Script α)}
    {workers : Nat} {state next : State σ α} {choice : Choice σ}
    (moved : Moved answer state choice next) (sound : state.Sound answer workers)
    (pursues : state.Pursues replies procedures) (uncancelled : ¬ Cancelled answer state.world)
    : next.work replies + (if choice.isMove then 1 else 0) = state.work replies := by
  cases moved with
  | asked asking waits =>
      have goes : (answer .isCancelled state.world).1 = false := Bool.eq_false_iff.mpr uncancelled
      simp [work, asking, goes, Choice.isMove]
  | changed _ => rfl
  | @started free next rest awaiting freed waits =>
      simp only [work, awaiting, waits, Choice.isMove, List.map_append, List.sum_append,
        List.map_cons, List.map_nil, List.sum_cons, List.sum_nil, if_true, reduceCtorEq, if_false,
        turnsLeft, Bool.false_eq_true]
      omega
  | @advanced index request next record isOver found =>
      obtain ⟨procedure, -, pursued⟩ := pursues.tasks index _ found
      have open_ : isOver = false := by
        cases isOver with
        | false => rfl
        | true =>
            obtain ⟨value, nothing⟩ := sound.complete _ (List.mem_of_getElem? found) rfl
            cases nothing
      have one (more : List Exchange)
          : turnsLeft replies ⟨next (answer request state.world).1, more, isOver⟩ + 1
            = turnsLeft replies ⟨.call request next, record, isOver⟩ := by
        rw [open_, steady request state.world pursued.calls.1]
        rfl
      have fewer := sum_turnsLeft_set found
        (one (record ++ [⟨request, (answer request state.world).1⟩]))
      simp only [work, Choice.isMove, if_true]
      omega
  | @finished index value record found =>
      have one : turnsLeft replies ⟨.done value, record, true⟩ + 1
          = turnsLeft replies ⟨.done value, record, false⟩ := rfl
      have fewer := sum_turnsLeft_set found one
      simp only [work, Choice.isMove, if_true]
      omega

/-- By induction over the choices. -/
theorem work_follow (steady : Steady answer replies) (forGood : CancelsForGood answer)
    {procedures : List (Script α)}
    (calls : ∀ procedure ∈ procedures,
      procedure.AsksOnly fun request => request.isForWarehouse = true)
    {workers : Nat} {state later : State σ α} {choices : List (Choice σ)}
    (followed : state.follow answer choices = some later) (sound : state.Sound answer workers)
    (pursues : state.Pursues replies procedures) (uncancelled : ¬ Cancelled answer later.world)
    : later.work replies + choices.countP (·.isMove) = state.work replies := by
  induction choices generalizing state with
  | nil =>
      cases followed
      rfl
  | cons choice rest ih =>
      obtain ⟨next, moved, follows⟩ := follow_cons followed
      have before : ¬ Cancelled answer state.world := fun cancelled =>
        uncancelled (follow_lasts forGood followed cancelled)
      have one := work_moved steady moved sound pursues before
      have others := ih follows (sound.moved forGood moved) (pursues.moved steady calls moved)
      rw [List.countP_cons]
      omega

theorem work_initial (replies : Replies) (workers : Nat) (world : σ)
    (procedures : List (Script α))
    : (initial workers world procedures).work replies
      = (procedures.map fun procedure => turns replies procedure + 2).sum + 1 := by
  simp [work, initial]

/-- Nothing is left to be done if and only if a pool that is not closed is over. -/
theorem isOver_iff_work (replies : Replies) {workers : Nat} {state : State σ α}
    (sound : state.Sound answer workers)
    (open_ : state.gate ≠ .closed)
    : state.isOver = true ↔ state.work replies = 1 := by
  have idle : (state.tasks.map (turnsLeft replies)).sum = 0
      ↔ ∀ task ∈ state.tasks, task.isOver = true := by
    rw [List.sum_eq_zero_iff_forall_eq_nat, List.forall_mem_map]
    refine forall₂_congr fun task _ => ?_
    cases ended : task.isOver <;> simp [turnsLeft, ended, turns]
  have ended : state.isOver = true
      ↔ state.waiting = [] ∧ ∀ task ∈ state.tasks, task.isOver = true := by
    simp [isOver, open_]
  rw [ended, ← idle, work]
  cases waits : state.waiting with
  | nil =>
      have asking : state.gate ≠ .awaiting := fun awaiting => sound.awaiting awaiting waits
      simp [asking]
  -- What waits takes more than the one move by which the two sides can differ.
  | cons next rest =>
      have some_ : 0 < turns replies next := Nat.succ_pos _
      simp only [reduceCtorEq, false_and, false_iff, List.map_cons, List.sum_cons]
      omega

end State

/-- The calls of a pool of which everything is carried out, by induction over its procedures. -/
theorem Performed.calls_eq (steady : Steady answer replies) {procedures : List (Script α)}
    (calls : ∀ procedure ∈ procedures,
      procedure.AsksOnly fun request => request.isForWarehouse = true)
    {results : List α} {made : List Exchange} (performed : Performed answer procedures results made)
    (all : results.length = procedures.length)
    : made = (procedures.map fun procedure =>
        procedure.exchanges (steadily replies) ()).flatten := by
  induction performed with
  | stopped procedures =>
      obtain rfl := List.length_eq_zero_iff.mp all.symm
      rfl
  | @next procedure procedures results made state rest ih =>
      have only := calls procedure (by simp)
      rw [List.map_cons, List.flatten_cons, only.calls_eq answer state,
        steady.exchanges_eq only state]
      exact congrArg _ (ih (fun other member => calls other (by simp [member])) (Nat.succ.inj all))

-----------------------------------------------------------------------------------------
-- Tables with any number of workers
-----------------------------------------------------------------------------------------

theorem perform_all_calls (job : Job) (tables : List Dump.Table)
    : ∀ procedure ∈ tables.map job.perform,
        procedure.AsksOnly fun request => request.isForWarehouse = true :=
  List.forall_mem_map.mpr fun table _ => job.perform_isCall table

/-- A pool that nobody has cancelled is not closed. -/
theorem State.Sound.open_ {workers : Nat} {state : State σ α} (sound : state.Sound answer workers)
    (uncancelled : ¬ Cancelled answer state.world)
    : state.gate ≠ .closed :=
  fun shut => uncancelled (sound.closed shut)

/-- The tables of a database are loaded with the same results and the same calls by any number of
workers and in every order in which they can make their requests, as long as nobody cancels the
run and the replies of the warehouse depend on nothing but what it is asked. At no time are there
more tables in progress than workers, and what a table has asked by then is the beginning of what
it asks alone. There is something to do until all is done, and all is done after a number of moves
that depends on nothing but the tables and the replies.
-/
theorem workers_change_nothing {σ : Type} {answer : Answer σ} {replies : Replies}
    (steady : Steady answer replies) (forGood : CancelsForGood answer) (plan : Plan)
    (target : Destination) (content : Dump.Database) {world : σ} {choices : List (Choice σ)}
    {later : State σ TableResult}
    (followed
      : (State.initial plan.workers world
            (content.tables.map (plan.job target).perform)).follow answer choices
          = some later)
    (uncancelled : ¬ Cancelled answer later.world)
    : later.inProgress ≤ max plan.workers 1
      ∧ (∀ (index : Nat) (task : Task TableResult),
          later.tasks[index]? = some task →
            ∃ table,
              content.tables[index]? = some table
              ∧ task.record
                <+: ((plan.job target).perform table).exchanges (steadily replies) ())
      ∧ (later.isOver = false →
          ∃ choice : Choice σ,
            choice.isMove = true ∧ (later.move? answer choice).isSome = true)
      ∧ (later.isOver = true
          ↔ choices.countP (·.isMove)
            = (content.tables.map fun table =>
                (((plan.job target).perform table).exchanges (steadily replies) ()).length
                  + 3).sum)
      ∧ (later.isOver = true →
          later.tasks.map (·.record)
            = (content.tables.map fun table =>
                ((plan.job target).perform table).exchanges (steadily replies) ())
          ∧ ∀ state,
              ¬ Cancelled answer
                ((loadTables { plan with workers := 1 } target content).run answer state).2 →
              later.results
                = ((loadTables { plan with workers := 1 } target content).run answer state).1
              ∧ (later.tasks.map (·.record)).flatten
                = (loadTables { plan with workers := 1 } target content).calls answer state) := by
  have calls := perform_all_calls (plan.job target) content.tables
  have sound : later.Sound answer (max plan.workers 1) :=
    (State.sound_initial answer plan.workers world _).follow forGood followed
  have pursues : later.Pursues replies (content.tables.map (plan.job target).perform) :=
    (State.pursues_initial replies plan.workers world _).follow steady calls followed
  refine ⟨?_, ?_, ?_, ?_, ?_⟩
  · have lent := sound.lent
    omega
  · intro index task found
    obtain ⟨procedure, known, pursued⟩ := pursues.tasks index task found
    rw [List.getElem?_map] at known
    obtain ⟨table, there, rfl⟩ := Option.map_eq_some_iff.mp known
    exact ⟨table, there, pursued.record ▸ List.prefix_append _ _⟩
  · exact sound.goes_on (by omega)
  · have spent := State.work_follow steady forGood calls followed
      (State.sound_initial answer plan.workers world _)
      (State.pursues_initial replies plan.workers world _) uncancelled
    rw [State.work_initial, List.map_map] at spent
    rw [State.isOver_iff_work replies sound (sound.open_ uncancelled)]
    have same : (content.tables.map fun table =>
          (((plan.job target).perform table).exchanges (steadily replies) ()).length + 3)
        = content.tables.map ((fun procedure => State.turns replies procedure + 2)
            ∘ (plan.job target).perform) := rfl
    rw [same]
    omega
  · intro complete
    have ended := pursues.ended sound complete (sound.open_ uncancelled)
    have records : later.tasks.map (·.record)
        = (content.tables.map (plan.job target).perform).map
          (·.exchanges (steadily replies) ()) := by
      rw [ended, List.map_map]
      rfl
    refine ⟨records.trans (List.map_map ..), fun state unstopped => ⟨?_, ?_⟩⟩
    -- With one worker the pool is run in one of the orders too, and comes to the same tasks.
    · obtain ⟨others, single, singleFollowed, singleOver, sameWorld, results⟩ :=
        State.follow_run answer 1 (content.tables.map (plan.job target).perform) state
      have singleSound := (State.sound_initial answer 1 state _).follow forGood singleFollowed
      have singleEnded :=
        ((State.pursues_initial replies 1 state _).follow steady calls singleFollowed).ended
          singleSound singleOver (singleSound.open_ (sameWorld ▸ unstopped))
      rw [State.results, ended, ← singleEnded]
      exact results
    · rw [records]
      exact (Performed.calls_eq steady calls (run_performed answer 1 _ state)
        (run_complete forGood 1 _ state unstopped)).symm

/-- The tables of the first database of a dump of two. -/
def clinicTables : Dump.Database :=
  (Dump.extractOne 100 "clinic" clinicLines).value

/-- Two tables that take turns, of which the second one is over first. -/
def takingTurns : List (Choice Nat) :=
  [.ask, .start, .ask, .start]
    ++ (List.replicate 6 [.advance 0, .advance 1]).flatten ++ [.finish 1, .finish 0]

/-- What the tables are for. -/
def clinicJob : Job :=
  clinicPlan.job ⟨none, "clinic"⟩

/-- The rows of the first table cannot be loaded. -/
theorem clinic_with_two_workers
    : ∃ later,
        (State.initial 2 9 (clinicTables.tables.map clinicJob.perform)).follow
            (cancelling (refusing "(1)")) takingTurns
          = some later
        ∧ later.results.map (·.loaded) = [none, some 2]
        ∧ later.inProgress ≤ 2
        ∧ later.results
          = ((loadTables { clinicPlan with workers := 1 } ⟨none, "clinic"⟩ clinicTables).run
              (cancelling (refusing "(1)")) 9).1 := by
  have shown
      : (((State.initial 2 9 (clinicTables.tables.map clinicJob.perform)).follow
            (cancelling (refusing "(1)")) takingTurns).map fun later =>
          (later.isOver, later.world, later.results.map (·.loaded)))
        = some (true, 7, [none, some 2]) := by
    decide +kernel
  have unstopped
      : ¬ Cancelled (cancelling (refusing "(1)"))
          ((loadTables { clinicPlan with workers := 1 } ⟨none, "clinic"⟩ clinicTables).run
            (cancelling (refusing "(1)")) 9).2 := by
    decide +kernel
  obtain ⟨later, followed, facts⟩ := Option.map_eq_some_iff.mp shown
  obtain ⟨complete, world, loaded⟩ : later.isOver = true ∧ later.world = 7
      ∧ later.results.map (·.loaded) = [none, some 2] := by simpa using facts
  have uncancelled : ¬ Cancelled (cancelling (refusing "(1)")) later.world := by
    rw [world]
    decide
  obtain ⟨few, -, -, -, ended⟩ := workers_change_nothing (steady_cancelling (refusing "(1)"))
    (cancelsForGood_cancelling _) { clinicPlan with workers := 2 } ⟨none, "clinic"⟩ clinicTables
    followed uncancelled
  exact ⟨later, followed, loaded, few, ((ended complete).2 9 unstopped).1⟩

end DumpTransfer.Migration.Pool
