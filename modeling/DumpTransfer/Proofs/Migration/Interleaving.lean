import DumpTransfer.Proofs.Migration.Pool

/-! Procedures that share workers, in every order in which their requests can be made. Whether to
go on is asked for each procedure before a worker is waited for, a procedure that has a worker
takes its turns whenever it can, and a worker is free again when its procedure is over. The
surroundings may change by themselves at any time, but do not take a cancellation back.
-/

namespace DumpTransfer.Migration.Pool

open Script

-----------------------------------------------------------------------------------------
-- States and moves
-----------------------------------------------------------------------------------------

/-- What is done next about the procedures that wait. -/
inductive Gate where
  /-- It is asked whether to go on. -/
  | asking
  /-- A worker is waited for. -/
  | awaiting
  /-- No more of them are started. -/
  | closed
  deriving DecidableEq

/-- A procedure that has been given a worker. -/
structure Task (α : Type) where
  /-- What is left of the procedure. -/
  rest : Script α
  /-- What it has asked so far. -/
  record : List Exchange := []
  /-- Whether its worker is free again. -/
  isOver : Bool := false

/-- What a task comes to, once nothing of it is left. -/
def Task.value? {α : Type} (task : Task α) : Option α :=
  match task.rest with
  | .done value => some value
  | .call _ _ => none

/-- How far a pool has come. -/
structure State (σ α : Type) where
  world : σ
  gate : Gate := .asking
  /-- The number of workers that are free. -/
  free : Nat
  /-- Procedures that have been started, in order. -/
  tasks : List (Task α) := []
  /-- Procedures that have not been started, in order. -/
  waiting : List (Script α)

/-- What may happen next. -/
inductive Choice (σ : Type) where
  /-- It is asked whether to go on. -/
  | ask
  /-- The next procedure gets a worker. -/
  | start
  /-- A task makes its next request. -/
  | advance (index : Nat)
  /-- A task is over. -/
  | finish (index : Nat)
  /-- The surroundings change. -/
  | meanwhile (world : σ)

/-- Whether the pool itself does something. -/
def Choice.isMove {σ : Type} : Choice σ → Bool
  | ask | start | advance _ | finish _ => true
  | meanwhile _ => false

instance {σ : Type} (answer : Answer σ) (world : σ) : Decidable (Cancelled answer world) :=
  inferInstanceAs (Decidable (_ = true))

namespace State

variable {σ α : Type}

/-- A pool before anything has happened. -/
def initial (workers : Nat) (world : σ) (procedures : List (Script α)) : State σ α :=
  { world, free := max workers 1, waiting := procedures }

/-- The number of procedures that have a worker. -/
def inProgress (state : State σ α) : Nat :=
  state.tasks.countP (! ·.isOver)

/-- Whether nothing is left to be done. -/
def isOver (state : State σ α) : Bool :=
  (state.waiting.isEmpty || state.gate = .closed) && state.tasks.all (·.isOver)

/-- The results of the procedures in order. -/
def results (state : State σ α) : List α :=
  state.tasks.filterMap Task.value?

variable (answer : Answer σ)

/-- The state after something has happened, if it can happen. -/
def move? (state : State σ α) : Choice σ → Option (State σ α)
  | .ask =>
      match state.gate, state.waiting with
      | .asking, _ :: _ =>
          let (isCancelled, world) := answer .isCancelled state.world
          some { state with world, gate := if isCancelled then .closed else .awaiting }
      | _, _ => none
  | .start =>
      match state.gate, state.free, state.waiting with
      | .awaiting, free + 1, next :: rest =>
          some { state with
            gate := .asking
            free
            tasks := state.tasks ++ [{ rest := next }]
            waiting := rest }
      | _, _, _ => none
  | .advance index =>
      match state.tasks[index]? with
      | some ⟨.call request next, record, isOver⟩ =>
          let (reply, world) := answer request state.world
          let task := ⟨next reply, record ++ [⟨request, reply⟩], isOver⟩
          some { state with world, tasks := state.tasks.set index task }
      | _ => none
  | .finish index =>
      match state.tasks[index]? with
      | some ⟨.done value, record, false⟩ =>
          some { state with
            free := state.free + 1
            tasks := state.tasks.set index ⟨.done value, record, true⟩ }
      | _ => none
  | .meanwhile world =>
      if Cancelled answer state.world → Cancelled answer world then some { state with world }
      else none

/-- The state after several things have happened one after the other. -/
def follow : State σ α → List (Choice σ) → Option (State σ α)
  | state, [] => some state
  | state, choice :: rest => (state.move? answer choice).bind (·.follow rest)

/-- All that can happen. -/
inductive Moved (state : State σ α) : Choice σ → State σ α → Prop where
  | asked (asking : state.gate = .asking) (waits : state.waiting ≠ [])
      : Moved state .ask
          { state with
            world := (answer .isCancelled state.world).2
            gate := if (answer .isCancelled state.world).1 then .closed else .awaiting }
  | started {free : Nat} {next : Script α} {rest : List (Script α)}
      (awaiting : state.gate = .awaiting) (freed : state.free = free + 1)
      (waits : state.waiting = next :: rest)
      : Moved state .start
          { state with
            gate := .asking
            free
            tasks := state.tasks ++ [{ rest := next }]
            waiting := rest }
  | advanced {index : Nat} {request : Request} {next : request.Reply → Script α}
      {record : List Exchange} {isOver : Bool}
      (found : state.tasks[index]? = some ⟨.call request next, record, isOver⟩)
      : Moved state (.advance index)
          { state with
            world := (answer request state.world).2
            tasks := state.tasks.set index
              ⟨next (answer request state.world).1,
                record ++ [⟨request, (answer request state.world).1⟩], isOver⟩ }
  | finished {index : Nat} {value : α} {record : List Exchange}
      (found : state.tasks[index]? = some ⟨.done value, record, false⟩)
      : Moved state (.finish index)
          { state with
            free := state.free + 1
            tasks := state.tasks.set index ⟨.done value, record, true⟩ }
  | changed {world : σ} (lasting : Cancelled answer state.world → Cancelled answer world)
      : Moved state (.meanwhile world) { state with world }

variable {answer}

theorem moved_of_move? {state next : State σ α} {choice : Choice σ}
    (moves : state.move? answer choice = some next)
    : Moved answer state choice next := by
  cases choice with
  | ask =>
      simp only [move?] at moves
      split at moves
      · cases moves
        exact .asked ‹_› (by simp_all)
      · cases moves
  | start =>
      simp only [move?] at moves
      split at moves
      · cases moves
        exact .started ‹_› ‹_› ‹_›
      · cases moves
  | advance index =>
      simp only [move?] at moves
      split at moves
      · cases moves
        exact .advanced ‹_›
      · cases moves
  | finish index =>
      simp only [move?] at moves
      split at moves
      · cases moves
        exact .finished ‹_›
      · cases moves
  | meanwhile world =>
      simp only [move?] at moves
      split at moves
      · cases moves
        exact .changed ‹_›
      · cases moves

theorem follow_cons {state later : State σ α} {choice : Choice σ} {rest : List (Choice σ)}
    (followed : state.follow answer (choice :: rest) = some later)
    : ∃ next, Moved answer state choice next ∧ next.follow answer rest = some later := by
  obtain ⟨next, moves, follows⟩ := Option.bind_eq_some_iff.mp followed
  exact ⟨next, moved_of_move? moves, follows⟩

/-- A task that is found stands between others, and so does one that is put in its place. -/
theorem split_of_found {tasks : List (Task α)} {index : Nat} {task : Task α}
    (found : tasks[index]? = some task)
    : ∃ before after,
        tasks = before ++ task :: after
        ∧ ∀ other, tasks.set index other = before ++ other :: after := by
  obtain ⟨within, rfl⟩ := List.getElem?_eq_some_iff.mp found
  refine ⟨tasks.take index, tasks.drop (index + 1), by simp, fun other => ?_⟩
  rw [List.set_eq_take_append_cons_drop, if_pos within]

/-- What every move keeps is kept by a whole schedule, by induction over its choices. -/
theorem follow_keeps {holds : State σ α → Prop}
    (keeps : ∀ {state next choice}, Moved answer state choice next → holds state → holds next)
    {state later : State σ α} {choices : List (Choice σ)}
    (followed : state.follow answer choices = some later) (start : holds state)
    : holds later := by
  induction choices generalizing state with
  | nil =>
      cases followed
      exact start
  | cons choice rest ih =>
      obtain ⟨next, moved, follows⟩ := follow_cons followed
      exact ih follows (keeps moved start)

theorem follow_append (state : State σ α) (first second : List (Choice σ))
    : state.follow answer (first ++ second)
      = (state.follow answer first).bind (·.follow answer second) := by
  induction first generalizing state with
  | nil => rfl
  | cons choice rest ih =>
      rw [List.cons_append, follow, follow, Option.bind_assoc]
      exact congrArg _ (funext ih)

-----------------------------------------------------------------------------------------
-- What every move keeps
-----------------------------------------------------------------------------------------

/-- A pool in order: no worker is lost or lent twice, it is closed only because of a cancellation,
a worker is waited for by some procedure, and workers are given back by procedures that are done.
-/
structure Sound (answer : Answer σ) (workers : Nat) (state : State σ α) : Prop where
  lent : state.free + state.inProgress = workers
  closed : state.gate = .closed → Cancelled answer state.world
  awaiting : state.gate = .awaiting → state.waiting ≠ []
  complete : ∀ task ∈ state.tasks, task.isOver = true → ∃ value, task.rest = .done value

theorem sound_initial (answer : Answer σ) (workers : Nat) (world : σ)
    (procedures : List (Script α))
    : (initial workers world procedures).Sound answer (max workers 1) where
  lent := rfl
  closed := nofun
  awaiting := nofun
  complete := nofun

/-- A task that is replaced changes the number of those in progress by itself alone. -/
theorem countP_set {tasks : List (Task α)} {index : Nat} {task : Task α}
    (found : tasks[index]? = some task) (other : Task α)
    : (tasks.set index other).countP (! ·.isOver) + (if task.isOver then 0 else 1)
      = tasks.countP (! ·.isOver) + (if other.isOver then 0 else 1) := by
  obtain ⟨before, after, rfl, replaced⟩ := split_of_found found
  rw [replaced]
  simp only [List.countP_append, List.countP_cons]
  cases task.isOver <;> cases other.isOver <;> simp <;> omega

theorem Sound.moved (forGood : CancelsForGood answer) {workers : Nat} {state next : State σ α}
    {choice : Choice σ} (moved : Moved answer state choice next)
    (sound : state.Sound answer workers)
    : next.Sound answer workers := by
  obtain ⟨lent, closed, awaiting, complete⟩ := sound
  cases moved with
  | asked asking waits =>
      refine ⟨lent, fun shut => ?_, fun _ => waits, complete⟩
      cases learned : (answer .isCancelled state.world).1 with
      | true => exact forGood _ _ learned
      | false => simp [learned] at shut
  | @started free next rest waited freed waits =>
      have one : (state.tasks ++ [({ rest := next } : Task α)]).countP (! ·.isOver)
          = state.inProgress + 1 := List.countP_append
      refine ⟨?_, nofun, nofun, ?_⟩
      · calc free + (state.tasks ++ [({ rest := next } : Task α)]).countP (! ·.isOver)
          _ = free + (state.inProgress + 1) := congrArg (free + ·) one
          _ = workers := by omega
      · intro task member isOver
        rcases List.mem_append.mp member with earlier | latest
        · exact complete task earlier isOver
        · rw [List.mem_singleton.mp latest] at isOver
          cases isOver
  | @advanced index request next record isOver found =>
      refine ⟨?_, fun shut => forGood _ _ (closed shut), awaiting, ?_⟩
      · have same := countP_set found ⟨next (answer request state.world).1,
          record ++ [⟨request, (answer request state.world).1⟩], isOver⟩
        have kept := Nat.add_right_cancel same
        rw [inProgress, kept]
        exact lent
      · intro task member ended
        rcases List.mem_or_eq_of_mem_set member with earlier | rfl
        · exact complete task earlier ended
        · obtain ⟨value, nothing⟩ := complete _ (List.mem_of_getElem? found) ended
          cases nothing
  | @finished index value record found =>
      refine ⟨?_, closed, awaiting, ?_⟩
      · have fewer : (state.tasks.set index ⟨.done value, record, true⟩).countP (! ·.isOver) + 1
            = state.inProgress := countP_set found ⟨.done value, record, true⟩
        calc state.free + 1
              + (state.tasks.set index ⟨.done value, record, true⟩).countP (! ·.isOver)
          _ = state.free + state.inProgress := by omega
          _ = workers := lent
      · intro task member ended
        rcases List.mem_or_eq_of_mem_set member with earlier | rfl
        · exact complete task earlier ended
        · exact ⟨value, rfl⟩
  | changed lasting => exact ⟨lent, fun shut => lasting (closed shut), awaiting, complete⟩

theorem Sound.follow (forGood : CancelsForGood answer) {workers : Nat} {state later : State σ α}
    {choices : List (Choice σ)} (followed : state.follow answer choices = some later)
    (sound : state.Sound answer workers)
    : later.Sound answer workers :=
  follow_keeps (fun moved kept => kept.moved forGood moved) followed sound

/-- A cancellation lasts through every move. -/
theorem Moved.lasts (forGood : CancelsForGood answer) {state next : State σ α} {choice : Choice σ}
    (moved : Moved answer state choice next) (cancelled : Cancelled answer state.world)
    : Cancelled answer next.world := by
  cases moved with
  | asked _ _ => exact forGood _ _ cancelled
  | started _ _ _ => exact cancelled
  | advanced _ => exact forGood _ _ cancelled
  | finished _ => exact cancelled
  | changed lasting => exact lasting cancelled

theorem follow_lasts (forGood : CancelsForGood answer) {state later : State σ α}
    {choices : List (Choice σ)} (followed : state.follow answer choices = some later)
    (cancelled : Cancelled answer state.world)
    : Cancelled answer later.world :=
  follow_keeps (fun moved (kept : Cancelled answer (State.world _)) => moved.lasts forGood kept)
    followed cancelled

/-- A pool in order that is not over can go on: a task takes its turn or is over, and if all tasks
are over, there is a worker for the next procedure.
-/
theorem Sound.goes_on {workers : Nat} (some_ : 0 < workers) {state : State σ α}
    (sound : state.Sound answer workers) (unfinished : state.isOver = false)
    : ∃ choice : Choice σ, choice.isMove = true ∧ (state.move? answer choice).isSome = true := by
  have lent := sound.lent
  by_cases busy : ∃ task ∈ state.tasks, task.isOver = false
  -- A request can be made at any time, and a procedure at its end gives its worker back.
  · obtain ⟨⟨rest, record, isOver⟩, member, open_⟩ := busy
    obtain rfl : isOver = false := open_
    obtain ⟨index, found⟩ := List.mem_iff_getElem?.mp member
    cases rest with
    | done value => exact ⟨.finish index, rfl, by simp [move?, found]⟩
    | call request next => exact ⟨.advance index, rfl, by simp [move?, found]⟩
  -- Nobody has a worker, so that all of them are free.
  · have ended : ∀ task ∈ state.tasks, task.isOver = true := by simpa using busy
    have idle : state.inProgress = 0 := by
      rw [inProgress, List.countP_eq_zero]
      exact fun task member => by simp [ended task member]
    have left : state.waiting ≠ [] ∧ state.gate ≠ .closed := by
      simpa [isOver, List.all_eq_true.mpr ended] using unfinished
    obtain ⟨next, rest, waits⟩ := List.exists_cons_of_ne_nil left.1
    obtain ⟨free, freed⟩ := Nat.exists_eq_succ_of_ne_zero (by omega : state.free ≠ 0)
    cases gate : state.gate with
    | closed => exact absurd gate left.2
    | asking => exact ⟨.ask, rfl, by simp [move?, gate, waits]⟩
    | awaiting => exact ⟨.start, rfl, by simp [move?, gate, waits, freed]⟩

-----------------------------------------------------------------------------------------
-- The order in which a pool is run
-----------------------------------------------------------------------------------------

theorem follow_of_move {state next later : State σ α} {choice : Choice σ} {rest : List (Choice σ)}
    (moves : state.move? answer choice = some next)
    (followed : next.follow answer rest = some later)
    : state.follow answer (choice :: rest) = some later := by
  rw [follow, moves]
  exact followed

/-- A task can be brought to its end at one go, by induction over its requests. -/
theorem follow_task (answer : Answer σ) (script : Script α) (state : State σ α) {index : Nat}
    {record : List Exchange} (found : state.tasks[index]? = some ⟨script, record, false⟩)
    : ∃ choices,
        state.follow answer choices
          = some { state with
              world := (script.run answer state.world).2
              free := state.free + 1
              tasks := state.tasks.set index
                ⟨.done (script.run answer state.world).1,
                  record ++ script.exchanges answer state.world, true⟩ } := by
  induction script generalizing state record with
  | done value =>
      refine ⟨[.finish index], ?_⟩
      simp [follow, move?, found, Script.run, Script.exchanges]
  | call request next ih =>
      have within : index < state.tasks.length := (List.getElem?_eq_some_iff.mp found).1
      obtain ⟨choices, followed⟩ := ih (answer request state.world).1
        { state with
          world := (answer request state.world).2
          tasks := state.tasks.set index ⟨next (answer request state.world).1,
            record ++ [⟨request, (answer request state.world).1⟩], false⟩ }
        (List.getElem?_set_self within)
      refine ⟨.advance index :: choices, ?_⟩
      simp only [follow, move?, found, Option.bind_some]
      rw [followed]
      simp [Script.run, Script.exchanges]

/-- A pool of which some tasks are over and others have not made a request yet. -/
def unbegun (world : σ) (gate : Gate) (free : Nat) (ended : List (Task α))
    (started waiting : List (Script α))
    : State σ α :=
  { world, gate, free, waiting
    tasks := ended ++ started.map fun procedure => { rest := procedure } }

theorem isOver_unbegun {world : σ} {gate : Gate} {free : Nat} {ended : List (Task α)}
    {waiting : List (Script α)} (complete : ended.all (·.isOver) = true)
    (left : waiting = [] ∨ gate = .closed)
    : (unbegun world gate free ended [] waiting).isOver = true := by
  simpa [unbegun, isOver, complete] using left

theorem results_unbegun (world : σ) (gate : Gate) (free : Nat) (ended tasks : List (Task α))
    (waiting : List (Script α))
    : (unbegun world gate free (ended ++ tasks) [] waiting).results
      = ended.filterMap Task.value? ++ tasks.filterMap Task.value? := by
  simp [unbegun, results]

theorem move_ask (answer : Answer σ) (world : σ) (free : Nat) (ended : List (Task α))
    (started : List (Script α)) (next : Script α) (rest : List (Script α))
    : (unbegun world .asking free ended started (next :: rest)).move? answer .ask
      = some (unbegun (isCancelled.run answer world).2
          (if (isCancelled.run answer world).1 then .closed else .awaiting)
          free ended started (next :: rest)) :=
  rfl

theorem move_start (answer : Answer σ) (world : σ) (free : Nat) (ended : List (Task α))
    (started : List (Script α)) (next : Script α) (rest : List (Script α))
    : (unbegun world .awaiting (free + 1) ended started (next :: rest)).move? answer .start
      = some (unbegun world .asking free ended (started ++ [next]) rest) := by
  simp [unbegun, move?]

/-- Procedures that have been started are brought to their ends one after the other. -/
theorem follow_inTurn (answer : Answer σ) (world : σ) (gate : Gate) (free : Nat)
    (ended : List (Task α)) (started waiting : List (Script α))
    : ∃ choices tasks,
        (unbegun world gate free ended started waiting).follow answer choices
            = some (unbegun ((inTurn started).run answer world).2 gate (free + started.length)
                (ended ++ tasks) [] waiting)
        ∧ tasks.all (·.isOver) = true
        ∧ tasks.filterMap Task.value? = ((inTurn started).run answer world).1 := by
  induction started generalizing world free ended with
  | nil => exact ⟨[], [], by simp [follow, inTurn, Script.run], rfl, rfl⟩
  | cons first rest ih =>
      let task : Task α :=
        ⟨.done (first.run answer world).1, [] ++ first.exchanges answer world, true⟩
      have found : (unbegun world gate free ended (first :: rest) waiting).tasks[ended.length]?
          = some { rest := first } := by
        simp [unbegun]
      obtain ⟨choices, followed⟩ := follow_task answer first _ found
      have ran : (unbegun world gate free ended (first :: rest) waiting).follow answer choices
          = some (unbegun (first.run answer world).2 gate (free + 1) (ended ++ [task]) rest
              waiting) := by
        rw [followed]
        simp [unbegun, task]
      obtain ⟨more, tasks, follows, complete, values⟩ := ih (first.run answer world).2 (free + 1)
        (ended ++ [task])
      refine ⟨choices ++ more, task :: tasks, ?_, by simpa [task] using complete, ?_⟩
      · have freed : free + (first :: rest).length = free + 1 + rest.length := by
          rw [List.length_cons]
          omega
        have regrouped : ended ++ task :: tasks = (ended ++ [task]) ++ tasks :=
          List.append_cons ended task tasks
        rw [follow_append, ran, inTurn, run_bind, run_bind, run_pure, freed, regrouped]
        exact follows
      · rw [inTurn, run_bind, run_bind, run_pure, ← values]
        rfl

/-- By induction over the procedures that wait. -/
theorem follow_continueWith (answer : Answer σ) {workers free : Nat}
    {started : List (Script α)} (waiting : List (Script α))
    (lent : free + started.length = max workers 1) (world : σ) {ended : List (Task α)}
    (complete : ended.all (·.isOver) = true)
    : ∃ choices later,
        (unbegun world .asking free ended started waiting).follow answer choices = some later
        ∧ later.isOver = true
        ∧ later.world = ((continueWith workers free started waiting).run answer world).2
        ∧ later.results = ended.filterMap Task.value?
            ++ ((continueWith workers free started waiting).run answer world).1 := by
  induction waiting generalizing free started world ended with
  | nil =>
      obtain ⟨choices, tasks, followed, allOver, values⟩ :=
        follow_inTurn answer world .asking free ended started []
      refine ⟨choices, _, followed, isOver_unbegun ?_ (.inl rfl), rfl, ?_⟩
      · rw [List.all_append, complete, allOver]
        rfl
      · rw [results_unbegun, values]
        rfl
  | cons next rest ih =>
      have asks := move_ask answer world free ended started next rest
      rw [continueWith_cons, run_bind]
      generalize (isCancelled.run answer world).2 = asked at asks ⊢
      cases learned : (isCancelled.run answer world).1 with
      | true =>
          rw [learned, if_pos rfl] at asks
          obtain ⟨choices, tasks, followed, allOver, values⟩ :=
            follow_inTurn answer asked .closed free ended started (next :: rest)
          refine ⟨.ask :: choices, _, follow_of_move asks followed,
            isOver_unbegun ?_ (.inr rfl), rfl, ?_⟩
          · rw [List.all_append, complete, allOver]
            rfl
          · rw [results_unbegun, values]
            rfl
      | false =>
          rw [learned, if_neg nofun] at asks
          cases free with
          | succ free =>
              have still : free + (started ++ [next]).length = max workers 1 := by
                rw [List.length_append, List.length_singleton]
                omega
              obtain ⟨choices, later, followed, rest_⟩ := ih still asked complete
              exact ⟨.ask :: .start :: choices, later,
                follow_of_move asks (follow_of_move (move_start ..) followed), rest_⟩
          -- All that have a worker are brought to their ends before the next one is started, which
          -- is the order of the pool although one of them would do.
          | zero =>
              obtain ⟨choices, tasks, followed, allOver, values⟩ :=
                follow_inTurn answer asked .awaiting 0 ended started (next :: rest)
              have freed : 0 + started.length = workers - 1 + 1 := by omega
              have still : workers - 1 + [next].length = max workers 1 := by
                rw [List.length_singleton]
                omega
              have allEnded : (ended ++ tasks).all (·.isOver) = true := by
                rw [List.all_append, complete, allOver]
                rfl
              obtain ⟨more, later, follows, isOver, sameWorld, results⟩ :=
                ih still ((inTurn started).run answer asked).2 allEnded
              rw [freed] at followed
              refine ⟨.ask :: (choices ++ .start :: more), later, follow_of_move asks ?_, isOver,
                ?_, ?_⟩
              · rw [follow_append, followed]
                exact follow_of_move (move_start ..) follows
              · rw [sameWorld, if_neg nofun, run_bind, run_bind, run_pure]
              · rw [results, List.filterMap_append, values, List.append_assoc, if_neg nofun,
                  run_bind, run_bind, run_pure]

/-- Running a pool is one of the orders in which its procedures can make their requests. -/
theorem follow_run (answer : Answer σ) (workers : Nat) (procedures : List (Script α)) (world : σ)
    : ∃ choices later,
        (initial workers world procedures).follow answer choices = some later
        ∧ later.isOver = true
        ∧ later.world = ((run workers procedures).run answer world).2
        ∧ later.results = ((run workers procedures).run answer world).1 := by
  have lent : max workers 1 + ([] : List (Script α)).length = max workers 1 := Nat.add_zero _
  have complete : ([] : List (Task α)).all (·.isOver) = true := rfl
  exact follow_continueWith answer procedures lent world complete

end State

end DumpTransfer.Migration.Pool
