import DumpTransfer.Proofs.Attachment.Settling
import DumpTransfer.Proofs.Migration.Reporting
import DumpTransfer.Proofs.Warehouse.Destinations

/-! What a pass over the foreign keys of a dump is made of, against a warehouse that keeps them by
a rule: attempts one after the other, one for each foreign key. No attempt sets anything back, so
what one of them has brought about lasts to the end of the pass.
-/

namespace DumpTransfer.Attachment

open Script

-----------------------------------------------------------------------------------------
-- What a pass is made of
-----------------------------------------------------------------------------------------

/-- A foreign key for the schema of the database that declares it. -/
structure Assignment where
  target : Destination
  key : ForeignKey

/-- The foreign keys that a database declares, if there is a schema for it. -/
def Plan.assignmentsOf (plan : Plan) (content : Dump.Database) : List Assignment :=
  match Destination.of? plan.catalog content.name with
  | .error _ => []
  | .ok target => (declaredKeys content).map fun key => ⟨target, key⟩

/-- The foreign keys that databases of a dump declare, as often as each is named. -/
def Plan.assignmentsAmong (plan : Plan) (lines : List Dump.Line) (names : List Text)
    : List Assignment :=
  (names.filter (Dump.databaseNames lines).contains).flatMap fun name =>
    plan.assignmentsOf (Dump.extractOne plan.interval name lines).value

/-- The foreign keys that a pass is to settle, in order. -/
def Plan.assignments (plan : Plan) (lines : List Dump.Line) : List Assignment :=
  plan.assignmentsAmong lines plan.databases

/-- A foreign key that is settled in a state of the surroundings. -/
structure Attempt (σ : Type) where
  assignment : Assignment
  state : σ

section Attempts

variable {σ : Type} (answer : Answer σ) (validates : Bool)

/-- What is reported of an attempt. -/
def Attempt.result (attempt : Attempt σ) : KeyResult :=
  let assignment := attempt.assignment
  resultOf validates assignment.target.schema assignment.key
    ((settle assignment.target validates assignment.key).run answer attempt.state).1

/-- The statements that are executed in an attempt. -/
def Attempt.statements (attempt : Attempt σ) : List Text :=
  (settle attempt.assignment.target validates attempt.assignment.key).statements answer
    attempt.state

/-- How the foreign key of an attempt stands. -/
def Attempt.presence (attempt : Attempt σ) (held : Held) : KeyPresence :=
  held.presence attempt.assignment.target attempt.assignment.key

/-- A pass that comes to a report is made of attempts: its results and the statements that it
executes are theirs, and they are for the foreign keys of the plan in order, for all of them
unless the pass is cancelled.
-/
structure Report.Comprises (report : Report) (plan : Plan) (lines : List Dump.Line) (before : σ)
    (attempts : List (Attempt σ))
    : Prop where
  results : report.results = attempts.map (Attempt.result answer plan.validates)
  statements
    : (run plan lines).statements answer before
      = attempts.flatMap (Attempt.statements answer plan.validates)
  order : attempts.map (·.assignment) <+: plan.assignments lines
  complete
    : report.isCancelled = false → attempts.map (·.assignment) = plan.assignments lines

end Attempts

-----------------------------------------------------------------------------------------
-- Attempts one after the other
-----------------------------------------------------------------------------------------

section Chains

variable {σ : Type} {rule : Rule} {view : σ → Holdings} {validates : Bool}

/-- What an attempt comes to by the rule, and what is held then. -/
def Attempt.foretold (rule : Rule) (view : σ → Holdings) (validates : Bool) (attempt : Attempt σ)
    : Option Status × Held :=
  rule.settle attempt.assignment.target validates attempt.assignment.key
    (view attempt.state).held

/-- Attempts one after the other, each in a state that the ones before have led to, up to one
with which no more is attempted.
-/
inductive Made (rule : Rule) (view : σ → Holdings) (validates : Bool)
    : List Assignment → Held → List (Attempt σ) → Held → Prop where
  | stopped (assignments : List Assignment) (held : Held)
      : Made rule view validates assignments held [] held
  | next {assignments : List Assignment} {attempts : List (Attempt σ)} {last : Held}
      (assignment : Assignment) (state : σ) (settled : rule.Settled (view state))
      (rest
        : Made rule view validates assignments
            (Attempt.foretold rule view validates ⟨assignment, state⟩).2 attempts last)
      : Made rule view validates (assignment :: assignments) (view state).held
          (⟨assignment, state⟩ :: attempts) last

/-- Attempts for others may follow when none is left. -/
theorem Made.append {first second : List Assignment} {held between last : Held}
    {attempts others : List (Attempt σ)}
    (before : Made rule view validates first held attempts between)
    (all : attempts.length = first.length)
    (after : Made rule view validates second between others last)
    : Made rule view validates (first ++ second) held (attempts ++ others) last := by
  induction before with
  | stopped assignments held =>
      obtain rfl := List.length_eq_zero_iff.mp all.symm
      exact after
  | next assignment state settled rest ih =>
      exact .next assignment state settled (ih (Nat.succ.inj all) after)

/-- More may be left when no more is attempted. -/
theorem Made.leave {first : List Assignment} {held last : Held} {attempts : List (Attempt σ)}
    (made : Made rule view validates first held attempts last) (second : List Assignment)
    : Made rule view validates (first ++ second) held attempts last := by
  induction made with
  | stopped assignments held => exact .stopped _ held
  | next assignment state settled rest ih => exact .next assignment state settled ih

theorem Made.held_eq {assignments : List Assignment} {held last : Held}
    (made : Made rule view validates assignments held [] last)
    : last = held := by
  cases made
  rfl

theorem Made.order {assignments : List Assignment} {held last : Held}
    {attempts : List (Attempt σ)}
    (made : Made rule view validates assignments held attempts last)
    : attempts.map (·.assignment) <+: assignments := by
  induction made with
  | stopped assignments held => exact List.nil_prefix
  | next assignment state settled rest ih => exact (List.prefix_cons_inj assignment).mpr ih

/-- Nothing that is held is set back, by induction over the attempts. -/
theorem Made.held_le {assignments : List Assignment} {held last : Held}
    {attempts : List (Attempt σ)}
    (made : Made rule view validates assignments held attempts last)
    : held ≤ last := by
  induction made with
  | stopped assignments held => exact le_refl held
  | next assignment state settled rest ih => exact le_trans (Rule.le_settle _) ih

/-- Every attempt starts with what was held before all of them, and what it has done lasts. -/
theorem Made.between {assignments : List Assignment} {held last : Held}
    {attempts : List (Attempt σ)}
    (made : Made rule view validates assignments held attempts last)
    : ∀ attempt ∈ attempts,
        attempt.assignment ∈ assignments
        ∧ rule.Settled (view attempt.state)
        ∧ held ≤ (view attempt.state).held
        ∧ (attempt.foretold rule view validates).2 ≤ last := by
  induction made with
  | stopped assignments held => nofun
  | next assignment state settled rest ih =>
      intro attempt member
      rcases List.mem_cons.mp member with rfl | later
      · exact ⟨List.mem_cons_self, settled, le_refl _, rest.held_le⟩
      · obtain ⟨known, closed, started, lasting⟩ := ih attempt later
        exact ⟨List.mem_cons_of_mem _ known, closed, le_trans (Rule.le_settle _) started, lasting⟩

/-- Attempts for parts of the same list are for the same foreign keys one by one. -/
theorem zip_assignment {assignments : List Assignment} {attempts others : List (Attempt σ)}
    (order : attempts.map (·.assignment) <+: assignments)
    (otherOrder : others.map (·.assignment) <+: assignments)
    : ∀ pair ∈ attempts.zip others, pair.1.assignment = pair.2.assignment := by
  induction attempts generalizing assignments others with
  | nil => nofun
  | cons attempt attempts ih =>
      cases others with
      | nil => nofun
      | cons other others =>
          cases assignments with
          | nil => simp at order
          | cons assignment assignments =>
              rw [List.map_cons, List.cons_prefix_cons] at order otherOrder
              intro pair member
              rw [List.zip_cons_cons] at member
              rcases List.mem_cons.mp member with rfl | member
              · exact order.1.trans otherOrder.1.symm
              · exact ih order.2 otherOrder.2 pair member

end Chains

-----------------------------------------------------------------------------------------
-- Parts of a pass
-----------------------------------------------------------------------------------------

section Parts

variable {σ : Type} {answer : Answer σ} {rule : Rule} {view : σ → Holdings} {validates : Bool}

/-- A part of a pass that is to settle foreign keys and is made of attempts. All of them are
settled unless the pass is cancelled by its end, and none is if it was cancelled before.
-/
structure Part (answer : Answer σ) (rule : Rule) (view : σ → Holdings) (validates : Bool)
    (assignments : List Assignment) (before : σ) (results : List KeyResult)
    (statements : List Text) (after : σ) (attempts : List (Attempt σ))
    : Prop where
  made : Made rule view validates assignments (view before).held attempts (view after).held
  results : results = attempts.map (Attempt.result answer validates)
  statements : statements = attempts.flatMap (Attempt.statements answer validates)
  complete : ¬ Cancelled answer after → attempts.length = assignments.length
  stopped : Cancelled answer before → attempts = []

/-- A part with nothing to settle. -/
theorem Part.empty {before after : σ} (same : (view after).held = (view before).held)
    : Part answer rule view validates [] before [] [] after [] where
  made := same ▸ .stopped [] _
  results := rfl
  statements := rfl
  complete _ := rfl
  stopped _ := rfl

/-- A part after which another one follows. Cancellation in the first leaves the second out. -/
theorem Part.append {first second : List Assignment} {before between after : σ}
    {results others : List KeyResult} {statements more : List Text}
    {attempts later : List (Attempt σ)}
    (part : Part answer rule view validates first before results statements between attempts)
    (next : Part answer rule view validates second between others more after later)
    (beginning : Cancelled answer before → Cancelled answer between)
    (ending : Cancelled answer between → Cancelled answer after)
    : Part answer rule view validates (first ++ second) before (results ++ others)
        (statements ++ more) after (attempts ++ later) where
  made := by
    by_cases cancelled : Cancelled answer between
    -- The first part need not have come to its end, but then nothing of the second is attempted.
    · have made := next.made
      rw [next.stopped cancelled] at made ⊢
      rw [made.held_eq, List.append_nil]
      exact part.made.leave second
    · exact part.made.append (part.complete cancelled) next.made
  results := by rw [part.results, next.results, List.map_append]
  statements := by rw [part.statements, next.statements, List.flatMap_append]
  complete uncancelled := by
    rw [List.length_append, List.length_append, next.complete uncancelled,
      part.complete fun cancelled => uncancelled (ending cancelled)]
  stopped cancelled := by
    rw [part.stopped cancelled, next.stopped (beginning cancelled), List.append_nil]

/-- What is asked before a part of a pass is no matter if nothing that is held changes by it and
no statement is executed.
-/
theorem Part.after_request {assignments : List Assignment} {before between after : σ}
    {results : List KeyResult} {statements : List Text} {attempts : List (Attempt σ)}
    (part : Part answer rule view validates assignments between results statements after attempts)
    (same : (view between).held = (view before).held)
    (beginning : Cancelled answer before → Cancelled answer between)
    : Part answer rule view validates assignments before results statements after attempts where
  made := same ▸ part.made
  results := part.results
  statements := part.statements
  complete := part.complete
  stopped cancelled := part.stopped (beginning cancelled)

variable (keeps : Keeps answer rule view)
include keeps

/-- One foreign key, after it has been asked whether to go on. -/
theorem settle_part {target : Destination} {key : ForeignKey}
    (understands : rule.Understands target key) {state asked : σ}
    (uncancelled : ¬ Cancelled answer state) (same : view asked = view state)
    (settled : rule.Settled (view asked))
    : Part answer rule view validates [⟨target, key⟩] state
        [resultOf validates target.schema key
          ((settle target validates key).run answer asked).1]
        ((settle target validates key).statements answer asked)
        ((settle target validates key).run answer asked).2 [⟨⟨target, key⟩, asked⟩] where
  made := by
    have foretold := settle_foretold keeps understands validates settled
    rw [← same, foretold.held]
    exact .next ⟨target, key⟩ asked settled (.stopped [] _)
  results := rfl
  statements := (List.append_nil _).symm
  complete _ := rfl
  stopped cancelled := absurd cancelled uncancelled

variable (forGood : CancelsForGood answer)
include forGood

/-- By induction over the foreign keys. -/
theorem settleKeys_part {target : Destination} {keys : List ForeignKey}
    (understands : ∀ key ∈ keys, rule.Understands target key) {state : σ}
    (settled : rule.Settled (view state))
    : ∃ attempts,
        Part answer rule view validates (keys.map (⟨target, ·⟩)) state
          ((settleKeys target validates target.schema keys).run answer state).1
          ((settleKeys target validates target.schema keys).statements answer state)
          ((settleKeys target validates target.schema keys).run answer state).2 attempts := by
  induction keys generalizing state with
  | nil => exact ⟨[], Part.empty rfl⟩
  | cons key rest ih =>
      have same : view (isCancelled.run answer state).2 = view state := keeps.follows _ _
      have lasting : Cancelled answer state →
          Cancelled answer (isCancelled.run answer state).2 := forGood.run isCancelled
      simp only [settleKeys, run_bind, statements_bind, statements_isCancelled, List.nil_append]
      cases learned : (isCancelled.run answer state).1 with
      | true =>
          refine ⟨[], congrArg Holdings.held same ▸ .stopped _ _, rfl, rfl, ?_, fun _ => rfl⟩
          exact fun uncancelled => absurd (lasting learned) uncancelled
      | false =>
          have uncancelled : ¬ Cancelled answer state :=
            fun cancelled => absurd (learned.symm.trans cancelled) nofun
          rw [← same] at settled
          have known : rule.Understands target key := understands key (by simp)
          have first : Part answer rule view validates [⟨target, key⟩] state _ _ _ _ :=
            settle_part keeps known uncancelled same settled
          have closed := (settle_foretold keeps known validates settled).settled
          obtain ⟨attempts, others⟩ := ih (fun key member => understands key (by simp [member]))
            closed
          have both := first.append others (fun cancelled => absurd cancelled uncancelled)
            (forGood.run _)
          exact ⟨_, by simpa [run_bind, statements_bind] using both⟩

theorem settleDatabase_part {plan : Plan} {content : Dump.Database}
    (understands : ∀ assignment ∈ plan.assignmentsOf content,
      rule.Understands assignment.target assignment.key)
    {state : σ} {results : List KeyResult}
    (returned : ((settleDatabase plan content).run answer state).1 = .ok results)
    : ∃ attempts,
        Part answer rule view plan.validates (plan.assignmentsOf content) state results
          ((settleDatabase plan content).statements answer state)
          ((settleDatabase plan content).run answer state).2 attempts := by
  unfold settleDatabase at returned ⊢
  unfold Plan.assignmentsOf at understands ⊢
  cases found : Destination.of? plan.catalog content.name with
  | error failure =>
      rw [found] at returned
      cases returned
  | ok target =>
      rw [found] at returned understands
      dsimp only at returned understands ⊢
      rw [← Destination.schema_of found] at returned ⊢
      cases keys : declaredKeys content with
      | nil =>
          rw [keys] at returned
          cases returned
          exact ⟨[], Part.empty rfl⟩
      | cons key rest =>
          rw [keys] at returned understands
          dsimp only at returned ⊢
          rw [run_bind] at returned ⊢
          rw [statements_bind]
          -- A session of its own: what an earlier one has left open is forgotten.
          have fresh : view ((ask (.openSession target)).run answer state).2
              = { view state with pending := [] } := keeps.follows _ _
          have lasting : Cancelled answer state →
              Cancelled answer ((ask (.openSession target)).run answer state).2 :=
            forGood.run _
          have silent : (ask (.openSession target)).statements answer state = [] := rfl
          rw [silent, List.nil_append]
          generalize (ask (.openSession target)).run answer state = opened
            at returned fresh lasting ⊢
          obtain ⟨⟨failure⟩ | ⟨⟩, opened⟩ := opened
          · cases returned
          · dsimp only at returned fresh lasting ⊢
            rw [run_bind] at returned ⊢
            rw [statements_bind]
            cases returned
            obtain ⟨attempts, part⟩
                : ∃ attempts, Part answer rule view plan.validates _ opened _ _ _ attempts :=
              settleKeys_part keeps forGood
                (fun key member => understands ⟨target, key⟩ (List.mem_map_of_mem member))
                (.inl (congrArg Holdings.pending fresh))
            have same : (view opened).held = (view state).held := by rw [fresh]
            have whole := part.after_request same lasting
            exact ⟨attempts, by simpa using whole⟩

omit forGood in
/-- Reading the dump changes nothing that is held. -/
theorem view_readPass {α : Type} (pass : Dump.Pass α) (state : σ)
    : view ((readPass pass).run answer state).2 = view state := by
  rw [readPass, run_bind, run_pure]
  induction pass.progress generalizing state with
  | nil => rfl
  | cons place rest ih => exact (ih _).trans (keeps.follows _ _)

omit keeps forGood in
theorem statements_readPass {α : Type} (pass : Dump.Pass α) (state : σ)
    : (readPass pass).statements answer state = [] :=
  (asksOnly_readPass (fun _ _ _ => nofun) pass).statements_eq_nil answer state

omit keeps in
/-- A part whose results are put before those of the rest of the pass. -/
theorem Part.before_rest {first second : List Assignment} {before between : σ}
    {results all : List KeyResult} {statements : List Text} {attempts : List (Attempt σ)}
    (part : Part answer rule view validates first before results statements between attempts)
    (beginning : Cancelled answer before → Cancelled answer between)
    {rest : Script (Except Failure (List KeyResult × Bool))}
    (others : ∀ {results wasStopped},
      (rest.run answer between).1 = .ok (results, wasStopped) →
        ∃ attempts,
          Part answer rule view validates second between results (rest.statements answer between)
            (rest.run answer between).2 attempts
          ∧ (wasStopped = true → Cancelled answer (rest.run answer between).2))
    {wasStopped : Bool}
    (returned : ((rest.run answer between).1.map fun (others, wasStopped) =>
      (results ++ others, wasStopped)) = .ok (all, wasStopped))
    : ∃ attempts,
        Part answer rule view validates (first ++ second) before all
          (statements ++ rest.statements answer between) (rest.run answer between).2 attempts
        ∧ (wasStopped = true → Cancelled answer (rest.run answer between).2) := by
  cases followed : (rest.run answer between).1 with
  | error failure =>
      rw [followed] at returned
      cases returned
  | ok followed_ =>
      obtain ⟨later, next, stopped⟩ := others followed
      rw [followed] at returned
      cases returned
      exact ⟨attempts ++ later, part.append next beginning (forGood.run _), stopped⟩

/-- By induction over the names, some of which the dump may not have. -/
theorem settleDatabases_part {plan : Plan} {lines : List Dump.Line} {names : List Text}
    (understands : ∀ assignment ∈ plan.assignmentsAmong lines names,
      rule.Understands assignment.target assignment.key)
    {state : σ} {results : List KeyResult} {wasStopped : Bool}
    (returned : ((settleDatabases plan lines (Dump.databaseNames lines) names).run
      answer state).1 = .ok (results, wasStopped))
    : ∃ attempts,
        Part answer rule view plan.validates (plan.assignmentsAmong lines names) state results
          ((settleDatabases plan lines (Dump.databaseNames lines) names).statements answer state)
          ((settleDatabases plan lines (Dump.databaseNames lines) names).run answer state).2
          attempts
        ∧ (wasStopped = true →
            Cancelled answer ((settleDatabases plan lines (Dump.databaseNames lines) names).run
              answer state).2) := by
  induction names generalizing state results wasStopped with
  | nil =>
      cases returned
      exact ⟨[], Part.empty rfl, nofun⟩
  | cons name rest ih =>
      have same : view (isCancelled.run answer state).2 = view state := keeps.follows _ _
      have lasting : Cancelled answer state →
          Cancelled answer (isCancelled.run answer state).2 := forGood.run isCancelled
      simp only [settleDatabases, run_bind, statements_bind, statements_isCancelled,
        List.nil_append] at returned ⊢
      cases learned : (isCancelled.run answer state).1 with
      | true =>
          rw [learned] at returned
          cases returned
          refine ⟨[], ⟨congrArg Holdings.held same ▸ .stopped _ _, rfl, rfl, ?_, fun _ => rfl⟩, ?_⟩
          · exact fun uncancelled => absurd (lasting learned) uncancelled
          · exact fun _ => lasting learned
      | false =>
          rw [learned] at returned
          generalize (isCancelled.run answer state).2 = asked at same lasting returned ⊢
          cases known : (Dump.databaseNames lines).contains name with
          | false =>
              have unlisted : plan.assignmentsAmong lines (name :: rest)
                  = plan.assignmentsAmong lines rest := by
                rw [Plan.assignmentsAmong, List.filter_cons_of_neg (known ▸ nofun)]
                rfl
              rw [unlisted] at understands ⊢
              rw [known] at returned
              obtain ⟨attempts, part, stopped⟩ := ih understands returned
              exact ⟨attempts, part.after_request (congrArg Holdings.held same) lasting, stopped⟩
          | true =>
              have listed : plan.assignmentsAmong lines (name :: rest)
                  = plan.assignmentsOf (Dump.extractOne plan.interval name lines).value
                    ++ plan.assignmentsAmong lines rest := by
                rw [Plan.assignmentsAmong, List.filter_cons_of_pos known]
                rfl
              rw [listed] at understands ⊢
              have unread := view_readPass keeps (Dump.extractOne plan.interval name lines) asked
              have reading : Cancelled answer asked → Cancelled answer
                  ((readPass (Dump.extractOne plan.interval name lines)).run answer asked).2 :=
                forGood.run _
              simp only [known, Bool.not_true, Bool.false_eq_true, if_false, run_bind,
                statements_bind, statements_readPass, List.nil_append, Migration.readPass_run]
                at returned ⊢
              generalize ((readPass (Dump.extractOne plan.interval name lines)).run answer asked).2
                = ready at returned unread reading ⊢
              cases settled : ((settleDatabase plan
                  (Dump.extractOne plan.interval name lines).value).run answer ready).1 with
              | error failure =>
                  rw [settled] at returned
                  cases returned
              | ok first =>
                  rw [settled] at returned
                  obtain ⟨attempts, part⟩ := settleDatabase_part keeps forGood
                    (fun assignment member => understands assignment (by simp [member])) settled
                  have whole := part.after_request (congrArg Holdings.held (unread.trans same))
                    fun cancelled => reading (lasting cancelled)
                  simp only [run_bind, run_pure, statements_bind, statements_pure, List.append_nil]
                    at returned ⊢
                  exact whole.before_rest forGood
                    (fun cancelled => forGood.run _ (reading (lasting cancelled)))
                    (ih fun assignment member => understands assignment (by simp [member]))
                    returned

-----------------------------------------------------------------------------------------
-- Whole passes
-----------------------------------------------------------------------------------------

/-- A pass is made of attempts one after the other. -/
theorem run_comprises {plan : Plan} {lines : List Dump.Line}
    (understands : ∀ assignment ∈ plan.assignments lines,
      rule.Understands assignment.target assignment.key)
    {state : σ} {report : Report}
    (returned : ((run plan lines).run answer state).1 = .ok report)
    : ∃ attempts,
        report.Comprises answer plan lines state attempts
        ∧ Made rule view plan.validates (plan.assignments lines) (view state).held attempts
            (view ((run plan lines).run answer state).2).held := by
  have unread := view_readPass keeps (Dump.scanNames plan.interval lines) state
  have names : (Dump.scanNames plan.interval lines).value = Dump.databaseNames lines := rfl
  -- Neither reading the dump nor asking about the cancellation at the end executes anything.
  have executed : (run plan lines).statements answer state
      = (settleDatabases plan lines (Dump.databaseNames lines) plan.databases).statements answer
          ((readPass (Dump.scanNames plan.interval lines)).run answer state).2 := by
    unfold run
    rw [statements_bind, statements_readPass, statements_bind, Migration.readPass_run, names,
      List.nil_append]
    refine (congrArg (_ ++ ·) ?_).trans (List.append_nil _)
    split <;> rfl
  unfold run at returned ⊢
  rw [run_bind, Migration.readPass_run, names, run_bind] at returned ⊢
  generalize ((readPass (Dump.scanNames plan.interval lines)).run answer state).2 = ready
    at unread executed returned ⊢
  cases settled : ((settleDatabases plan lines (Dump.databaseNames lines) plan.databases).run
      answer ready).1 with
  | error failure =>
      rw [settled] at returned
      cases returned
  | ok settled_ =>
      obtain ⟨results, wasStopped⟩ := settled_
      obtain ⟨attempts, part, stopped⟩ := settleDatabases_part keeps forGood understands settled
      rw [settled] at returned
      cases returned
      have same : view (isCancelled.run answer ((settleDatabases plan lines
            (Dump.databaseNames lines) plan.databases).run answer ready).2).2
          = view ((settleDatabases plan lines (Dump.databaseNames lines)
            plan.databases).run answer ready).2 := keeps.follows _ _
      have made := part.made
      rw [unread, ← same] at made
      refine ⟨attempts, ⟨part.results, executed.trans part.statements, part.made.order, ?_⟩, made⟩
      -- A pass that is not cancelled at its end has not been cancelled before.
      intro uncancelled
      have goes := (Bool.or_eq_false_iff.mp uncancelled).2
      have complete := part.complete fun cancelled => absurd (goes.symm.trans cancelled) nofun
      exact part.made.order.eq_of_length (by rw [List.length_map, complete])

end Parts

end DumpTransfer.Attachment
