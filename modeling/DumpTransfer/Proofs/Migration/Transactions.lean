import DumpTransfer.Migration.Run
import DumpTransfer.Proofs.Migration.DryRun
import DumpTransfer.Proofs.Migration.Pool
import Mathlib.Algebra.GroupWithZero.Nat

/-! What a real run asks of the warehouse for a table, and what it reports. All of it is one
transaction in a session of its own, with the statements in order up to the first that fails, and
the report says what became of it. For a database nothing is asked besides, except for its schema.
-/

namespace DumpTransfer.Migration

open Script

-----------------------------------------------------------------------------------------
-- Records of a table
-----------------------------------------------------------------------------------------

/-- The rows of a table that has been loaded. -/
def TableResult.loaded (result : TableResult) : Option Nat :=
  if result.success then some result.rows else none

namespace Job

variable (job : Job)

/-- A statement for the warehouse with the reply to it. -/
def executed (statement : Text) (reply : Except Failure Nat) : Exchange :=
  ⟨.execute job.target statement, reply⟩

/-- A session that could be opened. -/
def opened : Exchange :=
  ⟨.openSession job.target, .ok ()⟩

/-- A session that could not be opened. -/
def unopened (failure : Failure) : Exchange :=
  ⟨.openSession job.target, .error failure⟩

/-- Statements that are executed in order up to the first that fails, and the numbers of rows
that they came to if none did.
-/
inductive Executes : List Text → List Exchange → Option (List Nat) → Prop where
  | nothing : Executes [] [] (some [])
  | failed (statement : Text) (rest : List Text) (failure : Failure)
      : Executes (statement :: rest) [job.executed statement (.error failure)] none
  | succeeded {statements : List Text} {calls : List Exchange} {counts : Option (List Nat)}
      (statement : Text) (count : Nat) (rest : Executes statements calls counts)
      : Executes (statement :: statements) (job.executed statement (.ok count) :: calls)
          (counts.map (count :: ·))

/-- Whether all data statements of a table can be converted. -/
def ConvertsAll (insertions : List Text) : Prop :=
  ∀ insertion ∈ insertions, (job.convert insertion).success = true

instance (insertions : List Text) : Decidable (job.ConvertsAll insertions) :=
  inferInstanceAs (Decidable (∀ insertion ∈ insertions, _))

/-- The data statements for the warehouse that come before the first that cannot be converted.
What converts to nothing is left out.
-/
def dataStatements (insertions : List Text) : List Text :=
  (((insertions.map job.convert).takeWhile (·.success)).filter (! ·.isEmpty)).map (·.sql)

/-- The statements between the beginning of a table's transaction and its end. -/
def statements (table : Dump.Table) (definition : Text) : List Text :=
  ("DROP TABLE IF EXISTS " ++ job.target.qualify table.name ++ " CASCADE")
    :: (job.convert definition).sql :: job.dataStatements table.insertions

/-- The calls in an open session, and the rows of the table if they are committed: the counts of
the data statements, which come after the removal of the table and its definition.
-/
inductive Transacts (table : Dump.Table) (definition : Text)
    : List Exchange → Option Nat → Prop where
  | unbegun (failure : Failure)
      : Transacts table definition [job.executed "BEGIN" (.error failure)] none
  | rolledBack {calls : List Exchange} {counts : Option (List Nat)} (begun : Nat)
      (body : job.Executes (job.statements table definition) calls counts)
      (failed : counts = none ∨ ¬ job.ConvertsAll table.insertions)
      (reply : Except Failure Nat)
      : Transacts table definition
          (job.executed "BEGIN" (.ok begun) :: calls ++ [job.executed "ROLLBACK" reply]) none
  | uncommitted {calls : List Exchange} {counts : List Nat} (begun : Nat)
      (body : job.Executes (job.statements table definition) calls (some counts))
      (converted : job.ConvertsAll table.insertions) (failure : Failure)
      : Transacts table definition
          (job.executed "BEGIN" (.ok begun) :: calls ++ [job.executed "COMMIT" (.error failure)])
          none
  | committed {calls : List Exchange} {counts : List Nat} (begun : Nat)
      (body : job.Executes (job.statements table definition) calls (some counts))
      (converted : job.ConvertsAll table.insertions) (count : Nat)
      : Transacts table definition
          (job.executed "BEGIN" (.ok begun) :: calls ++ [job.executed "COMMIT" (.ok count)])
          (some (counts.drop 2).sum)

/-- The calls for a table, and its rows if it is loaded. -/
inductive Loads (table : Dump.Table) : List Exchange → Option Nat → Prop where
  | undefined (missing : table.definition = none) : Loads table [] none
  | unconverted {definition : Text} (found : table.definition = some definition)
      (refused : (job.convert definition).success = false)
      : Loads table [] none
  | unopened {definition : Text} (found : table.definition = some definition)
      (converted : (job.convert definition).success = true) (failure : Failure)
      : Loads table [job.unopened failure] none
  | opened {definition : Text} {calls : List Exchange} {rows : Option Nat}
      (found : table.definition = some definition)
      (converted : (job.convert definition).success = true)
      (transaction : job.Transacts table definition calls rows)
      : Loads table (job.opened :: calls) rows

/-- Whether the definition and all data statements of a table can be converted. -/
def Converts (table : Dump.Table) : Prop :=
  (∃ definition ∈ table.definition, (job.convert definition).success = true)
    ∧ job.ConvertsAll table.insertions

end Job

-----------------------------------------------------------------------------------------
-- What a record says
-----------------------------------------------------------------------------------------

namespace Job

variable {job : Job}

@[simp] theorem executed_succeeded {statement : Text} {reply : Except Failure Nat}
    : (job.executed statement reply).Succeeded ↔ ∃ count, reply = .ok count :=
  Iff.rfl

theorem opened_succeeded : job.opened.Succeeded :=
  rfl

theorem unopened_not_succeeded (failure : Failure) : ¬ (job.unopened failure).Succeeded :=
  nofun

/-- There are counts for all statements if and only if all of them succeeded. -/
theorem Executes.all_succeeded {statements : List Text} {calls : List Exchange}
    {counts : Option (List Nat)} (executes : job.Executes statements calls counts)
    : (∀ call ∈ calls, call.Succeeded) ↔ counts.isSome = true := by
  induction executes with
  | nothing => simp
  | failed statement rest failure => simp
  | succeeded statement count rest ih => simp [ih]

theorem Transacts.all_succeeded {table : Dump.Table} {definition : Text} {calls : List Exchange}
    {rows : Option Nat} (transaction : job.Transacts table definition calls rows)
    : (job.ConvertsAll table.insertions ∧ ∀ call ∈ calls, call.Succeeded)
      ↔ rows.isSome = true := by
  cases transaction with
  | unbegun failure => simp
  | rolledBack begun body failed reply =>
      have all := body.all_succeeded
      rcases failed with rfl | refused
      · simp only [Option.isSome_none, Bool.false_eq_true, iff_false] at all ⊢
        exact fun claimed => all fun call member => claimed.2 call (by simp [member])
      · simp [refused]
  | uncommitted begun body converted failure => simp
  | committed begun body converted count =>
      have all := body.all_succeeded.mpr rfl
      simpa [or_imp, forall_and, converted] using all

/-- A table is loaded if and only if everything can be converted and no call fails. -/
theorem Loads.all_succeeded {table : Dump.Table} {calls : List Exchange} {rows : Option Nat}
    (loads : job.Loads table calls rows)
    : (job.Converts table ∧ ∀ call ∈ calls, call.Succeeded) ↔ rows.isSome = true := by
  cases loads with
  | undefined missing => simp [Converts, missing]
  | unconverted found refused => simp [Converts, found, refused]
  | unopened found converted failure => simp [unopened_not_succeeded]
  | opened found converted transaction =>
      rw [← transaction.all_succeeded]
      simp [Converts, found, converted, opened_succeeded]

end Job

-----------------------------------------------------------------------------------------
-- The record that a table leaves
-----------------------------------------------------------------------------------------

namespace Job

variable {σ : Type} (answer : Answer σ) (job : Job)

@[simp] theorem dataStatements_nil : job.dataStatements [] = [] :=
  rfl

theorem dataStatements_refused {insertion : Text}
    (refused : (job.convert insertion).success = false) (rest : List Text)
    : job.dataStatements (insertion :: rest) = [] := by
  simp [dataStatements, refused]

theorem dataStatements_void {insertion : Text}
    (converted : (job.convert insertion).success = true)
    (void : (job.convert insertion).isEmpty = true) (rest : List Text)
    : job.dataStatements (insertion :: rest) = job.dataStatements rest := by
  simp [dataStatements, converted, void]

theorem dataStatements_converted {insertion : Text}
    (converted : (job.convert insertion).success = true)
    (held : (job.convert insertion).isEmpty = false) (rest : List Text)
    : job.dataStatements (insertion :: rest)
      = (job.convert insertion).sql :: job.dataStatements rest := by
  simp [dataStatements, converted, held]

/-- By induction over the data statements, with what has been counted before them. -/
theorem loadData_executes (number rows : Nat) (warnings insertions : List Text) (state : σ)
    : ∃ counts,
        job.Executes (job.dataStatements insertions)
          ((job.loadData number rows warnings insertions).exchanges answer state) counts
        ∧ ((job.loadData number rows warnings insertions).run answer state).1.result.toOption
          = if job.ConvertsAll insertions then counts.map (rows + ·.sum) else none := by
  induction insertions generalizing number rows warnings state with
  | nil => exact ⟨some [], .nothing, by simp [loadData, ConvertsAll, Except.toOption]⟩
  | cons insertion rest ih =>
      rw [loadData]
      cases converted : (job.convert insertion).success with
      | false =>
          rw [job.dataStatements_refused converted]
          exact ⟨some [], .nothing, by simp [ConvertsAll, converted, Except.toOption]⟩
      | true =>
          have convertsAll : job.ConvertsAll (insertion :: rest) ↔ job.ConvertsAll rest := by
            simp [ConvertsAll, converted]
          simp only [convertsAll, Bool.not_true, Bool.false_eq_true, if_false]
          cases void : (job.convert insertion).isEmpty with
          | true =>
              rw [job.dataStatements_void converted void]
              exact ih (number + 1) rows _ state
          | false =>
              rw [job.dataStatements_converted converted void]
              simp only [Bool.false_eq_true, if_false]
              rw [exchanges_bind, run_bind, execute, Script.execute, exchanges_ask, run_ask]
              rcases answer _ state with ⟨reply, later⟩
              cases reply with
              | error failure =>
                  exact ⟨none, .failed _ _ failure, by simp [Except.toOption]⟩
              | ok count =>
                  obtain ⟨counts, executes, result⟩ := ih (number + 1) (rows + count) _ later
                  refine ⟨counts.map (count :: ·), .succeeded _ count executes, ?_⟩
                  refine result.trans ?_
                  cases counts <;> simp [Nat.add_assoc]

/-- The statements of a table, and the sum of the counts after the first two. -/
theorem loadContent_executes (table : Dump.Table) (definition : Text) (warnings : List Text)
    (state : σ)
    : ∃ counts,
        job.Executes (job.statements table definition)
          ((job.loadContent table (job.convert definition).sql warnings).exchanges answer state)
          counts
        ∧ ((job.loadContent table (job.convert definition).sql warnings).run answer
            state).1.result.toOption
          = if job.ConvertsAll table.insertions then counts.map (·.drop 2 |>.sum) else none := by
  rw [loadContent, exchanges_bind, run_bind, execute, Script.execute, exchanges_ask, run_ask]
  rcases answer _ state with ⟨dropped, state⟩
  cases dropped with
  | error failure => exact ⟨none, .failed _ _ failure, by simp [Except.toOption]⟩
  | ok count =>
      dsimp only
      rw [exchanges_bind, run_bind, execute, Script.execute, exchanges_ask, run_ask]
      rcases answer _ state with ⟨created, state⟩
      cases created with
      | error failure =>
          refine ⟨none, .succeeded _ count (.failed _ _ failure), by simp [Except.toOption]⟩
      | ok other =>
          obtain ⟨counts, executes, result⟩ :=
            job.loadData_executes answer 1 0 warnings table.insertions state
          refine ⟨_, .succeeded _ count (.succeeded _ other executes), ?_⟩
          refine result.trans ?_
          cases counts <;> simp

theorem transact_transacts (table : Dump.Table) (definition : Text) (warnings : List Text)
    (state : σ)
    : job.Transacts table definition
        ((job.transact table (job.convert definition).sql warnings).exchanges answer state)
        ((job.transact table (job.convert definition).sql warnings).run answer
          state).1.result.toOption := by
  rw [transact, exchanges_bind, run_bind, execute, Script.execute, exchanges_ask, run_ask]
  rcases answer _ state with ⟨reply, state⟩
  cases reply with
  | error failure => exact .unbegun failure
  | ok begun =>
      dsimp only
      rw [exchanges_bind, run_bind]
      obtain ⟨counts, body, outcome⟩ :=
        job.loadContent_executes answer table definition warnings state
      generalize ran : (job.loadContent table _ warnings).run answer state = reached at outcome ⊢
      obtain ⟨⟨result, noted⟩, state⟩ := reached
      cases result with
      | error error =>
          have failed : counts = none ∨ ¬ job.ConvertsAll table.insertions := by
            by_cases converted : job.ConvertsAll table.insertions
            · rw [if_pos converted] at outcome
              exact .inl (Option.map_eq_none_iff.mp outcome.symm)
            · exact .inr converted
          exact .rolledBack begun body failed _
      | ok rows =>
          obtain ⟨converted, counted⟩ : job.ConvertsAll table.insertions
              ∧ some rows = counts.map (·.drop 2 |>.sum) := by
            by_cases converted : job.ConvertsAll table.insertions
            · rw [if_pos converted] at outcome
              exact ⟨converted, outcome⟩
            · rw [if_neg converted] at outcome
              cases outcome
          obtain ⟨counts, rfl, rfl⟩ := Option.map_eq_some_iff.mp counted.symm
          dsimp only
          rw [exchanges_bind, run_bind, execute, Script.execute, exchanges_ask, run_ask]
          rcases answer _ state with ⟨reply, state⟩
          cases reply with
          | error failure => exact .uncommitted begun body converted failure
          | ok count => exact .committed begun body converted count

theorem load_loads (table : Dump.Table) (loading : job.isDryRun = false) (state : σ)
    : job.Loads table ((job.load table).exchanges answer state)
        ((job.load table).run answer state).1.result.toOption := by
  rw [load]
  cases found : table.definition with
  | none => exact .undefined found
  | some definition =>
      simp only [loadDefined, loading, Bool.false_eq_true, if_false]
      cases converted : (job.convert definition).success with
      | false => exact .unconverted found converted
      | true =>
          simp only [Bool.not_true, Bool.false_eq_true, if_false]
          rw [loadInSession, exchanges_bind, run_bind, exchanges_ask, run_ask]
          rcases answer _ state with ⟨reply, state⟩
          cases reply with
          | error failure => exact .unopened found converted failure
          | ok _ =>
              have transaction := job.transact_transacts answer table definition
                (job.convert definition).warnings state
              exact .opened found converted transaction

/-- The result of a table that is loaded tells its rows, and that of any other tells none. -/
theorem loaded_tableResult (loaded : Loaded) (table : Text)
    : (loaded.tableResult table).loaded = loaded.result.toOption := by
  obtain ⟨result, warnings⟩ := loaded
  cases result <;> rfl

theorem perform_loads (table : Dump.Table) (loading : job.isDryRun = false) (state : σ)
    : job.Loads table ((job.perform table).exchanges answer state)
        ((job.perform table).run answer state).1.loaded := by
  rw [perform, exchanges_bind, run_bind, exchanges_pure, List.append_nil, run_pure,
    loaded_tableResult]
  exact job.load_loads answer table loading state

end Job

-----------------------------------------------------------------------------------------
-- Tables ask nothing but the warehouse
-----------------------------------------------------------------------------------------

/-- A request that is for a warehouse. -/
def IsCall (request : Request) : Prop :=
  request.isForWarehouse = true

namespace Job

variable (job : Job)

section Requests

variable {kind : Request → Prop} (executes : ∀ statement, kind (.execute job.target statement))
include executes

theorem execute_asksOnly (statement : Text) : (job.execute statement).AsksOnly kind :=
  asksOnly_ask (executes statement)

theorem loadData_asksOnly (number rows : Nat) (warnings insertions : List Text)
    : (job.loadData number rows warnings insertions).AsksOnly kind := by
  induction insertions generalizing number rows warnings with
  | nil => exact asksOnly_pure _
  | cons insertion rest ih =>
      rw [loadData]
      split
      · exact asksOnly_pure _
      · split
        · exact ih _ _ _
        · refine (job.execute_asksOnly executes _).bind fun reply => ?_
          cases reply with
          | error failure => exact asksOnly_pure _
          | ok count => exact ih _ _ _

theorem loadContent_asksOnly (table : Dump.Table) (definition : Text) (warnings : List Text)
    : (job.loadContent table definition warnings).AsksOnly kind := by
  refine (job.execute_asksOnly executes _).bind fun dropped => ?_
  cases dropped with
  | error failure => exact asksOnly_pure _
  | ok _ =>
      refine (job.execute_asksOnly executes _).bind fun created => ?_
      cases created with
      | error failure => exact asksOnly_pure _
      | ok _ => exact job.loadData_asksOnly executes _ _ _ _

theorem transact_asksOnly (table : Dump.Table) (definition : Text) (warnings : List Text)
    : (job.transact table definition warnings).AsksOnly kind := by
  refine (job.execute_asksOnly executes _).bind fun begun => ?_
  cases begun with
  | error failure => exact asksOnly_pure _
  | ok _ =>
      refine (job.loadContent_asksOnly executes table definition warnings).bind fun loaded => ?_
      cases loaded.result with
      | error error => exact (job.execute_asksOnly executes _).bind fun _ => asksOnly_pure _
      | ok rows =>
          refine (job.execute_asksOnly executes _).bind fun committed => ?_
          cases committed with
          | error failure => exact asksOnly_pure _
          | ok _ => exact asksOnly_pure _

/-- Loading a table opens sessions for the target of the job and executes statements in them, and
asks nothing else.
-/
theorem perform_asksOnly (opens : kind (.openSession job.target)) (table : Dump.Table)
    : (job.perform table).AsksOnly kind := by
  have opened : (ask (.openSession job.target)).AsksOnly kind := asksOnly_ask opens
  have loads : (job.load table).AsksOnly kind := by
    rw [load]
    cases table.definition with
    | none => exact asksOnly_pure _
    | some definition =>
        dsimp only [loadDefined]
        split
        · exact asksOnly_pure _
        · split
          · exact asksOnly_pure _
          · refine opened.bind fun reply => ?_
            cases reply with
            | error failure => exact asksOnly_pure _
            | ok _ => exact job.transact_asksOnly executes table _ _
  exact loads.bind fun _ => asksOnly_pure _

end Requests

/-- Loading a table asks nothing but the warehouse, so that neither a cancellation nor what
becomes of files reaches it.
-/
theorem perform_isCall (table : Dump.Table) : (job.perform table).AsksOnly IsCall := by
  have executes (statement : Text) : IsCall (.execute job.target statement) := rfl
  exact job.perform_asksOnly executes rfl table

end Job

-----------------------------------------------------------------------------------------
-- What a database asks when it has been dealt with for review
-----------------------------------------------------------------------------------------

section Requests

variable {kind : Request → Prop} {target : Destination} (opens : kind (.openSession target))
variable (executes : ∀ statement, kind (.execute target statement))
include opens executes

theorem provideSchema_asksOnly : (provideSchema target).AsksOnly kind := by
  have opened : (ask (.openSession target)).AsksOnly kind := asksOnly_ask opens
  have created : (Script.execute target target.creationStatement).AsksOnly kind :=
    asksOnly_ask (executes _)
  refine opened.bind fun reply => ?_
  cases reply with
  | error failure => exact asksOnly_pure _
  | ok _ =>
      refine created.bind fun reply => ?_
      cases reply with
      | error failure => exact asksOnly_pure _
      | ok _ => exact asksOnly_pure _

variable (cancels : kind .isCancelled)
include cancels

theorem loadTables_asksOnly (plan : Plan) (content : Dump.Database)
    : (loadTables plan target content).AsksOnly kind := by
  refine Pool.asksOnly_continueWith (asksOnly_ask cancels) _ _ (by simp) ?_
  intro procedure member
  obtain ⟨table, _, rfl⟩ := List.mem_map.mp member
  exact Job.perform_asksOnly _ executes opens table

/-- The schema and the tables of a database ask for sessions, statements and whether to stop. -/
theorem transferReviewed_asksOnly (plan : Plan) (content : Dump.Database) (review : List Text)
    : (transferReviewed plan target content review).AsksOnly kind := by
  unfold transferReviewed
  have loads := loadTables_asksOnly opens executes cancels plan content
  cases plan.usesWarehouse with
  | false => exact loads.bind fun _ => asksOnly_pure _
  | true =>
      refine (provideSchema_asksOnly opens executes).bind fun ensured => ?_
      cases ensured with
      | error failure => exact asksOnly_pure _
      | ok _ => exact loads.bind fun _ => asksOnly_pure _

end Requests

-----------------------------------------------------------------------------------------
-- The record that a database leaves
-----------------------------------------------------------------------------------------

namespace Job

/-- A real load of the tables of a database. -/
def loading (converter : Conversion.Converter) (target : Destination) : Job :=
  ⟨converter, target, false⟩

variable (job : Job)

end Job

section Databases

variable {σ : Type} (answer : Answer σ)

end Databases

end DumpTransfer.Migration
