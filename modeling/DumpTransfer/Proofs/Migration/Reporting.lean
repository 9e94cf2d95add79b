import DumpTransfer.Proofs.Extraction.SinglePass
import DumpTransfer.Proofs.Migration.Transactions
import DumpTransfer.Proofs.Repeats

/-! What a report says of a run, whatever fails and whenever the run is cancelled. The databases
and the tables in it are the first of those that there are to migrate, in their order, and all of
them if nobody has cancelled the run. What becomes of a table depends on nothing but the table and
the replies to its own calls.
-/

namespace DumpTransfer.Migration

open Script

-----------------------------------------------------------------------------------------
-- What there is to migrate
-----------------------------------------------------------------------------------------

namespace Plan

/-- What is extracted of a database: in one pass for all of them if that is wanted and there are
several, and in a pass of its own otherwise.
-/
def content (plan : Plan) (lines : List Dump.Line) (name : Text) : Dump.Database :=
  let names := plan.present (Dump.databaseNames lines)
  if plan.isSinglePass && 1 < names.length then
    (Dump.contentOf? name (Dump.extractAll plan.interval names lines).value).getD { name }
  else (Dump.extractOne plan.interval name lines).value

theorem content_name (plan : Plan) (lines : List Dump.Line) (name : Text)
    : (plan.content lines name).name = name := by
  rw [content]
  split
  · exact Dump.contentOf?_getD_name name _
  · exact Dump.extractOne_name plan.interval name lines

/-- What the tables of a database have in common. -/
def job (plan : Plan) (target : Destination) : Job :=
  ⟨standardConverter, target, !plan.usesWarehouse⟩

/-- The result of a table that is loaded all by itself. -/
def alone (plan : Plan) (replies : Replies) (target : Destination) (table : Dump.Table)
    : TableResult :=
  (((plan.job target).perform table).run (steadily replies) ()).1

/-- What has been extracted beforehand of the databases that are left: everything or nothing. -/
inductive Extracted (plan : Plan) (lines : List Dump.Line) (names : List Text)
    : List Dump.Database → Prop where
  | together : Extracted plan lines names (names.map (plan.content lines))
  | onDemand (alike : ∀ name,
      plan.content lines name = (Dump.extractOne plan.interval name lines).value)
      : Extracted plan lines names []

end Plan

-----------------------------------------------------------------------------------------
-- What a report says
-----------------------------------------------------------------------------------------

/-- A result of a table that either succeeded or tells why it failed, and has no rows then. -/
structure TableResult.Consistent (result : TableResult) : Prop where
  success_iff : result.success = true ↔ result.error = none
  rows : result.error ≠ none → result.rows = 0

/-- An account of a database: of its failure, or of the first of its tables one after the other. -/
structure DatabaseResult.Accounts (result : DatabaseResult) (content : Dump.Database)
    : Prop where
  tables
    : (result.error ≠ none ∧ result.tables = [])
      ∨ (result.error = none
          ∧ result.tables.map (·.table) <+: content.tables.map (·.name))
  consistent : ∀ table ∈ result.tables, table.Consistent

/-- An account of a run, for a plan and the lines of a dump. -/
structure Report.Accounts (report : Report) (plan : Plan) (lines : List Dump.Line) : Prop where
  skipped : report.skipped = plan.databases.filter fun name => name ∉ Dump.databaseNames lines
  databases
    : report.databases.map (·.database)
      <+: (plan.databases.filter fun name => name ∈ Dump.databaseNames lines).eraseDups
  each
    : ∀ result ∈ report.databases, result.Accounts (plan.content lines result.database)
  success_iff
    : report.success = true
      ↔ report.isCancelled = false
        ∧ ∀ result ∈ report.databases,
            result.error = none ∧ ∀ table ∈ result.tables, table.success = true

/-- Nothing is missing from an account of a run. -/
structure Report.Complete (report : Report) (plan : Plan) (lines : List Dump.Line)
    : Prop where
  databases
    : report.databases.map (·.database)
      = (plan.databases.filter fun name => name ∈ Dump.databaseNames lines).eraseDups
  tables
    : ∀ result ∈ report.databases, result.error = none →
        result.tables.map (·.table) = (plan.content lines result.database).tables.map (·.name)

/-- Every table comes to what it comes to all by itself. -/
def Report.Isolated (report : Report) (plan : Plan) (lines : List Dump.Line)
    (replies : Replies)
    : Prop :=
  ∀ result ∈ report.databases, result.error = none →
    ∃ target,
      Destination.of? plan.catalog result.database = .ok target
      ∧ result.tables
        <+: (plan.content lines result.database).tables.map (plan.alone replies target)

-----------------------------------------------------------------------------------------
-- Tables
-----------------------------------------------------------------------------------------

theorem Loaded.tableResult_consistent (loaded : Loaded) (table : Text)
    : (loaded.tableResult table).Consistent := by
  obtain ⟨result, warnings⟩ := loaded
  cases result with
  | ok rows => exact ⟨⟨fun _ => rfl, fun _ => rfl⟩, fun failed => absurd rfl failed⟩
  | error error => exact ⟨⟨nofun, nofun⟩, fun _ => rfl⟩

theorem Loaded.tableResult_table (loaded : Loaded) (table : Text)
    : (loaded.tableResult table).table = table := by
  obtain ⟨result, warnings⟩ := loaded
  cases result <;> rfl

section Runs

variable {σ : Type} (answer : Answer σ)

theorem perform_run (job : Job) (table : Dump.Table) (state : σ)
    : ((job.perform table).run answer state).1
      = ((job.load table).run answer state).1.tableResult table.name := by
  rw [Job.perform, run_bind]
  rfl

variable {answer}

/-- One result for each of the first tables, by induction over those that are carried out. -/
theorem performed_tables {job : Job} {tables : List Dump.Table} {results : List TableResult}
    {calls : List Exchange}
    (performed : Pool.Performed answer (tables.map job.perform) results calls)
    : results.map (·.table) <+: tables.map (·.name)
      ∧ ∀ result ∈ results, result.Consistent := by
  induction tables generalizing results calls with
  | nil =>
      cases performed
      exact ⟨List.prefix_rfl, by simp⟩
  | cons table rest ih =>
      cases performed with
      | stopped => exact ⟨List.nil_prefix, by simp⟩
      | next state others =>
          obtain ⟨ordered, consistent⟩ := ih others
          rw [perform_run]
          refine ⟨?_, ?_⟩
          · rw [List.map_cons, List.map_cons, Loaded.tableResult_table]
            exact (List.prefix_cons_inj _).mpr ordered
          · intro result member
            rcases List.mem_cons.mp member with rfl | later
            · exact Loaded.tableResult_consistent _ _
            · exact consistent result later

/-- By the same induction. Each table finds a state of its own, on which nothing depends when the
warehouse always gives the same replies.
-/
theorem performed_alone {replies : Replies} (steady : Steady answer replies) {plan : Plan}
    {target : Destination} {tables : List Dump.Table} {results : List TableResult}
    {calls : List Exchange}
    (performed : Pool.Performed answer (tables.map (plan.job target).perform) results calls)
    : results <+: tables.map (plan.alone replies target) := by
  induction tables generalizing results calls with
  | nil =>
      cases performed
      exact List.prefix_rfl
  | cons table rest ih =>
      cases performed with
      | stopped => exact List.nil_prefix
      | next state others =>
          have same := steady.run_eq ((plan.job target).perform_isCall table) state
          rw [List.map_cons, Plan.alone, ← same]
          exact (List.prefix_cons_inj _).mpr (ih others)

end Runs

/-- What a table comes to all by itself is decided by the replies to its own calls. -/
theorem alone_eq {replies others : Replies} (plan : Plan) (target : Destination)
    (table : Dump.Table)
    (agree : ∀ call ∈ ((plan.job target).perform table).exchanges (steadily replies) (),
      others call.request = call.reply)
    : plan.alone others target table = plan.alone replies target table :=
  run_steadily_eq agree

-----------------------------------------------------------------------------------------
-- Databases
-----------------------------------------------------------------------------------------

section Databases

variable {σ : Type} (answer : Answer σ)

/-- How the migration of a database ends, and in which state. -/
inductive Transferred (plan : Plan) (content : Dump.Database) (after : σ)
    : DatabaseResult → Prop where
  | failed {result : DatabaseResult} (named : result.database = content.name)
      (error : result.error ≠ none) (none : result.tables = [])
      : Transferred plan content after result
  | loaded {result : DatabaseResult} {target : Destination} {calls : List Exchange}
      (named : result.database = content.name) (error : result.error = none)
      (found : Destination.of? plan.catalog content.name = .ok target)
      (performed : Pool.Performed answer (content.tables.map (plan.job target).perform)
        result.tables calls)
      (complete : CancelsForGood answer → ¬ Cancelled answer after →
        result.tables.length = content.tables.length)
      : Transferred plan content after result

variable {answer}

theorem Transferred.database {plan : Plan} {content : Dump.Database} {after : σ}
    {result : DatabaseResult} (transferred : Transferred answer plan content after result)
    : result.database = content.name := by
  cases transferred with
  | failed named error none => exact named
  | loaded named error found performed complete => exact named

/-- Whatever becomes of a database, its result is an account of it. -/
theorem Transferred.accounts {plan : Plan} {content : Dump.Database} {after : σ}
    {result : DatabaseResult} (transferred : Transferred answer plan content after result)
    : result.Accounts content := by
  cases transferred with
  | failed named error none => exact ⟨.inl ⟨error, none⟩, by simp [none]⟩
  | loaded named error found performed complete =>
      obtain ⟨ordered, consistent⟩ := performed_tables performed
      exact ⟨.inr ⟨error, ordered⟩, consistent⟩

variable (answer)

/-- What is left of migrating a database when its schema has been dealt with. -/
def transferProvided (plan : Plan) (target : Destination) (content : Dump.Database)
    (review : List Text) (ensured : Except Failure Unit)
    : Script DatabaseResult := do
  let result : DatabaseResult :=
    { database := content.name
      schema := target.display
      warnings := content.orphans.map orphanWarning ++ review }
  match ensured with
  | .error failure =>
      return { result with error := some ("schema creation failed: " ++ failure.message) }
  | .ok () => return { result with tables := ← loadTables plan target content }

theorem transferReviewed_eq (plan : Plan) (target : Destination) (content : Dump.Database)
    (review : List Text)
    : transferReviewed plan target content review
      = (if plan.usesWarehouse then provideSchema target else pure (.ok ()))
        >>= transferProvided plan target content review := by
  unfold transferReviewed transferProvided
  cases plan.usesWarehouse <;> rfl

theorem transferReviewed_transferred (plan : Plan) {content : Dump.Database}
    {target : Destination} (found : Destination.of? plan.catalog content.name = .ok target)
    (review : List Text) (state : σ)
    : Transferred answer plan content
        ((transferReviewed plan target content review).run answer state).2
        ((transferReviewed plan target content review).run answer state).1 := by
  rw [transferReviewed_eq, run_bind]
  rcases Script.run answer (if plan.usesWarehouse = true then _ else _) state
    with ⟨ensured, state⟩
  cases ensured with
  | error failure => exact .failed rfl (Option.some_ne_none _) rfl
  | ok _ =>
      dsimp only [transferProvided]
      rw [run_bind]
      refine .loaded rfl rfl found (Pool.run_performed answer _ _ state) fun forGood running => ?_
      exact (Pool.run_complete forGood plan.workers _ state running).trans (List.length_map _)

theorem transferDatabase_transferred (plan : Plan) (stamp : RunStamp) (content : Dump.Database)
    (state : σ)
    : Transferred answer plan content
        ((transferDatabase plan stamp content).run answer state).2
        ((transferDatabase plan stamp content).run answer state).1 := by
  rw [transferDatabase]
  cases found : Destination.of? plan.catalog content.name with
  | error failure => exact .failed rfl (Option.some_ne_none _) rfl
  | ok target =>
      dsimp only
      rw [transferInto_eq, run_bind]
      exact transferReviewed_transferred answer plan found _ _

theorem readPass_run {α : Type} (pass : Dump.Pass α) (state : σ)
    : ((readPass pass).run answer state).1 = pass.value := by
  rw [readPass, run_bind]
  rfl

/-- What is found for a database is its content, and what is left is the content of the rest. -/
theorem contentOf_run {plan : Plan} {lines : List Dump.Line} {name : Text} {names : List Text}
    {extracted : List Dump.Database} (beforehand : plan.Extracted lines (name :: names) extracted)
    (state : σ)
    : ((contentOf plan lines name extracted).run answer state).1.1 = plan.content lines name
      ∧ plan.Extracted lines names
          ((contentOf plan lines name extracted).run answer state).1.2 := by
  cases beforehand with
  | together =>
      have taken : Dump.takeContent name ((name :: names).map (plan.content lines))
          = (some (plan.content lines name), names.map (plan.content lines)) := by
        rw [List.map_cons, Dump.takeContent, if_pos (plan.content_name lines name)]
      rw [contentOf, taken]
      exact ⟨rfl, .together⟩
  | onDemand alike =>
      have taken : Dump.takeContent name [] = (none, []) := rfl
      rw [contentOf, taken]
      dsimp only
      rw [run_bind]
      exact ⟨(readPass_run answer _ state).trans (alike name).symm, .onDemand alike⟩

/-- Databases that are migrated in order up to one with which the run is stopped: their results,
whether it is stopped, and the state in which that leaves the run.
-/
structure TransferredInTurn (plan : Plan) (lines : List Dump.Line) (names : List Text)
    (results : List DatabaseResult) (isStopped : Bool) (last : σ)
    : Prop where
  ordered : results.map (·.database) <+: names
  complete : isStopped = false → results.map (·.database) = names
  each
    : ∀ result ∈ results, ∃ after,
        Transferred answer plan (plan.content lines result.database) after result
        ∧ (CancelsForGood answer → Cancelled answer after → Cancelled answer last)

/-- By induction over the databases that are left. -/
theorem transferDatabases_transferred (plan : Plan) (stamp : RunStamp) (lines : List Dump.Line)
    (names : List Text) {extracted : List Dump.Database}
    (beforehand : plan.Extracted lines names extracted) (state : σ)
    : TransferredInTurn answer plan lines names
        ((transferDatabases plan stamp lines extracted names).run answer state).1.1
        ((transferDatabases plan stamp lines extracted names).run answer state).1.2
        ((transferDatabases plan stamp lines extracted names).run answer state).2 := by
  induction names generalizing extracted state with
  | nil => exact ⟨List.prefix_rfl, fun _ => rfl, by simp [transferDatabases]⟩
  | cons name rest ih =>
      rw [transferDatabases, run_bind]
      rcases isCancelled.run answer state with ⟨learned, state⟩
      cases learned with
      | true => exact ⟨List.nil_prefix, nofun, by simp⟩
      | false =>
          simp only [Bool.false_eq_true, if_false]
          rw [run_bind]
          have found := contentOf_run answer beforehand state
          generalize (contentOf plan lines name extracted).run answer state = reached at found ⊢
          obtain ⟨⟨content, others⟩, state⟩ := reached
          obtain ⟨rfl, left⟩ := found
          dsimp only
          rw [run_bind, run_bind]
          have migrated := transferDatabase_transferred answer plan stamp
            (plan.content lines name) state
          generalize (transferDatabase plan stamp _).run answer state = reached at migrated ⊢
          obtain ⟨result, state⟩ := reached
          dsimp only at migrated ⊢
          have named : result.database = name :=
            migrated.database.trans (plan.content_name lines name)
          obtain ⟨ordered, complete, each⟩ := ih left state
          refine ⟨?_, fun going => ?_, fun other member => ?_⟩
          · rw [run_pure, List.map_cons, named]
            exact (List.prefix_cons_inj name).mpr ordered
          · rw [run_pure, List.map_cons, named, complete going]
          · rw [run_pure] at member ⊢
            rcases List.mem_cons.mp member with rfl | later
            · -- A cancellation after this database lasts through the databases that follow.
              rw [named]
              exact ⟨state, migrated, fun forGood => forGood.run _⟩
            · exact each other later

-----------------------------------------------------------------------------------------
-- Runs
-----------------------------------------------------------------------------------------

/-- The contents of a single pass are the contents of the databases that there are to migrate. -/
theorem extractAll_eq_map_content {plan : Plan} {lines : List Dump.Line}
    (single : (plan.isSinglePass
      && 1 < (plan.present (Dump.databaseNames lines)).length) = true)
    : (Dump.extractAll plan.interval (plan.present (Dump.databaseNames lines)) lines).value
      = (plan.present (Dump.databaseNames lines)).map (plan.content lines) := by
  have distinct : (plan.present (Dump.databaseNames lines)).Nodup := Repeats.nodup_eraseDups _
  have content (name : Text)
      : plan.content lines name
        = (Dump.contentOf? name (Dump.extractAll plan.interval
            (plan.present (Dump.databaseNames lines)) lines).value).getD { name } := by
    rw [Plan.content, if_pos single]
  simp only [funext content, Dump.extractAll]
  generalize plan.present (Dump.databaseNames lines) = names at distinct
  rw [Dump.arrange_eq_map _ distinct]
  set found := (Dump.runExtraction (.start names) lines).1.finish
  have named (name : Text) := Dump.contentOf?_getD_name name found
  have namesDistinct
      : ((names.map fun name => (Dump.contentOf? name found).getD { name }).map
          (·.name)).Nodup := by
    rw [List.map_map]
    exact (List.map_id'' named names).symm ▸ distinct
  -- Names are distinct, so that looking a content up again by its name finds it.
  refine List.map_congr_left fun name member => ?_
  have held := Dump.contentOf?_of_mem namesDistinct (List.mem_map_of_mem member)
  rw [named] at held
  rw [held]
  rfl

theorem extract_run (plan : Plan) (lines : List Dump.Line) (state : σ)
    : plan.Extracted lines (plan.present (Dump.databaseNames lines))
        ((extract plan lines (plan.present (Dump.databaseNames lines))).run answer state).1 := by
  rw [extract]
  split
  · rename_i single
    rw [readPass_run, extractAll_eq_map_content single]
    exact .together
  · rename_i several
    refine .onDemand fun name => ?_
    rw [Plan.content, if_neg several]

/-- A request that a run makes before it migrates databases. -/
def Prepares : Request → Prop
  | .noteProgress _ | .provideCatalog _ => True
  | .openSession _ | .execute _ _ | .keyPresence _ _ _ | .isCancelled | .writeReview _ _ => False

theorem readPass_prepares {α : Type} (pass : Dump.Pass α) : (readPass pass).AsksOnly Prepares :=
  asksOnly_readPass (fun _ => trivial) pass

theorem provideCatalog_prepares (plan : Plan) : (provideCatalog plan).AsksOnly Prepares := by
  have asked (catalog : Text) : (ask (.provideCatalog catalog)).AsksOnly Prepares :=
    asksOnly_ask trivial
  unfold provideCatalog
  split
  · exact asked _
  · exact asksOnly_pure _

/-- A run that has come to the databases that there are to migrate: what has been extracted
beforehand, its record up to there and the state there. What it reports and the rest of its record
come from migrating them.
-/
structure Reaches (plan : Plan) (stamp : RunStamp) (lines : List Dump.Line) (report : Report)
    (record : List Exchange) (extracted : List Dump.Database) (before : List Exchange) (start : σ)
    : Prop where
  beforehand : plan.Extracted lines (plan.present (Dump.databaseNames lines)) extracted
  prepared : ∀ exchange ∈ before, Prepares exchange.request
  skipped : report.skipped = plan.missing (Dump.databaseNames lines)
  databases
    : report.databases
      = ((transferDatabases plan stamp lines extracted
          (plan.present (Dump.databaseNames lines))).run answer start).1.1
  going
    : report.isCancelled = false →
        ((transferDatabases plan stamp lines extracted
          (plan.present (Dump.databaseNames lines))).run answer start).1.2 = false
        ∧ ¬ Cancelled answer
            ((transferDatabases plan stamp lines extracted
              (plan.present (Dump.databaseNames lines))).run answer start).2
  record
    : ∃ isStopped,
        record
          = before
            ++ ((transferDatabases plan stamp lines extracted
                  (plan.present (Dump.databaseNames lines))).exchanges answer start
                ++ [⟨.isCancelled, isStopped⟩])

theorem transferLines_reaches {plan : Plan} {stamp : RunStamp} {lines : List Dump.Line}
    {state : σ} {report : Report}
    (returned : ((transferLines plan stamp lines).run answer state).1 = .ok report)
    : ∃ extracted before start,
        Reaches answer plan stamp lines report ((transferLines plan stamp lines).exchanges answer
          state) extracted before start := by
  rw [transferLines_eq, run_bind, readPass_run] at returned
  rw [transferLines_eq, exchanges_bind, readPass_run]
  have scanned := (readPass_prepares (Dump.scanNames plan.interval lines)).exchanges answer state
  generalize (readPass _).exchanges answer state = noted at scanned ⊢
  generalize ((readPass _).run answer state).2 = state at returned ⊢
  dsimp only [Dump.scanNames] at returned ⊢
  rw [run_bind] at returned
  rw [exchanges_bind]
  have asked := (provideCatalog_prepares plan).exchanges answer state
  generalize (provideCatalog plan).exchanges answer state = provision at asked ⊢
  generalize (provideCatalog plan).run answer state = reached at returned ⊢
  obtain ⟨provided, state⟩ := reached
  cases provided with
  | error failure => cases returned
  | ok _ =>
      dsimp only at returned ⊢
      rw [run_bind, transferExtracted, run_bind, run_bind, run_pure] at returned
      rw [exchanges_bind, transferExtracted, exchanges_bind, exchanges_bind, exchanges_pure,
        List.append_nil]
      have beforehand := extract_run answer plan lines state
      have extraction : (extract plan lines (plan.present (Dump.databaseNames lines))).AsksOnly
          Prepares :=
        extract_asksOnly plan (fun _ => trivial) lines _
      have read := extraction.exchanges answer state
      generalize (extract plan lines _).exchanges answer state = extracting at read ⊢
      generalize (extract plan lines _).run answer state = reached at beforehand returned ⊢
      obtain ⟨extracted, start⟩ := reached
      obtain rfl := Except.ok.inj returned
      refine ⟨extracted, noted ++ (provision ++ extracting), start, beforehand,
        List.forall_mem_append.mpr ⟨scanned, List.forall_mem_append.mpr ⟨asked, read⟩⟩, rfl, rfl,
        fun going => ?_, _, by simp only [List.append_assoc]; rfl⟩
      obtain ⟨unstopped, uncancelled⟩ := Bool.or_eq_false_iff.mp going
      exact ⟨unstopped, fun cancelled => Bool.false_ne_true (uncancelled.symm.trans cancelled)⟩

theorem run_reaches {plan : Plan} {stamp : RunStamp} {lines : List Dump.Line} {state : σ}
    {report : Report} (returned : ((run plan stamp (.ok lines)).run answer state).1 = .ok report)
    : ∃ extracted before start,
        Reaches answer plan stamp lines report
          ((run plan stamp (.ok lines)).exchanges answer state) extracted before start := by
  unfold run at returned ⊢
  cases checked : plan.check with
  | error failure =>
      rw [checked] at returned
      cases returned
  | ok _ =>
      rw [checked] at returned
      exact transferLines_reaches answer returned

/-- A report that a run gives tells of the databases that have been migrated in turn. -/
theorem run_reports {plan : Plan} {stamp : RunStamp} {lines : List Dump.Line} {state : σ}
    {report : Report} (returned : ((run plan stamp (.ok lines)).run answer state).1 = .ok report)
    : report.skipped = plan.missing (Dump.databaseNames lines)
      ∧ ∃ isStopped last,
          TransferredInTurn answer plan lines (plan.present (Dump.databaseNames lines))
            report.databases isStopped last
          ∧ (report.isCancelled = false → isStopped = false ∧ ¬ Cancelled answer last) := by
  obtain ⟨extracted, before, start, reaches⟩ := run_reaches answer returned
  have inTurn := transferDatabases_transferred answer plan stamp lines _ reaches.beforehand start
  rw [← reaches.databases] at inTurn
  exact ⟨reaches.skipped, _, _, inTurn, reaches.going⟩

end Databases

/-- A report succeeds if and only if the run came to its end and nothing in it failed. -/
theorem Report.success_eq_true_iff (report : Report)
    : report.success = true
      ↔ report.isCancelled = false
        ∧ ∀ result ∈ report.databases,
            result.error = none ∧ ∀ table ∈ result.tables, table.success = true := by
  simp [Report.success, DatabaseResult.success]

/-- The report that a run returns is an account of it, whatever failed and whenever it was
cancelled. It is complete if the run was not cancelled and cancellations are never taken back.
Where replies depend on nothing but what is asked, every table comes to what it comes to all by
itself, so that no failure of another table makes a difference. Witness: reported_of_clinic.
-/
theorem run_accounts {σ : Type} {answer : Answer σ} {plan : Plan} {stamp : RunStamp}
    {lines : List Dump.Line} {state : σ} {report : Report}
    (returned : ((run plan stamp (.ok lines)).run answer state).1 = .ok report)
    : report.Accounts plan lines
      ∧ (CancelsForGood answer → report.isCancelled = false → report.Complete plan lines)
      ∧ (∀ replies, Steady answer replies → report.Isolated plan lines replies)
      ∧ ∀ replies others target table,
          (∀ call ∈ ((plan.job target).perform table).exchanges (steadily replies) (),
            others call.request = call.reply) →
          plan.alone others target table = plan.alone replies target table := by
  obtain ⟨skipped, isStopped, last, inTurn, running⟩ := run_reports answer returned
  have present : plan.present (Dump.databaseNames lines)
      = (plan.databases.filter fun name => name ∈ Dump.databaseNames lines).eraseDups := by
    simp [Plan.present]
  have missing : plan.missing (Dump.databaseNames lines)
      = plan.databases.filter fun name => name ∉ Dump.databaseNames lines := by
    simp [Plan.missing]
  refine ⟨⟨skipped.trans missing, present ▸ inTurn.ordered, ?_, report.success_eq_true_iff⟩,
    fun forGood uncancelled => ⟨?_, ?_⟩, ?_,
    fun replies others target table => alone_eq plan target table⟩
  · intro result member
    obtain ⟨after, transferred, _⟩ := inTurn.each result member
    exact transferred.accounts
  · exact present ▸ inTurn.complete (running uncancelled).1
  · intro result member error
    obtain ⟨after, transferred, kept⟩ := inTurn.each result member
    cases transferred with
    | failed named failed none => exact absurd error failed
    | loaded named error found performed complete =>
        have full := complete forGood fun cancelled =>
          (running uncancelled).2 (kept forGood cancelled)
        exact (performed_tables performed).1.eq_of_length (by simpa using full)
  · intro replies steady result member error
    obtain ⟨after, transferred, _⟩ := inTurn.each result member
    cases transferred with
    | failed named failed none => exact absurd error failed
    | loaded named error found performed complete =>
        rw [plan.content_name] at found
        exact ⟨_, found, performed_alone steady performed⟩

/-- Surroundings that always give the same replies, and cancel after some number of askings. -/
def cancelling (replies : Replies) : Answer Nat
  | .isCancelled, 0 => (true, 0)
  | .isCancelled, left + 1 => (false, left)
  | request, left => (replies request, left)

theorem cancelsForGood_cancelling (replies : Replies) : CancelsForGood (cancelling replies) := by
  intro request left cancelled
  cases left with
  | zero => cases request <;> rfl
  | succ left => exact absurd cancelled nofun

theorem steady_cancelling (replies : Replies) : Steady (cancelling replies) replies := by
  intro request left call
  cases request with
  | isCancelled => cases call
  | _ => cases left <;> rfl

/-- A warehouse that refuses the statements with some part in them. -/
def refusing (part : Text) : Replies
  | .execute _ statement =>
      if Text.includes statement part then .error (.configuration "refused")
      else .ok (Rehearsal.rowCount statement)
  | .provideCatalog _ | .openSession _ | .writeReview _ _ => .ok ()
  | .keyPresence _ _ _ => .ok .absent
  | .isCancelled => false
  | .noteProgress _ => ()

/-- A dump of two databases. -/
def clinicLines : List Dump.Line :=
  [ "USE `clinic`;", "CREATE TABLE `doctors` (x int);", "INSERT INTO `doctors` VALUES (1);",
    "CREATE TABLE `visits` (x int);", "INSERT INTO `visits` VALUES (2),(3);",
    "USE `pharmacy`;", "CREATE TABLE `drugs` (x int);" ].map fun line => ⟨line, {}⟩

def clinicPlan : Plan :=
  { databases := ["pharmacy", "absent", "clinic", "pharmacy"], isSinglePass := true }

/-- The rows of the first table cannot be loaded. -/
theorem reported_of_clinic
    : ∃ report,
        ((run clinicPlan {} (.ok clinicLines)).run (cancelling (refusing "(1)")) 9).1 = .ok report
        ∧ report.Accounts clinicPlan clinicLines
        ∧ report.Complete clinicPlan clinicLines
        ∧ report.Isolated clinicPlan clinicLines (refusing "(1)")
        ∧ report.databases.map (fun result => result.tables.map (·.loaded))
          = [[some 0], [none, some 2]] := by
  have shown
      : (((run clinicPlan {} (.ok clinicLines)).run (cancelling (refusing "(1)")) 9).1.toOption.map
          fun report => (report.isCancelled,
            report.databases.map fun result => result.tables.map (·.loaded)))
        = some (false, [[some 0], [none, some 2]]) := by
    decide +kernel
  cases returned
      : ((run clinicPlan {} (.ok clinicLines)).run (cancelling (refusing "(1)")) 9).1 with
  | error failure =>
      rw [returned] at shown
      cases shown
  | ok report =>
      rw [returned] at shown
      obtain ⟨uncancelled, loaded⟩ := Prod.mk.inj (Option.some.inj shown)
      obtain ⟨accounts, complete, isolated, _⟩ := run_accounts returned
      exact ⟨report, rfl, accounts, complete (cancelsForGood_cancelling _) uncancelled,
        isolated _ (steady_cancelling _), loaded⟩

end DumpTransfer.Migration
