import DumpTransfer.Migration.Run
import DumpTransfer.Proofs.Migration.Pool
import DumpTransfer.Warehouse.Rehearsal
import Mathlib.Algebra.BigOperators.Group.List.Basic

/-! A dry run tells what a real run would come to. Against a warehouse on which no call fails the
two reports differ in nothing but the rows, of which a dry run has none, and a dry run asks
nothing of any warehouse.
-/

namespace DumpTransfer.Migration

open Script

-----------------------------------------------------------------------------------------
-- Results without rows
-----------------------------------------------------------------------------------------

/-- What a rehearsal says of a table instead: the same, without rows. -/
def Loaded.withoutRows (loaded : Loaded) : Loaded :=
  { loaded with result := loaded.result.map fun _ => 0 }

def TableResult.withoutRows (result : TableResult) : TableResult :=
  { result with rows := 0 }

def DatabaseResult.withoutRows (result : DatabaseResult) : DatabaseResult :=
  { result with tables := result.tables.map TableResult.withoutRows }

/-- The report that a dry run gives in the place of a report: the same, without rows. -/
def Report.rehearsed (report : Report) : Report :=
  { report with
    isDryRun := true
    databases := report.databases.map DatabaseResult.withoutRows }

theorem Loaded.tableResult_withoutRows (loaded : Loaded) (table : Text)
    : loaded.withoutRows.tableResult table = (loaded.tableResult table).withoutRows := by
  obtain ⟨result, warnings⟩ := loaded
  cases result <;> rfl

/-- A report of a dry run has no rows anywhere. -/
theorem Report.rehearsed_rows (report : Report)
    : ∀ database ∈ report.rehearsed.databases,
        database.rows = 0 ∧ ∀ table ∈ database.tables, table.rows = 0 := by
  intro database member
  obtain ⟨actual, _, rfl⟩ := List.mem_map.mp member
  have none : ∀ table ∈ actual.withoutRows.tables, table.rows = 0 := by
    intro table member
    obtain ⟨loaded, _, rfl⟩ := List.mem_map.mp member
    rfl
  refine ⟨?_, none⟩
  rw [DatabaseResult.rows]
  generalize actual.withoutRows.tables = tables at none
  induction tables with
  | nil => rfl
  | cons table others ih =>
      rw [List.map_cons, List.foldr_cons, none table (by simp),
        ih fun other member => none other (by simp [member])]

namespace Plan

/-- The plan of a dry run, whatever warehouse there is. -/
def rehearsing (plan : Plan) : Plan :=
  { plan with isDryRun := true }

/-- The same plan carried out against a warehouse. -/
def loading (plan : Plan) : Plan :=
  { plan with isDryRun := false, hasWarehouse := true }

@[simp] theorem usesWarehouse_rehearsing (plan : Plan)
    : plan.rehearsing.usesWarehouse = false :=
  Bool.and_false _

@[simp] theorem usesWarehouse_loading (plan : Plan)
    : plan.loading.usesWarehouse = true :=
  rfl

end Plan

-----------------------------------------------------------------------------------------
-- The steps of a run
-----------------------------------------------------------------------------------------

/-- What is left of migrating a database when it has been dealt with for review. -/
def transferReviewed (plan : Plan) (target : Destination) (content : Dump.Database)
    (review : List Text)
    : Script DatabaseResult := do
  let result : DatabaseResult :=
    { database := content.name
      schema := target.display
      warnings := content.orphans.map orphanWarning ++ review }
  match ← if plan.usesWarehouse then provideSchema target else pure (.ok ()) with
  | .error failure =>
      return { result with error := some ("schema creation failed: " ++ failure.message) }
  | .ok () => return { result with tables := ← loadTables plan target content }

theorem transferInto_eq (plan : Plan) (stamp : RunStamp) (target : Destination)
    (content : Dump.Database)
    : transferInto plan stamp target content
      = (if plan.savesReview then writeReview plan stamp target content else pure [])
        >>= transferReviewed plan target content := by
  unfold transferInto transferReviewed
  cases plan.savesReview <;> cases plan.usesWarehouse <;> rfl

/-- What a single pass extracts beforehand, if there is to be one. -/
def extract (plan : Plan) (lines : List Dump.Line) (names : List Text)
    : Script (List Dump.Database) :=
  if plan.isSinglePass && 1 < names.length then
    Script.readPass (Dump.extractAll plan.interval names lines)
  else pure []

/-- What is left of a run when databases have been extracted beforehand. -/
def transferExtracted (plan : Plan) (stamp : RunStamp) (lines : List Dump.Line)
    (available : List Text) (extracted : List Dump.Database)
    : Script (Except Failure Report) := do
  let (databases, wasStopped) ←
    transferDatabases plan stamp lines extracted (plan.present available)
  let isCancelled ← Script.isCancelled
  return .ok {
    stamp
    ending := stamp.beginning
    isDryRun := plan.isDryRun
    isCancelled := wasStopped || isCancelled
    databases
    skipped := plan.missing available }

theorem transferLines_eq (plan : Plan) (stamp : RunStamp) (lines : List Dump.Line)
    : transferLines plan stamp lines
      = (do
          let available ← Script.readPass (Dump.scanNames plan.interval lines)
          match ← provideCatalog plan with
          | .error failure => return .error failure
          | .ok () =>
              extract plan lines (plan.present available)
                >>= transferExtracted plan stamp lines available) := by
  unfold transferLines extract
  refine congrArg (Script.readPass _ >>= ·) (funext fun available => ?_)
  refine congrArg (provideCatalog plan >>= ·) (funext fun provided => ?_)
  cases provided with
  | error failure => rfl
  | ok _ =>
      by_cases single : (plan.isSinglePass && 1 < (plan.present available).length) = true
      · simp only [single, if_true]
        rfl
      · simp only [single]
        rfl

-----------------------------------------------------------------------------------------
-- Loading a table
-----------------------------------------------------------------------------------------

section Rehearsal

variable {σ τ : Type} {rehearsal : Answer σ} {real : Answer τ} {alike : σ → τ → Prop}
variable (surroundings : Rehearsing rehearsal real alike)
include surroundings

namespace Job

/-- Rehearsing data statements mirrors loading them, by induction over the statements. The loops
leave at the same statement, and what converts to nothing counts for neither.
-/
theorem loadData_mirrored (job : Job) (number rows : Nat) (warnings statements : List Text)
    : Mirrors rehearsal real alike Loaded.withoutRows
        (pure (job.rehearseData number warnings statements))
        (job.loadData number rows warnings statements) := by
  induction statements generalizing number rows warnings with
  | nil => exact mirrors_pure rfl
  | cons statement rest ih =>
      rw [rehearseData, loadData]
      by_cases converted : (job.convert statement).success = true
      · by_cases empty : (job.convert statement).isEmpty = true
        · simpa only [converted, empty, if_true, Bool.not_true, Bool.false_eq_true, if_false]
            using ih _ _ _
        · simp only [converted, empty, if_true, Bool.not_true, Bool.false_eq_true, if_false]
          refine mirrors_granted surroundings rfl fun reply granted => ?_
          obtain ⟨count, rfl⟩ := granted
          exact ih _ _ _
      · simp only [converted, Bool.not_false, if_true, Bool.false_eq_true, if_false]
        exact mirrors_pure rfl

theorem loadContent_mirrored (job : Job) (table : Dump.Table) (definition : Text)
    (warnings : List Text)
    : Mirrors rehearsal real alike Loaded.withoutRows
        (pure (job.rehearseData 1 warnings table.insertions))
        (job.loadContent table definition warnings) := by
  refine mirrors_granted surroundings rfl fun reply granted => ?_
  obtain ⟨dropped, rfl⟩ := granted
  refine mirrors_granted surroundings rfl fun reply granted => ?_
  obtain ⟨created, rfl⟩ := granted
  exact loadData_mirrored surroundings job 1 0 warnings table.insertions

/-- The transaction around a table changes nothing of its result, whether it is committed or
rolled back.
-/
theorem transact_mirrored (job : Job) (table : Dump.Table) (definition : Text)
    (warnings : List Text)
    : Mirrors rehearsal real alike Loaded.withoutRows
        (pure (job.rehearseData 1 warnings table.insertions))
        (job.transact table definition warnings) := by
  refine mirrors_granted surroundings rfl fun reply granted => ?_
  obtain ⟨begun, rfl⟩ := granted
  refine (loadContent_mirrored surroundings job table definition warnings).andThen ?_
  intro loaded same
  cases loaded.result with
  | error error =>
      dsimp only
      exact mirrors_granted surroundings rfl fun _ _ => mirrors_pure same
  | ok rows =>
      dsimp only
      refine mirrors_granted surroundings rfl fun reply granted => ?_
      obtain ⟨committed, rfl⟩ := granted
      exact mirrors_pure same

theorem loadInSession_mirrored (job : Job) (table : Dump.Table) (definition : Text)
    (warnings : List Text)
    : Mirrors rehearsal real alike Loaded.withoutRows
        (pure (job.rehearseData 1 warnings table.insertions))
        (job.loadInSession table definition warnings) := by
  refine mirrors_granted surroundings rfl fun reply granted => ?_
  obtain rfl := granted
  exact transact_mirrored surroundings job table definition warnings

omit surroundings in
theorem convert_isDryRun (job : Job) (isDryRun : Bool) (statement : Text)
    : convert { job with isDryRun } statement = job.convert statement :=
  rfl

omit surroundings in
/-- What a rehearsal comes to does not depend on whether the job is one. -/
theorem rehearseData_isDryRun (job : Job) (isDryRun : Bool) (number : Nat)
    (warnings statements : List Text)
    : rehearseData { job with isDryRun } number warnings statements
      = job.rehearseData number warnings statements := by
  induction statements generalizing number warnings with
  | nil => rfl
  | cons statement rest ih => simp only [rehearseData, convert_isDryRun, ih]

theorem loadDefined_mirrored (job : Job) (table : Dump.Table) (definition : Text)
    : Mirrors rehearsal real alike Loaded.withoutRows
        (loadDefined { job with isDryRun := true } table definition)
        (loadDefined { job with isDryRun := false } table definition) := by
  simp only [loadDefined, convert_isDryRun, rehearseData_isDryRun, if_true, Bool.false_eq_true,
    if_false]
  by_cases converted : (job.convert definition).success = true
  · have loads := loadInSession_mirrored surroundings { job with isDryRun := false } table
      (job.convert definition).sql (job.convert definition).warnings
    simpa only [converted, Bool.not_true, Bool.false_eq_true, if_false, rehearseData_isDryRun]
      using loads
  · simp only [converted, Bool.not_false, if_true]
    exact mirrors_pure rfl

theorem load_mirrored (job : Job) (table : Dump.Table)
    : Mirrors rehearsal real alike Loaded.withoutRows
        (load { job with isDryRun := true } table)
        (load { job with isDryRun := false } table) := by
  unfold load
  cases table.definition with
  | none => exact mirrors_pure rfl
  | some definition => exact loadDefined_mirrored surroundings job table definition

theorem perform_mirrored (job : Job) (table : Dump.Table)
    : Mirrors rehearsal real alike TableResult.withoutRows
        (perform { job with isDryRun := true } table)
        (perform { job with isDryRun := false } table) :=
  (load_mirrored surroundings job table).bind fun loaded =>
    mirrors_pure (loaded.tableResult_withoutRows table.name)

end Job

-----------------------------------------------------------------------------------------
-- Databases and runs
-----------------------------------------------------------------------------------------

variable (plan : Plan) (stamp : RunStamp)

theorem loadTables_mirrored (target : Destination) (content : Dump.Database)
    : Mirrors rehearsal real alike (List.map TableResult.withoutRows)
        (loadTables plan.rehearsing target content) (loadTables plan.loading target content) := by
  have each (isDryRun : Bool) (table : Dump.Table) :=
    Job.perform_mirrored surroundings ⟨standardConverter, target, isDryRun⟩ table
  unfold loadTables
  rw [Plan.usesWarehouse_rehearsing, Plan.usesWarehouse_loading]
  refine Pool.run_mirrored surroundings plan.workers ?_
  rw [List.forall₂_map_left_iff, List.forall₂_map_right_iff, List.forall₂_same]
  exact fun table _ => each true table

theorem writeReview_mirrored (target : Destination) (content : Dump.Database)
    : Mirrors rehearsal real alike id (writeReview plan.rehearsing stamp target content)
        (writeReview plan.loading stamp target content) := by
  refine (mirrors_writeReview surroundings _ _).bind fun written => ?_
  cases written with
  | error failure => exact mirrors_pure rfl
  | ok _ => exact mirrors_pure rfl

theorem provideSchema_mirrored (target : Destination)
    : Mirrors rehearsal real alike id (pure (.ok ())) (provideSchema target) := by
  refine mirrors_granted surroundings rfl fun reply granted => ?_
  obtain rfl := granted
  refine mirrors_granted surroundings rfl fun reply granted => ?_
  obtain ⟨count, rfl⟩ := granted
  exact mirrors_pure rfl

/-- The real run finds its schema, which the dry run does without. -/
theorem transferReviewed_mirrored (target : Destination) (content : Dump.Database)
    (review : List Text)
    : Mirrors rehearsal real alike DatabaseResult.withoutRows
        (transferReviewed plan.rehearsing target content review)
        (transferReviewed plan.loading target content review) := by
  unfold transferReviewed
  rw [Plan.usesWarehouse_rehearsing, Plan.usesWarehouse_loading]
  refine (provideSchema_mirrored surroundings target).bind fun ensured => ?_
  cases ensured with
  | error failure => exact mirrors_pure rfl
  | ok _ =>
      exact (loadTables_mirrored surroundings plan target content).bind fun tables =>
        mirrors_pure rfl

theorem transferInto_mirrored (target : Destination) (content : Dump.Database)
    : Mirrors rehearsal real alike DatabaseResult.withoutRows
        (transferInto plan.rehearsing stamp target content)
        (transferInto plan.loading stamp target content) := by
  have rest := transferReviewed_mirrored surroundings plan target content
  rw [transferInto_eq, transferInto_eq]
  change Mirrors rehearsal real alike _
    ((if plan.savesReview then writeReview plan.rehearsing stamp target content else _) >>= _)
    ((if plan.savesReview then writeReview plan.loading stamp target content else _) >>= _)
  cases plan.savesReview with
  | false => exact rest []
  | true => exact (writeReview_mirrored surroundings plan stamp target content).bind rest

theorem transferDatabase_mirrored (content : Dump.Database)
    : Mirrors rehearsal real alike DatabaseResult.withoutRows
        (transferDatabase plan.rehearsing stamp content)
        (transferDatabase plan.loading stamp content) := by
  unfold transferDatabase
  have rehearsing : plan.rehearsing.catalog = plan.catalog := rfl
  have loading : plan.loading.catalog = plan.catalog := rfl
  rw [rehearsing, loading]
  cases Destination.of? plan.catalog content.name with
  | error failure => exact mirrors_pure rfl
  | ok target => exact transferInto_mirrored surroundings plan stamp target content

theorem contentOf_mirrored (lines : List Dump.Line) (name : Text)
    (extracted : List Dump.Database)
    : Mirrors rehearsal real alike id (contentOf plan.rehearsing lines name extracted)
        (contentOf plan.loading lines name extracted) := by
  unfold contentOf
  rcases Dump.takeContent name extracted with ⟨found, rest⟩
  cases found with
  | some content => exact mirrors_pure rfl
  | none => exact (mirrors_readPass surroundings _).bind fun content => mirrors_pure rfl

/-- By induction over the databases, with what has been extracted of those that are left. -/
theorem transferDatabases_mirrored (lines : List Dump.Line) (extracted : List Dump.Database)
    (names : List Text)
    : Mirrors rehearsal real alike (Prod.map (List.map DatabaseResult.withoutRows) id)
        (transferDatabases plan.rehearsing stamp lines extracted names)
        (transferDatabases plan.loading stamp lines extracted names) := by
  induction names generalizing extracted with
  | nil => exact mirrors_pure rfl
  | cons name rest ih =>
      refine mirrors_isCancelled surroundings ?_
      refine (contentOf_mirrored surroundings plan lines name extracted).bind fun found => ?_
      refine (transferDatabase_mirrored surroundings plan stamp found.1).bind fun result => ?_
      exact (ih found.2).bind fun others => mirrors_pure rfl

theorem provideCatalog_mirrored
    : Mirrors rehearsal real alike id (provideCatalog plan.rehearsing)
        (provideCatalog plan.loading) := by
  have asked (catalog : Text)
      : Mirrors rehearsal real alike id (pure (.ok ())) (ask (.provideCatalog catalog)) := by
    intro before after start
    obtain ⟨granted, settled⟩ := surroundings.granted start (.provideCatalog catalog) rfl
    exact ⟨granted.symm, settled⟩
  unfold provideCatalog
  rw [Plan.usesWarehouse_rehearsing, Plan.usesWarehouse_loading]
  have rehearsing : plan.rehearsing.catalog = plan.catalog := rfl
  have loading : plan.loading.catalog = plan.catalog := rfl
  rw [rehearsing, loading]
  cases plan.catalog with
  | none => exact mirrors_pure rfl
  | some catalog => exact asked catalog

theorem extract_mirrored (lines : List Dump.Line) (names : List Text)
    : Mirrors rehearsal real alike id (extract plan.rehearsing lines names)
        (extract plan.loading lines names) := by
  unfold extract
  change Mirrors rehearsal real alike id (if plan.isSinglePass && 1 < names.length then _ else _)
    (if plan.isSinglePass && 1 < names.length then _ else _)
  by_cases single : (plan.isSinglePass && 1 < names.length) = true
  · rw [if_pos single, if_pos single]
    exact mirrors_readPass surroundings _
  · rw [if_neg single, if_neg single]
    exact mirrors_pure rfl

theorem transferExtracted_mirrored (lines : List Dump.Line) (available : List Text)
    (extracted : List Dump.Database)
    : Mirrors rehearsal real alike (Except.map Report.rehearsed)
        (transferExtracted plan.rehearsing stamp lines available extracted)
        (transferExtracted plan.loading stamp lines available extracted) := by
  refine (transferDatabases_mirrored surroundings plan stamp lines extracted _).bind
    fun reached => ?_
  exact mirrors_isCancelled surroundings (mirrors_pure rfl)

/-- What has been extracted beforehand is the same, so that both runs go through the same
contents.
-/
theorem transferLines_mirrored (lines : List Dump.Line)
    : Mirrors rehearsal real alike (Except.map Report.rehearsed)
        (transferLines plan.rehearsing stamp lines) (transferLines plan.loading stamp lines) := by
  rw [transferLines_eq, transferLines_eq]
  refine (mirrors_readPass surroundings _).bind fun available => ?_
  refine (provideCatalog_mirrored surroundings plan).bind fun provided => ?_
  cases provided with
  | error failure => exact mirrors_pure rfl
  | ok _ =>
      exact (extract_mirrored surroundings plan lines _).bind
        (transferExtracted_mirrored surroundings plan stamp lines available)

/-- A plan that cannot be carried out and a dump that cannot be read stop both runs alike. -/
theorem run_mirrored (dump : Except Failure (List Dump.Line))
    : Mirrors rehearsal real alike (Except.map Report.rehearsed)
        (run plan.rehearsing stamp dump) (run plan.loading stamp dump) := by
  have checks : plan.rehearsing.check = plan.loading.check := by
    unfold Plan.check
    rfl
  unfold run
  rw [checks]
  cases plan.loading.check with
  | error failure => exact mirrors_pure rfl
  | ok _ =>
      cases dump with
      | error failure => exact mirrors_pure rfl
      | ok lines => exact transferLines_mirrored surroundings plan stamp lines

end Rehearsal

-----------------------------------------------------------------------------------------
-- What a dry run asks for
-----------------------------------------------------------------------------------------

/-- A request that is not for a warehouse. -/
def IsLocal (request : Request) : Prop :=
  request.isForWarehouse = false

theorem isCancelled_local : isCancelled.AsksOnly IsLocal :=
  asksOnly_ask rfl

theorem readPass_local {α : Type} (pass : Dump.Pass α) : (readPass pass).AsksOnly IsLocal :=
  asksOnly_readPass (fun _ => rfl) pass

namespace Job

theorem perform_local (job : Job) (isDryRun : job.isDryRun = true) (table : Dump.Table)
    : (job.perform table).AsksOnly IsLocal := by
  have loaded : (job.load table).AsksOnly IsLocal := by
    unfold load
    cases table.definition with
    | none => exact asksOnly_pure _
    | some definition =>
        simp only [loadDefined, isDryRun, if_true]
        split <;> exact asksOnly_pure _
  exact loaded.bind fun _ => asksOnly_pure _

end Job

section Requests

variable (plan : Plan) (stamp : RunStamp)

theorem loadTables_local (target : Destination) (content : Dump.Database)
    : (loadTables plan.rehearsing target content).AsksOnly IsLocal := by
  refine Pool.asksOnly_continueWith isCancelled_local _ _ (by simp) ?_
  intro procedure member
  obtain ⟨table, _, rfl⟩ := List.mem_map.mp member
  exact Job.perform_local _ (by rw [Plan.usesWarehouse_rehearsing]; rfl) table

theorem writeReview_local (target : Destination) (content : Dump.Database)
    : (writeReview plan stamp target content).AsksOnly IsLocal := by
  have asked (path text : Text) : (ask (.writeReview path text)).AsksOnly IsLocal :=
    asksOnly_ask rfl
  refine (asked _ _).bind fun written => ?_
  cases written with
  | error failure => exact asksOnly_pure _
  | ok _ => exact asksOnly_pure _

theorem transferReviewed_local (target : Destination) (content : Dump.Database)
    (review : List Text)
    : (transferReviewed plan.rehearsing target content review).AsksOnly IsLocal := by
  unfold transferReviewed
  rw [Plan.usesWarehouse_rehearsing]
  exact (loadTables_local plan target content).bind fun _ => asksOnly_pure _

theorem transferDatabase_local (content : Dump.Database)
    : (transferDatabase plan.rehearsing stamp content).AsksOnly IsLocal := by
  unfold transferDatabase
  cases Destination.of? plan.rehearsing.catalog content.name with
  | error failure => exact asksOnly_pure _
  | ok target =>
      dsimp only
      have rest := transferReviewed_local plan target content
      rw [transferInto_eq]
      cases plan.rehearsing.savesReview with
      | false => exact rest []
      | true => exact (writeReview_local plan.rehearsing stamp target content).bind rest

section Passes

variable {kind : Request → Prop} (notes : ∀ place, kind (.noteProgress place))
include notes

/-- Nothing is asked for the content of a database, progress is noted at most. -/
theorem contentOf_asksOnly (lines : List Dump.Line) (name : Text)
    (extracted : List Dump.Database)
    : (contentOf plan lines name extracted).AsksOnly kind := by
  unfold contentOf
  rcases Dump.takeContent name extracted with ⟨found, rest⟩
  cases found with
  | some content => exact asksOnly_pure _
  | none => exact (asksOnly_readPass notes _).bind fun _ => asksOnly_pure _

theorem extract_asksOnly (lines : List Dump.Line) (names : List Text)
    : (extract plan lines names).AsksOnly kind := by
  unfold extract
  split
  · exact asksOnly_readPass notes _
  · exact asksOnly_pure _

end Passes

theorem contentOf_local (lines : List Dump.Line) (name : Text)
    (extracted : List Dump.Database)
    : (contentOf plan lines name extracted).AsksOnly IsLocal :=
  contentOf_asksOnly plan (fun _ => rfl) lines name extracted

theorem transferDatabases_local (lines : List Dump.Line) (extracted : List Dump.Database)
    (names : List Text)
    : (transferDatabases plan.rehearsing stamp lines extracted names).AsksOnly IsLocal := by
  induction names generalizing extracted with
  | nil => exact asksOnly_pure _
  | cons name rest ih =>
      refine isCancelled_local.bind fun cancelled => ?_
      cases cancelled with
      | true => exact asksOnly_pure _
      | false =>
          refine (contentOf_local plan.rehearsing lines name extracted).bind fun found => ?_
          refine (transferDatabase_local plan stamp found.1).bind fun result => ?_
          exact (ih found.2).bind fun _ => asksOnly_pure _

theorem extract_local (lines : List Dump.Line) (names : List Text)
    : (extract plan lines names).AsksOnly IsLocal :=
  extract_asksOnly plan (fun _ => rfl) lines names

theorem transferLines_local (lines : List Dump.Line)
    : (transferLines plan.rehearsing stamp lines).AsksOnly IsLocal := by
  rw [transferLines_eq]
  refine (readPass_local _).bind fun available => ?_
  unfold provideCatalog
  rw [Plan.usesWarehouse_rehearsing]
  refine (extract_local plan.rehearsing lines _).bind fun extracted => ?_
  refine (transferDatabases_local plan stamp lines extracted _).bind fun _ => ?_
  exact isCancelled_local.bind fun _ => asksOnly_pure _

/-- A dry run asks nothing of a warehouse, whatever it is answered. -/
theorem run_local (dump : Except Failure (List Dump.Line))
    : (run plan.rehearsing stamp dump).AsksOnly IsLocal := by
  unfold run
  cases plan.rehearsing.check with
  | error failure => exact asksOnly_pure _
  | ok _ =>
      cases dump with
      | error failure => exact asksOnly_pure _
      | ok lines => exact transferLines_local plan stamp lines

end Requests

-----------------------------------------------------------------------------------------
-- Dry runs and real ones
-----------------------------------------------------------------------------------------

/-- A dry run comes to what the real run comes to on a warehouse where no call fails, except that
it has no rows, and it makes no call on any warehouse. Witness: dryRun_of_sales.
-/
theorem dryRun_foretells_run {σ τ : Type} {rehearsal : Answer σ} {real : Answer τ}
    {alike : σ → τ → Prop} (surroundings : Rehearsing rehearsal real alike)
    (plan : Plan) (stamp : RunStamp) (dump : Except Failure (List Dump.Line))
    {before : σ} {after : τ} (start : alike before after)
    : ((run plan.rehearsing stamp dump).run rehearsal before).1
        = ((run plan.loading stamp dump).run real after).1.map Report.rehearsed
      ∧ (∀ report, ((run plan.rehearsing stamp dump).run rehearsal before).1 = .ok report →
          ∀ database ∈ report.databases,
            database.rows = 0 ∧ ∀ table ∈ database.tables, table.rows = 0)
      ∧ (run plan.rehearsing stamp dump).AsksOnly fun request =>
          request.isForWarehouse = false := by
  have same := (run_mirrored surroundings plan stamp dump before after start).1
  refine ⟨same, ?_, run_local plan stamp dump⟩
  intro report reported
  cases outcome : ((run plan.loading stamp dump).run real after).1 with
  | error failure =>
      rw [outcome, reported] at same
      cases same
  | ok actual =>
      rw [outcome, reported] at same
      obtain rfl := Except.ok.inj same
      exact actual.rehearsed_rows

theorem apply_isCancelled (state : Rehearsal.State) (statement : Text)
    : (state.apply statement).isCancelled = state.isCancelled := by
  unfold Rehearsal.State.apply
  split
  · rfl
  · split
    · rfl
    · split <;> rfl

/-- Two rehearsed warehouses with nothing in common but that nobody has cancelled. -/
def Uncancelled (before after : Rehearsal.State) : Prop :=
  before.isCancelled = false ∧ after.isCancelled = false

/-- A rehearsed warehouse where no call fails, whatever becomes of the files for review. -/
theorem rehearsing_answer (blocked : Option Failure)
    : Rehearsing (Rehearsal.answer { blocked }) (Rehearsal.answer { blocked }) Uncancelled where
  uncancelled start := ⟨start.1, start.2, start⟩
  review start path text := by
    cases blocked with
    | none => exact ⟨rfl, start⟩
    | some failure => exact ⟨rfl, start⟩
  progress start _ := start
  granted start request call := by
    cases request with
    | provideCatalog catalog => exact ⟨rfl, start⟩
    | openSession target => exact ⟨rfl, start⟩
    | keyPresence target table key => exact ⟨⟨_, rfl⟩, start⟩
    | execute target statement =>
        refine ⟨⟨_, rfl⟩, start.1, ?_⟩
        exact (apply_isCancelled _ statement).trans start.2
    | isCancelled => cases call
    | writeReview path text => cases call
    | noteProgress place => cases call

/-- A dump with a table that is loaded, one that fails and data that belongs to neither. -/
def salesLines : List Dump.Line :=
  [ "USE `sales`;", "DROP TABLE IF EXISTS `orders`;", "CREATE TABLE `orders` (",
    "  `id` int NOT NULL,", "  PRIMARY KEY (`id`)", ") ENGINE=InnoDB;",
    "INSERT INTO `orders` VALUES (1),(2);", "INSERT INTO `orders` VALUES (3);",
    "DROP TABLE IF EXISTS `lost`;", "INSERT INTO `lost` VALUES (1);",
    "INSERT INTO `nowhere` VALUES (1);" ].map fun line => ⟨line, {}⟩

def salesPlan : Plan :=
  { databases := ["sales", "absent"], workers := 2, savesReview := true }

theorem dryRun_of_sales
    : ((run salesPlan.loading {} (.ok salesLines)).run (Rehearsal.answer {}) {}).1.toOption.map
        Report.rows = some 3
      ∧ ((run salesPlan.rehearsing {} (.ok salesLines)).run (Rehearsal.answer {}) {}).1
        = ((run salesPlan.loading {} (.ok salesLines)).run (Rehearsal.answer {}) {}).1.map
          Report.rehearsed
      ∧ ((run salesPlan.rehearsing {} (.ok salesLines)).run (Rehearsal.answer {}) {}).2.log
        = [] := by
  have start : Uncancelled {} {} := ⟨rfl, rfl⟩
  have foretold :=
    dryRun_foretells_run (rehearsing_answer none) salesPlan {} (.ok salesLines) start
  exact ⟨by decide +kernel, foretold.1, by decide +kernel⟩

end DumpTransfer.Migration
