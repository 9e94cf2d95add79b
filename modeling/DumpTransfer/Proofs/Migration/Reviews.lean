import DumpTransfer.Proofs.Migration.Reporting
import DumpTransfer.Proofs.Warehouse.Destinations

/-! The files that a run leaves for review. Each is directly inside the directory of the plan, but
names of databases that differ only in characters for which the name of a file has an underscore
share one. Such a file is written once for every one of them and holds what was written last, so
each database keeps a file of its own if and only if no two of them are that alike.
-/

namespace DumpTransfer.Migration

open Script

-----------------------------------------------------------------------------------------
-- Names of files
-----------------------------------------------------------------------------------------

namespace Review

/-- What stands in the name of a file for a character of a database name. -/
def fileChar (char : Char) : Char :=
  if isFilePart char then char else '_'

/-- A character for which an underscore stands. -/
def IsMasked (char : Char) : Prop :=
  char = '_' ∨ isFilePart char = false

/-- Names that differ in nothing but characters for which underscores stand. -/
def SharesFile (name other : Text) : Prop :=
  List.Forall₂ (fun left right => left = right ∨ (IsMasked left ∧ IsMasked right)) name other

/-- A path in a directory. -/
def joined (directory file : Text) : Text :=
  if directory.isEmpty || Text.endsWith directory "/" then directory ++ file
  else directory ++ "/" ++ file

/-- The path of a file directly inside a directory. -/
def IsDirectlyIn (directory path : Text) : Prop :=
  ∃ file, path = joined directory file ∧ '/' ∉ file ∧ file ∉ ([[], ".", ".."] : List Text)

theorem fileChar_of_masked {char : Char} (masked : IsMasked char) : fileChar char = '_' := by
  unfold fileChar
  rcases masked with rfl | outside
  · exact ite_self _
  · rw [if_neg (Bool.eq_false_iff.mp outside)]

theorem fileChar_of_unmasked {char : Char} (plain : ¬ IsMasked char) : fileChar char = char := by
  have isPart : isFilePart char = true := by simpa using (not_or.mp plain).2
  rw [fileChar, if_pos isPart]

theorem fileChar_eq_iff (left right : Char)
    : fileChar left = fileChar right ↔ left = right ∨ (IsMasked left ∧ IsMasked right) := by
  by_cases leftMasked : IsMasked left <;> by_cases rightMasked : IsMasked right
  · simp [fileChar_of_masked, leftMasked, rightMasked]
  · have apart : left ≠ right := fun same => rightMasked (same ▸ leftMasked)
    have visible : '_' ≠ right := fun same => rightMasked (.inl same.symm)
    simp [fileChar_of_masked leftMasked, fileChar_of_unmasked rightMasked, apart, visible,
      rightMasked]
  · have apart : left ≠ right := fun same => leftMasked (same ▸ rightMasked)
    have visible : left ≠ '_' := fun same => leftMasked (.inl same)
    simp [fileChar_of_unmasked leftMasked, fileChar_of_masked rightMasked, apart, visible,
      leftMasked]
  · simp [fileChar_of_unmasked, leftMasked, rightMasked]

/-- Two databases have a file in common if and only if their names are that alike. -/
theorem fileName_eq_iff (name other : Text)
    : fileName name = fileName other ↔ SharesFile name other := by
  have spelled (text : Text) : fileName text = text.map fileChar ++ "_converted.sql" := rfl
  rw [spelled, spelled, List.append_left_inj, ← congrFun₂ List.forall₂_eq_eq_eq,
    List.forall₂_map_left_iff, List.forall₂_map_right_iff]
  simp only [fileChar_eq_iff]
  rfl

instance (name other : Text) : Decidable (SharesFile name other) :=
  decidable_of_iff _ (fileName_eq_iff name other)

theorem path_eq_iff (directory name other : Text)
    : path directory name = path directory other ↔ SharesFile name other := by
  rw [← fileName_eq_iff, path, path]
  split <;> simp

/-- The name of a file has no separator in it, whatever the database is called. -/
theorem slash_not_mem_fileName (name : Text) : '/' ∉ fileName name := by
  have masked : IsMasked '/' := .inr (by decide +kernel)
  have kept (char : Char) : fileChar char ≠ '/' := by
    intro same
    by_cases isMasked : IsMasked char
    · exact absurd ((fileChar_of_masked isMasked).symm.trans same) (by decide)
    · rw [fileChar_of_unmasked isMasked] at same
      exact isMasked (same ▸ masked)
  intro member
  rcases List.mem_append.mp member with part | ending
  · obtain ⟨char, -, same⟩ := List.mem_map.mp part
    exact kept char same
  · exact absurd ending (by decide +kernel)

theorem path_isDirectlyIn (directory name : Text)
    : IsDirectlyIn directory (path directory name) := by
  refine ⟨fileName name, rfl, slash_not_mem_fileName name, fun special => ?_⟩
  have long : 2 < (fileName name).length := by
    have ending : (Text.ofString "_converted.sql").length = 14 := by decide +kernel
    rw [fileName, List.length_append]
    exact Nat.lt_of_lt_of_le (by decide) (ending.symm.le.trans (Nat.le_add_left _ _))
  have short : ∀ text ∈ ([[], ".", ".."] : List Text), text.length ≤ 2 := by decide +kernel
  exact absurd (short _ special) (Nat.not_le_of_lt long)

end Review

-----------------------------------------------------------------------------------------
-- Files that a record leaves
-----------------------------------------------------------------------------------------

/-- A request to write a file for review. -/
def WritesReview : Request → Prop
  | .writeReview _ _ => True
  | .provideCatalog _ | .openSession _ | .execute _ _ | .keyPresence _ _ _ | .isCancelled
  | .noteProgress _ => False

/-- Every file for review could be written. -/
def ReviewsWritten (record : List Exchange) : Prop :=
  ∀ exchange ∈ record, WritesReview exchange.request → exchange.Succeeded

/-- The path and the text of a file for review that could be written. -/
def writtenFile? : Exchange → Option (Text × Text)
  | ⟨.writeReview path text, .ok _⟩ => some (path, text)
  | _ => none

/-- The files for review that are written, in order. -/
def writtenFiles (record : List Exchange) : List (Text × Text) :=
  record.filterMap writtenFile?

/-- What is in the file at a path in the end: the text that was written there last. -/
def fileAt (record : List Exchange) (path : Text) : Option Text :=
  ((writtenFiles record).filter (·.1 = path)).getLast?.map (·.2)

theorem writtenFiles_append (first second : List Exchange)
    : writtenFiles (first ++ second) = writtenFiles first ++ writtenFiles second :=
  List.filterMap_append

theorem reviewsWritten_append {first second : List Exchange}
    : ReviewsWritten (first ++ second) ↔ ReviewsWritten first ∧ ReviewsWritten second :=
  List.forall_mem_append

theorem writtenFiles_eq_nil {record : List Exchange}
    (spares : ∀ exchange ∈ record, ¬ WritesReview exchange.request)
    : writtenFiles record = [] := by
  rw [writtenFiles, List.filterMap_eq_nil_iff]
  rintro ⟨request, reply⟩ member
  cases request with
  | writeReview path text => exact absurd trivial (spares _ member)
  | _ => rfl

/-- Surroundings in which every file for review can be written leave no other record, by induction
over the requests of a procedure.
-/
theorem reviewsWritten_exchanges {σ α : Type} {answer : Answer σ}
    (grants : ∀ path text state, (answer (.writeReview path text) state).1 = .ok ())
    (script : Script α) (state : σ)
    : ReviewsWritten (script.exchanges answer state) := by
  induction script generalizing state with
  | done value => exact List.forall_mem_nil _
  | call request next ih =>
      refine List.forall_mem_cons.mpr ⟨fun writes => ?_, ih _ _⟩
      cases request with
      | writeReview path text => exact grants path text state
      | _ => exact writes.elim

-----------------------------------------------------------------------------------------
-- Files that a run leaves
-----------------------------------------------------------------------------------------

namespace Plan

/-- Whether a database can have a schema, without which it is not migrated. -/
def admits (plan : Plan) (name : Text) : Bool :=
  (Destination.of? plan.catalog name).isOk

/-- The text of the file for a database. -/
def rendering (plan : Plan) (stamp : RunStamp) (lines : List Dump.Line) (name : Text) : Text :=
  Review.text standardConverter ⟨Destination.catalogOf plan.catalog, name⟩
    (plan.content lines name) plan.sample stamp.beginning

/-- The file for a database with its text. -/
def reviewOf (plan : Plan) (stamp : RunStamp) (lines : List Dump.Line) (name : Text)
    : Text × Text :=
  (Review.path plan.reviewDirectory name, plan.rendering stamp lines name)

end Plan

/-- The databases that a report tells of and that could have a schema. -/
def Report.migrated (report : Report) (plan : Plan) : List Text :=
  (report.databases.map (·.database)).filter plan.admits

theorem isCancelled_spares : isCancelled.AsksOnly (¬ WritesReview ·) :=
  asksOnly_ask not_false

theorem contentOf_spares (plan : Plan) (lines : List Dump.Line) (name : Text)
    (extracted : List Dump.Database)
    : (contentOf plan lines name extracted).AsksOnly (¬ WritesReview ·) :=
  contentOf_asksOnly plan (fun _ => not_false) lines name extracted

theorem spares_of_prepares {request : Request} (prepares : Prepares request)
    : ¬ WritesReview request := by
  cases request with
  | writeReview path text => exact prepares.elim
  | _ => exact not_false

section Runs

variable {σ : Type} (answer : Answer σ) {plan : Plan} (stamp : RunStamp)
variable (saves : plan.savesReview = true) {lines : List Dump.Line}

theorem writeReview_files {target : Destination} {content : Dump.Database} {state : σ}
    (written : ReviewsWritten ((writeReview plan stamp target content).exchanges answer state))
    : writtenFiles ((writeReview plan stamp target content).exchanges answer state)
      = [(Review.path plan.reviewDirectory content.name,
          Review.text standardConverter target content plan.sample stamp.beginning)] := by
  rw [writeReview, exchanges_bind, exchanges_ask, run_ask] at written ⊢
  generalize answer _ state = reached at written ⊢
  obtain ⟨reply, state⟩ := reached
  cases reply with
  | error failure =>
      have granted : Except.error failure = .ok () := written _ List.mem_cons_self trivial
      cases granted
  | ok _ => rfl

include saves

/-- One file is written for a database that can have a schema, and none for another. -/
theorem transferDatabase_files (name : Text) {state : σ}
    (written : ReviewsWritten
      ((transferDatabase plan stamp (plan.content lines name)).exchanges answer state))
    : writtenFiles ((transferDatabase plan stamp (plan.content lines name)).exchanges answer state)
      = ([name].filter plan.admits).map (plan.reviewOf stamp lines) := by
  rw [transferDatabase, plan.content_name] at written ⊢
  cases found : Destination.of? plan.catalog name with
  | error failure =>
      have refused : plan.admits name = false := by rw [Plan.admits, found]; rfl
      rw [List.filter_cons_of_neg (by simp [refused])]
      rfl
  | ok target =>
      have admitted : plan.admits name = true := by rw [Plan.admits, found]; rfl
      have spares (review : List Text)
          : (transferReviewed plan target (plan.content lines name) review).AsksOnly
              (¬ WritesReview ·) :=
        transferReviewed_asksOnly not_false (fun _ => not_false) not_false plan _ review
      rw [found] at written
      dsimp only at written ⊢
      rw [transferInto_eq, if_pos saves, exchanges_bind] at written ⊢
      rw [writtenFiles_append, writeReview_files answer stamp (reviewsWritten_append.mp written).1,
        writtenFiles_eq_nil ((spares _).exchanges answer _), List.filter_cons_of_pos admitted,
        plan.content_name, Destination.eq_of_of? found]
      rfl

/-- By induction over the databases that are left. -/
theorem transferDatabases_files (names : List Text) {extracted : List Dump.Database}
    (beforehand : plan.Extracted lines names extracted) {state : σ}
    (written : ReviewsWritten
      ((transferDatabases plan stamp lines extracted names).exchanges answer state))
    : writtenFiles ((transferDatabases plan stamp lines extracted names).exchanges answer state)
      = ((((transferDatabases plan stamp lines extracted names).run answer state).1.1.map
          (·.database)).filter plan.admits).map (plan.reviewOf stamp lines) := by
  induction names generalizing extracted state with
  | nil => rfl
  | cons name rest ih =>
      rw [transferDatabases, exchanges_bind] at written ⊢
      rw [run_bind, writtenFiles_append,
        writtenFiles_eq_nil (isCancelled_spares.exchanges answer state), List.nil_append]
      replace written := (reviewsWritten_append.mp written).2
      generalize isCancelled.run answer state = reached at written ⊢
      obtain ⟨learned, state⟩ := reached
      cases learned with
      | true => rfl
      | false =>
          simp only [Bool.false_eq_true, if_false] at written ⊢
          rw [exchanges_bind] at written ⊢
          rw [run_bind, writtenFiles_append,
            writtenFiles_eq_nil ((contentOf_spares plan lines name extracted).exchanges answer
              state), List.nil_append]
          replace written := (reviewsWritten_append.mp written).2
          have found := contentOf_run answer beforehand state
          generalize (contentOf plan lines name extracted).run answer state = reached
            at found written ⊢
          obtain ⟨⟨content, others⟩, state⟩ := reached
          obtain ⟨rfl, left⟩ := found
          dsimp only at written ⊢
          rw [exchanges_bind, exchanges_bind, exchanges_pure, List.append_nil] at written ⊢
          obtain ⟨first, later⟩ := reviewsWritten_append.mp written
          rw [run_bind, run_bind, run_pure, writtenFiles_append, ih left later,
            transferDatabase_files answer stamp saves name first]
          have named := (transferDatabase_transferred answer plan stamp (plan.content lines name)
            state).database.trans (plan.content_name lines name)
          rw [← List.map_append, ← List.filter_append, List.map_cons, named]
          rfl

/-- The files that a run writes are those of the databases that its report tells of. -/
theorem run_files {state : σ} {report : Report}
    (returned : ((run plan stamp (.ok lines)).run answer state).1 = .ok report)
    (written : ReviewsWritten ((run plan stamp (.ok lines)).exchanges answer state))
    : writtenFiles ((run plan stamp (.ok lines)).exchanges answer state)
      = (report.migrated plan).map (plan.reviewOf stamp lines) := by
  obtain ⟨extracted, before, start, reaches⟩ := run_reaches answer returned
  obtain ⟨isStopped, record⟩ := reaches.record
  have prepared : ∀ exchange ∈ before, ¬ WritesReview exchange.request :=
    fun exchange member => spares_of_prepares (reaches.prepared exchange member)
  rw [record] at written ⊢
  obtain ⟨-, during⟩ := reviewsWritten_append.mp written
  rw [writtenFiles_append, writtenFiles_append, writtenFiles_eq_nil prepared,
    transferDatabases_files answer stamp saves _ reaches.beforehand
      (reviewsWritten_append.mp during).1, Report.migrated, reaches.databases]
  exact List.append_nil _

end Runs

-----------------------------------------------------------------------------------------
-- Databases that keep their files
-----------------------------------------------------------------------------------------

/-- A database of some that has a file of its own with its rendering in it. -/
structure KeepsReview (record : List Exchange) (plan : Plan) (stamp : RunStamp)
    (lines : List Dump.Line) (names : List Text) (name : Text)
    : Prop where
  inside : Review.IsDirectlyIn plan.reviewDirectory (Review.path plan.reviewDirectory name)
  rendered
    : fileAt record (Review.path plan.reviewDirectory name)
      = some (plan.rendering stamp lines name)
  alone
    : ∀ other ∈ names,
        Review.path plan.reviewDirectory other = Review.path plan.reviewDirectory name →
        other = name

section Names

variable {record : List Exchange} {plan : Plan} {stamp : RunStamp} {lines : List Dump.Line}
variable {names : List Text} {name : Text}

theorem Review.sharesFile_self (name : Text) : SharesFile name name :=
  (fileName_eq_iff name name).mp rfl

/-- Databases that share a file have different renderings, since their names are equally long. -/
theorem Plan.rendering_inj {other : Text} (shared : Review.SharesFile name other)
    (same : plan.rendering stamp lines name = plan.rendering stamp lines other)
    : name = other := by
  simp only [rendering, Review.text, List.append_assoc, plan.content_name] at same
  exact List.append_inj_left (List.append_cancel_left same) shared.length_eq

variable (files : writtenFiles record = names.map (plan.reviewOf stamp lines))
include files

/-- A file holds the rendering of the last of the databases that share it. -/
theorem fileAt_path (name : Text)
    : fileAt record (Review.path plan.reviewDirectory name)
      = (names.filter (Review.SharesFile · name)).getLast?.map (plan.rendering stamp lines) := by
  rw [fileAt, files, List.filter_map, List.getLast?_map, Option.map_map]
  have alike (other : Text)
      : ((plan.reviewOf stamp lines other).1 = Review.path plan.reviewDirectory name)
        = Review.SharesFile other name :=
    propext (Review.path_eq_iff plan.reviewDirectory other name)
  simp only [Function.comp_def, alike]
  rfl

theorem fileAt_eq_rendering_iff
    : fileAt record (Review.path plan.reviewDirectory name)
        = some (plan.rendering stamp lines name)
      ↔ (names.filter (Review.SharesFile · name)).getLast? = some name := by
  rw [fileAt_path files]
  constructor
  · intro held
    obtain ⟨last, isLast, same⟩ := Option.map_eq_some_iff.mp held
    have shared := (List.mem_filter.mp (List.mem_of_getLast? isLast)).2
    rw [isLast, Plan.rendering_inj (of_decide_eq_true shared) same]
  · intro isLast
    rw [isLast]
    rfl

theorem keepsReview_all_iff
    : (∀ name ∈ names, KeepsReview record plan stamp lines names name)
      ↔ ∀ name ∈ names, ∀ other ∈ names, Review.SharesFile other name → other = name := by
  constructor
  · intro kept name member other present shared
    exact (kept name member).alone other present ((Review.path_eq_iff ..).mpr shared)
  · intro apart name member
    refine ⟨Review.path_isDirectlyIn _ _, (fileAt_eq_rendering_iff files).mpr ?_,
      fun other present same => apart name member other present ((Review.path_eq_iff ..).mp same)⟩
    have held : name ∈ names.filter (Review.SharesFile · name) :=
      List.mem_filter.mpr ⟨member, decide_eq_true (Review.sharesFile_self name)⟩
    obtain ⟨last, isLast⟩ :=
      Option.isSome_iff_exists.mp (List.getLast?_isSome.mpr (List.ne_nil_of_mem held))
    obtain ⟨present, shared⟩ := List.mem_filter.mp (List.mem_of_getLast? isLast)
    rw [isLast, apart name member last present (of_decide_eq_true shared)]

end Names

/-- Where every file for review can be written, each database that is migrated keeps a file of its
own if and only if no two of their names differ only in characters for which underscores stand. In
any case a file is directly inside the directory and holds the rendering of the last database that
shares it, so that no other one of them has its rendering there. Witness: ward_reviews_kept.
-/
theorem reviews_kept_iff {σ : Type} {answer : Answer σ} {plan : Plan} {stamp : RunStamp}
    {lines : List Dump.Line} {state : σ} {report : Report} (saves : plan.savesReview = true)
    (returned : ((run plan stamp (.ok lines)).run answer state).1 = .ok report)
    (written : ReviewsWritten ((run plan stamp (.ok lines)).exchanges answer state))
    : ((∀ name ∈ report.migrated plan,
          KeepsReview ((run plan stamp (.ok lines)).exchanges answer state) plan stamp lines
            (report.migrated plan) name)
        ↔ ∀ name ∈ report.migrated plan, ∀ other ∈ report.migrated plan,
            Review.SharesFile other name → other = name)
      ∧ ∀ name,
          Review.IsDirectlyIn plan.reviewDirectory (Review.path plan.reviewDirectory name)
          ∧ fileAt ((run plan stamp (.ok lines)).exchanges answer state)
              (Review.path plan.reviewDirectory name)
            = ((report.migrated plan).filter (Review.SharesFile · name)).getLast?.map
                (plan.rendering stamp lines)
          ∧ (fileAt ((run plan stamp (.ok lines)).exchanges answer state)
                (Review.path plan.reviewDirectory name)
              = some (plan.rendering stamp lines name)
              ↔ ((report.migrated plan).filter (Review.SharesFile · name)).getLast?
                = some name) := by
  have files := run_files answer stamp saves returned written
  exact ⟨keepsReview_all_iff files, fun name =>
    ⟨Review.path_isDirectlyIn _ _, fileAt_path files name, fileAt_eq_rendering_iff files⟩⟩

/-- What comes of migrating databases with files for review when nothing fails. -/
def rehearsedReport (plan : Plan) (lines : List Dump.Line) : Except Failure Report :=
  ((run plan {} (.ok lines)).run (Rehearsal.answer {}) {}).1

/-- The record of that. -/
def rehearsedRecord (plan : Plan) (lines : List Dump.Line) : List Exchange :=
  (run plan {} (.ok lines)).exchanges (Rehearsal.answer {}) {}

theorem rehearsedRecord_written (plan : Plan) (lines : List Dump.Line)
    : ReviewsWritten (rehearsedRecord plan lines) :=
  reviewsWritten_exchanges (fun _ _ _ => rfl) _ _

/-- A dump of two databases, the first of which has a blank in its name. -/
def wardLines (second : Text) : List Dump.Line :=
  ([ "USE `a b`;", "CREATE TABLE `t` (x int);", "USE `" ++ second ++ "`;",
    "CREATE TABLE `u` (y int);" ] : List Text).map fun line => ⟨line, {}⟩

def wardReviews (second : Text) : Plan :=
  { databases := ["a b", second], savesReview := true }

/-- A hyphen may stand in the name of a file, so both databases keep theirs. -/
theorem ward_reviews_kept
    : ∃ report,
        rehearsedReport (wardReviews "a-b") (wardLines "a-b") = .ok report
        ∧ report.migrated (wardReviews "a-b") = (["a b", "a-b"] : List Text)
        ∧ ∀ name ∈ report.migrated (wardReviews "a-b"),
            KeepsReview (rehearsedRecord (wardReviews "a-b") (wardLines "a-b"))
              (wardReviews "a-b") {} (wardLines "a-b") (report.migrated (wardReviews "a-b"))
              name := by
  have shown
      : (rehearsedReport (wardReviews "a-b") (wardLines "a-b")).toOption.map
          (·.migrated (wardReviews "a-b"))
        = some (["a b", "a-b"] : List Text) := by
    decide +kernel
  cases returned : rehearsedReport (wardReviews "a-b") (wardLines "a-b") with
  | error failure =>
      rw [returned] at shown
      cases shown
  | ok report =>
      rw [returned] at shown
      have migrated : report.migrated (wardReviews "a-b") = (["a b", "a-b"] : List Text) :=
        Option.some.inj shown
      have written := rehearsedRecord_written (wardReviews "a-b") (wardLines "a-b")
      refine ⟨report, rfl, migrated, (reviews_kept_iff rfl returned written).1.mpr ?_⟩
      rw [migrated]
      decide +kernel

/-- For a blank there is an underscore, so what was written for the first database is replaced. -/
theorem shared_review_overwritten
    : ∃ report,
        rehearsedReport (wardReviews "a_b") (wardLines "a_b") = .ok report
        ∧ report.migrated (wardReviews "a_b") = (["a b", "a_b"] : List Text)
        ∧ ReviewsWritten (rehearsedRecord (wardReviews "a_b") (wardLines "a_b"))
        ∧ fileAt (rehearsedRecord (wardReviews "a_b") (wardLines "a_b"))
            (Review.path (wardReviews "a_b").reviewDirectory "a b")
          = some ((wardReviews "a_b").rendering {} (wardLines "a_b") "a_b")
        ∧ ¬ KeepsReview (rehearsedRecord (wardReviews "a_b") (wardLines "a_b"))
            (wardReviews "a_b") {} (wardLines "a_b") (report.migrated (wardReviews "a_b"))
            "a b" := by
  have shown
      : (rehearsedReport (wardReviews "a_b") (wardLines "a_b")).toOption.map
          (·.migrated (wardReviews "a_b"))
        = some (["a b", "a_b"] : List Text) := by
    decide +kernel
  have shared : Review.SharesFile "a b" "a_b" := by decide +kernel
  have written := rehearsedRecord_written (wardReviews "a_b") (wardLines "a_b")
  cases returned : rehearsedReport (wardReviews "a_b") (wardLines "a_b") with
  | error failure =>
      rw [returned] at shown
      cases shown
  | ok report =>
      rw [returned] at shown
      have migrated : report.migrated (wardReviews "a_b") = (["a b", "a_b"] : List Text) :=
        Option.some.inj shown
      have last
          : ((["a b", "a_b"] : List Text).filter (Review.SharesFile · "a b")).getLast?
            = some "a_b" := by
        decide +kernel
      have replaced := fileAt_path (run_files _ {} rfl returned written) "a b"
      rw [migrated, last] at replaced
      refine ⟨report, rfl, migrated, written, replaced, fun kept => ?_⟩
      have same := Option.some.inj (replaced.symm.trans kept.rendered)
      exact absurd (Plan.rendering_inj shared same.symm) (by decide +kernel)

end DumpTransfer.Migration
