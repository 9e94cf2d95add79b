import DumpTransfer.Proofs.Migration.Transactions
import DumpTransfer.Proofs.Warehouse.Destinations

/-! The catalog that a run provides and the catalog in which it works. It provides the configured
text as it stands, and its sessions are for schemas in what is left of the text without white space
around it. Both are the same if and only if the text is neither blank nor has such white space.
-/

namespace DumpTransfer.Migration

open Script

-----------------------------------------------------------------------------------------
-- What a record says of catalogs
-----------------------------------------------------------------------------------------

/-- The catalogs that are asked for, in order. -/
def providedCatalogs (record : List Exchange) : List Text :=
  record.filterMap fun exchange =>
    match exchange.request with
    | .provideCatalog catalog => some catalog
    | _ => none

/-- The targets for which sessions are opened, in order. -/
def openedTargets (record : List Exchange) : List Destination :=
  record.filterMap fun exchange =>
    match exchange.request with
    | .openSession target => some target
    | _ => none

/-- Sessions are for schemas in the catalog that is provided, and in none if none is provided. -/
structure CatalogUsed (record : List Exchange) : Prop where
  provided
    : ∀ catalog ∈ providedCatalogs record, ∀ target ∈ openedTargets record,
        target.catalog = some catalog
  unprovided
    : providedCatalogs record = [] → ∀ target ∈ openedTargets record, target.catalog = none

/-- A request that provides no catalog and opens sessions in a given one alone. -/
def StaysIn (catalog : Option Text) : Request → Prop
  | .provideCatalog _ => False
  | .openSession target => target.catalog = catalog
  | .execute _ _ | .keyPresence _ _ _ | .isCancelled | .writeReview _ _ | .noteProgress _ => True

section Records

variable {catalog : Option Text} {record : List Exchange}

theorem providedCatalogs_append (first second : List Exchange)
    : providedCatalogs (first ++ second) = providedCatalogs first ++ providedCatalogs second :=
  List.filterMap_append

theorem openedTargets_append (first second : List Exchange)
    : openedTargets (first ++ second) = openedTargets first ++ openedTargets second :=
  List.filterMap_append

theorem providedCatalogs_of_staysIn (stays : ∀ exchange ∈ record, StaysIn catalog exchange.request)
    : providedCatalogs record = [] := by
  rw [providedCatalogs, List.filterMap_eq_nil_iff]
  rintro ⟨request, reply⟩ member
  cases request with
  | provideCatalog other => exact (stays _ member).elim
  | _ => rfl

theorem openedTargets_of_staysIn (stays : ∀ exchange ∈ record, StaysIn catalog exchange.request)
    : ∀ target ∈ openedTargets record, target.catalog = catalog := by
  intro target opened
  obtain ⟨⟨request, reply⟩, member, found⟩ := List.mem_filterMap.mp opened
  cases request with
  | openSession other =>
      obtain rfl := Option.some.inj found
      exact stays _ member
  | _ => cases found

/-- Nothing but the warehouse is asked for catalogs and sessions. -/
theorem nothing_of_local (isLocal : ∀ exchange ∈ record, IsLocal exchange.request)
    : providedCatalogs record = [] ∧ openedTargets record = [] := by
  rw [providedCatalogs, openedTargets, List.filterMap_eq_nil_iff, List.filterMap_eq_nil_iff]
  constructor <;> rintro ⟨request, reply⟩ member
  · cases request with
    | provideCatalog other => cases isLocal _ member
    | _ => rfl
  · cases request with
    | openSession target => cases isLocal _ member
    | _ => rfl

end Records

-----------------------------------------------------------------------------------------
-- Where a run works
-----------------------------------------------------------------------------------------

theorem staysIn_of_local {catalog : Option Text} {request : Request} (kind : IsLocal request)
    : StaysIn catalog request := by
  cases request with
  | isCancelled | writeReview path text | noteProgress place => trivial
  | provideCatalog other | openSession target | execute target statement
  | keyPresence target table key => cases kind

section Requests

variable (plan : Plan) (stamp : RunStamp)

theorem transferInto_staysIn (target : Destination) (content : Dump.Database)
    : (transferInto plan stamp target content).AsksOnly (StaysIn target.catalog) := by
  have opens : StaysIn target.catalog (.openSession target) := rfl
  have executes (statement : Text) : StaysIn target.catalog (.execute target statement) := trivial
  have reviewed (review : List Text)
      : (transferReviewed plan target content review).AsksOnly (StaysIn target.catalog) :=
    transferReviewed_asksOnly opens executes trivial plan content review
  rw [transferInto_eq]
  cases plan.savesReview with
  | false => exact reviewed []
  | true =>
      exact ((writeReview_local plan stamp target content).mono staysIn_of_local).bind reviewed

theorem transferDatabase_staysIn (content : Dump.Database)
    : (transferDatabase plan stamp content).AsksOnly
        (StaysIn (Destination.catalogOf plan.catalog)) := by
  unfold transferDatabase
  cases found : Destination.of? plan.catalog content.name with
  | error failure => exact asksOnly_pure _
  | ok target =>
      rw [← Destination.catalog_of found]
      exact transferInto_staysIn plan stamp target content

/-- By induction over the databases that are left. -/
theorem transferDatabases_staysIn (lines : List Dump.Line) (extracted : List Dump.Database)
    (names : List Text)
    : (transferDatabases plan stamp lines extracted names).AsksOnly
        (StaysIn (Destination.catalogOf plan.catalog)) := by
  induction names generalizing extracted with
  | nil => exact asksOnly_pure _
  | cons name rest ih =>
      refine (isCancelled_local.mono staysIn_of_local).bind fun cancelled => ?_
      cases cancelled with
      | true => exact asksOnly_pure _
      | false =>
          refine ((contentOf_local plan lines name extracted).mono staysIn_of_local).bind
            fun found => ?_
          refine (transferDatabase_staysIn plan stamp found.1).bind fun result => ?_
          exact (ih found.2).bind fun _ => asksOnly_pure _

theorem transferFound_staysIn (lines : List Dump.Line) (available : List Text)
    : (extract plan lines (plan.present available)
        >>= transferExtracted plan stamp lines available).AsksOnly
        (StaysIn (Destination.catalogOf plan.catalog)) := by
  refine ((extract_local plan lines _).mono staysIn_of_local).bind fun extracted => ?_
  refine (transferDatabases_staysIn plan stamp lines extracted _).bind fun reached => ?_
  exact (isCancelled_local.mono staysIn_of_local).bind fun _ => asksOnly_pure _

end Requests

-----------------------------------------------------------------------------------------
-- The record of a run
-----------------------------------------------------------------------------------------

/-- Of exchanges before and after a catalog is asked for, those before are local and those after
provide no other one.
-/
theorem catalogs_of_parts {catalog configured : Option Text} {before asked after : List Exchange}
    (isLocal : ∀ exchange ∈ before, IsLocal exchange.request)
    (requests : asked.map (·.request) = configured.toList.map .provideCatalog)
    (stays : ∀ exchange ∈ after, StaysIn catalog exchange.request)
    : providedCatalogs (before ++ (asked ++ after)) <+: configured.toList
      ∧ ∀ target ∈ openedTargets (before ++ (asked ++ after)),
          target.catalog = catalog
          ∧ providedCatalogs (before ++ (asked ++ after)) = configured.toList := by
  have asks : providedCatalogs asked = configured.toList ∧ openedTargets asked = [] := by
    cases configured with
    | none =>
        obtain rfl := List.map_eq_nil_iff.mp requests
        exact ⟨rfl, rfl⟩
    | some text =>
        obtain ⟨⟨request, reply⟩, rfl, spelled⟩ := List.map_eq_singleton_iff.mp requests
        obtain rfl : request = .provideCatalog text := spelled
        exact ⟨rfl, rfl⟩
  have nothing := nothing_of_local isLocal
  have unprovided := providedCatalogs_of_staysIn stays
  have provided : providedCatalogs (before ++ (asked ++ after)) = configured.toList := by
    simp [providedCatalogs_append, nothing.1, asks.1, unprovided]
  refine ⟨provided ▸ List.prefix_rfl, fun target opened => ⟨?_, provided⟩⟩
  have later : target ∈ openedTargets after := by
    simpa [openedTargets_append, nothing.2, asks.2] using opened
  exact openedTargets_of_staysIn stays target later

section Runs

variable {σ : Type} (answer : Answer σ) (plan : Plan) (stamp : RunStamp) (state : σ)

theorem provideCatalog_requests
    : ((provideCatalog plan.loading).exchanges answer state).map (·.request)
      = plan.catalog.toList.map .provideCatalog := by
  have same : plan.loading.catalog = plan.catalog := rfl
  unfold provideCatalog
  rw [Plan.usesWarehouse_loading, same]
  cases plan.catalog with
  | none => rfl
  | some catalog => rfl

/-- A real run asks for the configured catalog once, before it opens any session. -/
theorem run_catalogs (dump : Except Failure (List Dump.Line))
    : providedCatalogs ((run plan.loading stamp dump).exchanges answer state)
        <+: plan.catalog.toList
      ∧ ∀ target ∈ openedTargets ((run plan.loading stamp dump).exchanges answer state),
          target.catalog = Destination.catalogOf plan.catalog
          ∧ providedCatalogs ((run plan.loading stamp dump).exchanges answer state)
            = plan.catalog.toList := by
  have stopped
      : providedCatalogs [] <+: plan.catalog.toList
        ∧ ∀ target ∈ openedTargets [],
            target.catalog = Destination.catalogOf plan.catalog
            ∧ providedCatalogs [] = plan.catalog.toList :=
    ⟨List.nil_prefix, fun _ opened => absurd opened List.not_mem_nil⟩
  unfold run
  cases plan.loading.check with
  | error failure => exact stopped
  | ok _ =>
      cases dump with
      | error failure => exact stopped
      | ok lines =>
          dsimp only
          rw [transferLines_eq, exchanges_bind, exchanges_bind]
          have isLocal := (readPass_local (Dump.scanNames plan.interval lines)).exchanges answer
            state
          generalize (readPass (Dump.scanNames plan.loading.interval lines)).run answer state
            = scanned
          obtain ⟨available, state⟩ := scanned
          have requests := provideCatalog_requests answer plan state
          refine catalogs_of_parts isLocal requests (AsksOnly.exchanges answer ?_ _)
          -- Whether the catalog could be provided decides whether there is anything after it.
          generalize ((provideCatalog plan.loading).run answer state).1 = provided
          cases provided with
          | error failure => exact asksOnly_pure _
          | ok _ => exact transferFound_staysIn plan.loading stamp lines available

/-- A real run works in the catalog that it has provided, and in none if it has provided none, if
and only if it opens no session or the configured text is neither blank nor has white space at an
end. Whatever the text is, it is provided as it stands, and sessions are for schemas in what is
left of it without that white space.
-/
theorem catalog_used_iff (dump : Except Failure (List Dump.Line))
    : (CatalogUsed ((run plan.loading stamp dump).exchanges answer state)
        ↔ openedTargets ((run plan.loading stamp dump).exchanges answer state) = []
          ∨ ∀ text ∈ plan.catalog, text ≠ [] ∧ Text.trim text = text)
      ∧ providedCatalogs ((run plan.loading stamp dump).exchanges answer state)
        <+: plan.catalog.toList
      ∧ ∀ target ∈ openedTargets ((run plan.loading stamp dump).exchanges answer state),
          target.catalog = Destination.catalogOf plan.catalog
          ∧ providedCatalogs ((run plan.loading stamp dump).exchanges answer state)
            = plan.catalog.toList := by
  have places := run_catalogs answer plan stamp state dump
  refine ⟨?_, places⟩
  generalize (run plan.loading stamp dump).exchanges answer state = record at places ⊢
  obtain ⟨asked, opened⟩ := places
  rw [← Destination.catalogOf_eq_self_iff]
  constructor
  · intro used
    by_cases unopened : openedTargets record = []
    · exact .inl unopened
    · obtain ⟨target, member⟩ := List.exists_mem_of_ne_nil _ unopened
      obtain ⟨within, provided⟩ := opened target member
      refine .inr (within.symm.trans ?_)
      cases configured : plan.catalog with
      | none => exact used.unprovided (by rw [provided, configured]; rfl) target member
      | some text =>
          exact used.provided text (by simp [provided, configured]) target member
  · rintro (unopened | normal)
    · exact ⟨by simp [unopened], by simp [unopened]⟩
    · refine ⟨fun catalog provided target member => ?_, fun unprovided target member => ?_⟩
      · have configured : catalog ∈ plan.catalog.toList := asked.subset provided
        rw [(opened target member).1, normal]
        exact Option.mem_toList.mp configured
      · obtain ⟨within, provided⟩ := opened target member
        rw [within, normal]
        exact Option.toList_eq_nil_iff.mp (provided.symm.trans unprovided)

end Runs

/-- A dump of one database with one table. -/
def harborLines : List Dump.Line :=
  ["USE `harbor`;", "CREATE TABLE `a` (x int);"].map fun line => ⟨line, {}⟩

/-- The record of a run over that dump with a configured catalog, where no call fails. -/
def harborRecord (configured : Text) : List Exchange :=
  (run { databases := ["harbor"], catalog := some configured } {} (.ok harborLines)).exchanges
    (Rehearsal.answer {}) {}

/-- White space around the configured text makes a run provide one catalog and work in another, and
a blank text makes it provide a catalog and work in none.
-/
theorem spaced_catalog_unused
    : ¬ CatalogUsed (harborRecord " legacy ") ∧ ¬ CatalogUsed (harborRecord "  ") := by
  have spaced : providedCatalogs (harborRecord " legacy ") = [" legacy "]
      ∧ ⟨some "legacy", "harbor"⟩ ∈ openedTargets (harborRecord " legacy ") := by
    decide +kernel
  have blank : providedCatalogs (harborRecord "  ") = ["  "]
      ∧ ⟨none, "harbor"⟩ ∈ openedTargets (harborRecord "  ") := by
    decide +kernel
  refine ⟨fun used => ?_, fun used => ?_⟩
  · have same := used.provided " legacy " (by simp [spaced.1]) _ spaced.2
    exact absurd same (by decide +kernel)
  · exact nomatch used.provided "  " (by simp [blank.1]) _ blank.2

end DumpTransfer.Migration
