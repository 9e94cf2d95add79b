import DumpTransfer.Proofs.Attachment.Labels
import DumpTransfer.Proofs.Attachment.Repetition

/-! One pass over the foreign keys of a dump, where none of them is there before and nothing fails.
Each label is attached once. What comes later under the same label finds it there, so no
foreign key is lost exactly when the names of every table stay apart.
-/

namespace DumpTransfer.Attachment

open Script

-----------------------------------------------------------------------------------------
-- One foreign key among others
-----------------------------------------------------------------------------------------

/-- Nothing that a pass does for a foreign key fails. -/
structure Rule.Carries (rule : Rule) (validates : Bool) (assignment : Assignment) : Prop where
  understands : rule.Understands assignment.target assignment.key
  found
    : rule.refusesLookup assignment.target assignment.key.table assignment.key.name = false
  attaches : rule.Attaches assignment.target assignment.key
  checks
    : validates = true →
        rule.commits (assignment.key.checkStatement assignment.target) = true

/-- Of some foreign keys those with certain labels are there as they are wanted, and no others. -/
def Held.HoldsOnly (held : Held) (validates : Bool) (labels : List Label)
    (assignments : List Assignment)
    : Prop :=
  ∀ assignment ∈ assignments,
    held.presence assignment.target assignment.key
      = if assignment.label ∈ labels then wanted validates else .absent

section Attaching

variable {rule : Rule} {validates : Bool} {held : Held} {assignment : Assignment}

/-- The last state into which a foreign key is brought is what counts. -/
theorem Held.put_put (held : Held) {first second : Rehearsal.AttachedKey}
    (table : first.table = second.table) (name : first.name = second.name)
    : (held.put first).put second = held.put second := by
  funext onTable named
  unfold put
  by_cases here : onTable = second.table ∧ named = second.name
  · rw [if_pos here, if_pos here]
  · rw [if_neg here, if_neg here, if_neg (by rwa [table, name])]

theorem Rule.Carries.settle_absent (carries : rule.Carries validates assignment)
    (absent : held.presence assignment.target assignment.key = .absent)
    : rule.settle assignment.target validates assignment.key held
      = (some .added, held.put (attachedKey assignment.target assignment.key validates)) := by
  rw [settle_of_absent carries.found absent, attach_of_attaches carries.attaches]
  cases validates with
  | false => rfl
  | true =>
      rw [if_pos rfl, check, transact_of_commits (carries.checks rfl)]
      exact congrArg (Prod.mk _) (held.put_put rfl rfl)

theorem Rule.Carries.settle_present (carries : rule.Carries validates assignment)
    (present : held.presence assignment.target assignment.key = wanted validates)
    : rule.settle assignment.target validates assignment.key held = (some .unchanged, held) :=
  settle_of_wanted carries.found present.symm.le

/-- Under one catalog, foreign keys are written alike when their labels are the same. -/
theorem Assignment.written_iff {other : Assignment}
    (catalog : other.target.catalog = assignment.target.catalog)
    : (other.target.qualify other.key.table = assignment.target.qualify assignment.key.table
        ∧ Identifier.quote other.key.name = Identifier.quote assignment.key.name)
      ↔ other.label = assignment.label := by
  constructor
  · rintro ⟨tables, names⟩
    obtain ⟨target, table⟩ := Destination.qualify_injective tables
    rw [label, label, target, table, Sql.ObjectName.quote_injective names]
  · intro same
    obtain ⟨schema, rest⟩ := Prod.mk.inj same
    obtain ⟨table, name⟩ := Prod.mk.inj rest
    have target : other.target = assignment.target := by
      cases into : other.target
      cases at_ : assignment.target
      simp_all
    rw [target, table, name]
    exact ⟨rfl, rfl⟩

theorem Held.put_presence_other {other : Assignment}
    (catalog : other.target.catalog = assignment.target.catalog)
    : (held.put (attachedKey assignment.target assignment.key validates)).presence other.target
          other.key
      = if other.label = assignment.label then wanted validates
        else held.presence other.target other.key :=
  if_congr (Assignment.written_iff catalog) rfl rfl

theorem Held.HoldsOnly.put {labels : List Label} {assignments : List Assignment}
    (holds : held.HoldsOnly validates labels assignments)
    (catalog : ∀ other ∈ assignments, other.target.catalog = assignment.target.catalog)
    : (held.put (attachedKey assignment.target assignment.key validates)).HoldsOnly validates
        (assignment.label :: labels) assignments := by
  intro other member
  rw [put_presence_other (catalog other member)]
  by_cases same : other.label = assignment.label
  · simp [same]
  · rw [if_neg same, holds other member]
    simp [same]

/-- What has been settled among what is new to the labels that are there. -/
theorem eraseDups_cons_filter (labels : List Label) (label : Label) (rest : List Label)
    : ((label :: rest).filter (· ∉ labels)).eraseDups
      = if label ∈ labels then (rest.filter (· ∉ labels)).eraseDups
        else label :: (rest.filter (· ∉ label :: labels)).eraseDups := by
  by_cases known : label ∈ labels
  · simp [known]
  · rw [if_neg known, List.filter_cons_of_pos (by simpa using known), List.eraseDups_cons,
      List.filter_filter]
    congr 3
    funext other
    simp [Bool.beq_eq_decide_eq]

/-- By induction over the attempts: each label that is not there yet is added once. -/
theorem Made.added_once {σ : Type} {view : σ → Holdings} {assignments : List Assignment}
    {last : Held} {attempts : List (Attempt σ)} {umbrella : Option Text} {labels : List Label}
    (made : Made rule view validates assignments held attempts last)
    (carries : ∀ assignment ∈ assignments, rule.Carries validates assignment)
    (catalog : ∀ assignment ∈ assignments, assignment.target.catalog = umbrella)
    (holds : held.HoldsOnly validates labels assignments)
    : (∀ attempt ∈ attempts,
        (attempt.foretold rule view validates).1 = some .added
        ∨ (attempt.foretold rule view validates).1 = some .unchanged)
      ∧ (attempts.filter fun attempt =>
            (attempt.foretold rule view validates).1 = some .added).map (·.assignment.label)
          = ((attempts.map (·.assignment.label)).filter (· ∉ labels)).eraseDups := by
  induction made generalizing labels with
  | stopped assignments held => simp
  | next assignment state settled rest ih =>
      rename_i assignments attempts last
      have carried := carries assignment (by simp)
      have others := fun other (member : other ∈ assignments) =>
        carries other (List.mem_cons_of_mem _ member)
      have umbrella_ := fun other (member : other ∈ assignments) =>
        catalog other (List.mem_cons_of_mem _ member)
      have before := holds assignment (by simp)
      have holdsRest : (view state).held.HoldsOnly validates labels assignments :=
        fun other member => holds other (List.mem_cons_of_mem _ member)
      simp only [List.map_cons, eraseDups_cons_filter]
      by_cases known : assignment.label ∈ labels
      · rw [if_pos known] at before ⊢
        have foretold : Attempt.foretold rule view validates ⟨assignment, state⟩
            = (some .unchanged, (view state).held) := carried.settle_present before
        rw [foretold] at ih
        obtain ⟨statuses, added⟩ := ih others umbrella_ holdsRest
        refine ⟨List.forall_mem_cons.mpr ⟨.inr (congrArg Prod.fst foretold), statuses⟩, ?_⟩
        rw [List.filter_cons_of_neg (by simp [foretold])]
        exact added
      · rw [if_neg known] at before ⊢
        have foretold : Attempt.foretold rule view validates ⟨assignment, state⟩
            = (some .added,
                (view state).held.put (attachedKey assignment.target assignment.key validates)) :=
          carried.settle_absent before
        rw [foretold] at ih
        obtain ⟨statuses, added⟩ := ih others umbrella_ (holdsRest.put fun other member =>
          (umbrella_ other member).trans (catalog assignment (by simp)).symm)
        refine ⟨List.forall_mem_cons.mpr ⟨.inl (congrArg Prod.fst foretold), statuses⟩, ?_⟩
        rw [List.filter_cons_of_pos (by simp [foretold]), List.map_cons, added]

end Attaching

-----------------------------------------------------------------------------------------
-- Passes that come to a report
-----------------------------------------------------------------------------------------

section Passes

variable {σ : Type} {answer : Answer σ} {plan : Plan} {lines : List Dump.Line}
variable (opens : ∀ target state, (answer (.openSession target) state).1 = .ok ())
include opens

theorem settleDatabase_returns {content : Dump.Database}
    (schema : ∃ target, Destination.of? plan.catalog content.name = .ok target) (state : σ)
    : ∃ results, ((settleDatabase plan content).run answer state).1 = .ok results := by
  obtain ⟨target, found⟩ := schema
  unfold settleDatabase
  rw [found]
  cases declaredKeys content with
  | nil => exact ⟨[], rfl⟩
  | cons key rest =>
      have opened := opens target state
      dsimp only
      rw [run_bind, run_ask]
      generalize answer (.openSession target) state = reached at opened ⊢
      obtain ⟨reply, later⟩ := reached
      obtain rfl : reply = .ok () := opened
      exact ⟨_, congrArg Prod.fst (run_bind _ _ _ _)⟩

/-- By induction over the databases. -/
theorem settleDatabases_returns (available : List Text) {names : List Text}
    (schemas : ∀ name ∈ names, ∃ target, Destination.of? plan.catalog name = .ok target)
    (state : σ)
    : ∃ reached,
        ((settleDatabases plan lines available names).run answer state).1 = .ok reached := by
  induction names generalizing state with
  | nil => exact ⟨_, rfl⟩
  | cons name rest ih =>
      have others := fun state => ih (fun other member => schemas other (by simp [member])) state
      rw [settleDatabases, run_bind]
      split
      · exact ⟨_, rfl⟩
      · split
        · exact others _
        · rw [run_bind, Migration.readPass_run, run_bind]
          have named := Dump.extractOne_name plan.interval name lines
          obtain ⟨results, settled⟩ := settleDatabase_returns opens
            (named ▸ schemas name (by simp)) ((readPass (Dump.extractOne plan.interval name
              lines)).run answer (isCancelled.run answer state).2).2
          rw [settled]
          dsimp only
          rw [run_bind, run_pure]
          obtain ⟨reached, followed⟩ := others ((settleDatabase plan (Dump.extractOne plan.interval
            name lines).value).run answer ((readPass (Dump.extractOne plan.interval name
              lines)).run answer (isCancelled.run answer state).2).2).2
          rw [followed]
          exact ⟨_, rfl⟩

/-- A pass comes to a report when every database has a schema and every session opens. -/
theorem run_returns
    (schemas : ∀ name ∈ plan.databases, ∃ target, Destination.of? plan.catalog name = .ok target)
    (state : σ)
    : ∃ report, ((run plan lines).run answer state).1 = .ok report := by
  rw [run, run_bind, Migration.readPass_run, run_bind]
  obtain ⟨reached, settled⟩
      : ∃ reached, ((settleDatabases plan lines _ plan.databases).run answer _).1 = .ok reached :=
    settleDatabases_returns opens _ schemas _
  rw [settled]
  exact ⟨_, rfl⟩

end Passes

-----------------------------------------------------------------------------------------
-- What is attached
-----------------------------------------------------------------------------------------

theorem eraseDups_of_nodup {labels : List Label} (distinct : labels.Nodup)
    : labels.eraseDups = labels := by
  induction labels with
  | nil => rfl
  | cons label rest ih =>
      obtain ⟨fresh, distinct⟩ := List.nodup_cons.mp distinct
      rw [List.eraseDups_cons, List.filter_eq_self.mpr, ih distinct]
      intro other member
      have differ : other ≠ label := fun same => fresh (same ▸ member)
      simpa using differ

/-- All results are among those added when no label comes twice. -/
theorem all_added_iff {results : List KeyResult} {labels : List Label}
    (all : results.map KeyResult.label = labels)
    (added : (results.filter (·.status = .added)).map KeyResult.label = labels.eraseDups)
    : (∀ result ∈ results, result.status = .added) ↔ labels.Nodup := by
  constructor
  · intro every
    rw [List.filter_eq_self.mpr (by simpa using every), all] at added
    exact added ▸ Repeats.nodup_eraseDups labels
  · intro distinct
    rw [eraseDups_of_nodup distinct, ← all] at added
    have lengths := congrArg List.length added
    rw [List.length_map, List.length_map] at lengths
    simpa using List.length_filter_eq_length_iff.mp lengths

/-- A pass that reports a cancellation has been cancelled by its end. -/
theorem cancelled_of_report {σ : Type} {answer : Answer σ} {rule : Rule} {view : σ → Holdings}
    (keeps : Keeps answer rule view) (forGood : CancelsForGood answer) {plan : Plan}
    {lines : List Dump.Line}
    (understands : ∀ assignment ∈ plan.assignments lines,
      rule.Understands assignment.target assignment.key)
    {state : σ} {report : Report}
    (returned : ((run plan lines).run answer state).1 = .ok report)
    (reported : report.isCancelled = true)
    : Cancelled answer ((run plan lines).run answer state).2 := by
  have names : (Dump.scanNames plan.interval lines).value = Dump.databaseNames lines := rfl
  unfold run at returned ⊢
  rw [run_bind, Migration.readPass_run, names, run_bind] at returned ⊢
  cases settled : ((settleDatabases plan lines (Dump.databaseNames lines) plan.databases).run
      answer ((readPass (Dump.scanNames plan.interval lines)).run answer state).2).1 with
  | error failure =>
      rw [settled] at returned
      cases returned
  | ok reached =>
      obtain ⟨results, wasStopped⟩ := reached
      obtain ⟨-, -, stopped⟩ := settleDatabases_part keeps forGood understands settled
      rw [settled] at returned
      cases returned
      refine forGood _ _ ?_
      rcases Bool.or_eq_true_iff.mp reported with early | asked
      · exact stopped early
      · exact asked

/-- What is reported of attempts that the rule foretells. -/
theorem results_of_foretold {σ : Type} {answer : Answer σ} {rule : Rule} {view : σ → Holdings}
    {validates : Bool} {attempts : List (Attempt σ)}
    (foretold : ∀ attempt ∈ attempts,
      (attempt.result answer validates).status
        = (attempt.foretold rule view validates).1.getD .failed)
    (statuses : ∀ attempt ∈ attempts,
      (attempt.foretold rule view validates).1 = some .added
      ∨ (attempt.foretold rule view validates).1 = some .unchanged)
    : (∀ result ∈ attempts.map (Attempt.result answer validates),
        result.status = .added ∨ result.status = .unchanged)
      ∧ ((attempts.map (Attempt.result answer validates)).filter (·.status = .added)).map
            KeyResult.label
          = (attempts.filter fun attempt =>
              (attempt.foretold rule view validates).1 = some .added).map
                (·.assignment.label) := by
  have labels (attempt : Attempt σ)
      : (attempt.result answer validates).label = attempt.assignment.label :=
    resultOf_label validates attempt.assignment _
  refine ⟨List.forall_mem_map.mpr fun attempt member => ?_, ?_⟩
  · rw [foretold attempt member]
    rcases statuses attempt member with status | status <;> simp [status]
  · rw [List.filter_map, List.map_map]
    refine congrArg₂ List.map (funext labels) (List.filter_congr fun attempt member => ?_)
    rw [Function.comp_apply, foretold attempt member]
    rcases statuses attempt member with status | status <;> simp [status]

/-- Two things about the names of foreign keys. Those of a definition are different when they
stay apart: when the declared ones still differ once they are cut, at most one is made or the last
one made fits, and no declared one is cut to the same text as one that is made.

Against a warehouse that has none of the foreign keys of a plan and carries out all that is asked,
a pass that is not cancelled reports one result for each of them, attaches every label once, and
finds whatever comes later under the same label there already. So each foreign key is
attached exactly when the names of every table stay apart.
-/
theorem keys_attached_iff_names_apart {σ : Type} {answer : Answer σ} {rule : Rule}
    {view : σ → Holdings} (keeps : Keeps answer rule view) (forGood : CancelsForGood answer)
    {plan : Plan} {lines : List Dump.Line} (distinct : plan.databases.Nodup)
    (schemas : ∀ name ∈ plan.databases, ∃ target, Destination.of? plan.catalog name = .ok target)
    (opens : ∀ target state, (answer (.openSession target) state).1 = .ok ())
    (carries : ∀ assignment ∈ plan.assignments lines, rule.Carries plan.validates assignment)
    {before : σ}
    (absent : ∀ assignment ∈ plan.assignments lines,
      (view before).held.presence assignment.target assignment.key = .absent)
    (uncancelled : ¬ Cancelled answer ((run plan lines).run answer before).2)
    : (∀ definition table,
        ((ForeignKey.ofDefinition definition table).map (·.name)).Nodup
          ↔ ForeignKey.NamedApart definition table)
      ∧ ∃ report,
          ((run plan lines).run answer before).1 = .ok report
          ∧ report.isCancelled = false
          ∧ report.results.map KeyResult.label = plan.labels lines
          ∧ (report.results.filter (·.status = .added)).map KeyResult.label
              = (plan.labels lines).eraseDups
          ∧ (∀ result ∈ report.results,
              result.status = .added ∨ result.status = .unchanged)
          ∧ ((∀ result ∈ report.results, result.status = .added)
              ↔ ∀ name ∈ plan.databases, name ∈ Dump.databaseNames lines →
                  ∀ table ∈ (Dump.extractOne plan.interval name lines).value.tables,
                    ∀ definition ∈ table.definition,
                      ForeignKey.NamedApart definition table.name) := by
  refine ⟨ForeignKey.names_nodup_iff, ?_⟩
  obtain ⟨report, returned⟩ := run_returns opens schemas before
  obtain ⟨attempts, comprises, made⟩ := run_comprises keeps forGood
    (fun assignment member => (carries assignment member).understands) returned
  have goes : report.isCancelled = false :=
    Bool.eq_false_iff.mpr fun reported => uncancelled (cancelled_of_report keeps forGood
      (fun assignment member => (carries assignment member).understands) returned reported)
  have none : (view before).held.HoldsOnly plan.validates [] (plan.assignments lines) :=
    fun assignment member => by simpa using absent assignment member
  obtain ⟨statuses, added⟩ := made.added_once carries (fun _ => Plan.catalog_of_mem) none
  have foretold : ∀ attempt ∈ attempts,
      (attempt.result answer plan.validates).status
        = (attempt.foretold rule view plan.validates).1.getD .failed := by
    intro attempt member
    obtain ⟨known, settled, -, -⟩ := made.between attempt member
    exact attempt.result_foretold keeps (carries _ known).understands settled
  obtain ⟨reported, attached⟩ := results_of_foretold foretold statuses
  have labels : attempts.map (·.assignment.label) = plan.labels lines := by
    rw [← Plan.assignments_label schemas, ← comprises.complete goes, List.map_map]
    rfl
  have all : report.results.map KeyResult.label = plan.labels lines := by
    rw [comprises.results, ← labels, List.map_map]
    exact List.map_congr_left fun attempt _ => resultOf_label plan.validates attempt.assignment _
  have once : (report.results.filter (·.status = .added)).map KeyResult.label
      = (plan.labels lines).eraseDups := by
    rw [comprises.results, attached, added, labels]
    simp
  exact ⟨report, returned, goes, all, once, comprises.results ▸ reported,
    (all_added_iff all once).trans (Plan.labels_nodup_iff distinct lines)⟩

theorem shop_keys_attached
    : ∃ report,
        ((run shopPlan shopLines).run (Rehearsal.answer {}) {}).1 = .ok report
        ∧ report.results.map KeyResult.label
            = ([("shop", "s", "k"), ("shop", "r", "fk_r_1")] : List Label)
        ∧ ∀ result ∈ report.results, result.status = .added := by
  have understands : ∀ assignment ∈ shopPlan.assignments shopLines,
      (Rule.ofRehearsal {}).Understands assignment.target assignment.key
      ∧ (assignment.key.attachStatement assignment.target).toOption.isSome := by
    decide +kernel
  have carries : ∀ assignment ∈ shopPlan.assignments shopLines,
      (Rule.ofRehearsal {}).Carries shopPlan.validates assignment := by
    intro assignment member
    obtain ⟨known, written⟩ := understands assignment member
    refine ⟨known, rfl, ?_, fun _ => rfl⟩
    cases statement : assignment.key.attachStatement assignment.target with
    | error failure =>
        rw [statement] at written
        cases written
    | ok text => exact ⟨text, statement, rfl⟩
  obtain ⟨-, report, returned, -, all, -, -, added⟩ :=
    keys_attached_iff_names_apart (keeps_rehearsal {}) (cancelsForGood_rehearsal {})
      (by decide +kernel) (fun name member => ⟨⟨none, "shop"⟩, by
        rw [List.mem_singleton.mp member]
        decide +kernel⟩)
      (fun target state => rfl) carries (fun assignment member => rfl)
      (show ¬ ((Rehearsal.answer {} .isCancelled ((run shopPlan shopLines).run
        (Rehearsal.answer {}) {}).2).1 = true) by decide +kernel)
  exact ⟨report, returned, all.trans (by decide +kernel), added.mpr (by decide +kernel)⟩

/-- A definition in which the one declared name is what is made for the foreign key without one. -/
def clashingDefinition : Text :=
  "CREATE TABLE `t` (a int, b int, CONSTRAINT `fk_t_1` FOREIGN KEY (a) REFERENCES `x` (id), FOREIGN KEY (b) REFERENCES `y` (id));"

/-- That declared names are different is not enough. -/
theorem different_names_collide
    : ¬ ∀ definition table : Text,
        (ForeignKey.declaredNames definition).Nodup →
          ((ForeignKey.ofDefinition definition table).map (·.name)).Nodup :=
  fun always => absurd
    ((ForeignKey.names_nodup_iff _ _).mp (always clashingDefinition "t" (by decide +kernel)))
    (by decide +kernel)

end DumpTransfer.Attachment
