import DumpTransfer.Proofs.Attachment.Holdings

/-! One foreign key against a warehouse that keeps foreign keys by a rule. Statements are carried
out in transactions of their own, all at once or not at all, so what becomes of the foreign key
is what the rule foretells.
-/

namespace DumpTransfer

/-- The statement that is executed in an exchange, if one is. -/
def Exchange.statement? : Exchange → Option Text
  | ⟨.execute _ statement, _⟩ => some statement
  | _ => none

namespace Script

variable {σ α β : Type} (answer : Answer σ)

/-- The statements that a run executes, in order. -/
def statements (script : Script α) (state : σ) : List Text :=
  (script.exchanges answer state).filterMap Exchange.statement?

@[simp] theorem statements_pure (value : α) (state : σ)
    : (pure value : Script α).statements answer state = [] :=
  rfl

theorem statements_bind (first : Script α) (next : α → Script β) (state : σ)
    : (first >>= next).statements answer state
      = first.statements answer state
        ++ (next (first.run answer state).1).statements answer (first.run answer state).2 := by
  rw [statements, exchanges_bind, List.filterMap_append]
  rfl

@[simp] theorem statements_isCancelled (state : σ)
    : isCancelled.statements answer state = [] :=
  rfl

theorem AsksOnly.statements_eq_nil {script : Script α}
    (only : script.AsksOnly fun request => ∀ target statement, request ≠ .execute target statement)
    (state : σ)
    : script.statements answer state = [] := by
  rw [statements, List.filterMap_eq_nil_iff]
  intro exchange member
  have kind := only.exchanges answer state exchange member
  match exchange, kind with
  | ⟨.execute target statement, _⟩, kind => exact absurd rfl (kind target statement)
  | ⟨.provideCatalog _, _⟩, _ | ⟨.openSession _, _⟩, _ | ⟨.keyPresence _ _ _, _⟩, _
  | ⟨.isCancelled, _⟩, _ | ⟨.writeReview _ _, _⟩, _ | ⟨.noteProgress _, _⟩, _ => rfl

end Script

namespace Attachment

open Script

section Warehouse

variable {σ : Type} {answer : Answer σ} {rule : Rule} {view : σ → Holdings}
variable (keeps : Keeps answer rule view)

/-- A procedure comes to what is foretold and leaves no transaction that could be published. -/
structure Foretold {α : Type} (rule : Rule) (view : σ → Holdings) (foretold : Option α × Held)
    (reached : Except Failure α × σ)
    : Prop where
  value : reached.1.toOption = foretold.1
  held : (view reached.2).held = foretold.2
  settled : rule.Settled (view reached.2)

include keeps

theorem Keeps.refuses_of_error {target : Destination} {statement : Text} {state : σ}
    {failure : Failure} (reply : (answer (.execute target statement) state).1 = .error failure)
    : rule.refuses statement = true := by
  have executes := keeps.executes target statement state
  rw [reply] at executes
  simpa [Except.toOption] using executes

theorem Keeps.accepts_of_ok {target : Destination} {statement : Text} {state : σ} {count : Nat}
    (reply : (answer (.execute target statement) state).1 = .ok count)
    : rule.refuses statement = false := by
  have executes := keeps.executes target statement state
  rw [reply] at executes
  simpa [Except.toOption] using executes

theorem Keeps.view_execute (target : Destination) (statement : Text) (state : σ)
    : view (answer (.execute target statement) state).2
      = if rule.refuses statement then view state else (view state).execute rule statement :=
  keeps.follows _ _

theorem Keeps.view_begin (target : Destination) (state : σ)
    : view (answer (.execute target "BEGIN") state).2 = view state := by
  rw [keeps.view_execute, Holdings.execute_begin, ite_self]

/-- What a transaction has done is forgotten when it is rolled back, or cannot be published. -/
theorem Keeps.view_rollback (target : Destination) {state : σ}
    (settled : rule.Settled (view state))
    : (view (answer (.execute target "ROLLBACK") state).2).held = (view state).held
      ∧ rule.Settled (view (answer (.execute target "ROLLBACK") state).2) := by
  rw [keeps.view_execute, Holdings.execute_rollback]
  split
  · exact ⟨rfl, settled⟩
  · exact ⟨rfl, .inl rfl⟩

/-- One change is published when it is committed, unless that is refused. -/
theorem Keeps.commit_foretold {α : Type} (target : Destination) {state : σ} {before : Holdings}
    (settled : rule.Settled before) {change : Rehearsal.AttachedKey}
    (changed : view state = { before with pending := before.pending ++ [change] }) (value : α)
    : Foretold rule view
        (if rule.refuses "COMMIT" then (none, before.held)
          else (some value, before.held.put change))
        ((answer (.execute target "COMMIT") state).1.map fun _ => value,
          (answer (.execute target "COMMIT") state).2) := by
  have after := keeps.view_execute target "COMMIT" state
  cases reply : (answer (.execute target "COMMIT") state).1 with
  | error failure =>
      have refuses := keeps.refuses_of_error reply
      rw [if_pos refuses] at after ⊢
      exact ⟨rfl, by rw [after, changed], .inr refuses⟩
  | ok count =>
      have commits := keeps.accepts_of_ok reply
      -- Since this one was published, nothing older can have been left open.
      have fresh : before.pending = [] := settled.resolve_right (by simp [commits])
      rw [commits, if_neg nofun] at after ⊢
      rw [changed, Holdings.execute_commit, fresh] at after
      exact ⟨rfl, congrArg Holdings.held after, .inl (congrArg Holdings.pending after)⟩

omit keeps in
theorem asTransaction_run (target : Destination) (statement : Text) (state : σ)
    : (asTransaction target statement).run answer state
      = match answer (.execute target "BEGIN") state with
        | (.error failure, later) => (.error failure, later)
        | (.ok _, begun) =>
            match answer (.execute target statement) begun with
            | (.ok _, changed) => answer (.execute target "COMMIT") changed
            | (.error failure, refused) =>
                (.error failure, (answer (.execute target "ROLLBACK") refused).2) := by
  rw [asTransaction, run_bind, Script.execute, run_ask]
  rcases answer (.execute target "BEGIN") state with ⟨⟨⟩ | ⟨⟩, begun⟩
  · rfl
  · dsimp only
    rw [run_bind, Script.execute, run_ask]
    rcases answer (.execute target statement) begun with ⟨⟨⟩ | ⟨⟩, later⟩ <;> rfl

/-- A statement in a transaction of its own does what it does all at once or not at all. -/
theorem asTransaction_foretold {α : Type} (target : Destination) {statement : Text}
    {change : Rehearsal.AttachedKey} (changes : rule.change? statement = some change)
    (plain : statement ∉ (["BEGIN", "COMMIT", "ROLLBACK"] : List Text)) (value : α) {state : σ}
    (settled : rule.Settled (view state))
    : Foretold rule view (rule.transact statement change value (view state).held)
        (((asTransaction target statement).run answer state).1.map fun _ => value,
          ((asTransaction target statement).run answer state).2) := by
  have begun := keeps.view_begin target state
  have beginReply := keeps.executes target "BEGIN" state
  rw [asTransaction_run]
  generalize answer (.execute target "BEGIN") state = first at begun beginReply ⊢
  rcases first with ⟨failure | count, open_⟩
  -- Without a transaction the statement is not executed at all.
  · have refuses : rule.refuses "BEGIN" = true := by simpa [Except.toOption] using beginReply
    have refused : rule.commits statement = false := by simp [Rule.commits, refuses]
    rw [Rule.transact_of_refused refused]
    exact ⟨rfl, congrArg Holdings.held begun, begun ▸ settled⟩
  · have begins : rule.refuses "BEGIN" = false := by simpa [Except.toOption] using beginReply
    replace begun : view open_ = view state := begun
    rw [← begun] at settled ⊢
    have after := keeps.view_execute target statement open_
    have reply := keeps.executes target statement open_
    dsimp only
    generalize answer (.execute target statement) open_ = second at after reply ⊢
    rcases second with ⟨failure | count, later⟩
    -- A transaction that is rolled back has nothing to forget, for what was refused did nothing.
    · have refuses : rule.refuses statement = true := by simpa [Except.toOption] using reply
      have refused : rule.commits statement = false := by simp [Rule.commits, refuses]
      replace after : view later = view open_ := after.trans (if_pos refuses)
      rw [Rule.transact_of_refused refused, ← after]
      obtain ⟨held, closed⟩ := keeps.view_rollback target (after ▸ settled)
      exact ⟨rfl, held, closed⟩
    · have accepts : rule.refuses statement = false := by simpa [Except.toOption] using reply
      have changed : view later
          = { view open_ with pending := (view open_).pending ++ [change] } :=
        after.trans ((if_neg (by simp [accepts])).trans
          (Holdings.execute_change _ changes plain))
      have commits : rule.transact statement change value (view open_).held
          = if rule.refuses "COMMIT" then (none, (view open_).held)
            else (some value, (view open_).held.put change) := by
        cases refuses : rule.refuses "COMMIT" <;>
          simp [Rule.transact, Rule.commits, begins, accepts, refuses]
      rw [commits]
      exact keeps.commit_foretold target settled changed value

-----------------------------------------------------------------------------------------
-- One foreign key
-----------------------------------------------------------------------------------------

omit keeps in
/-- A statement that alters a table is none of those that transactions are made of. -/
theorem alteration_plain (change : Text)
    : "ALTER TABLE " ++ change ∉ (["BEGIN", "COMMIT", "ROLLBACK"] : List Text) := by
  have begins : ("ALTER TABLE " ++ change : Text).head? = some 'A' := by
    rw [List.head?_append, show ("ALTER TABLE " : Text).head? = some 'A' by decide +kernel]
    rfl
  have others : ∀ word ∈ (["BEGIN", "COMMIT", "ROLLBACK"] : List Text),
      word.head? ≠ some 'A' := by decide +kernel
  exact fun member => others _ member begins

omit keeps in
theorem checkStatement_plain (target : Destination) (key : ForeignKey)
    : key.checkStatement target ∉ (["BEGIN", "COMMIT", "ROLLBACK"] : List Text) := by
  simp only [ForeignKey.checkStatement, List.append_assoc]
  exact alteration_plain _

omit keeps in
theorem attachStatement_plain {target : Destination} {key : ForeignKey} {statement : Text}
    (written : key.attachStatement target = .ok statement)
    : statement ∉ (["BEGIN", "COMMIT", "ROLLBACK"] : List Text) := by
  unfold ForeignKey.attachStatement at written
  cases referenced : key.referencedName target with
  | error failure =>
      rw [referenced] at written
      cases written
  | ok name =>
      rw [referenced] at written
      cases written
      simp only [List.append_assoc]
      exact alteration_plain _

variable {target : Destination} {key : ForeignKey}
variable (understands : rule.Understands target key)
include understands

theorem validate_foretold (status : Status) {state : σ} (settled : rule.Settled (view state))
    : Foretold rule view (rule.check target key status (view state).held)
        ((do return (← validate target key).map fun _ => status : Script _).run answer state) := by
  rw [run_bind, run_pure]
  exact asTransaction_foretold keeps target understands.2 (checkStatement_plain target key)
    status settled

theorem attach_foretold (validates : Bool) {state : σ} (settled : rule.Settled (view state))
    : Foretold rule view (rule.attach target validates key (view state).held)
        ((attach target validates key).run answer state) := by
  unfold attach Rule.attach
  cases written : key.attachStatement target with
  | error failure => exact ⟨rfl, rfl, settled⟩
  | ok statement =>
      have changes := understands.1 statement (by simp [written, Except.toOption])
      have attached := asTransaction_foretold keeps target changes
        (attachStatement_plain written) () settled
      dsimp only
      rw [run_bind]
      generalize (asTransaction target statement).run answer state = reached at attached ⊢
      obtain ⟨reply, later⟩ := reached
      generalize rule.transact statement _ () (view state).held = foretold at attached ⊢
      obtain ⟨there, after⟩ := foretold
      obtain ⟨value, rfl, closed⟩ := attached
      cases reply with
      | error failure =>
          obtain rfl : none = there := value
          exact ⟨rfl, rfl, closed⟩
      | ok count =>
          obtain rfl : some () = there := value
          cases validates with
          | false => exact ⟨rfl, rfl, closed⟩
          | true => exact validate_foretold keeps understands .added closed

/-- What becomes of a foreign key is what the rule foretells. -/
theorem settle_foretold (validates : Bool) {state : σ} (settled : rule.Settled (view state))
    : Foretold rule view (rule.settle target validates key (view state).held)
        ((settle target validates key).run answer state) := by
  have reply := keeps.looksUp target key.table key.name state
  -- A lookup leaves everything as it was.
  have same : view (answer (.keyPresence target key.table key.name) state).2 = view state :=
    keeps.follows _ _
  unfold settle Rule.settle
  rw [run_bind, run_ask]
  generalize answer (.keyPresence target key.table key.name) state = reached at reply same ⊢
  obtain ⟨presence, later⟩ := reached
  replace same : view later = view state := same
  rw [← same] at settled reply ⊢
  by_cases refuses : rule.refusesLookup target key.table key.name = true
  · rw [if_pos refuses] at reply ⊢
    cases presence with
    | error failure => exact ⟨rfl, rfl, settled⟩
    | ok presence => cases reply
  · rw [if_neg refuses] at reply ⊢
    cases presence with
    | error failure => cases reply
    | ok presence =>
        obtain rfl : presence = (view later).held.presence target key := Option.some.inj reply
        dsimp only
        cases (view later).held.presence target key with
        | absent => exact attach_foretold keeps understands validates settled
        | validated => exact ⟨rfl, rfl, settled⟩
        | unvalidated =>
            cases validates with
            | false => exact ⟨rfl, rfl, settled⟩
            | true => exact validate_foretold keeps understands .validated settled

omit understands in
/-- No statement is executed for a foreign key that is as far as it is to be brought. -/
theorem settle_executes_nothing {validates : Bool} {state : σ}
    (found : rule.refusesLookup target key.table key.name = false)
    (reached : wanted validates ≤ (view state).held.presence target key)
    : (settle target validates key).statements answer state = [] := by
  have reply := keeps.looksUp target key.table key.name state
  rw [found, if_neg nofun] at reply
  unfold settle
  rw [statements_bind, run_ask]
  generalize answer (.keyPresence target key.table key.name) state = asked at reply ⊢
  obtain ⟨presence, later⟩ := asked
  cases presence with
  | error failure => cases reply
  | ok presence =>
      obtain rfl : presence = (view state).held.presence target key := Option.some.inj reply
      have there := wanted_ne_absent reached
      cases presence : (view state).held.presence target key with
      | absent => exact absurd presence there
      | validated => rfl
      | unvalidated =>
          cases validates with
          | false => rfl
          | true => exact absurd (presence ▸ reached) (by decide)

end Warehouse

end Attachment

end DumpTransfer
