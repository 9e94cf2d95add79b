import DumpTransfer.Attachment.Run
import DumpTransfer.Proofs.Migration.DryRun
import Mathlib.Data.Nat.Basic

/-! Warehouses that keep foreign keys by a rule. What the statements of a session have done is
published when it commits and forgotten when it rolls back, and a statement that is refused does
nothing. What becomes of one foreign key can then be told from what is held before.
-/

namespace DumpTransfer

namespace KeyPresence

/-- How far a foreign key has been brought. -/
def rank : KeyPresence → Nat
  | absent => 0
  | unvalidated => 1
  | validated => 2

instance : Preorder KeyPresence :=
  Preorder.lift rank

instance (left right : KeyPresence) : Decidable (left ≤ right) :=
  inferInstanceAs (Decidable (left.rank ≤ right.rank))

theorem le_validated (presence : KeyPresence) : presence ≤ validated := by
  cases presence <;> decide

theorem absent_le (presence : KeyPresence) : absent ≤ presence :=
  Nat.zero_le presence.rank

theorem eq_validated_of_le {presence : KeyPresence} (brought : validated ≤ presence)
    : presence = validated := by
  cases presence with
  | validated => rfl
  | absent | unvalidated => exact absurd brought (by decide)

theorem eq_absent_of_le {presence : KeyPresence} (brought : presence ≤ absent)
    : presence = absent := by
  cases presence with
  | absent => rfl
  | unvalidated | validated => exact absurd brought (by decide)

end KeyPresence

namespace Attachment

open Script
open Rehearsal (AttachedKey)

-----------------------------------------------------------------------------------------
-- Warehouses by a rule
-----------------------------------------------------------------------------------------

/-- The foreign keys of a warehouse by their table and name as they are written. -/
abbrev Held :=
  Text → Text → KeyPresence

/-- How a foreign key of a table stands. -/
def Held.presence (held : Held) (target : Destination) (key : ForeignKey) : KeyPresence :=
  held (target.qualify key.table) (Identifier.quote key.name)

/-- With a foreign key in the state that a statement brings it into. -/
def Held.put (held : Held) (key : AttachedKey) : Held :=
  fun table name =>
    if table = key.table ∧ name = key.name then
      if key.isValidated then .validated else .unvalidated
    else held table name

/-- What a warehouse refuses, and what statements do that it does not refuse. -/
structure Rule where
  refuses : Text → Bool
  /-- Whether a foreign key of a table cannot be looked up. -/
  refusesLookup : Destination → Text → Text → Bool
  /-- The foreign key that a statement attaches or validates, if it does. -/
  change? : Text → Option AttachedKey

/-- The foreign keys that are published, and those of the open transaction, the latest last. -/
structure Holdings where
  held : Held
  pending : List AttachedKey

/-- What is held after a statement that is not refused. -/
def Holdings.execute (holdings : Holdings) (rule : Rule) (statement : Text) : Holdings :=
  if statement = "COMMIT" then ⟨holdings.pending.foldl Held.put holdings.held, []⟩
  else if statement = "ROLLBACK" then { holdings with pending := [] }
  else if statement = "BEGIN" then holdings
  else { holdings with pending := holdings.pending ++ (rule.change? statement).toList }

@[simp] theorem Holdings.execute_begin (holdings : Holdings) (rule : Rule)
    : holdings.execute rule "BEGIN" = holdings := by
  rw [execute, if_neg (by decide +kernel), if_neg (by decide +kernel), if_pos rfl]

@[simp] theorem Holdings.execute_rollback (holdings : Holdings) (rule : Rule)
    : holdings.execute rule "ROLLBACK" = { holdings with pending := [] } := by
  rw [execute, if_neg (by decide +kernel), if_pos rfl]

@[simp] theorem Holdings.execute_commit (holdings : Holdings) (rule : Rule)
    : holdings.execute rule "COMMIT" = ⟨holdings.pending.foldl Held.put holdings.held, []⟩ :=
  if_pos rfl

theorem Holdings.execute_change (holdings : Holdings) {rule : Rule} {statement : Text}
    {change : AttachedKey} (changes : rule.change? statement = some change)
    (plain : statement ∉ (["BEGIN", "COMMIT", "ROLLBACK"] : List Text))
    : holdings.execute rule statement
      = { holdings with pending := holdings.pending ++ [change] } := by
  simp only [List.mem_cons, List.not_mem_nil, or_false, not_or] at plain
  rw [execute, if_neg plain.2.1, if_neg plain.2.2, if_neg plain.1, changes]
  rfl

/-- What is held after a request. A new session has no transaction. -/
def Holdings.after (holdings : Holdings) (rule : Rule) : Request → Holdings
  | .openSession _ => { holdings with pending := [] }
  | .execute _ statement =>
      if rule.refuses statement then holdings else holdings.execute rule statement
  | _ => holdings

/-- Surroundings whose warehouse keeps foreign keys by a rule. -/
structure Keeps {σ : Type} (answer : Answer σ) (rule : Rule) (view : σ → Holdings) : Prop where
  follows
    : ∀ request state, view (answer request state).2 = (view state).after rule request
  executes
    : ∀ target statement state,
        (answer (.execute target statement) state).1.toOption.isSome = !rule.refuses statement
  looksUp
    : ∀ target table name state,
        (answer (.keyPresence target table name) state).1.toOption
          = if rule.refusesLookup target table name then none
            else some ((view state).held (target.qualify table) (Identifier.quote name))

/-- The foreign key as the statements for it name it. -/
def attachedKey (target : Destination) (key : ForeignKey) (isValidated : Bool) : AttachedKey :=
  ⟨target.qualify key.table, Identifier.quote key.name, isValidated⟩

/-- Statements do to a foreign key what they say. -/
def Rule.Understands (rule : Rule) (target : Destination) (key : ForeignKey) : Prop :=
  (∀ statement ∈ (key.attachStatement target).toOption,
    rule.change? statement = some (attachedKey target key false))
  ∧ rule.change? (key.checkStatement target) = some (attachedKey target key true)

instance (rule : Rule) (target : Destination) (key : ForeignKey)
    : Decidable (rule.Understands target key) :=
  inferInstanceAs (Decidable (_ ∧ _))

/-- No transaction is open that could still be published. -/
def Rule.Settled (rule : Rule) (holdings : Holdings) : Prop :=
  holdings.pending = [] ∨ rule.refuses "COMMIT" = true

-----------------------------------------------------------------------------------------
-- What becomes of a foreign key
-----------------------------------------------------------------------------------------

namespace Rule

variable (rule : Rule)

/-- Whether a statement takes effect in a transaction of its own. -/
def commits (statement : Text) : Bool :=
  !rule.refuses "BEGIN" && !rule.refuses statement && !rule.refuses "COMMIT"

/-- What a change in a transaction of its own comes to, and what is held then. -/
def transact {α : Type} (statement : Text) (change : AttachedKey) (value : α) (held : Held)
    : Option α × Held :=
  if rule.commits statement then (some value, held.put change) else (none, held)

/-- What the validation of a foreign key comes to. -/
def check (target : Destination) (key : ForeignKey) (status : Status) (held : Held)
    : Option Status × Held :=
  rule.transact (key.checkStatement target) (attachedKey target key true) status held

/-- What becomes of a foreign key that is absent. -/
def attach (target : Destination) (validates : Bool) (key : ForeignKey) (held : Held)
    : Option Status × Held :=
  match key.attachStatement target with
  | .error _ => (none, held)
  | .ok statement =>
      match rule.transact statement (attachedKey target key false) () held with
      | (none, unchanged) => (none, unchanged)
      | (some (), attached) =>
          if validates then rule.check target key .added attached else (some .added, attached)

/-- What becomes of a foreign key. -/
def settle (target : Destination) (validates : Bool) (key : ForeignKey) (held : Held)
    : Option Status × Held :=
  if rule.refusesLookup target key.table key.name then (none, held)
  else
    match held.presence target key with
    | .absent => rule.attach target validates key held
    | .validated => (some .unchanged, held)
    | .unvalidated =>
        if validates then rule.check target key .validated held else (some .unchanged, held)

end Rule

section Presence

variable {rule : Rule} {target : Destination} {validates : Bool} {key : ForeignKey}

theorem Held.presence_le {held later : Held} (grown : held ≤ later)
    : held.presence target key ≤ later.presence target key :=
  grown _ _

@[simp] theorem Held.put_presence (held : Held) (isValidated : Bool)
    : (held.put (attachedKey target key isValidated)).presence target key
      = if isValidated then .validated else .unvalidated := by
  cases isValidated <;> simp [presence, put, attachedKey]

/-- Nothing is lost when a foreign key is not set back. -/
theorem Held.le_put {held : Held} {isValidated : Bool}
    (below : held.presence target key ≤ if isValidated then .validated else .unvalidated)
    : held ≤ held.put (attachedKey target key isValidated) := by
  intro table name
  by_cases same : table = target.qualify key.table ∧ name = Identifier.quote key.name
  · have reached : held.put (attachedKey target key isValidated) table name
        = if isValidated then .validated else .unvalidated := if_pos same
    rw [reached, same.1, same.2]
    exact below
  · exact le_of_eq (if_neg same).symm

theorem Held.le_put_validated (held : Held) : held ≤ held.put (attachedKey target key true) :=
  Held.le_put (KeyPresence.le_validated _)

theorem Held.le_put_absent {held : Held} (missing : held.presence target key = .absent)
    : held ≤ held.put (attachedKey target key false) :=
  Held.le_put (missing ▸ KeyPresence.absent_le _)

theorem Rule.transact_of_commits {α : Type} {statement : Text}
    (commits : rule.commits statement = true) (change : AttachedKey) (value : α) (held : Held)
    : rule.transact statement change value held = (some value, held.put change) :=
  if_pos commits

theorem Rule.transact_of_refused {α : Type} {statement : Text}
    (refused : rule.commits statement = false) (change : AttachedKey) (value : α) (held : Held)
    : rule.transact statement change value held = (none, held) :=
  if_neg (by simp [refused])

/-- The state into which a foreign key is to be brought. -/
def wanted (validates : Bool) : KeyPresence :=
  if validates then .validated else .unvalidated

theorem wanted_ne_absent {held : Held} (reached : wanted validates ≤ held.presence target key)
    : held.presence target key ≠ .absent := by
  intro missing
  rw [missing] at reached
  cases validates <;> exact absurd reached (by decide)

namespace Rule

theorem le_check (status : Status) (held : Held)
    : held ≤ (rule.check target key status held).2 := by
  unfold check transact
  split
  · exact Held.le_put_validated held
  · exact le_refl held

theorem check_reaches {status result : Status} {held : Held}
    (checked : (rule.check target key status held).1 = some result)
    : (rule.check target key status held).2.presence target key = .validated := by
  unfold check transact at checked ⊢
  split at checked
  · rename_i commits
    simp [commits]
  · cases checked

/-- Whether the statement that attaches a foreign key can be written and takes effect. -/
def Attaches (rule : Rule) (target : Destination) (key : ForeignKey) : Prop :=
  ∃ statement, key.attachStatement target = .ok statement ∧ rule.commits statement = true

theorem attach_of_attaches (attaches : rule.Attaches target key) (held : Held)
    : rule.attach target validates key held
      = if validates then rule.check target key .added (held.put (attachedKey target key false))
        else (some .added, held.put (attachedKey target key false)) := by
  obtain ⟨statement, written, commits⟩ := attaches
  simp only [attach, written, transact_of_commits commits]

theorem attach_of_not_attaches (refused : ¬ rule.Attaches target key) (held : Held)
    : rule.attach target validates key held = (none, held) := by
  cases written : key.attachStatement target with
  | error failure => simp only [attach, written]
  | ok statement =>
      have refuses : rule.commits statement = false :=
        Bool.eq_false_iff.mpr fun commits => refused ⟨statement, written, commits⟩
      simp only [attach, written, transact_of_refused refuses]

theorem attaches_of_attach {held : Held} {status : Status}
    (attached : (rule.attach target validates key held).1 = some status)
    : rule.Attaches target key := by
  by_contra refused
  rw [attach_of_not_attaches refused] at attached
  cases attached

/-- What can be attached is there when it has been tried, validated or not. -/
theorem attach_there (attaches : rule.Attaches target key) (held : Held)
    : held.put (attachedKey target key false) ≤ (rule.attach target validates key held).2 := by
  rw [attach_of_attaches attaches]
  split
  · exact le_check .added _
  · exact le_refl _

theorem le_attach {held : Held} (missing : held.presence target key = .absent)
    : held ≤ (rule.attach target validates key held).2 := by
  by_cases attaches : rule.Attaches target key
  · exact le_trans (Held.le_put_absent missing) (attach_there attaches held)
  · rw [attach_of_not_attaches attaches]

theorem attach_reaches {held : Held} {status : Status}
    (attached : (rule.attach target validates key held).1 = some status)
    : wanted validates ≤ (rule.attach target validates key held).2.presence target key := by
  have attaches := attaches_of_attach attached
  rw [attach_of_attaches attaches] at attached ⊢
  cases validates with
  | false => simp [wanted]
  | true => exact (check_reaches attached).symm.le

/-- No foreign key is lost or set back. -/
theorem le_settle (held : Held)
    : held ≤ (rule.settle target validates key held).2 := by
  unfold settle
  split
  · exact le_refl held
  · split
    · exact le_attach ‹_›
    · exact le_refl held
    · split
      · exact le_check .validated held
      · exact le_refl held

/-- A foreign key that does not fail could be looked up and is as far as it is to be brought. -/
theorem settle_reaches {held : Held} {status : Status}
    (settled : (rule.settle target validates key held).1 = some status)
    : rule.refusesLookup target key.table key.name = false
      ∧ wanted validates ≤ (rule.settle target validates key held).2.presence target key := by
  unfold settle at settled ⊢
  split at settled
  · cases settled
  · rename_i found
    refine ⟨by simpa using found, ?_⟩
    rw [if_neg found]
    cases presence : held.presence target key with
    | absent =>
        rw [presence] at settled
        exact attach_reaches settled
    | validated => exact le_trans (KeyPresence.le_validated _) presence.symm.le
    | unvalidated =>
        rw [presence] at settled
        cases validates with
        | true => exact (check_reaches settled).symm.le
        | false => exact presence.symm.le

/-- Nothing is done for a foreign key that is as far as it is to be brought. -/
theorem settle_of_wanted {held : Held}
    (found : rule.refusesLookup target key.table key.name = false)
    (reached : wanted validates ≤ held.presence target key)
    : rule.settle target validates key held = (some .unchanged, held) := by
  rw [settle, found]
  cases presence : held.presence target key with
  | absent => exact absurd presence (wanted_ne_absent reached)
  | validated => rfl
  | unvalidated =>
      cases validates with
      | false => rfl
      | true => exact absurd (presence ▸ reached) (by decide)

/-- A foreign key that is added was absent. -/
theorem settle_added {held : Held}
    (added : (rule.settle target validates key held).1 = some .added)
    : rule.refusesLookup target key.table key.name = false
      ∧ held.presence target key = .absent
      ∧ rule.Attaches target key := by
  unfold settle at added
  split at added
  · cases added
  · rename_i found
    refine ⟨by simpa using found, ?_⟩
    split at added
    · exact ⟨‹_›, attaches_of_attach added⟩
    · cases added
    · unfold check transact at added
      split at added
      · split at added <;> cases added
      · cases added

theorem settle_of_absent {held : Held}
    (found : rule.refusesLookup target key.table key.name = false)
    (missing : held.presence target key = .absent)
    : rule.settle target validates key held = rule.attach target validates key held := by
  rw [settle, found, missing]
  rfl

/-- What is settled once is not added later, and need not be settled again if it did not fail. -/
theorem settle_again {held later : Held}
    (kept : (rule.settle target validates key held).2 ≤ later)
    : (rule.settle target validates key later).1 ≠ some .added
      ∧ ∀ status, (rule.settle target validates key held).1 = some status →
          rule.settle target validates key later = (some .unchanged, later) := by
  refine ⟨?_, ?_⟩
  -- What is added later could be looked up, was absent and can be attached. All of that would
  -- have been so the first time, and then it would not be absent now.
  · intro added
    obtain ⟨found, missing, attaches⟩ := settle_added added
    have before : held.presence target key = .absent :=
      KeyPresence.eq_absent_of_le
        (missing ▸ Held.presence_le (le_trans (rule.le_settle held) kept))
    rw [settle_of_absent found before] at kept
    have there : (held.put (attachedKey target key false)).presence target key
        ≤ later.presence target key :=
      Held.presence_le (le_trans (attach_there attaches held) kept)
    rw [missing, Held.put_presence] at there
    exact absurd there (by decide)
  · intro status settled
    obtain ⟨found, reached⟩ := settle_reaches settled
    exact settle_of_wanted found (le_trans reached (Held.presence_le kept))

end Rule

end Presence

-----------------------------------------------------------------------------------------
-- The rehearsal
-----------------------------------------------------------------------------------------

/-- The rule by which the warehouse in memory keeps foreign keys. -/
def Rule.ofRehearsal (plan : Rehearsal.Plan) : Rule where
  refuses statement := plan.failOn.any fun part => Text.includes statement part
  refusesLookup _ _ key := plan.failLookup.contains key
  change? := Rehearsal.keyOf?

/-- The state of a foreign key in a list without repetition. -/
def Held.ofKeys (keys : List AttachedKey) : Held :=
  fun table name =>
    match keys.find? fun key => key.table = table && key.name = name with
    | none => .absent
    | some key => if key.isValidated then .validated else .unvalidated

def holdingsOf (state : Rehearsal.State) : Holdings :=
  ⟨Held.ofKeys state.attached, state.pending⟩

theorem Held.ofKeys_putKey (keys : List AttachedKey) (key : AttachedKey)
    : Held.ofKeys (Rehearsal.putKey keys key) = (Held.ofKeys keys).put key := by
  funext table name
  unfold ofKeys put Rehearsal.putKey
  rw [List.find?_append, List.find?_filter]
  by_cases same : table = key.table ∧ name = key.name
  -- The entry that was there before has been taken out, so the new one is found.
  · have others : ∀ other : AttachedKey,
        ¬ ((other.table ≠ key.table || other.name ≠ key.name) = true
          ∧ (other.table = table && other.name = name) = true) := by
      simp only [same.1, same.2]
      grind
    rw [List.find?_eq_none.mpr fun other _ => by simpa using others other, if_pos same]
    simp [same.1, same.2]
  · have others : ∀ other : AttachedKey,
        ((other.table ≠ key.table || other.name ≠ key.name) = true
            ∧ (other.table = table && other.name = name) = true)
          ↔ (other.table = table && other.name = name) = true := by
      grind
    rw [if_neg same]
    simp only [others, Bool.decide_eq_true]
    have missed : ¬ (key.table = table && key.name = name) = true := by grind
    have only : [key].find? (fun other => other.table = table && other.name = name) = none :=
      List.find?_cons_of_neg missed
    rw [only, Option.or_none]

theorem Held.ofKeys_foldl (keys changes : List AttachedKey)
    : Held.ofKeys (changes.foldl Rehearsal.putKey keys)
      = changes.foldl Held.put (Held.ofKeys keys) := by
  induction changes generalizing keys with
  | nil => rfl
  | cons change rest ih => rw [List.foldl_cons, ih, ofKeys_putKey, List.foldl_cons]

theorem holdingsOf_apply (plan : Rehearsal.Plan) (state : Rehearsal.State) (statement : Text)
    : holdingsOf (state.apply statement)
      = (holdingsOf state).execute (Rule.ofRehearsal plan) statement := by
  unfold Rehearsal.State.apply Holdings.execute
  split
  · simp [holdingsOf, Held.ofKeys_foldl]
  · split
    · rfl
    -- The rehearsal has no case of its own for the beginning of a transaction: it is a statement
    -- that attaches nothing.
    · have begins : Rehearsal.keyOf? "BEGIN" = none := by decide +kernel
      by_cases begin_ : statement = "BEGIN"
      · subst begin_
        rw [if_pos rfl, begins]
      · rw [if_neg begin_]
        cases changed : Rehearsal.keyOf? statement <;>
          simp [holdingsOf, Rule.ofRehearsal, changed]

theorem holdingsOf_cancelBy (state : Rehearsal.State) (plan : Rehearsal.Plan) (statement : Text)
    : holdingsOf ((state.record statement).cancelBy plan statement) = holdingsOf state := by
  unfold Rehearsal.State.cancelBy
  split <;> rfl

/-- The warehouse in memory keeps foreign keys by its rule. -/
theorem keeps_rehearsal (plan : Rehearsal.Plan)
    : Keeps (Rehearsal.answer plan) (Rule.ofRehearsal plan) holdingsOf where
  follows request state := by
    cases request with
    | provideCatalog catalog =>
        simp only [Rehearsal.answer]
        split <;> rfl
    | openSession target =>
        simp only [Rehearsal.answer]
        split <;> rfl
    | keyPresence target table key =>
        simp only [Rehearsal.answer]
        split <;> rfl
    | isCancelled => rfl
    | writeReview path text =>
        simp only [Rehearsal.answer]
        split <;> rfl
    | noteProgress place => rfl
    | execute target statement =>
        simp only [Rehearsal.answer, Rehearsal.execute, Holdings.after]
        have same := holdingsOf_cancelBy state plan statement
        by_cases refuses : (Rule.ofRehearsal plan).refuses statement = true
        · rw [if_pos refuses]
          refine Eq.trans ?_ same
          exact congrArg (fun reached : _ × Rehearsal.State => holdingsOf reached.2)
            (if_pos refuses)
        · rw [if_neg refuses, ← same, ← holdingsOf_apply plan]
          exact congrArg (fun reached : _ × Rehearsal.State => holdingsOf reached.2)
            (if_neg refuses)
  executes target statement state := by
    by_cases refuses : (Rule.ofRehearsal plan).refuses statement = true
    · rw [refuses]
      exact congrArg (fun reached : Except Failure Nat × Rehearsal.State =>
        reached.1.toOption.isSome) (if_pos refuses)
    · rw [Bool.eq_false_iff.mpr refuses]
      exact congrArg (fun reached : Except Failure Nat × Rehearsal.State =>
        reached.1.toOption.isSome) (if_neg refuses)
  looksUp target table name state := by
    by_cases refuses : (Rule.ofRehearsal plan).refusesLookup target table name = true
    · rw [if_pos refuses]
      exact congrArg (fun reached : Except Failure KeyPresence × Rehearsal.State =>
        reached.1.toOption) (if_pos refuses)
    · rw [if_neg refuses]
      exact congrArg (fun reached : Except Failure KeyPresence × Rehearsal.State =>
        reached.1.toOption) (if_neg refuses)

/-- No request takes a cancellation back in a rehearsal. -/
theorem cancelsForGood_rehearsal (plan : Rehearsal.Plan)
    : CancelsForGood (Rehearsal.answer plan) := by
  intro request state cancelled
  replace cancelled : state.isCancelled = true := cancelled
  cases request with
  | execute target statement =>
      have kept : ((state.record statement).cancelBy plan statement).isCancelled = true := by
        unfold Rehearsal.State.cancelBy
        split
        · rfl
        · exact cancelled
      change (Rehearsal.execute plan statement state).2.isCancelled = true
      unfold Rehearsal.execute
      split
      · exact kept
      · exact (Migration.apply_isCancelled _ statement).trans kept
  | _ =>
      simp only [Cancelled, Rehearsal.answer]
      first
        | exact cancelled
        | split <;> exact cancelled

end Attachment

end DumpTransfer
