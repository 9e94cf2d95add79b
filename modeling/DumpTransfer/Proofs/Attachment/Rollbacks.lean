import DumpTransfer.Proofs.Attachment.Settling
import DumpTransfer.Proofs.Migration.Transactions

/-! What becomes of transactions that fail. Whatever the warehouse answers, a transaction that has
begun and fails is rolled back unless it is its COMMIT that fails. Then nothing ends it, and if
foreign keys are left to settle, the next transaction of the session begins inside it.
-/

namespace DumpTransfer

-----------------------------------------------------------------------------------------
-- Beginnings and ends of transactions
-----------------------------------------------------------------------------------------

instance : (request : Request) → (reply : request.Reply) → Decidable (request.Granted reply)
  | .provideCatalog _, .ok () | .openSession _, .ok () | .writeReview _ _, .ok () => isTrue rfl
  | .provideCatalog _, .error _ | .openSession _, .error _ | .writeReview _ _, .error _ =>
      isFalse nofun
  | .execute _ _, .ok count => isTrue ⟨count, rfl⟩
  | .keyPresence _ _ _, .ok presence => isTrue ⟨presence, rfl⟩
  | .execute _ _, .error _ | .keyPresence _ _ _, .error _ => isFalse nofun
  | .isCancelled, _ | .noteProgress _, _ => isTrue trivial

instance (request : Request) : DecidableEq request.Reply :=
  match request with
  | .provideCatalog _ | .openSession _ | .writeReview _ _ =>
      inferInstanceAs (DecidableEq (Except Failure Unit))
  | .execute _ _ => inferInstanceAs (DecidableEq (Except Failure Nat))
  | .keyPresence _ _ _ => inferInstanceAs (DecidableEq (Except Failure KeyPresence))
  | .isCancelled => inferInstanceAs (DecidableEq Bool)
  | .noteProgress _ => inferInstanceAs (DecidableEq Unit)

deriving instance DecidableEq for Exchange

namespace Exchange

instance (exchange : Exchange) : Decidable exchange.Succeeded :=
  inferInstanceAs (Decidable (exchange.request.Granted exchange.reply))

/-- A transaction is to begin. -/
def Begins (exchange : Exchange) : Prop :=
  exchange.statement? = some "BEGIN"

/-- A transaction is to be committed. -/
def Commits (exchange : Exchange) : Prop :=
  exchange.statement? = some "COMMIT"

/-- A transaction is to be rolled back. -/
def RollsBack (exchange : Exchange) : Prop :=
  exchange.statement? = some "ROLLBACK"

instance (exchange : Exchange) : Decidable exchange.Begins :=
  inferInstanceAs (Decidable (_ = _))

instance (exchange : Exchange) : Decidable exchange.Commits :=
  inferInstanceAs (Decidable (_ = _))

instance (exchange : Exchange) : Decidable exchange.RollsBack :=
  inferInstanceAs (Decidable (_ = _))

/-- Neither the beginning nor the end of a transaction is asked for. -/
structure IsPlain (exchange : Exchange) : Prop where
  notBegins : ¬ exchange.Begins
  notCommits : ¬ exchange.Commits
  notRollsBack : ¬ exchange.RollsBack

/-- A commit that fails. -/
def FailsToCommit (exchange : Exchange) : Prop :=
  exchange.Commits ∧ ¬ exchange.Succeeded

instance (exchange : Exchange) : Decidable exchange.FailsToCommit :=
  inferInstanceAs (Decidable (_ ∧ _))

/-- The last of some exchanges is of a kind. -/
def EndIn (record : List Exchange) (kind : Exchange → Prop) : Prop :=
  ∃ last ∈ record.getLast?, kind last

instance (record : List Exchange) (kind : Exchange → Prop) [DecidablePred kind]
    : Decidable (EndIn record kind) :=
  inferInstanceAs (Decidable (∃ last ∈ record.getLast?, kind last))

@[simp] theorem endIn_concat_iff (record : List Exchange) (last : Exchange)
    (kind : Exchange → Prop)
    : EndIn (record ++ [last]) kind ↔ kind last := by
  simp [EndIn]

/-- Whether a transaction is unfinished after an exchange: one has begun, and it has neither been
committed nor has it been asked to be rolled back.
-/
def leavesUnfinished (unfinished : Bool) (exchange : Exchange) : Bool :=
  if exchange.Begins then unfinished || exchange.Succeeded
  else if exchange.Commits then unfinished && !exchange.Succeeded
  else unfinished && !exchange.RollsBack

@[simp] theorem leavesUnfinished_of_plain {exchange : Exchange} (plain : exchange.IsPlain)
    (unfinished : Bool)
    : exchange.leavesUnfinished unfinished = unfinished := by
  simp [leavesUnfinished, plain.notBegins, plain.notCommits, plain.notRollsBack]

theorem isPlain_of_statement?_eq_none {exchange : Exchange} (silent : exchange.statement? = none)
    : exchange.IsPlain := by
  constructor <;> simp [Begins, Commits, RollsBack, silent]

theorem isPlain_execute (target : Destination) {statement : Text}
    (plain : statement ∉ (["BEGIN", "COMMIT", "ROLLBACK"] : List Text))
    (reply : Except Failure Nat)
    : IsPlain ⟨.execute target statement, reply⟩ := by
  simp only [List.mem_cons, List.not_mem_nil, or_false, not_or] at plain
  obtain ⟨notBegins, notCommits, notRollsBack⟩ := plain
  exact ⟨fun begins => notBegins (Option.some.inj begins),
    fun commits => notCommits (Option.some.inj commits),
    fun rollsBack => notRollsBack (Option.some.inj rollsBack)⟩

variable {exchange : Exchange}

theorem Begins.not_commits (begins : exchange.Begins) : ¬ exchange.Commits := fun commits =>
  absurd (Option.some.inj (begins.symm.trans commits)) (by decide +kernel)

theorem Begins.not_rollsBack (begins : exchange.Begins) : ¬ exchange.RollsBack := fun rollsBack =>
  absurd (Option.some.inj (begins.symm.trans rollsBack)) (by decide +kernel)

theorem Commits.not_rollsBack (commits : exchange.Commits) : ¬ exchange.RollsBack :=
  fun rollsBack => absurd (Option.some.inj (commits.symm.trans rollsBack)) (by decide +kernel)

/-- What ends in a transaction that is rolled back does not end in a commit that fails. -/
theorem endIn_rollsBack_iff {last : Exchange} (ends : last.RollsBack ∨ last.FailsToCommit)
    (record : List Exchange)
    : EndIn (record ++ [last]) RollsBack ↔ ¬ EndIn (record ++ [last]) FailsToCommit := by
  rw [endIn_concat_iff, endIn_concat_iff]
  rcases ends with rollsBack | fails
  · exact ⟨fun _ fails => fails.1.not_rollsBack rollsBack, fun _ => rollsBack⟩
  · exact ⟨fun rollsBack => absurd rollsBack fails.1.not_rollsBack,
      fun unfailed => absurd fails unfailed⟩

/-- Of the ends of a transaction only a commit that fails leaves it unfinished. -/
theorem leavesUnfinished_of_ends (ends : exchange.Commits ∨ exchange.RollsBack)
    : exchange.leavesUnfinished true = true ↔ exchange.FailsToCommit := by
  have notBegins : ¬ exchange.Begins := fun begins =>
    ends.elim begins.not_commits begins.not_rollsBack
  rcases ends with commits | rollsBack
  · simp [leavesUnfinished, FailsToCommit, notBegins, commits]
  · have notCommits : ¬ exchange.Commits := fun commits => commits.not_rollsBack rollsBack
    simp [leavesUnfinished, FailsToCommit, notBegins, notCommits, rollsBack]

end Exchange

-----------------------------------------------------------------------------------------
-- Transactions one after the other
-----------------------------------------------------------------------------------------

/-- No transaction begins while another is unfinished, if one is or is not in the beginning. -/
def BeginAlone (unfinished : Bool) (record : List Exchange) : Prop :=
  ∀ before begun after,
    record = before ++ begun :: after → begun.Begins →
      before.foldl Exchange.leavesUnfinished unfinished = false

theorem beginAlone_nil (unfinished : Bool) : BeginAlone unfinished [] := by
  intro before begun after parts
  simp at parts

theorem beginAlone_cons_iff (unfinished : Bool) (first : Exchange) (rest : List Exchange)
    : BeginAlone unfinished (first :: rest)
      ↔ (first.Begins → unfinished = false)
        ∧ BeginAlone (first.leavesUnfinished unfinished) rest := by
  constructor
  · intro alone
    refine ⟨alone [] first rest rfl, fun before begun after parts => ?_⟩
    exact alone (first :: before) begun after (congrArg (first :: ·) parts)
  · rintro ⟨firstAlone, alone⟩ before begun after parts begins
    cases before with
    | nil =>
        obtain ⟨rfl, rfl⟩ := List.cons.inj parts
        exact firstAlone begins
    | cons other before =>
        obtain ⟨rfl, rfl⟩ := List.cons.inj parts
        exact alone before begun after rfl begins

instance decidableBeginAlone
    : (unfinished : Bool) → (record : List Exchange) → Decidable (BeginAlone unfinished record)
  | unfinished, [] => isTrue (beginAlone_nil unfinished)
  | unfinished, first :: rest =>
      have := decidableBeginAlone (first.leavesUnfinished unfinished) rest
      decidable_of_iff _ (beginAlone_cons_iff unfinished first rest).symm

/-- Transactions are begun one after the other, inside none or inside the first of them: with
BEGIN, and if that succeeds, up to COMMIT or ROLLBACK.
-/
inductive Bracketed : Bool → List Exchange → Prop where
  | nothing : Bracketed false []
  | plain {inside : Bool} {exchange : Exchange} {rest : List Exchange} (kind : exchange.IsPlain)
      (later : Bracketed inside rest)
      : Bracketed inside (exchange :: rest)
  | unbegun {exchange : Exchange} {rest : List Exchange} (begins : exchange.Begins)
      (failed : ¬ exchange.Succeeded) (later : Bracketed false rest)
      : Bracketed false (exchange :: rest)
  | begun {exchange : Exchange} {rest : List Exchange} (begins : exchange.Begins)
      (succeeded : exchange.Succeeded) (later : Bracketed true rest)
      : Bracketed false (exchange :: rest)
  | ended {exchange : Exchange} {rest : List Exchange}
      (ends : exchange.Commits ∨ exchange.RollsBack) (later : Bracketed false rest)
      : Bracketed true (exchange :: rest)

namespace Bracketed

variable {inside : Bool} {record later : List Exchange}

theorem append (bracketed : Bracketed inside record) (others : Bracketed false later)
    : Bracketed inside (record ++ later) := by
  induction bracketed with
  | nothing => exact others
  | plain kind _ ih => exact .plain kind ih
  | unbegun begins failed _ ih => exact .unbegun begins failed ih
  | begun begins succeeded _ ih => exact .begun begins succeeded ih
  | ended ends _ ih => exact .ended ends ih

/-- A transaction begins inside another one exactly if that one failed to commit before. By
induction over the exchanges, with what is unfinished before them.
-/
theorem beginAlone_iff (bracketed : Bracketed inside record) (unfinished : Bool)
    (consistent : inside = true → unfinished = true)
    : BeginAlone unfinished record
      ↔ (inside = false → unfinished = true → ∀ exchange ∈ record, ¬ exchange.Begins)
        ∧ record.Pairwise fun commit begun => commit.FailsToCommit → ¬ begun.Begins := by
  induction bracketed generalizing unfinished with
  | nothing => simp [beginAlone_nil]
  | plain kind later ih =>
      rw [beginAlone_cons_iff, Exchange.leavesUnfinished_of_plain kind, ih _ consistent,
        List.pairwise_cons]
      simp [kind.notBegins, Exchange.FailsToCommit, kind.notCommits]
  | @unbegun exchange rest begins failed later ih =>
      have same : exchange.leavesUnfinished unfinished = unfinished := by
        simp [Exchange.leavesUnfinished, begins, failed]
      rw [beginAlone_cons_iff, same, ih unfinished nofun, List.pairwise_cons]
      cases unfinished <;> simp [begins, begins.not_commits, Exchange.FailsToCommit]
  | @begun exchange rest begins succeeded later ih =>
      have open_ : exchange.leavesUnfinished unfinished = true := by
        simp [Exchange.leavesUnfinished, begins, succeeded]
      rw [beginAlone_cons_iff, open_, ih true fun _ => rfl, List.pairwise_cons]
      cases unfinished <;> simp [begins, begins.not_commits, Exchange.FailsToCommit]
  | @ended exchange rest ends later ih =>
      obtain rfl := consistent rfl
      rw [beginAlone_cons_iff, ih _ nofun, Exchange.leavesUnfinished_of_ends ends,
        List.pairwise_cons]
      have notBegins : ¬ exchange.Begins := fun begins =>
        ends.elim begins.not_commits begins.not_rollsBack
      by_cases fails : exchange.FailsToCommit <;> simp [notBegins, fails]

end Bracketed

-----------------------------------------------------------------------------------------
-- What a foreign key asks for
-----------------------------------------------------------------------------------------

namespace Attachment

open Script

/-- A statement in a transaction of its own, and whether it has been committed. -/
inductive Transacts (target : Destination) (statement : Text) : List Exchange → Bool → Prop where
  | unbegun (failure : Failure)
      : Transacts target statement [⟨.execute target "BEGIN", .error failure⟩] false
  | rolledBack (begun : Nat) (failure : Failure) (reply : Except Failure Nat)
      : Transacts target statement
          [⟨.execute target "BEGIN", .ok begun⟩, ⟨.execute target statement, .error failure⟩,
            ⟨.execute target "ROLLBACK", reply⟩]
          false
  | uncommitted (begun count : Nat) (failure : Failure)
      : Transacts target statement
          [⟨.execute target "BEGIN", .ok begun⟩, ⟨.execute target statement, .ok count⟩,
            ⟨.execute target "COMMIT", .error failure⟩]
          false
  | committed (begun count committed : Nat)
      : Transacts target statement
          [⟨.execute target "BEGIN", .ok begun⟩, ⟨.execute target statement, .ok count⟩,
            ⟨.execute target "COMMIT", .ok committed⟩]
          true

theorem Transacts.bracketed {target : Destination} {statement : Text} {record : List Exchange}
    {success : Bool} (transacts : Transacts target statement record success)
    (plain : statement ∉ (["BEGIN", "COMMIT", "ROLLBACK"] : List Text))
    : Bracketed false record := by
  have middle := Exchange.isPlain_execute target plain
  cases transacts with
  | unbegun failure => exact .unbegun rfl nofun .nothing
  | rolledBack begun failure reply =>
      exact .begun rfl ⟨begun, rfl⟩ (.plain (middle _) (.ended (.inr rfl) .nothing))
  | uncommitted begun count failure | committed begun count committed =>
      exact .begun rfl ⟨begun, rfl⟩ (.plain (middle _) (.ended (.inl rfl) .nothing))

/-- A transaction that fails has not begun, or it ends in its rolling back or in a commit that
fails.
-/
theorem Transacts.exists_last {target : Destination} {statement : Text} {record : List Exchange}
    (transacts : Transacts target statement record false)
    : ∃ before last,
        record = before ++ [last]
        ∧ ((last.Begins ∧ ¬ last.Succeeded) ∨ last.RollsBack ∨ last.FailsToCommit) := by
  cases transacts with
  | unbegun failure => exact ⟨[], _, rfl, .inl ⟨rfl, nofun⟩⟩
  | rolledBack begun failure reply => exact ⟨[_, _], _, rfl, .inr (.inl rfl)⟩
  | uncommitted begun count failure => exact ⟨[_, _], _, rfl, .inr (.inr ⟨rfl, nofun⟩)⟩

/-- A lookup of a foreign key, up to two transactions for it, and whether it is settled. -/
inductive Settles (target : Destination) (key : ForeignKey) : List Exchange → Bool → Prop where
  | looked (reply : Except Failure KeyPresence) (success : Bool)
      : Settles target key [⟨.keyPresence target key.table key.name, reply⟩] success
  | once {statement : Text} {record : List Exchange} {success : Bool}
      (reply : Except Failure KeyPresence)
      (plain : statement ∉ (["BEGIN", "COMMIT", "ROLLBACK"] : List Text))
      (transacts : Transacts target statement record success)
      : Settles target key (⟨.keyPresence target key.table key.name, reply⟩ :: record) success
  | twice {statement : Text} {record later : List Exchange} {success : Bool}
      (reply : Except Failure KeyPresence)
      (plain : statement ∉ (["BEGIN", "COMMIT", "ROLLBACK"] : List Text))
      (first : Transacts target statement record true)
      (second : Transacts target (key.checkStatement target) later success)
      : Settles target key (⟨.keyPresence target key.table key.name, reply⟩ :: record ++ later)
          success

theorem Settles.bracketed {target : Destination} {key : ForeignKey} {record : List Exchange}
    {success : Bool} (settles : Settles target key record success)
    : Bracketed false record := by
  have lookup (reply : Except Failure KeyPresence)
      : Exchange.IsPlain ⟨.keyPresence target key.table key.name, reply⟩ :=
    Exchange.isPlain_of_statement?_eq_none rfl
  cases settles with
  | looked reply success => exact .plain (lookup reply) .nothing
  | once reply plain transacts => exact .plain (lookup reply) (transacts.bracketed plain)
  | twice reply plain first second =>
      exact .plain (lookup reply)
        ((first.bracketed plain).append (second.bracketed (checkStatement_plain target key)))

/-- If settling fails after a beginning that succeeded, without another one after it, what it ends
in is that the transaction is rolled back, unless that is a commit that fails.
-/
theorem Settles.rolledBack_iff {target : Destination} {key : ForeignKey}
    {record before rest : List Exchange} {begun : Exchange}
    (settles : Settles target key record false) (parts : record = before ++ begun :: rest)
    (begins : begun.Begins) (succeeded : begun.Succeeded)
    (last : ∀ exchange ∈ rest, ¬ exchange.Begins)
    : Exchange.EndIn rest Exchange.RollsBack ↔ ¬ Exchange.EndIn rest Exchange.FailsToCommit := by
  have closed (start final : List Exchange) (whole : record = start ++ final) {statement : Text}
      (transacts : Transacts target statement final false)
      : Exchange.EndIn rest Exchange.RollsBack
        ↔ ¬ Exchange.EndIn rest Exchange.FailsToCommit := by
    obtain ⟨others, ending, rfl, kind⟩ := transacts.exists_last
    rcases List.eq_nil_or_concat' rest with rfl | ⟨middle, final, rfl⟩
    · -- Then the beginning itself would be what a transaction that fails ends in.
      have ends : before ++ [begun] = start ++ others ++ [ending] := by
        simpa using parts.symm.trans whole
      obtain ⟨-, same⟩ := List.append_singleton_inj.mp ends
      rw [← same] at kind
      rcases kind with ⟨-, failed⟩ | rollsBack | ⟨commits, -⟩
      · exact absurd succeeded failed
      · exact absurd rollsBack begins.not_rollsBack
      · exact absurd commits begins.not_commits
    · have ends : before ++ begun :: middle ++ [final] = start ++ others ++ [ending] := by
        simpa using parts.symm.trans whole
      obtain ⟨-, same⟩ := List.append_singleton_inj.mp ends
      rw [← same] at kind
      rcases kind with ⟨begins, -⟩ | ended
      · exact absurd begins (last final (by simp))
      · exact Exchange.endIn_rollsBack_iff ended middle
  cases settles with
  | looked reply success =>
      cases before with
      | nil =>
          obtain ⟨rfl, -⟩ := List.cons.inj parts
          cases begins
      | cons first others => simp at parts
  | once reply plain transacts => exact closed [_] _ rfl transacts
  | twice reply plain first second => exact closed _ _ rfl second

section Surroundings

variable {σ : Type} (answer : Answer σ)

theorem asTransaction_transacts (target : Destination) (statement : Text) (state : σ)
    : Transacts target statement ((asTransaction target statement).exchanges answer state)
        ((asTransaction target statement).run answer state).1.toOption.isSome := by
  rw [asTransaction, exchanges_bind, run_bind, Script.execute, exchanges_ask, run_ask]
  rcases answer (.execute target "BEGIN") state with ⟨⟨failure⟩ | ⟨begun⟩, state⟩
  · exact .unbegun failure
  · dsimp only
    rw [exchanges_bind, run_bind, Script.execute, exchanges_ask, run_ask]
    rcases answer (.execute target statement) state with ⟨⟨failure⟩ | ⟨count⟩, state⟩
    · exact .rolledBack begun failure _
    · dsimp only
      rw [Script.execute, exchanges_ask, run_ask]
      rcases answer (.execute target "COMMIT") state with ⟨⟨failure⟩ | ⟨committed⟩, state⟩
      · exact .uncommitted begun count failure
      · exact .committed begun count committed

variable (target : Destination) (validates : Bool) (key : ForeignKey)

theorem validate_transacts (status : Status) (state : σ)
    : Transacts target (key.checkStatement target)
        ((do return (← validate target key).map fun _ => status : Script _).exchanges answer state)
        ((do return (← validate target key).map fun _ => status : Script _).run answer
          state).1.toOption.isSome := by
  have transacts := asTransaction_transacts answer target (key.checkStatement target) state
  rw [exchanges_bind, run_bind, exchanges_pure, List.append_nil, run_pure]
  change Transacts _ _ ((asTransaction _ _).exchanges answer state)
    (((asTransaction _ _).run answer state).1.map _).toOption.isSome
  cases reply : ((asTransaction target (key.checkStatement target)).run answer state).1 <;>
    rwa [reply] at transacts

theorem attach_settles (reply : Except Failure KeyPresence) (state : σ)
    : Settles target key
        (⟨.keyPresence target key.table key.name, reply⟩
          :: (attach target validates key).exchanges answer state)
        ((attach target validates key).run answer state).1.toOption.isSome := by
  unfold attach
  cases written : key.attachStatement target with
  | error failure => exact .looked reply _
  | ok statement =>
      have plain := attachStatement_plain written
      have transacts := asTransaction_transacts answer target statement state
      dsimp only
      rw [exchanges_bind, run_bind]
      generalize (asTransaction target statement).exchanges answer state = record at transacts ⊢
      generalize (asTransaction target statement).run answer state = reached at transacts ⊢
      obtain ⟨committed, state⟩ := reached
      cases committed with
      | error failure =>
          rw [exchanges_pure, List.append_nil]
          exact .once reply plain transacts
      | ok count =>
          cases validates with
          | false =>
              rw [if_neg nofun, exchanges_pure, List.append_nil]
              exact .once reply plain transacts
          | true =>
              rw [if_pos rfl]
              exact .twice reply plain transacts (validate_transacts answer target key .added state)

theorem settle_settles (state : σ)
    : Settles target key ((settle target validates key).exchanges answer state)
        ((settle target validates key).run answer state).1.toOption.isSome := by
  rw [settle, exchanges_bind, run_bind, exchanges_ask, run_ask]
  rcases answer (.keyPresence target key.table key.name) state
    with ⟨⟨failure⟩ | ⟨presence⟩, state⟩
  · exact .looked _ _
  · cases presence with
    | absent => exact attach_settles answer target validates key _ state
    | validated => exact .looked _ _
    | unvalidated =>
        cases validates with
        | false => exact .looked _ _
        | true =>
            exact .once _ (checkStatement_plain target key)
              (validate_transacts answer target key .validated state)

/-- By induction over the foreign keys, each of which is settled after a look whether the pass has
been cancelled.
-/
theorem settleKeys_bracketed (database : Text) (keys : List ForeignKey) (state : σ)
    : Bracketed false ((settleKeys target validates database keys).exchanges answer state) := by
  induction keys generalizing state with
  | nil => exact .nothing
  | cons key rest ih =>
      rw [settleKeys, exchanges_bind]
      refine .plain (Exchange.isPlain_of_statement?_eq_none rfl) ?_
      split
      · exact .nothing
      · rw [exchanges_bind]
        refine (settle_settles answer target validates key _).bracketed.append ?_
        rw [exchanges_bind, exchanges_pure, List.append_nil]
        exact ih _

end Surroundings

end Attachment

/-- If loading a table fails after the beginning of its transaction, what it ends in is that the
transaction is rolled back, unless that is a commit that fails.
-/
theorem Migration.Job.Loads.rolledBack_iff {job : Migration.Job} {table : Dump.Table}
    {record rest : List Exchange} {begun : Nat} (loads : job.Loads table record none)
    (parts : record = job.opened :: job.executed "BEGIN" (.ok begun) :: rest)
    : Exchange.EndIn rest Exchange.RollsBack ↔ ¬ Exchange.EndIn rest Exchange.FailsToCommit := by
  cases loads with
  | undefined _ | unconverted _ _ | unopened _ _ _ => simp at parts
  | opened found converted transaction =>
      obtain ⟨-, rfl⟩ := List.cons.inj parts
      cases transaction with
      | rolledBack begun body failed reply =>
          have rollsBack : (job.executed "ROLLBACK" reply).RollsBack := rfl
          exact Exchange.endIn_rollsBack_iff (.inl rollsBack) _
      | uncommitted begun body converted failure =>
          have fails : (job.executed "COMMIT" (.error failure)).FailsToCommit := ⟨rfl, nofun⟩
          exact Exchange.endIn_rollsBack_iff (.inr fails) _

namespace Attachment

/-- Whatever the warehouse answers, a transaction that has begun and fails is rolled back if and
only if it is not its commit that fails. This holds of loading a table and of settling a foreign
key. In a session in which foreign keys are settled no transaction begins while another one is
unfinished, if and only if no commit that fails is followed by the beginning of another one.
Witness: loan_rolled_back.
-/
theorem failed_transactions_rolled_back_iff {σ : Type} (answer : Script.Answer σ)
    (converter : Conversion.Converter) (target : Destination) (table : Dump.Table)
    (validates : Bool) (key : ForeignKey) (database : Text) (keys : List ForeignKey) (state : σ)
    : (∀ begun rest,
          ((Migration.Job.loading converter target).perform table).exchanges answer state
            = (Migration.Job.loading converter target).opened
              :: (Migration.Job.loading converter target).executed "BEGIN" (.ok begun) :: rest →
          (((Migration.Job.loading converter target).perform table).run answer state).1.success
            = false →
          (Exchange.EndIn rest Exchange.RollsBack ↔ ¬ Exchange.EndIn rest Exchange.FailsToCommit))
      ∧ (∀ before begun rest,
          (settle target validates key).exchanges answer state = before ++ begun :: rest →
          begun.Begins → begun.Succeeded → (∀ exchange ∈ rest, ¬ exchange.Begins) →
          ((settle target validates key).run answer state).1.toOption = none →
          (Exchange.EndIn rest Exchange.RollsBack ↔ ¬ Exchange.EndIn rest Exchange.FailsToCommit))
      ∧ (BeginAlone false ((settleKeys target validates database keys).exchanges answer state)
        ↔ ((settleKeys target validates database keys).exchanges answer state).Pairwise
            fun commit begun => commit.FailsToCommit → ¬ begun.Begins) := by
  refine ⟨fun begun rest parts failed => ?_, fun before begun rest parts begins succeeded last
    failed => ?_, ?_⟩
  · have loads := (Migration.Job.loading converter target).perform_loads answer table rfl state
    rw [Migration.TableResult.loaded, failed] at loads
    exact loads.rolledBack_iff parts
  · have settles := settle_settles answer target validates key state
    rw [failed] at settles
    exact settles.rolledBack_iff parts begins succeeded last
  · rw [(settleKeys_bracketed answer target validates database keys state).beginAlone_iff false
      (by simp)]
    simp

/-- A destination for loans. -/
def loans : Destination :=
  ⟨none, "loans"⟩

/-- A foreign key of a table of loans. -/
def loanKey (name referencedTable : Text) : ForeignKey :=
  { name, table := "t", columns := ["a"], referencedDatabase := none, referencedTable,
    referencedColumns := ["b"], onDelete := none, onUpdate := none }

/-- A table of loans without rows. -/
def loanTable : Dump.Table :=
  { name := "t", definition := some "CREATE TABLE `t` (a int);" }

/-- A rehearsal in which neither a table can be removed nor the first foreign key be attached. -/
def loanRehearsal : Rehearsal.Plan :=
  { failOn := ["DROP TABLE", "CONSTRAINT \"k\""] }

/-- What is asked for the table. -/
def loanLoading : List Exchange :=
  ((Migration.Job.loading Migration.standardConverter loans).perform loanTable).exchanges
    (Rehearsal.answer loanRehearsal) {}

/-- What is asked for the first foreign key. -/
def loanSettling : List Exchange :=
  (settle loans false (loanKey "k" "x")).exchanges (Rehearsal.answer loanRehearsal) {}

/-- What is asked in a session for two of them. -/
def loanSession : List Exchange :=
  (settleKeys loans false "loans" [loanKey "k" "x", loanKey "l" "y"]).exchanges
    (Rehearsal.answer loanRehearsal) {}

theorem loan_rolled_back
    : Exchange.EndIn (loanLoading.drop 2) Exchange.RollsBack
      ∧ Exchange.EndIn (loanSettling.drop 2) Exchange.RollsBack
      ∧ BeginAlone false loanSession := by
  obtain ⟨loads, settles, session⟩ := failed_transactions_rolled_back_iff
    (Rehearsal.answer loanRehearsal) Migration.standardConverter loans loanTable false
    (loanKey "k" "x") "loans" [loanKey "k" "x", loanKey "l" "y"] {}
  refine ⟨?_, ?_, session.mpr (by decide +kernel)⟩
  · refine (loads 0 (loanLoading.drop 2) (by decide +kernel) (by decide +kernel)).mpr ?_
    decide +kernel
  · refine (settles (loanSettling.take 1) ⟨.execute loans "BEGIN", .ok 0⟩ (loanSettling.drop 2)
      (by decide +kernel) rfl ⟨0, rfl⟩ (by decide +kernel) (by decide +kernel)).mpr ?_
    decide +kernel

/-- With a commit that fails no rolling back is asked for, and the transaction for the next
foreign key begins while it is unfinished.
-/
theorem failed_commit_not_rolled_back
    : (settleKeys loans false "loans" [loanKey "k" "x", loanKey "l" "y"]).statements
          (Rehearsal.answer { failOn := ["COMMIT"] }) {}
        = ([ "BEGIN",
            "ALTER TABLE \"loans\".\"t\" ADD CONSTRAINT \"k\" FOREIGN KEY (\"a\") REFERENCES \"loans\".\"x\" (\"b\") NOT VALID",
            "COMMIT", "BEGIN",
            "ALTER TABLE \"loans\".\"t\" ADD CONSTRAINT \"l\" FOREIGN KEY (\"a\") REFERENCES \"loans\".\"y\" (\"b\") NOT VALID",
            "COMMIT" ] : List Text)
      ∧ ¬ BeginAlone false
          ((settleKeys loans false "loans" [loanKey "k" "x", loanKey "l" "y"]).exchanges
            (Rehearsal.answer { failOn := ["COMMIT"] }) {}) := by
  decide +kernel

end Attachment

end DumpTransfer
