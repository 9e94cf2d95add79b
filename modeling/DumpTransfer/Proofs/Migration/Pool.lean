import DumpTransfer.Migration.Pool
import DumpTransfer.Proofs.Warehouse.Exchanges

/-! Procedures that share workers: side by side with others, by what they ask for, and by what the
results are and which calls are made. All of it holds of the procedures together when it holds of
each.
-/

namespace DumpTransfer.Migration.Pool

open Script

section Mirroring

variable {σ τ : Type} {rehearsal : Answer σ} {real : Answer τ} {alike : σ → τ → Prop}
variable (surroundings : Rehearsing rehearsal real alike)
include surroundings

variable {α β : Type} {image : α → β}

/-- By induction over the procedures that wait for a worker, with those that have been started
already.
-/
theorem continueWith_mirrored (workers free : Nat)
    {rehearsedStarted rehearsed : List (Script β)} {started actual : List (Script α)}
    (before : List.Forall₂ (Mirrors rehearsal real alike image) rehearsedStarted started)
    (waiting : List.Forall₂ (Mirrors rehearsal real alike image) rehearsed actual)
    : Mirrors rehearsal real alike (List.map image)
        (continueWith workers free rehearsedStarted rehearsed)
        (continueWith workers free started actual) := by
  induction waiting generalizing free rehearsedStarted started with
  | nil => exact mirrors_inTurn before
  | cons next rest ih =>
      refine mirrors_isCancelled surroundings ?_
      cases free with
      | zero =>
          refine (mirrors_inTurn before).bind fun finished => ?_
          refine (ih (workers - 1) (.cons next .nil)).bind fun others => ?_
          exact mirrors_pure List.map_append.symm
      | succ free => exact ih free (List.rel_append before (.cons next .nil))

theorem run_mirrored (workers : Nat) {rehearsed : List (Script β)} {actual : List (Script α)}
    (each : List.Forall₂ (Mirrors rehearsal real alike image) rehearsed actual)
    : Mirrors rehearsal real alike (List.map image) (run workers rehearsed)
        (run workers actual) :=
  continueWith_mirrored surroundings workers (max workers 1) .nil each

end Mirroring

/-- By the same induction. Whether to go on is asked as well. -/
theorem asksOnly_continueWith {α : Type} {kind : Request → Prop}
    (allowed : isCancelled.AsksOnly kind) (workers free : Nat) {started waiting : List (Script α)}
    (before : ∀ procedure ∈ started, procedure.AsksOnly kind)
    (all : ∀ procedure ∈ waiting, procedure.AsksOnly kind)
    : (continueWith workers free started waiting).AsksOnly kind := by
  induction waiting generalizing free started with
  | nil => exact asksOnly_inTurn before
  | cons next rest ih =>
      have first : next.AsksOnly kind := all next (by simp)
      have others : ∀ procedure ∈ rest, procedure.AsksOnly kind :=
        fun procedure member => all procedure (by simp [member])
      refine allowed.bind fun cancelled => ?_
      cases cancelled with
      | true => exact asksOnly_inTurn before
      | false =>
          cases free with
          | zero =>
              refine (asksOnly_inTurn before).bind fun finished => ?_
              exact (ih (workers - 1) (by simpa using first) others).bind fun _ =>
                asksOnly_pure _
          | succ free =>
              refine ih free ?_ others
              intro procedure member
              rcases List.mem_append.mp member with member | member
              · exact before procedure member
              · rw [List.mem_singleton.mp member]
                exact first

-----------------------------------------------------------------------------------------
-- What is carried out
-----------------------------------------------------------------------------------------

section Performance

variable {σ α : Type} (answer : Answer σ)

/-- The results and the calls of procedures that are carried out in order, each on its own and in
whatever state it finds, up to one with which nothing more is started.
-/
inductive Performed : List (Script α) → List α → List Exchange → Prop where
  | stopped (procedures : List (Script α)) : Performed procedures [] []
  | next {procedure : Script α} {procedures : List (Script α)} {results : List α}
      {calls : List Exchange} (state : σ) (rest : Performed procedures results calls)
      : Performed (procedure :: procedures) ((procedure.run answer state).1 :: results)
          (procedure.calls answer state ++ calls)

variable {answer}

/-- Procedures that follow others of which all are carried out. -/
theorem Performed.append {first second : List (Script α)} {results others : List α}
    {calls more : List Exchange} (before : Performed answer first results calls)
    (all : results.length = first.length) (after : Performed answer second others more)
    : Performed answer (first ++ second) (results ++ others) (calls ++ more) := by
  induction before with
  | stopped procedures =>
      obtain rfl := List.length_eq_zero_iff.mp all.symm
      exact after
  | next state rest ih =>
      rw [List.append_assoc]
      exact .next state (ih (Nat.succ.inj all))

variable (answer)

theorem inTurn_performed (procedures : List (Script α)) (state : σ)
    : Performed answer procedures ((inTurn procedures).run answer state).1
        ((inTurn procedures).calls answer state)
      ∧ ((inTurn procedures).run answer state).1.length = procedures.length := by
  induction procedures generalizing state with
  | nil => exact ⟨.stopped [], rfl⟩
  | cons first rest ih =>
      obtain ⟨performed, all⟩ := ih (first.run answer state).2
      rw [inTurn, run_bind, calls_bind, run_bind, calls_bind, run_pure, calls_pure,
        List.append_nil]
      exact ⟨.next state performed, congrArg (· + 1) all⟩

/-- A procedure that waits is started, put off or left out. -/
theorem continueWith_cons (workers free : Nat) (started : List (Script α)) (next : Script α)
    (rest : List (Script α))
    : continueWith workers free started (next :: rest)
      = (do
          if ← isCancelled then inTurn started
          else
            match free with
            | free + 1 => continueWith workers free (started ++ [next]) rest
            | 0 =>
                let finished ← inTurn started
                return finished ++ (← continueWith workers (workers - 1) [next] rest)) := by
  cases free <;> rfl

/-- By induction over the procedures that wait. Those that are left out when the run is cancelled
come after all that have been started.
-/
theorem continueWith_performed (workers free : Nat) (started waiting : List (Script α))
    (state : σ)
    : Performed answer (started ++ waiting)
        ((continueWith workers free started waiting).run answer state).1
        ((continueWith workers free started waiting).calls answer state) := by
  induction waiting generalizing free started state with
  | nil =>
      rw [List.append_nil]
      exact (inTurn_performed answer started state).1
  | cons next rest ih =>
      rw [continueWith_cons, run_bind, calls_bind, calls_isCancelled, List.nil_append]
      generalize (isCancelled.run answer state).2 = state
      cases (isCancelled.run answer _).1 with
      | true =>
          obtain ⟨performed, all⟩ := inTurn_performed answer started state
          simpa using performed.append all (.stopped (next :: rest))
      | false =>
          cases free with
          | succ free => simpa using ih free (started ++ [next]) state
          | zero =>
              obtain ⟨performed, all⟩ := inTurn_performed answer started state
              simp only [Bool.false_eq_true, if_false]
              rw [run_bind, calls_bind, run_bind, calls_bind, run_pure, calls_pure,
                List.append_nil]
              exact performed.append all (ih (workers - 1) [next] _)

/-- A pool whose run nobody has cancelled when it is over has carried out everything. -/
theorem continueWith_complete {answer : Answer σ} (forGood : CancelsForGood answer)
    (workers free : Nat) (started waiting : List (Script α)) (state : σ)
    (uncancelled : ¬ Cancelled answer
      ((continueWith workers free started waiting).run answer state).2)
    : ((continueWith workers free started waiting).run answer state).1.length
      = (started ++ waiting).length := by
  induction waiting generalizing free started state with
  | nil =>
      rw [List.append_nil]
      exact (inTurn_performed answer started state).2
  | cons next rest ih =>
      rw [continueWith_cons, run_bind] at uncancelled ⊢
      cases learned : (isCancelled.run answer state).1 with
      | true =>
          have cancelled : Cancelled answer (isCancelled.run answer state).2 :=
            forGood _ state learned
          exact absurd (forGood.run _ cancelled) uncancelled
      | false =>
          rw [learned] at uncancelled
          cases free with
          | succ free =>
              have all := ih free (started ++ [next]) _ uncancelled
              simpa using all
          | zero =>
              simp only [Bool.false_eq_true, if_false] at uncancelled ⊢
              rw [run_bind, run_bind, run_pure] at uncancelled ⊢
              have all := ih (workers - 1) [next] _ uncancelled
              have before := (inTurn_performed answer started
                (isCancelled.run answer state).2).2
              simpa [before] using all

theorem run_performed (workers : Nat) (procedures : List (Script α)) (state : σ)
    : Performed answer procedures ((run workers procedures).run answer state).1
        ((run workers procedures).calls answer state) :=
  continueWith_performed answer workers _ [] procedures state

theorem run_complete {answer : Answer σ} (forGood : CancelsForGood answer) (workers : Nat)
    (procedures : List (Script α)) (state : σ)
    (uncancelled : ¬ Cancelled answer ((run workers procedures).run answer state).2)
    : ((run workers procedures).run answer state).1.length = procedures.length :=
  continueWith_complete forGood workers _ [] procedures state uncancelled

end Performance

end DumpTransfer.Migration.Pool
