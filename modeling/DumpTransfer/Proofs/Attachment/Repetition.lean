import DumpTransfer.Proofs.Attachment.Passes

/-! One pass over the foreign keys of a dump after another. Whatever a pass has settled without a
failure is left alone by every pass after it, and nothing that one pass could not attach can be
attached by the next.
-/

namespace DumpTransfer.Attachment

open Script

/-- What a pass has settled is left alone: nothing is attached anew, and for a foreign key that
did not fail nothing is done at all.
-/
structure LeavesAlone {σ : Type} (answer : Answer σ) (validates : Bool) (attempt later : Attempt σ)
    : Prop where
  same : later.assignment = attempt.assignment
  adds_nothing : (later.result answer validates).status ≠ .added
  unchanged
    : (attempt.result answer validates).status ≠ .failed →
        (later.result answer validates).status = .unchanged
        ∧ later.statements answer validates = []

section Repetition

variable {σ : Type} {answer : Answer σ} {rule : Rule} {view : σ → Holdings} {validates : Bool}

variable (keeps : Keeps answer rule view)
include keeps

theorem Attempt.result_foretold {attempt : Attempt σ}
    (understands : rule.Understands attempt.assignment.target attempt.assignment.key)
    (settled : rule.Settled (view attempt.state))
    : (attempt.result answer validates).status
        = (attempt.foretold rule view validates).1.getD .failed := by
  rw [foretold, ← (settle_foretold keeps understands validates settled).value]
  unfold result resultOf
  dsimp only
  cases ((settle attempt.assignment.target validates attempt.assignment.key).run answer
    attempt.state).1 <;> rfl

/-- What an attempt that did not fail has brought about. -/
theorem Attempt.result_reaches {attempt : Attempt σ}
    (understands : rule.Understands attempt.assignment.target attempt.assignment.key)
    (settled : rule.Settled (view attempt.state))
    (fine : (attempt.result answer validates).status ≠ .failed)
    : ∃ status,
        (attempt.foretold rule view validates).1 = some status
        ∧ rule.refusesLookup attempt.assignment.target attempt.assignment.key.table
            attempt.assignment.key.name = false
        ∧ wanted validates ≤ attempt.presence (attempt.foretold rule view validates).2 := by
  rw [attempt.result_foretold keeps understands settled] at fine
  cases came : (attempt.foretold rule view validates).1 with
  | none =>
      rw [came] at fine
      exact absurd rfl fine
  | some status => exact ⟨status, rfl, Rule.settle_reaches came⟩

/-- What an attempt has brought about lasts. -/
theorem Attempt.lasts {attempt : Attempt σ}
    (understands : rule.Understands attempt.assignment.target attempt.assignment.key)
    (settled : rule.Settled (view attempt.state)) {last : Held}
    (kept : (attempt.foretold rule view validates).2 ≤ last)
    (fine : (attempt.result answer validates).status ≠ .failed)
    : attempt.presence last ≠ .absent
      ∧ ((attempt.result answer validates).isValidated = true →
          attempt.presence last = .validated) := by
  obtain ⟨_, _, _, reached⟩ := attempt.result_reaches keeps understands settled fine
  have there : wanted validates ≤ attempt.presence last := le_trans reached (Held.presence_le kept)
  refine ⟨wanted_ne_absent there, fun checked => ?_⟩
  cases validates with
  | true => exact KeyPresence.eq_validated_of_le there
  -- Nothing is reported as validated by a pass that does not validate.
  | false =>
      unfold result resultOf at checked
      dsimp only at checked
      split at checked <;> cases checked

theorem Attempt.leavesAlone {attempt later : Attempt σ}
    (same : later.assignment = attempt.assignment)
    (understands : rule.Understands attempt.assignment.target attempt.assignment.key)
    (settled : rule.Settled (view attempt.state)) (laterSettled : rule.Settled (view later.state))
    (kept : (attempt.foretold rule view validates).2 ≤ (view later.state).held)
    : LeavesAlone answer validates attempt later := by
  have reported : (later.result answer validates).status
      = (later.foretold rule view validates).1.getD .failed :=
    later.result_foretold keeps (same ▸ understands) laterSettled
  obtain ⟨assignment, state⟩ := later
  obtain rfl : assignment = attempt.assignment := same
  obtain ⟨adds, unchanged⟩ := Rule.settle_again kept
  refine ⟨rfl, ?_, fun fine => ?_⟩
  · rw [reported]
    cases came : (Attempt.foretold rule view validates ⟨attempt.assignment, state⟩).1 with
    | none => nofun
    | some status =>
        rintro rfl
        exact adds came
  · obtain ⟨status, came, found, reached⟩ :=
      attempt.result_reaches keeps understands settled fine
    rw [reported, foretold, unchanged status came]
    exact ⟨rfl, settle_executes_nothing keeps found
      (le_trans reached (Held.presence_le kept))⟩

end Repetition

/-- Against a warehouse that keeps foreign keys by a rule, a pass sets nothing back and whatever
it reports without a failure is there when it is over, validated where it says so. A further pass
with the same arguments attaches nothing, and does nothing at all for a foreign key that did not
fail, even if others have been attached or validated in between.
-/
theorem passes_settle_for_good {σ : Type} {answer : Answer σ} {rule : Rule} {view : σ → Holdings}
    (keeps : Keeps answer rule view) (forGood : CancelsForGood answer) {plan : Plan}
    {lines : List Dump.Line}
    (understands : ∀ assignment ∈ plan.assignments lines,
      rule.Understands assignment.target assignment.key)
    {before after : σ} {report : Report}
    (returned : (run plan lines).run answer before = (.ok report, after))
    : (view before).held ≤ (view after).held
      ∧ ∃ attempts,
          report.Comprises answer plan lines before attempts
          ∧ (∀ attempt ∈ attempts,
              (attempt.result answer plan.validates).status ≠ .failed →
                attempt.presence (view after).held ≠ .absent
                ∧ ((attempt.result answer plan.validates).isValidated = true →
                    attempt.presence (view after).held = .validated))
          ∧ (report.isCancelled = false →
              ∀ again other,
                (view after).held ≤ (view again).held →
                ((run plan lines).run answer again).1 = .ok other →
                (∀ result ∈ other.results, result.status ≠ .added)
                ∧ ∃ later,
                    other.Comprises answer plan lines again later
                    ∧ ∀ pair ∈ attempts.zip later,
                        LeavesAlone answer plan.validates pair.1 pair.2) := by
  obtain ⟨attempts, comprises, made⟩ := run_comprises keeps forGood understands
    (congrArg Prod.fst returned)
  rw [returned] at made
  refine ⟨made.held_le, attempts, comprises, ?_, ?_⟩
  · intro attempt member fine
    obtain ⟨known, settled, -, kept⟩ := made.between attempt member
    exact attempt.lasts keeps (understands _ known) settled kept fine
  · intro uncancelled again other grown repeated
    obtain ⟨later, laterComprises, laterMade⟩ := run_comprises keeps forGood understands repeated
    have alone : ∀ pair ∈ attempts.zip later,
        LeavesAlone answer plan.validates pair.1 pair.2 := by
      intro pair member
      obtain ⟨first, second⟩ := List.of_mem_zip member
      obtain ⟨known, settled, -, kept⟩ := made.between _ first
      obtain ⟨-, laterSettled, started, -⟩ := laterMade.between _ second
      exact Attempt.leavesAlone keeps (zip_assignment made.order laterMade.order pair member).symm
        (understands _ known) settled laterSettled (le_trans kept (le_trans grown started))
    refine ⟨?_, later, laterComprises, alone⟩
    -- The first pass has attempted everything, so each later attempt has one of its own to go
    -- with, and none of them adds anything.
    have fewer : later.length ≤ attempts.length := by
      have all := congrArg List.length (comprises.complete uncancelled)
      have some_ := laterComprises.order.length_le
      rw [← all, List.length_map, List.length_map] at some_
      exact some_
    rw [laterComprises.results]
    refine List.forall_mem_map.mpr fun attempt member => ?_
    rw [← List.map_snd_zip fewer] at member
    obtain ⟨pair, paired, rfl⟩ := List.mem_map.mp member
    exact (alone pair paired).adds_nothing

/-- A dump of two tables with a foreign key each. -/
def shopLines : List Dump.Line :=
  [ "USE `shop`;",
    "CREATE TABLE `s` (a int, CONSTRAINT `k` FOREIGN KEY (a) REFERENCES `i` (b));",
    "CREATE TABLE `r` (a int, FOREIGN KEY (a) REFERENCES `i` (b));" ].map fun line => ⟨line, {}⟩

def shopPlan : Plan :=
  { databases := ["shop"], validates := true }

/-- The first of them can be attached but not validated. -/
def shopRehearsal : Rehearsal.Plan :=
  { failOn := ["VALIDATE CONSTRAINT \"k\""] }

theorem passes_over_shop
    : ∃ report after other attempts later,
        (run shopPlan shopLines).run (Rehearsal.answer shopRehearsal) {} = (.ok report, after)
        ∧ ((run shopPlan shopLines).run (Rehearsal.answer shopRehearsal) after).1 = .ok other
        ∧ report.results.map (·.status) = [.failed, .added]
        ∧ other.results.map (·.status) = [.failed, .unchanged]
        ∧ (holdingsOf {}).held ≤ (holdingsOf after).held
        ∧ report.Comprises (Rehearsal.answer shopRehearsal) shopPlan shopLines {} attempts
        ∧ other.Comprises (Rehearsal.answer shopRehearsal) shopPlan shopLines after later
        ∧ ∀ pair ∈ attempts.zip later,
            LeavesAlone (Rehearsal.answer shopRehearsal) true pair.1 pair.2 := by
  have understands : ∀ assignment ∈ shopPlan.assignments shopLines,
      (Rule.ofRehearsal shopRehearsal).Understands assignment.target assignment.key := by
    decide +kernel
  have shown
      : (((run shopPlan shopLines).run (Rehearsal.answer shopRehearsal) {}).1.toOption.map
            fun report => (report.isCancelled, report.results.map (·.status)))
          = some (false, [.failed, .added])
        ∧ (((run shopPlan shopLines).run (Rehearsal.answer shopRehearsal)
            ((run shopPlan shopLines).run (Rehearsal.answer shopRehearsal) {}).2).1.toOption.map
              fun report => report.results.map (·.status))
          = some [.failed, .unchanged] := by
    decide +kernel
  generalize first : (run shopPlan shopLines).run (Rehearsal.answer shopRehearsal) {} = reached
    at shown
  obtain ⟨⟨failure⟩ | ⟨report⟩, after⟩ := reached
  · cases shown.1
  · obtain ⟨firstShown, secondShown⟩ := shown
    obtain ⟨uncancelled, statuses⟩ := Prod.mk.inj (Option.some.inj firstShown)
    cases second : ((run shopPlan shopLines).run (Rehearsal.answer shopRehearsal) after).1 with
    | error failure =>
        rw [second] at secondShown
        cases secondShown
    | ok other =>
        rw [second] at secondShown
        obtain ⟨grown, attempts, comprises, -, repeated⟩ := passes_settle_for_good
          (keeps_rehearsal shopRehearsal) (cancelsForGood_rehearsal shopRehearsal) understands first
        obtain ⟨-, later, laterComprises, alone⟩ :=
          repeated uncancelled after other (le_refl _) second
        exact ⟨report, after, other, attempts, later, rfl, second, statuses,
          Option.some.inj secondShown, grown, comprises, laterComprises, alone⟩

end DumpTransfer.Attachment
