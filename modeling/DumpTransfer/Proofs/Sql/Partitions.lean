import DumpTransfer.Proofs.Sql.LiteralValues

/-! Statements and their runs. The runs of a statement are filled, take turns and end where the
next one begins; whatever runs are so are the runs of the text that they make up, so that a change
made run by run can be followed through the runs of the result.
-/

namespace DumpTransfer.Sql

namespace Segment

/-- Whether the run is a literal. -/
def isLiteral : Segment → Bool
  | code _ => false
  | literal _ => true

/-- A run of a kind. -/
def ofKind (isLiteral : Bool) (text : Text) : Segment :=
  if isLiteral then literal text else code text

@[simp] theorem isLiteral_ofKind (kind : Bool) (text : Text)
    : (ofKind kind text).isLiteral = kind := by
  cases kind <;> rfl

@[simp] theorem text_ofKind (kind : Bool) (text : Text)
    : (ofKind kind text).text = text := by
  cases kind <;> rfl

@[simp] theorem ofKind_text (run : Segment)
    : ofKind run.isLiteral run.text = run := by
  cases run <;> rfl

/-- A character joins a run of its kind. -/
theorem extend_same {kind : Bool} {run : Segment} (same : run.isLiteral = kind) (char : Char)
    (runs : List Segment)
    : extend kind char (run :: runs) = ofKind kind (char :: run.text) :: runs := by
  subst same
  cases run <;> rfl

/-- A character begins a run before one of the other kind. -/
theorem extend_other {kind : Bool} {runs : List Segment}
    (other : ∀ run ∈ runs.head?, run.isLiteral ≠ kind) (char : Char)
    : extend kind char runs = ofKind kind [char] :: runs := by
  rcases runs with _ | ⟨text | text, more⟩
  · cases kind <;> rfl
  · cases kind
    · exact absurd rfl (other _ rfl)
    · rfl
  · cases kind
    · rfl
    · exact absurd rfl (other _ rfl)

end Segment

namespace Quoting

variable {style : LiteralStyle}

/-- Every character of a text after a place belongs to a run of one kind. -/
def Keeps (style : LiteralStyle) (isLiteral : Bool) : Quoting → Text → Prop
  | _, [] => True
  | quoting, char :: rest =>
      (quoting.inLiteral || (quoting.step style char).inLiteral) = isLiteral
        ∧ Keeps style isLiteral (quoting.step style char) rest

theorem after_append (quoting : Quoting) (first second : Text)
    : quoting.after style (first ++ second) = (quoting.after style first).after style second :=
  List.foldl_append

theorem keeps_append {kind : Bool} {quoting : Quoting} {first second : Text}
    : Keeps style kind quoting (first ++ second)
      ↔ Keeps style kind quoting first ∧ Keeps style kind (quoting.after style first) second := by
  induction first generalizing quoting with
  | nil => simp [Keeps, after]
  | cons char rest ih => simp only [List.cons_append, Keeps, ih, and_assoc]; rfl

/-- A literal ends with its quote, and after that comes code. -/
theorem eq_code_of_closes {quoting : Quoting} {char : Char} (inside : quoting.inLiteral = true)
    (closes : (quoting.step style char).inLiteral = false)
    : quoting.step style char = .code := by
  cases quoting with
  | code | name close => cases inside
  | escaped => cases closes
  | literal =>
      rw [step] at closes ⊢
      split at closes
      · cases closes
      · split at closes
        · simp_all
        · cases closes

end Quoting

namespace Segment

variable {style : LiteralStyle} {quoting : Quoting} {run next : Segment} {runs : List Segment}

-----------------------------------------------------------------------------------------
-- Runs from a place on
-----------------------------------------------------------------------------------------

/-- Runs that follow a place. Each is of one kind throughout, and all but the last are followed by
one of the other kind, from a place in code on.
-/
inductive Partition (style : LiteralStyle) : Quoting → List Segment → Prop where
  | nil (quoting : Quoting) : Partition style quoting []
  | last {quoting : Quoting} {run : Segment} (filled : run.text ≠ [])
      (keeps : Quoting.Keeps style run.isLiteral quoting run.text)
      : Partition style quoting [run]
  | more {quoting : Quoting} {run next : Segment} {runs : List Segment} (filled : run.text ≠ [])
      (keeps : Quoting.Keeps style run.isLiteral quoting run.text)
      (ends : quoting.after style run.text = .code) (other : next.isLiteral ≠ run.isLiteral)
      (later : Partition style .code (next :: runs))
      : Partition style quoting (run :: next :: runs)

theorem Partition.filled (partition : Partition style quoting (run :: runs))
    : run.text ≠ [] := by
  cases partition <;> assumption

theorem Partition.keeps (partition : Partition style quoting (run :: runs))
    : Quoting.Keeps style run.isLiteral quoting run.text := by
  cases partition <;> assumption

/-- Each run of a partition from a place in code on begins in code. -/
theorem Partition.keeps_of_mem (partition : Partition style quoting runs) (start : quoting = .code)
    (member : run ∈ runs)
    : Quoting.Keeps style run.isLiteral .code run.text := by
  induction partition with
  | nil => cases member
  | last filled keeps =>
      subst start
      obtain rfl := List.mem_singleton.mp member
      exact keeps
  | more filled keeps ends other later ih =>
      subst start
      rcases List.mem_cons.mp member with rfl | member
      · exact keeps
      · exact ih rfl member

theorem Partition.filled_of_mem (partition : Partition style quoting runs) (member : run ∈ runs)
    : run.text ≠ [] := by
  induction partition with
  | nil => cases member
  | last filled => exact List.mem_singleton.mp member ▸ filled
  | more filled keeps ends other later ih =>
      rcases List.mem_cons.mp member with rfl | member
      · exact filled
      · exact ih member

/-- One more character in the first run. -/
theorem Partition.joined {char : Char} {kind : Bool}
    (partition : Partition style (quoting.step style char) (run :: runs))
    (same : run.isLiteral = kind)
    (mark : (quoting.inLiteral || (quoting.step style char).inLiteral) = kind)
    : Partition style quoting (ofKind kind (char :: run.text) :: runs) := by
  have filled : (ofKind kind (char :: run.text)).text ≠ [] := by simp
  have keeps : Quoting.Keeps style (ofKind kind (char :: run.text)).isLiteral quoting
      (ofKind kind (char :: run.text)).text := by
    rw [isLiteral_ofKind, text_ofKind]
    exact ⟨mark, same ▸ partition.keeps⟩
  cases partition with
  | last => exact .last filled keeps
  | more _ _ ends other later =>
      refine .more filled keeps ?_ (by rwa [isLiteral_ofKind, ← same]) later
      rw [text_ofKind]
      exact ends

/-- One more run of a single character, before a run of the other kind. -/
theorem Partition.begun {char : Char} {kind : Bool}
    (partition : Partition style (quoting.step style char) runs)
    (other : ∀ run ∈ runs.head?, run.isLiteral ≠ kind)
    (mark : (quoting.inLiteral || (quoting.step style char).inLiteral) = kind)
    : Partition style quoting (ofKind kind [char] :: runs) := by
  have filled : (ofKind kind [char]).text ≠ [] := by simp
  have keeps : Quoting.Keeps style (ofKind kind [char]).isLiteral quoting
      (ofKind kind [char]).text := by
    rw [isLiteral_ofKind, text_ofKind]
    exact ⟨mark, trivial⟩
  cases runs with
  | nil => exact .last filled keeps
  | cons run rest =>
      have differ := other run rfl
      -- A run that begins here begins in code, whichever of the two kinds it is of.
      have inCode : quoting.step style char = .code := by
        obtain ⟨first, more, spelled⟩ := List.exists_cons_of_ne_nil partition.filled
        have begins := partition.keeps
        rw [spelled] at begins
        have markNext := begins.1
        cases literal : run.isLiteral with
        | true =>
            rw [literal] at markNext differ
            obtain rfl : kind = false := by simpa using differ
            obtain ⟨-, outside⟩ := Bool.or_eq_false_iff.mp mark
            rw [outside, Bool.false_or] at markNext
            exact (Quoting.opens_literal outside markNext).1
        | false =>
            rw [literal] at markNext differ
            obtain rfl : kind = true := by simpa using differ
            obtain ⟨outside, -⟩ := Bool.or_eq_false_iff.mp markNext
            rw [outside, Bool.or_false] at mark
            exact Quoting.eq_code_of_closes mark outside
      refine .more filled keeps ?_ (by rwa [isLiteral_ofKind]) (inCode ▸ partition)
      rw [text_ofKind]
      exact inCode

/-- By induction over the text. -/
theorem partition_ofTextFrom (style : LiteralStyle) (quoting : Quoting) (text : Text)
    : Partition style quoting (ofTextFrom style quoting text) := by
  induction text generalizing quoting with
  | nil => exact .nil quoting
  | cons char rest ih =>
      have later := ih (quoting.step style char)
      rw [ofTextFrom]
      generalize ofTextFrom style (quoting.step style char) rest = runs at later
      by_cases other : ∀ run ∈ runs.head?,
          run.isLiteral ≠ (quoting.inLiteral || (quoting.step style char).inLiteral)
      · rw [extend_other other]
        exact later.begun other rfl
      · cases runs with
        | nil => simp at other
        | cons run more =>
            have same : run.isLiteral
                = (quoting.inLiteral || (quoting.step style char).inLiteral) := by
              simpa using other
            rw [extend_same same]
            exact later.joined same rfl

/-- The runs of a statement are a partition of it. -/
theorem partition_ofText (style : LiteralStyle) (statement : Text)
    : Partition style .code (ofText style statement) :=
  partition_ofTextFrom style .code statement

theorem Partition.beside (partition : Partition style quoting (run :: next :: runs))
    : quoting.after style run.text = .code ∧ next.isLiteral ≠ run.isLiteral
      ∧ Partition style .code (next :: runs) := by
  cases partition with
  | more filled keeps ends other later => exact ⟨ends, other, later⟩

-----------------------------------------------------------------------------------------
-- Texts from their runs
-----------------------------------------------------------------------------------------

/-- A text of one kind joins what comes after it, character by character. -/
theorem ofTextFrom_append {kind : Bool} {text : Text}
    (keeps : Quoting.Keeps style kind quoting text) (rest : Text)
    : ofTextFrom style quoting (text ++ rest)
      = text.foldr (extend kind) (ofTextFrom style (quoting.after style text) rest) := by
  induction text generalizing quoting with
  | nil => rfl
  | cons char more ih =>
      rw [List.cons_append, ofTextFrom, List.foldr_cons, ← keeps.1]
      exact congrArg _ ((ih keeps.2).trans (by rw [← keeps.1]; rfl))

/-- Before a run of the other kind it is a run of its own. -/
theorem foldr_extend {kind : Bool} {text : Text} (filled : text ≠ [])
    (other : ∀ run ∈ runs.head?, run.isLiteral ≠ kind)
    : text.foldr (extend kind) runs = ofKind kind text :: runs := by
  induction text with
  | nil => exact absurd rfl filled
  | cons char rest ih =>
      rw [List.foldr_cons]
      cases rest with
      | nil => exact extend_other other char
      | cons second more =>
          rw [ih (by simp), extend_same (isLiteral_ofKind _ _), text_ofKind]

/-- What is partitioned has these runs. By induction over the runs. -/
theorem Partition.ofTextFrom_eq (partition : Partition style quoting runs)
    : ofTextFrom style quoting (runs.flatMap text) = runs := by
  induction partition with
  | nil => rfl
  | @last quoting run filled keeps =>
      rw [List.flatMap_singleton, ← List.append_nil run.text, ofTextFrom_append keeps, ofTextFrom,
        foldr_extend filled (by simp), ofKind_text]
  | @more quoting run next runs filled keeps ends other later ih =>
      have differ : ∀ found ∈ (next :: runs).head?, found.isLiteral ≠ run.isLiteral := by
        rintro found ⟨⟩
        exact other
      rw [List.flatMap_cons, ofTextFrom_append keeps, ends, ih, foldr_extend filled differ,
        ofKind_text]

-----------------------------------------------------------------------------------------
-- Changes to code
-----------------------------------------------------------------------------------------

/-- Runs with their code changed. -/
def withCode (change : Text → Text) : Segment → Segment
  | code text => code (change text)
  | literal text => literal text

@[simp] theorem isLiteral_withCode (change : Text → Text) (run : Segment)
    : (run.withCode change).isLiteral = run.isLiteral := by
  cases run <;> rfl

variable {change : Text → Text}

/-- Runs with their code changed, without those of which nothing is left. -/
def revised (change : Text → Text) (runs : List Segment) : List Segment :=
  (runs.map (withCode change)).filter fun run => !run.text.isEmpty

theorem revised_cons_of_filled (filled : (run.withCode change).text ≠ [])
    : revised change (run :: runs) = run.withCode change :: revised change runs := by
  rw [revised, List.map_cons, List.filter_cons_of_pos (by simpa using filled)]
  rfl

theorem revised_cons_of_empty (empty : (run.withCode change).text = [])
    : revised change (run :: runs) = revised change runs := by
  rw [revised, List.map_cons, List.filter_cons_of_neg (by simp [empty])]
  rfl

theorem flatMap_revised (change : Text → Text) (runs : List Segment)
    : (revised change runs).flatMap text = (runs.map (withCode change)).flatMap text := by
  induction runs with
  | nil => rfl
  | cons run runs ih =>
      rw [List.map_cons, List.flatMap_cons]
      by_cases empty : (run.withCode change).text = []
      · rw [revised_cons_of_empty empty, ih, empty, List.nil_append]
      · rw [revised_cons_of_filled empty, List.flatMap_cons, ih]

/-- A change to the code of runs that keeps to code, leaves the place after it as it is, and leaves
something of the code between two literals.
-/
structure KeepsPlaces (style : LiteralStyle) (change : Text → Text) (runs : List Segment)
    : Prop where
  keeps : ∀ text, .code text ∈ runs → Quoting.Keeps style false .code (change text)
  ends
    : ∀ text, .code text ∈ runs → Quoting.code.after style text = .code →
        Quoting.code.after style (change text) = .code
  filled
    : ∀ before first text second after,
        runs = before ++ .literal first :: .code text :: .literal second :: after →
          change text ≠ []

theorem KeepsPlaces.later (keeps : KeepsPlaces style change (run :: runs))
    : KeepsPlaces style change runs where
  keeps text member := keeps.keeps text (List.mem_cons_of_mem _ member)
  ends text member := keeps.ends text (List.mem_cons_of_mem _ member)
  filled before first text second after split :=
    keeps.filled (run :: before) first text second after (by rw [split, List.cons_append])

theorem KeepsPlaces.run_keeps (keeps : KeepsPlaces style change runs) (member : run ∈ runs)
    (before : Quoting.Keeps style run.isLiteral .code run.text)
    : Quoting.Keeps style (run.withCode change).isLiteral .code (run.withCode change).text := by
  cases run with
  | literal text => exact before
  | code text => exact keeps.keeps text member

theorem KeepsPlaces.run_ends (keeps : KeepsPlaces style change runs) (member : run ∈ runs)
    (ends : Quoting.code.after style run.text = .code)
    : Quoting.code.after style (run.withCode change).text = .code := by
  cases run with
  | literal text => exact ends
  | code text => exact keeps.ends text member ends

/-- Code after a literal of which nothing is left is the last run. -/
theorem KeepsPlaces.eq_nil (keeps : KeepsPlaces style change (run :: next :: runs))
    (partition : Partition style .code (next :: runs)) (other : next.isLiteral ≠ run.isLiteral)
    (empty : (next.withCode change).text = [])
    : runs = [] := by
  cases runs with
  | nil => rfl
  | cons second more =>
      obtain ⟨-, differs, -⟩ := partition.beside
      cases next with
      | literal text => exact absurd empty partition.filled
      | code text =>
          cases run with
          | code first => exact absurd rfl other
          | literal first =>
              cases second with
              | code text => exact absurd rfl differs
              | literal second => exact absurd empty (keeps.filled [] first text second more rfl)

/-- What is left of the runs is a partition again. By induction over the runs: a run of code of
which nothing is left is the first or the last, so no two literals come together.
-/
theorem Partition.revised (partition : Partition style quoting runs) (start : quoting = .code)
    (keepsPlaces : KeepsPlaces style change runs)
    : Partition style quoting (revised change runs) := by
  induction partition with
  | nil => exact .nil _
  | @last quoting run filled keeps =>
      subst start
      by_cases empty : (run.withCode change).text = []
      · rw [revised_cons_of_empty empty]
        exact .nil _
      · rw [revised_cons_of_filled empty]
        exact .last empty (keepsPlaces.run_keeps (by simp) keeps)
  | @more quoting run next runs filled keeps ends other later ih =>
      subst start
      have left := ih rfl keepsPlaces.later
      have keepsRun := keepsPlaces.run_keeps (by simp) keeps
      have endsRun := keepsPlaces.run_ends (by simp) ends
      by_cases empty : (run.withCode change).text = []
      · rw [revised_cons_of_empty empty]
        exact left
      rw [revised_cons_of_filled empty]
      by_cases nextEmpty : (next.withCode change).text = []
      · obtain rfl := keepsPlaces.eq_nil later other nextEmpty
        rw [revised_cons_of_empty nextEmpty]
        exact .last empty keepsRun
      · rw [revised_cons_of_filled nextEmpty] at left ⊢
        exact .more empty keepsRun endsRun (by simpa using other) left

/-- The runs of a statement with its code changed are its runs with their code changed. -/
theorem KeepsPlaces.ofText_onCode {statement : Text}
    (keeps : KeepsPlaces style change (ofText style statement))
    : ofText style (onCode style change statement)
      = Segment.revised change (ofText style statement) := by
  have partition := (partition_ofText style statement).revised rfl keeps
  have rebuilt : onCode style change statement
      = (Segment.revised change (ofText style statement)).flatMap text := by
    rw [flatMap_revised, List.flatMap_map]
    refine List.flatMap_congr fun run _ => ?_
    cases run <;> rfl
  rw [rebuilt]
  exact partition.ofTextFrom_eq

/-- Changes to code that leave the place after it as it is. -/
structure LeavesPlaces (style : LiteralStyle) (change : Text → Text) : Prop where
  filled : ∀ {text}, text ≠ [] → change text ≠ []
  keeps
    : ∀ {text}, Quoting.Keeps style false .code text →
        Quoting.Keeps style false .code (change text)
  ends
    : ∀ {text}, Quoting.Keeps style false .code text →
        Quoting.code.after style text = .code → Quoting.code.after style (change text) = .code

theorem LeavesPlaces.keepsPlaces (leaves : LeavesPlaces style change)
    (partition : Partition style .code runs)
    : KeepsPlaces style change runs where
  keeps text member := leaves.keeps (partition.keeps_of_mem rfl member)
  ends text member := leaves.ends (partition.keeps_of_mem rfl member)
  filled before first text second after split :=
    by
    have member : .code text ∈ runs := by simp [split]
    exact leaves.filled (partition.filled_of_mem member)

/-- If something is left of every run, the runs stay one by one. -/
theorem LeavesPlaces.revised_eq_map (leaves : LeavesPlaces style change)
    (filled : ∀ run ∈ runs, run.text ≠ [])
    : revised change runs = runs.map (withCode change) := by
  refine List.filter_eq_self.mpr fun run member => ?_
  obtain ⟨before, inRuns, rfl⟩ := List.mem_map.mp member
  have left : (before.withCode change).text ≠ [] := by
    cases before with
    | literal text => exact filled _ inRuns
    | code text => exact leaves.filled (filled _ inRuns)
  simpa using left

/-- A change that leaves the places after code as they are leaves the literals where they are. -/
theorem LeavesPlaces.ofText_onCode (leaves : LeavesPlaces style change) (statement : Text)
    : ofText style (onCode style change statement)
      = (ofText style statement).map (withCode change) := by
  have partition := partition_ofText style statement
  rw [(leaves.keepsPlaces partition).ofText_onCode]
  exact leaves.revised_eq_map fun run => partition.filled_of_mem

end Segment

end DumpTransfer.Sql
