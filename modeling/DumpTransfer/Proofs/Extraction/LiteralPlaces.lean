import DumpTransfer.Proofs.Extraction.LineEnds
import DumpTransfer.Proofs.Extraction.Steps
import DumpTransfer.Proofs.Sql.LiteralValues

/-! Where lines end inside literals, as the machine tells it and as the runs of the line tell it.
The machine knows of no names between quotes, so that a single quote in such a name is the one
thing that makes them differ.
-/

namespace DumpTransfer

open Sql (Quoting Segment)

-----------------------------------------------------------------------------------------
-- Code after a place
-----------------------------------------------------------------------------------------

/-- The code of what follows a place, where literals have backslash escapes. -/
def Sql.Quoting.codeFrom (quoting : Quoting) (text : Text) : Text :=
  (Segment.ofTextFrom .backslash quoting text).flatMap fun
    | .code text => text
    | .literal _ => []

theorem Sql.Quoting.codeFrom_cons (quoting : Quoting) (char : Char) (rest : Text)
    : quoting.codeFrom (char :: rest)
      = if quoting.inLiteral || (quoting.step .backslash char).inLiteral then
          (quoting.step .backslash char).codeFrom rest
        else char :: (quoting.step .backslash char).codeFrom rest := by
  rw [codeFrom, codeFrom, Segment.ofTextFrom]
  generalize Segment.ofTextFrom .backslash (quoting.step .backslash char) rest = runs
  cases quoting.inLiteral || (quoting.step .backslash char).inLiteral <;>
    rcases runs with _ | ⟨text | text, rest⟩ <;> rfl

namespace Dump

-----------------------------------------------------------------------------------------
-- Two ways of telling where literals are
-----------------------------------------------------------------------------------------

/-- What the machine makes of a text after a place. It takes a name for code. -/
def literalAfter : Quoting → Text → Bool
  | .code, text | .name _, text => endsInLiteral false text
  | .literal, text => endsInLiteral true text
  | .escaped, text => endsInLiteral true ('\\' :: text)

theorem literalAfter_nil (quoting : Quoting)
    : literalAfter quoting [] = quoting.inLiteral := by
  cases quoting <;> simp [literalAfter, endsInLiteral, Quoting.inLiteral]

/-- The machine keeps in step with the runs at all characters but a single quote in a name. -/
theorem literalAfter_cons {quoting : Quoting} {char : Char}
    (told : ∀ close, quoting = .name close → char ≠ '\'') (rest : Text)
    : literalAfter quoting (char :: rest)
      = literalAfter (quoting.step .backslash char) rest := by
  cases quoting with
  | code =>
      rw [literalAfter, endsInLiteral_outside, Quoting.step]
      by_cases quote : char = '\''
      · simp [quote, literalAfter]
      · rw [if_neg quote, decide_eq_false quote]
        split <;> rfl
  | name close =>
      rw [literalAfter, endsInLiteral_outside, decide_eq_false (told close rfl), Quoting.step]
      split <;> rfl
  | escaped => exact endsInLiteral_escaped char rest
  | literal =>
      by_cases backslash : char = '\\'
      · subst backslash
        rfl
      · rw [literalAfter, endsInLiteral_inside backslash]
        by_cases quote : char = '\''
        · simp [quote, Quoting.step, literalAfter]
        · simp [quote, backslash, Quoting.step, literalAfter]

/-- Both ways agree all along a text after a place. -/
def AgreeAlong (quoting : Quoting) (text : Text) : Prop :=
  ∀ before, before <+: text →
    literalAfter quoting before = (quoting.after .backslash before).inLiteral

theorem agreeAlong_nil (quoting : Quoting)
    : AgreeAlong quoting [] := by
  intro before within
  obtain rfl := List.prefix_nil.mp within
  exact literalAfter_nil quoting

theorem agreeAlong_cons {quoting : Quoting} {char : Char}
    (told : ∀ close, quoting = .name close → char ≠ '\'') (rest : Text)
    : AgreeAlong quoting (char :: rest)
      ↔ AgreeAlong (quoting.step .backslash char) rest := by
  constructor
  · intro agree before within
    rw [← literalAfter_cons told]
    exact agree _ ((List.prefix_cons_inj char).mpr within)
  · intro agree before within
    rcases List.prefix_cons_iff.mp within with rfl | ⟨shorter, rfl, shorterWithin⟩
    · exact literalAfter_nil quoting
    · rw [literalAfter_cons told]
      exact agree shorter shorterWithin

/-- A single quote in a name opens a literal for the machine alone. -/
theorem not_agreeAlong_name (close : Char) (rest : Text)
    : ¬ AgreeAlong (.name close) ('\'' :: rest) := by
  intro agree
  have same := agree ['\''] (List.prefix_append ['\''] rest)
  have opened : literalAfter (.name close) ['\''] = true := by
    rw [literalAfter, endsInLiteral_outside, endsInLiteral_nil]
    rfl
  have outside := Quoting.inLiteral_step_name .backslash close '\''
  exact absurd (opened.symm.trans (same.trans outside)) (by decide)

/-- By induction over the text, in step with the place. -/
theorem agreeAlong_iff (quoting : Quoting) (text : Text)
    : AgreeAlong quoting text ↔ '\'' ∉ quoting.codeFrom text := by
  induction text generalizing quoting with
  | nil => exact ⟨fun _ => List.not_mem_nil, fun _ => agreeAlong_nil quoting⟩
  | cons char rest ih =>
      rw [Quoting.codeFrom_cons]
      by_cases told : ∀ close, quoting = .name close → char ≠ '\''
      · rw [agreeAlong_cons told, ih]
        split
        · rfl
        · rename_i outside
          have plain : char ≠ '\'' := by
            rintro rfl
            cases quoting with
            | name close => exact told close rfl rfl
            | code | literal | escaped => exact outside rfl
          simp [plain.symm]
      · simp only [not_forall, not_not] at told
        obtain ⟨close, rfl, rfl⟩ := told
        have outside : (Quoting.name close).inLiteral = false := rfl
        rw [outside, Quoting.inLiteral_step_name, Bool.or_false, if_neg Bool.false_ne_true]
        simp [not_agreeAlong_name]

-----------------------------------------------------------------------------------------
-- Statements of one line
-----------------------------------------------------------------------------------------

/-- Whether a line is a whole statement by its runs: it ends in a semicolon, and neither a literal
nor a name is open.
-/
def isWholeByRuns (line : Text) : Bool :=
  endsStatement line && Quoting.code.after .backslash line = .code

namespace Extraction

/-- The machine with no statement open, where a database has some content. -/
def atRest (state : Extraction) (content : Database) : Extraction :=
  { state with position := .inside content .nothing }

variable {state : Extraction} {content : Database} {table line : Text}
  (rows : Marker.ofLine line = .rows table)

include rows

/-- No line with rows is taken for a boundary. -/
theorem feed_rows {pending : Pending} (position : state.position = .inside content pending)
    : state.feed line
      = (.more, { state with
          position := .inside (readLine content pending line).1
            (readLine content pending line).2 }) := by
  have noBoundary : boundary? line = none := boundary?_of_ofLine_ne fun name boundary => by
    rw [rows] at boundary
    cases boundary
  have plain : boundaryIn? state.position line = none := by
    rw [boundaryIn?, noBoundary, ite_self]
  rw [feed_of_none plain, position]
  rfl

variable (ended : endsStatement line = true) (outside : endsInLiteral false line = false)

include ended outside

/-- A line with rows that ends the statement it begins is recorded, or counted if its table is not
known.
-/
theorem feed_rows_begun (position : state.position = .inside content .nothing)
    : state.feed line
      = (.more, state.atRest
          (if content.hasTable table then content.recordData table line
            else content.addOrphan table)) := by
  have read : readLine content .nothing line
      = (if content.hasTable table then content.recordData table line
          else content.addOrphan table, .nothing) := by
    rw [readLine, readMarker, rows]
    dsimp only
    split
    · rw [readData, outside, ended]
      rfl
    · rfl
  rw [feed_rows rows position, read]
  rfl

/-- So is a statement that such a line goes on with and ends. -/
theorem feed_rows_continued {other text : Text}
    (position : state.position = .inside content (.data other text false))
    : state.feed line
      = (.more, state.atRest (content.recordData other (text ++ '\n' :: line))) := by
  have read : readLine content (.data other text false) line
      = (content.recordData other (text ++ '\n' :: line), .nothing) := by
    rw [readLine, readData, outside, ended]
    rfl
  rw [feed_rows rows position, read]
  rfl

end Extraction

/-- The machine tells all along a line where literals are just as its runs do, if and only if no
name between quotes holds a single quote. Then a line with rows that is whole by its runs ends its
statement for the machine as well.
-/
theorem literals_told_alike_iff (line : Text)
    : ((∀ before, before <+: line → endsInLiteral false before = Segment.endsOpen before)
        ↔ '\'' ∉ Segment.codeOf .backslash line)
      ∧ ('\'' ∉ Segment.codeOf .backslash line →
          endsInLiteral false line = Segment.endsOpen line
          ∧ ∀ (state : Extraction) (content : Database) (table : Text),
              Marker.ofLine line = .rows table → isWholeByRuns line = true →
              (state.position = .inside content .nothing →
                state.feed line
                  = (.more, state.atRest
                      (if content.hasTable table then content.recordData table line
                        else content.addOrphan table)))
              ∧ ∀ other text,
                  state.position = .inside content (.data other text false) →
                  state.feed line
                    = (.more, state.atRest
                        (content.recordData other (text ++ '\n' :: line)))) := by
  have alike
      : (∀ before, before <+: line → endsInLiteral false before = Segment.endsOpen before)
        ↔ '\'' ∉ Segment.codeOf .backslash line := by
    simp only [Segment.endsOpen_eq]
    exact agreeAlong_iff .code line
  refine ⟨alike, fun unquoted => ?_⟩
  have same := alike.mpr unquoted line List.prefix_rfl
  refine ⟨same, fun state content table rows whole => ?_⟩
  obtain ⟨ended, last⟩
      : endsStatement line = true ∧ Quoting.code.after .backslash line = .code := by
    simpa [isWholeByRuns] using whole
  have outside : endsInLiteral false line = false := by
    rw [same, Segment.endsOpen_eq, last]
    rfl
  exact ⟨Extraction.feed_rows_begun rows ended outside,
    fun other text => Extraction.feed_rows_continued rows ended outside⟩

/-- A line with rows of a table whose name holds a single quote. -/
def apostropheLine : Text :=
  "INSERT INTO `it's` VALUES (1);"

/-- The machine for the database of that table, after the definition of the table. -/
def apostropheState : Extraction :=
  (["USE `a`;", "CREATE TABLE `it's` (x int);"] : List Text).foldl
    (fun state line => (state.feed line).2) (.start ["a"])

/-- The quote in the name opens a literal for the machine. The line is whole by its runs, and yet
the machine waits for more lines of the statement.
-/
theorem quoted_name_opens_literal
    : (¬ ∀ line : Text, endsInLiteral false line = Segment.endsOpen line)
      ∧ ¬ ∀ (state : Extraction) (content : Database) (table line : Text),
          state.position = .inside content .nothing → Marker.ofLine line = .rows table →
          isWholeByRuns line = true → (state.feed line).2.position.pending = .nothing := by
  refine ⟨fun claimed => ?_, fun claimed => ?_⟩
  · exact absurd (claimed apostropheLine) (by decide +kernel)
  · let table : Table := { name := "it's", definition := some "CREATE TABLE `it's` (x int);" }
    have position
        : apostropheState.position = .inside { name := "a", tables := [table] } .nothing := by
      decide +kernel
    have rows : Marker.ofLine apostropheLine = .rows "it's" := by decide +kernel
    have whole : isWholeByRuns apostropheLine = true := by decide +kernel
    exact absurd (claimed _ _ _ _ position rows whole) (by decide +kernel)

end Dump

end DumpTransfer
