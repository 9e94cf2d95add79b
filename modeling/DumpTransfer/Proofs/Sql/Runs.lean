import DumpTransfer.Sql.Literal
import DumpTransfer.Sql.QuotedName
import Mathlib.Data.List.Basic
import Mathlib.Data.List.TakeWhile

/-! The runs of a statement piece by piece. Code without quotes and whole names between quotes
join the run of code before a text, and a whole literal is a run of its own, so that a rule for
runs can be followed along the pieces that a statement is made of.
-/

namespace DumpTransfer

/-- What stops a run is where it goes on in a longer text. -/
theorem Text.span_append {accepts : Char → Bool} (text : Text) {rest : Text}
    (stop : ∀ char ∈ rest.head?, accepts char = false)
    : (text ++ rest).takeWhile accepts = text.takeWhile accepts
      ∧ (text ++ rest).dropWhile accepts = text.dropWhile accepts ++ rest := by
  induction text with
  | nil =>
      cases rest with
      | nil => exact ⟨rfl, rfl⟩
      | cons char more => simp [stop char rfl]
  | cons char more ih =>
      rw [List.cons_append, List.takeWhile_cons, List.takeWhile_cons, List.dropWhile_cons,
        List.dropWhile_cons]
      split
      · exact ⟨congrArg _ ih.1, ih.2⟩
      · exact ⟨rfl, rfl⟩

/-- A run of accepted characters ends where one comes that is not accepted. -/
theorem Text.span_run {accepts : Char → Bool} {run rest : Text}
    (all : ∀ char ∈ run, accepts char = true)
    (stop : ∀ char ∈ rest.head?, accepts char = false)
    : (run ++ rest).takeWhile accepts = run ∧ (run ++ rest).dropWhile accepts = rest := by
  obtain ⟨taken, dropped⟩ := span_append run stop
  rw [taken, dropped, List.takeWhile_eq_self_iff.mpr all, List.dropWhile_eq_nil_iff.mpr all]
  exact ⟨rfl, rfl⟩

namespace Sql

-----------------------------------------------------------------------------------------
-- Runs of a text
-----------------------------------------------------------------------------------------

/-- A text without quotes of any kind. -/
def Unquoted (text : Text) : Prop :=
  ∀ char ∈ text, char ≠ '\'' ∧ char ≠ '`' ∧ char ≠ '"'

/-- A name between two quotes of a kind, in which that quote is written twice. -/
def nameText (quote : Char) (name : Text) : Text :=
  quote :: Text.doubling quote name ++ [quote]

/-- A text between single quotes, in which a single quote is written twice. -/
def literalText (value : Text) : Text :=
  '\'' :: Text.doubling '\'' value ++ ['\'']

theorem nameText_append (quote : Char) (name rest : Text)
    : nameText quote name ++ rest = quote :: (Text.doubling quote name ++ quote :: rest) := by
  simp [nameText]

theorem literalText_append (value rest : Text)
    : literalText value ++ rest = '\'' :: (Text.doubling '\'' value ++ '\'' :: rest) := by
  simp [literalText]

namespace Segment

/-- Runs with a text joined to the code that they begin with. -/
def afterCode (text : Text) (runs : List Segment) : List Segment :=
  text.foldr (extend false) runs

/-- The code that runs begin with. -/
def leadingCode : List Segment → Text
  | code text :: _ => text
  | literal _ :: _ | [] => []

/-- The runs after the code that they begin with. -/
def dropCode : List Segment → List Segment
  | code _ :: rest => rest
  | runs => runs

@[simp] theorem leadingCode_extend (char : Char) (runs : List Segment)
    : leadingCode (extend false char runs) = char :: leadingCode runs := by
  rcases runs with _ | ⟨text | text, rest⟩ <;> rfl

@[simp] theorem dropCode_extend (char : Char) (runs : List Segment)
    : dropCode (extend false char runs) = dropCode runs := by
  rcases runs with _ | ⟨text | text, rest⟩ <;> rfl

theorem leadingCode_afterCode (text : Text) (runs : List Segment)
    : leadingCode (afterCode text runs) = text ++ leadingCode runs := by
  induction text with
  | nil => rfl
  | cons char rest ih => exact (leadingCode_extend _ _).trans (congrArg (char :: ·) ih)

theorem dropCode_afterCode (text : Text) (runs : List Segment)
    : dropCode (afterCode text runs) = dropCode runs := by
  induction text with
  | nil => rfl
  | cons char rest ih => exact (dropCode_extend _ _).trans ih

theorem afterCode_append (first second : Text) (runs : List Segment)
    : afterCode (first ++ second) runs = afterCode first (afterCode second runs) :=
  List.foldr_append

/-- A text that joins the run of code before any other. -/
def IsCode (text : Text) : Prop :=
  ∀ (style : LiteralStyle) (rest : Text),
    ofText style (text ++ rest) = afterCode text (ofText style rest)

theorem IsCode.append {first second : Text} (firstCode : IsCode first)
    (secondCode : IsCode second)
    : IsCode (first ++ second) := by
  intro style rest
  rw [List.append_assoc, firstCode, secondCode, afterCode_append]

theorem isCode_unquoted {text : Text} (unquoted : Unquoted text)
    : IsCode text := by
  intro style rest
  induction text with
  | nil => rfl
  | cons char more ih =>
      obtain ⟨single, back, double⟩ := unquoted char (by simp)
      have next : Quoting.code.step style char = .code := by
        simp [Quoting.step, single, back, double]
      have later := ih fun other member => unquoted other (by simp [member])
      rw [List.cons_append, ofText, ofTextFrom, next]
      exact congrArg (extend false char) later

/-- A quote written twice leaves a name and goes back to it, so that a name stays in its run. -/
theorem isCode_name {quote : Char} (kind : quote = '`' ∨ quote = '"') (name : Text)
    : IsCode (nameText quote name) := by
  intro style rest
  have opens : Quoting.code.step style quote = .name quote := by
    rcases kind with rfl | rfl <;> rfl
  have closes : (Quoting.name quote).step style quote = .code := by simp [Quoting.step]
  have inside (name : Text)
      : ofTextFrom style (.name quote) (Text.doubling quote name ++ quote :: rest)
        = afterCode (Text.doubling quote name ++ [quote]) (ofText style rest) := by
    induction name with
    | nil =>
        change ofTextFrom style (.name quote) (quote :: rest) = _
        rw [ofTextFrom, closes]
        rfl
    | cons char more ih =>
        by_cases same : char = quote
        · subst same
          rw [Text.doubling, if_pos rfl, List.cons_append, List.cons_append, ofTextFrom, closes,
            ofTextFrom, opens, ih]
          rfl
        · have stays : (Quoting.name quote).step style char = .name quote := by
            simp [Quoting.step, same]
          rw [Text.doubling, if_neg same, List.cons_append, ofTextFrom, stays, ih]
          rfl
  rw [nameText_append, ofText, ofTextFrom, opens, inside]
  rfl

/-- Runs that do not begin with a literal are kept apart from one before them. -/
theorem extend_true_of_code {style : LiteralStyle} {rest : Text} (stop : rest.head? ≠ some '\'')
    : extend true '\'' (ofText style rest) = literal ['\''] :: ofText style rest := by
  cases rest with
  | nil => rfl
  | cons char more =>
      have other : char ≠ '\'' := fun same => stop (congrArg some same)
      have outside : (Quoting.code.step style char).inLiteral = false := by
        simp only [Quoting.step, other, if_false]
        split <;> rfl
      rw [ofText, ofTextFrom, outside]
      rcases ofTextFrom style (Quoting.code.step style char) more with
        _ | ⟨text | text, runs⟩ <;> rfl

/-- A literal is a run when no other quote comes right after it. -/
theorem ofText_literal (value : Text) {rest : Text} (stop : rest.head? ≠ some '\'')
    : ofText .standard (literalText value ++ rest)
      = literal (literalText value) :: ofText .standard rest := by
  have inside (value : Text)
      : ofTextFrom .standard .literal (Text.doubling '\'' value ++ '\'' :: rest)
        = literal (Text.doubling '\'' value ++ ['\'']) :: ofText .standard rest := by
    induction value with
    | nil => exact extend_true_of_code stop
    | cons char more ih =>
        by_cases same : char = '\''
        · subst same
          rw [Text.doubling, if_pos rfl, List.cons_append, List.cons_append, ofTextFrom,
            ofTextFrom]
          change extend true _ (extend true _ (ofTextFrom .standard .literal _)) = _
          rw [ih]
          rfl
        · have stays : Quoting.literal.step .standard char = .literal := by
            simp [Quoting.step, same]
          rw [Text.doubling, if_neg same, List.cons_append, ofTextFrom, stays, ih]
          rfl
  rw [literalText_append, ofText, ofTextFrom]
  change extend true _ (ofTextFrom .standard .literal _) = _
  rw [inside]
  rfl

-----------------------------------------------------------------------------------------
-- Rules for code
-----------------------------------------------------------------------------------------

variable {style : LiteralStyle} {change : Text → Text}

/-- Code may be what a text begins with: it begins like the text, and not with a literal. -/
def Begins (rest code : Text) : Prop :=
  ∀ char ∈ code.head?, rest.head? = some char ∧ char ≠ '\''

theorem begins_nil (rest : Text)
    : Begins rest [] := by
  simp [Begins]

theorem begins_leadingCode (style : LiteralStyle) (rest : Text)
    : Begins rest (leadingCode (ofText style rest)) := by
  cases rest with
  | nil => exact begins_nil []
  | cons first more =>
      intro char member
      rw [ofText, ofTextFrom] at member
      cases literal : (Quoting.code.step style first).inLiteral with
      | true =>
          rw [literal] at member
          rcases runs : ofTextFrom style (Quoting.code.step style first) more
              with _ | ⟨text | text, rest⟩ <;> rw [runs] at member <;> cases member
      | false =>
          have notQuote : first ≠ '\'' := by
            rintro rfl
            cases literal
          rw [literal] at member
          obtain rfl : first = char := by simpa [Quoting.inLiteral] using member
          exact ⟨rfl, notQuote⟩

/-- The text of runs after a rule for code. -/
def changed (change : Text → Text) (runs : List Segment) : Text :=
  runs.flatMap fun
    | code text => change text
    | literal text => text

/-- Runs whose code a rule leaves alone make up their text. -/
theorem changed_of_unchanged {runs : List Segment}
    (stays : ∀ text, code text ∈ runs → change text = text)
    : changed change runs = runs.flatMap text := by
  refine List.flatMap_congr fun run member => ?_
  cases run with
  | literal text => rfl
  | code text => exact stays text member

theorem changed_eq (empty : change [] = []) (runs : List Segment)
    : changed change runs = change (leadingCode runs) ++ changed change (dropCode runs) := by
  rcases runs with _ | ⟨text | text, rest⟩
  · simp [changed, leadingCode, dropCode, empty]
  · rfl
  · simp [leadingCode, dropCode, empty]

/-- A rule for code changes a piece of code by itself when it splits it from whatever code may
come after it.
-/
theorem onCode_code (empty : change [] = []) {text after rest : Text} (isCode : IsCode text)
    (splits : ∀ later, Begins rest later → change (text ++ later) = after ++ change later)
    : onCode style change (text ++ rest) = after ++ onCode style change rest := by
  change changed change (ofText style (text ++ rest)) = _ ++ changed change (ofText style rest)
  rw [isCode, changed_eq empty, changed_eq empty (ofText style rest), leadingCode_afterCode,
    dropCode_afterCode, splits _ (begins_leadingCode style rest), List.append_assoc]

/-- A rule for code leaves a literal alone. -/
theorem onCode_literal (change : Text → Text) (value : Text) {rest : Text}
    (stop : rest.head? ≠ some '\'')
    : onCode .standard change (literalText value ++ rest)
      = literalText value ++ onCode .standard change rest := by
  rw [onCode, ofText_literal value stop]
  rfl

end Segment

end Sql

end DumpTransfer
