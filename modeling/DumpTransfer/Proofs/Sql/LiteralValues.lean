import DumpTransfer.Proofs.Sql.StandardForm

/-! What literals with backslash escapes stand for, and that putting a statement into standard form
keeps it. The runs of the statement are matched one by one: code stays, a literal becomes the
standard literal of its value, and one that does not end still does not end.
-/

namespace DumpTransfer.Sql

-----------------------------------------------------------------------------------------
-- Reading
-----------------------------------------------------------------------------------------

namespace Literal

/-- What has been read of a literal. -/
structure Reading where
  value : Text
  /-- Whether the literal ends, with a quote. -/
  isClosed : Bool
  deriving DecidableEq, Repr

/-- What a backslash and the character after it stand for. The null character stands for nothing,
and the wildcards of patterns stand for themselves with the backslash.
-/
def escapeValue (char : Char) : Text :=
  match char with
  | 'n' => ['\n']
  | 'r' => ['\r']
  | 't' => ['\t']
  | 'Z' => ['\x1a']
  | '0' => []
  | '%' | '_' => ['\\', char]
  | other => [other]

namespace Reading

/-- The same with more read before it. -/
def after (before : Text) (reading : Reading) : Reading :=
  { reading with value := before ++ reading.value }

/-- What follows the first quote of the standard literal for what has been read. -/
def rest (reading : Reading) : Text :=
  Text.doubling '\'' reading.value ++ if reading.isClosed then ['\''] else []

end Reading

/-- Reads what follows the first quote of a literal with backslash escapes. A quote written twice
is one quote, and a quote by itself has to be the end. A backslash with nothing after it stands for
itself.
-/
def readRest? : Text → Option Reading
  | [] => some ⟨[], false⟩
  | ['\''] => some ⟨[], true⟩
  | '\'' :: '\'' :: rest => (readRest? rest).map (.after ['\''])
  | '\'' :: _ => none
  | ['\\'] => some ⟨['\\'], false⟩
  | '\\' :: char :: rest => (readRest? rest).map (.after (escapeValue char))
  | char :: rest => (readRest? rest).map (.after [char])

/-- Reads a literal with backslash escapes. -/
def read? : Text → Option Reading
  | '\'' :: rest => readRest? rest
  | _ => none

end Literal

-----------------------------------------------------------------------------------------
-- Outside literals
-----------------------------------------------------------------------------------------

namespace Quoting

/-- Nothing in a name opens a literal. -/
theorem inLiteral_step_name (style : LiteralStyle) (close char : Char)
    : ((name close).step style char).inLiteral = false := by
  rw [step]
  split <;> rfl

section

variable {quoting : Quoting} (outside : quoting.inLiteral = false)

include outside

/-- A backslash means something in literals alone. -/
theorem step_style (char : Char)
    : quoting.step .standard char = quoting.step .backslash char := by
  cases quoting with
  | code => rfl
  | name close => rfl
  | literal => cases outside
  | escaped => cases outside

theorem opens_literal {style : LiteralStyle} {char : Char}
    (opens : (quoting.step style char).inLiteral = true)
    : quoting = .code ∧ char = '\'' := by
  cases quoting with
  | literal => cases outside
  | escaped => cases outside
  | name close => exact absurd opens (by simp [inLiteral_step_name])
  | code =>
      refine ⟨rfl, Decidable.byContradiction fun other => ?_⟩
      rw [step, if_neg other] at opens
      split at opens <;> cases opens

end

end Quoting

theorem Literal.normalizeFrom_outside {quoting : Quoting} (outside : quoting.inLiteral = false)
    (char : Char) (rest : Text)
    : normalizeFrom quoting (char :: rest)
      = char :: normalizeFrom (quoting.step .backslash char) rest := by
  cases quoting with
  | code => rfl
  | name close => rfl
  | literal => cases outside
  | escaped => cases outside

theorem Segment.ofTextFrom_outside {style : LiteralStyle} {quoting next : Quoting} {char : Char}
    (outside : quoting.inLiteral = false) (step : quoting.step style char = next)
    (stays : next.inLiteral = false) (rest : Text)
    : ofTextFrom style quoting (char :: rest) = extend false char (ofTextFrom style next rest) := by
  rw [ofTextFrom, step, outside, stays]
  rfl

-----------------------------------------------------------------------------------------
-- Runs
-----------------------------------------------------------------------------------------

namespace Segment

open Literal

/-- Runs with backslash escapes, and runs that mean the same in standard form. A literal that ends
is matched by one that ends, in which the quotes of the value are written twice. Only the last run
can be a literal that does not end.
-/
inductive Renders : List Segment → List Segment → Prop where
  | nil : Renders [] []
  | code (text : Text) {rest others : List Segment} (later : Renders rest others)
      : Renders (.code text :: rest) (.code text :: others)
  | closed {text value : Text} {rest others : List Segment}
      (reads : read? text = some ⟨value, true⟩) (later : Renders rest others)
      : Renders (.literal text :: rest) (.literal (literalText value) :: others)
  | unterminated {text value : Text} (reads : read? text = some ⟨value, false⟩)
      : Renders [.literal text] [.literal ('\'' :: Text.doubling '\'' value)]

/-- The literal that runs begin with. -/
def leadingLiteral : List Segment → Text
  | .literal text :: _ => text
  | .code _ :: _ | [] => []

/-- The runs after the literal that they begin with. -/
def dropLiteral : List Segment → List Segment
  | .literal _ :: rest => rest
  | runs => runs

theorem extend_true (char : Char) (runs : List Segment)
    : extend true char runs = .literal (char :: leadingLiteral runs) :: dropLiteral runs := by
  rcases runs with _ | ⟨text | text, rest⟩ <;> rfl

/-- Code characters before matching runs go to matching runs of code. -/
theorem Renders.extend {runs others : List Segment} (renders : Renders runs others) (char : Char)
    : Renders (Segment.extend false char runs) (Segment.extend false char others) := by
  cases renders with
  | nil => exact .code [char] .nil
  | code text later => exact .code (char :: text) later
  | closed reads later => exact .code [char] (.closed reads later)
  | unterminated reads => exact .code [char] (.unterminated reads)

end Segment

namespace Literal

open Segment

-----------------------------------------------------------------------------------------
-- Characters of literals
-----------------------------------------------------------------------------------------

theorem escapeForm_eq (char : Char)
    : escapeForm char = Text.doubling '\'' (escapeValue char) := by
  unfold escapeForm escapeValue
  split <;> first
    | rfl
    | skip
  rename_i noQuote _ _ _ _ _ _ _
  split <;> simp_all [Text.doubling]

theorem Reading.rest_after (before : Text) (reading : Reading)
    : (reading.after before).rest = Text.doubling '\'' before ++ reading.rest := by
  rw [Reading.after, Reading.rest, Reading.rest, Text.doubling_append, List.append_assoc]

theorem exists_of_read? {text : Text} {reading : Reading} (reads : read? text = some reading)
    : ∃ more, text = '\'' :: more ∧ readRest? more = some reading := by
  unfold read? at reads
  split at reads
  · exact ⟨_, rfl, reads⟩
  · cases reads

theorem readRest?_plain {char : Char} (noQuote : char ≠ '\'') (noBackslash : char ≠ '\\')
    (rest : Text)
    : readRest? (char :: rest) = (readRest? rest).map (.after [char]) := by
  rw [readRest?] <;> simp [noQuote, noBackslash]

theorem readRest?_escaped (char : Char) (rest : Text)
    : readRest? (['\\'] ++ char :: rest) = (readRest? rest).map (.after (escapeValue char)) :=
  rfl

/-- The standard form of a value stays in the literal. -/
theorem ofTextFrom_doubling (value rest : Text)
    : leadingLiteral (ofTextFrom .standard .literal (Text.doubling '\'' value ++ rest))
        = Text.doubling '\'' value ++ leadingLiteral (ofTextFrom .standard .literal rest)
      ∧ dropLiteral (ofTextFrom .standard .literal (Text.doubling '\'' value ++ rest))
        = dropLiteral (ofTextFrom .standard .literal rest) := by
  induction value with
  | nil => exact ⟨rfl, rfl⟩
  | cons char more ih =>
      obtain ⟨leads, drops⟩ := ih
      by_cases quote : char = '\''
      · subst quote
        rw [Text.doubling, if_pos rfl, List.cons_append, List.cons_append, ofTextFrom, ofTextFrom]
        change leadingLiteral (extend true _ (extend true _ (ofTextFrom .standard .literal _))) = _
          ∧ dropLiteral (extend true _ (extend true _ (ofTextFrom .standard .literal _))) = _
        rw [extend_true, extend_true]
        exact ⟨congrArg ('\'' :: '\'' :: ·) leads, drops⟩
      · have stays : Quoting.literal.step .standard char = .literal := by
          simp [Quoting.step, quote]
        rw [Text.doubling, if_neg quote, List.cons_append, ofTextFrom, stays]
        change leadingLiteral (extend true _ _) = _ ∧ dropLiteral (extend true _ _) = _
        rw [extend_true]
        exact ⟨congrArg (char :: ·) leads, drops⟩

-----------------------------------------------------------------------------------------
-- Statements
-----------------------------------------------------------------------------------------

/-- Runs of what follows a place in a literal, with what has been begun right before it, and runs
of the standard form. The literal reads alike in both, and if it does not end, nothing follows.
-/
structure Continues (begun : Text) (runs others : List Segment) (reading : Reading) : Prop where
  reads : readRest? (begun ++ leadingLiteral runs) = some reading
  leads : leadingLiteral others = reading.rest
  later : Renders (dropLiteral runs) (dropLiteral others)
  last : reading.isClosed = false → dropLiteral runs = [] ∧ dropLiteral others = []

/-- What a literal goes on with makes, with its first quote, a literal that is matched. -/
theorem Continues.opened {runs others : List Segment} {reading : Reading}
    (continues : Continues [] runs others reading)
    : Renders (extend true '\'' runs) (extend true '\'' others) := by
  obtain ⟨reads, leads, later, last⟩ := continues
  rw [extend_true, extend_true, leads]
  obtain ⟨value, isClosed⟩ := reading
  cases isClosed with
  | true => exact .closed reads later
  | false =>
      obtain ⟨nothing, same⟩ := last rfl
      rw [nothing, same, Reading.rest, if_neg Bool.false_ne_true, List.append_nil]
      exact .unterminated reads

/-- What goes on after a backslash goes on with the backslash as well. -/
theorem Continues.unescaped {runs others : List Segment} {reading : Reading}
    (continues : Continues ['\\'] runs others reading)
    : Continues [] (extend true '\\' runs) others reading := by
  rw [extend_true]
  exact ⟨continues.reads, continues.leads, continues.later, continues.last⟩

/-- A quote in a literal ends it, unless the runs after it begin with a literal: then the two quotes
are one in the value.
-/
theorem continues_quote {runs others : List Segment} (renders : Renders runs others)
    : ∃ reading, Continues [] (extend true '\'' runs) (extend true '\'' others) reading := by
  rw [extend_true, extend_true]
  cases renders with
  | nil => exact ⟨⟨[], true⟩, rfl, rfl, .nil, nofun⟩
  | code text later => exact ⟨⟨[], true⟩, rfl, rfl, .code text later, nofun⟩
  | @closed text value rest others reads later =>
      obtain ⟨more, rfl, read⟩ := exists_of_read? reads
      refine ⟨.after ['\''] ⟨value, true⟩, ?_, ?_, later, nofun⟩
      · exact congrArg (Option.map _) read
      · rw [Reading.rest_after]
        rfl
  | @unterminated text value reads =>
      obtain ⟨more, rfl, read⟩ := exists_of_read? reads
      refine ⟨.after ['\''] ⟨value, false⟩, ?_, ?_, .nil, fun _ => ⟨rfl, rfl⟩⟩
      · exact congrArg (Option.map _) read
      · rw [Reading.rest_after, Reading.rest, if_neg Bool.false_ne_true, List.append_nil]
        rfl

/-- A character, with what has been begun right before it, goes before the rest of a literal when
both together stand for a value.
-/
theorem continues_after (begun : Text) {value text : Text} {runs : List Segment} (char : Char)
    (continues : ∃ reading, Continues [] runs (ofTextFrom .standard .literal text) reading)
    (reads : ∀ rest, readRest? (begun ++ char :: rest) = (readRest? rest).map (.after value))
    : ∃ reading,
        Continues begun (extend true char runs)
          (ofTextFrom .standard .literal (Text.doubling '\'' value ++ text)) reading := by
  obtain ⟨reading, read, leads, later, last⟩ := continues
  obtain ⟨before, drops⟩ := ofTextFrom_doubling value text
  rw [extend_true]
  refine ⟨reading.after value, ?_, ?_, ?_, ?_⟩
  · exact (reads _).trans (congrArg (Option.map _) read)
  · rw [before, leads, Reading.rest_after]
  · rw [drops]
    exact later
  · rw [drops]
    exact last

/-- What is shown of the text after a place, by the kind of the place. -/
structure Kept (text : Text) : Prop where
  outside
    : ∀ quoting, quoting.inLiteral = false →
        Renders (ofTextFrom .backslash quoting text)
          (ofTextFrom .standard quoting (normalizeFrom quoting text))
  inside
    : ∃ reading,
        Continues [] (ofTextFrom .backslash .literal text)
          (ofTextFrom .standard .literal (normalizeFrom .literal text)) reading
  escaped
    : text ≠ [] →
        ∃ reading,
          Continues ['\\'] (ofTextFrom .backslash .escaped text)
            (ofTextFrom .standard .literal (normalizeFrom .escaped text)) reading

/-- By induction over the text, in step with the place. A place right after a backslash is followed
together with the backslash.
-/
theorem kept (text : Text)
    : Kept text := by
  induction text with
  | nil =>
      refine ⟨fun quoting _ => ?_, ⟨⟨[], false⟩, rfl, rfl, .nil, fun _ => ⟨rfl, rfl⟩⟩, ?_⟩
      · cases quoting <;> exact .nil
      · exact fun isThere => absurd rfl isThere
  | cons char rest ih =>
      refine ⟨fun quoting outside => ?_, ?_, fun _ => ?_⟩
      · rw [normalizeFrom_outside outside]
        have same := Quoting.step_style outside char
        cases next : (quoting.step .backslash char).inLiteral with
        | false =>
            rw [ofTextFrom_outside outside rfl next, ofTextFrom_outside outside same next]
            exact (ih.outside _ next).extend char
        | true =>
            obtain ⟨rfl, rfl⟩ := Quoting.opens_literal outside next
            obtain ⟨reading, continues⟩ := ih.inside
            exact continues.opened
      · by_cases quote : char = '\''
        · subst quote
          exact continues_quote (ih.outside .code rfl)
        · by_cases backslash : char = '\\'
          · subst backslash
            cases rest with
            | nil => exact ⟨⟨['\\'], false⟩, rfl, rfl, .nil, fun _ => ⟨rfl, rfl⟩⟩
            | cons second more =>
                obtain ⟨reading, continues⟩ := ih.escaped (List.cons_ne_nil second more)
                exact ⟨reading, continues.unescaped⟩
          · have stays : Quoting.literal.step .backslash char = .literal := by
              simp [Quoting.step, quote, backslash]
            have plain : Text.doubling '\'' [char] = [char] := by simp [Text.doubling, quote]
            have longer :=
              continues_after [] char ih.inside (readRest?_plain quote backslash)
            rw [plain] at longer
            rw [normalizeFrom_literal_plain quote backslash, ofTextFrom, stays]
            exact longer
      · rw [normalizeFrom, escapeForm_eq, ofTextFrom]
        exact continues_after ['\\'] char ih.inside (readRest?_escaped char)

/-- Putting a statement into standard form changes how its literals are written and nothing else:
the runs are matched one by one, with the same code, and with the same values in the literals. The
form is reached in one pass, which changes nothing where there is no backslash.
-/
theorem normalize_keeps_values (statement : Text)
    : Renders (ofText .backslash statement) (ofText .standard (normalize statement))
      ∧ normalize statement = normalizeFrom .code statement
      ∧ ('\\' ∉ statement → normalizeFrom .code statement = statement) := by
  refine ⟨?_, normalize_eq statement, fun absent => ?_⟩
  · rw [normalize_eq]
    exact (kept statement).outside .code rfl
  · exact normalizeFrom_of_no_backslash (by simp) absent

end Literal

-----------------------------------------------------------------------------------------
-- Where a statement ends
-----------------------------------------------------------------------------------------

/-- The place after a text that begins at a place. -/
def Quoting.after (style : LiteralStyle) (quoting : Quoting) (text : Text) : Quoting :=
  text.foldl (step style) quoting

namespace Segment

open Literal

/-- Whether a run is a literal with backslash escapes that does not end. -/
def isOpen : Segment → Bool
  | .code _ => false
  | .literal text => (read? text).any fun reading => !reading.isClosed

/-- Whether the last run of a text with backslash escapes is a literal that does not end. -/
def endsOpen (text : Text) : Bool :=
  (ofText .backslash text).getLast?.any isOpen

/-- Literals that end alike make runs that end alike. -/
theorem getLast?_any_isOpen {first second : Segment} (same : first.isOpen = second.isOpen)
    (later : List Segment)
    : (first :: later).getLast?.any isOpen = (second :: later).getLast?.any isOpen := by
  cases later with
  | nil => exact same
  | cons third more => rw [List.getLast?_cons_cons, List.getLast?_cons_cons]

/-- What stands for a value in a literal does not decide whether the literal ends. -/
theorem isOpen_after (piece : Text) {value rest : Text}
    (reads : readRest? (piece ++ rest) = (readRest? rest).map (.after value))
    : isOpen (.literal ('\'' :: (piece ++ rest))) = isOpen (.literal ('\'' :: rest)) := by
  change (readRest? (piece ++ rest)).any _ = (readRest? rest).any _
  rw [reads, Option.any_map]
  rfl

theorem endsOpen_extend_false (char : Char) (runs : List Segment)
    : (extend false char runs).getLast?.any isOpen = runs.getLast?.any isOpen := by
  rcases runs with _ | ⟨text | text, rest⟩
  · rfl
  · have same : isOpen (.code (char :: text)) = isOpen (.code text) := rfl
    exact getLast?_any_isOpen same rest
  · exact congrArg (Option.any isOpen) List.getLast?_cons_cons

/-- Two quotes in a literal leave open whether it ends to what comes after them. -/
theorem endsOpen_quotes {runs others : List Segment} (renders : Renders runs others)
    : (extend true '\'' (extend true '\'' runs)).getLast?.any isOpen
      = runs.getLast?.any isOpen := by
  cases renders with
  | nil => rfl
  | code text later => exact congrArg (Option.any isOpen) List.getLast?_cons_cons
  | closed reads later =>
      obtain ⟨more, rfl, _⟩ := exists_of_read? reads
      exact getLast?_any_isOpen (isOpen_after ['\'', '\''] rfl) _
  | unterminated reads =>
      obtain ⟨more, rfl, _⟩ := exists_of_read? reads
      exact getLast?_any_isOpen (isOpen_after ['\'', '\''] rfl) []

/-- How the runs of a text after a place end, by the kind of the place. In a literal they are taken
together with what begins it.
-/
structure EndsLikePlace (text : Text) : Prop where
  outside
    : ∀ quoting, quoting.inLiteral = false →
        (ofTextFrom .backslash quoting text).getLast?.any isOpen
          = (quoting.after .backslash text).inLiteral
  inside
    : (extend true '\'' (ofTextFrom .backslash .literal text)).getLast?.any isOpen
      = (Quoting.literal.after .backslash text).inLiteral
  escaped
    : (extend true '\'' (extend true '\\' (ofTextFrom .backslash .escaped text))).getLast?.any
          isOpen
        = (Quoting.escaped.after .backslash text).inLiteral

/-- By induction over the text, in step with the place. -/
theorem endsLikePlace (text : Text)
    : EndsLikePlace text := by
  induction text with
  | nil => exact ⟨fun quoting outside => outside.symm, rfl, rfl⟩
  | cons char rest ih =>
      refine ⟨fun quoting outside => ?_, ?_, ?_⟩
      · rw [Quoting.after, List.foldl_cons]
        cases next : (quoting.step .backslash char).inLiteral with
        | false =>
            rw [ofTextFrom_outside outside rfl next, endsOpen_extend_false]
            exact ih.outside _ next
        | true =>
            obtain ⟨rfl, rfl⟩ := Quoting.opens_literal outside next
            exact ih.inside
      · rw [Quoting.after, List.foldl_cons]
        by_cases quote : char = '\''
        · subst quote
          exact (endsOpen_quotes ((kept rest).outside .code rfl)).trans (ih.outside .code rfl)
        · by_cases backslash : char = '\\'
          · subst backslash
            exact ih.escaped
          · have stays : Quoting.literal.step .backslash char = .literal := by
              simp [Quoting.step, quote, backslash]
            have reads := readRest?_plain quote backslash
            rw [ofTextFrom, stays]
            refine Eq.trans ?_ ih.inside
            change (extend true _ (extend true _ _)).getLast?.any _ = _
            rw [extend_true, extend_true, extend_true]
            exact getLast?_any_isOpen (isOpen_after [char] (reads _)) _
      · rw [Quoting.after, List.foldl_cons]
        refine Eq.trans ?_ ih.inside
        change (extend true _ (extend true _ (extend true _ _))).getLast?.any _ = _
        rw [extend_true, extend_true, extend_true, extend_true]
        exact getLast?_any_isOpen (isOpen_after ['\\', char] rfl) _

/-- The last run is a literal that does not end if and only if the text ends in one. -/
theorem endsOpen_eq (text : Text)
    : endsOpen text = (Quoting.code.after .backslash text).inLiteral :=
  (endsLikePlace text).outside .code rfl

end Segment

end DumpTransfer.Sql
