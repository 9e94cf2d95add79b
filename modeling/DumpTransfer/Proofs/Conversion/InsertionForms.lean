import DumpTransfer.Proofs.Conversion.CharacterSets
import DumpTransfer.Proofs.Sql.StandardForm

/-! Insertions adapted by patterns. Their literals come into standard form, the name of the table
gets double quotes, and hexadecimal numbers become literals; nothing else changes.
-/

namespace DumpTransfer.Conversion.Insertion

open Sql

-----------------------------------------------------------------------------------------
-- Values in standard form
-----------------------------------------------------------------------------------------

/-- A value in standard form: code, and the value of the literal after it if there is one. -/
structure Form where
  code : Text
  literal? : Option Text := none

def Form.text (form : Form) : Text :=
  form.code ++
    match form.literal? with
    | none => []
    | some value => literalText value

/-- The standard form of a value. -/
def Value.form : Value → Form
  | null word => ⟨word.text, none⟩
  | number text _ => ⟨text, none⟩
  | hexNumber digits _ _ => ⟨"0x" ++ digits, none⟩
  | hexLiteral mark digits _ => ⟨mark.text, some digits⟩
  | bitLiteral mark digits _ => ⟨mark.text, some digits⟩
  | string none marks => ⟨[], some (marks.flatMap Mark.value)⟩
  | string (some introducer) marks =>
      ⟨introducer.text ++ introducer.after.text, some (marks.flatMap Mark.value)⟩

/-- The form of a value in which hexadecimal numbers are literals. -/
def Value.byteForm : Value → Form
  | hexNumber digits _ _ => ⟨[], some ('\\' :: 'x' :: digits)⟩
  | value => value.form

theorem unquoted_of {text : Text} (accepts : Char → Bool)
    (all : ∀ char ∈ text, accepts char = true)
    (noQuotes : accepts '\'' = false ∧ accepts '`' = false ∧ accepts '"' = false)
    : Unquoted text := by
  obtain ⟨single, back, double⟩ := noQuotes
  intro char member
  have accepted := all char member
  refine ⟨?_, ?_, ?_⟩ <;> rintro rfl
  · exact Bool.noConfusion (accepted.symm.trans single)
  · exact Bool.noConfusion (accepted.symm.trans back)
  · exact Bool.noConfusion (accepted.symm.trans double)

/-- The code of values is of these characters. -/
def isCodePart (char : Char) : Bool :=
  char.isAlpha || isNumberPart char || ByPattern.isHexDigit char
    || isSetPart char.toUpper || isSpace char

theorem Value.parts_code (value : Value)
    : ∀ char ∈ value.form.code, isCodePart char = true := by
  have letters {text : Text} (letters : ∀ char ∈ text, char.isAlpha = true)
      : ∀ char ∈ text, isCodePart char = true :=
    fun char member => by simp [isCodePart, letters char member]
  cases value with
  | null word => exact letters word.isAlpha
  | number text isNumber => exact fun char member => by simp [isCodePart, isNumber char member]
  | hexNumber digits isThere isHex =>
      intro char member
      rw [Value.form, Text.ofString_eq] at member
      rcases List.mem_append.mp member with member | member
      · have inMarker : ("0x".toList).all isCodePart = true := by decide
        exact List.all_eq_true.mp inMarker char member
      · simp [isCodePart, isHex char member]
  | hexLiteral mark digits isHex => exact letters mark.isAlpha
  | bitLiteral mark digits isBinary => exact letters mark.isAlpha
  | string introducer marks =>
      cases introducer with
      | none => exact fun char member => absurd member (by simp [form])
      | some introducer =>
          intro char member
          rcases List.mem_append.mp member with member | member
          · simp [isCodePart, introducer.parts char member]
          · simp [isCodePart, introducer.after.isSpace char member]

/-- No quote stands in the code of a value. -/
theorem Value.unquoted_code (value : Value)
    : Unquoted value.form.code :=
  unquoted_of isCodePart value.parts_code (by decide)

-----------------------------------------------------------------------------------------
-- Literals
-----------------------------------------------------------------------------------------

/-- What is escaped comes into standard form by its value. -/
theorem escapeForm_eq (char : Char)
    : Literal.escapeForm char = Text.doubling '\'' (Mark.escaped char).value := by
  unfold Literal.escapeForm
  split <;> try rfl
  rename_i quote newline carriage tab substitute null percent underscore
  have same : (Mark.escaped char).value = [char] := by
    unfold Mark.value
    split <;> simp_all
  rw [same, Text.doubling_of_not_mem]
  simpa using Ne.symm quote

theorem normalizeFrom_literal_text {text : Text}
    (plain : ∀ char ∈ text, char ≠ '\'' ∧ char ≠ '\\') (rest : Text)
    : Literal.normalizeFrom .literal (text ++ rest)
      = text ++ Literal.normalizeFrom .literal rest := by
  induction text with
  | nil => rfl
  | cons char more ih =>
      obtain ⟨noQuote, noBackslash⟩ := plain char (by simp)
      rw [List.cons_append, Literal.normalizeFrom_literal_plain noQuote noBackslash,
        ih fun other member => plain other (by simp [member]), List.cons_append]

/-- Marks come into standard form by their values, up to the end of their literal. -/
theorem normalizeFrom_marks (marks : List Mark) (rest : Text)
    : Literal.normalizeFrom .literal (marks.flatMap Mark.source ++ '\'' :: rest)
      = Text.doubling '\'' (marks.flatMap Mark.value)
        ++ '\'' :: Literal.normalizeFrom .code rest := by
  induction marks with
  | nil => rfl
  | cons mark more ih =>
      rw [List.flatMap_cons, List.flatMap_cons, Text.doubling_append, List.append_assoc,
        List.append_assoc, ← ih]
      cases mark with
      | plain char isPlain =>
          rw [normalizeFrom_literal_text (by simpa [Mark.source] using isPlain)]
          simp [Mark.source, Mark.value, Text.doubling, isPlain.1]
      | escaped char =>
          rw [← escapeForm_eq]
          exact Literal.normalizeFrom_literal_escaped char _
      | quotes => rfl

theorem literalText_of_plain {text : Text}
    (plain : ∀ char ∈ text, char ≠ '\'' ∧ char ≠ '\\')
    : literalText text = '\'' :: text ++ ['\''] := by
  rw [literalText, Text.doubling_of_not_mem fun member => (plain _ member).1 rfl]

/-- A literal without quotes and backslashes is in standard form. -/
theorem normalizeFrom_digits {digits : Text}
    (plain : ∀ char ∈ digits, char ≠ '\'' ∧ char ≠ '\\') (rest : Text)
    : Literal.normalizeFrom .code ('\'' :: (digits ++ '\'' :: rest))
      = literalText digits ++ Literal.normalizeFrom .code rest := by
  have inside := normalizeFrom_literal_text plain ('\'' :: rest)
  rw [Literal.normalizeFrom_literal_quote] at inside
  rw [literalText_of_plain plain, Literal.normalizeFrom_code_quote, inside]
  simp

theorem normalizeFrom_string (marks : List Mark) (rest : Text)
    : Literal.normalizeFrom .code ('\'' :: (marks.flatMap Mark.source ++ '\'' :: rest))
      = literalText (marks.flatMap Mark.value) ++ Literal.normalizeFrom .code rest := by
  rw [Literal.normalizeFrom_code_quote, normalizeFrom_marks]
  simp [literalText]

theorem plain_of {text : Text} (accepts : Char → Bool)
    (all : ∀ char ∈ text, accepts char = true)
    (noMarks : accepts '\'' = false ∧ accepts '\\' = false)
    : ∀ char ∈ text, char ≠ '\'' ∧ char ≠ '\\' := by
  intro char member
  have accepted := all char member
  refine ⟨?_, ?_⟩ <;> rintro rfl
  · exact Bool.noConfusion (accepted.symm.trans noMarks.1)
  · exact Bool.noConfusion (accepted.symm.trans noMarks.2)

/-- Every value comes into standard form, wherever it stands. -/
theorem normalizeFrom_value (value : Value) (rest : Text)
    : Literal.normalizeFrom .code (value.source ++ rest)
      = value.form.text ++ Literal.normalizeFrom .code rest := by
  have code := Literal.normalizeFrom_unquoted value.unquoted_code
  cases value with
  | null word => simpa [Value.source, Form.text, Value.form] using code rest
  | number text isNumber => simpa [Value.source, Form.text, Value.form] using code rest
  | hexNumber digits isThere isHex =>
      simpa [Value.source, Form.text, Value.form] using code rest
  | hexLiteral spelling digits isHex =>
      have plain := plain_of ByPattern.isHexDigit isHex (by decide)
      have literal := normalizeFrom_digits plain rest
      have both := code ('\'' :: (digits ++ '\'' :: rest))
      rw [literal] at both
      simpa [Value.source, Form.text, Value.form] using both
  | bitLiteral spelling digits isBinary =>
      have plain := plain_of (fun char => char = '0' || char = '1')
        (fun char member => by simpa using isBinary char member) (by decide)
      have literal := normalizeFrom_digits plain rest
      have both := code ('\'' :: (digits ++ '\'' :: rest))
      rw [literal] at both
      simpa [Value.source, Form.text, Value.form] using both
  | string introducer marks =>
      have literal := normalizeFrom_string marks rest
      have both := code ('\'' :: (marks.flatMap Mark.source ++ '\'' :: rest))
      rw [literal] at both
      cases introducer with
      | none => simpa [Value.source, Form.text, Value.form] using both
      | some introducer => simpa [Value.source, Form.text, Value.form] using both

-----------------------------------------------------------------------------------------
-- Rules for code
-----------------------------------------------------------------------------------------

theorem not_quote_of_over {rest : Text} (isOver : Over rest)
    : rest.head? ≠ some '\'' :=
  fun same => Bool.noConfusion (isOver '\'' same)

/-- Code at the start of a text is over when the text is. -/
theorem over_of_begins {rest later : Text} (isOver : Over rest) (begins : Segment.Begins rest later)
    : Over later :=
  fun char member => isOver char (begins char member).1

/-- A rule for code changes the code of a form that it splits from what comes after it. -/
theorem onCode_form {change : Text → Text} (empty : change [] = []) {form : Form}
    (unquoted : Unquoted form.code) {code : Text}
    (splits : ∀ later, Over later → change (form.code ++ later) = code ++ change later)
    {rest : Text} (isOver : Over rest)
    : Segment.onCode .standard change (form.text ++ rest)
      = (Form.mk code form.literal?).text ++ Segment.onCode .standard change rest := by
  have isCode := Segment.isCode_unquoted unquoted
  obtain ⟨formCode, literal⟩ := form
  cases literal with
  | none =>
      simpa [Form.text] using Segment.onCode_code empty isCode fun later begins =>
        splits later (over_of_begins isOver begins)
  | some value =>
      have both
          : Segment.onCode .standard change (formCode ++ (literalText value ++ rest))
            = code ++ Segment.onCode .standard change (literalText value ++ rest) := by
        refine Segment.onCode_code empty isCode fun later begins => ?_
        refine splits later fun char member => ?_
        obtain ⟨same, notQuote⟩ := begins char member
        exact absurd (Option.some.inj same).symm notQuote
      rw [Segment.onCode_literal change value (not_quote_of_over isOver)] at both
      simpa [Form.text] using both

/-- A rule for code keeps signs when it keeps them one by one. -/
theorem onCode_signs {change : Text → Text} (empty : change [] = [])
    (keeps : ∀ char later, isSign char = true → change (char :: later) = char :: change later)
    {text : Text} (signs : Signs text) (rest : Text)
    : Segment.onCode .standard change (text ++ rest)
      = text ++ Segment.onCode .standard change rest := by
  have unquoted : Unquoted text := unquoted_of isSign signs (by decide)
  refine Segment.onCode_code empty (Segment.isCode_unquoted unquoted) fun later _ => ?_
  clear unquoted
  induction text with
  | nil => rfl
  | cons char more ih =>
      rw [List.cons_append, keeps char _ (signs char (by simp)),
        ih fun other member => signs other (by simp [member]), List.cons_append]

-----------------------------------------------------------------------------------------
-- Quoted names
-----------------------------------------------------------------------------------------

/-- Quoting anew. -/
abbrev requoted (statement : Text) : Text :=
  Segment.onCode .standard (QuotedName.requoteFrom .plain) statement

theorem requoted_unquoted {text : Text} (unquoted : Unquoted text) (rest : Text)
    : requoted (text ++ rest) = text ++ requoted rest :=
  Segment.onCode_code rfl (Segment.isCode_unquoted unquoted) fun later _ =>
    QuotedName.requoteFrom_unquoted unquoted later

theorem requoted_form {form : Form} (unquoted : Unquoted form.code) {rest : Text}
    (isOver : Over rest)
    : requoted (form.text ++ rest) = form.text ++ requoted rest :=
  onCode_form rfl unquoted (fun later _ => QuotedName.requoteFrom_unquoted unquoted later) isOver

theorem requoted_backName (name : Text) {rest : Text} (stop : rest.head? ≠ some '`')
    : requoted (nameText '`' name ++ rest) = nameText '"' name ++ requoted rest := by
  refine Segment.onCode_code rfl (Segment.isCode_name (Or.inl rfl) name) fun later begins => ?_
  exact QuotedName.requoteFrom_backName name fun back => stop (begins '`' back).1

theorem requoted_doubleName (name : Text) (rest : Text)
    : requoted (nameText '"' name ++ rest) = nameText '"' name ++ requoted rest :=
  Segment.onCode_code rfl (Segment.isCode_name (Or.inr rfl) name) fun later _ =>
    QuotedName.requoteFrom_doubleName name later

-----------------------------------------------------------------------------------------
-- Hexadecimal numbers
-----------------------------------------------------------------------------------------

/-- Adapting words. -/
abbrev worded (statement : Text) : Text :=
  Segment.onCode .standard ByPattern.adaptWords statement

theorem breaks_of_over {rest : Text} (isOver : Over rest)
    : ByPattern.Breaks rest :=
  fun char member => isWord_of_isSign (isOver char member)

theorem worded_signs {text : Text} (signs : Signs text) (rest : Text)
    : worded (text ++ rest) = text ++ worded rest :=
  onCode_signs rfl (fun _ later sign => ByPattern.adaptWords_sign (isWord_of_isSign sign) later)
    signs rest

theorem worded_form {form : Form} (unquoted : Unquoted form.code)
    (stays : ByPattern.adaptWords form.code = form.code) {rest : Text} (isOver : Over rest)
    : worded (form.text ++ rest) = form.text ++ worded rest := by
  refine onCode_form rfl unquoted (fun later isOver => ?_) isOver
  rw [ByPattern.adaptWords_append _ (breaks_of_over isOver), stays]

theorem adaptWords_singleton (char : Char)
    : ByPattern.adaptWords [char] = [char] := by
  have stays : ByPattern.adaptWord [char] = [char] := by
    unfold ByPattern.adaptWord ByPattern.isHexNumber
    split
    · rename_i number
      cases number
    · rfl
  rw [ByPattern.adaptWords, ByPattern.adaptWordsAfter]
  split
  · exact stays
  · rfl

/-- The code of a value that is no hexadecimal number stays as it is. -/
theorem adaptWords_code {value : Value} (other : value.byteForm = value.form)
    : ByPattern.adaptWords value.form.code = value.form.code := by
  have noX {text : Text} (accepts : Char → Bool) (all : ∀ char ∈ text, accepts char = true)
      (without : accepts 'x' = false)
      : ByPattern.adaptWords text = text :=
    ByPattern.adaptWords_of_no_x fun member =>
      Bool.noConfusion ((all 'x' member).symm.trans without)
  cases value with
  | null word => exact noX isPlain (word.plain (by decide)) rfl
  | number text isNumber => exact noX isNumberPart isNumber rfl
  | hexNumber digits isThere isHex => cases congrArg Form.literal? other
  | hexLiteral spelling digits isHex =>
      obtain ⟨char, same, _⟩ := spelling.exists_single rfl
      rw [Value.form, same]
      exact adaptWords_singleton char
  | bitLiteral spelling digits isBinary => exact noX isPlain (spelling.plain (by decide)) rfl
  | string introducer marks =>
      cases introducer with
      | none => rfl
      | some introducer =>
          refine noX (fun char => isSetPart char.toUpper || isPlain char)
            (fun char member => ?_) rfl
          rcases List.mem_append.mp member with member | member
          · simp [introducer.parts char member]
          · simp [introducer.after.plain char member]

theorem adaptWord_number {digits : Text} (isThere : digits ≠ [])
    (isHex : ∀ char ∈ digits, ByPattern.isHexDigit char = true)
    : ByPattern.adaptWord ('0' :: 'x' :: digits) = literalText ('\\' :: 'x' :: digits) := by
  have isNumber : ByPattern.isHexNumber ('0' :: 'x' :: digits) = true := by
    obtain ⟨first, others, rfl⟩ := List.exists_cons_of_ne_nil isThere
    exact List.all_eq_true.mpr isHex
  have noQuote : '\'' ∉ '\\' :: 'x' :: digits := by
    have noDigit : '\'' ∉ digits := fun member => Bool.noConfusion (isHex _ member)
    simpa using noDigit
  rw [ByPattern.adaptWord, if_pos isNumber, literalText, Text.doubling_of_not_mem noQuote,
    Text.ofString_eq, Text.ofString_eq]
  rfl

/-- A hexadecimal number becomes a literal where it ends. -/
theorem adaptWords_number {digits : Text} (isThere : digits ≠ [])
    (isHex : ∀ char ∈ digits, ByPattern.isHexDigit char = true) {later : Text}
    (isOver : Over later)
    : ByPattern.adaptWords (Text.ofString "0x" ++ digits ++ later)
      = literalText ('\\' :: 'x' :: digits) ++ ByPattern.adaptWords later := by
  have inMarker : (['0', 'x'] : Text).all Alphabet.isWord = true := by decide
  have all : ∀ char ∈ ['0', 'x'] ++ digits, Alphabet.isWord char = true := by
    intro char member
    rcases List.mem_append.mp member with member | member
    · exact List.all_eq_true.mp inMarker char member
    · exact ByPattern.isWord_of_isHexDigit (isHex char member)
  rw [← adaptWord_number isThere isHex, Text.ofString_eq]
  exact ByPattern.adaptWords_word all (breaks_of_over isOver)

theorem worded_value (value : Value) {rest : Text} (isOver : Over rest)
    : worded (value.form.text ++ rest) = value.byteForm.text ++ worded rest := by
  have others (other : value.byteForm = value.form)
      : worded (value.form.text ++ rest) = value.byteForm.text ++ worded rest := by
    rw [other]
    exact worded_form value.unquoted_code (adaptWords_code other) isOver
  cases value with
  | null word => exact others rfl
  | number text isNumber => exact others rfl
  | hexNumber digits isThere isHex =>
      refine (onCode_form rfl (Value.unquoted_code _) (fun later isOver =>
        adaptWords_number isThere isHex isOver) isOver).trans ?_
      simp [Form.text, Value.form, Value.byteForm]
  | hexLiteral spelling digits isHex => exact others rfl
  | bitLiteral spelling digits isBinary => exact others rfl
  | string introducer marks => exact others rfl

-----------------------------------------------------------------------------------------
-- Null characters
-----------------------------------------------------------------------------------------

/-- A text without its null characters. -/
def kept (text : Text) : Text :=
  text.filter (· ≠ '\x00')

theorem kept_append (first second : Text)
    : kept (first ++ second) = kept first ++ kept second :=
  List.filter_append first second

theorem kept_of_not_mem {text : Text} (absent : '\x00' ∉ text)
    : kept text = text := by
  refine List.filter_eq_self.mpr fun char member => ?_
  simpa using fun same : char = '\x00' => absent (same ▸ member)

theorem kept_append_of_not_mem {text : Text} (absent : '\x00' ∉ text) (rest : Text)
    : kept (text ++ rest) = text ++ kept rest := by
  rw [kept_append, kept_of_not_mem absent]

theorem kept_literalText (value : Text)
    : kept (literalText value) = literalText (kept value) := by
  have quote : kept ['\''] = ['\''] := rfl
  rw [literalText, ← List.singleton_append, List.append_assoc, kept_append, kept_append, quote,
    kept, Text.filter_doubling rfl]
  rfl

theorem kept_nameText (name : Text)
    : kept (nameText '"' name) = nameText '"' (kept name) := by
  have quote : kept ['"'] = ['"'] := rfl
  rw [nameText, ← List.singleton_append, List.append_assoc, kept_append, kept_append, quote, kept,
    Text.filter_doubling rfl]
  rfl

/-- The form of a value in the warehouse, which keeps no null characters. -/
def Value.storedForm (value : Value) : Form :=
  ⟨value.byteForm.code, value.byteForm.literal?.map kept⟩

theorem Value.parts_byteCode (value : Value)
    : ∀ char ∈ value.byteForm.code, isCodePart char = true := by
  cases value with
  | hexNumber digits isThere isHex => exact fun char member => absurd member (by simp [byteForm])
  | null _ | number _ _ | hexLiteral _ _ _ | bitLiteral _ _ _ | string _ _ =>
      exact Value.parts_code _

theorem Value.unquoted_byteCode (value : Value)
    : Unquoted value.byteForm.code :=
  unquoted_of isCodePart value.parts_byteCode (by decide)

theorem kept_value (value : Value) (rest : Text)
    : kept (value.byteForm.text ++ rest) = value.storedForm.text ++ kept rest := by
  have noNull : '\x00' ∉ value.byteForm.code := fun member =>
    Bool.noConfusion (value.parts_byteCode _ member)
  rw [Form.text, Form.text, Value.storedForm]
  cases value.byteForm.literal? with
  | none =>
      dsimp only [Option.map_none]
      rw [List.append_nil, kept_append_of_not_mem noNull]
  | some literal =>
      dsimp only [Option.map_some]
      rw [List.append_assoc, List.append_assoc, kept_append_of_not_mem noNull, kept_append,
        kept_literalText]

end DumpTransfer.Conversion.Insertion
