import DumpTransfer.Proofs.Conversion.InsertionByPattern

/-! Literals of insertions in the form of the warehouse. A literal is adapted together with the
code before it, so the pass over the pieces carries along how what has been written ends.
-/

namespace DumpTransfer.Conversion.Insertion

open Sql
open Completion (Written dropWord? dropCharacterSetName characterSetNames isNamePart)

-----------------------------------------------------------------------------------------
-- Writing literals
-----------------------------------------------------------------------------------------

theorem literalText_injective {first second : Text} (same : literalText first = literalText second)
    : first = second := by
  have inside := List.append_cancel_right (List.cons.inj same).2
  rw [← Text.halving_doubling '\'' first, inside, Text.halving_doubling]

/-- The literals that stand for no date are those of the strings that do. -/
theorem absentDates_contains (value : Text)
    : Completion.absentDates.contains (literalText value) = isAbsentDate value := by
  have date : Text.ofString "'0000-00-00'" = literalText (Text.ofString "0000-00-00") := by
    simp only [Text.ofString_eq]
    rfl
  have time
      : Text.ofString "'0000-00-00 00:00:00'"
        = literalText (Text.ofString "0000-00-00 00:00:00") := by
    simp only [Text.ofString_eq]
    rfl
  rw [Completion.absentDates, isAbsentDate, date, time, Bool.eq_iff_iff]
  simp only [List.contains_cons, List.contains_nil, Bool.or_false, Bool.or_eq_true, beq_iff_eq,
    decide_eq_true_eq]
  exact or_congr ⟨literalText_injective, congrArg _⟩ ⟨literalText_injective, congrArg _⟩

/-- A string is written as a literal or, if it stands for no date, as none. -/
theorem pushLiteral_string (written : Written) {before : Text}
    (dropped : dropCharacterSetName written.reversed = before)
    (noMark : dropWord? before ['x'] = none) (value : Text)
    : written.pushLiteral (literalText value)
      = ⟨(if isAbsentDate value then Text.ofString "NULL" else literalText value).reverse ++ before,
        written.absentDates + if isAbsentDate value then 1 else 0⟩ := by
  rw [Written.pushLiteral, dropped, absentDates_contains]
  cases isAbsentDate value with
  | true => rfl
  | false =>
      rw [if_neg Bool.false_ne_true, noMark]
      rfl

/-- A literal after the mark of hexadecimal ones is written as bytes. -/
theorem pushLiteral_bytes (written : Written) {before bare : Text}
    (dropped : dropCharacterSetName written.reversed = before)
    (isMarked : dropWord? before ['x'] = some bare) {digits : Text}
    (present : isAbsentDate digits = false)
    : written.pushLiteral (literalText digits)
      = ⟨(Text.ofString "'\\x" ++ (literalText digits).drop 1).reverse ++ bare,
        written.absentDates⟩ := by
  rw [Written.pushLiteral, dropped, absentDates_contains, present,
    if_neg Bool.false_ne_true, isMarked]
  rfl

/-- What has been written after a statement. -/
abbrev literalsFrom (written : Written) (sql : Text) : Written :=
  (Segment.ofText .standard sql).foldl Written.pushSegment written

theorem push_push (written : Written) (first second : Text)
    : (written.push first).push second = written.push (first ++ second) := by
  simp [Written.push]

/-- Code is written as it is. -/
theorem literalsFrom_code {text : Text} (isCode : Segment.IsCode text) (written : Written)
    (rest : Text)
    : literalsFrom written (text ++ rest) = literalsFrom (written.push text) rest := by
  have joined (runs : List Segment)
      : (Segment.afterCode text runs).foldl Written.pushSegment written
        = runs.foldl Written.pushSegment (written.push text) := by
    clear isCode
    induction text generalizing written with
    | nil => rfl
    | cons char more ih =>
        have first (runs : List Segment)
            : (Segment.extend false char runs).foldl Written.pushSegment written
              = runs.foldl Written.pushSegment (written.push [char]) := by
          rcases runs with _ | ⟨code | literal, others⟩
          · rfl
          · exact congrArg (others.foldl Written.pushSegment)
              (push_push written [char] code).symm
          · rfl
        exact (first _).trans ((ih _).trans (by rw [push_push, List.singleton_append]))
  rw [literalsFrom, isCode, joined]

theorem literalsFrom_literal (value : Text) {rest : Text} (stop : rest.head? ≠ some '\'')
    (written : Written)
    : literalsFrom written (literalText value ++ rest)
      = literalsFrom (written.pushLiteral (literalText value)) rest := by
  rw [literalsFrom, Segment.ofText_literal value stop]
  rfl

-----------------------------------------------------------------------------------------
-- Writing values
-----------------------------------------------------------------------------------------

/-- What has been written after a value. -/
def writeValue (written : Written) (value : Value) : Written :=
  ⟨value.adapted.reverse ++ written.reversed,
    written.absentDates + if value.isAbsentDate then 1 else 0⟩

/-- A value without literal is written as it is. -/
theorem literalsFrom_value_code {value : Value} (bare : value.storedForm = ⟨value.adapted, none⟩)
    (present : value.isAbsentDate = false) (written : Written) (rest : Text)
    : literalsFrom written (value.storedForm.text ++ rest)
      = literalsFrom (writeValue written value) rest := by
  have isCode : Segment.IsCode value.adapted := by
    have unquoted := value.unquoted_byteCode
    rw [show value.byteForm.code = value.adapted from congrArg Form.code bare] at unquoted
    exact Segment.isCode_unquoted unquoted
  rw [bare, Form.text, List.append_nil, literalsFrom_code isCode, writeValue, present]
  rfl

/-- A value with a literal is written as what the literal becomes after the code before it. -/
theorem literalsFrom_value_literal {value : Value} {literal : Text} {written : Written}
    (stored : value.storedForm.literal? = some literal)
    (pushed : (written.push value.byteForm.code).pushLiteral (literalText literal)
      = writeValue written value)
    {rest : Text} (isOver : Over rest)
    : literalsFrom written (value.storedForm.text ++ rest)
      = literalsFrom (writeValue written value) rest := by
  rw [Form.text, stored, List.append_assoc]
  refine (literalsFrom_code (Segment.isCode_unquoted value.unquoted_byteCode) _ _).trans ?_
  rw [literalsFrom_literal literal (not_quote_of_over isOver), pushed]

/-- No name of a character set ends with the mark of a literal. -/
theorem dropCharacterSetName_mark {mark : Char} {reversed : Text}
    (capital : mark.toUpper.isUpper = true) (other : mark.toUpper ∉ lastsOfSets)
    : dropCharacterSetName (mark :: reversed) = mark :: reversed := by
  have notBlank : Alphabet.isBlank mark = false :=
    Alphabet.isBlank_of_isAlpha (Alphabet.isAlpha_of_toUpper capital)
  refine dropCharacterSetName_of_other ?_
  rw [List.dropWhile_cons_of_neg (by simp [notBlank])]
  simpa using other

theorem isAbsentDate_of_not_mem {value : Text} (absent : '-' ∉ value)
    : isAbsentDate value = false := by
  refine Bool.eq_false_iff.mpr fun date => absent ?_
  simp only [isAbsentDate, Bool.or_eq_true, decide_eq_true_eq, Text.ofString_eq] at date
  rcases date with rfl | rfl <;> decide

theorem kept_digits {accepts : Char → Bool} {digits : Text}
    (all : ∀ char ∈ digits, accepts char = true) (noNull : accepts '\x00' = false)
    : kept digits = digits :=
  kept_of_not_mem fun member => Bool.noConfusion ((all _ member).symm.trans noNull)

/-- The digits of a hexadecimal number stand in a literal by themselves. -/
theorem literalsFrom_hexNumber {digits : Text} (isThere : digits ≠ [])
    (isHex : ∀ char ∈ digits, ByPattern.isHexDigit char = true) {written : Written}
    (settled : Settled written.reversed) {rest : Text} (isOver : Over rest)
    : literalsFrom written ((Value.hexNumber digits isThere isHex).storedForm.text ++ rest)
      = literalsFrom (writeValue written (.hexNumber digits isThere isHex)) rest := by
  have all : ∀ char ∈ '\\' :: 'x' :: digits,
      (char = '\\' || char = 'x' || ByPattern.isHexDigit char) = true := by
    simpa using fun char member => Or.inr (isHex char member)
  have noQuote : '\'' ∉ '\\' :: 'x' :: digits := fun member => Bool.noConfusion (all _ member)
  have noDash : '-' ∉ '\\' :: 'x' :: digits := fun member => Bool.noConfusion (all _ member)
  have stored
      : (Value.hexNumber digits isThere isHex).storedForm.literal?
        = some ('\\' :: 'x' :: digits) :=
    congrArg some (kept_digits all rfl)
  refine literalsFrom_value_literal stored ?_ isOver
  refine (pushLiteral_string written settled.unmarked.noSet settled.unmarked.noMark _).trans ?_
  rw [isAbsentDate_of_not_mem noDash, literalText, Text.doubling_of_not_mem noQuote]
  simp only [writeValue, Value.adapted, Value.isAbsentDate, Text.ofString_eq]
  rfl

/-- The mark of a hexadecimal literal is taken off, and that of its digits is put into it. -/
theorem literalsFrom_hexLiteral (mark : Spelling "X") {digits : Text}
    (isHex : ∀ char ∈ digits, ByPattern.isHexDigit char = true) {written : Written}
    (settled : Settled written.reversed) {rest : Text} (isOver : Over rest)
    : literalsFrom written ((Value.hexLiteral mark digits isHex).storedForm.text ++ rest)
      = literalsFrom (writeValue written (.hexLiteral mark digits isHex)) rest := by
  obtain ⟨char, single, capital⟩ : ∃ char, mark.text = [char] ∧ char.toUpper = 'X' :=
    mark.exists_single rfl
  have noQuote : '\'' ∉ digits := fun member => Bool.noConfusion (isHex _ member)
  have noDash : '-' ∉ digits := fun member => Bool.noConfusion (isHex _ member)
  have stored : (Value.hexLiteral mark digits isHex).storedForm.literal? = some digits :=
    congrArg some (kept_digits isHex rfl)
  refine literalsFrom_value_literal stored ?_ isOver
  have isMarked : dropWord? (char :: written.reversed) ['x'] = some written.reversed := by
    refine (dropWord?_name [char] ?_ ?_ ?_).trans (if_pos ?_)
    · have part : isNamePart char = true := isNamePart_of_toUpper (by rw [capital]; rfl)
      simpa using part
    · exact fun char head => isNamePart_of_isSign (settled.head char head)
    · exact List.all_eq_true.mp rfl
    · simp [Text.equalsIgnoringCase, Text.asciiUpper, capital]
  have pushed := pushLiteral_bytes (written.push [char])
    (dropCharacterSetName_mark (by rw [capital]; rfl) (by rw [capital]; decide)) isMarked
    (isAbsentDate_of_not_mem noDash)
  change (written.push mark.text).pushLiteral _ = _
  rw [single, pushed, literalText, Text.doubling_of_not_mem noQuote]
  simp [writeValue, Value.adapted, Value.isAbsentDate, Written.push]

/-- The mark of a binary literal stays before it. -/
theorem literalsFrom_bitLiteral (mark : Spelling "B") {digits : Text}
    (isBinary : ∀ char ∈ digits, char = '0' ∨ char = '1') {written : Written} {rest : Text}
    (isOver : Over rest)
    : literalsFrom written ((Value.bitLiteral mark digits isBinary).storedForm.text ++ rest)
      = literalsFrom (writeValue written (.bitLiteral mark digits isBinary)) rest := by
  obtain ⟨char, single, capital⟩ : ∃ char, mark.text = [char] ∧ char.toUpper = 'B' :=
    mark.exists_single rfl
  have all : ∀ char ∈ digits, (char = '0' || char = '1') = true :=
    fun char member => by simpa using isBinary char member
  have noQuote : '\'' ∉ digits := fun member => Bool.noConfusion (all _ member)
  have noDash : '-' ∉ digits := fun member => Bool.noConfusion (all _ member)
  have stored : (Value.bitLiteral mark digits isBinary).storedForm.literal? = some digits :=
    congrArg some (kept_digits all rfl)
  refine literalsFrom_value_literal stored ?_ isOver
  have otherMark : dropWord? (char :: written.reversed) ['x'] = none := by
    refine dropWord?_of_last rfl fun found head => ?_
    obtain rfl := Option.some.inj head
    rw [capital]
    decide
  have pushed := pushLiteral_string (written.push [char])
    (dropCharacterSetName_mark (by rw [capital]; rfl) (by rw [capital]; decide)) otherMark
    digits
  change (written.push mark.text).pushLiteral _ = _
  rw [single, pushed, isAbsentDate_of_not_mem noDash, literalText,
    Text.doubling_of_not_mem noQuote]
  simp [writeValue, Value.adapted, Value.isAbsentDate, single, Written.push]

/-- Every value is written in the form of the warehouse after a bracket or a comma. -/
theorem literalsFrom_value (value : Value) {written : Written} (settled : Settled written.reversed)
    {rest : Text} (isOver : Over rest)
    : literalsFrom written (value.storedForm.text ++ rest)
      = literalsFrom (writeValue written value) rest := by
  cases value with
  | null word => exact literalsFrom_value_code rfl rfl written rest
  | number text isNumber => exact literalsFrom_value_code rfl rfl written rest
  | hexNumber digits isThere isHex => exact literalsFrom_hexNumber isThere isHex settled isOver
  | hexLiteral mark digits isHex => exact literalsFrom_hexLiteral mark isHex settled isOver
  | bitLiteral mark digits isBinary => exact literalsFrom_bitLiteral mark isBinary isOver
  | string introducer marks =>
      cases introducer with
      | none =>
          refine literalsFrom_value_literal rfl ?_ isOver
          exact pushLiteral_string written settled.unmarked.noSet settled.unmarked.noMark
            (stringValue marks)
      | some introducer =>
          refine literalsFrom_value_literal rfl ?_ isOver
          exact pushLiteral_string (written.push _)
            (dropCharacterSetName_introducer introducer settled) settled.unmarked.noMark
            (stringValue marks)

-----------------------------------------------------------------------------------------
-- Writing rows
-----------------------------------------------------------------------------------------

/-- What is written ends with a bracket or a comma when the last signs have one, or when it did so
before them.
-/
theorem settled_signs {text reversed : Text} (signs : Signs text)
    (before : text.any isMark = true ∨ Settled reversed)
    : Settled (text.reverse ++ reversed) := by
  induction text generalizing reversed with
  | nil => exact before.resolve_left (by simp)
  | cons char rest ih =>
      rw [List.reverse_cons, List.append_assoc, List.singleton_append]
      refine ih (fun other member => signs other (by simp [member])) ?_
      by_cases mark : isMark char = true
      · exact Or.inr ⟨[], char, reversed, rfl, by simp, mark⟩
      · rcases before with mark' | ⟨spaces, other, more, rfl, allSpace, isMark⟩
        · exact Or.inl (by simpa [mark] using mark')
        · have space : isSpace char = true := by
            simpa [isSign, mark] using signs char (by simp)
          exact Or.inr ⟨char :: spaces, other, more, rfl, by simpa [space] using allSpace, isMark⟩

/-- The values among pieces. -/
def pieceValues (pieces : List Piece) : List Value :=
  pieces.filterMap fun
    | .signs _ => none
    | .value value => some value

/-- What has been written after pieces. -/
def writePieces (earlier : Written) (pieces : List Piece) : Written :=
  ⟨(written Value.adapted pieces).reverse ++ earlier.reversed,
    earlier.absentDates + (pieceValues pieces).countP Value.isAbsentDate⟩

/-- The values of well-spaced pieces are written one by one in the form of the warehouse. -/
theorem literalsFrom_written {pieces : List Piece} {settled : Bool}
    (spaced : WellSpaced settled pieces) {earlier : Written}
    (before : settled = true → Settled earlier.reversed) (tail : Text)
    : literalsFrom earlier (written (·.storedForm.text) pieces ++ tail)
      = literalsFrom (writePieces earlier pieces) tail := by
  induction pieces generalizing settled earlier with
  | nil => rfl
  | cons piece rest ih =>
      cases piece with
      | signs text =>
          have after : (settled || text.any isMark) = true →
              Settled (earlier.push text).reversed := by
            intro either
            refine settled_signs spaced.1 ?_
            rcases Bool.or_eq_true_iff.mp either with already | mark
            · exact Or.inr (before already)
            · exact Or.inl mark
          rw [written, List.append_assoc,
            literalsFrom_code (Segment.isCode_unquoted spaced.1.unquoted), ih spaced.2 after]
          simp [writePieces, Written.push, written, pieceValues]
      | value value =>
          have ends := ends_written spaced.2.2 spaced.2.1 (·.storedForm.text) tail
          rw [written, List.append_assoc, literalsFrom_value value (before spaced.1) ends.isOver,
            ih spaced.2.2 (by simp)]
          simp [writePieces, writeValue, written, pieceValues, List.countP_cons, Nat.add_assoc,
            Nat.add_comm]

theorem pieceValues_append (first second : List Piece)
    : pieceValues (first ++ second) = pieceValues first ++ pieceValues second :=
  List.filterMap_append

theorem pieceValues_separated (items : List (List Piece))
    : pieceValues (separated items) = items.flatMap pieceValues := by
  induction items with
  | nil => rfl
  | cons first others ih =>
      cases others with
      | nil => simp [separated]
      | cons second more =>
          rw [separated, pieceValues_append, List.flatMap_cons, ← ih]
          rfl

/-- The values among the pieces of rows are those of the rows, in the same order. -/
theorem pieceValues_rowPieces (insertion : Insertion)
    : pieceValues insertion.rowPieces = values insertion.rows := by
  have ofEntry (entry : Entry) : pieceValues entry.pieces = [entry.value] := rfl
  have ofRow (row : Row) : pieceValues row.pieces = row.entries.map (·.value) := by
    have entries : pieceValues (separated (row.entries.map Entry.pieces))
        = row.entries.map (·.value) := by
      rw [pieceValues_separated, List.flatMap_map, List.map_eq_flatMap]
      exact List.flatMap_congr fun entry _ => ofEntry entry
    rw [Row.pieces, pieceValues_append, ← entries]
    simp [pieceValues]
  rw [rowPieces, pieceValues_separated, List.flatMap_map, values]
  exact List.flatMap_congr fun row _ => ofRow row

-----------------------------------------------------------------------------------------
-- Writing names
-----------------------------------------------------------------------------------------

/-- A sign between the words of a name is no end of a word which is dropped. -/
theorem unmarked_sign {char : Char} (bare : isBarePart char = true)
    (outside : Alphabet.isWord char = false) (before : Text)
    : Unmarked (char :: before) := by
  rw [Unmarked, List.dropWhile_cons_of_neg (by simp [isBlank_of_isBarePart bare])]
  intro other head last
  obtain rfl := Option.some.inj head
  rcases Alphabet.toUpper_eq_or_isAlpha char with same | letter
  · have inWords : ('X' :: lastsOfSets).all Alphabet.isWord = true := by decide
    rw [same] at last
    exact Bool.noConfusion (outside.symm.trans (List.all_eq_true.mp inWords char last))
  · exact Bool.noConfusion (outside.symm.trans (Alphabet.isWord_of_isAlpha letter))

/-- A name without quotes is written as it is, with the literals in it. -/
theorem literalsFrom_bare {word : Text} (isBare : ∀ char ∈ word, isBarePart char = true)
    {earlier : Written} (unmarked : Unmarked earlier.reversed) {rest : Text}
    (stop : rest.head? ≠ some '\'')
    : literalsFrom earlier (ByPattern.adaptWords word ++ rest)
      = literalsFrom (earlier.push (ByPattern.adaptWords word)) rest := by
  have one (word : Text) (isBare : ∀ char ∈ word, isBarePart char = true) (earlier : Written)
      (unmarked : Unmarked earlier.reversed) (rest : Text) (stop : rest.head? ≠ some '\'')
      : literalsFrom earlier (ByPattern.adaptWord word ++ rest)
        = literalsFrom (earlier.push (ByPattern.adaptWord word)) rest := by
    rcases adaptWord_cases word with same | ⟨digits, isHex, same⟩
    · rw [same, literalsFrom_code (Segment.isCode_unquoted (unquoted_bare isBare))]
    · have noDash : '-' ∉ '\\' :: 'x' :: digits := by
        have noDigit : '-' ∉ digits := fun member => Bool.noConfusion (isHex _ member)
        simpa using noDigit
      rw [same, literalsFrom_literal _ stop,
        pushLiteral_string earlier unmarked.noSet unmarked.noMark, isAbsentDate_of_not_mem noDash]
      rfl
  refine ByPattern.adaptWords_induction
    (motive := fun text => ∀ earlier : Written, Unmarked earlier.reversed → ∀ rest : Text,
      rest.head? ≠ some '\'' →
        literalsFrom earlier (text ++ rest) = literalsFrom (earlier.push text) rest)
    isBare one ?_ earlier unmarked rest stop
  intro word char others bareWord bare outside later earlier unmarked rest stop
  have single : Segment.IsCode [char] :=
    Segment.isCode_unquoted (unquoted_bare (by simpa using bare))
  have sign := literalsFrom_code single (earlier.push (ByPattern.adaptWord word)) (others ++ rest)
  rw [List.append_assoc, List.cons_append,
    one word bareWord earlier unmarked _ (not_quote_of_isBarePart bare _)]
  refine sign.trans ((later _ (unmarked_sign bare outside _) rest stop).trans ?_)
  rw [push_push, push_push]
  simp

theorem literalsFrom_name (name : Name) {earlier : Written} (unmarked : Unmarked earlier.reversed)
    {rest : Text} (ends : Ends rest)
    : literalsFrom earlier (name.stored ++ rest)
      = literalsFrom (earlier.push name.stored) rest := by
  cases name with
  | quoted value => exact literalsFrom_code (Segment.isCode_name (Or.inr rfl) _) earlier rest
  | bare word isThere isBare => exact literalsFrom_bare isBare unmarked (ends.not_mem rfl)

/-- What stands before the name of the table ends with a word which is no name of a character set.
-/
theorem unmarked_opening (insertion : Insertion)
    : Unmarked insertion.opening.reverse := by
  obtain ⟨init, last, spelled, letter⟩ := insertion.into.exists_last
  have capital : last.toUpper = 'O' := by
    have upper := congrArg List.getLast? insertion.into.spells
    rw [spelled, Text.ofString_eq, Text.asciiUpper, List.map_append] at upper
    simpa using upper
  have notBlank : Alphabet.isBlank last = false := Alphabet.isBlank_of_isAlpha letter
  have allSpace : ∀ char ∈ insertion.beforeName.text.reverse, isSpace char = true :=
    fun char member => insertion.beforeName.isSpace char (List.mem_reverse.mp member)
  rw [Unmarked, opening, List.reverse_append, dropWhile_isBlank_append allSpace, spelled]
  simp [notBlank, capital, lastsOfSets]

-----------------------------------------------------------------------------------------
-- The statement
-----------------------------------------------------------------------------------------

/-- How a name in double quotes or without comes through completing: as it stands in the
statement, with its null characters gone, and placed in the target.
-/
structure NameForms (target : Destination) (standard stored placed : Text) : Prop where
  requoted : ∀ {rest}, Ends rest → requoted (standard ++ rest) = standard ++ requoted rest
  kept : ∀ rest, kept (standard ++ rest) = stored ++ kept rest
  literals : ∀ {earlier : Written}, Unmarked earlier.reversed → ∀ {rest}, Ends rest →
    literalsFrom earlier (stored ++ rest) = literalsFrom (earlier.push stored) rest
  stops : ∀ rest, ∀ char ∈ (stored ++ rest).head?, Alphabet.isBlank char = false
  places : ∀ bound {rest}, Ends rest → ObjectName.afterDot? rest = none →
    Completion.placeNames target false (bound + 1) (stored ++ rest) = placed ++ rest

theorem Name.forms (name : Name) (target : Destination)
    : NameForms target name.worded name.stored (name.placed target) where
  requoted := name.requoted_worded
  kept := name.kept_worded
  literals := fun unmarked => literalsFrom_name name unmarked
  stops := name.stops
  places := fun bound _ ends => name.placeNames_stored target bound ends

section

variable {target : Destination} {standard stored placed : Text}

theorem NameForms.kept_assembled (forms : NameForms target standard stored placed)
    (insertion : Insertion)
    : Insertion.kept (insertion.assembled standard (·.byteForm.text))
      = insertion.assembled stored (·.storedForm.text) := by
  refine insertion.assembled_pass rfl ?_ ?_ ?_ ?_ ?_
  · exact kept_append_of_not_mem (insertion.plain_opening.not_mem rfl)
  · exact fun rest => forms.kept _
  · exact fun rest _ => kept_append_of_not_mem (insertion.plain_toValues.not_mem rfl) rest
  · exact fun text rest signs =>
      kept_append_of_not_mem (fun member => Bool.noConfusion (signs _ member)) rest
  · exact fun value rest _ => kept_value value rest

/-- Names in standard form are quoted for the warehouse already. -/
theorem NameForms.requote_assembled (forms : NameForms target standard stored placed)
    (insertion : Insertion)
    : QuotedName.requote (insertion.assembled standard (·.byteForm.text))
      = insertion.assembled standard (·.byteForm.text) := by
  rw [QuotedName.requote_eq]
  refine insertion.assembled_pass rfl ?_ ?_ ?_ ?_ ?_
  · exact requoted_unquoted insertion.plain_opening.unquoted
  · exact fun rest => forms.requoted (insertion.ends_toValues rest)
  · exact fun rest _ => requoted_unquoted insertion.plain_toValues.unquoted rest
  · exact fun text rest signs => requoted_unquoted signs.unquoted rest
  · exact fun value rest ends => requoted_form value.unquoted_byteCode ends.isOver

/-- The literals of the statement come into the form of the warehouse and nothing else changes. -/
theorem NameForms.adaptLiterals_assembled (forms : NameForms target standard stored placed)
    (insertion : Insertion)
    : Completion.adaptLiterals (insertion.assembled stored (·.storedForm.text))
      = (insertion.assembled stored Value.adapted, insertion.dateWarnings) := by
  have outcome
      : literalsFrom {} (insertion.assembled stored (·.storedForm.text))
        = ⟨(insertion.assembled stored Value.adapted).reverse,
          (values insertion.rows).countP Value.isAbsentDate⟩ := by
    have words {text : Text} (plain : Plain text) : Segment.IsCode text :=
      Segment.isCode_unquoted plain.unquoted
    have unmarked : Unmarked (Written.push {} insertion.opening).reversed := by
      rw [Written.push, List.append_nil]
      exact insertion.unmarked_opening
    rw [assembled, literalsFrom_code (words insertion.plain_opening),
      forms.literals unmarked (insertion.ends_toValues _),
      literalsFrom_code (words insertion.plain_toValues),
      literalsFrom_written insertion.wellSpaced_rowPieces (by simp)]
    rw [← List.append_nil insertion.ending,
      literalsFrom_code (Segment.isCode_unquoted insertion.signs_ending.unquoted),
      ← pieceValues_rowPieces]
    simp [literalsFrom, Segment.ofText, Segment.ofTextFrom, writePieces, Written.push, assembled]
  unfold literalsFrom at outcome
  rw [Completion.adaptLiterals, outcome, List.reverse_reverse]
  rfl

end

end DumpTransfer.Conversion.Insertion
