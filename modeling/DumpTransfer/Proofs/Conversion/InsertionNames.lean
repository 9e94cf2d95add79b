import DumpTransfer.Proofs.Conversion.InsertionForms
import DumpTransfer.Proofs.Sql.ObjectNames

/-! Names of tables in insertions. Between quotes a name is one piece throughout; without them the
hexadecimal numbers in it become literals, and what is left before the first is read as the name.
-/

namespace DumpTransfer.Conversion.Insertion

open Sql

-----------------------------------------------------------------------------------------
-- Forms of names
-----------------------------------------------------------------------------------------

/-- A name between double quotes. -/
def Name.inDoubleQuotes : Name → Text
  | quoted value => nameText '"' value
  | bare word _ _ => word

/-- A name in which hexadecimal numbers have been taken for data. -/
def Name.worded : Name → Text
  | quoted value => nameText '"' (ByPattern.adaptWords value)
  | bare word _ _ => ByPattern.adaptWords word

/-- A name with the null characters gone. -/
def Name.stored : Name → Text
  | quoted value => nameText '"' (kept (ByPattern.adaptWords value))
  | bare word _ _ => ByPattern.adaptWords word

theorem unquoted_bare {word : Text} (isBare : ∀ char ∈ word, isBarePart char = true)
    : Unquoted word :=
  unquoted_of isBarePart isBare (by decide)

theorem Ends.not_mem {rest : Text} (ends : Ends rest) {quote : Char}
    (noSign : isSign quote = false)
    : rest.head? ≠ some quote :=
  fun same => Bool.noConfusion ((ends.isOver quote same).symm.trans noSign)

theorem Name.normalizeFrom_source (name : Name) (rest : Text)
    : Literal.normalizeFrom .code (name.source ++ rest)
      = name.source ++ Literal.normalizeFrom .code rest := by
  cases name with
  | quoted value => exact Literal.normalizeFrom_name (Or.inl rfl) value rest
  | bare word isThere isBare => exact Literal.normalizeFrom_unquoted (unquoted_bare isBare) rest

theorem Name.requoted_source (name : Name) {rest : Text} (ends : Ends rest)
    : requoted (name.source ++ rest) = name.inDoubleQuotes ++ requoted rest := by
  cases name with
  | quoted value => exact requoted_backName value (ends.not_mem rfl)
  | bare word isThere isBare => exact requoted_unquoted (unquoted_bare isBare) rest

-----------------------------------------------------------------------------------------
-- Words of names
-----------------------------------------------------------------------------------------

/-- A quote written twice stays so when words are adapted, since it is part of none. -/
theorem adaptWords_doubling (name : Text)
    : ByPattern.adaptWords (Text.doubling '"' name)
      = Text.doubling '"' (ByPattern.adaptWords name) := by
  have noQuote {word : Text} (absent : '"' ∉ word)
      : Text.doubling '"' (ByPattern.adaptWord word) = ByPattern.adaptWord word := by
    refine Text.doubling_of_not_mem ?_
    unfold ByPattern.adaptWord
    split
    · have dropped : '"' ∉ word.drop 2 := fun member => absent (List.mem_of_mem_drop member)
      rw [Text.ofString_eq, Text.ofString_eq]
      simpa using dropped
    · exact absent
  have goes (word : Text) (absent : '"' ∉ word)
      : ByPattern.adaptWordsAfter word (Text.doubling '"' name)
        = Text.doubling '"' (ByPattern.adaptWordsAfter word name) := by
    induction name generalizing word with
    | nil => exact (noQuote absent).symm
    | cons char rest ih =>
        by_cases quote : char = '"'
        · subst quote
          have outside : Alphabet.isWord '"' = false := rfl
          simp [Text.doubling, ByPattern.adaptWordsAfter, outside, Text.doubling_append,
            noQuote absent, ih]
        · rw [Text.doubling, if_neg quote, ByPattern.adaptWordsAfter, ByPattern.adaptWordsAfter]
          split
          · exact ih _ (by simpa [absent] using Ne.symm quote)
          · rw [ih [] (by simp), Text.doubling_append, noQuote absent, Text.doubling, if_neg quote]
  exact goes [] (by simp)

theorem adaptWords_nameText (name : Text)
    : ByPattern.adaptWords (nameText '"' name) = nameText '"' (ByPattern.adaptWords name) := by
  have outside : Alphabet.isWord '"' = false := rfl
  have breaks : ByPattern.Breaks ['"'] := by simpa [ByPattern.Breaks] using outside
  rw [nameText, List.cons_append, ByPattern.adaptWords_sign outside,
    ByPattern.adaptWords_append _ breaks, adaptWords_doubling]
  rfl

theorem Name.worded_inDoubleQuotes (name : Name) {rest : Text} (ends : Ends rest)
    : Insertion.worded (name.inDoubleQuotes ++ rest) = name.worded ++ Insertion.worded rest := by
  cases name with
  | quoted value =>
      refine Segment.onCode_code rfl (Segment.isCode_name (Or.inr rfl) value) fun later _ => ?_
      have outside : Alphabet.isWord '"' = false := rfl
      have splits := ByPattern.adaptWords_append_of_sign ('"' :: Text.doubling '"' value) outside
        later
      exact splits.trans (congrArg (· ++ _) (adaptWords_nameText value))
  | bare word isThere isBare =>
      refine Segment.onCode_code rfl (Segment.isCode_unquoted (unquoted_bare isBare))
        fun later begins => ?_
      exact ByPattern.adaptWords_append word (breaks_of_over (over_of_begins ends.isOver begins))

/-- A word of a name stays or becomes a literal of bytes. -/
theorem adaptWord_cases (word : Text)
    : ByPattern.adaptWord word = word
      ∨ ∃ digits, (∀ char ∈ digits, ByPattern.isHexDigit char = true)
        ∧ ByPattern.adaptWord word = literalText ('\\' :: 'x' :: digits) := by
  by_cases number : ByPattern.isHexNumber word = true
  · unfold ByPattern.isHexNumber at number
    split at number
    · rename_i first rest
      have isHex := List.all_eq_true.mp number
      exact Or.inr ⟨first :: rest, isHex, adaptWord_number (by simp) isHex⟩
    · cases number
  · exact Or.inl (if_neg number)

/-- Characters of names without quotes, after numbers have become literals. -/
def isWordedPart (char : Char) : Bool :=
  isBarePart char || char = '\'' || char = '\\'

theorem isWordedPart_of_mem {word : Text} (isBare : ∀ char ∈ word, isBarePart char = true)
    : ∀ char ∈ ByPattern.adaptWords word, isWordedPart char = true := by
  have one (word : Text) (isBare : ∀ char ∈ word, isBarePart char = true)
      : ∀ char ∈ ByPattern.adaptWord word, isWordedPart char = true := by
    intro char member
    unfold ByPattern.adaptWord at member
    split at member
    · have inMarks : (['\'', '\\', 'x'] : Text).all isWordedPart = true := by decide
      rw [Text.ofString_eq, Text.ofString_eq] at member
      rcases List.mem_append.mp member with member | member
      · rcases List.mem_append.mp member with member | member
        · exact List.all_eq_true.mp inMarks char member
        · simp [isWordedPart, isBare char (List.mem_of_mem_drop member)]
      · exact List.all_eq_true.mp inMarks char (List.mem_append_left _ member)
    · simp [isWordedPart, isBare char member]
  refine ByPattern.adaptWords_induction
    (motive := fun text => ∀ char ∈ text, isWordedPart char = true) isBare one ?_
  intro word char rest bareWord bare _ inRest other member
  rcases List.mem_append.mp member with member | member
  · exact one word bareWord other member
  · rcases List.mem_cons.mp member with rfl | member
    · simp [isWordedPart, bare]
    · exact inRest other member

theorem not_quote_of_isBarePart {char : Char} (bare : isBarePart char = true) (rest : Text)
    : (char :: rest).head? ≠ some '\'' := by
  rintro same
  rw [Option.some.inj same] at bare
  cases bare

/-- Quoting anew leaves a name without quotes as it is, with the literals in it. -/
theorem requoted_bare {word : Text} (isBare : ∀ char ∈ word, isBarePart char = true)
    {rest : Text} (stop : rest.head? ≠ some '\'')
    : requoted (ByPattern.adaptWords word ++ rest)
      = ByPattern.adaptWords word ++ requoted rest := by
  have one (word : Text) (isBare : ∀ char ∈ word, isBarePart char = true) (rest : Text)
      (stop : rest.head? ≠ some '\'')
      : requoted (ByPattern.adaptWord word ++ rest)
        = ByPattern.adaptWord word ++ requoted rest := by
    rcases adaptWord_cases word with same | ⟨digits, isHex, same⟩
    · rw [same, requoted_unquoted (unquoted_bare isBare)]
    · rw [same, requoted, Segment.onCode_literal _ _ stop]
  refine ByPattern.adaptWords_induction
    (motive := fun text => ∀ rest : Text, rest.head? ≠ some '\'' →
      requoted (text ++ rest) = text ++ requoted rest)
    isBare one ?_ rest stop
  intro word char others bareWord bare _ later rest stop
  have single : Unquoted [char] := unquoted_bare (by simpa using bare)
  have passed := requoted_unquoted single (others ++ rest)
  rw [List.append_assoc, List.cons_append, one word bareWord _ (not_quote_of_isBarePart bare _)]
  rw [List.singleton_append, later rest stop] at passed
  rw [passed]
  simp

theorem Name.requoted_worded (name : Name) {rest : Text} (ends : Ends rest)
    : requoted (name.worded ++ rest) = name.worded ++ requoted rest := by
  cases name with
  | quoted value => exact requoted_doubleName _ rest
  | bare word isThere isBare => exact requoted_bare isBare (ends.not_mem rfl)

theorem Name.kept_worded (name : Name) (rest : Text)
    : kept (name.worded ++ rest) = name.stored ++ kept rest := by
  cases name with
  | quoted value => exact (kept_append _ _).trans (congrArg (· ++ _) (kept_nameText _))
  | bare word isThere isBare =>
      exact kept_append_of_not_mem
        (fun member => Bool.noConfusion (isWordedPart_of_mem isBare _ member)) rest

-----------------------------------------------------------------------------------------
-- Reading names
-----------------------------------------------------------------------------------------

theorem outside_of_isAlpha {letter : Char} (isLetter : letter.isAlpha = true)
    : Alphabet.isAsciiBlank letter = false ∧ letter ≠ '.' := by
  refine ⟨Bool.eq_false_iff.mpr fun blank => ?_, ?_⟩
  · simp only [Alphabet.isAsciiBlank, Bool.or_eq_true, decide_eq_true_eq] at blank
    rcases blank with (((rfl | rfl) | rfl) | rfl) | rfl <;> cases isLetter
  · rintro rfl
    cases isLetter

/-- No further part of a name comes after white space before a word. -/
theorem afterDot?_of_space {spaces rest : Text} (allSpace : ∀ char ∈ spaces, isSpace char = true)
    {letter : Char} (isLetter : letter.isAlpha = true)
    : ObjectName.afterDot? (spaces ++ letter :: rest) = none := by
  refine ObjectName.afterDot?_of_blank
    (fun char member => isBlank_of_isSpace (allSpace char member)) ?_
  simpa using outside_of_isAlpha isLetter

/-- A name of one part is qualified. -/
theorem placeNames_of_part {text part rest : Text} (target : Destination) (bound : Nat)
    (read : ObjectName.readPart text = some (part, rest))
    (noDot : ObjectName.afterDot? rest = none)
    : Completion.placeNames target false (bound + 1) text = target.qualify part ++ rest := by
  rw [Completion.placeNames, ObjectName.read?_of_part read noDot]
  rfl

theorem placeNames_of_none {text : Text} (target : Destination) (bound : Nat)
    (nothing : ObjectName.readPart text = none)
    : Completion.placeNames target false (bound + 1) text = text := by
  have noRead : ObjectName.read? text = none := by
    rw [ObjectName.read?, ObjectName.readParts, nothing]
    rfl
  rw [Completion.placeNames, noRead]

-----------------------------------------------------------------------------------------
-- Placing names
-----------------------------------------------------------------------------------------

theorem isBlank_of_isBarePart {char : Char} (bare : isBarePart char = true)
    : Alphabet.isBlank char = false := by
  refine Bool.eq_false_iff.mpr fun blank => ?_
  have noPart := Alphabet.holds_of_isBlank (! isBarePart ·) (by decide +kernel) blank
  rw [bare] at noPart
  cases noPart

/-- Characters of names are no white space, dots or double quotes. -/
theorem outside_of_isWordedPart {char : Char} (part : isWordedPart char = true)
    : Alphabet.isBlank char = false ∧ Alphabet.isAsciiBlank char = false ∧ char ≠ '.'
      ∧ char ≠ '"' := by
  have notBlank : Alphabet.isBlank char = false := by
    simp only [isWordedPart, Bool.or_eq_true, decide_eq_true_eq] at part
    rcases part with (bare | rfl) | rfl
    · exact isBlank_of_isBarePart bare
    · rfl
    · rfl
  have notAscii : Alphabet.isAsciiBlank char = false := by
    refine Bool.eq_false_iff.mpr fun blank => ?_
    simp only [Alphabet.isAsciiBlank, Bool.or_eq_true, decide_eq_true_eq] at blank
    rcases blank with (((rfl | rfl) | rfl) | rfl) | rfl <;> cases notBlank
  refine ⟨notBlank, notAscii, ?_, ?_⟩ <;> rintro rfl <;> cases part

/-- A name begins with no white space. -/
theorem Name.stops (name : Name) (rest : Text)
    : ∀ char ∈ (name.stored ++ rest).head?, Alphabet.isBlank char = false := by
  cases name with
  | quoted value =>
      intro char head
      obtain rfl := Option.some.inj head
      decide
  | bare word isThere isBare =>
      obtain ⟨first, more, same⟩ :=
        List.exists_cons_of_ne_nil (ByPattern.adaptWords_ne_nil isThere)
      have part := isWordedPart_of_mem isBare first (by simp [same])
      intro char head
      rw [stored, same] at head
      obtain rfl := Option.some.inj head
      exact (outside_of_isWordedPart part).1

/-- What is left of a name after a word is no further part of it. -/
theorem afterDot?_bare {left rest : Text} (parts : ∀ char ∈ left, isWordedPart char = true)
    (noDot : ObjectName.afterDot? rest = none)
    : ObjectName.afterDot? (left ++ rest) = none := by
  cases left with
  | nil => exact noDot
  | cons char more =>
      refine ObjectName.afterDot?_of_head fun other head => ?_
      obtain rfl := Option.some.inj head
      obtain ⟨_, notBlank, notDot, _⟩ := outside_of_isWordedPart (parts char (by simp))
      exact ⟨notBlank, notDot⟩

/-- The name of the table is placed in the target before white space. -/
theorem Name.placeNames_stored (name : Name) (target : Destination) (bound : Nat) {rest : Text}
    (ends : Ends rest) (noDot : ObjectName.afterDot? rest = none)
    : Completion.placeNames target false (bound + 1) (name.stored ++ rest)
      = name.placed target ++ rest := by
  cases name with
  | quoted value =>
      have read : ObjectName.readPart ((Name.quoted value).stored ++ rest)
          = some (kept (ByPattern.adaptWords value), rest) := by
        simpa [Name.stored, nameText, ObjectName.readPart] using
          ObjectName.readQuoted_doubling (kept (ByPattern.adaptWords value)) (ends.not_mem rfl)
      rw [placeNames_of_part target bound read noDot, placed, withoutNumbers,
        ByPattern.replaceAll_hexNumber]
      rfl
  | bare word isThere isBare =>
      have parts := isWordedPart_of_mem isBare
      have stop : ∀ char ∈ rest.head?, ObjectName.isWordPart char = false :=
        fun char head => (isNamePart_of_isSign (ends.isOver char head)).1
      rw [stored, placed, withoutNumbers, ByPattern.replaceAll_hexNumber]
      by_cases starts : (ByPattern.adaptWords word).head?.any ObjectName.isWordStart = true
      · have inLeft : ∀ char ∈ (ByPattern.adaptWords word).dropWhile ObjectName.isWordPart,
            isWordedPart char = true :=
          fun char member => parts char ((List.dropWhile_sublist _).mem member)
        have left := afterDot?_bare inLeft noDot
        rw [placeNames_of_part target bound (ObjectName.readPart_word starts stop) left,
          if_pos starts, List.append_assoc]
      · obtain ⟨first, more, same⟩ :=
          List.exists_cons_of_ne_nil (ByPattern.adaptWords_ne_nil isThere)
        have part := outside_of_isWordedPart (parts first (by simp [same]))
        rw [if_neg starts, placeNames_of_none target bound]
        rw [same] at starts ⊢
        exact ObjectName.readPart_other (by simpa using part.2.2.2) (by simpa using starts)

end DumpTransfer.Conversion.Insertion
