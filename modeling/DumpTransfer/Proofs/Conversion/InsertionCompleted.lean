import DumpTransfer.Proofs.Conversion.InsertionLiterals
import DumpTransfer.Proofs.Text.Trimming

/-! Insertions completed for the warehouse. The words before the name of the table are matched one
by one, and whatever comes after them is only looked at for its end.
-/

namespace DumpTransfer.Conversion.Insertion

open Sql Pattern

-----------------------------------------------------------------------------------------
-- Words of insertions
-----------------------------------------------------------------------------------------

variable {next : Pattern.Continuation} {place : Place} {word : String} {rest : Text}

/-- A word in either case has the small letters of the word. -/
theorem Spelling.map_foldCase [Capitals word] (spelling : Spelling word)
    : spelling.text.map Alphabet.foldCase = word.toList.map Char.toLower := by
  rw [← Text.ofString_eq, ← spelling.spells, Text.asciiUpper, List.map_map]
  exact List.map_congr_left fun char member =>
    Alphabet.foldCase_of_toUpper (spelling.isUpper_toUpper member)

theorem Spelling.letters_andThen [Capitals word] (spelling : Spelling word)
    (after : place.after = spelling.text ++ rest)
    : (letters word).andThen next place = next (place.past spelling.text rest) :=
  Pattern.letters_andThen spelling.map_foldCase after

/-- Another word is not taken for the one that stands there. -/
theorem Spelling.letters_andThen_eq_none [Capitals word] {other : String}
    (spelling : Spelling word) (after : place.after = spelling.text ++ rest) (count : Nat)
    (differ : count ≤ (word.toList.map Char.toLower).length ∧ count ≤ other.toList.length
      ∧ (word.toList.map Char.toLower).take count ≠ (other.toList.map Char.toLower).take count)
    : (letters other).andThen next place = none :=
  Pattern.letters_andThen_eq_none spelling.map_foldCase after
    ⟨differ.1, differ.2.1⟩ differ.2.2

/-- No word begins with white space. -/
theorem letters_cannotBegin_space {first : Char} {more : List Char}
    (spelled : word.toList = first :: more) (letter : first.toLower.isAlpha = true) {char : Char}
    (space : isSpace char = true)
    : (letters word).CannotBegin char := by
  refine letters_cannotBegin spelled fun same => ?_
  have noLetter := holds_of_isSpace (fun space => !(Alphabet.foldCase space).isAlpha) rfl space
  rw [same, letter] at noLetter
  cases noLetter

/-- White space ends where a word begins. -/
theorem Spelling.stops [Capitals word] (spelling : Spelling word) (rest : Text)
    : ∀ char ∈ (spelling.text ++ rest).head?, Alphabet.isBlank char = false := by
  obtain ⟨first, others, same, letter⟩ := spelling.exists_first
  simpa [same] using Alphabet.isBlank_of_isAlpha letter

theorem Space.blank (space : Space)
    : Text.Blank space.text :=
  fun char member => isBlank_of_isSpace (space.isSpace char member)

/-- White space is passed over to the word after it. -/
theorem Gap.gap_andThen (between : Gap) (after : place.after = between.text ++ rest)
    (stops : ∀ char ∈ rest.head?, Alphabet.isBlank char = false)
    (refuses : ∀ char, isSpace char = true → Refuses next char)
    : gap.andThen next place = next (place.past between.text rest) :=
  someOf_andThen after between.isThere between.blank stops fun char member =>
    refuses char (between.isSpace char member)

-----------------------------------------------------------------------------------------
-- Lenient insertions
-----------------------------------------------------------------------------------------

/-- What says that rows with a known key are passed over. -/
def lenientVerb : Pattern :=
  .words ["INSERT", "IGNORE"]
    <|> (.letters "REPLACE" ++ .optional (.gap ++ .anyWord ["LOW_PRIORITY", "DELAYED"]))

/-- The word after what is done, with the white space before it. -/
def intoWord : Pattern :=
  .gap ++ .letters "INTO" ++ .wordEdge

theorem lenientInsertion_eq
    : Completion.lenientInsertion
      = .textStart ++ .group "indent" .blanks ++ .group "verb" lenientVerb
        ++ .group "into" intoWord :=
  rfl

/-- What stands after what is done. -/
def fromInto (insertion : Insertion) (rest : Text) : Text :=
  insertion.beforeInto.text ++ (insertion.into.text ++ (insertion.beforeName.text ++ rest))

theorem intoWord_andThen (insertion : Insertion) (after : place.after = insertion.fromInto rest)
    : intoWord.andThen next place
      = next (place.past (insertion.beforeInto.text ++ insertion.into.text)
          (insertion.beforeName.text ++ rest)) := by
  have stops := insertion.into.stops (insertion.beforeName.text ++ rest)
  have edge (reached : Place) (before : Text)
      (written : reached.before = insertion.into.text.reverse ++ before)
      (follows : reached.after = insertion.beforeName.text ++ rest)
      : wordEdge.andThen next reached = next reached := by
    obtain ⟨init, last, spelled, letter⟩ := insertion.into.exists_last
    obtain ⟨first, more, same, space⟩ := insertion.beforeName.exists_first
    have inside : Alphabet.isWord last = true := Alphabet.isWord_of_isAlpha letter
    have outside : Alphabet.isWord first = false := isWord_of_isSign (by simp [isSign, space])
    rw [wordEdge_andThen, written, follows, spelled, same]
    simp [inside, outside]
  rw [intoWord, append_andThen, append_andThen,
    insertion.beforeInto.gap_andThen after stops fun char space =>
      letters_cannotBegin_space rfl rfl space _,
    insertion.into.letters_andThen rfl, Place.past_past]
  exact edge _ (insertion.beforeInto.text.reverse ++ place.before) (by simp) rfl

theorem fromInto_stops (insertion : Insertion) (rest : Text)
    : ∀ char ∈ (insertion.into.text ++ (insertion.beforeName.text ++ rest)).head?,
        Alphabet.isBlank char = false :=
  insertion.into.stops _

/-- A plain insertion does not say that rows are passed over. -/
theorem lenientVerb_insert (insertion : Insertion) (word : Spelling "INSERT")
    (after : place.after = word.text ++ insertion.fromInto rest)
    : lenientVerb.andThen next place = none := by
  have ignore : (words ["INSERT", "IGNORE"]).andThen next place = none := by
    rw [words, words, append_andThen, append_andThen, word.letters_andThen after,
      insertion.beforeInto.gap_andThen rfl (insertion.fromInto_stops rest) fun char space =>
        letters_cannotBegin_space rfl rfl space _]
    exact insertion.into.letters_andThen_eq_none rfl 2 (by decide)
  rw [lenientVerb, orElse_andThen_of_none ignore, append_andThen]
  exact word.letters_andThen_eq_none after 1 (by decide)

theorem lenientVerb_insertIgnore {word : Spelling "INSERT"} {between : Gap}
    {ignore : Spelling "IGNORE"}
    (after : place.after = (Verb.insertIgnore word between ignore).source ++ rest)
    : lenientVerb.andThen next place
      = next (place.past (Verb.insertIgnore word between ignore).source rest) := by
  have split : place.after = word.text ++ (between.text ++ (ignore.text ++ rest)) := by
    simpa [Verb.source] using after
  have replace
      : (letters "REPLACE" ++ optional (gap ++ anyWord ["LOW_PRIORITY", "DELAYED"])).andThen
          next place = none := by
    rw [append_andThen]
    exact word.letters_andThen_eq_none split 1 (by decide)
  rw [lenientVerb, orElse_andThen_of_none_second replace, words, words, append_andThen,
    append_andThen, word.letters_andThen split,
    between.gap_andThen rfl (ignore.stops rest) fun char space =>
      letters_cannotBegin_space rfl rfl space _,
    ignore.letters_andThen rfl, Place.past_past, Place.past_past, Verb.source,
    List.append_assoc]

theorem lenientVerb_replace (insertion : Insertion) (word : Spelling "REPLACE")
    (after : place.after = word.text ++ insertion.fromInto rest)
    : lenientVerb.andThen next place = next (place.past word.text (insertion.fromInto rest)) := by
  have ignore : (words ["INSERT", "IGNORE"]).andThen next place = none := by
    rw [words, append_andThen, append_andThen]
    exact word.letters_andThen_eq_none after 1 (by decide)
  have modifier (reached : Place) (stands : reached.after = insertion.fromInto rest)
      : (gap ++ anyWord ["LOW_PRIORITY", "DELAYED"]).andThen next reached = none := by
    have cannot {char : Char} (space : isSpace char = true)
        : (anyWord ["LOW_PRIORITY", "DELAYED"]).CannotBegin char :=
      (letters_cannotBegin_space rfl rfl space).orElse (letters_cannotBegin_space rfl rfl space)
    rw [append_andThen, insertion.beforeInto.gap_andThen stands (insertion.fromInto_stops rest)
      fun char space => cannot space _, anyWord]
    refine (orElse_andThen_of_none ?_).trans ?_
    · exact insertion.into.letters_andThen_eq_none rfl 1 (by decide)
    · exact insertion.into.letters_andThen_eq_none rfl 1 (by decide)
  rw [lenientVerb, orElse_andThen_of_none ignore, append_andThen,
    word.letters_andThen after]
  exact optional_andThen_of_none (modifier _ rfl)

theorem opening_append (insertion : Insertion) (rest : Text)
    : insertion.opening ++ rest
      = insertion.before.text ++ (insertion.verb.source ++ insertion.fromInto rest) := by
  simp [opening, fromInto]

/-- What is done begins with a letter. -/
theorem Verb.stops (verb : Verb) (rest : Text)
    : ∀ char ∈ (verb.source ++ rest).head?, Alphabet.isBlank char = false := by
  cases verb with
  | insert word | replace word => exact word.stops rest
  | insertIgnore word between ignore =>
      simpa [Verb.source] using
        word.stops (between.text ++ (ignore.text ++ rest))

theorem lenientVerb_cannotBegin {char : Char} (space : isSpace char = true)
    : lenientVerb.CannotBegin char :=
  (((letters_cannotBegin_space rfl rfl space).append _).append _).orElse
    ((letters_cannotBegin_space rfl rfl space).append _)

/-- The place after the white space before a statement. -/
def indented (insertion : Insertion) (rest : Text) : Place :=
  ((Place.start (insertion.opening ++ rest)).past insertion.before.text
    (insertion.verb.source ++ insertion.fromInto rest)).record "indent"
      (.start (insertion.opening ++ rest))

theorem lenientInsertion_start (insertion : Insertion) (rest : Text)
    : Completion.lenientInsertion.matchStart? (insertion.opening ++ rest)
      = lenientVerb.andThen
          (fun reached =>
            (group "into" intoWord).andThen some
              (reached.record "verb" (insertion.indented rest)))
          (insertion.indented rest) := by
  have after : (Place.start (insertion.opening ++ rest)).after
      = insertion.before.text ++ (insertion.verb.source ++ insertion.fromInto rest) :=
    insertion.opening_append rest
  rw [matchStart?, matchAt?, lenientInsertion_eq, append_andThen, append_andThen, append_andThen,
    textStart, check_andThen rfl, group_andThen, blanks,
    run_andThen after insertion.before.blank (insertion.verb.stops _)]
  · rfl
  · intro char member place rest after
    exact lenientVerb_cannotBegin (insertion.before.isSpace char member) _ _ rest after

theorem lenientInsertion_insert {insertion : Insertion} {word : Spelling "INSERT"}
    (plain : insertion.verb = .insert word) (rest : Text)
    : Completion.lenientInsertion.matchStart? (insertion.opening ++ rest) = none := by
  have after : (insertion.indented rest).after = word.text ++ insertion.fromInto rest := by
    change insertion.verb.source ++ insertion.fromInto rest = _
    rw [plain]
    rfl
  rw [lenientInsertion_start]
  exact insertion.lenientVerb_insert word after

/-- The groups of a lenient insertion are its white space, what is done and the word after it. -/
theorem lenientInsertion_lenient {insertion : Insertion}
    (lenient : ∀ word, insertion.verb ≠ .insert word) (rest : Text)
    : ∃ place,
        Completion.lenientInsertion.matchStart? (insertion.opening ++ rest) = some place
        ∧ place.group "indent" = insertion.before.text
        ∧ place.group "verb" = insertion.verb.source
        ∧ place.group "into" = insertion.beforeInto.text ++ insertion.into.text
        ∧ place.after = insertion.beforeName.text ++ rest := by
  have verb (next : Continuation)
      : lenientVerb.andThen next (insertion.indented rest)
        = next ((insertion.indented rest).past insertion.verb.source
            (insertion.fromInto rest)) := by
    have after : (insertion.indented rest).after
        = insertion.verb.source ++ insertion.fromInto rest :=
      rfl
    cases kind : insertion.verb with
    | insert word => exact absurd kind (lenient word)
    | insertIgnore word between ignore =>
        rw [kind] at after
        exact lenientVerb_insertIgnore after
    | replace word =>
        rw [kind] at after
        exact insertion.lenientVerb_replace word after
  rw [lenientInsertion_start, verb, group_andThen, intoWord_andThen insertion rfl]
  refine ⟨_, rfl, ?_, ?_, ?_, rfl⟩
  · rw [Place.group_record_of_ne _ _ (by decide), Place.group_past,
      Place.group_record_of_ne _ _ (by decide), Place.group_past, indented, Place.group_record,
      Place.textSince_past]
  · rw [Place.group_record_of_ne _ _ (by decide), Place.group_past, Place.group_record,
      Place.textSince_past]
  · rw [Place.group_record, Place.textSince_past]

/-- The word for insertions in the warehouse. -/
def Verb.spelling : Verb → Spelling "INSERT"
  | insert word => word
  | insertIgnore _ _ _ | replace _ => ⟨"INSERT", spells_insert⟩

/-- The insertion without a word on rows with a known key. -/
def plainly (insertion : Insertion) : Insertion :=
  { insertion with verb := .insert insertion.verb.spelling }

theorem Verb.startsWith_replace {verb : Verb} (lenient : ∀ word, verb ≠ .insert word)
    : (if Text.startsWith (Text.asciiUpper verb.source) "REPLACE" then
        [Text.ofString "REPLACE INTO loaded as INSERT ... ON CONFLICT DO NOTHING"]
      else []) = verb.warnings := by
  cases verb with
  | insert word => exact absurd rfl (lenient word)
  | insertIgnore word between ignore =>
      have apart : Text.startsWith (Text.asciiUpper (Verb.insertIgnore word between ignore).source)
          "REPLACE" = false := by
        have upper
            : Text.asciiUpper (Verb.insertIgnore word between ignore).source
              = Text.asciiUpper word.text ++ Text.asciiUpper (between.text ++ ignore.text) := by
          simp [Text.asciiUpper, Verb.source]
        rw [upper, word.spells, Text.startsWith, Text.ofString_eq, Text.ofString_eq]
        rfl
      rw [apart]
      rfl
  | replace word =>
      have begins : Text.startsWith (Text.asciiUpper word.text) "REPLACE" = true := by
        rw [word.spells, Text.startsWith, Text.ofString_eq]
        rfl
      exact if_pos begins

/-- A lenient insertion is done plainly, passing over rows with a known key. -/
theorem adaptInsertion_lenient {insertion : Insertion}
    (lenient : ∀ word, insertion.verb ≠ .insert word) (rest : Text)
    : Completion.adaptInsertion (insertion.opening ++ rest)
      = (Text.trimEnd (Completion.dropTerminator (insertion.plainly.opening ++ rest))
          ++ " ON CONFLICT DO NOTHING",
        insertion.verb.warnings) := by
  obtain ⟨place, matched, indent, verb, into, after⟩ :=
    lenientInsertion_lenient lenient rest
  have word : insertion.verb.spelling.text = "INSERT" := by
    cases kind : insertion.verb with
    | insert word => exact absurd kind (lenient word)
    | insertIgnore _ _ _ | replace _ => rfl
  have body
      : insertion.before.text ++ Text.ofString "INSERT"
            ++ (insertion.beforeInto.text ++ insertion.into.text)
            ++ (insertion.beforeName.text ++ rest)
          = insertion.plainly.opening ++ rest := by
    rw [← word]
    simp [opening, plainly, Verb.source]
  rw [Completion.adaptInsertion, matched]
  dsimp only
  rw [indent, verb, into, after, body, Verb.startsWith_replace lenient]

-----------------------------------------------------------------------------------------
-- The name of the table
-----------------------------------------------------------------------------------------

/-- The words of statements that are about a table. -/
def targetWords : Pattern :=
  (.letters "CREATE" ++ .gap ++ .optional (.letters "TEMPORARY" ++ .gap)
      ++ .letters "TABLE" ++ .optional (.gap ++ .words ["IF", "NOT", "EXISTS"]))
    <|> (.words ["DROP", "TABLE"] ++ .optional (.gap ++ .words ["IF", "EXISTS"]))
    <|> .words ["INSERT", "INTO"]
    <|> .words ["DELETE", "FROM"]
    <|> (.letters "TRUNCATE" ++ .optional (.gap ++ .letters "TABLE"))

theorem beforeTarget_eq
    : Completion.beforeTarget = .textStart ++ .blanks ++ targetWords ++ .gap :=
  rfl

theorem targetWords_cannotBegin {char : Char} (space : isSpace char = true)
    : targetWords.CannotBegin char :=
  .orElse (((((letters_cannotBegin_space rfl rfl space).append _).append _).append _).append _) <|
    .orElse ((((letters_cannotBegin_space rfl rfl space).append _).append _).append _) <|
    .orElse (((letters_cannotBegin_space rfl rfl space).append _).append _) <|
    .orElse (((letters_cannotBegin_space rfl rfl space).append _).append _)
      ((letters_cannotBegin_space rfl rfl space).append _)

/-- The words of a plain insertion end where the name of the table begins. -/
theorem beforeTarget_insert (insertion : Insertion) {word : Spelling "INSERT"}
    (plain : insertion.verb = .insert word)
    (stops : ∀ char ∈ rest.head?, Alphabet.isBlank char = false)
    : Completion.beforeTarget.matchStart? (insertion.opening ++ rest)
      = some ((Place.start (insertion.opening ++ rest)).past insertion.opening rest) := by
  have split : insertion.opening ++ rest
      = insertion.before.text ++ (word.text ++ insertion.fromInto rest) := by
    rw [opening_append, plain]
    rfl
  have words (start : Place) (after : start.after = word.text ++ insertion.fromInto rest)
      : targetWords.andThen (gap.andThen some) start
        = some (start.past (word.text ++ insertion.beforeInto.text ++ insertion.into.text
            ++ insertion.beforeName.text) rest) := by
    rw [targetWords]
    refine (orElse_andThen_of_none ?_).trans ((orElse_andThen_of_none ?_).trans
      (orElse_andThen_of_some ?_))
    · exact word.letters_andThen_eq_none after 1 (by decide)
    · exact word.letters_andThen_eq_none after 1 (by decide)
    · rw [Pattern.words, Pattern.words, append_andThen, append_andThen,
        word.letters_andThen after,
        insertion.beforeInto.gap_andThen rfl (insertion.fromInto_stops rest) fun char space =>
          letters_cannotBegin_space rfl rfl space _,
        insertion.into.letters_andThen rfl, Place.past_past, Place.past_past]
      refine someOf_andThen_of_some rfl insertion.beforeName.isThere insertion.beforeName.blank
        stops ?_
      rw [Place.past_past]
      simp
  have opened : insertion.opening
      = insertion.before.text ++ (word.text ++ insertion.beforeInto.text ++ insertion.into.text
          ++ insertion.beforeName.text) := by
    simp [opening, plain, Verb.source]
  rw [matchStart?, matchAt?, beforeTarget_eq, append_andThen, append_andThen, append_andThen,
    textStart, check_andThen rfl, blanks,
    run_andThen (split : (Place.start _).after = _) insertion.before.blank
      (word.stops _),
    words _ rfl, Place.past_past, ← opened]
  intro char member place rest after
  exact targetWords_cannotBegin (insertion.before.isSpace char member) _ _ rest after

theorem afterDot?_toValues (insertion : Insertion) (rest : Text)
    : ObjectName.afterDot? (insertion.toValues ++ rest) = none := by
  obtain ⟨first, more, same, letter⟩ := insertion.valuesWord.exists_first
  rw [toValues, same, List.append_assoc]
  exact afterDot?_of_space insertion.afterName.isSpace letter

/-- The table of a plain insertion is placed in the target, whatever comes after its name. -/
theorem NameForms.placeTables_plainly {target : Destination} {standard stored placed : Text}
    (forms : NameForms target standard stored placed) (insertion : Insertion) (rest : Text)
    : Completion.placeTables target .insert
          (insertion.plainly.opening ++ (stored ++ (insertion.toValues ++ rest)))
      = insertion.plainly.opening ++ (placed ++ (insertion.toValues ++ rest)) := by
  have matched := insertion.plainly.beforeTarget_insert rfl
    (forms.stops (insertion.toValues ++ rest))
  rw [Completion.placeTables, matched]
  dsimp only
  rw [Place.textSince_past]
  exact congrArg _ (forms.places _ (insertion.ends_toValues rest)
    (insertion.afterDot?_toValues rest))

-----------------------------------------------------------------------------------------
-- Ends of insertions
-----------------------------------------------------------------------------------------

theorem written_append (write : Value → Text) (first second : List Piece)
    : written write (first ++ second) = written write first ++ written write second := by
  induction first with
  | nil => rfl
  | cons piece rest ih => cases piece <;> simp [written, ih]

theorem exists_separated_concat (items : List (List Piece)) (last : List Piece)
    : ∃ before, separated (items ++ [last]) = before ++ last := by
  induction items with
  | nil => exact ⟨[], rfl⟩
  | cons first others ih =>
      obtain ⟨before, same⟩ := ih
      refine ⟨first ++ .signs [','] :: before, ?_⟩
      cases others with
      | nil =>
          obtain rfl : before = [] := by simpa [separated] using same.symm
          simp [separated]
      | cons second more =>
          rw [List.cons_append, List.cons_append, separated, ← List.cons_append, same]
          simp

/-- Rows end with a bracket, white space apart, and without rows the word before them is last. -/
theorem exists_tight_rows (insertion : Insertion) (write : Value → Text)
    : ∃ body spaces, written write insertion.rowPieces = body ++ spaces
        ∧ Text.Blank spaces ∧ Text.Tight (insertion.toValues ++ body) := by
  rcases List.eq_nil_or_concat insertion.rows with none | ⟨others, last, spelled⟩
  · have nothing : written write insertion.rowPieces = [] := by
      rw [rowPieces, none]
      rfl
    refine ⟨[], [], nothing, by simp [Text.Blank], ?_⟩
    obtain ⟨init, letter, same, isLetter⟩ := insertion.valuesWord.exists_last
    refine ⟨insertion.afterName.text ++ init, letter, by simp [toValues, same],
      Alphabet.isBlank_of_isAlpha isLetter, ?_⟩
    rintro rfl
    cases isLetter
  · obtain ⟨before, same⟩ := exists_separated_concat (others.map Row.pieces) last.pieces
    obtain ⟨init, pieces⟩
        : ∃ init, insertion.rowPieces
            = init ++ [.signs [')'], .signs last.after.text] := by
      refine ⟨before ++ .signs last.before.text :: .signs ['(']
        :: separated (last.entries.map Entry.pieces), ?_⟩
      rw [rowPieces, spelled, List.concat_eq_append, List.map_append, List.map_singleton, same,
        Row.pieces]
      simp
    refine ⟨written write init ++ [')'], last.after.text, ?_, last.after.blank, ?_⟩
    · rw [pieces, written_append]
      simp [written]
    · refine ⟨insertion.toValues ++ written write init, ')', by simp, by decide, by decide⟩

-----------------------------------------------------------------------------------------
-- Completing
-----------------------------------------------------------------------------------------

theorem Verb.adapted_eq (verb : Verb)
    : verb.adapted = verb.spelling.text := by
  cases verb <;> rfl

/-- What is said in the end is neither white space nor a semicolon. -/
theorem Verb.tight_clause (verb : Verb) {text : Text} (tight : Text.Tight text)
    : Text.Tight (text ++ verb.clause) := by
  cases verb with
  | insert word => simpa [Verb.clause] using tight
  | insertIgnore _ _ _ | replace _ =>
      rw [Verb.clause, Text.ofString_eq]
      exact Text.Tight.append ⟨" ON CONFLICT DO NOTHIN".toList, 'G', rfl, by decide, by decide⟩ _

/-- A statement loses its semicolon, and white space before it stays. -/
theorem dropTerminator_ending (insertion : Insertion) {text spaces : Text}
    (tight : Text.Tight text) (blank : Text.Blank spaces)
    : ∃ left, Text.Blank left
        ∧ Completion.dropTerminator (text ++ (spaces ++ insertion.ending)) = text ++ left := by
  unfold ending
  cases insertion.terminator with
  | none =>
      refine ⟨[], by simp [Text.Blank], ?_⟩
      rw [List.append_nil, List.append_nil, tight.dropTerminator_append blank]
  | some after =>
      refine ⟨spaces, blank, ?_⟩
      rw [← List.append_assoc, Text.dropTerminator_semicolon _ after.blank]

/-- The statement up to its last bracket, with a text for the name of the table. -/
def throughRows (insertion : Insertion) (name body : Text) : Text :=
  insertion.plainly.opening ++ (name ++ (insertion.toValues ++ body))

theorem tight_throughRows (insertion : Insertion) (name : Text) {body : Text}
    (tight : Text.Tight (insertion.toValues ++ body))
    : Text.Tight (insertion.throughRows name body) :=
  (tight.append name).append insertion.plainly.opening

theorem throughRows_eq (insertion : Insertion) (name body : Text)
    : insertion.throughRows name body
      = insertion.before.text
        ++ (insertion.verb.spelling.text
          ++ insertion.fromInto (name ++ (insertion.toValues ++ body))) :=
  insertion.plainly.opening_append _

/-- The statement for the warehouse with a text for the name of the table. -/
def adaptedAs (insertion : Insertion) (placed : Text) : Text :=
  Text.trimEnd
      (insertion.verb.adapted ++ insertion.beforeInto.text ++ insertion.into.text
        ++ insertion.beforeName.text ++ placed ++ insertion.afterName.text
        ++ insertion.valuesWord.text ++ written Value.adapted insertion.rowPieces)
    ++ insertion.verb.clause

/-- The statement for the warehouse ends with its rows and what is said after them. -/
theorem adaptedAs_eq (insertion : Insertion) (placed : Text) {body spaces : Text}
    (rows : written Value.adapted insertion.rowPieces = body ++ spaces)
    (blank : Text.Blank spaces) (tight : Text.Tight (insertion.toValues ++ body))
    : insertion.adaptedAs placed
      = insertion.verb.spelling.text
        ++ insertion.fromInto (placed ++ (insertion.toValues ++ body))
        ++ insertion.verb.clause := by
  have trimmed := (tight.append (insertion.verb.spelling.text ++ insertion.beforeInto.text
    ++ insertion.into.text ++ insertion.beforeName.text ++ placed)).trimEnd_append blank
  rw [adaptedAs, Verb.adapted_eq, rows]
  simp only [toValues, fromInto, List.append_assoc] at trimmed ⊢
  rw [trimmed]
  simp only [List.append_assoc]

theorem throughRows_append (insertion : Insertion) (name body tail : Text)
    : insertion.throughRows name (body ++ tail) = insertion.throughRows name body ++ tail := by
  simp [throughRows]

section

variable {insertion : Insertion} {stored body spaces : Text}

theorem assembled_eq (rows : written Value.adapted insertion.rowPieces = body ++ spaces)
    : insertion.assembled stored Value.adapted
      = insertion.opening ++ (stored ++ (insertion.toValues
          ++ (body ++ (spaces ++ insertion.ending)))) := by
  rw [assembled, rows, List.append_assoc]

theorem adaptInsertion_of_insert {word : Spelling "INSERT"}
    (plain : insertion.verb = .insert word)
    (rows : written Value.adapted insertion.rowPieces = body ++ spaces)
    : Completion.adaptInsertion (insertion.assembled stored Value.adapted)
      = (insertion.throughRows stored (body ++ (spaces ++ insertion.ending)),
        insertion.verb.warnings) := by
  have same : insertion.plainly.opening = insertion.opening := by
    simp [opening, plainly, plain, Verb.spelling]
  rw [assembled_eq rows, Completion.adaptInsertion, lenientInsertion_insert plain,
    throughRows, same, plain]
  rfl

theorem adaptInsertion_of_lenient (lenient : ∀ word, insertion.verb ≠ .insert word)
    (rows : written Value.adapted insertion.rowPieces = body ++ spaces)
    (blank : Text.Blank spaces) (tight : Text.Tight (insertion.toValues ++ body))
    : Completion.adaptInsertion (insertion.assembled stored Value.adapted)
      = (insertion.throughRows stored (body ++ insertion.verb.clause),
        insertion.verb.warnings) := by
  have tightName := insertion.tight_throughRows stored tight
  obtain ⟨left, blankLeft, dropped⟩ := insertion.dropTerminator_ending tightName blank
  rw [← throughRows_append, throughRows] at dropped
  have clause : insertion.verb.clause = " ON CONFLICT DO NOTHING" := by
    cases kind : insertion.verb with
    | insert word => exact absurd kind (lenient word)
    | insertIgnore _ _ _ | replace _ => rfl
  rw [assembled_eq rows, adaptInsertion_lenient lenient, dropped,
    tightName.trimEnd_append blankLeft, throughRows_append, clause]

/-- The semicolon goes in the end, whether or not rows are passed over. -/
theorem exists_adaptInsertion (insertion : Insertion) (stored : Text)
    (rows : written Value.adapted insertion.rowPieces = body ++ spaces)
    (blank : Text.Blank spaces) (tight : Text.Tight (insertion.toValues ++ body))
    : ∃ tail, Completion.adaptInsertion (insertion.assembled stored Value.adapted)
          = (insertion.throughRows stored (body ++ tail), insertion.verb.warnings)
        ∧ ∀ name, ∃ left, Text.Blank left
          ∧ Completion.dropTerminator (insertion.throughRows name (body ++ tail))
            = insertion.throughRows name body ++ insertion.verb.clause ++ left := by
  have tightName (name : Text) := insertion.tight_throughRows name tight
  by_cases lenient : ∀ word, insertion.verb ≠ .insert word
  · refine ⟨_, adaptInsertion_of_lenient lenient rows blank tight, fun name => ?_⟩
    have kept :=
      (insertion.verb.tight_clause (tightName name)).dropTerminator_append Text.blank_nil
    rw [List.append_nil] at kept
    refine ⟨[], Text.blank_nil, ?_⟩
    rw [throughRows_append, kept, List.append_nil]
  · obtain ⟨word, plain⟩ : ∃ word, insertion.verb = .insert word := by simpa using lenient
    refine ⟨_, adaptInsertion_of_insert plain rows, fun name => ?_⟩
    obtain ⟨left, blankLeft, dropped⟩ := insertion.dropTerminator_ending (tightName name) blank
    refine ⟨left, blankLeft, ?_⟩
    rw [throughRows_append, dropped, plain, Verb.clause, List.append_nil]

end

/-- The statement for the warehouse begins with a letter. -/
theorem exists_adapted (insertion : Insertion) (text : Text)
    : ∃ first others, insertion.verb.spelling.text ++ text = first :: others
        ∧ Alphabet.isBlank first = false := by
  obtain ⟨first, more, same, letter⟩ := insertion.verb.spelling.exists_first
  exact ⟨first, more ++ text, by simp [same], Alphabet.isBlank_of_isAlpha letter⟩

/-- Completing an insertion in standard form gives the statement for the warehouse. -/
theorem NameForms.complete_assembled {target : Destination} {standard stored placed : Text}
    (forms : NameForms target standard stored placed) (insertion : Insertion)
    : Completion.complete target (insertion.assembled standard (·.byteForm.text))
      = (insertion.adaptedAs placed, insertion.warnings) := by
  obtain ⟨body, spaces, rows, blank, tight⟩ := insertion.exists_tight_rows Value.adapted
  obtain ⟨tail, inserted, dropped⟩ := insertion.exists_adaptInsertion stored rows blank tight
  obtain ⟨left, blankLeft, terminated⟩ := dropped placed
  have kind : StatementKind.ofStatement (insertion.assembled standard (·.byteForm.text))
      = .insert :=
    insertion.ofStatement_opening _
  have withoutNulls : (insertion.assembled standard (·.byteForm.text)).filter (· ≠ '\x00')
      = insertion.assembled stored (·.storedForm.text) :=
    forms.kept_assembled insertion
  have isPlaced
      : Completion.placeTables target .insert (insertion.throughRows stored (body ++ tail))
        = insertion.throughRows placed (body ++ tail) :=
    forms.placeTables_plainly insertion (body ++ tail)
  have trimmed
      : Text.trim (insertion.throughRows placed body ++ insertion.verb.clause ++ left)
        = insertion.adaptedAs placed := by
    have adapted := insertion.adaptedAs_eq placed rows blank tight
    have tightAdapted : Text.Tight (insertion.adaptedAs placed) := by
      rw [adapted]
      exact insertion.verb.tight_clause
        (((((tight.append _).append _).append _).append _).append _)
    rw [List.append_assoc] at adapted
    obtain ⟨first, others, begins, notBlank⟩ := insertion.exists_adapted _
    have alone := tightAdapted.trim_append (adapted.trans begins) notBlank
      insertion.before.blank blankLeft
    rw [adapted] at alone ⊢
    rw [throughRows_eq]
    simpa using alone
  unfold Completion.complete
  rw [kind, forms.requote_assembled, withoutNulls]
  dsimp only
  rw [forms.adaptLiterals_assembled]
  dsimp only
  rw [if_pos rfl, if_neg (by decide), inserted]
  dsimp only
  rw [isPlaced, terminated, trimmed]
  rfl

/-- Completing the halfway form of an insertion gives the statement for the warehouse. -/
theorem complete_halfway (insertion : Insertion) (target : Destination)
    : Completion.complete target insertion.halfway
      = (insertion.adapted target, insertion.warnings) :=
  (insertion.name.forms target).complete_assembled insertion

/-- The rows of an insertion come through adapting by patterns and completing: adapting succeeds,
and the statement for the warehouse has the same tuples with the same values in order, each in the
form of the warehouse. Reading a quote written twice as one gives the value of every string back.
-/
theorem insertion_comes_through (insertion : Insertion) (target : Destination)
    : (∃ sql, (ByPattern.strategy.adapt target insertion.source).result = .ok sql
        ∧ Completion.complete target sql = (insertion.adapted target, insertion.warnings))
      ∧ ∀ value, Text.halving '\'' (Text.doubling '\'' value) = value :=
  ⟨⟨insertion.halfway, insertion.adapt_source target, insertion.complete_halfway target⟩,
    Text.halving_doubling '\''⟩

end DumpTransfer.Conversion.Insertion
