import DumpTransfer.Proofs.Conversion.Headings
import DumpTransfer.Proofs.Text.Noting

/-! What is read off the beginning of a statement about a table. The scanner finds the name, the
first words tell what is done, and the patterns of completion end where the name begins.
-/

namespace DumpTransfer.Conversion.Heading

open Sql Pattern
open Insertion (Spelling)

variable {tail : Text} {quote : Char}

-----------------------------------------------------------------------------------------
-- The scanner
-----------------------------------------------------------------------------------------

/-- A form of the scanner that records a name finds what the name says. -/
theorem nameIn_of_noting {form : Pattern} {text written rest : Text}
    (takes : form.TakesNoting text rest [("name", written)])
    : Dump.Marker.nameIn form (text ++ rest) = some (SourceName.decode written) := by
  obtain ⟨reached, -, noted, goesOn⟩ := takes (.start (text ++ rest)) rfl
  have matched : form.matchStart? (text ++ rest) = some reached := goesOn some reached rfl
  have recorded : reached.group? "name" = some written := by
    rw [Place.group?_eq, noted]
    rfl
  rw [Dump.Marker.nameIn, matched]
  change SourceName.at? reached "name" = _
  rw [SourceName.at?, recorded, Option.map_some]

/-- A form of the scanner that takes what stands before a name finds the name. -/
theorem nameIn_of_takes {form : Pattern} {before : Text} (between : Gap) (name : Name)
    (follows : Follows tail)
    (takes : form.Takes before (between.text ++ (name.written '`' ++ tail)))
    : Dump.Marker.nameIn (form ++ Dump.Marker.tableName)
        (before ++ (between.text ++ (name.written '`' ++ tail))) = some name.value := by
  have named
      : Dump.Marker.tableName.TakesNoting (between.text ++ name.written '`') tail
          [("name", name.written '`')] :=
    (between.takes (name.stops (Or.inl rfl) tail)).noting.append
      ((name.takes follows).noting.group "name")
  have found := nameIn_of_noting (TakesNoting.append (by simpa using takes.noting) named)
  simpa [name.decode] using found

/-- Conditions on a table are missed where its name stands. -/
theorem Gap.misses_guard (between : Gap) (kind : IsQuote quote) (name : Name)
    (follows : Follows tail) (body : Pattern)
    : (gap ++ (letters "IF" ++ (gap ++ body))).Misses
        (between.text ++ (name.written quote ++ tail)) :=
  between.misses (name.stops kind tail)
    (fun _ blank => (letters_cannotBegin_blank rfl blank).append _)
    (name.misses_guard kind follows body)

theorem guard_takes {second : String} {others : List String}
    (known : (second :: others).all isKeyword = true)
    (guard : Option (Phrase ("IF" :: second :: others))) (between : Gap) (kind : IsQuote quote)
    (name : Name) (follows : Follows tail)
    : (optional (gap ++ words ("IF" :: second :: others))).Takes (optionalText guard)
        (between.text ++ (name.written quote ++ tail)) := by
  have all : ("IF" :: second :: others).all isKeyword = true :=
    Bool.and_eq_true_iff.mpr ⟨rfl, known⟩
  exact optional_takes all guard
    (between.misses_guard kind name follows (words (second :: others)))

/-- What the scanner looks for before the name of the table. -/
def Act.form : Act → Pattern
  | create _ _ _ _ =>
      .letters "CREATE" ++ Dump.Marker.modifier (.letters "TEMPORARY") ++ .gap ++ .letters "TABLE"
        ++ Dump.Marker.modifier (.words ["IF", "NOT", "EXISTS"])
  | drop _ _ _ =>
      .words ["DROP", "TABLE"] ++ Dump.Marker.modifier (.words ["IF", "EXISTS"])
  | insert _ _ _ =>
      .letters "INSERT"
        ++ Dump.Marker.modifier (.anyWord ["LOW_PRIORITY", "DELAYED", "HIGH_PRIORITY"])
        ++ Dump.Marker.modifier (.letters "IGNORE") ++ .gap ++ .letters "INTO"
  | replace _ _ _ =>
      .letters "REPLACE" ++ Dump.Marker.modifier (.anyWord ["LOW_PRIORITY", "DELAYED"])
        ++ .gap ++ .letters "INTO"

/-- The scanner takes what stands before a name that is not taken for conditions. -/
theorem Act.form_takes_of_misses (act : Act) {following : Text}
    (noGuard : ∀ body, (gap ++ (letters "IF" ++ (gap ++ body))).Misses following)
    : act.form.Takes act.text following := by
  cases act with
  | create verb temporary table guard =>
      have notTemporary (rest : Text)
          : (gap ++ anyWord ["TEMPORARY"]).Misses (table.text ++ rest) :=
        table.misses rfl rfl (by decide) rest
      refine (spelling_takes rfl verb _).append <|
        (optional_takes rfl temporary ?_).append <| (table.takes rfl _).append <|
          optional_takes rfl guard (noGuard _)
      rw [List.append_assoc]
      exact notTemporary _
  | drop verb table guard =>
      exact (spelling_takes rfl verb _).append <| (table.takes rfl _).append <|
        optional_takes rfl guard (noGuard _)
  | insert verb ignore into =>
      have noPriority
          : (Dump.Marker.modifier (anyWord ["LOW_PRIORITY", "DELAYED", "HIGH_PRIORITY"])).Takes []
              (optionalText ignore ++ into.text ++ following) := by
        refine Misses.optional_takes ?_
        rw [List.append_assoc]
        cases ignore with
        | none => exact into.misses rfl rfl (by decide) _
        | some ignore => exact ignore.misses rfl rfl (by decide) _
      have notIgnore (rest : Text) : (gap ++ anyWord ["IGNORE"]).Misses (into.text ++ rest) :=
        into.misses rfl rfl (by decide) rest
      exact (spelling_takes rfl verb _).append <| noPriority.append <|
        (optional_takes rfl ignore (notIgnore _)).append (into.takes rfl _)
  | replace verb priority into =>
      exact (spelling_takes rfl verb _).append <|
        (priority_takes priority (into.misses rfl rfl (by decide) _)).append (into.takes rfl _)

/-- The scanner takes what stands before the name. -/
theorem Act.form_takes (act : Act) (between : Gap) (name : Name) (follows : Follows tail)
    : act.form.Takes act.text (between.text ++ (name.written '`' ++ tail)) :=
  act.form_takes_of_misses (between.misses_guard (Or.inl rfl) name follows)

/-- A text that begins with a word in either case begins with a letter whose capital is known. -/
theorem head_of_spelling {word : String} {capital : Char} {others : List Char}
    (spelled : word.toList = capital :: others) (spelling : Spelling word) (rest : Text)
    : (spelling.text ++ rest).head?.map Char.toUpper = some capital := by
  have spells := spelling.spells
  rw [Text.ofString_eq, spelled] at spells
  obtain ⟨first, more, same, upper, _⟩ := List.map_eq_cons_iff.mp spells
  rw [same]
  exact congrArg some upper

/-- The first character of a statement about a table tells the scanner what to look for. -/
theorem Act.ofLine_of_nameIn (act : Act) {rest name : Text}
    (found : Dump.Marker.nameIn (act.form ++ Dump.Marker.tableName) (act.text ++ rest) = some name)
    : Dump.Marker.ofLine (act.text ++ rest) = act.marker name := by
  unfold Dump.Marker.ofLine
  cases act with
  | create verb temporary table guard =>
      have head (rest : Text) : (verb.text ++ rest).head?.map Char.toUpper = some 'C' :=
        head_of_spelling rfl verb rest
      rw [Act.text, List.append_assoc] at found ⊢
      rw [head]
      exact congrArg (fun name? => (name?.map Dump.Marker.definition).getD .other) found
  | drop verb table guard =>
      have head (rest : Text) : (verb.text ++ rest).head?.map Char.toUpper = some 'D' :=
        head_of_spelling rfl verb rest
      rw [Act.text, List.append_assoc] at found ⊢
      rw [head]
      exact congrArg (fun name? => (name?.map Dump.Marker.removal).getD .other) found
  | insert verb ignore into =>
      have head (rest : Text) : (verb.text ++ rest).head?.map Char.toUpper = some 'I' :=
        head_of_spelling rfl verb rest
      rw [Act.text, List.append_assoc] at found ⊢
      rw [head]
      exact congrArg (fun name? => (name?.map Dump.Marker.rows).getD .other) found
  | replace verb priority into =>
      have head (rest : Text) : (verb.text ++ rest).head?.map Char.toUpper = some 'R' :=
        head_of_spelling rfl verb rest
      rw [Act.text, List.append_assoc] at found ⊢
      rw [head]
      exact congrArg (fun name? => (name?.map Dump.Marker.rows).getD .other) found

/-- Every line that begins like a statement about a table is told to be one, with its name. -/
theorem ofLine_heading (heading : Heading) (name : Name) (follows : Follows tail)
    : Dump.Marker.ofLine (heading.text ++ (name.written '`' ++ tail))
      = heading.act.marker name.value := by
  obtain ⟨act, between⟩ := heading
  rw [text, List.append_assoc]
  exact act.ofLine_of_nameIn (nameIn_of_takes between name follows
    (act.form_takes between name follows))

-----------------------------------------------------------------------------------------
-- What is done
-----------------------------------------------------------------------------------------

/-- A text that begins with white space, if with anything. -/
def Opens (text : Text) : Prop :=
  ∀ char ∈ text.head?, Alphabet.isBlank char = true

theorem Gap.opens (between : Gap) (rest : Text)
    : Opens (between.text ++ rest) := by
  obtain ⟨first, more, same, blank⟩ := between.exists_first
  simpa [Opens, same] using blank

theorem Phrase.opens {words : List String} (phrase : Phrase words) (rest : Text)
    : Opens (phrase.text ++ rest) := by
  obtain ⟨first, more, same, blank⟩ := phrase.exists_first
  simpa [Opens, same] using blank

theorem opens_optional {words : List String} (phrase : Option (Phrase words)) {rest : Text}
    (opens : Opens rest)
    : Opens (optionalText phrase ++ rest) := by
  cases phrase with
  | none => exact opens
  | some phrase => exact phrase.opens rest

theorem opens_priority (priority : Option Priority) {rest : Text} (opens : Opens rest)
    : Opens (priorityText priority ++ rest) := by
  rcases priority with _ | ⟨phrase | phrase⟩
  · exact opens
  · exact phrase.opens rest
  · exact phrase.opens rest

/-- A word is the next one past white space. -/
theorem nextWord_spelling {word : String} (known : isKeyword word = true) {spaces : Text}
    (blank : Text.Blank spaces) (spelling : Spelling word) {rest : Text} (opens : Opens rest)
    : StatementKind.nextWord (spaces ++ (spelling.text ++ rest)) = (Text.ofString word, rest) := by
  have separates {char : Char} (blank : Alphabet.isBlank char = true)
      : StatementKind.separates char = true := by
    simp [StatementKind.separates, blank]
  have inWord : ∀ char ∈ spelling.text, StatementKind.separates char = false := by
    intro char member
    rcases isUpper_or_of_mem known member with upper | rfl
    · exact Insertion.separates_of_isAlpha (Alphabet.isAlpha_of_toUpper upper)
    · decide
  have passed : (spaces ++ (spelling.text ++ rest)).dropWhile StatementKind.separates
      = spelling.text ++ rest := by
    obtain ⟨first, more, same⟩ := List.exists_cons_of_ne_nil (spelling_ne_nil known spelling)
    rw [List.dropWhile_append_of_pos fun char member => separates (blank char member), same,
      List.cons_append,
      List.dropWhile_cons_of_neg (by simp [inWord first (by simp [same])])]
  have stop : ∀ char ∈ rest.head?, (! StatementKind.separates char) = false := by
    intro char head
    rw [separates (opens char head), Bool.not_true]
  obtain ⟨taken, left⟩ := Text.span_append spelling.text stop
  have all : ∀ char ∈ spelling.text, (! StatementKind.separates char) = true :=
    fun char member => by rw [inWord char member, Bool.not_false]
  rw [StatementKind.nextWord, passed, taken, left, List.takeWhile_eq_self_iff.mpr all,
    List.dropWhile_eq_nil_iff.mpr all, spelling.spells, List.nil_append]

theorem nextWord_phrase {word : String} (known : isKeyword word = true) (phrase : Phrase [word])
    {rest : Text} (opens : Opens rest)
    : StatementKind.nextWord (phrase.text ++ rest) = (Text.ofString word, rest) := by
  obtain ⟨between, spelling⟩ := phrase
  rw [Phrase.text, List.append_assoc]
  exact nextWord_spelling known between.blank spelling opens

/-- The verb of a statement is its first word. -/
theorem nextWord_verb {word : String} (known : isKeyword word = true) (verb : Spelling word)
    {rest : Text} (opens : Opens rest)
    : StatementKind.nextWord (verb.text ++ rest) = (Text.ofString word, rest) := by
  exact nextWord_spelling known Text.blank_nil verb opens

/-- The first words of a statement about a table tell what it does. -/
theorem ofStatement_heading (heading : Heading) (rest : Text)
    : StatementKind.ofStatement (heading.text ++ rest) = heading.act.kind := by
  obtain ⟨act, between⟩ := heading
  have apart : Text.ofString "INSERT" ≠ "CREATE" ∧ Text.ofString "INSERT" ≠ "DROP"
      ∧ Text.ofString "REPLACE" ≠ "CREATE" ∧ Text.ofString "REPLACE" ≠ "DROP"
      ∧ Text.ofString "DROP" ≠ "CREATE" ∧ Text.ofString "TEMPORARY" ≠ "TABLE" := by
    simp only [Text.ofString_eq]
    decide
  have opens := between.opens rest
  rw [text, List.append_assoc]
  unfold StatementKind.ofStatement
  cases act with
  | create verb temporary table guard =>
      have second := nextWord_phrase rfl table (opens_optional guard opens)
      have opened := table.opens (optionalText guard ++ (between.text ++ rest))
      have first := nextWord_verb rfl verb (opens_optional temporary opened)
      rw [Act.text, List.append_assoc, List.append_assoc, List.append_assoc, first]
      cases temporary with
      | none => simp [second, Act.kind]
      | some temporary =>
          have between := nextWord_phrase rfl temporary opened
          simp [between, second, Act.kind]
  | drop verb table guard =>
      have second := nextWord_phrase rfl table (opens_optional guard opens)
      have first := nextWord_verb rfl verb
        (table.opens (optionalText guard ++ (between.text ++ rest)))
      rw [Act.text, List.append_assoc, List.append_assoc, first]
      simp [second, apart, Act.kind]
  | insert verb ignore into =>
      have first := nextWord_verb rfl verb
        (opens_optional ignore (into.opens (between.text ++ rest)))
      rw [Act.text, List.append_assoc, List.append_assoc, first]
      simp [apart, Act.kind]
  | replace verb priority into =>
      have first := nextWord_verb rfl verb
        (opens_priority priority (into.opens (between.text ++ rest)))
      rw [Act.text, List.append_assoc, List.append_assoc, first]
      simp [apart, Act.kind]

-----------------------------------------------------------------------------------------
-- The words before the name
-----------------------------------------------------------------------------------------

/-- The words before the name of a new table are taken. The white space after the word for a
temporary table belongs to that word here.
-/
theorem create_takes (verb : Spelling "CREATE") (temporary : Option (Phrase ["TEMPORARY"]))
    (table : Phrase ["TABLE"]) (guard : Option (Phrase ["IF", "NOT", "EXISTS"])) (between : Gap)
    (kind : IsQuote quote) (name : Name) (follows : Follows tail)
    : (letters "CREATE" ++ (gap ++ (optional (letters "TEMPORARY" ++ gap)
          ++ (letters "TABLE" ++ optional (gap ++ words ["IF", "NOT", "EXISTS"]))))).Takes
        (Act.create verb temporary table guard).text
        (between.text ++ (name.written quote ++ tail)) := by
  -- The gap before the last word is cut off, since the modifier takes it along if there is one.
  obtain ⟨beforeTable, tableWord⟩ := table
  have tableTaken := (spelling_takes rfl tableWord _).append
    (guard_takes rfl guard between kind name follows)
  have stops : ∀ char ∈ (tableWord.text ++ optionalText guard
      ++ (between.text ++ (name.written quote ++ tail))).head?, Alphabet.isBlank char = false := by
    rw [List.append_assoc]
    exact spelling_stops rfl tableWord _
  rw [Act.text, Phrase.text]
  refine (spelling_takes rfl verb _).append ?_
  cases temporary with
  | none =>
      have notTemporary
          : (optional (letters "TEMPORARY" ++ gap)).Takes []
              (tableWord.text ++ optionalText guard
                ++ (between.text ++ (name.written quote ++ tail))) := by
        refine Misses.optional_takes (Misses.append ?_ gap)
        rw [List.append_assoc]
        exact spelling_misses rfl (by decide) tableWord _
      have words := (beforeTable.takes stops).append (notTemporary.append tableTaken)
      simpa using words
  | some temporary =>
      obtain ⟨beforeTemporary, temporaryWord⟩ := temporary
      have isTemporary := ((spelling_takes rfl temporaryWord _).append
        (beforeTable.takes stops)).optional.append tableTaken
      have words := (beforeTemporary.takes (by
        rw [List.append_assoc, List.append_assoc]
        exact spelling_stops rfl temporaryWord _)).append isTemporary
      simpa [Phrase.text] using words

/-- The words of a completed statement are taken. -/
theorem Act.target_takes (act : Act) (between : Gap) (kind : IsQuote quote) (name : Name)
    (follows : Follows tail)
    : Insertion.targetWords.Takes act.completed.text
        (between.text ++ (name.written quote ++ tail)) := by
  have insert (verb : Spelling "INSERT") (into : Phrase ["INTO"])
      : Insertion.targetWords.Takes (verb.text ++ into.text)
          (between.text ++ (name.written quote ++ tail)) := by
    have words := (spelling_takes rfl verb _).append
      (into.takes rfl (between.text ++ (name.written quote ++ tail)))
    refine Misses.orElse_takes ?_ (Misses.orElse_takes ?_ (words.orElse _))
    · rw [List.append_assoc]
      exact ((((spelling_misses rfl (by decide) verb _).append _).append _).append _).append _
    · rw [List.append_assoc]
      exact (((spelling_misses rfl (by decide) verb _).append _).append _).append _
  cases act with
  | create verb temporary table guard =>
      exact (create_takes verb temporary table guard between kind name follows).orElse _
  | drop verb table guard =>
      have words := (spelling_takes rfl verb _).append <| (table.takes rfl _).append <|
        guard_takes rfl guard between kind name follows
      refine Misses.orElse_takes ?_ (words.orElse _)
      rw [completed, Act.text, List.append_assoc]
      exact ((((spelling_misses rfl (by decide) verb _).append _).append _).append _).append _
  | insert verb ignore into =>
      cases ignore with
      | none => exact insert verb into
      | some ignore => exact insert _ into
  | replace verb priority into => exact insert _ into

/-- A statement begins with a letter. -/
theorem text_stops (heading : Heading) (rest : Text)
    : ∀ char ∈ (heading.text ++ rest).head?, Alphabet.isBlank char = false := by
  obtain ⟨act, between⟩ := heading
  rw [text]
  cases act with
  | create verb _ _ _ | drop verb _ _ | insert verb _ _ | replace verb _ _ =>
      rw [Act.text, List.append_assoc, List.append_assoc]
      exact spelling_stops rfl verb _

/-- The words of a completed statement end where the name of the table begins. -/
theorem beforeTarget_heading (heading : Heading) (kind : IsQuote quote) (name : Name)
    (follows : Follows tail)
    : Completion.beforeTarget.matchStart? (heading.completed.text ++ (name.written quote ++ tail))
      = some ((Place.start (heading.completed.text ++ (name.written quote ++ tail))).past
          heading.completed.text (name.written quote ++ tail)) := by
  have words := (heading.act.target_takes heading.beforeName kind name follows).append
    (heading.beforeName.takes (name.stops kind tail))
  have indented : blanks.Takes [] (heading.completed.text ++ (name.written quote ++ tail)) :=
    run_takes (by simp) (heading.completed.text_stops _)
  rw [Insertion.beforeTarget_eq, matchStart?, matchAt?, append_andThen, append_andThen,
    append_andThen, textStart, check_andThen rfl]
  exact (indented.append words) some _ _ rfl rfl

-----------------------------------------------------------------------------------------
-- Insertions
-----------------------------------------------------------------------------------------

open Insertion (lenientVerb intoWord)

/-- The word before a name is taken with the white space before it. -/
theorem intoWord_takes (into : Phrase ["INTO"]) (between : Gap) (rest : Text)
    : intoWord.Takes into.text (between.text ++ rest) := by
  obtain ⟨beforeInto, spelling⟩ := into
  intro next place reached after found
  refine beforeInto.takes (spelling_stops rfl spelling (between.text ++ rest)) _ _ reached
    (after.trans (List.append_assoc _ _ _)) ?_
  refine spelling_takes rfl spelling _ _ _ reached rfl ?_
  obtain ⟨init, last, spelled, letter⟩ := spelling.exists_last
  obtain ⟨first, more, same, blank⟩ := between.exists_first
  have inside : Alphabet.isWord last = true := Alphabet.isWord_of_isAlpha letter
  have outside : Alphabet.isWord first = false := (apart_of_isBlank blank).1
  rw [wordEdge_andThen, Place.past_past, if_neg]
  · exact found
  · simp [spelled, same, inside, outside]

/-- The parts of a match of an insertion that passes over rows with a known key. -/
theorem lenientInsertion_of_takes {verb into rest : Text}
    (takesVerb : lenientVerb.Takes verb (into ++ rest)) (takesInto : intoWord.Takes into rest)
    (stops : ∀ char ∈ (verb ++ (into ++ rest)).head?, Alphabet.isBlank char = false)
    : ∃ place,
        Completion.lenientInsertion.matchStart? (verb ++ (into ++ rest)) = some place
        ∧ place.group "indent" = []
        ∧ place.group "into" = into
        ∧ place.after = rest := by
  let start := Place.start (verb ++ (into ++ rest))
  let indented := (start.past [] (verb ++ (into ++ rest))).record "indent" start
  let done := (indented.past verb (into ++ rest)).record "verb" indented
  refine ⟨(done.past into rest).record "into" done, ?_, ?_, ?_, rfl⟩
  · have indent : blanks.Takes [] (verb ++ (into ++ rest)) := run_takes (by simp) stops
    rw [Insertion.lenientInsertion_eq, matchStart?, matchAt?, append_andThen, append_andThen,
      append_andThen, textStart, check_andThen rfl, group_andThen]
    refine indent _ start _ rfl ?_
    rw [group_andThen]
    refine takesVerb _ indented _ rfl ?_
    rw [group_andThen]
    exact takesInto _ done _ rfl rfl
  · rw [Place.group_record_of_ne _ _ (by decide), Place.group_past,
      Place.group_record_of_ne _ _ (by decide), Place.group_past, Place.group_record,
      Place.textSince_past]
  · rw [Place.group_record, Place.textSince_past]

/-- An insertion that passes over rows with a known key is completed by saying so in the end. -/
theorem adaptInsertion_of_takes {verb : Text} (into : Phrase ["INTO"]) (between : Gap)
    (rest : Text) (takesVerb : lenientVerb.Takes verb (into.text ++ (between.text ++ rest)))
    (stops : ∀ char ∈ (verb ++ (into.text ++ (between.text ++ rest))).head?,
      Alphabet.isBlank char = false)
    : (Completion.adaptInsertion (verb ++ (into.text ++ (between.text ++ rest)))).1
      = Text.trimEnd (Completion.dropTerminator
          (Text.ofString "INSERT" ++ (into.text ++ (between.text ++ rest))))
        ++ " ON CONFLICT DO NOTHING" := by
  obtain ⟨place, matched, indent, word, after⟩ :=
    lenientInsertion_of_takes takesVerb (intoWord_takes into between rest) stops
  rw [Completion.adaptInsertion, matched]
  dsimp only
  rw [indent, word, after, List.nil_append, List.append_assoc]

/-- A plain insertion is complete. -/
theorem adaptInsertion_of_misses {text : Text}
    (stops : ∀ char ∈ text.head?, Alphabet.isBlank char = false)
    (misses : lenientVerb.Misses text)
    : Completion.adaptInsertion text = (text, []) := by
  have indent (next : Continuation)
      : blanks.andThen next (.start text) = next ((Place.start text).past [] text) :=
    run_andThen rfl (by simp) stops (by simp)
  have nothing : Completion.lenientInsertion.matchStart? text = none := by
    rw [Insertion.lenientInsertion_eq, matchStart?, matchAt?, append_andThen, append_andThen,
      append_andThen, textStart, check_andThen rfl, group_andThen, indent]
    exact misses _ _ rfl
  rw [Completion.adaptInsertion, nothing]

theorem lenientVerb_misses (verb : Spelling "INSERT") (into : Phrase ["INTO"]) (rest : Text)
    : lenientVerb.Misses (verb.text ++ (into.text ++ rest)) := by
  have noIgnore : (gap ++ anyWord ["IGNORE"]).Misses (into.text ++ rest) :=
    into.misses rfl rfl (by decide) rest
  refine Misses.orElse ?_ ((spelling_misses rfl (by decide) verb _).append _)
  exact noIgnore.after_letters (foldCase_spelling rfl verb)

theorem lenientVerb_ignore (verb : Spelling "INSERT") (ignore : Phrase ["IGNORE"]) (rest : Text)
    : lenientVerb.Takes (verb.text ++ ignore.text) rest :=
  ((spelling_takes rfl verb _).append (ignore.takes rfl rest)).orElse _

theorem lenientVerb_replace (verb : Spelling "REPLACE") (priority : Option Priority)
    (into : Phrase ["INTO"]) (rest : Text)
    : lenientVerb.Takes (verb.text ++ priorityText priority) (into.text ++ rest) := by
  refine Misses.orElse_takes ?_ ?_
  · rw [List.append_assoc]
    exact ((spelling_misses rfl (by decide) verb _).append _).append _
  · exact (spelling_takes rfl verb _).append
      (priority_takes priority (into.misses rfl rfl (by decide) rest))

/-- An insertion is complete already, or it begins like the completed statement and says in the
end that rows are passed over.
-/
theorem adaptInsertion_heading (heading : Heading) (kind : heading.act.kind = .insert) (rest : Text)
    : (Completion.adaptInsertion (heading.text ++ rest)).1 = heading.completed.text ++ rest
      ∨ (Completion.adaptInsertion (heading.text ++ rest)).1
          = Text.trimEnd (Completion.dropTerminator (heading.completed.text ++ rest))
            ++ " ON CONFLICT DO NOTHING" := by
  have stops := heading.text_stops rest
  obtain ⟨act, between⟩ := heading
  cases act with
  | create _ _ _ _ | drop _ _ _ => cases kind
  | insert verb ignore into =>
      cases ignore with
      | none =>
          refine Or.inl (congrArg Prod.fst (adaptInsertion_of_misses stops ?_))
          simpa [text, Act.text] using lenientVerb_misses verb into (between.text ++ rest)
      | some ignore =>
          have layout : (Heading.mk (.insert verb (some ignore) into) between).text ++ rest
              = verb.text ++ ignore.text ++ (into.text ++ (between.text ++ rest)) := by
            simp [text, Act.text]
          rw [layout] at stops ⊢
          refine Or.inr ((adaptInsertion_of_takes into between rest
            (lenientVerb_ignore verb ignore _) stops).trans ?_)
          simp [completed, text, Act.completed, Act.text]
  | replace verb priority into =>
      have layout : (Heading.mk (.replace verb priority into) between).text ++ rest
          = verb.text ++ priorityText priority ++ (into.text ++ (between.text ++ rest)) := by
        simp [text, Act.text]
      rw [layout] at stops ⊢
      refine Or.inr ((adaptInsertion_of_takes into between rest
        (lenientVerb_replace verb priority into _) stops).trans ?_)
      simp [completed, text, Act.completed, Act.text]

end DumpTransfer.Conversion.Heading
