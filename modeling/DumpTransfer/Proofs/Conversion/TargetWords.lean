import DumpTransfer.Proofs.Conversion.Headings
import DumpTransfer.Proofs.Text.Languages

/-! The words before the names of tables. Where they end depends on what follows only as far as it
could be one more of them, so they end at the same place before every text that cannot be.
-/

namespace DumpTransfer.Conversion.TargetWords

open Heading (isKeyword areApart)
open Insertion (targetWords)
open Pattern
open Text (InRow Either IsGap Spells Spelled)

variable {text rest : Text}

-----------------------------------------------------------------------------------------
-- What is taken for a word
-----------------------------------------------------------------------------------------

/-- A text begins with characters up to a quote or a dot, none of which is white space. No word
with white space after it stands there.
-/
def Unworded (text : Text) : Prop :=
  ∃ before mark after,
    text = before ++ mark :: after
    ∧ (mark = '"' ∨ mark = '.')
    ∧ ∀ char ∈ before, Alphabet.isBlank char = false

theorem Unworded.stops (unworded : Unworded rest)
    : ∀ char ∈ rest.head?, Alphabet.isBlank char = false := by
  obtain ⟨before, mark, after, rfl, isMark, solid⟩ := unworded
  intro char head
  cases before with
  | nil =>
      obtain rfl : mark = char := Option.some.inj head
      rcases isMark with rfl | rfl <;> decide
  | cons first more =>
      obtain rfl : first = char := Option.some.inj head
      exact solid first (by simp)

/-- Neither a quote nor a dot is part of a word. -/
theorem mark_not_mem {word : String} (known : isKeyword word = true)
    (spells : Spells word text) {mark : Char} (isMark : mark = '"' ∨ mark = '.')
    : mark ∉ text := by
  intro member
  have folded : Alphabet.foldCase mark ∈ word.toList.map Char.toLower := by
    rw [← spells]
    exact List.mem_map_of_mem member
  obtain ⟨char, inWord, same⟩ := List.mem_map.mp folded
  have noLetter : (Alphabet.foldCase mark).isAlpha = false ∧ Alphabet.foldCase mark ≠ '_' := by
    rcases isMark with rfl | rfl <;> decide
  have all := List.all_eq_true.mp (Bool.and_eq_true_iff.mp known).2 char inWord
  rw [← same] at noLetter
  rcases Bool.or_eq_true_iff.mp all with upper | line
  · have letter : char.toLower.isAlpha = true := by
      rw [Alphabet.isUpper_iff] at upper
      rw [Alphabet.isAlpha_iff, Alphabet.toNat_toLower, if_pos upper]
      omega
    rw [letter] at noLetter
    cases noLetter.1
  · obtain rfl : char = '_' := of_decide_eq_true line
    exact noLetter.2 rfl

/-- White space comes after the mark. -/
theorem Unworded.exists_mark {before after : Text} {space : Char}
    (unworded : Unworded (before ++ space :: after)) (blank : Alphabet.isBlank space = true)
    : ∃ mark ∈ before, mark = '"' ∨ mark = '.' := by
  obtain ⟨solidPart, mark, others, begins, isMark, solid⟩ := unworded
  have notBlank : Alphabet.isBlank mark = false := by rcases isMark with rfl | rfl <;> rfl
  rcases List.append_eq_append_iff.mp begins with
    ⟨between, rfl, tail⟩ | ⟨between, rfl, tail⟩
  · cases between with
    | nil =>
        obtain ⟨rfl, -⟩ := List.cons.inj tail
        exact Bool.noConfusion (blank.symm.trans notBlank)
    | cons first between =>
        obtain ⟨rfl, -⟩ := List.cons.inj tail
        exact Bool.noConfusion (blank.symm.trans (solid space (by simp)))
  · cases between with
    | nil =>
        obtain ⟨rfl, -⟩ := List.cons.inj tail
        exact Bool.noConfusion (blank.symm.trans notBlank)
    | cons first between =>
        obtain ⟨rfl, -⟩ := List.cons.inj tail
        exact ⟨mark, by simp, isMark⟩

/-- A word with white space after it is missed where none is. -/
theorem Unworded.misses (unworded : Unworded rest) {word : String} (known : isKeyword word = true)
    {second : Pattern}
    (needs : ∀ left, (∀ char ∈ left.head?, Alphabet.isBlank char = false) → second.Misses left)
    : (letters word ++ second).Misses rest := by
  intro next place after
  refine Option.eq_none_iff_forall_ne_some.mpr fun reached matched => ?_
  rw [append_andThen] at matched
  obtain ⟨between, matchedWord, later⟩ := exists_of_andThen matched
  obtain ⟨taken, left, split, spells, rfl⟩ := (describes_letters word _ _).mp matchedWord
  obtain ⟨space, head, blank⟩ : ∃ space ∈ left.head?, Alphabet.isBlank space = true := by
    by_contra none
    have missed := needs left (fun char head => Bool.eq_false_iff.mpr fun blank =>
      none ⟨char, head, blank⟩) next (place.past taken left) rfl
    rw [missed] at later
    cases later
  obtain ⟨more, rfl⟩ := List.head?_eq_some_iff.mp head
  -- The white space stands after the mark, which then is part of the word.
  obtain rfl : rest = taken ++ space :: more := after.symm.trans split
  obtain ⟨mark, member, isMark⟩ := unworded.exists_mark blank
  exact mark_not_mem known spells isMark member

theorem gap_misses_left {left : Text} (stops : ∀ char ∈ left.head?, Alphabet.isBlank char = false)
    : gap.Misses left :=
  gap_misses_of_stop stops (check fun _ => true)

-----------------------------------------------------------------------------------------
-- Words that are taken
-----------------------------------------------------------------------------------------

/-- A word begins with no white space. -/
theorem spells_stops {word : String} (known : isKeyword word = true) (spells : Spells word text)
    (rest : Text)
    : ∀ char ∈ (text ++ rest).head?, Alphabet.isBlank char = false := by
  obtain ⟨first, more, same, letter⟩ := Heading.exists_first_of_isKeyword known
  unfold Spells at spells
  rw [same, List.map_cons] at spells
  obtain ⟨char, others, rfl, folded, -⟩ := List.map_eq_cons_iff.mp spells
  intro other head
  obtain rfl : char = other := Option.some.inj head
  refine Bool.eq_false_iff.mpr fun blank => ?_
  have noLetter := Heading.foldCase_of_isBlank blank
  rw [folded, letter] at noLetter
  cases noLetter

theorem spelled_stops {word : String} {others : List String} (known : isKeyword word = true)
    (spelled : Spelled (word :: others) text) (rest : Text)
    : ∀ char ∈ (text ++ rest).head?, Alphabet.isBlank char = false := by
  cases others with
  | nil => exact spells_stops known spelled rest
  | cons second later =>
      obtain ⟨first, left, rfl, spells, -⟩ := spelled
      rw [List.append_assoc]
      exact spells_stops known spells _

theorem isGap_takes (between : IsGap text)
    (stops : ∀ char ∈ rest.head?, Alphabet.isBlank char = false)
    : gap.Takes text rest :=
  someOf_takes between.1 between.2 stops

/-- By induction over the words. -/
theorem spelled_takes {words : List String} (known : words.all isKeyword = true)
    (spelled : Spelled words text) (rest : Text)
    : (Pattern.words words).Takes text rest := by
  induction words generalizing text with
  | nil =>
      obtain rfl : text = [] := spelled
      intro next place reached after found
      have stands : place.after = rest := after
      rw [Place.past_nil stands] at found
      exact found
  | cons word others ih =>
      obtain ⟨wordKnown, othersKnown⟩ := Bool.and_eq_true_iff.mp known
      cases others with
      | nil => exact letters_takes spelled rest
      | cons second later =>
          obtain ⟨first, left, rfl, spells, between, more, rfl, isGap, last, none, rfl,
            spelledLater, rfl⟩ := spelled
          rw [List.append_nil, ← List.append_assoc]
          have stops := spelled_stops (List.all_cons ▸ othersKnown |> Bool.and_eq_true_iff.mp).1
            spelledLater rest
          exact ((letters_takes spells _).append (isGap_takes isGap stops)).append
            (ih othersKnown spelledLater)

theorem words_cannotBegin {word : String} {others : List String} (known : isKeyword word = true)
    {char : Char} (blank : Alphabet.isBlank char = true)
    : (Pattern.words (word :: others)).CannotBegin char := by
  have cannot := Heading.letters_cannotBegin_blank known blank
  cases others with
  | nil => exact cannot
  | cons second later => exact (cannot.append _).append _

theorem spelled_misses {word other : String} {others : List String}
    (apart : areApart word other = true) (spelled : Spelled (word :: others) text) (rest : Text)
    : (letters other).Misses (text ++ rest) := by
  cases others with
  | nil => exact Heading.letters_misses_of_areApart apart spelled rest
  | cons second later =>
      obtain ⟨first, left, rfl, spells, -⟩ := spelled
      rw [List.append_assoc]
      exact Heading.letters_misses_of_areApart apart spells _

/-- Words that may stand between a word and the white space before a name. -/
theorem optionalWords_takes {words : List String} {between : Text} (isThere : words ≠ [])
    (known : words.all isKeyword = true)
    (spelled : Text.Optional (InRow [IsGap, Spelled words]) text) (isGap : IsGap between)
    (unworded : Unworded rest)
    : (Pattern.optional (gap ++ Pattern.words words) ++ gap).Takes (text ++ between) rest := by
  have ending := isGap_takes isGap unworded.stops
  obtain ⟨word, others, rfl⟩ := List.exists_cons_of_ne_nil isThere
  obtain ⟨wordKnown, othersKnown⟩ := Bool.and_eq_true_iff.mp known
  rcases spelled with ⟨first, left, rfl, isFirst, last, none, rfl, spelled, rfl⟩ | none
  · rw [List.append_nil]
    have words := (isGap_takes isFirst (spelled_stops wordKnown spelled (between ++ rest))).append
      (spelled_takes known spelled (between ++ rest))
    exact words.optional.append ending
  · obtain rfl : text = [] := none
    refine Misses.optional_append_takes ?_ ending
    change (gap ++ (Pattern.words (word :: others) ++ gap)).Misses (between ++ rest)
    refine gap_misses isGap.1 isGap.2 unworded.stops (fun char blank => ?_) ?_
    · exact (words_cannotBegin wordKnown blank).append gap
    · cases others with
      | nil => exact unworded.misses wordKnown fun left => gap_misses_left
      | cons second later =>
          change (letters word ++ (gap ++ (Pattern.words (second :: later) ++ gap))).Misses rest
          exact unworded.misses wordKnown fun left stops => gap_misses_of_stop stops _

-----------------------------------------------------------------------------------------
-- The words before a table
-----------------------------------------------------------------------------------------

/-- The words that create a table. -/
def Creates : Text → Prop :=
  InRow [Spells "CREATE", IsGap, Text.Optional (InRow [Spells "TEMPORARY", IsGap]),
    Spells "TABLE", Text.Optional (InRow [IsGap, Spelled ["IF", "NOT", "EXISTS"]])]

/-- The words that drop tables. -/
def Drops : Text → Prop :=
  InRow [Spelled ["DROP", "TABLE"], Text.Optional (InRow [IsGap, Spelled ["IF", "EXISTS"]])]

/-- The words that empty a table. -/
def Empties : Text → Prop :=
  InRow [Spelled ["TRUNCATE"], Text.Optional (InRow [IsGap, Spelled ["TABLE"]])]

/-- The words that a statement about tables begins with. -/
def Opens : Text → Prop :=
  Either Creates (Either Drops (Either (Spelled ["INSERT", "INTO"])
    (Either (Spelled ["DELETE", "FROM"]) Empties)))

theorem describes_targetWords
    : targetWords.Describes Opens := by
  have guard (words : List String)
      : (Pattern.optional (gap ++ Pattern.words words)).Describes
          (Text.Optional (InRow [IsGap, Spelled words])) :=
    ((describes_someOf _).append (describes_words words).single).optional
  have temporary
      : (Pattern.optional (letters "TEMPORARY" ++ gap)).Describes
          (Text.Optional (InRow [Spells "TEMPORARY", IsGap])) :=
    ((describes_letters _).append (describes_someOf _).single).optional
  have gaps : gap.Describes IsGap := describes_someOf Alphabet.isBlank
  have creates := ((((describes_letters "CREATE").single.then gaps).then
    temporary).then (describes_letters "TABLE")).then (guard ["IF", "NOT", "EXISTS"])
  have drops := (describes_words ["DROP", "TABLE"]).single.then (guard ["IF", "EXISTS"])
  have empties := (describes_words ["TRUNCATE"]).single.then (guard ["TABLE"])
  exact creates.orElse <| drops.orElse <| (describes_words _).orElse <|
    (describes_words _).orElse empties

theorem creates_takes {between : Text} (creates : Creates text) (isGap : IsGap between)
    (unworded : Unworded rest)
    : (letters "CREATE" ++ (gap ++ (Pattern.optional (letters "TEMPORARY" ++ gap)
          ++ (letters "TABLE"
            ++ (Pattern.optional (gap ++ Pattern.words ["IF", "NOT", "EXISTS"]) ++ gap))))).Takes
        (text ++ between) rest := by
  obtain ⟨verb, _, rfl, spellsVerb, afterVerb, _, rfl, isGapVerb, modifier, _, rfl, temporary,
    table, _, rfl, spellsTable, guard, _, rfl, isGuard, rfl⟩ := creates
  have guardTaken := optionalWords_takes (by simp) rfl isGuard isGap unworded
  have tableTaken := (letters_takes spellsTable _).append guardTaken
  have tableStops := spells_stops rfl spellsTable (guard ++ between ++ rest)
  rw [← List.append_assoc] at tableStops
  rcases temporary with ⟨word, _, rfl, spellsWord, afterWord, _, rfl, isGapWord, rfl⟩ | none
  · have isTemporary := ((letters_takes spellsWord _).append
      (isGap_takes isGapWord tableStops)).optional.append tableTaken
    have wordStops := spells_stops rfl spellsWord
      (afterWord ++ (table ++ (guard ++ between)) ++ rest)
    have words := (letters_takes spellsVerb _).append <|
      (isGap_takes isGapVerb (by simpa using wordStops)).append isTemporary
    simpa using words
  · obtain rfl : modifier = [] := none
    have notTemporary : (Pattern.optional (letters "TEMPORARY" ++ gap)).Takes []
        (table ++ (guard ++ between) ++ rest) := by
      refine Misses.optional_takes (Misses.append ?_ gap)
      rw [List.append_assoc]
      exact Heading.letters_misses_of_areApart (by decide) spellsTable _
    have words := (letters_takes spellsVerb _).append <|
      (isGap_takes isGapVerb (by simpa using tableStops)).append <| notTemporary.append tableTaken
    simpa using words

/-- The words begin with no white space. -/
theorem Opens.stops (opens : Opens text) (rest : Text)
    : ∀ char ∈ (text ++ rest).head?, Alphabet.isBlank char = false := by
  rcases opens with creates | drops | inserts | deletes | empties
  · obtain ⟨verb, more, rfl, spells, -⟩ := creates
    rw [List.append_assoc]
    exact spells_stops rfl spells _
  · obtain ⟨words, more, rfl, spelled, -⟩ := drops
    rw [List.append_assoc]
    exact spelled_stops rfl spelled _
  · exact spelled_stops rfl inserts rest
  · exact spelled_stops rfl deletes rest
  · obtain ⟨words, more, rfl, spelled, -⟩ := empties
    rw [List.append_assoc]
    exact spelled_stops rfl spelled _

/-- The first word tells a statement from those that create or drop tables. -/
theorem spelled_misses_creation {word : String} {others : List String}
    (apart : areApart word "CREATE" = true) (spelled : Spelled (word :: others) text) (rest : Text)
    : (letters "CREATE" ++ gap ++ Pattern.optional (letters "TEMPORARY" ++ gap) ++ letters "TABLE"
        ++ Pattern.optional (gap ++ Pattern.words ["IF", "NOT", "EXISTS"])).Misses (text ++ rest) :=
  ((((spelled_misses apart spelled rest).append _).append _).append _).append _

theorem spelled_misses_removal {word : String} {others : List String}
    (apart : areApart word "DROP" = true) (spelled : Spelled (word :: others) text) (rest : Text)
    : (Pattern.words ["DROP", "TABLE"] ++ Pattern.optional (gap ++ Pattern.words ["IF", "EXISTS"])
        ).Misses (text ++ rest) :=
  (((spelled_misses apart spelled rest).append _).append _).append _

theorem spelled_misses_words {word first second : String} {others : List String}
    (apart : areApart word first = true) (spelled : Spelled (word :: others) text) (rest : Text)
    : (Pattern.words [first, second]).Misses (text ++ rest) :=
  ((spelled_misses apart spelled rest).append _).append _

/-- Words of a statement are taken up to the name, with the white space before it. -/
theorem Opens.takes {between : Text} (opens : Opens text) (isGap : IsGap between)
    (unworded : Unworded rest)
    : (targetWords ++ gap).Takes (text ++ between) rest := by
  have ending := isGap_takes isGap unworded.stops
  unfold targetWords
  rcases opens with creates | drops | inserts | deletes | empties
  · refine Takes.orElse_append ?_ _
    exact creates_takes creates isGap unworded
  · obtain ⟨words, _, rfl, spelled, guard, _, rfl, isGuard, rfl⟩ := drops
    have taken : (Pattern.words ["DROP", "TABLE"]
        ++ Pattern.optional (gap ++ Pattern.words ["IF", "EXISTS"]) ++ gap).Takes
          (words ++ (guard ++ between)) rest :=
      (spelled_takes rfl spelled _).append
        (optionalWords_takes (by simp) rfl isGuard isGap unworded)
    rw [List.append_nil, List.append_assoc]
    refine Misses.orElse_append_takes ?_ (Takes.orElse_append taken _)
    rw [List.append_assoc]
    exact spelled_misses_creation (by decide) spelled _
  · have taken := (spelled_takes rfl inserts (between ++ rest)).append ending
    refine Misses.orElse_append_takes ?_ <| Misses.orElse_append_takes ?_ <|
      Takes.orElse_append taken _
    · rw [List.append_assoc]
      exact spelled_misses_creation (by decide) inserts _
    · rw [List.append_assoc]
      exact spelled_misses_removal (by decide) inserts _
  · have taken := (spelled_takes rfl deletes (between ++ rest)).append ending
    refine Misses.orElse_append_takes ?_ <| Misses.orElse_append_takes ?_ <|
      Misses.orElse_append_takes ?_ <| Takes.orElse_append taken _
    · rw [List.append_assoc]
      exact spelled_misses_creation (by decide) deletes _
    · rw [List.append_assoc]
      exact spelled_misses_removal (by decide) deletes _
    · rw [List.append_assoc]
      exact spelled_misses_words (by decide) deletes _
  · obtain ⟨words, _, rfl, spelled, guard, _, rfl, isGuard, rfl⟩ := empties
    have taken := (spelled_takes rfl spelled _).append
      (optionalWords_takes (by simp) rfl isGuard isGap unworded)
    rw [List.append_nil, List.append_assoc]
    refine Misses.orElse_append_takes ?_ <| Misses.orElse_append_takes ?_ <|
      Misses.orElse_append_takes ?_ <| Misses.orElse_append_takes ?_ taken
    · rw [List.append_assoc]
      exact spelled_misses_creation (by decide) spelled _
    · rw [List.append_assoc]
      exact spelled_misses_removal (by decide) spelled _
    · rw [List.append_assoc]
      exact spelled_misses_words (by decide) spelled _
    · rw [List.append_assoc]
      exact spelled_misses_words (by decide) spelled _

/-- The words before a table are the same before every text in which no word comes first. -/
theorem beforeTarget_again {before other : Text} {place : Place}
    (matched : Completion.beforeTarget.matchStart? (before ++ rest) = some place)
    (after : place.after = rest) (unworded : Unworded other)
    : Completion.beforeTarget.matchStart? (before ++ other)
      = some ((Place.start (before ++ other)).past before other) := by
  obtain ⟨found, -⟩ := matches_of_matchAt? matched
  obtain ⟨_, ⟨_, ⟨_, ⟨-, rfl⟩, indented⟩, opened⟩, separated⟩ := found
  obtain ⟨indent, _, split, isIndent, rfl⟩ := (describes_run _ _ _).mp indented
  obtain ⟨words, _, rfl, opens, rfl⟩ := (describes_targetWords _ _).mp opened
  obtain ⟨between, left, rfl, isGap, rfl⟩ := (describes_someOf _ _ _).mp separated
  obtain rfl : left = rest := after
  obtain rfl : before = indent ++ (words ++ between) := by
    have same : before ++ left = indent ++ (words ++ (between ++ left)) := split
    exact List.append_cancel_right (same.trans (by simp))
  have taken : (blanks ++ (targetWords ++ gap)).Takes (indent ++ (words ++ between)) other :=
    (run_takes isIndent (by simpa using opens.stops (between ++ other))).append
      (opens.takes isGap unworded)
  rw [matchStart?, matchAt?, Insertion.beforeTarget_eq, append_andThen, append_andThen,
    append_andThen, textStart, check_andThen rfl]
  exact taken some _ _ rfl rfl

end DumpTransfer.Conversion.TargetWords
