import DumpTransfer.Dump.Marker
import DumpTransfer.Proofs.Conversion.InsertionCompleted
import DumpTransfer.Proofs.Text.Taking

/-! How statements about tables begin. The scanner of a dump, the judgement of what a statement
does, and the patterns that complete it read the same words, each in its own way.
-/

namespace DumpTransfer.Conversion

namespace Heading

open Insertion (Spelling)

-----------------------------------------------------------------------------------------
-- Words
-----------------------------------------------------------------------------------------

/-- White space between words. -/
structure Gap where
  text : Text
  isThere : text ≠ []
  blank : Text.Blank text

/-- Words in either case with white space before each. -/
inductive Phrase : List String → Type where
  | last {word : String} (gap : Gap) (spelling : Spelling word) : Phrase [word]
  | more {first second : String} {others : List String} (gap : Gap) (spelling : Spelling first)
      (rest : Phrase (second :: others)) : Phrase (first :: second :: others)

def Phrase.text {words : List String} : Phrase words → Text
  | last gap spelling => gap.text ++ spelling.text
  | more gap spelling rest => gap.text ++ (spelling.text ++ rest.text)

/-- The text of words that may be left out. -/
def optionalText {words : List String} (phrase : Option (Phrase words)) : Text :=
  (phrase.map Phrase.text).getD []

/-- Words on how soon rows are replaced. -/
abbrev Priority :=
  Phrase ["LOW_PRIORITY"] ⊕ Phrase ["DELAYED"]

def priorityText : Option Priority → Text
  | none => []
  | some (.inl phrase) => phrase.text
  | some (.inr phrase) => phrase.text

/-- What is done to a table. -/
inductive Act where
  | create (verb : Spelling "CREATE") (temporary : Option (Phrase ["TEMPORARY"]))
      (table : Phrase ["TABLE"]) (guard : Option (Phrase ["IF", "NOT", "EXISTS"]))
  | drop (verb : Spelling "DROP") (table : Phrase ["TABLE"])
      (guard : Option (Phrase ["IF", "EXISTS"]))
  | insert (verb : Spelling "INSERT") (ignore : Option (Phrase ["IGNORE"]))
      (into : Phrase ["INTO"])
  | replace (verb : Spelling "REPLACE") (priority : Option Priority) (into : Phrase ["INTO"])

def Act.text : Act → Text
  | create verb temporary table guard =>
      verb.text ++ (optionalText temporary ++ (table.text ++ optionalText guard))
  | drop verb table guard => verb.text ++ (table.text ++ optionalText guard)
  | insert verb ignore into => verb.text ++ (optionalText ignore ++ into.text)
  | replace verb priority into => verb.text ++ (priorityText priority ++ into.text)

theorem insert_spelled
    : Text.asciiUpper "INSERT" = "INSERT" := by
  rw [Text.ofString_eq]
  rfl

/-- What is done in the warehouse, where rows are inserted and nothing else. -/
def Act.completed : Act → Act
  | create verb temporary table guard => create verb temporary table guard
  | drop verb table guard => drop verb table guard
  | insert verb none into => insert verb none into
  | insert _ (some _) into => insert ⟨"INSERT", insert_spelled⟩ none into
  | replace _ _ into => insert ⟨"INSERT", insert_spelled⟩ none into

/-- What the scanner makes of a line that begins so. -/
def Act.marker (table : Text) : Act → Dump.Marker
  | create _ _ _ _ => .definition table
  | drop _ _ _ => .removal table
  | insert _ _ _ | replace _ _ _ => .rows table

def Act.kind : Act → Sql.StatementKind
  | create _ _ _ _ => .createTable
  | drop _ _ _ => .dropTable
  | insert _ _ _ | replace _ _ _ => .insert

/-- Characters of names that stand without quotes. -/
def isBarePart (char : Char) : Bool :=
  char.isAlphanum || char = '_' || char = '$'

/-- The name of a table. Without quotes it is not the word that the conditions on a table begin
with.
-/
inductive Name where
  | quoted (value : Text) (isThere : value ≠ [])
  | bare (first : Char) (more : Text) (isStart : isBarePart first = true ∧ first ≠ '$')
      (areParts : ∀ char ∈ more, isBarePart char = true)
      (noGuard : Text.equalsIgnoringCase (first :: more) "IF" = false)

def Name.value : Name → Text
  | quoted value _ => value
  | bare first more _ _ _ => first :: more

/-- A name, between quotes of a kind if it is quoted. -/
def Name.written (quote : Char) : Name → Text
  | quoted value _ => Sql.nameText quote value
  | bare first more _ _ _ => first :: more

/-- What follows a name: white space, and then a sign or a word. -/
def Follows (tail : Text) : Prop :=
  ∃ spaces rest, tail = spaces ++ rest
    ∧ Text.Blank spaces
    ∧ ∀ char ∈ rest.head?, Insertion.isMark char = true
        ∨ (spaces ≠ [] ∧ char.isAlpha = true ∧ char.toUpper ≠ 'X')

end Heading

/-- What stands before the name of the table in a statement. -/
structure Heading where
  act : Heading.Act
  beforeName : Heading.Gap

namespace Heading

open Sql Pattern
open Insertion (Spelling)

def text (heading : Heading) : Text :=
  heading.act.text ++ heading.beforeName.text

/-- What stands before the name of the table in the statement for the warehouse. -/
def completed (heading : Heading) : Heading :=
  { heading with act := heading.act.completed }

variable {words : List String} {word : String} {tail : Text}

@[simp] theorem optionalText_none
    : optionalText (none : Option (Phrase words)) = [] :=
  rfl

@[simp] theorem optionalText_some (phrase : Phrase words)
    : optionalText (some phrase) = phrase.text :=
  rfl

-----------------------------------------------------------------------------------------
-- White space
-----------------------------------------------------------------------------------------

theorem foldCase_of_isBlank {char : Char} (blank : Alphabet.isBlank char = true)
    : (Alphabet.foldCase char).isAlpha = false := by
  simpa using Alphabet.holds_of_isBlank (fun char => !(Alphabet.foldCase char).isAlpha)
    (by decide +kernel) blank

/-- White space stands in no word, name, literal or list. -/
theorem apart_of_isBlank {char : Char} (blank : Alphabet.isBlank char = true)
    : Alphabet.isWord char = false ∧ Completion.isNamePart char = false
      ∧ SourceName.isBareFolded char = false ∧ (char ≠ '\'' ∧ char ≠ '`' ∧ char ≠ '"')
      ∧ char ≠ '(' ∧ char ≠ '.' ∧ char ≠ '\x00' := by
  simpa using Alphabet.holds_of_isBlank
    (fun char => ! Alphabet.isWord char && (! Completion.isNamePart char
      && (! SourceName.isBareFolded char && ((char ≠ '\'' && (char ≠ '`' && char ≠ '"'))
      && (char ≠ '(' && (char ≠ '.' && char ≠ '\x00'))))))
    (by decide +kernel) blank

theorem Gap.exists_first (gap : Gap)
    : ∃ first rest, gap.text = first :: rest ∧ Alphabet.isBlank first = true := by
  obtain ⟨first, rest, same⟩ := List.exists_cons_of_ne_nil gap.isThere
  exact ⟨first, rest, same, gap.blank first (by simp [same])⟩

theorem Gap.exists_last (gap : Gap)
    : ∃ init last, gap.text = init ++ [last] ∧ Alphabet.isBlank last = true := by
  obtain ⟨init, last, same⟩ := (List.eq_nil_or_concat gap.text).resolve_left gap.isThere
  exact ⟨init, last, by simpa using same, gap.blank last (by simp [same])⟩

theorem Gap.takes (between : Gap) {rest : Text}
    (stop : ∀ char ∈ rest.head?, Alphabet.isBlank char = false)
    : gap.Takes between.text rest :=
  someOf_takes between.isThere between.blank stop

theorem Gap.misses (between : Gap) {body : Pattern} {rest : Text}
    (stop : ∀ char ∈ rest.head?, Alphabet.isBlank char = false)
    (cannot : ∀ char, Alphabet.isBlank char = true → body.CannotBegin char)
    (misses : body.Misses rest)
    : (gap ++ body).Misses (between.text ++ rest) :=
  gap_misses between.isThere between.blank stop cannot misses

-----------------------------------------------------------------------------------------
-- Words
-----------------------------------------------------------------------------------------

/-- Whether a word is written in capitals and low lines, and begins with a capital. -/
def isKeyword (word : String) : Bool :=
  word.toList.head?.any Char.isUpper && word.toList.all fun char => char.isUpper || char = '_'

/-- Whether neither of two words begins like the other. -/
def areApart (word other : String) : Bool :=
  let count := min word.toList.length other.toList.length
  (word.toList.map Char.toLower).take count ≠ (other.toList.map Char.toLower).take count

theorem isUpper_or_of_mem (known : isKeyword word = true) {spelling : Spelling word} {char : Char}
    (member : char ∈ spelling.text)
    : char.toUpper.isUpper = true ∨ char = '_' := by
  have all := List.all_eq_true.mp (Bool.and_eq_true_iff.mp known).2 _ (spelling.toUpper_mem member)
  rcases Bool.or_eq_true_iff.mp all with upper | line
  · exact Or.inl upper
  · have line : char.toUpper = '_' := of_decide_eq_true line
    rcases Alphabet.toUpper_eq_or_isAlpha char with same | letter
    · exact Or.inr (same.symm.trans line)
    · exact absurd line (Alphabet.toUpper_ne_line letter)

theorem foldCase_spelling (known : isKeyword word = true) (spelling : Spelling word)
    : spelling.text.map Alphabet.foldCase = word.toList.map Char.toLower := by
  rw [← Text.ofString_eq, ← spelling.spells, Text.asciiUpper, List.map_map]
  refine List.map_congr_left fun char member => ?_
  rcases isUpper_or_of_mem known member with upper | rfl
  · exact Alphabet.foldCase_of_toUpper upper
  · decide

theorem spelling_ne_nil (known : isKeyword word = true) (spelling : Spelling word)
    : spelling.text ≠ [] := by
  intro none
  have spells := spelling.spells
  rw [none, Text.ofString_eq] at spells
  have empty : word.toList = [] := spells.symm
  rw [isKeyword, empty] at known
  cases known

/-- A word begins with no white space. -/
theorem spelling_stops (known : isKeyword word = true) (spelling : Spelling word) (rest : Text)
    : ∀ char ∈ (spelling.text ++ rest).head?, Alphabet.isBlank char = false := by
  obtain ⟨first, others, same⟩ := List.exists_cons_of_ne_nil (spelling_ne_nil known spelling)
  have member : first ∈ spelling.text := by simp [same]
  intro char head
  rw [same] at head
  obtain rfl := Option.some.inj head
  rcases isUpper_or_of_mem known member with upper | rfl
  · exact Alphabet.isBlank_of_isAlpha (Alphabet.isAlpha_of_toUpper upper)
  · decide

theorem spelling_takes (known : isKeyword word = true) (spelling : Spelling word) (rest : Text)
    : (letters word).Takes spelling.text rest :=
  letters_takes (foldCase_spelling known spelling) rest

/-- A word is not taken for another one that is apart from it. -/
theorem letters_misses_of_areApart {other : String} (apart : areApart word other = true)
    {text : Text} (spelled : text.map Alphabet.foldCase = word.toList.map Char.toLower)
    (rest : Text)
    : (letters other).Misses (text ++ rest) := by
  intro next place after
  refine letters_andThen_eq_none spelled after ⟨?_, ?_⟩ (of_decide_eq_true apart)
  · rw [List.length_map]
    exact Nat.min_le_left _ _
  · exact Nat.min_le_right _ _

theorem spelling_misses {other : String} (known : isKeyword word = true)
    (apart : areApart word other = true) (spelling : Spelling word) (rest : Text)
    : (letters other).Misses (spelling.text ++ rest) :=
  letters_misses_of_areApart apart (foldCase_spelling known spelling) rest

/-- A word in capitals begins with a letter. -/
theorem exists_first_of_isKeyword (known : isKeyword word = true)
    : ∃ first more, word.toList = first :: more ∧ first.toLower.isAlpha = true := by
  obtain ⟨first, head, upper⟩ := (Option.any_eq_true ..).mp (Bool.and_eq_true_iff.mp known).1
  obtain ⟨more, spelled⟩ := List.head?_eq_some_iff.mp head
  refine ⟨first, more, spelled, ?_⟩
  rw [Alphabet.isUpper_iff] at upper
  rw [Alphabet.isAlpha_iff, Alphabet.toNat_toLower, if_pos upper]
  omega

/-- No word begins with white space. -/
theorem letters_cannotBegin_blank (known : isKeyword word = true) {char : Char}
    (blank : Alphabet.isBlank char = true)
    : (letters word).CannotBegin char := by
  obtain ⟨first, more, spelled, letter⟩ := exists_first_of_isKeyword known
  refine letters_cannotBegin spelled fun same => ?_
  have noLetter := foldCase_of_isBlank blank
  rw [same, letter] at noLetter
  cases noLetter

theorem anyWord_cannotBegin_blank {choices : List String} (known : choices.all isKeyword = true)
    {char : Char} (blank : Alphabet.isBlank char = true)
    : (anyWord choices).CannotBegin char := by
  induction choices with
  | nil => exact fun _ _ _ _ => if_neg Bool.false_ne_true
  | cons first others ih =>
      rw [List.all_cons, Bool.and_eq_true] at known
      cases others with
      | nil => exact letters_cannotBegin_blank known.1 blank
      | cons second more => exact (letters_cannotBegin_blank known.1 blank).orElse (ih known.2)

theorem anyWord_misses {choices : List String} (known : isKeyword word = true)
    (apart : choices.all (areApart word) = true) (spelling : Spelling word) (rest : Text)
    : (anyWord choices).Misses (spelling.text ++ rest) := by
  induction choices with
  | nil => exact fun _ _ _ => if_neg Bool.false_ne_true
  | cons first others ih =>
      rw [List.all_cons, Bool.and_eq_true] at apart
      cases others with
      | nil => exact spelling_misses known apart.1 spelling rest
      | cons second more => exact (spelling_misses known apart.1 spelling rest).orElse (ih apart.2)

theorem Phrase.exists_first (phrase : Phrase words)
    : ∃ first rest, phrase.text = first :: rest ∧ Alphabet.isBlank first = true := by
  cases phrase with
  | last gap spelling =>
      obtain ⟨first, rest, same, blank⟩ := gap.exists_first
      exact ⟨first, rest ++ spelling.text, by simp [text, same], blank⟩
  | more gap spelling others =>
      obtain ⟨first, rest, same, blank⟩ := gap.exists_first
      exact ⟨first, rest ++ (spelling.text ++ others.text), by simp [text, same], blank⟩

/-- Words are taken one by one. -/
theorem Phrase.takes (known : words.all isKeyword = true) (phrase : Phrase words) (rest : Text)
    : (gap ++ Pattern.words words).Takes phrase.text rest := by
  induction phrase with
  | last between spelling =>
      rw [List.all_cons, Bool.and_eq_true] at known
      exact (between.takes (spelling_stops known.1 spelling rest)).append
        (spelling_takes known.1 spelling rest)
  | more between spelling others ih =>
      rw [List.all_cons, Bool.and_eq_true] at known
      have first := between.takes (spelling_stops known.1 spelling (others.text ++ rest))
      refine Takes.append (by rwa [List.append_assoc]) ?_
      exact (spelling_takes known.1 spelling _).append (ih known.2)

/-- Other words are missed where words apart from them stand. -/
theorem Phrase.misses {others choices : List String} (known : isKeyword word = true)
    (knownChoices : choices.all isKeyword = true) (apart : choices.all (areApart word) = true)
    (phrase : Phrase (word :: others)) (rest : Text)
    : (gap ++ anyWord choices).Misses (phrase.text ++ rest) := by
  have cannot (char : Char) (blank : Alphabet.isBlank char = true)
      : (anyWord choices).CannotBegin char :=
    anyWord_cannotBegin_blank knownChoices blank
  cases phrase with
  | last between spelling =>
      rw [text, List.append_assoc]
      exact between.misses (spelling_stops known spelling _) cannot
        (anyWord_misses known apart spelling _)
  | more between spelling later =>
      rw [text, List.append_assoc, List.append_assoc]
      exact between.misses (spelling_stops known spelling _) cannot
        (anyWord_misses known apart spelling _)

/-- Words that may be left out are taken when they are there. -/
theorem optional_takes (known : words.all isKeyword = true) (phrase : Option (Phrase words))
    {rest : Text} (misses : (gap ++ Pattern.words words).Misses rest)
    : (optional (gap ++ Pattern.words words)).Takes (optionalText phrase) rest := by
  cases phrase with
  | none => exact misses.optional_takes
  | some phrase => exact (phrase.takes known rest).optional

/-- Words on how soon rows are replaced are taken when they are there. -/
theorem priority_takes (priority : Option Priority) {rest : Text}
    (misses : (gap ++ anyWord ["LOW_PRIORITY", "DELAYED"]).Misses rest)
    : (optional (gap ++ anyWord ["LOW_PRIORITY", "DELAYED"])).Takes (priorityText priority)
        rest := by
  rcases priority with _ | ⟨⟨gap, spelling⟩ | ⟨gap, spelling⟩⟩
  · exact misses.optional_takes
  · have word := (spelling_takes rfl spelling rest).orElse (letters "DELAYED")
    exact ((gap.takes (spelling_stops rfl spelling rest)).append word).optional
  · have word := Misses.orElse_takes
      (spelling_misses rfl (by decide) spelling rest : (letters "LOW_PRIORITY").Misses _)
      (spelling_takes rfl spelling rest)
    exact ((gap.takes (spelling_stops rfl spelling rest)).append word).optional

-----------------------------------------------------------------------------------------
-- Names
-----------------------------------------------------------------------------------------

theorem isBlank_of_isBarePart {char : Char} (bare : isBarePart char = true)
    : Alphabet.isBlank char = false := by
  refine Bool.eq_false_iff.mpr fun blank => ?_
  have noPart := Alphabet.holds_of_isBlank (! isBarePart ·) (by decide) blank
  rw [bare] at noPart
  cases noPart

/-- Right after a name comes white space or a sign. -/
theorem Follows.head (follows : Follows tail)
    : ∀ char ∈ tail.head?, Alphabet.isBlank char = true ∨ Insertion.isMark char = true := by
  obtain ⟨spaces, rest, rfl, blank, next⟩ := follows
  intro char head
  cases spaces with
  | nil =>
      rcases next char head with mark | ⟨isThere, _⟩
      · exact Or.inr mark
      · exact absurd rfl isThere
  | cons space more =>
      obtain rfl := Option.some.inj head
      exact Or.inl (blank _ (by simp))

/-- The quotes of names. -/
def IsQuote (quote : Char) : Prop :=
  quote = '`' ∨ quote = '"'

variable {quote : Char}

/-- A name begins with no white space. -/
theorem Name.stops (kind : IsQuote quote) (name : Name) (rest : Text)
    : ∀ char ∈ (name.written quote ++ rest).head?, Alphabet.isBlank char = false := by
  intro char head
  cases name with
  | quoted value isThere =>
      obtain rfl := Option.some.inj head
      rcases kind with rfl | rfl <;> decide
  | bare first more isStart areParts noGuard =>
      obtain rfl := Option.some.inj head
      exact isBlank_of_isBarePart isStart.1

theorem exists_letters_if {word : Text}
    (spelled : word.map Alphabet.foldCase = "IF".toList.map Char.toLower)
    : ∃ first second, word = [first, second]
        ∧ Alphabet.foldCase first = 'i' ∧ Alphabet.foldCase second = 'f' := by
  obtain ⟨first, others, rfl, capital, spelled⟩ := List.map_eq_cons_iff.mp spelled
  obtain ⟨second, others, rfl, small, spelled⟩ := List.map_eq_cons_iff.mp spelled
  obtain rfl := List.map_eq_nil_iff.mp spelled
  exact ⟨first, second, rfl, capital, small⟩

/-- The word that conditions begin with is told apart from a name without quotes: either another
character of the name comes right after its letters, or it is the whole name.
-/
theorem letters_if_misses_bare {first : Char} {more : Text}
    (areParts : ∀ char ∈ more, isBarePart char = true)
    (noGuard : Text.equalsIgnoringCase (first :: more) "IF" = false) (follows : Follows tail)
    (body : Pattern)
    : (letters "IF" ++ (gap ++ body)).Misses (first :: more ++ tail) := by
  intro next place after
  refine Option.eq_none_iff_forall_ne_some.mpr fun reached matched => ?_
  obtain ⟨word, rest, split, spelled⟩ := spelled_of_letters matched
  rw [append_andThen, letters_andThen spelled split] at matched
  obtain ⟨space, others, begun, blank⟩ := exists_blank_of_gap matched
  change rest = space :: others at begun
  subst begun
  obtain ⟨letter, second, rfl, capital, small⟩ := exists_letters_if spelled
  -- The name ends before the second letter, with it, or goes on where white space was matched.
  obtain ⟨rfl, same⟩ := List.cons.inj (after.symm.trans split)
  cases more with
  | nil =>
      have head : tail.head? = some second := congrArg List.head? same
      rcases follows.head second head with space | mark
      · have noLetter := foldCase_of_isBlank space
        rw [small] at noLetter
        cases noLetter
      · have other := Insertion.holds_of_isMark (Alphabet.foldCase · ≠ 'f') rfl mark
        exact of_decide_eq_true other small
  | cons char later =>
      obtain ⟨rfl, left⟩ := List.cons.inj same
      cases later with
      | nil =>
          have upper : Text.equalsIgnoringCase [first, char] "IF" = true := by
            have first := Alphabet.toUpper_of_foldCase capital (by decide) (by decide)
            have second := Alphabet.toUpper_of_foldCase small (by decide) (by decide)
            rw [Text.equalsIgnoringCase, Text.ofString_eq, Text.asciiUpper, List.map_cons,
              List.map_singleton, first, second]
            rfl
          exact Bool.noConfusion (upper.symm.trans noGuard)
      | cons other more =>
          obtain ⟨rfl, _⟩ := List.cons.inj left
          have notBlank := isBlank_of_isBarePart (areParts other (by simp))
          exact Bool.noConfusion (blank.symm.trans notBlank)

theorem Name.misses_guard (kind : IsQuote quote) (name : Name) (follows : Follows tail)
    (body : Pattern)
    : (letters "IF" ++ (gap ++ body)).Misses (name.written quote ++ tail) := by
  cases name with
  | quoted value isThere =>
      refine (CannotBegin.misses ?_ _).append _
      refine letters_cannotBegin rfl ?_
      rcases kind with rfl | rfl <;> decide
  | bare first more isStart areParts noGuard =>
      exact letters_if_misses_bare areParts noGuard follows body

/-- What holds of each character of names without quotes holds of all, since they are in ASCII. -/
theorem holds_of_isBarePart (holds : Char → Bool)
    (all : ∀ code < 128, isBarePart (Char.ofNat code) = true → holds (Char.ofNat code) = true)
    {char : Char} (bare : isBarePart char = true)
    : holds char = true := by
  have ascii : char.toNat < 128 := by
    simp only [isBarePart, Char.isAlphanum, Bool.or_eq_true, decide_eq_true_eq] at bare
    rcases bare with ((letter | digit) | rfl) | rfl
    · exact Alphabet.toNat_of_isAlpha letter
    · have last : char.toNat ≤ '9'.toNat := by
        unfold Char.isDigit at digit
        simp only [ge_iff_le, Bool.and_eq_true, decide_eq_true_eq] at digit
        exact digit.2
      exact Nat.lt_of_le_of_lt last (by decide)
    · decide
    · decide
  have found := all char.toNat ascii
  rw [Char.ofNat_toNat] at found
  exact found bare

-----------------------------------------------------------------------------------------
-- Names for the scanner
-----------------------------------------------------------------------------------------

/-- A character of a name between back quotes, which is written twice if it is a back quote. -/
def quotedPart : Pattern :=
  .one (· ≠ '`') <|> .exactly "``"

theorem quoted_eq
    : SourceName.quoted = .char '`' ++ (quotedPart ++ .many quotedPart) ++ .char '`' :=
  rfl

theorem quotedPart_takes (char : Char) (rest : Text)
    : quotedPart.Takes (Text.doubling '`' [char]) rest := by
  by_cases back : char = '`'
  · subst back
    refine Misses.orElse_takes (one_misses (by decide) _) ?_
    have twice : Text.ofString "``" = Text.doubling '`' ['`'] := by
      rw [Text.ofString_eq]
      rfl
    rw [← twice]
    exact exactly_takes _ rest
  · have alone : Text.doubling '`' [char] = [char] := by simp [Text.doubling, back]
    rw [alone]
    exact (one_takes (by simpa using back) rest).orElse _

theorem quotedPart_misses {rest : Text} (stop : rest.head? ≠ some '`')
    : quotedPart.Misses ('`' :: rest) := by
  refine (one_misses (by decide) rest).orElse (exactly_misses ?_)
  have twice : Text.ofString "``" = ['`', '`'] := by
    rw [Text.ofString_eq]
    rfl
  rw [twice]
  cases rest with
  | nil => rfl
  | cons char more =>
      have other : char ≠ '`' := fun same => stop (congrArg some same)
      simp [Text.dropPrefix?, other]

theorem length_le_doubling (quote : Char) (value : Text)
    : value.length ≤ (Text.doubling quote value).length := by
  induction value with
  | nil => exact Nat.le_refl _
  | cons char more ih =>
      rw [Text.doubling]
      split <;> simp only [List.length_cons] <;> omega

/-- A name is taken up to the back quote that stands alone, by induction over the name. -/
theorem many_quotedPart_takes (value : Text) {rest : Text} (stop : rest.head? ≠ some '`')
    : (many quotedPart).Takes (Text.doubling '`' value) ('`' :: rest) := by
  intro next place reached after found
  have enough : value.length ≤ place.after.length := by
    rw [after, List.length_append]
    exact Nat.le_add_right_of_le (length_le_doubling '`' value)
  change manyThen quotedPart.andThen next place.after.length place = some reached
  generalize place.after.length = bound at enough
  induction value generalizing place bound with
  | nil =>
      have stands : place.after = '`' :: rest := after
      rw [manyThen_of_misses (quotedPart_misses stop) stands, ← found]
      exact congrArg next (Place.past_nil stands).symm
  | cons char more ih =>
      obtain ⟨bound, rfl⟩ := Nat.exists_eq_add_of_lt (Nat.lt_of_lt_of_le (Nat.succ_pos _) enough)
      have split : Text.doubling '`' (char :: more)
          = Text.doubling '`' [char] ++ Text.doubling '`' more :=
        Text.doubling_append '`' [char] more
      rw [split] at after found
      rw [List.append_assoc] at after
      have isThere : Text.doubling '`' [char] ≠ [] := by
        rw [Text.doubling]
        split <;> simp
      rw [Nat.zero_add]
      refine manyThen_of_takes (quotedPart_takes char _) isThere after (ih _ rfl ?_ _ ?_)
      · rwa [Place.past_past]
      · simpa using enough

theorem quoted_takes {value : Text} (isThere : value ≠ []) {rest : Text}
    (stop : rest.head? ≠ some '`')
    : SourceName.quoted.Takes (nameText '`' value) rest := by
  obtain ⟨char, more, rfl⟩ := List.exists_cons_of_ne_nil isThere
  have layout : nameText '`' (char :: more)
      = ['`'] ++ (Text.doubling '`' [char] ++ Text.doubling '`' more) ++ ['`'] := by
    rw [← Text.doubling_append]
    rfl
  rw [layout, quoted_eq]
  refine Takes.append (Takes.append (one_takes (by decide) _) ?_) (one_takes (by decide) rest)
  exact (quotedPart_takes char _).append (many_quotedPart_takes more stop)

/-- No quote comes right after a name. -/
theorem Follows.no_quote (follows : Follows tail) (kind : IsQuote quote)
    : tail.head? ≠ some quote := by
  intro same
  rcases follows.head quote same with blank | mark
  · obtain ⟨_, _, _, ⟨_, back, double⟩, _⟩ := apart_of_isBlank blank
    rcases kind with rfl | rfl
    · exact back rfl
    · exact double rfl
  · rcases kind with rfl | rfl <;> cases mark

theorem bare_parts {first : Char} {more : Text} (isStart : isBarePart first = true ∧ first ≠ '$')
    (areParts : ∀ char ∈ more, isBarePart char = true)
    : ∀ char ∈ first :: more, isBarePart char = true := by
  simpa [isStart.1] using areParts

/-- The scanner takes a name as the dump writes it. -/
theorem Name.takes (name : Name) (follows : Follows tail)
    : (SourceName.quoted <|> .someOf SourceName.isBareFolded).Takes (name.written '`') tail := by
  cases name with
  | quoted value isThere => exact (quoted_takes isThere (follows.no_quote (Or.inl rfl))).orElse _
  | bare first more isStart areParts noGuard =>
      have notBack : first ≠ '`' := by
        rintro rfl
        cases isStart.1
      refine Misses.orElse_takes ?_ (someOf_takes (List.cons_ne_nil _ _) ?_ ?_)
      · exact ((one_misses (by simpa using notBack) _).append _).append _
      · exact fun char member =>
          holds_of_isBarePart SourceName.isBareFolded (by decide +kernel)
            (bare_parts isStart areParts char member)
      · intro char head
        rcases follows.head char head with blank | mark
        · exact (apart_of_isBlank blank).2.2.1
        · simpa using Insertion.holds_of_isMark (! SourceName.isBareFolded ·) rfl mark

/-- A name stands for what is written. -/
theorem Name.decode (name : Name)
    : SourceName.decode (name.written '`') = name.value := by
  cases name with
  | quoted value isThere =>
      change Text.halving '`' (Text.doubling '`' value ++ ['`']).dropLast = value
      rw [List.dropLast_concat, Text.halving_doubling]
  | bare first more isStart areParts noGuard =>
      have notBack : first ≠ '`' := by
        rintro rfl
        cases isStart.1
      rw [written, value, SourceName.decode]
      simpa using notBack

end Heading

end DumpTransfer.Conversion
