import DumpTransfer.Proofs.Text.LetterCase
import DumpTransfer.Text.Pattern

/-! Patterns at places where it is known what follows. A run of characters gives nothing back
when what is left to match begins with none of them, so that each piece of a pattern takes its
own text and the match goes on after it.
-/

namespace DumpTransfer

theorem Text.dropPrefix?_append (beginning rest : Text)
    : Text.dropPrefix? (beginning ++ rest) beginning = some rest := by
  induction beginning with
  | nil => cases rest <;> rfl
  | cons char more ih => simpa [Text.dropPrefix?] using ih

theorem Text.dropPrefix?_eq_some_iff {text beginning rest : Text}
    : Text.dropPrefix? text beginning = some rest ↔ text = beginning ++ rest := by
  constructor
  · intro dropped
    induction beginning generalizing text with
    | nil => cases text <;> simpa [Text.dropPrefix?] using dropped
    | cons expected more ih =>
        cases text with
        | nil => cases dropped
        | cons char others =>
            rw [Text.dropPrefix?] at dropped
            split at dropped
            · rename_i same
              rw [same, ih dropped, List.cons_append]
            · cases dropped
  · rintro rfl
    exact dropPrefix?_append beginning rest

theorem Text.includes_append (before : Text) {text part : Text}
    (within : Text.includes text part = true)
    : Text.includes (before ++ text) part = true := by
  induction before with
  | nil => exact within
  | cons char more ih => rw [List.cons_append, Text.includes, ih, Bool.or_true]

/-- A text includes what it begins with. -/
theorem Text.includes_beginning (part rest : Text)
    : Text.includes (part ++ rest) part = true := by
  cases part with
  | nil => cases rest <;> simp [Text.includes, Text.startsWith, Text.dropPrefix?]
  | cons char more =>
      have here : Text.startsWith (char :: more ++ rest) (char :: more) = true := by
        rw [Text.startsWith, Text.dropPrefix?_append]
        rfl
      rw [List.cons_append] at here ⊢
      rw [Text.includes, here, Bool.true_or]

/-- What a text includes brings its first character along. -/
theorem Text.mem_of_includes {char : Char} {more text : Text}
    (within : Text.includes text (char :: more) = true)
    : char ∈ text := by
  induction text with
  | nil => cases within
  | cons first rest ih =>
      rw [Text.includes, Bool.or_eq_true] at within
      rcases within with here | later
      · obtain ⟨left, dropped⟩ := Option.isSome_iff_exists.mp here
        rw [Text.dropPrefix?_eq_some_iff, List.cons_append] at dropped
        rw [(List.cons.inj dropped).1]
        exact List.mem_cons_self
      · exact List.mem_cons_of_mem first (ih later)

/-- A text is what a run takes from it and what stops the run. -/
theorem Text.exists_run (accepts : Char → Bool) (text : Text)
    : ∃ taken left,
        text = taken ++ left
        ∧ (∀ char ∈ taken, accepts char = true)
        ∧ ∀ char ∈ left.head?, accepts char = false := by
  induction text with
  | nil => exact ⟨[], [], rfl, by simp, by simp⟩
  | cons char more ih =>
      by_cases accepted : accepts char = true
      · obtain ⟨taken, left, rfl, all, stop⟩ := ih
        exact ⟨char :: taken, left, rfl, by simpa [accepted] using all, stop⟩
      · exact ⟨[], char :: more, rfl, by simp, by simpa using accepted⟩

-----------------------------------------------------------------------------------------
-- Places
-----------------------------------------------------------------------------------------

namespace Place

/-- The place after a text, with the text that follows then. -/
def past (place : Place) (text rest : Text) : Place :=
  { place with
    offset := place.offset + text.length
    before := text.reverse ++ place.before
    after := rest }

@[simp] theorem past_before (place : Place) (text rest : Text)
    : (place.past text rest).before = text.reverse ++ place.before :=
  rfl

@[simp] theorem past_after (place : Place) (text rest : Text)
    : (place.past text rest).after = rest :=
  rfl

@[simp] theorem group_past (place : Place) (text rest : Text) (label : String)
    : (place.past text rest).group label = place.group label :=
  rfl

@[simp] theorem past_past (place : Place) (first between second rest : Text)
    : (place.past first between).past second rest = place.past (first ++ second) rest := by
  simp [past, Nat.add_assoc]

theorem past_nil {place : Place} {rest : Text} (after : place.after = rest)
    : place.past [] rest = place := by
  cases after
  rfl

theorem advance_eq (place : Place) (char : Char) (rest : Text)
    : place.advance char rest = place.past [char] rest :=
  rfl

/-- The text between a place and the place after a text is that text. -/
theorem textSince_past (place : Place) (text rest : Text)
    : (place.past text rest).textSince place = text := by
  simp [textSince, spanSince, Span.text, past]

/-- The text last recorded under a label is the piece that was recorded. -/
theorem group_record (place earlier : Place) (label : String)
    : (place.record label earlier).group label = place.textSince earlier := by
  rw [group, group?, record, List.lookup_cons_self]
  rfl

/-- Recording under another label leaves what was recorded. -/
theorem group_record_of_ne (place earlier : Place) {label other : String} (differ : label ≠ other)
    : (place.record other earlier).group label = place.group label := by
  have other : (label == other) = false := by simpa using differ
  rw [group, group?, record, List.lookup_cons, other]
  rfl

@[simp] theorem record_after (place earlier : Place) (label : String)
    : (place.record label earlier).after = place.after :=
  rfl

end Place

-----------------------------------------------------------------------------------------
-- Pieces of patterns
-----------------------------------------------------------------------------------------

namespace Pattern

variable {next : Continuation} {place : Place} {accepts : Char → Bool}

@[simp] theorem append_andThen (first second : Pattern) (next : Continuation) (place : Place)
    : (first ++ second).andThen next place = first.andThen (second.andThen next) place :=
  rfl

theorem orElse_andThen (first second : Pattern) (next : Continuation) (place : Place)
    : (first <|> second).andThen next place
      = (first.andThen next place).or (second.andThen next place) := by
  change (alt first second).andThen next place = _
  rw [andThen]
  cases first.andThen next place <;> rfl

theorem orElse_andThen_of_none {first second : Pattern} (nothing : first.andThen next place = none)
    : (first <|> second).andThen next place = second.andThen next place := by
  rw [orElse_andThen, nothing, Option.none_or]

/-- The first shape decides where the second does not match. -/
theorem orElse_andThen_of_none_second {first second : Pattern}
    (nothing : second.andThen next place = none)
    : (first <|> second).andThen next place = first.andThen next place := by
  rw [orElse_andThen, nothing, Option.or_none]

theorem orElse_andThen_of_some {first second : Pattern} {reached : Place}
    (found : first.andThen next place = some reached)
    : (first <|> second).andThen next place = some reached := by
  rw [orElse_andThen, found, Option.some_or]

/-- Nothing is taken where an optional shape does not match. -/
theorem optional_andThen_of_none {body : Pattern} (nothing : body.andThen next place = none)
    : (optional body).andThen next place = next place :=
  (orElse_andThen_of_none nothing).trans (if_pos rfl)

theorem group_andThen (label : String) (body : Pattern)
    : (group label body).andThen next place
      = body.andThen (fun reached => next (reached.record label place)) place :=
  rfl

theorem check_andThen {holds : Place → Bool} (held : holds place = true)
    : (check holds).andThen next place = next place :=
  if_pos held

theorem wordEdge_andThen (next : Continuation) (place : Place)
    : wordEdge.andThen next place
      = if place.before.head?.any Alphabet.isWord = place.after.head?.any Alphabet.isWord then none
        else next place := by
  by_cases same : place.before.head?.any Alphabet.isWord = place.after.head?.any Alphabet.isWord
  · exact (if_neg (by simp [same])).trans (if_pos same).symm
  · exact (if_pos (by simp [same])).trans (if_neg same).symm

theorem one_andThen_eq (accepts : Char → Bool) (next : Continuation) (place : Place)
    : (one accepts).andThen next place
      = match place.after with
        | [] => none
        | char :: rest => if accepts char then next (place.past [char] rest) else none :=
  rfl

theorem one_andThen {char : Char} {rest : Text} (after : place.after = char :: rest)
    (accepted : accepts char = true)
    : (one accepts).andThen next place = next (place.past [char] rest) := by
  simp only [one_andThen_eq, after, accepted, if_true]

theorem one_andThen_eq_none {char : Char} {rest : Text} (after : place.after = char :: rest)
    (refused : accepts char = false)
    : (one accepts).andThen next place = none := by
  simp [one_andThen_eq, after, refused]

theorem run_andThen_eq (accepts : Char → Bool) (next : Continuation) (place : Place)
    : (run accepts).andThen next place = runThen.go accepts next place.after place :=
  rfl

/-- What is left to match does not begin with a character. -/
def Refuses (next : Continuation) (char : Char) : Prop :=
  ∀ (place : Place) (rest : Text), place.after = char :: rest → next place = none

/-- A run that stops before a character, at each step of the recursion over the text. -/
theorem go_of_stop {rest : Text} (after : place.after = rest)
    (stop : ∀ char ∈ rest.head?, accepts char = false)
    : runThen.go accepts next rest place = next (place.past [] rest) := by
  rw [Place.past_nil after]
  cases rest with
  | nil => rfl
  | cons char more =>
      have refused : accepts char = false := stop char rfl
      simp [runThen.go, refused]

/-- A run takes all that it accepts when what is left does not match any earlier. -/
theorem run_andThen_of_shorter {text rest : Text} (after : place.after = text ++ rest)
    (all : ∀ char ∈ text, accepts char = true) (stop : ∀ char ∈ rest.head?, accepts char = false)
    (shorter : ∀ first char second, text = first ++ char :: second →
      next (place.past first (char :: second ++ rest)) = none)
    : (run accepts).andThen next place = next (place.past text rest) := by
  have goes (text : Text) (place : Place) (after : place.after = text ++ rest)
      (all : ∀ char ∈ text, accepts char = true)
      (shorter : ∀ first char second, text = first ++ char :: second →
        next (place.past first (char :: second ++ rest)) = none)
      : runThen.go accepts next (text ++ rest) place = next (place.past text rest) := by
    induction text generalizing place with
    | nil => exact go_of_stop after stop
    | cons char more ih =>
        have accepted : accepts char = true := all char (by simp)
        have nothing : next place = none := by
          have first := shorter [] char more rfl
          rwa [Place.past_nil after] at first
        have later := ih (place.past [char] (more ++ rest)) rfl
          (fun other member => all other (by simp [member]))
          (fun first other second split => by
            rw [Place.past_past]
            exact shorter (char :: first) other second (by simp [split]))
        rw [Place.past_past, List.singleton_append] at later
        simp only [List.cons_append, runThen.go, accepted, if_true, Place.advance_eq, later,
          nothing]
        cases next (place.past (char :: more) rest) <;> rfl
  rw [run_andThen_eq, after]
  exact goes text place after all shorter

/-- A run takes all that it accepts when what is left cannot begin inside it. -/
theorem run_andThen {text rest : Text} (after : place.after = text ++ rest)
    (all : ∀ char ∈ text, accepts char = true) (stop : ∀ char ∈ rest.head?, accepts char = false)
    (refuses : ∀ char ∈ text, Refuses next char)
    : (run accepts).andThen next place = next (place.past text rest) := by
  refine run_andThen_of_shorter after all stop fun first char second split => ?_
  exact refuses char (by simp [split]) _ (second ++ rest) rfl

/-- A run takes all that it accepts when what is left matches after that. -/
theorem run_andThen_of_some {text rest : Text} {reached : Place}
    (after : place.after = text ++ rest) (all : ∀ char ∈ text, accepts char = true)
    (stop : ∀ char ∈ rest.head?, accepts char = false)
    (found : next (place.past text rest) = some reached)
    : (run accepts).andThen next place = some reached := by
  have goes (text : Text) (place : Place) (after : place.after = text ++ rest)
      (all : ∀ char ∈ text, accepts char = true)
      (found : next (place.past text rest) = some reached)
      : runThen.go accepts next (text ++ rest) place = some reached := by
    induction text generalizing place with
    | nil => exact (go_of_stop after stop).trans found
    | cons char more ih =>
        have accepted : accepts char = true := all char (by simp)
        rw [← List.singleton_append, ← Place.past_past place [char] (more ++ rest)] at found
        have later := ih (place.past [char] (more ++ rest)) rfl
          (fun other member => all other (by simp [member])) found
        simp only [List.cons_append, runThen.go, accepted, if_true, Place.advance_eq, later]
  rw [run_andThen_eq, after]
  exact goes text place after all found

/-- The same for a run of at least one character. -/
theorem someOf_andThen {text rest : Text} (after : place.after = text ++ rest)
    (isThere : text ≠ []) (all : ∀ char ∈ text, accepts char = true)
    (stop : ∀ char ∈ rest.head?, accepts char = false)
    (refuses : ∀ char ∈ text, Refuses next char)
    : (someOf accepts).andThen next place = next (place.past text rest) := by
  obtain ⟨char, more, rfl⟩ := List.exists_cons_of_ne_nil isThere
  have others : ∀ other ∈ more, accepts other = true :=
    fun other member => all other (by simp [member])
  have refusesOthers : ∀ other ∈ more, Refuses next other :=
    fun other member => refuses other (by simp [member])
  rw [someOf, append_andThen, one_andThen after (all char (by simp)),
    run_andThen rfl others stop refusesOthers, Place.past_past]
  rfl

theorem someOf_andThen_of_some {text rest : Text} {reached : Place}
    (after : place.after = text ++ rest) (isThere : text ≠ [])
    (all : ∀ char ∈ text, accepts char = true) (stop : ∀ char ∈ rest.head?, accepts char = false)
    (found : next (place.past text rest) = some reached)
    : (someOf accepts).andThen next place = some reached := by
  obtain ⟨char, more, rfl⟩ := List.exists_cons_of_ne_nil isThere
  have others : ∀ other ∈ more, accepts other = true :=
    fun other member => all other (by simp [member])
  rw [someOf, append_andThen, one_andThen after (all char (by simp))]
  refine run_andThen_of_some rfl others stop ?_
  rw [Place.past_past]
  exact found

-----------------------------------------------------------------------------------------
-- Words
-----------------------------------------------------------------------------------------

/-- Given characters match where they can be taken from what follows. -/
theorem exactly_andThen (text : Text) (next : Continuation) (place : Place)
    : (exactly text).andThen next place
      = (Text.dropPrefix? place.after text).bind fun rest => next (place.past text rest) := by
  induction text generalizing place with
  | nil =>
      cases place with
      | mk offset before after groups => cases after <;> rfl
  | cons expected more ih =>
      rw [exactly, List.foldr_cons, append_andThen]
      cases after : place.after with
      | nil => simp [char, one_andThen_eq, after, Text.dropPrefix?]
      | cons found rest =>
          by_cases same : found = expected
          · rw [char, one_andThen after (decide_eq_true same)]
            refine (ih (place.past [found] rest)).trans ?_
            simp [Text.dropPrefix?, same]
          · rw [char, one_andThen_eq_none after (decide_eq_false same), Text.dropPrefix?,
              if_neg same]
            rfl

/-- Letters match a text that has the same small letters. -/
theorem letters_andThen {word : String} {text rest : Text}
    (spelled : text.map Alphabet.foldCase = word.toList.map Char.toLower)
    (after : place.after = text ++ rest)
    : (letters word).andThen next place = next (place.past text rest) := by
  rw [letters, Text.ofString_eq]
  generalize word.toList = expected at spelled
  induction expected generalizing place text with
  | nil =>
      obtain rfl : text = [] := List.map_eq_nil_iff.mp spelled
      have stands : place.after = rest := after
      rw [Place.past_nil stands]
      exact check_andThen rfl
  | cons letter more ih =>
      obtain ⟨char, others, rfl, same, spelledMore⟩ := List.map_eq_cons_iff.mp spelled
      rw [List.foldr_cons, append_andThen, one_andThen after (by simpa using same)]
      have stands : (place.past [char] (others ++ rest)).after = others ++ rest := rfl
      exact (ih stands spelledMore).trans (by rw [Place.past_past]; rfl)

/-- Where letters match, they stand in either case. -/
theorem spelled_of_letters {word : String} {next : Continuation} {place reached : Place}
    (matched : (letters word).andThen next place = some reached)
    : ∃ text rest,
        place.after = text ++ rest
        ∧ text.map Alphabet.foldCase = word.toList.map Char.toLower := by
  rw [letters, Text.ofString_eq] at matched
  generalize word.toList = expected at matched ⊢
  induction expected generalizing place with
  | nil => exact ⟨[], place.after, rfl, rfl⟩
  | cons letter more ih =>
      rw [List.foldr_cons, append_andThen, one_andThen_eq] at matched
      split at matched
      · cases matched
      · rename_i char rest after
        split at matched
        · rename_i same
          obtain ⟨text, left, stands, spelled⟩ := ih matched
          refine ⟨char :: text, left, ?_, ?_⟩
          · rw [after, List.cons_append, ← stands]
            rfl
          · rw [List.map_cons, List.map_cons, of_decide_eq_true same, spelled]
        · cases matched

/-- Where letters match, the first of them stands in either case. -/
theorem head_of_letters {word : String} {first : Char} {more : List Char}
    (spelled : word.toList = first :: more) {next : Continuation} {place reached : Place}
    (matched : (letters word).andThen next place = some reached)
    : ∃ char rest,
        place.after = char :: rest ∧ Alphabet.foldCase char = first.toLower := by
  obtain ⟨text, rest, after, same⟩ := spelled_of_letters matched
  rw [spelled, List.map_cons] at same
  obtain ⟨char, others, rfl, head, _⟩ := List.map_eq_cons_iff.mp same
  exact ⟨char, others ++ rest, after, head⟩

/-- Letters do not match where others stand. -/
theorem letters_andThen_eq_none {word : String} {text rest : Text} {small : List Char}
    (stands : text.map Alphabet.foldCase = small) (after : place.after = text ++ rest)
    {count : Nat} (reaches : count ≤ small.length ∧ count ≤ word.toList.length)
    (differ : small.take count ≠ (word.toList.map Char.toLower).take count)
    : (letters word).andThen next place = none := by
  refine Option.eq_none_iff_forall_ne_some.mpr fun reached matched => differ ?_
  obtain ⟨found, left, begins, spelled⟩ := spelled_of_letters matched
  have same := congrArg (fun text => (text.map Alphabet.foldCase).take count)
    (after.symm.trans begins)
  have enough : count ≤ (word.toList.map Char.toLower).length := by simpa using reaches.2
  simp only [List.map_append, stands, spelled] at same
  rwa [List.take_append_of_le_length reaches.1, List.take_append_of_le_length enough] at same

/-- A pattern matches at no place where a character stands. -/
def CannotBegin (pattern : Pattern) (char : Char) : Prop :=
  ∀ next, Refuses (pattern.andThen next) char

theorem CannotBegin.append {first : Pattern} {char : Char} (cannot : first.CannotBegin char)
    (second : Pattern)
    : (first ++ second).CannotBegin char :=
  fun next => cannot (second.andThen next)

theorem CannotBegin.orElse {first second : Pattern} {char : Char}
    (cannotFirst : first.CannotBegin char) (cannotSecond : second.CannotBegin char)
    : (first <|> second).CannotBegin char :=
  fun next place rest after =>
    (orElse_andThen_of_none (cannotFirst next place rest after)).trans
      (cannotSecond next place rest after)

/-- Letters begin with no other letter than their first. -/
theorem letters_cannotBegin {word : String} {first : Char} {more : List Char}
    (spelled : word.toList = first :: more) {char : Char}
    (other : Alphabet.foldCase char ≠ first.toLower)
    : (letters word).CannotBegin char := by
  intro next place rest after
  refine Option.eq_none_iff_forall_ne_some.mpr fun reached matched => ?_
  obtain ⟨found, others, stands, same⟩ := head_of_letters spelled matched
  obtain ⟨rfl, _⟩ := List.cons.inj (after.symm.trans stands)
  exact other same

end Pattern

end DumpTransfer
