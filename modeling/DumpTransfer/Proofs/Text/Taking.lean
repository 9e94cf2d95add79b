import DumpTransfer.Proofs.Text.Matching

/-! Patterns that take a known text. What is said of a piece leaves open how the match goes on, so
that pieces join to longer ones, and a choice is made by the pieces that miss what stands there.
-/

namespace DumpTransfer.Pattern

variable {first second body : Pattern} {text more rest : Text}

/-- The pattern takes a text before another one, if the match goes on after it. -/
def Takes (pattern : Pattern) (text rest : Text) : Prop :=
  ∀ (next : Continuation) (place reached : Place), place.after = text ++ rest →
    next (place.past text rest) = some reached → pattern.andThen next place = some reached

/-- The pattern does not match at the start of a text. -/
def Misses (pattern : Pattern) (text : Text) : Prop :=
  ∀ (next : Continuation) (place : Place), place.after = text → pattern.andThen next place = none

-----------------------------------------------------------------------------------------
-- Joining pieces
-----------------------------------------------------------------------------------------

theorem Takes.append (takesFirst : first.Takes text (more ++ rest))
    (takesSecond : second.Takes more rest)
    : (first ++ second).Takes (text ++ more) rest := by
  intro next place reached after found
  refine takesFirst _ place reached (after.trans (List.append_assoc _ _ _)) ?_
  refine takesSecond next _ reached rfl ?_
  rwa [Place.past_past]

theorem Takes.orElse (takes : first.Takes text rest) (second : Pattern)
    : (first <|> second).Takes text rest :=
  fun next place reached after found =>
    orElse_andThen_of_some (takes next place reached after found)

theorem Misses.orElse_takes (misses : first.Misses (text ++ rest))
    (takes : second.Takes text rest)
    : (first <|> second).Takes text rest := by
  intro next place reached after found
  rw [orElse_andThen_of_none (misses next place after)]
  exact takes next place reached after found

theorem Takes.optional (takes : body.Takes text rest)
    : (optional body).Takes text rest :=
  takes.orElse _

theorem Misses.optional_takes (misses : body.Misses rest)
    : (Pattern.optional body).Takes [] rest := by
  intro next place reached after found
  have stands : place.after = rest := after
  rw [Place.past_nil stands] at found
  rwa [optional_andThen_of_none (misses next place stands)]

theorem Misses.append (misses : first.Misses text) (second : Pattern)
    : (first ++ second).Misses text :=
  fun next => misses (second.andThen next)

theorem Misses.orElse (missesFirst : first.Misses text) (missesSecond : second.Misses text)
    : (first <|> second).Misses text :=
  fun next place after =>
    (orElse_andThen_of_none (missesFirst next place after)).trans (missesSecond next place after)

theorem Takes.orElse_append {last : Pattern} (takes : (first ++ last).Takes text rest)
    (second : Pattern)
    : ((first <|> second) ++ last).Takes text rest :=
  fun next place reached after found =>
    orElse_andThen_of_some (takes next place reached after found)

theorem Misses.orElse_append_takes {last : Pattern} (misses : first.Misses (text ++ rest))
    (takes : (second ++ last).Takes text rest)
    : ((first <|> second) ++ last).Takes text rest := by
  intro next place reached after found
  rw [append_andThen, orElse_andThen_of_none (misses _ place after)]
  exact takes next place reached after found

/-- Nothing is taken for a shape that is missed together with what comes after it. -/
theorem Misses.optional_append_takes (misses : (body ++ second).Misses (text ++ rest))
    (takes : second.Takes text rest)
    : (Pattern.optional body ++ second).Takes text rest := by
  intro next place reached after found
  have nothing : body.andThen (second.andThen next) place = none := misses next place after
  rw [append_andThen, optional_andThen_of_none nothing]
  exact takes next place reached after found

theorem CannotBegin.misses {char : Char} (cannot : body.CannotBegin char) (rest : Text)
    : body.Misses (char :: rest) :=
  fun next place after => cannot next place rest after

/-- What is not matched after a text that is taken at once is not matched with it. -/
theorem Misses.after_letters {word : String} (misses : second.Misses rest)
    (spelled : text.map Alphabet.foldCase = word.toList.map Char.toLower)
    : (letters word ++ second).Misses (text ++ rest) := by
  intro next place after
  rw [append_andThen, letters_andThen spelled after]
  exact misses next _ rfl

-----------------------------------------------------------------------------------------
-- Pieces
-----------------------------------------------------------------------------------------

theorem letters_takes {word : String}
    (spelled : text.map Alphabet.foldCase = word.toList.map Char.toLower) (rest : Text)
    : (letters word).Takes text rest := by
  intro next place reached after found
  rwa [letters_andThen spelled after]

theorem run_takes {accepts : Char → Bool} (all : ∀ char ∈ text, accepts char = true)
    (stop : ∀ char ∈ rest.head?, accepts char = false)
    : (run accepts).Takes text rest :=
  fun _ _ _ after found => run_andThen_of_some after all stop found

theorem someOf_takes {accepts : Char → Bool} (isThere : text ≠ [])
    (all : ∀ char ∈ text, accepts char = true) (stop : ∀ char ∈ rest.head?, accepts char = false)
    : (someOf accepts).Takes text rest :=
  fun _ _ _ after found => someOf_andThen_of_some after isThere all stop found

/-- A shape after white space is not found by giving white space back. -/
theorem gap_misses (isThere : text ≠ [])
    (blank : ∀ char ∈ text, Alphabet.isBlank char = true)
    (stop : ∀ char ∈ rest.head?, Alphabet.isBlank char = false)
    (cannot : ∀ char, Alphabet.isBlank char = true → body.CannotBegin char)
    (misses : body.Misses rest)
    : (gap ++ body).Misses (text ++ rest) := by
  intro next place after
  rw [append_andThen, gap,
    someOf_andThen after isThere blank stop fun char member => cannot char (blank char member) next]
  exact misses next _ rfl

/-- White space is missed where there is none. -/
theorem gap_misses_of_stop (stop : ∀ char ∈ rest.head?, Alphabet.isBlank char = false)
    (body : Pattern)
    : (gap ++ body).Misses rest := by
  intro next place after
  rw [append_andThen, gap, someOf, append_andThen]
  cases rest with
  | nil => simp [andThen, after]
  | cons char more => exact one_andThen_eq_none after (stop char rfl)

/-- Where white space is matched, the text begins with it. -/
theorem exists_blank_of_gap {next : Continuation} {place reached : Place}
    (matched : (gap ++ body).andThen next place = some reached)
    : ∃ space others, place.after = space :: others ∧ Alphabet.isBlank space = true := by
  cases after : place.after with
  | nil => cases matched.symm.trans (gap_misses_of_stop (by simp) body next place after)
  | cons char more =>
      cases blank : Alphabet.isBlank char with
      | true => exact ⟨char, more, rfl, blank⟩
      | false =>
          have stop : ∀ other ∈ (char :: more).head?, Alphabet.isBlank other = false :=
            fun other head => Option.some.inj head ▸ blank
          cases matched.symm.trans (gap_misses_of_stop stop body next place after)

theorem one_takes {accepts : Char → Bool} {char : Char} (accepted : accepts char = true)
    (rest : Text)
    : (one accepts).Takes [char] rest := by
  intro next place reached after found
  rwa [one_andThen after accepted]

theorem one_misses {accepts : Char → Bool} {char : Char} (refused : accepts char = false)
    (rest : Text)
    : (one accepts).Misses (char :: rest) :=
  fun _ _ after => one_andThen_eq_none after refused

theorem exactly_takes (text rest : Text)
    : (exactly text).Takes text rest := by
  intro next place reached after found
  rw [exactly_andThen, after, Text.dropPrefix?_append]
  exact found

theorem exactly_misses (other : Text.dropPrefix? rest text = none)
    : (exactly text).Misses rest := by
  intro next place after
  rw [exactly_andThen, after, other]
  rfl

-----------------------------------------------------------------------------------------
-- Repetitions
-----------------------------------------------------------------------------------------

variable {next : Continuation} {place reached : Place}

/-- A repetition ends where its shape is missed. -/
theorem manyThen_of_misses (misses : body.Misses rest) (after : place.after = rest) (bound : Nat)
    : manyThen body.andThen next bound place = next place := by
  cases bound with
  | zero => rfl
  | succ bound => rw [manyThen, misses _ place after]

/-- A repetition takes one more piece of text. -/
theorem manyThen_of_takes (takes : body.Takes text rest) (isThere : text ≠ [])
    (after : place.after = text ++ rest) {bound : Nat}
    (later : manyThen body.andThen next bound (place.past text rest) = some reached)
    : manyThen body.andThen next (bound + 1) place = some reached := by
  have further : place.offset < (place.past text rest).offset :=
    Nat.lt_add_of_pos_right (List.length_pos_iff.mpr isThere)
  rw [manyThen, takes _ place reached after (by rw [if_pos further]; exact later)]

/-- There are no more pieces than characters in them, if none is empty. -/
theorem length_le_flatten {pieces : List Text} (filled : ∀ piece ∈ pieces, piece ≠ [])
    : pieces.length ≤ pieces.flatten.length := by
  induction pieces with
  | nil => exact Nat.le_refl 0
  | cons piece others ih =>
      rw [List.forall_mem_cons] at filled
      have isThere := List.length_pos_iff.mpr filled.1
      have later := ih filled.2
      rw [List.flatten_cons, List.length_append, List.length_cons]
      omega

/-- A repetition takes pieces one after the other, by induction over the pieces. -/
theorem many_takes {pieces : List Text}
    (each : ∀ piece ∈ pieces, piece ≠ [] ∧ ∀ rest, body.Takes piece rest)
    (misses : body.Misses rest)
    : (many body).Takes pieces.flatten rest := by
  intro next place reached after found
  have enough : pieces.length ≤ place.after.length := by
    rw [after, List.length_append]
    exact Nat.le_add_right_of_le (length_le_flatten fun piece member => (each piece member).1)
  change manyThen body.andThen next place.after.length place = some reached
  generalize place.after.length = bound at enough
  induction pieces generalizing place bound with
  | nil =>
      have stands : place.after = rest := after
      rw [manyThen_of_misses misses stands, ← found]
      exact congrArg next (Place.past_nil stands).symm
  | cons piece others ih =>
      obtain ⟨bound, rfl⟩ := Nat.exists_eq_add_of_lt (Nat.lt_of_lt_of_le (Nat.succ_pos _) enough)
      rw [List.forall_mem_cons] at each
      rw [List.flatten_cons] at after found
      rw [List.append_assoc] at after
      rw [Nat.zero_add]
      refine manyThen_of_takes (each.1.2 _) each.1.1 after (ih each.2 _ rfl ?_ _ ?_)
      · rwa [Place.past_past]
      · simpa using enough

end DumpTransfer.Pattern
