import DumpTransfer.Proofs.Text.Removal

/-! The texts that patterns describe, piece by piece. What a pattern without edges matches is told
by the text alone, so that a shape built from pieces describes the texts built from theirs.
-/

namespace DumpTransfer

-----------------------------------------------------------------------------------------
-- Kinds of texts
-----------------------------------------------------------------------------------------

namespace Text

/-- Pieces in a row, each of its kind. -/
def InRow : List (Text → Prop) → Text → Prop
  | [], text => text = []
  | kind :: others, text => ∃ first rest, text = first ++ rest ∧ kind first ∧ InRow others rest

/-- A text of one of two kinds. -/
def Either (first second : Text → Prop) (text : Text) : Prop :=
  first text ∨ second text

/-- A text of a kind, or none. -/
def Optional (kind : Text → Prop) : Text → Prop :=
  Either kind (InRow [])

/-- Any number of pieces of a kind, none of them empty. -/
def Several (kind : Text → Prop) (text : Text) : Prop :=
  ∃ pieces : List Text, text = pieces.flatten ∧ ∀ piece ∈ pieces, kind piece ∧ piece ≠ []

/-- At least one character, all of a class. -/
def SomeOf (accepts : Char → Bool) (text : Text) : Prop :=
  text ≠ [] ∧ ∀ char ∈ text, accepts char = true

/-- White space, at least one character of it. -/
def IsGap : Text → Prop :=
  SomeOf Alphabet.isBlank

/-- A word in either case. -/
def Spells (word : String) (text : Text) : Prop :=
  text.map Alphabet.foldCase = word.toList.map Char.toLower

/-- Words in either case with white space between each two. -/
def Spelled : List String → Text → Prop
  | [] => InRow []
  | [last] => Spells last
  | first :: second :: others => InRow [Spells first, IsGap, Spelled (second :: others)]

/-- One of several words in either case. -/
def SpellsAny (words : List String) (text : Text) : Prop :=
  ∃ word ∈ words, Spells word text

theorem inRow_append {first second : List (Text → Prop)} {text : Text}
    : InRow (first ++ second) text
      ↔ ∃ before after, text = before ++ after ∧ InRow first before ∧ InRow second after := by
  induction first generalizing text with
  | nil =>
      constructor
      · intro inSecond
        exact ⟨[], text, rfl, rfl, inSecond⟩
      · rintro ⟨_, after, rfl, rfl, inSecond⟩
        exact inSecond
  | cons kind others ih =>
      simp only [List.cons_append, InRow, ih]
      constructor
      · rintro ⟨piece, _, rfl, isKind, before, after, rfl, inFirst, inSecond⟩
        exact ⟨piece ++ before, after, (List.append_assoc ..).symm, ⟨piece, before, rfl, isKind,
          inFirst⟩, inSecond⟩
      · rintro ⟨_, after, rfl, ⟨piece, before, rfl, isKind, inFirst⟩, inSecond⟩
        exact ⟨piece, before ++ after, List.append_assoc .., isKind, before, after, rfl, inFirst,
          inSecond⟩

@[simp] theorem inRow_singleton {kind : Text → Prop} {text : Text}
    : InRow [kind] text ↔ kind text := by
  simp [InRow]

end Text

namespace Pattern

open Text (InRow Either Several SomeOf IsGap Spells Spelled SpellsAny)

variable {first second body pattern : Pattern} {language other : Text → Prop}
variable {kinds : List (Text → Prop)} {place reached : Place}

-----------------------------------------------------------------------------------------
-- Languages of patterns
-----------------------------------------------------------------------------------------

/-- The pattern matches the texts of a language wherever they stand, and no others. -/
def Describes (pattern : Pattern) (language : Text → Prop) : Prop :=
  ∀ place reached : Place, pattern.Matches place reached
    ↔ ∃ text rest, place.after = text ++ rest ∧ language text ∧ reached = place.past text rest

theorem Describes.congr (describes : pattern.Describes language)
    (same : ∀ text, language text ↔ other text)
    : pattern.Describes other := by
  obtain rfl : language = other := funext fun text => propext (same text)
  exact describes

theorem describes_one (accepts : Char → Bool)
    : (one accepts).Describes fun text => ∃ char, text = [char] ∧ accepts char = true := by
  intro place reached
  constructor
  · rintro ⟨char, rest, after, accepted, rfl⟩
    exact ⟨[char], rest, after, ⟨char, rfl, accepted⟩, rfl⟩
  · rintro ⟨_, rest, after, ⟨char, rfl, accepted⟩, rfl⟩
    exact ⟨char, rest, after, accepted, rfl⟩

theorem describes_run (accepts : Char → Bool)
    : (run accepts).Describes fun text => ∀ char ∈ text, accepts char = true :=
  fun _ _ => Iff.rfl

theorem describes_nothing
    : (check fun _ => true).Describes (InRow []) := by
  intro place reached
  constructor
  · rintro ⟨_, rfl⟩
    exact ⟨[], _, rfl, rfl, (Place.past_nil rfl).symm⟩
  · rintro ⟨_, rest, after, rfl, rfl⟩
    exact ⟨rfl, Place.past_nil after⟩

theorem Describes.append (describes : first.Describes language)
    (describesSecond : second.Describes (InRow kinds))
    : (first ++ second).Describes (InRow (language :: kinds)) := by
  intro place reached
  rw [matches_append]
  constructor
  · rintro ⟨between, matched, matchedSecond⟩
    obtain ⟨text, rest, after, isFirst, rfl⟩ := (describes _ _).mp matched
    obtain ⟨more, left, split, isSecond, rfl⟩ := (describesSecond _ _).mp matchedSecond
    obtain rfl : rest = more ++ left := split
    exact ⟨text ++ more, left, by rw [after, List.append_assoc], ⟨text, more, rfl, isFirst,
      isSecond⟩, Place.past_past ..⟩
  · rintro ⟨_, left, after, ⟨text, more, rfl, isFirst, isSecond⟩, rfl⟩
    refine ⟨place.past text (more ++ left), ?_, ?_⟩
    · exact (describes _ _).mpr ⟨text, _, by rw [after, List.append_assoc], isFirst, rfl⟩
    · exact (describesSecond _ _).mpr ⟨more, left, rfl, isSecond, (Place.past_past ..).symm⟩

/-- One more piece at the end. -/
theorem Describes.then (describes : first.Describes (InRow kinds))
    (describesSecond : second.Describes language)
    : (first ++ second).Describes (InRow (kinds ++ [language])) := by
  have single : second.Describes (InRow [language]) :=
    describesSecond.congr fun _ => Text.inRow_singleton.symm
  refine (describes.append single).congr fun text => ?_
  rw [Text.inRow_append]
  rfl

theorem Describes.single (describes : pattern.Describes language)
    : pattern.Describes (InRow [language]) :=
  describes.congr fun _ => Text.inRow_singleton.symm

theorem Describes.orElse (describes : first.Describes language)
    (describesSecond : second.Describes other)
    : (first <|> second).Describes (Either language other) := by
  intro place reached
  rw [matches_orElse, describes, describesSecond]
  constructor
  · rintro (⟨text, rest, after, isKind, rfl⟩ | ⟨text, rest, after, isKind, rfl⟩)
    · exact ⟨text, rest, after, .inl isKind, rfl⟩
    · exact ⟨text, rest, after, .inr isKind, rfl⟩
  · rintro ⟨text, rest, after, isKind | isKind, rfl⟩
    · exact .inl ⟨text, rest, after, isKind, rfl⟩
    · exact .inr ⟨text, rest, after, isKind, rfl⟩

theorem Describes.optional (describes : body.Describes language)
    : (optional body).Describes (Text.Optional language) :=
  Describes.orElse describes describes_nothing

theorem Describes.many (describes : body.Describes language)
    : (many body).Describes (Several language) := by
  intro place reached
  constructor
  · intro found
    change Repeats body.Matches place reached at found
    induction found with
    | done place => exact ⟨[], _, rfl, ⟨[], rfl, by simp⟩, (Place.past_nil rfl).symm⟩
    | more first further _ ih =>
        obtain ⟨text, rest, after, isKind, rfl⟩ := (describes _ _).mp first
        obtain ⟨_, left, split, ⟨pieces, rfl, all⟩, rfl⟩ := ih
        obtain rfl : rest = pieces.flatten ++ left := split
        have isThere : text ≠ [] := by
          rintro rfl
          exact Nat.lt_irrefl _ further
        refine ⟨text ++ pieces.flatten, left, by rw [after, List.append_assoc],
          ⟨text :: pieces, rfl, ?_⟩, Place.past_past ..⟩
        rintro piece (_ | ⟨_, member⟩)
        · exact ⟨isKind, isThere⟩
        · exact all piece member
  · rintro ⟨_, left, after, ⟨pieces, rfl, all⟩, rfl⟩
    change Repeats body.Matches place _
    induction pieces generalizing place with
    | nil =>
        have same : place.past [] left = place := Place.past_nil after
        rw [List.flatten_nil, same]
        exact .done place
    | cons piece others ih =>
        obtain ⟨isKind, isThere⟩ := all piece (by simp)
        rw [List.flatten_cons, List.append_assoc] at after
        have later : Repeats body.Matches (place.past piece (others.flatten ++ left)) _ :=
          ih _ (fun other member => all other (by simp [member])) rfl
        rw [Place.past_past] at later
        refine .more ((describes _ _).mpr ⟨piece, _, after, isKind, rfl⟩) ?_ later
        exact Nat.lt_add_of_pos_right (List.length_pos_iff.mpr isThere)

theorem describes_someOf (accepts : Char → Bool)
    : (someOf accepts).Describes (SomeOf accepts) := by
  refine ((describes_one accepts).append (describes_run accepts).single).congr fun text => ?_
  simp only [InRow]
  constructor
  · rintro ⟨_, rest, rfl, ⟨char, rfl, accepted⟩, more, _, rfl, all, rfl⟩
    refine ⟨by simp, ?_⟩
    simpa [accepted] using all
  · rintro ⟨isThere, all⟩
    obtain ⟨char, rest, rfl⟩ := List.exists_cons_of_ne_nil isThere
    rw [List.forall_mem_cons] at all
    exact ⟨[char], rest, rfl, ⟨char, rfl, all.1⟩, rest, [], by simp, all.2, rfl⟩

theorem describes_char (char : Char)
    : (Pattern.char char).Describes (· = [char]) :=
  (describes_one _).congr fun text => by simp [and_comm, eq_comm]

theorem describes_letters (word : String)
    : (letters word).Describes (Spells word) := by
  have goes (letters : List Char)
      : (letters.foldr
          (fun expected later =>
            one (fun found => Alphabet.foldCase found = expected.toLower) ++ later)
          (check fun _ => true)).Describes
        (fun text => text.map Alphabet.foldCase = letters.map Char.toLower) := by
    induction letters with
    | nil => exact describes_nothing.congr fun text => by simp [InRow]
    | cons letter more ih =>
        refine ((describes_one _).append ih.single).congr fun text => ?_
        simp only [InRow, decide_eq_true_eq]
        constructor
        · rintro ⟨_, rest, rfl, ⟨char, rfl, same⟩, _, _, rfl, spelled, rfl⟩
          simp [same, spelled]
        · intro spelled
          obtain ⟨char, others, rfl, same, spelledMore⟩ := List.map_eq_cons_iff.mp spelled
          exact ⟨[char], others, rfl, ⟨char, rfl, same⟩, others, [], by simp, spelledMore, rfl⟩
  rw [letters, Text.ofString_eq]
  exact goes word.toList

theorem describes_words (words : List String)
    : (Pattern.words words).Describes (Spelled words) := by
  induction words with
  | nil => exact describes_nothing
  | cons word others ih =>
      cases others with
      | nil => exact describes_letters word
      | cons second later =>
          exact ((describes_letters word).single.then (describes_someOf _)).then ih

theorem describes_anyWord (words : List String)
    : (anyWord words).Describes (SpellsAny words) := by
  induction words with
  | nil =>
      intro place reached
      constructor
      · rintro ⟨no, _⟩
        cases no
      · rintro ⟨_, _, _, ⟨_, member, _⟩, _⟩
        cases member
  | cons word others ih =>
      cases others with
      | nil => exact (describes_letters word).congr fun text => by simp [SpellsAny]
      | cons second later =>
          refine ((describes_letters word).orElse ih).congr fun text => ?_
          simp [Either, SpellsAny]

end Pattern

end DumpTransfer
