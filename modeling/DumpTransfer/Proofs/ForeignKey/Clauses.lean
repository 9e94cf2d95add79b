import DumpTransfer.Proofs.ForeignKey.Actions
import DumpTransfer.Proofs.Text.Mentions

/-! What declarations of foreign keys say of rows that refer to deleted or updated ones, clause by
clause. The clauses are taken in a row as they are written, and for either event the last one that
is given holds.
-/

namespace DumpTransfer.ForeignKey

open Pattern Sql
open Text (IsGap Spells Spelled Lacks)
open Conversion.Heading (isKeyword Gap spelling_stops foldCase_spelling areApart
  letters_misses_of_areApart)
open Conversion.Insertion (Spelling)
open Conversion.Definition (isWord_of_spells ne_nil_of_spells)

-----------------------------------------------------------------------------------------
-- Words in a row
-----------------------------------------------------------------------------------------

section Words

variable {words : List String} {word : String} {text rest : Text}

theorem stops_of_spells (known : isKeyword word = true) (spells : Spells word text) (rest : Text)
    : ∀ char ∈ (text ++ rest).head?, Alphabet.isBlank char = false := by
  intro char head
  obtain ⟨first, more, rfl⟩ := List.exists_cons_of_ne_nil (ne_nil_of_spells known spells)
  obtain rfl := Option.some.inj head
  refine Bool.eq_false_iff.mpr fun blank => ?_
  have isWord := isWord_of_spells known spells first (by simp)
  rw [(Conversion.Heading.apart_of_isBlank blank).1] at isWord
  cases isWord

theorem stops_of_spelled (isThere : words ≠ []) (known : words.all isKeyword = true)
    (spelled : Spelled words text) (rest : Text)
    : ∀ char ∈ (text ++ rest).head?, Alphabet.isBlank char = false := by
  match words with
  | [] => exact absurd rfl isThere
  | [last] => exact stops_of_spells (by simpa using known) spelled rest
  | first :: second :: others =>
      rw [List.all_cons, Bool.and_eq_true] at known
      obtain ⟨before, more, rfl, spells, -⟩ := spelled
      rw [List.append_assoc]
      exact stops_of_spells known.1 spells _

/-- Words are taken one by one with the white space between them. -/
theorem words_takes (known : words.all isKeyword = true) (spelled : Spelled words text)
    (rest : Text)
    : (Pattern.words words).Takes text rest := by
  induction words generalizing text with
  | nil =>
      obtain rfl : text = [] := spelled
      intro next place reached after found
      have stands : place.after = rest := after
      rw [Place.past_nil stands] at found
      exact (check_andThen rfl).trans found
  | cons word others ih =>
      rw [List.all_cons, Bool.and_eq_true] at known
      cases others with
      | nil => exact letters_takes spelled rest
      | cons second later =>
          obtain ⟨first, _, rfl, spells, gap, more, rfl, isGap, spelled⟩ := spelled
          have spelled := Text.inRow_singleton.mp spelled
          have stops := stops_of_spelled (List.cons_ne_nil _ _) known.2 spelled rest
          have space : Pattern.gap.Takes gap (more ++ rest) := someOf_takes isGap.1 isGap.2 stops
          have both := (letters_takes spells (gap ++ more ++ rest)).append
            (space.append (ih known.2 spelled))
          exact both

/-- Words are missed where the first of them is apart from the word that stands there. -/
theorem words_misses {other : String} {later others : List String}
    (apart : areApart word other = true) (spelled : Spelled (word :: later) text) (rest : Text)
    : (Pattern.words (other :: others)).Misses (text ++ rest) := by
  have first : (letters other).Misses (text ++ rest) := by
    cases later with
    | nil => exact letters_misses_of_areApart apart spelled rest
    | cons second more =>
        obtain ⟨before, after, rfl, spells, -⟩ := spelled
        rw [List.append_assoc]
        exact letters_misses_of_areApart apart spells _
  cases others with
  | nil => exact first
  | cons second more => exact (first.append _).append _

-----------------------------------------------------------------------------------------
-- Actions
-----------------------------------------------------------------------------------------

/-- What is set is told from other words and by its second word. -/
theorem set_default_misses (spelled : Spelled ["SET", "DEFAULT"] text) (rest : Text)
    : (Pattern.words ["SET", "NULL"]).Misses (text ++ rest) := by
  obtain ⟨first, _, rfl, spells, gap, more, rfl, isGap, spelled⟩ := spelled
  have spellsDefault : Spells "DEFAULT" more := Text.inRow_singleton.mp spelled
  have cannot (char : Char) (blank : Alphabet.isBlank char = true)
      : (letters "NULL").CannotBegin char :=
    Conversion.Heading.letters_cannotBegin_blank rfl blank
  have misses : (Pattern.gap ++ letters "NULL").Misses (gap ++ (more ++ rest)) :=
    gap_misses isGap.1 isGap.2 (stops_of_spells rfl spellsDefault rest) cannot
      (letters_misses_of_areApart rfl spellsDefault rest)
  rw [List.append_assoc, List.append_assoc]
  exact misses.after_letters spells

/-- An action is taken as it is written: the actions before it in the pattern are missed. -/
theorem action_takes (member : words ∈ actionWords) (spelled : Spelled words text) (rest : Text)
    : Shape.action.Takes text rest := by
  have takes := words_takes (actionWords_known words member) spelled rest
  simp only [actionWords, List.mem_cons, List.not_mem_nil, or_false] at member
  rcases member with rfl | rfl | rfl | rfl | rfl
  · exact takes.orElse _
  · have first : (Pattern.words ["RESTRICT"]).Misses (text ++ rest) := words_misses rfl spelled rest
    exact first.orElse_takes (takes.orElse _)
  · have first : (Pattern.words ["RESTRICT"]).Misses (text ++ rest) := words_misses rfl spelled rest
    have second : (Pattern.words ["CASCADE"]).Misses (text ++ rest) := words_misses rfl spelled rest
    exact first.orElse_takes (second.orElse_takes (takes.orElse _))
  · have first : (Pattern.words ["RESTRICT"]).Misses (text ++ rest) := words_misses rfl spelled rest
    have second : (Pattern.words ["CASCADE"]).Misses (text ++ rest) := words_misses rfl spelled rest
    have third := set_default_misses spelled rest
    exact first.orElse_takes (second.orElse_takes (third.orElse_takes (takes.orElse _)))
  · have misses {other : String} {others : List String} (apart : areApart "NO" other = true)
        : (Pattern.words (other :: others)).Misses (text ++ rest) := words_misses apart spelled rest
    have first : (Pattern.words ["RESTRICT"]).Misses (text ++ rest) := misses rfl
    have second : (Pattern.words ["CASCADE"]).Misses (text ++ rest) := misses rfl
    exact first.orElse_takes (second.orElse_takes
      ((misses rfl).orElse_takes ((misses rfl).orElse_takes takes)))

end Words

-----------------------------------------------------------------------------------------
-- Clauses
-----------------------------------------------------------------------------------------

/-- What happens to rows that are referred to. -/
inductive Event where
  | delete
  | update
  deriving DecidableEq

def Event.word : Event → String
  | delete => "DELETE"
  | update => "UPDATE"

/-- What is done in an event, as a declaration says it. -/
structure Clause where
  beforeOn : Gap
  on : Spelling "ON"
  beforeEvent : Gap
  event : Event
  eventText : Spelling event.word
  beforeAction : Gap
  words : List String
  known : words ∈ actionWords
  action : Text
  spelled : Spelled words action

namespace Clause

/-- The clause from its first word on. -/
def said (clause : Clause) : Text :=
  clause.on.text ++ (clause.beforeEvent.text
    ++ (clause.eventText.text ++ (clause.beforeAction.text ++ clause.action)))

def text (clause : Clause) : Text :=
  clause.beforeOn.text ++ clause.said

variable (clause : Clause)

/-- What a search notes of the clause. -/
def notes : Notes :=
  [("action", clause.action), ("event", clause.eventText.text)]

theorem actionKnown : clause.words.all isKeyword = true :=
  actionWords_known clause.words clause.known

theorem event_takes (rest : Text)
    : (anyWord ["DELETE", "UPDATE"]).Takes clause.eventText.text rest := by
  obtain ⟨_, _, _, event, eventText, _, _, _, _, _⟩ := clause
  cases event with
  | delete => exact (Conversion.Heading.spelling_takes rfl eventText rest).orElse _
  | update =>
      have misses : (letters "DELETE").Misses (eventText.text ++ rest) :=
        Conversion.Heading.spelling_misses rfl (by decide) eventText rest
      exact misses.orElse_takes (Conversion.Heading.spelling_takes rfl eventText rest)

theorem eventStops (rest : Text)
    : ∀ char ∈ (clause.eventText.text ++ rest).head?, Alphabet.isBlank char = false := by
  have known : ∀ event : Event, isKeyword event.word = true := by
    rintro (_ | _) <;> rfl
  exact spelling_stops (known clause.event) clause.eventText rest

/-- The words of a clause are taken one by one. -/
theorem parts_take (rest : Text)
    : ((letters "ON").Takes clause.on.text (clause.beforeEvent.text ++ (clause.eventText.text
          ++ (clause.beforeAction.text ++ clause.action)) ++ rest)
        ∧ Pattern.gap.Takes clause.beforeEvent.text
            (clause.eventText.text ++ (clause.beforeAction.text ++ clause.action) ++ rest))
      ∧ (anyWord ["DELETE", "UPDATE"]).Takes clause.eventText.text
          (clause.beforeAction.text ++ clause.action ++ rest)
      ∧ Pattern.gap.Takes clause.beforeAction.text (clause.action ++ rest)
      ∧ Shape.action.Takes clause.action rest := by
  have actionThere : clause.words ≠ [] := by
    have filled : ∀ words ∈ actionWords, words ≠ [] := by decide +kernel
    exact filled clause.words clause.known
  refine ⟨⟨Conversion.Heading.spelling_takes rfl clause.on _, clause.beforeEvent.takes ?_⟩,
    clause.event_takes _, clause.beforeAction.takes ?_,
    action_takes clause.known clause.spelled rest⟩
  · rw [List.append_assoc]
    exact clause.eventStops _
  · exact stops_of_spelled actionThere clause.actionKnown clause.spelled rest

/-- A search for single clauses takes a clause and notes its event and its action. -/
theorem single_noting (rest : Text)
    : singleAction.TakesNoting clause.said rest clause.notes := by
  obtain ⟨⟨on, beforeEvent⟩, event, beforeAction, action⟩ := clause.parts_take rest
  exact on.noting.append (beforeEvent.noting.append ((event.noting.group "event").append
    (beforeAction.noting.append (action.noting.group "action"))))

/-- A declaration takes a clause as it is written. -/
theorem takes (rest : Text)
    : Shape.referenceAction.Takes clause.text rest := by
  obtain ⟨⟨on, beforeEvent⟩, event, beforeAction, action⟩ := clause.parts_take rest
  have beforeOn : Pattern.gap.Takes clause.beforeOn.text (clause.said ++ rest) := by
    refine clause.beforeOn.takes ?_
    rw [said, List.append_assoc]
    exact spelling_stops rfl clause.on _
  exact beforeOn.append (on.append (beforeEvent.append (event.append (beforeAction.append action))))

theorem text_ne_nil : clause.text ≠ [] := by
  obtain ⟨first, rest, same, -⟩ := clause.beforeOn.exists_first
  simp [text, same]

end Clause

def clausesText (clauses : List Clause) : Text :=
  (clauses.map Clause.text).flatten

/-- What may come after a declaration: white space and then a comma or a closing parenthesis. -/
def Closes (rest : Text) : Prop :=
  ∃ spaces sign more, rest = spaces ++ sign :: more ∧ Text.Blank spaces ∧ (sign = ',' ∨ sign = ')')

theorem Closes.misses {rest : Text} (closes : Closes rest)
    : Shape.referenceAction.Misses rest := by
  obtain ⟨spaces, sign, more, rfl, blank, kind⟩ := closes
  have solid : ∀ char ∈ (sign :: more).head?, Alphabet.isBlank char = false := by
    rcases kind with rfl | rfl <;> simpa using by decide
  have misses : (letters "ON").Misses (sign :: more) := by
    have cannot : (letters "ON").CannotBegin sign := by
      refine letters_cannotBegin rfl ?_
      rcases kind with rfl | rfl <;> decide
    exact cannot.misses more
  have cannot (char : Char) (blank : Alphabet.isBlank char = true)
      : (letters "ON").CannotBegin char :=
    Conversion.Heading.letters_cannotBegin_blank rfl blank
  have first : (Pattern.gap ++ letters "ON").Misses (spaces ++ sign :: more) := by
    by_cases none : spaces = []
    · rw [none]
      exact gap_misses_of_stop solid _
    · exact gap_misses none blank solid cannot misses
  exact (((first.append _).append _).append _).append _

/-- All clauses of a declaration are taken. -/
theorem clauses_take (clauses : List Clause) {rest : Text} (closes : Closes rest)
    : (many Shape.referenceAction).Takes (clausesText clauses) rest := by
  refine many_takes (fun piece member => ?_) closes.misses
  obtain ⟨clause, -, rfl⟩ := List.mem_map.mp member
  exact ⟨clause.text_ne_nil, clause.takes⟩

-----------------------------------------------------------------------------------------
-- The actions of a declaration
-----------------------------------------------------------------------------------------

/-- Every clause is found again, by induction over the clauses. -/
theorem single_findings (clauses : List Clause) {place : Place}
    (after : place.after = clausesText clauses) (clean : place.groups = []) {bound : Nat}
    (enough : clauses.length ≤ bound)
    : ((singleAction.findAllFrom bound place).map Match.finding).map Finding.notes
      = clauses.map Clause.notes := by
  induction clauses generalizing place bound with
  | nil =>
      have nothing : singleAction.findAllFrom bound place = [] := by
        have atEnd : place.after = [] := after
        refine findAllFrom_of_avoids (avoids_of_cannotBegin (by simp)) (fun reached matched => ?_)
          atEnd bound
        obtain ⟨_, ⟨_, ⟨_, ⟨_, word, -⟩, -⟩, -⟩, -⟩ := matched
        obtain ⟨found, rest, split, spells, -⟩ := (describes_letters "ON" _ _).mp word
        have empty : found = [] := (List.append_eq_nil_iff.mp split.symm).1
        exact ne_nil_of_spells rfl spells empty
      rw [nothing]
      rfl
  | cons clause others ih =>
      cases bound with
      | zero => cases enough
      | succ bound =>
          have split : place.after
              = clause.beforeOn.text ++ (clause.said ++ clausesText others) := by
            rw [after, clausesText, List.map_cons, List.flatten_cons, Clause.text,
              List.append_assoc]
            rfl
          have onKnown : isKeyword "ON" = true := rfl
          have avoids : singleAction.Avoids place clause.beforeOn.text
              (clause.said ++ clausesText others) := by
            refine avoids_of_cannotBegin fun char member => ?_
            have cannot := Conversion.Heading.letters_cannotBegin_blank onKnown
              (clause.beforeOn.blank char member)
            exact (((cannot.append _).append _).append _).append _
          have isThere : clause.said ≠ [] := by
            have word := Conversion.Heading.spelling_ne_nil rfl clause.on
            simp [Clause.said, word]
          have left : (place.past (clause.beforeOn.text ++ clause.said) (clausesText others)).after
              = clausesText others := rfl
          have matched : singleAction.MatchesNoting
              (place.past clause.beforeOn.text (clause.said ++ clausesText others))
              clause.said clause.notes :=
            (clause.single_noting (clausesText others)).matches rfl
          rw [findings_of_matches avoids matched isThere split clean bound, List.map_cons,
            ih left clean (Nat.le_of_succ_le_succ enough)]
          rfl

/-- What is done in an event, from the notes of a search. -/
theorem actionFor_eq (event : String) (given : Text)
    : actionFor event given
      = ((((singleAction.findAll given).map Match.finding).map Finding.notes).filter fun notes =>
          Text.equalsIgnoringCase ((notes.lookup "event").getD []) event).getLast?.map fun notes =>
        (Text.joinWith [' '] ((notes.lookup "action").getD []).words).flatMap
          Alphabet.capitals := by
  rw [actionFor, List.map_map, List.filter_map, List.getLast?_map, Option.map_map]
  simp only [Function.comp_def, Place.group, Place.group?_eq]
  rfl

/-- The action that holds in an event: the last one that is given. -/
def lastAction (event : Event) (clauses : List Clause) : Option Text :=
  (clauses.filter (·.event = event)).getLast?.map fun clause => phrase clause.words

theorem Clause.isFor_iff (clause : Clause) (event : Event)
    : Text.equalsIgnoringCase ((clause.notes.lookup "event").getD []) event.word
      = decide (clause.event = event) := by
  have noted : (clause.notes.lookup "event").getD [] = clause.eventText.text := rfl
  rw [noted, Text.equalsIgnoringCase, clause.eventText.spells]
  revert event
  cases clause.event <;> rintro (_ | _) <;> decide +kernel

theorem Clause.normalized (clause : Clause)
    : (Text.joinWith [' '] ((clause.notes.lookup "action").getD []).words).flatMap
        Alphabet.capitals = phrase clause.words :=
  phrase_of_spelled clause.actionKnown (actionWords_plain clause.words clause.known) clause.spelled

/-- The last clause for an event tells what is done, in capitals with single spaces. -/
theorem actionFor_clausesText (event : Event) (clauses : List Clause)
    : actionFor event.word (clausesText clauses) = lastAction event clauses := by
  have enough : clauses.length ≤ (clausesText clauses).length + 1 := by
    have filled : ∀ piece ∈ clauses.map Clause.text, piece ≠ [] :=
      List.forall_mem_map.mpr fun clause _ => clause.text_ne_nil
    have shorter := length_le_flatten filled
    rw [List.length_map] at shorter
    exact Nat.le_succ_of_le shorter
  rw [actionFor_eq, findAll, single_findings clauses rfl rfl enough, List.filter_map,
    List.getLast?_map, Option.map_map, lastAction]
  simp only [Function.comp_def, Clause.isFor_iff, Clause.normalized]

end DumpTransfer.ForeignKey
