import DumpTransfer.Proofs.Conversion.Headings
import DumpTransfer.Proofs.Text.Languages

/-! What rules for definitions look for: words and what comes after them, at a place where no word
goes on. The rules read the text of an item as it stands, so it is said of any text whether it has
such a place.
-/

namespace DumpTransfer.Conversion.Definition

open Pattern
open Text (InRow Either IsGap Spells Spelled SpellsAny)
open Heading (isKeyword)
open ByPattern (Breaks)

-----------------------------------------------------------------------------------------
-- Edges of words
-----------------------------------------------------------------------------------------

/-- A text that begins with a character of a word. -/
def StartsWord (text : Text) : Prop :=
  text.head?.any Alphabet.isWord = true

/-- A text that ends with a character of a word. -/
def EndsWord (text : Text) : Prop :=
  text.getLast?.any Alphabet.isWord = true

/-- No word goes on after a text. -/
def Ended (text : Text) : Prop :=
  text.getLast?.any Alphabet.isWord = false

variable {word : String} {words : List String} {text first second : Text}

theorem breaks_iff
    : Breaks text ↔ text.head?.any Alphabet.isWord = false := by
  simp [Breaks, Option.any_eq_false]

theorem StartsWord.append (starts : StartsWord first) (second : Text)
    : StartsWord (first ++ second) := by
  cases first with
  | nil => cases starts
  | cons char more => exact starts

theorem EndsWord.append (ends : EndsWord second) (first : Text)
    : EndsWord (first ++ second) := by
  rw [EndsWord, List.getLast?_append]
  cases last : second.getLast? with
  | none =>
      rw [EndsWord, last] at ends
      cases ends
  | some char =>
      rw [EndsWord, last] at ends
      exact ends

theorem isWord_of_spells (known : isKeyword word = true) (spells : Spells word text)
    : ∀ char ∈ text, Alphabet.isWord char = true := by
  intro char member
  have folded : Alphabet.foldCase char ∈ word.toList.map Char.toLower :=
    spells ▸ List.mem_map_of_mem member
  obtain ⟨letter, inWord, same⟩ := List.mem_map.mp folded
  have isPart := List.all_eq_true.mp (Bool.and_eq_true_iff.mp known).2 letter inWord
  rcases Bool.or_eq_true_iff.mp isPart with upper | line
  · refine Alphabet.isWord_of_foldCase ?_
    rw [Alphabet.isUpper_iff] at upper
    rw [← same, Alphabet.isAlpha_iff, Alphabet.toNat_toLower, if_pos upper]
    omega
  · obtain rfl : letter = '_' := of_decide_eq_true line
    obtain rfl := Alphabet.foldCase_eq_line same.symm
    decide

theorem ne_nil_of_spells (known : isKeyword word = true) (spells : Spells word text)
    : text ≠ [] := by
  rintro rfl
  have empty : word.toList = [] := List.map_eq_nil_iff.mp spells.symm
  rw [isKeyword, empty] at known
  cases known

theorem startsWord_of_spells (known : isKeyword word = true) (spells : Spells word text)
    : StartsWord text := by
  obtain ⟨char, more, rfl⟩ := List.exists_cons_of_ne_nil (ne_nil_of_spells known spells)
  exact isWord_of_spells known spells char (by simp)

theorem endsWord_of_spells (known : isKeyword word = true) (spells : Spells word text)
    : EndsWord text := by
  have last := List.getLast?_eq_some_getLast (ne_nil_of_spells known spells)
  rw [EndsWord, last]
  exact isWord_of_spells known spells _ (List.getLast_mem _)

theorem startsWord_of_spelled (isThere : words ≠ []) (known : words.all isKeyword = true)
    (spelled : Spelled words text)
    : StartsWord text := by
  match words with
  | [] => exact absurd rfl isThere
  | [last] => exact startsWord_of_spells (by simpa using known) spelled
  | first :: second :: others =>
      rw [List.all_cons, Bool.and_eq_true] at known
      obtain ⟨before, rest, rfl, spells, _⟩ := spelled
      exact (startsWord_of_spells known.1 spells).append rest

theorem endsWord_of_spelled (isThere : words ≠ []) (known : words.all isKeyword = true)
    (spelled : Spelled words text)
    : EndsWord text := by
  induction words generalizing text with
  | nil => exact absurd rfl isThere
  | cons word others ih =>
      rw [List.all_cons, Bool.and_eq_true] at known
      cases others with
      | nil => exact endsWord_of_spells known.1 spelled
      | cons second later =>
          obtain ⟨before, _, rfl, _, gap, rest, rfl, _, spelled⟩ := spelled
          have ends := ih (List.cons_ne_nil _ _) known.2 (Text.inRow_singleton.mp spelled)
          exact (ends.append gap).append before

-----------------------------------------------------------------------------------------
-- Patterns with edges
-----------------------------------------------------------------------------------------

variable {body pattern : Pattern} {language : Text → Prop} {stands : Text → Text → Prop}

/-- The pattern matches the texts of a language where the right text comes after them. -/
def DescribesBefore (pattern : Pattern) (stands : Text → Text → Prop) : Prop :=
  ∀ place reached : Place, pattern.Matches place reached
    ↔ ∃ text rest, place.after = text ++ rest ∧ stands text rest ∧ reached = place.past text rest

theorem wordEdge_matches {place reached : Place}
    : wordEdge.Matches place reached
      ↔ place.before.head?.any Alphabet.isWord ≠ place.after.head?.any Alphabet.isWord
        ∧ reached = place :=
  and_congr_left fun _ => bne_iff_ne

/-- A word has to end after the text. -/
theorem describesBefore_edge (describes : body.Describes language)
    (ends : ∀ text, language text → EndsWord text)
    : DescribesBefore (body ++ wordEdge) fun text rest => language text ∧ Breaks rest := by
  have inside {text : Text} (isIn : language text) (place : Place) (rest : Text)
      : (place.past text rest).before.head?.any Alphabet.isWord = true := by
    have last := (ends text isIn).append place.before.reverse
    rwa [EndsWord, ← List.head?_reverse, List.reverse_append, List.reverse_reverse] at last
  intro place reached
  constructor
  · rintro ⟨between, matched, edge⟩
    obtain ⟨text, rest, after, isIn, rfl⟩ := (describes _ _).mp matched
    obtain ⟨differ, rfl⟩ := wordEdge_matches.mp edge
    rw [inside isIn] at differ
    exact ⟨text, rest, after, ⟨isIn, breaks_iff.mpr (by simpa using differ.symm)⟩, rfl⟩
  · rintro ⟨text, rest, after, ⟨isIn, breaks⟩, rfl⟩
    refine ⟨_, (describes _ _).mpr ⟨text, rest, after, isIn, rfl⟩, wordEdge_matches.mpr ⟨?_, rfl⟩⟩
    have outside : (place.past text rest).after.head?.any Alphabet.isWord = false :=
      breaks_iff.mp breaks
    rw [inside isIn, outside]
    decide

/-- What begins with a word is found where no word goes on. -/
theorem occursIn_edge_iff (describes : DescribesBefore body stands)
    (starts : ∀ text rest, stands text rest → StartsWord text)
    : (wordEdge ++ body).occursIn text = true
      ↔ ∃ before found after, text = before ++ (found ++ after) ∧ Ended before
          ∧ stands found after := by
  have edge (before found after : Text) (isIn : stands found after)
      : ((Place.start text).past before (found ++ after)).before.head?.any Alphabet.isWord
            ≠ (found ++ after).head?.any Alphabet.isWord
        ↔ Ended before := by
    have begins : (found ++ after).head?.any Alphabet.isWord = true :=
      (starts found after isIn).append after
    have backwards : ((Place.start text).past before (found ++ after)).before.head?
        = before.getLast? := by
      simp [Place.start, List.head?_reverse]
    rw [begins, backwards, Ended]
    simp
  rw [occursIn_iff]
  constructor
  · rintro ⟨before, rest, reached, rfl, between, isEdge, matched⟩
    obtain ⟨differ, rfl⟩ := wordEdge_matches.mp isEdge
    obtain ⟨found, after, split, isIn, _⟩ := (describes _ _).mp matched
    obtain rfl : rest = found ++ after := split
    exact ⟨before, found, after, rfl, (edge before found after isIn).mp differ, isIn⟩
  · rintro ⟨before, found, after, split, ended, isIn⟩
    have matched := (describes ((Place.start text).past before (found ++ after)) _).mpr
      ⟨found, after, rfl, isIn, rfl⟩
    have differ := (edge before found after isIn).mpr ended
    exact ⟨before, found ++ after, _, split, _, wordEdge_matches.mpr ⟨differ, rfl⟩, matched⟩

-----------------------------------------------------------------------------------------
-- Wordings
-----------------------------------------------------------------------------------------

/-- What a rule looks for: pieces in a row, and whether a word has to end after them. -/
structure Wording where
  pieces : List (Text → Prop)
  isWhole : Bool

/-- A text is one the rule looks for, before the text that comes after it. -/
def Wording.Stands (wording : Wording) (found after : Text) : Prop :=
  InRow wording.pieces found ∧ (wording.isWhole = true → Breaks after)

/-- The rule finds what it looks for somewhere in a text. -/
def Wording.FoundIn (wording : Wording) (text : Text) : Prop :=
  ∃ before found after, text = before ++ (found ++ after) ∧ Ended before
    ∧ wording.Stands found after

/-- The pattern occurs in the texts in which a rule finds what it looks for. -/
def Finds (pattern : Pattern) (wording : Wording) : Prop :=
  ∀ text, pattern.occursIn text = true ↔ wording.FoundIn text

/-- A wording begins with a word. -/
def Wording.Leads (wording : Wording) : Prop :=
  ∀ text, InRow wording.pieces text → StartsWord text

theorem leads_of_first {kind : Text → Prop} {others : List (Text → Prop)} {isWhole : Bool}
    (starts : ∀ text, kind text → StartsWord text)
    : Wording.Leads ⟨kind :: others, isWhole⟩ := by
  rintro _ ⟨first, rest, rfl, isKind, _⟩
  exact (starts first isKind).append rest

theorem finds_edge {wording : Wording} (describes : DescribesBefore body wording.Stands)
    (leads : wording.Leads)
    : Finds (wordEdge ++ body) wording :=
  fun _ => occursIn_edge_iff describes fun text _ isIn => leads text isIn.1

/-- White space before an attribute may be left out in the search. -/
theorem finds_attribute {wording : Wording} (describes : DescribesBefore body wording.Stands)
    (leads : wording.Leads)
    : Finds (ByPattern.attributeOf body) wording := by
  intro text
  have same := occursIn_congr (ByPattern.attributeOf body) (blanks ++ (wordEdge ++ body))
    (fun _ _ => matches_assoc) text
  rw [same, blanks, occursIn_run_append]
  exact finds_edge describes leads text

theorem describesBefore_part {pieces : List (Text → Prop)}
    (describes : body.Describes (InRow pieces))
    : DescribesBefore body (Wording.Stands ⟨pieces, false⟩) := by
  intro place reached
  rw [describes]
  simp [Wording.Stands]

theorem describesBefore_whole {pieces : List (Text → Prop)}
    (describes : body.Describes (InRow pieces)) (ends : ∀ text, InRow pieces text → EndsWord text)
    : DescribesBefore (body ++ wordEdge) (Wording.Stands ⟨pieces, true⟩) := by
  intro place reached
  rw [describesBefore_edge describes ends]
  simp [Wording.Stands]

end DumpTransfer.Conversion.Definition
