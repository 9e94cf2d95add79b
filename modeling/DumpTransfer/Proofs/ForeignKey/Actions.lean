import DumpTransfer.Proofs.Attachment.Names
import DumpTransfer.Proofs.Definition.Wordings
import DumpTransfer.Proofs.Text.Trimming

/-! What is done to rows that refer to deleted or updated ones. However an action is written, it is
kept as one of five phrases in capitals with single spaces.
-/

namespace DumpTransfer.ForeignKey

open Pattern
open Text (IsGap Spells Spelled)
open Conversion.Heading (isKeyword)
open Conversion.Definition (isWord_of_spells ne_nil_of_spells)

-----------------------------------------------------------------------------------------
-- Phrases
-----------------------------------------------------------------------------------------

/-- Words with single spaces between them. -/
def phrase (words : List String) : Text :=
  Text.joinWith [' '] (words.map Text.ofString)

/-- The words of the actions. -/
def actionWords : List (List String) :=
  [["RESTRICT"], ["CASCADE"], ["SET", "NULL"], ["SET", "DEFAULT"], ["NO", "ACTION"]]

/-- The actions as they are kept. -/
def actions : List Text :=
  actionWords.map phrase

/-- Capitals of which the small letters have no other capitals in ASCII. The kelvin sign counts as
a K but stays as it is in capitals.
-/
def IsPlain (word : String) : Prop :=
  ∀ letter ∈ word.toList, letter.isUpper = true ∧ letter ≠ 'K'

variable {word : String} {words : List String} {text : Text}

/-- A character that is taken for a capital letter becomes that letter. -/
theorem capitals_of_foldCase {char letter : Char} (upper : letter.isUpper = true)
    (notK : letter ≠ 'K') (same : Alphabet.foldCase char = letter.toLower)
    : Alphabet.capitals char = [letter] := by
  have capital : letter.toLower.toUpper = letter := by
    rw [Alphabet.toUpper_toLower, ← Char.toNat_inj, Alphabet.toNat_toUpper, if_neg]
    rw [Alphabet.isUpper_iff] at upper
    omega
  rw [Alphabet.foldCase] at same
  split at same
  · rename_i long
    obtain rfl : char = '\u017f' := Char.toNat_inj.mp long
    rw [← capital, ← same]
    decide
  · split at same
    · rw [← same] at capital
      exact absurd capital.symm notK
    · have letters : char.isAlpha = true := by
        have code := congrArg Char.toNat same
        rw [Alphabet.isUpper_iff] at upper
        rw [Alphabet.toNat_toLower, Alphabet.toNat_toLower, if_pos upper] at code
        rw [Alphabet.isAlpha_iff]
        split at code <;> omega
      rw [Alphabet.capitals_of_isAlpha letters, ← Alphabet.toUpper_toLower, same, capital]

theorem capitals_of_spells (plain : IsPlain word) (spells : Spells word text)
    : text.flatMap Alphabet.capitals = Text.ofString word := by
  rw [Text.ofString_eq]
  unfold IsPlain at plain
  unfold Spells at spells
  generalize word.toList = letters at plain spells
  induction text generalizing letters with
  | nil => rw [List.map_eq_nil_iff.mp spells.symm, List.flatMap_nil]
  | cons char more ih =>
      obtain ⟨letter, others, rfl, same, later⟩ := List.map_eq_cons_iff.mp spells.symm
      rw [List.forall_mem_cons] at plain
      rw [List.flatMap_cons, capitals_of_foldCase plain.1.1 plain.1.2 same.symm,
        ih others plain.2 later.symm, List.singleton_append]

/-- Words are found as they are spelled. -/
theorem words_of_spelled (known : words.all isKeyword = true) (spelled : Spelled words text)
    : List.Forall₂ Spells words text.words := by
  have solid {word : String} {text : Text} (known : isKeyword word = true)
      (spells : Spells word text) : ∀ char ∈ text, Alphabet.isBlank char = false := by
    intro char member
    refine Bool.eq_false_iff.mpr fun blank => ?_
    have apart := Alphabet.holds_of_isBlank (! Alphabet.isWord ·) (by decide +kernel) blank
    rw [isWord_of_spells known spells char member] at apart
    cases apart
  induction words generalizing text with
  | nil =>
      obtain rfl : text = [] := spelled
      exact .nil
  | cons word others ih =>
      rw [List.all_cons, Bool.and_eq_true] at known
      cases others with
      | nil =>
          rw [Text.words_of_solid (ne_nil_of_spells known.1 spelled) (solid known.1 spelled)]
          exact .cons spelled .nil
      | cons second later =>
          obtain ⟨first, _, rfl, spells, gap, rest, rfl, isGap, spelled⟩ := spelled
          rw [Text.words_append (ne_nil_of_spells known.1 spells) (solid known.1 spells)
            isGap.1 isGap.2]
          exact .cons spells (ih known.2 (Text.inRow_singleton.mp spelled))

/-- Words in either case with white space between them become a phrase. -/
theorem phrase_of_spelled (known : words.all isKeyword = true)
    (plain : ∀ word ∈ words, IsPlain word) (spelled : Spelled words text)
    : (Text.joinWith [' '] text.words).flatMap Alphabet.capitals = phrase words := by
  have found := words_of_spelled known spelled
  generalize text.words = pieces at found
  clear spelled known
  induction found with
  | nil => rfl
  | cons spells others ih =>
      rw [List.forall_mem_cons] at plain
      have later := ih plain.2
      have first := capitals_of_spells plain.1 spells
      cases others with
      | nil => simpa [phrase, Text.joinWith] using first
      | cons second rest =>
          rw [Text.joinWith, List.flatMap_append, List.flatMap_append, first, later]
          rfl

-----------------------------------------------------------------------------------------
-- The actions of foreign keys
-----------------------------------------------------------------------------------------

theorem action_describes
    : Sql.Shape.action.Describes fun text => ∃ words ∈ actionWords, Spelled words text := by
  have five := (describes_letters "RESTRICT").orElse ((describes_letters "CASCADE").orElse
    ((describes_words ["SET", "NULL"]).orElse ((describes_words ["SET", "DEFAULT"]).orElse
      (describes_words ["NO", "ACTION"]))))
  refine five.congr fun text => ?_
  simp [Text.Either, actionWords, Spelled]

theorem actionWords_known : ∀ words ∈ actionWords, words.all isKeyword = true := by
  decide +kernel

theorem actionWords_plain : ∀ words ∈ actionWords, ∀ word ∈ words, IsPlain word := by
  have all : actionWords.all (fun words => words.all fun word => word.toList.all fun letter =>
      letter.isUpper && letter ≠ 'K') = true := by
    decide +kernel
  simpa only [List.all_eq_true, Bool.and_eq_true, decide_eq_true_eq, IsPlain] using all

/-- Every way in which an action is written is kept as one of the five phrases. -/
theorem normalized_mem_actions (isAction : ∃ words ∈ actionWords, Spelled words text)
    : (Text.joinWith [' '] text.words).flatMap Alphabet.capitals ∈ actions := by
  obtain ⟨words, member, spelled⟩ := isAction
  rw [phrase_of_spelled (actionWords_known words member) (actionWords_plain words member) spelled]
  exact List.mem_map_of_mem member

theorem actionFor_mem_actions {event : String} {given action : Text}
    (found : actionFor event given = some action)
    : action ∈ actions := by
  obtain ⟨last, isLast, rfl⟩ := Option.map_eq_some_iff.mp found
  have member := (List.mem_filter.mp (List.mem_of_getLast? isLast)).1
  obtain ⟨start, matched⟩ := exists_matchAt?_of_mem_findAllFrom member
  obtain ⟨_, matches_, same⟩ := exists_of_andThen matched
  obtain rfl := Option.some.inj same
  obtain ⟨between, -, inner, isAction, recorded⟩ := matches_
  obtain ⟨text, rest, after, spelled, rfl⟩ := (action_describes _ _).mp isAction
  rw [recorded, Place.group_record, Place.textSince_past]
  exact normalized_mem_actions spelled

/-- What a foreign key does to rows is one of the five actions. -/
theorem actions_of_mem_ofDefinition {definition table : Text} {key : ForeignKey}
    (member : key ∈ ofDefinition definition table)
    : (∀ action ∈ key.onDelete, action ∈ actions) ∧ ∀ action ∈ key.onUpdate, action ∈ actions := by
  obtain ⟨name, found, rfl⟩ := exists_ofMatch_of_mem definition table member
  exact ⟨fun _ => actionFor_mem_actions, fun _ => actionFor_mem_actions⟩

end DumpTransfer.ForeignKey
