import DumpTransfer.Proofs.Definition.Wordings
import DumpTransfer.Proofs.Text.Noting

/-! Words that a text mentions: in either case, with no word going on before or after them. A text
that is put together at edges of words mentions what its pieces mention, and a search for what
begins with a word passes over texts that do not mention it.
-/

namespace DumpTransfer.Text

open Conversion.Heading (isKeyword)
open Conversion.Definition (Ended StartsWord isWord_of_spells ne_nil_of_spells breaks_iff)
open Conversion.ByPattern (Breaks)

/-- A word stands somewhere in a text. -/
def Mentions (word : String) (text : Text) : Prop :=
  ∃ before found after, text = before ++ (found ++ after) ∧ Ended before ∧ Spells word found
    ∧ Breaks after

/-- A text does not mention a word. -/
def Lacks (word : String) (text : Text) : Prop :=
  ¬ Mentions word text

/-- No word goes on from one text into the next. -/
def Parted (first second : Text) : Prop :=
  Ended first ∨ Breaks second

variable {word other : String} {text first second before after found rest : Text}

-----------------------------------------------------------------------------------------
-- Edges
-----------------------------------------------------------------------------------------

theorem ended_nil : Ended [] :=
  rfl

theorem breaks_nil : Breaks [] :=
  breaks_iff.mpr rfl

theorem ended_append (ended : Ended (first ++ second)) : Ended second := by
  unfold Ended at ended ⊢
  rw [List.getLast?_append] at ended
  cases last : second.getLast? with
  | none => rfl
  | some char =>
      rw [last] at ended
      exact ended

theorem breaks_of_append (breaks : Breaks (first ++ second)) : Breaks first := by
  rw [breaks_iff] at *
  cases first with
  | nil => rfl
  | cons char more => exact breaks

/-- A text ends a word when its last character is in none. -/
theorem ended_concat (init : Text) {last : Char} (notWord : Alphabet.isWord last = false)
    : Ended (init ++ [last]) := by
  simp [Ended, notWord]

theorem breaks_cons {char : Char} (notWord : Alphabet.isWord char = false) (more : Text)
    : Breaks (char :: more) :=
  breaks_iff.mpr notWord

-----------------------------------------------------------------------------------------
-- Texts without a word
-----------------------------------------------------------------------------------------

/-- A word that begins in a text without it does not stand there, whatever comes before and after
the text.
-/
theorem Lacks.not_spells (lacks : Lacks word text) (known : isKeyword word = true)
    (parted : Parted text rest) (split : text = before ++ after) (isThere : after ≠ [])
    (ended : Ended before) {left : Text} (stands : after ++ rest = found ++ left)
    (spells : Spells word found)
    : ¬ Breaks left := by
  intro breaks
  have isWord := isWord_of_spells known spells
  rcases List.append_eq_append_iff.mp stands with ⟨more, rfl, rfl⟩ | ⟨more, rfl, rfl⟩
  · -- The word goes on into what follows the text.
    cases more with
    | nil =>
        refine lacks ⟨before, after, [], by rw [split, List.append_nil], ended, ?_, breaks_nil⟩
        rwa [List.append_nil] at spells
    | cons char others =>
        rcases parted with endedText | breaksRest
        · rw [split] at endedText
          have last := List.getLast?_eq_some_getLast isThere
          have endsOut := ended_append endedText
          rw [Ended, last] at endsOut
          exact absurd (isWord _ (by simp)) (Bool.eq_false_iff.mp endsOut)
        · exact absurd (isWord char (by simp)) (Bool.eq_false_iff.mp (breaks_iff.mp breaksRest))
  · exact lacks ⟨before, found, more, split, ended, spells, breaks_of_append breaks⟩

theorem Lacks.append (lacksFirst : Lacks word first) (lacksSecond : Lacks word second)
    (known : isKeyword word = true) (parted : Parted first second)
    : Lacks word (first ++ second) := by
  rintro ⟨before, found, after, split, ended, spells, breaks⟩
  rcases List.append_eq_append_iff.mp split with ⟨more, rfl, rfl⟩ | ⟨more, rfl, stands⟩
  · exact lacksSecond ⟨more, found, after, rfl, ended_append ended, spells, breaks⟩
  · cases more with
    | nil => exact lacksSecond ⟨[], found, after, stands.symm, ended_nil, spells, breaks⟩
    | cons char others =>
        exact lacksFirst.not_spells known parted rfl (List.cons_ne_nil _ _) ended stands.symm spells
          breaks

theorem lacks_nil (known : isKeyword word = true) : Lacks word [] := by
  rintro ⟨before, found, after, split, -, spells, -⟩
  obtain ⟨-, rest⟩ := List.append_eq_nil_iff.mp split.symm
  exact ne_nil_of_spells known spells (List.append_eq_nil_iff.mp rest).1

/-- A text in which the letters of a word do not follow each other does not mention it. -/
theorem lacks_of_absent
    (none : ¬ word.toList.map Char.toLower <:+: text.map Alphabet.foldCase)
    : Lacks word text := by
  rintro ⟨before, found, after, rfl, -, spells, -⟩
  refine none ⟨before.map Alphabet.foldCase, after.map Alphabet.foldCase, ?_⟩
  rw [List.map_append, List.map_append, spells, List.append_assoc]

/-- A text without characters of words mentions none. -/
theorem lacks_of_signs (known : isKeyword word = true)
    (signs : ∀ char ∈ text, Alphabet.isWord char = false)
    : Lacks word text := by
  rintro ⟨before, found, after, rfl, -, spells, -⟩
  obtain ⟨char, more, rfl⟩ := List.exists_cons_of_ne_nil (ne_nil_of_spells known spells)
  have isWord := isWord_of_spells known spells char (by simp)
  rw [signs char (by simp)] at isWord
  cases isWord

/-- A word mentions no other one. -/
theorem lacks_of_spells (knownOther : isKeyword other = true)
    (differ : word.toList.map Char.toLower ≠ other.toList.map Char.toLower)
    (spells : Spells other text)
    : Lacks word text := by
  rintro ⟨before, found, after, rfl, ended, spellsWord, breaks⟩
  have isWord := isWord_of_spells knownOther spells
  have nothingBefore : before = [] := by
    by_contra isThere
    rw [Ended, List.getLast?_eq_some_getLast isThere] at ended
    exact absurd (isWord _ (by simp)) (Bool.eq_false_iff.mp ended)
  have nothingAfter : after = [] := by
    cases after with
    | nil => rfl
    | cons char more =>
        exact absurd (isWord char (by simp)) (Bool.eq_false_iff.mp (breaks_iff.mp breaks))
  rw [nothingBefore, nothingAfter, List.nil_append, List.append_nil] at spells
  exact differ (spellsWord.symm.trans spells)

-----------------------------------------------------------------------------------------
-- Quoted names
-----------------------------------------------------------------------------------------

/-- A text without quotes that begins a doubled text begins the text itself. -/
theorem exists_of_doubling_append {quote : Char} {name : Text} (none : quote ∉ found)
    (split : Text.doubling quote name = found ++ after)
    : ∃ later, name = found ++ later ∧ after = Text.doubling quote later := by
  induction found generalizing name with
  | nil => exact ⟨name, rfl, split.symm⟩
  | cons char more ih =>
      rw [List.mem_cons, not_or] at none
      cases name with
      | nil => cases split
      | cons first others =>
          by_cases same : first = quote
          · rw [Text.doubling, if_pos same] at split
            exact absurd (same.symm.trans (List.cons.inj split).1) none.1
          · rw [Text.doubling, if_neg same] at split
            obtain ⟨rfl, rest⟩ := List.cons.inj split
            obtain ⟨later, rfl, stands⟩ := ih none.2 rest
            exact ⟨later, rfl, stands⟩

/-- A piece without quotes that stands in a doubled text stands in the text itself. By induction on
the text.
-/
theorem exists_of_doubling {quote : Char} {name : Text} (isThere : found ≠ [])
    (none : quote ∉ found) (split : Text.doubling quote name = before ++ (found ++ after))
    : ∃ earlier later, name = earlier ++ (found ++ later) ∧ before = Text.doubling quote earlier
        ∧ after = Text.doubling quote later := by
  induction name generalizing before with
  | nil =>
      obtain ⟨-, rest⟩ := List.append_eq_nil_iff.mp split.symm
      exact absurd (List.append_eq_nil_iff.mp rest).1 isThere
  | cons first others ih =>
      cases before with
      | nil =>
          obtain ⟨later, same, stands⟩ := exists_of_doubling_append none split
          exact ⟨[], later, same, rfl, stands⟩
      | cons char more =>
          by_cases same : first = quote
          · rw [Text.doubling, if_pos same] at split
            obtain ⟨rfl, rest⟩ := List.cons.inj split
            cases more with
            | nil =>
                obtain ⟨letter, left, rfl⟩ := List.exists_cons_of_ne_nil isThere
                obtain ⟨rfl, -⟩ := List.cons.inj rest
                exact absurd (by simp [same]) none
            | cons second further =>
                obtain ⟨rfl, inside⟩ := List.cons.inj rest
                obtain ⟨earlier, later, rfl, rfl, stands⟩ := ih inside
                exact ⟨first :: earlier, later, rfl, by simp [Text.doubling, same], stands⟩
          · rw [Text.doubling, if_neg same] at split
            obtain ⟨rfl, rest⟩ := List.cons.inj split
            obtain ⟨earlier, later, rfl, rfl, stands⟩ := ih rest
            exact ⟨first :: earlier, later, rfl, by simp [Text.doubling, same], stands⟩

theorem ended_of_doubling {quote : Char} (ended : Ended (Text.doubling quote text))
    : Ended text := by
  rcases List.eq_nil_or_concat text with rfl | ⟨init, last, rfl⟩
  · exact ended_nil
  · rw [List.concat_eq_append, Text.doubling_append] at ended
    have endsIn := ended_append ended
    rw [List.concat_eq_append]
    refine ended_concat init ?_
    rw [Text.doubling] at endsIn
    split at endsIn <;> simpa [Ended, Text.doubling] using endsIn

theorem breaks_of_doubling {quote : Char} (breaks : Breaks (Text.doubling quote text))
    : Breaks text := by
  cases text with
  | nil => exact breaks_nil
  | cons char more =>
      refine breaks_cons ?_ more
      rw [Text.doubling] at breaks
      split at breaks <;> exact breaks char rfl

/-- A name between back quotes mentions what the name mentions. -/
theorem Lacks.nameText {name : Text} (lacks : Lacks word name) (known : isKeyword word = true)
    : Lacks word (Sql.nameText '`' name) := by
  have quote : Lacks word ['`'] := lacks_of_signs known (by simpa using by decide)
  have inside : Lacks word (Text.doubling '`' name) := by
    rintro ⟨before, found, after, split, ended, spells, breaks⟩
    have noQuote : '`' ∉ found := fun member =>
      absurd (isWord_of_spells known spells _ member) (by decide)
    obtain ⟨earlier, later, rfl, rfl, rfl⟩ :=
      exists_of_doubling (ne_nil_of_spells known spells) noQuote split
    exact lacks ⟨earlier, found, later, rfl, ended_of_doubling ended, spells,
      breaks_of_doubling breaks⟩
  have closed := inside.append quote known (.inr (breaks_cons (by decide) []))
  exact quote.append closed known (.inl (ended_concat [] (by decide)))

-----------------------------------------------------------------------------------------
-- Searches for words
-----------------------------------------------------------------------------------------

/-- The pattern matches only where a word stands. -/
def Leads (word : String) (pattern : Pattern) : Prop :=
  ∀ place reached : Place, pattern.Matches place reached →
    Ended place.before.reverse
      ∧ ∃ found after, place.after = found ++ after ∧ Spells word found ∧ Breaks after

variable {pattern : Pattern} {place : Place}

/-- A search passes over a text that does not mention the word. -/
theorem Leads.avoids (leads : Leads word pattern) (known : isKeyword word = true)
    (lacks : Lacks word text) (parted : Parted text rest)
    : pattern.Avoids place text rest := by
  intro before after reached split isThere matched
  obtain ⟨ended, found, left, stands, spells, breaks⟩ := leads _ _ matched
  rw [Place.past_before, List.reverse_append, List.reverse_reverse] at ended
  exact lacks.not_spells known parted split isThere (ended_append ended) stands spells breaks

theorem Leads.not_matches_end (leads : Leads word pattern) (known : isKeyword word = true)
    (atEnd : place.after = []) (reached : Place)
    : ¬ pattern.Matches place reached := by
  intro matched
  obtain ⟨-, found, left, stands, spells, -⟩ := leads _ _ matched
  rw [atEnd] at stands
  exact ne_nil_of_spells known spells (List.append_eq_nil_iff.mp stands.symm).1

theorem Leads.append {first : Pattern} (leads : Leads word (.wordEdge ++ first)) (second : Pattern)
    : Leads word (.wordEdge ++ (first ++ second)) := by
  intro place reached matched
  obtain ⟨between, begins, -⟩ := Pattern.matches_assoc.mpr matched
  exact leads place between begins

/-- A pattern for a word at its edge and white space after it. -/
theorem leads_edge (known : isKeyword word = true) (rest : Pattern)
    : Leads word (.wordEdge ++ (.letters word ++ (.gap ++ rest))) := by
  rintro place reached ⟨_, edge, between, matched, afterGap, isGap, -⟩
  obtain ⟨differ, rfl⟩ := Conversion.Definition.wordEdge_matches.mp edge
  obtain ⟨found, after, stands, spells, rfl⟩ :=
    (Pattern.describes_letters word _ _).mp matched
  obtain ⟨spaces, left, begins, ⟨isThere, blank⟩, -⟩ :=
    (Pattern.describes_someOf Alphabet.isBlank _ _).mp isGap
  obtain ⟨space, more, rfl⟩ := List.exists_cons_of_ne_nil isThere
  have noWord := (Conversion.Heading.apart_of_isBlank (blank space (by simp))).1
  have breaks : Breaks after := by
    have begins : after = space :: more ++ left := begins
    rw [begins]
    exact breaks_cons noWord _
  have starts : (found ++ after).head?.any Alphabet.isWord = true :=
    (Conversion.Definition.startsWord_of_spells known spells).append after
  refine ⟨?_, found, after, stands, spells, breaks⟩
  rw [stands, starts] at differ
  rw [Ended, List.getLast?_reverse]
  simpa using differ

end DumpTransfer.Text
