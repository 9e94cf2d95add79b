import DumpTransfer.Conversion.ByPattern
import DumpTransfer.Proofs.Text.Matching
import Mathlib.Data.List.TakeWhile

/-! Hexadecimal numbers are found by a pattern, and the matches are whole words. Replacing them
is the same as going through a text word by word, which splits wherever no word goes on.
-/

namespace DumpTransfer.Conversion.ByPattern

open Pattern

-----------------------------------------------------------------------------------------
-- Word by word
-----------------------------------------------------------------------------------------

def isHexDigit (char : Char) : Bool :=
  char.isDigit || ('a' ≤ char.toLower && char.toLower ≤ 'f')

/-- Whether a word is a hexadecimal number. -/
def isHexNumber : Text → Bool
  | '0' :: 'x' :: first :: rest => (first :: rest).all isHexDigit
  | _ => false

/-- A word, or the literal of bytes in its place. -/
def adaptWord (word : Text) : Text :=
  if isHexNumber word then "'\\x" ++ word.drop 2 ++ "'" else word

/-- What is left of a text, with words adapted, after the beginning of a word. -/
def adaptWordsAfter (word : Text) : Text → Text
  | [] => adaptWord word
  | char :: rest =>
      if Alphabet.isWord char then adaptWordsAfter (word ++ [char]) rest
      else adaptWord word ++ char :: adaptWordsAfter [] rest

/-- A text with its words adapted. -/
def adaptWords (text : Text) : Text :=
  adaptWordsAfter [] text

/-- No word goes on at the start of a text. -/
def Breaks (text : Text) : Prop :=
  ∀ char ∈ text.head?, Alphabet.isWord char = false

@[simp] theorem adaptWord_nil
    : adaptWord [] = [] :=
  rfl

@[simp] theorem adaptWords_nil
    : adaptWords [] = [] :=
  rfl

theorem adaptWordsAfter_of_breaks (word : Text) {rest : Text} (breaks : Breaks rest)
    : adaptWordsAfter word rest = adaptWord word ++ adaptWords rest := by
  cases rest with
  | nil => exact (List.append_nil _).symm
  | cons char more =>
      have outside : Alphabet.isWord char = false := breaks char rfl
      simp [adaptWords, adaptWordsAfter, outside]

theorem adaptWordsAfter_append (word text : Text) {rest : Text} (breaks : Breaks rest)
    : adaptWordsAfter word (text ++ rest) = adaptWordsAfter word text ++ adaptWords rest := by
  induction text generalizing word with
  | nil => exact adaptWordsAfter_of_breaks word breaks
  | cons char more ih =>
      rw [List.cons_append, adaptWordsAfter, adaptWordsAfter]
      split
      · exact ih _
      · rw [ih, List.append_assoc, List.cons_append]

/-- Words of texts are adapted separately where no word goes on. -/
theorem adaptWords_append (text : Text) {rest : Text} (breaks : Breaks rest)
    : adaptWords (text ++ rest) = adaptWords text ++ adaptWords rest :=
  adaptWordsAfter_append [] text breaks

/-- Signs are no part of any word. -/
theorem adaptWords_sign {char : Char} (outside : Alphabet.isWord char = false) (rest : Text)
    : adaptWords (char :: rest) = char :: adaptWords rest := by
  simp [adaptWords, adaptWordsAfter, outside]

/-- The same after a text that ends in a sign. -/
theorem adaptWords_append_of_sign (text : Text) {char : Char}
    (outside : Alphabet.isWord char = false) (rest : Text)
    : adaptWords (text ++ [char] ++ rest) = adaptWords (text ++ [char]) ++ adaptWords rest := by
  have breaks (more : Text) : Breaks (char :: more) := by simpa [Breaks] using outside
  rw [List.append_assoc, List.singleton_append, adaptWords_append text (breaks rest),
    adaptWords_append text (breaks [])]
  simp [adaptWords_sign outside]

theorem adaptWordsAfter_word {word : Text} (all : ∀ char ∈ word, Alphabet.isWord char = true)
    (before rest : Text)
    : adaptWordsAfter before (word ++ rest) = adaptWordsAfter (before ++ word) rest := by
  induction word generalizing before with
  | nil => rw [List.append_nil, List.nil_append]
  | cons char more ih =>
      have inside : Alphabet.isWord char = true := all char (by simp)
      rw [List.cons_append, adaptWordsAfter, if_pos inside,
        ih (fun other member => all other (by simp [member])), List.append_assoc]
      rfl

theorem adaptWords_word {word rest : Text} (all : ∀ char ∈ word, Alphabet.isWord char = true)
    (breaks : Breaks rest)
    : adaptWords (word ++ rest) = adaptWord word ++ adaptWords rest := by
  rw [adaptWords, adaptWordsAfter_word all]
  exact adaptWordsAfter_of_breaks word breaks

/-- Texts are adapted word by word: what holds of a last word, and of a word and a sign before a
text of which it holds, holds of an adapted text.
-/
theorem adaptWords_induction {motive : Text → Prop} {accepts : Char → Bool} {text : Text}
    (all : ∀ char ∈ text, accepts char = true)
    (last : ∀ word, (∀ char ∈ word, accepts char = true) → motive (adaptWord word))
    (sign : ∀ word char rest, (∀ char ∈ word, accepts char = true) → accepts char = true →
      Alphabet.isWord char = false → motive rest → motive (adaptWord word ++ char :: rest))
    : motive (adaptWords text) := by
  have goes (word : Text) (allBefore : ∀ char ∈ word, accepts char = true)
      : motive (adaptWordsAfter word text) := by
    induction text generalizing word with
    | nil => exact last word allBefore
    | cons char more ih =>
        have accepted : accepts char = true := all char (by simp)
        have others : ∀ other ∈ more, accepts other = true :=
          fun other member => all other (by simp [member])
        rw [adaptWordsAfter]
        split
        · refine ih others (word ++ [char]) fun other member => ?_
          rcases List.mem_append.mp member with member | member
          · exact allBefore other member
          · exact List.mem_singleton.mp member ▸ accepted
        · rename_i outside
          exact sign word char _ allBefore accepted (by simpa using outside)
            (ih others [] (by simp))
  exact goes [] (by simp)

theorem adaptWords_ne_nil {text : Text} (isThere : text ≠ [])
    : adaptWords text ≠ [] := by
  have word {word : Text} (isThere : word ≠ []) : adaptWord word ≠ [] := by
    unfold adaptWord
    split
    · rw [Text.ofString_eq, Text.ofString_eq]
      simp
    · exact isThere
  have goes (before : Text) (either : before ≠ [] ∨ text ≠ [])
      : adaptWordsAfter before text ≠ [] := by
    clear isThere
    induction text generalizing before with
    | nil => exact word (by simpa using either)
    | cons char more ih =>
        rw [adaptWordsAfter]
        split
        · exact ih _ (by simp)
        · simp
  exact goes [] (Or.inr isThere)

theorem adaptWord_of_no_x {word : Text} (noX : 'x' ∉ word)
    : adaptWord word = word := by
  unfold adaptWord isHexNumber
  split
  · simp at noX
  · rfl

/-- There is no hexadecimal number without its letter. -/
theorem adaptWords_of_no_x {text : Text} (noX : 'x' ∉ text)
    : adaptWords text = text := by
  have goes (word : Text) (noXBefore : 'x' ∉ word)
      : adaptWordsAfter word text = word ++ text := by
    induction text generalizing word with
    | nil =>
        rw [List.append_nil]
        exact adaptWord_of_no_x noXBefore
    | cons char more ih =>
        simp only [List.mem_cons, not_or] at noX
        rw [adaptWordsAfter]
        split
        · rw [ih noX.2 (word ++ [char]) (by simp [noXBefore, noX.1])]
          simp
        · rw [adaptWord_of_no_x noXBefore, ih noX.2 [] (by simp)]
          rfl
  exact goes [] (by simp)

-----------------------------------------------------------------------------------------
-- Matches
-----------------------------------------------------------------------------------------

theorem isWord_of_isHexDigit {char : Char} (hex : isHexDigit char = true)
    : Alphabet.isWord char = true := by
  have bound : char.toNat < 128 := by
    unfold isHexDigit Char.isDigit at hex
    simp only [ge_iff_le, Bool.or_eq_true, Bool.and_eq_true, decide_eq_true_eq] at hex
    rcases hex with ⟨_, below⟩ | ⟨_, below⟩
    · have last : char.toNat ≤ '9'.toNat := below
      exact Nat.lt_of_le_of_lt last (by decide)
    · have last : char.toLower.toNat ≤ 102 := below
      rw [Alphabet.toNat_toLower] at last
      split at last <;> omega
  have all : ∀ code < 128, isHexDigit (Char.ofNat code) = true →
      Alphabet.isWord (Char.ofNat code) = true := by
    decide +kernel
  have found := all char.toNat bound
  rw [Char.ofNat_toNat] at found
  exact found hex

/-- No number begins inside a word. -/
theorem hexNumber_matchAt_of_inside {place : Place}
    (inside : place.before.head?.any Alphabet.isWord = true)
    : hexNumber.matchAt? place = none := by
  unfold matchAt? hexNumber
  simp only [append_andThen, wordEdge_andThen, inside]
  split
  · rfl
  · rename_i outside
    rw [exactly_andThen, Text.ofString_eq]
    cases after : place.after with
    | nil => rfl
    | cons char rest =>
        have other : char ≠ '0' := by
          rintro rfl
          exact outside (by rw [after]; rfl)
        change (Text.dropPrefix? (char :: rest) ['0', 'x']).bind _ = none
        rw [Text.dropPrefix?, if_neg other]
        rfl

/-- The beginning of a number belongs to one word. -/
theorem exists_digits {word rest later : Text} (breaks : Breaks rest)
    (begins : word ++ rest = ['0', 'x'] ++ later)
    : ∃ digits, word = '0' :: 'x' :: digits ∧ later = digits ++ rest := by
  have outside (char : Char) (more : Text) (inside : Alphabet.isWord char = true)
      : rest ≠ char :: more := by
    rintro rfl
    exact Bool.noConfusion (inside.symm.trans (breaks char rfl))
  rcases List.append_eq_cons_iff.mp begins with ⟨_, same⟩ | ⟨more, rfl, same⟩
  · exact absurd same (outside '0' _ rfl)
  · rcases List.append_eq_cons_iff.mp same.symm with ⟨_, same⟩ | ⟨digits, rfl, same⟩
    · exact absurd same (outside 'x' _ rfl)
    · exact ⟨digits, rfl, (List.cons.inj same).2⟩

/-- Nothing matches a word edge between two characters of a word. -/
theorem wordEdge_andThen_of_inside {next : Continuation} {place : Place} {before after : Char}
    {earlier later : Text} (written : place.before = before :: earlier)
    (follows : place.after = after :: later) (inside : Alphabet.isWord before = true)
    (goesOn : Alphabet.isWord after = true)
    : wordEdge.andThen next place = none := by
  rw [wordEdge_andThen, written, follows]
  simp [inside, goesOn]

theorem isHexDigit_of_breaks {rest : Text} (breaks : Breaks rest)
    : ∀ char ∈ rest.head?, isHexDigit char = false := by
  intro char member
  by_contra hex
  have inside := isWord_of_isHexDigit (by simpa using hex)
  exact Bool.noConfusion (inside.symm.trans (breaks char member))

/-- After a first digit the others are all that is left of the word. They are taken together,
since no word ends between two of them.
-/
theorem otherDigits_andThen {place earlier : Place} {first : Char} {before digits rest : Text}
    (written : place.before = first :: before) (hex : isHexDigit first = true)
    (after : place.after = digits ++ rest)
    (all : ∀ char ∈ digits, Alphabet.isWord char = true) (breaks : Breaks rest)
    : (run isHexDigit).andThen
          (fun reached => wordEdge.andThen some (reached.record "digits" earlier)) place
      = if digits.all isHexDigit = true then
          some ((place.past digits rest).record "digits" earlier)
        else none := by
  obtain ⟨number, more, rfl, taken, stop⟩ := Text.exists_run isHexDigit digits
  have stopRest : ∀ char ∈ (more ++ rest).head?, isHexDigit char = false := by
    cases more with
    | nil => exact isHexDigit_of_breaks breaks
    | cons char others => exact stop
  have lastDigit (text : Text) (hexText : ∀ char ∈ text, isHexDigit char = true)
      : ∃ last others, text.reverse ++ place.before = last :: others
        ∧ Alphabet.isWord last = true := by
    rcases List.eq_nil_or_concat text with rfl | ⟨init, last, rfl⟩
    · exact ⟨first, before, written, isWord_of_isHexDigit hex⟩
    · exact ⟨last, init.reverse ++ place.before, by simp,
        isWord_of_isHexDigit (hexText last (by simp))⟩
  refine (run_andThen_of_shorter (after.trans (List.append_assoc _ _ _)) taken stopRest ?_).trans
    ?_
  · intro start char finish split
    obtain ⟨last, others, reached, inside⟩ := lastDigit start fun other member =>
      taken other (by simp [split, member])
    exact wordEdge_andThen_of_inside reached rfl inside
      (isWord_of_isHexDigit (taken char (by simp [split])))
  · obtain ⟨last, others, reached, inside⟩ := lastDigit number taken
    cases more with
    | nil =>
        have allHex : (number ++ []).all isHexDigit = true := by simpa using taken
        rw [if_pos allHex, wordEdge_andThen, if_neg]
        · rw [List.append_nil, List.nil_append]
        · have ended : rest.head?.any Alphabet.isWord = false := by
            cases rest with
            | nil => rfl
            | cons char others => exact breaks char rfl
          have stands : ((place.past number rest).record "digits" earlier).before
              = last :: others :=
            reached
          rw [List.nil_append, stands]
          simp [inside, ended]
    | cons char later =>
        have notHex : ¬ (number ++ char :: later).all isHexDigit = true := by
          simp [stop char rfl]
        rw [if_neg notHex]
        exact wordEdge_andThen_of_inside reached rfl inside (all char (by simp))

/-- The digits of a number are all that is left of its word. -/
theorem digits_andThen {place : Place} (earlier : Place) {digits rest : Text}
    (after : place.after = digits ++ rest)
    (all : ∀ char ∈ digits, Alphabet.isWord char = true) (breaks : Breaks rest)
    : (someOf isHexDigit).andThen
          (fun reached => wordEdge.andThen some (reached.record "digits" earlier)) place
      = if digits ≠ [] ∧ digits.all isHexDigit = true then
          some ((place.past digits rest).record "digits" earlier)
        else none := by
  rw [someOf, append_andThen]
  cases digits with
  | nil =>
      cases rest with
      | nil => simp [andThen, after]
      | cons char more =>
          rw [one_andThen_eq_none after (isHexDigit_of_breaks breaks char rfl)]
          simp
  | cons first others =>
      by_cases hex : isHexDigit first = true
      · rw [one_andThen after hex]
        refine (otherDigits_andThen rfl hex rfl
          (fun char member => all char (by simp [member])) breaks).trans ?_
        simp [hex]
      · rw [one_andThen_eq_none after (by simpa using hex)]
        simp [hex]

/-- A word matches as a whole or not at all. -/
theorem hexNumber_matchAt {place : Place} {word rest : Text}
    (fresh : place.before.head?.any Alphabet.isWord = false) (after : place.after = word ++ rest)
    (all : ∀ char ∈ word, Alphabet.isWord char = true) (breaks : Breaks rest)
    : hexNumber.matchAt? place
      = if isHexNumber word then
          some ((place.past word rest).record "digits"
            (place.past ['0', 'x'] (word.drop 2 ++ rest)))
        else none := by
  have marker : Text.ofString "0x" = ['0', 'x'] := by
    rw [Text.ofString_eq]
    rfl
  have notNumber (without : ∀ digits, word ≠ '0' :: 'x' :: digits) : isHexNumber word = false := by
    unfold isHexNumber
    split
    · exact absurd rfl (without _)
    · rfl
  unfold matchAt? hexNumber
  simp only [append_andThen, wordEdge_andThen, fresh, after, exactly_andThen, marker]
  cases begins : Text.dropPrefix? (word ++ rest) ['0', 'x'] with
  | none =>
      have without : ∀ digits, word ≠ '0' :: 'x' :: digits := by
        rintro digits rfl
        have dropped := Text.dropPrefix?_append ['0', 'x'] (digits ++ rest)
        rw [List.cons_append, List.cons_append] at begins
        cases begins.symm.trans dropped
      simp [notNumber without]
  | some later =>
      obtain ⟨digits, rfl, rfl⟩ :=
        exists_digits breaks (Text.dropPrefix?_eq_some_iff.mp begins)
      let start := place.past ['0', 'x'] (digits ++ rest)
      have follows : start.after = digits ++ rest := rfl
      have matched := digits_andThen start follows
        (fun char member => all char (by simp [member])) breaks
      have word : isHexNumber ('0' :: 'x' :: digits)
          = decide (digits ≠ [] ∧ digits.all isHexDigit = true) := by
        cases digits with
        | nil => rfl
        | cons first others => rw [isHexNumber, Bool.eq_iff_iff]; simp
      have edge : ¬ false = (('0' :: 'x' :: digits ++ rest).head?.any Alphabet.isWord) := by
        simp [show Alphabet.isWord '0' = true from rfl]
      rw [if_neg edge, word]
      refine matched.trans ?_
      simp [start]

-----------------------------------------------------------------------------------------
-- Replacing
-----------------------------------------------------------------------------------------

/-- What becomes of a text after a place: the rest of a word that has begun stays. -/
def adaptRest (inside : Bool) (text : Text) : Text :=
  if inside then
    text.takeWhile Alphabet.isWord ++ adaptWords (text.dropWhile Alphabet.isWord)
  else adaptWords text

/-- Whether a place stands right after a character of a word. -/
def isInside (place : Place) : Bool :=
  place.before.head?.any Alphabet.isWord

@[simp] theorem adaptRest_nil (inside : Bool)
    : adaptRest inside [] = [] := by
  cases inside <;> rfl

theorem adaptRest_of_breaks (inside : Bool) {text : Text} (breaks : Breaks text)
    : adaptRest inside text = adaptWords text := by
  cases text with
  | nil => exact adaptRest_nil inside
  | cons char rest =>
      have outside : Alphabet.isWord char = false := breaks char rfl
      cases inside <;> simp [adaptRest, outside]

theorem adaptRest_inside_cons (char : Char) (rest : Text)
    : adaptRest true (char :: rest) = char :: adaptRest (Alphabet.isWord char) rest := by
  cases goesOn : Alphabet.isWord char with
  | true => simp [adaptRest, goesOn]
  | false => simp [adaptRest, goesOn, adaptWords_sign]

theorem adaptRest_word {word rest : Text} (all : ∀ char ∈ word, Alphabet.isWord char = true)
    (breaks : Breaks rest)
    : adaptRest true (word ++ rest) = word ++ adaptWords rest := by
  induction word with
  | nil => exact adaptRest_of_breaks true breaks
  | cons char more ih =>
      have inside : Alphabet.isWord char = true := all char (by simp)
      rw [List.cons_append, adaptRest_inside_cons, inside,
        ih fun other member => all other (by simp [member])]
      rfl

/-- A word that is no number stays from its first character on. -/
theorem adaptRest_fresh_cons {char : Char} {rest word later : Text}
    (split : char :: rest = word ++ later) (all : ∀ char ∈ word, Alphabet.isWord char = true)
    (breaks : Breaks later) (notNumber : isHexNumber word = false)
    : adaptRest false (char :: rest) = char :: adaptRest (Alphabet.isWord char) rest := by
  cases word with
  | nil =>
      rw [List.nil_append] at split
      subst split
      have outside : Alphabet.isWord char = false := breaks char rfl
      rw [outside]
      exact adaptWords_sign outside rest
  | cons first others =>
      obtain ⟨rfl, rfl⟩ : char = first ∧ rest = others ++ later := List.cons.inj split
      have more : ∀ other ∈ others, Alphabet.isWord other = true :=
        fun other member => all other (by simp [member])
      rw [all char (by simp), adaptRest_word more breaks]
      change adaptWords (char :: others ++ later) = _
      rw [adaptWords_word all breaks, adaptWord, notNumber]
      rfl

/-- At a place without a match one more character stays as it is. -/
def Stays (place : Place) : Prop :=
  ∀ char rest, place.after = char :: rest →
    adaptRest (isInside place) (char :: rest) = char :: adaptRest (Alphabet.isWord char) rest

/-- A match is a word that becomes a literal, with no more of the word after it. -/
structure Adapts (place finish : Place) : Prop where
  adapted : adaptRest (isInside place) place.after
    = "'\\x" ++ finish.group "digits" ++ "'" ++ adaptWords finish.after
  isThere : finish.textSince place ≠ []
  shorter : finish.after.length < place.after.length
  breaks : Breaks finish.after

theorem hexNumber_matchAt_cases (place : Place)
    : match hexNumber.matchAt? place with
      | none => Stays place
      | some finish => Adapts place finish := by
  cases inside : isInside place with
  | true =>
      rw [hexNumber_matchAt_of_inside inside]
      intro char rest after
      rw [inside]
      exact adaptRest_inside_cons char rest
  | false =>
      obtain ⟨word, rest, after, all, breaks⟩ := Text.exists_run Alphabet.isWord place.after
      rw [hexNumber_matchAt inside after all breaks]
      cases number : isHexNumber word with
      | false =>
          intro char more stands
          rw [inside]
          exact adaptRest_fresh_cons (stands.symm.trans after) all breaks number
      | true =>
          have marked : ∃ digits, word = ['0', 'x'] ++ digits := by
            unfold isHexNumber at number
            split at number
            · exact ⟨_, rfl⟩
            · cases number
          obtain ⟨digits, rfl⟩ := marked
          have reached : place.past (['0', 'x'] ++ digits) rest
              = (place.past ['0', 'x'] (digits ++ rest)).past digits rest :=
            (Place.past_past ..).symm
          refine ⟨?_, ?_, ?_, breaks⟩
          · change adaptRest (isInside place) place.after = "'\\x"
              ++ ((place.past (['0', 'x'] ++ digits) rest).record "digits"
                (place.past ['0', 'x'] (digits ++ rest))).group "digits"
              ++ "'" ++ adaptWords rest
            rw [Place.group_record, reached, Place.textSince_past, inside, after]
            change adaptWords (['0', 'x'] ++ digits ++ rest) = _
            rw [adaptWords_word all breaks, adaptWord, number]
            rfl
          · change (place.past (['0', 'x'] ++ digits) rest).textSince place ≠ []
            rw [Place.textSince_past]
            simp
          · rw [after]
            simp only [Place.record_after, Place.past_after, List.length_append,
              List.length_cons, List.length_nil]
            omega

/-- What the search for a number says of the text after a place: there is none, or it is the
first, and a sign or the end comes after it.
-/
theorem findFrom_hexNumber (skipped : Text) {after : Text} {place : Place}
    (follows : place.after = after)
    : match hexNumber.findFrom skipped after place with
      | none => adaptRest (isInside place) after = after
      | some found =>
          skipped.reverse ++ adaptRest (isInside place) after
            = found.skipped ++ byteLiteral found ++ adaptWords found.finish.after
          ∧ found.matched ≠ []
          ∧ found.finish.after.length < after.length
          ∧ Breaks found.finish.after := by
  induction after generalizing skipped place with
  | nil =>
      have here := hexNumber_matchAt_cases place
      rw [findFrom]
      cases search : hexNumber.matchAt? place with
      | none => exact adaptRest_nil _
      | some finish =>
          rw [search] at here
          have shorter := here.shorter
          simp [follows] at shorter
  | cons char rest ih =>
      have here := hexNumber_matchAt_cases place
      rw [findFrom]
      cases search : hexNumber.matchAt? place with
      | none =>
          rw [search] at here
          have stays := here char rest follows
          have goes : isInside (place.past [char] rest) = Alphabet.isWord char := rfl
          have advanced : (place.past [char] rest).after = rest := rfl
          have later := ih (char :: skipped) advanced
          rw [goes] at later
          dsimp only
          rw [Place.advance_eq]
          cases further : hexNumber.findFrom (char :: skipped) rest (place.past [char] rest) with
          | none =>
              rw [further] at later
              exact stays.trans (congrArg _ later)
          | some found =>
              rw [further] at later
              obtain ⟨same, matched, shorter, breaks⟩ := later
              refine ⟨?_, matched, Nat.lt_succ_of_lt shorter, breaks⟩
              rw [stays, ← same]
              simp
      | some finish =>
          rw [search] at here
          refine ⟨?_, here.isThere, follows ▸ here.shorter, here.breaks⟩
          rw [← follows, here.adapted, List.append_assoc skipped.reverse]
          rfl

/-- Replacing the hexadecimal numbers of a text is adapting its words. -/
theorem replaceAll_hexNumber (text : Text)
    : hexNumber.replaceAll byteLiteral text = adaptWords text := by
  have goes (bound : Nat) (place : Place) (enough : place.after.length < bound)
      : hexNumber.replaceFrom byteLiteral bound place
        = adaptRest (isInside place) place.after := by
    induction bound generalizing place with
    | zero => omega
    | succ bound ih =>
        have follows : place.after = place.after := rfl
        have first := findFrom_hexNumber [] follows
        rw [replaceFrom]
        cases search : hexNumber.findFrom [] place.after place with
        | none =>
            rw [search] at first
            exact first.symm
        | some found =>
            rw [search] at first
            obtain ⟨same, matched, shorter, breaks⟩ := first
            obtain ⟨char, more, taken⟩ := List.exists_cons_of_ne_nil matched
            have resumed : resume found = some ([], { found.finish with groups := [] }) := by
              rw [resume, taken]
            have later := ih { found.finish with groups := [] } (by dsimp only; omega)
            dsimp only
            rw [resumed]
            dsimp only at later ⊢
            rw [later, adaptRest_of_breaks _ breaks, List.nil_append]
            exact same.symm
  exact goes (text.length + 1) (.start text) (Nat.lt_succ_self _)

end DumpTransfer.Conversion.ByPattern
