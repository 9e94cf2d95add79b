import DumpTransfer.Proofs.Conversion.HeadingPasses

/-! Literals of statements about tables. Writing a literal takes words off the end of what has been
written before it, and none of them reaches back to the name of the table.
-/

namespace DumpTransfer.Conversion.Heading

open Sql
open Completion (Written dropWord? dropCharacterSetName characterSetNames isNamePart)

variable {reversed kept before word : Text}

-----------------------------------------------------------------------------------------
-- Words before a literal
-----------------------------------------------------------------------------------------

/-- A text in reverse of which no word is taken off: its last character is part of none, or begins
none and has no part of a word before it.
-/
def Firm (kept : Text) : Prop :=
  ∃ last earlier, kept = last :: earlier
    ∧ Alphabet.isBlank last = false
    ∧ (isNamePart last = false
      ∨ (last.toUpper ≠ 'X' ∧ last.toUpper ≠ '_'
        ∧ ∀ char ∈ earlier.head?, isNamePart char = false))

/-- Words that are taken off before a literal: they begin with a low line or are the mark of
hexadecimal literals.
-/
def IsMarkWord (word : Text) : Prop :=
  (∀ char ∈ Text.asciiUpper word, isNamePart char = true)
    ∧ ∀ char ∈ (Text.asciiUpper word).head?, char = 'X' ∨ char = '_'

theorem isMarkWord_x
    : IsMarkWord ['x'] := by
  refine ⟨fun char member => ?_, fun char head => ?_⟩
  · obtain rfl := List.mem_singleton.mp member
    decide
  · exact Or.inl (Option.some.inj head).symm

theorem isMarkWord_of_mem (known : word ∈ characterSetNames)
    : IsMarkWord word := by
  refine ⟨fun char member => ?_, fun char head => Or.inr ?_⟩
  · have part := Insertion.isSetPart_of_mem known char member
    simp only [Insertion.isSetPart, Bool.and_eq_true] at part
    exact part.1.2
  · have all
        : characterSetNames.all (fun name => (Text.asciiUpper name).head? = some '_') = true := by
      simp only [characterSetNames, Text.ofString_eq]
      decide
    have begins := of_decide_eq_true (List.all_eq_true.mp all word known)
    exact Option.some.inj (head.symm.trans begins)

/-- What is taken off is the word in either case. -/
theorem exists_taken (dropped : dropWord? reversed word = some before)
    : ∃ taken, reversed = taken ++ before
        ∧ Text.asciiUpper taken = (Text.asciiUpper word).reverse := by
  unfold dropWord? at dropped
  dsimp only at dropped
  split at dropped
  · rename_i both
    obtain rfl := Option.some.inj dropped
    have same := of_decide_eq_true (Bool.and_eq_true_iff.mp both).1
    refine ⟨reversed.take word.length, (List.take_append_drop _ _).symm, same.trans ?_⟩
    exact List.map_reverse
  · cases dropped

/-- No word that is taken off reaches into a firm text. -/
theorem Firm.suffix_dropWord? (firm : Firm kept) (within : kept <:+ reversed)
    (marks : IsMarkWord word) (dropped : dropWord? reversed word = some before)
    : kept <:+ before := by
  obtain ⟨taken, rfl, same⟩ := exists_taken dropped
  rcases List.suffix_or_suffix_of_suffix within (List.suffix_append taken before) with safe | past
  · exact safe
  obtain ⟨last, earlier, rfl, _, guarded⟩ := firm
  obtain ⟨reached, split⟩ := past
  cases reached with
  | nil => exact ⟨[], split.symm⟩
  | cons first others =>
      -- Otherwise the word ends with a part of the firm text, whose last character or the one
      -- before it belongs to no such word.
      exfalso
      obtain ⟨rfl, rfl⟩ := List.cons.inj split
      obtain ⟨start, joined⟩ := within
      have spelled : taken = start ++ first :: others := by
        have joined : (start ++ first :: others) ++ before = taken ++ before := by
          simpa using joined
        exact (List.append_cancel_right joined).symm
      have parts : Text.asciiUpper word
          = (Text.asciiUpper others).reverse
            ++ first.toUpper :: (Text.asciiUpper start).reverse := by
        rw [← List.reverse_reverse (Text.asciiUpper word), ← same, spelled]
        simp [Text.asciiUpper]
      have inWord {char : Char} (member : char.toUpper ∈ Text.asciiUpper word)
          : isNamePart char = true :=
        Insertion.isNamePart_of_toUpper (marks.1 _ member)
      have firstPart : isNamePart first = true := inWord (by rw [parts]; simp)
      rcases guarded with outside | ⟨notX, notLine, edge⟩
      · exact Bool.noConfusion (firstPart.symm.trans outside)
      · cases others with
        | nil =>
            rcases marks.2 first.toUpper (by rw [parts]; rfl) with mark | line
            · exact notX mark
            · exact notLine line
        | cons second more =>
            have secondPart : isNamePart second = true :=
              inWord (by rw [parts]; simp [Text.asciiUpper])
            exact Bool.noConfusion (secondPart.symm.trans (edge second rfl))

theorem Firm.suffix_dropCharacterSetName (firm : Firm kept) (within : kept <:+ reversed)
    : kept <:+ dropCharacterSetName reversed := by
  have trimmed : kept <:+ reversed.dropWhile Alphabet.isBlank := by
    obtain ⟨last, earlier, rfl, notBlank, _⟩ := firm
    obtain ⟨start, rfl⟩ := within
    rw [List.dropWhile_append]
    split
    · exact ⟨[], (List.dropWhile_cons_of_neg (by simp [notBlank])).symm⟩
    · exact List.suffix_append _ _
  rw [Completion.dropCharacterSetName]
  cases found : characterSetNames.findSome? (dropWord? (reversed.dropWhile Alphabet.isBlank)) with
  | none => exact within
  | some before =>
      obtain ⟨name, known, dropped⟩ := List.exists_of_findSome?_eq_some found
      exact firm.suffix_dropWord? trimmed (isMarkWord_of_mem known) dropped

-----------------------------------------------------------------------------------------
-- Writing literals
-----------------------------------------------------------------------------------------

variable {written : Written}

theorem suffix_push (within : kept <:+ written.reversed) (text : Text)
    : kept <:+ (written.push text).reversed :=
  within.trans (List.suffix_append _ _)

theorem Firm.suffix_pushLiteral (firm : Firm kept) (within : kept <:+ written.reversed)
    (literal : Text)
    : kept <:+ (written.pushLiteral literal).reversed := by
  have before := firm.suffix_dropCharacterSetName within
  unfold Written.pushLiteral
  dsimp only
  generalize Completion.dropCharacterSetName written.reversed = bare at before
  split
  · exact suffix_push before _
  · cases dropped : Completion.dropWord? bare ['x'] with
    | none => exact suffix_push before _
    | some unmarked => exact suffix_push (firm.suffix_dropWord? before isMarkWord_x dropped) _

/-- What is firm stays, whatever is written after it: by induction over the runs. -/
theorem Firm.suffix_literalsFrom (firm : Firm kept) (within : kept <:+ written.reversed)
    (sql : Text)
    : kept <:+ (Insertion.literalsFrom written sql).reversed := by
  rw [Insertion.literalsFrom]
  generalize Segment.ofText .standard sql = runs
  induction runs generalizing written with
  | nil => exact within
  | cons run rest ih =>
      rw [List.foldl_cons]
      cases run with
      | code text => exact ih (suffix_push within text)
      | literal text => exact ih (firm.suffix_pushLiteral within text)

/-- The word after a name and the sign after it are firm. -/
theorem firm_of_lead {opening spaces : Text} (blank : Text.Blank spaces) {char : Char}
    (lead : Insertion.isMark char = true
      ∨ (spaces ≠ [] ∧ char.isAlpha = true ∧ char.toUpper ≠ 'X'))
    : Firm (char :: (opening ++ spaces).reverse) := by
  refine ⟨char, _, rfl, ?_⟩
  rcases lead with mark | ⟨isThere, letter, notX⟩
  · refine ⟨?_, Or.inl (Insertion.isNamePart_of_isSign (by simp [Insertion.isSign, mark])).1⟩
    simpa using Insertion.holds_of_isMark (! Alphabet.isBlank ·) rfl mark
  · refine ⟨Alphabet.isBlank_of_isAlpha letter, Or.inr ⟨notX, Alphabet.toUpper_ne_line letter, ?_⟩⟩
    obtain ⟨init, last, rfl⟩ := (List.eq_nil_or_concat spaces).resolve_left isThere
    have space := (apart_of_isBlank (blank last (by simp))).2.1
    simpa using space

/-- Literals are adapted after the name only. -/
theorem BeginsWith.adaptLiterals {heading : Heading} {name : Name} {statement : Text}
    (begins : BeginsWith (heading.opening name) statement)
    : BeginsWith (heading.opening name) (Completion.adaptLiterals statement).1 := by
  obtain ⟨tail, rfl, spaces, rest, rfl, blank, next⟩ := begins
  have isCode := heading.isCode_opening name
  have spacesCode : Segment.IsCode spaces :=
    Segment.isCode_unquoted (unquoted_of_isLead (Blank.leads blank))
  change BeginsWith _
    (Insertion.literalsFrom {} (heading.opening name ++ (spaces ++ rest))).reversed.reverse
  rw [Insertion.literalsFrom_code isCode, Insertion.literalsFrom_code spacesCode,
    Insertion.push_push]
  cases rest with
  | nil =>
      refine ⟨spaces, ?_, spaces, [], by simp, blank, by simp⟩
      simp [Insertion.literalsFrom, Segment.ofText, Segment.ofTextFrom, Written.push]
  | cons char others =>
      have charCode : Segment.IsCode [char] :=
        Segment.isCode_unquoted (unquoted_of_isLead (by simpa using isLead_of_next (next char rfl)))
      have firm : Firm (char :: (heading.opening name ++ spaces).reverse) :=
        firm_of_lead blank (next char rfl)
      have start : char :: (heading.opening name ++ spaces).reverse
          <:+ (Written.push {} (heading.opening name ++ spaces ++ [char])).reversed := by
        simp [Written.push]
      obtain ⟨later, same⟩ := firm.suffix_literalsFrom start others
      have first := Insertion.literalsFrom_code charCode
        (Written.push {} (heading.opening name ++ spaces)) others
      rw [List.singleton_append, Insertion.push_push] at first
      refine ⟨spaces ++ char :: later.reverse, ?_, spaces, _, rfl, blank, next⟩
      rw [first, ← same]
      simp

end DumpTransfer.Conversion.Heading
