import DumpTransfer.Conversion.Completion
import DumpTransfer.Proofs.Text.Matching
import DumpTransfer.Text.Alphabet
import Mathlib.Data.List.DropRight

/-! Texts cut at separating characters and at their ends. A part that is followed by a separating
character is cut off whole, and words are the parts that white space leaves. White space and a
semicolon after a text are taken off together, and nothing else is when the text ends with neither.
-/

namespace DumpTransfer.Text

-----------------------------------------------------------------------------------------
-- Parts
-----------------------------------------------------------------------------------------

section Parts

variable {separates : Char → Bool} {part rest word spaces : Text}

/-- A text without separating characters is one part. -/
theorem partsBetween_of_none (none : ∀ char ∈ part, separates char = false)
    : partsBetween separates part = [part] := by
  induction part with
  | nil => rfl
  | cons char more ih =>
      rw [List.forall_mem_cons] at none
      rw [partsBetween, none.1, ih none.2]
      rfl

/-- A part ends at the next separating character. -/
theorem partsBetween_append (none : ∀ char ∈ part, separates char = false) {char : Char}
    (separating : separates char = true) (rest : Text)
    : partsBetween separates (part ++ char :: rest) = part :: partsBetween separates rest := by
  induction part with
  | nil => rw [List.nil_append, partsBetween, if_pos separating]
  | cons first more ih =>
      rw [List.forall_mem_cons] at none
      rw [List.cons_append, partsBetween, none.1, ih none.2]
      rfl

/-- White space at the start of a text is in none of its words. -/
theorem words_of_blank (blank : ∀ char ∈ spaces, Alphabet.isBlank char = true) (rest : Text)
    : words (spaces ++ rest) = words rest := by
  induction spaces with
  | nil => rfl
  | cons space more ih =>
      rw [List.forall_mem_cons] at blank
      rw [← ih blank.2, List.cons_append, words, partsBetween, if_pos blank.1]
      rfl

theorem words_of_solid (isThere : word ≠ []) (solid : ∀ char ∈ word, Alphabet.isBlank char = false)
    : words word = [word] := by
  rw [words, partsBetween_of_none solid]
  simpa using isThere

/-- A word ends at white space. -/
theorem words_append (isThere : word ≠ []) (solid : ∀ char ∈ word, Alphabet.isBlank char = false)
    (someSpace : spaces ≠ []) (blank : ∀ char ∈ spaces, Alphabet.isBlank char = true) (rest : Text)
    : words (word ++ (spaces ++ rest)) = word :: words rest := by
  obtain ⟨space, more, rfl⟩ := List.exists_cons_of_ne_nil someSpace
  rw [List.forall_mem_cons] at blank
  have cut : words (word ++ (space :: more ++ rest)) = word :: words (more ++ rest) := by
    rw [words, List.cons_append, partsBetween_append solid blank.1, List.filter_cons_of_pos]
    · rfl
    · simpa using isThere
  rw [cut, words_of_blank blank.2]

end Parts

-----------------------------------------------------------------------------------------
-- Ends
-----------------------------------------------------------------------------------------

open Conversion

/-- A text that ends neither with white space nor with a semicolon. -/
def Tight (text : Text) : Prop :=
  ∃ init last, text = init ++ [last] ∧ Alphabet.isBlank last = false ∧ last ≠ ';'

/-- White space alone. -/
def Blank (text : Text) : Prop :=
  ∀ char ∈ text, Alphabet.isBlank char = true

theorem blank_nil
    : Blank [] :=
  List.forall_mem_nil _

theorem Tight.append {text : Text} (tight : Tight text) (before : Text)
    : Tight (before ++ text) := by
  obtain ⟨init, last, rfl, notBlank, notEnd⟩ := tight
  exact ⟨before ++ init, last, by simp, notBlank, notEnd⟩

theorem trimEnd_concat (init : Text) {last : Char} (notBlank : Alphabet.isBlank last = false)
    {spaces : Text} (blank : Blank spaces)
    : trimEnd (init ++ [last] ++ spaces) = init ++ [last] := by
  have backwards : ∀ char ∈ spaces.reverse, Alphabet.isBlank char = true :=
    fun char member => blank char (List.mem_reverse.mp member)
  rw [trimEnd, dropEndWhile, List.reverse_append, List.dropWhile_append_of_pos backwards,
    List.reverse_append, List.reverse_singleton, List.singleton_append,
    List.dropWhile_cons_of_neg (by simp [notBlank])]
  simp

theorem Tight.trimEnd_append {text : Text} (tight : Tight text) {spaces : Text}
    (blank : Blank spaces)
    : trimEnd (text ++ spaces) = text := by
  obtain ⟨init, last, rfl, notBlank, _⟩ := tight
  exact trimEnd_concat init notBlank blank

theorem dropSuffix?_append (text ending : Text)
    : dropSuffix? (text ++ ending) ending = some text := by
  rw [dropSuffix?, List.reverse_append, dropPrefix?_append, Option.map_some, List.reverse_reverse]

/-- Nothing but white space is taken off a text without a semicolon in the end. -/
theorem Tight.dropTerminator_append {text : Text} (tight : Tight text) {spaces : Text}
    (blank : Blank spaces)
    : Completion.dropTerminator (text ++ spaces) = text := by
  have none : dropSuffix? text ";" = none := by
    obtain ⟨init, last, rfl, _, notEnd⟩ := tight
    simp [dropSuffix?, Text.ofString_eq, dropPrefix?, notEnd]
  rw [Completion.dropTerminator, tight.trimEnd_append blank, none]
  rfl

/-- One semicolon is taken off with the white space after it. -/
theorem dropTerminator_semicolon (text : Text) {spaces : Text} (blank : Blank spaces)
    : Completion.dropTerminator (text ++ ';' :: spaces) = text := by
  have trimmed : trimEnd (text ++ [';'] ++ spaces) = text ++ [';'] :=
    trimEnd_concat text (by decide) blank
  have semicolon : Text.ofString ";" = [';'] := by
    rw [Text.ofString_eq]
    rfl
  rw [← List.singleton_append, ← List.append_assoc, Completion.dropTerminator, trimmed, semicolon,
    dropSuffix?_append]
  rfl

/-- White space is taken off on both sides of a text that has none at its ends. -/
theorem Tight.trim_append {text : Text} (tight : Tight text) {first : Char} {rest : Text}
    (begins : text = first :: rest) (notBlank : Alphabet.isBlank first = false)
    {before after : Text} (blankBefore : Blank before) (blankAfter : Blank after)
    : trim (before ++ (text ++ after)) = text := by
  have started : (text ++ after).dropWhile Alphabet.isBlank = text ++ after := by
    rw [begins, List.cons_append, List.dropWhile_cons_of_neg (by simp [notBlank])]
  rw [trim, trimWhile, List.dropWhile_append_of_pos blankBefore, started]
  exact tight.trimEnd_append blankAfter

theorem trimEnd_prefix (text : Text)
    : trimEnd text <+: text := by
  have left : text.reverse.dropWhile Alphabet.isBlank <:+ text.reverse := List.dropWhile_suffix _
  have turned := List.reverse_prefix.mpr left
  rwa [List.reverse_reverse] at turned

/-- Nothing is left to trim: what stays begins and ends with no white space. -/
theorem trim_trim (text : Text)
    : trim (trim text) = trim text := by
  have ends (text : Text) : trimEnd (trimEnd text) = trimEnd text :=
    List.rdropWhile_idempotent Alphabet.isBlank text
  have begins : (trimEnd (trimStart text)).dropWhile Alphabet.isBlank
      = trimEnd (trimStart text) := by
    cases left : trimEnd (trimStart text) with
    | nil => rfl
    | cons first rest =>
        obtain ⟨more, started⟩ := trimEnd_prefix (trimStart text)
        rw [left, List.cons_append] at started
        have kept := List.head?_dropWhile_not Alphabet.isBlank text
        rw [← trimStart, ← started] at kept
        exact List.dropWhile_cons_of_neg (Bool.eq_false_iff.mp kept)
  change trimEnd ((trimEnd (trimStart text)).dropWhile Alphabet.isBlank) = _
  rw [begins, ends]
  rfl

/-- Only what comes after a tight text is trimmed. -/
theorem Tight.trimEnd_eq {text : Text} (tight : Tight text) (rest : Text)
    : trimEnd (text ++ rest) = text ++ trimEnd rest := by
  obtain ⟨init, last, rfl, notBlank, _⟩ := tight
  have stays : (init ++ [last]).reverse.dropWhile Alphabet.isBlank = (init ++ [last]).reverse := by
    rw [List.reverse_append, List.reverse_singleton, List.singleton_append,
      List.dropWhile_cons_of_neg (by simp [notBlank])]
  rw [trimEnd, dropEndWhile, List.reverse_append, List.dropWhile_append, trimEnd, dropEndWhile]
  split
  · rename_i empty
    rw [List.isEmpty_iff.mp empty, stays, List.reverse_reverse, List.reverse_nil, List.append_nil]
  · rw [List.reverse_append, List.reverse_reverse]

/-- Only what comes after a tight text is dropped with the terminator. -/
theorem Tight.exists_dropTerminator {text : Text} (tight : Tight text) (rest : Text)
    : ∃ left, Completion.dropTerminator (text ++ rest) = text ++ left ∧ left <+: rest := by
  rw [Completion.dropTerminator, tight.trimEnd_eq]
  have shorter := trimEnd_prefix rest
  have semicolon : Text.ofString ";" = [';'] := by
    rw [Text.ofString_eq]
    rfl
  rcases List.eq_nil_or_concat (trimEnd rest) with none | ⟨init, last, spelled⟩
  · obtain ⟨before, other, rfl, _, notEnd⟩ := tight
    refine ⟨[], ?_, List.nil_prefix⟩
    simp [none, semicolon, dropSuffix?, dropPrefix?, notEnd]
  · rw [spelled, List.concat_eq_append] at shorter ⊢
    by_cases ends : last = ';'
    · refine ⟨init, ?_, (List.prefix_append init [last]).trans shorter⟩
      rw [ends, semicolon, ← List.append_assoc, dropSuffix?_append]
      rfl
    · refine ⟨init ++ [last], ?_, shorter⟩
      simp [semicolon, dropSuffix?, dropPrefix?, ends]

end DumpTransfer.Text
