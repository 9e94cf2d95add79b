import DumpTransfer.Dump.Marker
import DumpTransfer.Proofs.Text.Matching
import Mathlib.Data.List.TakeWhile

/-! What a line says of itself and how a text ends after one more line. A statement read line by
line is judged by its last line alone; here that is the same as judging its whole text. A line makes
a database current exactly when a boundary is what it announces.
-/

namespace DumpTransfer

-----------------------------------------------------------------------------------------
-- Endings of texts
-----------------------------------------------------------------------------------------

namespace Text

theorem dropPrefix?_singleton (text : Text) (char : Char)
    : dropPrefix? text [char]
      = match text with
        | [] => none
        | first :: rest => if first = char then some rest else none := by
  cases text with
  | nil => rfl
  | cons first rest => by_cases same : first = char <;> simp [dropPrefix?, same]

/-- A text ends in a character when its reverse begins with it. -/
theorem endsWith_singleton (text : Text) (char : Char)
    : text.endsWith [char] = decide (text.reverse.head? = some char) := by
  unfold endsWith dropSuffix?
  rw [List.reverse_singleton, dropPrefix?_singleton]
  cases text.reverse with
  | nil => rfl
  | cons first rest => by_cases same : first = char <;> simp [same]

end Text

namespace Dump

/-- A line ends a statement when its last character apart from white space is a semicolon. -/
theorem endsStatement_eq (line : Text)
    : endsStatement line
      = decide ((line.reverse.dropWhile Alphabet.isBlank).head? = some ';') := by
  have semicolon : (Text.ofString ";") = [';'] := by
    rw [Text.ofString_eq]
    rfl
  rw [endsStatement, semicolon, Text.endsWith_singleton, Text.trimEnd, Text.dropEndWhile,
    List.reverse_reverse]

/-- A line of white space leaves the end of the text as it was. -/
theorem endsStatement_append_blank (text : Text) {line : Text}
    (blank : ∀ char ∈ line, Alphabet.isBlank char = true)
    : endsStatement (text ++ '\n' :: line) = endsStatement text := by
  have newline : Alphabet.isBlank '\n' = true := by decide
  have dropped : (line.reverse.dropWhile Alphabet.isBlank) = [] := by
    simpa [List.dropWhile_eq_nil_iff] using blank
  simp [endsStatement_eq, List.dropWhile_append, dropped, newline]

/-- Any other line decides by itself how the text ends. -/
theorem endsStatement_append_line (text : Text) {line : Text}
    (written : ∃ char ∈ line, Alphabet.isBlank char = false)
    : endsStatement (text ++ '\n' :: line) = endsStatement line := by
  have kept : (line.reverse.dropWhile Alphabet.isBlank) ≠ [] := by
    simpa [List.dropWhile_eq_nil_iff] using written
  obtain ⟨first, rest, kept⟩ := List.exists_cons_of_ne_nil kept
  simp [endsStatement_eq, List.dropWhile_append, kept]

theorem endsStatement_blank {line : Text}
    (blank : ∀ char ∈ line, Alphabet.isBlank char = true)
    : endsStatement line = false := by
  have dropped : (line.reverse.dropWhile Alphabet.isBlank) = [] := by
    simpa [List.dropWhile_eq_nil_iff] using blank
  simp [endsStatement_eq, dropped]

-----------------------------------------------------------------------------------------
-- Literals over several lines
-----------------------------------------------------------------------------------------

@[simp] theorem endsInLiteral_nil (inLiteral : Bool)
    : endsInLiteral inLiteral [] = inLiteral := by
  cases inLiteral <;> rfl

theorem endsInLiteral_outside (char : Char) (rest : Text)
    : endsInLiteral false (char :: rest) = endsInLiteral (decide (char = '\'')) rest := by
  simp [endsInLiteral]

theorem endsInLiteral_inside {char : Char} (plain : char ≠ '\\') (rest : Text)
    : endsInLiteral true (char :: rest) = endsInLiteral (!decide (char = '\'')) rest := by
  simp [endsInLiteral, plain]

theorem endsInLiteral_escaped (char : Char) (rest : Text)
    : endsInLiteral true ('\\' :: char :: rest) = endsInLiteral true rest := by
  simp [endsInLiteral]

/-- A literal goes on from one line to the next. A backslash at the end of a line takes the line
feed with it, so nothing of the next line is escaped.
-/
theorem endsInLiteral_append_line (inLiteral : Bool) (text line : Text)
    : endsInLiteral inLiteral (text ++ '\n' :: line)
      = endsInLiteral (endsInLiteral inLiteral text) line := by
  have newline (inside : Bool)
      : endsInLiteral inside ('\n' :: line) = endsInLiteral inside line := by
    cases inside <;> simp [endsInLiteral]
  fun_induction endsInLiteral inLiteral text with
  | case1 inLiteral => exact newline inLiteral
  | case2 => exact endsInLiteral_escaped '\n' line
  | case3 char later ih => simpa [endsInLiteral_escaped] using ih
  | case4 inLiteral char rest plain ih =>
      rw [← ih]
      cases inLiteral with
      | false => simp [endsInLiteral_outside]
      | true =>
          have unescaped : char ≠ '\\' := fun same => plain rfl same
          simp [endsInLiteral_inside unescaped]

/-- White space opens and closes no literal. -/
theorem endsInLiteral_blank (inLiteral : Bool) {line : Text}
    (blank : ∀ char ∈ line, Alphabet.isBlank char = true)
    : endsInLiteral inLiteral line = inLiteral := by
  induction line with
  | nil => simp
  | cons char rest ih =>
      have first := blank char (by simp)
      have rest := ih fun later member => blank later (by simp [member])
      have quote : char ≠ '\'' := by rintro rfl; exact absurd first (by decide)
      have escape : char ≠ '\\' := by rintro rfl; exact absurd first (by decide)
      cases inLiteral with
      | false => simpa [endsInLiteral_outside, quote] using rest
      | true => simpa [endsInLiteral_inside escape, quote] using rest

-----------------------------------------------------------------------------------------
-- Boundaries
-----------------------------------------------------------------------------------------

/-- A comment begins with a dash. -/
theorem head_of_comment {line : Text} (comment : line.startsWith "--" = true)
    : ∃ rest, line = '-' :: rest := by
  have dashes : Text.ofString "--" = ['-', '-'] := by
    rw [Text.ofString_eq]
    rfl
  rw [dashes] at comment
  cases line with
  | nil => simp [Text.startsWith, Text.dropPrefix?] at comment
  | cons char rest =>
      by_cases dash : char = '-'
      · exact ⟨rest, by rw [dash]⟩
      · simp [Text.startsWith, Text.dropPrefix?, dash] at comment

/-- A boundary begins like a comment or like the word for using a database. -/
theorem head_of_boundary {line database : Text} (boundary : boundary? line = some database)
    : ∃ char rest, line = char :: rest ∧ (char.toUpper = '-' ∨ char.toUpper = 'U') := by
  unfold boundary? at boundary
  split at boundary
  · rename_i comment
    obtain ⟨rest, rfl⟩ := head_of_comment comment
    exact ⟨'-', rest, rfl, Or.inl (by decide)⟩
  · obtain ⟨place, matched, _⟩ := Option.bind_eq_some_iff.mp boundary
    have spelled : "USE".toList = 'U' :: ['S', 'E'] := rfl
    obtain ⟨char, rest, after, same⟩ := Pattern.head_of_letters spelled matched
    have capital : char.toUpper = 'U' :=
      Alphabet.toUpper_of_foldCase same (by decide) (by decide)
    exact ⟨char, rest, after, Or.inr capital⟩

/-- A line announces a boundary exactly when it is one. -/
theorem ofLine_eq_boundary_iff (line database : Text)
    : Marker.ofLine line = .boundary database ↔ boundary? line = some database := by
  constructor
  · intro announced
    unfold Marker.ofLine at announced
    dsimp only at announced
    split at announced
    · cases found : boundary? line <;> simp_all
    · cases found : boundary? line <;> simp_all
    · cases found : Marker.nameIn Marker.dropping line <;> simp_all
    · cases found : Marker.nameIn Marker.creating line <;> simp_all
    · cases found : Marker.nameIn Marker.inserting line <;> simp_all
    · cases found : Marker.nameIn Marker.replacing line <;> simp_all
    · cases announced
  · intro boundary
    obtain ⟨char, rest, rfl, first⟩ := head_of_boundary boundary
    rcases first with dash | use
    · simp [Marker.ofLine, dash, boundary]
    · simp [Marker.ofLine, use, boundary]

theorem boundary?_of_ofLine_ne {line : Text} (other : ∀ name, Marker.ofLine line ≠ .boundary name)
    : boundary? line = none := by
  cases found : boundary? line with
  | none => rfl
  | some name => exact absurd ((ofLine_eq_boundary_iff line name).mpr found) (other name)

end Dump

end DumpTransfer
