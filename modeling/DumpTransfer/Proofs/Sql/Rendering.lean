import DumpTransfer.Proofs.Sql.Runs
import DumpTransfer.Sql.Phrase

/-! Phrases as they are written. A text between quotes is written with its quotes doubled, except
that two of them in a row are taken to be one, and as long as no quote follows a backslash.
-/

namespace DumpTransfer.Sql

-----------------------------------------------------------------------------------------
-- Quotes
-----------------------------------------------------------------------------------------

/-- No quote stands right after a backslash. -/
def Steady (quote : Char) (text : Text) : Prop :=
  Text.includes text ['\\', quote] = false

instance (quote : Char) (text : Text) : Decidable (Steady quote text) :=
  inferInstanceAs (Decidable (_ = false))

theorem Steady.of_cons {quote char : Char} {rest : Text} (steady : Steady quote (char :: rest))
    : Steady quote rest ∧ (char = '\\' → rest.head? ≠ some quote) := by
  rw [Steady, Text.includes, Bool.or_eq_false_iff] at steady
  refine ⟨steady.2, ?_⟩
  rintro rfl same
  obtain ⟨more, rfl⟩ : ∃ more, rest = quote :: more := by
    cases rest with
    | nil => cases same
    | cons first more => exact ⟨more, congrArg (· :: more) (Option.some.inj same)⟩
  have begins := steady.1
  simp [Text.startsWith, Text.dropPrefix?] at begins

theorem doubling_halving_cons {quote char : Char} (other : char ≠ quote) (rest : Text)
    : Text.doubling quote (Text.halving quote (char :: rest))
      = char :: Text.doubling quote (Text.halving quote rest) := by
  cases rest with
  | nil => simp [Text.halving, Text.doubling, other]
  | cons next more => simp [Text.halving, Text.doubling, other]

/-- What is written between quotes has them doubled once two in a row are made one. -/
theorem quotedText_go_eq {quote : Char} (afterBackslash : Bool) (text : Text)
    (steady : Steady quote text) (apart : afterBackslash = true → text.head? ≠ some quote)
    : quotedText.go quote afterBackslash text
      = Text.doubling quote (Text.halving quote text) := by
  induction afterBackslash, text using quotedText.go.induct quote with
  | case1 => rfl
  | case2 rest ih => exact absurd rfl (apart rfl)
  | case3 char rest other ih =>
      obtain ⟨steadyRest, stop⟩ := steady.of_cons
      have later := ih steadyRest fun same => stop (of_decide_eq_true same)
      rw [quotedText.go, if_neg other, later, doubling_halving_cons other]
  | case4 => simp [quotedText.go, Text.halving, Text.doubling]
  | case5 char other => simp [quotedText.go, Text.halving, Text.doubling, other]
  | case6 rest ih =>
      have later := ih steady.of_cons.1.of_cons.1 Bool.noConfusion
      simp [quotedText.go, Text.halving, Text.doubling, later]
  | case7 next rest other ih =>
      have later := ih steady.of_cons.1 Bool.noConfusion
      simp [quotedText.go, Text.halving, Text.doubling, other, later]
  | case8 char next rest other ih =>
      obtain ⟨steadyRest, stop⟩ := steady.of_cons
      have later := ih steadyRest fun same => stop (of_decide_eq_true same)
      rw [quotedText.go, if_neg other, later, doubling_halving_cons other]

theorem between_eq {quote : Char} {text : Text} (steady : Steady quote text)
    : between quote text = nameText quote (Text.halving quote text) := by
  rw [between, quotedText, quotedText_go_eq false text steady Bool.noConfusion, nameText]

-----------------------------------------------------------------------------------------
-- Phrases
-----------------------------------------------------------------------------------------

namespace Phrase

variable {rename : Text → QualifiedName}

@[simp] theorem renderWith_nil
    : renderWith rename [] = [] :=
  rfl

@[simp] theorem renderWith_append (first second : Phrase)
    : renderWith rename (first ++ second)
      = renderWith rename first ++ renderWith rename second :=
  List.flatMap_append

@[simp] theorem renderWith_plain (text : Text)
    : renderWith rename (plain text) = text := by
  simp [renderWith, plain]

@[simp] theorem renderWith_quoted (quote : Char) (text : Text)
    : renderWith rename (quoted quote text) = between quote text :=
  renderWith_plain _

/-- A name of several parts is written as it is. -/
theorem renderWith_relation {name : QualifiedName} (several : 1 < name.length)
    : renderWith rename (relation name) = name.render := by
  rcases name with _ | ⟨first, _ | ⟨second, others⟩⟩
  · cases several
  · exact absurd several (by simp)
  · simp [renderWith, relation]

@[simp] theorem renderWith_list (items : List Phrase)
    : renderWith rename (list items)
      = Text.joinWith ", " (items.map (renderWith rename)) := by
  unfold list
  induction items with
  | nil => rfl
  | cons first others ih =>
      cases others with
      | nil => rfl
      | cons second more =>
          rw [joinWith, renderWith_append, renderWith_append, ih, renderWith_plain]
          simp [Text.joinWith]

@[simp] theorem renderWith_parenthesized (phrase : Phrase)
    : renderWith rename (parenthesized phrase) = "(" ++ renderWith rename phrase ++ ")" := by
  simp [parenthesized]

end Phrase

end DumpTransfer.Sql
