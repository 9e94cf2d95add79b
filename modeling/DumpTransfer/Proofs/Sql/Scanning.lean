import DumpTransfer.Proofs.Sql.Runs
import DumpTransfer.Proofs.Text.LetterCase
import DumpTransfer.Sql.Token

/-! Tokens of a text piece by piece. A piece at the start of a text is a token or none, and the
tokens of the whole text are those of what comes after it, with that token in front.
-/

namespace DumpTransfer.Sql.Token

-----------------------------------------------------------------------------------------
-- Scanning
-----------------------------------------------------------------------------------------

/-- A text has the given tokens, however large the bound on their number is. -/
def Scans (text : Text) (tokens : List Token) : Prop :=
  ∀ bound, text.length ≤ bound → scanWithin? bound text = some tokens

variable {char : Char} {rest after : Text} {found : Token} {tokens : List Token}

theorem Scans.scan?_eq {text : Text} (scans : Scans text tokens)
    : scan? text = some tokens :=
  scans text.length (Nat.le_refl _)

theorem scans_nil
    : Scans [] [] := by
  intro bound _
  cases bound <;> rfl

/-- What is no token is passed over. -/
theorem Scans.gap (first : first? char rest = some (none, after))
    (shorter : after.length ≤ rest.length) (scans : Scans after tokens)
    : Scans (char :: rest) tokens := by
  intro bound enough
  rw [List.length_cons] at enough
  obtain ⟨less, rfl⟩ : ∃ less, bound = less + 1 := ⟨bound - 1, by omega⟩
  rw [scanWithin?, first]
  exact scans less (by omega)

theorem Scans.token (first : first? char rest = some (some found, after))
    (shorter : after.length ≤ rest.length) (scans : Scans after tokens)
    : Scans (char :: rest) (found :: tokens) := by
  intro bound enough
  rw [List.length_cons] at enough
  obtain ⟨less, rfl⟩ : ∃ less, bound = less + 1 := ⟨bound - 1, by omega⟩
  have later := scans less (by omega)
  rw [scanWithin?, first]
  simp [later]

-----------------------------------------------------------------------------------------
-- Words and numbers
-----------------------------------------------------------------------------------------

/-- A word or a number right before a text is over there. -/
def Stops (rest : Text) : Prop :=
  ∀ char ∈ rest.head?, isWordPart char = false ∧ char ≠ '\'' ∧ char ≠ '.'

theorem isDigit_of_isAlpha (letter : char.isAlpha = true)
    : char.isDigit = false := by
  rw [Alphabet.isAlpha_iff] at letter
  refine Bool.eq_false_iff.mpr fun digit => ?_
  simp only [Char.isDigit, Bool.and_eq_true, decide_eq_true_eq, UInt32.le_iff_toNat_le] at digit
  have last : char.toNat ≤ 57 := digit.2
  omega

theorem isWordStart_of_isAlpha (letter : char.isAlpha = true)
    : isWordStart char = true := by
  simp [isWordStart, Alphabet.isAlphabetic, Alphabet.toNat_of_isAlpha letter, letter]

theorem first?_letter (letter : char.isAlpha = true) (noLiteral : rest.head? ≠ some '\'')
    : first? char rest
      = some (some (word (char :: rest.takeWhile isWordPart)), rest.dropWhile isWordPart) := by
  have other : char ≠ '.' ∧ char ≠ ' ' ∧ char ≠ '\t' ∧ char ≠ '\n' ∧ char ≠ '\r' := by
    refine ⟨?_, ?_, ?_, ?_, ?_⟩ <;> rintro rfl <;> cases letter
  unfold first?
  split <;> first
    | exact absurd letter (by decide)
    | exact absurd rfl noLiteral
    | skip
  simp [isDigit_of_isAlpha letter, isWordStart_of_isAlpha letter, other]

/-- A word of letters is a token. -/
theorem Scans.letters {letters : Text} (all : ∀ char ∈ letters, char.isAlpha = true)
    (isThere : letters ≠ []) (stops : Stops rest) (scans : Scans rest tokens)
    : Scans (letters ++ rest) (.word letters :: tokens) := by
  obtain ⟨first, others, rfl⟩ := List.exists_cons_of_ne_nil isThere
  have parts : ∀ char ∈ others, isWordPart char = true := fun char member => by
    simp [isWordPart, isWordStart_of_isAlpha (all char (by simp [member]))]
  have noLiteral : (others ++ rest).head? ≠ some '\'' := by
    cases others with
    | nil => exact fun same => (stops '\'' same).2.1 rfl
    | cons second more =>
        rintro same
        have letter := all second (by simp)
        rw [Option.some.inj same] at letter
        cases letter
  obtain ⟨taken, left⟩ := Text.span_run parts fun char member => (stops char member).1
  have read := first?_letter (all first (by simp)) noLiteral
  rw [taken, left] at read
  exact Scans.token read (by simp) scans

theorem first?_digit (digit : char.isDigit = true)
    : first? char rest = some (some (numeric (char :: rest)).1, (numeric (char :: rest)).2) := by
  unfold first?
  split <;> first
    | exact absurd digit (by decide)
    | skip
  simp [digit]

/-- Digits are a number. -/
theorem Scans.digits {digits : Text} (all : ∀ char ∈ digits, char.isDigit = true)
    (isThere : digits ≠ []) (stops : Stops rest) (scans : Scans rest tokens)
    : Scans (digits ++ rest) (.number digits :: tokens) := by
  have stop : ∀ char ∈ rest.head?, char.isDigit = false := by
    intro char head
    have notPart := (stops char head).1
    simp only [isWordPart, Bool.or_eq_false_iff] at notPart
    exact notPart.2
  obtain ⟨taken, left⟩ := Text.span_run all stop
  have after : afterNumber digits rest = (.number digits, rest) := by
    cases rest with
    | nil => rfl
    | cons char more =>
        have notPart := (stops char rfl).1
        have notMark : char ≠ 'e' ∧ char ≠ 'E' := by
          refine ⟨?_, ?_⟩ <;> rintro rfl <;> revert notPart <;> decide
        simp [afterNumber, notMark, notPart]
  have number : numeric (digits ++ rest) = (.number digits, rest) := by
    rw [numeric, taken, left]
    dsimp only
    split
    · exact absurd (stops 'x' rfl).1 (by decide)
    · exact absurd rfl (stops '.' rfl).2.2
    · exact after
  obtain ⟨first, others, rfl⟩ := List.exists_cons_of_ne_nil isThere
  have read : first? first (others ++ rest) = _ := first?_digit (all first (by simp))
  rw [← List.cons_append, number] at read
  exact Scans.token read (by simp) scans

-----------------------------------------------------------------------------------------
-- Signs
-----------------------------------------------------------------------------------------

/-- A sign with which no longer one begins is a token by itself. -/
theorem signOf_single (single : longSigns.all fun spelling => spelling.toList.head? ≠ some char)
    : signOf char rest = (.sign char.toString, rest) := by
  have none
      : longSigns.find? (fun spelling =>
          Text.startsWith (char :: rest) (Text.ofString spelling)) = none := by
    refine List.find?_eq_none.mpr fun spelling member => ?_
    have other := List.all_eq_true.mp single spelling member
    rw [decide_eq_true_eq] at other
    rw [Text.ofString_eq]
    cases spelled : spelling.toList with
    | nil =>
        have : longSigns.all fun spelling => !spelling.toList.isEmpty := by decide
        have := List.all_eq_true.mp this spelling member
        simp [spelled] at this
    | cons first more =>
        rw [spelled] at other
        have differs : char ≠ first := fun same => other (congrArg some same.symm)
        simp [Text.startsWith, Text.dropPrefix?, differs]
  rw [signOf, none]

/-- The signs around values and names. -/
def isPlainSign (char : Char) : Bool :=
  (['(', ')', ',', ';', '+'] : Text).contains char

theorem first?_plainSign (plain : isPlainSign char = true)
    : first? char rest = some (some (.sign char.toString), rest) := by
  have single : (['(', ')', ',', ';', '+'] : Text).all fun char =>
      longSigns.all fun spelling => spelling.toList.head? ≠ some char := by decide
  have alone : signOf char rest = (.sign char.toString, rest) :=
    signOf_single (List.all_eq_true.mp single char (List.contains_iff_mem.mp plain))
  simp only [isPlainSign, List.contains_cons, List.contains_nil, Bool.or_false, Bool.or_eq_true,
    beq_iff_eq] at plain
  rcases plain with rfl | rfl | rfl | rfl | rfl <;>
    exact congrArg (fun read : Token × Text => some (some read.1, read.2)) alone

theorem Scans.plainSign (plain : isPlainSign char = true) (scans : Scans rest tokens)
    : Scans (char :: rest) (.sign char.toString :: tokens) :=
  Scans.token (first?_plainSign plain) (Nat.le_refl _) scans

/-- A minus sign before a digit is a token by itself. -/
theorem Scans.minus (digit : char.isDigit = true) (scans : Scans (char :: rest) tokens)
    : Scans ('-' :: char :: rest) (.sign "-" :: tokens) := by
  have other : char ≠ '-' ∧ char ≠ '>' := by
    refine ⟨?_, ?_⟩ <;> rintro rfl <;> cases digit
  have alone : signOf '-' (char :: rest) = (.sign "-", char :: rest) := by
    simp [signOf, longSigns, Text.startsWith, Text.dropPrefix?, Text.ofString_eq, other,
      Char.toString]
  have read : first? '-' (char :: rest) = some (some (.sign "-"), char :: rest) := by
    rw [first?]
    · exact congrArg (fun read : Token × Text => some (some read.1, read.2)) alone
    all_goals simp [other]
  exact Scans.token read (Nat.le_refl _) scans

-----------------------------------------------------------------------------------------
-- Names
-----------------------------------------------------------------------------------------

/-- A name between back quotes is read up to the quote that stands alone. -/
theorem nameBody?_doubling (name : Text) (stop : rest.head? ≠ some '`')
    : nameBody? (Text.doubling '`' name ++ '`' :: rest) = some (name, rest) := by
  induction name with
  | nil =>
      cases rest with
      | nil => rfl
      | cons char more =>
          have other : char ≠ '`' := fun same => stop (congrArg some same)
          simp [Text.doubling, nameBody?, other]
  | cons char more ih =>
      by_cases same : char = '`'
      · subst same
        simp [Text.doubling, nameBody?, ih]
      · obtain ⟨next, others, begins⟩
            : ∃ next others, Text.doubling '`' more ++ '`' :: rest = next :: others :=
          List.exists_cons_of_ne_nil (by simp)
        rw [begins] at ih
        simp [Text.doubling, same, begins, nameBody?, ih]

theorem Scans.name (name : Text) (stop : rest.head? ≠ some '`') (scans : Scans rest tokens)
    : Scans (nameText '`' name ++ rest) (.quotedName name :: tokens) := by
  have read : first? '`' (Text.doubling '`' name ++ '`' :: rest)
      = some (some (.quotedName name), rest) := by
    change (nameBody? _).map _ = _
    rw [nameBody?_doubling name stop]
    rfl
  rw [nameText_append]
  exact Scans.token read (by simp; omega) scans

end DumpTransfer.Sql.Token
