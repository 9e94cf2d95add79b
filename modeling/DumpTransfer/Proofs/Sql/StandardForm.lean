import DumpTransfer.Proofs.Sql.Runs

/-! Literals and names in standard form piece by piece. The forms are reached by a state at each
character, and every piece of a statement begins and ends outside literals and names.
-/

namespace DumpTransfer

theorem Text.doubling_append (quote : Char) (first second : Text)
    : Text.doubling quote (first ++ second)
      = Text.doubling quote first ++ Text.doubling quote second := by
  induction first with
  | nil => rfl
  | cons char rest ih =>
      rw [List.cons_append, doubling, doubling]
      split <;> simp [ih]

theorem Text.doubling_of_not_mem {quote : Char} {text : Text} (absent : quote ∉ text)
    : Text.doubling quote text = text := by
  induction text with
  | nil => rfl
  | cons char rest ih =>
      simp only [List.mem_cons, not_or] at absent
      rw [doubling, if_neg (Ne.symm absent.1), ih absent.2]

/-- Characters can be left out before or after a quote that stays is doubled. -/
theorem Text.filter_doubling {accepts : Char → Bool} {quote : Char} (stays : accepts quote = true)
    (text : Text)
    : (Text.doubling quote text).filter accepts = Text.doubling quote (text.filter accepts) := by
  induction text with
  | nil => rfl
  | cons char rest ih =>
      rw [doubling, List.filter_cons]
      by_cases same : char = quote
      · rw [if_pos same, if_pos (same ▸ stays), doubling, if_pos same, ← ih, same]
        simp [stays]
      · rw [if_neg same, List.filter_cons, ih]
        split
        · rw [doubling, if_neg same]
        · rfl

/-- Reading a quote written twice as one undoes the doubling. -/
theorem Text.halving_doubling (quote : Char) (text : Text)
    : Text.halving quote (Text.doubling quote text) = text := by
  induction text with
  | nil => rfl
  | cons char rest ih =>
      rw [doubling]
      split
      · rename_i same
        simp [halving, same, ih]
      · rename_i other
        cases doubled : doubling quote rest with
        | nil =>
            rw [doubled] at ih
            rw [← ih]
            rfl
        | cons second more =>
            rw [doubled] at ih
            simp [halving, other, ih]

namespace Sql

-----------------------------------------------------------------------------------------
-- Literals
-----------------------------------------------------------------------------------------

namespace Literal

theorem normalizeFrom_code (char : Char) (rest : Text)
    : normalizeFrom .code (char :: rest)
      = char :: normalizeFrom (Quoting.code.step .backslash char) rest :=
  rfl

theorem normalizeFrom_inName (close char : Char) (rest : Text)
    : normalizeFrom (.name close) (char :: rest)
      = char :: normalizeFrom (if char = close then .code else .name close) rest :=
  rfl

theorem normalizeFrom_literal_plain {char : Char} (noQuote : char ≠ '\'')
    (noBackslash : char ≠ '\\') (rest : Text)
    : normalizeFrom .literal (char :: rest) = char :: normalizeFrom .literal rest := by
  change (if char = '\\' then _
    else char :: normalizeFrom (if char = '\'' then .code else .literal) rest) = _
  rw [if_neg noBackslash, if_neg noQuote]

theorem normalizeFrom_literal_quote (rest : Text)
    : normalizeFrom .literal ('\'' :: rest) = '\'' :: normalizeFrom .code rest :=
  rfl

theorem normalizeFrom_code_quote (rest : Text)
    : normalizeFrom .code ('\'' :: rest) = '\'' :: normalizeFrom .literal rest :=
  rfl

theorem normalizeFrom_literal_escaped (char : Char) (rest : Text)
    : normalizeFrom .literal ('\\' :: char :: rest)
      = escapeForm char ++ normalizeFrom .literal rest :=
  rfl

/-- A text without backslashes has its literals in standard form already. -/
theorem normalizeFrom_of_no_backslash {quoting : Quoting} (notEscaped : quoting ≠ .escaped)
    {text : Text} (absent : '\\' ∉ text)
    : normalizeFrom quoting text = text := by
  induction text generalizing quoting with
  | nil => cases quoting <;> rfl
  | cons char rest ih =>
      simp only [List.mem_cons, not_or] at absent
      have other : char ≠ '\\' := Ne.symm absent.1
      cases quoting with
      | escaped => exact absurd rfl notEscaped
      | name close =>
          rw [normalizeFrom_inName, ih _ absent.2]
          split <;> simp
      | literal =>
          by_cases quote : char = '\''
          · rw [quote, normalizeFrom_literal_quote, ih (by simp) absent.2]
          · rw [normalizeFrom_literal_plain quote other, ih (by simp) absent.2]
      | code =>
          rw [normalizeFrom_code, ih _ absent.2]
          rw [Quoting.step]
          split
          · simp
          · split <;> simp

theorem normalize_eq (statement : Text)
    : normalize statement = normalizeFrom .code statement := by
  unfold normalize
  split
  · rfl
  · rename_i none
    have absent : '\\' ∉ statement := fun member =>
      none (List.any_eq_true.mpr ⟨'\\', member, by simp⟩)
    exact (normalizeFrom_of_no_backslash (by simp) absent).symm

theorem normalizeFrom_unquoted {text : Text} (unquoted : Unquoted text) (rest : Text)
    : normalizeFrom .code (text ++ rest) = text ++ normalizeFrom .code rest := by
  induction text with
  | nil => rfl
  | cons char more ih =>
      obtain ⟨single, back, double⟩ := unquoted char (by simp)
      have next : Quoting.code.step .backslash char = .code := by
        simp [Quoting.step, single, back, double]
      rw [List.cons_append, normalizeFrom_code, next,
        ih fun other member => unquoted other (by simp [member]), List.cons_append]

/-- A name stays as it is. -/
theorem normalizeFrom_name {quote : Char} (kind : quote = '`' ∨ quote = '"') (name rest : Text)
    : normalizeFrom .code (nameText quote name ++ rest)
      = nameText quote name ++ normalizeFrom .code rest := by
  have opens : Quoting.code.step .backslash quote = .name quote := by
    rcases kind with rfl | rfl <;> rfl
  have inside (name : Text)
      : normalizeFrom (.name quote) (Text.doubling quote name ++ quote :: rest)
        = Text.doubling quote name ++ quote :: normalizeFrom .code rest := by
    induction name with
    | nil =>
        change normalizeFrom (.name quote) (quote :: rest) = _
        rw [normalizeFrom_inName, if_pos rfl]
        rfl
    | cons char more ih =>
        by_cases same : char = quote
        · subst same
          rw [Text.doubling, if_pos rfl, List.cons_append, List.cons_append, normalizeFrom_inName,
            if_pos rfl, normalizeFrom_code, opens, ih]
          rfl
        · rw [Text.doubling, if_neg same, List.cons_append, normalizeFrom_inName, if_neg same, ih]
          rfl
  rw [nameText_append, normalizeFrom_code, opens, inside, nameText_append]

end Literal

-----------------------------------------------------------------------------------------
-- Names
-----------------------------------------------------------------------------------------

namespace QuotedName

theorem requoteFrom_of_no_back {place : Place} (start : place = .plain ∨ place = .double)
    {text : Text} (absent : '`' ∉ text)
    : requoteFrom place text = text := by
  induction text generalizing place with
  | nil => rcases start with rfl | rfl <;> rfl
  | cons char rest ih =>
      simp only [List.mem_cons, not_or] at absent
      have other : char ≠ '`' := Ne.symm absent.1
      rcases start with rfl | rfl
      · by_cases double : char = '"'
        · simp [requoteFrom, step, stepPlain, double, ih (Or.inr rfl) absent.2]
        · simp [requoteFrom, step, stepPlain, other, double, ih (Or.inl rfl) absent.2]
      · by_cases double : char = '"'
        · simp [requoteFrom, step, double, ih (Or.inl rfl) absent.2]
        · simp [requoteFrom, step, double, ih (Or.inr rfl) absent.2]

theorem requoteFrom_unquoted {text : Text} (unquoted : Unquoted text) (rest : Text)
    : requoteFrom .plain (text ++ rest) = text ++ requoteFrom .plain rest := by
  induction text with
  | nil => rfl
  | cons char more ih =>
      obtain ⟨_, back, double⟩ := unquoted char (by simp)
      have later := ih fun other member => unquoted other (by simp [member])
      simp [requoteFrom, step, stepPlain, back, double, later]

/-- A name between back quotes gets double quotes when no other back quote comes right after it.
-/
theorem requoteFrom_backName (name : Text) {rest : Text} (stop : rest.head? ≠ some '`')
    : requoteFrom .plain (nameText '`' name ++ rest)
      = nameText '"' name ++ requoteFrom .plain rest := by
  have closes : requoteFrom .afterBack rest = '"' :: requoteFrom .plain rest := by
    cases rest with
    | nil => rfl
    | cons char more =>
        have other : char ≠ '`' := fun same => stop (congrArg some same)
        simp [requoteFrom, step, other]
  have inside (name : Text)
      : requoteFrom .back (Text.doubling '`' name ++ '`' :: rest)
        = Text.doubling '"' name ++ '"' :: requoteFrom .plain rest := by
    induction name with
    | nil => exact closes
    | cons char more ih =>
        by_cases back : char = '`'
        · subst back
          simpa [Text.doubling, requoteFrom, step] using ih
        · by_cases double : char = '"'
          · subst double
            simpa [Text.doubling, requoteFrom, step] using ih
          · simpa [Text.doubling, requoteFrom, step, back, double] using ih
  rw [nameText_append, requoteFrom]
  change '"' :: requoteFrom .back _ = _
  rw [inside, nameText_append]

/-- A name between double quotes stays as it is. -/
theorem requoteFrom_doubleName (name rest : Text)
    : requoteFrom .plain (nameText '"' name ++ rest)
      = nameText '"' name ++ requoteFrom .plain rest := by
  have inside (name : Text)
      : requoteFrom .double (Text.doubling '"' name ++ '"' :: rest)
        = Text.doubling '"' name ++ '"' :: requoteFrom .plain rest := by
    induction name with
    | nil => rfl
    | cons char more ih =>
        by_cases double : char = '"'
        · subst double
          simpa [Text.doubling, requoteFrom, step, stepPlain] using ih
        · simpa [Text.doubling, requoteFrom, step, double] using ih
  rw [nameText_append, requoteFrom]
  change '"' :: requoteFrom .double _ = _
  rw [inside, nameText_append]

/-- The runs of a text make up the text. -/
theorem flatMap_ofText (style : LiteralStyle) (text : Text)
    : (Segment.ofText style text).flatMap Segment.text = text := by
  have goes (quoting : Quoting)
      : (Segment.ofTextFrom style quoting text).flatMap Segment.text = text := by
    induction text generalizing quoting with
    | nil => rfl
    | cons char rest ih =>
        have extended (isLiteral : Bool) (runs : List Segment)
            : (Segment.extend isLiteral char runs).flatMap Segment.text
              = char :: runs.flatMap Segment.text := by
          rcases isLiteral with _ | _ <;> rcases runs with _ | ⟨text | text, more⟩ <;> rfl
        rw [Segment.ofTextFrom, extended, ih]
  exact goes .code

/-- Quoting anew goes over all code, also when there is no back quote. -/
theorem requote_eq (statement : Text)
    : requote statement = Segment.onCode .standard (requoteFrom .plain) statement := by
  unfold requote
  split
  · rfl
  · rename_i none
    have absent : '`' ∉ statement := fun member =>
      none (List.any_eq_true.mpr ⟨'`', member, by simp⟩)
    have stays : ∀ text, .code text ∈ Segment.ofText .standard statement →
        requoteFrom .plain text = text := by
      intro text member
      refine requoteFrom_of_no_back (Or.inl rfl) fun back => absent ?_
      rw [← flatMap_ofText .standard statement]
      exact List.mem_flatMap.mpr ⟨_, member, back⟩
    exact ((Segment.changed_of_unchanged stays).trans (flatMap_ofText .standard statement)).symm

end QuotedName

end Sql

end DumpTransfer
