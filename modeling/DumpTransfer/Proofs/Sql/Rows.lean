import DumpTransfer.Proofs.Sql.Reading
import DumpTransfer.Sql.Grammar.Statement

/-! Insertions of rows of plain values as they are read: the values one by one up to the sign that
closes each, then the rows, and the statement around them with none of its other parts.
-/

namespace DumpTransfer.Sql.Grammar

open Parser

variable {inner : Grammar} {rest : List Token}

-----------------------------------------------------------------------------------------
-- Values
-----------------------------------------------------------------------------------------

/-- A comma or a closing parenthesis comes next. -/
def Closes (tokens : List Token) : Prop :=
  tokens.head? = some (.sign ",") ∨ tokens.head? = some (.sign ")")

theorem Closes.exists_sign (closes : Closes rest)
    : ∃ spelling more, rest = .sign spelling :: more ∧ (spelling = "," ∨ spelling = ")") := by
  cases rest with
  | nil => rcases closes with none | none <;> cases none
  | cons first more =>
      rcases closes with same | same
      · exact ⟨",", more, congrArg (· :: more) (Option.some.inj same), Or.inl rfl⟩
      · exact ⟨")", more, congrArg (· :: more) (Option.some.inj same), Or.inr rfl⟩

theorem Closes.idle (closes : Closes rest) : Idle rest := by
  obtain ⟨spelling, more, rfl, _⟩ := closes.exists_sign
  intro token head
  obtain rfl := Option.some.inj head
  rfl

/-- An expression ends where it is closed. -/
theorem Closes.items_continuation (closes : Closes rest) (strength : Nat)
    : items (Expression.continuation? inner strength) rest = .ok ([], rest) := by
  have nothing : Expression.strengthOf rest = 0 := by
    obtain ⟨spelling, more, rfl, either⟩ := closes.exists_sign
    rcases either with rfl | rfl <;> rfl
  refine items_of_none ?_
  have read : (get : Parser (List Token)) rest = .ok (rest, rest) := rfl
  rw [Expression.continuation?, bind_ok read, if_pos (by omega)]
  rfl

/-- An operand that is no value after the name of its type is the expression when it is closed. -/
theorem Expression.read_operand {tokens : List Token} (operand : Operand) (closes : Closes rest)
    (typed : Operand.typed inner tokens = .error .form)
    (read : Operand.plain inner tokens = .ok (operand, rest)) (strength : Nat)
    : Expression.read inner strength tokens = .ok (operand.phrase, rest) := by
  have whole : Operand.read inner tokens = .ok (operand, rest) := by
    rw [Operand.read, bind_ok (attempt_error typed)]
    dsimp only
    rw [bind_ok read, bind_ok (closes.idle.lacks (by decide)).keyword_eq]
    rfl
  rw [Expression.read, bind_ok whole, bind_ok (closes.items_continuation strength)]
  simp [pure_apply]

theorem Expression.read_number (digits : Text) (closes : Closes rest) (strength : Nat)
    : Expression.read inner strength (.number digits :: rest) = .ok (.plain digits, rest) :=
  Expression.read_operand ⟨.plain digits, false⟩ closes rfl rfl strength

theorem Expression.read_string (value : Text) (closes : Closes rest) (strength : Nat)
    : Expression.read inner strength (.string value :: rest) = .ok (.quoted '\'' value, rest) :=
  Expression.read_operand ⟨.quoted '\'' value, false⟩ closes rfl rfl strength

/-- A sign before a number is read with what it stands before. -/
theorem Expression.read_signed {sign : String} (either : sign = "-" ∨ sign = "+")
    {tokens : List Token} {phrase : Phrase} (closes : Closes rest)
    (read : inner.expression 40 tokens = .ok (phrase, rest)) (strength : Nat)
    : Expression.read inner strength (.sign sign :: tokens)
      = .ok (.plain (Text.ofString sign) ++ phrase, rest) := by
  have other : Operand.ofOther inner (.sign sign :: tokens)
      = .ok (.plain (Text.ofString sign) ++ phrase, rest) := by
    have step : (inner.expression 40 >>= fun phrase =>
          pure (.plain (Text.ofString sign) ++ phrase)) tokens
        = .ok (Phrase.plain (Text.ofString sign) ++ phrase, rest) := bind_ok read
    rcases either with rfl | rfl <;> exact step
  have plain : Operand.plain inner (.sign sign :: tokens)
      = .ok (⟨.plain (Text.ofString sign) ++ phrase, false⟩, rest) := by
    have step : (Operand.ofOther inner >>= fun phrase => pure (Operand.mk phrase false))
          (.sign sign :: tokens)
        = .ok (⟨.plain (Text.ofString sign) ++ phrase, false⟩, rest) := bind_ok other
    rcases either with rfl | rfl <;> exact step
  exact Expression.read_operand _ closes (by rcases either with rfl | rfl <;> rfl) plain strength

theorem Closes.sign_eq (closes : Closes rest) {spelling : String}
    (other : spelling ≠ "," ∧ spelling ≠ ")")
    : sign spelling rest = .ok (false, rest) := by
  obtain ⟨closing, more, rfl, either⟩ := closes.exists_sign
  rcases either with rfl | rfl
  · simp [sign_cons, other.1.symm]
  · simp [sign_cons, other.2.symm]

/-- The word for null is no type. -/
theorem typed_null {spelling : Text} (null : Token.keyword (.word spelling) = "NULL")
    (closes : Closes rest)
    : Operand.typed inner (.word spelling :: rest) = .error .form := by
  have name : Parser.name (.word spelling :: rest) = .ok (.name [⟨spelling, none⟩], rest) := by
    have part : namePart (.word spelling :: rest) = .ok (⟨spelling, none⟩, rest) := rfl
    have none : items (do if ← sign "." then return some (← namePart) else return none) rest
        = .ok ([], rest) :=
      items_of_none (bind_ok (closes.sign_eq (by decide)))
    have qualified : qualifiedName (.word spelling :: rest) = .ok ([⟨spelling, .none⟩], rest) := by
      rw [qualifiedName, bind_ok part, bind_ok none]
      rfl
    rw [Parser.name, bind_ok qualified]
    rfl
  have custom : TypeName.custom (.word spelling :: rest)
      = .ok (⟨.custom, .name [⟨spelling, none⟩]⟩, rest) := by
    have modifiers : TypeName.modifiers rest = .ok ([], rest) :=
      bind_ok (closes.sign_eq (by decide))
    rw [TypeName.custom, bind_ok name, bind_ok modifiers]
    simp [pure_apply]
  have simple : TypeName.simple (.word spelling :: rest)
      = .ok (⟨.custom, .name [⟨spelling, none⟩]⟩, rest) := by
    have unknown : TypeName.known? "NULL" = none := by rfl
    rw [TypeName.simple, bind_ok (peek?_apply _)]
    dsimp only [List.head?_cons]
    rw [null, unknown]
    exact custom
  have brackets : items TypeName.emptyBrackets? rest = .ok ([], rest) :=
    items_of_none (bind_ok (closes.sign_eq (by decide)))
  have within (bound : List Token)
      : TypeName.readWithin (.word spelling :: bound) (.word spelling :: rest)
        = .ok ((⟨.custom, .name [⟨spelling, none⟩]⟩, false), rest) := by
    have noArray : Parser.keyword "ARRAY" (.word spelling :: rest)
        = .ok (false, .word spelling :: rest) := by
      simp [keyword_cons, null]
    rw [TypeName.readWithin, bind_ok noArray]
    simp only [Bool.false_eq_true, if_false]
    rw [bind_ok simple]
    simp only [pure_bind]
    rw [bind_ok brackets]
    simp [pure_apply]
  have type : TypeName.read (.word spelling :: rest)
      = .ok (⟨.custom, .name [⟨spelling, none⟩]⟩, rest) := by
    have read : (get : Parser (List Token)) (.word spelling :: rest)
        = .ok (.word spelling :: rest, .word spelling :: rest) := rfl
    rw [TypeName.read, bind_ok read, bind_ok (within rest)]
    rfl
  rw [Operand.typed, bind_ok type]
  rfl

theorem Expression.read_null {spelling : Text} (null : Token.keyword (.word spelling) = "NULL")
    (closes : Closes rest) (strength : Nat)
    : Expression.read inner strength (.word spelling :: rest) = .ok ("NULL", rest) := by
  have word : Operand.ofWord inner spelling rest = .ok ("NULL", rest) := by
    have noCall : isSign "(" rest = .ok (false, rest) := by
      obtain ⟨closing, more, rfl, either⟩ := closes.exists_sign
      rcases either with rfl | rfl <;> simp [isSign_cons]
    rw [Operand.ofWord, bind_ok noCall, null]
    rfl
  have plain : Operand.plain inner (.word spelling :: rest) = .ok (⟨"NULL", false⟩, rest) := by
    have step : (Operand.ofWord inner spelling >>= fun phrase => pure (Operand.mk phrase false))
          rest
        = .ok (⟨"NULL", false⟩, rest) := bind_ok word
    exact step
  exact Expression.read_operand _ closes (typed_null null closes) plain strength

-----------------------------------------------------------------------------------------
-- Rows
-----------------------------------------------------------------------------------------

/-- The tokens of a row. -/
def rowTokens (values : List (List Token)) : List Token :=
  .sign "(" :: (commaJoined values ++ [.sign ")"])

variable {β γ : Type} {part : β → List Token} {value : β → Phrase}

theorem expectSign_cons (spelling : String) (tokens : List Token)
    : expectSign spelling (.sign spelling :: tokens) = .ok ((), tokens) := by
  have read : sign spelling (.sign spelling :: tokens) = .ok (true, tokens) := by
    simp [sign_cons]
  rw [expectSign, require, bind_ok read]
  rfl

theorem parenthesized_apply {reading : Parser Phrase} {tokens : List Token} {phrase : Phrase}
    (read : reading tokens = .ok (phrase, .sign ")" :: rest))
    : Parser.parenthesized reading (.sign "(" :: tokens)
      = .ok (.parenthesized phrase, rest) := by
  have inside : inParentheses reading (.sign "(" :: tokens) = .ok (phrase, rest) := by
    rw [inParentheses, bind_ok (expectSign_cons "(" tokens), bind_ok read,
      bind_ok (expectSign_cons ")" rest)]
    rfl
  rw [Parser.parenthesized, bind_ok inside]
  rfl

/-- A value is read from tokens of its own wherever it is closed. -/
def ReadsValue (inner : Grammar) (tokens : List Token) (value : Phrase) : Prop :=
  (∃ first others, tokens = first :: others ∧ first ≠ .sign ")")
    ∧ ∀ after, Closes after → inner.expression 0 (tokens ++ after) = .ok (value, after)

/-- A row is read value by value. -/
theorem Rows.row_apply {entries : List β}
    (reads : ∀ entry ∈ entries, ReadsValue inner (part entry) (value entry)) (rest : List Token)
    : Rows.row inner (rowTokens (entries.map part) ++ rest)
      = .ok (⟨false, .parenthesized (.list (entries.map value))⟩, rest) := by
  have listed : commaSeparatedBefore ")" (inner.expression 0)
        (commaJoined (entries.map part) ++ .sign ")" :: rest)
      = .ok (entries.map value, .sign ")" :: rest) := by
    cases entries with
    | nil => rfl
    | cons first others =>
        obtain ⟨token, more, same, other⟩ := (reads first (by simp)).1
        have opens : isSign ")" (commaJoined ((first :: others).map part) ++ .sign ")" :: rest)
            = .ok (false, commaJoined ((first :: others).map part) ++ .sign ")" :: rest) := by
          rw [List.map_cons, commaJoined_cons, same]
          simp [isSign_cons, other]
        rw [commaSeparatedBefore, bind_ok opens]
        refine commaSeparated_joined (by simp) (fun entry member after follows => ?_) (by simp)
        refine (reads entry member).2 after ?_
        rcases follows with comma | rfl
        · exact Or.inl comma
        · exact Or.inr rfl
  have noMark : Parser.keyword "ROW" (rowTokens (entries.map part) ++ rest)
      = .ok (false, rowTokens (entries.map part) ++ rest) := by
    simp [rowTokens, keyword_cons, Token.keyword]
  have values : Parser.parenthesized (do
        return .list (← commaSeparatedBefore ")" (inner.expression 0)))
          (rowTokens (entries.map part) ++ rest)
      = .ok (.parenthesized (.list (entries.map value)), rest) := by
    have same : rowTokens (entries.map part) ++ rest
        = .sign "(" :: (commaJoined (entries.map part) ++ .sign ")" :: rest) := by
      simp [rowTokens]
    rw [same]
    refine parenthesized_apply ?_
    rw [bind_ok listed]
    rfl
  rw [Rows.row, bind_ok noMark, bind_ok values]
  rfl

/-- Rows are read one by one. -/
theorem Rows.read_apply {rows : List γ} {entries : γ → List β} (isThere : rows ≠ [])
    (reads : ∀ row ∈ rows, ∀ entry ∈ entries row, ReadsValue inner (part entry) (value entry))
    (stop : rest.head? ≠ some (.sign ","))
    : Rows.read inner
          (commaJoined (rows.map fun row => rowTokens ((entries row).map part)) ++ rest)
      = .ok ("VALUES " ++ .list (rows.map fun row =>
          .parenthesized (.list ((entries row).map value))), rest) := by
  have each
      : commaSeparated (Rows.row inner)
          (commaJoined (rows.map fun row => rowTokens ((entries row).map part)) ++ rest)
        = .ok (rows.map fun row =>
            ⟨false, .parenthesized (.list ((entries row).map value))⟩, rest) :=
    commaSeparated_joined isThere
      (fun row member after _ => Rows.row_apply (reads row member) after) stop
  have unmarked : ((rows.map fun row =>
      (⟨false, .parenthesized (.list ((entries row).map value))⟩ : Rows.Row)).any (·.isMarked))
        = false := by
    simp
  rw [Rows.read, bind_ok each, unmarked]
  simp [pure_apply, Function.comp_def]

-----------------------------------------------------------------------------------------
-- Insertions
-----------------------------------------------------------------------------------------

/-- No part of a query comes next. -/
theorem Query.selected_apply {tokens : List Token} {phrase : Phrase} (idle : Idle rest)
    {spelling : Text} (valuesWord : Token.keyword (.word spelling) = "VALUES")
    (rows : Rows.read inner tokens = .ok (phrase, rest))
    : Query.selected inner (.word spelling :: tokens) = .ok (phrase, rest) := by
  have simple : Query.simple inner (.word spelling :: tokens) = .ok (phrase, rest) := by
    have noParenthesis : isSign "(" (.word spelling :: tokens)
        = .ok (false, .word spelling :: tokens) := by
      simp [isSign_cons]
    have word : oneOf ["SELECT", "TABLE", "VALUES"] (.word spelling :: tokens)
        = .ok ("VALUES", tokens) := by
      have any : anyKeyword ["SELECT", "TABLE", "VALUES"] (.word spelling :: tokens)
          = .ok (some "VALUES", tokens) := by
        simp [anyKeyword_cons, valuesWord]
      rw [oneOf, bind_ok any]
      rfl
    rw [Query.simple, bind_ok noParenthesis]
    simp only [Bool.false_eq_true, if_false]
    rw [bind_ok word]
    exact rows
  have more : items (Query.combination? inner) rest = .ok ([], rest) := by
    have lacks : ∀ word ∈ ["UNION", "EXCEPT", "INTERSECT"], Lacks word rest := by
      simpa using
        ⟨idle.lacks (by decide), idle.lacks (by decide), idle.lacks (by decide)⟩
    refine items_of_none ?_
    rw [Query.combination?, bind_ok (anyKeyword_of_lacks lacks)]
    rfl
  have order : inner.orderBy rest = .ok ([], rest) := by
    rw [Grammar.orderBy, Grammar.orderBy?, bind_ok ((idle.lacks (by decide)).clause?_eq _ _)]
    rfl
  have limit : RowLimit.read inner rest = .ok ([], rest) := by
    have extend : RowLimit.extend inner ⟨none, none⟩ rest = .ok (⟨none, none⟩, rest) := by
      have count : (Option.join <$> after "LIMIT" (RowLimit.count? inner)) rest
          = .ok (none, rest) := by
        rw [← bind_pure_comp, bind_ok ((idle.lacks (by decide)).after_eq _)]
        rfl
      have start : after "OFFSET" (RowLimit.offset inner) rest = .ok (none, rest) :=
        (idle.lacks (by decide)).after_eq _
      rw [RowLimit.extend]
      dsimp only
      rw [bind_ok count, bind_ok start]
      rfl
    rw [RowLimit.read, bind_ok extend, bind_ok extend]
    rfl
  have fetch : RowLimit.fetch rest = .ok ([], rest) := by
    rw [RowLimit.fetch, bind_ok (idle.lacks (by decide)).keyword_eq]
    rfl
  have purpose : Purpose.read rest = .ok ([], rest) := by
    have read : (get : Parser (List Token)) rest = .ok (rest, rest) := rfl
    have one : Purpose.one? rest = .ok (none, rest) := by
      rw [Purpose.one?, bind_ok (idle.lacks (by decide)).keyword_eq]
      rfl
    have within (bound : List Token) : Purpose.readWithin bound rest = .ok ([], rest) := by
      cases bound with
      | nil => rfl
      | cons last others =>
          rw [Purpose.readWithin, bind_ok one]
          rfl
    rw [Purpose.read, bind_ok read, within]
  rw [Query.selected, bind_ok simple, bind_ok more, bind_ok order, bind_ok limit, bind_ok fetch,
    bind_ok purpose]
  simp [pure_apply]

/-- A query of rows is read after the keyword for it. -/
theorem Query.read_apply {tokens : List Token} {phrase : Phrase} (idle : Idle rest)
    {spelling : Text} (valuesWord : Token.keyword (.word spelling) = "VALUES")
    (rows : Rows.read inner tokens = .ok (phrase, rest))
    : Query.read inner (.word spelling :: tokens) = .ok (phrase, rest) := by
  have lacks {word : String} (differs : "VALUES" ≠ word)
      : Lacks word (.word spelling :: tokens) :=
    lacks_of_keyword valuesWord differs
  have named : Query.namedQueries inner (.word spelling :: tokens)
      = .ok ([], .word spelling :: tokens) := by
    rw [Query.namedQueries, bind_ok ((lacks (by decide)).clause?_eq _ _)]
    rfl
  rw [Query.read, bind_ok named, bind_ok (lacks (by decide)).keyword_eq]
  simp only [Bool.false_eq_true, if_false]
  rw [bind_ok (lacks (by decide)).keyword_eq]
  simp only [Bool.false_eq_true, if_false]
  rw [bind_ok (Query.selected_apply idle valuesWord rows)]
  rfl

/-- A quoted name before a word is a name of one part. -/
theorem qualifiedName_quotedName (name word : Text) (tokens : List Token)
    : qualifiedName (.quotedName name :: .word word :: tokens)
      = .ok ([⟨name, some '`'⟩], .word word :: tokens) := by
  have part : namePart (.quotedName name :: .word word :: tokens)
      = .ok (⟨name, some '`'⟩, .word word :: tokens) := rfl
  have noDot : sign "." (.word word :: tokens) = .ok (false, .word word :: tokens) := by
    simp [sign_cons]
  have none : items (do if ← sign "." then return some (← namePart) else return none)
        (.word word :: tokens)
      = .ok ([], .word word :: tokens) :=
    items_of_none (bind_ok noDot)
  rw [qualifiedName, bind_ok part, bind_ok none]
  rfl

/-- What is added may be a query, with no columns and no partition before it. -/
theorem Change.added_apply {valuesWord : Text} {tokens : List Token} {rows : Phrase}
    (values : Token.keyword (.word valuesWord) = "VALUES")
    (query : inner.query (.word valuesWord :: tokens) = .ok (rows, rest))
    : Change.added inner (.word valuesWord :: tokens) = .ok (rows, rest) := by
  have lacks {word : String} (differs : "VALUES" ≠ word)
      : Lacks word (.word valuesWord :: tokens) :=
    lacks_of_keyword values differs
  have columns : Change.columns (.word valuesWord :: tokens)
      = .ok ([], .word valuesWord :: tokens) := by
    have noParenthesis : isSign "(" (.word valuesWord :: tokens)
        = .ok (false, .word valuesWord :: tokens) := by
      simp [isSign_cons]
    rw [Change.columns, bind_ok noParenthesis]
    rfl
  have partition : Change.partition inner (.word valuesWord :: tokens)
      = .ok ([], .word valuesWord :: tokens) := by
    rw [Change.partition, bind_ok ((lacks (by decide)).clause?_eq _ _)]
    rfl
  rw [Change.added, bind_ok ((lacks (by decide)).keywords_eq _)]
  simp only [Bool.false_eq_true, if_false]
  rw [bind_ok columns, bind_ok partition, bind_ok query]
  rfl

/-- Nothing is said of rows with a known key. -/
theorem Change.onDuplicate_apply (idle : Idle rest)
    : Change.onDuplicate inner rest = .ok ([], rest) := by
  rw [Change.onDuplicate, bind_ok (idle.lacks (by decide)).keyword_eq]
  rfl

/-- An insertion of rows into a table with a name of one part is read after its keyword. -/
theorem Change.insert_apply {intoWord valuesWord name : Text} {tokens : List Token}
    {rows : Phrase} (into : Token.keyword (.word intoWord) = "INTO")
    (values : Token.keyword (.word valuesWord) = "VALUES") (idle : Idle rest)
    (query : inner.query (.word valuesWord :: tokens) = .ok (rows, rest)) (keyword : String)
    : Change.insert inner keyword
          (.word intoWord :: .quotedName name :: .word valuesWord :: tokens)
      = .ok (.insert (.plain (Text.ofString keyword) ++ (" INTO" ++ " ")) [⟨name, some '`'⟩]
          (" " ++ rows), rest) := by
  have atInto {word : String} (differs : "INTO" ≠ word)
      : Lacks word (.word intoWord :: .quotedName name :: .word valuesWord :: tokens) :=
    lacks_of_keyword into differs
  have atName {word : String} (differs : "" ≠ word)
      : Lacks word (.quotedName name :: .word valuesWord :: tokens) :=
    lacks_of_keyword rfl differs
  have priority : spacedAny ["LOW_PRIORITY", "DELAYED", "HIGH_PRIORITY"]
        (.word intoWord :: .quotedName name :: .word valuesWord :: tokens)
      = .ok ([], .word intoWord :: .quotedName name :: .word valuesWord :: tokens) := by
    have none : anyKeyword ["LOW_PRIORITY", "DELAYED", "HIGH_PRIORITY"] _ = _ :=
      anyKeyword_of_lacks (by simpa using
        ⟨atInto (by decide), atInto (by decide), atInto (by decide)⟩)
    rw [spacedAny, bind_ok none]
    rfl
  have taken : spacedKeyword "INTO"
        (.word intoWord :: .quotedName name :: .word valuesWord :: tokens)
      = .ok (.spacedWord "INTO", .quotedName name :: .word valuesWord :: tokens) := by
    have found : Parser.keyword "INTO"
          (.word intoWord :: .quotedName name :: .word valuesWord :: tokens)
        = .ok (true, .quotedName name :: .word valuesWord :: tokens) := by
      simp [keyword_cons, into]
    rw [spacedKeyword, bind_ok found]
    rfl
  rw [Change.insert, bind_ok priority, bind_ok (atInto (by decide)).spacedKeyword_eq,
    bind_ok (atInto (by decide)).spacedKeyword_eq, bind_ok taken,
    bind_ok (atName (by decide)).spacedKeyword_eq, bind_ok (atName (by decide)).keyword_eq]
  simp only [Bool.false_eq_true, if_false]
  rw [bind_ok (atName (by decide)).spacedKeyword_eq, bind_ok (qualifiedName_quotedName _ _ _),
    bind_ok (Change.added_apply values query), Change.rowName,
    bind_ok ((idle.lacks (by decide)).clause_eq _ _), bind_ok (Change.onDuplicate_apply idle),
    Item.returned, bind_ok ((idle.lacks (by decide)).clause_eq _ _)]
  have spaced : Phrase.spacedWord "INTO" = (" INTO" : Phrase) := by
    simp only [Phrase.spacedWord, Text.ofString_eq]
    rfl
  simp [pure_apply, spaced]

-----------------------------------------------------------------------------------------
-- Statements
-----------------------------------------------------------------------------------------

/-- A statement that begins with the word for insertions is read as one. -/
theorem Statement.read_insert {spelling : Text}
    (insert : Token.keyword (.word spelling) = "INSERT") (tokens : List Token)
    : Statement.read inner (.word spelling :: tokens) = Change.insert inner "INSERT" tokens := by
  have lacks {word : String} (differs : "INSERT" ≠ word)
      : Lacks word (.word spelling :: tokens) :=
    lacks_of_keyword insert differs
  have noQuery : Parser.isKeyword ["SELECT", "WITH", "VALUES"] (.word spelling :: tokens)
      = .ok (false, .word spelling :: tokens) :=
    isKeyword_of_lacks (by simpa using ⟨lacks (by decide), lacks (by decide), lacks (by decide)⟩)
  have noParenthesis : isSign "(" (.word spelling :: tokens)
      = .ok (false, .word spelling :: tokens) := by
    simp [isSign_cons]
  rw [Statement.read, bind_ok noQuery, bind_ok noParenthesis]
  simp only [Bool.or_self, Bool.false_eq_true, if_false]
  rw [bind_ok next_cons, insert]
  rfl

/-- A statement that nothing or a semicolon follows is the only one. -/
theorem StatementList.read_single {statement : Parser Statement} {token : Token}
    {tokens : List Token} {value : Statement} (begins : token ≠ .sign ";")
    (read : statement (token :: tokens) = .ok (value, rest))
    (ends : rest = [] ∨ rest = [.sign ";"])
    : StatementList.read statement (token :: tokens) = .ok ([value], []) := by
  have none : StatementList.separators (token :: tokens) = .ok (false, token :: tokens) := by
    have noSign : sign ";" (token :: tokens) = .ok (false, token :: tokens) := by
      simp [sign_cons, begins]
    rw [StatementList.separators, bind_ok (items_of_none (bind_ok noSign))]
    rfl
  have more : atEnd (token :: tokens) = .ok (false, token :: tokens) := rfl
  have last : items (StatementList.following? statement) rest = .ok ([], []) := by
    rcases ends with rfl | rfl <;> rfl
  rw [StatementList.read, bind_ok none, bind_ok more]
  simp only [Bool.false_eq_true, if_false]
  rw [bind_ok read, bind_ok last]
  rfl

end DumpTransfer.Sql.Grammar
