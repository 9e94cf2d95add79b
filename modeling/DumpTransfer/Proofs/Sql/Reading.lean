import DumpTransfer.Sql.Parser

/-! Reading from known tokens. Each way of reading is given by what it yields and leaves, so that a
part of the grammar is followed along the tokens in front of it.
-/

namespace DumpTransfer.Sql.Parser

variable {tokens rest : List Token} {token : Token} {α β : Type}

-----------------------------------------------------------------------------------------
-- One after the other
-----------------------------------------------------------------------------------------

theorem bind_apply (reading : Parser α) (next : α → Parser β) (tokens : List Token)
    : (reading >>= next) tokens
      = match reading tokens with
        | .ok (value, rest) => next value rest
        | .error obstacle => .error obstacle := by
  change (reading tokens >>= fun read => next read.1 read.2) = _
  cases reading tokens <;> rfl

theorem pure_apply (value : α) (tokens : List Token)
    : (pure value : Parser α) tokens = .ok (value, tokens) :=
  rfl

/-- What is read by two ways of reading one after the other. -/
theorem bind_ok {reading : Parser α} {next : α → Parser β} {value : α}
    (read : reading tokens = .ok (value, rest))
    : (reading >>= next) tokens = next value rest := by
  rw [bind_apply, read]

theorem attempt_error {reading : Parser α} (refused : reading tokens = .error .form)
    : attempt reading tokens = .ok (none, tokens) := by
  rw [attempt, refused]

-----------------------------------------------------------------------------------------
-- The next token
-----------------------------------------------------------------------------------------

theorem next_cons
    : next (token :: rest) = .ok (token, rest) :=
  rfl

theorem peek?_apply (tokens : List Token)
    : peek? tokens = .ok (tokens.head?, tokens) := by
  cases tokens <;> rfl

theorem takeIf_apply (accepts : Token → Bool) (tokens : List Token)
    : takeIf accepts tokens
      = .ok (tokens.head?.any accepts,
          if tokens.head?.any accepts then tokens.tail else tokens) := by
  rw [takeIf, bind_ok (peek?_apply tokens)]
  cases tokens.head?.any accepts <;> rfl

theorem keyword_cons (word : String)
    : keyword word (token :: rest)
      = .ok (token.keyword = word, if token.keyword = word then rest else token :: rest) := by
  simp [keyword, takeIf_apply]

theorem sign_cons (spelling : String)
    : sign spelling (token :: rest)
      = .ok (token = .sign spelling,
          if token = .sign spelling then rest else token :: rest) := by
  simp [sign, takeIf_apply]

theorem isKeyword_cons (words : List String)
    : isKeyword words (token :: rest) = .ok (words.contains token.keyword, token :: rest) := by
  rw [isKeyword, bind_ok (peek?_apply _)]
  rfl

theorem isSign_cons (spelling : String)
    : isSign spelling (token :: rest) = .ok (token = .sign spelling, token :: rest) := by
  rw [isSign, bind_ok (peek?_apply _)]
  simp [pure_apply]

theorem anyKeyword_cons (words : List String)
    : anyKeyword words (token :: rest)
      = if words.contains token.keyword then .ok (some token.keyword, rest)
        else .ok (none, token :: rest) := by
  rw [anyKeyword, bind_ok (peek?_apply _)]
  dsimp only [List.head?_cons]
  split <;> rfl

/-- Another word than the given one comes next, or none. -/
def Lacks (word : String) (tokens : List Token) : Prop :=
  ∀ token ∈ tokens.head?, token.keyword ≠ word

theorem lacks_of_keyword {word other : String} (keyword : token.keyword = other)
    (differs : other ≠ word)
    : Lacks word (token :: rest) := by
  intro first head
  obtain rfl := Option.some.inj head
  rwa [keyword]

section

variable {word : String} {words : List String}

theorem Lacks.keyword_eq (lacks : Lacks word tokens)
    : keyword word tokens = .ok (false, tokens) := by
  cases tokens with
  | nil => rfl
  | cons token rest => simp [keyword_cons, lacks token rfl]

theorem isKeyword_of_lacks (lacks : ∀ word ∈ words, Lacks word tokens)
    : isKeyword words tokens = .ok (false, tokens) := by
  cases tokens with
  | nil => rfl
  | cons token rest =>
      have other : token.keyword ∉ words := fun member => lacks _ member token rfl rfl
      simp [isKeyword_cons, other]

theorem anyKeyword_of_lacks (lacks : ∀ word ∈ words, Lacks word tokens)
    : anyKeyword words tokens = .ok (none, tokens) := by
  cases tokens with
  | nil => rfl
  | cons token rest =>
      have other : token.keyword ∉ words := fun member => lacks _ member token rfl rfl
      simp [anyKeyword_cons, other]

theorem Lacks.keywords_eq (lacks : Lacks word tokens) (words : List String)
    : keywords (word :: words) tokens = .ok (false, tokens) := by
  have refused : afterKeywords? (word :: words) tokens = none := by
    cases tokens with
    | nil => rfl
    | cons token rest => simp [afterKeywords?, lacks token rfl]
  have read : (get : Parser (List Token)) tokens = .ok (tokens, tokens) := rfl
  rw [keywords, bind_ok read, refused]
  rfl

/-- A clause that is not there is read as none. -/
theorem Lacks.clause?_eq (lacks : Lacks word tokens) (words : List String)
    (reading : Parser Phrase)
    : clause? (word :: words) reading tokens = .ok (none, tokens) := by
  rw [clause?, bind_ok (lacks.keywords_eq words)]
  rfl

theorem Lacks.clause_eq (lacks : Lacks word tokens) (words : List String)
    (reading : Parser Phrase)
    : clause (word :: words) reading tokens = .ok ([], tokens) := by
  rw [clause, bind_ok (lacks.clause?_eq words reading)]
  rfl

theorem Lacks.after_eq (lacks : Lacks word tokens) (reading : Parser α)
    : after word reading tokens = .ok (none, tokens) := by
  rw [after, bind_ok lacks.keyword_eq]
  rfl

theorem Lacks.spacedKeyword_eq (lacks : Lacks word tokens)
    : spacedKeyword word tokens = .ok ([], tokens) := by
  rw [spacedKeyword, bind_ok lacks.keyword_eq]
  rfl

end

/-- No keyword comes next. -/
def Idle (tokens : List Token) : Prop :=
  ∀ token ∈ tokens.head?, token.keyword = ""

theorem Idle.lacks (idle : Idle tokens) {word : String} (isThere : word ≠ "")
    : Lacks word tokens :=
  fun token head same => isThere (same.symm.trans (idle token head))

-----------------------------------------------------------------------------------------
-- Items
-----------------------------------------------------------------------------------------

/-- Items that stand one after the other, each of which takes tokens, up to where there is none. -/
inductive Repeats (item : Parser (Option α)) : List Token → List α → List Token → Prop where
  | stop {tokens : List Token} (ended : item tokens = .ok (none, tokens))
      : Repeats item tokens [] tokens
  | more {tokens middle rest : List Token} {first : α} {others : List α}
      (read : item tokens = .ok (some first, middle)) (shorter : middle.length < tokens.length)
      (later : Repeats item middle others rest)
      : Repeats item tokens (first :: others) rest

theorem items_of_repeats {item : Parser (Option α)} {values : List α}
    (repeats : Repeats item tokens values rest)
    : items item tokens = .ok (values, rest) := by
  have within (bound : List Token) (enough : tokens.length ≤ bound.length)
      : itemsWithin item bound tokens = .ok (values, rest) := by
    induction repeats generalizing bound with
    | stop ended =>
        cases bound with
        | nil => rfl
        | cons last others =>
            rw [itemsWithin, bind_ok ended]
            rfl
    | more read shorter later ih =>
        cases bound with
        | nil => exact absurd shorter (by simp_all)
        | cons last others =>
            rw [List.length_cons] at enough
            rw [itemsWithin, bind_ok read]
            dsimp only
            rw [bind_ok (ih others (by omega))]
            rfl
  have read : (get : Parser (List Token)) tokens = .ok (tokens, tokens) := rfl
  rw [items, bind_ok read]
  exact within tokens (Nat.le_refl _)

/-- There are no items where the first is not there. -/
theorem items_of_none {item : Parser (Option α)} (ended : item tokens = .ok (none, tokens))
    : items item tokens = .ok ([], tokens) :=
  items_of_repeats (.stop ended)

/-- Parts with commas between them. -/
def commaJoined : List (List Token) → List Token
  | [] => []
  | [last] => last
  | first :: second :: others => first ++ .sign "," :: commaJoined (second :: others)

/-- The same after a first part, with a comma before each. -/
def commaLed : List (List Token) → List Token :=
  List.flatMap (.sign "," :: ·)

theorem commaJoined_cons (first : List Token) (others : List (List Token))
    : commaJoined (first :: others) = first ++ commaLed others := by
  induction others generalizing first with
  | nil => simp [commaJoined, commaLed]
  | cons second more ih =>
      rw [commaJoined, ih second]
      rfl

section

variable {item : Parser α} {part : β → List Token} {value : β → α}

/-- An item is read from its part where a comma or the given tokens come next. -/
def ReadsBefore (item : Parser α) (part : β → List Token) (value : β → α) (rest : List Token)
    (entry : β) : Prop :=
  ∀ after, after.head? = some (.sign ",") ∨ after = rest →
    item (part entry ++ after) = .ok (value entry, after)

theorem follows_commaLed (parts : List (List Token)) (rest : List Token)
    : (commaLed parts ++ rest).head? = some (.sign ",") ∨ commaLed parts ++ rest = rest := by
  cases parts with
  | nil => exact Or.inr rfl
  | cons first others => exact Or.inl rfl

theorem repeats_commaLed {entries : List β}
    (reads : ∀ entry ∈ entries, ReadsBefore item part value rest entry)
    (stop : rest.head? ≠ some (.sign ","))
    : Repeats (do if ← sign "," then return some (← item) else return none)
        (commaLed (entries.map part) ++ rest) (entries.map value) rest := by
  induction entries with
  | nil =>
      refine .stop ?_
      have noComma : sign "," rest = .ok (false, rest) := by
        cases rest with
        | nil => rfl
        | cons token more =>
            have other : token ≠ .sign "," := fun same => stop (congrArg some same)
            simp [sign_cons, other]
      exact bind_ok noComma
  | cons entry others ih =>
      have later := ih fun other member => reads other (by simp [member])
      have comma : sign "," (.sign "," :: (part entry ++ (commaLed (others.map part) ++ rest)))
          = .ok (true, part entry ++ (commaLed (others.map part) ++ rest)) := by
        simp [sign_cons]
      have read := reads entry (by simp) _ (follows_commaLed (others.map part) rest)
      have same : commaLed ((entry :: others).map part) ++ rest
          = .sign "," :: (part entry ++ (commaLed (others.map part) ++ rest)) := by
        simp [commaLed]
      rw [same]
      refine .more ?_ (by simp only [List.length_cons, List.length_append]; omega) later
      rw [bind_ok comma]
      exact bind_ok read

/-- Items are read one by one from parts with commas between them. -/
theorem commaSeparated_joined {entries : List β} (isThere : entries ≠ [])
    (reads : ∀ entry ∈ entries, ReadsBefore item part value rest entry)
    (stop : rest.head? ≠ some (.sign ","))
    : commaSeparated item (commaJoined (entries.map part) ++ rest)
      = .ok (entries.map value, rest) := by
  obtain ⟨first, others, rfl⟩ := List.exists_cons_of_ne_nil isThere
  have readFirst := reads first (by simp) _ (follows_commaLed (others.map part) rest)
  have readOthers : ∀ other ∈ others, ReadsBefore item part value rest other :=
    fun other member => reads other (by simp [member])
  rw [List.map_cons, commaJoined_cons, List.append_assoc, commaSeparated, bind_ok readFirst,
    bind_ok (items_of_repeats (repeats_commaLed readOthers stop))]
  rfl

end

end DumpTransfer.Sql.Parser
