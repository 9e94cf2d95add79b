import DumpTransfer.Proofs.ForeignKey.Actions
import DumpTransfer.Proofs.Warehouse.Destinations

/-! Statements about tables and foreign keys, read from left to right. Whatever characters their
names have, the names are read as they were given and the text between them is the fixed one, so a
statement says nothing but what it was made to say.
-/

namespace DumpTransfer

-----------------------------------------------------------------------------------------
-- Readers
-----------------------------------------------------------------------------------------

/-- What takes the beginning of a text and leaves the rest. -/
abbrev Reader :=
  StateT Text Option

namespace Reader

variable {α β : Type} {first : Reader α} {next : α → Reader β} {value : α} {result : β}
variable {text more rest : Text}

/-- A text is taken as a value before another text. -/
def Reads (reader : Reader α) (text : Text) (value : α) (rest : Text) : Prop :=
  reader.run (text ++ rest) = some (value, rest)

/-- A text is taken as a value, and nothing is left of it. -/
def ReadsAll (reader : Reader α) (text : Text) (value : α) : Prop :=
  reader.run text = some (value, [])

theorem Reads.bind (reads : first.Reads text value (more ++ rest))
    (readsNext : (next value).Reads more result rest)
    : (first >>= next).Reads (text ++ more) result rest := by
  rw [Reads, List.append_assoc, StateT.run_bind, reads]
  exact readsNext

/-- What is made of a value does not change what is taken. -/
theorem Reads.map (reads : first.Reads text value rest) (make : α → β)
    : (first >>= fun value => pure (make value)).Reads text (make value) rest := by
  rw [Reads, StateT.run_bind, reads]
  rfl

theorem Reads.orElse (reads : first.Reads text value rest) (second : Reader α)
    : (first <|> second).Reads text value rest := by
  change (first.run _ <|> second.run _) = _
  rw [reads]
  rfl

theorem Reads.of_orElse {second : Reader α} (misses : first.run (text ++ rest) = none)
    (reads : second.Reads text value rest)
    : (first <|> second).Reads text value rest := by
  change (first.run _ <|> second.run _) = _
  rw [misses]
  exact reads

theorem Reads.all (reads : first.Reads text value [])
    : first.ReadsAll text value := by
  rwa [Reads, List.append_nil] at reads

theorem run_bind_of_none (misses : first.run text = none) (next : α → Reader β)
    : (first >>= next).run text = none := by
  rw [StateT.run_bind, misses]
  rfl

/-- Fixed words. -/
def words (expected : Text) : Reader Unit :=
  fun text => (Text.dropPrefix? text expected).map fun rest => ((), rest)

/-- A name of several parts. -/
def objectName : Reader (List Text) :=
  Sql.ObjectName.read?

/-- A name of one part. -/
def identifier : Reader Text :=
  Sql.ObjectName.readPart

/-- At most the given number of names after the first of a list, and the parenthesis that closes it.
-/
def identifiersAfter : Nat → Reader (List Text)
  | 0 => failure
  | bound + 1 =>
      (do
        words ")"
        return [])
      <|> (do
        words ", "
        let first ← identifier
        let others ← identifiersAfter bound
        return first :: others)

/-- Names with commas between them, and the parenthesis that closes the list. -/
def identifiers : Reader (List Text) :=
  (do
    words ")"
    return [])
  <|> (do
    let first ← identifier
    let rest ← get
    let others ← identifiersAfter rest.length
    return first :: others)

/-- The first of several phrases. -/
def oneOf : List Text → Reader Text
  | [] => failure
  | phrase :: others =>
      (do
        words phrase
        return phrase)
      <|> oneOf others

/-- What is done to rows in an event, if anything is said of it. -/
def action (event : String) : Reader (Option Text) :=
  (do
    words (" ON " ++ event ++ " ")
    let found ← oneOf ForeignKey.actions
    return some found)
  <|> return none

theorem words_reads (expected rest : Text)
    : (words expected).Reads expected () rest := by
  simp [Reads, words, StateT.run, Text.dropPrefix?_append]

/-- Texts that differ in a character before one of them ends. -/
def Differ (text expected : Text) : Prop :=
  ∃ pair ∈ text.zip expected, pair.1 ≠ pair.2

instance (text expected : Text) : Decidable (Differ text expected) :=
  inferInstanceAs (Decidable (∃ pair ∈ text.zip expected, pair.1 ≠ pair.2))

/-- Words are missed where other characters stand. -/
theorem words_run_eq_none {expected : Text} (differ : Differ text expected) (rest : Text)
    : (words expected).run (text ++ rest) = none := by
  have none : Text.dropPrefix? (text ++ rest) expected = none := by
    obtain ⟨pair, member, other⟩ := differ
    refine Option.eq_none_iff_forall_ne_some.mpr fun left dropped => ?_
    rw [Text.dropPrefix?_eq_some_iff] at dropped
    obtain ⟨index, found⟩ := List.mem_iff_getElem?.mp member
    obtain ⟨inText, inExpected⟩ := List.getElem?_zip_eq_some.mp found
    have same := congrArg (·[index]?) dropped
    simp only [List.getElem?_append_left (List.getElem?_eq_some_iff.mp inText).1,
      List.getElem?_append_left (List.getElem?_eq_some_iff.mp inExpected).1] at same
    exact other (Option.some.inj (inText.symm.trans (same.trans inExpected)))
  simp [words, StateT.run, none]

theorem objectName_reads (target : Destination) (table : Text)
    (ends : Sql.ObjectName.EndsName rest)
    : objectName.Reads (target.qualify table) (target.partsOf table) rest :=
  target.read?_qualify table ends

theorem identifier_reads (written : Text) (ends : Sql.ObjectName.EndsName rest)
    : identifier.Reads (Identifier.quote written) written rest :=
  (Sql.ObjectName.Part.quoted written).readPart_written ends.noQuote ends.noPart

-----------------------------------------------------------------------------------------
-- Lists and choices
-----------------------------------------------------------------------------------------

/-- What is written after the first name of a list. -/
def othersText (names : List Text) : Text :=
  (names.flatMap fun other => Text.ofString ", " ++ Identifier.quote other) ++ ")"

theorem othersText_cons (other : Text) (names : List Text)
    : othersText (other :: names)
      = Text.ofString ", " ++ (Identifier.quote other ++ othersText names) := by
  simp [othersText]

theorem quoteAll_cons (first : Text) (names : List Text)
    : Identifier.quoteAll (first :: names) ++ Text.ofString ")"
      = Identifier.quote first ++ othersText names := by
  induction names generalizing first with
  | nil => simp [Identifier.quoteAll, Text.joinWith, othersText]
  | cons second more ih =>
      rw [othersText_cons, ← ih second]
      simp [Identifier.quoteAll, Text.joinWith]

/-- A name in a list ends before a comma or a parenthesis. -/
theorem exists_othersText (names : List Text)
    : ∃ sign more, othersText names = sign :: more ∧ (sign = ',' ∨ sign = ')') := by
  cases names with
  | nil => exact ⟨')', [], by simp [othersText, Text.ofString_eq], .inr rfl⟩
  | cons other more => exact ⟨',', _, by rw [othersText_cons, Text.ofString_eq]; rfl, .inl rfl⟩

theorem identifier_reads_before (written : Text) (names : List Text) (rest : Text)
    : identifier.Reads (Identifier.quote written) written (othersText names ++ rest) := by
  obtain ⟨sign, more, begins, kind⟩ := exists_othersText names
  rw [begins, List.cons_append]
  have apart : Alphabet.isAsciiBlank sign = false ∧ sign ≠ '.' ∧ sign ≠ '"'
      ∧ Sql.ObjectName.isWordPart sign = false := by
    rcases kind with rfl | rfl <;> decide
  refine identifier_reads written ⟨by simpa using apart.2.2.1, by simpa using apart.2.2.2, ?_⟩
  simpa [List.dropWhile, apart.1] using apart.2.1

theorem length_lt_othersText (names : List Text)
    : names.length < (othersText names).length := by
  induction names with
  | nil => simp [othersText, Text.ofString_eq]
  | cons other more ih =>
      simp only [othersText_cons, Text.ofString_eq, List.length_append, List.length_cons]
      simp
      omega

/-- By induction over the names that come after the first. -/
theorem identifiersAfter_reads {names : List Text} {bound : Nat} (enough : names.length < bound)
    (rest : Text)
    : (identifiersAfter bound).Reads (othersText names) names rest := by
  induction names generalizing bound with
  | nil =>
      cases bound with
      | zero => cases enough
      | succ bound => exact ((words_reads ")" rest).map fun _ => []).orElse _
  | cons other more ih =>
      cases bound with
      | zero => cases enough
      | succ bound =>
          have goesOn : (words ")").run (othersText (other :: more) ++ rest) = none := by
            rw [othersText_cons, List.append_assoc]
            exact words_run_eq_none (by decide +kernel) _
          have later := (ih (Nat.lt_of_succ_lt_succ enough)).map (other :: ·)
          rw [othersText_cons] at goesOn ⊢
          exact .of_orElse (run_bind_of_none goesOn _)
            ((words_reads _ _).bind ((identifier_reads_before other more rest).bind later))

theorem identifiers_read (names : List Text) (rest : Text)
    : identifiers.Reads (Identifier.quoteAll names ++ ")") names rest := by
  cases names with
  | nil => exact ((words_reads ")" rest).map fun _ => []).orElse _
  | cons first more =>
      have goesOn : (words ")").run (Identifier.quote first ++ othersText more ++ rest) = none := by
        have begins : Identifier.quote first ++ othersText more ++ rest
            = ['"'] ++ (Text.doubling '"' first ++ ['"'] ++ othersText more ++ rest) := by
          simp [Identifier.quote]
        rw [begins]
        exact words_run_eq_none (by decide +kernel) _
      have enough : more.length < (othersText more ++ rest).length := by
        have shorter := length_lt_othersText more
        rw [List.length_append]
        omega
      have others := (identifiersAfter_reads enough rest).map (first :: ·)
      have bounded : Reads (do
          let rest ← get
          let others ← identifiersAfter rest.length
          return first :: others) (othersText more) (first :: more) rest := others
      rw [quoteAll_cons]
      exact .of_orElse (run_bind_of_none goesOn _)
        ((identifier_reads_before first more rest).bind bounded)

/-- A phrase is read if the phrases before it differ from it. -/
theorem oneOf_reads {phrases : List Text} {found : Text} (member : found ∈ phrases)
    (differ : phrases.Pairwise fun first second => Differ second first) (rest : Text)
    : (oneOf phrases).Reads found found rest := by
  induction phrases with
  | nil => cases member
  | cons phrase others ih =>
      obtain ⟨first, later⟩ := List.pairwise_cons.mp differ
      rcases List.mem_cons.mp member with rfl | isLater
      · exact ((words_reads found rest).map fun _ => found).orElse _
      · have misses := words_run_eq_none (first found isLater) rest
        exact .of_orElse (run_bind_of_none misses _) (ih isLater later)

theorem action_reads (event : String) {found : Text} (member : found ∈ ForeignKey.actions)
    (rest : Text)
    : (action event).Reads (ForeignKey.actionClause event (some found)) (some found) rest := by
  have differ : ForeignKey.actions.Pairwise fun first second => Differ second first := by
    decide +kernel
  refine Reads.orElse ?_ _
  exact (words_reads (" ON " ++ event ++ " ") _).bind ((oneOf_reads member differ rest).map some)

theorem no_action_reads (event : String) {next rest : Text}
    (differ : Differ next (" ON " ++ event ++ " "))
    : (action event).Reads [] none (next ++ rest) :=
  .of_orElse (run_bind_of_none (words_run_eq_none differ rest) _) rfl

end Reader

namespace ForeignKey

open Reader

-----------------------------------------------------------------------------------------
-- Statements
-----------------------------------------------------------------------------------------

/-- What a statement that attaches a foreign key says. -/
structure Attaching where
  table : List Text
  name : Text
  columns : List Text
  referenced : List Text
  referencedColumns : List Text
  onDelete : Option Text
  onUpdate : Option Text
  deriving DecidableEq

/-- A statement that attaches a foreign key. -/
def attaching : Reader Attaching := do
  words "ALTER TABLE "
  let table ← objectName
  words " ADD CONSTRAINT "
  let name ← identifier
  words " FOREIGN KEY ("
  let columns ← identifiers
  words " REFERENCES "
  let referenced ← objectName
  words " ("
  let referencedColumns ← identifiers
  let onDelete ← action "DELETE"
  let onUpdate ← action "UPDATE"
  words " NOT VALID"
  return { table, name, columns, referenced, referencedColumns, onDelete, onUpdate }

/-- A statement that checks a foreign key: the table and the name. -/
def checking : Reader (List Text × Text) := do
  words "ALTER TABLE "
  let table ← objectName
  words " VALIDATE CONSTRAINT "
  let name ← identifier
  return (table, name)

/-- A statement that creates a schema. -/
def creating : Reader Text := do
  words "CREATE SCHEMA IF NOT EXISTS "
  identifier

/-- A statement that removes a table. -/
def removing : Reader (List Text) := do
  words "DROP TABLE IF EXISTS "
  let table ← objectName
  words " CASCADE"
  return table

/-- What the statement that attaches a foreign key is to say. The other table is in the schema of
its database, if one is given, under the same catalog.
-/
def said (key : ForeignKey) (target : Destination) : Attaching where
  table := target.partsOf key.table
  name := key.name
  columns := key.columns
  referenced :=
    Destination.partsOf ⟨target.catalog, key.referencedDatabase.getD target.schema⟩
      key.referencedTable
  referencedColumns := key.referencedColumns
  onDelete := key.onDelete
  onUpdate := key.onUpdate

/-- The actions are such as are found in definitions of tables. -/
def HasFoundActions (key : ForeignKey) : Prop :=
  ∀ action, key.onDelete = some action ∨ key.onUpdate = some action →
    ∃ definition table other, other ∈ ofDefinition definition table
      ∧ (other.onDelete = some action ∨ other.onUpdate = some action)

theorem HasFoundActions.known {key : ForeignKey} (found : key.HasFoundActions)
    : (∀ action ∈ key.onDelete, action ∈ actions) ∧ ∀ action ∈ key.onUpdate, action ∈ actions := by
  have known (action : Text) (isThere : key.onDelete = some action ∨ key.onUpdate = some action)
      : action ∈ actions := by
    obtain ⟨definition, table, other, member, same⟩ := found action isThere
    obtain ⟨onDelete, onUpdate⟩ := actions_of_mem_ofDefinition member
    exact same.elim (onDelete action) (onUpdate action)
  exact ⟨fun action isThere => known action (.inl isThere),
    fun action isThere => known action (.inr isThere)⟩

/-- The other table is written in the schema that is meant. -/
theorem referencedName_eq {configured : Option Text} {database : Text} {target : Destination}
    (found : Destination.of? configured database = .ok target) {key : ForeignKey}
    {referenced : Text} (named : key.referencedName target = .ok referenced)
    : referenced
      = Destination.qualify ⟨target.catalog, key.referencedDatabase.getD target.schema⟩
          key.referencedTable := by
  unfold referencedName at named
  cases given : key.referencedDatabase with
  | none =>
      rw [given] at named
      exact (Except.ok.inj named).symm
  | some other =>
      rw [given] at named
      dsimp only at named
      split at named
      · rename_i same
        rw [Option.getD_some, same]
        exact (Except.ok.inj named).symm
      · cases into : Destination.of? target.catalog other with
        | error failure =>
            rw [into] at named
            cases named
        | ok elsewhere =>
            rw [into] at named
            obtain rfl := Except.ok.inj named
            have catalog : Destination.catalogOf target.catalog = target.catalog := by
              rw [Destination.catalog_of found, Destination.catalogOf_catalogOf]
            rw [Destination.eq_of_of? into, catalog]
            rfl

/-- Names end before a space and a word. -/
theorem endsName_words {words : String} {char : Char} {more : List Char}
    (spelled : words.toList = ' ' :: char :: more)
    (apart : Alphabet.isAsciiBlank char = false ∧ char ≠ '.') (text rest : Text)
    : Sql.ObjectName.EndsName (Text.ofString words ++ text ++ rest) := by
  rw [Text.ofString_eq, spelled]
  refine ⟨by simp, by simpa using by decide, ?_⟩
  have blank : Alphabet.isAsciiBlank ' ' = true := by decide
  simpa [List.dropWhile, blank, apart.1] using apart.2

/-- What is said of actions is read, be there two of them, one or none. -/
theorem actionClauses_read {onDelete onUpdate : Option Text}
    (knownDelete : ∀ action ∈ onDelete, action ∈ actions)
    (knownUpdate : ∀ action ∈ onUpdate, action ∈ actions)
    (rest : Text)
    : (action "DELETE").Reads (actionClause "DELETE" onDelete) onDelete
          (actionClause "UPDATE" onUpdate ++ Text.ofString " NOT VALID" ++ rest)
      ∧ (action "UPDATE").Reads (actionClause "UPDATE" onUpdate) onUpdate
          (Text.ofString " NOT VALID" ++ rest) := by
  constructor
  · cases onDelete with
    | some found => exact action_reads "DELETE" (knownDelete found rfl) _
    | none =>
        cases onUpdate with
        | none =>
            change (action "DELETE").Reads [] none (Text.ofString " NOT VALID" ++ rest)
            exact no_action_reads "DELETE" (by decide +kernel)
        | some found =>
            have begins : actionClause "UPDATE" (some found) ++ Text.ofString " NOT VALID" ++ rest
                = Text.ofString " ON " ++ Text.ofString "UPDATE"
                  ++ (Text.ofString " " ++ found ++ Text.ofString " NOT VALID" ++ rest) := by
              simp [actionClause]
            rw [begins]
            exact no_action_reads "DELETE" (by decide +kernel)
  · cases onUpdate with
    | some found => exact action_reads "UPDATE" (knownUpdate found rfl) _
    | none => exact no_action_reads "UPDATE" (by decide +kernel)

/-- A statement that attaches a foreign key says what it is to say. -/
theorem attaching_reads {configured : Option Text} {database : Text} {target : Destination}
    (found : Destination.of? configured database = .ok target) {key : ForeignKey}
    (known : key.HasFoundActions) {statement : Text}
    (attaches : key.attachStatement target = .ok statement)
    : attaching.ReadsAll statement (key.said target) := by
  unfold attachStatement at attaches
  cases named : key.referencedName target with
  | error failure =>
      rw [named] at attaches
      cases attaches
  | ok referenced =>
      rw [named] at attaches
      obtain rfl := Except.ok.inj attaches
      have other := referencedName_eq found named
      have ⟨deletes, updates⟩ := actionClauses_read known.known.1 known.known.2 []
      have reads : attaching.Reads ("ALTER TABLE " ++ (target.qualify key.table
          ++ (" ADD CONSTRAINT " ++ (Identifier.quote key.name ++ (" FOREIGN KEY ("
          ++ (Identifier.quoteAll key.columns ++ ")" ++ (" REFERENCES " ++ (referenced
          ++ (" (" ++ (Identifier.quoteAll key.referencedColumns ++ ")"
          ++ (actionClause "DELETE" key.onDelete ++ (actionClause "UPDATE" key.onUpdate
          ++ " NOT VALID")))))))))))) (key.said target) [] := by
        rw [other]
        exact (words_reads _ _).bind <|
          (objectName_reads _ _ (endsName_words rfl (by decide) _ _)).bind <|
          (words_reads _ _).bind <|
          (identifier_reads _ (endsName_words rfl (by decide) _ _)).bind <|
          (words_reads _ _).bind <| (identifiers_read _ _).bind <| (words_reads _ _).bind <|
          (objectName_reads _ _ (endsName_words rfl (by decide) _ _)).bind <|
          (words_reads _ _).bind <| (identifiers_read _ _).bind <| deletes.bind <|
          updates.bind <| (words_reads _ _).map _
      have joined : Text.ofString ") REFERENCES "
          = Text.ofString ")" ++ Text.ofString " REFERENCES " := by
        simp only [Text.ofString_eq]
        rfl
      simpa [joined] using reads.all

theorem checking_reads (key : ForeignKey) (target : Destination)
    : checking.ReadsAll (key.checkStatement target) (target.partsOf key.table, key.name) := by
  have reads : checking.Reads ("ALTER TABLE " ++ (target.qualify key.table
      ++ (" VALIDATE CONSTRAINT " ++ Identifier.quote key.name)))
      (target.partsOf key.table, key.name) [] :=
    (words_reads _ _).bind <| (objectName_reads _ _ (endsName_words rfl (by decide) _ _)).bind <|
      (words_reads _ _).bind <| (identifier_reads _ .nil).map _
  simpa [checkStatement] using reads.all

theorem creating_reads (target : Destination)
    : creating.ReadsAll target.creationStatement target.schema :=
  ((words_reads "CREATE SCHEMA IF NOT EXISTS " _).bind (identifier_reads _ .nil)).all

theorem removing_reads (target : Destination) (table : Text)
    : removing.ReadsAll ("DROP TABLE IF EXISTS " ++ target.qualify table ++ " CASCADE")
        (target.partsOf table) := by
  have reads : removing.Reads ("DROP TABLE IF EXISTS " ++ (target.qualify table ++ " CASCADE"))
      (target.partsOf table) [] := by
    have ends : Sql.ObjectName.EndsName (Text.ofString " CASCADE" ++ [] ++ []) :=
      endsName_words rfl (by decide) [] []
    rw [List.append_nil] at ends
    exact (words_reads _ _).bind <| (objectName_reads _ _ ends).bind <| (words_reads _ _).map _
  simpa using reads.all

/-- Statements are read back as they are meant, and nothing is left of them: those that attach a
foreign key to a table of a database or check it, those that create the database's schema, and those
that remove a table. No two tables are written alike.
-/
theorem statements_read_back
    : (∀ (configured : Option Text) (database : Text) (target : Destination),
          Destination.of? configured database = .ok target →
            ∀ key : ForeignKey, key.HasFoundActions →
              ∀ statement, key.attachStatement target = .ok statement →
                attaching.ReadsAll statement (key.said target))
      ∧ (∀ (key : ForeignKey) (target : Destination),
          checking.ReadsAll (key.checkStatement target) (target.partsOf key.table, key.name))
      ∧ (∀ target : Destination, creating.ReadsAll target.creationStatement target.schema)
      ∧ (∀ (target : Destination) (table : Text),
          removing.ReadsAll ("DROP TABLE IF EXISTS " ++ target.qualify table ++ " CASCADE")
            (target.partsOf table))
      ∧ ∀ (left right : Destination) (table other : Text),
          left.qualify table = right.qualify other → left = right ∧ table = other :=
  ⟨fun _ _ _ found _ known _ attaches => attaching_reads found known attaches, checking_reads,
    creating_reads, removing_reads, fun _ _ _ _ => Destination.qualify_injective⟩

/-- A schema whose name would end a quoted name. -/
def hostileTarget : Destination :=
  ⟨some "Leg.acy", "x\" DROP TABLE"⟩

/-- A foreign key whose names hold quotes, dots, parentheses, commas and words of statements. -/
def hostileKey : ForeignKey where
  name := "\" FOREIGN KEY (\""
  table := "a\".\"b"
  columns := ["c\", \"d", ")", []]
  referencedDatabase := some "NOT VALID"
  referencedTable := "\"; --"
  referencedColumns := ["\") ON DELETE CASCADE"]
  onDelete := some "SET NULL"
  onUpdate := none

/-- Witness: the statement for such a key, with an action from a definition. -/
theorem hostile_names_read_back
    : ∃ statement, hostileKey.attachStatement hostileTarget = .ok statement
        ∧ attaching.ReadsAll statement (hostileKey.said hostileTarget) := by
  have target : Destination.of? (some "Leg.acy") "x\" DROP TABLE" = .ok hostileTarget := by
    decide +kernel
  have declared : (ofDefinition
      "`a` int, FOREIGN KEY (`a`) REFERENCES `b` (`c`) on delete Set  NULL" "t").map
        (·.onDelete) = [some (Text.ofString "SET NULL")] := by
    decide +kernel
  have found : hostileKey.HasFoundActions := by
    rintro action (isThere | isThere)
    · obtain ⟨other, member, same⟩ := List.mem_map.mp (declared ▸ List.mem_singleton_self _)
      exact ⟨_, _, other, member, .inl (same.trans isThere)⟩
    · cases isThere
  cases attaches : hostileKey.attachStatement hostileTarget with
  | error failure =>
      have succeeds : (hostileKey.attachStatement hostileTarget).toOption.isSome = true := by
        decide +kernel
      rw [attaches] at succeeds
      cases succeeds
  | ok statement =>
      exact ⟨statement, rfl, statements_read_back.1 _ _ _ target _ found _ attaches⟩

end ForeignKey

end DumpTransfer
