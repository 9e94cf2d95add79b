import DumpTransfer.Proofs.Conversion.HeadingLiterals

/-! Tables of statements in their target. What the scanner recognizes as a statement about a table
is adapted and completed with its words kept, those for insertions apart, and with the target in
front of the name.
-/

namespace DumpTransfer.Conversion.Heading

open Sql

variable {heading : Heading} {name : Name} {statement tail : Text}

-----------------------------------------------------------------------------------------
-- Insertions
-----------------------------------------------------------------------------------------

theorem completed_of_ne (other : heading.act.kind ≠ .insert)
    : heading.completed = heading := by
  obtain ⟨act, between⟩ := heading
  cases act with
  | create _ _ _ _ | drop _ _ _ => rfl
  | insert _ _ _ | replace _ _ _ => exact absurd rfl other

/-- What is said in the end of an insertion follows its name like any other word. -/
theorem follows_clause
    : Follows (Text.ofString " ON CONFLICT DO NOTHING") := by
  rw [Text.ofString_eq]
  exact follows_word (by simp) blank_space (by decide : 'O'.isAlpha = true ∧ 'O'.toUpper ≠ 'X') _

/-- Insertions begin with the words of the warehouse once they are adapted. -/
theorem BeginsWith.adaptInsertion (begins : BeginsWith (heading.opening name) statement)
    (kind : heading.act.kind = .insert)
    : BeginsWith (heading.completed.opening name) (Completion.adaptInsertion statement).1 := by
  obtain ⟨tail, rfl, follows⟩ := begins
  have same (heading : Heading)
      : heading.text ++ (name.written '"' ++ tail) = heading.opening name ++ tail := by
    rw [opening, List.append_assoc]
  rw [← same]
  rcases heading.adaptInsertion_heading kind (name.written '"' ++ tail) with plain | lenient
  · rw [plain, same]
    exact ⟨tail, rfl, follows⟩
  · have tight := heading.completed.tight_opening name
    obtain ⟨left, dropped, starts⟩ := tight.exists_dropTerminator tail
    have shorter := (Text.trimEnd_prefix left).trans starts
    rw [lenient, same, dropped, tight.trimEnd_eq, List.append_assoc]
    exact ⟨_, rfl, (follows.of_shorter shorter).append follows_clause⟩

-----------------------------------------------------------------------------------------
-- Placing names
-----------------------------------------------------------------------------------------

/-- A name is read as it was written. -/
theorem Name.readPart (name : Name) (follows : Follows tail)
    : ObjectName.readPart (name.written '"' ++ tail) = some (name.value, tail) := by
  cases name with
  | quoted value isThere =>
      simpa [written, Name.value, nameText, ObjectName.readPart] using
        ObjectName.readQuoted_doubling value (follows.no_quote (Or.inr rfl))
  | bare first more isStart areParts noGuard =>
      have parts : ∀ char ∈ first :: more, ObjectName.isWordPart char = true :=
        fun char member => holds_of_isBarePart ObjectName.isWordPart (by decide +kernel)
          (bare_parts isStart areParts char member)
      have start : ObjectName.isWordStart first = true := by
        have either := holds_of_isBarePart (fun char => char = '$' || ObjectName.isWordStart char)
          (by decide +kernel) isStart.1
        simpa [isStart.2] using either
      have stop : ∀ char ∈ tail.head?, ObjectName.isWordPart char = false := by
        intro char head
        rcases follows.head char head with blank | mark
        · exact (apart_of_isBlank blank).2.1
        · exact (Insertion.isNamePart_of_isSign (by simp [Insertion.isSign, mark])).1
      rw [written, ObjectName.readPart_word (by simpa using start) stop,
        List.takeWhile_eq_self_iff.mpr parts, List.dropWhile_eq_nil_iff.mpr parts]
      rfl

/-- The first name at the start of a text is placed, whether or not others are. -/
theorem exists_placeNames (target : Destination) (several : Bool) (bound : Nat) {text rest : Text}
    {parts : List Text} (read : ObjectName.read? text = some (parts, rest))
    : ∃ later, Completion.placeNames target several (bound + 1) text
        = target.qualify (parts.getLastD []) ++ later := by
  rw [Completion.placeNames, read]
  dsimp only
  split
  · exact ⟨_, List.append_assoc _ _ _⟩
  · exact ⟨rest, rfl⟩

/-- The table of a completed statement is placed in the target. -/
theorem exists_placeTables (heading : Heading) (name : Name) (target : Destination)
    (kind : StatementKind) (follows : Follows tail)
    : ∃ later, Completion.placeTables target kind (heading.completed.opening name ++ tail)
        = heading.completed.text ++ target.qualify name.value ++ later := by
  have read : ObjectName.read? (name.written '"' ++ tail) = some ([name.value], tail) :=
    ObjectName.read?_of_part (name.readPart follows) follows.afterDot?
  obtain ⟨later, placed⟩ := exists_placeNames target (kind = .dropTable)
    (name.written '"' ++ tail).length read
  rw [opening, List.append_assoc, Completion.placeTables,
    heading.beforeTarget_heading (Or.inr rfl) name follows]
  dsimp only
  rw [Place.textSince_past, Place.past_after, placed, ← List.append_assoc]
  exact ⟨later, rfl⟩

-----------------------------------------------------------------------------------------
-- Completing
-----------------------------------------------------------------------------------------

/-- A placed name ends with its quote. -/
theorem tight_qualify (target : Destination) (table : Text)
    : Text.Tight (target.qualify table) :=
  Text.Tight.append ⟨'"' :: Text.doubling '"' table, '"', rfl, by decide, by decide⟩ _

/-- Trimming keeps a statement up to its placed name. -/
theorem exists_trimmed (heading : Heading) (target : Destination) (table later : Text)
    : ∃ rest, Text.trim (Completion.dropTerminator
          (heading.text ++ target.qualify table ++ later))
        = heading.text ++ target.qualify table ++ rest := by
  have tight := (tight_qualify target table).append heading.text
  obtain ⟨left, dropped, _⟩ := tight.exists_dropTerminator later
  have started : (heading.text ++ target.qualify table ++ left).dropWhile Alphabet.isBlank
      = heading.text ++ target.qualify table ++ left := by
    rw [List.append_assoc]
    have stops := heading.text_stops (target.qualify table ++ left)
    cases begun : heading.text ++ (target.qualify table ++ left) with
    | nil => rfl
    | cons char rest =>
        rw [begun] at stops
        rw [List.dropWhile_cons_of_neg (by simp [stops char rfl])]
  rw [dropped, Text.trim, Text.trimWhile, started]
  exact ⟨_, tight.trimEnd_eq left⟩

/-- Completing a statement about a table places it in the target. -/
theorem BeginsWith.exists_complete (begins : BeginsWith (heading.opening name) statement)
    (noNull : '\x00' ∉ name.value) (target : Destination)
    : ∃ rest, (Completion.complete target statement).1
        = heading.completed.text ++ target.qualify name.value ++ rest := by
  have kind : StatementKind.ofStatement statement = heading.act.kind := by
    obtain ⟨tail, rfl, _⟩ := begins
    rw [opening, List.append_assoc]
    exact heading.ofStatement_heading _
  have literals := (begins.stored noNull).adaptLiterals
  unfold Completion.complete
  dsimp only
  rw [kind]
  generalize (Completion.adaptLiterals ((QuotedName.requote statement).filter (· ≠ '\x00'))).1
    = written at literals ⊢
  have defined
      : BeginsWith (heading.opening name)
          (if heading.act.kind = .createTable then Completion.adaptDefinition written
            else written) := by
    split
    · exact literals.completeDefinition
    · exact literals
  generalize (if heading.act.kind = .createTable then Completion.adaptDefinition written
    else written) = definition at defined ⊢
  have inserted
      : BeginsWith (heading.completed.opening name)
          (if heading.act.kind = .insert then Completion.adaptInsertion definition
            else (definition, [])).1 := by
    split
    · rename_i insert
      exact defined.adaptInsertion insert
    · rename_i other
      rwa [completed_of_ne other]
  obtain ⟨tail, same, follows⟩ := inserted
  obtain ⟨later, placed⟩ :=
    heading.exists_placeTables name target heading.act.kind follows
  rw [same, placed]
  exact heading.completed.exists_trimmed target name.value later

-----------------------------------------------------------------------------------------
-- Adapting
-----------------------------------------------------------------------------------------

/-- Adapting by patterns keeps a statement about a table up to the end of its name. -/
theorem beginsWith_adapted (follows : Follows tail) {sql : Text}
    (noNumber : heading.act.kind = .insert → Insertion.withoutNumbers name.value = name.value)
    (adapted
      : (ByPattern.adapt (heading.text ++ (name.written '`' ++ tail))).result = .ok sql)
    : BeginsWith (heading.opening name) sql := by
  have begins := heading.beginsWith_standardize name follows
  have kind
      : StatementKind.ofStatement
            (ByPattern.standardize (heading.text ++ (name.written '`' ++ tail)))
          = heading.act.kind := by
    obtain ⟨more, same, _⟩ := begins
    rw [same, opening, List.append_assoc]
    exact heading.ofStatement_heading _
  unfold ByPattern.adapt at adapted
  dsimp only at adapted
  rw [kind] at adapted
  cases isKind : heading.act.kind with
  | createTable =>
      rw [isKind] at adapted
      exact begins.adaptDefinition adapted
  | insert =>
      rw [isKind] at adapted
      have same := Except.ok.inj adapted
      have rule : ByPattern.hexNumber.replaceAll ByPattern.byteLiteral = ByPattern.adaptWords :=
        funext ByPattern.replaceAll_hexNumber
      rw [rule] at same
      have noNumber := noNumber isKind
      rw [Insertion.withoutNumbers, rule] at noNumber
      rw [← same]
      exact begins.worded isKind noNumber
  | dropTable | delete | other =>
      rw [isKind] at adapted
      rw [← Except.ok.inj adapted]
      exact begins

/-- Whatever line the scanner recognizes by a name that stays itself, a statement that begins with
it is adapted and completed, if it can be adapted, with the target in front of that name. Before
the name stand the words of the statement, and for rows those of a plain insertion.
-/
theorem statement_qualified (heading : Heading) (name : Name) (target : Destination)
    {tail : Text} (follows : Follows tail) (noNull : '\x00' ∉ name.value)
    (noNumber : heading.act.kind = .insert → Insertion.withoutNumbers name.value = name.value)
    : (∀ line, heading.text ++ name.written '`' <+: line →
          line <+: heading.text ++ name.written '`' ++ tail →
          Dump.Marker.ofLine line = heading.act.marker name.value)
      ∧ ∀ sql,
          (ByPattern.strategy.adapt target (heading.text ++ name.written '`' ++ tail)).result
            = .ok sql →
          ∃ rest, (Completion.complete target sql).1
            = heading.completed.text ++ target.qualify name.value ++ rest := by
  constructor
  · rintro line ⟨more, rfl⟩ within
    have shorter := (List.prefix_append_right_inj _).mp within
    rw [List.append_assoc]
    exact heading.ofLine_heading name (follows.of_shorter shorter)
  · intro sql adapted
    rw [List.append_assoc] at adapted
    have begins := beginsWith_adapted follows noNumber adapted
    exact begins.exists_complete noNull target

/-- The beginning of a statement that replaces rows. -/
def replacing : Heading :=
  let space : Gap := ⟨[' '], Insertion.space_ne_nil, blank_space⟩
  { act := .replace ⟨"REPLACE", Insertion.spells_ofString rfl⟩
      (some (.inl (.last space ⟨"LOW_PRIORITY", Insertion.spells_ofString rfl⟩)))
      (.last space ⟨"INTO", Insertion.spells_into⟩)
    beforeName := space }

/-- Rows that are to replace others are inserted into the table in its target. -/
theorem replacement_qualified
    : Dump.Marker.ofLine "REPLACE LOW_PRIORITY INTO `t` VALUES (1);" = .rows "t"
      ∧ ∃ sql rest,
          (ByPattern.strategy.adapt ⟨some "legacy", "finance"⟩
              "REPLACE LOW_PRIORITY INTO `t` VALUES (1);").result = .ok sql
          ∧ (Completion.complete ⟨some "legacy", "finance"⟩ sql).1
            = "INSERT INTO legacy.\"finance\".\"t\"" ++ rest := by
  have source
      : replacing.text ++ (Name.quoted ['t'] (by simp)).written '`' ++ " VALUES (1);"
        = Text.ofString "REPLACE LOW_PRIORITY INTO `t` VALUES (1);" := by
    decide +kernel
  have begun
      : replacing.completed.text ++ Destination.qualify ⟨some "legacy", "finance"⟩ ['t']
        = Text.ofString "INSERT INTO legacy.\"finance\".\"t\"" := by
    decide +kernel
  have follows : Follows (Text.ofString " VALUES (1);") := by
    rw [Text.ofString_eq]
    exact follows_word (by simp) blank_space (by decide : 'V'.isAlpha = true ∧ 'V'.toUpper ≠ 'X') _
  obtain ⟨recognized, qualified⟩ := replacing.statement_qualified (.quoted ['t'] (by simp))
    ⟨some "legacy", "finance"⟩ follows (by decide) (fun _ => by decide +kernel)
  rw [source] at recognized qualified
  have adapted
      : (ByPattern.strategy.adapt ⟨some "legacy", "finance"⟩
            "REPLACE LOW_PRIORITY INTO `t` VALUES (1);").result
          = .ok "REPLACE LOW_PRIORITY INTO \"t\" VALUES (1);" := by
    decide +kernel
  obtain ⟨rest, completed⟩ := qualified _ adapted
  rw [Name.value, begun] at completed
  have named : Text.ofString "t" = ['t'] := by
    rw [Text.ofString_eq]
    rfl
  have reached : replacing.text ++ (Name.quoted ['t'] (by simp)).written '`'
      <+: Text.ofString "REPLACE LOW_PRIORITY INTO `t` VALUES (1);" := by
    rw [← source]
    exact List.prefix_append _ _
  rw [named]
  exact ⟨recognized _ reached (List.prefix_refl _), _, rest, adapted, completed⟩

/-- Rows of which the statement says how soon they are inserted are recognized like others, but
their table keeps its bare name.
-/
theorem priority_not_qualified
    : ¬ ∀ (target : Destination) (statement line table sql : Text), line <+: statement →
        Dump.Marker.ofLine line = .rows table →
        (ByPattern.strategy.adapt target statement).result = .ok sql →
        target.qualify table <:+: (Completion.complete target sql).1 := by
  intro claimed
  have recognized
      : Dump.Marker.ofLine "INSERT LOW_PRIORITY INTO `t` VALUES (1);" = .rows "t" := by
    decide +kernel
  have adapted
      : (ByPattern.strategy.adapt ⟨some "legacy", "finance"⟩
            "INSERT LOW_PRIORITY INTO `t` VALUES (1);").result
          = .ok "INSERT LOW_PRIORITY INTO \"t\" VALUES (1);" := by
    decide +kernel
  exact absurd (claimed _ _ _ _ _ (List.prefix_refl _) recognized adapted) (by decide +kernel)

end DumpTransfer.Conversion.Heading
