import DumpTransfer.Proofs.ForeignKey.Declarations

/-! Definitions of tables laid out with declarations of foreign keys between other text. The words
that declarations begin with stand nowhere else: without its name, a declaration does not mention
the word that names begin with, and the name does not mention the word that goes on after it. So the
searches find every declaration once, in the order in which they stand.
-/

namespace DumpTransfer.ForeignKey

open Pattern Sql
open Text (Lacks Parted Spells Spelled lacks_of_signs lacks_of_spells lacks_nil ended_nil breaks_nil
  breaks_cons ended_concat)
open Conversion.Heading (isKeyword Gap spelling_stops spelling_takes foldCase_spelling)
open Conversion.Insertion (Spelling)
open Conversion.Definition (Ended breaks_iff)
open Conversion.ByPattern (Breaks)

-----------------------------------------------------------------------------------------
-- Texts that lack a word
-----------------------------------------------------------------------------------------

section Words

variable {word : String} {text rest : Text}

theorem notWord_of_blank (blank : Text.Blank text)
    : ∀ char ∈ text, Alphabet.isWord char = false :=
  fun char member => (Conversion.Heading.apart_of_isBlank (blank char member)).1

theorem ended_of_signs (signs : ∀ char ∈ text, Alphabet.isWord char = false) : Ended text := by
  rw [Ended]
  cases last : text.getLast? with
  | none => rfl
  | some char => exact signs char (List.mem_of_getLast? last)

/-- After white space or a sign, no word goes on. -/
theorem breaks_of_blank (blank : Text.Blank text) (breaks : Breaks rest)
    : Breaks (text ++ rest) := by
  cases text with
  | nil => exact breaks
  | cons char more => exact breaks_cons (notWord_of_blank blank char (by simp)) _

section Lacking

variable (known : isKeyword word = true)

include known

theorem lacks_blank (blank : Text.Blank text) : Lacks word text :=
  lacks_of_signs known (notWord_of_blank blank)

/-- White space may stand before a text that lacks a word. -/
theorem lacks_blank_append (blank : Text.Blank text) (lacks : Lacks word rest)
    : Lacks word (text ++ rest) :=
  (lacks_blank known blank).append lacks known (.inl (ended_of_signs (notWord_of_blank blank)))

/-- Another word may stand before a text that lacks a word. -/
theorem lacks_spelling_append {other : String} (spelling : Spelling other)
    (knownOther : isKeyword other = true)
    (differ : word.toList.map Char.toLower ≠ other.toList.map Char.toLower)
    (lacks : Lacks word rest) (breaks : Breaks rest)
    : Lacks word (spelling.text ++ rest) :=
  (lacks_of_spells knownOther differ (foldCase_spelling knownOther spelling)).append lacks known
    (.inr breaks)

/-- Other words in a row lack a word. -/
theorem lacks_spelled {words : List String} (knownOthers : words.all isKeyword = true)
    (differ : ∀ other ∈ words, word.toList.map Char.toLower ≠ other.toList.map Char.toLower)
    (spelled : Spelled words text)
    : Lacks word text := by
  induction words generalizing text with
  | nil =>
      obtain rfl : text = [] := spelled
      exact lacks_nil known
  | cons other others ih =>
      rw [List.all_cons, Bool.and_eq_true] at knownOthers
      rw [List.forall_mem_cons] at differ
      cases others with
      | nil => exact lacks_of_spells knownOthers.1 differ.1 spelled
      | cons second later =>
          obtain ⟨first, _, rfl, spells, gap, more, rfl, isGap, spelled⟩ := spelled
          have later := ih knownOthers.2 differ.2 (Text.inRow_singleton.mp spelled)
          have breaks : Breaks (gap ++ more) := by
            obtain ⟨space, others, rfl⟩ := List.exists_cons_of_ne_nil isGap.1
            exact breaks_cons (notWord_of_blank isGap.2 space (by simp)) _
          exact (lacks_of_spells knownOthers.1 differ.1 spells).append
            (lacks_blank_append known isGap.2 later) known (.inr breaks)

theorem lacks_quoted_append {name : BackQuoted} (lacksName : Lacks word name.value)
    (lacks : Lacks word rest)
    : Lacks word (name.written ++ rest) :=
  (lacksName.nameText known).append lacks known (.inl (ended_concat _ (by decide)))

theorem lacks_sign_append {sign : Char} (notWord : Alphabet.isWord sign = false)
    (lacks : Lacks word rest)
    : Lacks word (sign :: rest) := by
  have alone : Lacks word [sign] := lacks_of_signs known (by simpa using notWord)
  exact alone.append lacks known (.inl (ended_concat [] notWord))

end Lacking

theorem breaks_gap (gap : Gap) (rest : Text) : Breaks (gap.text ++ rest) := by
  obtain ⟨first, more, same, blank⟩ := gap.exists_first
  rw [same]
  exact breaks_cons (Conversion.Heading.apart_of_isBlank blank).1 _

-----------------------------------------------------------------------------------------
-- Parts of declarations
-----------------------------------------------------------------------------------------

theorem constraint_known : isKeyword "CONSTRAINT" = true :=
  rfl

theorem ListedColumn.lacks (column : ListedColumn) : Lacks "CONSTRAINT" column.text :=
  lacks_blank_append rfl column.before.blank
    (lacks_quoted_append rfl column.name.unmentioned.constraint
      (lacks_blank rfl column.after.blank))

theorem lacks_columnsText (columns : List ListedColumn)
    : Lacks "CONSTRAINT" (columnsText columns) := by
  induction columns with
  | nil => exact lacks_nil rfl
  | cons column others ih =>
      cases others with
      | nil => exact column.lacks
      | cons second more =>
          rw [columnsText_cons]
          exact column.lacks.append (lacks_sign_append rfl (by decide) ih) rfl
            (.inr (breaks_cons (by decide) _))

theorem lacks_listText_append (columns : List ListedColumn) (lacks : Lacks "CONSTRAINT" rest)
    : Lacks "CONSTRAINT" (listText columns ++ rest) := by
  have closed : Lacks "CONSTRAINT" (columnsText columns ++ ([')'] ++ rest)) :=
    (lacks_columnsText columns).append (lacks_sign_append rfl (by decide) lacks) rfl
      (.inr (breaks_cons (by decide) _))
  have opened : Lacks "CONSTRAINT" ('(' :: (columnsText columns ++ ([')'] ++ rest))) :=
    lacks_sign_append rfl (by decide) closed
  simpa [listText] using opened

theorem Clause.lacks (clause : Clause) : Lacks "CONSTRAINT" clause.text := by
  have others : ∀ words ∈ actionWords, ∀ other ∈ words,
      "CONSTRAINT".toList.map Char.toLower ≠ other.toList.map Char.toLower := by
    decide +kernel
  have action := lacks_spelled constraint_known clause.actionKnown
    (others clause.words clause.known) clause.spelled
  have events : ∀ event : Event, isKeyword event.word = true
      ∧ "CONSTRAINT".toList.map Char.toLower ≠ event.word.toList.map Char.toLower := by
    rintro (_ | _) <;> decide +kernel
  have event := lacks_spelling_append constraint_known clause.eventText (events clause.event).1
    (events clause.event).2 (lacks_blank_append rfl clause.beforeAction.blank action)
    (breaks_gap _ _)
  have on := lacks_spelling_append constraint_known clause.on rfl (by decide)
    (lacks_blank_append rfl clause.beforeEvent.blank event) (breaks_gap _ _)
  exact lacks_blank_append rfl clause.beforeOn.blank on

theorem breaks_clausesText (clauses : List Clause) : Breaks (clausesText clauses) := by
  cases clauses with
  | nil => exact breaks_nil
  | cons clause others =>
      rw [clausesText, List.map_cons, List.flatten_cons, Clause.text, List.append_assoc]
      exact breaks_gap _ _

theorem lacks_clausesText (clauses : List Clause) : Lacks "CONSTRAINT" (clausesText clauses) := by
  induction clauses with
  | nil => exact lacks_nil rfl
  | cons clause others ih => exact clause.lacks.append ih rfl (.inr (breaks_clausesText others))

theorem Target.lacks_append (target : Target) (lacks : Lacks "CONSTRAINT" rest)
    : Lacks "CONSTRAINT" (target.text ++ rest) := by
  obtain ⟨database, table, after⟩ := target
  have own := lacks_quoted_append rfl table.unmentioned.constraint
    (lacks_blank_append rfl after.blank lacks)
  cases database with
  | none => simpa [text, databaseText] using own
  | some given =>
      obtain ⟨name, before, behind⟩ := given
      have dotted := lacks_quoted_append rfl name.unmentioned.constraint
        (lacks_blank_append rfl before.blank
          (lacks_sign_append rfl (by decide : Alphabet.isWord '.' = false)
            (lacks_blank_append rfl behind.blank own)))
      simpa [text, databaseText] using dotted

namespace Declaration

variable (given : Declaration)

theorem breaks_columns (rest : Text)
    : Breaks (given.beforeIndex.text
        ++ (indexText given.index ++ listText given.columns ++ rest)) := by
  refine breaks_of_blank given.beforeIndex.blank ?_
  cases given.index with
  | none => exact breaks_cons (by decide) _
  | some index => exact breaks_cons (by decide) _

/-- Without its name, a declaration mentions no constraint. -/
theorem lacks_said : Lacks "CONSTRAINT" given.said := by
  have list := lacks_listText_append given.referenced (lacks_clausesText given.clauses)
  have target := given.target.lacks_append list
  have references : Lacks "CONSTRAINT" given.referenceText :=
    lacks_spelling_append rfl given.references rfl (by decide)
      (lacks_blank_append rfl given.beforeTarget.blank target) (breaks_gap _ _)
  have columns := lacks_listText_append given.columns
    (lacks_blank_append rfl given.beforeReferences.blank references)
  have index : Lacks "CONSTRAINT" (indexText given.index ++ listText given.columns
      ++ (given.beforeReferences.text ++ given.referenceText)) := by
    rw [List.append_assoc]
    cases given.index with
    | none => exact columns
    | some index =>
        rw [indexText, List.append_assoc]
        exact lacks_quoted_append rfl index.1.unmentioned.constraint
          (lacks_blank_append rfl index.2.blank columns)
  have key := lacks_spelling_append constraint_known given.key rfl (by decide)
    (lacks_blank_append rfl given.beforeIndex.blank index) (given.breaks_columns _)
  exact lacks_spelling_append rfl given.foreign rfl (by decide)
    (lacks_blank_append rfl given.beforeKey.blank key) (breaks_gap _ _)

end Declaration

/-- The name of a foreign key does not mention the word that goes on after it. -/
theorem Naming.lacks (naming : Naming) : Lacks "FOREIGN" naming.text :=
  lacks_spelling_append rfl naming.constraint rfl (by decide)
    (lacks_blank_append rfl naming.before.blank
      (lacks_quoted_append rfl naming.name.unmentioned.foreign
        (lacks_blank rfl naming.after.blank)))
    (breaks_gap _ _)

end Words

-----------------------------------------------------------------------------------------
-- Layouts
-----------------------------------------------------------------------------------------

/-- A definition of a table: declarations of foreign keys with other text around them. -/
inductive Layout where
  | rest (text : Text)
  | item (before : Text) (given : Declaration) (later : Layout)

namespace Layout

def text : Layout → Text
  | rest text => text
  | item before given later => before ++ (given.text ++ later.text)

/-- The text before the next declaration, if there is one. -/
def gap : Layout → Text
  | rest text => text
  | item before _ _ => before

def declarations : Layout → List Declaration
  | rest _ => []
  | item _ given later => given :: later.declarations

/-- Declarations are items of the definition: no word goes on before one, and white space and a
comma or a closing parenthesis come after it. The text around them does not mention the words that
they begin with.
-/
def Sound : Layout → Prop
  | rest text => Unmentioned text
  | item before _ later => Unmentioned before ∧ Ended before ∧ Closes later.gap ∧ later.Sound

/-- A declaration and where it begins. -/
structure Spot where
  start : Nat
  given : Declaration

/-- Where the declarations of a definition are that begins at an offset. -/
def spots (offset : Nat) : Layout → List Spot
  | rest _ => []
  | item before given later =>
      ⟨offset + before.length, given⟩
        :: later.spots (offset + before.length + given.text.length)

def Spot.stop (spot : Spot) : Nat :=
  spot.start + spot.given.text.length

/-- What the search for declarations with names finds, if there is a name. -/
def Spot.namedFinding (spot : Spot) : Option Finding :=
  spot.given.naming.map fun naming =>
    ⟨spot.start, spot.stop, spot.given.notes ++ [("name", naming.name.written)]⟩

/-- What the search for declarations of either kind finds. -/
def Spot.finding (spot : Spot) : Finding :=
  ⟨spot.start + spot.given.heading.length, spot.stop, spot.given.notes⟩

end Layout

-----------------------------------------------------------------------------------------
-- Searching
-----------------------------------------------------------------------------------------

theorem leads_named : Text.Leads "CONSTRAINT" named := by
  intro place reached matched
  rw [named, matches_assoc, matches_assoc, matches_assoc, matches_assoc] at matched
  exact Text.leads_edge rfl _ place reached matched

theorem leads_unnamed : Text.Leads "FOREIGN" unnamed := by
  have words : Text.Leads "FOREIGN" (wordEdge ++ Pattern.words ["FOREIGN", "KEY"]) := by
    rintro place reached ⟨between, edge, matched⟩
    exact Text.leads_edge rfl _ place reached ⟨between, edge, matches_assoc.mp matched⟩
  exact ((((((((((words.append _).append _).append _).append _).append _).append _).append
    _).append _).append _).append _).append _

/-- A word at its edge: no word goes on before it. -/
theorem differ_of_ended {place : Place} {text rest : Text} (ended : Ended place.before.reverse)
    (starts : Conversion.Definition.StartsWord text) (after : place.after = text ++ rest)
    : place.before.head?.any Alphabet.isWord ≠ place.after.head?.any Alphabet.isWord := by
  have begins : (text ++ rest).head?.any Alphabet.isWord = true := starts.append rest
  have outside : place.before.head?.any Alphabet.isWord = false := by
    simpa [Ended, List.getLast?_reverse] using ended
  rw [after, begins, outside]
  decide

theorem startsWord_of_spelling {word : String} (known : Conversion.Heading.isKeyword word = true)
    (spelling : Conversion.Insertion.Spelling word) (rest : Text)
    : Conversion.Definition.StartsWord (spelling.text ++ rest) :=
  (Conversion.Definition.startsWord_of_spells known
    (Conversion.Heading.foldCase_spelling known spelling)).append rest

namespace Declaration

variable (given : Declaration) {place : Place} {rest : Text}

theorem said_ne_nil : given.said ≠ [] := by
  have word := Conversion.Heading.spelling_ne_nil rfl given.foreign
  simp [said, word]

theorem text_ne_nil : given.text ≠ [] := by
  simp [text, given.said_ne_nil]

theorem lacks_heading : Lacks "FOREIGN" given.heading := by
  rw [heading]
  cases given.naming with
  | none => exact Text.lacks_nil rfl
  | some naming => exact naming.lacks

/-- No word goes on after the name of a declaration, nor where it has none. -/
theorem ended_heading {text : Text} (ended : Ended text) : Ended (text ++ given.heading) := by
  rw [heading]
  cases given.naming with
  | none => simpa using ended
  | some naming =>
      obtain ⟨init, last, same, blank⟩ := naming.after.exists_last
      have split : text ++ naming.text = text ++ (naming.constraint.text ++ (naming.before.text
          ++ (naming.name.written ++ init))) ++ [last] := by
        simp [Naming.text, same]
      rw [Option.map_some, Option.getD_some, split]
      exact Text.ended_concat _ (Conversion.Heading.apart_of_isBlank blank).1

/-- A declaration is matched from the word on that comes after its name. -/
theorem unnamed_matches (closes : Closes rest) (ended : Ended place.before.reverse)
    (after : place.after = given.said ++ rest)
    : unnamed.MatchesNoting place given.said given.notes := by
  have differ := differ_of_ended ended (startsWord_of_spelling rfl given.foreign _) after
  obtain ⟨reached, found, reads, noted⟩ := (given.noting closes).matches after
  exact ⟨reached, (edge_matchAt? differ).trans found, reads, noted⟩

/-- A declaration with a name is matched from its first word on. -/
theorem named_matches {naming : Naming} (isNamed : given.naming = some naming)
    (closes : Closes rest) (ended : Ended place.before.reverse)
    (after : place.after = given.text ++ rest)
    : named.MatchesNoting place given.text
        (given.notes ++ [("name", naming.name.written)]) := by
  have split : given.text = naming.constraint.text ++ (naming.before.text
      ++ (naming.name.written ++ (naming.after.text ++ given.said))) := by
    simp [text, heading, isNamed, Naming.text]
  have said := given.noting closes
  have behind : Pattern.gap.Takes naming.after.text (given.said ++ rest) := by
    refine naming.after.takes ?_
    rw [Declaration.said, List.append_assoc]
    exact Conversion.Heading.spelling_stops rfl given.foreign _
  have stop : (naming.after.text ++ given.said ++ rest).head? ≠ some '`' := by
    obtain ⟨first, more, same, blank⟩ := naming.after.exists_first
    rw [same]
    rintro ⟨rfl⟩
    exact absurd blank (by decide)
  have name := (naming.name.noting "name" stop).1
  have before : Pattern.gap.Takes naming.before.text
      (naming.name.written ++ (naming.after.text ++ given.said) ++ rest) := by
    refine naming.before.takes ?_
    rw [List.append_assoc]
    exact naming.name.stops _
  have word := Conversion.Heading.spelling_takes rfl naming.constraint (naming.before.text
    ++ (naming.name.written ++ (naming.after.text ++ given.said)) ++ rest)
  have whole := word.noting.append (before.noting.append (name.append (behind.noting.append said)))
  rw [split] at after ⊢
  have differ := differ_of_ended ended (startsWord_of_spelling rfl naming.constraint _) after
  obtain ⟨reached, found, reads, noted⟩ := whole.matches after
  refine ⟨reached, (edge_matchAt? differ).trans found, reads, ?_⟩
  rw [noted]
  simp

end Declaration

theorem Closes.breaks {text : Text} (closes : Closes text) : Breaks text := by
  obtain ⟨spaces, sign, more, rfl, blank, kind⟩ := closes
  refine breaks_of_blank blank (Text.breaks_cons ?_ more)
  rcases kind with rfl | rfl <;> decide

theorem Closes.ne_nil {text : Text} (closes : Closes text) : text ≠ [] := by
  obtain ⟨spaces, sign, more, rfl, -, -⟩ := closes
  simp

theorem Closes.append {text : Text} (closes : Closes text) (rest : Text)
    : Closes (text ++ rest) := by
  obtain ⟨spaces, sign, more, rfl, blank, kind⟩ := closes
  exact ⟨spaces, sign, more ++ rest, by simp, blank, kind⟩

namespace Layout

variable {layout : Layout} {place : Place} {skipped before rest : Text}

/-- The text before the next declaration comes first. -/
theorem exists_text (layout : Layout) : ∃ rest, layout.text = layout.gap ++ rest := by
  cases layout with
  | rest text => exact ⟨[], (List.append_nil _).symm⟩
  | item before given later => exact ⟨_, rfl⟩

theorem closes_text (closes : Closes layout.gap) : Closes layout.text := by
  obtain ⟨rest, split⟩ := layout.exists_text
  rw [split]
  exact closes.append rest

theorem length_declarations_le (layout : Layout)
    : layout.declarations.length ≤ layout.text.length := by
  induction layout with
  | rest text => exact Nat.zero_le _
  | item before given later ih =>
      have isThere := List.length_pos_iff.mpr given.text_ne_nil
      simp only [declarations, text, List.length_cons, List.length_append]
      omega

/-- Nothing goes on from what is skipped into the layout: either nothing is skipped at the start of
the definition, or the layout begins with the end of an item.
-/
def Resumes (place : Place) (skipped : Text) (layout : Layout) : Prop :=
  (skipped = [] ∧ place.before = []) ∨ Closes layout.gap

theorem Resumes.parted (resumes : Resumes place skipped layout)
    : Text.Parted skipped layout.gap := by
  rcases resumes with ⟨rfl, -⟩ | closes
  · exact .inl Text.ended_nil
  · exact .inr closes.breaks

/-- No word goes on into the next declaration. -/
theorem Resumes.ended {given : Declaration} {later : Layout}
    (resumes : Resumes place skipped (.item before given later)) (ended : Ended before)
    (rest : Text)
    : Ended (place.past (skipped ++ before) rest).before.reverse := by
  rw [Place.past_before, List.reverse_append, List.reverse_reverse, ← List.append_assoc]
  rcases resumes with ⟨rfl, start⟩ | closes
  · rw [start]
    simpa using ended
  · obtain ⟨init, last, rfl⟩ := (List.eq_nil_or_concat before).resolve_left closes.ne_nil
    rw [List.concat_eq_append] at ended ⊢
    rw [← List.append_assoc]
    exact Text.ended_concat _ (by simpa [Ended] using ended)

theorem Resumes.ended_skipped {given : Declaration} {later : Layout}
    (resumes : Resumes place skipped (.item before given later)) (ended : Ended before)
    : Ended (skipped ++ before) := by
  have whole := resumes.ended ended []
  rw [Place.past_before, List.reverse_append, List.reverse_reverse] at whole
  exact Text.ended_append whole

/-- The search for declarations with names finds those that have one and passes over the others. By
induction over the layout, with what has been passed over since the last match.
-/
theorem named_findings (layout : Layout) (sound : layout.Sound)
    (lacks : Lacks "CONSTRAINT" skipped) (resumes : Resumes place skipped layout)
    (after : place.after = skipped ++ layout.text) (clean : place.groups = []) {bound : Nat}
    (enough : layout.declarations.length ≤ bound)
    : (named.findAllFrom bound place).map Match.finding
      = (layout.spots (place.offset + skipped.length)).filterMap Spot.namedFinding := by
  induction layout generalizing place skipped bound with
  | rest text =>
      have none : Lacks "CONSTRAINT" (skipped ++ text) :=
        lacks.append sound.constraint rfl resumes.parted
      rw [findAllFrom_of_avoids (leads_named.avoids rfl none (.inr Text.breaks_nil))
        (fun reached => leads_named.not_matches_end rfl rfl reached) after]
      rfl
  | item before given later ih =>
      obtain ⟨unmentioned, ended, closes, soundLater⟩ := sound
      have passed : Lacks "CONSTRAINT" (skipped ++ before) :=
        lacks.append unmentioned.constraint rfl resumes.parted
      have endedBefore := resumes.ended_skipped ended
      have split : place.after = skipped ++ before ++ (given.text ++ later.text) := by
        rw [after, text, List.append_assoc]
      cases isNamed : given.naming with
      | none =>
          have same : given.text = given.said := by
            simp [Declaration.text, Declaration.heading, isNamed]
          have lacksMore : Lacks "CONSTRAINT" (skipped ++ before ++ given.text) :=
            passed.append (same ▸ given.lacks_said) rfl (.inl endedBefore)
          have later := ih soundLater lacksMore (.inr closes)
            (by rw [split, List.append_assoc _ given.text]) clean (Nat.le_of_succ_le enough)
          rw [later, spots, List.filterMap_cons]
          simp [Spot.namedFinding, isNamed, Nat.add_assoc]
      | some naming =>
          cases bound with
          | zero => cases enough
          | succ bound =>
              have matched := given.named_matches isNamed (closes_text closes)
                (resumes.ended ended (given.text ++ later.text)) rfl
              have none : Lacks "CONSTRAINT" [] := Text.lacks_nil rfl
              have left : (place.past (skipped ++ before ++ given.text) later.text).after
                  = [] ++ later.text := rfl
              have others := ih soundLater none (.inr closes) left clean
                (Nat.le_of_succ_le_succ enough)
              rw [findings_of_matches (leads_named.avoids rfl passed (.inl endedBefore)) matched
                given.text_ne_nil split clean bound, others, spots, List.filterMap_cons]
              simp [Spot.namedFinding, isNamed, Spot.stop, Place.past, Nat.add_assoc]

/-- The search for declarations of either kind finds all of them. By induction over the layout. -/
theorem unnamed_findings (layout : Layout) (sound : layout.Sound)
    (resumes : Resumes place [] layout) (after : place.after = layout.text)
    (clean : place.groups = []) {bound : Nat} (enough : layout.declarations.length ≤ bound)
    : (unnamed.findAllFrom bound place).map Match.finding
      = (layout.spots place.offset).map Spot.finding := by
  induction layout generalizing place bound with
  | rest text =>
      rw [findAllFrom_of_avoids (leads_unnamed.avoids rfl sound.foreign (.inr Text.breaks_nil))
        (fun reached => leads_unnamed.not_matches_end rfl rfl reached) after]
      rfl
  | item before given later ih =>
      obtain ⟨unmentioned, ended, closes, soundLater⟩ := sound
      cases bound with
      | zero => cases enough
      | succ bound =>
          have split : place.after = before ++ given.heading ++ (given.said ++ later.text) := by
            rw [after, text, Declaration.text]
            simp
          have passed : Lacks "FOREIGN" (before ++ given.heading) :=
            unmentioned.foreign.append given.lacks_heading rfl (.inl ended)
          have edge : Ended (place.past (before ++ given.heading)
              (given.said ++ later.text)).before.reverse := by
            rw [Place.past_before, List.reverse_append, List.reverse_reverse, ← List.append_assoc]
            refine given.ended_heading ?_
            have whole := resumes.ended ended []
            rwa [Place.past_before, List.nil_append, List.reverse_append, List.reverse_reverse]
              at whole
          have avoids : unnamed.Avoids place (before ++ given.heading) (given.said ++ later.text) :=
            leads_unnamed.avoids rfl passed (.inl (given.ended_heading ended))
          have matched := given.unnamed_matches (closes_text closes) edge rfl
          have left : (place.past (before ++ given.heading ++ given.said) later.text).after
              = later.text := rfl
          have others := ih soundLater (.inr closes) left clean (Nat.le_of_succ_le_succ enough)
          rw [findings_of_matches avoids matched given.said_ne_nil split clean bound, others, spots,
            List.map_cons]
          simp [Spot.finding, Spot.stop, Place.past, Declaration.text, Nat.add_assoc]

end Layout

end DumpTransfer.ForeignKey
