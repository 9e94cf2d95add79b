import DumpTransfer.Conversion.Converter
import DumpTransfer.Proofs.Definition.Rules
import DumpTransfer.Proofs.Sql.StandardForm
import DumpTransfer.Proofs.Text.Trimming

/-! Which items of a definition are kept, and whose attributes. The words of the rules count in the
text of an item wherever they stand, so a literal that has them in it decides like code does.
-/

namespace DumpTransfer.Conversion.Definition

open Pattern
open Text (InRow Either Optional IsGap Spells Spelled SpellsAny)
open Heading (isKeyword)
open ByPattern (Breaks attributeOf keptAttributes keptItems unwantedItem unwantedAttributes)

variable {words : List String} {text : Text}

-----------------------------------------------------------------------------------------
-- Attributes
-----------------------------------------------------------------------------------------

/-- A character that is not white space. -/
def isSolid (char : Char) : Bool :=
  !Alphabet.isBlank char

theorem needs_letters {word : String} (known : isKeyword word = true)
    : (letters word).Needs isSolid := by
  intro start reached matched
  obtain ⟨text, rest, after, spells, rfl⟩ := (describes_letters word _ _).mp matched
  obtain ⟨char, more, rfl⟩ := List.exists_cons_of_ne_nil (ne_nil_of_spells known spells)
  have notBlank : Alphabet.isBlank char = false := by
    refine Bool.eq_false_iff.mpr fun blank => ?_
    have inWord := isWord_of_spells known spells char (by simp)
    rw [(Heading.apart_of_isBlank blank).1] at inWord
    cases inWord
  exact ⟨_, Place.reads_past after, char, by simp, by rw [isSolid, notBlank]; rfl⟩

theorem needs_anyWord (known : words.all isKeyword = true)
    : (anyWord words).Needs isSolid := by
  intro start reached matched
  obtain ⟨text, rest, after, ⟨word, member, spells⟩, rfl⟩ :=
    (describes_anyWord words _ _).mp matched
  refine needs_letters (List.all_eq_true.mp known word member) start _ ?_
  exact (describes_letters word _ _).mpr ⟨text, rest, after, spells, rfl⟩

theorem needs_attribute {body : Pattern} (needs : body.Needs isSolid)
    : (attributeOf body).Needs isSolid :=
  needs.append_right _

/-- Every match of a rule for attributes has the word in it that it begins with. -/
theorem unwantedAttributes_need
    : ∀ pattern ∈ unwantedAttributes, pattern.Needs isSolid := by
  have word (first : String) (known : isKeyword first = true) (rest : Pattern)
      : (letters first ++ rest).Needs isSolid :=
    (needs_letters known).append_left rest
  have phrase (first : String) (known : isKeyword first = true) (rest : Pattern)
      : (letters first ++ gap ++ rest).Needs isSolid :=
    (word first known gap).append_left rest
  simp only [unwantedAttributes, List.forall_mem_cons]
  refine ⟨needs_attribute ?_, needs_attribute ?_, needs_attribute ?_, needs_attribute ?_,
    needs_attribute ?_, needs_attribute ?_, needs_attribute ?_, needs_attribute ?_, by simp⟩
  · exact word _ (by decide) _
  · exact (needs_anyWord (by decide)).append_left _
  · refine (Needs.append_left ?_ _).append_left _
    exact (phrase _ (by decide) _).orElse (needs_letters (by decide))
  · exact phrase _ (by decide) _
  · exact phrase _ (by decide) _
  · exact (phrase _ (by decide) _).append_left _
  · exact (word _ (by decide) _).append_left _
  · exact (((phrase _ (by decide) _).append_left _).append_left _).append_left _

theorem countP_trim (text : Text)
    : (Text.trim text).countP isSolid = text.countP isSolid := by
  have begun (text : Text)
      : (text.dropWhile Alphabet.isBlank).countP isSolid = text.countP isSolid := by
    induction text with
    | nil => rfl
    | cons char more ih =>
        rw [List.dropWhile_cons, List.countP_cons]
        split
        · rename_i blank
          simp [isSolid, blank, ih]
        · rw [List.countP_cons]
  rw [Text.trim, Text.trimWhile, Text.dropEndWhile, List.countP_reverse, begun,
    List.countP_reverse, begun]

/-- The rules leave attributes as they are exactly if none of them finds what it looks for, in
code or in literals.
-/
theorem keptAttributes_eq_iff (attributes : Text)
    : keptAttributes attributes = Text.trim attributes
      ↔ ∀ wording ∈ attributeWordings, ¬wording.FoundIn attributes := by
  have absent
      : (∀ pattern ∈ unwantedAttributes, pattern.occursIn attributes = false)
        ↔ ∀ wording ∈ attributeWordings, ¬wording.FoundIn attributes := by
    have find := unwantedAttributes_find
    generalize unwantedAttributes = patterns at find
    generalize attributeWordings = wordings at find
    induction find with
    | nil => simp
    | cons finds _ ih =>
        rw [List.forall_mem_cons, List.forall_mem_cons]
        exact and_congr (by rw [← Bool.not_eq_true, finds]) ih
  rw [← absent]
  constructor
  · intro same pattern member
    refine Bool.eq_false_iff.mpr fun occurs => ?_
    have shorter := countP_foldl_removeAll_lt unwantedAttributes_need ⟨pattern, member, occurs⟩
    have counted := congrArg (List.countP isSolid) same
    rw [keptAttributes, countP_trim, countP_trim] at counted
    omega
  · intro none
    rw [keptAttributes, foldl_removeAll_of_not_occursIn none]

-----------------------------------------------------------------------------------------
-- Items
-----------------------------------------------------------------------------------------

/-- What stands at the start of an item and ends with a word. -/
theorem occursIn_lead_iff {body : Pattern} {language : Text → Prop}
    (describes : body.Describes language) (ends : ∀ text, language text → EndsWord text)
    (item : Text)
    : (textStart ++ body ++ wordEdge).occursIn item = true
      ↔ ∃ found after, item = found ++ after ∧ language found ∧ Breaks after := by
  have joined := occursIn_congr (textStart ++ body ++ wordEdge) (textStart ++ (body ++ wordEdge))
    (fun _ _ => matches_assoc) item
  rw [joined, occursIn_textStart_iff]
  constructor
  · rintro ⟨reached, matched⟩
    obtain ⟨found, after, split, stands, _⟩ := (describesBefore_edge describes ends _ _).mp matched
    exact ⟨found, after, split, stands⟩
  · rintro ⟨found, after, split, stands⟩
    exact ⟨_, (describesBefore_edge describes ends _ _).mpr ⟨found, after, split, stands, rfl⟩⟩

/-- The words that an index begins with. -/
def indexLead : Pattern :=
  optional (anyWord ["UNIQUE", "FULLTEXT", "SPATIAL"] ++ gap) ++ anyWord ["KEY", "INDEX"]

theorem indexLead_describes
    : indexLead.Describes IndexWords := by
  have space : gap.Describes IsGap := describes_someOf _
  have kind := ((describes_anyWord ["UNIQUE", "FULLTEXT", "SPATIAL"]).single.then space).optional
  exact kind.single.then (describes_anyWord ["KEY", "INDEX"])

theorem endsWord_of_indexWords (isIndex : IndexWords text)
    : EndsWord text := by
  obtain ⟨first, _, rfl, _, word, _, rfl, spells, rfl⟩ := isIndex
  rw [List.append_nil]
  exact (endsWord_of_spellsAny (by decide) spells).append first

/-- An item is left out if it begins like an index or if the words of a foreign key stand anywhere
in it.
-/
theorem unwantedItem_occursIn_iff (item : Text)
    : unwantedItem.occursIn item = true ↔ LeadsIndex item ∨ foreignKeyWording.FoundIn item := by
  have joined := occursIn_congr
    (textStart ++ optional (anyWord ["UNIQUE", "FULLTEXT", "SPATIAL"] ++ gap)
      ++ anyWord ["KEY", "INDEX"] ++ wordEdge)
    (textStart ++ indexLead ++ wordEdge)
    (fun _ _ => exists_congr fun _ => and_congr_left fun _ => matches_assoc) item
  rw [unwantedItem, occursIn_orElse, occursIn_orElse, joined, Bool.or_eq_true, Bool.or_eq_true,
    occursIn_lead_iff indexLead_describes (fun _ => endsWord_of_indexWords),
    occursIn_lead_iff (describes_letters "UNIQUE") (fun _ => endsWord_of_spells (by decide)),
    foreignKey_finds item, ← or_assoc]
  refine or_congr_left ?_
  constructor
  · rintro (⟨found, after, split, isIndex, breaks⟩ | ⟨found, after, split, isUnique, breaks⟩)
    · exact ⟨found, after, split, .inl isIndex, breaks⟩
    · exact ⟨found, after, split, .inr isUnique, breaks⟩
  · rintro ⟨found, after, split, isIndex | isUnique, breaks⟩
    · exact .inl ⟨found, after, split, isIndex, breaks⟩
    · exact .inr ⟨found, after, split, isUnique, breaks⟩

-----------------------------------------------------------------------------------------
-- Literals
-----------------------------------------------------------------------------------------

theorem apart_of_spelled (known : words.all isKeyword = true) (spelled : Spelled words text)
    : ∀ char ∈ text, Alphabet.isWord char = true ∨ Alphabet.isBlank char = true := by
  induction words generalizing text with
  | nil =>
      obtain rfl : text = [] := spelled
      nofun
  | cons word others ih =>
      rw [List.all_cons, Bool.and_eq_true] at known
      cases others with
      | nil => exact fun char member => .inl (isWord_of_spells known.1 spelled char member)
      | cons second later =>
          obtain ⟨before, _, rfl, spells, gap, rest, rfl, isGap, spelled⟩ := spelled
          have inRest := ih known.2 (Text.inRow_singleton.mp spelled)
          intro char member
          rcases List.mem_append.mp member with member | member
          · exact .inl (isWord_of_spells known.1 spells char member)
          · rcases List.mem_append.mp member with member | member
            · exact .inr (isGap.2 char member)
            · exact inRest char member

theorem getLast?_doubling (quote : Char) (text : Text)
    : (Text.doubling quote text).getLast? = text.getLast? := by
  induction text with
  | nil => rfl
  | cons char more ih =>
      rw [Text.doubling]
      split <;> simp [List.getLast?_cons, ih]

theorem head?_doubling (quote : Char) (text : Text)
    : (Text.doubling quote text).head? = text.head? := by
  cases text with
  | nil => rfl
  | cons char more =>
      rw [Text.doubling]
      split <;> rfl

/-- Words that stand in the value of a literal stand in the text around it. -/
theorem foundIn_literal (known : words.all isKeyword = true) (isWhole : Bool) {value : Text}
    (found : Wording.FoundIn ⟨[Spelled words], isWhole⟩ value) (before after : Text)
    : Wording.FoundIn ⟨[Spelled words], isWhole⟩ (before ++ (Sql.literalText value ++ after)) := by
  obtain ⟨first, phrase, last, rfl, ended, isPhrase, breaks⟩ := found
  have absent : '\'' ∉ phrase := by
    intro member
    rcases apart_of_spelled known (Text.inRow_singleton.mp isPhrase) _ member with inWord | blank
    · cases inWord
    · cases blank
  refine ⟨before ++ '\'' :: Text.doubling '\'' first, phrase,
    Text.doubling '\'' last ++ '\'' :: after, ?_, ?_, isPhrase, fun whole => ?_⟩
  · rw [Sql.literalText_append, Text.doubling_append, Text.doubling_append,
      Text.doubling_of_not_mem absent]
    simp
  · rw [Ended, List.getLast?_append, List.getLast?_cons, getLast?_doubling]
    cases at_end : first.getLast? with
    | none => rfl
    | some char =>
        rw [Ended, at_end] at ended
        exact ended
  · have breaks := breaks whole
    intro char head
    rw [List.head?_append, head?_doubling] at head
    cases at_start : last.head? with
    | none =>
        rw [at_start] at head
        obtain rfl := Option.some.inj head
        rfl
    | some other =>
        rw [at_start] at head
        obtain rfl := Option.some.inj head
        exact breaks _ at_start

/-- The rules read literals like code. An item is kept exactly if it does not begin like an index
and has the words of a foreign key nowhere in it; attributes come through exactly if no rule finds
its words anywhere in them; and what words a literal has in it count as those around it do.
-/
theorem rules_read_literals (body item attributes : Text) (words : List String)
    (isWhole : Bool) (before value after : Text)
    : (item ∈ keptItems body
        ↔ (∃ part ∈ Sql.Parenthesis.parts body, Text.trim part = item) ∧ item ≠ []
          ∧ ¬LeadsIndex item ∧ ¬foreignKeyWording.FoundIn item)
      ∧ (keptAttributes attributes = Text.trim attributes
        ↔ ∀ wording ∈ attributeWordings, ¬wording.FoundIn attributes)
      ∧ (words.all isKeyword = true → Wording.FoundIn ⟨[Spelled words], isWhole⟩ value →
          Wording.FoundIn ⟨[Spelled words], isWhole⟩
            (before ++ (Sql.literalText value ++ after))) := by
  refine ⟨?_, keptAttributes_eq_iff attributes, ?_⟩
  · have unwanted := unwantedItem_occursIn_iff item
    rw [keptItems, List.mem_filter, List.mem_map, Bool.and_eq_true, Bool.not_eq_true',
      Bool.not_eq_true', ← Bool.not_eq_true (unwantedItem.occursIn item), unwanted, not_or]
    simp
  · intro known found
    exact foundIn_literal known isWhole found before after

/-- The value of a literal decides which columns there are. -/
theorem literal_decides_columns
    : (Converter.convert ⟨ByPattern.strategy, ByPattern.strategy⟩ ⟨some "legacy", "finance"⟩
          "CREATE TABLE `t` (`a` varchar(9) DEFAULT 'x', `c` int);").sql
        = "CREATE TABLE legacy.\"finance\".\"t\" (\n"
          ++ "  \"a\" varchar(9) DEFAULT 'x',\n  \"c\" integer\n)"
      ∧ (Converter.convert ⟨ByPattern.strategy, ByPattern.strategy⟩ ⟨some "legacy", "finance"⟩
          "CREATE TABLE `t` (`a` varchar(9) DEFAULT 'x, FOREIGN KEY y', `c` int);").sql
        = "CREATE TABLE legacy.\"finance\".\"t\" (\n  \"c\" integer\n)" := by
  decide +kernel

end DumpTransfer.Conversion.Definition
