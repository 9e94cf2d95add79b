import DumpTransfer.Conversion.ByPattern
import DumpTransfer.Proofs.Definition.Wordings
import DumpTransfer.Proofs.Sql.Runs

/-! The rules for items of definitions, and what each of them looks for. They read an item as one
text, so a word counts wherever it stands: in the code of the item, in a name or in a literal.
-/

namespace DumpTransfer

-----------------------------------------------------------------------------------------
-- Texts between marks
-----------------------------------------------------------------------------------------

namespace Text

/-- A text between two quotes of a kind, in which that quote is written twice. -/
def Quoted (quote : Char) (text : Text) : Prop :=
  ∃ value, text = Sql.nameText quote value

/-- A text between parentheses, with no closing one in it. -/
def Parenthesized (text : Text) : Prop :=
  ∃ inner, ')' ∉ inner ∧ text = '(' :: (inner ++ [')'])

end Text

namespace Pattern

open Text (InRow Either Several SomeOf Quoted Parenthesized)

theorem describes_exactly (text : Text)
    : (exactly text).Describes (· = text) := by
  induction text with
  | nil => exact describes_nothing
  | cons char more ih =>
      refine ((describes_char char).append ih.single).congr fun found => ?_
      constructor
      · rintro ⟨_, _, rfl, rfl, _, _, rfl, rfl, rfl⟩
        simp
      · rintro rfl
        exact ⟨[char], more, rfl, rfl, more, [], by simp, rfl, rfl⟩

/-- What stands between two quotes of a kind is a text in which that quote is written twice. -/
theorem several_iff_doubling (quote : Char) (text : Text)
    : Several (Either (fun piece => ∃ char, piece = [char] ∧ decide (char ≠ quote) = true)
          (· = [quote, quote])) text
      ↔ ∃ value, text = Text.doubling quote value := by
  constructor
  · rintro ⟨pieces, rfl, all⟩
    induction pieces with
    | nil => exact ⟨[], rfl⟩
    | cons piece others ih =>
        obtain ⟨value, same⟩ := ih fun other member => all other (by simp [member])
        rw [List.flatten_cons, same]
        rcases (all piece (by simp)).1 with ⟨char, rfl, differ⟩ | rfl
        · refine ⟨char :: value, ?_⟩
          rw [Text.doubling, if_neg (of_decide_eq_true differ)]
          rfl
        · refine ⟨quote :: value, ?_⟩
          rw [Text.doubling, if_pos rfl]
          rfl
  · rintro ⟨value, rfl⟩
    induction value with
    | nil => exact ⟨[], rfl, by simp⟩
    | cons char more ih =>
        obtain ⟨pieces, same, all⟩ := ih
        rw [Text.doubling, same]
        split
        · rename_i isQuote
          subst isQuote
          refine ⟨[char, char] :: pieces, rfl, ?_⟩
          rw [List.forall_mem_cons]
          exact ⟨⟨.inr rfl, by simp⟩, all⟩
        · rename_i differ
          refine ⟨[char] :: pieces, rfl, ?_⟩
          rw [List.forall_mem_cons]
          exact ⟨⟨.inl ⟨char, rfl, decide_eq_true differ⟩, by simp⟩, all⟩

theorem describes_quoted (quote : Char)
    : (char quote ++ many (one (· ≠ quote) <|> exactly [quote, quote]) ++ char quote).Describes
        (Quoted quote) := by
  have inside := ((describes_one (· ≠ quote)).orElse (describes_exactly [quote, quote])).many
  refine (((describes_char quote).single.then inside).then (describes_char quote)).congr
    fun text => ?_
  constructor
  · rintro ⟨_, _, rfl, rfl, body, _, rfl, isBody, _, _, rfl, rfl, rfl⟩
    obtain ⟨value, rfl⟩ := (several_iff_doubling quote body).mp isBody
    exact ⟨value, by simp [Sql.nameText]⟩
  · rintro ⟨value, rfl⟩
    exact ⟨[quote], _, rfl, rfl, Text.doubling quote value, [quote], rfl,
      (several_iff_doubling quote _).mpr ⟨value, rfl⟩, [quote], [], rfl, rfl, rfl⟩

theorem describes_literal
    : Sql.Shape.literal.Describes (Quoted '\'') := by
  have twice : Text.ofString "''" = ['\'', '\''] := by
    rw [Text.ofString_eq]
    rfl
  rw [Sql.Shape.literal, twice]
  exact describes_quoted '\''

theorem describes_parenthesized
    : Sql.Shape.parenthesized.Describes Parenthesized := by
  refine (((describes_char '(').single.then (describes_run _)).then (describes_char ')')).congr
    fun text => ?_
  constructor
  · rintro ⟨_, _, rfl, rfl, inner, _, rfl, none, _, _, rfl, rfl, rfl⟩
    refine ⟨inner, fun member => ?_, by simp⟩
    have differ := none _ member
    exact of_decide_eq_true differ rfl
  · rintro ⟨inner, absent, rfl⟩
    refine ⟨['('], _, rfl, rfl, inner, [')'], rfl, fun char member => ?_, [')'], [], rfl, rfl, rfl⟩
    exact decide_eq_true fun same => absent (same ▸ member)

end Pattern

namespace Conversion.Definition

open Pattern
open Text (InRow Either Optional SomeOf IsGap Spells Spelled SpellsAny Quoted Parenthesized Blank)
open Heading (isKeyword)
open ByPattern (Breaks attributeOf)

variable {text : Text}

-----------------------------------------------------------------------------------------
-- What the rules look for
-----------------------------------------------------------------------------------------

/-- What the rules for attributes look for, in the order in which they are applied. -/
def attributeWordings : List Wording := [
  ⟨[Spelled ["AUTO_INCREMENT"]], true⟩,
  ⟨[SpellsAny ["UNSIGNED", "ZEROFILL"]], true⟩,
  ⟨[Either (Spelled ["CHARACTER", "SET"]) (Spelled ["CHARSET"]), IsGap, SomeOf Alphabet.isWord],
    false⟩,
  ⟨[Spelled ["COLLATE"], IsGap, SomeOf Alphabet.isWord], false⟩,
  ⟨[Spelled ["COMMENT"], IsGap, Quoted '\''], false⟩,
  ⟨[Spelled ["ON", "UPDATE", "CURRENT_TIMESTAMP"]], false⟩,
  ⟨[Spelled ["UNIQUE"]], true⟩,
  ⟨[Spelled ["REFERENCES"], IsGap, SomeOf (! Alphabet.isBlank ·), Blank, Parenthesized], false⟩]

/-- The words of a foreign key. -/
def foreignKeyWording : Wording :=
  ⟨[Spelled ["FOREIGN", "KEY"]], true⟩

/-- The words that an index begins with. -/
def IndexWords : Text → Prop :=
  InRow [Optional (InRow [SpellsAny ["UNIQUE", "FULLTEXT", "SPATIAL"], IsGap]),
    SpellsAny ["KEY", "INDEX"]]

/-- An item begins with the words of an index or of a uniqueness. -/
def LeadsIndex (item : Text) : Prop :=
  ∃ found after, item = found ++ after ∧ Either IndexWords (Spells "UNIQUE") found ∧ Breaks after

theorem startsWord_of_spellsAny {words : List String} (known : words.all isKeyword = true)
    (spells : SpellsAny words text)
    : StartsWord text := by
  obtain ⟨word, member, spells⟩ := spells
  exact startsWord_of_spells (List.all_eq_true.mp known word member) spells

theorem endsWord_of_spellsAny {words : List String} (known : words.all isKeyword = true)
    (spells : SpellsAny words text)
    : EndsWord text := by
  obtain ⟨word, member, spells⟩ := spells
  exact endsWord_of_spells (List.all_eq_true.mp known word member) spells

theorem leads_spelled {words : List String} (isThere : words ≠ [])
    (known : words.all isKeyword = true) (others : List (Text → Prop)) (isWhole : Bool)
    : Wording.Leads ⟨Spelled words :: others, isWhole⟩ :=
  leads_of_first fun _ => startsWord_of_spelled isThere known

/-- Pieces that begin with a keyword, for a rule that minds no edge after them. -/
theorem finds_part {body : Pattern} {pieces : List (Text → Prop)}
    (describes : body.Describes (InRow pieces)) (leads : Wording.Leads ⟨pieces, false⟩)
    : Finds (attributeOf body) ⟨pieces, false⟩ :=
  finds_attribute (describesBefore_part describes) leads

theorem finds_whole {body : Pattern} {kind : Text → Prop} (describes : body.Describes kind)
    (ends : ∀ text, kind text → EndsWord text) (starts : ∀ text, kind text → StartsWord text)
    : Finds (attributeOf (body ++ wordEdge)) ⟨[kind], true⟩ := by
  refine finds_attribute (describesBefore_whole describes.single fun text isKind => ?_)
    (leads_of_first starts)
  exact ends text (Text.inRow_singleton.mp isKind)

theorem finds_word {word : String} (known : isKeyword word = true)
    : Finds (attributeOf (letters word ++ wordEdge)) ⟨[Spelled [word]], true⟩ :=
  finds_whole (describes_letters word) (fun _ => endsWord_of_spells known)
    fun _ => startsWord_of_spells known

/-- What may be left out at the end of an attribute is not needed to find it. -/
theorem finds_append {first second : Pattern} {wording : Wording}
    (anywhere : ∀ place : Place, ∃ reached, second.Matches place reached)
    (finds : Finds (attributeOf first) wording)
    : Finds (attributeOf (first ++ second)) wording := by
  intro text
  have same := occursIn_congr (attributeOf (first ++ second)) (attributeOf first ++ second)
    (fun _ _ => matches_assoc.symm) text
  rw [same, occursIn_append anywhere]
  exact finds text

theorem many_matches (body : Pattern) (place : Place)
    : ∃ reached, (many body).Matches place reached :=
  ⟨place, .done place⟩

theorem optional_matches (body : Pattern) (place : Place)
    : ∃ reached, (optional body).Matches place reached :=
  ⟨place, .inr ⟨rfl, rfl⟩⟩

/-- The word KEY after UNIQUE changes nothing in whether the rule finds its word. -/
theorem finds_unique
    : Finds (attributeOf (letters "UNIQUE" ++ optional (gap ++ letters "KEY") ++ wordEdge))
        ⟨[Spelled ["UNIQUE"]], true⟩ := by
  intro text
  have known : isKeyword "UNIQUE" = true := by decide
  have knownKey : isKeyword "KEY" = true := by decide
  have space : gap.Describes IsGap := describes_someOf _
  have key := (space.single.then (describes_letters "KEY")).optional
  have both := (describes_letters "UNIQUE").single.then key
  rw [finds_attribute (describesBefore_whole both ?_) (leads_of_first fun _ =>
    startsWord_of_spells known) text]
  · constructor
    · rintro ⟨before, _, after, rfl, ended, ⟨first, _, rfl, spells, more, _, rfl, isMore, rfl⟩,
        breaks⟩
      refine ⟨before, first, more ++ after, by simp, ended, Text.inRow_singleton.mpr spells,
        fun _ => ?_⟩
      rcases isMore with ⟨space, _, rfl, ⟨isThere, blank⟩, _⟩ | rfl
      · obtain ⟨char, others, rfl⟩ := List.exists_cons_of_ne_nil isThere
        intro first head
        obtain rfl := Option.some.inj head
        exact (Heading.apart_of_isBlank (blank _ (by simp))).1
      · exact breaks rfl
    · rintro ⟨before, found, after, rfl, ended, isWord, breaks⟩
      refine ⟨before, found, after, rfl, ended, ⟨found, [], by simp,
        Text.inRow_singleton.mp isWord, [], [], rfl, .inr rfl, rfl⟩, breaks⟩
  · rintro _ ⟨first, _, rfl, spells, more, _, rfl, isMore, rfl⟩
    rw [List.append_nil]
    rcases isMore with ⟨space, _, rfl, _, word, _, rfl, spellsKey, rfl⟩ | rfl
    · rw [List.append_nil]
      exact ((endsWord_of_spells knownKey spellsKey).append space).append first
    · rw [List.append_nil]
      exact endsWord_of_spells known spells

/-- Each rule for attributes finds what it looks for, in any text. -/
theorem unwantedAttributes_find
    : List.Forall₂ Finds ByPattern.unwantedAttributes attributeWordings := by
  have space : gap.Describes IsGap := describes_someOf _
  have word : Sql.Shape.word.Describes (SomeOf Alphabet.isWord) := describes_someOf _
  refine .cons (finds_word (by decide)) (.cons ?_ (.cons ?_ (.cons ?_ (.cons ?_ (.cons ?_ (.cons
    finds_unique (.cons ?_ .nil)))))))
  · exact finds_whole (describes_anyWord _) (fun _ => endsWord_of_spellsAny (by decide))
      fun _ => startsWord_of_spellsAny (by decide)
  · have names := (describes_words ["CHARACTER", "SET"]).orElse (describes_letters "CHARSET")
    refine finds_part ((names.single.then space).then word) (leads_of_first fun text => ?_)
    rintro (spelled | spelled)
    · exact startsWord_of_spelled (by simp) (by decide) spelled
    · exact startsWord_of_spells (by decide) spelled
  · exact finds_part (((describes_letters "COLLATE").single.then space).then word)
      (leads_spelled (by simp) (by decide) _ _)
  · exact finds_part (((describes_letters "COMMENT").single.then space).then describes_literal)
      (leads_spelled (by simp) (by decide) _ _)
  · exact finds_append (optional_matches _)
      (finds_part (describes_words ["ON", "UPDATE", "CURRENT_TIMESTAMP"]).single
        (leads_spelled (by simp) (by decide) _ _))
  · have solid := describes_someOf (! Alphabet.isBlank ·)
    have reference := ((((describes_letters "REFERENCES").single.then space).then solid).then
      (describes_run Alphabet.isBlank)).then describes_parenthesized
    exact finds_append (many_matches _)
      (finds_part reference (leads_spelled (by simp) (by decide) _ _))

theorem foreignKey_finds
    : Finds (Sql.Shape.foreignKey ++ wordEdge) foreignKeyWording := by
  intro text
  have same := occursIn_congr (Sql.Shape.foreignKey ++ wordEdge)
    (wordEdge ++ (Pattern.words ["FOREIGN", "KEY"] ++ wordEdge)) (fun _ _ => matches_assoc) text
  rw [same]
  refine finds_edge (describesBefore_whole (describes_words _).single fun text isKind => ?_)
    (leads_spelled (by simp) (by decide) _ _) text
  exact endsWord_of_spelled (by simp) (by decide) (Text.inRow_singleton.mp isKind)

end Conversion.Definition

end DumpTransfer
