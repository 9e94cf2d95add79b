import DumpTransfer.Proofs.Definition.Items

/-! References in completed definitions. The last step reads code alone, run by run: it drops the
items that are foreign keys, and from the others it takes the references that list columns.
-/

namespace DumpTransfer.Conversion.Definition

open Sql Pattern
open Text (InRow Either Several SomeOf IsGap Spells Spelled Quoted Parenthesized Blank)
open Completion (characterSet reference isForeignKey)

variable {text : Text}

-----------------------------------------------------------------------------------------
-- What the last rules look for
-----------------------------------------------------------------------------------------

/-- A text of a kind stands somewhere in a text. -/
def Holds (kind : Text → Prop) (text : Text) : Prop :=
  ∃ before found after, text = before ++ (found ++ after) ∧ kind found

theorem occursIn_describes_iff {pattern : Pattern} {kind : Text → Prop}
    (describes : pattern.Describes kind) (text : Text)
    : pattern.occursIn text = true ↔ Holds kind text := by
  rw [occursIn_iff]
  constructor
  · rintro ⟨before, rest, reached, rfl, matched⟩
    obtain ⟨found, after, split, isKind, _⟩ := (describes _ _).mp matched
    obtain rfl : rest = found ++ after := split
    exact ⟨before, found, after, rfl, isKind⟩
  · rintro ⟨before, found, after, split, isKind⟩
    exact ⟨before, found ++ after, _, split, (describes _ _).mpr ⟨found, after, rfl, isKind, rfl⟩⟩

/-- The name of a character set or of a collation, with the words before it. -/
def NamesCharacterSet : Text → Prop :=
  InRow [IsGap,
    Either (Either (Spelled ["CHARACTER", "SET"]) (Spells "CHARSET")) (Spells "COLLATE"), IsGap,
    Either (InRow [(· = ['"']), SomeOf (· ≠ '"'), (· = ['"'])]) (SomeOf Alphabet.isWord)]

/-- The name of a table, with its parts after dots. -/
def NamesTable : Text → Prop :=
  InRow [Either (Quoted '"') (SomeOf fun char => Alphabet.isWord char || char = '.'),
    Several (InRow [Blank, (· = ['.']), Blank, Either (Quoted '"') (SomeOf Alphabet.isWord)])]

/-- A reference to columns of a table. -/
def RefersToColumns : Text → Prop :=
  InRow [IsGap, Spells "REFERENCES", IsGap, NamesTable, Blank, Parenthesized]

theorem quotedName_describes
    : Completion.quotedName.Describes (Quoted '"') := by
  have twice : Text.ofString "\"\"" = ['"', '"'] := by
    rw [Text.ofString_eq]
    rfl
  rw [Completion.quotedName, twice]
  exact describes_quoted '"'

theorem characterSet_occursIn_iff (text : Text)
    : characterSet.occursIn text = true ↔ Holds NamesCharacterSet text := by
  have space : gap.Describes IsGap := describes_someOf _
  have word : Shape.word.Describes (SomeOf Alphabet.isWord) := describes_someOf _
  have quoted := ((describes_char '"').single.then (describes_someOf (· ≠ '"'))).then
    (describes_char '"')
  have name : Completion.wordOrQuoted.Describes _ := quoted.orElse word
  have set := (describes_words ["CHARACTER", "SET"]).orElse (describes_letters "CHARSET")
  have both := (((space.single.then set).then space).then name).orElse
    (((space.single.then (describes_letters "COLLATE")).then space).then name)
  refine occursIn_describes_iff (both.congr fun text => ?_) text
  constructor
  · rintro (⟨first, rest, split, isGap, words, more, join, isSet, later⟩
      | ⟨first, rest, split, isGap, words, more, join, isSet, later⟩)
    · exact ⟨first, rest, split, isGap, words, more, join, .inl isSet, later⟩
    · exact ⟨first, rest, split, isGap, words, more, join, .inr isSet, later⟩
  · rintro ⟨first, rest, split, isGap, words, more, join, isSet | isSet, later⟩
    · exact .inl ⟨first, rest, split, isGap, words, more, join, isSet, later⟩
    · exact .inr ⟨first, rest, split, isGap, words, more, join, isSet, later⟩

theorem reference_occursIn_iff (text : Text)
    : reference.occursIn text = true ↔ Holds RefersToColumns text := by
  have space : gap.Describes IsGap := describes_someOf _
  have blank : blanks.Describes Blank := describes_run _
  have word : Shape.word.Describes (SomeOf Alphabet.isWord) := describes_someOf _
  have first := quotedName_describes.orElse
    (describes_someOf fun char => Alphabet.isWord char || char = '.')
  have part := ((blank.single.then (describes_char '.')).then blank).then
    (quotedName_describes.orElse word)
  have whole := (((((space.single.then (describes_letters "REFERENCES")).then space).then
    first).then part.many).then blank).then describes_parenthesized
  rw [reference, occursIn_append (many_matches _)]
  refine occursIn_describes_iff (whole.congr fun text => ?_) text
  constructor
  · rintro ⟨a, _, rfl, ha, b, _, rfl, hb, c, _, rfl, hc, d, _, rfl, hd, e, rest, rfl, he, later⟩
    exact ⟨a, _, rfl, ha, b, _, rfl, hb, c, _, rfl, hc, d ++ e, rest, by simp,
      ⟨d, e, rfl, hd, e, [], by simp, he, rfl⟩, later⟩
  · rintro ⟨a, _, rfl, ha, b, _, rfl, hb, c, _, rfl, hc, _, rest, rfl,
      ⟨d, _, rfl, hd, e, _, rfl, he, rfl⟩, later⟩
    exact ⟨a, _, rfl, ha, b, _, rfl, hb, c, _, rfl, hc, d, _, by simp, hd, e, rest, rfl, he, later⟩

-----------------------------------------------------------------------------------------
-- Code that changes
-----------------------------------------------------------------------------------------

theorem lastRules_need
    : ∀ pattern ∈ [characterSet, reference], pattern.Needs isSolid := by
  have set : (Pattern.words ["CHARACTER", "SET"] <|> letters "CHARSET").Needs isSolid :=
    (((needs_letters (by decide)).append_left gap).append_left _).orElse
      (needs_letters (by decide))
  have order : (letters "COLLATE").Needs isSolid := needs_letters (by decide)
  have word : (letters "REFERENCES").Needs isSolid := needs_letters (by decide)
  rw [List.forall_mem_cons, List.forall_mem_singleton]
  constructor
  · refine Needs.orElse ?_ ?_
    · exact ((set.append_right gap).append_left _).append_left _
    · exact ((order.append_right gap).append_left _).append_left _
  · exact ((((((word.append_right gap).append_left _).append_left _).append_left _).append_left
      _).append_left _).append_left _

section Runs

variable {change : Text → Text} {isPart : Char → Bool}

theorem countP_changed_le (less : ∀ code, (change code).countP isPart ≤ code.countP isPart)
    (runs : List Segment)
    : (Segment.changed change runs).countP isPart
      ≤ (runs.flatMap Segment.text).countP isPart := by
  induction runs with
  | nil => exact Nat.le_refl _
  | cons run others ih =>
      rw [Segment.changed] at ih ⊢
      rw [List.flatMap_cons, List.flatMap_cons, List.countP_append, List.countP_append]
      cases run with
      | code code => exact Nat.add_le_add (less code) ih
      | literal text => exact Nat.add_le_add_left ih _

/-- One run of code that becomes shorter makes the whole text shorter. -/
theorem countP_changed_lt (less : ∀ code, (change code).countP isPart ≤ code.countP isPart)
    {runs : List Segment} {code : Text} (member : .code code ∈ runs)
    (shorter : (change code).countP isPart < code.countP isPart)
    : (Segment.changed change runs).countP isPart
      < (runs.flatMap Segment.text).countP isPart := by
  obtain ⟨before, after, rfl⟩ := List.append_of_mem member
  have restBefore := countP_changed_le less before
  have restAfter := countP_changed_le less after
  rw [Segment.changed] at restBefore restAfter ⊢
  simp only [List.flatMap_append, List.flatMap_cons, List.countP_append, Segment.text]
  omega

end Runs

/-- The rules of the last step for code. -/
def stripped (code : Text) : Text :=
  [characterSet, reference].foldl (fun kept pattern => pattern.removeAll kept) code

theorem adaptItem_eq (item : Text)
    : Completion.adaptItem item = Segment.changed stripped (Segment.ofText .standard item) :=
  rfl

/-- An item stays in the last step exactly if no run of its code names a character set or a
collation and none refers to columns.
-/
theorem adaptItem_eq_iff (item : Text)
    : Completion.adaptItem item = item
      ↔ ∀ code, .code code ∈ Segment.ofText .standard item →
          ¬Holds NamesCharacterSet code ∧ ¬Holds RefersToColumns code := by
  have joined := QuotedName.flatMap_ofText .standard item
  have less (code : Text) : (stripped code).countP isSolid ≤ code.countP isSolid :=
    countP_foldl_removeAll_le _ isSolid code
  constructor
  · intro stays code member
    have absent {pattern : Pattern} (isRule : pattern ∈ [characterSet, reference])
        : pattern.occursIn code = false := by
      refine Bool.eq_false_iff.mpr fun occurs => ?_
      have shorter := countP_foldl_removeAll_lt lastRules_need ⟨pattern, isRule, occurs⟩
      have whole := countP_changed_lt less member shorter
      rw [← adaptItem_eq, stays, joined] at whole
      exact Nat.lt_irrefl _ whole
    rw [← characterSet_occursIn_iff, ← reference_occursIn_iff, absent (by simp),
      absent (by simp)]
    exact ⟨nofun, nofun⟩
  · intro absent
    have stays (code : Text) (member : .code code ∈ Segment.ofText .standard item)
        : stripped code = code := by
      have ⟨noSet, noReference⟩ := absent code member
      rw [← characterSet_occursIn_iff, Bool.not_eq_true] at noSet
      rw [← reference_occursIn_iff, Bool.not_eq_true] at noReference
      exact foldl_removeAll_of_not_occursIn (by simp [noSet, noReference])
    rw [adaptItem_eq, Segment.changed_of_unchanged stays, joined]

-----------------------------------------------------------------------------------------
-- Completed definitions
-----------------------------------------------------------------------------------------

/-- A completed definition has the items without the words of a foreign key in their code, in order.
Each of them is as it was exactly if no run of its code names a character set or a collation and
none refers to columns that are listed, so a reference that lists none is left.
-/
theorem definition_completed {sql head list body tail : Text}
    (opens : Parenthesis.firstOpen? sql = some (head, list))
    (closes : Parenthesis.body? list = some (body, tail))
    : ∃ kept : List Text,
        kept.Sublist (Parenthesis.parts body)
        ∧ (∀ item ∈ Parenthesis.parts body,
            item ∈ kept ↔ ¬foreignKeyWording.FoundIn (Segment.codeOf .standard item))
        ∧ Completion.adaptDefinition sql
          = head ++ "(" ++ Text.joinWith [','] (kept.map Completion.adaptItem) ++ ")"
        ∧ ∀ item ∈ kept, Completion.adaptItem item = item
          ↔ ∀ code, .code code ∈ Segment.ofText .standard item →
              ¬Holds NamesCharacterSet code ∧ ¬Holds RefersToColumns code := by
  refine ⟨(Parenthesis.parts body).filter (! isForeignKey ·), List.filter_sublist, ?_, ?_,
    fun item _ => adaptItem_eq_iff item⟩
  · intro item member
    have finds := foreignKey_finds (Segment.codeOf .standard item)
    rw [List.mem_filter, ← finds]
    simp [member, isForeignKey]
  · rw [Completion.adaptDefinition, opens]
    dsimp only
    rw [closes]

theorem definition_completed_plain
    : ∃ kept : List Text,
        kept.Sublist (Parenthesis.parts "a int REFERENCES x")
        ∧ (∀ item ∈ Parenthesis.parts "a int REFERENCES x",
            item ∈ kept ↔ ¬foreignKeyWording.FoundIn (Segment.codeOf .standard item))
        ∧ Completion.adaptDefinition "CREATE TABLE t (a int REFERENCES x);"
          = "CREATE TABLE t " ++ "(" ++ Text.joinWith [','] (kept.map Completion.adaptItem) ++ ")"
        ∧ ∀ item ∈ kept, Completion.adaptItem item = item
          ↔ ∀ code, .code code ∈ Segment.ofText .standard item →
              ¬Holds NamesCharacterSet code ∧ ¬Holds RefersToColumns code := by
  have opens : Parenthesis.firstOpen? "CREATE TABLE t (a int REFERENCES x);"
      = some (Text.ofString "CREATE TABLE t ", Text.ofString "(a int REFERENCES x);") := by
    decide +kernel
  have closes : Parenthesis.body? "(a int REFERENCES x);"
      = some (Text.ofString "a int REFERENCES x", Text.ofString ";") := by
    decide +kernel
  exact definition_completed opens closes

/-- A reference that lists no columns comes through the whole conversion. -/
theorem reference_survives
    : (Converter.convert ⟨ByPattern.strategy, ByPattern.strategy⟩ ⟨some "legacy", "finance"⟩
          "CREATE TABLE `t` (`a` int REFERENCES `x`);").sql
        = "CREATE TABLE legacy.\"finance\".\"t\" (\n  \"a\" integer REFERENCES \"x\"\n)" := by
  decide +kernel

end DumpTransfer.Conversion.Definition
