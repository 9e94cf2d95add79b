import DumpTransfer.Migration.Run
import DumpTransfer.Proofs.Conversion.InsertionByTree

/-! Insertions adapted by structure and by patterns. Both ways lead to the same tuples as far as
the same characters are meant by what stands after a backslash, and as long as no two quotes stand
in a row in a string.
-/

namespace DumpTransfer.Conversion.Insertion

open Sql

-----------------------------------------------------------------------------------------
-- What values mean
-----------------------------------------------------------------------------------------

/-- A value of the warehouse. -/
inductive Datum where
  | null
  | integer (text : Text)
  | string (value : Text)
  deriving DecidableEq

/-- What a value of a statement means in standard style, where a quote is written twice. -/
def meaning : Text → Datum
  | '\'' :: body => .string (Text.halving '\'' body.dropLast)
  | text => if Text.asciiUpper text = "NULL" then .null else .integer text

/-- What a string means, unless it stands for no date. -/
def stringDatum (value : Text) : Datum :=
  if isAbsentDate value then .null else .string value

/-- What a plain value means when its strings have the given values. -/
def Value.datum (stringOf : List Mark → Text) : Value → Datum
  | string _ marks => stringDatum (stringOf marks)
  | number text _ => .integer text
  | null _ | hexNumber _ _ _ | hexLiteral _ _ _ | bitLiteral _ _ _ => .null

theorem meaning_word {text : Text} (noQuote : text.head? ≠ some '\'')
    : meaning text = if Text.asciiUpper text = "NULL" then .null else .integer text := by
  unfold meaning
  split
  · exact absurd rfl noQuote
  · rfl

theorem meaning_null (word : Spelling "NULL")
    : meaning word.text = .null := by
  obtain ⟨first, others, same, letter⟩ := word.exists_first
  have noQuote : word.text.head? ≠ some '\'' := by
    rw [same]
    rintro quote
    rw [Option.some.inj quote] at letter
    cases letter
  rw [meaning_word noQuote, if_pos word.spells]

theorem meaning_string (value : Text)
    : meaning (if isAbsentDate value then "NULL" else literalText value) = stringDatum value := by
  unfold stringDatum
  split
  · exact meaning_null ⟨"NULL", spells_null⟩
  · simp [literalText, meaning, Text.halving_doubling]

theorem isSigned_of_isInteger {text : Text} (integer : isInteger text = true)
    : text ≠ [] ∧ ∀ char ∈ text, char.isDigit = true ∨ char = '-' ∨ char = '+' := by
  have digits {text : Text} (digits : isDigits text = true)
      : text ≠ [] ∧ ∀ char ∈ text, char.isDigit = true := by
    simpa [isDigits] using digits
  unfold isInteger at integer
  split at integer
  · refine ⟨by simp, fun char member => ?_⟩
    rcases List.mem_cons.mp member with rfl | member
    · exact Or.inr (Or.inl rfl)
    · exact Or.inl ((digits integer).2 char member)
  · refine ⟨by simp, fun char member => ?_⟩
    rcases List.mem_cons.mp member with rfl | member
    · exact Or.inr (Or.inr rfl)
    · exact Or.inl ((digits integer).2 char member)
  · exact ⟨(digits integer).1, fun char member => Or.inl ((digits integer).2 char member)⟩

theorem meaning_integer {text : Text} (integer : isInteger text = true)
    : meaning text = .integer text := by
  obtain ⟨isThere, signed⟩ := isSigned_of_isInteger integer
  obtain ⟨first, others, rfl⟩ := List.exists_cons_of_ne_nil isThere
  have part := signed first (by simp)
  have noQuote : (first :: others).head? ≠ some '\'' := by
    rintro same
    rw [Option.some.inj same] at part
    revert part
    decide
  have noWord : Text.asciiUpper (first :: others) ≠ "NULL" := by
    intro word
    rw [Text.ofString_eq] at word
    have capital : first.toUpper = 'N' := (List.cons.inj word).1
    have letter : first.isAlpha = true := Alphabet.isAlpha_of_toUpper (by rw [capital]; rfl)
    rcases part with digit | rfl | rfl
    · rw [Token.isDigit_of_isAlpha letter] at digit
      cases digit
    · cases letter
    · cases letter
  rw [meaning_word noQuote, if_neg noWord]

theorem meaning_adapted {value : Value} (isPlain : value.isPlain = true)
    : meaning value.adapted = value.datum stringValue := by
  cases value with
  | null word => exact meaning_null word
  | number text isNumber => exact meaning_integer isPlain
  | string introducer marks => exact meaning_string (stringValue marks)
  | hexNumber _ _ _ | hexLiteral _ _ _ | bitLiteral _ _ _ => cases isPlain

/-- What the warehouse gets for a string that is written anew. -/
def restoredString (marks : List Mark) : Text :=
  kept (restoredValue marks)

theorem meaning_restated {value : Value} (isPlain : value.isPlain = true)
    : meaning value.restated.adapted = value.datum restoredString := by
  cases value with
  | null word => exact meaning_null _
  | number text isNumber => exact meaning_integer isPlain
  | string introducer marks =>
      have same : stringValue ((restoredValue marks).map markOf) = restoredString marks := by
        rw [stringValue, value_marksOf]
        rfl
      rw [Value.restated, Value.adapted, same]
      exact meaning_string _
  | hexNumber _ _ _ | hexLiteral _ _ _ | bitLiteral _ _ _ => cases isPlain

-----------------------------------------------------------------------------------------
-- Strings that mean the same
-----------------------------------------------------------------------------------------

/-- Whether a mark is read as the character that it stands for. Letters for the bell, a backspace
and a form feed stand for themselves otherwise, and wildcards keep their backslash.
-/
def Mark.isAlike : Mark → Bool
  | plain _ _ | quotes => true
  | escaped char => !(['a', 'b', 'f', '%', '_'] : Text).contains char

theorem kept_read {mark : Mark} (alike : mark.isAlike = true)
    : kept mark.read = kept mark.value := by
  cases mark with
  | plain char isPlain => rfl
  | quotes => rfl
  | escaped char =>
      have read : (Mark.escaped char).read = [Token.unescaped char] := rfl
      rw [read]
      unfold Token.unescaped
      split <;> first
        | rfl
        | cases alike
        | skip
      have value : (Mark.escaped char).value = [char] := by
        unfold Mark.value
        split <;> simp_all [Mark.isAlike]
      rw [value]

/-- A text without two quotes in a row loses none. -/
theorem halving_of_apart {quote : Char} {text : Text}
    (apart : Text.includes text [quote, quote] = false)
    : Text.halving quote text = text := by
  induction text using Text.halving.induct quote with
  | case1 => rfl
  | case2 char => rfl
  | case3 first second rest both ih =>
      rw [Bool.and_eq_true, decide_eq_true_eq, decide_eq_true_eq] at both
      obtain ⟨rfl, rfl⟩ := both
      simp [Text.includes, Text.startsWith, Text.dropPrefix?] at apart
  | case4 first second rest other ih =>
      rw [Text.includes, Bool.or_eq_false_iff] at apart
      rw [Text.halving, if_neg other, ih apart.2]

/-- A string is read as what it stands for, without two quotes in a row. -/
def Value.IsAlike : Value → Prop
  | string _ marks =>
      (∀ mark ∈ marks, mark.isAlike = true)
        ∧ Text.includes (marks.flatMap Mark.read) ['\'', '\''] = false
  | null _ | number _ _ | hexNumber _ _ _ | hexLiteral _ _ _ | bitLiteral _ _ _ => True

instance : DecidablePred Value.IsAlike := fun value =>
  match value with
  | .string _ _ => inferInstanceAs (Decidable (_ ∧ _))
  | .null _ | .number _ _ | .hexNumber _ _ _ | .hexLiteral _ _ _ | .bitLiteral _ _ _ =>
      inferInstanceAs (Decidable True)

/-- Such a string is written anew as it was. -/
theorem restoredString_eq {introducer : Option Introducer} {marks : List Mark}
    (alike : (Value.string introducer marks).IsAlike)
    : restoredString marks = stringValue marks := by
  rw [restoredString, restoredValue, halving_of_apart alike.2, kept, List.filter_flatMap,
    stringValue, List.filter_flatMap]
  exact List.flatMap_congr fun mark member => kept_read (alike.1 mark member)

-----------------------------------------------------------------------------------------
-- Converting
-----------------------------------------------------------------------------------------

/-- A converter adapts a prepared statement by patterns: it prefers to, or what it prefers gives
up.
-/
def UsesPatterns (converter : Converter) (target : Destination) (prepared : Text) : Prop :=
  converter.preferred = ByPattern.strategy
    ∨ converter.alternative = ByPattern.strategy
      ∧ ∃ reason, (converter.preferred.adapt target prepared).result = .error reason

theorem isVoid_source (insertion : Insertion)
    : Converter.isVoid insertion.source = false := by
  obtain ⟨char, rest, same, space⟩ := insertion.exists_afterWord
  obtain ⟨first, others, word⟩ := List.exists_cons_of_ne_nil insertion.verb.word_ne_nil
  have letter := insertion.verb.isAlpha_word first (by simp [word])
  have notEnd : first ≠ ';' := by
    rintro rfl
    cases letter
  have member : first ∈ insertion.source := by
    rw [source_eq, assembled, same, word]
    simp
  refine Bool.eq_false_iff.mpr fun void => ?_
  have blank := List.all_eq_true.mp void first member
  simp [Alphabet.isBlank_of_isAlpha letter, notEnd] at blank

variable {target : Destination} {statement prepared sql : Text}

theorem convert_preferred {converter : Converter} {warnings : List Text}
    (prepares : Preparation.prepare statement = prepared)
    (notVoid : Converter.isVoid prepared = false)
    (adapts : converter.preferred.adapt target prepared = ⟨.ok sql, warnings⟩)
    : converter.convert target statement = Converter.completed target sql warnings false := by
  rw [Converter.convert, prepares]
  simp [notVoid, adapts]

theorem convert_usesPatterns {converter : Converter}
    (usesPatterns : UsesPatterns converter target prepared)
    (prepares : Preparation.prepare statement = prepared)
    (notVoid : Converter.isVoid prepared = false)
    (adapts : (ByPattern.strategy.adapt target prepared).result = .ok sql)
    : (converter.convert target statement).errors = []
      ∧ (converter.convert target statement).sql = (Completion.complete target sql).1 := by
  rw [Converter.convert, prepares]
  rcases usesPatterns with preferred | ⟨alternative, reason, refused⟩
  · simp [notVoid, preferred, adapts, Converter.completed]
  · simp [notVoid, refused, Converter.convertByAlternative, alternative, adapts,
      Converter.completed]

-----------------------------------------------------------------------------------------
-- Agreement
-----------------------------------------------------------------------------------------

/-- What the values of rows mean, row by row. -/
def meanings (tuples : List (List Value)) : List (List Datum) :=
  tuples.map fun values => values.map fun value => meaning value.adapted

theorem mem_values_iff {insertion : Insertion} {value : Value}
    : value ∈ values insertion.rows ↔ ∃ tuple ∈ insertion.tuples, value ∈ tuple := by
  simp [values, tuples]

/-- Rows mean the same in both forms exactly when their strings do. -/
theorem meanings_eq_iff {insertion : Insertion} (plain : insertion.IsPlain)
    : meanings insertion.restatedTuples = meanings insertion.tuples
      ↔ ∀ introducer marks, .string introducer marks ∈ values insertion.rows →
          stringDatum (restoredString marks) = stringDatum (stringValue marks) := by
  have ofValue {value : Value} (member : value ∈ values insertion.rows)
      : meaning value.restated.adapted = meaning value.adapted
        ↔ value.datum restoredString = value.datum stringValue := by
    rw [meaning_restated (plain.values value member), meaning_adapted (plain.values value member)]
  have pointwise
      : meanings insertion.restatedTuples = meanings insertion.tuples
        ↔ ∀ value ∈ values insertion.rows,
            meaning value.restated.adapted = meaning value.adapted := by
    rw [meanings, meanings, restatedTuples, List.map_map, List.map_inj_left]
    simp only [Function.comp_apply, List.map_map, List.map_inj_left, mem_values_iff]
    constructor
    · rintro same value ⟨tuple, inRows, inTuple⟩
      exact same tuple inRows value inTuple
    · intro same tuple inRows value inTuple
      exact same value ⟨tuple, inRows, inTuple⟩
  rw [pointwise]
  constructor
  · intro same introducer marks member
    exact (ofValue member).mp (same _ member)
  · intro same value member
    refine (ofValue member).mpr ?_
    cases value with
    | string introducer marks => exact same introducer marks member
    | null _ | number _ _ | hexNumber _ _ _ | hexLiteral _ _ _ | bitLiteral _ _ _ => rfl

/-- Rows of null, integers and strings come through both ways. The standard converter adapts them
by structure and writes them anew, a converter that goes by patterns keeps their layout, and the
tuples mean the same exactly when every string does after it was read and written, as every one
does that is alike. No string and no name may have a quote right after a backslash once it is read.
-/
theorem rows_agree_iff {insertion : Insertion} (plain : insertion.IsPlain)
    (steady : ∀ value ∈ values insertion.rows, value.IsSteady) {target : Destination} {name : Text}
    (named : insertion.name = .quoted name) (steadyName : SteadyName target name)
    {statement : Text} (prepares : Preparation.prepare statement = insertion.source)
    : ((Migration.standardConverter.convert target statement).errors = []
        ∧ (Migration.standardConverter.convert target statement).byAlternative = false
        ∧ (Migration.standardConverter.convert target statement).sql
          = "INSERT INTO " ++ restatedTable target name ++ " VALUES "
            ++ listed (insertion.restatedTuples.map fun values => values.map Value.adapted))
      ∧ (∀ converter, UsesPatterns converter target insertion.source →
          (converter.convert target statement).errors = []
          ∧ (converter.convert target statement).sql = insertion.adapted target)
      ∧ (meanings insertion.restatedTuples = meanings insertion.tuples
        ↔ ∀ introducer marks, .string introducer marks ∈ values insertion.rows →
            stringDatum (restoredString marks) = stringDatum (stringValue marks))
      ∧ ((∀ value ∈ values insertion.rows, value.IsAlike) →
          meanings insertion.restatedTuples = meanings insertion.tuples) := by
  have notVoid := insertion.isVoid_source
  have adapted : Migration.standardConverter.preferred.adapt target insertion.source = _ :=
    adaptByTree_source plain steady target named steadyName
  have standard := convert_preferred prepares notVoid adapted
  have byPatterns (converter : Converter)
      (usesPatterns : UsesPatterns converter target insertion.source)
      : (converter.convert target statement).errors = []
        ∧ (converter.convert target statement).sql = insertion.adapted target := by
    obtain ⟨errors, sql⟩ := convert_usesPatterns usesPatterns prepares notVoid
      (insertion.adapt_source target)
    rw [insertion.complete_halfway] at sql
    exact ⟨errors, sql⟩
  have agree := meanings_eq_iff plain
  refine ⟨?_, byPatterns, agree, fun alike => agree.mpr fun introducer marks member => ?_⟩
  · rw [standard]
    exact ⟨rfl, rfl, complete_byTree plain target name⟩
  · rw [restoredString_eq (alike _ member)]

/-- An insertion into `t` of one row. -/
def rowOf (values : List Value) : Insertion where
  before := noSpace
  verb := .insert ⟨"INSERT", spells_insert⟩
  beforeInto := oneGap
  into := ⟨"INTO", spells_into⟩
  beforeName := oneGap
  name := .quoted ['t']
  afterName := oneGap
  valuesWord := ⟨"VALUES", spells_values⟩
  rows := [⟨oneSpace, entriesOf values, noSpace⟩]
  terminator := some noSpace

/-- A schema inside a catalog. -/
def finance : Destination :=
  ⟨some "legacy", "finance"⟩

/-- A row with a negative number, with quotes written in either way, and with null. -/
def quotedRow : Insertion :=
  rowOf [.number ['-', '1'] (List.forall_mem_cons.mpr ⟨rfl, List.forall_mem_singleton.mpr rfl⟩),
    .string none [.plain 'i' (by decide), .plain 't' (by decide), .escaped '\'',
      .plain 's' (by decide), .plain ' ' (by decide), .plain '5' (by decide), .quotes],
    .null ⟨"NULL", spells_null⟩]

theorem quotedRow_isPlain
    : quotedRow.IsPlain := by
  refine ⟨⟨_, rfl⟩, ⟨_, rfl⟩, nofun, ?_⟩
  decide

theorem quotedRow_agrees
    : (Migration.standardConverter.convert finance quotedRow.source).sql
        = "INSERT INTO legacy.\"finance\".\"t\" VALUES (-1, 'it''s 5''', NULL)"
      ∧ meanings quotedRow.restatedTuples = meanings quotedRow.tuples := by
  have steadyName : SteadyName finance ['t'] := by
    refine ⟨by decide +kernel, by decide +kernel, fun catalog member => ?_⟩
    obtain rfl := Option.some.inj member
    decide +kernel
  have prepares : Preparation.prepare quotedRow.source = quotedRow.source := by
    decide +kernel
  have named : quotedRow.name = .quoted ['t'] := rfl
  obtain ⟨⟨_, _, sql⟩, _, _, agree⟩ :=
    rows_agree_iff quotedRow_isPlain (by decide +kernel) named steadyName prepares
  refine ⟨sql.trans ?_, agree (by decide +kernel)⟩
  decide +kernel

/-- A backspace that is written with its letter stays one for the standard converter and becomes
the letter by patterns.
-/
theorem backspace_read_differently
    : (Migration.standardConverter.convert finance "INSERT INTO `t` VALUES ('a\\bc');").sql
        = "INSERT INTO legacy.\"finance\".\"t\" VALUES ('a\x08c')"
      ∧ (Converter.convert ⟨ByPattern.strategy, ByPattern.strategy⟩ finance
          "INSERT INTO `t` VALUES ('a\\bc');").sql
        = "INSERT INTO legacy.\"finance\".\"t\" VALUES ('abc')" := by
  decide +kernel

end DumpTransfer.Conversion.Insertion
