import DumpTransfer.ColumnType
import DumpTransfer.Proofs.ForeignKey.Declarations
import Mathlib.Algebra.Group.Int.Defs

/-! Integer columns and the types that hold their values. However an integer type is spelled, its
name, its width and its sign are read off, and the warehouse type has room for all of its values,
unless a warning says that it has not.
-/

namespace DumpTransfer.ColumnType

open Pattern
open Conversion.Heading (isKeyword areApart)
open Conversion.Insertion (Spelling)
open ForeignKey (Spaces)

-----------------------------------------------------------------------------------------
-- Values
-----------------------------------------------------------------------------------------

/-- The integer types of dumps. -/
inductive IntegerName where
  | tinyint
  | smallint
  | mediumint
  | int
  | integer
  | bigint
  | bool
  | boolean
  deriving DecidableEq, Repr

namespace IntegerName

def capitals : IntegerName → String
  | tinyint => "TINYINT"
  | smallint => "SMALLINT"
  | mediumint => "MEDIUMINT"
  | int => "INT"
  | integer => "INTEGER"
  | bigint => "BIGINT"
  | bool => "BOOL"
  | boolean => "BOOLEAN"

/-- The name in small letters. -/
def base (name : IntegerName) : Text :=
  name.capitals.toList.map Char.toLower

/-- The number of bits of a value. -/
def bits : IntegerName → Nat
  | tinyint | bool | boolean => 8
  | smallint => 16
  | mediumint => 24
  | int | integer => 32
  | bigint => 64

/-- Whether a column of the type, with a sign or without, can hold a value. -/
def Holds (name : IntegerName) (isUnsigned : Bool) (value : Int) : Prop :=
  if isUnsigned then 0 ≤ value ∧ value < 2 ^ name.bits
  else -2 ^ (name.bits - 1) ≤ value ∧ value < 2 ^ (name.bits - 1)

end IntegerName

/-- The types of the warehouse for integers. Those that number rows hold what the type of the same
width holds.
-/
inductive WarehouseInteger where
  | smallint
  | integer
  | bigint
  /-- Whole numbers of twenty digits. -/
  | numeric
  | smallserial
  | serial
  | bigserial
  deriving DecidableEq, Repr

namespace WarehouseInteger

def name : WarehouseInteger → Text
  | smallint => "smallint"
  | integer => "integer"
  | bigint => "bigint"
  | numeric => "numeric(20,0)"
  | smallserial => "smallserial"
  | serial => "serial"
  | bigserial => "bigserial"

/-- Whether a column of the type can hold a value. -/
def Holds (type : WarehouseInteger) (value : Int) : Prop :=
  match type with
  | smallint | smallserial => -2 ^ 15 ≤ value ∧ value < 2 ^ 15
  | integer | serial => -2 ^ 31 ≤ value ∧ value < 2 ^ 31
  | bigint | bigserial => -2 ^ 63 ≤ value ∧ value < 2 ^ 63
  | numeric => -10 ^ 20 < value ∧ value < 10 ^ 20

end WarehouseInteger

-----------------------------------------------------------------------------------------
-- Spellings
-----------------------------------------------------------------------------------------

/-- A word after an integer type. -/
inductive Modifier where
  | unsigned (spelling : Spelling "UNSIGNED")
  | signed (spelling : Spelling "SIGNED")
  | zerofill (spelling : Spelling "ZEROFILL")

namespace Modifier

def text : Modifier → Text
  | unsigned spelling => spelling.text
  | signed spelling => spelling.text
  | zerofill spelling => spelling.text

def isUnsigned : Modifier → Bool
  | unsigned _ => true
  | signed _ | zerofill _ => false

end Modifier

/-- A display width between parentheses. -/
structure Width where
  before : Spaces
  first : Spaces
  digits : Text
  areDigits : ∀ char ∈ digits, char.isDigit = true
  last : Spaces

def Width.text (width : Width) : Text :=
  width.before.text
    ++ '(' :: (width.first.text ++ (width.digits ++ width.last.text)) ++ [')']

/-- An integer type as a table definition declares it. -/
structure IntegerDeclaration where
  before : Spaces
  name : IntegerName
  spelling : Spelling name.capitals
  width : Option Width
  modifiers : List (Spaces × Modifier)
  after : Spaces

namespace IntegerDeclaration

/-- The words after the width and the white space around them. -/
def modifiersText (declaration : IntegerDeclaration) : Text :=
  declaration.modifiers.flatMap (fun (spaces, modifier) => spaces.text ++ modifier.text)
    ++ declaration.after.text

def text (declaration : IntegerDeclaration) : Text :=
  declaration.before.text
    ++ (declaration.spelling.text
      ++ ((declaration.width.map Width.text).getD [] ++ declaration.modifiersText))

/-- The digits of the width, if there are any. -/
def widthText (declaration : IntegerDeclaration) : Option Text :=
  (declaration.width.map Width.digits).filter (! ·.isEmpty)

/-- Whether the word for numbers without a sign is among those after the type. -/
def isUnsigned (declaration : IntegerDeclaration) : Bool :=
  declaration.modifiers.any fun (_, modifier) => modifier.isUnsigned

end IntegerDeclaration

-----------------------------------------------------------------------------------------
-- Words after a type
-----------------------------------------------------------------------------------------

variable {word : String} {text tail : Text} {found : List Modifier}

theorem small_eq_foldCase {char : Char} (ascii : char.toNat < 128)
    : small char = Alphabet.foldCase char := by
  rw [small, Alphabet.foldCase, if_neg (by omega), if_neg (by omega)]

theorem ascii_of_spelling (known : isKeyword word = true)
    (spelling : Spelling word) {char : Char} (member : char ∈ spelling.text)
    : char.toNat < 128 := by
  rcases Conversion.Heading.isUpper_or_of_mem known member with upper | rfl
  · exact Alphabet.toNat_of_isAlpha (Alphabet.isAlpha_of_toUpper upper)
  · decide

/-- A word reads alike in small letters, whatever the case of its letters. -/
theorem map_small_spelling (known : isKeyword word = true)
    (spelling : Spelling word)
    : spelling.text.map small = word.toList.map Char.toLower := by
  rw [← Conversion.Heading.foldCase_spelling known spelling]
  exact List.map_congr_left fun char member =>
    small_eq_foldCase (ascii_of_spelling known spelling member)

/-- Text after a type that consists of words and white space. -/
inductive Modifies : Text → List Modifier → Prop where
  | nil : Modifies [] []
  | blank {char : Char} (isBlank : Alphabet.isBlank char = true) {text : Text}
      {found : List Modifier} (later : Modifies text found) : Modifies (char :: text) found
  | word (modifier : Modifier) {text : Text} {found : List Modifier}
      (later : Modifies text found) : Modifies (modifier.text ++ text) (modifier :: found)

theorem Modifies.blanks {spaces : Text} (blank : Text.Blank spaces) (later : Modifies text found)
    : Modifies (spaces ++ text) found := by
  induction spaces with
  | nil => exact later
  | cons space more ih =>
      obtain ⟨first, others⟩ := List.forall_mem_cons.mp blank
      exact .blank first (ih others)

theorem IntegerDeclaration.modifies (declaration : IntegerDeclaration)
    : Modifies declaration.modifiersText (declaration.modifiers.map Prod.snd) := by
  unfold modifiersText
  induction declaration.modifiers with
  | nil =>
      have none : Modifies (declaration.after.text ++ []) [] := .blanks declaration.after.blank .nil
      rwa [List.append_nil] at none
  | cons first others ih =>
      obtain ⟨spaces, modifier⟩ := first
      rw [List.flatMap_cons, List.append_assoc, List.append_assoc]
      exact .blanks spaces.blank (.word modifier ih)

namespace Modifier

/-- The word in small letters. -/
def small : Modifier → String
  | unsigned _ => "unsigned"
  | signed _ => "signed"
  | zerofill _ => "zerofill"

theorem map_foldCase_text (modifier : Modifier)
    : modifier.text.map Alphabet.foldCase = modifier.small.toList.map Char.toLower := by
  cases modifier with
  | unsigned spelling | signed spelling | zerofill spelling =>
      refine (Conversion.Heading.foldCase_spelling rfl spelling).trans ?_
      simp only [small]
      decide

theorem map_small_text (modifier : Modifier)
    : modifier.text.map ColumnType.small = modifier.small.toList := by
  cases modifier with
  | unsigned spelling | signed spelling | zerofill spelling =>
      refine (map_small_spelling rfl spelling).trans ?_
      simp only [small]
      decide

/-- The words consist of letters. -/
theorem isAlpha_foldCase (modifier : Modifier) {char : Char} (member : char ∈ modifier.text)
    : (Alphabet.foldCase char).isAlpha = true := by
  have letters : (modifier.small.toList.map Char.toLower).all Char.isAlpha = true := by
    cases modifier <;> simp only [small] <;> decide
  have inWord := List.mem_map_of_mem (f := Alphabet.foldCase) member
  rw [modifier.map_foldCase_text] at inWord
  exact List.all_eq_true.mp letters _ inWord

theorem text_ne_nil (modifier : Modifier)
    : modifier.text ≠ [] := by
  cases modifier with
  | unsigned spelling | signed spelling | zerofill spelling =>
      exact Conversion.Heading.spelling_ne_nil rfl spelling

/-- A word is taken, whichever it is. -/
theorem takes (modifier : Modifier) (rest : Text)
    : ColumnType.modifier.Takes modifier.text rest := by
  have spelled := modifier.map_foldCase_text
  cases modifier with
  | unsigned spelling =>
      have word : (letters "unsigned").Takes spelling.text rest := letters_takes spelled rest
      exact word.orElse _
  | signed spelling =>
      have word : (letters "signed").Takes spelling.text rest := letters_takes spelled rest
      have other : (letters "unsigned").Misses (spelling.text ++ rest) :=
        Conversion.Heading.spelling_misses rfl (by decide) spelling rest
      exact other.orElse_takes (word.orElse _)
  | zerofill spelling =>
      have word : (letters "zerofill").Takes spelling.text rest := letters_takes spelled rest
      have other : (letters "unsigned").Misses (spelling.text ++ rest) :=
        Conversion.Heading.spelling_misses rfl (by decide) spelling rest
      have another : (letters "signed").Misses (spelling.text ++ rest) :=
        Conversion.Heading.spelling_misses rfl (by decide) spelling rest
      exact other.orElse_takes (another.orElse_takes word)

end Modifier

/-- One word after a type, or one character of white space. -/
def piece : Pattern :=
  modifier <|> .one Alphabet.isBlank

/-- What none of the words begins like is missed. -/
theorem modifier_misses (misses : ∀ word ∈ ["unsigned", "signed", "zerofill"],
      (letters word).Misses text)
    : modifier.Misses text := by
  refine (misses "unsigned" (by simp)).orElse ?_
  exact (misses "signed" (by simp)).orElse (misses "zerofill" (by simp))

theorem piece_misses (misses : modifier.Misses text)
    (stop : ∀ char ∈ text.head?, Alphabet.isBlank char = false)
    : piece.Misses text := by
  refine misses.orElse ?_
  cases text with
  | nil =>
      intro next place after
      rw [one_andThen_eq, after]
  | cons char rest => exact one_misses (stop char rfl) rest

theorem modifier_misses_nil
    : modifier.Misses [] := by
  have none {word : String} {first : Char} {more : List Char}
      (spelled : word.toList = first :: more)
      : (letters word).Misses [] := by
    refine fun next place after => Option.eq_none_iff_forall_ne_some.mpr fun reached matched => ?_
    obtain ⟨char, rest, stands, -⟩ := head_of_letters spelled matched
    cases after.symm.trans stands
  refine modifier_misses fun word member => ?_
  simp only [List.mem_cons, List.not_mem_nil, or_false] at member
  rcases member with rfl | rfl | rfl <;> exact none rfl

theorem piece_takes_blank {char : Char} (blank : Alphabet.isBlank char = true) (rest : Text)
    : piece.Takes [char] rest := by
  have noLetter := Conversion.Heading.foldCase_of_isBlank blank
  have other {letter : Char} (isLetter : letter.isAlpha = true)
      : Alphabet.foldCase char ≠ letter := by
    rintro rfl
    cases noLetter.symm.trans isLetter
  have misses : modifier.Misses (char :: rest) := modifier_misses fun word member => by
    simp only [List.mem_cons, List.not_mem_nil, or_false] at member
    rcases member with rfl | rfl | rfl <;>
      exact (letters_cannotBegin rfl (other (by decide))).misses rest
  exact Misses.orElse_takes misses (one_takes blank rest)

/-- All that follows a type is taken piece by piece. -/
theorem Modifies.exists_pieces (modifies : Modifies text found)
    : ∃ pieces : List Text,
        text = pieces.flatten
        ∧ ∀ part ∈ pieces, part ≠ [] ∧ ∀ rest, piece.Takes part rest := by
  induction modifies with
  | nil => exact ⟨[], rfl, by simp⟩
  | @blank char blank text found later ih =>
      obtain ⟨pieces, rfl, each⟩ := ih
      refine ⟨[char] :: pieces, rfl, List.forall_mem_cons.mpr ⟨⟨by simp, fun rest => ?_⟩, each⟩⟩
      exact piece_takes_blank blank rest
  | word modifier later ih =>
      obtain ⟨pieces, rfl, each⟩ := ih
      refine ⟨modifier.text :: pieces, rfl, List.forall_mem_cons.mpr ⟨?_, each⟩⟩
      exact ⟨modifier.text_ne_nil, fun rest => (modifier.takes rest).orElse _⟩

/-- Words and white space are all that a type is followed by. -/
theorem Modifies.matchStart?_isSome (modifies : Modifies text found)
    : (modifiers.matchStart? text).isSome = true := by
  obtain ⟨pieces, rfl, each⟩ := modifies.exists_pieces
  have nothing : piece.Misses [] := piece_misses modifier_misses_nil (by simp)
  have taken := many_takes each nothing
  have start : (Place.start pieces.flatten).after = pieces.flatten ++ [] := by
    rw [List.append_nil]
    rfl
  have found := taken (textEnd.andThen some) (.start pieces.flatten) _ start
    (check_andThen rfl)
  rw [matchStart?, matchAt?, modifiers, append_andThen]
  exact Option.isSome_iff_exists.mpr ⟨_, found⟩

/-- A text that begins with none of the words and with no white space is not what a type is
followed by.
-/
theorem matchStart?_eq_none (misses : modifier.Misses text) {first : Char} {rest : Text}
    (begins : text = first :: rest) (stop : Alphabet.isBlank first = false)
    : modifiers.matchStart? text = none := by
  have none := piece_misses misses (by simpa [begins] using stop)
  have left : (Place.start text).after = text := rfl
  rw [matchStart?, matchAt?, modifiers, append_andThen]
  change manyThen piece.andThen _ _ _ = _
  rw [manyThen_of_misses none left, textEnd]
  simp [andThen, Place.start, begins]

/-- White space before the words can be passed over, and what is left does not begin with a
parenthesis.
-/
theorem Modifies.dropWhile (modifies : Modifies text found)
    : Modifies (text.dropWhile Alphabet.isBlank) found
      ∧ ∀ char ∈ (text.dropWhile Alphabet.isBlank).head?, char ≠ '(' := by
  induction modifies with
  | nil => exact ⟨.nil, by simp⟩
  | blank blank later ih => rwa [List.dropWhile_cons_of_pos blank]
  | @word modifier text found later ih =>
      obtain ⟨first, rest, same⟩ := List.exists_cons_of_ne_nil modifier.text_ne_nil
      have inWord : first ∈ modifier.text := by simp [same]
      have letter := modifier.isAlpha_foldCase inWord
      have notBlank : Alphabet.isBlank first = false := by
        refine Bool.eq_false_iff.mpr fun blank => ?_
        cases (Conversion.Heading.foldCase_of_isBlank blank).symm.trans letter
      have stays : (modifier.text ++ text).dropWhile Alphabet.isBlank = modifier.text ++ text := by
        rw [same, List.cons_append, List.dropWhile_cons_of_neg (by simp [notBlank])]
      rw [stays]
      refine ⟨.word modifier later, fun char head => ?_⟩
      rw [same] at head
      obtain rfl := Option.some.inj head
      rintro rfl
      cases letter

/-- There are no parentheses among the words. -/
theorem Modifies.no_close (modifies : Modifies text found)
    : ')' ∉ text := by
  induction modifies with
  | nil => simp
  | blank blank later ih =>
      rw [List.mem_cons, not_or]
      refine ⟨?_, ih⟩
      rintro rfl
      cases blank
  | word modifier later ih =>
      rw [List.mem_append, not_or]
      refine ⟨fun member => ?_, ih⟩
      cases modifier.isAlpha_foldCase member

/-- The word for numbers without a sign is found exactly if it is one of the words. Of these it is
the only one with its first letter.
-/
theorem Modifies.includes_unsigned (modifies : Modifies text found)
    : Text.includes (text.map small) "unsigned" = found.any Modifier.isUnsigned := by
  rw [Bool.eq_iff_iff, List.any_eq_true]
  constructor
  · intro within
    rw [Text.ofString_eq] at within
    have letter : 'u' ∈ text.map small := Text.mem_of_includes within
    clear within
    induction modifies with
    | nil => cases letter
    | @blank char blank text found later ih =>
        rw [List.map_cons, List.mem_cons] at letter
        rcases letter with same | later
        · have other := Alphabet.holds_of_isBlank (small · ≠ 'u') (by decide +kernel) blank
          exact absurd same.symm (of_decide_eq_true other)
        · exact ih later
    | @word modifier text found later ih =>
        rw [List.map_append, List.mem_append, modifier.map_small_text] at letter
        cases modifier with
        | unsigned spelling => exact ⟨_, List.mem_cons_self, rfl⟩
        | signed spelling | zerofill spelling =>
            rcases letter with here | there
            · exact absurd here (by simp only [Modifier.small]; decide)
            · obtain ⟨other, member, isUnsigned⟩ := ih there
              exact ⟨other, List.mem_cons_of_mem _ member, isUnsigned⟩
  · rintro ⟨modifier, member, isUnsigned⟩
    induction modifies with
    | nil => cases member
    | @blank char blank text found later ih =>
        exact Text.includes_append [small char] (ih member)
    | @word other text found later ih =>
        rw [List.map_append]
        rcases List.mem_cons.mp member with rfl | there
        · cases modifier with
          | signed _ | zerofill _ => cases isUnsigned
          | unsigned spelling =>
              rw [Modifier.map_small_text, Modifier.small, Text.ofString_eq]
              exact Text.includes_beginning _ _
        · exact Text.includes_append _ (ih there)

-----------------------------------------------------------------------------------------
-- The parts of a type
-----------------------------------------------------------------------------------------

theorem atLastClose?_append (inside : Text) {rest : Text} (noClose : ')' ∉ rest)
    : atLastClose? (inside ++ ')' :: rest) = some (inside, rest) := by
  have other : ∀ char ∈ rest.reverse, decide (char ≠ ')') = true := fun char member => by
    rw [decide_eq_true_eq]
    rintro rfl
    exact noClose (List.mem_reverse.mp member)
  have backwards : (inside ++ ')' :: rest).reverse = rest.reverse ++ ')' :: inside.reverse := by
    simp
  have stop : ((')' :: inside.reverse).dropWhile fun char => decide (char ≠ ')'))
      = ')' :: inside.reverse :=
    List.dropWhile_cons_of_neg (by simp)
  rw [atLastClose?, backwards, List.dropWhile_append_of_pos other, stop]
  simp

theorem afterName?_of_width (width : Width) (modifies : Modifies text found)
    : afterName? (width.text ++ text)
      = some (some (width.first.text ++ (width.digits ++ width.last.text)), text) := by
  have dropped : (width.text ++ text).dropWhile Alphabet.isBlank
      = '(' :: (width.first.text ++ (width.digits ++ width.last.text) ++ ')' :: text) := by
    rw [Width.text, List.append_assoc, List.append_assoc,
      List.dropWhile_append_of_pos width.before.blank, List.cons_append,
      List.dropWhile_cons_of_neg (by decide)]
    simp
  rw [afterName?, dropped]
  simp only [atLastClose?_append _ modifies.no_close]
  simp [modifies.matchStart?_isSome]

theorem afterName?_of_modifies (modifies : Modifies text found)
    : afterName? text = some (none, text.dropWhile Alphabet.isBlank) := by
  obtain ⟨modifies, noOpen⟩ := modifies.dropWhile
  rw [afterName?]
  generalize text.dropWhile Alphabet.isBlank = rest at modifies noOpen
  cases rest with
  | nil => simp [modifies.matchStart?_isSome]
  | cons char more =>
      have other : char ≠ '(' := noOpen char rfl
      simp [modifies.matchStart?_isSome, other]

/-- Where neither white space nor a parenthesis nor a word after a type begins, no name ends. -/
theorem afterName?_eq_none (misses : modifier.Misses text) {first : Char} {rest : Text}
    (begins : text = first :: rest) (stop : Alphabet.isBlank first = false) (noOpen : first ≠ '(')
    : afterName? text = none := by
  have none := matchStart?_eq_none misses begins stop
  have stays : text.dropWhile Alphabet.isBlank = text := by
    rw [begins, List.dropWhile_cons_of_neg (by simp [stop])]
  rw [afterName?, stays]
  subst begins
  simp [none, noOpen]

/-- A name is read up to the place where what may follow it does follow. -/
theorem named?_of_parts {done left : Text} {type : ColumnType}
    (parts : ∀ char ∈ left, isNamePart char = true)
    (early : ∀ before after, left = before ++ after → after ≠ [] →
      afterName? (after ++ tail) = none)
    (here : named?.complete (done ++ left) tail = some type)
    : named? done (left ++ tail) = some type := by
  induction left generalizing done with
  | nil =>
      rw [List.append_nil] at here
      rw [List.nil_append]
      cases tail with
      | nil => exact here
      | cons char rest => rw [named?, here]; rfl
  | cons char more ih =>
      obtain ⟨isPart, others⟩ := List.forall_mem_cons.mp parts
      have nothing : named?.complete done (char :: (more ++ tail)) = none := by
        have none := early [] (char :: more) rfl (by simp)
        rw [List.cons_append] at none
        rw [named?.complete, none]
        rfl
      have later : named? (done ++ [char]) (more ++ tail) = some type := by
        refine ih others (fun before after split => early (char :: before) after ?_) ?_
        · rw [split, List.cons_append]
        · rwa [List.append_assoc, List.singleton_append]
      rw [List.cons_append, named?, nothing, if_pos isPart, later]
      rfl

/-- The digits of a width are what is left of it without white space. -/
theorem Width.trim_inside (width : Width)
    : Text.trim (width.first.text ++ (width.digits ++ width.last.text)) = width.digits := by
  have solid {char : Char} (member : char ∈ width.digits) : Alphabet.isBlank char = false := by
    refine Bool.eq_false_iff.mpr fun blank => ?_
    have noDigit := Alphabet.holds_of_isBlank (! Char.isDigit ·) (by decide +kernel) blank
    rw [width.areDigits char member] at noDigit
    cases noDigit
  cases digits : width.digits with
  | nil =>
      have blank : ∀ char ∈ width.first.text ++ width.last.text, Alphabet.isBlank char = true :=
        fun char member => (List.mem_append.mp member).elim (width.first.blank char)
          (width.last.blank char)
      rw [List.nil_append, Text.trim, Text.trimWhile, List.dropWhile_eq_nil_iff.mpr blank]
      rfl
  | cons first more =>
      have isThere : width.digits ≠ [] := by simp [digits]
      obtain ⟨init, last, split⟩ := (List.eq_nil_or_concat width.digits).resolve_left isThere
      rw [List.concat_eq_append] at split
      have lastDigit : last ∈ width.digits := by simp [split]
      have noEnd : last ≠ ';' := by
        rintro rfl
        cases width.areDigits ';' lastDigit
      have tight : Text.Tight width.digits := ⟨init, last, split, solid lastDigit, noEnd⟩
      rw [← digits]
      exact tight.trim_append digits (solid (by simp [digits])) width.first.blank width.last.blank

namespace IntegerName

theorem isKeyword_capitals (name : IntegerName)
    : isKeyword name.capitals = true := by
  cases name <;> decide

/-- No end of a name begins like a word that may follow it. -/
theorem areApart_drop (name : IntegerName)
    : ∀ count < name.capitals.toList.length, 0 < count →
        ∀ word ∈ ["unsigned", "signed", "zerofill"],
          areApart (String.ofList (name.capitals.toList.drop count)) word = true := by
  cases name <;> decide

variable {name : IntegerName} (spelling : Spelling name.capitals)

theorem isLower_foldCase {char : Char} (member : char ∈ spelling.text)
    : (Alphabet.foldCase char).isLower = true := by
  have letters : (name.capitals.toList.map Char.toLower).all Char.isLower = true := by
    cases name <;> decide
  have inWord := List.mem_map_of_mem (f := Alphabet.foldCase) member
  rw [Conversion.Heading.foldCase_spelling name.isKeyword_capitals spelling] at inWord
  exact List.all_eq_true.mp letters _ inWord

theorem isAlpha_foldCase {char : Char} (member : char ∈ spelling.text)
    : (Alphabet.foldCase char).isAlpha = true := by
  have letter (other : Char) : other.isAlpha = (other.isUpper || other.isLower) := rfl
  rw [letter, isLower_foldCase spelling member, Bool.or_true]

theorem isBlank_eq_false {char : Char} (member : char ∈ spelling.text)
    : Alphabet.isBlank char = false := by
  refine Bool.eq_false_iff.mpr fun blank => ?_
  cases (Conversion.Heading.foldCase_of_isBlank blank).symm.trans (isAlpha_foldCase spelling member)

/-- No name ends within the spelling of another one. -/
theorem afterName?_within {before after : Text} (split : spelling.text = before ++ after)
    (begun : before ≠ []) (isThere : after ≠ []) (tail : Text)
    : afterName? (after ++ tail) = none := by
  obtain ⟨first, rest, same⟩ := List.exists_cons_of_ne_nil isThere
  have member : first ∈ spelling.text := by simp [split, same]
  have spelled := Conversion.Heading.foldCase_spelling name.isKeyword_capitals spelling
  have short : before.length < name.capitals.toList.length := by
    have lengths := congrArg List.length spelled
    rw [split] at lengths
    simp only [List.length_map, List.length_append, same, List.length_cons] at lengths
    omega
  have left : after.map Alphabet.foldCase
      = (String.ofList (name.capitals.toList.drop before.length)).toList.map Char.toLower := by
    rw [String.toList_ofList, List.map_drop, ← spelled, split, List.map_append,
      List.drop_left' (by rw [List.length_map])]
  have misses : modifier.Misses (after ++ tail) := modifier_misses fun word isWord =>
    Conversion.Heading.letters_misses_of_areApart
      (name.areApart_drop _ short (List.length_pos_iff.mpr begun) word isWord) left tail
  refine afterName?_eq_none misses (by rw [same, List.cons_append])
    (isBlank_eq_false spelling member) ?_
  rintro rfl
  cases isAlpha_foldCase spelling member

end IntegerName

/-- The name of an integer type is one word, whatever the case of its letters. -/
theorem base_of_spelling {name : IntegerName} (spelling : Spelling name.capitals)
    : (Text.joinWith [' '] (Text.words spelling.text)).map small = name.base := by
  have solid : ∀ char ∈ spelling.text, Alphabet.isBlank char = false :=
    fun char => IntegerName.isBlank_eq_false spelling
  have isThere := Conversion.Heading.spelling_ne_nil name.isKeyword_capitals spelling
  rw [Text.words_of_solid isThere solid, Text.joinWith,
    map_small_spelling name.isKeyword_capitals spelling]
  rfl

namespace IntegerDeclaration

variable (declaration : IntegerDeclaration)

theorem includes_unsigned {text : Text}
    (modifies : Modifies text (declaration.modifiers.map Prod.snd))
    : Text.includes (text.map small) "unsigned" = declaration.isUnsigned := by
  rw [modifies.includes_unsigned, List.any_map]
  rfl

/-- The type is read where its name ends. -/
theorem complete_eq
    : named?.complete declaration.spelling.text
        ((declaration.width.map Width.text).getD [] ++ declaration.modifiersText)
      = some ⟨declaration.name.base, declaration.widthText, declaration.isUnsigned⟩ := by
  have modifies := declaration.modifies
  have base := base_of_spelling declaration.spelling
  unfold named?.complete
  cases written : declaration.width with
  | none =>
      have unsigned := declaration.includes_unsigned modifies.dropWhile.1
      rw [Option.map_none, Option.getD_none, List.nil_append, afterName?_of_modifies modifies]
      simp [base, unsigned, widthText, written]
  | some width =>
      have unsigned := declaration.includes_unsigned modifies
      rw [Option.map_some, Option.getD_some, afterName?_of_width width modifies]
      simp [base, unsigned, widthText, written, width.trim_inside]

/-- The parts of an integer type are read off however it is spelled. -/
theorem ofText?_text
    : ofText? declaration.text
      = some ⟨declaration.name.base, declaration.widthText, declaration.isUnsigned⟩ := by
  have known := declaration.name.isKeyword_capitals
  have isThere := Conversion.Heading.spelling_ne_nil known declaration.spelling
  obtain ⟨first, more, same⟩ := List.exists_cons_of_ne_nil isThere
  have letter {char : Char} (member : char ∈ declaration.spelling.text)
      : Alphabet.isFoldedLetter char = true :=
    IntegerName.isLower_foldCase declaration.spelling member
  have begun : first ∈ declaration.spelling.text := by simp [same]
  have stop : Alphabet.isBlank first = false :=
    IntegerName.isBlank_eq_false declaration.spelling begun
  have parts : ∀ char ∈ more, isNamePart char = true := fun char member => by
    simp [isNamePart, letter (show char ∈ declaration.spelling.text by simp [same, member])]
  have complete := declaration.complete_eq
  rw [text, ofText?, List.dropWhile_append_of_pos declaration.before.blank, same, List.cons_append,
    List.dropWhile_cons_of_neg (by simp [stop])]
  simp only [letter begun, if_true]
  refine named?_of_parts parts (fun before after split isThere => ?_) (by rwa [same] at complete)
  have whole : declaration.spelling.text = first :: before ++ after := by
    rw [same, split, List.cons_append]
  exact IntegerName.afterName?_within declaration.spelling whole (by simp) isThere _

end IntegerDeclaration

-----------------------------------------------------------------------------------------
-- Types of the warehouse
-----------------------------------------------------------------------------------------

/-- The type of the warehouse for the values of an integer column, if there is room for all. -/
def IntegerName.target? (name : IntegerName) (isUnsigned numbersRows : Bool)
    : Option WarehouseInteger :=
  match name, isUnsigned, numbersRows with
  | .bool, _, _ | .boolean, _, _ | .tinyint, _, false | .smallint, false, false => some .smallint
  | .smallint, true, false | .mediumint, _, false | .int, false, false | .integer, false, false =>
      some .integer
  | .int, true, false | .integer, true, false | .bigint, false, false => some .bigint
  | .bigint, true, false => some .numeric
  | .tinyint, _, true | .smallint, false, true => some .smallserial
  | .smallint, true, true | .mediumint, _, true | .int, false, true | .integer, false, true =>
      some .serial
  | .int, true, true | .integer, true, true | .bigint, false, true => some .bigserial
  | .bigint, true, true => none

variable {name : IntegerName} {isUnsigned numbersRows : Bool}

theorem mapping_of_target {type : WarehouseInteger}
    (found : name.target? isUnsigned numbersRows = some type) (width : Option Text)
    : mapping ⟨name.base, width, isUnsigned⟩ numbersRows = .lossless type.name := by
  cases name <;> cases isUnsigned <;> cases numbersRows <;> cases found <;> rfl

/-- The type that is chosen has room for all values. -/
theorem holds_of_target {type : WarehouseInteger}
    (found : name.target? isUnsigned numbersRows = some type) {value : Int}
    (holds : name.Holds isUnsigned value)
    : type.Holds value := by
  cases name <;> cases isUnsigned <;> cases numbersRows <;> cases found <;>
    simp only [IntegerName.Holds, IntegerName.bits, WarehouseInteger.Holds, if_true, if_false,
      Bool.false_eq_true] at holds ⊢ <;>
    omega

/-- Only keys of the widest type without a sign have no room. -/
theorem target?_eq_none (none : name.target? isUnsigned numbersRows = none)
    : name = .bigint ∧ isUnsigned = true ∧ numbersRows = true := by
  cases name <;> cases isUnsigned <;> cases numbersRows <;> cases none
  exact ⟨rfl, rfl, rfl⟩

theorem asciiLower_spelling (spelling : Spelling name.capitals)
    : Text.asciiLower spelling.text = name.base := by
  have known := name.isKeyword_capitals
  refine Eq.trans (List.map_congr_left fun char member => ?_) (map_small_spelling known spelling)
  have ascii := ascii_of_spelling known spelling member
  rw [small, if_neg (by omega)]

/-- Integer columns fit. Whatever the case of the letters in an integer type, with a display width
or without, and however white space stands between its words, its name is read in small letters,
with the digits of its width, and as one without a sign exactly if a word says so. The type for it
in the warehouse has room for each of its values, in columns that number rows and in others; only
for keys of the widest type without a sign there is none, and a warning says so.
-/
theorem integers_fit (declaration : IntegerDeclaration) (numbersRows : Bool)
    : ofText? declaration.text
        = some
            { base := Text.asciiLower declaration.spelling.text
              arguments := declaration.widthText
              isUnsigned := declaration.isUnsigned }
      ∧ ((∃ type : WarehouseInteger,
            mapText declaration.text numbersRows = .lossless type.name
            ∧ ∀ value, declaration.name.Holds declaration.isUnsigned value → type.Holds value)
        ∨ (mapText declaration.text numbersRows).isLossy = true
          ∧ declaration.name = .bigint
          ∧ declaration.isUnsigned = true
          ∧ numbersRows = true) := by
  rw [asciiLower_spelling, mapText, declaration.ofText?_text]
  refine ⟨rfl, ?_⟩
  cases found : declaration.name.target? declaration.isUnsigned numbersRows with
  | some type =>
      exact .inl ⟨type, mapping_of_target found _, fun value => holds_of_target found⟩
  | none =>
      obtain ⟨bigint, unsigned, keys⟩ := target?_eq_none found
      refine .inr ⟨?_, bigint, unsigned, keys⟩
      rw [bigint, unsigned, keys]
      rfl

/-- Words may follow each other without white space. -/
example : ofText? "\tInt ( 11)unsignedZEROFILL" = some ⟨"int", some "11", true⟩ := by
  decide +kernel

end DumpTransfer.ColumnType
