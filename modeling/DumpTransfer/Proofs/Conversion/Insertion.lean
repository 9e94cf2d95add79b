import DumpTransfer.Conversion.Completion
import DumpTransfer.Proofs.Conversion.HexNumbers
import DumpTransfer.Proofs.Sql.Runs

/-! Insertions put together from their parts. Each part says how a dump writes it and what the
warehouse is to get for it, and both statements have the same layout.
-/

namespace DumpTransfer.Conversion.Insertion

-----------------------------------------------------------------------------------------
-- White space and words
-----------------------------------------------------------------------------------------

/-- The white space of statements in a dump. -/
def spaces : Text :=
  [' ', '\t', '\n', '\x0b', '\x0c', '\r']

def isSpace (char : Char) : Bool :=
  spaces.contains char

/-- White space, or nothing. -/
structure Space where
  text : Text
  isSpace : ∀ char ∈ text, isSpace char = true

/-- White space between two words. -/
structure Gap extends Space where
  isThere : text ≠ []

/-- A word in capitals or small letters. -/
structure Spelling (word : String) where
  text : Text
  spells : Text.asciiUpper text = word

/-- A word that is in capitals is spelled by itself. -/
theorem spells_ofString {word : String} (inCapitals : Text.asciiUpper word.toList = word.toList)
    : Text.asciiUpper word = Text.ofString word := by
  rw [Text.ofString_eq]
  exact inCapitals

theorem spells_insert
    : Text.asciiUpper "INSERT" = "INSERT" :=
  spells_ofString rfl

theorem spells_into
    : Text.asciiUpper "INTO" = "INTO" :=
  spells_ofString rfl

theorem spells_values
    : Text.asciiUpper "VALUES" = "VALUES" :=
  spells_ofString rfl

theorem spells_null
    : Text.asciiUpper "NULL" = "NULL" :=
  spells_ofString rfl

theorem space_ne_nil
    : [' '] ≠ ([] : Text) :=
  List.cons_ne_nil _ _

-----------------------------------------------------------------------------------------
-- Values
-----------------------------------------------------------------------------------------

/-- What a string literal consists of between its quotes. -/
inductive Mark where
  | plain (char : Char) (isPlain : char ≠ '\'' ∧ char ≠ '\\')
  /-- A backslash and the character after it. -/
  | escaped (char : Char)
  /-- A quote written twice. -/
  | quotes

/-- How a dump writes a mark. -/
def Mark.source : Mark → Text
  | plain char _ => [char]
  | escaped char => ['\\', char]
  | quotes => ['\'', '\'']

/-- What a mark stands for. A backslash before a wildcard stays, and a null character is not
kept.
-/
def Mark.value : Mark → Text
  | plain char _ => [char]
  | escaped 'n' => ['\n']
  | escaped 'r' => ['\r']
  | escaped 't' => ['\t']
  | escaped 'Z' => ['\x1a']
  | escaped '0' => []
  | escaped '%' => ['\\', '%']
  | escaped '_' => ['\\', '_']
  | escaped char => [char]
  | quotes => ['\'']

/-- What a string literal stands for in the warehouse, which keeps no null characters. -/
def stringValue (marks : List Mark) : Text :=
  (marks.flatMap Mark.value).filter (· ≠ '\x00')

/-- Whether a string stands for no date. -/
def isAbsentDate (value : Text) : Bool :=
  value = "0000-00-00" || value = "0000-00-00 00:00:00"

/-- Characters of which decimal numbers consist. -/
def isNumberPart (char : Char) : Bool :=
  char.isDigit || (['+', '-', '.', 'e', 'E'] : Text).contains char

/-- The name of a character set before a string literal. -/
structure Introducer where
  text : Text
  isKnown : Completion.characterSetNames.any (Text.equalsIgnoringCase text) = true
  after : Space

/-- A value of a row. -/
inductive Value where
  | null (word : Spelling "NULL")
  | number (text : Text) (isNumber : ∀ char ∈ text, isNumberPart char = true)
  | hexNumber (digits : Text) (isThere : digits ≠ [])
      (isHex : ∀ char ∈ digits, ByPattern.isHexDigit char = true)
  | hexLiteral (mark : Spelling "X") (digits : Text)
      (isHex : ∀ char ∈ digits, ByPattern.isHexDigit char = true)
  | bitLiteral (mark : Spelling "B") (digits : Text)
      (isBinary : ∀ char ∈ digits, char = '0' ∨ char = '1')
  | string (introducer : Option Introducer) (marks : List Mark)

/-- How a dump writes a value. -/
def Value.source : Value → Text
  | null word => word.text
  | number text _ => text
  | hexNumber digits _ _ => "0x" ++ digits
  | hexLiteral mark digits _ => mark.text ++ '\'' :: digits ++ ['\'']
  | bitLiteral mark digits _ => mark.text ++ '\'' :: digits ++ ['\'']
  | string none marks => '\'' :: marks.flatMap Mark.source ++ ['\'']
  | string (some introducer) marks =>
      introducer.text ++ introducer.after.text ++ '\'' :: marks.flatMap Mark.source ++ ['\'']

/-- What the warehouse gets for a value. -/
def Value.adapted : Value → Text
  | null word => word.text
  | number text _ => text
  | hexNumber digits _ _ => "'\\x" ++ digits ++ ['\'']
  | hexLiteral _ digits _ => "'\\x" ++ digits ++ ['\'']
  | bitLiteral mark digits _ => mark.text ++ '\'' :: digits ++ ['\'']
  | string _ marks =>
      if isAbsentDate (stringValue marks) then "NULL"
      else Sql.literalText (stringValue marks)

/-- Whether a value is a string that stands for no date. -/
def Value.isAbsentDate : Value → Bool
  | string _ marks => Insertion.isAbsentDate (stringValue marks)
  | _ => false

-----------------------------------------------------------------------------------------
-- Rows
-----------------------------------------------------------------------------------------

/-- A value with the white space around it. -/
structure Entry where
  before : Space
  value : Value
  after : Space

/-- A tuple with the white space around it. -/
structure Row where
  before : Space
  entries : List Entry
  after : Space

/-- What rows consist of: signs with white space, and values. -/
inductive Piece where
  | signs (text : Text)
  | value (value : Value)

/-- Pieces of a list with commas between its items. -/
def separated : List (List Piece) → List Piece
  | [] => []
  | [last] => last
  | first :: second :: rest => first ++ .signs [','] :: separated (second :: rest)

def Entry.pieces (entry : Entry) : List Piece :=
  [.signs entry.before.text, .value entry.value, .signs entry.after.text]

def Row.pieces (row : Row) : List Piece :=
  .signs row.before.text :: .signs ['('] :: separated (row.entries.map Entry.pieces)
    ++ [.signs [')'], .signs row.after.text]

/-- The text of pieces with every value written in a way. -/
def written (write : Value → Text) : List Piece → Text
  | [] => []
  | .signs text :: rest => text ++ written write rest
  | .value value :: rest => write value ++ written write rest

/-- The values of rows in order. -/
def values (rows : List Row) : List Value :=
  rows.flatMap fun row => row.entries.map (·.value)

-----------------------------------------------------------------------------------------
-- Statements
-----------------------------------------------------------------------------------------

/-- Characters of names that stand without quotes: those of words, and others beyond ASCII. -/
def isBarePart (char : Char) : Bool :=
  Sql.ObjectName.isWordPart char || (0x80 ≤ char.toNat && !Alphabet.isBlank char)

/-- The name of a table. -/
inductive Name where
  /-- Between back quotes. -/
  | quoted (value : Text)
  | bare (word : Text) (isThere : word ≠ []) (isBare : ∀ char ∈ word, isBarePart char = true)

def Name.source : Name → Text
  | quoted value => Sql.nameText '`' value
  | bare word _ _ => word

/-- A name in which hexadecimal numbers are taken for those of the data. -/
def withoutNumbers (name : Text) : Text :=
  ByPattern.hexNumber.replaceAll ByPattern.byteLiteral name

/-- The name of the table in the warehouse. Without quotes it is what can be read as a word; what
begins otherwise is left alone.
-/
def Name.placed (target : Destination) : Name → Text
  | quoted value => target.qualify ((withoutNumbers value).filter (· ≠ '\x00'))
  | bare word _ _ =>
      let name := withoutNumbers word
      if name.head?.any Sql.ObjectName.isWordStart then
        target.qualify (name.takeWhile Sql.ObjectName.isWordPart)
          ++ name.dropWhile Sql.ObjectName.isWordPart
      else name

/-- How an insertion begins. -/
inductive Verb where
  | insert (word : Spelling "INSERT")
  | insertIgnore (word : Spelling "INSERT") (between : Gap) (ignore : Spelling "IGNORE")
  | replace (word : Spelling "REPLACE")

def Verb.source : Verb → Text
  | insert word => word.text
  | insertIgnore word between ignore => word.text ++ between.text ++ ignore.text
  | replace word => word.text

def Verb.adapted : Verb → Text
  | insert word => word.text
  | insertIgnore _ _ _ | replace _ => "INSERT"

/-- What is said in the end of rows with a known key. -/
def Verb.clause : Verb → Text
  | insert _ => []
  | insertIgnore _ _ _ | replace _ => " ON CONFLICT DO NOTHING"

/-- What is said of rows that were to replace others. -/
def Verb.warnings : Verb → List Text
  | replace _ => ["REPLACE INTO loaded as INSERT ... ON CONFLICT DO NOTHING"]
  | insert _ | insertIgnore _ _ _ => []

end Insertion

/-- An insertion of rows as a dump writes it. -/
structure Insertion where
  before : Insertion.Space
  verb : Insertion.Verb
  beforeInto : Insertion.Gap
  into : Insertion.Spelling "INTO"
  beforeName : Insertion.Gap
  name : Insertion.Name
  afterName : Insertion.Gap
  valuesWord : Insertion.Spelling "VALUES"
  rows : List Insertion.Row
  /-- Whether there is a semicolon, with the white space after it. -/
  terminator : Option Insertion.Space

namespace Insertion

def rowPieces (insertion : Insertion) : List Piece :=
  separated (insertion.rows.map Row.pieces)

/-- The semicolon and what follows it. -/
def ending (insertion : Insertion) : Text :=
  match insertion.terminator with
  | some after => ';' :: after.text
  | none => []

/-- The statement as the dump writes it. -/
def source (insertion : Insertion) : Text :=
  insertion.before.text ++ insertion.verb.source ++ insertion.beforeInto.text
    ++ insertion.into.text ++ insertion.beforeName.text ++ insertion.name.source
    ++ insertion.afterName.text ++ insertion.valuesWord.text
    ++ written Value.source insertion.rowPieces ++ insertion.ending

/-- The statement for the warehouse. -/
def adapted (target : Destination) (insertion : Insertion) : Text :=
  Text.trimEnd
      (insertion.verb.adapted ++ insertion.beforeInto.text ++ insertion.into.text
        ++ insertion.beforeName.text ++ insertion.name.placed target
        ++ insertion.afterName.text ++ insertion.valuesWord.text
        ++ written Value.adapted insertion.rowPieces)
    ++ insertion.verb.clause

/-- What is said of the strings that stand for no date. -/
def dateWarnings (insertion : Insertion) : List Text :=
  let absent := (values insertion.rows).countP Value.isAbsentDate
  if absent = 0 then []
  else [Text.ofNat absent ++ " zero date literal(s) replaced with NULL"]

/-- What is warned of. -/
def warnings (insertion : Insertion) : List Text :=
  insertion.dateWarnings ++ insertion.verb.warnings

end Insertion

end DumpTransfer.Conversion
