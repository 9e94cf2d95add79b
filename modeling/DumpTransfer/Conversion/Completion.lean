import DumpTransfer.Destination
import DumpTransfer.Sql.ObjectName
import DumpTransfer.Sql.Parenthesis
import DumpTransfer.Sql.QuotedName
import DumpTransfer.Sql.Shape
import DumpTransfer.Sql.StatementKind

/-! What is done to every statement in the end, whichever way it was adapted: quoting of the
warehouse, literals that the warehouse accepts, no foreign keys, and the target schema in front
of every table that the statement is about.
-/

namespace DumpTransfer.Conversion.Completion

/-- Names of character sets that may stand before a literal. -/
def characterSetNames : List Text := [
  "_utf8mb4", "_utf8mb3", "_utf8", "_latin1", "_binary", "_ascii", "_ucs2", "_utf16", "_utf32"]

/-- Characters that continue a name. -/
def isNamePart (char : Char) : Bool :=
  Alphabet.isAlphanumeric char || char = '_' || char = '$'

/-- What is left when a word with no name before it is taken from the end of a text. Both the
text and the result are in reverse.
-/
def dropWord? (written word : Text) : Option Text :=
  let before := written.drop word.length
  if Text.equalsIgnoringCase (written.take word.length) word.reverse
      && !before.head?.any isNamePart
  then some before
  else none

/-- A text without the name of a character set at its end; text and result in reverse. -/
def dropCharacterSetName (written : Text) : Text :=
  (characterSetNames.findSome? (dropWord? (written.dropWhile Alphabet.isBlank))).getD written

/-- The date and the time that stand for no date. -/
def absentDates : List Text :=
  ["'0000-00-00'", "'0000-00-00 00:00:00'"]

/-- A statement while its literals are adapted: what has been written, in reverse, and
the number of literals that stood for no date.
-/
structure Written where
  reversed : Text := []
  absentDates : Nat := 0

namespace Written

/-- Writes a text. -/
def push (written : Written) (text : Text) : Written :=
  { written with reversed := text.reverse ++ written.reversed }

/-- Writes a literal in the form of the warehouse. -/
def pushLiteral (written : Written) (literal : Text) : Written :=
  let before := dropCharacterSetName written.reversed
  if Completion.absentDates.contains literal then
    Written.push ⟨before, written.absentDates + 1⟩ "NULL"
  else
    match dropWord? before ['x'] with
    | some bare => Written.push ⟨bare, written.absentDates⟩ ("'\\x" ++ literal.drop 1)
    | none => Written.push ⟨before, written.absentDates⟩ literal

/-- Writes a run of a statement. -/
def pushSegment (written : Written) : Sql.Segment → Written
  | .code code => written.push code
  | .literal literal => written.pushLiteral literal

end Written

/-- A statement with its literals in the form of the warehouse, with what is to be warned of. -/
def adaptLiterals (sql : Text) : Text × List Text :=
  let written := (Sql.Segment.ofText .standard sql).foldl Written.pushSegment {}
  (written.reversed.reverse,
    if written.absentDates = 0 then []
    else [Text.ofNat written.absentDates ++ " zero date literal(s) replaced with NULL"])

/-- A word, or a name between double quotes. -/
def wordOrQuoted : Pattern :=
  (.char '"' ++ .someOf (· ≠ '"') ++ .char '"') <|> Sql.Shape.word

/-- The character set or the collation of a column. -/
def characterSet : Pattern :=
  (.gap ++ (.words ["CHARACTER", "SET"] <|> .letters "CHARSET") ++ .gap ++ wordOrQuoted)
    <|> (.gap ++ .letters "COLLATE" ++ .gap ++ wordOrQuoted)

/-- A name between double quotes, in which a double quote is written twice. -/
def quotedName : Pattern :=
  .char '"' ++ .many (.one (· ≠ '"') <|> .exactly "\"\"") ++ .char '"'

/-- A reference to another table as an attribute of a column. -/
def reference : Pattern :=
  .gap ++ .letters "REFERENCES" ++ .gap
    ++ (quotedName <|> .someOf fun char => Alphabet.isWord char || char = '.')
    ++ .many (.blanks ++ .char '.' ++ .blanks ++ (quotedName <|> Sql.Shape.word))
    ++ .blanks ++ Sql.Shape.parenthesized ++ .many Sql.Shape.referenceAction

/-- Whether an item of a definition is a foreign key. -/
def isForeignKey (item : Text) : Bool :=
  (Sql.Shape.foreignKey ++ .wordEdge).occursIn (Sql.Segment.codeOf .standard item)

/-- An item of a definition without character sets and references. -/
def adaptItem (item : Text) : Text :=
  Sql.Segment.onCode .standard
    (fun code => reference.removeAll (characterSet.removeAll code)) item

/-- A table definition without foreign keys and without anything after its items. -/
def adaptDefinition (sql : Text) : Text :=
  match Sql.Parenthesis.firstOpen? sql with
  | none => sql
  | some (head, list) =>
      match Sql.Parenthesis.body? list with
      | none => sql
      | some (body, _) =>
          let items := (Sql.Parenthesis.parts body).filter (! isForeignKey ·)
          head ++ "(" ++ Text.joinWith [','] (items.map adaptItem) ++ ")"

/-- The words that begin an insertion which passes over rows with a known key. -/
def lenientInsertion : Pattern :=
  .textStart ++ .group "indent" .blanks
    ++ .group "verb"
        (.words ["INSERT", "IGNORE"]
          <|> (.letters "REPLACE"
            ++ .optional (.gap ++ .anyWord ["LOW_PRIORITY", "DELAYED"])))
    ++ .group "into" (.gap ++ .letters "INTO" ++ .wordEdge)

/-- A statement without white space and one semicolon at its end. -/
def dropTerminator (sql : Text) : Text :=
  let trimmed := sql.trimEnd
  (trimmed.dropSuffix? ";").getD trimmed

/-- An insertion that passes over rows with a known key, in the words of the warehouse. Where
later rows were to replace earlier ones the first row stays, and that is warned of.
-/
def adaptInsertion (sql : Text) : Text × List Text :=
  match lenientInsertion.matchStart? sql with
  | none => (sql, [])
  | some place =>
      let body := place.group "indent" ++ "INSERT" ++ place.group "into" ++ place.after
      (Text.trimEnd (dropTerminator body) ++ " ON CONFLICT DO NOTHING",
        if Text.startsWith (Text.asciiUpper (place.group "verb")) "REPLACE" then
          ["REPLACE INTO loaded as INSERT ... ON CONFLICT DO NOTHING"]
        else [])

/-- The words that stand before the name of the table that a statement is about. -/
def beforeTarget : Pattern :=
  .textStart ++ .blanks
    ++ ((.letters "CREATE" ++ .gap ++ .optional (.letters "TEMPORARY" ++ .gap)
          ++ .letters "TABLE" ++ .optional (.gap ++ .words ["IF", "NOT", "EXISTS"]))
      <|> (.words ["DROP", "TABLE"] ++ .optional (.gap ++ .words ["IF", "EXISTS"]))
      <|> .words ["INSERT", "INTO"]
      <|> .words ["DELETE", "FROM"]
      <|> (.letters "TRUNCATE" ++ .optional (.gap ++ .letters "TABLE")))
    ++ .gap

/-- The names at the start of a text, at most the given number, with the target in front of
their last parts; only tables to be dropped may be several.
-/
def placeNames (target : Destination) (several : Bool) : Nat → Text → Text
  | 0, text => text
  | bound + 1, text =>
      match Sql.ObjectName.read? text with
      | none => text
      | some (parts, rest) =>
          let qualified := target.qualify (parts.getLastD [])
          match several, rest.dropWhile Alphabet.isBlank with
          | true, ',' :: later =>
              qualified ++ ", "
                ++ placeNames target several bound (later.dropWhile Alphabet.isBlank)
          | _, _ => qualified ++ rest

/-- A statement with the target in front of the tables that it is about. -/
def placeTables (target : Destination) (kind : Sql.StatementKind) (sql : Text) : Text :=
  match beforeTarget.matchStart? sql with
  | none => sql
  | some place =>
      place.textSince (.start sql)
        ++ placeNames target (kind = .dropTable) (place.after.length + 1) place.after

/-- A statement in the form of the warehouse and without its terminator, with what is to be
warned of.
-/
def complete (target : Destination) (statement : Text) : Text × List Text :=
  let kind := Sql.StatementKind.ofStatement statement
  let quoted := (Sql.QuotedName.requote statement).filter (· ≠ '\x00')
  let (literals, dateWarnings) := adaptLiterals quoted
  let defined := if kind = .createTable then adaptDefinition literals else literals
  let (inserted, insertWarnings) :=
    if kind = .insert then adaptInsertion defined else (defined, [])
  (Text.trim (dropTerminator (placeTables target kind inserted)),
    dateWarnings ++ insertWarnings)

end DumpTransfer.Conversion.Completion
