import DumpTransfer.ColumnType
import DumpTransfer.Conversion.Strategy
import DumpTransfer.Sql.Literal
import DumpTransfer.Sql.Parenthesis
import DumpTransfer.Sql.QuotedName
import DumpTransfer.Sql.Shape
import DumpTransfer.Sql.StatementKind

/-! Adapting by rules for pieces of text, for statements whose structure is not understood.
Table definitions are adapted item by item, rows get hexadecimal literals of the warehouse.
-/

namespace DumpTransfer.Conversion.ByPattern

/-- A hexadecimal number. -/
def hexNumber : Pattern :=
  .wordEdge ++ .exactly "0x"
    ++ .group "digits" (.someOf fun char =>
        char.isDigit || ('a' ≤ char.toLower && char.toLower ≤ 'f'))
    ++ .wordEdge

/-- A hexadecimal number as a literal of bytes. -/
def byteLiteral (found : Pattern.Match) : Text :=
  "'\\x" ++ found.finish.group "digits" ++ "'"

/-- A word that an attribute begins with, and the white space before it. -/
def attributeOf (word : Pattern) : Pattern :=
  .blanks ++ .wordEdge ++ word

/-- The attribute of a column that numbers its rows. -/
def rowNumbering : Pattern :=
  .wordEdge ++ .letters "AUTO_INCREMENT" ++ .wordEdge

/-- Column attributes that are dropped, in this order. -/
def unwantedAttributes : List Pattern := [
  attributeOf (.letters "AUTO_INCREMENT" ++ .wordEdge),
  attributeOf (.anyWord ["UNSIGNED", "ZEROFILL"] ++ .wordEdge),
  attributeOf ((.words ["CHARACTER", "SET"] <|> .letters "CHARSET") ++ .gap ++ Sql.Shape.word),
  attributeOf (.letters "COLLATE" ++ .gap ++ Sql.Shape.word),
  attributeOf (.letters "COMMENT" ++ .gap ++ Sql.Shape.literal),
  attributeOf (.words ["ON", "UPDATE", "CURRENT_TIMESTAMP"]
    ++ .optional (.char '(' ++ .run Alphabet.isDecimalDigit ++ .char ')')),
  attributeOf (.letters "UNIQUE" ++ .optional (.gap ++ .letters "KEY") ++ .wordEdge),
  attributeOf (.letters "REFERENCES" ++ .gap ++ .someOf (! Alphabet.isBlank ·) ++ .blanks
    ++ Sql.Shape.parenthesized ++ .many Sql.Shape.referenceAction)]

/-- Items of a definition that are dropped: indexes, uniqueness and foreign keys. -/
def unwantedItem : Pattern :=
  (.textStart ++ .optional (.anyWord ["UNIQUE", "FULLTEXT", "SPATIAL"] ++ .gap)
      ++ .anyWord ["KEY", "INDEX"] ++ .wordEdge)
    <|> (.textStart ++ .letters "UNIQUE" ++ .wordEdge)
    <|> (Sql.Shape.foreignKey ++ .wordEdge)

/-- How an index is to be kept. -/
def indexUse : Pattern :=
  attributeOf (.letters "USING" ++ .gap ++ .anyWord ["BTREE", "HASH"] ++ .wordEdge)

/-- The name of a table option, with the word that may stand before it. -/
def optionName : Pattern :=
  .anyWord ["ENGINE", "TYPE"]
    <|> (.optional (.letters "DEFAULT" ++ .gap) ++ .letters "CHARSET")
    <|> (.optional (.letters "DEFAULT" ++ .gap) ++ .words ["CHARACTER", "SET"])
    <|> (.optional (.letters "DEFAULT" ++ .gap) ++ .letters "COLLATE")
    <|> .anyWord ["AUTO_INCREMENT", "ROW_FORMAT", "KEY_BLOCK_SIZE", "STATS_PERSISTENT",
      "STATS_AUTO_RECALC", "STATS_SAMPLE_PAGES", "AVG_ROW_LENGTH", "MAX_ROWS", "MIN_ROWS",
      "PACK_KEYS", "CHECKSUM", "DELAY_KEY_WRITE", "COMPRESSION", "COMMENT"]

/-- A table option after the columns. -/
def optionSetting : Pattern :=
  attributeOf optionName ++ .blanks ++ .optional (.char '=') ++ .blanks
    ++ (Sql.Shape.literal <|> Sql.Shape.word)

/-- A column: its name, its type with arguments and modifiers, and its attributes. -/
def column : Pattern :=
  .textStart
    ++ .group "name"
        ((.char '"' ++ .oneOrMore (.one (· ≠ '"') <|> .exactly "\"\"") ++ .char '"')
          <|> (.one (fun char => Alphabet.isFoldedLetter char || char = '_')
            ++ .run fun char =>
              Alphabet.isFoldedLetter char || char.isDigit || char = '_' || char = '$'))
    ++ .gap
    ++ .group "type"
        (.someOf Alphabet.isFoldedLetter
          ++ .optional (.gap ++ .anyWord ["precision", "varying"])
          ++ .optional (.blanks ++ Sql.Shape.parenthesized)
          ++ .many (.gap ++ .anyWord ["unsigned", "signed", "zerofill"] ++ .wordEdge))
    ++ .group "attributes" (.run fun _ => true)
    ++ .textEnd

/-- The words that begin an item which is no column. -/
def constraintWords : List Text := [
  "PRIMARY", "KEY", "INDEX", "UNIQUE", "CONSTRAINT", "FOREIGN", "CHECK", "FULLTEXT", "SPATIAL"]

/-- Whether an item is no column. -/
def isConstraint (item : Text) : Bool :=
  constraintWords.contains ((item.words.headD []).flatMap Alphabet.capitals)

/-- The attributes of a column that are kept. -/
def keptAttributes (attributes : Text) : Text :=
  Text.trim (unwantedAttributes.foldl (fun kept pattern => pattern.removeAll kept) attributes)

/-- A column with a warehouse type and with the attributes that are kept. -/
def adaptColumn (place : Place) : Text × List Text :=
  let name := place.group "name"
  let attributes := place.group "attributes"
  let mapping := ColumnType.mapText (place.group "type") (rowNumbering.occursIn attributes)
  let kept := keptAttributes attributes
  (name ++ " " ++ mapping.name ++ (if kept.isEmpty then [] else ' ' :: kept),
    (mapping.warning.map fun warning =>
      Text.trimWhile (· = '"') name ++ ": " ++ warning).toList)

/-- An item of a definition, with what it warns of. -/
def adaptItem (item : Text) : Text × List Text :=
  if isConstraint item then (item, [])
  else
    match column.matchStart? item with
    | some place => adaptColumn place
    | none => (item, [])

/-- The items of a definition that are kept. -/
def keptItems (body : Text) : List Text :=
  ((Sql.Parenthesis.parts body).map Text.trim).filter fun item =>
    !item.isEmpty && !unwantedItem.occursIn item

/-- A table definition. -/
def adaptDefinition (sql : Text) : Adaptation :=
  match Sql.Parenthesis.firstOpen? sql with
  | none => { result := .error "CREATE TABLE without column list" }
  | some (head, list) =>
      match Sql.Parenthesis.body? list with
      | none => { result := .error "unbalanced CREATE TABLE column list" }
      | some (body, tail) =>
          let items := (keptItems body).map fun item => adaptItem (indexUse.removeAll item)
          { result := .ok
              (head.trimEnd ++ " (\n  " ++ Text.joinWith ",\n  " (items.map (·.1)) ++ "\n)"
                ++ Text.trimEnd (optionSetting.removeAll tail)),
            warnings := items.flatMap (·.2) }

/-- A statement with literals and quoted names in standard style. -/
def standardize (statement : Text) : Text :=
  Sql.QuotedName.requote (Sql.Literal.normalize statement)

/-- A statement. -/
def adapt (statement : Text) : Adaptation :=
  let sql := standardize statement
  match Sql.StatementKind.ofStatement sql with
  | .createTable => adaptDefinition sql
  | .insert =>
      { result := .ok (Sql.Segment.onCode .standard (hexNumber.replaceAll byteLiteral) sql) }
  | _ => { result := .ok sql }

/-- Adapting by rules for pieces of text. -/
def strategy : Strategy :=
  ⟨"regex", fun _ statement => adapt statement⟩

end DumpTransfer.Conversion.ByPattern
