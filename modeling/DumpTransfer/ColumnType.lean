import DumpTransfer.Text.Pattern

/-! Column types: the parts of a declared type, and the warehouse type that holds its values.
-/

namespace DumpTransfer

/-- A column type as a table definition declares it. -/
structure ColumnType where
  /-- The name of the type in small letters, with single spaces between its words. -/
  base : Text
  /-- What stands between the parentheses, if anything does. -/
  arguments : Option Text
  isUnsigned : Bool
  deriving DecidableEq, Repr

/-- The warehouse type for a declared type, with a warning if something is lost. -/
structure WarehouseType where
  name : Text
  warning : Option Text
  deriving DecidableEq, Repr

namespace WarehouseType

/-- A type that holds every value. -/
def lossless (name : Text) : WarehouseType :=
  ⟨name, none⟩

/-- A type that loses something. -/
def lossy (name warning : Text) : WarehouseType :=
  ⟨name, some warning⟩

/-- Whether something is lost. -/
def isLossy (mapping : WarehouseType) : Bool :=
  mapping.warning.isSome

end WarehouseType

namespace ColumnType

/-- The small letter of an ASCII capital or of the kelvin sign. -/
def small (char : Char) : Char :=
  if char.toNat = 0x212A then 'k' else char.toLower

/-- Characters of a type name. -/
def isNamePart (char : Char) : Bool :=
  Alphabet.isFoldedLetter char || char.isDigit || char = '_' || char = ' '

/-- Words after a type that say how its numbers are kept. -/
def modifier : Pattern :=
  .anyWord ["unsigned", "signed", "zerofill"]

/-- Modifiers and white space to the end of a text. -/
def modifiers : Pattern :=
  .many (modifier <|> .one Alphabet.isBlank) ++ .textEnd

/-- The text before the last closing parenthesis and the text after it. -/
def atLastClose? (text : Text) : Option (Text × Text) :=
  match text.reverse.dropWhile (· ≠ ')') with
  | [] => none
  | _ :: before => some (before.reverse, text.drop (before.length + 1))

/-- What may follow the name of a type: its arguments, if there are any, and its modifiers. -/
def afterName? (text : Text) : Option (Option Text × Text) := do
  let (arguments, rest) ←
    match text.dropWhile Alphabet.isBlank with
    | '(' :: list => (atLastClose? list).map fun (inside, rest) => (some inside, rest)
    | rest => some (none, rest)
  if (modifiers.matchStart? rest).isSome then some (arguments, rest) else none

/-- The type whose name begins with given characters and goes on in a text, no further than
what may follow a name requires.
-/
def named? (name : Text) : Text → Option ColumnType
  | [] => complete []
  | char :: rest =>
      complete (char :: rest)
        <|> if isNamePart char then named? (name ++ [char]) rest else none
where
  /-- The type with the given name and nothing of a text added to it. -/
  complete (text : Text) : Option ColumnType := do
    let (arguments, modifiers) ← afterName? text
    return {
      base := (Text.joinWith [' '] (Text.words name)).map small
      arguments := (arguments.map Text.trim).filter (! ·.isEmpty)
      isUnsigned := Text.includes (modifiers.map small) "unsigned" }

/-- The parts of a declared type, if it has the form of one: a name, arguments between the
outermost parentheses, and modifiers.
-/
def ofText? (declared : Text) : Option ColumnType :=
  match declared.dropWhile Alphabet.isBlank with
  | char :: rest => if Alphabet.isFoldedLetter char then named? [char] rest else none
  | [] => none

/-- The arguments, each read as a number of 64 bits. -/
def numbers (type : ColumnType) : List (Option Nat) :=
  match type.arguments with
  | none => []
  | some arguments =>
      (Text.partsBetween (· = ',') arguments).map fun part =>
        Text.natural? (Nat.pow 2 64) (Text.trim part)

/-- The first argument: a length, a precision or a width. -/
def firstNumber? (type : ColumnType) : Option Nat :=
  type.numbers.head?.join

/-- The number of digits and, if it is given, the number of those after the point. -/
def precisionAndScale? (type : ColumnType) : Option (Nat × Nat) :=
  match type.numbers with
  | some precision :: some scale :: _ => some (precision, scale)
  | [some precision] => some (precision, 0)
  | _ => none

/-- The largest length that the warehouse accepts for a character type. -/
def maxCharacters : Nat :=
  10485760

/-- A type name with a number in parentheses. -/
def sized (name : Text) (size : Nat) : Text :=
  name ++ "(" ++ Text.ofNat size ++ ")"

/-- A type of times, with the number of fractional digits if there are any, at most six. -/
def withFraction (name : Text) (type : ColumnType) : Text :=
  match type.firstNumber? with
  | some (digits + 1) => sized name (min (digits + 1) 6)
  | _ => name

/-- The counting type for a column that numbers its rows, if there is one. -/
def serial? (type : ColumnType) : Option WarehouseType :=
  match type.base.toString, type.isUnsigned with
  | "tinyint", _ | "smallint", false => some (.lossless "smallserial")
  | "smallint", true | "mediumint", _ | "int", false | "integer", false =>
      some (.lossless "serial")
  | "int", true | "integer", true | "bigint", false => some (.lossless "bigserial")
  | "bigint", true =>
      some (.lossy "bigserial"
        ("BIGINT UNSIGNED AUTO_INCREMENT mapped to bigserial; "
          ++ "values above 2^63-1 do not fit."))
  | _, _ => none

/-- The type that holds the values of a column that does not number its rows. Unsigned
integers get the next type that holds their whole range.
-/
def plainMapping (type : ColumnType) : WarehouseType :=
  match type.base.toString with
  | "tinyint" | "bool" | "boolean" => .lossless "smallint"
  | "smallint" => .lossless (if type.isUnsigned then "integer" else "smallint")
  | "mediumint" => .lossless "integer"
  | "int" | "integer" => .lossless (if type.isUnsigned then "bigint" else "integer")
  | "bigint" => .lossless (if type.isUnsigned then "numeric(20,0)" else "bigint")
  | "decimal" | "numeric" | "dec" | "fixed" =>
      match type.precisionAndScale? with
      | some (precision, scale) =>
          .lossless ("numeric(" ++ Text.ofNat precision ++ "," ++ Text.ofNat scale ++ ")")
      | none => .lossless "numeric"
  | "float" =>
      match type.precisionAndScale? with
      | some (precision, 0) =>
          .lossless (if 24 < precision then "double precision" else "real")
      | _ => .lossless "real"
  | "double" | "double precision" | "real" => .lossless "double precision"
  | "char" | "nchar" | "national char" =>
      match type.firstNumber? with
      | some length =>
          if 0 < length && length ≤ maxCharacters then .lossless (sized "char" length)
          else .lossless "text"
      | none => .lossless "char(1)"
  | "varchar" | "nvarchar" | "national varchar" | "character varying" =>
      match type.firstNumber? with
      | some length =>
          if 0 < length && length ≤ maxCharacters then .lossless (sized "varchar" length)
          else .lossless "text"
      | none => .lossless "text"
  | "tinytext" | "text" | "mediumtext" | "longtext" => .lossless "text"
  | "binary" | "varbinary" | "tinyblob" | "blob" | "mediumblob" | "longblob" =>
      .lossless "bytea"
  | "date" => .lossless "date"
  | "time" => .lossless (withFraction "time" type)
  | "datetime" | "timestamp" => .lossless (withFraction "timestamp" type)
  | "year" => .lossless "smallint"
  | "json" => .lossless "jsonb"
  | "enum" =>
      .lossy "text"
        ("MySQL ENUM stored as text. "
          ++ "Consider creating a CHECK constraint or PostgreSQL ENUM.")
  | "set" =>
      .lossy "text"
        "MySQL SET stored as text. Consider using an array type or separate table."
  | "bit" => .lossless (sized "bit varying" (min (max (type.firstNumber?.getD 1) 1) 64))
  | "geometry" | "point" | "linestring" | "polygon" | "multipoint" | "multilinestring"
  | "multipolygon" | "geometrycollection" =>
      .lossy "text"
        ("MySQL spatial type '" ++ type.base ++ "' stored as text. "
          ++ "Consider PostGIS for spatial operations.")
  | _ => .lossy "text" ("Unknown MySQL type '" ++ type.base ++ "' stored as text.")

/-- The type that holds the values of a column. -/
def mapping (type : ColumnType) (numbersRows : Bool) : WarehouseType :=
  if numbersRows then type.serial?.getD type.plainMapping else type.plainMapping

/-- The type for a declared type in whatever form. -/
def mapText (declared : Text) (numbersRows : Bool) : WarehouseType :=
  match ofText? declared with
  | some type => type.mapping numbersRows
  | none =>
      .lossy "text" ("Unparseable MySQL type '" ++ declared.trim ++ "' stored as text.")

end ColumnType

end DumpTransfer
