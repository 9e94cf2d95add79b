import DumpTransfer.Failure
import DumpTransfer.Text.Alphabet
import DumpTransfer.Text.CharacterTable.Form

/-! Names of schemas, tables, columns and constraints. Statements carry names as part of their
text, so a name is checked before it is used and quoted wherever it is written.
-/

namespace DumpTransfer.Identifier

/-- The largest number of bytes that a name may have. -/
def maxBytes : Nat :=
  128

/-- The number of bytes of a name that the warehouse keeps. -/
def storedBytes : Nat :=
  63

/-- Characters without a visible form of their own. -/
def isUnseen (char : Char) : Bool :=
  Alphabet.within CharacterTable.unseen char || Alphabet.within CharacterTable.extending char

/-- A character as it stands in a displayed name. -/
def displayChar (char : Char) : Text :=
  match char with
  | '\x00' => "\\0"
  | '\t' => "\\t"
  | '\r' => "\\r"
  | '\n' => "\\n"
  | '"' => "\\\""
  | '\\' => "\\\\"
  | _ =>
      if isUnseen char then "\\u\x7b" ++ Nat.toDigits 16 char.toNat ++ "\x7d" else [char]

/-- A name displayed in a message: between quotes, with anything unseen written out. -/
def display (name : Text) : Text :=
  "\"" ++ name.flatMap displayChar ++ "\""

/-- Refuses a name that is empty, holds a null character or is too long. -/
def validate (name : Text) : Except Failure Unit :=
  if name.isEmpty then .error (.configuration "Identifier cannot be empty")
  else if name.any (· = '\x00') then
    .error (.configuration
      ("SECURITY: Identifier contains null byte (possible injection attempt): "
        ++ display name))
  else if maxBytes < Text.byteLength name then
    .error (.configuration
      ("SECURITY: Identifier exceeds maximum length of " ++ Text.ofNat maxBytes
        ++ " bytes (got " ++ Text.ofNat (Text.byteLength name) ++ " bytes): " ++ display name))
  else .ok ()

/-- A name between double quotes, with every double quote in it written twice. -/
def quote (name : Text) : Text :=
  '"' :: Text.doubling '"' name ++ ['"']

/-- A name quoted after it has been checked. -/
def quote? (name : Text) : Except Failure Text := do
  validate name
  return quote name

/-- The part of a name that the warehouse keeps. -/
def stored (name : Text) : Text :=
  Text.takeBytes storedBytes name

/-- Characters that begin a name which needs no quotes. -/
def isPlainStart (char : Char) : Bool :=
  char.isLower || char = '_'

/-- Characters of a name which needs no quotes. -/
def isPlainPart (char : Char) : Bool :=
  char.isLower || char.isDigit || char = '_' || char = '$'

/-- Whether a name keeps its spelling without quotes. -/
def isPlain : Text → Bool
  | [] => false
  | first :: rest => isPlainStart first && rest.all isPlainPart

/-- A list of quoted names. -/
def quoteAll (names : List Text) : Text :=
  Text.joinWith ", " (names.map quote)

end DumpTransfer.Identifier
