import DumpTransfer.Text.Basic
import DumpTransfer.Text.CharacterTable.Word

/-! Classes of characters. Blanks, letters and digits are those of Unicode throughout; the
ASCII classes of `Char` stand where the notation at hand admits ASCII alone. Patterns go by
Unicode 16, all else by Unicode 17.
-/

namespace DumpTransfer

namespace Alphabet

/-- Membership of a code point in ranges in ascending order. -/
def codeWithin : List (Nat × Nat) → Nat → Bool
  | [], _ => false
  | (first, last) :: rest, code => if code ≤ last then first ≤ code else codeWithin rest code

/-- Membership of a character in a table of ranges. -/
def within (table : List (Nat × Nat)) (char : Char) : Bool :=
  codeWithin table char.toNat

/-- White space. -/
def isBlank (char : Char) : Bool :=
  let code := char.toNat
  (9 ≤ code && code ≤ 13) || code = 0x20 || code = 0x85 || code = 0xA0 || code = 0x1680
    || (0x2000 ≤ code && code ≤ 0x200A) || code = 0x2028 || code = 0x2029 || code = 0x202F
    || code = 0x205F || code = 0x3000

/-- White space within ASCII, the vertical tab apart. -/
def isAsciiBlank (char : Char) : Bool :=
  char = ' ' || char = '\t' || char = '\n' || char = '\r' || char = '\x0c'

/-- Letters and other alphabetic characters. -/
def isAlphabetic (char : Char) : Bool :=
  if char.toNat < 0x80 then char.isAlpha else within CharacterTable.alphabetic char

/-- Decimal digits of any script and other numbers. -/
def isNumeric (char : Char) : Bool :=
  if char.toNat < 0x80 then char.isDigit
  else
    within CharacterTable.decimalDigit char || within CharacterTable.otherNumber char

/-- Letters and numbers. -/
def isAlphanumeric (char : Char) : Bool :=
  isAlphabetic char || isNumeric char

/-- Decimal digits of any script, as patterns know them. -/
def isDecimalDigit (char : Char) : Bool :=
  if char.toNat < 0x80 then char.isDigit
  else within CharacterTable.decimalDigit char && !within CharacterTable.newest char

/-- Characters of words, as patterns know them: letters, marks, digits, connectors and the two
joiners.
-/
def isWord (char : Char) : Bool :=
  if char.toNat < 0x80 then char.isAlphanum || char = '_'
  else
    (isAlphabetic char || within CharacterTable.decimalDigit char
        || within CharacterTable.mark char || within CharacterTable.connector char
        || char.toNat = 0x200C || char.toNat = 0x200D)
      && !within CharacterTable.newest char

/-- The small letter that stands for a character when case is ignored: ASCII capitals have
theirs, and the long s and the kelvin sign count as s and k.
-/
def foldCase (char : Char) : Char :=
  if char.toNat = 0x17F then 's'
  else if char.toNat = 0x212A then 'k'
  else char.toLower

/-- ASCII letters and the two further characters that equal one when case is ignored. -/
def isFoldedLetter (char : Char) : Bool :=
  (foldCase char).isLower

/-- The ASCII capitals of a character whose upper case is in ASCII, else the character. -/
def capitals (char : Char) : Text :=
  match char.toNat with
  | 0xDF => ['S', 'S']
  | 0x131 => ['I']
  | 0x17F => ['S']
  | 0xFB00 => ['F', 'F']
  | 0xFB01 => ['F', 'I']
  | 0xFB02 => ['F', 'L']
  | 0xFB03 => ['F', 'F', 'I']
  | 0xFB04 => ['F', 'F', 'L']
  | 0xFB05 | 0xFB06 => ['S', 'T']
  | _ => [char.toUpper]

end Alphabet

namespace Text

/-- The text without white space at either end. -/
def trim (text : Text) : Text :=
  trimWhile Alphabet.isBlank text

/-- The text without white space at its end. -/
def trimEnd (text : Text) : Text :=
  dropEndWhile Alphabet.isBlank text

/-- The text without white space at its start. -/
def trimStart (text : Text) : Text :=
  text.dropWhile Alphabet.isBlank

/-- The longest parts without white space. -/
def words (text : Text) : List Text :=
  (partsBetween Alphabet.isBlank text).filter (! ·.isEmpty)

end Text

end DumpTransfer
