import DumpTransfer.Text.Basic

/-! Places in the text of a YAML document. Line breaks of every kind are one character before
reading begins, so a place moves on by one character at a time.
-/

namespace DumpTransfer.Yaml

/-- Characters that may stand in a document. -/
def isAllowed (char : Char) : Bool :=
  let code := char.toNat
  code = 0x09 || code = 0x0A || code = 0x0D || (0x20 ≤ code && code ≤ 0x7E) || code = 0x85
    || (0xA0 ≤ code && code ≤ 0xFFFD && code ≠ 0xFEFF) || 0x10000 ≤ code

/-- Characters that end a line. -/
def isBreak (char : Char) : Bool :=
  char = '\n' || char.toNat = 0x2028 || char.toNat = 0x2029

/-- Characters that separate words on a line. -/
def isBlank (char : Char) : Bool :=
  char = ' ' || char = '\t'

/-- Characters of names of anchors and tags. -/
def isNamePart (char : Char) : Bool :=
  char.isAlphanum || char = '_' || char = '-'

/-- Whether a character is one of those listed. -/
def isOneOf (listed : String) (char : Char) : Bool :=
  listed.toList.contains char

/-- The text with a line feed for every other line break of one line. -/
def withLineFeeds : Text → Text
  | [] => []
  | '\r' :: '\n' :: rest => '\n' :: withLineFeeds rest
  | char :: rest =>
      (if char = '\r' || char.toNat = 0x85 then '\n' else char) :: withLineFeeds rest

/-- A place in a text: what is left of it, and where that begins. -/
structure Cursor where
  rest : Text
  line : Nat := 0
  column : Nat := 0
  offset : Nat := 0
  deriving DecidableEq, Repr

namespace Cursor

/-- The place after one character. -/
def next (cursor : Cursor) : Cursor :=
  match cursor.rest with
  | [] => cursor
  | char :: rest =>
      if isBreak char then ⟨rest, cursor.line + 1, 0, cursor.offset + 1⟩
      else ⟨rest, cursor.line, cursor.column + 1, cursor.offset + 1⟩

/-- The place after a number of characters. -/
def skip : Nat → Cursor → Cursor
  | 0, cursor => cursor
  | count + 1, cursor => skip count cursor.next

/-- The longest run of accepted characters and the place after it. -/
def run (accepts : Char → Bool) (cursor : Cursor) : Text × Cursor :=
  let run := cursor.rest.takeWhile accepts
  (run, cursor.skip run.length)

/-- The place after a run of accepted characters. -/
def skipWhile (accepts : Char → Bool) (cursor : Cursor) : Cursor :=
  (cursor.run accepts).2

/-- Whether a text ends or begins with white space. -/
def endsWord : Text → Bool
  | [] => true
  | char :: _ => isBlank char || isBreak char

/-- Whether the text ends or goes on with white space after a number of characters. -/
def endsWordAfter (cursor : Cursor) (count : Nat) : Bool :=
  endsWord (cursor.rest.drop count)

/-- Whether the line ends here. -/
def isAtLineEnd (cursor : Cursor) : Bool :=
  cursor.rest.head?.all isBreak

/-- Whether white space comes next. -/
def isAtSpace (cursor : Cursor) : Bool :=
  cursor.rest.head?.any fun char => isBlank char || isBreak char

/-- Whether a mark of three characters that begins or ends documents comes next. -/
def isAtMark (cursor : Cursor) (mark : Text) : Bool :=
  cursor.column = 0 && Text.startsWith cursor.rest mark && cursor.endsWordAfter 3

/-- Whether a document begins or ends here. -/
def isAtDocumentMark (cursor : Cursor) : Bool :=
  cursor.isAtMark "---" || cursor.isAtMark "..."

end Cursor

end DumpTransfer.Yaml
