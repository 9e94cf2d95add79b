import DumpTransfer.Text.Alphabet
import DumpTransfer.Text.CharacterTable.Case

/-! Lower case in every script. -/

namespace DumpTransfer

namespace Alphabet

/-- The small letters of a character. -/
def smallLetters (char : Char) : Text :=
  let code := char.toNat
  if code < 0x80 then [char.toLower]
  else if code = 0x130 then ['i', Char.ofNat 0x307]
  else
    let range := CharacterTable.capitals.find? fun (first, last, step, _) =>
      first ≤ code && code ≤ last && (code - first) % step = 0
    match range with
    | some (_, _, _, shift) => [Char.ofNat (code + shift).toNat]
    | none => [char]

/-- Whether the nearest character that bears on case is a letter that has one. -/
def touchesCased (neighbours : Text) : Bool :=
  (neighbours.dropWhile (within CharacterTable.caseIgnorable)).head?.any
    (within CharacterTable.cased)

end Alphabet

namespace Text

/-- A text in lower case, after a text given in reverse. A capital sigma at the end of a word has
a small letter of its own.
-/
def lowerCaseAfter (before : Text) : Text → Text
  | [] => []
  | char :: rest =>
      let endsWord := Alphabet.touchesCased before && !Alphabet.touchesCased rest
      (if char.toNat = 0x3A3 && endsWord then [Char.ofNat 0x3C2] else Alphabet.smallLetters char)
        ++ lowerCaseAfter (char :: before) rest

/-- A text in lower case. -/
def lowerCase (text : Text) : Text :=
  lowerCaseAfter [] text

end Text

end DumpTransfer
