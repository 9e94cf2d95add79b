import DumpTransfer.Text.Utf8
import DumpTransfer.Yaml.Cursor

/-! Tags of nodes as they are written, and the declarations at the head of a document: the
version of the notation and handles for the beginnings of tags.
-/

namespace DumpTransfer.Yaml

/-- Characters of tags, some of them only where nothing else can be meant. -/
def isTagPart (isAlone : Bool) (char : Char) : Bool :=
  isNamePart char || isOneOf ";/?:@&=+$.%!~*'()" char || (isAlone && isOneOf ",[]" char)

/-- The octet that is written as a percent sign with two digits at the start of a text. -/
def octet? : Text → Option (Nat × Text)
  | '%' :: high :: low :: rest => do
      let octet ← Text.ofRadix? 16 [high, low]
      return (octet, rest)
  | _ => none

/-- The number of octets of a character after the first one, if that can be the first. -/
def laterOctets? (first : Nat) : Option Nat :=
  if first < 0x80 then some 0
  else if first < 0xC0 then none
  else if first < 0xE0 then some 1
  else if first < 0xF0 then some 2
  else if first < 0xF8 then some 3
  else none

/-- A number of octets that continue a character. -/
def readOctets? : Nat → Text → Option (List Nat × Text)
  | 0, text => some ([], text)
  | count + 1, text => do
      let (octet, rest) ← octet? text
      if octet < 0x80 || 0xC0 ≤ octet then none
      else
        let (later, rest) ← readOctets? count rest
        return (octet :: later, rest)

/-- The character that is written in octets at the start of a text. -/
def escapedCharacter? (text : Text) : Option (Text × Text) := do
  let (first, rest) ← octet? text
  let (later, rest) ← readOctets? (← laterOctets? first) rest
  return (Utf8.decode ((first :: later).map Nat.toUInt8), rest)

/-- Reads on in the characters of a tag. -/
def tagTextFrom (isAlone : Bool) : Nat → Text → Option (Text × Text)
  | 0, text => some ([], text)
  | _ + 1, [] => some ([], [])
  | steps + 1, char :: rest =>
      if !isTagPart isAlone char then some ([], char :: rest)
      else do
        let (read, rest) ←
          if char = '%' then escapedCharacter? (char :: rest) else some ([char], rest)
        let (later, rest) ← tagTextFrom isAlone steps rest
        return (read ++ later, rest)

/-- The characters of a tag at the start of a text, and the text after them. A null character
ends what they stand for.
-/
def tagText? (isAlone : Bool) (text : Text) : Option (Text × Text) := do
  let (read, rest) ← tagTextFrom isAlone text.length text
  return (read.takeWhile (· ≠ '\x00'), rest)

/-- The same, with at least one character. -/
def someTagText? (isAlone : Bool) (text : Text) : Option (Text × Text) := do
  if text.head?.any (isTagPart isAlone) then tagText? isAlone text else none

/-- The handle at the start of a text: a name between two exclamation marks, which may be empty. -/
def handle? : Text → Option (Text × Text)
  | '!' :: text =>
      match text.dropWhile isNamePart with
      | '!' :: rest => some ('!' :: text.takeWhile isNamePart ++ ['!'], rest)
      | _ => none
  | _ => none

/-- A tag as it is written. -/
structure Tag where
  /-- What stands for the beginning, empty where nothing does. -/
  handle : Text
  rest : Text
  deriving DecidableEq, Repr

namespace Tag

/-- The tag at the start of a text, and the text after it. -/
def read? (text : Text) : Option (Tag × Text) :=
  match text with
  | '!' :: '<' :: name => do
      let (name, after) ← someTagText? true name
      match after with
      | '>' :: after => return (⟨[], name⟩, after)
      | _ => none
  | _ =>
      match handle? text with
      | some (handle, name) => do
          let (name, after) ← someTagText? false name
          return (⟨handle, name⟩, after)
      | none => do
          let (name, after) ← tagText? false (text.drop 1)
          return (if name.isEmpty then ⟨[], "!"⟩ else ⟨"!", name⟩, after)

/-- What handles stand for unless a document says otherwise. -/
def usualHandles : List (Text × Text) :=
  [("!", "!"), ("!!", "tag:yaml.org,2002:")]

/-- The tag in full, if its handle is known. -/
def inFull? (tag : Tag) (declared : List (Text × Text)) : Option Text :=
  if tag.handle.isEmpty then some tag.rest
  else ((declared ++ usualHandles).lookup tag.handle).map (· ++ tag.rest)

end Tag

/-- A line that begins with a percent sign. -/
inductive Declaration where
  /-- The version of the notation. -/
  | version (major minor : Nat)
  /-- A handle and the beginning of tags that it stands for. -/
  | handle (handle beginning : Text)
  deriving DecidableEq, Repr

namespace Declaration

/-- The part of a version at the start of a text. -/
def versionPart? (text : Text) : Option (Nat × Text) := do
  let digits := text.takeWhile Char.isDigit
  let number ← Text.toNat? digits
  if 9 < digits.length then none else return (number, text.drop digits.length)

/-- A version. -/
def version? (text : Text) : Option (Declaration × Text) := do
  let (major, rest) ← versionPart? text
  match rest with
  | '.' :: rest =>
      let (minor, rest) ← versionPart? rest
      return (.version major minor, rest)
  | _ => none

/-- A handle with the beginning that it stands for. -/
def handle? (text : Text) : Option (Declaration × Text) := do
  let (written, rest) ←
    match Yaml.handle? text, text with
    | some found, _ => some found
    | none, '!' :: rest => some (['!'], rest)
    | none, _ => none
  let (beginning, after) ← someTagText? true (rest.dropWhile isBlank)
  if rest.head?.any isBlank && Cursor.endsWord after then
    return (.handle written beginning, after)
  else none

/-- The declaration after a percent sign, with the text from the end of its line on. A comment
may follow it.
-/
def read? (text : Text) : Option (Declaration × Text) := do
  let name := text.takeWhile isNamePart
  let arguments := (text.drop name.length).dropWhile isBlank
  let (declaration, rest) ←
    if !Cursor.endsWord (text.drop name.length) then none
    else if name = "YAML" then version? arguments
    else if name = "TAG" then handle? arguments
    else none
  let rest := rest.dropWhile isBlank
  let rest := if rest.head? = some '#' then rest.dropWhile (! isBreak ·) else rest
  if rest.head?.all isBreak then return (declaration, rest) else none

end Declaration

end DumpTransfer.Yaml
