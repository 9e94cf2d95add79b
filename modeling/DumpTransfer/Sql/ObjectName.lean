import DumpTransfer.Text.Alphabet

/-! Names of objects in standard style: parts with dots between them, each a name between
double quotes or a bare word.
-/

namespace DumpTransfer.Sql.ObjectName

/-- Characters that begin a bare word. -/
def isWordStart (char : Char) : Bool :=
  Alphabet.isAlphanumeric char || char = '_'

/-- Characters of a bare word. -/
def isWordPart (char : Char) : Bool :=
  Alphabet.isAlphanumeric char || char = '_' || char = '$'

/-- The rest of a name after its opening double quote, with quotes written twice read once,
and the text after the closing quote.
-/
def readQuoted : Text → Option (Text × Text)
  | [] => none
  | ['"'] => some ([], [])
  | '"' :: '"' :: rest => (readQuoted rest).map fun (name, after) => ('"' :: name, after)
  | '"' :: rest => some ([], rest)
  | char :: rest => (readQuoted rest).map fun (name, after) => (char :: name, after)

/-- A part at the start of a text, and the text after it. -/
def readPart : Text → Option (Text × Text)
  | [] => none
  | '"' :: rest => readQuoted rest
  | char :: rest =>
      if isWordStart char then
        some ((char :: rest).takeWhile isWordPart, (char :: rest).dropWhile isWordPart)
      else none

/-- The text after a dot and the white space around it, if there is a dot. -/
def afterDot? (text : Text) : Option Text :=
  match text.dropWhile Alphabet.isAsciiBlank with
  | '.' :: rest => some (rest.dropWhile Alphabet.isAsciiBlank)
  | _ => none

/-- At most the given number of parts at the start of a text, and the text after them. -/
def readParts : Nat → Text → Option (List Text × Text)
  | 0, _ => none
  | bound + 1, text => do
      let (part, after) ← readPart text
      match afterDot? after with
      | none => return ([part], after)
      | some next =>
          let (others, rest) ← readParts bound next
          return (part :: others, rest)

/-- The parts of a name at the start of a text, and the text after it. -/
def read? (text : Text) : Option (List Text × Text) :=
  readParts (text.length + 1) text

end DumpTransfer.Sql.ObjectName
