import DumpTransfer.Yaml.Scalar
import DumpTransfer.Yaml.Tag

/-! The signs and scalars of a YAML document in order. Collections without brackets are told by
the columns at which lines begin, and a key without a sign of its own by the colon after it, so
signs for their beginnings are put in where they have been found out.
-/

namespace DumpTransfer.Yaml

/-- How a scalar is written, as far as its meaning depends on that. -/
inductive ScalarStyle where
  | plain
  | literalBlock
  | other
  deriving DecidableEq, Repr

/-- A sign or a scalar. -/
inductive Token where
  | declaration (declaration : Declaration)
  | documentStart
  | documentEnd
  | blockSequence
  | blockMapping
  | blockEnd
  | flowSequence
  | flowSequenceEnd
  | flowMapping
  | flowMappingEnd
  /-- The hyphen before an item. -/
  | entry
  /-- The comma between items. -/
  | separator
  | key
  | value
  /-- A node that has been given a name. -/
  | recall (name : Text)
  /-- A name for the node that follows. -/
  | anchor (name : Text)
  | tag (tag : Tag)
  | scalar (style : ScalarStyle) (text : Text)
  deriving DecidableEq, Repr

/-- A place where a key without a sign of its own may have begun. -/
structure PossibleKey where
  /-- The number of tokens before it. -/
  position : Nat
  place : Cursor
  /-- Whether nothing but a key can stand there. -/
  isRequired : Bool
  deriving DecidableEq, Repr

/-- How far tokens have been read. -/
structure TokenReader where
  cursor : Cursor
  tokens : List Token := []
  /-- The columns of the open collections without brackets, the innermost first. -/
  indents : List Nat := []
  /-- Whether a key may begin without a sign of its own. -/
  allowsKey : Bool := true
  possibleKey : Option PossibleKey := none
  /-- For every open bracket, what may have begun as a key before it. -/
  brackets : List (Option PossibleKey) := []
  deriving DecidableEq, Repr

namespace TokenReader

/-- Whether a bracket is open. -/
def inFlow (reader : TokenReader) : Bool :=
  !reader.brackets.isEmpty

/-- The column of the innermost collection without brackets. -/
def indent? (reader : TokenReader) : Option Nat :=
  reader.indents.head?

/-- The reader after one more token, at a given place. -/
def add (reader : TokenReader) (token : Token) (cursor : Cursor) : TokenReader :=
  { reader with tokens := reader.tokens ++ [token], cursor }

/-- Gives up on a possible key, unless nothing else can stand there. -/
def dropKey (reader : TokenReader) : Option TokenReader :=
  if reader.possibleKey.any (·.isRequired) then none
  else some { reader with possibleKey := none }

/-- Gives up on a possible key from an earlier line, or too far back. -/
def dropStaleKey (reader : TokenReader) : Option TokenReader :=
  let isStale := reader.possibleKey.any fun key =>
    key.place.line < reader.cursor.line || key.place.offset + 1024 < reader.cursor.offset
  if isStale then reader.dropKey else some reader

/-- Notes that a key may begin here. -/
def saveKey (reader : TokenReader) : Option TokenReader :=
  if !reader.allowsKey then some reader
  else do
    let reader ← reader.dropKey
    let isRequired := !reader.inFlow && reader.indent? = some reader.cursor.column
    some { reader with
      possibleKey := some ⟨reader.tokens.length, reader.cursor, isRequired⟩ }

/-- Puts tokens in after a number of others. -/
def insertAt (reader : TokenReader) (position : Nat) (tokens : List Token) : TokenReader :=
  { reader with
    tokens := reader.tokens.take position ++ tokens ++ reader.tokens.drop position }

/-- Begins a collection without brackets, if the column goes beyond those of the open ones. -/
def indentTo (reader : TokenReader) (column position : Nat) (opening : Token) : TokenReader :=
  if !reader.inFlow && reader.indent?.all (· < column) then
    { reader.insertAt position [opening] with indents := column :: reader.indents }
  else reader

/-- Ends the collections without brackets that lie beyond a column. -/
def unindentTo (reader : TokenReader) (column : Nat) : TokenReader :=
  if reader.inFlow then reader
  else
    { reader with
      tokens := reader.tokens
        ++ (reader.indents.takeWhile (column < ·)).map fun _ => Token.blockEnd
      indents := reader.indents.dropWhile (column < ·) }

/-- Ends all collections without brackets. -/
def unindentAll (reader : TokenReader) : TokenReader :=
  if reader.inFlow then reader
  else
    { reader with
      tokens := reader.tokens ++ reader.indents.map fun _ => Token.blockEnd
      indents := [] }

/-- Goes over white space and comments. A line break lets a key begin, except inside brackets;
tabs may not stand where a key may begin.
-/
def skipSpaceFrom : Nat → TokenReader → TokenReader
  | 0, reader => reader
  | steps + 1, reader =>
      match reader.cursor.rest with
      | [] => reader
      | char :: _ =>
          if char = ' ' || (char = '\t' && (reader.inFlow || !reader.allowsKey)) then
            skipSpaceFrom steps { reader with cursor := reader.cursor.next }
          else if char = '#' then
            skipSpaceFrom steps { reader with cursor := reader.cursor.skipWhile (! isBreak ·) }
          else if isBreak char then
            skipSpaceFrom steps { reader with
              cursor := reader.cursor.next
              allowsKey := reader.allowsKey || !reader.inFlow }
          else reader

/-- Goes over white space and comments. -/
def skipSpace (reader : TokenReader) : TokenReader :=
  skipSpaceFrom reader.cursor.rest.length reader

/-- Reads a token of its own length that ends all open collections without brackets. -/
def readMark (reader : TokenReader) (token : Token) (cursor : Cursor) : Option TokenReader := do
  let reader ← reader.unindentAll.dropKey
  some { reader.add token cursor with allowsKey := false }

/-- Reads a line that begins with a percent sign. -/
def readDeclaration (reader : TokenReader) : Option TokenReader := do
  let (declaration, rest) ← Declaration.read? (reader.cursor.rest.drop 1)
  let lineEnd := reader.cursor.skip (reader.cursor.rest.length - rest.length)
  reader.readMark (.declaration declaration) lineEnd.next

/-- Reads an opening bracket. -/
def readOpening (reader : TokenReader) (token : Token) : Option TokenReader := do
  let reader ← reader.saveKey
  some { reader.add token reader.cursor.next with
    brackets := reader.possibleKey :: reader.brackets
    possibleKey := none
    allowsKey := true }

/-- Reads a closing bracket. -/
def readClosing (reader : TokenReader) (token : Token) : Option TokenReader := do
  let reader ← reader.dropKey
  some { reader.add token reader.cursor.next with
    possibleKey := reader.brackets.head?.join
    brackets := reader.brackets.tail
    allowsKey := false }

/-- Reads a comma between items. -/
def readSeparator (reader : TokenReader) : Option TokenReader := do
  let reader ← reader.dropKey
  some { reader.add .separator reader.cursor.next with allowsKey := true }

/-- Reads a sign that may begin a collection without brackets. -/
def readLeader (reader : TokenReader) (token opening : Token) (allowsKey : Bool)
    : Option TokenReader :=
  if !reader.inFlow && !reader.allowsKey then none
  else do
    let reader := reader.indentTo reader.cursor.column reader.tokens.length opening
    let reader ← reader.dropKey
    some { reader.add token reader.cursor.next with allowsKey }

/-- Reads the colon after a key, or without one. -/
def readValue (reader : TokenReader) : Option TokenReader :=
  match reader.possibleKey with
  | some key =>
      let reader := reader.insertAt key.position [.key]
      let reader := reader.indentTo key.place.column key.position .blockMapping
      some { reader.add .value reader.cursor.next with possibleKey := none, allowsKey := false }
  | none => reader.readLeader .value .blockMapping (!reader.inFlow)

/-- Reads a token at which a key may begin, given the token and the place after it. -/
def readNode (reader : TokenReader) (token : Token) (cursor : Cursor) : Option TokenReader := do
  let reader ← reader.saveKey
  some { reader.add token cursor with allowsKey := false }

/-- Reads an anchor or an alias. -/
def readName (reader : TokenReader) (token : Text → Token) : Option TokenReader :=
  let (name, cursor) := reader.cursor.next.run isNamePart
  let isEnd := cursor.endsWordAfter 0 || cursor.rest.head?.any (isOneOf "?:,]\x7d%@`")
  if name.isEmpty || !isEnd then none else reader.readNode (token name) cursor

/-- Reads a tag. -/
def readTag (reader : TokenReader) : Option TokenReader := do
  let (tag, rest) ← Tag.read? reader.cursor.rest
  let cursor := reader.cursor.skip (reader.cursor.rest.length - rest.length)
  if cursor.endsWordAfter 0 || (reader.inFlow && rest.head? = some ',') then
    reader.readNode (.tag tag) cursor
  else none

/-- Reads a block of lines. -/
def readBlockScalar (reader : TokenReader) (isFolded : Bool) : Option TokenReader := do
  let reader ← reader.dropKey
  let found ← readBlock isFolded reader.indent? reader.cursor
  let style : ScalarStyle := if isFolded then .other else .literalBlock
  some { reader.add (.scalar style found.text) found.cursor with allowsKey := true }

/-- Reads a quoted scalar. -/
def readQuotedScalar (reader : TokenReader) (quote : Char) : Option TokenReader := do
  let found ← readQuoted quote reader.cursor
  reader.readNode (.scalar .other found.text) found.cursor

/-- Whether a plain scalar may begin here. -/
def isAtPlain (reader : TokenReader) : Bool :=
  match reader.cursor.rest with
  | [] => false
  | '-' :: rest => !rest.head?.any isBlank
  | '?' :: rest | ':' :: rest => !reader.inFlow && !Cursor.endsWord rest
  | char :: _ =>
      !isBlank char && !isOneOf ",[]\x7b\x7d#&*!|>'\"%@`" char

/-- Reads a plain scalar. -/
def readPlainScalar (reader : TokenReader) : Option TokenReader := do
  let indent := (reader.indent?.map (· + 1)).getD 0
  let found ← readPlain reader.inFlow indent reader.cursor
  let reader ← reader.readNode (.scalar .plain found.text) found.cursor
  some { reader with allowsKey := found.crossesLine }

/-- Reads a token that begins with a given character. -/
def readToken (reader : TokenReader) (char : Char) : Option TokenReader :=
  let cursor := reader.cursor
  let inFlow := reader.inFlow
  if cursor.column = 0 && char = '%' then reader.readDeclaration
  else if cursor.isAtMark "---" then reader.readMark .documentStart (cursor.skip 3)
  else if cursor.isAtMark "..." then reader.readMark .documentEnd (cursor.skip 3)
  else if char = '[' then reader.readOpening .flowSequence
  else if char = '\x7b' then reader.readOpening .flowMapping
  else if char = ']' then reader.readClosing .flowSequenceEnd
  else if char = '\x7d' then reader.readClosing .flowMappingEnd
  else if char = ',' then reader.readSeparator
  else if char = '-' && cursor.endsWordAfter 1 then
    reader.readLeader .entry .blockSequence true
  else if char = '?' && (inFlow || cursor.endsWordAfter 1) then
    reader.readLeader .key .blockMapping (!inFlow)
  else if char = ':' && (inFlow || cursor.endsWordAfter 1) then reader.readValue
  else if char = '*' then reader.readName .recall
  else if char = '&' then reader.readName .anchor
  else if char = '!' then reader.readTag
  else if char = '|' && !inFlow then reader.readBlockScalar false
  else if char = '>' && !inFlow then reader.readBlockScalar true
  else if char = '\'' || char = '"' then reader.readQuotedScalar char
  else if reader.isAtPlain then reader.readPlainScalar
  else none

/-- Reads all tokens that are left. -/
def readAll : Nat → TokenReader → Option (List Token)
  | 0, _ => none
  | steps + 1, reader => do
      let reader ← reader.skipSpace.dropStaleKey
      match reader.cursor.rest with
      | [] => return (← reader.unindentAll.dropKey).tokens
      | char :: _ => readAll steps (← (reader.unindentTo reader.cursor.column).readToken char)

end TokenReader

/-- The tokens of a text, which may begin with a byte order mark. -/
def Token.ofText? (text : Text) : Option (List Token) :=
  let text := if text.head?.any (·.toNat = 0xFEFF) then text.drop 1 else text
  if text.all isAllowed then
    let cursor : Cursor := { rest := withLineFeeds text }
    TokenReader.readAll (text.length + 1) { cursor }
  else none

end DumpTransfer.Yaml
