import DumpTransfer.Yaml.Cursor

/-! Scalars of YAML documents: plain ones, quoted ones and blocks of lines. Inside the first
two, a single line break counts as a space and further ones as themselves.
-/

namespace DumpTransfer.Yaml

/-- White space between the words of a scalar: the blanks, if it lies on one line, or else its
line breaks.
-/
structure Gap where
  spaces : Text := []
  breaks : List Text := []
  deriving DecidableEq, Repr

namespace Gap

/-- Whether another line has begun. -/
def crossesLine (gap : Gap) : Bool :=
  !gap.breaks.isEmpty

/-- What the white space stands for. -/
def folded (gap : Gap) : Text :=
  match gap.breaks with
  | [] => gap.spaces
  | first :: more =>
      if first = ['\n'] then if more.isEmpty then [' '] else more.flatten
      else first ++ more.flatten

/-- Reads on in white space. A tab may not stand where a column that is too small needs spaces. -/
def readFrom (indent : Nat) : Nat → Gap → Cursor → Option (Gap × Cursor)
  | 0, gap, cursor => some (gap, cursor)
  | steps + 1, gap, cursor =>
      match cursor.rest with
      | [] => some (gap, cursor)
      | char :: _ =>
          if isBreak char then
            readFrom indent steps ⟨[], gap.breaks ++ [[char]]⟩ cursor.next
          else if !isBlank char then some (gap, cursor)
          else if !gap.crossesLine then
            readFrom indent steps { gap with spaces := gap.spaces ++ [char] } cursor.next
          else if char = '\t' && cursor.column < indent then none
          else readFrom indent steps gap cursor.next

/-- The white space at a place, after what has been read of it. -/
def read (indent : Nat) (before : Gap) (cursor : Cursor) : Option (Gap × Cursor) :=
  readFrom indent cursor.rest.length before cursor

end Gap

/-- The longest word of a plain scalar at the beginning of a text. A colon ends it before white
space only; between flow brackets their signs end it, and a colon right before one is refused.
-/
def plainWord (inFlow : Bool) : Text → Option Text
  | [] => some []
  | char :: rest =>
      if isBlank char || isBreak char then some []
      else if inFlow && isOneOf ",[]\x7b\x7d" char then some []
      else if char = ':' && Cursor.endsWord rest then some []
      else if char = ':' && inFlow && rest.head?.any (isOneOf ",?[]\x7b\x7d") then none
      else (plainWord inFlow rest).map (char :: ·)

/-- A scalar that has been read, and the place after it. -/
structure ReadScalar where
  text : Text
  /-- Whether white space after it led to another line. -/
  crossesLine : Bool := false
  cursor : Cursor
  deriving DecidableEq, Repr

/-- Reads on in a plain scalar after some text and the white space after that. -/
def readPlainFrom (inFlow : Bool) (indent : Nat)
    : Nat → Text → Gap → Cursor → Option ReadScalar
  | 0, _, _, _ => none
  | steps + 1, text, gap, cursor =>
      if cursor.isAtDocumentMark || cursor.rest.head? = some '#' then
        some ⟨text, gap.crossesLine, cursor⟩
      else do
        let word ← plainWord inFlow cursor.rest
        if word.isEmpty then some ⟨text, gap.crossesLine, cursor⟩
        else
          let text := text ++ gap.folded ++ word
          let cursor := cursor.skip word.length
          if !cursor.isAtSpace then some ⟨text, false, cursor⟩
          else
            let (gap, cursor) ← Gap.read indent {} cursor
            if !inFlow && cursor.column < indent then some ⟨text, gap.crossesLine, cursor⟩
            else readPlainFrom inFlow indent steps text gap cursor

/-- The plain scalar at a place. Its further lines begin at a given column or beyond. -/
def readPlain (inFlow : Bool) (indent : Nat) (cursor : Cursor) : Option ReadScalar :=
  readPlainFrom inFlow indent (cursor.rest.length + 1) [] {} cursor

/-- The character that a letter after a backslash stands for. -/
def escapedChar? (letter : Char) : Option Char :=
  match letter with
  | '0' => some '\x00'
  | 'a' => some '\x07'
  | 'b' => some '\x08'
  | 't' | '\t' => some '\t'
  | 'n' => some '\n'
  | 'v' => some '\x0b'
  | 'f' => some '\x0c'
  | 'r' => some '\r'
  | 'e' => some '\x1b'
  | ' ' | '"' | '/' | '\\' => some letter
  | 'N' => some (Char.ofNat 0x85)
  | '_' => some (Char.ofNat 0xA0)
  | 'L' => some (Char.ofNat 0x2028)
  | 'P' => some (Char.ofNat 0x2029)
  | _ => none

/-- The number of hexadecimal digits after a letter after a backslash. -/
def escapedLength? (letter : Char) : Option Nat :=
  match letter with
  | 'x' => some 2
  | 'u' => some 4
  | 'U' => some 8
  | _ => none

/-- The character that follows a backslash, and the number of characters that it takes. -/
def escaped? : Text → Option (Char × Nat)
  | [] => none
  | letter :: rest =>
      match escapedLength? letter with
      | none => (escapedChar? letter).map fun char => (char, 1)
      | some length => do
          let code ← Text.ofRadix? 16 (rest.take length)
          if (rest.take length).length = length && code.isValidChar then
            some (Char.ofNat code, length + 1)
          else none

/-- Reads on in a quoted scalar after some text. -/
def readQuotedFrom (quote : Char) : Nat → Text → Cursor → Option ReadScalar
  | 0, _, _ => none
  | steps + 1, text, cursor =>
      if cursor.isAtDocumentMark then none
      else if cursor.isAtSpace then do
        let (gap, cursor) ← Gap.read 0 {} cursor
        readQuotedFrom quote steps (text ++ gap.folded) cursor
      else
        match cursor.rest with
        | [] => none
        | char :: rest =>
            if char = quote then
              if quote = '\'' && rest.head? = some quote then
                readQuotedFrom quote steps (text ++ [quote]) (cursor.skip 2)
              else some ⟨text, false, cursor.next⟩
            else if quote = '"' && char = '\\' then
              if rest.head?.any isBreak then do
                let (gap, cursor) ← Gap.read 0 { breaks := [[]] } (cursor.skip 2)
                readQuotedFrom quote steps (text ++ gap.folded) cursor
              else do
                let (escaped, length) ← escaped? rest
                readQuotedFrom quote steps (text ++ [escaped]) (cursor.skip (length + 1))
            else readQuotedFrom quote steps (text ++ [char]) cursor.next

/-- The quoted scalar at a place. -/
def readQuoted (quote : Char) (cursor : Cursor) : Option ReadScalar :=
  readQuotedFrom quote (cursor.rest.length + 1) [] cursor.next

/-- What becomes of the line breaks at the end of a block. -/
inductive Chomping where
  | strip
  | clip
  | keep
  deriving DecidableEq, Repr

/-- What stands after the sign of a block: what becomes of its end, and by how much it is
indented.
-/
structure BlockHeader where
  chomping : Chomping := .clip
  increment : Option Nat := none
  deriving DecidableEq, Repr

/-- The chomping that a sign asks for. -/
def chomping? (char : Char) : Option Chomping :=
  match char with
  | '+' => some .keep
  | '-' => some .strip
  | _ => none

/-- The digit of an increment, which is not zero. -/
def increment? (char : Char) : Option Nat :=
  if char.isDigit && char ≠ '0' then some (char.toNat - '0'.toNat) else none

/-- The header at the beginning of a text and its length: a sign and a digit in either order. -/
def BlockHeader.read (text : Text) : BlockHeader × Nat :=
  match text.head?.bind chomping?, text.head?.bind increment? with
  | some chomping, _ =>
      match text[1]?.bind increment? with
      | some increment => (⟨chomping, some increment⟩, 2)
      | none => (⟨chomping, none⟩, 1)
  | none, some increment =>
      match text[1]?.bind chomping? with
      | some chomping => (⟨chomping, some increment⟩, 2)
      | none => (⟨.clip, some increment⟩, 1)
  | none, none => ({}, 0)

/-- Reads on in the white space before a line of a block: up to its indentation, if that is
known, and over empty lines. Comes to the largest column, the line breaks and the place after.
-/
def readMarginFrom (indent : Option Nat)
    : Nat → Nat → Text → Cursor → Option (Nat × Text × Cursor)
  | 0, _, _, _ => none
  | steps + 1, largest, breaks, cursor =>
      let isBefore := indent.all (cursor.column < ·)
      match cursor.rest with
      | char :: _ =>
          if isBefore && char = ' ' then
            readMarginFrom indent steps largest breaks cursor.next
          else if isBefore && char = '\t' then none
          else
            let largest := max largest cursor.column
            if isBreak char then
              readMarginFrom indent steps largest (breaks ++ [char]) cursor.next
            else some (largest, breaks, cursor)
      | [] => some (max largest cursor.column, breaks, cursor)

/-- The white space before a line of a block. -/
def readMargin (indent : Option Nat) (cursor : Cursor) : Option (Nat × Text × Cursor) :=
  readMarginFrom indent (cursor.rest.length + 1) 0 [] cursor

/-- A block that is being read: its text, the break after its last line, the breaks after that,
and whether the last line began with a blank.
-/
structure BlockState where
  text : Text := []
  leading : Text := []
  trailing : Text := []
  isIndented : Bool := false
  deriving DecidableEq, Repr

namespace BlockState

/-- The text up to a further line. A single break between two lines of a folded block counts as
a space, unless one of them begins with a blank.
-/
def joined (state : BlockState) (isFolded beginsBlank : Bool) : Text :=
  if isFolded && state.leading = ['\n'] && !state.isIndented && !beginsBlank then
    state.text ++ (if state.trailing.isEmpty then [' '] else state.trailing)
  else state.text ++ state.leading ++ state.trailing

/-- The text of the whole block. -/
def finish (state : BlockState) (chomping : Chomping) : Text :=
  match chomping with
  | .strip => state.text
  | .clip => state.text ++ state.leading
  | .keep => state.text ++ state.leading ++ state.trailing

end BlockState

/-- Reads on in a block with a given indentation. -/
def readLinesFrom (isFolded : Bool) (indent : Nat)
    : Nat → BlockState → Cursor → Option (BlockState × Cursor)
  | 0, _, _ => none
  | steps + 1, state, cursor =>
      if cursor.column ≠ indent || cursor.rest.isEmpty then some (state, cursor)
      else do
        let beginsBlank := cursor.rest.head?.any isBlank
        let (line, cursor) := cursor.run (! isBreak ·)
        let text := state.joined isFolded beginsBlank ++ line
        let leading := (cursor.rest.take 1)
        let (_, trailing, cursor) ← readMargin (some indent) cursor.next
        readLinesFrom isFolded indent steps ⟨text, leading, trailing, beginsBlank⟩ cursor

/-- The indentation of a block: as its header says, or that of its first line, and always more
than that of what holds it.
-/
def blockIndent (header : BlockHeader) (outer : Option Nat) (largest : Nat) : Nat :=
  match header.increment with
  | some increment => outer.getD 0 + increment
  | none => max (max largest 1) ((outer.map (· + 1)).getD 0)

/-- The block at a place, inside something with a given indentation. -/
def readBlock (isFolded : Bool) (outer : Option Nat) (cursor : Cursor) : Option ReadScalar := do
  let cursor := cursor.next
  let (header, length) := BlockHeader.read cursor.rest
  let cursor := (cursor.skip length).skipWhile isBlank
  let cursor :=
    if cursor.rest.head? = some '#' then cursor.skipWhile (! isBreak ·) else cursor
  if !cursor.isAtLineEnd then none
  else
    let known := header.increment.map fun increment => outer.getD 0 + increment
    let (largest, breaks, cursor) ← readMargin known cursor.next
    let indent := blockIndent header outer largest
    let (state, cursor) ← readLinesFrom isFolded indent (cursor.rest.length + 1)
      { trailing := breaks } cursor
    some ⟨state.finish header.chomping, false, cursor⟩

end DumpTransfer.Yaml
