import DumpTransfer.SourceName

/-! What single lines of a dump announce and how they open or close literals. The tool that
writes dumps starts every marker at the start of a line.
-/

namespace DumpTransfer.Dump

/-- What a line announces. -/
inductive Marker where
  /-- The lines after it belong to the named database. -/
  | boundary (database : Text)
  /-- The named table is dropped. -/
  | removal (table : Text)
  /-- The definition of the named table begins. -/
  | definition (table : Text)
  /-- A statement with rows of the named table begins. -/
  | rows (table : Text)
  /-- Anything else. -/
  | other
  deriving DecidableEq, Repr

namespace Marker

/-- White space and a table name. -/
def tableName : Pattern :=
  .gap ++ SourceName.pattern "name"

/-- Words that may stand before the next one, each with white space in front. -/
def modifier (choice : Pattern) : Pattern :=
  .optional (.gap ++ choice)

/-- The comment that names the current database, in its one spelling. -/
def namingComment : Pattern :=
  .exactly "--" ++ .blanks ++ .exactly "Current Database:" ++ .blanks
    ++ SourceName.strictPattern "name"

/-- The statement that names the current database. -/
def namingStatement : Pattern :=
  .letters "USE" ++ tableName ++ .blanks ++ .char ';'

/-- The beginning of a statement that drops a table. -/
def dropping : Pattern :=
  .words ["DROP", "TABLE"] ++ modifier (.words ["IF", "EXISTS"]) ++ tableName

/-- The beginning of a table definition. -/
def creating : Pattern :=
  .letters "CREATE" ++ modifier (.letters "TEMPORARY") ++ .gap ++ .letters "TABLE"
    ++ modifier (.words ["IF", "NOT", "EXISTS"]) ++ tableName

/-- The beginning of a statement that inserts rows. -/
def inserting : Pattern :=
  .letters "INSERT" ++ modifier (.anyWord ["LOW_PRIORITY", "DELAYED", "HIGH_PRIORITY"])
    ++ modifier (.letters "IGNORE") ++ .gap ++ .letters "INTO" ++ tableName

/-- The beginning of a statement that replaces rows. -/
def replacing : Pattern :=
  .letters "REPLACE" ++ modifier (.anyWord ["LOW_PRIORITY", "DELAYED"]) ++ .gap
    ++ .letters "INTO" ++ tableName

/-- The name in a line that begins as a pattern says. -/
def nameIn (pattern : Pattern) (line : Text) : Option Text := do
  SourceName.at? (← pattern.matchStart? line) "name"

end Marker

/-- The database that a line makes current, if it is a boundary. -/
def boundary? (line : Text) : Option Text :=
  if line.startsWith "--" then Marker.nameIn Marker.namingComment line
  else Marker.nameIn Marker.namingStatement line

/-- What a line announces. The first character decides which form is looked for. -/
def Marker.ofLine (line : Text) : Marker :=
  let named (form : Text → Marker) (pattern : Pattern) : Marker :=
    ((Marker.nameIn pattern line).map form).getD .other
  match line.head?.map Char.toUpper with
  | some '-' | some 'U' => ((boundary? line).map .boundary).getD .other
  | some 'D' => named .removal Marker.dropping
  | some 'C' => named .definition Marker.creating
  | some 'I' => named .rows Marker.inserting
  | some 'R' => named .rows Marker.replacing
  | _ => .other

/-- Whether a line closes a definition of several lines: it is not indented, ends in a
semicolon, and begins with the closing parenthesis or ends in a comment, as the last line of a
partitioned table does.
-/
def closesDefinition (line : Text) : Bool :=
  !line.head?.any Alphabet.isBlank
    && (let trimmed := line.trimEnd
        trimmed.endsWith ";" && (trimmed.startsWith ")" || trimmed.endsWith "*/;"))

/-- What is open while a line is read. -/
structure Openness where
  depth : Int := 0
  inLiteral : Bool := false
  inName : Bool := false

/-- What is open after a text, given what is open before it. -/
def Openness.after : Openness → Text → Openness
  | state, [] => state
  | state, '\\' :: rest =>
      if state.inLiteral then
        match rest with
        | [] => state
        | _ :: later => state.after later
      else state.after rest
  | state, char :: rest =>
      let next : Openness :=
        if char = '\'' && !state.inName then { state with inLiteral := !state.inLiteral }
        else if char = '`' && !state.inLiteral then { state with inName := !state.inName }
        else if state.inLiteral || state.inName then state
        else if char = '(' then { state with depth := state.depth + 1 }
        else if char = ')' then { state with depth := state.depth - 1 }
        else state
      next.after rest

/-- Whether no literal, name or parenthesis is open. -/
def Openness.closed (state : Openness) : Bool :=
  state.depth = 0 && !state.inLiteral && !state.inName

/-- Whether the first line of a definition is also its last. -/
def isWholeDefinition (line : Text) : Bool :=
  let trimmed := line.trimEnd
  trimmed.endsWith ";" && (Openness.after {} trimmed).closed

/-- Whether a text ends inside a string literal, given whether it starts inside one. A
backslash within a literal takes the next character with it.
-/
def endsInLiteral : Bool → Text → Bool
  | inLiteral, [] => inLiteral
  | true, '\\' :: rest =>
      match rest with
      | [] => true
      | _ :: later => endsInLiteral true later
  | inLiteral, char :: rest => endsInLiteral (inLiteral != (char = '\'')) rest

/-- Whether a line ends in a semicolon, white space apart. -/
def endsStatement (line : Text) : Bool :=
  line.trimEnd.endsWith ";"

/-- The number of rows in a statement, judged by what stands between two rows. -/
def rowEstimate (statement : Text) : Nat :=
  statement.occurrences "),(" + 1

end DumpTransfer.Dump
