import DumpTransfer.Text.Basic

/-! Statements as runs of code and of string literals, so that rules for code leave the data of
rows alone. Quoted names belong to the code, and a quote inside them opens no literal.
-/

namespace DumpTransfer.Sql

/-- How literals are written. -/
inductive LiteralStyle where
  /-- A quote inside a literal is written twice. -/
  | standard
  /-- A backslash inside a literal takes the next character with it as well. -/
  | backslash
  deriving DecidableEq, Repr

/-- What a character of a statement stands in. -/
inductive Quoting where
  | code
  | literal
  /-- In a literal, right after a backslash. -/
  | escaped
  /-- In a name that ends at the given quote. -/
  | name (close : Char)
  deriving DecidableEq, Repr

namespace Quoting

/-- What comes after a character. A quote written twice ends its literal or name and begins it
anew, which leaves everything in the same run.
-/
def step (style : LiteralStyle) : Quoting → Char → Quoting
  | code, char =>
      if char = '\'' then literal
      else if char = '`' || char = '"' then name char
      else code
  | literal, char =>
      if char = '\\' && style = .backslash then escaped
      else if char = '\'' then code
      else literal
  | escaped, _ => literal
  | name close, char => if char = close then code else name close

/-- Whether the place is inside a literal. -/
def inLiteral : Quoting → Bool
  | literal | escaped => true
  | code | name _ => false

end Quoting

/-- A run of a statement. -/
inductive Segment where
  /-- Words, names and signs. -/
  | code (text : Text)
  /-- A string literal with its quotes. -/
  | literal (text : Text)
  deriving DecidableEq, Repr

namespace Segment

/-- The text of a run. -/
def text : Segment → Text
  | code text | literal text => text

/-- Puts a character before runs, into the first one if that is of its kind. -/
def extend (isLiteral : Bool) (char : Char) (runs : List Segment) : List Segment :=
  match isLiteral, runs with
  | true, literal text :: rest => literal (char :: text) :: rest
  | false, code text :: rest => code (char :: text) :: rest
  | true, _ => literal [char] :: runs
  | false, _ => code [char] :: runs

/-- The runs of what follows a place. Both quotes of a literal belong to it. -/
def ofTextFrom (style : LiteralStyle) : Quoting → Text → List Segment
  | _, [] => []
  | quoting, char :: rest =>
      let next := quoting.step style char
      extend (quoting.inLiteral || next.inLiteral) char (ofTextFrom style next rest)

/-- The runs of a statement. -/
def ofText (style : LiteralStyle) (statement : Text) : List Segment :=
  ofTextFrom style .code statement

/-- The statement with every run of code passed through a function. -/
def onCode (style : LiteralStyle) (change : Text → Text) (statement : Text) : Text :=
  (ofText style statement).flatMap fun
    | code text => change text
    | literal text => text

/-- The runs of code of a statement, joined. -/
def codeOf (style : LiteralStyle) (statement : Text) : Text :=
  (ofText style statement).flatMap fun
    | code text => text
    | literal _ => []

end Segment

end DumpTransfer.Sql
