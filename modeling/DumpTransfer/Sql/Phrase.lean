import DumpTransfer.Sql.QualifiedName

/-! Parts of statements in canonical form: keywords in capitals, one space between words, no
comments. The tables that a part speaks of are kept apart from its text.
-/

namespace DumpTransfer.Sql

/-- A piece of a statement in canonical form. -/
inductive Piece where
  | text (text : Text)
  /-- A table that the statement reads or writes. -/
  | relation (name : QualifiedName)
  deriving DecidableEq, Repr

/-- A part of a statement in canonical form. -/
abbrev Phrase := List Piece

namespace Phrase

/-- A phrase of plain text. -/
def plain (text : Text) : Phrase :=
  [.text text]

instance : Coe String Phrase := ⟨fun string => plain string⟩

/-- A word. -/
def ofWord (word : String) : Phrase :=
  plain (Text.ofString word)

/-- A name that is not a table of the statement. -/
def name (name : QualifiedName) : Phrase :=
  plain name.render

/-- A table of the statement. -/
def relation (name : QualifiedName) : Phrase :=
  [.relation name]

/-- A text between two quotes. -/
def quoted (quote : Char) (text : Text) : Phrase :=
  plain (between quote text)

/-- The phrases one after the other with a separator between each two. -/
def joinWith (separator : String) : List Phrase → Phrase
  | [] => []
  | [last] => last
  | first :: second :: rest =>
      first ++ (plain separator ++ joinWith separator (second :: rest))

/-- The phrases with commas between them. -/
def list (items : List Phrase) : Phrase :=
  joinWith ", " items

/-- A phrase in parentheses. -/
def parenthesized (phrase : Phrase) : Phrase :=
  "(" ++ phrase ++ ")"

/-- A word after a space. -/
def spacedWord (word : String) : Phrase :=
  plain (' ' :: Text.ofString word)

/-- A word before a space. -/
def leadingWord (word : String) : Phrase :=
  plain (Text.ofString word ++ [' '])

/-- A phrase after a space, or nothing. -/
def spaced (phrase : Option Phrase) : Phrase :=
  match phrase with
  | some phrase => " " ++ phrase
  | none => []

/-- The text of a phrase. -/
def render (phrase : Phrase) : Text :=
  phrase.flatMap fun
    | .text text => text
    | .relation name => name.render

/-- The text of a phrase with every table that is named by one part alone under another name. -/
def renderWith (rename : Text → QualifiedName) (phrase : Phrase) : Text :=
  phrase.flatMap fun
    | .text text => text
    | .relation [part] => QualifiedName.render (rename part.value)
    | .relation name => name.render

end Phrase

end DumpTransfer.Sql
