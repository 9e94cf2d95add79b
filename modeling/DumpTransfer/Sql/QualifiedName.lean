import DumpTransfer.Text.Basic

/-! Names as a statement holds them: parts with the quotes they stand between, and their
written form.
-/

namespace DumpTransfer.Sql

/-- One part of a name. -/
structure NamePart where
  value : Text
  /-- The quote around the part, if it is quoted. -/
  quote : Option Char
  deriving DecidableEq, Repr

/-- A name of one or more parts with points between them. -/
abbrev QualifiedName := List NamePart

/-- The text between two quotes. A quote in it is written twice, where two in a row are taken
to be written so already; quotes right after a backslash are left as they are.
-/
def quotedText (quote : Char) (text : Text) : Text :=
  go false text
where
  /-- The same, after a backslash or not. -/
  go : Bool → Text → Text
    | _, [] => []
    | true, char :: rest =>
        if char = quote then char :: go true rest else char :: go (char = '\\') rest
    | false, [char] => if char = quote then [quote, quote] else [char]
    | false, char :: next :: rest =>
        if char = quote then
          if next = quote then quote :: quote :: go false rest
          else quote :: quote :: go false (next :: rest)
        else char :: go (char = '\\') (next :: rest)

/-- A text between two quotes. -/
def between (quote : Char) (text : Text) : Text :=
  quote :: quotedText quote text ++ [quote]

/-- A part of a name as it is written. -/
def NamePart.render (part : NamePart) : Text :=
  match part.quote with
  | some quote => between quote part.value
  | none => part.value

/-- A name as it is written. -/
def QualifiedName.render (name : QualifiedName) : Text :=
  Text.joinWith "." (name.map NamePart.render)

/-- The last part of a name, which names the object itself. -/
def QualifiedName.object (name : QualifiedName) : Text :=
  (name.getLast?.map (·.value)).getD []

end DumpTransfer.Sql
