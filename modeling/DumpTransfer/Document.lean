import DumpTransfer.Text.Basic

/-! Documents of records and lists, and their written form over several lines. -/

namespace DumpTransfer

/-- A document. -/
inductive Document where
  | boolean (value : Bool)
  /-- A number in its written form. -/
  | number (written : Text)
  | text (value : Text)
  | list (items : List Document)
  | record (fields : List (Text × Document))

namespace Document

/-- A character between the quotes of a text. -/
def escaped (char : Char) : Text :=
  match char with
  | '"' => "\\\""
  | '\\' => "\\\\"
  | '\x08' => "\\b"
  | '\x0c' => "\\f"
  | '\n' => "\\n"
  | '\r' => "\\r"
  | '\t' => "\\t"
  | _ =>
      if char.toNat < 0x20 then
        let digits := Nat.toDigits 16 char.toNat
        "\\u" ++ List.replicate (4 - digits.length) '0' ++ digits
      else [char]

/-- A text between quotes. -/
def quoted (text : Text) : Text :=
  '"' :: text.flatMap escaped ++ ['"']

/-- A line break and two spaces for every level of nesting. -/
def lineBreak (depth : Nat) : Text :=
  '\n' :: List.replicate (2 * depth) ' '

/-- Written members between two brackets, each on a line of its own. -/
def bracketed (opening closing : Char) (depth : Nat) (members : List Text) : Text :=
  if members.isEmpty then [opening, closing]
  else
    opening :: lineBreak (depth + 1) ++ Text.joinWith (',' :: lineBreak (depth + 1)) members
      ++ lineBreak depth ++ [closing]

mutual

/-- A document at a level of nesting. -/
def renderAt (depth : Nat) : Document → Text
  | boolean true => "true"
  | boolean false => "false"
  | number written => written
  | text value => quoted value
  | list items => bracketed '[' ']' depth (renderItems (depth + 1) items)
  | record fields => bracketed '\x7b' '\x7d' depth (renderFields (depth + 1) fields)

/-- The items of a list. -/
def renderItems (depth : Nat) : List Document → List Text
  | [] => []
  | first :: rest => renderAt depth first :: renderItems depth rest

/-- The fields of a record. -/
def renderFields (depth : Nat) : List (Text × Document) → List Text
  | [] => []
  | (name, value) :: rest =>
      (quoted name ++ ": " ++ renderAt depth value) :: renderFields depth rest

end

/-- A document in its written form. -/
def render (document : Document) : Text :=
  document.renderAt 0

/-- The fields of a record, one of them. -/
def field (name : Text) (value : Document) : List (Text × Document) :=
  [(name, value)]

/-- A field, if there is a value for it. -/
def fieldIf (name : Text) (value : Option Document) : List (Text × Document) :=
  value.toList.flatMap (field name)

/-- A field with a list, unless the list is empty. -/
def fieldUnlessEmpty (name : Text) (items : List Document) : List (Text × Document) :=
  if items.isEmpty then [] else field name (list items)

end Document

end DumpTransfer
