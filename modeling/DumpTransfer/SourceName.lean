import DumpTransfer.Text.Pattern

/-! Names as the statements of a dump write them: any text between back quotes, in which a back
quote is written twice, or a bare word.
-/

namespace DumpTransfer.SourceName

/-- Characters of a bare name. -/
def isBare (char : Char) : Bool :=
  char.isAlphanum || char = '_' || char = '$'

/-- Characters of a bare name where case is ignored. -/
def isBareFolded (char : Char) : Bool :=
  isBare (Alphabet.foldCase char)

/-- A name between back quotes. -/
def quoted : Pattern :=
  .char '`' ++ .oneOrMore (.one (· ≠ '`') <|> .exactly "``") ++ .char '`'

/-- A name in either form, recorded under a label as it is written. -/
def pattern (label : String) : Pattern :=
  .group label (quoted <|> .someOf isBareFolded)

/-- The same, with bare names in ASCII alone. -/
def strictPattern (label : String) : Pattern :=
  .group label (quoted <|> .someOf isBare)

/-- The name that a written form stands for. -/
def decode : Text → Text
  | '`' :: rest => Text.halving '`' rest.dropLast
  | bare => bare

/-- The name recorded under a label, if there is one. -/
def at? (place : Place) (label : String) : Option Text :=
  (place.group? label).map decode

end DumpTransfer.SourceName
