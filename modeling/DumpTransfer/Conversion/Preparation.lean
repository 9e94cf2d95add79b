import DumpTransfer.Sql.Segment
import DumpTransfer.Text.Pattern

/-! What is taken out of a statement before it is converted: directives for the server that
wrote the dump, table locks, session settings and switches of indexes.
-/

namespace DumpTransfer.Conversion.Preparation

/-- A comment with a directive for some server versions. -/
def directive : Pattern :=
  .exactly "/*!" ++ .run Char.isDigit ++ .shortRun (fun _ => true) ++ .exactly "*/"

/-- The rest of a statement and its semicolon. -/
def restOfStatement : Pattern :=
  .run (· ≠ ';') ++ .optional (.char ';')

/-- A statement that locks tables or unlocks them. -/
def tableLock : Pattern :=
  .lineStart ++ .blanks ++ .optional (.letters "UN") ++ .words ["LOCK", "TABLES"] ++ .wordEdge
    ++ restOfStatement

/-- What a statement sets when it sets something for the session. -/
def setting : Pattern :=
  (.char '@' ++ .optional (.char '@') ++ .one Alphabet.isWord)
    <|> ((.letters "SESSION" <|> .letters "GLOBAL" <|> .letters "NAMES"
        <|> .words ["CHARACTER", "SET"])
      ++ .one Alphabet.isBlank)

/-- A statement that sets variables or the character set of the session. -/
def sessionSetting : Pattern :=
  .lineStart ++ .blanks ++ .letters "SET" ++ .gap ++ setting ++ restOfStatement

/-- A statement that switches the indexes of a table off or on. -/
def indexSwitch : Pattern :=
  .words ["ALTER", "TABLE"] ++ .gap ++ .someOf (! Alphabet.isBlank ·) ++ .gap
    ++ .anyWord ["DISABLE", "ENABLE"] ++ .gap ++ .letters "KEYS" ++ .blanks
    ++ .optional (.char ';')

/-- What is taken out, in this order. -/
def removed : List Pattern :=
  [directive, tableLock, sessionSetting, indexSwitch]

/-- A run of code without what is taken out. -/
def strip (code : Text) : Text :=
  removed.foldl (fun remaining pattern => pattern.removeAll remaining) code

/-- A statement without what is taken out and without white space around it. -/
def prepare (statement : Text) : Text :=
  Text.trim (Sql.Segment.onCode .backslash strip statement)

end DumpTransfer.Conversion.Preparation
