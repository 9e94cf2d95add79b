import DumpTransfer.Text.Pattern

/-! Shapes of text that occur in several rules about statements. -/

namespace DumpTransfer.Sql.Shape

/-- A literal in standard style. -/
def literal : Pattern :=
  .char '\'' ++ .many (.one (· ≠ '\'') <|> .exactly "''") ++ .char '\''

/-- A word of any characters of words. -/
def word : Pattern :=
  .someOf Alphabet.isWord

/-- The longest text without parentheses that close, between parentheses. -/
def parenthesized : Pattern :=
  .char '(' ++ .run (· ≠ ')') ++ .char ')'

/-- The words of a foreign key. -/
def foreignKey : Pattern :=
  .wordEdge ++ .words ["FOREIGN", "KEY"]

/-- What may be done to rows that refer to a deleted or updated one. -/
def action : Pattern :=
  .letters "RESTRICT" <|> .letters "CASCADE" <|> .words ["SET", "NULL"]
    <|> .words ["SET", "DEFAULT"] <|> .words ["NO", "ACTION"]

/-- What is done to rows that refer to deleted ones or to updated ones. -/
def referenceAction : Pattern :=
  .gap ++ .letters "ON" ++ .gap ++ .anyWord ["DELETE", "UPDATE"] ++ .gap ++ action

end DumpTransfer.Sql.Shape
