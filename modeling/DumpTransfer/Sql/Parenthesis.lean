import DumpTransfer.Sql.Segment

/-! Parentheses and commas of a statement in standard style. Nothing between quotes counts,
whether single, double or back quotes.
-/

namespace DumpTransfer.Sql.Parenthesis

/-- The quote that is open after a character, given the one open before it. -/
def quoteStep : Option Char → Char → Option Char
  | some quote, char => if char = quote then none else some quote
  | none, char => if char = '\'' || char = '"' || char = '`' then some char else none

/-- The text up to the parenthesis that closes the given number of open ones, and the text
after it. A pending quote hides parentheses.
-/
def splitAtClose (quote : Option Char) (depth : Nat) : Text → Option (Text × Text)
  | [] => none
  | char :: rest =>
      let more (quote : Option Char) (depth : Nat) : Option (Text × Text) :=
        (splitAtClose quote depth rest).map fun (body, after) => (char :: body, after)
      match quote with
      | some _ => more (quoteStep quote char) depth
      | none =>
          if char = '(' then more none (depth + 1)
          else if char = ')' then
            if depth = 0 then some ([], rest) else more none (depth - 1)
          else more (quoteStep none char) depth

/-- The text between the parenthesis at the start and the one that closes it, and the text
after that one.
-/
def body? : Text → Option (Text × Text)
  | '(' :: rest => splitAtClose none 0 rest
  | _ => none

/-- The text of a run of code before its first parenthesis outside quoted names, and the text
from that parenthesis on.
-/
def splitAtOpen (quote : Option Char) : Text → Option (Text × Text)
  | [] => none
  | char :: rest =>
      if quote.isNone && char = '(' then some ([], char :: rest)
      else
        (splitAtOpen (quoteStep quote char) rest).map fun (head, after) =>
          (char :: head, after)

/-- The text before the first opening parenthesis in the code of some runs, and the text from
that parenthesis on.
-/
def splitRunsAtOpen : List Segment → Option (Text × Text)
  | [] => none
  | .code code :: rest =>
      match splitAtOpen none code with
      | some (head, after) => some (head, after ++ rest.flatMap Segment.text)
      | none => (splitRunsAtOpen rest).map fun (head, after) => (code ++ head, after)
  | .literal literal :: rest =>
      (splitRunsAtOpen rest).map fun (head, after) => (literal ++ head, after)

/-- The text before the first opening parenthesis of a statement, and the text from it on. -/
def firstOpen? (statement : Text) : Option (Text × Text) :=
  splitRunsAtOpen (Segment.ofText .standard statement)

/-- The parts between the commas outside quotes and parentheses, at least one. -/
def partsFrom (quote : Option Char) (depth : Int) : Text → List Text
  | [] => [[]]
  | char :: rest =>
      let more (quote : Option Char) (depth : Int) : List Text :=
        match partsFrom quote depth rest with
        | [] => [[char]]
        | first :: others => (char :: first) :: others
      match quote with
      | some _ => more (quoteStep quote char) depth
      | none =>
          if char = '(' then more none (depth + 1)
          else if char = ')' then more none (depth - 1)
          else if char = ',' && depth = 0 then [] :: partsFrom none depth rest
          else more (quoteStep none char) depth

/-- The items of a list in a statement. -/
def parts (list : Text) : List Text :=
  partsFrom none 0 list

end DumpTransfer.Sql.Parenthesis
