import DumpTransfer.Sql.Parser

/-! What the rows of a query are read for: to be locked, or to be written as a document. -/

namespace DumpTransfer.Sql.Grammar.Purpose

/-- A string between parentheses, in canonical form. -/
def stringArgument : Parser Phrase :=
  Parser.parenthesized Parser.rawString

/-- The name of an element, if it is given. -/
def elementName : Parser Phrase := do
  if ← Parser.isSign "(" then stringArgument else return []

/-- How a document of elements is formed. -/
def elementForm : Parser Phrase := do
  match ← Parser.oneOf ["RAW", "AUTO", "EXPLICIT", "PATH"] with
  | "RAW" => return "RAW" ++ (← elementName)
  | "PATH" => return "PATH" ++ (← elementName)
  | word => return (word : Phrase)

/-- An option of a document with its place among the options, if one comes after a comma. A comma
may also stand alone.
-/
def option? (known : List (String × Nat × Parser Phrase))
    : Parser (Option (Option (Nat × Phrase))) := do
  if ← Parser.sign "," then
    match ← Parser.anyKeyword (known.map (·.1)) with
    | none => return some none
    | some word =>
        match known.lookup word with
        | some (place, reading) => return some (some (place, ← reading))
        | none => failure
  else return none

/-- The options of a document in their fixed order, the last of each kind. -/
def options (known : List (String × Nat × Parser Phrase)) : Parser Phrase := do
  let given := (← Parser.items (option? known)).reduceOption
  return (List.range known.length).flatMap fun place =>
    match (given.filter fun option => option.1 = place).getLast? with
    | some (_, phrase) => ", " ++ phrase
    | none => []

/-- The name of the outermost part of a document, after its keyword. -/
def root : Parser Phrase := do
  return "ROOT" ++ (← stringArgument)

/-- Options of a document of elements. -/
def elementOptions : List (String × Nat × Parser Phrase) := [
  ("BINARY", 0, do
    Parser.expectKeyword "BASE64"
    return "BINARY BASE64"),
  ("TYPE", 1, return "TYPE"), ("ROOT", 2, root), ("ELEMENTS", 3, return "ELEMENTS")]

/-- Options of a document of objects. -/
def objectOptions : List (String × Nat × Parser Phrase) := [
  ("ROOT", 0, root), ("INCLUDE_NULL_VALUES", 1, return "INCLUDE_NULL_VALUES"),
  ("WITHOUT_ARRAY_WRAPPER", 2, return "WITHOUT_ARRAY_WRAPPER")]

/-- A document that the rows are written as, if one is asked for. -/
def document? : Parser (Option Phrase) := do
  match ← Parser.anyKeyword ["XML", "JSON", "BROWSE"] with
  | some "XML" => return some ("FOR XML " ++ (← elementForm) ++ (← options elementOptions))
  | some "JSON" =>
      let form ← Parser.oneOf ["AUTO", "PATH"]
      return some ("FOR JSON " ++ (form : Phrase) ++ (← options objectOptions))
  | some _ => return some "FOR BROWSE"
  | none => return none

/-- How rows are locked. -/
def lock : Parser Phrase := do
  let kind ← Parser.oneOf ["UPDATE", "SHARE"]
  let tables ← Parser.clause ["OF"] Parser.name
  let patience : Phrase ←
    if ← Parser.keyword "NOWAIT" then pure " NOWAIT"
    else Parser.spacedKeywords ["SKIP", "LOCKED"]
  return "FOR " ++ (kind : Phrase) ++ tables ++ patience

/-- One purpose, and whether there may be others after it. -/
def one? : Parser (Option (Phrase × Bool)) := do
  if ← Parser.keyword "FOR" then
    match ← document? with
    | some document => return some (document, false)
    | none => return some (← lock, true)
  else return none

/-- Purposes at most as many as a list has members, up to the first that has to be the last. -/
def readWithin : List α → Parser Phrase
  | [] => return []
  | _ :: bound => do
      match ← one? with
      | none => return []
      | some (phrase, true) => return " " ++ phrase ++ (← readWithin bound)
      | some (phrase, false) => return " " ++ phrase

/-- The purposes that are given. -/
def read : Parser Phrase := do
  readWithin (← get)

end DumpTransfer.Sql.Grammar.Purpose
