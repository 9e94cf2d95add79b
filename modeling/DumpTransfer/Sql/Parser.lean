import DumpTransfer.Sql.Keyword
import DumpTransfer.Sql.Phrase

/-! Reading from the front of a list of tokens. What reads a part of a statement yields the
part in canonical form and leaves the tokens after it.
-/

namespace DumpTransfer.Sql

/-- Why something cannot be read. -/
inductive Obstacle where
  /-- The tokens do not have the form. -/
  | form
  /-- Parts are nested more deeply than is allowed. -/
  | depth
  deriving DecidableEq, Repr

/-- Another reading may be tried where the form does not fit, but not where parts are nested too
deeply.
-/
instance : Alternative (Except Obstacle) where
  failure := .error .form
  orElse first second :=
    match first with
    | .error .form => second ()
    | outcome => outcome

/-- Reads something from the front of the tokens at hand, or fails. -/
abbrev Parser := StateT (List Token) (Except Obstacle)

namespace Parser

/-- The next token. -/
def next : Parser Token
  | [] => .error .form
  | token :: rest => .ok (token, rest)

/-- The token after a number of others, which all stay in place. -/
def ahead? (distance : Nat) : Parser (Option Token) := do
  return (← get)[distance]?

/-- The next token, which stays in place. -/
def peek? : Parser (Option Token) :=
  ahead? 0

/-- Whether no token is left. -/
def atEnd : Parser Bool := do
  return (← get).isEmpty

/-- Passes over the next token, if there is one. -/
def skip : Parser Unit :=
  modify List.tail

/-- What is read, or nothing and no token passed over where it cannot be read. -/
def attempt (reading : Parser α) : Parser (Option α) :=
  fun tokens =>
    match reading tokens with
    | .ok (value, rest) => .ok (some value, rest)
    | .error .form => .ok (none, tokens)
    | .error .depth => .error .depth

/-- Passes over a token with a property and tells whether there was one. -/
def takeIf (accepts : Token → Bool) : Parser Bool := do
  if (← peek?).any accepts then
    skip
    return true
  else return false

/-- Passes over a keyword if it comes next. -/
def keyword (word : String) : Parser Bool :=
  takeIf (·.keyword = word)

/-- Passes over a sign if it comes next. -/
def sign (spelling : String) : Parser Bool :=
  takeIf (· = .sign spelling)

/-- Whether one of several keywords comes next. -/
def isKeyword (words : List String) : Parser Bool := do
  return (← peek?).any fun token => words.contains token.keyword

/-- Whether a sign comes next. -/
def isSign (spelling : String) : Parser Bool := do
  return (← peek?) = some (.sign spelling)

/-- Passes over one of several keywords and tells which. -/
def anyKeyword (words : List String) : Parser (Option String) := do
  match ← peek? with
  | some token =>
      if words.contains token.keyword then
        skip
        return some token.keyword
      else return none
  | none => return none

/-- One of several keywords, which has to come next. -/
def oneOf (words : List String) : Parser String := do
  match ← anyKeyword words with
  | some word => return word
  | none => failure

/-- The tokens at hand begin with the given keywords; those after them. -/
def afterKeywords? : List String → List Token → Option (List Token)
  | [], tokens => some tokens
  | _ :: _, [] => none
  | word :: words, token :: rest =>
      if token.keyword = word then afterKeywords? words rest else none

/-- Passes over several keywords if they all come next. -/
def keywords (words : List String) : Parser Bool := do
  match afterKeywords? words (← get) with
  | some rest =>
      set rest
      return true
  | none => return false

/-- Fails unless a condition holds. -/
def require (condition : Parser Bool) : Parser Unit := do
  unless ← condition do failure

/-- Passes over a keyword that has to come next. -/
def expectKeyword (word : String) : Parser Unit :=
  require (keyword word)

/-- Passes over several keywords that have to come next. -/
def expectKeywords (words : List String) : Parser Unit :=
  require (keywords words)

/-- Passes over a sign that has to come next. -/
def expectSign (spelling : String) : Parser Unit :=
  require (sign spelling)

/-- Items up to the first place where there is none, at most as many as a list has members. -/
def itemsWithin (item : Parser (Option α)) : List β → Parser (List α)
  | [] => return []
  | _ :: bound => do
      match ← item with
      | none => return []
      | some first => return first :: (← itemsWithin item bound)

/-- Items up to the first place where there is none. -/
def items (item : Parser (Option α)) : Parser (List α) := do
  itemsWithin item (← get)

/-- What is read, if a keyword stands before it. -/
def after (word : String) (reading : Parser α) : Parser (Option α) := do
  if ← keyword word then return some (← reading) else return none

/-- Items with commas between them, at least one. -/
def commaSeparated (item : Parser α) : Parser (List α) := do
  let first ← item
  let rest ← items do
    if ← sign "," then return some (← item) else return none
  return first :: rest

/-- Items with commas between them, none if a closing sign comes next. -/
def commaSeparatedBefore (closing : String) (item : Parser α) : Parser (List α) := do
  if ← isSign closing then return [] else commaSeparated item

/-- Items in canonical form with commas between them, at least one. -/
def list (item : Parser Phrase) : Parser Phrase := do
  return .list (← commaSeparated item)

/-- What is read between parentheses. -/
def inParentheses (reading : Parser α) : Parser α := do
  expectSign "("
  let value ← reading
  expectSign ")"
  return value

/-- What is read between parentheses, with them. -/
def parenthesized (reading : Parser Phrase) : Parser Phrase := do
  return .parenthesized (← inParentheses reading)

/-- The keyword in canonical form if it comes next, after a space. -/
def spacedKeyword (word : String) : Parser Phrase := do
  if ← keyword word then return .spacedWord word else return []

/-- The keyword in canonical form if it comes next, before a space. -/
def leadingKeyword (word : String) : Parser Phrase := do
  if ← keyword word then return .leadingWord word else return []

/-- Keywords in canonical form if they all come next, after a space. -/
def spacedKeywords (words : List String) : Parser Phrase := do
  if ← keywords words then return .spacedWord (" ".intercalate words) else return []

/-- Keywords in canonical form if they all come next, before a space. -/
def leadingKeywords (words : List String) : Parser Phrase := do
  if ← keywords words then return .leadingWord (" ".intercalate words) else return []

/-- One of several keywords in canonical form if one comes next, after a space. -/
def spacedAny (words : List String) : Parser Phrase := do
  match ← anyKeyword words with
  | some word => return .spacedWord word
  | none => return []

/-- One of several keywords in canonical form if one comes next, before a space. -/
def leadingAny (words : List String) : Parser Phrase := do
  match ← anyKeyword words with
  | some word => return .leadingWord word
  | none => return []

/-- What is read after given keywords, with them, if they come next. -/
def clause? (words : List String) (reading : Parser Phrase) : Parser (Option Phrase) := do
  if ← keywords words then
    return some (.leadingWord (" ".intercalate words) ++ (← reading))
  else return none

/-- The same, after a space, or nothing. -/
def clause (words : List String) (reading : Parser Phrase) : Parser Phrase := do
  return .spaced (← clause? words reading)

/-- A part of a name: a word or a string. -/
def namePart : Parser NamePart := do
  match ← next with
  | .word spelling => return ⟨spelling, none⟩
  | .quotedName name => return ⟨name, some '`'⟩
  | .string value => return ⟨value, some '\''⟩
  | .doubleQuoted value => return ⟨value, some '"'⟩
  | _ => failure

/-- A name of one or more parts. -/
def qualifiedName : Parser QualifiedName := do
  let first ← namePart
  let rest ← items do
    if ← sign "." then return some (← namePart) else return none
  return first :: rest

/-- A name in canonical form. -/
def name : Parser Phrase := do
  return .name (← qualifiedName)

/-- A table of the statement, by its name. -/
def relation : Parser Phrase := do
  return .relation (← qualifiedName)

/-- A name of one part in canonical form. -/
def part : Parser Phrase := do
  return .plain (← namePart).render

/-- Names between parentheses, in canonical form. -/
def partList : Parser Phrase :=
  parenthesized (list part)

/-- Names between parentheses after a space, or nothing. -/
def optionalPartList : Parser Phrase := do
  if ← isSign "(" then return " " ++ (← partList) else return []

/-- A whole number below a bound, in canonical form. -/
def digitsBelow (bound : Nat) : Parser Phrase := do
  match ← next with
  | .number digits =>
      match (Text.toNat? digits).filter (· < bound) with
      | some value => return .plain (Text.ofNat value)
      | none => failure
  | _ => failure

/-- A whole number of 64 bits in canonical form. -/
def digits : Parser Phrase :=
  digitsBelow (Nat.pow 2 64)

/-- A string in single quotes. -/
def string : Parser Text := do
  match ← next with
  | .string value => return value
  | _ => failure

/-- A string, or a word that is no keyword and stands for one. -/
def stringValue : Parser Text := do
  match ← next with
  | .string value | .doubleQuoted value | .quotedName value => return value
  | .word spelling =>
      if Keyword.isKeyword (.word spelling) then failure else return spelling
  | _ => failure

/-- A string that is written between single quotes as it is. -/
def rawString : Parser Phrase := do
  return "'" ++ .plain (← stringValue) ++ "'"

end Parser

end DumpTransfer.Sql
