import DumpTransfer.Sql.Grammar.Basic

/-! Constraints on tables, and what constraints on columns share with them. -/

namespace DumpTransfer.Sql.Grammar.Constraint

/-- When a constraint is checked. -/
structure Timing where
  /-- Whether the check may be put off. -/
  deferral : Option Phrase
  /-- When it takes place at first. -/
  initial : Option Phrase
  /-- Whether it takes place. -/
  enforcement : Option Phrase

namespace Timing

/-- The same with one more statement, if there is one of a kind that is not there yet. -/
def extend? (timing : Timing) : Parser (Option Timing) := do
  let deferral ←
    if timing.deferral.isNone then
      if ← Parser.keywords ["NOT", "DEFERRABLE"] then pure (some "NOT DEFERRABLE")
      else if ← Parser.keyword "DEFERRABLE" then pure (some "DEFERRABLE")
      else pure none
    else pure none
  match deferral with
  | some word => return some { timing with deferral := some (word : String) }
  | none =>
      if timing.initial.isNone && (← Parser.isKeyword ["INITIALLY"]) then
        Parser.skip
        let word ← Parser.oneOf ["DEFERRED", "IMMEDIATE"]
        return some { timing with initial := some ("INITIALLY" ++ .spacedWord word) }
      else if timing.enforcement.isNone then
        if ← Parser.keyword "ENFORCED" then
          return some { timing with enforcement := some "ENFORCED" }
        else if ← Parser.keywords ["NOT", "ENFORCED"] then
          return some { timing with enforcement := some "NOT ENFORCED" }
        else return none
      else return none

/-- The same with at most so many more statements. -/
def extendWithin (timing : Timing) : Nat → Parser Timing
  | 0 => return timing
  | bound + 1 => do
      match ← timing.extend? with
      | some longer => longer.extendWithin bound
      | none => return timing

/-- In canonical form, after a space. -/
def phrase (timing : Timing) : Phrase :=
  .spaced timing.deferral ++ .spaced timing.initial ++ .spaced timing.enforcement

end Timing

/-- When a constraint is checked: at most one statement of each of the three kinds, in any order.
-/
def timing : Parser Phrase := do
  let nothing : Timing := { deferral := none, initial := none, enforcement := none }
  return (← nothing.extendWithin 3).phrase

/-- What happens to rows whose row in the other table is changed. -/
def action : Parser Phrase := do
  if ← Parser.keyword "RESTRICT" then return "RESTRICT"
  else if ← Parser.keyword "CASCADE" then return "CASCADE"
  else if ← Parser.keywords ["SET", "NULL"] then return "SET NULL"
  else if ← Parser.keywords ["NO", "ACTION"] then return "NO ACTION"
  else if ← Parser.keywords ["SET", "DEFAULT"] then return "SET DEFAULT"
  else failure

/-- What happens when rows of the other table are deleted and when they are changed, each given
at most once and in either order.
-/
def actions : Parser Phrase := do
  let early ← Parser.clause ["ON", "DELETE"] action
  let update ← Parser.clause ["ON", "UPDATE"] action
  let late ← if early.isEmpty then Parser.clause ["ON", "DELETE"] action else pure []
  return early ++ late ++ update

/-- The table and the columns that a foreign key refers to, after the keyword. -/
def reference (columns : Parser Phrase) : Parser Phrase := do
  let table ← Parser.name
  let referred ← columns
  let onChange ← actions
  return "REFERENCES " ++ table ++ referred ++ onChange ++ (← timing)

/-- A check, after its keyword. -/
def check (inner : Grammar) : Parser Phrase := do
  return "CHECK " ++ (← inner.parenthesized)

/-- The name of an index, which may be left out. -/
def indexName : Parser Phrase := do
  return .spaced (← Parser.attempt Parser.part)

/-- How an index is kept, if that is said. -/
def method : Parser Phrase :=
  Parser.clause ["USING"] do return ((← Parser.oneOf ["BTREE", "HASH"]) : Phrase)

/-- An option of an index after its columns, if there is one. -/
def indexOption? : Parser (Option Phrase) := do
  let kept ← method
  if kept.isEmpty then
    match ← Parser.clause? ["COMMENT"] Parser.rawString with
    | some comment => return some (" " ++ comment)
    | none => return none
  else return some kept

/-- A key, after the words that declare it: its name, its method, its columns and options. -/
def key : Parser Phrase := do
  let name ← indexName
  let kept ← method
  let columns ← Parser.partList
  let options ← Parser.items indexOption?
  return name ++ kept ++ " " ++ columns ++ options.flatten ++ (← timing)

/-- The word that may follow the kind of an index, after a space. -/
def indexWord : Parser Phrase :=
  Parser.spacedAny ["KEY", "INDEX"]

/-- A uniqueness constraint, after its keyword. -/
def uniqueness : Parser Phrase := do
  return "UNIQUE" ++ (← indexWord) ++ (← key)

/-- A primary key, after its first keyword. -/
def primaryKey : Parser Phrase := do
  Parser.expectKeyword "KEY"
  return "PRIMARY KEY" ++ (← key)

/-- A foreign key, after its first keyword. -/
def foreignKey : Parser Phrase := do
  Parser.expectKeyword "KEY"
  let columns ← Parser.partList
  Parser.expectKeyword "REFERENCES"
  return "FOREIGN KEY " ++ columns ++ " " ++ (← reference Parser.partList)

/-- An index, after the word for it. -/
def index (word : String) : Parser Phrase := do
  let name ← if ← Parser.isKeyword ["USING"] then pure [] else indexName
  let kept ← method
  return word ++ name ++ kept ++ " " ++ (← Parser.partList)

/-- An index of texts or of places, after the word for it. -/
def specialIndex (word : String) : Parser Phrase := do
  return word ++ (← indexWord) ++ (← indexName) ++ " " ++ (← Parser.partList)

/-- A constraint, after the word that begins it. -/
def named? (inner : Grammar) : Parser (Option TableConstraint) := do
  match ← Parser.anyKeyword ["UNIQUE", "PRIMARY", "FOREIGN", "CHECK"] with
  | some "UNIQUE" => return some ⟨.uniqueness, ← uniqueness⟩
  | some "PRIMARY" => return some ⟨.primaryKey, ← primaryKey⟩
  | some "FOREIGN" => return some ⟨.foreignKey, ← foreignKey⟩
  | some _ => return some ⟨.check, ← check inner⟩
  | none => return none

/-- An index among the constraints, which has no name of a constraint. -/
def index? : Parser (Option TableConstraint) := do
  match ← Parser.anyKeyword ["INDEX", "KEY", "FULLTEXT", "SPATIAL"] with
  | some "INDEX" => return some ⟨.index, ← index "INDEX"⟩
  | some "KEY" => return some ⟨.index, ← index "KEY"⟩
  | some word => return some ⟨.index, ← specialIndex word⟩
  | none => return none

/-- A constraint on a table, if there is one. -/
def read? (inner : Grammar) : Parser (Option TableConstraint) := do
  match ← Parser.after "CONSTRAINT" Parser.part with
  | some name =>
      match ← named? inner with
      | some said =>
          return some { said with phrase := "CONSTRAINT " ++ name ++ " " ++ said.phrase }
      | none => failure
  | none =>
      match ← named? inner with
      | some said => return some said
      | none => index?

end DumpTransfer.Sql.Grammar.Constraint
