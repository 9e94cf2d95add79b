import DumpTransfer.Sql.Grammar.Removal
import DumpTransfer.Sql.Grammar.View

/-! Statements that change what has been created. -/

namespace DumpTransfer.Sql.Grammar.Alteration

/-- The place of a column among the others. -/
def columnPlace : Parser Phrase := do
  if ← Parser.keyword "FIRST" then return " FIRST" else Parser.clause ["AFTER"] Parser.part

/-- A partition, if one comes next. -/
def partition? (inner : Grammar) : Parser (Option Phrase) :=
  Parser.clause? ["PARTITION"] inner.expressionList

/-- A partition, which has to come next. -/
def partition (inner : Grammar) : Parser Phrase := do
  match ← partition? inner with
  | some phrase => return phrase
  | none => failure

/-- Partitions or a column that are added, after the keyword. -/
def additionOfRows (inner : Grammar) : Parser Phrase := do
  let tolerant ← NewTable.tolerance
  let partitions ← Parser.items (partition? inner)
  if partitions.isEmpty then
    let word ← Parser.leadingKeyword "COLUMN"
    let column ← Definition.column inner
    return "ADD " ++ word ++ column.phrase ++ (← columnPlace)
  else return "ADD " ++ tolerant ++ .joinWith " " partitions

/-- Something added to a table, after the keyword. -/
def addition (inner : Grammar) : Parser Phrase := do
  match ← Constraint.read? inner with
  | some constraint => return "ADD " ++ constraint.phrase
  | none => additionOfRows inner

/-- A new name for a table or for one of its columns, after the keyword. -/
def newName : Parser Phrase := do
  if ← Parser.keyword "TO" then return "RENAME TO " ++ (← Parser.name)
  else
    let _ ← Parser.keyword "COLUMN"
    let old ← Parser.part
    Parser.expectKeyword "TO"
    return "RENAME COLUMN " ++ old ++ " TO " ++ (← Parser.part)

/-- Something that a table no longer does, after the keyword. -/
def disabling : Parser Phrase := do
  if ← Parser.keywords ["ROW", "LEVEL", "SECURITY"] then return "DISABLE ROW LEVEL SECURITY"
  else
    let kind ← Parser.oneOf ["RULE", "TRIGGER"]
    return "DISABLE " ++ .leadingWord kind ++ (← Parser.part)

/-- Something that a table does from now on, after the keyword. -/
def enabling : Parser Phrase := do
  if ← Parser.keywords ["ROW", "LEVEL", "SECURITY"] then return "ENABLE ROW LEVEL SECURITY"
  else
    let occasion ← Parser.leadingAny ["ALWAYS", "REPLICA"]
    let kind ← Parser.oneOf ["RULE", "TRIGGER"]
    return "ENABLE " ++ occasion ++ .leadingWord kind ++ (← Parser.part)

/-- A column that is removed. -/
def removalOfColumn : Parser Phrase := do
  let _ ← Parser.keyword "PROJECTION"
  let _ ← Parser.keyword "COLUMN"
  let tolerant ← Removal.tolerance
  let name ← Parser.part
  return "DROP COLUMN " ++ tolerant ++ name ++ (← Parser.spacedKeyword "CASCADE")

/-- Something removed from a table, after the keyword. -/
def removal (inner : Grammar) : Parser Phrase := do
  if ← Parser.keywords ["IF", "EXISTS", "PARTITION"] then
    return "DROP IF EXISTS PARTITION " ++ (← inner.expressionList)
  else
    match ← partition? inner with
    | some phrase => return "DROP " ++ phrase
    | none =>
        if ← Parser.keyword "CONSTRAINT" then
          let tolerant ← Removal.tolerance
          let name ← Parser.part
          return "DROP CONSTRAINT " ++ tolerant ++ name ++ (← Parser.spacedKeyword "CASCADE")
        else if ← Parser.keywords ["PRIMARY", "KEY"] then return "DROP PRIMARY KEY"
        else removalOfColumn

/-- New values for partitions. -/
def newPartitions (inner : Grammar) : Parser Phrase := do
  let old ← partition inner
  Parser.expectKeywords ["RENAME", "TO"]
  return old ++ " RENAME TO " ++ (← partition inner)

/-- A column that is declared anew, after the keyword. -/
def redeclaration (inner : Grammar) (keyword : String) (names : Parser Phrase)
    : Parser Phrase := do
  let _ ← Parser.keyword "COLUMN"
  let written ← names
  let type ← TypeName.written
  let said ← Parser.items (Definition.attribute? inner)
  return .leadingWord keyword ++ "COLUMN " ++ written ++ " " ++ type
    ++ (said.flatMap fun one => Phrase.plain " " ++ one.phrase) ++ (← columnPlace)

/-- The sequence that numbers a column, after the words that add it. -/
def numbering : Parser Phrase := do
  let always ← Parser.spacedKeyword "ALWAYS"
  let default ← if always.isEmpty then Parser.spacedKeywords ["BY", "DEFAULT"] else pure []
  Parser.expectKeywords ["AS", "IDENTITY"]
  let head := "ADD GENERATED" ++ always ++ default ++ " AS IDENTITY"
  if ← Parser.isSign "(" then
    return head ++ " (" ++ (← Parser.inParentheses Sequence.options) ++ " )"
  else return head

/-- One thing that changes in a column. -/
def columnChange (inner : Grammar) : Parser Phrase := do
  if ← Parser.keywords ["SET", "NOT", "NULL"] then return "SET NOT NULL"
  else if ← Parser.keywords ["DROP", "NOT", "NULL"] then return "DROP NOT NULL"
  else if ← Parser.keywords ["SET", "DEFAULT"] then
    return "SET DEFAULT " ++ (← inner.expression 0)
  else if ← Parser.keywords ["DROP", "DEFAULT"] then return "DROP DEFAULT"
  else if ← Parser.keywords ["SET", "DATA", "TYPE"] then
    return "SET DATA TYPE " ++ (← TypeName.written)
  else
    Parser.expectKeywords ["ADD", "GENERATED"]
    numbering

/-- A change of a column, after the keyword. -/
def column (inner : Grammar) : Parser Phrase := do
  let _ ← Parser.keyword "COLUMN"
  let name ← Parser.part
  return "ALTER COLUMN " ++ name ++ " " ++ (← columnChange inner)

/-- A change of the rows or columns of a table. -/
def changeOfContent (inner : Grammar) : Parser Phrase := do
  if ← Parser.isKeyword ["PARTITION"] then newPartitions inner
  else
    match ← Parser.oneOf ["DROP", "CHANGE", "MODIFY", "ALTER", "SWAP", "SET"] with
    | "DROP" => removal inner
    | "CHANGE" =>
        redeclaration inner "CHANGE" do return (← Parser.part) ++ " " ++ (← Parser.part)
    | "MODIFY" => redeclaration inner "MODIFY" Parser.part
    | "ALTER" => column inner
    | "SWAP" =>
        Parser.expectKeyword "WITH"
        return "SWAP WITH " ++ (← Parser.name)
    | _ =>
        Parser.expectKeyword "TBLPROPERTIES"
        return "SET TBLPROPERTIES" ++ (← Parser.parenthesized (Parser.list inner.option))

/-- One change of a table. Words that clear or fill what the dialect does not have are passed over.
-/
def change (inner : Grammar) : Parser Phrase := do
  match ← Parser.anyKeyword ["ADD", "RENAME", "DISABLE", "ENABLE"] with
  | some "ADD" => addition inner
  | some "RENAME" => newName
  | some "DISABLE" => disabling
  | some _ => enabling
  | none =>
      let _ ← Parser.keywords ["CLEAR", "PROJECTION"]
      let _ ← Parser.keywords ["MATERIALIZE", "PROJECTION"]
      changeOfContent inner

/-- A new place for the rows of a table. -/
def newLocation : Parser Phrase := do
  let place ← Parser.clause ["LOCATION"] Parser.part
  if place.isEmpty then Parser.clause ["SET", "LOCATION"] Parser.part else return place

/-- A change of a table, after the word for it. -/
def table (inner : Grammar) : Parser Phrase := do
  let tolerant ← Removal.tolerance
  let only ← Parser.leadingKeyword "ONLY"
  let name ← Parser.relation
  let servers ← NewTable.servers
  let changes ← Parser.list (change inner)
  return "ALTER TABLE " ++ tolerant ++ only ++ name ++ servers ++ " " ++ changes
    ++ (← newLocation)

/-- A new name for an index, after the word for it. -/
def index : Parser Phrase := do
  let name ← Parser.name
  Parser.expectKeywords ["RENAME", "TO"]
  return "ALTER INDEX " ++ name ++ " RENAME TO " ++ (← Parser.name)

/-- A statement that changes what has been created, after its keyword. -/
def read (inner : Grammar) : Parser Phrase := do
  match ← Parser.oneOf ["VIEW", "TABLE", "INDEX", "POLICY"] with
  | "VIEW" => View.alteration inner
  | "TABLE" => table inner
  | "INDEX" => index
  | _ => Policy.alteration inner

end DumpTransfer.Sql.Grammar.Alteration
