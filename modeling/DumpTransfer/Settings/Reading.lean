import DumpTransfer.Settings.Endpoint
import DumpTransfer.Yaml.Node

/-! Settings read from a document in YAML. What a document does not say is as it usually is, and
what it says of something unknown is passed over. Settings that cannot be used are refused before
anything is done with them.
-/

namespace DumpTransfer.Settings

open Yaml (Node)

/-- The tag of a kind of scalar that the notation knows. -/
def knownTag (kind : String) : Text :=
  "tag:yaml.org,2002:" ++ (kind : Text)

/-- The text of a scalar, which any scalar has. -/
def text? (node : Node) : Option Text :=
  match node with
  | .scalar _ _ text => some text
  | _ => none

/-- The text of a scalar that may stand for something else than a text. -/
def word? (kind : String) (node : Node) : Option Text :=
  match node with
  | .scalar .plain _ text => some text
  | .scalar .literalBlock tag text => if tag = some (knownTag kind) then some text else none
  | _ => none

/-- The truth value that a scalar stands for. -/
def flag? (node : Node) : Option Bool := do
  let word ← word? "bool" node
  if ["true", "True", "TRUE"].contains word.toString then some true
  else if ["false", "False", "FALSE"].contains word.toString then some false
  else none

/-- The notations of numbers by what they begin with, and how many digits they have. -/
def radixes : List (String × Nat) :=
  [("0x", 16), ("0o", 8), ("0b", 2)]

/-- The number after a sign that says how many digits its notation has. -/
def ofRadix? (text : Text) : Option Nat :=
  radixes.findSome? fun (sign, radix) => do
    let number ← Text.ofRadix? radix (← text.dropPrefix? (sign : Text))
    if number < Nat.pow 2 64 then some number else none

/-- The number in decimal notation, which begins with no needless zero. -/
def ofDecimal? (text : Text) : Option Nat :=
  if 1 < text.length && text.head? = some '0' then none
  else (Text.toNat? text).filter (· < Nat.pow 2 64)

/-- The number that is written without a minus sign. -/
def natural? (text : Text) : Option Nat :=
  let digits := (Text.dropPrefix? text "+").getD text
  ofRadix? digits <|> ofDecimal? digits

/-- The number below a bound that a scalar stands for. -/
def number? (bound : Nat) (node : Node) : Option Nat := do
  let number ← natural? (← word? "int" node)
  if number < bound then some number else none

/-- Whether a word stands for nothing. -/
def isNull (word : Text) : Bool :=
  ["null", "Null", "NULL", "~"].contains word.toString

/-- What may be there or not: a plain scalar may stand for nothing. -/
def optional? (read : Node → Option α) (node : Node) : Option (Option α) :=
  match node with
  | .scalar .plain none text =>
      if text.isEmpty || isNull text then some none else (read node).map some
  | .scalar .plain (some tag) text =>
      if tag = knownTag "null" then if isNull text then some none else none
      else (read node).map some
  | _ => (read node).map some

/-- The entries of a record, whose keys are scalars. Nothing stands for a record without entries. -/
def entries? (document : Yaml.Document) (node : Node) : Option (List (Text × Node)) :=
  match node with
  | .mapping entries =>
      entries.mapM fun (key, value) => do
        some (← text? (← document.resolve key), ← document.resolve value)
  | .scalar .plain _ [] => some []
  | _ => none

/-- What an entry says, if there is one. There may not be two of them. -/
def field (entries : List (Text × Node)) (name : String) (usual : α) (read : Node → Option α)
    : Option α :=
  match entries.filter (·.1 = Text.ofString name) with
  | [] => some usual
  | [(_, node)] => read node
  | _ => none

/-- A target that a document describes. -/
def Target.ofNode? (document : Yaml.Document) (node : Node) : Option Target := do
  let entries ← entries? document node
  let usual : Target := {}
  some {
    url := ← field entries "url" none (optional? text?)
    host := ← field entries "host" usual.host text?
    port := ← field entries "port" usual.port (number? (Nat.pow 2 16))
    database := ← field entries "database" usual.database text?
    user := ← field entries "user" usual.user text?
    password := ← field entries "password" usual.password text?
    encryption := ← field entries "ssl_mode" usual.encryption text? }

/-- Settings of a migration that a document describes. -/
def Migration.ofNode? (document : Yaml.Document) (node : Node) : Option Migration := do
  let entries ← entries? document node
  let usual : Migration := {}
  some {
    catalog := ← field entries "schema_prefix" none (optional? text?)
    workers := ← field entries "workers" usual.workers (number? (Nat.pow 2 64))
    isSinglePass := ← field entries "single_pass" usual.isSinglePass flag?
    savesReview := ← field entries "save_sql" usual.savesReview flag?
    reviewDirectory := ← field entries "output_dir" usual.reviewDirectory text?
    sample := ← field entries "sample_statements" usual.sample (number? (Nat.pow 2 64))
    interval := ← field entries "progress_interval" usual.interval (number? (Nat.pow 2 64)) }

/-- The settings that a document describes. -/
def ofDocument? (document : Yaml.Document) : Option Settings := do
  let entries ← entries? document document.root
  some {
    target := ← field entries "target" none (optional? (Target.ofNode? document))
    migration := ← field entries "migration" {} (Migration.ofNode? document) }

/-- Refuses a setting unless a condition holds. -/
def demand (condition : Bool) (message : Text) : Except Failure Unit :=
  if condition then .ok () else .error (.configuration message)

/-- Refuses a target that names no endpoint, or none that can be read. -/
def Target.check (target : Target) : Except Failure Unit := do
  let _ ← Encryption.of? target.encryption
  match target.url with
  | some url => demand (!url.trim.isEmpty) "target.url cannot be empty"
  | none =>
      demand (!target.host.isEmpty) "target.host is required when target.url is not set"
      demand (!target.database.isEmpty) "target.database is required"
      demand (!target.user.isEmpty) "target.user is required"
  let _ ← target.endpoint none

/-- Refuses settings of a migration that cannot be carried out. -/
def Migration.check (migration : Migration) : Except Failure Unit := do
  demand (migration.workers ≠ 0) "migration.workers must be at least 1"
  demand (migration.interval ≠ 0) "migration.progress_interval must be at least 1"
  match migration.catalog with
  | some catalog => Identifier.validate catalog
  | none => return ()

/-- Refuses settings that cannot be used. -/
def check (settings : Settings) : Except Failure Unit := do
  match settings.target with
  | some target => target.check
  | none => pure ()
  settings.migration.check

/-- The settings that a text describes. A text without a document describes the usual ones. -/
def ofText (text : Text) : Except Failure Settings := do
  match Yaml.Document.ofText? text with
  | none => .error .settings
  | some none => return {}
  | some (some document) =>
      match ofDocument? document with
      | none => .error .settings
      | some settings =>
          settings.check
          return settings

/-- The settings of a run: those of a file, if there is one, with another connection string, if
there is one.
-/
def load (file : Option (Except Failure Text)) (url : Option Text) : Except Failure Settings := do
  let settings ←
    match file with
    | none => pure {}
    | some content => ofText (← content)
  let settings :=
    match url with
    | none => settings
    | some url => { settings with target := some { url := some url } }
  settings.check
  return settings

end DumpTransfer.Settings
