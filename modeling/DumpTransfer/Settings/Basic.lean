import DumpTransfer.Identifier
import DumpTransfer.Text.LowerCase

/-! The settings of a run: where the warehouse is, and how databases are migrated. -/

namespace DumpTransfer

/-- How a connection is protected. -/
inductive Encryption where
  | disable
  /-- Encrypted, whoever the server is. -/
  | require
  /-- Encrypted, with a server that shows a certificate of a known authority. -/
  | verifyAuthority
  /-- Encrypted, with a server that shows such a certificate for its name. -/
  | verifyName
  deriving DecidableEq, Repr

namespace Encryption

/-- The protection that a word asks for in any case. No word at all asks for none. -/
def of? (word : Text) : Except Failure Encryption :=
  match (Text.lowerCase word).toString with
  | "disable" | "" => .ok disable
  | "require" => .ok require
  | "verify-ca" => .ok verifyAuthority
  | "verify-full" => .ok verifyName
  | other =>
      .error (.configuration ("Invalid ssl_mode '" ++ (other : Text)
        ++ "'. Valid values: disable, require, verify-ca, verify-full"))

/-- Whether there is any protection. -/
def isEncrypted (encryption : Encryption) : Bool :=
  encryption ≠ disable

end Encryption

namespace Settings

/-- Where the warehouse is: a connection string, or else the parts of one. -/
structure Target where
  url : Option Text := none
  host : Text := []
  port : Nat := 5432
  database : Text := "postgres"
  user : Text := []
  password : Text := []
  /-- The word for the protection of the connection. -/
  encryption : Text := "disable"
  deriving DecidableEq, Repr

/-- How databases are migrated. -/
structure Migration where
  /-- The umbrella catalog of the schemas, if there is to be one. -/
  catalog : Option Text := none
  /-- The number of tables that may be loaded at a time. -/
  workers : Nat := 1
  /-- Whether all databases are extracted in one pass over the dump. -/
  isSinglePass : Bool := false
  /-- Whether files for review are written. -/
  savesReview : Bool := false
  /-- The directory of the files for review. -/
  reviewDirectory : Text := "converted_sql"
  /-- The number of data statements of a table that are put into a file for review. -/
  sample : Nat := 5
  /-- The number of lines after which progress is noted. -/
  interval : Nat := 100000
  deriving DecidableEq, Repr

/-- A target in a message that may be kept: no password and no connection string is shown. -/
def Target.display (target : Target) : Text :=
  let url : Text := if target.url.isSome then "Some(\"[REDACTED]\")" else "None"
  "TargetConfig \x7b url: " ++ url ++ ", host: " ++ Identifier.display target.host
    ++ ", port: " ++ Text.ofNat target.port
    ++ ", database: " ++ Identifier.display target.database
    ++ ", user: " ++ Identifier.display target.user
    ++ ", password: \"[REDACTED]\", ssl_mode: " ++ Identifier.display target.encryption
    ++ " \x7d"

end Settings

/-- The settings of a run. -/
structure Settings where
  /-- Where the warehouse is, if that is known. -/
  target : Option Settings.Target := none
  migration : Settings.Migration := {}
  deriving DecidableEq, Repr

/-- The target of the settings, which something needs. -/
def Settings.targetFor (settings : Settings) (purpose : Text)
    : Except Failure Settings.Target :=
  match settings.target with
  | some target => .ok target
  | none =>
      .error (.configuration (purpose ++ " requires a warehouse connection "
        ++ "(set target in the config file or pass --connection-string)"))

end DumpTransfer
