import DumpTransfer.Document
import DumpTransfer.Settings.Basic

/-! Settings as documents. -/

namespace DumpTransfer.Settings

/-- A number as part of a document. -/
def numberDocument (number : Nat) : Document :=
  .number (Text.ofNat number)

/-- A target as a document. -/
def Target.document (target : Target) : Document :=
  .record <|
    Document.fieldIf "url" (target.url.map .text)
    ++ Document.field "host" (.text target.host)
    ++ Document.field "port" (numberDocument target.port)
    ++ Document.field "database" (.text target.database)
    ++ Document.field "user" (.text target.user)
    ++ Document.field "password" (.text target.password)
    ++ Document.field "ssl_mode" (.text target.encryption)

/-- Settings of a migration as a document. -/
def Migration.document (migration : Migration) : Document :=
  .record <|
    Document.fieldIf "schema_prefix" (migration.catalog.map .text)
    ++ Document.field "workers" (numberDocument migration.workers)
    ++ Document.field "single_pass" (.boolean migration.isSinglePass)
    ++ Document.field "save_sql" (.boolean migration.savesReview)
    ++ Document.field "output_dir" (.text migration.reviewDirectory)
    ++ Document.field "sample_statements" (numberDocument migration.sample)
    ++ Document.field "progress_interval" (numberDocument migration.interval)

end DumpTransfer.Settings
