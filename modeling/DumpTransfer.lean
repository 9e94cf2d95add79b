import DumpTransfer.Main
import DumpTransfer.Proofs.Attachment.Collisions
import DumpTransfer.Proofs.Attachment.Rollbacks
import DumpTransfer.Proofs.ColumnType.Integers
import DumpTransfer.Proofs.Conversion.InsertionAgreement
import DumpTransfer.Proofs.Conversion.Qualification
import DumpTransfer.Proofs.Conversion.Requalification
import DumpTransfer.Proofs.Definition.References
import DumpTransfer.Proofs.Extraction.Announcements
import DumpTransfer.Proofs.Extraction.DefinitionEnds
import DumpTransfer.Proofs.Extraction.LineReading
import DumpTransfer.Proofs.Extraction.LiteralPlaces
import DumpTransfer.Proofs.Extraction.Lockstep
import DumpTransfer.Proofs.Extraction.SinglePass
import DumpTransfer.Proofs.Extraction.Stopping
import DumpTransfer.Proofs.ForeignKey.Declared
import DumpTransfer.Proofs.ForeignKey.LiteralContents
import DumpTransfer.Proofs.ForeignKey.Statements
import DumpTransfer.Proofs.Migration.Cancellation
import DumpTransfer.Proofs.Migration.Catalogs
import DumpTransfer.Proofs.Migration.DryRun
import DumpTransfer.Proofs.Migration.Reviews
import DumpTransfer.Proofs.Migration.Warnings
import DumpTransfer.Proofs.Sql.Segmentation
import DumpTransfer.Settings.Document
import DumpTransfer.Warehouse.Rehearsal
