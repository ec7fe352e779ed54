import SchemaBridge.Main
import SchemaBridge.Proofs.Assembly.Runs
import SchemaBridge.Proofs.Session.Reloading
import SchemaBridge.Proofs.Verification.Accounting
import SchemaBridge.Proofs.Verification.InTurn
import SchemaBridge.Proofs.Verification.Afresh
import SchemaBridge.Proofs.Mapper.Repetition
import SchemaBridge.Proofs.Mapper.ForeignKeys
import SchemaBridge.Proofs.Text.Utf8
import SchemaBridge.Proofs.Conversion.Resuming
import SchemaBridge.Proofs.Assembly.Calls
import SchemaBridge.Proofs.Assembly.Cancelling
import SchemaBridge.Proofs.Assembly.Parts
import SchemaBridge.Proofs.Conversion.Cancelling
import SchemaBridge.Proofs.Dump.Accounting
import SchemaBridge.Proofs.Assembly.PartialIndexes
import SchemaBridge.Proofs.Assembly.Lookup
import SchemaBridge.Proofs.Assembly.Ledger
import SchemaBridge.Proofs.Assembly.Order
import SchemaBridge.Proofs.Ddl.Script
import SchemaBridge.Proofs.Assembly.QualifiedNames
import SchemaBridge.Proofs.Dump.Joining
import SchemaBridge.Proofs.Dump.CopiedRows
import SchemaBridge.Proofs.Dump.Comments
import SchemaBridge.Proofs.Dump.Literals
import SchemaBridge.Proofs.Dump.Words
import SchemaBridge.Proofs.Assembly.Collisions
import SchemaBridge.Proofs.Mapper.Indexes
import SchemaBridge.Proofs.TypeMap.Mapping
import SchemaBridge.Proofs.TypeMap.Declared
import SchemaBridge.Proofs.Mapper.Columns
import SchemaBridge.Proofs.Mapper.PrimaryKeys
import SchemaBridge.Proofs.TypeMap.Decimals
import SchemaBridge.Proofs.Sql.Library
import SchemaBridge.Proofs.Verification.Rewriting
import SchemaBridge.Proofs.Verification.Spelling
import SchemaBridge.Proofs.Verification.Leading
import SchemaBridge.Proofs.Assembly.ConstraintNames
import SchemaBridge.Proofs.Assembly.DraftNames
import SchemaBridge.Proofs.Ddl.Clauses
import SchemaBridge.Proofs.Ddl.Dialects
import SchemaBridge.Proofs.Ddl.Comments
import SchemaBridge.Proofs.Ddl.MadeNames
import SchemaBridge.Proofs.Report.Balance
import SchemaBridge.Proofs.Dump.IdentityClauses
import SchemaBridge.Proofs.Dump.IdentityColumns
import SchemaBridge.Proofs.Dump.EnumLabels
import SchemaBridge.Proofs.Ddl.QuotedNames
import SchemaBridge.Proofs.Live.CheckBodies
import SchemaBridge.Proofs.Verification.Aborting
import SchemaBridge.Proofs.Dynamo.Columns
import SchemaBridge.Proofs.Schema.Acceptance
import SchemaBridge.Proofs.Schema.ExpressionSlots
import SchemaBridge.Proofs.Live.IndexRows
import SchemaBridge.Proofs.Dump.Pieces
