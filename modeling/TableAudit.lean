import TableAudit.Config.Serial
import TableAudit.Main
import TableAudit.Proofs.Addresses
import TableAudit.Proofs.Aggregation
import TableAudit.Proofs.CatalogForms
import TableAudit.Proofs.CleanCopy
import TableAudit.Proofs.Contributions
import TableAudit.Proofs.Counts
import TableAudit.Proofs.DelimitedTables
import TableAudit.Proofs.ErrorColumns
import TableAudit.Proofs.ErrorRows
import TableAudit.Proofs.Expressions
import TableAudit.Proofs.FailureReport
import TableAudit.Proofs.FiniteNumbers
import TableAudit.Proofs.Gate
import TableAudit.Proofs.GroupTrends
import TableAudit.Proofs.Independence
import TableAudit.Proofs.Joins
import TableAudit.Proofs.KeyCounts
import TableAudit.Proofs.LoadedTables
import TableAudit.Proofs.Locality
import TableAudit.Proofs.Modes
import TableAudit.Proofs.Outputs
import TableAudit.Proofs.PlainDates
import TableAudit.Proofs.Products
import TableAudit.Proofs.References
import TableAudit.Proofs.RenderedDates
import TableAudit.Proofs.ReportTexts
import TableAudit.Proofs.RespeltRecords
import TableAudit.Proofs.RowFilters
import TableAudit.Proofs.RowOrder
import TableAudit.Proofs.RunTime
import TableAudit.Proofs.Serialization
import TableAudit.Proofs.Skipping
import TableAudit.Proofs.Spans
import TableAudit.Proofs.StorageTypes
import TableAudit.Proofs.Subpopulation
import TableAudit.Proofs.TypeOrder
import TableAudit.Proofs.TypedCells
import TableAudit.Rule.Serial
