import RowQuery.Keyed
import RowQuery.Failure
import RowQuery.Program
import RowQuery.Text.Blank
import RowQuery.Text.Ascii
import RowQuery.Text.Integer
import RowQuery.Text.Lowercase
import RowQuery.Text.Utf8
import RowQuery.Text.Visible
import RowQuery.Decimal.Layout
import RowQuery.Decimal.Rounding
import RowQuery.Json.Reader
import RowQuery.Json.Record
import RowQuery.Json.Writer
import RowQuery.Csv.Reader
import RowQuery.Csv.Writer
import RowQuery.Table.Aligned
import RowQuery.Table.Export
import RowQuery.Query.Evaluate
import RowQuery.Query.Form
import RowQuery.Query.Outline
import RowQuery.File.Folder
import RowQuery.File.Load
import RowQuery.Source.Examples
import RowQuery.Source.Reader
import RowQuery.Session.Store
import RowQuery.Http.MediaType
import RowQuery.Http.Message
import RowQuery.Http.Target
import RowQuery.Service.Respond
import RowQuery.Service.Startup
import RowQuery.Console.Perform
import RowQuery.Main
import RowQuery.Proofs.Keyed
import RowQuery.Proofs.Cutting
import RowQuery.Proofs.Utf8
import RowQuery.Proofs.CsvLines
import RowQuery.Proofs.LineBreaks
import RowQuery.Proofs.CsvReading
import RowQuery.Proofs.CsvFields
import RowQuery.Proofs.CsvRoundTrip
import RowQuery.Proofs.JsonScalars
import RowQuery.Proofs.JsonRoundTrip
import RowQuery.Proofs.FirstArray
import RowQuery.Proofs.JsonRecords
import RowQuery.Proofs.Holdings
import RowQuery.Proofs.QueryResult
import RowQuery.Proofs.Requests
import RowQuery.Proofs.OwnWrites
import RowQuery.Proofs.StoreOperations
import RowQuery.Proofs.StoreLog
import RowQuery.Proofs.GoneSessions
import RowQuery.Proofs.SavedQueries
import RowQuery.Proofs.Sweeping
import RowQuery.Proofs.Searching
import RowQuery.Proofs.QueryRoundTrip
import RowQuery.Proofs.CaseFolding
import RowQuery.Proofs.OctetPlaces
import RowQuery.Proofs.QueryParts
import RowQuery.Proofs.QueryEndpoints
import RowQuery.Proofs.Objections
import RowQuery.Proofs.Targets
import RowQuery.Proofs.Asking
import RowQuery.Proofs.Timeouts
import RowQuery.Proofs.SameExport
import RowQuery.Proofs.Evaluation
import RowQuery.Proofs.NamedColumns
import RowQuery.Proofs.Doubles
import RowQuery.Proofs.Comparisons
import RowQuery.Proofs.CsvReingest
import RowQuery.Proofs.BaseLiterals
import RowQuery.Proofs.FileFormats
import RowQuery.Proofs.AlignedTables
import RowQuery.Proofs.NestedArrays
import RowQuery.Proofs.Limits
