import RowQuery.Csv.Writer
import RowQuery.Failure
import RowQuery.Text.Lowercase

/-!
# Exporting tables

A table as a file to take away, in one of two formats.
-/

namespace RowQuery

/-- The formats of an exported table. -/
inductive ExportFormat where
  | csv
  | json
  deriving DecidableEq, Repr

namespace ExportFormat

/-- The name of a format. -/
def label : ExportFormat → String
  | .csv => "csv"
  | .json => "json"

/-- The format of a name, in any letter case. -/
def ofText (text : String) : Except Failure ExportFormat :=
  let name := Text.lowercase text
  if name = "csv" then .ok .csv
  else if name = "json" then .ok .json
  else
    .error (.validation ("Unknown export format '" ++ name ++ "' (expected 'csv' or 'json')"))

/-- The name of an exported file. -/
def fileName : ExportFormat → String
  | .csv => "query_results.csv"
  | .json => "query_results.json"

/-- The media type of an exported file. -/
def mediaType : ExportFormat → String
  | .csv => "text/csv;charset=utf-8"
  | .json => "application/json"

end ExportFormat

/-- The rows of a table as one JSON array. -/
def Table.toJson (table : Table) : Json := .array (table.rows.map .object)

/-- The text of a table in a format. -/
def Table.render (table : Table) : ExportFormat → String
  | .csv => String.ofList (Csv.text table)
  | .json => table.toJson.indented

end RowQuery
