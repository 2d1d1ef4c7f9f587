import RowQuery.Failure
import RowQuery.Query.Evaluate
import RowQuery.Text.Ascii
import RowQuery.Source.Samples
import RowQuery.Text.Lowercase

/-!
# Where queries run

A query runs over the sample tables or over a loaded file. Over a file it is parsed and evaluated;
over the samples it is only searched for words that tell which table is wanted.
-/

namespace RowQuery

/-- Where a query is to run. -/
inductive Source where
  | sample
  | file
  deriving DecidableEq, Repr

/-- The name of a source. -/
def Source.label : Source → String
  | .sample => "sample"
  | .file => "file"

/-- The source of a name, in any letter case and between blanks. -/
def Source.ofText (text : String) : Except Failure Source :=
  let name := Text.lowercase (Text.trimmed text)
  if name = "sample" ∨ name = "database" then .ok .sample
  else if name = "file" then .ok .file
  else
    .error (.validation ("Unknown data source '" ++ name ++ "' (expected 'sample' or 'file')"))

namespace Samples

/-- The words that ask for a table, in the order in which they are looked for. -/
def keywords : List (List String × String) :=
  [(["employee", "staff"], "employees"),
   (["sale", "revenue"], "sales"),
   (["product", "item"], "products"),
   (["customer", "client"], "customers")]

/-- The table that answers a query. -/
def route (query : String) : String :=
  let text := (Text.lowercase query).toList
  let occurs (word : String) : Bool := (Text.find? word.toList text).isSome
  match keywords.find? fun entry => entry.1.any occurs with
  | some (_, table) => table
  | none => "employees"

end Samples

/-- What answers queries: the samples, or a file that has been loaded. -/
inductive Reader where
  | sample
  | file (dataset : Dataset)

namespace Reader

/-- The name of a reader. -/
def label : Reader → String
  | .sample => "sample"
  | .file _ => "file"

/-- The reader for a source, given the file that is loaded, if any. -/
def ofSource (source : Source) (dataset : Option Dataset) : Except Failure Reader :=
  match source, dataset with
  | .sample, _ => .ok .sample
  | .file, some dataset => .ok (.file dataset)
  | .file, none => .error .noDataSource

/-- The answer of a reader. A blank query is refused; any other is answered. -/
def execute (reader : Reader) (query : String) : Except Failure Table :=
  if Text.allBlank query then .error (.validation "Query is empty")
  else
    match reader with
    | .file dataset => .ok (Query.run query dataset.rows)
    | .sample =>
      let name := Samples.route query
      match Samples.table? name with
      | some table => .ok table
      | none => .error (.internal ("Sample table '" ++ name ++ "' is missing"))

end Reader

end RowQuery
