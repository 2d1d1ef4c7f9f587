import RowQuery.Console.Command
import RowQuery.Console.Outcome
import RowQuery.File.Folder
import RowQuery.Query.Form
import RowQuery.Query.Outline
import RowQuery.Source.Examples
import RowQuery.Source.Reader
import RowQuery.Table.Aligned

/-!
# Performing commands

A command is performed on what its paths hold. It yields what is to be printed or written, and
nothing is written before all of it has been made.
-/

namespace RowQuery.Console

/-- What a command has made: the output, the file that is to be written, and the number of rows, if
it was a query that ran. -/
structure Product where
  output : String
  file : Option (String × String)
  rows : Option Nat
  deriving DecidableEq, Repr

/-- A product that is only printed. -/
def Product.printed (output : String) : Product := ⟨output, none, none⟩

/-- The data set in the file at a path. -/
def loadFrom (content : String → File.Content) (path : String) : Except Ending Dataset :=
  (File.loadAt path (content path)).mapError fun failure =>
    .failed (.ofAttempt ("Failed to load " ++ path) failure)

/-- The reader for the file at a path; without a path the samples are read. -/
def readerFor (content : String → File.Content) : Option String → Except Ending Reader
  | none => .ok .sample
  | some path => (loadFrom content path).map .file

/-- The text of a table in a layout. A table that cannot be laid out breaks the run off. -/
def present : Layout → Table → Except Ending String
  | .table, table =>
    match table.aligned with
    | some text => .ok text
    | none => .error (.broken "a column is too wide")
  | .exported format, table => .ok (table.render format)

/-- The answer of a query, printed or put into a file. -/
def deliver (delivery : Delivery) (table : Table) : Except Ending Product :=
  (present delivery.layout table).map fun text =>
    match delivery.output with
    | some path => ⟨"", some (path, text), some table.rows.length⟩
    | none => ⟨text ++ "\n", none, some table.rows.length⟩

/-- What running a query makes. -/
def exec (content : String → File.Content) (query : String) (delivery : Delivery) :
    Except Ending Product :=
  match readerFor content delivery.file with
  | .error ending => .error ending
  | .ok reader =>
    match reader.execute query with
    | .error failure => .error (.failed (.ofFailure failure))
    | .ok table => deliver delivery table

/-- The query in a file. -/
def queryIn (content : String → File.Content) (path : String) : Except Ending String :=
  let failed (cause : String) : Ending := .failed ⟨"Failed to read query file " ++ path, [cause]⟩
  match content path with
  | .error cause => .error (failed cause)
  | .ok octets =>
    match Text.Utf8.decode octets with
    | .error _ => .error (failed "stream did not contain valid UTF-8")
    | .ok query => .ok query

/-- How a query is understood, in a view. -/
def View.render : View → Query → String
  | .json, query => query.toJson.indented
  | .outline, query => query.outline.text
  | .words, query => query.describe

/-- What is told of a data set. -/
def describeDataset (dataset : Dataset) : String :=
  "File: " ++ dataset.name ++ "\n" ++
  "Rows: " ++ toString dataset.rows.length ++ "\n" ++
  "Columns (" ++ toString dataset.columns.length ++ "):\n" ++
  String.join (dataset.columns.map fun column => "  " ++ column ++ "\n")

/-- The queries that are offered. -/
def offeredQueries : String :=
  String.join (ExampleQuery.all.map fun offered =>
    offered.name ++ "\n  " ++ offered.query ++ "\n\n")

/-- What a command makes, given what is met at each path. -/
def Command.perform (content : String → File.Content) : Command → Except Ending Product
  | .exec query delivery => Console.exec content query delivery
  | .run path delivery =>
    match queryIn content path with
    | .error ending => .error ending
    | .ok query => Console.exec content query delivery
  | .parse query view => .ok (.printed (view.render (.parse query) ++ "\n"))
  | .ingest path => (loadFrom content path).map fun dataset => .printed (describeDataset dataset)
  | .queries => .ok (.printed offeredQueries)

/-- The paths that a command reads. -/
def Command.paths : Command → List String
  | .exec _ delivery => delivery.file.toList
  | .run path delivery => path :: delivery.file.toList
  | .ingest path => [path]
  | _ => []

/-- What a command leaves that has made its product. If there is a file to write, `obstacle` tells
whether writing it failed; `elapsed` is how long the query took. -/
def Product.outcome (product : Product) (obstacle : Option String) (elapsed : String) :
    Except Ending Outcome :=
  let counted := match product.rows with
    | some n => toString n ++ " rows returned. Execution time: " ++ elapsed ++ " ms\n"
    | none => ""
  match product.file, obstacle with
  | some (path, _), some cause =>
    .error (.failed ⟨"Failed to write output file " ++ path, [cause]⟩)
  | some (path, _), none =>
    .ok ⟨0, product.output, "Results written to: " ++ path ++ "\n" ++ counted⟩
  | none, _ => .ok ⟨0, product.output, counted⟩

/-- What an ending or an outcome leaves. -/
def settle : Except Ending Outcome → Outcome
  | .ok outcome => outcome
  | .error ending => ending.outcome Program.commandName Command.help

/-- The product put into a folder: the folder afterwards, or what prevented it. -/
def Product.store (product : Product) (folder : Folder) : Except Folder.Obstacle Folder :=
  match product.file with
  | none => .ok folder
  | some (path, text) => folder.write path (Text.Utf8.encode text)

/-- What words leave when they are carried out in a folder, and the folder afterwards. -/
def runIn (folder : Folder) (words : List String) (elapsed : String) : Outcome × Folder :=
  match Command.ofWords words with
  | .error detour => (settle (.error (.detour detour)), folder)
  | .ok command =>
    match command.perform folder.read with
    | .error ending => (settle (.error ending), folder)
    | .ok product =>
      match product.store folder with
      | .ok folder => (settle (product.outcome none elapsed), folder)
      | .error obstacle => (settle (product.outcome (some obstacle.message) elapsed), folder)

end RowQuery.Console
