import RowQuery.Proofs.CsvLines
import RowQuery.Proofs.JsonGrammar
import RowQuery.Proofs.Limits
import RowQuery.Service.Respond

/-!
# What responses tell

What a client finds in a response: its status, its headers and its text, the text of a JSON body by the grammar
(`Json.Spells`) and that of a file line by line. Success is told with data under it, a refusal with its status,
the kind of failure by which programs tell it from others, and a message for people. Every response to a call
that fails tells one refusal (`refuses_failureResponse`), and the responses that show a result, hand it out as a
file or list what ran are told part by part (`shows_reply`, `handsOut_reply`, `lists_reply`).
-/

namespace RowQuery

/-- As many rows as are allowed; zero sets no limit. -/
def cut (most : Nat) (rows : List Row) : List Row := if most = 0 then rows else rows.take most

theorem limit_eq (table : Table) (most : Nat) :
    (table.limit most).table = ⟨table.columns, cut most table.rows⟩ ∧ (table.limit most).total = table.rows.length := by
  rw [cut, ← table.rows_limit most, ← table.columns_limit most]
  exact ⟨rfl, table.total_limit most⟩

theorem truncated_limit (table : Table) (most : Nat) :
    (table.limit most).truncated = decide ((cut most table.rows).length < table.rows.length) := by
  rw [Bool.eq_iff_iff, table.truncated_limit_iff most, decide_eq_true_iff, (limit_eq table most).1]

namespace Service

/-! ## JSON bodies -/

/-- A response with a status whose body is declared as JSON and spells a value, without spaces. -/
structure Tells (status : Nat) (value : Json) (response : Http.Response) : Prop where
  status : response.status = status
  declared : response.headers = [("content-type", "application/json")]
  spelled : Json.Spells .compact 0 value response.body.toList

theorem tells_jsonResponse (status : Nat) (value : Json) : Tells status value (jsonResponse status value) where
  status := rfl
  declared := rfl
  spelled := by
    rw [jsonResponse, Json.compact, String.toList_ofList]
    exact Json.spells_compactText value 0

/-- A value that gives a count. Only one of more than 64 bits, which no list has, might not be told. -/
def Counts (count : Nat) (value : Json) : Prop := ∀ fits : FitsWord count, value = .number (.int count fits)

theorem counts_ofNat (count : Nat) : Counts count (.ofNat count) := by
  intro fits
  have small : count < 0x10000000000000000 := by
    have below := fits.2
    omega
  rw [Json.ofNat, Number.ofNat, dif_pos small]

/-! ## Refusals -/

/-- Why a client is refused: a status, a kind of failure and a message. -/
structure Refusal where
  status : Nat
  kind : String
  message : String
  deriving DecidableEq, Repr

/-- No session is live under an id. -/
def Refusal.noSession (id : String) : Refusal := ⟨404, "SessionNotFound", "Session not found: " ++ id⟩

/-- There is no data set to run a query over. -/
def Refusal.noData : Refusal :=
  ⟨400, "NoDataSource", "No file loaded. Upload a CSV or JSON file before querying it."⟩

/-- There is nothing in a query but blanks. -/
def Refusal.blankQuery : Refusal := ⟨400, "ValidationError", "Validation error: Query is empty"⟩

/-- A response that tells a client that it is refused. -/
def Refuses (refusal : Refusal) : Http.Response → Prop :=
  Tells refusal.status (.object
    [("status", .string "error"),
     ("error", .object [("message", .string refusal.message), ("type", .string refusal.kind)])])

/-- How a client is refused after a failure. -/
def refusalOf (failure : Failure) : Refusal := ⟨statusOf failure, failure.kind, failure.message⟩

theorem refuses_failureResponse (failure : Failure) : Refuses (refusalOf failure) (failureResponse failure) :=
  tells_jsonResponse _ _

/-! ## Answers -/

/-- A response that gives a client some data. -/
def Grants (data : Json) : Http.Response → Prop :=
  Tells 200 (.object [("status", .string "success"), ("data", data)])

theorem grants_success (data : Json) : Grants data (success data) := tells_jsonResponse 200 _

/-- A response that shows a table: its columns, the number of its rows, as many of them as are allowed, whether
there are more, and the time that it took. -/
def Shows (most : Nat) (elapsed : Number) (table : Table) (response : Http.Response) : Prop :=
  ∃ count, Counts table.rows.length count ∧ Grants (.object
    [("rows", .array ((cut most table.rows).map .object)),
     ("columns", .array (table.columns.map .string)),
     ("rowCount", count),
     ("truncated", .bool (decide ((cut most table.rows).length < table.rows.length))),
     ("executionTimeMs", .number elapsed)]) response

theorem shows_reply (table : Table) (most : Nat) (elapsed : Number) :
    Shows most elapsed table (Reply.rows (table.limit most) elapsed).response := by
  obtain ⟨rows, total⟩ := limit_eq table most
  refine ⟨.ofNat table.rows.length, counts_ofNat _, ?_⟩
  rw [Reply.response, rowsSummary, rows, total, truncated_limit]
  exact grants_success _

/-- A response that lists queries, each with the time at which it ran. -/
def Lists (queries : List String) (response : Http.Response) : Prop :=
  ∃ entries : List (String × String), entries.map Prod.fst = queries ∧
    Grants (.array (entries.map fun entry =>
      .object [("query", .string entry.1), ("timestamp", .string entry.2)])) response

theorem lists_reply (entries : List HistoryEntry) :
    Lists (entries.map HistoryEntry.query) (Reply.history entries).response := by
  refine ⟨entries.map fun entry => (entry.query, entry.timestamp), ?_, ?_⟩
  · rw [List.map_map]
    rfl
  · rw [List.map_map]
    exact grants_success _

/-! ## Files -/

/-- Texts with a comma between each two of them. -/
def commaJoined (texts : List (List Char)) : List Char := [','].intercalate texts

/-- A response that hands out a table as a file. In JSON it is the array of all rows, each part of them on a line
of its own. In CSV the column names are followed by the cells of each row between quotes, so that there is one line
for each row if no cell breaks a line. -/
inductive HandsOut (table : Table) : ExportFormat → Http.Response → Prop
  | json {body : String} (spelled : Json.Spells .indented 0 (.array (table.rows.map .object)) body.toList) :
    HandsOut table .json
      ⟨200, [("content-type", "application/json"),
        ("content-disposition", "attachment; filename=\"query_results.json\"")], body⟩
  | csv {body : String} {names : List Char} {lines : List (List Char)}
    (header : names = commaJoined (table.columns.map String.toList))
    (cells : lines = table.rows.map fun row =>
      commaJoined (table.columns.map fun column => '"' :: row.textOf column ++ ['"']))
    (written : body.toList = ['\n'].intercalate (names :: lines))
    (unbroken : (∀ row ∈ table.rows, ∀ column ∈ table.columns, Csv.Unbroken (row.textOf column)) →
      body.toList.splitOnP Csv.isLineBreak = names.splitOnP Csv.isLineBreak ++ lines) :
    HandsOut table .csv
      ⟨200, [("content-type", "text/csv;charset=utf-8"),
        ("content-disposition", "attachment; filename=\"query_results.csv\"")], body⟩

theorem handsOut_reply (table : Table) (format : ExportFormat) :
    HandsOut table format (Reply.file format table).response := by
  cases format with
  | json =>
    refine .json ?_
    rw [Table.render, Json.indented, String.toList_ofList]
    exact Json.spells_indentedText _ 0
  | csv =>
    refine .csv rfl rfl ?_ ?_
    · rw [Table.render, String.toList_ofList]
      rfl
    · intro whole
      rw [Table.render, String.toList_ofList]
      exact Csv.splitOnP_text whole

end Service

end RowQuery
