import RowQuery.Program
import RowQuery.Query.Form
import RowQuery.Service.Perform
import RowQuery.Service.Routing
import RowQuery.Source.Examples

/-!
# The service

From a request to a response: the call it makes is performed, and the answer, the failure or the
rejection is put into words.
-/

namespace RowQuery.Service

/-- A response whose body is JSON. -/
def jsonResponse (status : Nat) (body : Json) : Http.Response :=
  ⟨status, [("content-type", "application/json")], body.compact⟩

/-- The response to a call that succeeded with some data. -/
def success (data : Json) : Http.Response :=
  jsonResponse 200 (.object [("status", .string "success"), ("data", data)])

/-- What is told of a data set. -/
def datasetSummary (dataset : Dataset) : Json :=
  .object
    [("name", .string dataset.name), ("rowCount", .ofNat dataset.rows.length),
     ("columns", .ofStrings dataset.columns)]

/-- What is told of a session. -/
def sessionSummary (id : String) (session : Session) : Json :=
  .object
    [("sessionId", .string id), ("dataset", .ofOption (session.dataset.map datasetSummary)),
     ("historyCount", .ofNat session.history.length),
     ("savedCount", .ofNat session.saved.length)]

/-- What is told of a query that ran. -/
def historySummary (entry : HistoryEntry) : Json :=
  .object [("query", .string entry.query), ("timestamp", .string entry.timestamp)]

/-- A query under a name. -/
def namedQuery (name query : String) : Json :=
  .object [("name", .string name), ("query", .string query)]

/-- What is told of the answer of a query. -/
def rowsSummary (limited : Limited) (elapsed : Number) : Json :=
  .object
    [("rows", limited.table.toJson), ("columns", .ofStrings limited.table.columns),
     ("rowCount", .ofNat limited.total), ("truncated", .bool limited.truncated),
     ("executionTimeMs", .number elapsed)]

/-- The response that gives an answer. -/
def Reply.response : Reply → Http.Response
  | .welcome =>
    .plain 200 (Program.commandName ++ " REST API Server - See /api/v1/health for status")
  | .health sessions =>
    jsonResponse 200 (.object
      [("status", .string "healthy"), ("version", .string Program.version),
       ("sessions", .ofNat sessions)])
  | .version =>
    jsonResponse 200 (.object
      [("version", .string Program.version), ("features", .ofStrings Program.features)])
  | .examples =>
    success (.array (ExampleQuery.all.map fun offered => namedQuery offered.name offered.query))
  | .created id => success (.object [("sessionId", .string id)])
  | .session id found => success (sessionSummary id found)
  | .removed happened => success (.object [("removed", .bool happened)])
  | .loaded dataset => success (datasetSummary dataset)
  | .history entries => success (.array (entries.map historySummary))
  | .saved queries => success (.array (queries.map fun entry => namedQuery entry.1 entry.2))
  | .rows limited elapsed => success (rowsSummary limited elapsed)
  | .parsed query => success query.toJson
  | .file format table =>
    ⟨200,
     [("content-type", format.mediaType),
      ("content-disposition", "attachment; filename=\"" ++ format.fileName ++ "\"")],
     table.render format⟩

/-- The status that tells of a failure. -/
def statusOf : Failure → Nat
  | .sessionNotFound _ => 404
  | .io _ => 500
  | .internal _ => 500
  | _ => 400

/-- The response that tells of a failure. -/
def failureResponse (failure : Failure) : Http.Response :=
  jsonResponse (statusOf failure) (.object
    [("status", .string "error"),
     ("error", .object
       [("message", .string failure.message), ("type", .string failure.kind)])])

/-- The response to a request that makes no call. -/
def Rejection.response : Rejection → Http.Response
  | .noResource => .bare 404
  | .methodNotAllowed allowed => ⟨405, [("allow", allowed)], ""⟩
  | .badPath => .plain 400 "The path does not decode to text"
  | .badQueryString => .plain 400 "The query string must name one file"
  | .notDeclaredJson => .plain 415 "The body must be declared as JSON"
  | .bodyTooLarge => .plain 413 "The body is too large"
  | .malformedBody => .plain 400 "The body is not JSON"
  | .wrongBody => .plain 422 "The body does not have the fields that are asked for"

/-- The response to what was asked with `HEAD`: everything but the body. -/
def withoutBody (response : Http.Response) : Http.Response := { response with body := "" }

/-- The response to a call, and the sessions afterwards. -/
def respondToCall (settings : Settings) (moment : Moment) (store : Store) (call : Call) :
    Http.Response × Store :=
  match perform settings moment store call with
  | (.ok reply, store) => (reply.response, store)
  | (.error failure, store) => (failureResponse failure, store)

/-- The response to a request, and the sessions afterwards. -/
def respond (settings : Settings) (moment : Moment) (store : Store) (request : Http.Request) :
    Http.Response × Store :=
  let (response, store) := match route settings.bodyLimit request with
    | .error rejection => (rejection.response, store)
    | .ok call => respondToCall settings moment store call
  (if request.method = "HEAD" then withoutBody response else response, store)

end RowQuery.Service
