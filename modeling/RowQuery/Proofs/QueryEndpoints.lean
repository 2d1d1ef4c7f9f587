import RowQuery.Proofs.QueryResult
import RowQuery.Proofs.Requests
import RowQuery.Proofs.Responses

/-!
# Two ways to ask for the result of a query

One endpoint answers a query with as many rows of its result as are allowed, the other makes a file of
all of them. Since they read the body alike and the result depends only on what is held for the
clients, a body is refused by both in the same words or by neither; then both tell of the same table,
and they leave the same behind (`query_agrees_with_export`).
-/

namespace RowQuery

/-! ## Without times -/

/-- What is kept for one client, apart from any times. -/
structure Timeless where
  dataset : Option Dataset
  queries : List String
  saved : Keyed String

/-- What is kept for one client, with only the queries of its history. -/
def Holding.timeless (held : Holding) : Timeless := ⟨held.dataset, held.queries, held.saved⟩

/-- The live sessions with what is kept for them, apart from any times. -/
def Store.timeless (store : Store) : Keyed Timeless := store.holdings.mapValues Holding.timeless

theorem timeless_record (held : Holding) (query early late : String) :
    (held.record ⟨query, early⟩).timeless = (held.record ⟨query, late⟩).timeless := by
  rw [Holding.timeless, Holding.timeless, queries_record, queries_record]
  rfl

namespace Service

/-- When a query is run makes no difference to what is held after it, apart from times. -/
theorem timeless_after (request : QueryRequest) (early late : Moment) (holdings : Keyed Holding) :
    (request.after early holdings).mapValues Holding.timeless =
      (request.after late holdings).mapValues Holding.timeless := by
  rw [QueryRequest.after, QueryRequest.after]
  cases request.result holdings with
  | error failure => rfl
  | ok table =>
    dsimp only
    rw [QueryRequest.leaves, QueryRequest.leaves]
    cases request.sessionId with
    | none => rfl
    | some id => exact Keyed.mapValues_change_congr (fun held => timeless_record held _ _ _) holdings id

/-! ## The two endpoints -/

/-- A request that posts a body. -/
def posted (target : String) (contentType : Option String) (body : List UInt8) : Http.Request :=
  ⟨"POST", target, contentType, body⟩

/-- The query that is posted, to either endpoint. -/
def queryPosted (limit : Nat) (contentType : Option String) (body : List UInt8) : Decoded QueryRequest :=
  (recordOf limit queryFields (posted "/api/v1/query" contentType body)).map queryRequestOf

theorem route_posted (limit : Nat) {target : String} (contentType : Option String) (body : List UInt8)
    {resource : Resource} (found : Resource.ofPath (Http.pathOf target) = some resource)
    (taken : resource.allowed = "POST") :
    route limit (posted target contentType body) = callOf limit (posted target contentType body) resource := by
  have allowed : (resource.allowed.toList.splitOn ',').contains "POST".toList = true := by
    rw [taken]
    decide
  rw [route, posted, found]
  exact if_pos allowed

theorem route_query (limit : Nat) (contentType : Option String) (body : List UInt8) :
    route limit (posted "/api/v1/query" contentType body) =
      (queryPosted limit contentType body).map .runQuery := by
  have found : Resource.ofPath (Http.pathOf "/api/v1/query") = some .query := by decide
  rw [route_posted limit contentType body found rfl, callOf, queryPosted]
  cases recordOf limit queryFields (posted "/api/v1/query" contentType body) with
  | error rejection => rfl
  | ok record => rfl

theorem route_export (limit : Nat) (contentType : Option String) (body : List UInt8) :
    route limit (posted "/api/v1/export" contentType body) =
      (queryPosted limit contentType body).map .exportQuery := by
  have found : Resource.ofPath (Http.pathOf "/api/v1/export") = some .exports := by decide
  have same : recordOf limit queryFields (posted "/api/v1/export" contentType body) =
      recordOf limit queryFields (posted "/api/v1/query" contentType body) := rfl
  rw [route_posted limit contentType body found rfl, callOf, queryPosted, same]
  cases recordOf limit queryFields (posted "/api/v1/query" contentType body) with
  | error rejection => rfl
  | ok record => rfl

/-- The response that tells of a result, or of there being none. -/
def responseTo (tell : Table → Reply) : Except Failure Table → Http.Response
  | .ok table => (tell table).response
  | .error failure => failureResponse failure

section
variable (settings : Settings) (moment : Moment) (store : Store)

theorem respond_posted_of_error {target : String} {contentType : Option String} {body : List UInt8}
    {rejection : Rejection}
    (refused : route settings.bodyLimit (posted target contentType body) = .error rejection) :
    respond settings moment store (posted target contentType body) = (rejection.response, store) := by
  have notHead : (posted target contentType body).method ≠ "HEAD" := show "POST" ≠ "HEAD" by decide
  rw [respond, refused]
  simp only [if_neg notHead]

theorem respond_posted_of_ok {target : String} {contentType : Option String} {body : List UInt8} {call : Call}
    (routed : route settings.bodyLimit (posted target contentType body) = .ok call) :
    respond settings moment store (posted target contentType body) =
      respondToCall settings moment store call := by
  have notHead : (posted target contentType body).method ≠ "HEAD" := show "POST" ≠ "HEAD" by decide
  exact Prod.ext (respond_of_not_head routed notHead) (respond_of_ok settings moment store _ routed).2

/-- The response to a call that runs a query and tells of its result. -/
theorem respondToCall_told (call : Call) {request : QueryRequest} {tell : Table → Reply}
    (runs : perform settings moment store call = told tell (run store moment request)) :
    ∃ left, respondToCall settings moment store call =
        (responseTo tell (request.result store.holdings), left) ∧
      left.holdings = request.after moment store.holdings := by
  obtain ⟨left, ran, same⟩ := run_eq store moment request
  refine ⟨left, ?_, same⟩
  rw [respondToCall, runs, told, ran]
  cases request.result store.holdings with
  | error failure => rfl
  | ok table => rfl

end

/-- How the query that is posted is answered by the two endpoints: turned down by both in the same words, unread
or for want of a result, or shown its result by one and handed all of it out by the other. -/
inductive Agree (most : Nat) (elapsed : Number) (holdings : Keyed Holding) (given : Decoded QueryRequest)
    (answer file : Http.Response) : Prop
  | rejected {rejection : Rejection} (unread : given = .error rejection) (same : answer = file)
      (status : 400 ≤ answer.status)
  | refused {request : QueryRequest} {failure : Failure} (read : given = .ok request)
      (failed : request.result holdings = .error failure) (same : answer = file) (status : 400 ≤ answer.status)
      (told : Refuses (refusalOf failure) answer)
  | granted {request : QueryRequest} {table : Table} (read : given = .ok request)
      (found : request.result holdings = .ok table) (shown : Shows most elapsed table answer)
      (handedOut : HandsOut table request.format file)

/-- Whatever the sessions are, both endpoints agree on every body, and apart from times they leave the
same behind. -/
theorem query_agrees_with_export (settings : Settings) (store : Store) (asked fetched : Moment)
    (contentType : Option String) (body : List UInt8) :
    Agree settings.maxRows asked.elapsed store.holdings (queryPosted settings.bodyLimit contentType body)
        (respond settings asked store (posted "/api/v1/query" contentType body)).1
        (respond settings fetched store (posted "/api/v1/export" contentType body)).1 ∧
      (respond settings asked store (posted "/api/v1/query" contentType body)).2.timeless =
        (respond settings fetched store (posted "/api/v1/export" contentType body)).2.timeless := by
  have query := route_query settings.bodyLimit contentType body
  have exports := route_export settings.bodyLimit contentType body
  cases given : queryPosted settings.bodyLimit contentType body with
  | error rejection =>
    rw [given] at query exports
    rw [respond_posted_of_error settings asked store query, respond_posted_of_error settings fetched store exports]
    exact ⟨.rejected rfl rfl (status_rejection rejection), rfl⟩
  | ok request =>
    rw [given] at query exports
    rw [respond_posted_of_ok settings asked store query, respond_posted_of_ok settings fetched store exports]
    obtain ⟨afterQuery, answered, leftByQuery⟩ :=
      respondToCall_told settings asked store (.runQuery request) rfl
    obtain ⟨afterExport, handedOut, leftByExport⟩ :=
      respondToCall_told settings fetched store (.exportQuery request) rfl
    rw [answered, handedOut, Store.timeless, Store.timeless, leftByQuery, leftByExport]
    refine ⟨?_, timeless_after request asked fetched store.holdings⟩
    cases found : request.result store.holdings with
    | error failure => exact .refused rfl found rfl (status_failure failure) (refuses_failureResponse failure)
    | ok table => exact .granted rfl found (shows_reply table _ _) (handsOut_reply table _)

/-- A session that holds a file with two rows. -/
def twoRowStore : Store :=
  let file : Dataset := ⟨⟨["n"], [[("n", .string "1")], [("n", .string "2")]]⟩, "n.csv"⟩
  ⟨1800, [("00000000000a", ⟨some file, [], [], 0⟩)]⟩

/-- A query for that file, all of it, as JSON. -/
def wholeFileBody : List UInt8 :=
  Text.Utf8.encode ("\x7b\"query\":\"select *\",\"source\":\"file\",\"sessionId\":\"00000000000a\"," ++
    "\"format\":\"json\"\x7d")

/-- One row is shown of the two that are handed out. -/
theorem query_agrees_with_export_twoRows :
    let settings : Settings := ⟨1, 1000, none⟩
    let now := momentOf "00000000000b"
    let answer := (respond settings now twoRowStore
      (posted "/api/v1/query" (some "application/json") wholeFileBody)).1
    let file := (respond settings now twoRowStore
      (posted "/api/v1/export" (some "application/json") wholeFileBody)).1
    Agree 1 now.elapsed twoRowStore.holdings (queryPosted 1000 (some "application/json") wholeFileBody) answer file ∧
      answer.body = "\x7b\"status\":\"success\",\"data\":\x7b\"rows\":[\x7b\"n\":\"1\"\x7d],\"columns\":[\"n\"]," ++
        "\"rowCount\":2,\"truncated\":true,\"executionTimeMs\":0\x7d\x7d" ∧
      file.body = "[\n  \x7b\n    \"n\": \"1\"\n  \x7d,\n  \x7b\n    \"n\": \"2\"\n  \x7d\n]" := by
  refine ⟨?_, by decide +kernel, by decide +kernel⟩
  exact (query_agrees_with_export ⟨1, 1000, none⟩ twoRowStore (momentOf "00000000000b") (momentOf "00000000000b")
    (some "application/json") wholeFileBody).1

end Service

end RowQuery
