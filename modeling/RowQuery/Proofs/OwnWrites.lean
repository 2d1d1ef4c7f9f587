import RowQuery.Proofs.QueryResult
import RowQuery.Proofs.Requests
import RowQuery.Proofs.Responses

/-!
# Sessions read their own writes

Requests are handled one after the other, and what was asked and answered is written down, latest
first. For every session that is live then, the log tells since the session began which data set it
holds and which queries ran in it. That the store agrees with the log is the invariant
(`Agrees`): each exchange preserves it (`agrees_next`), so it holds after any requests
(`agrees_serve`), and queries and history are answered by it (`serve_readsOwnWrites`).
-/

namespace RowQuery.Service

/-! ## The log -/

/-- A request that was handled, when, and the response to it. -/
structure Exchange where
  moment : Moment
  request : Http.Request
  response : Http.Response

/-- The sessions, and all that was asked and answered, latest first. -/
structure Running where
  store : Store
  log : List Exchange

/-- The service after one more request. -/
def Running.next (settings : Settings) (running : Running) (arrival : Moment × Http.Request) : Running where
  store := (respond settings arrival.1 running.store arrival.2).2
  log := ⟨arrival.1, arrival.2, (respond settings arrival.1 running.store arrival.2).1⟩ :: running.log

/-- The service after requests that came one after the other, from a start without sessions. -/
def serve (settings : Settings) (minutes : UInt64) (arrivals : List (Moment × Http.Request)) : Running :=
  arrivals.foldl (Running.next settings) ⟨.ofMinutes minutes, []⟩

/-- The call that was made in an exchange, if it was answered with status 200. -/
def Exchange.call? (limit : Nat) (exchange : Exchange) : Option Call :=
  if exchange.response.status = 200 then (route limit exchange.request).toOption else none

/-- What a call puts in place of the data set of a session: what it uploads there, or nothing if it clears
the data set. A call that does neither changes nothing. -/
def Call.datasetIn (id : String) : Call → Option (Option Dataset)
  | .upload other fileName octets => if other = id then (File.load fileName octets).toOption.map some else none
  | .clearDataset other => if other = id then some none else none
  | _ => none

/-- The query that a call runs in a session, over either source and for either kind of answer. -/
def Call.queryIn (id : String) : Call → Option String
  | .runQuery request | .exportQuery request => if request.sessionId = some id then some request.query else none
  | _ => none

section
variable (settings : Settings) (id : String)

/-- An exchange in which a session began. -/
def Exchange.Begins (exchange : Exchange) : Prop :=
  exchange.call? settings.bodyLimit = some .createSession ∧ exchange.moment.freshId = id

instance (exchange : Exchange) : Decidable (exchange.Begins settings id) := inferInstanceAs (Decidable (_ ∧ _))

/-- The exchanges since a session began. -/
def sinceBegin (log : List Exchange) : List Exchange :=
  log.takeWhile fun exchange => !decide (exchange.Begins settings id)

/-- The data set of the latest upload to a session since it began, nothing if it was cleared after that,
and what all sessions begin with if there was neither. -/
def latestDataset (log : List Exchange) : Option Dataset :=
  ((sinceBegin settings id log).findSome? fun exchange =>
    (exchange.call? settings.bodyLimit).bind (Call.datasetIn id)).getD settings.initial

/-- The queries that ran in a session since it began, latest first. -/
def queriesRun (log : List Exchange) : List String :=
  (sinceBegin settings id log).filterMap fun exchange =>
    (exchange.call? settings.bodyLimit).bind (Call.queryIn id)

variable {settings id} {exchange : Exchange} (log : List Exchange)

theorem sinceBegin_of_begins (begins : exchange.Begins settings id) :
    sinceBegin settings id (exchange :: log) = [] :=
  List.takeWhile_cons_of_neg (by simp [begins])

theorem sinceBegin_of_not_begins (other : ¬exchange.Begins settings id) :
    sinceBegin settings id (exchange :: log) = exchange :: sinceBegin settings id log :=
  List.takeWhile_cons_of_pos (by simp [other])

theorem latestDataset_of_begins (begins : exchange.Begins settings id) :
    latestDataset settings id (exchange :: log) = settings.initial := by
  rw [latestDataset, sinceBegin_of_begins log begins]
  rfl

theorem latestDataset_of_not_begins (other : ¬exchange.Begins settings id) :
    latestDataset settings id (exchange :: log) =
      ((exchange.call? settings.bodyLimit).bind (Call.datasetIn id)).getD (latestDataset settings id log) := by
  rw [latestDataset, sinceBegin_of_not_begins log other, List.findSome?_cons]
  cases (exchange.call? settings.bodyLimit).bind (Call.datasetIn id) with
  | none => rfl
  | some dataset => rfl

theorem queriesRun_of_begins (begins : exchange.Begins settings id) :
    queriesRun settings id (exchange :: log) = [] := by
  rw [queriesRun, sinceBegin_of_begins log begins]
  rfl

theorem queriesRun_of_not_begins (other : ¬exchange.Begins settings id) :
    queriesRun settings id (exchange :: log) =
      ((exchange.call? settings.bodyLimit).bind (Call.queryIn id)).toList ++ queriesRun settings id log := by
  rw [queriesRun, sinceBegin_of_not_begins log other, List.filterMap_cons]
  cases (exchange.call? settings.bodyLimit).bind (Call.queryIn id) with
  | none => rfl
  | some query => rfl

end

/-! ## What a call does to one session -/

/-- What is held for a session before and after a call that was answered. -/
structure Call.Alters (call : Call) (id : String) (before after : Holding) : Prop where
  dataset : after.dataset = (call.datasetIn id).getD before.dataset
  queries : after.queries =
    match call.queryIn id with
    | some query => (query :: before.queries).take Session.historyLimit
    | none => before.queries

theorem alters_of_unconcerned {call : Call} {id : String} (noDataset : call.datasetIn id = none)
    (noQuery : call.queryIn id = none) (held : Holding) : call.Alters id held held :=
  ⟨by rw [noDataset]; rfl, by rw [noQuery]⟩

/-- A change to the contents of one session is found again in that session only. -/
theorem alters_of_change {call : Call} {id key : String} {holdings : Keyed Holding} {after : Holding}
    {f : Holding → Holding} (found : (holdings.change key f).get? id = some after)
    (here : ∀ held, call.Alters key held (f held)) (datasetElsewhere : key ≠ id → call.datasetIn id = none)
    (queryElsewhere : key ≠ id → call.queryIn id = none) :
    ∃ before, holdings.get? id = some before ∧ call.Alters id before after := by
  rw [Keyed.get?_change] at found
  by_cases same : key = id
  · rw [if_pos same] at found
    obtain ⟨before, live, rfl⟩ := Option.map_eq_some_iff.mp found
    exact ⟨before, live, same ▸ here before⟩
  · rw [if_neg same] at found
    exact ⟨after, found, alters_of_unconcerned (datasetElsewhere same) (queryElsewhere same) after⟩

theorem alters_of_query {call : Call} {request : QueryRequest} {id : String} {moment : Moment}
    {holdings : Keyed Holding} {after : Holding} (noDataset : ∀ key, call.datasetIn key = none)
    (runs : ∀ key, call.queryIn key = if request.sessionId = some key then some request.query else none)
    (found : (request.leaves moment holdings).get? id = some after) :
    ∃ before, holdings.get? id = some before ∧ call.Alters id before after := by
  rw [QueryRequest.leaves] at found
  cases session : request.sessionId with
  | none =>
    rw [session] at found
    exact ⟨after, found, alters_of_unconcerned (noDataset id) (by rw [runs, session]; rfl) after⟩
  | some key =>
    rw [session] at found
    refine alters_of_change found (fun held => ⟨?_, ?_⟩) (fun _ => noDataset id) fun other => ?_
    · rw [noDataset]
      rfl
    · rw [runs, if_pos session]
      exact queries_record held _
    · rw [runs, session, if_neg]
      exact fun same => other (Option.some.inj same)

/-- What is held for a session after a call that was answered: either the session has just begun, or
the call altered what was held for it. -/
theorem get?_leaves {settings : Settings} {moment : Moment} {holdings : Keyed Holding} {call : Call} {id : String}
    {after : Holding} (found : (call.leaves settings moment holdings).get? id = some after) :
    (call = .createSession ∧ moment.freshId = id ∧ after = ⟨settings.initial, [], []⟩) ∨
      ¬(call = .createSession ∧ moment.freshId = id) ∧
        ∃ before, holdings.get? id = some before ∧ call.Alters id before after := by
  cases call with
  | createSession =>
    rw [Call.leaves, Keyed.get?_put] at found
    by_cases fresh : moment.freshId = id
    · rw [if_pos fresh] at found
      exact .inl ⟨rfl, fresh, (Option.some.inj found).symm⟩
    · rw [if_neg fresh] at found
      exact .inr ⟨fun begins => fresh begins.2, after, found, alters_of_unconcerned rfl rfl after⟩
  | deleteSession key =>
    rw [Call.leaves, Keyed.get?_erase] at found
    split at found
    · cases found
    · exact .inr ⟨fun begins => Call.noConfusion begins.1, after, found, alters_of_unconcerned rfl rfl after⟩
  | upload key fileName octets =>
    rw [Call.leaves] at found
    refine .inr ⟨fun begins => Call.noConfusion begins.1, ?_⟩
    cases loaded : File.load fileName octets with
    | error failure =>
      rw [loaded] at found
      refine ⟨after, found, alters_of_unconcerned ?_ rfl after⟩
      rw [Call.datasetIn, loaded]
      exact ite_self none
    | ok dataset =>
      rw [loaded] at found
      refine alters_of_change found (fun held => ⟨?_, rfl⟩) (fun other => ?_) fun _ => rfl
      · rw [Call.datasetIn, if_pos rfl, loaded]
        rfl
      · rw [Call.datasetIn, if_neg other]
  | clearDataset key =>
    rw [Call.leaves] at found
    refine .inr ⟨fun begins => Call.noConfusion begins.1, alters_of_change found (fun held => ⟨?_, rfl⟩)
      (fun other => ?_) fun _ => rfl⟩
    · rw [Call.datasetIn, if_pos rfl]
      rfl
    · rw [Call.datasetIn, if_neg other]
  | saveQuery key name query =>
    rw [Call.leaves] at found
    exact .inr ⟨fun begins => Call.noConfusion begins.1, alters_of_change found (fun held => ⟨rfl, rfl⟩)
      (fun _ => rfl) fun _ => rfl⟩
  | runQuery request =>
    exact .inr ⟨fun begins => Call.noConfusion begins.1, alters_of_query (fun _ => rfl) (fun _ => rfl) found⟩
  | exportQuery request =>
    exact .inr ⟨fun begins => Call.noConfusion begins.1, alters_of_query (fun _ => rfl) (fun _ => rfl) found⟩
  | _ => exact .inr ⟨fun begins => Call.noConfusion begins.1, after, found, alters_of_unconcerned rfl rfl after⟩

/-! ## The invariant -/

/-- What is held for a session is what the log tells of it. -/
structure Agrees (settings : Settings) (log : List Exchange) (id : String) (held : Holding) : Prop where
  begun : ∃ exchange ∈ log, exchange.Begins settings id
  dataset : held.dataset = latestDataset settings id log
  queries : held.queries = (queriesRun settings id log).take Session.historyLimit

/-- What is held for every live session is what the log tells of it. -/
def Running.Agrees (settings : Settings) (running : Running) : Prop :=
  ∀ id held, running.store.holdings.get? id = some held → Service.Agrees settings running.log id held

section
variable {settings : Settings} {log : List Exchange} {exchange : Exchange} {id : String}

theorem agrees_begin (begins : exchange.Begins settings id) :
    Agrees settings (exchange :: log) id ⟨settings.initial, [], []⟩ where
  begun := ⟨exchange, List.mem_cons_self, begins⟩
  dataset := (latestDataset_of_begins log begins).symm
  queries := by
    rw [queriesRun_of_begins log begins]
    rfl

/-- An exchange without an answer tells nothing new. -/
theorem agrees_of_unanswered {held : Holding} (unanswered : exchange.call? settings.bodyLimit = none)
    (agrees : Agrees settings log id held) : Agrees settings (exchange :: log) id held := by
  have other : ¬exchange.Begins settings id := by
    rintro ⟨begins, _⟩
    rw [unanswered] at begins
    cases begins
  obtain ⟨first, member, begins⟩ := agrees.begun
  refine ⟨⟨first, List.mem_cons_of_mem _ member, begins⟩, ?_, ?_⟩
  · rw [latestDataset_of_not_begins log other, unanswered]
    exact agrees.dataset
  · rw [queriesRun_of_not_begins log other, unanswered]
    exact agrees.queries

/-- An answered call alters what is held as the log tells. -/
theorem agrees_of_alters {call : Call} {before after : Holding}
    (answered : exchange.call? settings.bodyLimit = some call) (other : ¬exchange.Begins settings id)
    (alters : call.Alters id before after) (agrees : Agrees settings log id before) :
    Agrees settings (exchange :: log) id after := by
  obtain ⟨first, member, begins⟩ := agrees.begun
  refine ⟨⟨first, List.mem_cons_of_mem _ member, begins⟩, ?_, ?_⟩
  · rw [latestDataset_of_not_begins log other, answered, alters.dataset, agrees.dataset]
    rfl
  · rw [queriesRun_of_not_begins log other, answered, alters.queries, agrees.queries, Option.bind_some]
    cases call.queryIn id with
    | none => rfl
    | some query =>
      simp only [Option.toList_some, List.singleton_append, Session.historyLimit, List.take_succ_cons, List.take_take]
      rfl

end

/-- One more request keeps store and log in agreement. -/
theorem agrees_next {settings : Settings} {running : Running} (agrees : running.Agrees settings)
    (arrival : Moment × Http.Request) : (running.next settings arrival).Agrees settings := by
  obtain ⟨moment, request⟩ := arrival
  intro id after found
  rcases respond_cases settings moment running.store request with unanswered | ⟨call, answered⟩
  · have silent : Exchange.call? settings.bodyLimit
        ⟨moment, request, (respond settings moment running.store request).1⟩ = none := by
      have error := unanswered.status
      exact if_neg (by simp only; omega)
    rw [Running.next, unanswered.left] at found
    exact agrees_of_unanswered silent (agrees id after found)
  · have called : Exchange.call? settings.bodyLimit
        ⟨moment, request, (respond settings moment running.store request).1⟩ = some call := by
      rw [Exchange.call?, if_pos answered.status, answered.routed]
      rfl
    rw [Running.next, answered.left] at found
    rcases get?_leaves found with ⟨begins, fresh, rfl⟩ | ⟨other, before, live, alters⟩
    · exact agrees_begin ⟨begins ▸ called, fresh⟩
    · refine agrees_of_alters called ?_ alters (agrees id before live)
      rintro ⟨begins, fresh⟩
      rw [called] at begins
      exact other ⟨Option.some.inj begins, fresh⟩

/-- Store and log agree after any requests. -/
theorem agrees_serve (settings : Settings) (minutes : UInt64) (arrivals : List (Moment × Http.Request)) :
    (serve settings minutes arrivals).Agrees settings := by
  have run : ∀ running : Running, running.Agrees settings →
      (arrivals.foldl (Running.next settings) running).Agrees settings := by
    induction arrivals with
    | nil => exact fun _ agrees => agrees
    | cons arrival arrivals ih => exact fun _ agrees => ih _ (agrees_next agrees arrival)
  refine run ⟨.ofMinutes minutes, []⟩ ?_
  intro id held none
  cases none

/-! ## Answers -/

section
variable {settings : Settings} {moment : Moment} {store : Store} {request : Http.Request} {id : String} {held : Holding}

/-- A query over the file of a live session runs over the data set that is held. -/
theorem perform_runQuery {query : QueryRequest} (overFile : query.source = .file) (session : query.sessionId = some id)
    (live : store.holdings.get? id = some held) (notBlank : Text.allBlank query.query = false) :
    (perform settings moment store (.runQuery query)).1 =
      match held.dataset with
      | none => .error .noDataSource
      | some dataset => .ok (.rows ((Query.run query.query dataset.rows).limit settings.maxRows) moment.elapsed) := by
  have result : (run store moment query).1 = answer query held.dataset := by
    rw [run_result, result_of_live overFile session live]
  rw [perform, told, result, answer, overFile]
  cases held.dataset with
  | none => rfl
  | some dataset =>
    simp only [Reader.ofSource, Reader.execute, notBlank]
    rfl

theorem perform_listHistory (live : store.holdings.get? id = some held) :
    (perform settings moment store (.listHistory id)).1 = .ok (.history held.history) := by
  obtain ⟨found, viewed, view, rfl, _⟩ := Store.view_of_live live moment.clock Session.history
  rw [perform, Store.history, view]
  rfl

end

/-- How a query over the file of a session is answered: refused if no data set is held, otherwise shown the result,
with as many rows as are allowed. -/
def AnswersOver (settings : Settings) (moment : Moment) (query : String) :
    Option Dataset → Http.Response → Prop
  | none => Refuses .noData
  | some dataset => Shows settings.maxRows moment.elapsed (Query.run query dataset.rows)

/-- A session whose queries and history are answered by the log. -/
structure ReadsOwnWrites (settings : Settings) (running : Running) (id : String) : Prop where
  begun : ∃ exchange ∈ running.log, exchange.Begins settings id
  queries : ∀ moment request query, route settings.bodyLimit request = .ok (.runQuery query) →
    query.source = .file → query.sessionId = some id → Text.allBlank query.query = false →
      AnswersOver settings moment query.query (latestDataset settings id running.log)
        (respond settings moment running.store request).1
  history : ∀ moment request, request.method = "GET" → route settings.bodyLimit request = .ok (.listHistory id) →
    Lists ((queriesRun settings id running.log).take 100) (respond settings moment running.store request).1

theorem answersOver_respond {settings : Settings} {moment : Moment} {store : Store} {request : Http.Request}
    {query : QueryRequest} {id : String} {held : Holding}
    (routed : route settings.bodyLimit request = .ok (.runQuery query)) (overFile : query.source = .file)
    (session : query.sessionId = some id) (notBlank : Text.allBlank query.query = false)
    (live : store.holdings.get? id = some held) :
    AnswersOver settings moment query.query held.dataset (respond settings moment store request).1 := by
  have performed : (perform settings moment store (.runQuery query)).1 = _ :=
    perform_runQuery overFile session live notBlank
  have notHead : request.method ≠ "HEAD" := by
    intro head
    cases reads_of_onlyReads (.gets (.inr head)) routed with
    | runQuery unnamed =>
      rw [session] at unnamed
      cases unnamed
  rw [respond_of_not_head routed notHead]
  cases kept : held.dataset with
  | none =>
    rw [kept] at performed
    rw [respondToCall_of_error performed]
    exact refuses_failureResponse .noDataSource
  | some dataset =>
    rw [kept] at performed
    rw [respondToCall_of_ok performed]
    exact shows_reply _ _ _

/-- After any requests, every live session reads its own writes: a query over its file runs over the data
set that was put there last, and its history lists the queries that ran in it, latest first, up to a
hundred of them. -/
theorem serve_readsOwnWrites (settings : Settings) (minutes : UInt64) (arrivals : List (Moment × Http.Request))
    {id : String} (live : (serve settings minutes arrivals).store.has id = true) :
    ReadsOwnWrites settings (serve settings minutes arrivals) id := by
  rw [Store.has_eq] at live
  obtain ⟨held, found⟩ := Option.isSome_iff_exists.mp live
  have agrees := agrees_serve settings minutes arrivals id held found
  refine ⟨agrees.begun, ?_, ?_⟩
  · intro moment request query routed overFile session notBlank
    rw [← agrees.dataset]
    exact answersOver_respond routed overFile session notBlank found
  · intro moment request method routed
    have notHead : request.method ≠ "HEAD" := by
      rw [method]
      decide
    have listed : held.history.map HistoryEntry.query = (queriesRun settings id _).take 100 := agrees.queries
    rw [respond_of_not_head routed notHead, respondToCall_of_ok (perform_listHistory found), ← listed]
    exact lists_reply held.history

/-- A query over the file of the session `00000000000a`. -/
def fileQuery : Http.Request where
  method := "POST"
  target := "/api/v1/query"
  contentType := some "application/json"
  body := Text.Utf8.encode "\x7b\"query\":\"select n\",\"source\":\"file\",\"sessionId\":\"00000000000a\"\x7d"

/-- A session begins, a file with one row is uploaded to it, and a query runs over the file. -/
def firstSteps : List (Moment × Http.Request) :=
  [(momentOf "00000000000a", ⟨"POST", "/api/v1/sessions", none, []⟩),
   (momentOf "00000000000b",
    ⟨"POST", "/api/v1/sessions/00000000000a/upload?filename=n.csv", none, [0x6E, 0x0A, 0x31]⟩),
   (momentOf "00000000000c", fileQuery)]

theorem serve_readsOwnWrites_firstSteps :
    let store := (serve smallSettings 30 firstSteps).store
    let now := momentOf "00000000000d"
    let answer := (respond smallSettings now store fileQuery).1
    let history := (respond smallSettings now store ⟨"GET", "/api/v1/sessions/00000000000a/history", none, []⟩).1
    AnswersOver smallSettings now "select n" (some ⟨⟨["n"], [[("n", .string "1")]]⟩, "n.csv"⟩) answer ∧
      Lists ["select n"] history ∧
      answer.body = "\x7b\"status\":\"success\",\"data\":\x7b\"rows\":[\x7b\"n\":\"1\"\x7d],\"columns\":[\"n\"]," ++
        "\"rowCount\":1,\"truncated\":false,\"executionTimeMs\":0\x7d\x7d" ∧
      history.body = "\x7b\"status\":\"success\",\"data\":[\x7b\"query\":\"select n\"," ++
        "\"timestamp\":\"2024-01-01T09:00:00Z\"\x7d]\x7d" := by
  have live : (serve smallSettings 30 firstSteps).store.has "00000000000a" = true := by decide +kernel
  have reads := serve_readsOwnWrites smallSettings 30 firstSteps live
  refine ⟨?_, ?_, by decide +kernel, by decide +kernel⟩
  · exact reads.queries _ fileQuery ⟨"select n", .file, some "00000000000a", .csv⟩ rfl rfl rfl (by decide)
  · exact reads.history _ ⟨"GET", "/api/v1/sessions/00000000000a/history", none, []⟩ rfl rfl

end RowQuery.Service
