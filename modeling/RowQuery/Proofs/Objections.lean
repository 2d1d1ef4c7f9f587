import RowQuery.Proofs.Cutting
import RowQuery.Proofs.QueryEndpoints

/-!
# What is wrong with a query

A query that is posted is refused for one of a few reasons, and where several apply the first of them is
told (`QueryRequest.objection?`). If none applies the query is answered, whatever its text: every reader
answers what is not blank (`execute_of_not_blank`), since whatever the samples are asked leads to one of
the tables (`exists_routed_table`). Both endpoints follow this order (`posted_answersInOrder`).
-/

namespace RowQuery

/-! ## Readers -/

theorem Text.allBlank_iff (s : String) : Text.allBlank s = true ↔ Text.trimmed s = "" := by
  rw [Text.allBlank, List.all_eq_true, ← Text.trim_eq_nil_iff, Text.trimmed, ← String.toList_inj, String.toList_ofList]
  rfl

/-- Whatever words are looked for and found, or not found, they ask for a table that is there. -/
theorem Samples.exists_routed_table (query : String) : ∃ table, Samples.table? (Samples.route query) = some table := by
  have named : Samples.route query ∈ Samples.names := by
    rw [Samples.route]
    split
    next words table found =>
      have among := List.mem_of_find?_eq_some found
      have all : ∀ entry ∈ Samples.keywords, entry.2 ∈ Samples.names := by decide
      exact all _ among
    next => exact List.mem_cons_self
  have all : ∀ name ∈ Samples.names, (Samples.table? name).isSome = true := by
    simp [Samples.names, Samples.table?]
  exact Option.isSome_iff_exists.mp (all _ named)

namespace Reader

theorem execute_of_blank (reader : Reader) {query : String} (blank : Text.trimmed query = "") :
    reader.execute query = .error (.validation "Query is empty") :=
  if_pos ((Text.allBlank_iff query).mpr blank)

/-- A query that is not blank is answered by every reader. -/
theorem execute_of_not_blank (reader : Reader) {query : String} (notBlank : Text.trimmed query ≠ "") :
    ∃ table, reader.execute query = .ok table := by
  have some : ¬Text.allBlank query = true := fun blank => notBlank ((Text.allBlank_iff query).mp blank)
  cases reader with
  | file dataset => exact ⟨_, if_neg some⟩
  | sample =>
    obtain ⟨table, found⟩ := Samples.exists_routed_table query
    refine ⟨table, ?_⟩
    simp only [execute, if_neg some, found]

end Reader

namespace Service

/-! ## Reasons -/

/-- The id that a query names, if no session is live under it. -/
def QueryRequest.stray? (request : QueryRequest) (store : Store) : Option String :=
  request.sessionId.filter fun id => !store.has id

/-- The data set that is held for the session that a query names. -/
def QueryRequest.held? (request : QueryRequest) (store : Store) : Option Dataset :=
  request.sessionId.bind fun id => (store.sessions.get? id).bind Session.dataset

/-- Why a query is refused: the first of the reasons that apply. Over a file, the session and its data set are
looked at before the query; over the samples, the query before the session. -/
def QueryRequest.objection? (request : QueryRequest) (store : Store) : Option Refusal :=
  match request.source, request.stray? store, request.held? store, decide (Text.trimmed request.query = "") with
  | .file, some id, _, _ => some (.noSession id)
  | .file, none, none, _ => some .noData
  | _, _, _, true => some .blankQuery
  | .sample, some id, _, _ => some (.noSession id)
  | _, _, _, _ => none

/-- A result, or a failure after which a client is refused for a reason. -/
def Meets {α : Type} (result : Except Failure α) : Option Refusal → Prop
  | some refusal => ∃ failure, result = .error failure ∧ refusalOf failure = refusal
  | none => ∃ value, result = .ok value

section
variable {request : QueryRequest} {store : Store} {id : String}

theorem objection?_of_samples (overSamples : request.source = .sample) :
    request.objection? store =
      if Text.trimmed request.query = "" then some .blankQuery
      else (request.stray? store).map .noSession := by
  rw [QueryRequest.objection?, overSamples]
  by_cases blank : Text.trimmed request.query = ""
  · simp [blank]
  · cases request.stray? store <;> simp [blank]

theorem stray?_of_absent (named : request.sessionId = some id) (absent : store.sessions.get? id = none) :
    request.stray? store = some id := by
  simp [QueryRequest.stray?, named, Store.has, Keyed.has, absent]

theorem stray?_of_live (named : request.sessionId = some id) {session : Session}
    (live : store.sessions.get? id = some session) : request.stray? store = none := by
  simp [QueryRequest.stray?, named, Store.has, Keyed.has, live]

theorem held?_of_live (named : request.sessionId = some id) {session : Session}
    (live : store.sessions.get? id = some session) : request.held? store = session.dataset := by
  simp [QueryRequest.held?, named, live]

theorem recordable_eq (request : QueryRequest) (store : Store) :
    request.recordable store.holdings =
      match request.stray? store with
      | some id => .error (.sessionNotFound id)
      | none => .ok () := by
  cases named : request.sessionId with
  | none => simp [QueryRequest.recordable, QueryRequest.stray?, named]
  | some id =>
    cases live : store.sessions.get? id with
    | none =>
      rw [stray?_of_absent named live, QueryRequest.recordable, named]
      simp [Store.get?_holdings, live]
    | some session =>
      rw [stray?_of_live named live, QueryRequest.recordable, named]
      simp [Store.get?_holdings, live]

theorem meets_overSamples (overSamples : request.source = .sample) :
    Meets (request.result store.holdings) (request.objection? store) := by
  have input : request.input store.holdings = .ok none := by rw [QueryRequest.input, overSamples]
  have answered : answer request none = Reader.sample.execute request.query := by
    rw [answer, overSamples]
    rfl
  rw [QueryRequest.result, input, objection?_of_samples overSamples]
  dsimp only
  rw [answered]
  by_cases blank : Text.trimmed request.query = ""
  · rw [Reader.sample.execute_of_blank blank, if_pos blank]
    exact ⟨_, rfl, rfl⟩
  · obtain ⟨table, found⟩ := Reader.sample.execute_of_not_blank blank
    rw [found, if_neg blank, recordable_eq]
    cases request.stray? store with
    | none => exact ⟨table, rfl⟩
    | some id => exact ⟨_, rfl, rfl⟩

theorem meets_overFile (overFile : request.source = .file) :
    Meets (request.result store.holdings) (request.objection? store) := by
  cases named : request.sessionId with
  | none =>
    have input : request.input store.holdings = .ok none := by rw [QueryRequest.input, overFile, named]
    have objection : request.objection? store = some .noData := by
      simp [QueryRequest.objection?, overFile, QueryRequest.stray?, QueryRequest.held?, named]
    rw [objection, QueryRequest.result, input]
    simp only [answer, overFile]
    exact ⟨_, rfl, rfl⟩
  | some id =>
    cases live : store.sessions.get? id with
    | none =>
      have absent : store.holdings.get? id = none := by rw [Store.get?_holdings, live]; rfl
      have objection : request.objection? store = some (.noSession id) := by
        rw [QueryRequest.objection?, overFile, stray?_of_absent named live]
      rw [objection, QueryRequest.result, QueryRequest.input, overFile, named]
      simp only [absent]
      exact ⟨_, rfl, rfl⟩
    | some session =>
      have held : store.holdings.get? id = some session.holding := by rw [Store.get?_holdings, live]; rfl
      rw [result_of_live overFile named held, answer, overFile, QueryRequest.objection?, overFile,
        stray?_of_live named live, held?_of_live named live, Session.holding]
      cases session.dataset with
      | none => exact ⟨_, rfl, rfl⟩
      | some dataset =>
        simp only [Reader.ofSource]
        by_cases blank : Text.trimmed request.query = ""
        · rw [(Reader.file dataset).execute_of_blank blank]
          simp only [blank]
          exact ⟨_, rfl, rfl⟩
        · simp only [blank]
          exact (Reader.file dataset).execute_of_not_blank blank

end

/-- A query comes to a result unless there is something wrong with it, and to what is wrong if there is. -/
theorem meets_objection (request : QueryRequest) (store : Store) :
    Meets (request.result store.holdings) (request.objection? store) := by
  cases source : request.source with
  | sample => exact meets_overSamples source
  | file => exact meets_overFile source

/-! ## Responses -/

/-- A response that tells a client why it is refused, if there is a reason, and has status 200 otherwise. It never
blames the service. -/
structure AnswersInOrder (objection : Option Refusal) (response : Http.Response) : Prop where
  refused : ∀ refusal, objection = some refusal → Refuses refusal response
  answered : objection = none → response.status = 200
  blameless : response.status = 200 ∨ response.status = 400 ∨ response.status = 404

theorem status_objection {request : QueryRequest} {store : Store} {refusal : Refusal}
    (objection : request.objection? store = some refusal) : refusal.status = 400 ∨ refusal.status = 404 := by
  rw [QueryRequest.objection?] at objection
  split at objection <;> cases objection
  · exact .inr rfl
  · exact .inl rfl
  · exact .inl rfl
  · exact .inr rfl

theorem answersInOrder_of_meets {request : QueryRequest} {store : Store} {result : Except Failure Table}
    (meets : Meets result (request.objection? store)) (tell : Table → Reply) :
    AnswersInOrder (request.objection? store) (responseTo tell result) := by
  cases objection : request.objection? store with
  | none =>
    rw [objection] at meets
    obtain ⟨table, rfl⟩ := meets
    have status : (responseTo tell (.ok table)).status = 200 := status_reply (tell table)
    exact ⟨nofun, fun _ => status, .inl status⟩
  | some refusal =>
    rw [objection] at meets
    obtain ⟨failure, rfl, rfl⟩ := meets
    have refuses : Refuses (refusalOf failure) (responseTo tell (.error failure)) := refuses_failureResponse failure
    refine ⟨?_, nofun, .inr ?_⟩
    · rintro _ ⟨⟩
      exact refuses
    · rw [refuses.status]
      exact status_objection objection

/-- Whatever the sessions are, every query that is posted is answered by both endpoints in the same order: it
is refused for the first reason that applies, and answered if none does. -/
theorem posted_answersInOrder (settings : Settings) (moment : Moment) (store : Store) (contentType : Option String)
    (body : List UInt8) {request : QueryRequest}
    (given : queryPosted settings.bodyLimit contentType body = .ok request) :
    AnswersInOrder (request.objection? store)
        (respond settings moment store (posted "/api/v1/query" contentType body)).1 ∧
      AnswersInOrder (request.objection? store)
        (respond settings moment store (posted "/api/v1/export" contentType body)).1 := by
  have query := route_query settings.bodyLimit contentType body
  have exports := route_export settings.bodyLimit contentType body
  rw [given] at query exports
  have meets := meets_objection request store
  constructor
  · obtain ⟨_, told, _⟩ := respondToCall_told settings moment store (.runQuery request) rfl
    rw [respond_posted_of_ok settings moment store query, told]
    exact answersInOrder_of_meets meets _
  · obtain ⟨_, told, _⟩ := respondToCall_told settings moment store (.exportQuery request) rfl
    rw [respond_posted_of_ok settings moment store exports, told]
    exact answersInOrder_of_meets meets _

/-- A blank query over the samples, for a session that is not live. -/
def blankBody : List UInt8 :=
  Text.Utf8.encode "\x7b\"query\":\"\\t \",\"sessionId\":\"00000000000f\"\x7d"

/-- That it is blank is noticed first. -/
theorem posted_answersInOrder_blankBody :
    let answer := (respond smallSettings (momentOf "00000000000b") filledStore
      (posted "/api/v1/query" (some "application/json") blankBody)).1
    let file := (respond smallSettings (momentOf "00000000000b") filledStore
      (posted "/api/v1/export" (some "application/json") blankBody)).1
    AnswersInOrder (some .blankQuery) answer ∧ AnswersInOrder (some .blankQuery) file ∧
      answer.body = "\x7b\"status\":\"error\",\"error\":\x7b\"message\":\"Validation error: Query is empty\"," ++
        "\"type\":\"ValidationError\"\x7d\x7d" := by
  have given : queryPosted smallSettings.bodyLimit (some "application/json") blankBody =
      .ok ⟨"\t ", .sample, some "00000000000f", .csv⟩ := by rfl
  have objection : QueryRequest.objection? ⟨"\t ", .sample, some "00000000000f", .csv⟩ filledStore =
      some .blankQuery := by decide
  have both := posted_answersInOrder smallSettings (momentOf "00000000000b") filledStore _ _ given
  rw [objection] at both
  exact ⟨both.1, both.2, by decide +kernel⟩

end Service

end RowQuery
