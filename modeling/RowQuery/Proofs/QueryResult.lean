import RowQuery.Proofs.Holdings

/-!
# The result of a query

What a query comes to depends only on what is held for the clients: on the data set of the session
that is named, if its file is asked for, and on whether that session is live. Running it comes to
that result and to what is held after it (`run_eq`), whichever way the result is then told.
-/

namespace RowQuery.Service

/-- The data set that a query runs over. -/
def QueryRequest.input (request : QueryRequest) (holdings : Keyed Holding) : Except Failure (Option Dataset) :=
  match request.source, request.sessionId with
  | .file, some id =>
    match holdings.get? id with
    | some held => .ok held.dataset
    | none => .error (.sessionNotFound id)
  | _, _ => .ok none

/-- Whether a query that ran can come into a history, if it has to. -/
def QueryRequest.recordable (request : QueryRequest) (holdings : Keyed Holding) : Except Failure Unit :=
  match request.sessionId with
  | some id => if (holdings.get? id).isSome then .ok () else .error (.sessionNotFound id)
  | none => .ok ()

/-- The result of a query. That a session is not live is noticed before the query runs only where
its file is asked for. -/
def QueryRequest.result (request : QueryRequest) (holdings : Keyed Holding) : Except Failure Table :=
  match request.input holdings with
  | .error failure => .error failure
  | .ok dataset =>
    match answer request dataset with
    | .error failure => .error failure
    | .ok table => (request.recordable holdings).map fun _ => table

/-- What is held after a query: what it leaves behind if it has a result, and otherwise what was held
before. -/
def QueryRequest.after (request : QueryRequest) (moment : Moment) (holdings : Keyed Holding) : Keyed Holding :=
  match request.result holdings with
  | .ok _ => request.leaves moment holdings
  | .error _ => holdings

/-- Over the file of a live session, the result is the answer over the data set that is held. -/
theorem result_of_live {request : QueryRequest} (overFile : request.source = .file) {id : String}
    (session : request.sessionId = some id) {holdings : Keyed Holding} {held : Holding}
    (live : holdings.get? id = some held) : request.result holdings = answer request held.dataset := by
  have input : request.input holdings = .ok held.dataset := by
    rw [QueryRequest.input, overFile, session]
    simp only [live]
  have recordable : request.recordable holdings = .ok () := by
    rw [QueryRequest.recordable, session]
    simp only [live]
    rfl
  rw [QueryRequest.result, input, recordable]
  dsimp only
  cases answer request held.dataset with
  | error failure => rfl
  | ok table => rfl

section
variable (store : Store) (moment : Moment) (request : QueryRequest)

theorem datasetFor_input (now : Nat) :
    (datasetFor store now request).map Prod.fst = request.input store.holdings := by
  rw [datasetFor, QueryRequest.input]
  cases request.source with
  | sample => rfl
  | file =>
    cases request.sessionId with
    | none => rfl
    | some id =>
      dsimp only
      cases live : store.holdings.get? id with
      | none =>
        rw [Store.dataset, Store.view_of_absent live]
        rfl
      | some held =>
        obtain ⟨found, viewed, view, rfl, _⟩ := Store.view_of_live live now Session.dataset
        rw [Store.dataset, view]
        rfl

theorem remember_recordable :
    (remember store moment request).map (fun _ => ()) = request.recordable store.holdings := by
  rw [remember, QueryRequest.recordable]
  cases request.sessionId with
  | none => rfl
  | some id =>
    dsimp only
    cases live : store.holdings.get? id with
    | none =>
      rw [Store.record, Store.update_of_absent live]
      rfl
    | some held =>
      obtain ⟨after, recorded, _⟩ := Store.record_of_live live moment.clock ⟨request.query, moment.timestamp⟩
      rw [recorded]
      rfl

theorem run_result : (run store moment request).1 = request.result store.holdings := by
  have input := datasetFor_input store request moment.clock
  rw [run, QueryRequest.result, ← input]
  cases found : datasetFor store moment.clock request with
  | error failure => rfl
  | ok pair =>
    obtain ⟨dataset, viewed⟩ := pair
    have recordable := remember_recordable viewed moment request
    rw [datasetFor_holdings store found] at recordable
    simp only [andThen, Except.map]
    cases answer request dataset with
    | error failure => rfl
    | ok table =>
      rw [← recordable]
      cases remember viewed moment request with
      | error failure => rfl
      | ok after => rfl

/-- A query comes to its result, and comes into a history only if it has one. -/
theorem run_eq : ∃ left, run store moment request = (request.result store.holdings, left) ∧
    left.holdings = request.after moment store.holdings := by
  have result := run_result store moment request
  have leaves := run_leaves moment store request
  generalize run store moment request = outcome at result leaves ⊢
  rw [QueryRequest.after, ← result]
  cases leaves with
  | answered left => exact ⟨_, rfl, left⟩
  | failed left => exact ⟨_, rfl, left⟩

end

end RowQuery.Service
