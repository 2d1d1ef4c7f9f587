import RowQuery.Proofs.Holdings
import RowQuery.Service.Respond

/-!
# What requests leave behind

A request is either answered or not, and its status tells which. One that is not answered leaves
what is held for the clients as it was, and so does one that only reads
(`holdings_respond`). This is shown for every state of the sessions, not only for those that
requests lead to.
-/

namespace RowQuery

/-- A response whose status tells of success. -/
def Http.Response.Succeeds (response : Http.Response) : Prop := 200 ≤ response.status ∧ response.status < 300

instance (response : Http.Response) : Decidable response.Succeeds := inferInstanceAs (Decidable (_ ∧ _))

namespace Service

/-! ## Statuses -/

theorem status_reply (reply : Reply) : reply.response.status = 200 := by
  cases reply <;> rfl

theorem status_failure (failure : Failure) : 400 ≤ (failureResponse failure).status := by
  change 400 ≤ statusOf failure
  unfold statusOf
  split <;> decide

theorem status_rejection (rejection : Rejection) : 400 ≤ rejection.response.status := by
  cases rejection with
  | methodNotAllowed allowed => exact Nat.le_add_right 400 5
  | _ => decide

/-! ## Answered and unanswered -/

section
variable (settings : Settings) (moment : Moment) (store : Store) (request : Http.Request)

/-- A request that is not answered leaves what was held. -/
structure Unanswered : Prop where
  status : 400 ≤ (respond settings moment store request).1.status
  left : (respond settings moment store request).2.holdings = store.holdings

/-- A request that is answered leaves what its call leaves. -/
structure Answered (call : Call) : Prop where
  routed : route settings.bodyLimit request = .ok call
  status : (respond settings moment store request).1.status = 200
  left : (respond settings moment store request).2.holdings = call.leaves settings moment store.holdings

theorem respond_of_error {rejection : Rejection}
    (refused : route settings.bodyLimit request = .error rejection) :
    (respond settings moment store request).1.status = rejection.response.status ∧
      (respond settings moment store request).2 = store := by
  rw [respond, refused]
  by_cases head : request.method = "HEAD" <;> simp [head, withoutBody]

theorem respond_of_ok {call : Call} (routed : route settings.bodyLimit request = .ok call) :
    (respond settings moment store request).1.status = (respondToCall settings moment store call).1.status ∧
      (respond settings moment store request).2 = (respondToCall settings moment store call).2 := by
  rw [respond, routed]
  by_cases head : request.method = "HEAD" <;> simp [head, withoutBody]

variable {settings moment store request}

theorem respondToCall_of_ok {call : Call} {reply : Reply}
    (answered : (perform settings moment store call).1 = .ok reply) :
    (respondToCall settings moment store call).1 = reply.response := by
  rw [respondToCall]
  generalize perform settings moment store call = outcome at answered
  obtain ⟨result, after⟩ := outcome
  cases answered
  rfl

theorem respondToCall_of_error {call : Call} {failure : Failure}
    (failed : (perform settings moment store call).1 = .error failure) :
    (respondToCall settings moment store call).1 = failureResponse failure := by
  rw [respondToCall]
  generalize perform settings moment store call = outcome at failed
  obtain ⟨result, after⟩ := outcome
  cases failed
  rfl

theorem respond_of_not_head {call : Call} (routed : route settings.bodyLimit request = .ok call)
    (notHead : request.method ≠ "HEAD") :
    (respond settings moment store request).1 = (respondToCall settings moment store call).1 := by
  rw [respond, routed]
  exact if_neg notHead

variable (settings moment store request)

/-- Every request is answered or not. -/
theorem respond_cases : Unanswered settings moment store request ∨
    ∃ call, Answered settings moment store request call := by
  cases routed : route settings.bodyLimit request with
  | error rejection =>
    obtain ⟨status, same⟩ := respond_of_error settings moment store request routed
    exact .inl ⟨status ▸ status_rejection rejection, congrArg Store.holdings same⟩
  | ok call =>
    obtain ⟨status, same⟩ := respond_of_ok settings moment store request routed
    have leaves := perform_leaves settings moment store call
    rw [respondToCall] at status same
    generalize perform settings moment store call = outcome at status same leaves
    cases leaves with
    | failed left => exact .inl ⟨status ▸ status_failure _, (congrArg Store.holdings same).trans left⟩
    | answered left =>
      exact .inr ⟨call, routed, status.trans (status_reply _), (congrArg Store.holdings same).trans left⟩

end

/-! ## Reading -/

/-- A call that leaves everything as it was, answered or not. -/
inductive Call.Reads : Call → Prop
  | welcome : Reads .welcome
  | health : Reads .health
  | version : Reads .version
  | examples : Reads .examples
  | describeSession (id : String) : Reads (.describeSession id)
  | listHistory (id : String) : Reads (.listHistory id)
  | listSaved (id : String) : Reads (.listSaved id)
  | parseQuery (query : String) : Reads (.parseQuery query)
  | runQuery {request : QueryRequest} (unnamed : request.sessionId = none) : Reads (.runQuery request)
  | exportQuery {request : QueryRequest} (unnamed : request.sessionId = none) : Reads (.exportQuery request)

theorem leaves_of_reads {call : Call} (reads : call.Reads) (settings : Settings) (moment : Moment)
    (holdings : Keyed Holding) : call.leaves settings moment holdings = holdings := by
  cases reads with
  | runQuery unnamed => rw [Call.leaves, QueryRequest.leaves, unnamed]
  | exportQuery unnamed => rw [Call.leaves, QueryRequest.leaves, unnamed]
  | _ => rfl

/-- A request that asks for nothing to be changed: one that gets, one that has a query parsed, and one
that runs a query for no session. -/
inductive OnlyReads (limit : Nat) (request : Http.Request) : Prop
  | gets (method : request.method = "GET" ∨ request.method = "HEAD")
  | parses (path : Http.pathOf request.target = "/api/v1/parse".toList)
  | runs (path : Http.pathOf request.target = "/api/v1/query".toList ∨
        Http.pathOf request.target = "/api/v1/export".toList)
      (unnamed : ∀ record, recordOf limit queryFields request = .ok record →
        (queryRequestOf record).sessionId = none)

theorem exists_of_map {α β : Type} {decoded : Decoded α} {f : α → β} {result : β}
    (done : decoded.map f = .ok result) : ∃ value, decoded = .ok value ∧ f value = result := by
  cases decoded with
  | error rejection => cases done
  | ok value =>
    cases done
    exact ⟨value, rfl, rfl⟩

/-- Whether a resource allows a method. -/
def Resource.allows (resource : Resource) (method : String) : Bool :=
  (resource.allowed.toList.splitOn ',').contains method.toList

theorem not_allows_get {resource : Resource} (posted : resource.allowed = "POST" ∨ resource.allowed = "DELETE")
    {method : String} (gets : method = "GET" ∨ method = "HEAD") : resource.allows method = false := by
  rw [Resource.allows]
  rcases posted with posted | posted <;> rcases gets with rfl | rfl <;> rw [posted] <;> decide

theorem callOf_gets {limit : Nat} {request : Http.Request} (gets : request.method = "GET" ∨ request.method = "HEAD")
    {resource : Resource} (allowed : resource.allows request.method = true) {call : Call}
    (called : callOf limit request resource = .ok call) : call.Reads := by
  have notDelete : request.method ≠ "DELETE" := by
    rcases gets with same | same <;> rw [same] <;> decide
  have notPost : request.method ≠ "POST" := by
    rcases gets with same | same <;> rw [same] <;> decide
  have refused (posted : resource.allowed = "POST" ∨ resource.allowed = "DELETE") : False := by
    rw [not_allows_get posted gets] at allowed
    cases allowed
  cases resource with
  | root => cases called; exact .welcome
  | health => cases called; exact .health
  | version => cases called; exact .version
  | queries => cases called; exact .examples
  | session id =>
    obtain ⟨id, _, rfl⟩ := exists_of_map called
    rw [if_neg notDelete]
    exact .describeSession id
  | history id =>
    obtain ⟨id, _, rfl⟩ := exists_of_map called
    exact .listHistory id
  | saved id =>
    rw [callOf] at called
    split at called
    · cases called
    next id _ =>
      rw [if_neg notPost] at called
      cases called
      exact .listSaved id
  | dataset id => exact (refused (.inr rfl)).elim
  | sessions | upload _ | query | parse | exports => exact (refused (.inl rfl)).elim

theorem ofPath_parse : Resource.ofPath "/api/v1/parse".toList = some .parse := by decide

theorem ofPath_query : Resource.ofPath "/api/v1/query".toList = some .query := by decide

theorem ofPath_export : Resource.ofPath "/api/v1/export".toList = some .exports := by decide

/-- What is routed is a call on a resource that allows the method. -/
theorem route_ok {limit : Nat} {request : Http.Request} {call : Call} (routed : route limit request = .ok call) :
    ∃ resource, Resource.ofPath (Http.pathOf request.target) = some resource ∧
      resource.allows request.method = true ∧ callOf limit request resource = .ok call := by
  rw [route] at routed
  split at routed
  · cases routed
  next resource found =>
    split at routed
    next allowed => exact ⟨resource, found, allowed, routed⟩
    next => cases routed

/-- A request that only reads makes a call that only reads. -/
theorem reads_of_onlyReads {limit : Nat} {request : Http.Request} (quiet : OnlyReads limit request) {call : Call}
    (routed : route limit request = .ok call) : call.Reads := by
  obtain ⟨resource, found, allowed, called⟩ := route_ok routed
  cases quiet with
  | gets method => exact callOf_gets method allowed called
  | parses path =>
    rw [path, ofPath_parse] at found
    cases found
    obtain ⟨record, _, rfl⟩ := exists_of_map called
    exact .parseQuery _
  | runs path unnamed =>
    rcases path with path | path
    · rw [path, ofPath_query] at found
      cases found
      obtain ⟨record, given, rfl⟩ := exists_of_map called
      exact .runQuery (unnamed record given)
    · rw [path, ofPath_export] at found
      cases found
      obtain ⟨record, given, rfl⟩ := exists_of_map called
      exact .exportQuery (unnamed record given)

/-- A request for anything but reading is answered with all that its call answers. -/
theorem respond_of_not_reads {settings : Settings} {moment : Moment} {store : Store} {request : Http.Request}
    {call : Call} (routed : route settings.bodyLimit request = .ok call) (writes : ¬call.Reads) :
    respond settings moment store request = respondToCall settings moment store call := by
  have notHead : request.method ≠ "HEAD" := fun head =>
    writes (reads_of_onlyReads (.gets (.inr head)) routed)
  exact Prod.ext (respond_of_not_head routed notHead) (respond_of_ok settings moment store request routed).2

/-- A request that is not answered with success, or that only reads, changes nothing: the same ids are
live, each with the same data set, history and saved queries. -/
theorem holdings_respond (settings : Settings) (moment : Moment) (store : Store) (request : Http.Request)
    (quiet : ¬(respond settings moment store request).1.Succeeds ∨ OnlyReads settings.bodyLimit request) :
    (respond settings moment store request).2.holdings = store.holdings := by
  rcases respond_cases settings moment store request with unanswered | ⟨call, answered⟩
  · exact unanswered.left
  · rcases quiet with failed | reads
    · have succeeds : (respond settings moment store request).1.Succeeds := by
        rw [Http.Response.Succeeds, answered.status]
        decide
      exact absurd succeeds failed
    · rw [answered.left]
      exact leaves_of_reads (reads_of_onlyReads reads answered.routed) settings moment store.holdings

/-- One session that holds a file and a query that ran over it. -/
def filledStore : Store :=
  let file : Dataset := ⟨⟨["n"], [[("n", .string "1")]]⟩, "n.csv"⟩
  ⟨1800, [("00000000000a", ⟨some file, [⟨"select n", "2024-01-01T08:00:00Z"⟩], [("all", "select n")], 0⟩)]⟩

/-- An upload to that session of a file that has no rows. -/
def emptyUpload : Http.Request := ⟨"POST", "/api/v1/sessions/00000000000a/upload?filename=n.csv", none, [0x6E]⟩

/-- A service that takes small bodies and has no file to begin with. -/
def smallSettings : Settings := ⟨100, 1000, none⟩

/-- A moment at which an id is fresh. -/
def momentOf (freshId : String) : Moment := ⟨60, "2024-01-01T09:00:00Z", .int 0, freshId⟩

theorem holdings_respond_emptyUpload :
    (respond smallSettings (momentOf "00000000000b") filledStore emptyUpload).2.holdings = filledStore.holdings := by
  have failed : ¬(respond smallSettings (momentOf "00000000000b") filledStore emptyUpload).1.Succeeds := by
    decide +kernel
  exact holdings_respond smallSettings (momentOf "00000000000b") filledStore emptyUpload (.inl failed)

end Service

end RowQuery
