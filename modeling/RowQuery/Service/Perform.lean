import RowQuery.File.Load
import RowQuery.Service.Call
import RowQuery.Session.Store

/-!
# Performing calls

What each call does to the sessions and what it answers. A call either answers or fails; what had
been done to the sessions before a failure stays done, and that is never more than marking a session
as used.
-/

namespace RowQuery.Service

/-- How the service is set up: the most rows that a query answers with, zero for no limit, how many
octets a body may have, and the data set that every new session begins with. -/
structure Settings where
  maxRows : Nat
  bodyLimit : Nat
  initial : Option Dataset

/-- What the service takes from its surroundings for one call: the reading of the clock, the date
and time in words, the time that the query took in milliseconds, and an id that no session has. -/
structure Moment where
  clock : Nat
  timestamp : String
  elapsed : Number
  freshId : String

/-- What a call answers. -/
inductive Reply where
  | welcome
  | health (sessions : Nat)
  | version
  | examples
  | created (id : String)
  | session (id : String) (session : Session)
  | removed (happened : Bool)
  | loaded (dataset : Dataset)
  | history (entries : List HistoryEntry)
  | saved (queries : Keyed String)
  | rows (limited : Limited) (elapsed : Number)
  | parsed (query : Query)
  | file (format : ExportFormat) (table : Table)

/-- What a call comes to: an answer or a failure, and the sessions afterwards. -/
abbrev Outcome (α : Type) := Except Failure α × Store

/-- A step that either fails and leaves the sessions as they are, or goes on. -/
def andThen {α β : Type} (store : Store) (step : Except Failure (α × Store))
    (next : α → Store → Outcome β) : Outcome β :=
  match step with
  | .error failure => (.error failure, store)
  | .ok (value, store) => next value store

/-- An outcome whose answer is put in other terms. -/
def told {α β : Type} (tell : α → β) (outcome : Outcome α) : Outcome β :=
  (outcome.1.map tell, outcome.2)

/-- The data set that a query runs over: that of the session, if the query runs over a file and
names one. -/
def datasetFor (store : Store) (now : Nat) (request : QueryRequest) :
    Except Failure (Option Dataset × Store) :=
  match request.source, request.sessionId with
  | .file, some id => store.dataset id now
  | _, _ => .ok (none, store)

/-- The answer of a query over a data set. -/
def answer (request : QueryRequest) (dataset : Option Dataset) : Except Failure Table :=
  match Reader.ofSource request.source dataset with
  | .error failure => .error failure
  | .ok reader => reader.execute request.query

/-- The history of the session that a query names, if it names one, after the query ran. -/
def remember (store : Store) (moment : Moment) (request : QueryRequest) : Except Failure Store :=
  match request.sessionId with
  | none => .ok store
  | some id => store.record id moment.clock ⟨request.query, moment.timestamp⟩

/-- Runs a query and records it. -/
def run (store : Store) (moment : Moment) (request : QueryRequest) : Outcome Table :=
  andThen store (datasetFor store moment.clock request) fun dataset store =>
    match answer request dataset with
    | .error failure => (.error failure, store)
    | .ok table =>
      match remember store moment request with
      | .error failure => (.error failure, store)
      | .ok store => (.ok table, store)

/-- Begins a session, with the data set that every session begins with. -/
def create (settings : Settings) (store : Store) (moment : Moment) : Outcome Reply :=
  let store := store.create moment.freshId moment.clock
  match settings.initial with
  | none => (.ok (.created moment.freshId), store)
  | some dataset =>
    match store.replaceDataset moment.freshId moment.clock dataset with
    | .error failure => (.error failure, store)
    | .ok store => (.ok (.created moment.freshId), store)

/-- Ends a session. -/
def delete (store : Store) (id : String) : Outcome Reply :=
  match store.delete id with
  | (true, store) => (.ok (.removed true), store)
  | (false, _) => (.error (.sessionNotFound id), store)

/-- Loads a file into a session. The file is looked at only if the session is live. -/
def upload (store : Store) (moment : Moment) (id fileName : String) (octets : List UInt8) :
    Outcome Reply :=
  if !store.has id then (.error (.sessionNotFound id), store)
  else
    match File.load fileName octets with
    | .error failure => (.error failure, store)
    | .ok dataset =>
      match store.replaceDataset id moment.clock dataset with
      | .error failure => (.error failure, store)
      | .ok store => (.ok (.loaded dataset), store)

/-- Saves a query and lists what is saved. -/
def save (store : Store) (moment : Moment) (id name query : String) : Outcome Reply :=
  match store.save id moment.clock name query with
  | .error failure => (.error failure, store)
  | .ok store =>
    andThen store (store.saved id moment.clock) fun queries store => (.ok (.saved queries), store)

/-- What a call answers and does to the sessions. -/
def perform (settings : Settings) (moment : Moment) (store : Store) : Call → Outcome Reply
  | .welcome => (.ok .welcome, store)
  | .health => (.ok (.health store.count), store)
  | .version => (.ok .version, store)
  | .examples => (.ok .examples, store)
  | .createSession => create settings store moment
  | .describeSession id =>
    andThen store (store.session id moment.clock) fun session store =>
      (.ok (.session id session), store)
  | .deleteSession id => delete store id
  | .upload id fileName octets => upload store moment id fileName octets
  | .clearDataset id =>
    andThen store (store.clearDataset id moment.clock) fun happened store =>
      (.ok (.removed happened), store)
  | .listHistory id =>
    andThen store (store.history id moment.clock) fun entries store =>
      (.ok (.history entries), store)
  | .listSaved id =>
    andThen store (store.saved id moment.clock) fun queries store => (.ok (.saved queries), store)
  | .saveQuery id name query => save store moment id name query
  | .runQuery request =>
    told (fun table => .rows (table.limit settings.maxRows) moment.elapsed) (run store moment request)
  | .exportQuery request => told (.file request.format) (run store moment request)
  | .parseQuery query => (.ok (.parsed (Query.parse query)), store)

end RowQuery.Service
