import RowQuery.Proofs.Keyed
import RowQuery.Service.Perform

/-!
# What is held for each client

The contents of the sessions, without the times at which they were last used. Each operation of the
store is described by what it does to them, for an id that is live and for one that is not. From
that it follows what a call leaves behind: nothing new if it fails, and otherwise what
`Call.leaves` says (`perform_leaves`).
-/

namespace RowQuery

/-- What is kept for one client, apart from when it was last used. -/
structure Holding where
  dataset : Option Dataset
  history : List HistoryEntry
  saved : Keyed String

/-- The contents with a query put in front of the history. -/
def Holding.record (held : Holding) (entry : HistoryEntry) : Holding :=
  { held with history := (entry :: held.history).take Session.historyLimit }

/-- The queries in the history. -/
def Holding.queries (held : Holding) : List String := held.history.map HistoryEntry.query

theorem queries_record (held : Holding) (entry : HistoryEntry) :
    (held.record entry).queries = (entry.query :: held.queries).take Session.historyLimit := by
  rw [Holding.queries, Holding.record, List.map_take, List.map_cons]
  rfl

/-- The contents of a session. -/
def Session.holding (session : Session) : Holding := ⟨session.dataset, session.history, session.saved⟩

namespace Store

/-- The contents of all live sessions by id. -/
def holdings (store : Store) : Keyed Holding := store.sessions.mapValues Session.holding

variable {store : Store} {id : String} {held : Holding}

theorem get?_holdings (store : Store) (id : String) :
    store.holdings.get? id = (store.sessions.get? id).map Session.holding :=
  Keyed.get?_mapValues _ _ _

theorem has_eq (store : Store) (id : String) : store.has id = (store.holdings.get? id).isSome := by
  rw [has, Keyed.has, get?_holdings, Option.isSome_map]

/-- A live session is found, and finding it changes nothing in it. -/
theorem get_of_live (live : store.holdings.get? id = some held) (now : Nat) :
    ∃ session, store.get id now = .ok session ∧ session.holding = held := by
  rw [get?_holdings] at live
  obtain ⟨session, found, rfl⟩ := Option.map_eq_some_iff.mp live
  exact ⟨{ session with lastActivity := now }, by rw [get, found], rfl⟩

theorem get_of_absent (absent : store.holdings.get? id = none) (now : Nat) :
    store.get id now = .error (.sessionNotFound id) := by
  rw [get?_holdings] at absent
  rw [get, Option.map_eq_none_iff.mp absent]

theorem holdings_put (store : Store) (id : String) (session : Session) :
    holdings { store with sessions := store.sessions.put id session } =
      store.holdings.put id session.holding :=
  Keyed.mapValues_put _ _ _ _

/-- What is read from a live session leaves all contents as they are. -/
theorem view_of_live {α : Type} (live : store.holdings.get? id = some held) (now : Nat) (read : Session → α) :
    ∃ session after, store.view id now read = .ok (read session, after) ∧ session.holding = held ∧
      after.holdings = store.holdings := by
  obtain ⟨session, found, same⟩ := get_of_live live now
  refine ⟨session, _, by rw [view, found]; rfl, same, ?_⟩
  rw [holdings_put, same, Keyed.put_of_get? live]

theorem view_of_absent {α : Type} (absent : store.holdings.get? id = none) (now : Nat) (read : Session → α) :
    store.view id now read = .error (.sessionNotFound id) := by
  rw [view, get_of_absent absent]
  rfl

/-- A change of a live session changes its contents and no others. -/
theorem update_of_live (live : store.holdings.get? id = some held) (now : Nat) {change : Session → Session}
    {f : Holding → Holding} (effect : ∀ session, (change session).holding = f session.holding) :
    ∃ after, store.update id now change = .ok after ∧ after.holdings = store.holdings.change id f := by
  obtain ⟨session, found, same⟩ := get_of_live live now
  refine ⟨_, by rw [update, found]; rfl, ?_⟩
  rw [holdings_put, effect, same, Keyed.change_of_get? live]

theorem update_of_absent (absent : store.holdings.get? id = none) (now : Nat) (change : Session → Session) :
    store.update id now change = .error (.sessionNotFound id) := by
  rw [update, get_of_absent absent]
  rfl

theorem replaceDataset_of_live (live : store.holdings.get? id = some held) (now : Nat) (dataset : Dataset) :
    ∃ after, store.replaceDataset id now dataset = .ok after ∧
      after.holdings = store.holdings.change id fun held => { held with dataset := some dataset } :=
  update_of_live live now fun _ => rfl

theorem record_of_live (live : store.holdings.get? id = some held) (now : Nat) (entry : HistoryEntry) :
    ∃ after, store.record id now entry = .ok after ∧
      after.holdings = store.holdings.change id fun held => held.record entry :=
  update_of_live live now fun _ => rfl

theorem save_of_blank {name : String} (blank : Text.trimmed name = "") (id : String) (now : Nat) (query : String) :
    store.save id now name query = .error (.validation "Saved query name must not be empty") :=
  if_pos blank

theorem save_of_live (live : store.holdings.get? id = some held) (now : Nat) {name : String}
    (named : Text.trimmed name ≠ "") (query : String) :
    ∃ after, store.save id now name query = .ok after ∧ after.holdings =
      store.holdings.change id fun held => { held with saved := held.saved.put (Text.trimmed name) query } := by
  rw [save, if_neg named]
  exact update_of_live live now fun _ => rfl

theorem save_of_absent (absent : store.holdings.get? id = none) (now : Nat) {name : String}
    (named : Text.trimmed name ≠ "") (query : String) :
    store.save id now name query = .error (.sessionNotFound id) := by
  rw [save, if_neg named]
  exact update_of_absent absent now _

theorem clearDataset_of_live (live : store.holdings.get? id = some held) (now : Nat) :
    ∃ after, store.clearDataset id now = .ok (held.dataset.isSome, after) ∧
      after.holdings = store.holdings.change id fun held => { held with dataset := none } := by
  obtain ⟨session, found, rfl⟩ := get_of_live live now
  refine ⟨_, by rw [clearDataset, found]; rfl, ?_⟩
  rw [holdings_put, Keyed.change_of_get? live]
  rfl

theorem clearDataset_of_absent (absent : store.holdings.get? id = none) (now : Nat) :
    store.clearDataset id now = .error (.sessionNotFound id) := by
  rw [clearDataset, get_of_absent absent]
  rfl

theorem holdings_create (store : Store) (id : String) (now : Nat) :
    (store.create id now).holdings = store.holdings.put id ⟨none, [], []⟩ :=
  holdings_put store id (Session.begin now)

theorem holdings_delete (store : Store) (id : String) :
    (store.delete id).2.holdings = store.holdings.erase id :=
  Keyed.mapValues_erase _ _ _

end Store

namespace Service

/-- What a query leaves behind once it ran: it comes in front of the history of the session that is named. -/
def QueryRequest.leaves (request : QueryRequest) (moment : Moment) (holdings : Keyed Holding) : Keyed Holding :=
  match request.sessionId with
  | none => holdings
  | some id => holdings.change id fun held => held.record ⟨request.query, moment.timestamp⟩

/-- What a call leaves behind if it is answered. -/
def Call.leaves (settings : Settings) (moment : Moment) (holdings : Keyed Holding) : Call → Keyed Holding
  | .createSession => holdings.put moment.freshId ⟨settings.initial, [], []⟩
  | .deleteSession id => holdings.erase id
  | .upload id fileName octets =>
    match File.load fileName octets with
    | .ok dataset => holdings.change id fun held => { held with dataset := some dataset }
    | .error _ => holdings
  | .clearDataset id => holdings.change id fun held => { held with dataset := none }
  | .saveQuery id name query =>
    holdings.change id fun held => { held with saved := held.saved.put (Text.trimmed name) query }
  | .runQuery request | .exportQuery request => request.leaves moment holdings
  | _ => holdings

/-- An outcome leaves what was held before if it is a failure, and otherwise something after it. -/
inductive Leaves {α : Type} (before after : Keyed Holding) : Outcome α → Prop
  | answered {value : α} {store : Store} (left : store.holdings = after) : Leaves before after (.ok value, store)
  | failed {failure : Failure} {store : Store} (left : store.holdings = before) :
    Leaves before after (.error failure, store)

section
variable {α : Type} (settings : Settings) (moment : Moment) (store : Store)

/-- Telling what is in a session, if it is live, leaves everything as it is. -/
theorem view_leaves {β : Type} (id : String) (read : Session → β) (tell : β → α) :
    Leaves store.holdings store.holdings
      (andThen store (store.view id moment.clock read) fun value store => (.ok (tell value), store)) := by
  cases live : store.holdings.get? id with
  | none =>
    rw [Store.view_of_absent live]
    exact .failed rfl
  | some held =>
    obtain ⟨session, after, viewed, _, same⟩ := Store.view_of_live live moment.clock read
    rw [viewed]
    exact .answered same

/-- A session always begins. -/
theorem create_eq : ∃ after, create settings store moment = (.ok (.created moment.freshId), after) ∧
    after.holdings = store.holdings.put moment.freshId ⟨settings.initial, [], []⟩ := by
  have begun := Store.holdings_create store moment.freshId moment.clock
  rw [create]
  cases initial : settings.initial with
  | none => exact ⟨_, rfl, begun⟩
  | some dataset =>
    have live : (store.create moment.freshId moment.clock).holdings.get? moment.freshId =
        some ⟨none, [], []⟩ := by
      rw [begun, Keyed.get?_put_self]
    obtain ⟨after, replaced, same⟩ := Store.replaceDataset_of_live live moment.clock dataset
    simp only [replaced]
    exact ⟨after, rfl, by rw [same, Keyed.change_of_get? live, begun, Keyed.put_put]⟩

theorem create_leaves :
    Leaves store.holdings (store.holdings.put moment.freshId ⟨settings.initial, [], []⟩)
      (create settings store moment) := by
  obtain ⟨after, created, begun⟩ := create_eq settings moment store
  rw [created]
  exact .answered begun

theorem delete_leaves (id : String) :
    Leaves store.holdings (store.holdings.erase id) (delete store id) := by
  have erased := Store.holdings_delete store id
  rw [delete]
  rw [Store.delete] at erased ⊢
  cases store.has id with
  | true => exact .answered erased
  | false => exact .failed rfl

/-- A file that cannot be loaded is refused by a live session. -/
theorem upload_of_error {store : Store} {id fileName : String} {octets : List UInt8} {failure : Failure}
    (live : store.has id = true) (refused : File.load fileName octets = .error failure) :
    upload store moment id fileName octets = (.error failure, store) := by
  rw [upload, live, refused]
  rfl

/-- A file that can be loaded is held by a live session from then on. -/
theorem upload_of_ok {store : Store} {id fileName : String} {octets : List UInt8} {dataset : Dataset}
    (live : store.has id = true) (loaded : File.load fileName octets = .ok dataset) :
    ∃ after, upload store moment id fileName octets = (.ok (.loaded dataset), after) ∧
      after.holdings = store.holdings.change id fun held => { held with dataset := some dataset } := by
  rw [upload, live, loaded]
  rw [Store.has_eq, Option.isSome_iff_exists] at live
  obtain ⟨held, found⟩ := live
  obtain ⟨after, replaced, same⟩ := Store.replaceDataset_of_live found moment.clock dataset
  simp only [replaced]
  exact ⟨after, rfl, same⟩

theorem upload_leaves (id fileName : String) (octets : List UInt8) :
    Leaves store.holdings (Call.leaves settings moment store.holdings (.upload id fileName octets))
      (upload store moment id fileName octets) := by
  rw [Call.leaves]
  cases live : store.has id with
  | false =>
    rw [upload, live]
    exact .failed rfl
  | true =>
    cases loaded : File.load fileName octets with
    | error failure =>
      rw [upload_of_error moment live loaded]
      exact .failed rfl
    | ok dataset =>
      obtain ⟨after, uploaded, same⟩ := upload_of_ok moment live loaded
      rw [uploaded]
      exact .answered same

theorem clearDataset_leaves (id : String) :
    Leaves store.holdings (store.holdings.change id fun held => { held with dataset := none })
      (andThen store (store.clearDataset id moment.clock) fun happened store =>
        (.ok (Reply.removed happened), store)) := by
  cases live : store.holdings.get? id with
  | none =>
    rw [Store.clearDataset_of_absent live]
    exact .failed rfl
  | some held =>
    obtain ⟨after, cleared, same⟩ := Store.clearDataset_of_live live moment.clock
    rw [cleared]
    exact .answered same

theorem save_leaves (id name query : String) :
    Leaves store.holdings
      (store.holdings.change id fun held => { held with saved := held.saved.put (Text.trimmed name) query })
      (save store moment id name query) := by
  rw [save]
  by_cases blank : Text.trimmed name = ""
  · rw [Store.save_of_blank blank]
    exact .failed rfl
  · cases live : store.holdings.get? id with
    | none =>
      rw [Store.save_of_absent live _ blank]
      exact .failed rfl
    | some held =>
      obtain ⟨after, kept, same⟩ := Store.save_of_live live moment.clock blank query
      -- Listing what is saved cannot fail any more: the session is still live.
      have still : after.holdings.get? id = some { held with saved := held.saved.put (Text.trimmed name) query } := by
        rw [same, Keyed.get?_change, if_pos rfl, live]
        rfl
      obtain ⟨session, final, listed, _, unchanged⟩ := Store.view_of_live still moment.clock Session.saved
      simp only [kept, Store.saved, listed, andThen]
      exact .answered (unchanged.trans same)

theorem datasetFor_holdings {now : Nat} {request : QueryRequest} {dataset : Option Dataset} {after : Store}
    (found : datasetFor store now request = .ok (dataset, after)) : after.holdings = store.holdings := by
  rw [datasetFor] at found
  split at found
  next id _ _ =>
    cases live : store.holdings.get? id with
    | none =>
      rw [Store.dataset, Store.view_of_absent live] at found
      cases found
    | some held =>
      obtain ⟨session, same, viewed, _, unchanged⟩ := Store.view_of_live live now Session.dataset
      rw [Store.dataset, viewed] at found
      cases found
      exact unchanged
  next =>
    cases found
    rfl

theorem remember_holdings {request : QueryRequest} {after : Store}
    (remembered : remember store moment request = .ok after) :
    after.holdings = request.leaves moment store.holdings := by
  rw [QueryRequest.leaves]
  cases session : request.sessionId with
  | none =>
    simp only [remember, session] at remembered
    cases remembered
    rfl
  | some id =>
    simp only [remember, session] at remembered
    cases live : store.holdings.get? id with
    | none =>
      rw [Store.record, Store.update_of_absent live] at remembered
      cases remembered
    | some held =>
      obtain ⟨final, recorded, same⟩ := Store.record_of_live live moment.clock ⟨request.query, moment.timestamp⟩
      rw [recorded] at remembered
      cases remembered
      exact same

theorem run_leaves (request : QueryRequest) :
    Leaves store.holdings (request.leaves moment store.holdings) (run store moment request) := by
  rw [run]
  cases found : datasetFor store moment.clock request with
  | error failure => exact .failed rfl
  | ok pair =>
    obtain ⟨dataset, viewed⟩ := pair
    have same := datasetFor_holdings store found
    rw [andThen]
    cases answered : answer request dataset with
    | error failure => exact .failed same
    | ok table =>
      cases remembered : remember viewed moment request with
      | error failure => exact .failed same
      | ok after =>
        rw [← same]
        exact .answered (remember_holdings moment viewed remembered)

/-- Putting what was found into an answer leaves nothing more behind. -/
theorem told_leaves {β : Type} {outcome : Outcome β} {before after : Keyed Holding} (tell : β → α)
    (found : Leaves before after outcome) : Leaves before after (told tell outcome) := by
  cases found with
  | answered left => exact .answered left
  | failed left => exact .failed left

/-- A call leaves everything as it was if it fails, and otherwise what it is to leave. -/
theorem perform_leaves (call : Call) :
    Leaves store.holdings (call.leaves settings moment store.holdings) (perform settings moment store call) := by
  cases call with
  | createSession => exact create_leaves settings moment store
  | describeSession id => exact view_leaves moment store id _ _
  | deleteSession id => exact delete_leaves store id
  | upload id fileName octets => exact upload_leaves settings moment store id fileName octets
  | clearDataset id => exact clearDataset_leaves moment store id
  | listHistory id => exact view_leaves moment store id _ _
  | listSaved id => exact view_leaves moment store id _ _
  | saveQuery id name query => exact save_leaves moment store id name query
  | runQuery request => exact told_leaves _ (run_leaves moment store request)
  | exportQuery request => exact told_leaves _ (run_leaves moment store request)
  | welcome | health | version | examples | parseQuery _ => exact .answered rfl

end

end Service

end RowQuery
