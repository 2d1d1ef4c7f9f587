import RowQuery.Failure
import RowQuery.Session.Basic
import RowQuery.Text.Blank

/-!
# The session store

All live sessions by id. Whatever finds a session also marks it as used; sessions that have not been
used for longer than the timeout are removed when the store is swept. An operation on an id that is
not live fails and leaves the store as it is.
-/

namespace RowQuery

/-- The live sessions, and how many seconds one may stay unused. -/
structure Store where
  timeout : UInt64
  sessions : Keyed Session

namespace Store

/-- A store without sessions, with a timeout in minutes. Seconds are counted in 64 bits. -/
def ofMinutes (minutes : UInt64) : Store := ⟨minutes * 60, []⟩

/-- How many sessions are live. -/
def count (store : Store) : Nat := store.sessions.length

/-- An id that is live. -/
def has (store : Store) (id : String) : Bool := store.sessions.has id

/-- The store with a new session. -/
def create (store : Store) (id : String) (now : Nat) : Store :=
  { store with sessions := store.sessions.put id (Session.begin now) }

/-- The store without a session, and whether there was one. -/
def delete (store : Store) (id : String) : Bool × Store :=
  (store.has id, { store with sessions := store.sessions.erase id })

/-- A session as it is once it has been marked as used. -/
def get (store : Store) (id : String) (now : Nat) : Except Failure Session :=
  match store.sessions.get? id with
  | some session => .ok { session with lastActivity := now }
  | none => .error (.sessionNotFound id)

/-- The store after a live session has been used and changed. -/
def update (store : Store) (id : String) (now : Nat) (change : Session → Session) :
    Except Failure Store :=
  (store.get id now).map fun session =>
    { store with sessions := store.sessions.put id (change session) }

/-- A value read from a live session, and the store after the session has been used. -/
def view {α : Type} (store : Store) (id : String) (now : Nat) (read : Session → α) :
    Except Failure (α × Store) :=
  (store.get id now).map fun session =>
    (read session, { store with sessions := store.sessions.put id session })

/-- A session as a whole. -/
def session (store : Store) (id : String) (now : Nat) : Except Failure (Session × Store) :=
  store.view id now fun session => session

/-- The data set of a session, if it holds one. -/
def dataset (store : Store) (id : String) (now : Nat) : Except Failure (Option Dataset × Store) :=
  store.view id now Session.dataset

/-- The queries that ran in a session, latest first. -/
def history (store : Store) (id : String) (now : Nat) :
    Except Failure (List HistoryEntry × Store) :=
  store.view id now Session.history

/-- The queries saved in a session, in the order in which their names came up. -/
def saved (store : Store) (id : String) (now : Nat) : Except Failure (Keyed String × Store) :=
  store.view id now Session.saved

/-- The session holds another data set. -/
def replaceDataset (store : Store) (id : String) (now : Nat) (dataset : Dataset) :
    Except Failure Store :=
  store.update id now fun session => { session with dataset := some dataset }

/-- The session holds no data set; tells whether it held one. -/
def clearDataset (store : Store) (id : String) (now : Nat) : Except Failure (Bool × Store) :=
  (store.get id now).map fun session =>
    (session.dataset.isSome,
     { store with sessions := store.sessions.put id { session with dataset := none } })

/-- A query ran in the session. -/
def record (store : Store) (id : String) (now : Nat) (entry : HistoryEntry) :
    Except Failure Store :=
  store.update id now fun session => session.record entry

/-- A query is saved in the session under a name, blanks around which do not count. A blank name is
refused, whether the session is live or not. -/
def save (store : Store) (id : String) (now : Nat) (name query : String) : Except Failure Store :=
  let name := Text.trimmed name
  if name = "" then .error (.validation "Saved query name must not be empty")
  else store.update id now fun session => session.save name query

/-- How many nanoseconds make a second. -/
def second : Nat := 1000000000

/-- A session that has been unused for longer than the timeout. -/
def isExpired (store : Store) (now : Nat) (session : Session) : Bool :=
  store.timeout.toNat * second < now - session.lastActivity

/-- The ids of the sessions that have expired. -/
def expired (store : Store) (now : Nat) : List String :=
  (store.sessions.filter fun entry => store.isExpired now entry.2).map Prod.fst

/-- The store without the sessions that have expired, and how many they were. -/
def removeExpired (store : Store) (now : Nat) : Nat × Store :=
  let live := store.sessions.filter fun entry => !store.isExpired now entry.2
  (store.sessions.length - live.length, { store with sessions := live })

end Store

end RowQuery
