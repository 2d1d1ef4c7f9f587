import RowQuery.Table.Basic
import RowQuery.Text.Ascii

/-!
# Sessions

What is kept for one client: at most one data set, the queries that ran, latest first, the queries
that were saved under a name, and when the session was last used.
-/

namespace RowQuery

/-- A query that ran, and when. -/
structure HistoryEntry where
  query : String
  timestamp : String
  deriving DecidableEq, Repr

/-- What is kept for one client. `lastActivity` is a reading of a clock that counts nanoseconds. -/
structure Session where
  dataset : Option Dataset
  history : List HistoryEntry
  saved : Keyed String
  lastActivity : Nat

namespace Session

/-- How many queries a history holds. -/
def historyLimit : Nat := 100

/-- A session that begins. -/
def begin (now : Nat) : Session := ⟨none, [], [], now⟩

/-- The session with a query put in front of its history, the oldest falling off at the limit. -/
def record (session : Session) (entry : HistoryEntry) : Session :=
  { session with history := (entry :: session.history).take historyLimit }

/-- The session with a query saved under a name, in place of one saved under it before. -/
def save (session : Session) (name query : String) : Session :=
  { session with saved := session.saved.put name query }

/-- How many digits a session id has. -/
def idLength : Nat := 12

/-- The session id that a number gives: hexadecimal digits in lower case. -/
def idOf (n : Nat) : String :=
  let digits := Text.hexDigits (n % Nat.pow 16 idLength)
  String.ofList (List.replicate (idLength - digits.length) '0' ++ digits)

end Session

end RowQuery
