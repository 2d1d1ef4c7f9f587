import RowQuery.Source.Reader
import RowQuery.Table.Export

/-!
# Calls of the service

What a client can ask of the service, with everything decoded.
-/

namespace RowQuery.Service

/-- A query to run, where, for which session and, if the answer is a file, in which format. -/
structure QueryRequest where
  query : String
  source : Source
  sessionId : Option String
  format : ExportFormat
  deriving DecidableEq, Repr

/-- What a client asks for. -/
inductive Call where
  | welcome
  | health
  | version
  | examples
  | createSession
  | describeSession (id : String)
  | deleteSession (id : String)
  | upload (id fileName : String) (octets : List UInt8)
  | clearDataset (id : String)
  | listHistory (id : String)
  | listSaved (id : String)
  | saveQuery (id name query : String)
  | runQuery (request : QueryRequest)
  | exportQuery (request : QueryRequest)
  | parseQuery (query : String)
  deriving DecidableEq, Repr

end RowQuery.Service
