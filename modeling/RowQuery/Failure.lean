/-!
# Failures

Everything that can go wrong while data is loaded, queried or kept. Each failure has a kind, by
which programs tell it from others, and a message for people.
-/

namespace RowQuery

/-- What went wrong. -/
inductive Failure where
  | unsupportedFormat (what : String)
  | noArrayFound
  | emptyFile (detail : String)
  | malformedInput (detail : String)
  | noDataSource
  | validation (detail : String)
  | sessionNotFound (id : String)
  | io (cause : String)
  | internal (detail : String)
  deriving DecidableEq, Repr

/-- The kind of a failure. -/
def Failure.kind : Failure → String
  | .unsupportedFormat _ => "UnsupportedFormat"
  | .noArrayFound => "NoArrayFound"
  | .emptyFile _ => "EmptyFile"
  | .malformedInput _ => "MalformedInput"
  | .noDataSource => "NoDataSource"
  | .validation _ => "ValidationError"
  | .sessionNotFound _ => "SessionNotFound"
  | .io _ => "IoError"
  | .internal _ => "InternalError"

/-- The message of a failure. -/
def Failure.message : Failure → String
  | .unsupportedFormat what =>
    "Unsupported file format: " ++ what ++ ". Please upload a JSON or CSV file."
  | .noArrayFound => "JSON file must contain an array of objects"
  | .emptyFile detail => "File contains no data: " ++ detail
  | .malformedInput detail => "Malformed input: " ++ detail
  | .noDataSource => "No file loaded. Upload a CSV or JSON file before querying it."
  | .validation detail => "Validation error: " ++ detail
  | .sessionNotFound id => "Session not found: " ++ id
  | .io cause => "I/O error: " ++ cause
  | .internal detail => "Internal error: " ++ detail

/-- What underlies a failure, where it passes on the report of something else. -/
def Failure.cause? : Failure → Option String
  | .io cause => some cause
  | _ => none

end RowQuery
