import RowQuery.Http.MediaType
import RowQuery.Http.Message
import RowQuery.Http.Target
import RowQuery.Json.Record
import RowQuery.Service.Call

/-!
# From requests to calls

Which call a request makes. The path decides the resource, the resource which methods are allowed,
and then the parts of the request are decoded in order: the path, the query string, the body. The
first that cannot be decoded is what the request is rejected for.
-/

namespace RowQuery.Service

/-- Why a request makes no call. -/
inductive Rejection where
  | noResource
  | methodNotAllowed (allowed : String)
  | badPath
  | badQueryString
  | notDeclaredJson
  | bodyTooLarge
  | malformedBody
  | wrongBody
  deriving DecidableEq, Repr

/-- What a path leads to; ids are still written as in the path. -/
inductive Resource where
  | root
  | sessions
  | session (id : List Char)
  | upload (id : List Char)
  | dataset (id : List Char)
  | history (id : List Char)
  | saved (id : List Char)
  | query
  | parse
  | exports
  | queries
  | health
  | version
  deriving DecidableEq, Repr

/-- The part of the path that all resources but the root share. -/
def base : List (List Char) := [[], "api".toList, "v1".toList]

/-- The resource that the parts of a path behind the common part lead to. An id may be empty only if
a part follows it. -/
def Resource.ofParts : List (List Char) → Option Resource
  | [name] =>
    if name = "sessions".toList then some .sessions
    else if name = "query".toList then some .query
    else if name = "parse".toList then some .parse
    else if name = "export".toList then some .exports
    else if name = "queries".toList then some .queries
    else if name = "health".toList then some .health
    else if name = "version".toList then some .version
    else none
  | [name, id] => if name = "sessions".toList ∧ id ≠ [] then some (.session id) else none
  | [name, id, part] =>
    if name = "sessions".toList then
      if part = "upload".toList then some (.upload id)
      else if part = "dataset".toList then some (.dataset id)
      else if part = "history".toList then some (.history id)
      else if part = "saved".toList then some (.saved id)
      else none
    else none
  | _ => none

/-- The resource that a path leads to. -/
def Resource.ofPath (path : List Char) : Option Resource :=
  if path = ['/'] then some .root
  else
    let parts := path.splitOn '/'
    if base.isPrefixOf parts then Resource.ofParts (parts.drop base.length) else none

/-- The methods that a resource allows, as they are listed to a client that used another. -/
def Resource.allowed : Resource → String
  | .root | .history _ | .queries | .health | .version => "GET,HEAD"
  | .sessions | .upload _ | .query | .parse | .exports => "POST"
  | .session _ => "GET,HEAD,DELETE"
  | .dataset _ => "DELETE"
  | .saved _ => "GET,HEAD,POST"

/-- A decoded part of a request. -/
abbrev Decoded (α : Type) := Except Rejection α

/-- The id in a path. -/
def decodeId (id : List Char) : Decoded String :=
  match Http.decodePart id with
  | some id => .ok id
  | none => .error .badPath

/-- The name of the file that is uploaded, which the query string must give exactly once. -/
def fileNameOf (target : String) : Decoded String :=
  match (Http.queryFields (Http.queryStringOf target)).filter fun field => field.1 = "filename" with
  | [(_, name)] => .ok name
  | _ => .error .badQueryString

/-- The body, unless it is too large. -/
def bodyOf (limit : Nat) (request : Http.Request) : Decoded (List UInt8) :=
  if limit < request.body.length then .error .bodyTooLarge else .ok request.body

/-- The record in the body. It must be declared to be JSON, which is looked at first. -/
def recordOf (limit : Nat) (fields : List Json.Field) (request : Http.Request) :
    Decoded Json.Record :=
  if !(request.contentType.map Http.MediaType.isJson).getD false then .error .notDeclaredJson
  else
    match bodyOf limit request with
    | .error rejection => .error rejection
    | .ok octets =>
      match Json.readRecord fields (Text.Utf8.asChars octets) with
      | .ok record => .ok record
      | .error .malformed => .error .malformedBody
      | .error .wrongShape => .error .wrongBody

/-- The text of a field, empty if there is none. -/
def textOf (record : Json.Record) (name : String) : String :=
  ((record.get? name).join).getD ""

/-- The fields of a query to run. -/
def queryFields : List Json.Field :=
  [⟨"query", .text, true⟩,
   ⟨"source", .choice [Source.sample.label, Source.file.label], false⟩,
   ⟨"sessionId", .optionalText, false⟩,
   ⟨"format", .choice [ExportFormat.csv.label, ExportFormat.json.label], false⟩]

/-- A query to run. Without a source it runs over the samples, and without a format its answer is
exported as CSV. -/
def queryRequestOf (record : Json.Record) : QueryRequest :=
  { query := textOf record "query"
    source := if textOf record "source" = Source.file.label then .file else .sample
    sessionId := (record.get? "sessionId").join
    format := if textOf record "format" = ExportFormat.json.label then .json else .csv }

/-- The call that a method makes on a resource that allows it; `HEAD` counts as `GET`. -/
def callOf (limit : Nat) (request : Http.Request) : Resource → Decoded Call
  | .root => .ok .welcome
  | .health => .ok .health
  | .version => .ok .version
  | .queries => .ok .examples
  | .sessions => .ok .createSession
  | .session id =>
    (decodeId id).map fun id =>
      if request.method = "DELETE" then .deleteSession id else .describeSession id
  | .upload id =>
    match decodeId id with
    | .error rejection => .error rejection
    | .ok id =>
      match fileNameOf request.target with
      | .error rejection => .error rejection
      | .ok name => (bodyOf limit request).map fun octets => .upload id name octets
  | .dataset id => (decodeId id).map .clearDataset
  | .history id => (decodeId id).map .listHistory
  | .saved id =>
    match decodeId id with
    | .error rejection => .error rejection
    | .ok id =>
      if request.method = "POST" then
        (recordOf limit [⟨"name", .text, true⟩, ⟨"query", .text, true⟩] request).map fun record =>
          .saveQuery id (textOf record "name") (textOf record "query")
      else .ok (.listSaved id)
  | .query => (recordOf limit queryFields request).map fun record =>
      .runQuery (queryRequestOf record)
  | .exports => (recordOf limit queryFields request).map fun record =>
      .exportQuery (queryRequestOf record)
  | .parse => (recordOf limit [⟨"query", .text, true⟩] request).map fun record =>
      .parseQuery (textOf record "query")

/-- The call that a request makes. -/
def route (limit : Nat) (request : Http.Request) : Decoded Call :=
  match Resource.ofPath (Http.pathOf request.target) with
  | none => .error .noResource
  | some resource =>
    if (resource.allowed.toList.splitOn ',').contains request.method.toList then
      callOf limit request resource
    else .error (.methodNotAllowed resource.allowed)

end RowQuery.Service
