import RowQuery.Json.Reader
import RowQuery.Json.Skip

/-!
# Reading records

A record is read straight from its octets, against a list of fields. It may be written as an object,
whose other members are passed over, or as an array with the fields in order. Reading stops at the
closing bracket, and the first thing that is wrong decides whether the text is no JSON or does not
have the form that is asked for.

The octets are seen as characters, which does for everything but strings, since the rest of JSON is
ASCII. Only a string that is kept has to be UTF-8: a name, or the content of a field. What is passed
over may hold any octets, and so may what stands behind the closing bracket.
-/

namespace RowQuery.Json

/-- What a field holds: a text, a text or null, or one of some names. -/
inductive Shape where
  | text
  | optionalText
  | choice (names : List String)

/-- A field of a record. -/
structure Field where
  name : String
  shape : Shape
  required : Bool

/-- Why a record cannot be read: its text is no JSON, or JSON of another form. -/
inductive Mismatch where
  | malformed
  | wrongShape
  deriving DecidableEq, Repr

/-- What is read of a record: texts under the names of fields, or none where null stands. -/
abbrev Record := Keyed (Option String)

/-- A part of a record, and the text behind it. -/
abbrev Part := Except Mismatch (Option String × List Char)

/-- The string whose opening quote has just been read, if its octets up to the closing quote are UTF-8. -/
def readKept (text : List Char) : Except Mismatch (String × List Char) :=
  match skipStringFrom 0 text with
  | none => .error .malformed
  | some rest =>
    match Text.Utf8.decode (Text.Utf8.ofChars (text.take (text.length - rest.length))) with
    | .error _ => .error .malformed
    | .ok decoded =>
      match readString decoded.toList with
      | .error _ => .error .malformed
      | .ok (s, _) => .ok (s, rest)

/-- What is wrong with a value that stands where another should. -/
def mismatchAt (text : List Char) : Mismatch :=
  match text with
  | '[' :: _ => .wrongShape
  | '{' :: _ => .wrongShape
  | '"' :: rest =>
    match readKept rest with
    | .ok _ => .wrongShape
    | .error mismatch => mismatch
  | scalar =>
    match readScalar scalar with
    | .ok _ => .wrongShape
    | .error _ => .malformed

/-- A text. -/
def readText (text : List Char) : Except Mismatch (String × List Char) :=
  match skipSpaces text with
  | '"' :: rest => readKept rest
  | other => .error (mismatchAt other)

/-- A text or null. -/
def readOptionalText (text : List Char) : Part :=
  match skipSpaces text with
  | 'n' :: rest =>
    match skipWord "ull".toList rest with
    | some rest => .ok (none, rest)
    | none => .error .malformed
  | other => (readText other).map fun (s, rest) => (some s, rest)

/-- The null that stands for the content of a name, and the bracket behind it. -/
def readEmptyContent (text : List Char) : Except Mismatch (List Char) :=
  match skipSpaces text with
  | 'n' :: rest =>
    match (skipWord "ull".toList rest).map skipSpaces with
    | some ('}' :: rest) => .ok rest
    | _ => .error .malformed
  | other => .error (mismatchAt other)

/-- The text behind the colon that must come next. -/
def readColon (text : List Char) : Except Mismatch (List Char) :=
  match skipSpaces text with
  | ':' :: rest => .ok rest
  | _ => .error .malformed

/-- One of some names, between quotes. -/
def readName (names : List String) (text : List Char) : Except Mismatch (String × List Char) :=
  match skipSpaces text with
  | '"' :: rest =>
    match readKept rest with
    | .error mismatch => .error mismatch
    | .ok (name, rest) => if names.contains name then .ok (name, rest) else .error .wrongShape
  | _ => .error .malformed

/-- One of some names, alone or as the only member of an object that holds null. -/
def readChoice (names : List String) (text : List Char) : Part :=
  match skipSpaces text with
  | '{' :: rest =>
    match readName names rest with
    | .error mismatch => .error mismatch
    | .ok (name, rest) =>
      match readColon rest with
      | .error mismatch => .error mismatch
      | .ok rest => (readEmptyContent rest).map fun rest => (some name, rest)
  | other => (readName names other).map fun (name, rest) => (some name, rest)

/-- The content of a field. -/
def readShape (shape : Shape) (text : List Char) : Part :=
  match shape with
  | .text => (readText text).map fun (s, rest) => (some s, rest)
  | .optionalText => readOptionalText text
  | .choice names => readChoice names text

/-- The record, if no field that is required is missing. -/
def complete (fields : List Field) (record : Record) : Except Mismatch Record :=
  if fields.all fun field => !field.required || record.has field.name then .ok record
  else .error .wrongShape

/-- The member whose key has been read: the record with its content, or, for a key that is no field,
as it was. A field may not come twice. -/
def readContent (fields : List Field) (record : Record) (key : String) (text : List Char) :
    Except Mismatch (Record × List Char) :=
  match fields.find? fun field => field.name == key with
  | some field =>
    if record.has key then .error .wrongShape
    else
      match readColon text with
      | .error mismatch => .error mismatch
      | .ok rest =>
        (readShape field.shape rest).map fun (content, rest) => (record.put key content, rest)
  | none =>
    match readColon text with
    | .error mismatch => .error mismatch
    | .ok rest =>
      match skip rest with
      | some rest => .ok (record, rest)
      | none => .error .malformed

/-- The members of an object, of which one is due; at most `budget` are read. -/
def readNamed (fields : List Field) : Nat → Record → List Char → Except Mismatch Record
  | 0, _, _ => .error .malformed
  | budget + 1, record, text =>
    match skipSpaces text with
    | '"' :: rest =>
      match readKept rest with
      | .error mismatch => .error mismatch
      | .ok (key, rest) =>
        match readContent fields record key rest with
        | .error mismatch => .error mismatch
        | .ok (record, rest) =>
          match skipSpaces rest with
          | '}' :: _ => complete fields record
          | ',' :: rest => readNamed fields budget record rest
          | _ => .error .malformed
    | _ => .error .malformed

/-- The items of an array that hold the remaining fields. `first` tells that no comma comes in front
of the next. -/
def readListed (fields : List Field) (first : Bool) (record : Record) (text : List Char) :
    List Field → Except Mismatch Record
  | [] =>
    match skipSpaces text with
    | ']' :: _ => .ok record
    | _ => .error .malformed
  | field :: later =>
    let item (text : List Char) : Except Mismatch Record :=
      match skipSpaces text with
      | ']' :: _ => .error .malformed
      | next =>
        match readShape field.shape next with
        | .error mismatch => .error mismatch
        | .ok (content, rest) => readListed fields false (record.put field.name content) rest later
    match skipSpaces text with
    | ']' :: _ => complete fields record
    | ',' :: rest => if first then item (',' :: rest) else item rest
    | next => if first then item next else .error .malformed

/-- The record at the head of a text. -/
def readRecord (fields : List Field) (text : List Char) : Except Mismatch Record :=
  match skipSpaces text with
  | '{' :: rest =>
    match skipSpaces rest with
    | '}' :: _ => complete fields []
    | next => readNamed fields text.length [] next
  | '[' :: rest => readListed fields true [] rest fields
  | other => .error (mismatchAt other)

end RowQuery.Json
