import RowQuery.Keyed

/-!
# Requests and responses

What a server is asked and what it answers, as far as this service looks at it.
-/

namespace RowQuery.Http

/-- A request: its method, its target with path and query string, the media type that it declares
for its body, and the body. -/
structure Request where
  method : String
  target : String
  contentType : Option String
  body : List UInt8

/-- A response. -/
structure Response where
  status : Nat
  headers : Keyed String
  body : String

/-- A response that is only a status. -/
def Response.bare (status : Nat) : Response := ⟨status, [], ""⟩

/-- A response that says something in plain words. -/
def Response.plain (status : Nat) (text : String) : Response :=
  ⟨status, [("content-type", "text/plain; charset=utf-8")], text⟩

end RowQuery.Http
