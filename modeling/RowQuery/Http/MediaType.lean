import RowQuery.Text.Ascii

/-!
# Media types

Whether a declared media type is JSON: `application/json`, or an application type with the suffix
`json`, in any case and with any parameters. A declaration that is not well formed is no media type.
-/

namespace RowQuery.Http.MediaType

/-- The characters that names consist of. -/
def isToken (c : Char) : Bool := c.isAlphanum || "!#$%&'*+-.^_`|~".toList.contains c

/-- The characters that may stand between quotes. -/
def isQuotable (c : Char) : Bool := 31 < c.toNat && c.toNat != 127

/-- Where in a list of parameters a character stands. -/
inductive Place where
  | before
  | name
  | valueStart
  | value
  | quoteStart
  | quote
  | behindQuote

/-- The place behind a character, if it may stand where it does. -/
def Place.step (c : Char) : Place → Option Place
  | .before => if c = ' ' then some .before else if isToken c then some .name else none
  | .name => if c = '=' then some .valueStart else if isToken c then some .name else none
  | .valueStart => if c = '"' then some .quoteStart else if isToken c then some .value else none
  | .value => if c = ';' then some .before else if isToken c then some .value else none
  | .quoteStart => if isQuotable c then some .quote else none
  | .quote => if c = '"' then some .behindQuote else if isQuotable c then some .quote else none
  | .behindQuote => if c = ';' then some .before else if c = ' ' then some .behindQuote else none

/-- A place at which a list of parameters may end. -/
def Place.isEnd : Place → Bool
  | .before => true
  | .valueStart => true
  | .value => true
  | .behindQuote => true
  | _ => false

/-- A well-formed list of parameters, which may be empty and may end in a semicolon. -/
def areParameters (text : List Char) : Bool :=
  match text.foldlM (fun place c => Place.step c place) Place.before with
  | some place => place.isEnd
  | none => false

/-- A subtype that means JSON: its part up to the last plus sign, or the part behind it. -/
def isJsonSubtype (subtype : List Char) : Bool :=
  let suffix := (subtype.reverse.takeWhile (· != '+')).reverse
  let base := subtype.take (subtype.length - suffix.length - 1)
  if base.isEmpty then subtype = "json".toList
  else base = "json".toList || suffix = "json".toList

/-- A declaration that means JSON. -/
def isJson (declared : String) : Bool :=
  let text := Text.foldCase declared.toList
  let main := text.takeWhile isToken
  match text.dropWhile isToken with
  | '/' :: rest =>
    let subtype := rest.takeWhile isToken
    let behind := rest.dropWhile isToken
    let wellFormed := match behind with
      | [] => true
      | c :: parameters => c = ';' && areParameters parameters
    text.all (fun c => 32 ≤ c.toNat && c.toNat < 127) && main = "application".toList &&
      !subtype.isEmpty && wellFormed && isJsonSubtype subtype
  | _ => false

end RowQuery.Http.MediaType
