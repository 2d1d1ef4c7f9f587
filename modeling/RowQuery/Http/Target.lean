import RowQuery.Text.Ascii
import RowQuery.Text.Utf8

/-!
# Request targets

A target is a path and, behind a question mark, a query string; a scheme and an authority may stand
in front, a fragment behind. Octets that may not stand in it are written as a percent sign and two
hexadecimal digits.
-/

namespace RowQuery.Http

/-- The characters that a scheme is made of. -/
def isSchemeChar (c : Char) : Bool := c.isAlphanum || "+-.~".toList.contains c

/-- The characters that end an authority. -/
def endsAuthority (c : Char) : Bool := c = '/' || c = '?' || c = '#'

/-- The target without the scheme and the authority, if it begins with them. -/
def withoutOrigin (target : List Char) : List Char :=
  match target.dropWhile isSchemeChar with
  | ':' :: '/' :: '/' :: rest => rest.dropWhile fun c => !endsAuthority c
  | _ => target

/-- The path and the query string of a target. -/
def resourcePart (target : String) : List Char :=
  (withoutOrigin target.toList).takeWhile (· != '#')

/-- The path of a target. An empty one is the root. -/
def pathOf (target : String) : List Char :=
  match (resourcePart target).takeWhile (· != '?') with
  | [] => ['/']
  | path => path

/-- The query string of a target. -/
def queryStringOf (target : String) : List Char :=
  ((resourcePart target).dropWhile (· != '?')).drop 1

/-- The octet that two hexadecimal digits write. -/
def hexOctet? (high low : UInt8) : Option UInt8 :=
  match Text.hexValue? (Char.ofNat high.toNat), Text.hexValue? (Char.ofNat low.toNat) with
  | some high, some low => some (UInt8.ofNat (high * 16 + low))
  | _, _ => none

/-- The octets with every written-out one resolved. A percent sign without two digits stands for
itself. -/
def percentDecode : List UInt8 → List UInt8
  | [] => []
  | [a] => [a]
  | [a, b] => [a, b]
  | a :: b :: c :: rest =>
    if a = 0x25 then
      match hexOctet? b c with
      | some octet => octet :: percentDecode rest
      | none => a :: percentDecode (b :: c :: rest)
    else a :: percentDecode (b :: c :: rest)

/-- A part of a path with its written-out octets resolved, if they are text. -/
def decodePart (part : List Char) : Option String :=
  (Text.Utf8.decode (percentDecode (Text.Utf8.encode (String.ofList part)))).toOption

/-- A name or value of a query string: a plus sign is a blank, and octets that are no text are
replaced. -/
def decodeField (text : List Char) : String :=
  let blanks := text.map fun c => if c = '+' then ' ' else c
  Text.Utf8.decodeLenient (percentDecode (Text.Utf8.encode (String.ofList blanks)))

/-- The names and values of a query string. A name alone has the empty value. -/
def queryFields (queryString : List Char) : List (String × String) :=
  ((queryString.splitOn '&').filter fun field => !field.isEmpty).map fun field =>
    (decodeField (field.takeWhile (· != '=')), decodeField ((field.dropWhile (· != '=')).drop 1))

end RowQuery.Http
