import RowQuery.Json.Fault
import RowQuery.Text.Ascii

/-!
# Reading JSON strings

The characters between two quotes, with their escapes resolved. A character outside the basic plane
may be escaped as a pair of surrogates; a surrogate without its partner is refused.
-/

namespace RowQuery.Json

/-- The number that the four hexadecimal digits at the head of the text write. Fewer than four
octets are the end of the string. -/
def readHexQuad (text : List Char) : Except Fault Nat :=
  if Text.Utf8.octetCount (text.take 4) < 4 then .error (.behind .endInString [])
  else
    match text.take 4 |>.mapM Text.hexValue? with
    | some [a, b, c, d] => .ok (((a * 16 + b) * 16 + c) * 16 + d)
    | _ => .error ⟨.invalidEscape, text, 4⟩

/-- The first surrogate of a pair. -/
def isHighSurrogate (n : Nat) : Bool := 0xD800 ≤ n && n ≤ 0xDBFF

/-- The second surrogate of a pair. -/
def isLowSurrogate (n : Nat) : Bool := 0xDC00 ≤ n && n ≤ 0xDFFF

/-- The escape of the second half of a pair, which must follow at once. -/
def readLowSurrogate : List Char → Except Fault Nat
  | '\\' :: 'u' :: rest => do
    let low ← readHexQuad rest
    if isLowSurrogate low then .ok low else .error (.behind .loneSurrogate (rest.drop 4))
  | [] => .error (.behind .endInString [])
  | ['\\'] => .error (.behind .endInString [])
  | '\\' :: rest => .error (.next .unpairedSurrogate rest)
  | rest => .error (.next .unpairedSurrogate rest)

/-- The character that the text behind a backslash stands for, and how many characters of that text
it takes. -/
def readEscape : List Char → Except Fault (Char × Nat)
  | [] => .error (.behind .endInString [])
  | '"' :: _ => .ok ('"', 1)
  | '\\' :: _ => .ok ('\\', 1)
  | '/' :: _ => .ok ('/', 1)
  | 'b' :: _ => .ok ('\x08', 1)
  | 'f' :: _ => .ok ('\x0c', 1)
  | 'n' :: _ => .ok ('\n', 1)
  | 'r' :: _ => .ok ('\r', 1)
  | 't' :: _ => .ok ('\t', 1)
  | 'u' :: rest => do
    let code ← readHexQuad rest
    if isLowSurrogate code then .error (.behind .loneSurrogate (rest.drop 4))
    else if isHighSurrogate code then do
      let low ← readLowSurrogate (rest.drop 4)
      .ok (Char.ofNat (0x10000 + (code - 0xD800) * 0x400 + (low - 0xDC00)), 11)
    else .ok (Char.ofNat code, 5)
  | text => .error (.next .invalidEscape text)

/-- The string that ends at the next quote that is not escaped. `taken` holds the characters so far,
latest first, and the first `skip` characters of the text belong to an escape already resolved. -/
def readStringFrom (taken : List Char) (skip : Nat) : List Char → Reading (List Char)
  | [] => .error (.behind .endInString [])
  | c :: rest =>
    match skip with
    | skip + 1 => readStringFrom taken skip rest
    | 0 =>
      if c = '"' then .ok (taken.reverse, rest)
      else if c = '\\' then
        match readEscape rest with
        | .ok (resolved, width) => readStringFrom (resolved :: taken) width rest
        | .error fault => .error fault
      else if c.toNat < 0x20 then .error (.behind .controlCharacter rest)
      else readStringFrom (c :: taken) 0 rest

/-- The string whose opening quote has just been read. -/
def readString (text : List Char) : Reading String :=
  (readStringFrom [] 0 text).map fun (chars, rest) => (String.ofList chars, rest)

end RowQuery.Json
