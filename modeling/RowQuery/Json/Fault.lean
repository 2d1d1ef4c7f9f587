import RowQuery.Text.Utf8

/-!
# Why a text is no JSON

A fault names the problem and where it was met. The place is kept as the text that was still unread,
and turned into a line and a column only for the message.
-/

namespace RowQuery.Json

/-- What keeps a text from being a JSON value. -/
inductive Problem where
  | endInValue
  | endInList
  | endInObject
  | endInString
  | expectedValue
  | expectedWord
  | expectedListEnd
  | expectedObjectEnd
  | expectedColon
  | expectedKey
  | trailingComma
  | trailingCharacters
  | tooDeep
  | controlCharacter
  | invalidEscape
  | loneSurrogate
  | unpairedSurrogate
  | invalidNumber
  | numberOutOfRange
  deriving DecidableEq, Repr

/-- The wording of a problem. -/
def Problem.message : Problem → String
  | .endInValue => "EOF while parsing a value"
  | .endInList => "EOF while parsing a list"
  | .endInObject => "EOF while parsing an object"
  | .endInString => "EOF while parsing a string"
  | .expectedValue => "expected value"
  | .expectedWord => "expected ident"
  | .expectedListEnd => "expected `,` or `]`"
  | .expectedObjectEnd => "expected `,` or `\x7d`"
  | .expectedColon => "expected `:`"
  | .expectedKey => "key must be a string"
  | .trailingComma => "trailing comma"
  | .trailingCharacters => "trailing characters"
  | .tooDeep => "recursion limit exceeded"
  | .controlCharacter => "control character (\\u0000-\\u001F) found while parsing a string"
  | .invalidEscape => "invalid escape"
  | .loneSurrogate => "lone leading surrogate in hex escape"
  | .unpairedSurrogate => "unexpected end of hex escape"
  | .invalidNumber => "invalid number"
  | .numberOutOfRange => "number out of range"

/-- A problem, the text unread when it was met, and how many octets of that text the reported place
still counts. -/
structure Fault where
  problem : Problem
  rest : List Char
  ahead : Nat

/-- A fault behind everything read so far. -/
def Fault.behind (problem : Problem) (rest : List Char) : Fault := ⟨problem, rest, 0⟩

/-- A fault of the character that comes next: its first octet is counted, if there is one. -/
def Fault.next (problem : Problem) (rest : List Char) : Fault :=
  ⟨problem, rest, if rest.isEmpty then 0 else 1⟩

/-- Line, from 1, and column, in octets, of the place behind so many octets of a text, reckoned on
from a line and a column. -/
def placeAfter (line column : Nat) : List Char → Nat → Nat × Nat
  | [], _ => (line, column)
  | c :: rest, octets =>
    if octets < c.utf8Size then (line, column + octets)
    else if c = '\n' then placeAfter (line + 1) 0 rest (octets - c.utf8Size)
    else placeAfter line (column + c.utf8Size) rest (octets - c.utf8Size)

/-- The wording of a fault met in a text. -/
def Fault.message (fault : Fault) (text : List Char) : String :=
  let octets := Text.Utf8.octetCount text - Text.Utf8.octetCount fault.rest + fault.ahead
  let (line, column) := placeAfter 1 0 text octets
  fault.problem.message ++ " at line " ++ toString line ++ " column " ++ toString column

/-- What reading a part of a text yields: a value and the text behind it. -/
abbrev Reading (α : Type) := Except Fault (α × List Char)

/-- The characters that may stand between the parts of a JSON text. -/
def isSpace (c : Char) : Bool := c = ' ' || c = '\n' || c = '\t' || c = '\r'

/-- The text from its first character that is no space. -/
def skipSpaces (text : List Char) : List Char := text.dropWhile isSpace

end RowQuery.Json
