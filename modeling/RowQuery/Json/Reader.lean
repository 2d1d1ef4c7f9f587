import RowQuery.Json.Strings
import RowQuery.Json.Numerals

/-!
# Reading JSON

A value is read from the head of a text, together with the text behind it. How deep arrays and
objects may still nest is the argument `room`, on which reading recurses; the parts at one level are
read one after the other, by a loop whose `budget` is the length of the whole text: each part takes
at least one character of it.
-/

namespace RowQuery.Json

/-- How deep arrays and objects may nest. -/
def nestingLimit : Nat := 127

/-- A word that must stand at the head of the text, and the value it means. -/
def readWord (value : Json) : List Char → List Char → Reading Json
  | [], text => .ok (value, text)
  | _ :: _, [] => .error (.behind .endInValue [])
  | c :: word, d :: text =>
    if c = d then readWord value word text else .error (.next .expectedWord (d :: text))

/-- How the parts of a value end: with which bracket, and what it is called if the text ends before
it or goes on with something else. -/
structure Enclosure where
  closing : Char
  unfinished : Problem
  unexpected : Problem

/-- The end of an array. -/
def arrayEnd : Enclosure := ⟨']', .endInList, .expectedListEnd⟩

/-- The end of an object. -/
def objectEnd : Enclosure := ⟨'}', .endInObject, .expectedObjectEnd⟩

/-- The parts of a value up to its closing bracket, each read by `readPart`. At least one part is
due and at most `budget` are read. -/
def readParts {α : Type} (enclosure : Enclosure) (readPart : List Char → Reading α) :
    Nat → List Char → Reading (List α)
  | 0, text => .error (.next enclosure.unfinished text)
  | budget + 1, text =>
    match readPart text with
    | .error fault => .error fault
    | .ok (part, rest) =>
      match skipSpaces rest with
      | [] => .error (.next enclosure.unfinished [])
      | c :: rest =>
        if c = enclosure.closing then .ok ([part], rest)
        else if c = ',' then
          match skipSpaces rest with
          | [] => .error (.next .endInValue [])
          | d :: rest =>
            if d = enclosure.closing then .error (.next .trailingComma (d :: rest))
            else
              (readParts enclosure readPart budget (d :: rest)).map fun (parts, rest) =>
                (part :: parts, rest)
        else .error (.next enclosure.unexpected (c :: rest))

/-- The parts of a value whose opening bracket has just been read. -/
def readEnclosed {α : Type} (enclosure : Enclosure) (readPart : List Char → Reading α)
    (budget : Nat) (text : List Char) : Reading (List α) :=
  match skipSpaces text with
  | [] => .error (.next enclosure.unfinished [])
  | c :: rest =>
    if c = enclosure.closing then .ok ([], rest)
    else readParts enclosure readPart budget (c :: rest)

/-- A key and the colon behind it. The text begins with the quote of the key. -/
def readKey : List Char → Reading String
  | '"' :: text =>
    match readString text with
    | .error fault => .error fault
    | .ok (key, rest) =>
      match skipSpaces rest with
      | ':' :: rest => .ok (key, rest)
      | [] => .error (.next .endInObject [])
      | other => .error (.next .expectedColon other)
  | other => .error (.next .expectedKey other)

/-- A key, a colon and a value read by `readItem`. -/
def readMember (readItem : List Char → Reading Json) (text : List Char) :
    Reading (String × Json) :=
  match readKey text with
  | .error fault => .error fault
  | .ok (key, rest) => (readItem rest).map fun (value, rest) => ((key, value), rest)

/-- The array whose opening bracket has just been read. -/
def readArray (budget : Nat) (readItem : List Char → Reading Json) (text : List Char) :
    Reading Json :=
  (readEnclosed arrayEnd readItem budget text).map fun (items, rest) => (.array items, rest)

/-- The object whose opening bracket has just been read. -/
def readObject (budget : Nat) (readItem : List Char → Reading Json) (text : List Char) :
    Reading Json :=
  (readEnclosed objectEnd (readMember readItem) budget text).map fun (members, rest) =>
    (.object (Keyed.ofPairs members), rest)

/-- A value that is neither array nor object, at the head of a text that begins with no space. -/
def readScalar : List Char → Reading Json
  | [] => .error (.next .endInValue [])
  | '"' :: rest => (readString rest).map fun (s, rest) => (.string s, rest)
  | 'n' :: rest => readWord .null "ull".toList rest
  | 't' :: rest => readWord (.bool true) "rue".toList rest
  | 'f' :: rest => readWord (.bool false) "alse".toList rest
  | c :: rest =>
    if c = '-' || c.isDigit then
      (readNumber (c :: rest)).map fun (n, rest) => (.number n, rest)
    else .error (.next .expectedValue (c :: rest))

/-- The value at the head of a text, behind any spaces. -/
def readValue (budget : Nat) : Nat → List Char → Reading Json
  | 0, text =>
    match skipSpaces text with
    | '[' :: rest => .error (.next .tooDeep ('[' :: rest))
    | '{' :: rest => .error (.next .tooDeep ('{' :: rest))
    | scalar => readScalar scalar
  | room + 1, text =>
    match skipSpaces text with
    | '[' :: rest => readArray budget (readValue budget room) rest
    | '{' :: rest => readObject budget (readValue budget room) rest
    | scalar => readScalar scalar

/-- The value that a whole text writes. -/
def read (text : List Char) : Except Fault Json :=
  match readValue text.length nestingLimit text with
  | .error fault => .error fault
  | .ok (value, rest) =>
    match skipSpaces rest with
    | [] => .ok value
    | other => .error (.next .trailingCharacters other)

end RowQuery.Json
