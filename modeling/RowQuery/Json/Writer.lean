import RowQuery.Json.Basic
import RowQuery.Decimal.Layout

/-!
# Writing JSON

The compact form, without blanks, and the indented form, with two blanks for each level. In both,
strings escape the quote, the backslash and the control characters below U+0020 and nothing else.
-/

namespace RowQuery.Json

/-- Doubles are written without an exponent from `10 ^ -5` up to `10 ^ 16` and always show that they
are no integers. -/
def numberLayout : Decimal.Layout := ⟨.toEven, some (-5, 16), true⟩

/-- The decimal digits of an integer, behind a sign if it is negative. -/
def intText (n : Int) : List Char :=
  if n < 0 then '-' :: Text.decimalDigits n.natAbs else Text.decimalDigits n.natAbs

/-- The text of a number. -/
def numberText : Number → List Char
  | .int n _ => intText n
  | .float x _ => numberLayout.write x

/-- A character as it stands between the quotes. -/
def escapeChar (c : Char) : List Char :=
  if c = '"' then ['\\', '"']
  else if c = '\\' then ['\\', '\\']
  else if c = '\x08' then ['\\', 'b']
  else if c = '\x0c' then ['\\', 'f']
  else if c = '\n' then ['\\', 'n']
  else if c = '\r' then ['\\', 'r']
  else if c = '\t' then ['\\', 't']
  else if c.toNat < 0x20 then
    ['\\', 'u', '0', '0', Nat.digitChar (c.toNat / 16), Nat.digitChar (c.toNat % 16)]
  else [c]

/-- A string between quotes. -/
def quoted (s : String) : List Char := '"' :: s.toList.flatMap escapeChar ++ ['"']

mutual

/-- The compact form of a value. -/
def compactText : Json → List Char
  | .null => "null".toList
  | .bool true => "true".toList
  | .bool false => "false".toList
  | .number n => numberText n
  | .string s => quoted s
  | .array items => '[' :: [','].intercalate (compactItems items) ++ [']']
  | .object members => '{' :: [','].intercalate (compactMembers members) ++ ['}']

/-- The compact forms of the items of an array. -/
def compactItems : List Json → List (List Char)
  | [] => []
  | item :: rest => compactText item :: compactItems rest

/-- The compact forms of the members of an object. -/
def compactMembers : List (String × Json) → List (List Char)
  | [] => []
  | (key, value) :: rest => (quoted key ++ ':' :: compactText value) :: compactMembers rest

end

/-- The compact form of a value as a string. -/
def compact (value : Json) : String := String.ofList (compactText value)

/-- A new line, indented to a level. -/
def newLine (level : Nat) : List Char := '\n' :: List.replicate (2 * level) ' '

/-- Parts between brackets, each on a line of its own one level further in; without parts nothing
but the brackets. -/
def indentedBlock (opening closing : Char) (level : Nat) (parts : List (List Char)) : List Char :=
  if parts.isEmpty then [opening, closing]
  else
    opening :: newLine (level + 1) ++ (',' :: newLine (level + 1)).intercalate parts ++
      newLine level ++ [closing]

mutual

/-- The indented form of a value that stands at a level. -/
def indentedText (level : Nat) : Json → List Char
  | .null => "null".toList
  | .bool true => "true".toList
  | .bool false => "false".toList
  | .number n => numberText n
  | .string s => quoted s
  | .array items => indentedBlock '[' ']' level (indentedItems (level + 1) items)
  | .object members => indentedBlock '{' '}' level (indentedMembers (level + 1) members)

/-- The indented forms of the items of an array. -/
def indentedItems (level : Nat) : List Json → List (List Char)
  | [] => []
  | item :: rest => indentedText level item :: indentedItems level rest

/-- The indented forms of the members of an object. -/
def indentedMembers (level : Nat) : List (String × Json) → List (List Char)
  | [] => []
  | (key, value) :: rest =>
    (quoted key ++ ':' :: ' ' :: indentedText level value) :: indentedMembers level rest

end

/-- The indented form of a value as a string. -/
def indented (value : Json) : String := String.ofList (indentedText 0 value)

end RowQuery.Json
