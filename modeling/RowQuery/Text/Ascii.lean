/-!
# ASCII letter case and digits

Comparison and search that disregard the case of the letters A to Z and of no other character.
`Char.toLower` is exactly that folding.
-/

namespace RowQuery.Text

/-- The text with A to Z written as a to z. -/
def foldCase (text : List Char) : List Char := text.map Char.toLower

/-- Two strings that differ at most in the case of ASCII letters. -/
def sameButCase (a b : String) : Bool := foldCase a.toList == foldCase b.toList

/-- Where the word first stands in the text: the number of characters in front of it. -/
def find? (word : List Char) : List Char → Option Nat
  | [] => if word.isEmpty then some 0 else none
  | c :: rest =>
    if word.isPrefixOf (c :: rest) then some 0 else (find? word rest).map (· + 1)

/-- Where the word first stands in the text when ASCII case is disregarded. -/
def findFolded? (word text : List Char) : Option Nat := find? (foldCase word) (foldCase text)

/-- The value of a hexadecimal digit of either case. -/
def hexValue? (c : Char) : Option Nat :=
  if c.isDigit then some (c.toNat - 48)
  else if 'a' ≤ c ∧ c ≤ 'f' then some (c.toNat - 87)
  else if 'A' ≤ c ∧ c ≤ 'F' then some (c.toNat - 55)
  else none

/-- The number that a run of decimal digits writes. -/
def digitsValue (digits : List Char) : Nat := Nat.ofDigitChars 10 digits 0

/-- The hexadecimal digits of a number, in lower case. -/
def hexDigits (n : Nat) : List Char := Nat.toDigits 16 n

/-- The decimal digits of a number. -/
def decimalDigits (n : Nat) : List Char := Nat.toDigits 10 n

end RowQuery.Text
