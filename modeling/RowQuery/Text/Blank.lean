/-!
# Blank characters

Which characters count as blank, and the three ways text is cut at them: trimming both ends, asking
whether anything is left, and splitting into words.
-/

namespace RowQuery.Text

/-- The characters that have the Unicode property White_Space. -/
def isBlank (c : Char) : Bool :=
  let n := c.toNat
  (9 ≤ n && n ≤ 13) || n == 0x20 || n == 0x85 || n == 0xA0 || n == 0x1680 ||
    (0x2000 ≤ n && n ≤ 0x200A) || n == 0x2028 || n == 0x2029 || n == 0x202F || n == 0x205F ||
    n == 0x3000

/-- Text without the blank characters it starts with. -/
def trimStart (text : List Char) : List Char := text.dropWhile isBlank

/-- Text without the blank characters it ends with. -/
def trimEnd (text : List Char) : List Char := (text.reverse.dropWhile isBlank).reverse

/-- Text without the blank characters at either end. -/
def trim (text : List Char) : List Char := trimEnd (trimStart text)

/-- The longest runs of characters that are not blank, in order. -/
def words (text : List Char) : List (List Char) :=
  (text.splitOnP isBlank).filter fun word => !word.isEmpty

/-- A string without the blank characters at either end. -/
def trimmed (s : String) : String := String.ofList (trim s.toList)

/-- A string in which nothing but blank characters occurs. -/
def allBlank (s : String) : Bool := s.toList.all isBlank

end RowQuery.Text
