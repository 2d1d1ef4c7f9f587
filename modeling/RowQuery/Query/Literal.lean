import RowQuery.Decimal.Rounding
import RowQuery.Text.Blank
import RowQuery.Text.Integer

/-!
# Text as a number

The number that a filter value stands for when the cell beside it is no text. Blank text counts as
zero; besides decimals there are three spellings of infinity and integers in three other bases.
Whatever else is no number.
-/

namespace RowQuery.Query

/-- The base that the letter behind a leading zero announces. -/
def base? (c : Char) : Option Nat :=
  if c = 'x' ∨ c = 'X' then some 16
  else if c = 'o' ∨ c = 'O' then some 8
  else if c = 'b' ∨ c = 'B' then some 2
  else none

/-- A decimal without any letter but that of the exponent. -/
def decimalValue (text : List Char) : Float :=
  if text.any fun c => c.isAlpha && c != 'e' && c != 'E' then Decimal.notANumber
  else (Decimal.read? text).getD Decimal.notANumber

/-- The number that a text without surrounding blanks stands for. -/
def trimmedValue (text : List Char) : Float :=
  if text = [] then 0
  else if text = "Infinity".toList ∨ text = "+Infinity".toList then Decimal.infinity
  else if text = "-Infinity".toList then -Decimal.infinity
  else
    match text with
    | '0' :: c :: rest =>
      match base? c with
      | some base =>
        match Text.baseWord? base rest with
        | some n => Float.ofNat n
        | none => Decimal.notANumber
      | none => decimalValue text
    | _ => decimalValue text

/-- The number that a text stands for. -/
def numericValue (text : String) : Float := trimmedValue (Text.trim text.toList)

end RowQuery.Query
