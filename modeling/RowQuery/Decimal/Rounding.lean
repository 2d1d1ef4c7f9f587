import RowQuery.Text.Ascii

/-!
# Reading decimals

The plain decimal notation, with an optional sign, fraction and exponent, and the double nearest to
the number it writes.
-/

namespace RowQuery.Decimal

/-- Positive infinity. -/
def infinity : Float := Float.ofBits 0x7FF0000000000000

/-- What is no number. -/
def notANumber : Float := Float.ofBits 0x7FF8000000000000

/-- The double nearest to `digits · 10 ^ exponent`. From `10 ^ 310` on everything is infinite and
below `10 ^ -330` everything is zero, so that only moderate powers are computed. -/
def nearest (digits : Nat) (exponent : Int) : Float :=
  let count : Int := (Text.decimalDigits digits).length
  if digits = 0 then 0
  else if 310 < count + exponent then infinity
  else if count + exponent < -330 then 0
  else Float.ofScientific digits (exponent < 0) exponent.natAbs

/-- The exponent part of a decimal, from its letter on. The text must end behind it. -/
def exponentPart? : List Char → Option Int
  | [] => some 0
  | c :: rest =>
    if c != 'e' && c != 'E' then none
    else
      let (negative, digits) := match rest with
        | '-' :: digits => (true, digits)
        | '+' :: digits => (false, digits)
        | digits => (false, digits)
      if digits.isEmpty || !digits.all Char.isDigit then none
      else
        let n : Int := Text.digitsValue digits
        some (if negative then -n else n)

/-- The double nearest to a decimal without sign. At least one digit must stand before or behind
the point. -/
def unsigned? (text : List Char) : Option Float :=
  let whole := text.takeWhile Char.isDigit
  let (fraction, rest) := match text.dropWhile Char.isDigit with
    | '.' :: rest => (rest.takeWhile Char.isDigit, rest.dropWhile Char.isDigit)
    | rest => ([], rest)
  if whole.isEmpty && fraction.isEmpty then none
  else (exponentPart? rest).map fun exponent =>
    nearest (Text.digitsValue (whole ++ fraction)) (exponent - fraction.length)

/-- The double nearest to a decimal. -/
def read? : List Char → Option Float
  | '-' :: rest => (unsigned? rest).map Float.neg
  | '+' :: rest => unsigned? rest
  | text => unsigned? text

end RowQuery.Decimal
