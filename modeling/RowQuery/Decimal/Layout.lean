import RowQuery.Decimal.Shortest

/-!
# How a number is laid out

The shortest digits of a double, written with or without an exponent. A layout is one record; the
formats that write numbers state theirs next to their own definitions.
-/

namespace RowQuery.Decimal

/-- The choices a format makes when it writes a number. `positional` bounds the power of ten of the
first digit for which the number is written without an exponent: the lower bound belongs to it, the
upper one does not. Without bounds it is always written so. `wholePoint` puts `.0` behind a whole
number. -/
structure Layout where
  tie : Tie
  positional : Option (Int × Int)
  wholePoint : Bool

/-- Digits without an exponent, where the first one counts `10 ^ first`. -/
def Layout.plain (layout : Layout) (digits : List Char) (first : Int) : List Char :=
  if first < 0 then
    "0.".toList ++ List.replicate (-first - 1).toNat '0' ++ digits
  else
    let whole := first.toNat + 1
    if digits.length ≤ whole then
      digits ++ List.replicate (whole - digits.length) '0' ++
        (if layout.wholePoint then ".0".toList else [])
    else digits.take whole ++ '.' :: digits.drop whole

/-- Digits with an exponent, whose sign is always written. -/
def scientific (digits : List Char) (first : Int) : List Char :=
  digits.take 1 ++ (if digits.length ≤ 1 then [] else '.' :: digits.drop 1) ++
    'e' :: (if first < 0 then '-' else '+') :: Text.decimalDigits first.natAbs

/-- The text of a finite double. -/
def Layout.write (layout : Layout) (x : Float) : List Char :=
  let sign := if 0x8000000000000000 ≤ x.toBits.toNat then ['-'] else []
  if x == 0.0 then sign ++ (if layout.wholePoint then "0.0".toList else ['0'])
  else
    let d := shortest layout.tie x
    let digits := Text.decimalDigits d.digits
    let first := d.exponent + digits.length - 1
    let positional := match layout.positional with
      | none => true
      | some (low, high) => low ≤ first && first < high
    sign ++ (if positional then layout.plain digits first else scientific digits first)

end RowQuery.Decimal
