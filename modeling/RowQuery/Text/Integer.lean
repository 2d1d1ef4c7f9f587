import RowQuery.Text.Ascii

/-!
# Integers in a base

Reading an integer that fits into a machine word, written in digits of a base of at most sixteen.
-/

namespace RowQuery.Text

/-- The value of digits in a base, if all of them are digits of it; `value` is that of the digits in
front. -/
def baseDigits? (base : Nat) (value : Nat) : List Char → Option Nat
  | [] => some value
  | c :: rest =>
    match hexValue? c with
    | some digit => if digit < base then baseDigits? base (value * base + digit) rest else none
    | none => none

/-- The integer of at most 64 bits that a text writes in a base: at least one digit behind an
optional plus sign. -/
def baseWord? (base : Nat) (text : List Char) : Option Nat :=
  let digits := match text with
    | '+' :: rest => rest
    | digits => digits
  if digits.isEmpty then none
  else (baseDigits? base 0 digits).filter (· < 0x10000000000000000)

end RowQuery.Text
