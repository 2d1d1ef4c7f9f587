import RowQuery.Json.Basic
import RowQuery.Json.Fault
import RowQuery.Text.Ascii
import RowQuery.Decimal.Rounding

/-!
# Reading JSON numbers

An integer that fits 64 bits is kept exactly. Any other number becomes a double by a quick rule that
need not yield the nearest one: as many leading digits as fit a 64-bit word are taken for the
significand, rounded to a double, and multiplied or divided once by a rounded power of ten.
-/

namespace RowQuery.Json

/-- The significand `s` goes on with a digit, if it still fits 64 bits. -/
def extend? (s : Nat) (digit : Char) : Option Nat :=
  let next := s * 10 + (digit.toNat - 48)
  if next < 0x10000000000000000 then some next else none

/-- The significand after as many of the digits as fit, and how many digits are left over from the
first that does not. -/
def gather (s : Nat) : List Char → Nat × Nat
  | [] => (s, 0)
  | digit :: rest =>
    match extend? s digit with
    | some next => gather next rest
    | none => (s, rest.length + 1)

/-- The double nearest to a power of ten. -/
def powerOfTen (exponent : Nat) : Float := Decimal.nearest 1 exponent

/-- A double divided by a power of ten, in steps of at most `10 ^ 308`. A significand of 64 bits is
used up after two whole steps. -/
def divideByPower (x : Float) : Nat → Nat → Float
  | 0, exponent => x / powerOfTen exponent
  | steps + 1, exponent =>
    if exponent ≤ 308 || x == 0.0 then x / powerOfTen (min exponent 308)
    else divideByPower (x / powerOfTen 308) steps (exponent - 308)

/-- The double for a significand and an exponent; none where it is infinite. -/
def scaled? (s : Nat) (exponent : Int) : Option Float :=
  let x := Float.ofNat s
  if exponent < 0 then some (divideByPower x 2 exponent.natAbs)
  else if 308 < exponent then if s = 0 then some 0 else none
  else
    let y := x * powerOfTen exponent.toNat
    if y.isFinite then some y else none

/-- The number for a finite double with a sign. -/
def floatNumber? (negative : Bool) (x : Float) : Option Number :=
  let y := if negative then -x else x
  if h : y.isFinite = true then some (.float y h) else none

/-- The number that a significand and an exponent stand for, in front of the rest of the text. -/
def readScaled (negative : Bool) (s : Nat) (exponent : Int) (rest : List Char) : Reading Number :=
  match (scaled? s exponent).bind (floatNumber? negative) with
  | some n => .ok (n, rest)
  | none => .error (.behind .numberOutOfRange rest)

/-- The number that digits without fraction and exponent write. Minus zero and what does not fit 64
bits are doubles. -/
def wholeNumber (negative : Bool) (s : Nat) (rest : List Char) : Reading Number :=
  let n : Int := if negative then -s else s
  if h : FitsWord n ∧ ¬(negative = true ∧ s = 0) then .ok (.int n h.1, rest)
  else readScaled negative s 0 rest

/-- The largest exponent that is reckoned with. -/
def exponentLimit : Nat := 0x7FFFFFFF

/-- The value of exponent digits, or the digits behind the one that exceeds the limit. -/
def gatherExponent (e : Nat) : List Char → Except (List Char) Nat
  | [] => .ok e
  | digit :: rest =>
    let next := e * 10 + (digit.toNat - 48)
    if next ≤ exponentLimit then gatherExponent next rest else .error rest

/-- The exponent whose letter has just been read, and with it the number. -/
def readExponent (negative : Bool) (s : Nat) (start : Int) (text : List Char) : Reading Number :=
  let (down, text) := match text with
    | '+' :: rest => (false, rest)
    | '-' :: rest => (true, rest)
    | rest => (false, rest)
  let digits := text.takeWhile Char.isDigit
  let rest := text.dropWhile Char.isDigit
  if digits.isEmpty then
    .error (.next (if text.isEmpty then .endInValue else .invalidNumber) text)
  else
    match gatherExponent 0 digits with
    | .ok e => readScaled negative s (if down then start - e else start + e) rest
    | .error left =>
      if s = 0 || down then readScaled negative 0 0 rest
      else .error (.behind .numberOutOfRange (left ++ rest))

/-- What may follow the digits of a number: an exponent or the end of it. -/
def readScale (negative : Bool) (s : Nat) (start : Int) (text : List Char) : Reading Number :=
  match text with
  | 'e' :: rest => readExponent negative s start rest
  | 'E' :: rest => readExponent negative s start rest
  | rest => readScaled negative s start rest

/-- The fraction whose point has just been read, and with it the number. -/
def readFraction (negative : Bool) (s : Nat) (start : Int) (text : List Char) : Reading Number :=
  let digits := text.takeWhile Char.isDigit
  if digits.isEmpty then
    .error (.next (if text.isEmpty then .endInValue else .invalidNumber) text)
  else
    let (s, left) := gather s digits
    readScale negative s (start - (digits.length - left : Nat)) (text.dropWhile Char.isDigit)

/-- The number at the head of a text without sign. -/
def readUnsigned (negative : Bool) (text : List Char) : Reading Number :=
  let digits := text.takeWhile Char.isDigit
  let rest := text.dropWhile Char.isDigit
  if digits.isEmpty then
    .error (.next (if text.isEmpty then .endInValue else .invalidNumber) text)
  else if digits.head? = some '0' && 1 < digits.length then
    .error (.next .invalidNumber (text.drop 1))
  else
    let (s, left) := gather 0 digits
    match rest with
    | '.' :: after => readFraction negative s left after
    | 'e' :: _ => readScale negative s left rest
    | 'E' :: _ => readScale negative s left rest
    | _ => if left = 0 then wholeNumber negative s rest else readScaled negative s left rest

/-- The number at the head of a text. -/
def readNumber : List Char → Reading Number
  | '-' :: rest => readUnsigned true rest
  | text => readUnsigned false text

end RowQuery.Json
