import RowQuery.Text.Ascii

/-!
# Shortest decimal of a binary number

A finite double stands for every real number nearer to it than to its neighbours. Of the decimals
among these the ones with the fewest digits are looked for, and of those the nearest is taken. All
arithmetic is on natural numbers.
-/

namespace RowQuery.Decimal

/-- The positive number `significand · 2 ^ exponent`. Below a power of two the doubles lie twice as
close as above it; `closerBelow` marks such a number. -/
structure Binary where
  significand : Nat
  exponent : Int
  closerBelow : Bool

/-- The number `digits · 10 ^ exponent`. -/
structure Numeral where
  digits : Nat
  exponent : Int

/-- Which of two decimals to take when both are equally near. -/
inductive Tie where
  | toEven
  | up

/-- The magnitude of a finite double that is not zero. -/
def Binary.ofFloat (x : Float) : Binary :=
  let bits := x.toBits.toNat
  let fraction := bits % 0x10000000000000
  let biased : Nat := bits / 0x10000000000000 % 0x800
  if biased = 0 then ⟨fraction, -1074, false⟩
  else ⟨0x10000000000000 + fraction, (biased : Int) - 1075, fraction = 0 && 1 < biased⟩

/-- A number and the ends of the interval of reals that round to it, over one denominator. The ends
belong to the interval when the significand is even. -/
structure Interval where
  low : Nat
  value : Nat
  high : Nat
  denominator : Nat
  closed : Bool

/-- The reals that round to a binary number. -/
def Binary.interval (b : Binary) : Interval :=
  let up := Nat.pow 2 (b.exponent - 2).toNat
  { low := (4 * b.significand - if b.closerBelow then 1 else 2) * up
    value := 4 * b.significand * up
    high := (4 * b.significand + 2) * up
    denominator := Nat.pow 2 (2 - b.exponent).toNat
    closed := b.significand % 2 = 0 }

/-- A multiple of `10 ^ exponent` that lies in the interval: of the two that enclose the value, the
one inside, and of two inside the nearer. -/
def Interval.pick (i : Interval) (tie : Tie) (exponent : Int) : Option Nat :=
  let scale := Nat.pow 10 (-exponent).toNat
  let unit := Nat.pow 10 exponent.toNat * i.denominator
  let inside (n : Nat) : Bool :=
    let x := n * unit
    (i.low * scale < x || (i.closed && i.low * scale = x)) &&
      (x < i.high * scale || (i.closed && x = i.high * scale))
  let below := i.value * scale / unit
  let above := below + 1
  match inside below, inside above with
  | false, false => none
  | true, false => some below
  | false, true => some above
  | true, true =>
    let down := i.value * scale - below * unit
    let rise := above * unit - i.value * scale
    if down < rise then some below
    else if rise < down then some above
    else match tie with
      | .up => some above
      | .toEven => some (if below % 2 = 0 then below else above)

/-- The first decimal in the interval on ever finer grids, from the given exponent downwards. -/
def Interval.search (i : Interval) (tie : Tie) : Nat → Int → Numeral
  | 0, exponent =>
    ⟨i.value * Nat.pow 10 (-exponent).toNat / (Nat.pow 10 exponent.toNat * i.denominator), exponent⟩
  | grids + 1, exponent =>
    match i.pick tie exponent with
    | some digits => ⟨digits, exponent⟩
    | none => i.search tie grids (exponent - 1)

/-- An exponent whose power of ten is at least the value. -/
def Interval.ceiling (i : Interval) : Int :=
  if i.denominator ≤ i.value then (Text.decimalDigits (i.value / i.denominator)).length
  else 1 - (Text.decimalDigits (i.denominator / i.value)).length

/-- The shortest decimal that rounds to a finite double that is not zero. Seventeen digits always
suffice. -/
def shortest (tie : Tie) (x : Float) : Numeral :=
  let i := (Binary.ofFloat x).interval
  i.search tie 18 i.ceiling

end RowQuery.Decimal
