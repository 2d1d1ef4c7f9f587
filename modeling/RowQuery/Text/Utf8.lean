/-!
# UTF-8

Octets to characters and back. A sequence of octets is first cut into pieces, each a character or a
stretch that no character begins with; strict decoding reports the first such stretch and where it
starts, lenient decoding puts a replacement character for each.
-/

namespace RowQuery.Text.Utf8

/-- A part of an octet sequence: a character, `length` octets that no character can begin with or
go on with, or the beginning of a character that the sequence ends in. -/
inductive Piece where
  | char (c : Char)
  | invalid (length : Nat)
  | cut (length : Nat)

/-- A character of which `seen` octets are read: the bits so far, and the bounds of each octet to
come. -/
structure Pending where
  code : Nat
  seen : Nat
  owed : List (Nat × Nat)

/-- The bounds of an octet that goes on with a character and is not further restricted. -/
def tail : Nat × Nat := (0x80, 0xBF)

/-- What an octet announces as the first of a character. The second octet is bounded more narrowly
after four of them, so that no character is too long, a surrogate or above U+10FFFF. -/
def lead (b : Nat) : Option Pending :=
  if b ≤ 0x7F then some ⟨b, 1, []⟩
  else if 0xC2 ≤ b ∧ b ≤ 0xDF then some ⟨b - 0xC0, 1, [tail]⟩
  else if b = 0xE0 then some ⟨0, 1, [(0xA0, 0xBF), tail]⟩
  else if b = 0xED then some ⟨0xD, 1, [(0x80, 0x9F), tail]⟩
  else if 0xE1 ≤ b ∧ b ≤ 0xEF then some ⟨b - 0xE0, 1, [tail, tail]⟩
  else if b = 0xF0 then some ⟨0, 1, [(0x90, 0xBF), tail, tail]⟩
  else if 0xF1 ≤ b ∧ b ≤ 0xF3 then some ⟨b - 0xF0, 1, [tail, tail, tail]⟩
  else if b = 0xF4 then some ⟨4, 1, [(0x80, 0x8F), tail, tail]⟩
  else none

/-- The pieces of a sequence, after those in `done`, latest first. -/
def piecesFrom (done : List Piece) : Option Pending → List UInt8 → List Piece
  | none, [] => done.reverse
  | some p, [] => (.cut p.seen :: done).reverse
  | pending, b :: rest =>
    let start (done : List Piece) : List Piece × Option Pending :=
      match lead b.toNat with
      | none => (.invalid 1 :: done, none)
      | some ⟨code, _, []⟩ => (.char (Char.ofNat code) :: done, none)
      | some p => (done, some p)
    let (done, pending) : List Piece × Option Pending :=
      match pending with
      | none => start done
      | some ⟨_, _, []⟩ => start done
      | some ⟨code, seen, (low, high) :: owed⟩ =>
        if low ≤ b.toNat ∧ b.toNat ≤ high then
          let code := code * 64 + b.toNat % 64
          if owed.isEmpty then (.char (Char.ofNat code) :: done, none)
          else (done, some ⟨code, seen + 1, owed⟩)
        else start (.invalid seen :: done)
    piecesFrom done pending rest

/-- The pieces of a sequence of octets. -/
def pieces (octets : List UInt8) : List Piece := piecesFrom [] none octets

/-- Why octets are no text. -/
inductive Fault where
  | invalid (length index : Nat)
  | incomplete (index : Nat)
  deriving DecidableEq, Repr

/-- The wording of a fault. -/
def Fault.message : Fault → String
  | .invalid length index =>
    "invalid utf-8 sequence of " ++ toString length ++ " bytes from index " ++ toString index
  | .incomplete index => "incomplete utf-8 byte sequence from index " ++ toString index

/-- The characters of the pieces, or the first fault; `index` octets lie before the pieces. -/
def strict (index : Nat) (done : List Char) : List Piece → Except Fault (List Char)
  | [] => .ok done.reverse
  | .char c :: rest => strict (index + c.utf8Size) (c :: done) rest
  | .invalid length :: _ => .error (.invalid length index)
  | .cut _ :: _ => .error (.incomplete index)

/-- The text that the octets encode. -/
def decode (octets : List UInt8) : Except Fault String :=
  (strict 0 [] (pieces octets)).map String.ofList

/-- The text that the octets encode, with U+FFFD for each piece that is no character. -/
def decodeLenient (octets : List UInt8) : String :=
  String.ofList <| (pieces octets).map fun
    | .char c => c
    | _ => '\uFFFD'

/-- The octets of a text. -/
def encode (s : String) : List UInt8 := s.toUTF8.data.toList

/-- Octets seen as the characters of the same numbers. -/
def asChars (octets : List UInt8) : List Char := octets.map fun b => Char.ofNat b.toNat

/-- The octets that are seen as characters. -/
def ofChars (chars : List Char) : List UInt8 := chars.map fun c => UInt8.ofNat c.toNat

/-- How many octets a text takes. -/
def octetCount (text : List Char) : Nat := text.foldl (fun n c => n + c.utf8Size) 0

end RowQuery.Text.Utf8
