import RowQuery.Text.Ascii

/-!
# Hosts by number

The hosts that the service can listen on: an IPv4 address, or an IPv6 address in square brackets.
Names are not looked up.
-/

namespace RowQuery.Service

/-- A number from 0 to 255 without needless zeros. -/
def isOctet (text : List Char) : Bool :=
  text != [] && text.all Char.isDigit && text.length ≤ 3 && Text.digitsValue text ≤ 255 &&
    (text == ['0'] || text.head? != some '0')

/-- An IPv4 address. -/
def isIPv4 (text : List Char) : Bool :=
  let octets := text.splitOn '.'
  octets.length == 4 && octets.all isOctet

/-- Sixteen bits in one to four hexadecimal digits. -/
def isGroup (text : List Char) : Bool :=
  text != [] && text.length ≤ 4 && text.all fun c => (Text.hexValue? c).isSome

/-- The pieces of a text between colons. -/
def pieces (text : List Char) : List (List Char) := if text = [] then [] else text.splitOn ':'

/-- How many groups pieces write. An IPv4 address can stand for the last two. -/
def groupCount? : List (List Char) → Option Nat
  | [] => some 0
  | [piece] => if isGroup piece then some 1 else if isIPv4 piece then some 2 else none
  | piece :: rest => if isGroup piece then (groupCount? rest).map (· + 1) else none

/-- An IPv6 address: eight groups, or fewer with a double colon for the missing ones. -/
def isIPv6 (text : List Char) : Bool :=
  match Text.find? [':', ':'] text with
  | none => groupCount? (pieces text) == some 8
  | some n =>
    let head := pieces (text.take n)
    match groupCount? (pieces (text.drop (n + 2))) with
    | some count => head.all isGroup && head.length + count ≤ 7
    | none => false

/-- A scope of 32 bits behind a percent sign, or nothing. -/
def isScope : List Char → Bool
  | [] => true
  | '%' :: digits =>
    digits != [] && digits.all Char.isDigit && Text.digitsValue digits < 0x100000000
  | _ => false

/-- An IPv6 address in square brackets, with or without a scope. -/
def isBracketed : List Char → Bool
  | '[' :: rest =>
    match rest.reverse with
    | ']' :: body =>
      let text := body.reverse
      isIPv6 (text.takeWhile (· != '%')) && isScope (text.dropWhile (· != '%'))
    | _ => false
  | _ => false

/-- A host that can be listened on. -/
def isHost (host : String) : Bool := isIPv4 host.toList || isBracketed host.toList

end RowQuery.Service
