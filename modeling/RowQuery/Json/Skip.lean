import RowQuery.Json.Fault
import RowQuery.Text.Ascii

/-!
# Passing over JSON

A value that nobody asks for is passed over. Only its form is looked at: numbers may be too large,
surrogates may stand alone, and nesting has no limit.
-/

namespace RowQuery.Json

/-- How many characters of the text behind a backslash belong to the escape. -/
def escapeWidth? : List Char → Option Nat
  | 'u' :: rest =>
    match rest.take 4 |>.mapM Text.hexValue? with
    | some [_, _, _, _] => some 5
    | _ => none
  | c :: _ => if "\"\\/bfnrt".toList.contains c then some 1 else none
  | [] => none

/-- The text behind the quote that ends a string; the first `skip` characters belong to an escape
already passed. -/
def skipStringFrom (skip : Nat) : List Char → Option (List Char)
  | [] => none
  | c :: rest =>
    match skip with
    | skip + 1 => skipStringFrom skip rest
    | 0 =>
      if c = '"' then some rest
      else if c = '\\' then (escapeWidth? rest).bind fun width => skipStringFrom width rest
      else if c.toNat < 0x20 then none
      else skipStringFrom 0 rest

/-- The text behind digits, of which there must be one. -/
def skipDigits (text : List Char) : Option (List Char) :=
  if (text.takeWhile Char.isDigit).isEmpty then none else some (text.dropWhile Char.isDigit)

/-- The text behind the digits of an integer, which has no needless zero in front. -/
def skipInteger : List Char → Option (List Char)
  | '0' :: c :: rest => if c.isDigit then none else some (c :: rest)
  | text => skipDigits text

/-- The text behind a fraction, if one stands at its head. -/
def skipFraction : List Char → Option (List Char)
  | '.' :: rest => skipDigits rest
  | text => some text

/-- The text behind an exponent, if one stands at its head. -/
def skipExponent : List Char → Option (List Char)
  | c :: rest =>
    if c = 'e' ∨ c = 'E' then
      match rest with
      | '+' :: digits => skipDigits digits
      | '-' :: digits => skipDigits digits
      | digits => skipDigits digits
    else some (c :: rest)
  | [] => some []

/-- The text behind a number. -/
def skipNumber (text : List Char) : Option (List Char) :=
  let unsigned := match text with
    | '-' :: rest => rest
    | rest => rest
  (skipInteger unsigned).bind fun rest => (skipFraction rest).bind skipExponent

/-- The text behind a word that must stand at its head. -/
def skipWord (word text : List Char) : Option (List Char) :=
  if word.isPrefixOf text then some (text.drop word.length) else none

mutual

/-- The text behind a value. -/
def skipValue : Nat → List Char → Option (List Char)
  | 0, _ => none
  | budget + 1, text =>
    match skipSpaces text with
    | [] => none
    | '"' :: rest => skipStringFrom 0 rest
    | 'n' :: rest => skipWord "ull".toList rest
    | 't' :: rest => skipWord "rue".toList rest
    | 'f' :: rest => skipWord "alse".toList rest
    | '[' :: rest =>
      match skipSpaces rest with
      | ']' :: rest => some rest
      | next => skipItems budget next
    | '{' :: rest =>
      match skipSpaces rest with
      | '}' :: rest => some rest
      | next => skipMembers budget next
    | c :: rest => if c = '-' || c.isDigit then skipNumber (c :: rest) else none

/-- The text behind the items of an array and its closing bracket. -/
def skipItems : Nat → List Char → Option (List Char)
  | 0, _ => none
  | budget + 1, text =>
    match skipValue budget text with
    | none => none
    | some rest =>
      match skipSpaces rest with
      | ']' :: rest => some rest
      | ',' :: rest => skipItems budget rest
      | _ => none

/-- The text behind the members of an object and its closing bracket. -/
def skipMembers : Nat → List Char → Option (List Char)
  | 0, _ => none
  | budget + 1, text =>
    match skipSpaces text with
    | '"' :: rest =>
      match (skipStringFrom 0 rest).map skipSpaces with
      | some (':' :: rest) =>
        match skipValue budget rest with
        | none => none
        | some rest =>
          match skipSpaces rest with
          | '}' :: rest => some rest
          | ',' :: rest => skipMembers budget rest
          | _ => none
      | _ => none
    | _ => none

end

/-- The text behind the value at its head, if there is one. Each step of the descent into a value
either passes a character or is followed by one that does. -/
def skip (text : List Char) : Option (List Char) := skipValue (2 * text.length + 1) text

end RowQuery.Json
