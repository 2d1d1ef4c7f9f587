import Mathlib.Data.List.TakeWhile
import RowQuery.Json.Reader
import RowQuery.Proofs.JsonGrammar

/-!
# Strings and integers, spelled and read

A string is read character by character, however each is spelled: its text ends where that of the next character
begins, so whatever follows is left unread (`exists_readString`). An integer is read in front of any text that
does not go on with a number (`readNumber_spelled`).
-/

namespace RowQuery.Json

/-! ## Strings -/

theorem length_le_octetCount (text : List Char) : text.length ≤ Text.Utf8.octetCount text := by
  have counted (n : Nat) : n + text.length ≤ text.foldl (fun n c => n + c.utf8Size) n := by
    induction text generalizing n with
    | nil => exact Nat.le_refl n
    | cons c text ih =>
      have positive := c.utf8Size_pos
      have later := ih (n + c.utf8Size)
      rw [List.length_cons, List.foldl_cons]
      omega
  simpa [Text.Utf8.octetCount] using counted 0

/-- Four hexadecimal digits are read as the number that they write. -/
theorem readHexQuad_of_hexQuad {n : Nat} {quad : List Char} (written : HexQuad n quad) (rest : List Char) :
    readHexQuad (quad ++ rest) = .ok n := by
  cases written with
  | @digits p q r s a b c d first second third fourth =>
    have enough : ¬Text.Utf8.octetCount [p, q, r, s] < 4 := Nat.not_lt.mpr (length_le_octetCount [p, q, r, s])
    have taken : ([p, q, r, s] ++ rest).take 4 = [p, q, r, s] := rfl
    rw [readHexQuad, taken, if_neg enough]
    simp [first, second, third, fourth]

theorem exists_of_hexQuad {n : Nat} {quad : List Char} (written : HexQuad n quad) : ∃ p q r s, quad = [p, q, r, s] := by
  cases written with
  | @digits p q r s => exact ⟨p, q, r, s, rfl⟩

/-- The number of a character is read as the character: it is no surrogate. -/
theorem readEscape_number {c : Char} {quad : List Char} (written : HexQuad c.toNat quad) (rest : List Char) :
    readEscape ('u' :: (quad ++ rest)) = .ok (c, 5) := by
  have scalar : c.toNat < 0xD800 ∨ 0xDFFF < c.toNat ∧ c.toNat < 0x110000 := c.valid
  have notLow : isLowSurrogate c.toNat = false := by
    simp only [isLowSurrogate, Bool.and_eq_false_iff, decide_eq_false_iff_not]
    omega
  have notHigh : isHighSurrogate c.toNat = false := by
    simp only [isHighSurrogate, Bool.and_eq_false_iff, decide_eq_false_iff_not]
    omega
  rw [readEscape, readHexQuad_of_hexQuad written]
  simp [bind, Except.bind, notLow, notHigh]

/-- The numbers of two surrogates are read as the character that they stand for. -/
theorem readEscape_surrogates {c : Char} {high low : Nat} {first second : List Char} (small : high < 0x400)
    (smallToo : low < 0x400) (value : c.toNat = 0x10000 + high * 0x400 + low) (leading : HexQuad (0xD800 + high) first)
    (trailing : HexQuad (0xDC00 + low) second) (rest : List Char) :
    readEscape ('u' :: (first ++ '\\' :: 'u' :: (second ++ rest))) = .ok (c, 11) := by
  have notLow : isLowSurrogate (0xD800 + high) = false := by
    simp only [isLowSurrogate, Bool.and_eq_false_iff, decide_eq_false_iff_not]
    omega
  have isHigh : isHighSurrogate (0xD800 + high) = true := by
    simp only [isHighSurrogate, Bool.and_eq_true, decide_eq_true_iff]
    omega
  have isLow : isLowSurrogate (0xDC00 + low) = true := by
    simp only [isLowSurrogate, Bool.and_eq_true, decide_eq_true_iff]
    omega
  have partner : readLowSurrogate ('\\' :: 'u' :: (second ++ rest)) = .ok (0xDC00 + low) := by
    rw [readLowSurrogate, readHexQuad_of_hexQuad trailing]
    simp [bind, Except.bind, isLow]
  have named : Char.ofNat (0x10000 + (0xD800 + high - 0xD800) * 0x400 + (0xDC00 + low - 0xDC00)) = c := by
    rw [Nat.add_sub_cancel_left, Nat.add_sub_cancel_left, ← value, Char.ofNat_toNat]
  have read := readHexQuad_of_hexQuad leading ('\\' :: 'u' :: (second ++ rest))
  obtain ⟨p, q, r, s, rfl⟩ := exists_of_hexQuad leading
  rw [readEscape, read]
  simp only [bind, Except.bind, notLow, isHigh, Bool.false_eq_true, if_false, if_true, List.cons_append,
    List.nil_append, List.drop_succ_cons, List.drop_zero, partner, named]

/-- A character is read from each of the texts that spell it. -/
theorem readStringFrom_spelled {c : Char} {text : List Char} (spelled : SpellsChar c text) (taken rest : List Char) :
    readStringFrom taken 0 (text ++ rest) = readStringFrom (c :: taken) 0 rest := by
  cases spelled with
  | itself notQuote notBackslash visible =>
    rw [List.singleton_append, readStringFrom, if_neg notQuote, if_neg notBackslash, if_neg (Nat.not_lt.mpr visible)]
  | letter short =>
    simp only [shortEscapes, List.mem_cons, Prod.mk.injEq, List.not_mem_nil, or_false] at short
    rcases short with ⟨rfl, rfl⟩ | ⟨rfl, rfl⟩ | ⟨rfl, rfl⟩ | ⟨rfl, rfl⟩ | ⟨rfl, rfl⟩ | ⟨rfl, rfl⟩ | ⟨rfl, rfl⟩ |
      ⟨rfl, rfl⟩ <;> rfl
  | number written =>
    have read := readEscape_number written rest
    obtain ⟨p, q, r, s, rfl⟩ := exists_of_hexQuad written
    rw [List.cons_append, List.cons_append, readStringFrom, if_neg (by decide), if_pos rfl, read]
    rfl
  | surrogates small smallToo value leading trailing =>
    have read := readEscape_surrogates small smallToo value leading trailing rest
    obtain ⟨p, q, r, s, rfl⟩ := exists_of_hexQuad leading
    obtain ⟨p', q', r', s', rfl⟩ := exists_of_hexQuad trailing
    simp only [List.cons_append, List.nil_append] at read ⊢
    rw [readStringFrom, if_neg (by decide), if_pos rfl, read]
    rfl

theorem readStringFrom_pieces {chars : List Char} {pieces : List (List Char)}
    (spelled : List.Forall₂ SpellsChar chars pieces) (taken rest : List Char) :
    readStringFrom taken 0 (pieces.flatten ++ '"' :: rest) = .ok (taken.reverse ++ chars, rest) := by
  induction spelled generalizing taken with
  | nil => simp [readStringFrom]
  | cons first _ ih =>
    rw [List.flatten_cons, List.append_assoc, readStringFrom_spelled first, ih]
    simp

/-- A string is read from each text that spells it, up to the closing quote. -/
theorem exists_readString {s : String} {text : List Char} (spelled : SpellsString s text) :
    ∃ inner, text = '"' :: inner ∧ ∀ rest, readString (inner ++ rest) = .ok (s, rest) := by
  obtain ⟨pieces, each, rfl⟩ := spelled
  refine ⟨_, rfl, ?_⟩
  intro rest
  rw [readString, List.append_assoc, List.singleton_append, readStringFrom_pieces each]
  simp [Except.map]

/-! ## Integers -/

/-- A text that does not go on with the number in front of it. -/
def EndsNumber (rest : List Char) : Prop :=
  ∀ c ∈ rest.head?, c.isDigit = false ∧ c ≠ '.' ∧ c ≠ 'e' ∧ c ≠ 'E'

theorem le_ofDigitChars (digits : List Char) (s : Nat) : s ≤ Nat.ofDigitChars 10 digits s := by
  rw [Nat.ofDigitChars_eq_ofDigitChars_zero]
  have grows := Nat.le_mul_of_pos_left s (Nat.pow_pos (n := digits.length) (show 0 < 10 by decide))
  omega

section
-- Whether a digit still fits is left open here: unfolded, the test compares numbers of 64 bits in unary.
attribute [local irreducible] extend?

theorem gather_cons (s : Nat) (digit : Char) (rest : List Char) :
    gather s (digit :: rest) =
      match extend? s digit with
      | some next => gather next rest
      | none => (s, rest.length + 1) := rfl

end

/-- Digits whose number fits a word are all taken into the significand. -/
theorem gather_fits {digits : List Char} {s : Nat} (fits : Nat.ofDigitChars 10 digits s < 0x10000000000000000) :
    gather s digits = (Nat.ofDigitChars 10 digits s, 0) := by
  induction digits generalizing s with
  | nil => rfl
  | cons digit rest ih =>
    rw [Nat.ofDigitChars_cons, Nat.mul_comm] at fits
    have small : s * 10 + (digit.toNat - 48) < 0x10000000000000000 := Nat.lt_of_le_of_lt (le_ofDigitChars rest _) fits
    have extended : extend? s digit = some (s * 10 + (digit.toNat - 48)) := if_pos small
    rw [gather_cons, extended, Nat.ofDigitChars_cons, Nat.mul_comm 10 s]
    exact ih fits

theorem takeWhile_isDigit {digits rest : List Char} (all : ∀ c ∈ digits, c.isDigit = true) (ends : EndsNumber rest) :
    (digits ++ rest).takeWhile Char.isDigit = digits ∧ (digits ++ rest).dropWhile Char.isDigit = rest := by
  rw [List.takeWhile_append_of_pos all, List.dropWhile_append_of_pos all]
  cases rest with
  | nil => simp
  | cons c rest =>
    have other := (ends c rfl).1
    simp [other]

/-- Digits that write a number which fits a word are read up to their end. -/
theorem readUnsigned_digits (negative : Bool) {n : Nat} {digits : List Char} (spelled : SpellsNat n digits)
    (fits : n < 0x10000000000000000) {rest : List Char} (ends : EndsNumber rest) :
    readUnsigned negative (digits ++ rest) = wholeNumber negative n rest := by
  obtain ⟨taken, left⟩ := takeWhile_isDigit spelled.decimal ends
  have gathered : gather 0 digits = (n, 0) := by
    rw [gather_fits (spelled.value.symm ▸ fits), spelled.value]
  have noZero : (digits.head? = some '0' && 1 < digits.length) = false := by
    rw [Bool.and_eq_false_iff, decide_eq_false_iff_not, decide_eq_false_iff_not]
    exact (Nat.lt_or_ge 1 digits.length).imp spelled.plain Nat.not_lt.mpr
  rw [readUnsigned, taken, left]
  simp only [List.isEmpty_iff, spelled.nonempty, noZero, gathered]
  rcases rest with _ | ⟨c, rest⟩
  · rfl
  · obtain ⟨_, notPoint, notLower, notUpper⟩ := ends c rfl
    simp [notPoint, notLower, notUpper]

theorem wholeNumber_eq {negative : Bool} {s : Nat} {n : Int} (value : (if negative then -s else s : Int) = n)
    (fits : FitsWord n) (notMinusZero : ¬(negative = true ∧ s = 0)) (rest : List Char) :
    wholeNumber negative s rest = .ok (.int n fits, rest) := by
  subst value
  rw [wholeNumber]
  rw [dif_pos ⟨fits, notMinusZero⟩]

theorem ne_minus_of_isDigit {c : Char} (digit : c.isDigit = true) : c ≠ '-' := by
  rintro rfl
  cases digit

/-- An integer is read from each text that spells it, in front of whatever is no part of it. -/
theorem readNumber_spelled {n : Int} {text : List Char} (spelled : SpellsInt n text) (fits : FitsWord n)
    {rest : List Char} (ends : EndsNumber rest) : readNumber (text ++ rest) = .ok (.int n fits, rest) := by
  have bounds : -0x8000000000000000 ≤ n ∧ n < 0x10000000000000000 := fits
  cases spelled with
  | @natural n digits spelled =>
    have unsigned : readNumber (text ++ rest) = readUnsigned false (text ++ rest) := by
      obtain ⟨c, more, rfl⟩ := List.exists_cons_of_ne_nil spelled.nonempty
      rw [List.cons_append, readNumber]
      exact fun _ minus => absurd (List.cons.inj minus).1 (ne_minus_of_isDigit (spelled.decimal c List.mem_cons_self))
    rw [unsigned, readUnsigned_digits false spelled (by omega) ends]
    exact @wholeNumber_eq false n n rfl fits (fun minusZero => Bool.false_ne_true minusZero.1) rest
  | @negative n digits positive spelled =>
    rw [List.cons_append, readNumber, readUnsigned_digits true spelled (by omega) ends]
    exact @wholeNumber_eq true n (-n) rfl fits (by omega) rest

end RowQuery.Json
