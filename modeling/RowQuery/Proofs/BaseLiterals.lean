import RowQuery.Proofs.Comparisons
import RowQuery.Proofs.Cutting
import RowQuery.Proofs.Searching

/-!
# Numbers in other bases

A filter value can announce a base by a letter behind a zero. What follows has to be digits of the base, and
there may be one plus sign in front of them (`baseWord?_eq_some_iff`). A value with anything else, or with a
number of more than 64 bits, stands for no number, so a number or truth value passes no comparison with it;
with any other it passes just one (`readsBase_passing`). A value with a plus sign is more than the digits
that its base calls for, and counts all the same (`plus_is_no_digit`).
-/

namespace RowQuery

namespace Text

/-! ## Digits -/

theorem toNat_digitChar : ∀ d < 16, (Nat.digitChar d).toNat = if d < 10 then d + 48 else d + 87 := by decide

/-- A hexadecimal digit is the character of its value, in either letter case. -/
theorem hexValue?_eq_some_iff (c : Char) (d : Nat) : hexValue? c = some d ↔ d < 16 ∧ c.toLower = Nat.digitChar d := by
  have lower : ('a' ≤ c ∧ c ≤ 'f') ↔ 97 ≤ c.toNat ∧ c.toNat ≤ 102 := by
    rw [Char.le_def, Char.le_def, UInt32.le_iff_toNat_le, UInt32.le_iff_toNat_le]; rfl
  have upper : ('A' ≤ c ∧ c ≤ 'F') ↔ 65 ≤ c.toNat ∧ c.toNat ≤ 70 := by
    rw [Char.le_def, Char.le_def, UInt32.le_iff_toNat_le, UInt32.le_iff_toNat_le]; rfl
  have decimal : c.isDigit = true ↔ 48 ≤ c.toNat ∧ c.toNat ≤ 57 := Char.isDigit_iff_toNat
  have written (small : d < 16) : c.toLower = Nat.digitChar d ↔
      (if 65 ≤ c.toNat ∧ c.toNat ≤ 90 then c.toNat + 32 else c.toNat) = if d < 10 then d + 48 else d + 87 := by
    rw [← Char.toNat_inj, toNat_toLower, toNat_digitChar d small]
  rw [and_congr_right written, hexValue?]
  simp only [decimal, lower, upper]
  split <;> grind

/-- Digits of a base one after the other, given by their values; the most significant comes first. -/
structure DigitRun (base : Nat) (text : List Char) (digits : List Nat) : Prop where
  below : ∀ d ∈ digits, d < base
  written : foldCase text = digits.map Nat.digitChar

/-- The number that digits make. -/
def numberOf (base : Nat) (digits : List Nat) : Nat := Nat.ofDigits base digits.reverse

theorem numberOf_cons (base d : Nat) (digits : List Nat) :
    numberOf base (d :: digits) = numberOf base digits + base ^ digits.length * d := by
  rw [numberOf, List.reverse_cons, Nat.ofDigits_append, Nat.ofDigits_singleton, List.length_reverse, numberOf]

theorem digitRun_cons_iff {base : Nat} (most : base ≤ 16) (c : Char) (text : List Char) (digits : List Nat) :
    DigitRun base (c :: text) digits ↔
      ∃ d later, digits = d :: later ∧ hexValue? c = some d ∧ d < base ∧ DigitRun base text later := by
  constructor
  · rintro ⟨below, written⟩
    cases digits with
    | nil => cases written
    | cons d later =>
      obtain ⟨first, rest⟩ := List.cons.inj written
      have small := below d List.mem_cons_self
      refine ⟨d, later, rfl, (hexValue?_eq_some_iff c d).mpr ⟨by omega, first⟩, small, ?_, rest⟩
      exact fun e member => below e (List.mem_cons_of_mem _ member)
  · rintro ⟨d, later, rfl, value, small, below, written⟩
    refine ⟨?_, ?_⟩
    · rintro e member
      rcases List.mem_cons.mp member with rfl | further
      · exact small
      · exact below e further
    · exact List.cons_eq_cons.mpr ⟨((hexValue?_eq_some_iff c d).mp value).2, written⟩

/-- Digits are read one by one as the number that they make behind those in front of them. -/
theorem baseDigits?_eq_some_iff {base : Nat} (most : base ≤ 16) (value : Nat) (text : List Char) (n : Nat) :
    baseDigits? base value text = some n ↔
      ∃ digits, DigitRun base text digits ∧ numberOf base digits + base ^ digits.length * value = n := by
  induction text generalizing value with
  | nil =>
    constructor
    · intro read
      exact ⟨[], ⟨by simp, rfl⟩, by simpa [numberOf, baseDigits?] using read⟩
    · rintro ⟨digits, run, number⟩
      rw [List.map_eq_nil_iff.mp run.written.symm] at number
      simpa [numberOf, baseDigits?] using number
  | cons c text ih =>
    have position (d : Nat) (later : List Nat) :
        numberOf base later + base ^ later.length * (value * base + d) =
          numberOf base (d :: later) + base ^ (d :: later).length * value := by
      rw [numberOf_cons, List.length_cons]
      ring
    simp only [digitRun_cons_iff most]
    rw [baseDigits?]
    constructor
    · intro read
      split at read
      next d found =>
        split at read
        next small =>
          obtain ⟨later, run, number⟩ := (ih (value * base + d)).mp read
          exact ⟨d :: later, ⟨d, later, rfl, found, small, run⟩, (position d later).symm.trans number⟩
        next => cases read
      next => cases read
    · rintro ⟨_, ⟨d, later, rfl, found, small, run⟩, number⟩
      simp only [found, small, if_true]
      exact (ih _).mpr ⟨later, run, (position d later).trans number⟩

/-! ## Words -/

/-- The numbers of at most 64 bits that a text writes in a base: by at least one digit, or by a plus sign and
at least one digit. -/
inductive WordIn (base : Nat) : List Char → Nat → Prop
  | bare {text : List Char} {digits : List Nat} (run : DigitRun base text digits) (some : digits ≠ [])
      (fits : numberOf base digits < 2 ^ 64) : WordIn base text (numberOf base digits)
  | plus {text : List Char} {digits : List Nat} (run : DigitRun base text digits) (some : digits ≠ [])
      (fits : numberOf base digits < 2 ^ 64) : WordIn base ('+' :: text) (numberOf base digits)

theorem not_digitRun_plus {base : Nat} (most : base ≤ 16) (text : List Char) (digits : List Nat) :
    ¬DigitRun base ('+' :: text) digits := by
  rw [digitRun_cons_iff most]
  rintro ⟨d, later, rfl, value, small, run⟩
  cases value

/-- The digits of a word fit it and are not missing. -/
theorem filter_baseDigits?_eq_some_iff {base : Nat} (most : base ≤ 16) (text : List Char) (n : Nat) :
    (if text.isEmpty then none else (baseDigits? base 0 text).filter (· < 0x10000000000000000)) = some n ↔
      ∃ digits, DigitRun base text digits ∧ digits ≠ [] ∧ numberOf base digits < 2 ^ 64 ∧
        numberOf base digits = n := by
  have length {digits : List Nat} (run : DigitRun base text digits) : digits.length = text.length := by
    rw [← List.length_map Nat.digitChar, ← run.written, length_foldCase]
  cases text with
  | nil =>
    refine iff_of_false (by simp) ?_
    rintro ⟨digits, run, some, -⟩
    exact some (List.eq_nil_of_length_eq_zero (length run))
  | cons c text =>
    have value (digits : List Nat) : numberOf base digits + base ^ digits.length * 0 = numberOf base digits := by simp
    rw [List.isEmpty_cons, if_neg Bool.false_ne_true, Option.filter_eq_some_iff, baseDigits?_eq_some_iff most]
    simp only [value, decide_eq_true_eq]
    constructor
    · rintro ⟨⟨digits, run, rfl⟩, fits⟩
      exact ⟨digits, run, List.ne_nil_of_length_eq_add_one (length run), fits, rfl⟩
    · rintro ⟨digits, run, -, fits, rfl⟩
      exact ⟨⟨digits, run, rfl⟩, fits⟩

theorem baseWord?_eq_some_iff {base : Nat} (most : base ≤ 16) (text : List Char) (n : Nat) :
    baseWord? base text = some n ↔ WordIn base text n := by
  by_cases signed : ∃ rest, text = '+' :: rest
  · obtain ⟨rest, rfl⟩ := signed
    rw [baseWord?, filter_baseDigits?_eq_some_iff most]
    constructor
    · rintro ⟨digits, run, some, fits, rfl⟩
      exact .plus run some fits
    · rintro (⟨run, some, fits⟩ | ⟨run, some, fits⟩)
      · exact absurd run (not_digitRun_plus most _ _)
      · exact ⟨_, run, some, fits, rfl⟩
  · have unsigned (rest : List Char) : text ≠ '+' :: rest := fun same => signed ⟨rest, same⟩
    rw [baseWord?.eq_2 base text unsigned, filter_baseDigits?_eq_some_iff most]
    constructor
    · rintro ⟨digits, run, some, fits, rfl⟩
      exact .bare run some fits
    · rintro (⟨run, some, fits⟩ | ⟨run, some, fits⟩)
      · exact ⟨_, run, some, fits, rfl⟩
      · exact absurd rfl (unsigned _)

end Text

/-! ## Filter values -/

/-- A zero and a letter behind it, which may announce a base, are no infinity. -/
theorem Query.trimmedValue_announcing (letter : Char) (rest : List Char) :
    trimmedValue ('0' :: letter :: rest) =
      match base? letter with
      | some base =>
        match Text.baseWord? base rest with
        | some n => Float.ofNat n
        | none => Decimal.notANumber
      | none => decimalValue ('0' :: letter :: rest) := by
  have some : '0' :: letter :: rest ≠ [] := by simp
  have notAbove : ¬('0' :: letter :: rest = "Infinity".toList ∨ '0' :: letter :: rest = "+Infinity".toList) := by simp
  have notBelow : '0' :: letter :: rest ≠ "-Infinity".toList := by simp
  exact (if_neg some).trans ((if_neg notAbove).trans (if_neg notBelow))

/-- A filter value that announces a base and has neither blanks nor single quotes. -/
structure BaseLiteral where
  letter : Char
  base : Nat
  rest : List Char
  announced : Query.base? letter = some base
  seen : ∀ c ∈ rest, Text.isBlank c = false
  plain : '\x27' ∉ rest

namespace BaseLiteral
variable (literal : BaseLiteral)

/-- The value as it is written. -/
def text : String := String.ofList ('0' :: literal.letter :: literal.rest)

theorem letter_cases : (literal.letter = 'x' ∨ literal.letter = 'X') ∧ literal.base = 16 ∨
    (literal.letter = 'o' ∨ literal.letter = 'O') ∧ literal.base = 8 ∨
    (literal.letter = 'b' ∨ literal.letter = 'B') ∧ literal.base = 2 := by
  have announced := literal.announced
  rw [Query.base?] at announced
  grind

theorem base_le : literal.base ≤ 16 := by
  rcases literal.letter_cases with ⟨-, base⟩ | ⟨-, base⟩ | ⟨-, base⟩ <;> omega

theorem plain_text : '\x27' ∉ literal.text.toList := by
  have letter : literal.letter ≠ '\x27' := by
    intro quote
    have cases := literal.letter_cases
    simp [quote] at cases
  have plain := literal.plain
  simp [text, plain, Ne.symm letter]

theorem word_text : Text.Word literal.text.toList where
  some := by simp [text]
  seen c inside := by
    rw [text, String.toList_ofList] at inside
    rcases List.mem_cons.mp inside with rfl | later
    · rfl
    rcases List.mem_cons.mp later with rfl | further
    · rcases literal.letter_cases with ⟨letter | letter, -⟩ | ⟨letter | letter, -⟩ | ⟨letter | letter, -⟩ <;>
        rw [letter] <;> rfl
    · exact literal.seen c further

/-- The value stands for the number that its digits make, and else for no number. -/
theorem numericValue_text : Query.numericValue literal.text =
    match Text.baseWord? literal.base literal.rest with
    | some n => Float.ofNat n
    | none => Decimal.notANumber := by
  have trimmed : Text.trim literal.text.toList = '0' :: literal.letter :: literal.rest :=
    (Text.trim_of_word literal.word_text).trans String.toList_ofList
  rw [Query.numericValue, trimmed, Query.trimmedValue_announcing, literal.announced]

theorem numericValue_of_word {n : Nat} (word : Text.WordIn literal.base literal.rest n) :
    Query.numericValue literal.text = Float.ofNat n := by
  rw [numericValue_text, (Text.baseWord?_eq_some_iff literal.base_le _ _).mpr word]

theorem isNaN_numericValue_iff :
    (Query.numericValue literal.text).isNaN = true ↔ ¬∃ n, Text.WordIn literal.base literal.rest n := by
  simp only [← Text.baseWord?_eq_some_iff literal.base_le, ← Option.isSome_iff_exists]
  rw [numericValue_text]
  cases Text.baseWord? literal.base literal.rest with
  | none => exact iff_of_true (by decide +kernel) (by simp)
  | some n => exact iff_of_false (ne_true_of_eq_false (isNaN_ofNat n)) (by simp)

/-- What is more than digits of the base and counts all the same has a plus sign in front of them. -/
theorem exists_word_iff_plus (noDigits : ¬∃ digits ≠ [], Text.DigitRun literal.base literal.rest digits) :
    (∃ n, Text.WordIn literal.base literal.rest n) ↔
      ∃ text, literal.rest = '+' :: text ∧
        ∃ digits ≠ [], Text.DigitRun literal.base text digits ∧ Text.numberOf literal.base digits < 2 ^ 64 := by
  constructor
  · rintro ⟨n, word⟩
    generalize literal.rest = rest at word noDigits
    cases word with
    | bare run some fits => exact absurd ⟨_, some, run⟩ noDigits
    | plus run some fits => exact ⟨_, rfl, _, some, run, fits⟩
  · rintro ⟨text, signed, digits, some, run, fits⟩
    rw [signed]
    exact ⟨_, .plus run some fits⟩

end BaseLiteral

/-! ## Comparisons -/

/-- A cell that is compared as a number. -/
inductive Json.Numeric : Json → Prop
  | bool (b : Bool) : Numeric (.bool b)
  | number (n : Number) : Numeric (.number n)

namespace Filter

/-- What is true of a value that announces a base, and of the comparisons with it that a number or truth value
passes. The value is a number of the base, behind at most one plus sign, or no number; then no comparison
passes, else just one. Where there is more than digits, comparisons pass only behind a plus sign. -/
structure ReadsBase (literal : BaseLiteral) (passed : List Comparison) : Prop where
  number : ∀ n, Text.WordIn literal.base literal.rest n → Query.numericValue literal.text = Float.ofNat n
  noNumber : (Query.numericValue literal.text).isNaN = true ↔ ¬∃ n, Text.WordIn literal.base literal.rest n
  none : passed = [] ↔ ¬∃ n, Text.WordIn literal.base literal.rest n
  one : (∃ n, Text.WordIn literal.base literal.rest n) → ∃ op, passed = [op]
  plus : (¬∃ digits ≠ [], Text.DigitRun literal.base literal.rest digits) →
    (passed ≠ [] ↔ ∃ text, literal.rest = '+' :: text ∧
      ∃ digits ≠ [], Text.DigitRun literal.base text digits ∧ Text.numberOf literal.base digits < 2 ^ 64)

/-- A number or truth value passes one comparison with a value if this is a number, and else none. -/
theorem passing_of_numeric {row : Row} {field value : String} (plain : '\x27' ∉ value.toList) {cell : Json}
    (held : row.get? field = some cell) (numeric : cell.Numeric) :
    if (Query.numericValue value).isNaN then passing row field value = [] else ∃ op, passing row field value = [op] := by
  cases numeric with
  | bool b =>
    have passes := passing_of_not_null plain (show row.get? field ≠ some .null by simp [held])
    exact sole_of_number (isNaN_truthNumber b) value (passes.trans (by rw [held]; rfl))
  | number n =>
    have passes := passing_of_not_null plain (show row.get? field ≠ some .null by simp [held])
    exact sole_of_number (isNaN_toFloat n) value (passes.trans (by rw [held]; rfl))

theorem readsBase_passing (literal : BaseLiteral) {row : Row} {field : String} {cell : Json}
    (held : row.get? field = some cell) (numeric : cell.Numeric) :
    ReadsBase literal (passing row field literal.text) := by
  have counted := passing_of_numeric literal.plain_text held numeric
  have noNumber := literal.isNaN_numericValue_iff
  have one (reads : ∃ n, Text.WordIn literal.base literal.rest n) : ∃ op, passing row field literal.text = [op] := by
    rwa [if_neg fun isNaN => noNumber.mp isNaN reads] at counted
  have none : passing row field literal.text = [] ↔ ¬∃ n, Text.WordIn literal.base literal.rest n := by
    constructor
    · intro nothing reads
      obtain ⟨op, passed⟩ := one reads
      rw [nothing] at passed
      cases passed
    · intro unread
      rwa [if_pos (noNumber.mpr unread)] at counted
  refine ⟨fun n word => literal.numericValue_of_word word, noNumber, none, one, ?_⟩
  intro noDigits
  rw [← literal.exists_word_iff_plus noDigits, ne_eq, none, not_not]

/-- A signed value in base sixteen. -/
def signedLiteral : BaseLiteral where
  letter := 'X'
  base := 16
  rest := "+1f".toList
  announced := rfl
  seen := by simp [Text.isBlank]
  plain := by decide

/-- A truth value, and the number that the signed value stands for. -/
def countedRow : Row := [("done", .bool true), ("size", .number (.int 31))]

theorem readsBase_passing_signedLiteral :
    countedRow.get? "size" = some (.number (.int 31)) ∧ (Json.number (.int 31)).Numeric ∧
      ReadsBase signedLiteral (passing countedRow "size" signedLiteral.text) :=
  ⟨rfl, .number _, readsBase_passing signedLiteral rfl (.number _)⟩

/-- Behind a plus sign there is more than digits, and yet the value is a number that a cell equals. -/
theorem plus_is_no_digit :
    (¬∃ digits ≠ [], Text.DigitRun 16 "+1f".toList digits) ∧ (Query.numericValue "0X+1f").isNaN = false ∧
      passing countedRow "size" "0X+1f" = [.equal] := by
  refine ⟨?_, by decide +kernel, by decide +kernel⟩
  rintro ⟨digits, -, run⟩
  exact Text.not_digitRun_plus (by decide) _ _ run

end Filter

end RowQuery
