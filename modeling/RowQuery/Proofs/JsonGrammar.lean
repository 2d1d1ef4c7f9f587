import Mathlib.Data.List.Forall2
import RowQuery.Json.Writer
import RowQuery.Text.Ascii

/-!
# The grammar of JSON texts

Which texts spell a value, whatever reads or writes them. A string is spelled character by character, each by
itself or by an escape (`SpellsChar`), an integer by its decimal digits (`SpellsInt`), an array or an object by
the texts of its parts between brackets (`Enclosed`). Where spaces stand is a matter of form: anywhere, nowhere,
or so that each part has a line of its own. The compact and the indented form of a value are texts of these forms
that spell it (`spells_compactText`, `spells_indentedText`).
-/

namespace RowQuery.Json

/-! ## Forms -/

/-- Characters that mean nothing between the parts of a text. -/
def Spaces (gap : List Char) : Prop := ∀ c ∈ gap, c ∈ [' ', '\t', '\n', '\r']

/-- A place where spaces may stand: between brackets with nothing else in them; in front of a part at a level, of
the comma behind one, or of the bracket that ends them; in front of the colon behind a key, and behind it. -/
inductive Place where
  | empty
  | part (level : Nat)
  | comma
  | closing (level : Nat)
  | colon
  | value

/-- Which spaces stand at which place. -/
structure Form where
  gap : Place → List Char → Prop
  spaces : ∀ place text, gap place text → Spaces text

/-- Any spaces, at every place. -/
def Form.free : Form := ⟨fun _ => Spaces, fun _ _ => id⟩

/-- No spaces. -/
def Form.compact : Form where
  gap _ text := text = []
  spaces := by
    rintro _ _ rfl
    simp [Spaces]

/-- The beginning of a line, moved in by two blanks for each level. -/
def lineStart (level : Nat) : List Char := '\n' :: List.replicate (2 * level) ' '

theorem spaces_lineStart (level : Nat) : Spaces (lineStart level) := by
  intro c among
  rcases List.mem_cons.mp among with rfl | blank
  · decide
  · rw [List.eq_of_mem_replicate blank]
    decide

/-- Parts and closing brackets each begin a line, and a blank stands behind a colon. -/
def Form.indented : Form where
  gap place text :=
    match place with
    | .part level | .closing level => text = lineStart level
    | .value => text = [' ']
    | _ => text = []
  spaces := by
    intro place text
    cases place with
    | part level | closing level =>
      rintro rfl
      exact spaces_lineStart level
    | _ =>
      rintro rfl
      simp [Spaces]

/-! ## Strings and integers -/

/-- Four hexadecimal digits that write a number. -/
inductive HexQuad : Nat → List Char → Prop
  | digits {p q r s : Char} {a b c d : Nat} (first : Text.hexValue? p = some a) (second : Text.hexValue? q = some b)
    (third : Text.hexValue? r = some c) (fourth : Text.hexValue? s = some d) :
    HexQuad (((a * 16 + b) * 16 + c) * 16 + d) [p, q, r, s]

/-- The letters that escape a character, and that character. -/
def shortEscapes : List (Char × Char) :=
  [('"', '"'), ('\\', '\\'), ('/', '/'), ('b', '\x08'), ('f', '\x0c'), ('n', '\n'), ('r', '\r'), ('t', '\t')]

/-- The texts that spell a character between quotes: the character itself, a letter for it behind a backslash, its
number, or the numbers of the two surrogates that stand for it. -/
inductive SpellsChar : Char → List Char → Prop
  | itself {c : Char} (notQuote : c ≠ '"') (notBackslash : c ≠ '\\') (visible : 0x20 ≤ c.toNat) : SpellsChar c [c]
  | letter {c escape : Char} (short : (escape, c) ∈ shortEscapes) : SpellsChar c ['\\', escape]
  | number {c : Char} {quad : List Char} (written : HexQuad c.toNat quad) : SpellsChar c ('\\' :: 'u' :: quad)
  | surrogates {c : Char} {high low : Nat} {first second : List Char} (small : high < 0x400) (smallToo : low < 0x400)
    (value : c.toNat = 0x10000 + high * 0x400 + low) (leading : HexQuad (0xD800 + high) first)
    (trailing : HexQuad (0xDC00 + low) second) : SpellsChar c ('\\' :: 'u' :: (first ++ '\\' :: 'u' :: second))

/-- The texts that spell a string. -/
def SpellsString (s : String) (text : List Char) : Prop :=
  ∃ pieces, List.Forall₂ SpellsChar s.toList pieces ∧ text = '"' :: (pieces.flatten ++ ['"'])

/-- Decimal digits that write a natural number, without a needless zero in front. -/
structure SpellsNat (n : Nat) (digits : List Char) : Prop where
  nonempty : digits ≠ []
  decimal : ∀ c ∈ digits, c.isDigit = true
  value : Nat.ofDigitChars 10 digits 0 = n
  plain : 1 < digits.length → digits.head? ≠ some '0'

/-- The texts that spell an integer. -/
inductive SpellsInt : Int → List Char → Prop
  | natural {n : Nat} {digits : List Char} (spelled : SpellsNat n digits) : SpellsInt n digits
  | negative {n : Nat} {digits : List Char} (positive : 0 < n) (spelled : SpellsNat n digits) :
    SpellsInt (-n) ('-' :: digits)

/-! ## Values -/

/-- The texts of parts with commas between them, up to the closing bracket behind the last. -/
inductive Listed (form : Form) (level : Nat) (closing : Char) : List (List Char) → List Char → Prop
  | last {part gap : List Char} (behind : form.gap (.closing level) gap) :
    Listed form level closing [part] (part ++ (gap ++ [closing]))
  | next {part gap front : List Char} {parts : List (List Char)} {text : List Char} (behind : form.gap .comma gap)
    (ahead : form.gap (.part (level + 1)) front) (later : Listed form level closing parts text) :
    Listed form level closing (part :: parts) (part ++ (gap ++ ',' :: (front ++ text)))

/-- The texts of parts, all of them between brackets. -/
inductive Enclosed (form : Form) (level : Nat) (opening closing : Char) : List (List Char) → List Char → Prop
  | empty {gap : List Char} (between : form.gap .empty gap) :
    Enclosed form level opening closing [] (opening :: (gap ++ [closing]))
  | parts {front : List Char} {parts : List (List Char)} {text : List Char} (ahead : form.gap (.part (level + 1)) front)
    (listed : Listed form level closing parts text) :
    Enclosed form level opening closing parts (opening :: (front ++ text))

mutual

/-- The texts of a form that spell a value which stands at a level. A double is spelled by its shortest digits, as
`numberLayout` lays them out. -/
def Spells (form : Form) (level : Nat) : Json → List Char → Prop
  | .null, text => text = ['n', 'u', 'l', 'l']
  | .bool true, text => text = ['t', 'r', 'u', 'e']
  | .bool false, text => text = ['f', 'a', 'l', 's', 'e']
  | .number (.int n _), text => SpellsInt n text
  | .number (.float x _), text => text = numberLayout.write x
  | .string s, text => SpellsString s text
  | .array items, text =>
    ∃ parts, SpellsItems form (level + 1) items parts ∧ Enclosed form level '[' ']' parts text
  | .object members, text =>
    ∃ parts, SpellsMembers form (level + 1) members parts ∧ Enclosed form level '{' '}' parts text

/-- Texts of which each spells an item. -/
def SpellsItems (form : Form) (level : Nat) : List Json → List (List Char) → Prop
  | [], texts => texts = []
  | item :: rest, texts =>
    ∃ text more, texts = text :: more ∧ Spells form level item text ∧ SpellsItems form level rest more

/-- Texts of which each spells a key, and behind a colon the value under it. -/
def SpellsMembers (form : Form) (level : Nat) : List (String × Json) → List (List Char) → Prop
  | [], texts => texts = []
  | (key, value) :: rest, texts =>
    ∃ name before after text more, texts = (name ++ (before ++ ':' :: (after ++ text))) :: more ∧
      SpellsString key name ∧ form.gap .colon before ∧ form.gap .value after ∧ Spells form level value text ∧
      SpellsMembers form level rest more

end

/-! ## What is written -/

theorem hexValue?_digitChar : ∀ d < 16, Text.hexValue? (Nat.digitChar d) = some d := by decide

/-- Two zeros and two digits write a number below 256. -/
theorem hexQuad_digits {n : Nat} (small : n < 256) :
    HexQuad n ['0', '0', Nat.digitChar (n / 16), Nat.digitChar (n % 16)] := by
  have zero : Text.hexValue? '0' = some 0 := by decide
  have quad := HexQuad.digits zero zero (hexValue?_digitChar (n / 16) (by omega))
    (hexValue?_digitChar (n % 16) (by omega))
  have value : ((0 * 16 + 0) * 16 + n / 16) * 16 + n % 16 = n := by omega
  rwa [value] at quad

theorem spellsChar_escapeChar (c : Char) : SpellsChar c (escapeChar c) := by
  rw [escapeChar]
  split
  next quote => subst quote; exact .letter (by decide)
  split
  next backslash => subst backslash; exact .letter (by decide)
  split
  next backspace => subst backspace; exact .letter (by decide)
  split
  next formFeed => subst formFeed; exact .letter (by decide)
  split
  next lineFeed => subst lineFeed; exact .letter (by decide)
  split
  next carriageReturn => subst carriageReturn; exact .letter (by decide)
  split
  next tab => subst tab; exact .letter (by decide)
  split
  next control => exact .number (hexQuad_digits (by omega))
  next notQuote notBackslash _ _ _ _ _ visible => exact .itself notQuote notBackslash (Nat.le_of_not_lt visible)

theorem spellsString_quoted (s : String) : SpellsString s (quoted s) := by
  refine ⟨s.toList.map escapeChar, ?_, by rw [quoted, List.flatMap_def, List.cons_append]⟩
  rw [List.forall₂_map_right_iff, List.forall₂_same]
  exact fun c _ => spellsChar_escapeChar c

theorem isDigit_of_mem_decimalDigits {n : Nat} : ∀ c ∈ Text.decimalDigits n, c.isDigit = true :=
  fun _ member => Nat.isDigit_of_mem_toDigits (by decide) (by decide) member

theorem decimalDigits_ne_nil (n : Nat) : Text.decimalDigits n ≠ [] := Nat.toDigits_ne_nil

theorem exists_head_decimalDigits (n : Nat) :
    ∃ c more, Text.decimalDigits n = c :: more ∧ c.isDigit = true := by
  obtain ⟨c, more, written⟩ := List.exists_cons_of_ne_nil (decimalDigits_ne_nil n)
  exact ⟨c, more, written, isDigit_of_mem_decimalDigits c (written ▸ List.mem_cons_self)⟩

theorem digitChar_ne_zero : ∀ n < 10, 0 < n → Nat.digitChar n ≠ '0' := by decide

/-- Only the number zero is written with a zero in front. -/
theorem head?_decimalDigits {n : Nat} (positive : 0 < n) : (Text.decimalDigits n).head? ≠ some '0' := by
  induction n using Nat.strongRecOn with
  | ind n ih =>
    rcases Nat.lt_or_ge n 10 with small | large
    · rw [Text.decimalDigits, Nat.toDigits_of_lt_base small, List.head?_cons]
      exact fun zero => digitChar_ne_zero n small positive (Option.some.inj zero)
    · have front := ih (n / 10) (by omega) (by omega)
      rw [Text.decimalDigits, Nat.toDigits_of_base_le (by decide) large, List.head?_append]
      obtain ⟨first, more, written⟩ := List.exists_cons_of_ne_nil (decimalDigits_ne_nil (n / 10))
      rw [written] at front
      rw [Text.decimalDigits] at written
      rwa [written]

theorem spellsNat_decimalDigits (n : Nat) : SpellsNat n (Text.decimalDigits n) where
  nonempty := decimalDigits_ne_nil n
  decimal := isDigit_of_mem_decimalDigits
  value := Nat.ofDigitChars_ten_toDigits
  plain := by
    rcases Nat.eq_zero_or_pos n with rfl | positive
    · exact fun long => absurd long (by decide)
    · exact fun _ => head?_decimalDigits positive

theorem spellsInt_intText (n : Int) : SpellsInt n (intText n) := by
  rw [intText]
  split
  next negative =>
    have spelled := SpellsInt.negative (Int.natAbs_pos.mpr (Int.ne_of_lt negative)) (spellsNat_decimalDigits n.natAbs)
    rwa [Int.ofNat_natAbs_of_nonpos (Int.le_of_lt negative), Int.neg_neg] at spelled
  next natural =>
    have spelled := SpellsInt.natural (spellsNat_decimalDigits n.natAbs)
    rwa [Int.natAbs_of_nonneg (Int.not_lt.mp natural)] at spelled

/-- Parts joined by a comma and what stands in front of a part, with what stands in front of the closing bracket. -/
theorem listed_intercalate {form : Form} {level : Nat} {closing : Char} {front gap : List Char}
    (ahead : form.gap (.part (level + 1)) front) (comma : form.gap .comma []) (behind : form.gap (.closing level) gap)
    (part : List Char) (parts : List (List Char)) :
    Listed form level closing (part :: parts) ((',' :: front).intercalate (part :: parts) ++ (gap ++ [closing])) := by
  induction parts generalizing part with
  | nil =>
    rw [List.intercalate_singleton]
    exact .last behind
  | cons next parts ih =>
    have listed : Listed form level closing (part :: next :: parts) (part ++ ([] ++ ',' :: (front ++ _))) :=
      .next comma ahead (ih next)
    rw [List.intercalate_cons_cons]
    simpa using listed

theorem listed_compact (level : Nat) (closing : Char) (part : List Char) (parts : List (List Char)) :
    Listed .compact level closing (part :: parts) ([','].intercalate (part :: parts) ++ [closing]) :=
  @listed_intercalate .compact level closing [] [] rfl rfl rfl part parts

theorem enclosed_compact (level : Nat) (opening closing : Char) (parts : List (List Char)) :
    Enclosed .compact level opening closing parts (opening :: [','].intercalate parts ++ [closing]) := by
  cases parts with
  | nil => exact @Enclosed.empty .compact level opening closing [] rfl
  | cons part parts =>
    exact @Enclosed.parts .compact level opening closing [] _ _ rfl (listed_compact level closing part parts)

theorem enclosed_indented (level : Nat) (opening closing : Char) (parts : List (List Char)) :
    Enclosed .indented level opening closing parts (indentedBlock opening closing level parts) := by
  cases parts with
  | nil => exact @Enclosed.empty .indented level opening closing [] rfl
  | cons part parts =>
    have listed : Listed .indented level closing (part :: parts)
        ((',' :: lineStart (level + 1)).intercalate (part :: parts) ++ (lineStart level ++ [closing])) :=
      listed_intercalate rfl rfl rfl part parts
    have enclosed := @Enclosed.parts .indented level opening closing (lineStart (level + 1)) _ _ rfl listed
    simpa [indentedBlock, newLine, lineStart] using enclosed

mutual

/-- The compact form of a value spells it without spaces. -/
theorem spells_compactText : ∀ (value : Json) (level : Nat), Spells .compact level value (compactText value)
  | .null, _ => by rw [Spells, compactText]; rfl
  | .bool true, _ => by rw [Spells, compactText]; rfl
  | .bool false, _ => by rw [Spells, compactText]; rfl
  | .number (.int n fits), _ => by
    rw [Spells, compactText]
    exact spellsInt_intText n
  | .number (.float x finite), _ => by rw [Spells, compactText]; rfl
  | .string s, _ => by
    rw [Spells, compactText]
    exact spellsString_quoted s
  | .array items, level => by
    rw [Spells, compactText]
    exact ⟨_, spellsItems_compactItems items (level + 1), enclosed_compact level '[' ']' _⟩
  | .object members, level => by
    rw [Spells, compactText]
    exact ⟨_, spellsMembers_compactMembers members (level + 1), enclosed_compact level '{' '}' _⟩

theorem spellsItems_compactItems : ∀ (items : List Json) (level : Nat),
    SpellsItems .compact level items (compactItems items)
  | [], _ => by rw [SpellsItems, compactItems]
  | item :: rest, level => by
    rw [SpellsItems, compactItems]
    exact ⟨_, _, rfl, spells_compactText item level, spellsItems_compactItems rest level⟩

theorem spellsMembers_compactMembers : ∀ (members : List (String × Json)) (level : Nat),
    SpellsMembers .compact level members (compactMembers members)
  | [], _ => by rw [SpellsMembers, compactMembers]
  | (key, value) :: rest, level => by
    rw [SpellsMembers, compactMembers]
    exact ⟨quoted key, [], [], compactText value, _, rfl, spellsString_quoted key, rfl, rfl,
      spells_compactText value level, spellsMembers_compactMembers rest level⟩

end

mutual

/-- The indented form of a value spells it on lines of their own. -/
theorem spells_indentedText : ∀ (value : Json) (level : Nat), Spells .indented level value (indentedText level value)
  | .null, _ => by rw [Spells, indentedText]; rfl
  | .bool true, _ => by rw [Spells, indentedText]; rfl
  | .bool false, _ => by rw [Spells, indentedText]; rfl
  | .number (.int n fits), _ => by
    rw [Spells, indentedText]
    exact spellsInt_intText n
  | .number (.float x finite), _ => by rw [Spells, indentedText]; rfl
  | .string s, _ => by
    rw [Spells, indentedText]
    exact spellsString_quoted s
  | .array items, level => by
    rw [Spells, indentedText]
    exact ⟨_, spellsItems_indentedItems items (level + 1), enclosed_indented level '[' ']' _⟩
  | .object members, level => by
    rw [Spells, indentedText]
    exact ⟨_, spellsMembers_indentedMembers members (level + 1), enclosed_indented level '{' '}' _⟩

theorem spellsItems_indentedItems : ∀ (items : List Json) (level : Nat),
    SpellsItems .indented level items (indentedItems level items)
  | [], _ => by rw [SpellsItems, indentedItems]
  | item :: rest, level => by
    rw [SpellsItems, indentedItems]
    exact ⟨_, _, rfl, spells_indentedText item level, spellsItems_indentedItems rest level⟩

theorem spellsMembers_indentedMembers : ∀ (members : List (String × Json)) (level : Nat),
    SpellsMembers .indented level members (indentedMembers level members)
  | [], _ => by rw [SpellsMembers, indentedMembers]
  | (key, value) :: rest, level => by
    rw [SpellsMembers, indentedMembers]
    exact ⟨quoted key, [], [' '], indentedText level value, _, rfl, spellsString_quoted key, rfl, rfl,
      spells_indentedText value level, spellsMembers_indentedMembers rest level⟩

end

end RowQuery.Json
