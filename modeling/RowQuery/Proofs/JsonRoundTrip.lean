import Mathlib.Data.List.Forall2
import RowQuery.File.Load
import RowQuery.Proofs.JsonScalars
import RowQuery.Proofs.Keyed
import RowQuery.Table.Export

/-!
# What an exported JSON text gives back

A text that spells a value, with whatever spaces, is read as the value, if that holds no doubles, names no
member of an object twice and does not nest deeper than is read (`readValue_spelled`). So an exported table is
loaded with the same rows (`readJson_render`).

Every statement is made in front of any text that ends a number. That text is what the writer goes
on with, and the reader has to stop exactly there.
-/

namespace RowQuery.Json

mutual

/-- How deep arrays and objects nest in a value. -/
def depth : Json → Nat
  | .array items => itemsDepth items + 1
  | .object members => membersDepth members + 1
  | _ => 0

/-- How deep arrays and objects nest in the items of an array. -/
def itemsDepth : List Json → Nat
  | [] => 0
  | item :: rest => max (depth item) (itemsDepth rest)

/-- How deep arrays and objects nest in the members of an object. -/
def membersDepth : List (String × Json) → Nat
  | [] => 0
  | (_, value) :: rest => max (depth value) (membersDepth rest)

end

mutual

/-- A value without doubles in which no object names a member twice. -/
def Exact : Json → Prop
  | .number (.float _ _) => False
  | .array items => ExactItems items
  | .object members => (members.map Prod.fst).Nodup ∧ ExactMembers members
  | _ => True

/-- Items of which each is exact. -/
def ExactItems : List Json → Prop
  | [] => True
  | item :: rest => Exact item ∧ ExactItems rest

/-- Members whose values are exact. -/
def ExactMembers : List (String × Json) → Prop
  | [] => True
  | (_, value) :: rest => Exact value ∧ ExactMembers rest

end

/-! ## Spaces -/

theorem Spaces.cases_of_mem {gap : List Char} (spaces : Spaces gap) {c : Char} (among : c ∈ gap) :
    c = ' ' ∨ c = '\t' ∨ c = '\n' ∨ c = '\r' := by
  simpa using spaces c among

theorem skipSpaces_append {gap : List Char} (spaces : Spaces gap) (text : List Char) :
    skipSpaces (gap ++ text) = skipSpaces text := by
  refine List.dropWhile_append_of_pos ?_
  intro c among
  rcases spaces.cases_of_mem among with rfl | rfl | rfl | rfl <;> rfl

theorem skipSpaces_of_head {c : Char} (notSpace : isSpace c = false) (rest : List Char) :
    skipSpaces (c :: rest) = c :: rest := List.dropWhile_cons_of_neg (by simp [notSpace])

theorem endsNumber_append {gap : List Char} (spaces : Spaces gap) {text : List Char} (ends : EndsNumber text) :
    EndsNumber (gap ++ text) := by
  cases gap with
  | nil => exact ends
  | cons c gap =>
    intro d head
    cases head
    rcases spaces.cases_of_mem List.mem_cons_self with rfl | rfl | rfl | rfl <;> decide

theorem endsNumber_cons {c : Char} (apart : c.isDigit = false ∧ c ≠ '.' ∧ c ≠ 'e' ∧ c ≠ 'E') (rest : List Char) :
    EndsNumber (c :: rest) := by
  intro d head
  cases head
  exact apart

/-! ## Parts between brackets -/

/-- A text that begins with something other than a space and the given bracket. -/
def Opens (closing : Char) (text : List Char) : Prop :=
  ∃ c more, text = c :: more ∧ isSpace c = false ∧ c ≠ closing

/-- A part and a text of it that is read as the part, in front of whatever ends a number. -/
structure Written {α : Type} (closing : Char) (readPart : List Char → Reading α) (part : α)
    (text : List Char) : Prop where
  opens : Opens closing text
  reads : ∀ rest, EndsNumber rest → readPart (text ++ rest) = .ok (part, rest)

/-- A closing bracket that is taken for nothing else. -/
structure Enclosure.Distinct (enclosure : Enclosure) : Prop where
  notComma : enclosure.closing ≠ ','
  notSpace : isSpace enclosure.closing = false
  notNumber : ∀ rest, EndsNumber (enclosure.closing :: rest)

theorem distinct_arrayEnd : arrayEnd.Distinct := ⟨by decide, by decide, endsNumber_cons (by decide)⟩

theorem distinct_objectEnd : objectEnd.Distinct := ⟨by decide, by decide, endsNumber_cons (by decide)⟩

theorem opens_append {closing : Char} {text : List Char} (opens : Opens closing text) (rest : List Char) :
    Opens closing (text ++ rest) := by
  obtain ⟨c, more, rfl, notSpace, notEnd⟩ := opens
  exact ⟨c, more ++ rest, rfl, notSpace, notEnd⟩

theorem exists_append_of_listed {form : Form} {level : Nat} {closing : Char} {part : List Char}
    {parts : List (List Char)} {text : List Char} (listed : Listed form level closing (part :: parts) text) :
    ∃ later, text = part ++ later := by
  cases listed <;> exact ⟨_, rfl⟩

/-- Parts begin as the first of them does. -/
theorem opens_listed {α : Type} {form : Form} {level : Nat} {closing : Char} {readPart : List Char → Reading α}
    {parts : List α} {texts : List (List Char)} {text : List Char}
    (written : List.Forall₂ (Written closing readPart) parts texts) (listed : Listed form level closing texts text) :
    Opens closing text := by
  cases written with
  | nil => cases listed
  | cons first _ =>
    obtain ⟨later, rfl⟩ := exists_append_of_listed listed
    exact opens_append first.opens later

section
variable {α : Type} {enclosure : Enclosure} (distinct : enclosure.Distinct) {readPart : List Char → Reading α}
  {form : Form} {level : Nat}
include distinct

/-- Parts are read one after the other up to their closing bracket. -/
theorem readParts_listed {texts : List (List Char)} {text : List Char}
    (listed : Listed form level enclosure.closing texts text) {parts : List α}
    (written : List.Forall₂ (Written enclosure.closing readPart) parts texts) {budget : Nat}
    (few : parts.length ≤ budget) (rest : List Char) :
    readParts enclosure readPart budget (text ++ rest) = .ok (parts, rest) := by
  induction listed generalizing parts budget with
  | @last part gap behind =>
    cases written with
    | cons first none =>
      cases none
      obtain ⟨budget, rfl⟩ := Nat.exists_eq_add_one_of_ne_zero (n := budget) (by simp at few; omega)
      have spaces := form.spaces _ _ behind
      have ends := endsNumber_append spaces (distinct.notNumber rest)
      rw [List.append_assoc, List.append_assoc, List.singleton_append, readParts, first.reads _ ends]
      simp only [skipSpaces_append spaces, skipSpaces_of_head distinct.notSpace, ↓reduceIte]
  | @next part gap front texts text behind ahead later ih =>
    cases written with
    | @cons part _ parts _ first more =>
      obtain ⟨budget, rfl⟩ := Nat.exists_eq_add_one_of_ne_zero (n := budget) (by simp at few; omega)
      have tail := ih more (Nat.le_of_succ_le_succ few)
      obtain ⟨d, after, opened, notSpace, notEnd⟩ := opens_append (opens_listed more later) rest
      have spaces := form.spaces _ _ behind
      have ends : EndsNumber (gap ++ ',' :: (front ++ (text ++ rest))) :=
        endsNumber_append spaces (endsNumber_cons (by decide) _)
      have comma : skipSpaces (',' :: (front ++ (text ++ rest))) = ',' :: (front ++ (text ++ rest)) :=
        skipSpaces_of_head (by decide) _
      have seen : skipSpaces (front ++ (text ++ rest)) = d :: after := by
        rw [skipSpaces_append (form.spaces _ _ ahead), opened, skipSpaces_of_head notSpace]
      rw [opened] at tail
      rw [List.append_assoc, List.append_assoc, List.cons_append, List.append_assoc, readParts, first.reads _ ends]
      simp only [skipSpaces_append spaces, comma, Ne.symm distinct.notComma, ↓reduceIte, seen, notEnd, tail]
      rfl

/-- The parts between brackets are read from the text behind the opening one. -/
theorem readEnclosed_enclosed {opening : Char} {texts : List (List Char)} {text : List Char}
    (enclosed : Enclosed form level opening enclosure.closing texts text) {parts : List α}
    (written : List.Forall₂ (Written enclosure.closing readPart) parts texts) {budget : Nat}
    (few : parts.length ≤ budget) (rest : List Char) :
    ∃ inner, text ++ rest = opening :: inner ∧ readEnclosed enclosure readPart budget inner = .ok (parts, rest) := by
  cases enclosed with
  | @empty gap between =>
    cases written
    refine ⟨gap ++ enclosure.closing :: rest, by simp, ?_⟩
    rw [readEnclosed, skipSpaces_append (form.spaces _ _ between), skipSpaces_of_head distinct.notSpace]
    exact if_pos rfl
  | @parts front _ text ahead listed =>
    have read := readParts_listed distinct listed written few rest
    obtain ⟨c, after, opened, notSpace, notEnd⟩ := opens_append (opens_listed written listed) rest
    refine ⟨front ++ (text ++ rest), by simp, ?_⟩
    rw [opened] at read ⊢
    rw [readEnclosed, skipSpaces_append (form.spaces _ _ ahead), skipSpaces_of_head notSpace]
    simp only [notEnd, ↓reduceIte, read]

end

/-- The text of parts is at least as long as each of them, and as their number. -/
theorem length_listed {form : Form} {level : Nat} {closing : Char} {parts : List (List Char)} {text : List Char}
    (listed : Listed form level closing parts text) :
    (∀ part ∈ parts, part.length ≤ text.length) ∧ parts.length ≤ text.length := by
  induction listed with
  | last =>
    simp only [List.mem_singleton, forall_eq, List.length_append, List.length_cons, List.length_nil]
    omega
  | next behind ahead later ih =>
    obtain ⟨each, count⟩ := ih
    simp only [List.length_append, List.length_cons, List.forall_mem_cons]
    refine ⟨⟨by omega, fun part among => ?_⟩, by omega⟩
    have bound := each part among
    omega

theorem length_enclosed {form : Form} {level : Nat} {opening closing : Char} {parts : List (List Char)}
    {text : List Char} (enclosed : Enclosed form level opening closing parts text) :
    (∀ part ∈ parts, part.length ≤ text.length) ∧ parts.length ≤ text.length := by
  cases enclosed with
  | empty => exact ⟨fun _ among => absurd among List.not_mem_nil, Nat.zero_le _⟩
  | parts ahead listed =>
    obtain ⟨each, count⟩ := length_listed listed
    simp only [List.length_append, List.length_cons]
    refine ⟨fun part among => ?_, by omega⟩
    have bound := each part among
    omega

/-- Parts that are read from their texts, each no longer than the budget, are read from all of them between
brackets. -/
theorem exists_readEnclosed {α : Type} {enclosure : Enclosure} (distinct : enclosure.Distinct)
    {readPart : List Char → Reading α} {form : Form} {level budget : Nat} {opening : Char} {texts : List (List Char)}
    {text : List Char} (enclosed : Enclosed form level opening enclosure.closing texts text)
    (short : text.length ≤ budget) {parts : List α}
    (written : (∀ part ∈ texts, part.length ≤ budget) → List.Forall₂ (Written enclosure.closing readPart) parts texts)
    (rest : List Char) :
    ∃ inner, text ++ rest = opening :: inner ∧ readEnclosed enclosure readPart budget inner = .ok (parts, rest) := by
  obtain ⟨within, count⟩ := length_enclosed enclosed
  have each := written fun part among => Nat.le_trans (within part among) short
  exact readEnclosed_enclosed distinct enclosed each (each.length_eq ▸ Nat.le_trans count short) rest

/-! ## Values -/

theorem exists_head_spellsInt {n : Int} {text : List Char} (spelled : SpellsInt n text) :
    ∃ c more, text = c :: more ∧ (c = '-' ∨ c.isDigit = true) := by
  cases spelled with
  | natural spelled =>
    obtain ⟨c, more, rfl⟩ := List.exists_cons_of_ne_nil spelled.nonempty
    exact ⟨c, more, rfl, .inr (spelled.decimal c List.mem_cons_self)⟩
  | negative positive spelled => exact ⟨'-', _, rfl, .inl rfl⟩

/-- What an integer begins with differs from every character that is neither sign nor digit. -/
theorem ne_of_number {c d : Char} (head : c = '-' ∨ c.isDigit = true) (notSign : d ≠ '-')
    (notDigit : d.isDigit = false) : c ≠ d := by
  rintro rfl
  rcases head with rfl | digit
  · exact notSign rfl
  · rw [digit] at notDigit
    cases notDigit

theorem isSpace_of_number {c : Char} (head : c = '-' ∨ c.isDigit = true) : isSpace c = false := by
  rcases head with rfl | digit
  · decide
  · have differs : ∀ d : Char, d ≠ '-' → d.isDigit = false → c ≠ d := fun _ => ne_of_number (.inr digit)
    simp [isSpace, differs]

theorem exists_head_enclosed {form : Form} {level : Nat} {opening closing : Char} {parts : List (List Char)}
    {text : List Char} (enclosed : Enclosed form level opening closing parts text) :
    ∃ more, text = opening :: more := by
  cases enclosed <;> exact ⟨_, rfl⟩

/-- A value that is neither array nor object is read the same however deep it stands. -/
theorem readValue_scalar (budget room : Nat) {c : Char} (notSpace : isSpace c = false) (notArray : c ≠ '[')
    (notObject : c ≠ '{') (rest : List Char) :
    readValue budget room (c :: rest) = readScalar (c :: rest) := by
  have noArray : ∀ text, c :: rest = '[' :: text → False := fun _ same => notArray (List.cons.inj same).1
  have noObject : ∀ text, c :: rest = '{' :: text → False := fun _ same => notObject (List.cons.inj same).1
  cases room with
  | zero => rw [readValue, skipSpaces_of_head notSpace]; split <;> first | rfl | simp_all
  | succ room => rw [readValue, skipSpaces_of_head notSpace]; split <;> first | rfl | simp_all

theorem readScalar_int {n : Int} {text : List Char} (spelled : SpellsInt n text) (fits : FitsWord n)
    {rest : List Char} (ends : EndsNumber rest) : readScalar (text ++ rest) = .ok (.number (.int n fits), rest) := by
  have number := readNumber_spelled spelled fits ends
  obtain ⟨c, more, rfl, head⟩ := exists_head_spellsInt spelled
  have starts : (c = '-' || c.isDigit) = true := by
    rcases head with rfl | digit
    · rfl
    · simp [digit]
  rw [List.cons_append] at number ⊢
  rw [readScalar]
  · rw [if_pos starts, number]
    rfl
  all_goals exact ne_of_number head (by decide) (by decide)

theorem readScalar_string {s : String} {text : List Char} (spelled : SpellsString s text) (rest : List Char) :
    readScalar (text ++ rest) = .ok (.string s, rest) := by
  obtain ⟨inner, rfl, read⟩ := exists_readString spelled
  rw [List.cons_append, readScalar, read]
  rfl

/-- A text that begins as neither array nor object does, and is read as a value in front of whatever ends a number. -/
structure ReadsFlat (value : Json) (text : List Char) : Prop where
  opens : ∃ c more, text = c :: more ∧ isSpace c = false ∧ c ≠ '[' ∧ c ≠ '{' ∧ c ≠ ']'
  reads : ∀ rest, EndsNumber rest → readScalar (text ++ rest) = .ok (value, rest)

/-- A value that is neither array nor object is read from each text that spells it. -/
theorem readsFlat_spelled {form : Form} {level : Nat} {value : Json} {text : List Char} (exact : Exact value)
    (flat : depth value = 0) (spelled : Spells form level value text) : ReadsFlat value text := by
  cases value with
  | null =>
    rw [Spells] at spelled
    subst spelled
    exact ⟨⟨'n', _, rfl, by decide, by decide, by decide, by decide⟩, fun _ _ => rfl⟩
  | bool b =>
    cases b <;> rw [Spells] at spelled <;> subst spelled
    · exact ⟨⟨'f', _, rfl, by decide, by decide, by decide, by decide⟩, fun _ _ => rfl⟩
    · exact ⟨⟨'t', _, rfl, by decide, by decide, by decide, by decide⟩, fun _ _ => rfl⟩
  | number n =>
    cases n with
    | int n fits =>
      rw [Spells] at spelled
      refine ⟨?_, fun _ => readScalar_int spelled fits⟩
      obtain ⟨c, more, written, head⟩ := exists_head_spellsInt spelled
      exact ⟨c, more, written, isSpace_of_number head, ne_of_number head (by decide) (by decide),
        ne_of_number head (by decide) (by decide), ne_of_number head (by decide) (by decide)⟩
    | float x finite => exact exact.elim
  | string s =>
    rw [Spells] at spelled
    refine ⟨?_, fun rest _ => readScalar_string spelled rest⟩
    obtain ⟨_, _, rfl⟩ := spelled
    exact ⟨'"', _, rfl, by decide, by decide, by decide, by decide⟩
  | array items => rw [depth] at flat; cases flat
  | object members => rw [depth] at flat; cases flat

theorem ReadsFlat.readValue {value : Json} {text : List Char} (flat : ReadsFlat value text) (budget room : Nat)
    {rest : List Char} (ends : EndsNumber rest) : readValue budget room (text ++ rest) = .ok (value, rest) := by
  have read := flat.reads rest ends
  obtain ⟨c, more, rfl, notSpace, notArray, notObject, _⟩ := flat.opens
  rw [← read]
  exact readValue_scalar budget room notSpace notArray notObject _

theorem opens_spelled {form : Form} {level : Nat} {value : Json} {text : List Char} (exact : Exact value)
    (spelled : Spells form level value text) : Opens ']' text := by
  cases value with
  | array items =>
    obtain ⟨_, _, enclosed⟩ := spelled
    obtain ⟨more, written⟩ := exists_head_enclosed enclosed
    exact ⟨'[', more, written, by decide, by decide⟩
  | object members =>
    obtain ⟨_, _, enclosed⟩ := spelled
    obtain ⟨more, written⟩ := exists_head_enclosed enclosed
    exact ⟨'{', more, written, by decide, by decide⟩
  | _ =>
    obtain ⟨c, more, written, notSpace, -, -, notEnd⟩ := (readsFlat_spelled exact rfl spelled).opens
    exact ⟨c, more, written, notSpace, notEnd⟩

/-- A member is read as its key and what its value is read as. -/
theorem readMember_spelled {readItem : List Char → Reading Json} {key : String} {value : Json}
    {name before later rest : List Char} (spelled : SpellsString key name) (spaces : Spaces before)
    (read : readItem (later ++ rest) = .ok (value, rest)) :
    readMember readItem ((name ++ (before ++ ':' :: later)) ++ rest) = .ok ((key, value), rest) := by
  obtain ⟨inner, rfl, readName⟩ := exists_readString spelled
  have seen : skipSpaces (before ++ ':' :: (later ++ rest)) = ':' :: (later ++ rest) := by
    rw [skipSpaces_append spaces, skipSpaces_of_head (by decide)]
  have colon : readKey ('"' :: (inner ++ (before ++ ':' :: (later ++ rest)))) = .ok (key, later ++ rest) := by
    rw [readKey, readName]
    simp only [seen]
  rw [List.append_assoc, List.append_assoc, List.cons_append, List.cons_append, readMember, colon]
  simp only [read]
  rfl

theorem readValue_append (budget room : Nat) {gap : List Char} (spaces : Spaces gap) (text : List Char) :
    readValue budget room (gap ++ text) = readValue budget room text := by
  cases room with
  | zero => rw [readValue, readValue, skipSpaces_append spaces]
  | succ room => rw [readValue, readValue, skipSpaces_append spaces]

theorem readValue_array (budget room : Nat) (text : List Char) :
    readValue budget (room + 1) ('[' :: text) = readArray budget (readValue budget room) text := rfl

theorem readValue_object (budget room : Nat) (text : List Char) :
    readValue budget (room + 1) ('{' :: text) = readObject budget (readValue budget room) text := rfl

mutual

/-- An exact value is read from each text that spells it, if it nests no deeper than there is room. -/
theorem readValue_spelled (form : Form) : ∀ (value : Json) (level room budget : Nat) (text : List Char), Exact value →
    depth value ≤ room → Spells form level value text → text.length ≤ budget → ∀ rest, EndsNumber rest →
      readValue budget room (text ++ rest) = .ok (value, rest)
  | .null, _, room, budget, _, exact, _, spelled, _, _, ends =>
    (readsFlat_spelled exact rfl spelled).readValue budget room ends
  | .bool _, _, room, budget, _, exact, _, spelled, _, _, ends =>
    (readsFlat_spelled exact rfl spelled).readValue budget room ends
  | .number _, _, room, budget, _, exact, _, spelled, _, _, ends =>
    (readsFlat_spelled exact rfl spelled).readValue budget room ends
  | .string _, _, room, budget, _, exact, _, spelled, _, _, ends =>
    (readsFlat_spelled exact rfl spelled).readValue budget room ends
  | .array items, level, room, budget, text, exact, shallow, spelled, short, rest, _ => by
    rw [depth] at shallow
    obtain ⟨room, rfl⟩ := Nat.exists_eq_add_one_of_ne_zero (n := room) (by omega)
    rw [Spells] at spelled
    obtain ⟨parts, each, enclosed⟩ := spelled
    obtain ⟨inner, opened, read⟩ := exists_readEnclosed distinct_arrayEnd enclosed short
      (written_spelledItems form items (level + 1) room budget parts exact (by omega) each) rest
    rw [opened, readValue_array, readArray, read]
    rfl
  | .object members, level, room, budget, text, ⟨named, exact⟩, shallow, spelled, short, rest, _ => by
    rw [depth] at shallow
    obtain ⟨room, rfl⟩ := Nat.exists_eq_add_one_of_ne_zero (n := room) (by omega)
    rw [Spells] at spelled
    obtain ⟨parts, each, enclosed⟩ := spelled
    obtain ⟨inner, opened, read⟩ := exists_readEnclosed distinct_objectEnd enclosed short
      (written_spelledMembers form members (level + 1) room budget parts exact (by omega) each) rest
    rw [opened, readValue_object, readObject, read]
    simp only [Except.map, Keyed.ofPairs_of_nodup named]

/-- Exact items are read from texts that spell them. -/
theorem written_spelledItems (form : Form) : ∀ (items : List Json) (level room budget : Nat)
    (texts : List (List Char)), ExactItems items → itemsDepth items ≤ room → SpellsItems form level items texts →
      (∀ text ∈ texts, text.length ≤ budget) → List.Forall₂ (Written ']' (readValue budget room)) items texts
  | [], _, _, _, _, _, _, spelled, _ => by
    rw [SpellsItems] at spelled
    rw [spelled]
    exact .nil
  | item :: rest, level, room, budget, texts, ⟨exact, others⟩, shallow, spelled, short => by
    rw [itemsDepth] at shallow
    rw [SpellsItems] at spelled
    obtain ⟨text, more, rfl, spells, spellsMore⟩ := spelled
    have first := readValue_spelled form item level room budget text exact (by omega) spells (short _ (.head _))
    have later := written_spelledItems form rest level room budget more others (by omega) spellsMore
      fun text among => short text (.tail _ among)
    exact .cons ⟨opens_spelled exact spells, first⟩ later

/-- Members with exact values are read from texts that spell them. -/
theorem written_spelledMembers (form : Form) : ∀ (members : List (String × Json)) (level room budget : Nat)
    (texts : List (List Char)), ExactMembers members → membersDepth members ≤ room →
      SpellsMembers form level members texts → (∀ text ∈ texts, text.length ≤ budget) →
        List.Forall₂ (Written '}' (readMember (readValue budget room))) members texts
  | [], _, _, _, _, _, _, spelled, _ => by
    rw [SpellsMembers] at spelled
    rw [spelled]
    exact .nil
  | (key, value) :: rest, level, room, budget, texts, ⟨exact, others⟩, shallow, spelled, short => by
    rw [membersDepth] at shallow
    rw [SpellsMembers] at spelled
    obtain ⟨name, before, after, text, more, rfl, named, ahead, behind, spells, spellsMore⟩ := spelled
    have bound : text.length ≤ budget := by
      have whole := short _ (.head _)
      simp only [List.length_append, List.length_cons] at whole
      omega
    have opens : Opens '}' (name ++ (before ++ ':' :: (after ++ text))) := by
      obtain ⟨_, _, rfl⟩ := named
      exact ⟨'"', _, rfl, by decide, by decide⟩
    have first (tail : List Char) (ends : EndsNumber tail) :
        readValue budget room ((after ++ text) ++ tail) = .ok (value, tail) := by
      rw [List.append_assoc, readValue_append budget room (form.spaces _ _ behind)]
      exact readValue_spelled form value level room budget text exact (by omega) spells bound tail ends
    have later := written_spelledMembers form rest level room budget more others (by omega) spellsMore
      fun text among => short text (.tail _ among)
    exact .cons ⟨opens, fun tail ends => readMember_spelled named (form.spaces _ _ ahead) (first tail ends)⟩ later

end

/-- A whole text that spells an exact value of bounded depth is read as that value. -/
theorem read_spelled {form : Form} {value : Json} {text : List Char} (exact : Exact value)
    (shallow : depth value ≤ nestingLimit) (spelled : Spells form 0 value text) : read text = .ok value := by
  have whole := readValue_spelled form value 0 nestingLimit text.length text exact shallow spelled (Nat.le_refl _)
    [] (fun _ none => nomatch none)
  rw [List.append_nil] at whole
  rw [read, whole]
  rfl

end RowQuery.Json

namespace RowQuery.File

/-! ## Tables -/

theorem rowsFrom_object (index : Nat) (rows : List Row) : rowsFrom index (rows.map .object) = .ok rows := by
  induction rows generalizing index with
  | nil => rfl
  | cons row rows ih =>
    rw [List.map_cons, rowsFrom, ih]
    rfl

/-- The document that holds a table with rows is taken as those rows, under the names of the first. -/
theorem tableOfJson_toJson {table : Table} (someRow : table.rows ≠ []) :
    tableOfJson table.toJson = .ok (Table.ofRows table.rows) := by
  obtain ⟨row, rows, same⟩ := List.exists_cons_of_ne_nil someRow
  have items := rowsFrom_object 0 table.rows
  rw [same] at items
  rw [tableOfJson, Table.toJson, rowArray?, same, List.map_cons]
  rw [List.map_cons] at items
  simp only [items, Except.map]

/-- An exported table is loaded with the same rows, if it has any: the same cells in the same order,
with nulls kept and absent cells absent. It shows the cells of its first row, whatever was shown before. -/
theorem readJson_render (table : Table) (someRow : table.rows ≠ []) (exact : table.toJson.Exact)
    (shallow : table.toJson.depth ≤ 127) :
    readJson (table.render .json).toList = .ok (Table.ofRows table.rows) := by
  have text : (table.render .json).toList = Json.indentedText 0 table.toJson := by
    rw [Table.render, Json.indented, String.toList_ofList]
  rw [text, readJson, Json.read_spelled exact shallow (Json.spells_indentedText table.toJson 0)]
  exact tableOfJson_toJson someRow

/-- Two rows with other cells than the columns say: quotes, control characters, an absent cell, a null,
nested and empty containers. -/
def unevenTable : Table where
  columns := ["city", "city"]
  rows := [
    [("name", .string "Zo\"e\\\n\x01"), ("tags", .array [.null, .number (.int (-5)), .array []])],
    [("tags", .object [("", .bool true), ("at", .object [])]), ("name", .null)]]

theorem readJson_render_unevenTable :
    readJson (unevenTable.render .json).toList = .ok ⟨["name", "tags"], unevenTable.rows⟩ := by
  have exact : unevenTable.toJson.Exact := by
    simp [unevenTable, Table.toJson, Json.Exact, Json.ExactItems, Json.ExactMembers]
  have shallow : unevenTable.toJson.depth ≤ 127 := by
    simp [unevenTable, Table.toJson, Json.depth, Json.itemsDepth, Json.membersDepth]
  exact readJson_render unevenTable (List.cons_ne_nil _ _) exact shallow

end RowQuery.File
