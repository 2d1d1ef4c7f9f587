import Mathlib.Algebra.Group.Nat.Even
import RowQuery.Proofs.CsvLines

/-!
# Fields and separators

A comma separates two fields if an even number of quotes stands in front of it on its line. The fields of a
line are the stretches between its separators with the quotes left out (`fieldsFrom_eq_stretches`), so
nothing but quotes is lost (`intercalate_fieldsFrom`). Texts that are put on a line each between quotes, or
bare where there is no comma to protect, are its fields (`fieldsFrom_spelled`).
-/

namespace RowQuery.Csv

/-! ## Separators -/

/-- A place with a comma that separates fields: quotes in front of it are opened and closed again. -/
def Separates (text : List Char) (place : Nat) : Prop :=
  text[place]? = some ',' ∧ Even ((text.take place).count '"')

instance (text : List Char) (place : Nat) : Decidable (Separates text place) :=
  inferInstanceAs (Decidable (_ ∧ _))

/-- The places at which a line is cut, in order. -/
def separators (line : List Char) : List Nat := (List.range line.length).filter fun place => Separates line place

/-- The stretches of a text from a place on, each up to the next of the places at which it is cut. -/
def stretches (text : List Char) (start : Nat) : List Nat → List (List Char)
  | [] => [text.drop start]
  | stop :: later => (text.take stop).drop start :: stretches text (stop + 1) later

/-- A text without its quotes. -/
def withoutQuotes (text : List Char) : List Char := text.filter (· != '"')

/-- The separators of the rest of a line; `inQuotes` tells whether it begins between quotes. -/
def separatorsFrom (inQuotes : Bool) (rest : List Char) : List Nat :=
  (List.range rest.length).filter fun place =>
    rest[place]? = some ',' ∧ (Even ((rest.take place).count '"') ↔ inQuotes = false)

theorem separatorsFrom_false (line : List Char) : separatorsFrom false line = separators line := by
  refine List.filter_congr ?_
  intro place _
  rw [decide_eq_decide, Separates, iff_true_right rfl]

theorem separatorsFrom_cons (inQuotes : Bool) (c : Char) (rest : List Char) :
    separatorsFrom inQuotes (c :: rest) =
      (if c = ',' ∧ inQuotes = false then [0] else []) ++
        (separatorsFrom (if c = '"' then !inQuotes else inQuotes) rest).map (· + 1) := by
  have later : (List.range rest.length).filter (fun place =>
        decide ((c :: rest)[place + 1]? = some ',' ∧
          (Even (((c :: rest).take (place + 1)).count '"') ↔ inQuotes = false))) =
      separatorsFrom (if c = '"' then !inQuotes else inQuotes) rest := by
    refine List.filter_congr ?_
    intro place _
    rw [decide_eq_decide, List.getElem?_cons_succ, List.take_succ_cons]
    by_cases quote : c = '"'
    · -- One more quote in front turns the parity around, as it turns quoting around.
      rw [quote, List.count_cons_self, Nat.even_add_one]
      cases inQuotes <;> simp
    · rw [List.count_cons_of_ne quote, if_neg quote]
  have first : ((c :: rest)[0]? = some ',' ∧ (Even (((c :: rest).take 0).count '"') ↔ inQuotes = false)) ↔
      c = ',' ∧ inQuotes = false := by
    simp
  rw [separatorsFrom, List.length_cons, List.range_succ_eq_map, List.filter_cons, List.filter_map, ← later]
  by_cases here : c = ',' ∧ inQuotes = false
  · rw [if_pos (decide_eq_true (first.mpr here)), if_pos here]
    rfl
  · rw [if_neg (by simpa using here), if_neg here]
    rfl

/-! ## Stretches -/

theorem length_stretches (text : List Char) (start : Nat) (cuts : List Nat) :
    (stretches text start cuts).length = cuts.length + 1 := by
  induction cuts generalizing start with
  | nil => rfl
  | cons stop later ih => rw [stretches, List.length_cons, ih, List.length_cons]

theorem stretches_ne_nil (text : List Char) (start : Nat) (cuts : List Nat) : stretches text start cuts ≠ [] :=
  List.ne_nil_of_length_eq_add_one (length_stretches text start cuts)

/-- A character in front moves every stretch that starts behind it. -/
theorem stretches_cons_succ (c : Char) (text : List Char) (start : Nat) (cuts : List Nat) :
    stretches (c :: text) (start + 1) (cuts.map (· + 1)) = stretches text start cuts := by
  induction cuts generalizing start with
  | nil => rfl
  | cons stop later ih => rw [List.map_cons, stretches, ih, stretches]; rfl

/-- A character in front belongs to the first stretch. -/
theorem stretches_cons (c : Char) (text : List Char) (cuts : List Nat) :
    stretches (c :: text) 0 (cuts.map (· + 1)) = (stretches text 0 cuts).modifyHead (c :: ·) := by
  cases cuts with
  | nil => rfl
  | cons stop later =>
    rw [List.map_cons, stretches, stretches_cons_succ, stretches]
    rfl

theorem stretches_comma (text : List Char) (cuts : List Nat) :
    stretches (',' :: text) 0 (0 :: cuts.map (· + 1)) = [] :: stretches text 0 cuts := by
  rw [stretches, stretches_cons_succ]
  rfl

/-! ## Fields -/

/-- The fields of the rest of a line are its stretches, and the first of them goes on with the current field. -/
theorem fieldsFrom_eq_stretches (field : List Char) (inQuotes : Bool) (rest : List Char) :
    fieldsFrom field inQuotes rest =
      ((stretches rest 0 (separatorsFrom inQuotes rest)).map withoutQuotes).modifyHead (field.reverse ++ ·) := by
  fun_induction fieldsFrom field inQuotes rest with
  | case1 field inQuotes => simp [separatorsFrom, stretches, withoutQuotes]
  | case2 field inQuotes rest ih =>
    obtain ⟨first, later, cut⟩ := List.exists_cons_of_ne_nil (stretches_ne_nil rest 0 (separatorsFrom (!inQuotes) rest))
    rw [ih, separatorsFrom_cons, if_neg (by simp), if_pos rfl, List.nil_append, stretches_cons, cut]
    simp [withoutQuotes]
  | case3 field inQuotes c rest notQuote comma ih =>
    obtain ⟨first, later, cut⟩ := List.exists_cons_of_ne_nil (stretches_ne_nil rest 0 (separatorsFrom false rest))
    obtain ⟨rfl, rfl⟩ := comma
    rw [ih, separatorsFrom_cons, if_pos ⟨rfl, rfl⟩, if_neg notQuote, List.singleton_append, stretches_comma, cut]
    simp [withoutQuotes]
  | case4 field inQuotes c rest notQuote notComma ih =>
    obtain ⟨first, later, cut⟩ := List.exists_cons_of_ne_nil (stretches_ne_nil rest 0 (separatorsFrom inQuotes rest))
    rw [ih, separatorsFrom_cons, if_neg notComma, if_neg notQuote, List.nil_append, stretches_cons, cut]
    simp [withoutQuotes, notQuote]

/-- The fields joined again are the line without its quotes. -/
theorem intercalate_fieldsFrom (field : List Char) (inQuotes : Bool) (rest : List Char) :
    [','].intercalate (fieldsFrom field inQuotes rest) = field.reverse ++ withoutQuotes rest := by
  fun_induction fieldsFrom field inQuotes rest with
  | case1 field inQuotes => simp [withoutQuotes]
  | case2 field inQuotes rest ih => rw [ih]; simp [withoutQuotes]
  | case3 field inQuotes c rest notQuote comma ih =>
    rw [List.intercalate_cons_of_ne_nil (fieldsFrom_ne_nil [] false rest), ih]
    simp [withoutQuotes, comma.1]
  | case4 field inQuotes c rest notQuote notComma ih => rw [ih]; simp [withoutQuotes, notQuote]

/-! ## Cutting lines -/

/-- A way to cut lines into fields that loses nothing but quotes. -/
structure CutsAtSeparators (cut : List Char → List String) : Prop where
  joined : ∀ line, [','].intercalate ((cut line).map String.toList) = withoutQuotes line
  bounded : ∀ line, (cut line).map String.toList = (stretches line 0 (separators line)).map withoutQuotes
  number : ∀ line, (cut line).length = (separators line).length + 1
  plain : ∀ line, ∀ field ∈ cut line, '"' ∉ field.toList
  restored : ∀ texts spelled, texts ≠ [] → List.Forall₂ Spells (texts.map String.toList) spelled →
    cut ([','].intercalate spelled) = texts

theorem toList_fields (line : List Char) : (fields line).map String.toList = fieldsFrom [] false line := by
  simp [fields, Function.comp_def]

theorem toList_fields_eq_stretches (line : List Char) :
    (fields line).map String.toList = (stretches line 0 (separators line)).map withoutQuotes := by
  rw [toList_fields, fieldsFrom_eq_stretches, separatorsFrom_false]
  exact congrFun List.modifyHead_id _

/-- The fields of a line are cut at its separators and keep all of it but the quotes. -/
theorem cutsAtSeparators_fields : CutsAtSeparators fields where
  joined line := by rw [toList_fields, intercalate_fieldsFrom, List.reverse_nil, List.nil_append]
  bounded := toList_fields_eq_stretches
  number line := by
    rw [← List.length_map String.toList, toList_fields_eq_stretches, List.length_map, length_stretches]
  plain _ _ member inside := (mem_fields member _ inside).2 rfl
  restored texts spelled some spells := by
    rw [fields, fieldsFrom_spelled (by simpa using some) spells, List.map_map]
    simp [Function.comp_def]

/-- Quoting within a field, and a quote that is never closed. -/
example : separators "a\"b,c\"d,\"e,".toList = [7] ∧ fields "a\"b,c\"d,\"e,".toList = ["ab,cd", "e,"] := by decide

end RowQuery.Csv
