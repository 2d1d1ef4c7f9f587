import Mathlib.Data.List.Forall2
import RowQuery.Csv.Reader
import RowQuery.Csv.Writer
import RowQuery.Proofs.Cutting
import RowQuery.Proofs.Keyed

/-!
# Lines, column names and fields of a CSV text

A line break cuts the lines of a text in two (`lines_append_break`), so the lines of lines that are
joined are the lines of each. A column name is its own only if it has no blank and no quote at an
end (`columnName_eq_self_iff`). A field holds characters of its line and never a quote.
-/

namespace RowQuery.Csv

/-! ## Lines -/

/-- A text in which no line ends. -/
def Unbroken (text : List Char) : Prop := '\n' ∉ text ∧ '\r' ∉ text

instance (text : List Char) : Decidable (Unbroken text) := inferInstanceAs (Decidable (_ ∧ _))

theorem unbroken_iff (text : List Char) : Unbroken text ↔ ∀ c ∈ text, isLineBreak c = false := by
  simp only [Unbroken, isLineBreak, Bool.or_eq_false_iff, decide_eq_false_iff_not]
  constructor
  · rintro ⟨noFeed, noReturn⟩ c inside
    exact ⟨fun same => noFeed (same ▸ inside), fun same => noReturn (same ▸ inside)⟩
  · intro none
    exact ⟨fun feed => (none _ feed).1 rfl, fun back => (none _ back).2 rfl⟩

theorem unbroken_of_subset {text part : List Char} (whole : Unbroken text) (inside : part ⊆ text) : Unbroken part :=
  ⟨fun feed => whole.1 (inside feed), fun back => whole.2 (inside back)⟩

theorem lines_append_break {c : Char} (ends : isLineBreak c = true) (before after : List Char) :
    lines (before ++ c :: after) = lines before ++ lines after := by
  rw [lines, List.splitOnP_append_cons before after ends, List.filter_append]
  rfl

/-- The lines of joined texts are those of each of them. -/
theorem lines_join (parts : List (List Char)) : lines (['\n'].intercalate parts) = parts.flatMap lines := by
  induction parts with
  | nil => rfl
  | cons first rest ih =>
    cases rest with
    | nil => simp
    | cons second rest =>
      rw [List.intercalate_cons_cons, List.append_assoc, List.singleton_append, lines_append_break rfl, ih]
      rfl

theorem splitOnP_of_unbroken {text : List Char} (whole : Unbroken text) : text.splitOnP isLineBreak = [text] :=
  List.splitOnP_eq_singleton ((unbroken_iff text).mp whole)

theorem lines_of_unbroken {text : List Char} (whole : Unbroken text) {c : Char} (inside : c ∈ text)
    (seen : Text.isBlank c = false) : lines text = [text] := by
  have notBlank : text.all Text.isBlank = false := List.all_eq_false.mpr ⟨c, inside, by simp [seen]⟩
  rw [lines, splitOnP_of_unbroken whole]
  simp [notBlank]

theorem infix_of_mem_lines {text line : List Char} (member : line ∈ lines text) : line <:+: text :=
  Text.infix_of_mem_splitOnP (List.mem_filter.mp member).1

theorem unbroken_of_mem_lines {text line : List Char} (member : line ∈ lines text) : Unbroken line :=
  (unbroken_iff line).mpr (Text.not_cut_of_mem_splitOnP (List.mem_filter.mp member).1)

theorem nonblank_of_mem_lines {text line : List Char} (member : line ∈ lines text) :
    ∃ c ∈ line, Text.isBlank c = false := by
  simpa using (List.mem_filter.mp member).2

/-! ## Column names -/

/-- A name without a quote in front. -/
def openedName (name : List Char) : List Char := if name.head? = some '"' then name.drop 1 else name

/-- A name without a quote at its end. -/
def closedName (name : List Char) : List Char :=
  if name.getLast? = some '"' then name.dropLast else name

theorem columnName_eq (written : List Char) :
    columnName written = closedName (openedName (Text.trim written)) := rfl

theorem openedName_sublist (name : List Char) : (openedName name).Sublist name := by
  rw [openedName]
  split
  · exact List.drop_sublist 1 name
  · exact .refl name

theorem closedName_sublist (name : List Char) : (closedName name).Sublist name := by
  rw [closedName]
  split
  · exact List.dropLast_sublist name
  · exact .refl name

theorem openedName_eq_self_iff (name : List Char) : openedName name = name ↔ name.head? ≠ some '"' := by
  cases name with
  | nil => simp [openedName]
  | cons c rest => by_cases quote : c = '"' <;> simp [openedName, quote]

theorem closedName_eq_self_iff (name : List Char) : closedName name = name ↔ name.getLast? ≠ some '"' := by
  rcases List.eq_nil_or_concat' name with rfl | ⟨front, c, rfl⟩
  · simp [closedName]
  · by_cases quote : c = '"' <;> simp [closedName, quote]

theorem columnName_sublist (written : List Char) : (columnName written).Sublist written :=
  ((closedName_sublist _).trans (openedName_sublist _)).trans (Text.trim_sublist written)

/-- The names that are read as they are written. -/
theorem columnName_eq_self_iff (name : List Char) :
    columnName name = name ↔
      Text.trim name = name ∧ name.head? ≠ some '"' ∧ name.getLast? ≠ some '"' := by
  rw [← openedName_eq_self_iff, ← closedName_eq_self_iff, columnName_eq]
  constructor
  · intro kept
    -- Each of the three steps only shortens, so a name that comes out whole has passed each of them whole.
    have trimmed : Text.trim name = name := by
      refine (Text.trim_sublist name).antisymm ?_
      conv_lhs => rw [← kept]
      exact (closedName_sublist _).trans (openedName_sublist _)
    rw [trimmed] at kept
    have opened : openedName name = name := by
      refine (openedName_sublist name).antisymm ?_
      conv_lhs => rw [← kept]
      exact closedName_sublist _
    rw [opened] at kept
    exact ⟨trimmed, opened, kept⟩
  · rintro ⟨trimmed, opened, closed⟩
    rw [trimmed, opened, closed]

theorem header_ne_nil (line : List Char) : header line ≠ [] := by simp [header]

theorem mem_header {line : List Char} {name : String} (member : name ∈ header line) :
    ',' ∉ name.toList ∧ name.toList.Sublist line := by
  obtain ⟨written, piece, rfl⟩ := List.mem_map.mp member
  rw [String.toList_ofList]
  constructor
  · exact fun inside => Text.not_mem_of_mem_splitOn piece ((columnName_sublist written).subset inside)
  · exact (columnName_sublist written).trans (Text.infix_of_mem_splitOnP piece).sublist

/-- The names of a header line, joined again, are part of the line. -/
theorem headerLine_header_sublist (line : List Char) : (headerLine (header line)).Sublist line := by
  have shorter : ([','].intercalate ((line.splitOn ',').map columnName)).Sublist
      ([','].intercalate (line.splitOn ',')) :=
    Text.intercalate_sublist fun part _ => columnName_sublist part
  rw [List.intercalate_splitOn] at shorter
  simpa [headerLine, header, Function.comp_def] using shorter

/-- Names without commas are told apart on their line. -/
theorem header_headerLine {columns : List String} (some : columns ≠ [])
    (commaFree : ∀ name ∈ columns, ',' ∉ name.toList) :
    header (headerLine columns) = columns.map fun name => String.ofList (columnName name.toList) := by
  have parts : (headerLine columns).splitOn ',' = columns.map String.toList := by
    apply List.splitOn_intercalate
    · intro part among
      obtain ⟨name, listed, rfl⟩ := List.mem_map.mp among
      exact commaFree name listed
    · simpa using some
  rw [header, parts, List.map_map]
  rfl

/-! ## Fields -/

theorem fieldsFrom_ne_nil (field : List Char) (inQuotes : Bool) (line : List Char) :
    fieldsFrom field inQuotes line ≠ [] := by
  fun_induction fieldsFrom field inQuotes line <;> simp_all

theorem mem_fieldsFrom {field : List Char} {inQuotes : Bool} {line found : List Char}
    (member : found ∈ fieldsFrom field inQuotes line) :
    ∀ c ∈ found, c ∈ field ∨ c ∈ line ∧ c ≠ '"' := by
  fun_induction fieldsFrom field inQuotes line with
  | case1 field inQuotes => simp_all
  | case2 field inQuotes rest ih =>
    intro c inside
    exact (ih member c inside).imp_right fun later => ⟨List.mem_cons_of_mem _ later.1, later.2⟩
  | case3 field inQuotes c rest notQuote comma ih =>
    intro d inside
    rcases List.mem_cons.mp member with same | further
    · exact .inl (List.mem_reverse.mp (same ▸ inside))
    · rcases ih further d inside with none | later
      · exact absurd none List.not_mem_nil
      · exact .inr ⟨List.mem_cons_of_mem _ later.1, later.2⟩
  | case4 field inQuotes c rest notQuote notComma ih =>
    intro d inside
    rcases ih member d inside with taken | later
    · rcases List.mem_cons.mp taken with rfl | earlier
      · exact .inr ⟨List.mem_cons_self, notQuote⟩
      · exact .inl earlier
    · exact .inr ⟨List.mem_cons_of_mem _ later.1, later.2⟩

/-- Between quotes every character but a quote is taken into the field. -/
theorem fieldsFrom_quoted (field text rest : List Char) (plain : '"' ∉ text) :
    fieldsFrom field true (text ++ rest) = fieldsFrom (text.reverse ++ field) true rest := by
  induction text generalizing field with
  | nil => rfl
  | cons c text ih =>
    rw [List.mem_cons, not_or] at plain
    obtain ⟨notQuote, later⟩ := plain
    rw [List.cons_append, fieldsFrom, if_neg (Ne.symm notQuote), if_neg (by simp), ih _ later]
    simp

theorem fields_ne_nil (line : List Char) : fields line ≠ [] := by
  simp [fields, fieldsFrom_ne_nil]

theorem mem_fields {line : List Char} {field : String} (member : field ∈ fields line) :
    ∀ c ∈ field.toList, c ∈ line ∧ c ≠ '"' := by
  obtain ⟨found, piece, rfl⟩ := List.mem_map.mp member
  intro c inside
  rw [String.toList_ofList] at inside
  exact (mem_fieldsFrom piece c inside).resolve_left List.not_mem_nil

/-- A text between quotes, without quotes of its own, becomes the field. -/
theorem fieldsFrom_enclosed (text rest : List Char) (plain : '"' ∉ text) :
    fieldsFrom [] false ('"' :: (text ++ '"' :: rest)) = fieldsFrom text.reverse false rest := by
  rw [fieldsFrom, if_pos rfl, Bool.not_false, fieldsFrom_quoted _ _ _ plain, fieldsFrom, if_pos rfl]
  simp

theorem fieldsFrom_comma (field rest : List Char) :
    fieldsFrom field false (',' :: rest) = field.reverse :: fieldsFrom [] false rest := by
  rw [fieldsFrom, if_neg (by decide), if_pos ⟨rfl, rfl⟩]

theorem fieldsFrom_bare (field text rest : List Char) (plain : '"' ∉ text) (noComma : ',' ∉ text) :
    fieldsFrom field false (text ++ rest) = fieldsFrom (text.reverse ++ field) false rest := by
  induction text generalizing field with
  | nil => rfl
  | cons c text ih =>
    rw [List.mem_cons, not_or] at plain noComma
    obtain ⟨notQuote, plain⟩ := plain
    obtain ⟨notComma, noComma⟩ := noComma
    rw [List.cons_append, fieldsFrom, if_neg (Ne.symm notQuote), if_neg fun comma => notComma comma.1.symm,
      ih _ plain noComma]
    simp

/-- A text without quotes, as it may stand on a line: between quotes, or bare if it has no comma. -/
inductive Spells : List Char → List Char → Prop
  | quoted {text : List Char} (plain : '"' ∉ text) : Spells text ('"' :: text ++ ['"'])
  | bare {text : List Char} (plain : '"' ∉ text) (noComma : ',' ∉ text) : Spells text text

theorem fieldsFrom_spelling {text spelling : List Char} (spells : Spells text spelling) (rest : List Char) :
    fieldsFrom [] false (spelling ++ rest) = fieldsFrom text.reverse false rest := by
  cases spells with
  | quoted plain => simpa using fieldsFrom_enclosed text rest plain
  | bare plain noComma => simpa using fieldsFrom_bare [] text rest plain noComma

/-- Texts that are spelled one by one and joined by commas are the fields of the line. -/
theorem fieldsFrom_spelled {texts spelled : List (List Char)} (some : texts ≠ [])
    (spells : List.Forall₂ Spells texts spelled) : fieldsFrom [] false ([','].intercalate spelled) = texts := by
  induction spells with
  | nil => exact absurd rfl some
  | @cons text spelling texts spelled first later ih =>
    cases later with
    | nil =>
      have alone := fieldsFrom_spelling first []
      simpa [fieldsFrom] using alone
    | cons second more =>
      rw [List.intercalate_cons_cons, List.append_assoc, fieldsFrom_spelling first, List.singleton_append,
        fieldsFrom_comma, List.reverse_reverse, ih (List.cons_ne_nil _ _)]

/-- The fields of the line of a row are the texts of its cells. -/
theorem fields_dataLine {columns : List String} (some : columns ≠ []) {row : Row}
    (plain : ∀ column ∈ columns, '"' ∉ row.textOf column) :
    fieldsFrom [] false (dataLine columns row) = columns.map row.textOf := by
  refine fieldsFrom_spelled (by simpa using some) ?_
  rw [List.forall₂_map_left_iff, List.forall₂_map_right_iff, List.forall₂_same]
  exact fun column listed => .quoted (plain column listed)

/-! ## Written lines -/

/-- The line of a row is broken only where one of its cells is. -/
theorem unbroken_dataLine {columns : List String} {row : Row}
    (cells : ∀ column ∈ columns, Unbroken (row.textOf column)) : Unbroken (dataLine columns row) := by
  rw [unbroken_iff]
  intro c inside
  rcases Text.mem_of_mem_intercalate inside with comma | ⟨part, among, inside⟩
  · rw [List.mem_singleton.mp comma]
    rfl
  · obtain ⟨column, listed, rfl⟩ := List.mem_map.mp among
    rcases List.mem_append.mp inside with before | quote
    · rcases List.mem_cons.mp before with rfl | within
      · rfl
      · exact (unbroken_iff _).mp (cells column listed) c within
    · rw [List.mem_singleton.mp quote]
      rfl

/-- A table whose cells break no line is written with a line for each row under the names. -/
theorem splitOnP_text {table : Table}
    (cells : ∀ row ∈ table.rows, ∀ column ∈ table.columns, Unbroken (row.textOf column)) :
    (text table).splitOnP isLineBreak =
      (headerLine table.columns).splitOnP isLineBreak ++ table.rows.map (dataLine table.columns) := by
  obtain ⟨columns, rows⟩ := table
  dsimp only at cells
  rw [text]
  generalize headerLine columns = first
  -- The line in front is arbitrary, since it becomes that of a row.
  induction rows generalizing first with
  | nil => simp
  | cons row rest ih =>
    have here := splitOnP_of_unbroken (unbroken_dataLine (cells row List.mem_cons_self))
    have later := ih (fun other among => cells other (List.mem_cons_of_mem _ among)) (dataLine columns row)
    rw [List.map_cons, List.intercalate_cons_cons, List.append_assoc, List.singleton_append,
      List.splitOnP_append_cons _ _ (show isLineBreak '\n' = true from rfl), later, here]
    rfl

/-! ## Rows and tables -/

theorem row_ne_nil (line : List Char) {columns : List String} (some : columns ≠ []) : row columns line ≠ [] := by
  apply Keyed.ofPairs_ne_nil
  have fields := fields_ne_nil line
  cases columns <;> cases h : Csv.fields line <;> simp_all

/-- The cells of a row are fields of its line. -/
theorem mem_row {columns : List String} {line : List Char} {name : String} {cell : Json}
    (member : (name, cell) ∈ row columns line) :
    name ∈ columns ∧ ∃ field ∈ fields line, cell = .string field := by
  have pair := List.of_mem_zip (Keyed.mem_of_mem_ofPairs member)
  obtain ⟨field, found, same⟩ := List.mem_map.mp pair.2
  exact ⟨pair.1, field, found, same.symm⟩

/-- A table is read from at least two lines. -/
theorem lines_of_read {text : List Char} {table : Table} (read : Csv.read text = .ok table) :
    ∃ first second rest, lines text = first :: second :: rest ∧
      table = Table.ofRows ((second :: rest).map (row (header first))) := by
  rw [Csv.read] at read
  rcases found : lines text with _ | ⟨first, _ | ⟨second, rest⟩⟩
  · simp [found] at read
  · simp [found] at read
  · rw [found] at read
    exact ⟨first, second, rest, rfl, (Except.ok.inj read).symm⟩

end RowQuery.Csv
