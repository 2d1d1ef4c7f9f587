import RowQuery.Proofs.CsvLines

/-!
# What a CSV text gives back

Written as CSV and read again, a table can at best come back with every cell as text. It does so
exactly if it is `Rereadable` (`read_text_eq_iff`).

If it is, every line is read alone. Conversely, cells that came back are fields, so they hold no
quote and end no line; then each row takes one line, and the names are those of the only line that
is left for them. Names can only get shorter when they are read, so they have been read as written.
-/

namespace RowQuery

/-- A row of texts only, with a cell for each of the columns. -/
def Row.asTexts (columns : List String) (row : Row) : Row :=
  Keyed.ofPairs (columns.map fun column => (column, .string (String.ofList (row.textOf column))))

/-- A table with every listed cell as text. -/
def Table.asTexts (table : Table) : Table := ⟨table.columns, table.rows.map (Row.asTexts table.columns)⟩

namespace Csv

/-- A name that is read as it is written between commas. -/
structure PlainName (name : String) : Prop where
  trimmed : Text.trimmed name = name
  commaFree : ',' ∉ name.toList
  unbroken : Unbroken name.toList
  opens : name.toList.head? ≠ some '"'
  closes : name.toList.getLast? ≠ some '"'

/-- The text of a cell that is read as it is written between quotes. -/
structure PlainCell (text : List Char) : Prop where
  quoteFree : '"' ∉ text
  unbroken : Unbroken text

/-- A table that can be read from its text. -/
structure Rereadable (table : Table) : Prop where
  someRow : table.rows ≠ []
  someColumn : table.columns ≠ []
  distinct : table.columns.Nodup
  named : table.columns ≠ [""]
  names : ∀ name ∈ table.columns, PlainName name
  cells : ∀ row ∈ table.rows, ∀ column ∈ table.columns, PlainCell (row.textOf column)

/-! ## Lines of rows -/

theorem asTexts_of_distinct {columns : List String} (distinct : columns.Nodup) (row : Row) :
    row.asTexts columns =
      columns.map fun column => (column, .string (String.ofList (row.textOf column))) := by
  apply Keyed.ofPairs_of_nodup
  simpa [Function.comp_def] using distinct

theorem keys_asTexts {columns : List String} (distinct : columns.Nodup) (row : Row) :
    (row.asTexts columns).keys = columns := by
  rw [asTexts_of_distinct distinct, Keyed.keys, List.map_map]
  exact List.map_id columns

theorem quote_mem_dataLine {columns : List String} (some : columns ≠ []) (row : Row) :
    '"' ∈ dataLine columns row := by
  obtain ⟨column, rest, rfl⟩ := List.exists_cons_of_ne_nil some
  exact Text.mem_intercalate (List.mem_map_of_mem List.mem_cons_self) List.mem_cons_self

/-- A row of plain cells takes one line. -/
theorem lines_dataLine {columns : List String} (some : columns ≠ []) {row : Row}
    (cells : ∀ column ∈ columns, PlainCell (row.textOf column)) :
    lines (dataLine columns row) = [dataLine columns row] :=
  lines_of_unbroken (unbroken_dataLine fun column listed => (cells column listed).unbroken)
    (quote_mem_dataLine some row) (by decide)

/-- The lines of the text of a table with plain cells. -/
theorem lines_text {table : Table} (some : table.columns ≠ [])
    (cells : ∀ row ∈ table.rows, ∀ column ∈ table.columns, PlainCell (row.textOf column)) :
    lines (text table) = lines (headerLine table.columns) ++ table.rows.map (dataLine table.columns) := by
  obtain ⟨columns, rows⟩ := table
  rw [text, lines_join, List.flatMap_cons]
  congr 1
  dsimp only at some cells ⊢
  induction rows with
  | nil => rfl
  | cons row rest ih =>
    rw [List.map_cons, List.flatMap_cons, lines_dataLine some (cells row List.mem_cons_self),
      ih fun other later => cells other (List.mem_cons_of_mem _ later)]
    rfl

/-- The line of a row of plain cells is read as the texts of its cells. -/
theorem row_dataLine {columns : List String} (some : columns ≠ []) {row : Row}
    (cells : ∀ column ∈ columns, PlainCell (row.textOf column)) :
    Csv.row columns (dataLine columns row) = row.asTexts columns := by
  have texts := fields_dataLine some fun column listed => (cells column listed).quoteFree
  rw [Csv.row, fields, texts, Row.asTexts]
  congr 1
  exact (List.zip_of_prod (by simp [Function.comp_def]) (by simp [Function.comp_def])).symm

theorem rows_dataLine {columns : List String} (some : columns ≠ []) {rows : List Row}
    (cells : ∀ row ∈ rows, ∀ column ∈ columns, PlainCell (row.textOf column)) :
    (rows.map (dataLine columns)).map (Csv.row columns) = rows.map (Row.asTexts columns) := by
  rw [List.map_map]
  exact List.map_congr_left fun row among => row_dataLine some (cells row among)

/-! ## From plain names and cells to the table -/

theorem headerLine_unbroken {columns : List String} (names : ∀ name ∈ columns, PlainName name) :
    Unbroken (headerLine columns) := by
  rw [unbroken_iff]
  intro c inside
  rcases Text.mem_of_mem_intercalate inside with comma | ⟨part, among, inside⟩
  · rw [List.mem_singleton.mp comma]
    rfl
  · obtain ⟨name, listed, rfl⟩ := List.mem_map.mp among
    exact (unbroken_iff _).mp (names name listed).unbroken c inside

/-- Names that are not just one empty name leave something to see on their line. -/
theorem headerLine_seen {columns : List String} (some : columns ≠ []) (named : columns ≠ [""])
    (names : ∀ name ∈ columns, PlainName name) : ∃ c ∈ headerLine columns, Text.isBlank c = false := by
  obtain ⟨name, rest, rfl⟩ := List.exists_cons_of_ne_nil some
  cases rest with
  | cons next rest =>
    refine ⟨',', ?_, by decide⟩
    simp [headerLine, List.intercalate_cons_cons]
  | nil =>
    by_contra blank
    have nothing : Text.trim name.toList = [] := by
      apply Text.trim_of_blank
      intro c inside
      by_contra seen
      exact blank ⟨c, by simpa [headerLine] using inside, by simpa using seen⟩
    have whole := (Text.trimmed_eq_iff name).mp (names name List.mem_cons_self).trimmed
    rw [nothing] at whole
    have empty : name = "" := String.toList_inj.mp (by rw [← whole]; rfl)
    exact named (by rw [empty])

theorem header_of_plainNames {columns : List String} (some : columns ≠ [])
    (names : ∀ name ∈ columns, PlainName name) : header (headerLine columns) = columns := by
  rw [header_headerLine some fun name listed => (names name listed).commaFree]
  conv_rhs => rw [← List.map_id columns]
  apply List.map_congr_left
  intro name listed
  have plain := names name listed
  have kept := (columnName_eq_self_iff name.toList).mpr
    ⟨(Text.trimmed_eq_iff name).mp plain.trimmed, plain.opens, plain.closes⟩
  simp [kept]

theorem read_of_rereadable {table : Table} (plain : Rereadable table) :
    Csv.read (text table) = .ok table.asTexts := by
  obtain ⟨c, inside, seen⟩ := headerLine_seen plain.someColumn plain.named plain.names
  have first := lines_of_unbroken (headerLine_unbroken plain.names) inside seen
  have all := lines_text plain.someColumn plain.cells
  obtain ⟨row, rest, rows⟩ := List.exists_cons_of_ne_nil plain.someRow
  have same := rows_dataLine plain.someColumn plain.cells
  rw [first, rows, List.singleton_append, List.map_cons] at all
  rw [rows, List.map_cons] at same
  rw [Csv.read, all]
  dsimp only
  rw [header_of_plainNames plain.someColumn plain.names, same, Table.asTexts, rows, Table.ofRows]
  congr 2
  exact keys_asTexts plain.distinct row

/-! ## From the table to plain names and cells -/

/-- A field of a line is read as it is written between quotes. -/
theorem plainCell_of_mem_fields {line : List Char} (whole : Unbroken line) {field : String}
    (member : field ∈ fields line) : PlainCell field.toList where
  quoteFree quote := (mem_fields member _ quote).2 rfl
  unbroken := unbroken_of_subset whole fun _ inside => (mem_fields member _ inside).1

/-- Cells that come back as their texts are fields of the lines that were read. -/
theorem plainCells_of_rows {table : Table} (distinct : table.columns.Nodup) {names : List String}
    {read : List (List Char)} (among : ∀ line ∈ read, Unbroken line)
    (same : table.rows.map (Row.asTexts table.columns) = read.map (Csv.row names)) :
    ∀ row ∈ table.rows, ∀ column ∈ table.columns, PlainCell (row.textOf column) := by
  intro row member column listed
  obtain ⟨line, within, equal⟩ := List.mem_map.mp (same ▸ List.mem_map_of_mem member)
  have cell : (column, Json.string (String.ofList (row.textOf column))) ∈ row.asTexts table.columns := by
    rw [asTexts_of_distinct distinct]
    exact List.mem_map_of_mem listed
  rw [← equal] at cell
  obtain ⟨field, found, whole⟩ := (mem_row cell).2
  have text : row.textOf column = field.toList := by
    rw [← Json.string.inj whole, String.toList_ofList]
  rw [text]
  exact plainCell_of_mem_fields (among line within) found

/-- Names that come back are all the names of the line they were read from, and the line is theirs. -/
theorem headerLine_eq_of_keys {columns : List String} (some : columns ≠ []) {first : List Char}
    (part : first.Sublist (headerLine columns)) (row : Row)
    (plain : ∀ column ∈ columns, '"' ∉ row.textOf column)
    (keys : (Csv.row (header first) (dataLine columns row)).keys = columns) :
    header first = columns ∧ first = headerLine columns := by
  rw [Csv.row, fields, fields_dataLine some plain] at keys
  obtain ⟨extra, more⟩ := Keyed.prefix_of_keys_ofPairs_zip (by simp) keys
  have shorter := headerLine_header_sublist first
  rw [← more] at shorter
  have none : extra = [] := by
    by_contra further
    have longer := (shorter.trans part).length_le
    rw [headerLine, List.map_append, Text.intercalate_append (by simpa using some) (by simpa using further)] at longer
    simp only [headerLine, List.length_append, List.length_singleton] at longer
    omega
  rw [none, List.append_nil] at more shorter
  exact ⟨more.symm, part.antisymm shorter⟩

theorem plainNames_of_header {columns : List String} (some : columns ≠ [])
    (whole : Unbroken (headerLine columns)) (same : header (headerLine columns) = columns) :
    ∀ name ∈ columns, PlainName name := by
  have commaFree : ∀ name ∈ columns, ',' ∉ name.toList := fun name listed =>
    (mem_header (same.symm ▸ listed)).1
  rw [header_headerLine some commaFree] at same
  conv_rhs at same => rw [← List.map_id columns]
  intro name listed
  have kept := congrArg String.toList (List.map_inj_left.mp same name listed)
  rw [String.toList_ofList] at kept
  obtain ⟨trimmed, opens, closes⟩ := (columnName_eq_self_iff name.toList).mp kept
  have inside : name.toList ⊆ headerLine columns := fun _ within =>
    Text.mem_intercalate (List.mem_map_of_mem listed) within
  exact {
    trimmed := (Text.trimmed_eq_iff name).mpr trimmed
    commaFree := commaFree name listed
    unbroken := unbroken_of_subset whole inside
    opens := opens
    closes := closes }

theorem rereadable_of_read {table : Table} (read : Csv.read (text table) = .ok table.asTexts) :
    Rereadable table := by
  obtain ⟨first, second, rest, found, came⟩ := lines_of_read read
  have rows : table.rows.map (Row.asTexts table.columns) = (second :: rest).map (Csv.row (header first)) :=
    congrArg Table.rows came
  have columns : table.columns = (Csv.row (header first) second).keys := congrArg Table.columns came
  have distinct : table.columns.Nodup := columns ▸ Keyed.nodup_keys_ofPairs _
  have someColumn : table.columns ≠ [] := by
    rw [columns]
    simpa [Keyed.keys] using row_ne_nil second (header_ne_nil first)
  have someRow : table.rows ≠ [] := by
    intro none
    simp [none] at rows
  have among : ∀ line ∈ second :: rest, Unbroken line := fun line member =>
    unbroken_of_mem_lines (found ▸ List.mem_cons_of_mem _ member)
  have cells := plainCells_of_rows distinct among rows
  -- Each row takes one line, so a single line is left for the names.
  have all := lines_text someColumn cells
  rw [found] at all
  have counted := congrArg List.length all
  have many := congrArg List.length rows
  simp only [List.length_map, List.length_cons, List.length_append] at counted many
  obtain ⟨only, alone⟩ := List.length_eq_one_iff.mp (show (lines (headerLine table.columns)).length = 1 by omega)
  rw [alone, List.singleton_append, List.cons.injEq] at all
  obtain ⟨rfl, data⟩ := all
  obtain ⟨row, others, split⟩ := List.exists_cons_of_ne_nil someRow
  rw [split, List.map_cons, List.cons.injEq] at data
  have member : first ∈ lines (headerLine table.columns) := alone ▸ List.mem_cons_self
  obtain ⟨same, line⟩ := headerLine_eq_of_keys someColumn (infix_of_mem_lines member).sublist row
    (fun column listed => (cells row (split ▸ List.mem_cons_self) column listed).quoteFree)
    (by rw [← data.1, ← columns])
  exact {
    someRow := someRow
    someColumn := someColumn
    distinct := distinct
    named := by
      obtain ⟨c, inside, _⟩ := nonblank_of_mem_lines member
      rintro empty
      simp [line, empty, headerLine] at inside
    names := plainNames_of_header someColumn (line ▸ unbroken_of_mem_lines member) (line ▸ same)
    cells := cells }

/-- A table comes back from its text, with its cells as texts, exactly if it is rereadable. -/
theorem read_text_eq_iff (table : Table) : Csv.read (text table) = .ok table.asTexts ↔ Rereadable table :=
  ⟨rereadable_of_read, read_of_rereadable⟩

end Csv

end RowQuery
