import RowQuery.Proofs.CsvRoundTrip
import RowQuery.Proofs.Evaluation

/-!
# From a CSV text through a query to a CSV text

The rows that are read from a text hold fields of its lines, so none of their cells has a quote or
breaks a line, and no name in its header has a comma. An answer that shows such cells under names
that are read as they are written is therefore rereadable, and comes back from its text with the
fields that were read at first (`comesBack_select`). Written once more it gives the same text, since
a text only ever tells of the texts of the cells.
-/

namespace RowQuery

theorem get?_asTexts (columns : List String) (row : Row) (column : String) :
    (row.asTexts columns).get? column =
      if column ∈ columns then some (.string (String.ofList (row.textOf column))) else none := by
  have found := Keyed.get?_ofPairs_filterMap (fun name => some (Json.string (String.ofList (row.textOf name))))
    columns column
  simp only [Option.map_some, List.filterMap_eq_map'] at found
  exact found

theorem textOf_asTexts {columns : List String} {column : String} (listed : column ∈ columns) (row : Row) :
    (row.asTexts columns).textOf column = row.textOf column := by
  rw [Row.textOf, get?_asTexts, if_pos listed]
  exact String.toList_ofList

namespace Csv

theorem dataLine_congr {columns : List String} {row other : Row}
    (same : ∀ column ∈ columns, row.textOf column = other.textOf column) :
    dataLine columns row = dataLine columns other := by
  rw [dataLine, dataLine]
  congr 1
  exact List.map_congr_left fun column listed => by rw [same column listed]

/-- A table is written as its texts are. -/
theorem text_asTexts (table : Table) : text table.asTexts = text table := by
  rw [text, text, Table.asTexts, List.map_map]
  congr 2
  exact List.map_congr_left fun row _ => dataLine_congr fun column listed => textOf_asTexts listed row

/-! ## What was read -/

/-- The names in the header of a text. -/
def headerNames (text : List Char) : List String :=
  match lines text with
  | [] => []
  | first :: _ => header first

/-- The field of a row in a column; empty if the row has none there. -/
def fieldIn (row : Row) (column : String) : String :=
  match row.get? column with
  | some (.string field) => field
  | _ => ""

section
variable {source : List Char} {table : Table} (read : Csv.read source = .ok table)
include read

/-- A cell that was read is a field of a line. -/
theorem cell_of_read {row : Row} (member : row ∈ table.rows) {column : String} {cell : Json}
    (found : row.get? column = some cell) : ∃ field : String, cell = .string field ∧ PlainCell field.toList := by
  obtain ⟨first, second, rest, all, rfl⟩ := lines_of_read read
  obtain ⟨line, among, rfl⟩ := List.mem_map.mp member
  obtain ⟨field, piece, same⟩ := (mem_row (Keyed.mem_of_get? found)).2
  have whole : Unbroken line := unbroken_of_mem_lines (all ▸ List.mem_cons_of_mem _ among)
  exact ⟨field, same, plainCell_of_mem_fields whole piece⟩

theorem textOf_of_read {row : Row} (member : row ∈ table.rows) (column : String) :
    row.textOf column = (fieldIn row column).toList ∧ PlainCell (row.textOf column) := by
  rw [Row.textOf, fieldIn]
  cases found : row.get? column with
  | none => exact ⟨rfl, List.not_mem_nil, List.not_mem_nil, List.not_mem_nil⟩
  | some cell =>
    obtain ⟨field, rfl, plain⟩ := cell_of_read read member found
    exact ⟨rfl, plain⟩

theorem name_of_read {name : String} (member : name ∈ headerNames source) :
    ',' ∉ name.toList ∧ Unbroken name.toList := by
  obtain ⟨first, second, rest, all, rfl⟩ := lines_of_read read
  rw [headerNames, all] at member
  obtain ⟨commaFree, part⟩ := mem_header member
  have whole : Unbroken first := unbroken_of_mem_lines (all ▸ List.mem_cons_self)
  exact ⟨commaFree, unbroken_of_subset whole part.subset⟩

end

/-! ## What comes back -/

/-- Names of a header to ask for, none of which is read other than it is written. -/
structure Askable (source : List Char) (columns : List String) : Prop where
  someColumn : columns ≠ []
  distinct : columns.Nodup
  named : columns ≠ [""]
  known : ∀ name ∈ columns, name ∈ headerNames source
  trimmed : ∀ name ∈ columns, Text.trimmed name = name
  opens : ∀ name ∈ columns, name.toList.head? ≠ some '"'
  closes : ∀ name ∈ columns, name.toList.getLast? ≠ some '"'

/-- The fields of some rows in some columns. -/
def fieldTable (columns : List String) (rows : List Row) : Table :=
  ⟨columns, rows.map fun row => columns.map fun column => (column, .string (fieldIn row column))⟩

/-- An answer that comes back from its text with the fields of the rows it was made of. -/
structure ComesBack (columns : List String) (rows : List Row) (answer : Table) : Prop where
  counted : answer.rows.length = rows.length
  empty : answer.rows = [] → Csv.read (text answer) = .error (.emptyFile "No data rows found in the file")
  filled : answer.rows ≠ [] → Csv.read (text answer) = .ok (fieldTable columns rows)
  again : text (fieldTable columns rows) = text answer

theorem plainName_of_askable {source : List Char} {table : Table} (read : Csv.read source = .ok table)
    {columns : List String} (askable : Askable source columns) : ∀ name ∈ columns, PlainName name := by
  intro name listed
  obtain ⟨commaFree, unbroken⟩ := name_of_read read (askable.known name listed)
  exact ⟨askable.trimmed name listed, commaFree, unbroken, askable.opens name listed, askable.closes name listed⟩

/-- Names without rows give a text of which only the header is left. -/
theorem read_of_no_rows {columns : List String} (some : columns ≠ []) (named : columns ≠ [""])
    (names : ∀ name ∈ columns, PlainName name) :
    Csv.read (text ⟨columns, []⟩) = .error (.emptyFile "No data rows found in the file") := by
  obtain ⟨c, inside, seen⟩ := headerLine_seen some named names
  have only : lines (text ⟨columns, []⟩) = [headerLine columns] := by
    rw [text]
    simpa using lines_of_unbroken (headerLine_unbroken names) inside seen
  rw [Csv.read, only]

theorem rereadable_project {source : List Char} {table : Table} (read : Csv.read source = .ok table)
    {columns : List String} (askable : Askable source columns) {rows : List Row} (some : rows ≠ [])
    (kept : ∀ row ∈ rows, row ∈ table.rows) : Rereadable ⟨columns, rows.map (Row.project columns)⟩ where
  someRow := by simpa using some
  someColumn := askable.someColumn
  distinct := askable.distinct
  named := askable.named
  names := plainName_of_askable read askable
  cells := by
    intro shown member column listed
    obtain ⟨row, among, rfl⟩ := List.mem_map.mp member
    rw [textOf_project listed]
    exact (textOf_of_read read (kept row among) column).2

theorem asTexts_project {source : List Char} {table : Table} (read : Csv.read source = .ok table)
    {columns : List String} (distinct : columns.Nodup) {rows : List Row} (kept : ∀ row ∈ rows, row ∈ table.rows) :
    Table.asTexts ⟨columns, rows.map (Row.project columns)⟩ = fieldTable columns rows := by
  rw [Table.asTexts, fieldTable, List.map_map]
  congr 1
  apply List.map_congr_left
  intro row among
  rw [Function.comp_apply, asTexts_of_distinct distinct]
  apply List.map_congr_left
  intro column listed
  rw [textOf_project listed, (textOf_of_read read (kept row among) column).1, String.ofList_toList]

/-- Whatever is read from a text and asked for by names of its header comes back. -/
theorem comesBack_select {source : List Char} {table : Table} (read : Csv.read source = .ok table)
    {columns : List String} (askable : Askable source columns) (filter : Option Filter) :
    ComesBack columns (table.rows.filter (Filter.passes filter))
      ((Query.select (.columns columns) filter).evaluate table.rows) := by
  rw [Query.evaluate]
  dsimp only [Projection.columnsOf]
  have kept : ∀ row ∈ table.rows.filter (Filter.passes filter), row ∈ table.rows := fun row member =>
    List.mem_of_mem_filter member
  generalize table.rows.filter (Filter.passes filter) = rows at kept
  have texts := asTexts_project read askable.distinct kept
  exact {
    counted := List.length_map _
    empty := by
      intro none
      rw [List.map_eq_nil_iff.mp none]
      exact read_of_no_rows askable.someColumn askable.named (plainName_of_askable read askable)
    filled := by
      intro some
      rw [← texts]
      exact read_of_rereadable (rereadable_project read askable (by simpa using some) kept)
    again := by
      rw [← texts]
      exact text_asTexts _ }

/-- A text with a comma between quotes and a row that is too short. -/
def unevenText : List Char := "a,b\n1,\"p,q\"\n2".toList

theorem comesBack_select_unevenText :
    Csv.read unevenText = .ok ⟨["a", "b"], [[("a", .string "1"), ("b", .string "p,q")], [("a", .string "2")]]⟩ ∧
      Askable unevenText ["b", "a"] ∧
      Csv.read (text ⟨["b", "a"], [[("b", .string "p,q"), ("a", .string "1")], [("a", .string "2")]]⟩) =
        .ok ⟨["b", "a"], [[("b", .string "p,q"), ("a", .string "1")], [("b", .string ""), ("a", .string "2")]]⟩ := by
  have read : Csv.read unevenText =
      .ok ⟨["a", "b"], [[("a", .string "1"), ("b", .string "p,q")], [("a", .string "2")]]⟩ := by rfl
  have askable : Askable unevenText ["b", "a"] :=
    ⟨by decide, by decide, by decide, by decide +kernel, by decide +kernel, by decide +kernel, by decide +kernel⟩
  have comesBack := comesBack_select read askable none
  exact ⟨read, askable, comesBack.filled (List.cons_ne_nil _ _)⟩

end Csv

end RowQuery
