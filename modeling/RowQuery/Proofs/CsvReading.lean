import RowQuery.Proofs.CsvRoundTrip
import RowQuery.Proofs.LineBreaks

/-!
# Reading a CSV text line by line

What is read from a text is told by the lines on which there is something to see. The first names the
columns, and each of the others gives one row: its cells stand under the names for which the line has
a field, and where a name comes up more than once its last field counts (`describes_row`).

A text can also be read in steps, each with a failure of its own (`readInSteps`). It comes to the same
(`readInSteps_eq`), and one of the failures never occurs: in a text that is not blank as a whole there
is a line that is not blank. All of it together is `readsLines_read`.
-/

namespace RowQuery.Csv

/-! ## Rows -/

/-- A row that a line with some fields gives under some columns. -/
structure Describes (columns fields : List String) (row : Row) : Prop where
  keys : row.keys = (columns.take (min columns.length fields.length)).eraseDups
  cells : ∀ i column field, columns[i]? = some column → fields[i]? = some field →
    (∀ j, i < j → j < fields.length → columns[j]? ≠ some column) → row.get? column = some (.string field)

theorem describes_row (columns : List String) (line : List Char) :
    Describes columns (fields line) (row columns line) := by
  constructor
  · rw [row, Keyed.keys_ofPairs, Keyed.keys_zip, List.length_map]
    congr 1
    rw [Nat.min_comm, ← List.take_take, List.take_length]
  · intro i column field named held last
    refine Keyed.get?_ofPairs_of_last (i := i) ?_ ?_
    · simp [List.getElem?_zip_eq_some, named, held]
    · intro j entry later found same
      obtain ⟨other, value⟩ := List.getElem?_zip_eq_some.mp found
      have bound := (List.getElem?_eq_some_iff.mp value).1
      rw [List.length_map] at bound
      exact last j later bound (same ▸ other)

/-! ## Tables -/

/-- A table that lines give under some columns, one row for each line. -/
structure Tabulates (columns : List String) (data : List (List Char)) (table : Table) : Prop where
  rows : List.Forall₂ (fun line row => Describes columns (fields line) row) data table.rows
  columns : table.columns = Row.firstColumns table.rows
  someCell : ∀ row ∈ table.rows, row.keys ≠ []
  cells : ∀ row ∈ table.rows, ∀ entry ∈ row, ∃ field : String, entry.2 = .string field ∧ PlainCell field.toList

theorem tabulates_rows {columns : List String} (some : columns ≠ []) {data : List (List Char)}
    (whole : ∀ line ∈ data, Unbroken line) : Tabulates columns data (Table.ofRows (data.map (row columns))) := by
  refine ⟨?_, rfl, ?_, ?_⟩
  · rw [Table.ofRows, List.forall₂_map_right_iff, List.forall₂_same]
    exact fun line _ => describes_row columns line
  · intro found member
    obtain ⟨line, _, rfl⟩ := List.mem_map.mp member
    simpa [Keyed.keys] using row_ne_nil line some
  · intro found member entry inside
    obtain ⟨line, among, rfl⟩ := List.mem_map.mp member
    obtain ⟨_, field, piece, same⟩ := mem_row inside
    exact ⟨field, same, plainCell_of_mem_fields (whole line among) piece⟩

/-! ## In steps -/

/-- Reading in steps: the text as a whole, the line of names, the rows. -/
def readInSteps (text : List Char) : Except Failure Table :=
  if Text.trim text = [] then .error (.emptyFile "File is empty")
  else
    match seenLines text with
    | [] => .error (.emptyFile "No data found in CSV file")
    | first :: data =>
      let rows := data.map (row (header first))
      if rows.isEmpty then .error (.emptyFile "No data rows found in the file") else .ok (Table.ofRows rows)

/-- Blank lines make up a blank text, and no other. -/
theorem lines_eq_nil_iff (text : List Char) : lines text = [] ↔ Text.trim text = [] := by
  rw [Text.trim_eq_nil_iff, lines, List.filter_eq_nil_iff]
  constructor
  · intro none c inside
    have placed : isLineBreak c = true ∨ ∃ piece ∈ text.splitOnP isLineBreak, c ∈ piece :=
      Text.cut_or_mem_of_mem inside
    rcases placed with ends | ⟨piece, among, within⟩
    · rcases (by simpa [isLineBreak] using ends : c = '\n' ∨ c = '\r') with rfl | rfl <;> decide
    · have blank : piece.all Text.isBlank = true := by simpa using none piece among
      exact List.all_eq_true.mp blank c within
  · intro blank piece among
    have within : ∀ c ∈ piece, Text.isBlank c = true := fun c inside =>
      blank c ((Text.infix_of_mem_splitOnP among).subset inside)
    simpa using within

theorem readInSteps_eq (text : List Char) : readInSteps text = Csv.read text := by
  rw [readInSteps, Csv.read, seenLines_eq]
  by_cases blank : Text.trim text = []
  · rw [if_pos blank, (lines_eq_nil_iff text).mpr blank]
  · rw [if_neg blank]
    rcases found : lines text with _ | ⟨first, _ | ⟨second, rest⟩⟩
    · exact absurd ((lines_eq_nil_iff text).mp found) blank
    · rfl
    · rfl

/-! ## What is read -/

/-- What is read from lines on which there is something to see: a table if there are two or more. -/
inductive Gives : List (List Char) → Except Failure Table → Prop
  | nothing : Gives [] (.error (.emptyFile "File is empty"))
  | noRows (first : List Char) : Gives [first] (.error (.emptyFile "No data rows found in the file"))
  | table {first second : List Char} {rest : List (List Char)} {table : Table}
    (tabulates : Tabulates (header first) (second :: rest) table) : Gives (first :: second :: rest) (.ok table)

theorem gives_read (text : List Char) : Gives (seenLines text) (Csv.read text) := by
  have whole : ∀ line ∈ lines text, Unbroken line := fun line => unbroken_of_mem_lines
  rw [seenLines_eq, Csv.read]
  rcases found : lines text with _ | ⟨first, _ | ⟨second, rest⟩⟩
  · exact .nothing
  · exact .noRows first
  · refine .table (tabulates_rows (header_ne_nil first) ?_)
    intro line member
    exact whole line (found ▸ List.mem_cons_of_mem _ member)

section
variable {seen : List (List Char)} {result : Except Failure Table} (gives : Gives seen result)
include gives

theorem fails_iff : (∃ failure, result = .error failure) ↔ seen.length < 2 := by
  cases gives with
  | nothing => simp
  | noRows first => simp
  | table tabulates => simp

theorem ne_unnamed : result ≠ .error (.emptyFile "No data found in CSV file") := by
  cases gives with
  | nothing => simp
  | noRows first => simp
  | table tabulates => simp

end

/-- Reading a text gives what its lines tell, and so does reading in steps. It fails exactly if there is
something to see on fewer than two lines, and never for want of a line of names. -/
structure ReadsLines (text : List Char) (result : Except Failure Table) : Prop where
  gives : Gives (seenLines text) result
  fails : (∃ failure, result = .error failure) ↔ (seenLines text).length < 2
  inSteps : readInSteps text = result
  named : result ≠ .error (.emptyFile "No data found in CSV file")

/-- Every text is read line by line. -/
theorem readsLines_read (text : List Char) : ReadsLines text (Csv.read text) where
  gives := gives_read text
  fails := fails_iff (gives_read text)
  inSteps := readInSteps_eq text
  named := ne_unnamed (gives_read text)

/-- A name that comes up twice keeps its first place and takes the last field, and a line that is too short
leaves out the names behind it. -/
example : Csv.read "a,b,a\r\n1,2,3\r\r4".toList =
    .ok ⟨["a", "b"], [[("a", .string "3"), ("b", .string "2")], [("a", .string "4")]]⟩ := by rfl

end RowQuery.Csv
