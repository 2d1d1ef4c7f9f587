import Mathlib.Algebra.BigOperators.Group.List.Basic
import Mathlib.Algebra.Ring.Nat
import Mathlib.Order.Bounds.Defs
import RowQuery.Console.Perform
import RowQuery.Proofs.Cutting

/-!
# Columns of an aligned table

A column is as wide as the longest of its texts (`isGreatest_columnWidth`), and it starts behind the columns in
front of it and the bars between them (`columnStart`). On every line its text stands there and is filled up
with blanks to the width of the column, before the blanks at the end of the line are left out
(`standsOn_alignedLine`). The rule is as long as the longest line can be and has its crosses below the bars
(`rules_ruleLine`). So every table with columns is printed in columns, except one that shows a text that is too
long to be laid out (`presented_present`).
-/

namespace RowQuery

/-! ## Joined parts -/

section
variable {α : Type} (sep : List α) {parts : List (List α)}

theorem length_intercalate (parts : List (List α)) :
    (sep.intercalate parts).length = (parts.map List.length).sum + sep.length * (parts.length - 1) := by
  induction parts with
  | nil => simp
  | cons first rest ih =>
    cases rest with
    | nil => simp
    | cons second rest =>
      rw [List.intercalate_cons_cons, List.length_append, List.length_append, ih]
      simp only [List.map_cons, List.sum_cons, List.length_cons, Nat.add_sub_cancel, Nat.mul_add_one]
      omega

/-- Where a joined part starts, the parts from it on are joined. -/
theorem drop_intercalate {k : Nat} (inside : k < parts.length) :
    (sep.intercalate parts).drop (((parts.take k).map List.length).sum + sep.length * k) =
      sep.intercalate (parts.drop k) := by
  induction k generalizing parts with
  | zero => simp
  | succ k ih =>
    cases parts with
    | nil => cases inside
    | cons first rest =>
      have later : k < rest.length := Nat.lt_of_succ_lt_succ inside
      have place : ((List.take (k + 1) (first :: rest)).map List.length).sum + sep.length * (k + 1) =
          (first ++ sep).length + (((rest.take k).map List.length).sum + sep.length * k) := by
        simp only [List.take_succ_cons, List.map_cons, List.sum_cons, List.length_append, Nat.mul_add_one]
        omega
      rw [List.intercalate_cons_of_ne_nil (List.ne_nil_of_length_pos (by omega)), place,
        List.drop_length_add_append, List.drop_succ_cons, ih later]

/-- A joined part is followed by what is between the parts. -/
theorem exists_intercalate_cons (first : List α) (rest : List (List α)) :
    ∃ later, sep.intercalate (first :: rest) = first ++ later ∧ (rest ≠ [] → sep <+: later) := by
  cases rest with
  | nil => exact ⟨[], by simp, fun none => absurd rfl none⟩
  | cons second rest =>
    refine ⟨sep ++ sep.intercalate (second :: rest), ?_, fun _ => List.prefix_append _ _⟩
    rw [List.intercalate_cons_cons, List.append_assoc]

end

/-! ## Places on a line -/

/-- Where a column starts: behind the columns in front of it, each with a bar between two blanks behind it. -/
def columnStart (widths : List Nat) (k : Nat) : Nat := (widths.take k).sum + 3 * k

/-- How long a line with all of its columns is. -/
def lineLength (widths : List Nat) : Nat := widths.sum + 3 * (widths.length - 1)

/-- A line with all of its columns: each text stands at the start of its column, with blanks behind it up to
the width of the column, and in front of each column but the first there is a bar between blanks. -/
structure Lays (widths : List Nat) (texts : List (List Char)) (full : List Char) : Prop where
  length : full.length = lineLength widths
  cell : ∀ k width text, widths[k]? = some width → texts[k]? = some text →
    (full.drop (columnStart widths k)).take width = text ++ List.replicate (width - text.length) ' '
  bar : ∀ k, 0 < k → k < widths.length → (full.drop (columnStart widths k - 3)).take 3 = [' ', '|', ' ']

/-- A line on which texts stand in columns. It is a line with all of its columns, but for the blanks at the
end, and so each of the texts, but for blanks at the end, is found where its column starts. -/
structure StandsOn (widths : List Nat) (texts : List (List Char)) (line : List Char) : Prop where
  laid : ∃ full, Lays widths texts full ∧ line = Text.trimEnd full
  start : ∀ k text, k < widths.length → texts[k]? = some text → Text.trimEnd text <+: line.drop (columnStart widths k)

/-- A rule: as long as a line with all of its columns, of dashes, with a cross below each bar. -/
structure Rules (widths : List Nat) (rule : List Char) : Prop where
  length : rule.length = lineLength widths
  mark : ∀ c ∈ rule, c = '-' ∨ c = '+'
  cross : ∀ i, rule[i]? = some '+' ↔ ∃ k, 0 < k ∧ k < widths.length ∧ i + 2 = columnStart widths k

theorem columnStart_succ (width : Nat) (widths : List Nat) (k : Nat) :
    columnStart (width :: widths) (k + 1) = width + 3 + columnStart widths k := by
  simp only [columnStart, List.take_succ_cons, List.sum_cons]
  omega

theorem length_padded {width : Nat} {text : List Char} (fits : text.length ≤ width) :
    (padded width text).length = width := by
  rw [padded, List.length_append, List.length_replicate]
  omega

/-! ## Lines of cells -/

section
variable {widths : List Nat} {texts : List (List Char)}

/-- The texts of a line fit its columns. -/
abbrev Fits (widths : List Nat) (texts : List (List Char)) : Prop :=
  List.Forall₂ (fun width text => text.length ≤ width) widths texts

theorem map_length_padded (fits : Fits widths texts) :
    (List.zipWith padded widths texts).map List.length = widths := by
  induction fits with
  | nil => rfl
  | cons first later ih => rw [List.zipWith_cons_cons, List.map_cons, length_padded first, ih]

theorem length_cells (fits : Fits widths texts) : (List.zipWith padded widths texts).length = widths.length := by
  rw [← List.length_map List.length, map_length_padded fits]

/-- Where a column starts, the cells from it on are joined. -/
theorem drop_columnStart (fits : Fits widths texts) {k : Nat} (inside : k < widths.length) :
    ([' ', '|', ' '].intercalate (List.zipWith padded widths texts)).drop (columnStart widths k) =
      [' ', '|', ' '].intercalate ((List.zipWith padded widths texts).drop k) := by
  have places := drop_intercalate [' ', '|', ' '] ((length_cells fits).symm ▸ inside)
  rwa [List.map_take, map_length_padded fits] at places

/-- What stands from the start of a column on: its cell, and a bar if there are columns behind it. -/
theorem exists_cell (fits : Fits widths texts) {k : Nat} (inside : k < widths.length) : ∃ cell later,
    (List.zipWith padded widths texts)[k]? = some cell ∧ cell.length = widths[k] ∧
      ([' ', '|', ' '].intercalate (List.zipWith padded widths texts)).drop (columnStart widths k) = cell ++ later ∧
      (k + 1 < widths.length → [' ', '|', ' '] <+: later) := by
  have counted := length_cells fits
  have within : k < (List.zipWith padded widths texts).length := counted.symm ▸ inside
  obtain ⟨later, joined, behind⟩ := exists_intercalate_cons [' ', '|', ' ']
    (List.zipWith padded widths texts)[k] ((List.zipWith padded widths texts).drop (k + 1))
  refine ⟨_, later, List.getElem?_eq_getElem within, ?_, ?_, ?_⟩
  · have long := List.getElem_of_eq (map_length_padded fits) (by rwa [List.length_map])
    rwa [List.getElem_map] at long
  · rw [drop_columnStart fits inside, List.drop_eq_getElem_cons within, joined]
  · intro more
    exact behind (List.ne_nil_of_length_pos (by rw [List.length_drop]; omega))

theorem lays_joined (fits : Fits widths texts) :
    Lays widths texts ([' ', '|', ' '].intercalate (List.zipWith padded widths texts)) := by
  refine ⟨?_, ?_, ?_⟩
  · rw [length_intercalate, map_length_padded fits, length_cells fits]
    rfl
  · intro k width text wide here
    obtain ⟨inside, rfl⟩ := List.getElem?_eq_some_iff.mp wide
    obtain ⟨cell, later, part, long, stands, -⟩ := exists_cell fits inside
    rw [List.getElem?_zipWith, wide, here] at part
    rw [stands, List.take_left' long, ← Option.some.inj part]
    rfl
  · intro k positive inside
    obtain ⟨j, rfl⟩ := Nat.exists_eq_succ_of_ne_zero (Nat.pos_iff_ne_zero.mp positive)
    obtain ⟨cell, later, -, long, stands, behind⟩ := exists_cell fits (Nat.lt_of_succ_lt inside)
    obtain ⟨rest, bar⟩ := behind inside
    have place : columnStart widths (j + 1) - 3 = columnStart widths j + cell.length := by
      rw [columnStart, columnStart, List.sum_take_succ _ _ (Nat.lt_of_succ_lt inside), long]
      omega
    rw [place, ← List.drop_drop, stands, List.drop_left, ← bar]
    rfl

/-- A text stands where its column starts also when the blanks at the end of the line are left out. -/
theorem standsOn_alignedLine (fits : Fits widths texts) : StandsOn widths texts (alignedLine widths texts) := by
  have lays := lays_joined fits
  refine ⟨⟨_, lays, rfl⟩, ?_⟩
  intro k text inside here
  have cell := lays.cell k widths[k] text (List.getElem?_eq_getElem inside) here
  exact Text.trimEnd_prefix_drop ((List.prefix_append _ _).trans (cell ▸ List.take_prefix _ _))

end

/-! ## The rule -/

theorem ruleLine_cons (width : Nat) {widths : List Nat} (more : widths ≠ []) :
    ruleLine (width :: widths) = (List.replicate width '-' ++ ['-', '+', '-']) ++ ruleLine widths := by
  rw [ruleLine, List.map_cons, List.intercalate_cons_of_ne_nil (fun none => more (List.map_eq_nil_iff.mp none)),
    ruleLine]

theorem length_ruleLine (widths : List Nat) : (ruleLine widths).length = lineLength widths := by
  have lengths : (widths.map fun width => List.replicate width '-').map List.length = widths := by
    simp [Function.comp_def]
  rw [ruleLine, length_intercalate, lengths, List.length_map]
  rfl

theorem cross_joint (width i : Nat) :
    (List.replicate width '-' ++ ['-', '+', '-'])[i]? = some '+' ↔ i = width + 1 := by
  rcases Nat.lt_or_ge i width with dash | joint
  · rw [List.getElem?_append_left (by rwa [List.length_replicate]), List.getElem?_replicate_of_lt dash]
    exact iff_of_false (by decide) (by omega)
  · obtain ⟨j, rfl⟩ := Nat.exists_eq_add_of_le joint
    rw [List.getElem?_append_right (by simp), List.length_replicate, Nat.add_sub_cancel_left]
    match j with
    | 0 | 1 | 2 | _ + 3 => simp

/-- The starts of the columns behind the first, as the columns behind the first have them. -/
theorem exists_columnStart_cons (width : Nat) (rest : List Nat) (n : Nat) :
    (∃ k, 0 < k ∧ k < (width :: rest).length ∧ n = columnStart (width :: rest) k) ↔
      ∃ k, k < rest.length ∧ n = width + 3 + columnStart rest k := by
  constructor
  · rintro ⟨k, positive, inside, place⟩
    obtain ⟨k, rfl⟩ := Nat.exists_eq_succ_of_ne_zero (Nat.pos_iff_ne_zero.mp positive)
    exact ⟨k, Nat.lt_of_succ_lt_succ inside, place.trans (columnStart_succ ..)⟩
  · rintro ⟨k, inside, place⟩
    exact ⟨k + 1, Nat.succ_pos k, Nat.succ_lt_succ inside, place.trans (columnStart_succ ..).symm⟩

/-- The first cross is in the joint behind the first column, and the others are those of the rule behind it. -/
theorem cross_ruleLine (widths : List Nat) (i : Nat) :
    (ruleLine widths)[i]? = some '+' ↔ ∃ k, 0 < k ∧ k < widths.length ∧ i + 2 = columnStart widths k := by
  induction widths generalizing i with
  | nil => simp [ruleLine]
  | cons width rest ih =>
    by_cases last : rest = []
    · subst last
      have dashes : (ruleLine [width])[i]? ≠ some '+' := by simp [ruleLine, List.getElem?_replicate]
      refine iff_of_false dashes ?_
      rintro ⟨k, positive, inside, -⟩
      rw [List.length_singleton] at inside
      omega
    have joint : (List.replicate width '-' ++ ['-', '+', '-']).length = width + 3 := by simp
    rw [ruleLine_cons width last, exists_columnStart_cons]
    rcases Nat.lt_or_ge i (width + 3) with front | behind
    · rw [List.getElem?_append_left (joint ▸ front), cross_joint]
      constructor
      · rintro rfl
        exact ⟨0, List.length_pos_iff.mpr last, rfl⟩
      · rintro ⟨k, -, place⟩
        have first : k = 0 := by
          rw [columnStart] at place
          omega
        subst first
        exact Nat.add_right_cancel place
    · obtain ⟨j, rfl⟩ := Nat.exists_eq_add_of_le behind
      rw [List.getElem?_append_right (joint ▸ behind), joint, Nat.add_sub_cancel_left, ih]
      refine exists_congr fun k => ?_
      have zero : columnStart rest 0 = 0 := rfl
      rw [Nat.add_assoc, Nat.add_left_cancel_iff, Nat.pos_iff_ne_zero]
      constructor
      · exact And.right
      · rintro ⟨inside, place⟩
        exact ⟨by rintro rfl; omega, inside, place⟩

theorem rules_ruleLine (widths : List Nat) : Rules widths (ruleLine widths) := by
  refine ⟨length_ruleLine widths, ?_, cross_ruleLine widths⟩
  intro c inside
  rcases Text.mem_of_mem_intercalate inside with joint | ⟨part, among, inside⟩
  · simp only [List.mem_cons, List.not_mem_nil] at joint
    tauto
  · obtain ⟨width, -, rfl⟩ := List.mem_map.mp among
    exact .inl (List.eq_of_mem_replicate inside)

/-! ## The whole table -/

/-- The lines below each other make up a table in columns: each column is as wide as the longest of its texts,
the names of the columns stand on the first line, a rule follows, and then the cells of each row stand on a
line, in order. No line is longer than the rule. -/
structure Aligned (table : Table) (widths : List Nat) (top rule : List Char) (body : List (List Char)) : Prop where
  widest : List.Forall₂ (fun column width => IsGreatest {n | ∃ text ∈ table.columnTexts column, n = text.length} width)
    table.columns widths
  names : StandsOn widths (table.columns.map String.toList) top
  ruled : Rules widths rule
  cells : List.Forall₂ (fun row line => StandsOn widths (table.columns.map row.textOf) line) table.rows body
  longest : ∀ line ∈ top :: body, line.length ≤ rule.length

theorem StandsOn.length_le {widths : List Nat} {texts : List (List Char)} {line : List Char}
    (stands : StandsOn widths texts line) : line.length ≤ lineLength widths := by
  obtain ⟨full, lays, rfl⟩ := stands.laid
  exact lays.length ▸ (Text.trimEnd_sublist full).length_le

namespace Table

theorem isGreatest_columnWidth (table : Table) (column : String) :
    IsGreatest {n | ∃ text ∈ table.columnTexts column, n = text.length} (table.columnWidth column) := by
  obtain ⟨longest, most⟩ : ∃ n, ((table.columnTexts column).map List.length).max? = some n :=
    Option.isSome_iff_exists.mp (by simp [columnTexts])
  have width : table.columnWidth column = longest := by
    rw [columnWidth, List.foldl_max, most, Option.getD_some, Nat.zero_max]
  obtain ⟨among, above⟩ := List.max?_eq_some_iff.mp most
  obtain ⟨text, listed, long⟩ := List.mem_map.mp among
  rw [width]
  refine ⟨⟨text, listed, long.symm⟩, ?_⟩
  rintro n ⟨text, listed, rfl⟩
  exact above _ (List.mem_map_of_mem listed)

/-- The texts of a line, each of which is among the texts of its column, fit the columns. -/
theorem fits_widths (table : Table) {textIn : String → List Char}
    (listed : ∀ column, textIn column ∈ table.columnTexts column) : Fits table.widths (table.columns.map textIn) := by
  rw [Fits, widths, List.forall₂_map_left_iff, List.forall₂_map_right_iff, List.forall₂_same]
  intro column _
  exact (table.isGreatest_columnWidth column).2 ⟨_, listed column, rfl⟩

/-- The lines of a table are aligned. -/
theorem aligned_alignedLines (table : Table) :
    ∃ top rule body, table.alignedLines = top :: rule :: body ∧ Aligned table table.widths top rule body := by
  have names : StandsOn table.widths (table.columns.map String.toList)
      (alignedLine table.widths (table.columns.map String.toList)) :=
    standsOn_alignedLine (table.fits_widths fun column => List.mem_cons_self)
  have line {row : Row} (among : row ∈ table.rows) : StandsOn table.widths (table.columns.map row.textOf)
      (alignedLine table.widths (table.columns.map row.textOf)) :=
    standsOn_alignedLine
      (table.fits_widths fun column => List.mem_cons_of_mem _ (List.mem_map_of_mem (f := (·.textOf column)) among))
  refine ⟨_, _, _, rfl, ?_, names, rules_ruleLine _, ?_, ?_⟩
  · rw [widths, List.forall₂_map_right_iff, List.forall₂_same]
    exact fun column _ => table.isGreatest_columnWidth column
  · rw [List.forall₂_map_right_iff, List.forall₂_same]
    exact fun row among => line among
  · intro shown listed
    rw [length_ruleLine]
    rcases List.mem_cons.mp listed with rfl | below
    · exact names.length_le
    · obtain ⟨row, among, rfl⟩ := List.mem_map.mp below
      exact (line among).length_le

/-- A column that is too wide shows a text that is too long. -/
theorem any_widths_iff (table : Table) : table.widths.any (widestColumn < ·) = true ↔
    ∃ column ∈ table.columns, ∃ text ∈ table.columnTexts column, widestColumn < text.length := by
  simp only [widths, List.any_map, List.any_eq_true, Function.comp_apply, decide_eq_true_iff]
  refine exists_congr fun column => and_congr_right fun _ => ?_
  obtain ⟨⟨longest, listed, wide⟩, above⟩ := table.isGreatest_columnWidth column
  constructor
  · intro exceeds
    exact ⟨longest, listed, wide ▸ exceeds⟩
  · rintro ⟨text, among, long⟩
    exact Nat.lt_of_lt_of_le long (above ⟨text, among, rfl⟩)

end Table

namespace Console

/-- What becomes of printing a table: its lines in columns, unless it shows a text of more than 65535 characters.
Then nothing is printed, and the run breaks off. -/
inductive Presented (table : Table) : Except Ending String → Prop
  | lines {widths : List Nat} {top rule : List Char} {body : List (List Char)}
    (narrow : ∀ column ∈ table.columns, ∀ text ∈ table.columnTexts column, text.length ≤ 65535)
    (aligned : Aligned table widths top rule body) :
    Presented table (.ok (String.ofList (['\n'].intercalate (top :: rule :: body))))
  | broken {column : String} {text : List Char} {reason : String} (shown : column ∈ table.columns)
    (among : text ∈ table.columnTexts column) (long : 65535 < text.length) : Presented table (.error (.broken reason))

/-- A table with columns is printed in columns, or else it shows a text that is too long for that. -/
theorem presented_present {table : Table} (some : table.columns ≠ []) : Presented table (present .table table) := by
  rw [present, Table.aligned, if_neg some]
  by_cases wide : table.widths.any (Table.widestColumn < ·) = true
  · obtain ⟨column, shown, text, among, long⟩ := table.any_widths_iff.mp wide
    rw [if_pos wide]
    exact .broken shown among long
  · obtain ⟨top, rule, body, lines, aligned⟩ := table.aligned_alignedLines
    rw [if_neg wide, lines]
    refine .lines ?_ aligned
    intro column shown text among
    refine Nat.le_of_not_lt fun long => wide (table.any_widths_iff.mpr ?_)
    exact ⟨column, shown, text, among, long⟩

/-- Rows that lack cells, a text with letters of several octets, and a column that is shown twice. -/
def raggedTable : Table :=
  ⟨["größe", "n", "größe"], [[("n", .null), ("größe", .string "é")], [("größe", .array [.bool true, .null])], []]⟩

theorem presented_raggedTable :
    raggedTable.columns ≠ [] ∧ Presented raggedTable (present .table raggedTable) :=
  ⟨List.cons_ne_nil _ _, presented_present (List.cons_ne_nil _ _)⟩

example : present .table raggedTable = .ok
    "größe | n    | größe\n------+------+------\né     | null | é\ntrue, |      | true,\n      |      |" := by
  decide +kernel

/-- One cell. -/
def cellTable (text : String) : Table := ⟨["a"], [[("a", .string text)]]⟩

theorem present_cellTable {text : String} (long : 65535 < text.toList.length) :
    present .table (cellTable text) = .error (.broken "a column is too wide") := by
  have listed : text.toList ∈ (cellTable text).columnTexts "a" := List.mem_cons_of_mem _ List.mem_cons_self
  have wide : (cellTable text).widths.any (Table.widestColumn < ·) = true :=
    (cellTable text).any_widths_iff.mpr ⟨"a", List.mem_cons_self, text.toList, listed, long⟩
  have some : (cellTable text).columns ≠ [] := List.cons_ne_nil _ _
  rw [present, Table.aligned, if_neg some, if_pos wide]

/-- A cell of 65536 characters is never printed in a table. -/
theorem long_cell_unprinted :
    let table := cellTable (String.ofList (List.replicate 65536 'x'))
    table.columns ≠ [] ∧ ∀ text, present .table table ≠ .ok text := by
  have long : 65535 < (String.ofList (List.replicate 65536 'x')).toList.length := by
    rw [String.toList_ofList, List.length_replicate]
    decide
  refine ⟨List.cons_ne_nil _ _, ?_⟩
  intro text printed
  rw [present_cellTable long] at printed
  cases printed

end Console

end RowQuery
