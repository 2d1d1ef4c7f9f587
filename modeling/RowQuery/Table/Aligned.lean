import RowQuery.Table.CellText
import RowQuery.Text.Blank

/-!
# Aligned tables

A table for reading: a line of column names, a rule, and a line for each row. Every column is as
wide as the widest of its texts, so that its cells start at the same place on every line; the
blanks at the end of a line are left out.
-/

namespace RowQuery

/-- A text filled up with blanks to a width. -/
def padded (width : Nat) (text : List Char) : List Char :=
  text ++ List.replicate (width - text.length) ' '

/-- Texts side by side, each as wide as its column. -/
def alignedLine (widths : List Nat) (texts : List (List Char)) : List Char :=
  Text.trimEnd ([' ', '|', ' '].intercalate (List.zipWith padded widths texts))

/-- The rule under the column names. -/
def ruleLine (widths : List Nat) : List Char :=
  ['-', '+', '-'].intercalate (widths.map fun width => List.replicate width '-')

namespace Table

/-- The plain texts of a column, from the name down. -/
def columnTexts (table : Table) (column : String) : List (List Char) :=
  column.toList :: table.rows.map fun row => row.textOf column

/-- The width of a column: the number of characters of its longest text. -/
def columnWidth (table : Table) (column : String) : Nat :=
  ((table.columnTexts column).map List.length).foldl max 0

/-- The widths of the columns. -/
def widths (table : Table) : List Nat := table.columns.map table.columnWidth

/-- The lines of an aligned table. -/
def alignedLines (table : Table) : List (List Char) :=
  let widths := table.widths
  alignedLine widths (table.columns.map String.toList) :: ruleLine widths ::
    table.rows.map fun row => alignedLine widths (table.columns.map row.textOf)

/-- The widest column that can be laid out. -/
def widestColumn : Nat := 65535

/-- The text of an aligned table; one without columns is only said to have none. There is no text if a
column is wider than can be laid out. -/
def aligned (table : Table) : Option String :=
  if table.columns = [] then some "(no columns)"
  else if table.widths.any (widestColumn < ·) then none
  else some (String.ofList (['\n'].intercalate table.alignedLines))

end Table

end RowQuery
