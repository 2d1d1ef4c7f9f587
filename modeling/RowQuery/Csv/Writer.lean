import RowQuery.Table.CellText

/-!
# Writing CSV

The column names on the first line, bare; then a line for each row with every cell between quotes.
Quotes within a cell are not marked in any way.
-/

namespace RowQuery.Csv

/-- The line of a row. -/
def dataLine (columns : List String) (row : Row) : List Char :=
  [','].intercalate (columns.map fun column => '"' :: row.textOf column ++ ['"'])

/-- The line of column names. -/
def headerLine (columns : List String) : List Char :=
  [','].intercalate (columns.map String.toList)

/-- The text of a table. -/
def text (table : Table) : List Char :=
  ['\n'].intercalate (headerLine table.columns :: table.rows.map (dataLine table.columns))

end RowQuery.Csv
