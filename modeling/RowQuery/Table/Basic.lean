import RowQuery.Json.Basic

/-!
# Rows and tables

A row is a record with named cells in a definite order. A cell that a row lacks is absent, which
differs from a cell that holds null. Rows of one table need not have the same cells.
-/

namespace RowQuery

/-- Named cells, in order. -/
abbrev Row := Keyed Json

/-- Rows and the columns that are shown of them. -/
structure Table where
  columns : List String
  rows : List Row

/-- The table read from one file, under the name of the file. -/
structure Dataset extends Table where
  name : String

/-- The cell names of the first row; none if there are no rows. -/
def Row.firstColumns : List Row → List String
  | [] => []
  | row :: _ => row.keys

/-- A table shows the cells of its first row. -/
def Table.ofRows (rows : List Row) : Table := ⟨Row.firstColumns rows, rows⟩

/-- A table after its rows have been limited, how many it had, and whether some were dropped. -/
structure Limited where
  table : Table
  total : Nat
  truncated : Bool

/-- The table with at most `most` rows; zero sets no limit. -/
def Table.limit (table : Table) (most : Nat) : Limited :=
  if 0 < most ∧ most < table.rows.length then
    ⟨{ table with rows := table.rows.take most }, table.rows.length, true⟩
  else ⟨table, table.rows.length, false⟩

end RowQuery
