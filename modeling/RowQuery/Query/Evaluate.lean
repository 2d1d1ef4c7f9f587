import RowQuery.Query.Parser
import RowQuery.Query.Literal
import RowQuery.Table.CellText

/-!
# Answering queries

Rows pass a filter by a loose comparison: text is compared as text, a number or truth value with the
number that the filter value stands for, and an array or object by its plain text. An absent cell
never passes. The rows that pass keep their order and show the cells that were asked for.
-/

namespace RowQuery

/-- The order of two doubles; none if one of them is no number. -/
def orderNumbers (x y : Float) : Option Ordering :=
  if x < y then some .lt
  else if y < x then some .gt
  else if x == y then some .eq
  else none

/-- A truth value as a number. -/
def truthNumber (b : Bool) : Float := if b then 1 else 0

namespace Filter

/-- A cell that equals a text. -/
def looselyEqual (cell : Option Json) (text : String) : Bool :=
  match cell with
  | none => false
  | some .null => false
  | some (.string s) => s == text
  | some (.number n) => n.toFloat == Query.numericValue text
  | some (.bool b) => truthNumber b == Query.numericValue text
  | some value => value.cellText == text.toList

/-- How a cell stands to a text in order; none where the two cannot be compared. -/
def order (cell : Option Json) (text : String) : Option Ordering :=
  match cell with
  | none => none
  | some .null => orderNumbers 0 (Query.numericValue text)
  | some (.string s) => some (compare s text)
  | some (.number n) => orderNumbers n.toFloat (Query.numericValue text)
  | some (.bool b) => orderNumbers (truthNumber b) (Query.numericValue text)
  | some value => some (compare (String.ofList value.cellText) text)

/-- A text without its single quotes. -/
def unquoted (text : String) : String := String.ofList (text.toList.filter (· != '\x27'))

/-- A row that passes. Quotes are taken off a value only when it is tested for equality. -/
def accepts (filter : Filter) (row : Row) : Bool :=
  let cell := row.get? filter.field
  match filter.op with
  | .equal => looselyEqual cell (unquoted filter.value)
  | .greater => order cell filter.value == some .gt
  | .less => order cell filter.value == some .lt
  | .unsupported _ => true

end Filter

/-- The cells of a row that have the given names, in the order of the names. -/
def Row.project (columns : List String) (row : Row) : Row :=
  Keyed.ofPairs (columns.filterMap fun column => (row.get? column).map (column, ·))

/-- The columns that a projection shows of some rows. -/
def Projection.columnsOf (projection : Projection) (rows : List Row) : List String :=
  match projection with
  | .all => Row.firstColumns rows
  | .columns names => names

/-- A row that passes a filter, if there is one. -/
def Filter.passes (filter : Option Filter) (row : Row) : Bool :=
  match filter with
  | none => true
  | some filter => filter.accepts row

/-- The answer of a query over rows. -/
def Query.evaluate (query : Query) (rows : List Row) : Table :=
  match query with
  | .passthrough => Table.ofRows rows
  | .select projection filter =>
    let columns := projection.columnsOf rows
    ⟨columns, (rows.filter (Filter.passes filter)).map (Row.project columns)⟩

/-- The answer of a query text over rows. -/
def Query.run (text : String) (rows : List Row) : Table := (Query.parse text).evaluate rows

end RowQuery
