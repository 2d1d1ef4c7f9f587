import RowQuery.Table.Basic
import RowQuery.Json.Writer

/-!
# Cells as text

The plain text of a value: strings verbatim, the items of an array joined by commas, an object as a
fixed word. Null is written out, except as an item of an array, where it is empty.
-/

namespace RowQuery.Json

/-- Doubles in a cell never have an exponent, and a whole one looks like an integer. -/
def cellLayout : Decimal.Layout := ⟨.up, none, false⟩

mutual

/-- The plain text of a value. -/
def cellText : Json → List Char
  | .null => "null".toList
  | .bool true => "true".toList
  | .bool false => "false".toList
  | .number (.int n _) => intText n
  | .number (.float x _) => cellLayout.write x
  | .string s => s.toList
  | .array items => [','].intercalate (itemTexts items)
  | .object _ => "[object Object]".toList

/-- The plain texts of the items of an array. -/
def itemTexts : List Json → List (List Char)
  | [] => []
  | .null :: rest => [] :: itemTexts rest
  | item :: rest => cellText item :: itemTexts rest

end

end RowQuery.Json

namespace RowQuery

/-- The plain text of a cell; an absent cell is empty. -/
def Row.textOf (row : Row) (column : String) : List Char :=
  match row.get? column with
  | some value => value.cellText
  | none => []

end RowQuery
