import RowQuery.Failure
import RowQuery.Table.Basic
import RowQuery.Text.Blank

/-!
# Reading CSV

A small dialect: a quote switches quoting on or off and is dropped, a comma outside quotes ends a
field. A quote cannot be escaped, and no field reaches over the end of its line. The first line that
is not blank names the columns.
-/

namespace RowQuery.Csv

/-- The characters that end a line. A carriage return and a line feed together leave an empty line
between them, which counts for nothing. -/
def isLineBreak (c : Char) : Bool := c = '\n' || c = '\r'

/-- The lines of a text that are not blank. -/
def lines (text : List Char) : List (List Char) :=
  (text.splitOnP isLineBreak).filter fun line => !line.all Text.isBlank

/-- A header name as written between commas: without blanks around it, and without one quote at
either end. -/
def columnName (written : List Char) : List Char :=
  let name := Text.trim written
  let name := if name.head? = some '"' then name.drop 1 else name
  if name.getLast? = some '"' then name.dropLast else name

/-- The column names of a header line. Quotes do not protect commas here. -/
def header (line : List Char) : List String :=
  (line.splitOn ',').map fun written => String.ofList (columnName written)

/-- The fields of the rest of a line: `field` holds the characters of the current one, latest first,
and `inQuotes` tells whether a comma belongs to it. -/
def fieldsFrom (field : List Char) (inQuotes : Bool) : List Char → List (List Char)
  | [] => [field.reverse]
  | c :: rest =>
    if c = '"' then fieldsFrom field (!inQuotes) rest
    else if c = ',' ∧ inQuotes = false then field.reverse :: fieldsFrom [] false rest
    else fieldsFrom (c :: field) inQuotes rest

/-- The fields of a data line. -/
def fields (line : List Char) : List String := (fieldsFrom [] false line).map String.ofList

/-- The row that a data line describes. Fields without a column and columns without a field are
left out; of equal columns the first keeps its place and the last its field. -/
def row (columns : List String) (line : List Char) : Row :=
  Keyed.ofPairs (columns.zip ((fields line).map Json.string))

/-- The table that a text describes. -/
def read (text : List Char) : Except Failure Table :=
  match lines text with
  | [] => .error (.emptyFile "File is empty")
  | [_] => .error (.emptyFile "No data rows found in the file")
  | first :: rest => .ok (Table.ofRows (rest.map (row (header first))))

end RowQuery.Csv
