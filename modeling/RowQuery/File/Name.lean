import RowQuery.Failure
import RowQuery.Text.Lowercase

/-!
# File names and formats

The format of a file is decided by its name alone: by what follows the last dot of the last part of
the path, in any letter case.
-/

namespace RowQuery.File

/-- The last part of a path; empty parts and single dots behind it do not count. A path that ends in
two dots, or has no other part, names no file. -/
def lastPart? (path : List Char) : Option (List Char) :=
  match (path.splitOn '/').reverse.dropWhile fun part => part = [] || part = ['.'] with
  | [] => none
  | part :: _ => if part = ['.', '.'] then none else some part

/-- What follows the last dot of a name; nothing if there is no dot or only one in front. -/
def extensionOf (name : List Char) : List Char :=
  let extension := (name.reverse.takeWhile (· != '.')).reverse
  if name.length ≤ extension.length + 1 then [] else extension

/-- The extension of a path in lower case. -/
def extension (path : String) : String :=
  match lastPart? path.toList with
  | some name => Text.lowercase (String.ofList (extensionOf name))
  | none => ""

/-- The file name that a path ends in, empty if there is none. -/
def fileName (path : String) : String := String.ofList ((lastPart? path.toList).getD [])

/-- The formats that can be read. -/
inductive Format where
  | csv
  | json
  deriving DecidableEq, Repr

/-- The name of a format. -/
def Format.label : Format → String
  | .csv => "csv"
  | .json => "json"

/-- The format that a file name tells. -/
def Format.ofName (name : String) : Except Failure Format :=
  let extension := extension name
  if extension = "csv" then .ok .csv
  else if extension = "json" then .ok .json
  else if extension = "" then
    .error (.unsupportedFormat ("'" ++ name ++ "' has no file extension"))
  else .error (.unsupportedFormat ("." ++ extension))

end RowQuery.File
