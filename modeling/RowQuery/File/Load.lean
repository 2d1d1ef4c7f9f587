import RowQuery.Csv.Reader
import RowQuery.File.Name
import RowQuery.Json.Reader
import RowQuery.Json.Writer
import RowQuery.Text.Utf8

/-!
# Loading files

From a name and octets to a data set. The name is looked at first, so that a file of another format
is refused whatever it holds.
-/

namespace RowQuery.File

/-- The items of the first array: a document that is an array, or the first member of an object that
holds one. -/
def rowArray? : Json → Option (List Json)
  | .array items => some items
  | .object members =>
    members.findSome? fun
      | (_, .array items) => some items
      | _ => none
  | _ => none

/-- Items as rows; `index` counts the items in front. -/
def rowsFrom (index : Nat) : List Json → Except Failure (List Row)
  | [] => .ok []
  | .object members :: rest => (rowsFrom (index + 1) rest).map (members :: ·)
  | item :: _ =>
    .error (.malformedInput ("Element " ++ toString index ++
      " of the row array is not an object: " ++ item.compact))

/-- The table that a JSON document holds. -/
def tableOfJson (document : Json) : Except Failure Table :=
  match rowArray? document with
  | none => .error .noArrayFound
  | some [] => .error (.emptyFile "File contains no data")
  | some items => (rowsFrom 0 items).map Table.ofRows

/-- The table that a JSON text holds. -/
def readJson (text : List Char) : Except Failure Table :=
  match Json.read text with
  | .ok document => tableOfJson document
  | .error fault => .error (.malformedInput ("Error parsing JSON file: " ++ fault.message text))

/-- The table that a text holds in a format. -/
def readText (format : Format) (text : List Char) : Except Failure Table :=
  match format with
  | .csv => Csv.read text
  | .json => readJson text

/-- The text of a file. -/
def decode (octets : List UInt8) : Except Failure String :=
  match Text.Utf8.decode octets with
  | .ok text => .ok text
  | .error fault => .error (.malformedInput ("File is not valid UTF-8: " ++ fault.message))

/-- The data set in octets of a known format. -/
def ofOctets (format : Format) (name : String) (octets : List UInt8) : Except Failure Dataset :=
  match decode octets with
  | .error failure => .error failure
  | .ok text => (readText format text.toList).map fun table => ⟨table, name⟩

/-- The data set in a file that is given by its name and octets. -/
def load (name : String) (octets : List UInt8) : Except Failure Dataset :=
  match Format.ofName name with
  | .error failure => .error failure
  | .ok format => ofOctets format name octets

/-- How many octets of a file are read at a time. -/
def chunkSize : Nat := 20 * 1024 * 1024

/-- The octets that are read of a file, so many at a time, until there is nothing more to read. At most
`budget` times something is read. -/
def readInChunks (size : Nat) : Nat → List UInt8 → List UInt8
  | 0, _ => []
  | budget + 1, octets =>
    if (octets.take size).isEmpty then []
    else octets.take size ++ readInChunks size budget (octets.drop size)

/-- Reading takes all octets, however many at a time. -/
theorem readInChunks_eq {size : Nat} (some : 0 < size) {budget : Nat} {octets : List UInt8}
    (enough : octets.length ≤ budget) : readInChunks size budget octets = octets := by
  induction budget generalizing octets with
  | zero => rw [List.length_eq_zero_iff.mp (Nat.le_zero.mp enough), readInChunks]
  | succ budget ih =>
    rw [readInChunks]
    split
    next none =>
      rcases List.take_eq_nil_iff.mp (List.isEmpty_iff.mp none) with zero | empty
      · omega
      · exact empty.symm
    next more =>
      have fewer : (octets.drop size).length ≤ budget := by
        rw [List.length_drop]
        omega
      rw [ih fewer, List.take_append_drop]

/-- What is met when a path is read: its octets, or the report of what prevents it. -/
abbrev Content := Except String (List UInt8)

/-- The data set in a file that is read at a path. It bears the file name without the folders, and
what the path holds matters only once the name has been accepted. -/
def loadAt (path : String) (content : Content) : Except Failure Dataset :=
  let name := fileName path
  match Format.ofName name with
  | .error failure => .error failure
  | .ok format =>
    match content with
    | .error report => .error (.io report)
    | .ok octets => ofOctets format name (readInChunks chunkSize octets.length octets)

end RowQuery.File
