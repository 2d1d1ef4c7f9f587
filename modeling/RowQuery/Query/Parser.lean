import RowQuery.Query.Basic
import RowQuery.Text.Ascii
import RowQuery.Text.Blank

/-!
# Reading queries

There is no grammar. The first places where `select`, `from` and `where` stand, in any case and even
within other words, cut the text into clauses; whatever cannot be understood is passed over.
-/

namespace RowQuery.Query

/-- Where the keywords of a query stand: the end of the first `select`, the start of the first
`from` and the end of the first `where`. -/
structure Keywords where
  selectEnd : Option Nat
  fromStart : Option Nat
  whereEnd : Option Nat
  deriving DecidableEq, Repr

/-- The place behind the first occurrence of a word. -/
def endOf? (word text : List Char) : Option Nat :=
  (Text.findFolded? word text).map (· + word.length)

/-- The keywords of a text. -/
def keywords (text : List Char) : Keywords :=
  { selectEnd := endOf? "select".toList text
    fromStart := Text.findFolded? "from".toList text
    whereEnd := endOf? "where".toList text }

/-- The text from one place up to another, empty if the second comes first. -/
def slice (text : List Char) (start stop : Nat) : List Char := (text.take stop).drop start

/-- The projection that a clause writes. A blank clause names no columns. -/
def projection (clause : List Char) : Projection :=
  match Text.trim clause with
  | [] => .columns []
  | ['*'] => .all
  | names => .columns ((names.splitOn ',').map fun name => String.ofList (Text.trim name))

/-- The filter that a clause writes with its first three words; none if there are fewer. -/
def filter? (clause : List Char) : Option Filter :=
  match Text.words clause with
  | field :: op :: value :: _ =>
    some ⟨String.ofList field, Comparison.ofToken (String.ofList op), String.ofList value⟩
  | _ => none

/-- The query that a list of characters writes. -/
def ofChars (text : List Char) : Query :=
  let words := keywords text
  match words.selectEnd, words.fromStart with
  | some start, some stop =>
    .select (projection (slice text start stop))
      (words.whereEnd.bind fun place => filter? (text.drop place))
  | _, _ => .passthrough

/-- The query that a text writes. -/
def parse (text : String) : Query := ofChars text.toList

end RowQuery.Query
