import RowQuery.Query.Basic
import RowQuery.Text.Ascii
import RowQuery.Text.Visible

/-!
# Queries as outlines

How a query is understood, part by part: each part stands on lines of its own, four blanks further
in than the whole it belongs to.
-/

namespace RowQuery

/-- A text without parts, or parts between two brackets. Each part has a label in front of it, which
may be empty. -/
inductive Outline where
  | plain (text : List Char)
  | parts (opening : List Char) (entries : List (List Char × Outline)) (closing : List Char)

namespace Outline

/-- A new line with so many blanks. -/
def margin (blanks : Nat) : List Char := '\n' :: List.replicate blanks ' '

mutual

/-- The text of an outline whose last line starts after so many blanks. -/
def textAt (blanks : Nat) : Outline → List Char
  | plain text => text
  | parts opening [] closing => opening ++ closing
  | parts opening (entry :: rest) closing =>
    opening ++ entriesAt (blanks + 4) (entry :: rest) ++ margin blanks ++ closing

/-- The texts of parts, each on a new line and closed by a comma. -/
def entriesAt (blanks : Nat) : List (List Char × Outline) → List Char
  | [] => []
  | (label, part) :: rest =>
    margin blanks ++ label ++ textAt blanks part ++ ',' :: entriesAt blanks rest

end

/-- The text of an outline. -/
def text (outline : Outline) : String := String.ofList (outline.textAt 0)

/-- A character as it stands between quotes: one that does not show is given by its number. -/
def escapeChar (c : Char) : List Char :=
  if c = '\x00' then ['\\', '0']
  else if c = '\t' then ['\\', 't']
  else if c = '\n' then ['\\', 'n']
  else if c = '\r' then ['\\', 'r']
  else if c = '"' then ['\\', '"']
  else if c = '\\' then ['\\', '\\']
  else if Text.isVisible c then [c]
  else "\\u\x7b".toList ++ Text.hexDigits c.toNat ++ ['\x7d']

/-- A text between quotes. -/
def quoted (s : String) : Outline := plain ('"' :: s.toList.flatMap escapeChar ++ ['"'])

/-- A bare word. -/
def word (s : String) : Outline := plain s.toList

/-- A word with parts in round brackets behind it. -/
def applied (head : String) (arguments : List Outline) : Outline :=
  parts (head ++ "(").toList (arguments.map fun part => ([], part)) [')']

/-- Parts in square brackets. -/
def listed (items : List Outline) : Outline :=
  parts ['['] (items.map fun part => ([], part)) [']']

/-- A word with named parts in curly brackets behind it. -/
def fields (head : String) (entries : List (String × Outline)) : Outline :=
  parts (head ++ " \x7b").toList
    (entries.map fun entry => ((entry.1 ++ ": ").toList, entry.2)) ['\x7d']

end Outline

/-- The outline of a comparison. -/
def Comparison.outline : Comparison → Outline
  | .equal => .word "Eq"
  | .greater => .word "Gt"
  | .less => .word "Lt"
  | .unsupported token => .applied "Unsupported" [.quoted token]

/-- The outline of a filter. -/
def Filter.outline (filter : Filter) : Outline :=
  .fields "Filter"
    [("field", .quoted filter.field), ("op", filter.op.outline), ("value", .quoted filter.value)]

/-- The outline of a projection. -/
def Projection.outline : Projection → Outline
  | .all => .word "All"
  | .columns names => .applied "Columns" [.listed (names.map .quoted)]

/-- The outline of a query. -/
def Query.outline : Query → Outline
  | .passthrough => .word "Passthrough"
  | .select projection none =>
    .fields "Select" [("projection", projection.outline), ("filter", .word "None")]
  | .select projection (some filter) =>
    .fields "Select"
      [("projection", projection.outline), ("filter", .applied "Some" [filter.outline])]

end RowQuery
