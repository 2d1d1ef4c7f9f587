import RowQuery.Text.LetterCase

/-!
# Full lower case

The lower case form of a text under the Unicode rules. Two letters need more than a table row:
dotted capital I becomes two characters, and capital sigma depends on where it stands, being final
when it closes a word.
-/

namespace RowQuery.Text

/-- The lower case form that the runs give a code point, or the code point itself. -/
def lowerCode (runs : List CaseRun) (n : Nat) : Nat :=
  match runs.find? fun r => r.first ≤ n && n ≤ r.last && (n - r.first) % r.step == 0 with
  | some r => r.lower + (n - r.first)
  | none => n

/-- The lower case form of one letter, wherever it stands. -/
def lowerChar (c : Char) : List Char :=
  if c = 'İ' then ['i', '\u0307'] else [Char.ofNat (lowerCode caseRuns c.toNat)]

/-- After the characters that are passed over comes a letter with case. -/
def reachesCased (text : List Char) : Bool :=
  match text.dropWhile fun c => CodeRange.anyContains ignorableRanges c.toNat with
  | c :: _ => CodeRange.anyContains casedRanges c.toNat
  | [] => false

/-- The lower case form of a text; `before` holds the characters in front of it, nearest first. -/
def lowerFrom (before : List Char) : List Char → List Char
  | [] => []
  | c :: rest =>
    (if c = 'Σ' then
        [if reachesCased before && !reachesCased rest then 'ς' else 'σ']
      else lowerChar c) ++ lowerFrom (c :: before) rest

/-- The lower case form of a string. -/
def lowercase (s : String) : String := String.ofList (lowerFrom [] s.toList)

end RowQuery.Text
