import RowQuery.Proofs.CsvLines

/-!
# Line breaks

There are three ways to end a line, and the longest that stands in a text counts: a carriage return
and a line feed behind it are one break. Cutting a text at its breaks gives the same lines as cutting
it at every carriage return and every line feed, but for empty ones, so the lines on which there is
something to see are the same (`seenLines_eq`). Those of a text are the ones it was made of, however
each of them was ended (`lines_draft`), so neither the ends of lines nor blank lines make a difference
to what is read (`read_eq_of_seen`).
-/

namespace RowQuery.Csv

/-! ## Cutting at the longest break -/

/-- The lines of a text. A carriage return and a line feed behind it are one break. -/
def cutLines : List Char → List (List Char)
  | [] => [[]]
  | '\r' :: '\n' :: rest => [] :: cutLines rest
  | c :: rest => if isLineBreak c then [] :: cutLines rest else (cutLines rest).modifyHead (c :: ·)

/-- A line on which there is something to see. -/
def isSeen (line : List Char) : Bool := Text.trim line != []

/-- The lines of a text on which there is something to see. -/
def seenLines (text : List Char) : List (List Char) := (cutLines text).filter isSeen

theorem isSeen_eq (line : List Char) : isSeen line = !line.all Text.isBlank := by
  rw [isSeen, Bool.eq_iff_iff]
  simp [Text.trim_eq_nil_iff]

/-- Both ways to cut a text give the same first line, and behind it the same lines to be seen. -/
theorem cutLines_splitOnP (text : List Char) : ∃ first cut split, cutLines text = first :: cut ∧
    text.splitOnP isLineBreak = first :: split ∧ cut.filter isSeen = split.filter isSeen := by
  fun_induction cutLines text with
  | case1 => exact ⟨[], [], [], rfl, by simp, rfl⟩
  | case2 rest ih =>
    obtain ⟨first, cut, split, cuts, splits, same⟩ := ih
    refine ⟨[], first :: cut, [] :: first :: split, by rw [cuts], ?_, ?_⟩
    · simp [List.splitOnP_cons_eq_if_modifyHead, isLineBreak, splits]
    · -- What stands between the two characters of the break is empty.
      simp [List.filter_cons, same, isSeen, Text.trim, Text.trimStart, Text.trimEnd]
  | case3 c rest _ ends ih =>
    obtain ⟨first, cut, split, cuts, splits, same⟩ := ih
    refine ⟨[], first :: cut, first :: split, by rw [cuts], ?_, ?_⟩
    · simp [List.splitOnP_cons_eq_if_modifyHead, ends, splits]
    · simp [List.filter_cons, same]
  | case4 c rest _ goesOn ih =>
    obtain ⟨first, cut, split, cuts, splits, same⟩ := ih
    refine ⟨c :: first, cut, split, by rw [cuts]; rfl, ?_, same⟩
    simp [List.splitOnP_cons_eq_if_modifyHead, goesOn, splits]

theorem seenLines_eq (text : List Char) : seenLines text = lines text := by
  obtain ⟨first, cut, split, cuts, splits, same⟩ := cutLines_splitOnP text
  have seen : (fun line : List Char => !line.all Text.isBlank) = isSeen := funext fun line => (isSeen_eq line).symm
  rw [seenLines, lines, cuts, splits, seen, List.filter_cons, List.filter_cons, same]

/-! ## Texts by their lines -/

/-- What ends a line. -/
inductive Terminator where
  | feed
  | carriage
  | both
  deriving DecidableEq, Repr

/-- The characters that end a line. -/
def Terminator.chars : Terminator → List Char
  | .feed => ['\n']
  | .carriage => ['\r']
  | .both => ['\r', '\n']

/-- A line by itself. -/
structure Line where
  chars : List Char
  unbroken : Unbroken chars

/-- A text by its lines: those that are ended, and what stands behind the last end. -/
structure Draft where
  ended : List (Line × Terminator)
  last : Line

/-- The text that is drafted. -/
def Draft.text (draft : Draft) : List Char :=
  (draft.ended.flatMap fun line => line.1.chars ++ line.2.chars) ++ draft.last.chars

/-- The lines of a draft on which there is something to see. -/
def Draft.seen (draft : Draft) : List (List Char) :=
  (draft.ended.map (fun line => line.1.chars) ++ [draft.last.chars]).filter isSeen

theorem lines_line (line : Line) : lines line.chars = [line.chars].filter isSeen := by
  rw [lines, splitOnP_of_unbroken line.unbroken]
  simp only [List.filter_singleton, isSeen_eq]

/-- However a line is ended, what follows has its lines to itself. -/
theorem lines_terminated (line : Line) (terminator : Terminator) (rest : List Char) :
    lines (line.chars ++ terminator.chars ++ rest) = [line.chars].filter isSeen ++ lines rest := by
  rw [← lines_line, List.append_assoc]
  cases terminator with
  | feed => exact lines_append_break rfl line.chars rest
  | carriage => exact lines_append_break rfl line.chars rest
  | both =>
    have between : lines ('\n' :: rest) = lines rest := lines_append_break rfl [] rest
    exact (lines_append_break rfl line.chars ('\n' :: rest)).trans (by rw [between])

/-- The lines to be seen in a text are those of its draft. -/
theorem lines_draft (draft : Draft) : lines draft.text = draft.seen := by
  obtain ⟨ended, last⟩ := draft
  rw [Draft.text, Draft.seen]
  dsimp only
  induction ended with
  | nil => exact lines_line last
  | cons line rest ih =>
    rw [List.flatMap_cons, List.append_assoc, lines_terminated, ih, ← List.filter_append]
    rfl

/-- How lines are ended, and blank lines wherever they stand, make no difference: two drafts with the same
lines to be seen give texts in which the same lines are seen and from which the same is read, be it a table
or a failure. -/
theorem read_eq_of_seen {first second : Draft} (same : first.seen = second.seen) :
    seenLines first.text = seenLines second.text ∧ Csv.read first.text = Csv.read second.text := by
  have lines : lines first.text = lines second.text := by
    rw [lines_draft, lines_draft, same]
  constructor
  · rw [seenLines_eq, seenLines_eq, lines]
  · rw [Csv.read, Csv.read, lines]

/-- Two lines, the first ended by a carriage return and followed by an empty line that is ended by a line
feed, so that the two ends are read as one. -/
def fusedDraft : Draft where
  ended := [(⟨"a,b".toList, by decide⟩, .carriage), (⟨[], by decide⟩, .feed)]
  last := ⟨"1,2".toList, by decide⟩

/-- The same two lines with a blank line behind them. -/
def spacedDraft : Draft where
  ended := [(⟨"a,b".toList, by decide⟩, .both), (⟨"1,2".toList, by decide⟩, .feed)]
  last := ⟨[' '], by decide⟩

theorem read_eq_of_seen_fused :
    fusedDraft.text = "a,b\r\n1,2".toList ∧ fusedDraft.seen = spacedDraft.seen ∧
      Csv.read fusedDraft.text = Csv.read spacedDraft.text := by
  have same : fusedDraft.seen = spacedDraft.seen := by decide +kernel
  exact ⟨rfl, same, (read_eq_of_seen same).2⟩

end RowQuery.Csv
