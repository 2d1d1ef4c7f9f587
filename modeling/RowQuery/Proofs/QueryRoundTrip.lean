import RowQuery.Proofs.Cutting
import RowQuery.Proofs.Searching
import RowQuery.Query.Parser

/-!
# What a written query is read as

A query is written from keywords in any letter case, column names, the name of a table and perhaps a
comparison. It is read as the same columns and the same comparison (`parse_written`), although it is
read without a grammar: neither the names nor the table hold a keyword that is searched for, and no
keyword reaches over a blank or a comma, so the first places where they stand are those at which they
were written.
-/

namespace RowQuery

namespace Query

/-! ## Writing -/

/-- The keywords of a query, each in some letter case. -/
structure Spelling where
  select : String
  origin : String
  condition : String
  isSelect : Text.sameButCase select "SELECT" = true
  isFrom : Text.sameButCase origin "FROM" = true
  isWhere : Text.sameButCase condition "WHERE" = true

/-- The text that asks for what a clause names of a table. -/
def Spelling.asking (words : Spelling) (clause table : String) : String :=
  words.select ++ " " ++ clause ++ " " ++ words.origin ++ " " ++ table

/-- The text that goes on with a comparison of a field, and anything behind it. -/
def Spelling.testing (words : Spelling) (field op value rest : String) : String :=
  " " ++ words.condition ++ " " ++ field ++ " " ++ op ++ " " ++ value ++ rest

/-- A column name that can be written. -/
structure Writable (name : String) : Prop where
  trimmed : Text.trimmed name = name
  commaFree : ',' ∉ name.toList
  noFrom : Text.Avoids "from".toList name.toList
  noWhere : Text.Avoids "where".toList name.toList

/-- Column names that can be written side by side. A single name must not be empty, nor the star that
stands for all columns. -/
structure WritableNames (names : List String) : Prop where
  each : ∀ name ∈ names, Writable name
  named : names ≠ [""]
  notStar : names ≠ ["*"]

/-! ## The clauses -/

/-- A clause whose pieces are the given names, when trimmed, names these columns. -/
theorem projection_of_pieces {clause : List Char} {names : List String}
    (pieces : (clause.splitOn ',').map Text.trim = names.map String.toList) (named : names ≠ [""])
    (notStar : names ≠ ["*"]) : projection clause = .columns names := by
  have listed : names = ((Text.trim clause).splitOn ',').map fun piece => String.ofList (Text.trim piece) := by
    have seen : Text.isBlank ',' = false := by decide
    have texts := (Text.map_trim_splitOn_trim seen clause).trans pieces
    have strings := congrArg (List.map String.ofList) texts
    rw [List.map_map, List.map_map] at strings
    simpa [Function.comp_def] using strings.symm
  rw [projection]
  split
  next blank =>
    rw [blank] at listed
    exact absurd listed named
  next star =>
    rw [star] at listed
    exact absurd listed notStar
  next => rw [listed]

theorem map_trim_splitOn_joined {names : List String} (some : names ≠ []) (each : ∀ name ∈ names, Writable name) :
    ((' ' :: [',', ' '].intercalate (names.map String.toList) ++ [' ']).splitOn ',').map Text.trim =
      names.map String.toList := by
  obtain ⟨first, rest, rfl⟩ := List.exists_cons_of_ne_nil some
  have apart : [' '] ++ [',', ' '].intercalate ((first :: rest).map String.toList) =
      [','].intercalate (((first :: rest).map String.toList).map ([' '] ++ ·)) := Text.append_intercalate_cons ',' [' '] _ _
  rw [Text.map_trim_splitOn_concat (by decide) _ (by decide), ← List.singleton_append, apart, List.splitOn_intercalate]
  · rw [List.map_map, List.map_map]
    refine List.map_congr_left fun name listed => ?_
    rw [Function.comp_apply, Function.comp_apply, List.singleton_append, Text.trim_cons_blank (by decide)]
    exact (Text.trimmed_eq_iff name).mp (each name listed).trimmed
  · intro part among
    obtain ⟨text, texts, rfl⟩ := List.mem_map.mp among
    obtain ⟨name, listed, rfl⟩ := List.mem_map.mp texts
    simpa using (each name listed).commaFree
  · simp

/-- The names side by side, between blanks, are read as these columns. -/
theorem projection_joined {names : List String} (writable : WritableNames names) :
    projection (' ' :: [',', ' '].intercalate (names.map String.toList) ++ [' ']) = .columns names := by
  by_cases none : names = []
  · subst none
    rfl
  · exact projection_of_pieces (map_trim_splitOn_joined none writable.each) writable.named writable.notStar

/-- The first three words of a clause are read as a comparison, whatever comes behind them. -/
theorem filter?_written {field op value rest : List Char} (isField : Text.Word field) (isOp : Text.Word op)
    (isValue : Text.Word value) (ends : ∀ c ∈ rest.head?, Text.isBlank c = true) :
    filter? (' ' :: (field ++ ' ' :: (op ++ ' ' :: (value ++ rest)))) =
      some ⟨String.ofList field, .ofToken (String.ofList op), String.ofList value⟩ := by
  have blank : Text.isBlank ' ' = true := by decide
  have last : ∃ more, Text.words (value ++ rest) = value :: more := by
    cases rest with
    | nil => exact ⟨[], by rw [List.append_nil, Text.words_of_word isValue]⟩
    | cons c rest => exact ⟨_, Text.words_word_append isValue (ends c rfl) rest⟩
  obtain ⟨more, words⟩ := last
  rw [filter?, Text.words_cons_blank blank, Text.words_word_append isField blank, Text.words_word_append isOp blank,
    words]

/-! ## The keywords -/

section
variable {word : List Char} (written : Text.foldCase word ≠ []) (apart : ' ' ∉ Text.foldCase word)
include written apart

theorem avoids_append_blank {before after : List Char} (absent : Text.Avoids word before)
    (later : Text.Avoids word after) : Text.Avoids word (before ++ ' ' :: after) := by
  rw [Text.Avoids, Text.foldCase_append]
  exact Text.not_infix_append_mark written apart absent later

/-- A keyword first stands where it was written, if it does not stand in front of that. -/
theorem findFolded?_written {before : List Char} (absent : Text.Avoids word before) {spelled : List Char}
    (same : Text.foldCase spelled = Text.foldCase word) (after : List Char) :
    Text.findFolded? word (before ++ ' ' :: (spelled ++ after)) = some (before.length + 1) := by
  have found := Text.find?_append_mark_word written apart absent (Text.foldCase after)
  rw [Text.length_foldCase, ← same, ← Text.foldCase_append] at found
  rw [Text.findFolded?, Text.foldCase_append, ← same]
  exact found

theorem avoids_joined (noComma : ',' ∉ Text.foldCase word) {names : List String}
    (absent : ∀ name ∈ names, Text.Avoids word name.toList) :
    Text.Avoids word (", ".intercalate names).toList := by
  have folded : Text.foldCase (", ".intercalate names).toList =
      [',', ' '].intercalate (names.map fun name => Text.foldCase name.toList) := by
    rw [String.toList_intercalate, Text.foldCase, Text.map_intercalate, List.map_map]
    rfl
  rw [Text.Avoids, folded]
  refine Text.not_infix_intercalate written noComma apart fun part among => ?_
  obtain ⟨name, listed, rfl⟩ := List.mem_map.mp among
  exact absent name listed

end

section
variable {select clause origin : List Char} (isSelect : Text.foldCase select = "select".toList)
  (isFrom : Text.foldCase origin = "from".toList)
include isSelect isFrom

/-- The clause is cut out between the first two keywords. -/
theorem ofChars_written (noFrom : Text.Avoids "from".toList clause) (after : List Char) {text : List Char}
    (whole : text = select ++ ' ' :: (clause ++ ' ' :: (origin ++ after))) :
    ofChars text = .select (projection (' ' :: clause ++ [' ']))
      ((endOf? "where".toList text).bind fun place => filter? (text.drop place)) := by
  have length : select.length = 6 := by
    rw [← Text.length_foldCase, isSelect]
    rfl
  have selectEnd : endOf? "select".toList text = some 6 := by
    have opens : Text.foldCase "select".toList <+: Text.foldCase text := by
      rw [whole, Text.foldCase_append, isSelect]
      exact List.prefix_append _ _
    rw [endOf?, Text.findFolded?, Text.find?_eq_some_zero opens]
    rfl
  have fromStart : Text.findFolded? "from".toList text = some (clause.length + 8) := by
    have absent : Text.Avoids "from".toList (select ++ ' ' :: clause) :=
      avoids_append_blank (by decide) (by decide) (by rw [Text.Avoids, isSelect]; decide) noFrom
    have found := findFolded?_written (by decide) (by decide) absent (isFrom.trans rfl) after
    rw [whole]
    simp only [List.append_assoc, List.cons_append, List.length_append, List.length_cons, length] at found ⊢
    rw [found]
    congr 1
    omega
  have cut : slice text 6 (clause.length + 8) = ' ' :: clause ++ [' '] := by
    have split : text = (select ++ (' ' :: clause ++ [' '])) ++ (origin ++ after) := by
      rw [whole]
      simp
    have front : (select ++ (' ' :: clause ++ [' '])).length = clause.length + 8 := by
      simp only [List.length_append, List.length_cons, List.length_nil, length]
      omega
    rw [slice, split, List.take_left' front, List.drop_left' length]
  rw [ofChars]
  simp only [keywords, selectEnd, fromStart, cut]

variable (noWhere : Text.Avoids "where".toList clause) {table : List Char} (tableNoWhere : Text.Avoids "where".toList table)
include noWhere tableNoWhere

/-- No condition stands where none was written. -/
theorem avoids_where : Text.Avoids "where".toList (select ++ ' ' :: (clause ++ ' ' :: (origin ++ ' ' :: table))) := by
  have inSelect : Text.Avoids "where".toList select := by
    rw [Text.Avoids, isSelect]
    decide
  have inFrom : Text.Avoids "where".toList origin := by
    rw [Text.Avoids, isFrom]
    decide
  have written : Text.foldCase "where".toList ≠ [] := by decide
  have apart : ' ' ∉ Text.foldCase "where".toList := by decide
  exact avoids_append_blank written apart inSelect <| avoids_append_blank written apart noWhere <|
    avoids_append_blank written apart inFrom tableNoWhere

theorem ofChars_asking (noFrom : Text.Avoids "from".toList clause) :
    ofChars (select ++ ' ' :: (clause ++ ' ' :: (origin ++ ' ' :: table))) =
      .select (projection (' ' :: clause ++ [' '])) none := by
  have nowhere := avoids_where isSelect isFrom noWhere tableNoWhere
  rw [ofChars_written isSelect isFrom noFrom (' ' :: table) rfl, endOf?, Text.findFolded?,
    (Text.find?_eq_none_iff _ _).mpr nowhere]
  rfl

theorem ofChars_testing (noFrom : Text.Avoids "from".toList clause) {condition : List Char}
    (isWhere : Text.foldCase condition = "where".toList) (tail : List Char) :
    ofChars (select ++ ' ' :: (clause ++ ' ' :: (origin ++ ' ' :: (table ++ ' ' :: (condition ++ tail))))) =
      .select (projection (' ' :: clause ++ [' '])) (filter? tail) := by
  have nowhere := avoids_where isSelect isFrom noWhere tableNoWhere
  have length : condition.length = 5 := by
    rw [← Text.length_foldCase, isWhere]
    rfl
  generalize front : select ++ ' ' :: (clause ++ ' ' :: (origin ++ ' ' :: table)) = before at nowhere
  have whole : select ++ ' ' :: (clause ++ ' ' :: (origin ++ ' ' :: (table ++ ' ' :: (condition ++ tail)))) =
      before ++ ' ' :: (condition ++ tail) := by
    rw [← front]
    simp
  have place : endOf? "where".toList (before ++ ' ' :: (condition ++ tail)) = some (before.length + 6) := by
    rw [endOf?, findFolded?_written (by decide) (by decide) nowhere (isWhere.trans rfl)]
    rfl
  have behind : (before ++ ' ' :: (condition ++ tail)).drop (before.length + 6) = tail := by
    have split : before ++ ' ' :: (condition ++ tail) = (before ++ ' ' :: condition) ++ tail := by simp
    rw [split, List.drop_left' (by simp [length])]
  rw [ofChars_written isSelect isFrom noFrom _ rfl, whole, place, Option.bind_some, behind]

end

/-! ## Queries -/

theorem Spelling.fold_select (words : Spelling) : Text.foldCase words.select.toList = "select".toList :=
  eq_of_beq words.isSelect

theorem Spelling.fold_origin (words : Spelling) : Text.foldCase words.origin.toList = "from".toList :=
  eq_of_beq words.isFrom

theorem Spelling.fold_condition (words : Spelling) : Text.foldCase words.condition.toList = "where".toList :=
  eq_of_beq words.isWhere

section
variable (words : Spelling) {clause table : String} (noFrom : Text.Avoids "from".toList clause.toList)
  (noWhere : Text.Avoids "where".toList clause.toList) (tableNoWhere : Text.Avoids "where".toList table.toList)
include noFrom noWhere tableNoWhere

theorem parse_asking :
    parse (words.asking clause table) = .select (projection (' ' :: clause.toList ++ [' '])) none := by
  rw [parse, ← ofChars_asking words.fold_select words.fold_origin noWhere tableNoWhere noFrom]
  congr 1
  simp [Spelling.asking]

theorem parse_testing {field op value rest : String} (isField : Text.Word field.toList) (isOp : Text.Word op.toList)
    (isValue : Text.Word value.toList) (ends : ∀ c ∈ rest.toList.head?, Text.isBlank c = true) :
    parse (words.asking clause table ++ words.testing field op value rest) =
      .select (projection (' ' :: clause.toList ++ [' '])) (some ⟨field, .ofToken op, value⟩) := by
  have tested := filter?_written isField isOp isValue ends
  simp only [String.ofList_toList] at tested
  rw [parse, ← tested, ← ofChars_testing words.fold_select words.fold_origin noWhere tableNoWhere noFrom words.fold_condition]
  congr 1
  simp [Spelling.asking, Spelling.testing]

end

/-- A query that was written from names and a comparison is read as these names and this comparison, in
the letters in which they were written; without a condition it is read as one without a comparison, and
with a star in place of the names it asks for all columns. -/
theorem parse_written (words : Spelling) {names : List String} (writable : WritableNames names) {table : String}
    (tableNoWhere : Text.Avoids "where".toList table.toList) {field op value rest : String}
    (isField : Text.Word field.toList) (isOp : Text.Word op.toList) (isValue : Text.Word value.toList)
    (ends : ∀ c ∈ rest.toList.head?, Text.isBlank c = true) :
    parse (words.asking (", ".intercalate names) table ++ words.testing field op value rest) =
        .select (.columns names) (some ⟨field, .ofToken op, value⟩) ∧
      parse (words.asking (", ".intercalate names) table) = .select (.columns names) none ∧
      parse (words.asking "*" table ++ words.testing field op value rest) =
        .select .all (some ⟨field, .ofToken op, value⟩) ∧
      parse (words.asking "*" table) = .select .all none := by
  have noFrom : Text.Avoids "from".toList (", ".intercalate names).toList :=
    avoids_joined (by decide) (by decide) (by decide) fun name listed => (writable.each name listed).noFrom
  have noWhere : Text.Avoids "where".toList (", ".intercalate names).toList :=
    avoids_joined (by decide) (by decide) (by decide) fun name listed => (writable.each name listed).noWhere
  have columns : projection (' ' :: (", ".intercalate names).toList ++ [' ']) = .columns names := by
    rw [String.toList_intercalate]
    exact projection_joined writable
  have star : projection (' ' :: "*".toList ++ [' ']) = .all := by decide
  refine ⟨?_, ?_, ?_, ?_⟩
  · rw [parse_testing words noFrom noWhere tableNoWhere isField isOp isValue ends, columns]
  · rw [parse_asking words noFrom noWhere tableNoWhere, columns]
  · rw [parse_testing words (by decide) (by decide) tableNoWhere isField isOp isValue ends, star]
  · rw [parse_asking words (by decide) (by decide) tableNoWhere, star]

/-- Keywords in mixed case. -/
def mixedCase : Spelling := ⟨"SeLeCt", "fRoM", "WHERE", by decide, by decide, by decide⟩

theorem parse_written_mixedCase :
    parse "SeLeCt Größe, , select\nme fRoM from here WHERE Größe >= 'x'\tand more" =
        .select (.columns ["Größe", "", "select\nme"]) (some ⟨"Größe", .unsupported ">=", "'x'"⟩) ∧
      parse "SeLeCt Größe, , select\nme fRoM from here" = .select (.columns ["Größe", "", "select\nme"]) none ∧
      parse "SeLeCt * fRoM from here WHERE Größe >= 'x'\tand more" =
        .select .all (some ⟨"Größe", .unsupported ">=", "'x'"⟩) ∧
      parse "SeLeCt * fRoM from here" = .select .all none := by
  have writable : WritableNames ["Größe", "", "select\nme"] := by
    refine ⟨?_, by decide, by decide⟩
    intro name listed
    rcases (by simpa using listed : name = "Größe" ∨ name = "" ∨ name = "select\nme") with rfl | rfl | rfl
    · exact ⟨by decide, by decide, by decide, by decide⟩
    · exact ⟨by decide, by decide, by decide, by decide⟩
    · exact ⟨by decide, by decide, by decide, by decide⟩
  have tableNoWhere : Text.Avoids "where".toList "from here".toList := by decide
  have isField : Text.Word "Größe".toList := by decide
  have isOp : Text.Word ">=".toList := by decide
  have isValue : Text.Word "'x'".toList := by decide
  have ends : ∀ c ∈ "\tand more".toList.head?, Text.isBlank c = true := by
    intro c first
    obtain rfl : '\t' = c := Option.some.inj first
    rfl
  have read := parse_written mixedCase writable tableNoWhere isField isOp isValue ends
  have named : mixedCase.asking (", ".intercalate ["Größe", "", "select\nme"]) "from here" =
      "SeLeCt Größe, , select\nme fRoM from here" := by decide +kernel
  have starred : mixedCase.asking "*" "from here" = "SeLeCt * fRoM from here" := by decide +kernel
  have tested : mixedCase.testing "Größe" ">=" "'x'" "\tand more" = " WHERE Größe >= 'x'\tand more" := by
    decide +kernel
  have compared : Comparison.ofToken ">=" = .unsupported ">=" := by decide
  rw [named, starred, tested, compared] at read
  exact read

end Query

end RowQuery
