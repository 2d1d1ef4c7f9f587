import RowQuery.Proofs.Cutting
import RowQuery.Proofs.OctetPlaces
import RowQuery.Query.Evaluate

/-!
# Where the parts of a query stand

What is captured of a text are parts of it, which stand in the order in which they are captured: the names
between the first `select` and the first `from`, the three words of a comparison behind the first `where`
(`understood_ofChars`). The octets at which the text is cut for them stand between its characters, so that
no text fails to be read (`parse_understood`). Since a keyword is looked for at its first place and a
comparison is made of the first three words, nothing that is written behind a comparison counts
(`parse_append_blank`).
-/

namespace RowQuery

namespace Text

/-! ## Parts in order -/

/-- Texts that stand in a text one behind the other. -/
inductive InOrder : List (List Char) → List Char → Prop
  | nil (text : List Char) : InOrder [] text
  | cons (gap part : List Char) {parts : List (List Char)} {text : List Char} (later : InOrder parts text) :
      InOrder (part :: parts) (gap ++ (part ++ text))

section
variable {parts : List (List Char)} {text : List Char}

theorem InOrder.append (ordered : InOrder parts text) (after : List Char) : InOrder parts (text ++ after) := by
  induction ordered with
  | nil text => exact .nil _
  | cons gap part later ih =>
    rw [List.append_assoc, List.append_assoc]
    exact .cons gap part ih

theorem InOrder.mono (ordered : InOrder parts text) {whole : List Char} (inside : text <:+: whole) :
    InOrder parts whole := by
  obtain ⟨before, after, rfl⟩ := inside
  cases ordered with
  | nil => exact .nil _
  | cons gap part later =>
    have further := InOrder.cons (before ++ gap) part (later.append after)
    simpa only [List.append_assoc] using further

theorem InOrder.infix_of_mem (ordered : InOrder parts text) {part : List Char} (member : part ∈ parts) :
    part <:+: text := by
  induction ordered with
  | nil text => exact absurd member List.not_mem_nil
  | @cons gap first parts text later ih =>
    rcases List.mem_cons.mp member with rfl | further
    · exact ⟨gap, text, List.append_assoc ..⟩
    · exact (ih further).trans ((List.suffix_append first text).trans (List.suffix_append gap _)).isInfix

theorem InOrder.sublist (ordered : InOrder parts text) {chosen : List (List Char)} (fewer : chosen.Sublist parts) :
    InOrder chosen text := by
  induction fewer generalizing text with
  | slnil => exact .nil text
  | cons part fewer ih =>
    cases ordered with
    | cons gap part later => exact (ih later).mono ((List.suffix_append part _).trans (List.suffix_append gap _)).isInfix
  | cons_cons part fewer ih =>
    cases ordered with
    | cons gap part later => exact .cons gap part (ih later)

/-- Parts of texts that stand one behind the other do so too. -/
theorem InOrder.map (ordered : InOrder parts text) {f : List Char → List Char} (inside : ∀ part, f part <:+: part) :
    InOrder (parts.map f) text := by
  induction ordered with
  | nil text => exact .nil text
  | @cons gap part parts text later ih =>
    obtain ⟨before, after, whole⟩ := inside part
    have split : gap ++ (part ++ text) = (gap ++ before) ++ (f part ++ (after ++ text)) := by
      conv_lhs => rw [← whole]
      simp only [List.append_assoc]
    rw [List.map_cons, split]
    exact .cons _ _ (ih.mono (List.suffix_append after text).isInfix)

end

/-- The first piece of a split is followed by the others. -/
theorem inOrder_of_splitOnP {cut : Char → Bool} {text first : List Char} {rest : List (List Char)}
    (pieces : text.splitOnP cut = first :: rest) : ∃ later, text = first ++ later ∧ InOrder rest later := by
  induction text generalizing first rest with
  | nil =>
    obtain ⟨rfl, rfl⟩ : [] = first ∧ [] = rest := by simpa using pieces
    exact ⟨[], rfl, .nil []⟩
  | cons c text ih =>
    obtain ⟨next, others, more⟩ := List.exists_cons_of_ne_nil (List.splitOnP_ne_nil cut text)
    obtain ⟨later, rfl, ordered⟩ := ih more
    rw [List.splitOnP_cons_eq_if_modifyHead, more] at pieces
    by_cases here : cut c = true
    · rw [if_pos here, List.cons.injEq] at pieces
      obtain ⟨rfl, rfl⟩ := pieces
      exact ⟨c :: (next ++ later), rfl, .cons [c] next ordered⟩
    · rw [if_neg here, List.modifyHead_cons, List.cons.injEq] at pieces
      obtain ⟨rfl, rfl⟩ := pieces
      exact ⟨later, rfl, ordered⟩

theorem inOrder_splitOnP (cut : Char → Bool) (text : List Char) : InOrder (text.splitOnP cut) text := by
  obtain ⟨first, rest, pieces⟩ := List.exists_cons_of_ne_nil (List.splitOnP_ne_nil cut text)
  obtain ⟨later, whole, ordered⟩ := inOrder_of_splitOnP pieces
  rw [pieces, whole]
  exact .cons [] first ordered

theorem inOrder_words (text : List Char) : InOrder (words text) text :=
  (inOrder_splitOnP isBlank text).sublist List.filter_sublist

theorem word_of_mem_words {text word : List Char} (member : word ∈ words text) : Word word := by
  obtain ⟨piece, some⟩ := List.mem_filter.mp member
  exact ⟨by simpa using some, not_cut_of_mem_splitOnP piece⟩

end Text

theorem Comparison.token_ofToken (token : String) : (Comparison.ofToken token).token = token := by
  rw [Comparison.ofToken]
  split_ifs with equal greater less
  · exact equal.symm
  · exact greater.symm
  · exact less.symm
  · rfl

namespace Query

/-! ## Clauses -/

/-- Names that were captured from a clause: trimmed pieces of it, in order, in which no comma and no `from` stands.
A single one is neither empty nor the star that stands for all columns. -/
structure NamesWithin (clause : List Char) (names : List String) : Prop where
  inOrder : Text.InOrder (names.map String.toList) clause
  trimmed : ∀ name ∈ names, Text.trimmed name = name
  commaFree : ∀ name ∈ names, ',' ∉ name.toList
  noFrom : ∀ name ∈ names, Text.Avoids "from".toList name.toList
  named : names ≠ [""]
  notStar : names ≠ ["*"]

/-- A comparison that was captured from a clause: three words of it, in order. -/
structure TestWithin (clause : List Char) (test : Filter) : Prop where
  inOrder : Text.InOrder [test.field.toList, test.op.token.toList, test.value.toList] clause
  field : Text.Word test.field.toList
  op : Text.Word test.op.token.toList
  value : Text.Word test.value.toList

/-- The columns that a clause names are its pieces, unless it is blank or a star. -/
theorem pieces_of_projection {clause : List Char} {names : List String} (read : projection clause = .columns names) :
    names = [] ∨ (Text.trim clause ≠ [] ∧ Text.trim clause ≠ ['*'] ∧
      names = ((Text.trim clause).splitOn ',').map fun piece => String.ofList (Text.trim piece)) := by
  rw [projection] at read
  split at read
  next => exact .inl (Projection.columns.inj read).symm
  next => cases read
  next some notStar => exact .inr ⟨some, notStar, (Projection.columns.inj read).symm⟩

section
variable {clause : List Char} {names : List String} (read : projection clause = .columns names)
include read

theorem inOrder_of_projection : Text.InOrder (names.map String.toList) clause := by
  rcases pieces_of_projection read with rfl | ⟨_, _, rfl⟩
  · exact .nil clause
  · have texts : String.toList ∘ (fun piece : List Char => String.ofList (Text.trim piece)) = Text.trim := by
      funext piece
      exact String.toList_ofList
    rw [List.map_map, texts]
    exact ((Text.inOrder_splitOnP _ _).map Text.trim_infix).mono (Text.trim_infix clause)

theorem piece_of_projection : ∀ name ∈ names, Text.trimmed name = name ∧ ',' ∉ name.toList := by
  rcases pieces_of_projection read with rfl | ⟨_, _, rfl⟩
  · simp
  · intro name listed
    obtain ⟨piece, among, rfl⟩ := List.mem_map.mp listed
    rw [Text.trimmed_eq_iff, String.toList_ofList]
    exact ⟨Text.trim_trim piece, fun inside => Text.not_mem_of_mem_splitOn among ((Text.trim_sublist piece).mem inside)⟩

/-- A single name is all of the clause but the blanks around it. -/
theorem single_of_projection {name : String} (single : names = [name]) : name ≠ "" ∧ name ≠ "*" := by
  subst single
  rcases pieces_of_projection read with none | ⟨some, notStar, pieces⟩
  · cases none
  · obtain ⟨piece, one, rfl⟩ := List.map_eq_singleton_iff.mp pieces.symm
    have whole : [','].intercalate ((Text.trim clause).splitOn ',') = Text.trim clause := List.intercalate_splitOn ','
    rw [one, List.intercalate_singleton] at whole
    rw [whole, Text.trim_trim, Ne, Ne, ← String.toList_inj, ← String.toList_inj, String.toList_ofList]
    exact ⟨some, notStar⟩

theorem namesWithin_of_projection (noFrom : Text.Avoids "from".toList clause) : NamesWithin clause names where
  inOrder := inOrder_of_projection read
  trimmed := fun name listed => (piece_of_projection read name listed).1
  commaFree := fun name listed => (piece_of_projection read name listed).2
  noFrom := fun _ listed => noFrom.mono ((inOrder_of_projection read).infix_of_mem (List.mem_map_of_mem listed))
  named := fun single => (single_of_projection read single).1 rfl
  notStar := fun single => (single_of_projection read single).2 rfl

end

theorem testWithin_of_filter? {clause : List Char} {test : Filter} (read : filter? clause = some test) :
    TestWithin clause test := by
  rw [filter?] at read
  split at read
  next field op value rest words =>
    obtain rfl := Option.some.inj read
    have ordered := Text.inOrder_words clause
    have word {text : List Char} (among : text ∈ field :: op :: value :: rest) : Text.Word text :=
      Text.word_of_mem_words (words ▸ among)
    rw [words] at ordered
    refine ⟨?_, ?_, ?_, ?_⟩
    all_goals simp only [Comparison.token_ofToken, String.toList_ofList]
    · exact ordered.sublist (List.prefix_append [field, op, value] rest).sublist
    · exact word (by simp)
    · exact word (by simp)
    · exact word (by simp)
  next => cases read

/-! ## Queries -/

/-- A keyword, in any letter case, stands at a place of a text, and at none in front of it. -/
def FirstWritten (word : String) (text : List Char) (place : Nat) : Prop :=
  Text.FirstAt (Text.foldCase word.toList) (Text.foldCase text) place

/-- What a text can be read as. It is passed over only if `select` or `from` is missing; otherwise the names stand
behind the first `select` and in front of the first `from`, and the words of the comparison behind the first
`where`. -/
inductive Understood (text : List Char) : Query → Prop
  | passthrough (missing : Text.Avoids "select".toList text ∨ Text.Avoids "from".toList text) :
      Understood text .passthrough
  | select {projection : Projection} {filter : Option Filter} {opening closing : Nat}
      (opened : FirstWritten "select" text opening) (closed : FirstWritten "from" text closing)
      (columns : ∀ names, projection = .columns names →
        NamesWithin ((text.take closing).drop (opening + "select".length)) names)
      (tested : ∀ test ∈ filter, ∃ condition, FirstWritten "where" text condition ∧
        TestWithin (text.drop (condition + "where".length)) test) :
      Understood text (.select projection filter)

theorem ofChars_of_missing {text : List Char}
    (missing : Text.findFolded? "select".toList text = none ∨ Text.findFolded? "from".toList text = none) :
    ofChars text = .passthrough := by
  rw [ofChars, keywords, endOf?]
  rcases missing with noSelect | noFrom
  · rw [noSelect]
    rfl
  · rw [noFrom]
    cases Text.findFolded? "select".toList text <;> rfl

theorem ofChars_of_found {text : List Char} {opening closing : Nat}
    (opened : Text.findFolded? "select".toList text = some opening)
    (closed : Text.findFolded? "from".toList text = some closing) :
    ofChars text = .select (projection (slice text (opening + "select".toList.length) closing))
      ((endOf? "where".toList text).bind fun place => filter? (text.drop place)) := by
  rw [ofChars, keywords, endOf?, opened, closed]
  rfl

theorem understood_ofChars (text : List Char) : Understood text (ofChars text) := by
  cases opened : Text.findFolded? "select".toList text with
  | none =>
    rw [ofChars_of_missing (.inl opened)]
    exact .passthrough (.inl ((Text.findFolded?_eq_none_iff _ _).mp opened))
  | some opening =>
    cases closed : Text.findFolded? "from".toList text with
    | none =>
      rw [ofChars_of_missing (.inr closed)]
      exact .passthrough (.inr ((Text.findFolded?_eq_none_iff _ _).mp closed))
    | some closing =>
      rw [ofChars_of_found opened closed]
      refine .select ((Text.find?_eq_some_iff _ _ _).mp opened) ((Text.find?_eq_some_iff _ _ _).mp closed) ?_ ?_
      · intro names read
        have absent : Text.Avoids "from".toList (text.take closing) := Text.avoids_take keyword_from.written closed
        exact namesWithin_of_projection read (absent.mono (List.drop_suffix _ _).isInfix)
      · intro test read
        obtain ⟨place, conditioned, words⟩ := Option.bind_eq_some_iff.mp read
        obtain ⟨condition, stands, rfl⟩ := Option.map_eq_some_iff.mp conditioned
        exact ⟨condition, (Text.find?_eq_some_iff _ _ _).mp stands, testWithin_of_filter? words⟩

/-- Each octet at which a text is cut stands between two characters or at an end of the text, and what is cut
there is read as the query. -/
structure CutBetweenCharacters (text : String) : Prop where
  selectEnd : ∀ place ∈ (octetKeywords text).selectEnd, String.Pos.Raw.IsValid text ⟨place⟩
  fromStart : ∀ place ∈ (octetKeywords text).fromStart, String.Pos.Raw.IsValid text ⟨place⟩
  whereEnd : ∀ place ∈ (octetKeywords text).whereEnd, String.Pos.Raw.IsValid text ⟨place⟩
  read : parseOctets? text = some (parse text)

theorem isValid_of_mem_map {text : String} {found : Option Nat} :
    ∀ place ∈ found.map (Text.octetsBefore text.toList), String.Pos.Raw.IsValid text ⟨place⟩ := by
  intro place member
  obtain ⟨before, _, rfl⟩ := Option.map_eq_some_iff.mp member
  exact Text.isValid_octetsBefore text before

/-- Every text can be cut where its keywords are found, and what is captured of it are parts that stand in order. -/
theorem parse_understood (text : String) : CutBetweenCharacters text ∧ Understood text.toList (parse text) := by
  constructor
  · refine ⟨?_, ?_, ?_, parseOctets?_eq text⟩
    all_goals
      rw [octetKeywords_eq]
      exact isValid_of_mem_map
  · rw [parse]
    exact understood_ofChars text.toList

/-- Keywords stand within other words, too. -/
example : parse "Selected_From" = .select (.columns ["ed_"]) none := by decide

/-! ## Text behind a query -/

theorem endOf?_append {word text : List Char} {place : Nat} (found : endOf? word text = some place)
    (more : List Char) : endOf? word (text ++ more) = some place := by
  obtain ⟨start, stands, rfl⟩ := Option.map_eq_some_iff.mp found
  rw [endOf?, Text.findFolded?_append stands]
  rfl

theorem filter?_append_blank {clause : List Char} {test : Filter} (read : filter? clause = some test) {c : Char}
    (blank : Text.isBlank c = true) (rest : List Char) : filter? (clause ++ c :: rest) = some test := by
  rw [filter?] at read
  split at read
  next words => rwa [filter?, Text.words_append_blank blank, words]
  next => cases read

theorem ofChars_append_blank {text : List Char} {columns : Projection} {test : Filter}
    (read : ofChars text = .select columns (some test)) {c : Char} (blank : Text.isBlank c = true) (rest : List Char) :
    ofChars (text ++ c :: rest) = .select columns (some test) := by
  cases opened : Text.findFolded? "select".toList text with
  | none => cases read.symm.trans (ofChars_of_missing (.inl opened))
  | some opening =>
    cases closed : Text.findFolded? "from".toList text with
    | none => cases read.symm.trans (ofChars_of_missing (.inr closed))
    | some closing =>
      rw [ofChars_of_found opened closed, Query.select.injEq] at read
      obtain ⟨rfl, tested⟩ := read
      obtain ⟨place, conditioned, words⟩ := Option.bind_eq_some_iff.mp tested
      have clause : slice (text ++ c :: rest) (opening + "select".toList.length) closing =
          slice text (opening + "select".toList.length) closing := by
        have fits := Text.findFolded?_end_le keyword_from.written closed
        rw [slice, slice, List.take_append_of_le_length (by omega)]
      have condition : (text ++ c :: rest).drop place = text.drop place ++ c :: rest :=
        List.drop_append_of_le_length (endOf?_le keyword_where.written conditioned)
      rw [ofChars_of_found (Text.findFolded?_append opened _) (Text.findFolded?_append closed _), clause,
        endOf?_append conditioned, Option.bind_some, condition, filter?_append_blank words blank]

/-- Whatever stands behind a query with a comparison, and a blank, makes no difference. -/
theorem parse_append_blank {text : String} {columns : Projection} {test : Filter}
    (read : parse text = .select columns (some test)) {c : Char} (blank : Text.isBlank c = true) (rest : String) :
    parse (text ++ String.singleton c ++ rest) = parse text ∧
      ∀ rows, run (text ++ String.singleton c ++ rest) rows = run text rows := by
  have same : parse (text ++ String.singleton c ++ rest) = parse text := by
    have characters : (text ++ String.singleton c ++ rest).toList = text.toList ++ c :: rest.toList := by simp
    rw [read, parse, characters]
    exact ofChars_append_blank read blank rest.toList
  refine ⟨same, ?_⟩
  intro rows
  rw [run, run, same]

theorem parse_append_blank_unusualOrder :
    parse "where Größe > 1 fromselect" = .select (.columns []) (some ⟨"Größe", .greater, "1"⟩) ∧
      parse "where Größe > 1 fromselect\tselect a from t where b = 2" =
        .select (.columns []) (some ⟨"Größe", .greater, "1"⟩) := by
  have read : parse "where Größe > 1 fromselect" = .select (.columns []) (some ⟨"Größe", .greater, "1"⟩) := by decide
  have same := (parse_append_blank read (c := '\t') (by decide) "select a from t where b = 2").1
  rw [read] at same
  exact ⟨read, same⟩

end Query

end RowQuery
