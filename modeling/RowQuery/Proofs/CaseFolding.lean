import Mathlib
import RowQuery.Proofs.Cutting
import RowQuery.Proofs.Searching
import RowQuery.Query.Parser

/-!
# Queries in another letter case

Lower case makes no letter into a blank, a comma or any other mark, and no mark into a letter. So a text in
lower case is trimmed and cut where the text itself is, and the keywords stand where they stood: it is read
as the text itself, with what is captured of it in lower case. Two texts that differ only in letter case are
therefore read alike (`parse_toLower`).
-/

namespace RowQuery

/-! ## Characters -/

/-- Only a mark itself is that mark in lower case. -/
theorem toLower_eq_iff {mark : Char} (noLetter : mark.isAlpha = false) (c : Char) : c.toLower = mark ↔ c = mark := by
  by_cases letter : c.isAlpha = true
  · have other : ∀ d : Char, d.isAlpha = true → d ≠ mark := by
      rintro d isLetter rfl
      exact Bool.false_ne_true (noLetter.symm.trans isLetter)
    have lowered : c.toLower.isAlpha = true := by rwa [Char.isAlpha_toLower_eq_isAlpha]
    exact iff_of_false (other c.toLower lowered) (other c letter)
  · have notUpper : ¬c.isUpper = true := fun upper => letter (by rw [Char.isAlpha, upper, Bool.true_or])
    rw [Char.toLower_eq_of_not_isUpper notUpper]

theorem isBlank_toLower (c : Char) : Text.isBlank c.toLower = Text.isBlank c := by
  rw [Bool.eq_iff_iff]
  simp only [Text.isBlank, Text.toNat_toLower, Bool.or_eq_true, Bool.and_eq_true, decide_eq_true_eq, beq_iff_eq]
  split <;> omega

/-! ## Texts -/

namespace Text

@[simp]
theorem foldCase_foldCase (text : List Char) : foldCase (foldCase text) = foldCase text := by
  simp [foldCase]

theorem foldCase_eq_singleton {mark : Char} (noLetter : mark.isAlpha = false) {text : List Char} :
    foldCase text = [mark] ↔ text = [mark] := by
  rw [foldCase, List.map_eq_singleton_iff]
  constructor
  · rintro ⟨c, rfl, same⟩
    rw [(toLower_eq_iff noLetter c).mp same]
  · rintro rfl
    exact ⟨mark, rfl, (toLower_eq_iff noLetter mark).mpr rfl⟩

theorem findFolded?_foldCase (word text : List Char) : findFolded? word (foldCase text) = findFolded? word text := by
  rw [findFolded?, foldCase_foldCase, findFolded?]

theorem trim_foldCase (text : List Char) : trim (foldCase text) = foldCase (trim text) := by
  have same : isBlank ∘ Char.toLower = isBlank := funext isBlank_toLower
  simp only [trim, trimEnd, trimStart, foldCase, List.dropWhile_map, ← List.map_reverse, same]

theorem splitOn_foldCase {mark : Char} (noLetter : mark.isAlpha = false) (text : List Char) :
    (foldCase text).splitOn mark = (text.splitOn mark).map foldCase := by
  have same : (· == mark) ∘ Char.toLower = (· == mark) := by
    funext c
    rw [Bool.eq_iff_iff, Function.comp_apply, beq_iff_eq, beq_iff_eq, toLower_eq_iff noLetter]
  rw [List.splitOn, foldCase, splitOnP_map, same]
  rfl

theorem words_foldCase (text : List Char) : words (foldCase text) = (words text).map foldCase := by
  have same : isBlank ∘ Char.toLower = isBlank := funext isBlank_toLower
  rw [words, foldCase, splitOnP_map, same, List.filter_map, words]
  congr 1
  exact List.filter_congr fun word _ => by simp

theorem toLower_ofList (text : List Char) : (String.ofList text).toLower = String.ofList (foldCase text) := by
  rw [← String.toList_inj, String.toLower, String.toList_map, String.toList_ofList, String.toList_ofList, foldCase]

theorem sameButCase_iff (s other : String) : sameButCase s other = true ↔ s.toLower = other.toLower := by
  rw [sameButCase, beq_iff_eq, ← String.toList_inj, String.toLower, String.toLower, String.toList_map,
    String.toList_map, foldCase, foldCase]

end Text

/-! ## Queries in lower case -/

/-- A comparison with its token in lower case, if it is kept. -/
def Comparison.toLower : Comparison → Comparison
  | .equal => .equal
  | .greater => .greater
  | .less => .less
  | .unsupported token => .unsupported token.toLower

/-- A filter with all of its texts in lower case. -/
def Filter.toLower (filter : Filter) : Filter := ⟨filter.field.toLower, filter.op.toLower, filter.value.toLower⟩

/-- A projection with its names in lower case. -/
def Projection.toLower : Projection → Projection
  | .all => .all
  | .columns names => .columns (names.map String.toLower)

/-- A query with all of its texts in lower case. -/
def Query.toLower : Query → Query
  | .passthrough => .passthrough
  | .select projection filter => .select projection.toLower (filter.map Filter.toLower)

/-- Comparisons of one kind; the tokens of unsupported ones differ at most in letter case. -/
inductive Comparison.Alike : Comparison → Comparison → Prop
  | equal : Alike .equal .equal
  | greater : Alike .greater .greater
  | less : Alike .less .less
  | unsupported {token other : String} (same : Text.sameButCase token other = true) :
      Alike (.unsupported token) (.unsupported other)

/-- Filters whose texts differ at most in letter case. -/
structure Filter.Alike (filter other : Filter) : Prop where
  field : Text.sameButCase filter.field other.field = true
  op : filter.op.Alike other.op
  value : Text.sameButCase filter.value other.value = true

/-- Projections to all columns, or to as many columns whose names differ at most in letter case. -/
inductive Projection.Alike : Projection → Projection → Prop
  | all : Alike .all .all
  | columns {names others : List String}
      (same : List.Forall₂ (fun name other => Text.sameButCase name other = true) names others) :
      Alike (.columns names) (.columns others)

/-- Queries of one form that differ at most in the letter case of their texts. -/
inductive Query.Alike : Query → Query → Prop
  | passthrough : Alike .passthrough .passthrough
  | select {projection other : Projection} {filter further : Option Filter} (columns : projection.Alike other)
      (tests : Option.Rel Filter.Alike filter further) : Alike (.select projection filter) (.select other further)

theorem Comparison.alike_of_toLower_eq {op other : Comparison} (same : op.toLower = other.toLower) :
    op.Alike other := by
  cases op <;> cases other <;> simp_all [Comparison.toLower]
  case equal.equal => exact .equal
  case greater.greater => exact .greater
  case less.less => exact .less
  case unsupported.unsupported token other => exact .unsupported ((Text.sameButCase_iff token other).mpr same)

theorem Filter.alike_of_toLower_eq {filter other : Filter} (same : filter.toLower = other.toLower) :
    filter.Alike other := by
  rw [Filter.toLower, Filter.toLower, Filter.mk.injEq] at same
  obtain ⟨field, op, value⟩ := same
  exact ⟨(Text.sameButCase_iff _ _).mpr field, Comparison.alike_of_toLower_eq op, (Text.sameButCase_iff _ _).mpr value⟩

theorem Projection.alike_of_toLower_eq {projection other : Projection} (same : projection.toLower = other.toLower) :
    projection.Alike other := by
  cases projection <;> cases other <;> simp only [Projection.toLower, reduceCtorEq, Projection.columns.injEq] at same
  case all.all => exact .all
  case columns.columns names others =>
    rw [← List.forall₂_eq_eq_eq, List.forall₂_map_left_iff, List.forall₂_map_right_iff] at same
    exact .columns (same.imp fun name other => (Text.sameButCase_iff name other).mpr)

theorem Query.alike_of_toLower_eq {query other : Query} (same : query.toLower = other.toLower) :
    query.Alike other := by
  cases query <;> cases other <;> simp only [Query.toLower, reduceCtorEq, Query.select.injEq] at same
  case passthrough.passthrough => exact .passthrough
  case select.select projection filter other further =>
    obtain ⟨columns, tests⟩ := same
    refine .select (Projection.alike_of_toLower_eq columns) ?_
    cases filter <;> cases further <;> simp only [Option.map_none, Option.map_some, reduceCtorEq, Option.some.injEq] at tests
    case none.none => exact .none
    case some.some test against => exact .some (Filter.alike_of_toLower_eq tests)

/-! ## Reading -/

theorem Comparison.ofToken_toLower (token : String) :
    Comparison.ofToken token.toLower = (Comparison.ofToken token).toLower := by
  have same (mark : Char) (noLetter : mark.isAlpha = false) :
      token.toLower = String.singleton mark ↔ token = String.singleton mark := by
    rw [← String.toList_inj, ← String.toList_inj, String.toLower, String.toList_map, String.toList_singleton]
    exact Text.foldCase_eq_singleton noLetter
  have equal : token.toLower = "=" ↔ token = "=" := same '=' (by decide)
  have greater : token.toLower = ">" ↔ token = ">" := same '>' (by decide)
  have less : token.toLower = "<" ↔ token = "<" := same '<' (by decide)
  rw [Comparison.ofToken, Comparison.ofToken]
  simp only [equal, greater, less]
  split_ifs <;> rfl

namespace Query

theorem keywords_foldCase (text : List Char) : keywords (Text.foldCase text) = keywords text := by
  simp only [keywords, endOf?, Text.findFolded?_foldCase]

theorem slice_foldCase (text : List Char) (start stop : Nat) :
    slice (Text.foldCase text) start stop = Text.foldCase (slice text start stop) := by
  rw [slice, slice, Text.foldCase, Text.foldCase, List.map_drop, List.map_take]

theorem projection_foldCase (clause : List Char) :
    projection (Text.foldCase clause) = (projection clause).toLower := by
  rw [projection, projection, Text.trim_foldCase]
  split
  next blank =>
    rw [List.map_eq_nil_iff.mp blank]
    rfl
  next star =>
    rw [(Text.foldCase_eq_singleton (by decide)).mp star]
    rfl
  next some notStar =>
    split
    next blank => exact absurd (congrArg Text.foldCase blank) some
    next star => exact absurd (congrArg Text.foldCase star) notStar
    next =>
      rw [Projection.toLower, Text.splitOn_foldCase (by decide), List.map_map, List.map_map]
      congr 1
      refine List.map_congr_left fun name _ => ?_
      rw [Function.comp_apply, Function.comp_apply, Text.trim_foldCase, Text.toLower_ofList]

theorem filter?_foldCase (clause : List Char) :
    filter? (Text.foldCase clause) = (filter? clause).map Filter.toLower := by
  rw [filter?, filter?, Text.words_foldCase]
  match Text.words clause with
  | [] | [_] | [_, _] => rfl
  | field :: op :: value :: rest =>
    simp only [List.map_cons, Option.map_some, Filter.toLower, Text.toLower_ofList, ← Comparison.ofToken_toLower]

theorem ofChars_foldCase (text : List Char) : ofChars (Text.foldCase text) = (ofChars text).toLower := by
  rw [ofChars, ofChars, keywords_foldCase]
  cases (keywords text).selectEnd with
  | none => rfl
  | some start =>
    cases (keywords text).fromStart with
    | none => rfl
    | some stop =>
      dsimp only
      rw [Query.toLower, slice_foldCase, projection_foldCase]
      congr 1
      cases (keywords text).whereEnd with
      | none => rfl
      | some place =>
        rw [Option.bind_some, Option.bind_some, ← filter?_foldCase, Text.foldCase, Text.foldCase, List.map_drop]

/-- A text in lower case is read as the text itself, with what is captured of it in lower case; so texts that
differ only in letter case are read as queries that differ only in the letter case of what is captured. -/
theorem parse_toLower (text : String) :
    parse text.toLower = (parse text).toLower ∧
      ∀ other, Text.sameButCase text other = true → (parse text).Alike (parse other) := by
  have lowered (s : String) : parse s.toLower = (parse s).toLower := by
    rw [parse, parse, String.toLower, String.toList_map]
    exact ofChars_foldCase s.toList
  refine ⟨lowered text, ?_⟩
  intro other same
  apply alike_of_toLower_eq
  rw [← lowered, ← lowered, (Text.sameButCase_iff text other).mp same]

theorem parse_toLower_mixedCase :
    Text.sameButCase "SELECT Größe, ID frOM t WHERE ID LIKE X" "select größe, id From T where Id like X" = true ∧
      parse "SELECT Größe, ID frOM t WHERE ID LIKE X" =
        .select (.columns ["Größe", "ID"]) (some ⟨"ID", .unsupported "LIKE", "X"⟩) ∧
      parse "select größe, id from t where id like x" =
        .select (.columns ["größe", "id"]) (some ⟨"id", .unsupported "like", "x"⟩) ∧
      (parse "SELECT Größe, ID frOM t WHERE ID LIKE X").Alike (parse "select größe, id From T where Id like X") := by
  have same : Text.sameButCase "SELECT Größe, ID frOM t WHERE ID LIKE X" "select größe, id From T where Id like X" =
      true := by decide
  have read : parse "SELECT Größe, ID frOM t WHERE ID LIKE X" =
      .select (.columns ["Größe", "ID"]) (some ⟨"ID", .unsupported "LIKE", "X"⟩) := by decide
  have text : "SELECT Größe, ID frOM t WHERE ID LIKE X".toLower = "select größe, id from t where id like x" := by
    decide +kernel
  have query : (select (.columns ["Größe", "ID"]) (some ⟨"ID", .unsupported "LIKE", "X"⟩)).toLower =
      .select (.columns ["größe", "id"]) (some ⟨"id", .unsupported "like", "x"⟩) := by decide +kernel
  obtain ⟨lowered, alike⟩ := parse_toLower "SELECT Größe, ID frOM t WHERE ID LIKE X"
  rw [read, text, query] at lowered
  exact ⟨same, read, lowered, alike _ same⟩

end Query

end RowQuery
