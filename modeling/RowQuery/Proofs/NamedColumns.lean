import RowQuery.Proofs.Evaluation

/-!
# Queries that name their columns

Of a row, such a query looks at the cells in the columns that it names and at the cell that its filter tests.
Rows that agree on these get the same answer, whatever else they hold and in whatever order they hold it
(`evaluate_of_agree`). The rows of an answer agree with the rows that were asked on the columns that are
shown, so asking the answer once more gives the answer again, unless the filter tests a cell that is no longer
there (`evaluate_evaluate`).
-/

namespace RowQuery

/-- Rows that have the same under each of some names: equal cells, or none. -/
def Row.AgreeOn (names : List String) (row other : Row) : Prop :=
  ∀ name ∈ names, row.get? name = other.get? name

theorem Row.AgreeOn.mono {few many : List String} {row other : Row} (agree : row.AgreeOn many other)
    (among : ∀ name ∈ few, name ∈ many) : row.AgreeOn few other :=
  fun name member => agree name (among name member)

/-! ## What is looked at -/

namespace Filter

/-- The column that is tested, if there is a filter. -/
def tested (filter : Option Filter) : List String := (filter.map Filter.field).toList

theorem accepts_congr {test : Filter} {row other : Row} (same : row.get? test.field = other.get? test.field) :
    test.accepts row = test.accepts other := by
  rw [accepts, accepts, same]

theorem passes_congr {filter : Option Filter} {row other : Row} (agree : row.AgreeOn (tested filter) other) :
    passes filter row = passes filter other := by
  cases filter with
  | none => rfl
  | some test => exact accepts_congr (agree test.field (by simp [tested]))

end Filter

theorem project_congr {columns : List String} {row other : Row} (agree : row.AgreeOn columns other) :
    row.project columns = other.project columns := by
  rw [Row.project, Row.project]
  congr 1
  refine List.filterMap_congr ?_
  intro column listed
  rw [agree column listed]

/-- Rows that agree, one by one, on the columns that a query names and tests get the same answer from it. -/
theorem evaluate_of_agree {columns : List String} {filter : Option Filter} {rows others : List Row}
    (agree : List.Forall₂ (Row.AgreeOn (columns ++ Filter.tested filter)) rows others) :
    (Query.select (.columns columns) filter).evaluate rows =
      (Query.select (.columns columns) filter).evaluate others := by
  have shown : (rows.filter (Filter.passes filter)).map (Row.project columns) =
      (others.filter (Filter.passes filter)).map (Row.project columns) := by
    induction agree with
    | nil => rfl
    | @cons row other rows others first later ih =>
      have passes : Filter.passes filter row = Filter.passes filter other :=
        Filter.passes_congr (first.mono fun name member => List.mem_append_right _ member)
      have projected : row.project columns = other.project columns :=
        project_congr (first.mono fun name member => List.mem_append_left _ member)
      rw [List.filter_cons, List.filter_cons, passes]
      split
      · rw [List.map_cons, List.map_cons, projected, ih]
      · exact ih
  rw [Query.evaluate, Query.evaluate]
  dsimp only [Projection.columnsOf]
  rw [shown]

/-- Two ragged rows with a cell that is tested but not shown. -/
def shortRows : List Row :=
  [[("b", .null), ("x", .bool true)], [("a", .string "5"), ("b", .string "q")]]

/-- The same cells in another order, among others. -/
def longRows : List Row :=
  [[("y", .array []), ("x", .bool true), ("b", .null)], [("b", .string "q"), ("a", .string "5"), ("y", .null)]]

theorem evaluate_of_agree_longRows :
    List.Forall₂ (Row.AgreeOn (["b", "a", "b"] ++ Filter.tested (some ⟨"x", .less, "7"⟩))) shortRows longRows ∧
      (Query.select (.columns ["b", "a", "b"]) (some ⟨"x", .less, "7"⟩)).evaluate shortRows =
        (Query.select (.columns ["b", "a", "b"]) (some ⟨"x", .less, "7"⟩)).evaluate longRows := by
  have agree : List.Forall₂ (Row.AgreeOn (["b", "a", "b"] ++ Filter.tested (some ⟨"x", .less, "7"⟩)))
      shortRows longRows := by
    simp [shortRows, longRows, Row.AgreeOn, Filter.tested, Keyed.get?]
  exact ⟨agree, evaluate_of_agree agree⟩

/-! ## Asking again -/

/-- A filter that can still be put to rows of which given columns are left: it tests one of them, or it lets
every row pass. -/
def Filter.Answerable (columns : List String) (filter : Option Filter) : Prop :=
  ∀ test ∈ filter, test.field ∈ columns ∨ ∃ token, test.op = .unsupported token

theorem agreeOn_project (columns : List String) (row : Row) : (row.project columns).AgreeOn columns row :=
  (shownUnder_project columns row).cells

/-- Showing the same columns once more changes nothing. -/
theorem project_project (columns : List String) (row : Row) :
    (row.project columns).project columns = row.project columns :=
  project_congr (agreeOn_project columns row)

theorem passes_project {columns : List String} {filter : Option Filter} (answerable : Filter.Answerable columns filter)
    (row : Row) : Filter.passes filter (row.project columns) = Filter.passes filter row := by
  cases filter with
  | none => rfl
  | some test =>
    rcases answerable test rfl with listed | ⟨token, unsupported⟩
    · exact Filter.accepts_congr (agreeOn_project columns row test.field listed)
    · simp [Filter.passes, Filter.accepts, unsupported]

/-- The same rows are kept whether the others are left out before or after the columns. -/
theorem filter_project {columns : List String} {filter : Option Filter} (answerable : Filter.Answerable columns filter)
    (rows : List Row) :
    (rows.map (Row.project columns)).filter (Filter.passes filter) =
      (rows.filter (Filter.passes filter)).map (Row.project columns) := by
  rw [List.filter_map]
  congr 1
  refine List.filter_congr ?_
  intro row _
  exact passes_project answerable row

/-- A query that is put to its own answer gives it again, and its filter keeps the same rows of the shown
columns as of the whole rows. -/
theorem evaluate_evaluate {columns : List String} {filter : Option Filter}
    (answerable : Filter.Answerable columns filter) (rows : List Row) :
    (Query.select (.columns columns) filter).evaluate ((Query.select (.columns columns) filter).evaluate rows).rows =
        (Query.select (.columns columns) filter).evaluate rows ∧
      (rows.map (Row.project columns)).filter (Filter.passes filter) =
        (rows.filter (Filter.passes filter)).map (Row.project columns) := by
  refine ⟨?_, filter_project answerable rows⟩
  have again : ((rows.filter (Filter.passes filter)).map (Row.project columns)).map (Row.project columns) =
      (rows.filter (Filter.passes filter)).map (Row.project columns) := by
    rw [List.map_map]
    refine List.map_congr_left ?_
    intro row _
    exact project_project columns row
  rw [Query.evaluate, Query.evaluate]
  dsimp only [Projection.columnsOf]
  rw [filter_project answerable, List.filter_filter]
  simp only [Bool.and_self, again]

/-- Columns that no row has as they are asked for: one is named twice, and one is in none of them. -/
def oddColumns : List String := ["b", "none", "b"]

theorem evaluate_evaluate_oddColumns :
    Filter.Answerable oddColumns (some ⟨"b", .less, "5"⟩) ∧
      (Query.select (.columns oddColumns) (some ⟨"b", .less, "5"⟩)).evaluate
          ((Query.select (.columns oddColumns) (some ⟨"b", .less, "5"⟩)).evaluate longRows).rows =
        (Query.select (.columns oddColumns) (some ⟨"b", .less, "5"⟩)).evaluate longRows ∧
      (longRows.map (Row.project oddColumns)).filter (Filter.passes (some ⟨"b", .less, "5"⟩)) =
        (longRows.filter (Filter.passes (some ⟨"b", .less, "5"⟩))).map (Row.project oddColumns) := by
  have answerable : Filter.Answerable oddColumns (some ⟨"b", .less, "5"⟩) := by
    simp [Filter.Answerable, oddColumns]
  exact ⟨answerable, evaluate_evaluate answerable longRows⟩

end RowQuery
