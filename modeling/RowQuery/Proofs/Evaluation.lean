import Mathlib.Data.List.FinRange
import Mathlib.Data.List.Forall2
import RowQuery.Proofs.Keyed
import RowQuery.Query.Evaluate

/-!
# What a selection makes of rows

Of the cells of a row, those that are asked for are found again as they were, and no others; they stand
in the order in which their names are first asked for, however often a name is repeated
(`shownUnder_project`). Of the rows, those that pass the filter are shown in this way, each once and in
the order in which they stand (`selects_evaluate`).
-/

namespace RowQuery

/-! ## One row -/

theorem get?_project (columns : List String) (row : Row) (column : String) :
    (row.project columns).get? column = if column ∈ columns then row.get? column else none :=
  Keyed.get?_ofPairs_filterMap row.get? columns column

theorem textOf_project {columns : List String} {column : String} (listed : column ∈ columns) (row : Row) :
    (row.project columns).textOf column = row.textOf column := by
  rw [Row.textOf, get?_project, if_pos listed, Row.textOf]

theorem mem_keys_project (columns : List String) (row : Row) (column : String) :
    column ∈ (row.project columns).keys ↔ column ∈ columns ∧ column ∈ row.keys := by
  rw [← Keyed.has_iff_mem_keys, ← Keyed.has_iff_mem_keys, Keyed.has, Keyed.has, get?_project]
  by_cases listed : column ∈ columns <;> simp [listed]

/-- One more name puts in the cell that the row has under it, if it has one. -/
theorem project_concat (columns : List String) (column : String) (row : Row) :
    row.project (columns ++ [column]) =
      match row.get? column with
      | some value => (row.project columns).put column value
      | none => row.project columns := by
  rw [Row.project, List.filterMap_append, List.filterMap_cons, List.filterMap_nil]
  cases row.get? column with
  | none => simp [Row.project]
  | some value => exact Keyed.ofPairs_concat _ column value

/-- What is shown of a row under given names: the cells that it has under them, as they are, each once and
in the order in which the names come up first. -/
structure ShownUnder (columns : List String) (row shown : Row) : Prop where
  named : ∀ column, column ∈ shown.keys ↔ column ∈ columns ∧ column ∈ row.keys
  ordered : shown.keys.Pairwise fun early late => columns.idxOf early < columns.idxOf late
  cells : ∀ column ∈ columns, shown.get? column = row.get? column

theorem ordered_project (columns : List String) (row : Row) :
    (row.project columns).keys.Pairwise fun early late => columns.idxOf early < columns.idxOf late := by
  induction columns using List.reverseRecOn with
  | nil => exact List.Pairwise.nil
  | append_singleton columns column ih =>
    have before : ∀ name ∈ (row.project columns).keys, name ∈ columns := fun name among =>
      ((mem_keys_project columns row name).mp among).1
    -- the names that were there are still found first where they were
    have kept : (row.project columns).keys.Pairwise fun early late =>
        (columns ++ [column]).idxOf early < (columns ++ [column]).idxOf late := by
      refine ih.imp_of_mem ?_
      intro early late isEarly isLate less
      rwa [List.idxOf_append_of_mem (before early isEarly), List.idxOf_append_of_mem (before late isLate)]
    rw [project_concat]
    cases found : row.get? column with
    | none => exact kept
    | some value =>
      dsimp only
      rw [Keyed.keys_put]
      split
      next => exact kept
      next fresh =>
        have own : column ∈ row.keys := by
          rw [← Keyed.has_iff_mem_keys, Keyed.has, found]
          rfl
        have new : column ∉ columns := fun old => fresh ((mem_keys_project columns row column).mpr ⟨old, own⟩)
        refine List.pairwise_append.mpr ⟨kept, List.pairwise_singleton _ _, ?_⟩
        intro early isEarly late isLate
        rw [List.mem_singleton.mp isLate, List.idxOf_append_of_mem (before early isEarly),
          List.idxOf_append_of_notMem new]
        exact Nat.lt_of_lt_of_le (List.idxOf_lt_length_of_mem (before early isEarly)) (Nat.le_add_right _ _)

theorem shownUnder_project (columns : List String) (row : Row) : ShownUnder columns row (row.project columns) where
  named := mem_keys_project columns row
  ordered := ordered_project columns row
  cells := fun column listed => by rw [get?_project, if_pos listed]

/-! ## All rows -/

/-- The answer that a selection has over rows. The rows that pass the filter, if there is one, stand at
certain places; the answer has one row for each of these places, in the same order. -/
structure Selects (projection : Projection) (filter : Option Filter) (rows : List Row) (answer : Table) : Prop where
  listed : ∀ names, projection = .columns names → answer.columns = names
  first : projection = .all → answer.columns = (rows.head?.map Keyed.keys).getD []
  picked : ∃ places : List (Fin rows.length), places.Pairwise (· < ·) ∧
    (∀ place, place ∈ places ↔ ∀ test ∈ filter, test.accepts rows[place] = true) ∧
    List.Forall₂ (fun place shown => ShownUnder answer.columns rows[place] shown) places answer.rows

/-- The rows that are kept are those at the places at which a row is to be kept. -/
theorem filter_eq_map_places (kept : Row → Bool) (rows : List Row) :
    rows.filter kept =
      ((List.finRange rows.length).filter fun place => kept rows[place]).map fun place => rows[place] := by
  conv_lhs => rw [← List.map_getElem_finRange rows, List.filter_map]
  rfl

theorem passes_iff (filter : Option Filter) (row : Row) :
    Filter.passes filter row = true ↔ ∀ test ∈ filter, test.accepts row = true := by
  cases filter with
  | none => simp [Filter.passes]
  | some test => simp [Filter.passes]

/-- A selection shows the rows that pass, and of each what is asked for. -/
theorem selects_evaluate (projection : Projection) (filter : Option Filter) (rows : List Row) :
    Selects projection filter rows ((Query.select projection filter).evaluate rows) := by
  rw [Query.evaluate]
  refine ⟨?_, ?_, (List.finRange rows.length).filter fun place => Filter.passes filter rows[place], ?_, ?_, ?_⟩
  · rintro names rfl
    rfl
  · rintro rfl
    cases rows <;> rfl
  · exact (List.pairwise_lt_finRange rows.length).filter _
  · intro place
    rw [List.mem_filter, passes_iff]
    exact and_iff_right (List.mem_finRange place)
  · rw [filter_eq_map_places, List.map_map, List.forall₂_map_right_iff]
    exact List.forall₂_same.mpr fun place _ => shownUnder_project _ rows[place]

end RowQuery
