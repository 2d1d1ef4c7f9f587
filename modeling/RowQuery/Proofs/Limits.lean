import Mathlib.Order.Bounds.Basic
import RowQuery.Table.Basic

/-!
# Limits on the rows of a table

A limit keeps the first rows of a table, as many as there are or as it allows, whichever is less; zero allows
any number (`isLeast_length_limit`). Limits that are applied one after another therefore leave as many rows as
the smallest of them allows that is not zero (`isLeast_length_leftBy`), in whatever order they come, while what
each of them tells depends on the ones before it (`limitedInTurn_leftBy`).
-/

namespace RowQuery

namespace Table

/-! ## One limit -/

section
variable (table : Table) (most : Nat)

theorem rows_limit : (table.limit most).table.rows = if most = 0 then table.rows else table.rows.take most := by
  rw [limit]
  by_cases zero : most = 0
  · subst zero
    rfl
  · rw [if_neg zero]
    split
    next => rfl
    next all =>
      have few : table.rows.length ≤ most := by omega
      exact (List.take_of_length_le few).symm

theorem columns_limit : (table.limit most).table.columns = table.columns := by
  rw [limit]
  split <;> rfl

theorem total_limit : (table.limit most).total = table.rows.length := by
  rw [limit]
  split <;> rfl

theorem truncated_limit_iff :
    (table.limit most).truncated = true ↔ (table.limit most).table.rows.length < table.rows.length := by
  rw [limit]
  split
  next dropped => simp [dropped.2]
  next => simp

theorem rows_limit_prefix : (table.limit most).table.rows <+: table.rows := by
  rw [rows_limit]
  split
  · exact List.prefix_rfl
  · exact List.take_prefix most table.rows

/-- As many rows are left as there were or as the limit allows, unless it is zero, whichever is less. -/
theorem isLeast_length_limit :
    IsLeast {count | count = table.rows.length ∨ count = most ∧ most ≠ 0} (table.limit most).table.rows.length := by
  rw [rows_limit]
  by_cases zero : most = 0
  · rw [if_pos zero]
    refine ⟨.inl rfl, ?_⟩
    rintro count (rfl | ⟨-, set⟩)
    · exact Nat.le_refl _
    · exact absurd zero set
  · rw [if_neg zero, List.length_take]
    constructor
    · rcases Nat.le_total most table.rows.length with fewer | more
      · exact .inr ⟨Nat.min_eq_left fewer, zero⟩
      · exact .inl (Nat.min_eq_right more)
    · rintro count (rfl | ⟨rfl, -⟩)
      · exact Nat.min_le_right _ _
      · exact Nat.min_le_left _ _

end

/-! ## Limits in turn -/

/-- The table that limits leave, applied one after another. -/
def leftBy (table : Table) (limits : List Nat) : Table :=
  limits.foldl (fun left most => (left.limit most).table) table

/-- The outcomes of limits that are applied one after another, each to what the ones before it have left. -/
def limitEach (table : Table) : List Nat → List Limited
  | [] => []
  | most :: later => table.limit most :: (table.limit most).table.limitEach later

section
variable (table : Table) (limits : List Nat)

@[simp]
theorem leftBy_nil : table.leftBy [] = table := rfl

@[simp]
theorem leftBy_cons (most : Nat) : table.leftBy (most :: limits) = (table.limit most).table.leftBy limits := rfl

theorem leftBy_concat (most : Nat) : table.leftBy (limits ++ [most]) = ((table.leftBy limits).limit most).table := by
  rw [leftBy, List.foldl_append]
  rfl

theorem columns_leftBy : (table.leftBy limits).columns = table.columns := by
  induction limits generalizing table with
  | nil => rfl
  | cons most later ih => exact (ih (table.limit most).table).trans (table.columns_limit most)

theorem rows_leftBy_prefix : (table.leftBy limits).rows <+: table.rows := by
  induction limits generalizing table with
  | nil => exact List.prefix_rfl
  | cons most later ih => exact (ih (table.limit most).table).trans (table.rows_limit_prefix most)

theorem rows_leftBy : (table.leftBy limits).rows = table.rows.take (table.leftBy limits).rows.length :=
  List.prefix_iff_eq_take.mp (table.rows_leftBy_prefix limits)

/-- As many rows are left as there were or as one of the limits allows that are not zero, whichever is least. -/
theorem isLeast_length_leftBy :
    IsLeast {count | count = table.rows.length ∨ count ∈ limits ∧ count ≠ 0} (table.leftBy limits).rows.length := by
  induction limits generalizing table with
  | nil =>
    refine ⟨.inl rfl, ?_⟩
    rintro count (rfl | ⟨among, -⟩)
    · exact Nat.le_refl _
    · cases among
  | cons most later ih =>
    obtain ⟨reachedFirst, leastFirst⟩ := table.isLeast_length_limit most
    obtain ⟨reached, least⟩ := ih (table.limit most).table
    rw [leftBy_cons]
    -- For the later limits the first one stands in as the length of what it has left.
    constructor
    · rcases reached with same | ⟨among, set⟩
      · rw [same]
        rcases reachedFirst with whole | ⟨allowed, set⟩
        · exact .inl whole
        · rw [allowed]
          exact .inr ⟨List.mem_cons_self, set⟩
      · exact .inr ⟨List.mem_cons_of_mem _ among, set⟩
    · rintro count (rfl | ⟨among, set⟩)
      · exact (least (.inl rfl)).trans (leastFirst (.inl rfl))
      · rcases List.mem_cons.mp among with rfl | among
        · exact (least (.inl rfl)).trans (leastFirst (.inr ⟨rfl, set⟩))
        · exact least (.inr ⟨among, set⟩)

theorem length_limitEach : (table.limitEach limits).length = limits.length := by
  induction limits generalizing table with
  | nil => rfl
  | cons most later ih => exact congrArg (· + 1) (ih (table.limit most).table)

theorem getElem?_limitEach (place : Nat) :
    (table.limitEach limits)[place]? = limits[place]?.map (table.leftBy (limits.take place)).limit := by
  induction limits generalizing table place with
  | nil => rfl
  | cons most later ih =>
    cases place with
    | zero => rfl
    | succ place => exact ih (table.limit most).table place

theorem exists_truncated_iff :
    (∃ outcome ∈ table.limitEach limits, outcome.truncated = true) ↔
      (table.leftBy limits).rows.length < table.rows.length := by
  induction limits generalizing table with
  | nil => simp [limitEach]
  | cons most later ih =>
    have fewer := (table.rows_limit_prefix most).length_le
    have fewest := ((table.limit most).table.rows_leftBy_prefix later).length_le
    simp only [limitEach, List.mem_cons, exists_eq_or_imp]
    rw [ih, truncated_limit_iff, leftBy_cons]
    omega

end

/-! ## Their outcomes together -/

/-- Limits that are applied one after another to a table, as a whole. -/
structure LimitedInTurn (table : Table) (limits : List Nat) : Prop where
  unlimited : (∀ most ∈ limits, most = 0) → (table.leftBy limits).rows = table.rows
  limited : ∀ least, IsLeast {most | most ∈ limits ∧ most ≠ 0} least →
    (table.leftBy limits).rows = table.rows.take (min table.rows.length least)
  columns : (table.leftBy limits).columns = table.columns
  number : (table.limitEach limits).length = limits.length
  told : ∀ place outcome, (table.limitEach limits)[place]? = some outcome →
    let before := table.leftBy (limits.take place)
    outcome.table = table.leftBy (limits.take (place + 1)) ∧ outcome.total = before.rows.length ∧
      (outcome.truncated = true ↔ outcome.table.rows.length < before.rows.length)
  reordered : ∀ others : List Nat, others.Perm limits → (table.leftBy others).rows = (table.leftBy limits).rows
  dropped : (∃ outcome ∈ table.limitEach limits, outcome.truncated = true) ↔
    (table.leftBy limits).rows.length < table.rows.length

/-- Limits that are applied one after another leave what the smallest of them would that is not zero, and each tells
of what it found. -/
theorem limitedInTurn_leftBy (table : Table) (limits : List Nat) : LimitedInTurn table limits where
  unlimited := by
    intro zero
    rcases (table.isLeast_length_leftBy limits).1 with whole | ⟨among, set⟩
    · exact (table.rows_leftBy_prefix limits).eq_of_length whole
    · exact absurd (zero _ among) set
  limited := by
    rintro least ⟨allowed, smallest⟩
    obtain ⟨reached, lower⟩ := table.isLeast_length_leftBy limits
    have count : (table.leftBy limits).rows.length = min table.rows.length least := by
      apply Nat.le_antisymm
      · exact Nat.le_min.mpr ⟨lower (.inl rfl), lower (.inr allowed)⟩
      · rcases reached with whole | among
        · rw [whole]
          exact Nat.min_le_left _ _
        · exact (Nat.min_le_right _ _).trans (smallest among)
    rw [rows_leftBy, count]
  columns := table.columns_leftBy limits
  number := table.length_limitEach limits
  told := by
    intro place outcome found
    rw [getElem?_limitEach, Option.map_eq_some_iff] at found
    obtain ⟨most, here, rfl⟩ := found
    refine ⟨?_, total_limit _ _, truncated_limit_iff _ _⟩
    rw [List.take_add_one, here, Option.toList_some, leftBy_concat]
  reordered := by
    intro others same
    have least := table.isLeast_length_leftBy others
    simp only [same.mem_iff] at least
    rw [rows_leftBy, least.unique (table.isLeast_length_leftBy limits), ← rows_leftBy]
  dropped := table.exists_truncated_iff limits

example :
    ((⟨[], List.replicate 5 []⟩ : Table).limitEach [3, 0, 4, 2]).map (fun outcome => (outcome.total, outcome.truncated)) =
      [(5, true), (3, false), (3, false), (3, true)] := rfl

end Table

end RowQuery
