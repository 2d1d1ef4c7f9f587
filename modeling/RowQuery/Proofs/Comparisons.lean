import RowQuery.Proofs.Doubles

/-!
# Which comparisons a cell passes

A cell is tested for equality by one table of conversions and put in order by another. But for null the two
tables agree: a cell equals a text where it is neither before nor behind it (`looselyEqual_eq`). Of the three
comparisons with a value a row therefore passes the one that its order calls for, or none if there is no
order (`passing_of_not_null`), and null, which equals nothing, at most one of the others (`passing_null`).
-/

namespace RowQuery

/-- The comparison that looks for an order. -/
def Comparison.ofOrdering : Ordering → Comparison
  | .lt => .less
  | .eq => .equal
  | .gt => .greater

namespace Filter

/-- The comparisons of a field with a value that a row passes. -/
def passing (row : Row) (field value : String) : List Comparison :=
  [.equal, .greater, .less].filter fun op => accepts ⟨field, op, value⟩ row

/-- How many comparisons with a value pass, by what the cell holds. Numbers and truth values can only be
compared with a value that reads as a number. -/
def Trichotomous (value : String) (passed : List Comparison) : Option Json → Prop
  | none => passed = []
  | some .null => .equal ∉ passed ∧ passed.length ≤ 1
  | some (.string _) | some (.array _) | some (.object _) => ∃ op, passed = [op]
  | some (.number _) | some (.bool _) =>
    if (Query.numericValue value).isNaN then passed = [] else ∃ op, passed = [op]

/-! ## Equality and order -/

theorem unquoted_of_plain {value : String} (plain : '\x27' ∉ value.toList) : unquoted value = value := by
  have kept : value.toList.filter (· != '\x27') = value.toList := by
    refine List.filter_eq_self.mpr ?_
    intro c member
    simpa using fun same : c = '\x27' => plain (same ▸ member)
  rw [unquoted, kept, String.ofList_toList]

theorem beq_eq_compare (s t : String) : (s == t) = (some (compare s t) == some .eq) := by
  rw [Bool.eq_iff_iff]
  simp

theorem cellText_beq_eq_compare (value : Json) (text : String) :
    (value.cellText == text.toList) = (some (compare (String.ofList value.cellText) text) == some .eq) := by
  rw [← beq_eq_compare, Bool.eq_iff_iff, beq_iff_eq, beq_iff_eq]
  constructor
  · intro same
    rw [same, String.ofList_toList]
  · rintro rfl
    exact String.toList_ofList.symm

/-- Whatever is not null equals a text just when it is neither before nor behind it. -/
theorem looselyEqual_eq {cell : Option Json} (shown : cell ≠ some .null) (text : String) :
    looselyEqual cell text = (order cell text == some .eq) := by
  cases cell with
  | none => rfl
  | some value =>
    cases value with
    | null => exact absurd rfl shown
    | bool b => exact beq_eq _ _
    | number n => exact beq_eq _ _
    | string s => exact beq_eq_compare s text
    | array items => exact cellText_beq_eq_compare (.array items) text
    | object members => exact cellText_beq_eq_compare (.object members) text

/-! ## Three comparisons -/

theorem passing_eq (row : Row) (field : String) {value : String} (plain : '\x27' ∉ value.toList) :
    passing row field value =
      (if looselyEqual (row.get? field) value then [.equal] else []) ++
      (if order (row.get? field) value == some .gt then [.greater] else []) ++
      (if order (row.get? field) value == some .lt then [.less] else []) := by
  simp only [passing, List.filter_cons, List.filter_nil, accepts, unquoted_of_plain plain]
  cases looselyEqual (row.get? field) value <;> cases order (row.get? field) value == some .gt <;>
    cases order (row.get? field) value == some .lt <;> rfl

/-- A cell that is not null passes the comparison that its order calls for, and no other. -/
theorem passing_of_not_null {row : Row} {field value : String} (plain : '\x27' ∉ value.toList)
    (shown : row.get? field ≠ some .null) :
    passing row field value = (order (row.get? field) value).toList.map Comparison.ofOrdering := by
  rw [passing_eq row field plain, looselyEqual_eq shown]
  cases order (row.get? field) value with
  | none => rfl
  | some o => cases o <;> rfl

/-- Null does not equal anything, but it is before or behind some values. -/
theorem passing_null {row : Row} {field value : String} (plain : '\x27' ∉ value.toList)
    (null : row.get? field = some .null) :
    .equal ∉ passing row field value ∧ (passing row field value).length ≤ 1 := by
  rw [passing_eq row field plain, null]
  have unequal : looselyEqual (some .null) value = false := rfl
  rw [unequal]
  cases order (some .null) value with
  | none => decide
  | some o => cases o <;> decide

/-- A number is in an order with every value that reads as a number. -/
theorem sole_of_number {x : Float} (number : x.isNaN = false) (value : String) {passed : List Comparison}
    (passes : passed = (orderNumbers x (Query.numericValue value)).toList.map Comparison.ofOrdering) :
    if (Query.numericValue value).isNaN then passed = [] else ∃ op, passed = [op] := by
  subst passes
  split
  next noNumber => rw [(orderNumbers_eq_none_iff x _).mpr (.inr noNumber)]; rfl
  next numeric =>
    cases found : orderNumbers x (Query.numericValue value) with
    | none =>
      rcases (orderNumbers_eq_none_iff x _).mp found with noNumber | noNumber
      · rw [number] at noNumber
        cases noNumber
      · exact absurd noNumber numeric
    | some o => exact ⟨.ofOrdering o, rfl⟩

/-- Of the three comparisons with a value without quotes, a row passes one or none, as its cell demands. -/
theorem trichotomous_passing (row : Row) (field value : String) (plain : '\x27' ∉ value.toList) :
    Trichotomous value (passing row field value) (row.get? field) := by
  have passes (shown : row.get? field ≠ some .null) := passing_of_not_null plain shown
  cases found : row.get? field with
  | none => exact (passes (by simp [found])).trans (by rw [found]; rfl)
  | some cell =>
    rw [found] at passes
    cases cell with
    | null => exact passing_null plain found
    | bool b => exact sole_of_number (isNaN_truthNumber b) value (passes (by simp))
    | number n => exact sole_of_number (isNaN_toFloat n) value (passes (by simp))
    | string s => exact ⟨_, passes (by simp)⟩
    | array items => exact ⟨_, passes (by simp)⟩
    | object members => exact ⟨_, passes (by simp)⟩

/-- A nested list, an integer that is no double, and a truth value. -/
def mixedRow : Row :=
  [("tags", .array [.null, .array [.string "x"]]), ("size", .number (.int 9007199254740993)), ("done", .bool true)]

theorem trichotomous_passing_mixedRow :
    ('\x27' ∉ ",x".toList ∧ ∃ op, passing mixedRow "tags" ",x" = [op]) ∧
      ('\x27' ∉ "0x10".toList ∧ ∃ op, passing mixedRow "size" "0x10" = [op]) ∧
      ('\x27' ∉ "yes".toList ∧ passing mixedRow "done" "yes" = []) := by
  refine ⟨⟨by decide, ?_⟩, ⟨by decide, ?_⟩, ⟨by decide, ?_⟩⟩
  · exact trichotomous_passing mixedRow "tags" ",x" (by decide)
  · have numeric : (Query.numericValue "0x10").isNaN = false := by decide +kernel
    have counted : if (Query.numericValue "0x10").isNaN then passing mixedRow "size" "0x10" = []
        else ∃ op, passing mixedRow "size" "0x10" = [op] :=
      trichotomous_passing mixedRow "size" "0x10" (by decide)
    rwa [numeric, if_neg Bool.false_ne_true] at counted
  · have noNumber : (Query.numericValue "yes").isNaN = true := by decide +kernel
    have counted : if (Query.numericValue "yes").isNaN then passing mixedRow "done" "yes" = []
        else ∃ op, passing mixedRow "done" "yes" = [op] :=
      trichotomous_passing mixedRow "done" "yes" (by decide)
    rwa [if_pos noNumber] at counted

end Filter

end RowQuery
