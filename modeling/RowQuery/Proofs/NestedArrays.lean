import RowQuery.Proofs.Cutting
import RowQuery.Query.Evaluate

/-!
# Arrays within arrays as text

The text of an array joins the texts of its items by commas, and that of a nested array is joined the same
way, so that its commas cannot be told from those around it. As long as no nested array is empty, the text is
therefore that of the leaves, joined by commas (`cellText_array`), and arrays with the same leaves are alike to
every filter (`showsLeaves_of_filled`). An empty array would put an empty text where it has no leaf.
-/

namespace RowQuery

namespace Json

/-- The values in an array that are no arrays, at any depth, from left to right. -/
def leaves : List Json → List Json
  | [] => []
  | .array items :: rest => leaves items ++ leaves rest
  | leaf :: rest => leaf :: leaves rest

/-- A value that stands in an array, at any depth. -/
inductive Inside (value : Json) : List Json → Prop
  | item {items : List Json} (member : value ∈ items) : Inside value items
  | deeper {items inner : List Json} (member : .array inner ∈ items) (within : Inside value inner) : Inside value items

/-- An array in which every nested array, at any depth, has items. -/
def Filled (items : List Json) : Prop := ∀ inner, Inside (.array inner) items → inner ≠ []

/-- What a leaf is in the text of an array. -/
def leafText : Json → List Char
  | .null => []
  | .string s => s.toList
  | .object _ => "[object Object]".toList
  | leaf => leaf.cellText

/-! ## What stands in an array -/

@[simp]
theorem inside_nil (value : Json) : ¬ Inside value [] := by
  rintro (member | ⟨member, _⟩) <;> simp at member

@[simp]
theorem inside_cons (value item : Json) (rest : List Json) :
    Inside value (item :: rest) ↔
      value = item ∨ (∃ inner, item = .array inner ∧ Inside value inner) ∨ Inside value rest := by
  constructor
  · rintro (member | ⟨member, within⟩)
    · exact (List.mem_cons.mp member).imp_right fun later => .inr (.item later)
    · rcases List.mem_cons.mp member with here | later
      · exact .inr (.inl ⟨_, here.symm, within⟩)
      · exact .inr (.inr (.deeper later within))
  · rintro (rfl | ⟨inner, rfl, within⟩ | member | ⟨member, within⟩)
    · exact .item List.mem_cons_self
    · exact .deeper List.mem_cons_self within
    · exact .item (List.mem_cons_of_mem _ member)
    · exact .deeper (List.mem_cons_of_mem _ member) within

/-- The leaves are what stands in an array and is no array. -/
theorem mem_leaves_iff (leaf : Json) (items : List Json) :
    leaf ∈ leaves items ↔ Inside leaf items ∧ ∀ inner, leaf ≠ .array inner := by
  fun_induction leaves items with
  | case1 => simp
  | case2 inner rest within later =>
    rw [List.mem_append, within, later, inside_cons]
    constructor
    · rintro (⟨inside, noArray⟩ | ⟨inside, noArray⟩)
      · exact ⟨.inr (.inl ⟨inner, rfl, inside⟩), noArray⟩
      · exact ⟨.inr (.inr inside), noArray⟩
    · rintro ⟨same | ⟨nested, same, inside⟩ | inside, noArray⟩
      · exact absurd same (noArray inner)
      · exact .inl ⟨Json.array.inj same ▸ inside, noArray⟩
      · exact .inr ⟨inside, noArray⟩
  | case3 item rest noArray later =>
    rw [List.mem_cons, later, inside_cons]
    constructor
    · rintro (rfl | ⟨inside, only⟩)
      · exact ⟨.inl rfl, noArray⟩
      · exact ⟨.inr (.inr inside), only⟩
    · rintro ⟨same | ⟨inner, nested, _⟩ | inside, only⟩
      · exact .inl same
      · exact absurd nested (noArray inner)
      · exact .inr ⟨inside, only⟩

theorem Filled.of_cons {item : Json} {rest : List Json} (filled : Filled (item :: rest)) : Filled rest :=
  fun inner inside => filled inner ((inside_cons _ _ _).mpr (.inr (.inr inside)))

theorem Filled.of_array_cons {inner rest : List Json} (filled : Filled (.array inner :: rest)) :
    inner ≠ [] ∧ Filled inner :=
  ⟨filled inner ((inside_cons _ _ _).mpr (.inl rfl)),
    fun nested inside => filled nested ((inside_cons _ _ _).mpr (.inr (.inl ⟨inner, rfl, inside⟩)))⟩

theorem leaves_eq_nil_iff {items : List Json} (filled : Filled items) : leaves items = [] ↔ items = [] := by
  fun_induction leaves items with
  | case1 => exact iff_of_true rfl rfl
  | case2 inner rest within later =>
    obtain ⟨someWithin, filledWithin⟩ := filled.of_array_cons
    have someLeaf : leaves inner ≠ [] := fun none => someWithin ((within filledWithin).mp none)
    exact iff_of_false (List.append_ne_nil_of_left_ne_nil someLeaf _) (List.cons_ne_nil _ _)
  | case3 leaf rest noArray later => exact iff_of_false (List.cons_ne_nil _ _) (List.cons_ne_nil _ _)

/-! ## Text -/

theorem itemTexts_eq (items : List Json) : itemTexts items = items.map leafText := by
  induction items with
  | nil => rfl
  | cons item rest ih =>
    rw [List.map_cons, ← ih]
    cases item <;> rfl

theorem map_leafText_eq_nil_iff {items : List Json} (filled : Filled items) :
    items.map leafText = [] ↔ (leaves items).map leafText = [] := by
  rw [List.map_eq_nil_iff, List.map_eq_nil_iff, leaves_eq_nil_iff filled]

/-- The text of an array in which no array is empty joins the texts of its leaves. -/
theorem cellText_array {items : List Json} (filled : Filled items) :
    (Json.array items).cellText = [','].intercalate ((leaves items).map leafText) := by
  change [','].intercalate (itemTexts items) = _
  rw [itemTexts_eq]
  fun_induction leaves items with
  | case1 => rfl
  | case2 inner rest within later =>
    obtain ⟨someWithin, filledWithin⟩ := filled.of_array_cons
    have nested : leafText (.array inner) = [','].intercalate ((leaves inner).map leafText) := by
      rw [← within filledWithin, ← itemTexts_eq]
      rfl
    -- The nested array puts in one text, its leaves several; joined they agree as there is at least one leaf.
    have someText : (leaves inner).map leafText ≠ [] := by
      rwa [Ne, ← map_leafText_eq_nil_iff filledWithin, List.map_eq_nil_iff]
    rw [List.map_cons, nested, List.map_append]
    exact Text.intercalate_cons_intercalate someText (map_leafText_eq_nil_iff filled.of_cons) (later filled.of_cons)
  | case3 leaf rest noArray later =>
    have joined := Text.intercalate_cons_intercalate (List.cons_ne_nil (leafText leaf) [])
      (map_leafText_eq_nil_iff filled.of_cons) (later filled.of_cons)
    rwa [List.intercalate_singleton] at joined

end Json

namespace Filter

/-- A filter knows an array by its text alone. -/
theorem accepts_of_cellText_eq (filter : Filter) {row other : Row} {items others : List Json}
    (found : row.get? filter.field = some (.array items)) (foundOther : other.get? filter.field = some (.array others))
    (same : (Json.array others).cellText = (Json.array items).cellText) : filter.accepts other = filter.accepts row := by
  rw [accepts, accepts, found, foundOther]
  simp only [looselyEqual, order, same]

end Filter

namespace Json

/-- An array whose text is that of its leaves, joined by commas. An array that nests the same leaves in another way
has the same text, and no filter tells the one from the other. -/
structure ShowsLeaves (items : List Json) : Prop where
  leaf : ∀ leaf, leaf ∈ leaves items ↔ Inside leaf items ∧ ∀ inner, leaf ≠ .array inner
  text : (Json.array items).cellText = [','].intercalate ((leaves items).map leafText)
  renested : ∀ others, Filled others → leaves others = leaves items →
    (Json.array others).cellText = (Json.array items).cellText
  unfiltered : ∀ others, Filled others → leaves others = leaves items → ∀ (filter : Filter) (row other : Row),
    row.get? filter.field = some (.array items) → other.get? filter.field = some (.array others) →
      filter.accepts other = filter.accepts row

/-- Every array in which no array is empty shows its leaves and nothing of how they are nested. -/
theorem showsLeaves_of_filled {items : List Json} (filled : Filled items) : ShowsLeaves items := by
  have renested (others : List Json) (filledOthers : Filled others) (same : leaves others = leaves items) :
      (Json.array others).cellText = (Json.array items).cellText := by
    rw [cellText_array filledOthers, cellText_array filled, same]
  refine ⟨fun leaf => mem_leaves_iff leaf items, cellText_array filled, renested, ?_⟩
  intro others filledOthers same filter row other found foundOther
  exact filter.accepts_of_cellText_eq found foundOther (renested others filledOthers same)

/-- Leaves of every kind at several depths: a text with a comma in it, and an object with an empty array in it. -/
def nestedItems : List Json :=
  [.array [.null, .string "a,b"], .array [.array [.bool true], .object [("c", .array [])]], .number (.int (-40))]

/-- The same leaves in other arrays. -/
def renestedItems : List Json :=
  [.null, .array [.string "a,b", .array [.array [.bool true, .object [("c", .array [])]], .number (.int (-40))]]]

theorem showsLeaves_nestedItems :
    Filled nestedItems ∧ Filled renestedItems ∧
      (Json.array nestedItems).cellText = ",a,b,true,[object Object],-40".toList ∧
      ∀ value, Filter.accepts ⟨"n", .equal, value⟩ [("n", .array renestedItems)] =
        Filter.accepts ⟨"n", .equal, value⟩ [("n", .array nestedItems)] := by
  have filled : Filled nestedItems := by simp [Filled, nestedItems]
  have filledToo : Filled renestedItems := by simp [Filled, renestedItems]
  have told : leaves nestedItems =
      [.null, .string "a,b", .bool true, .object [("c", .array [])], .number (.int (-40))] := by
    simp [leaves, nestedItems]
  have same : leaves renestedItems = leaves nestedItems := by simp [leaves, nestedItems, renestedItems]
  have shows := showsLeaves_of_filled filled
  refine ⟨filled, filledToo, ?_, ?_⟩
  · rw [shows.text, told]
    rfl
  · intro value
    exact shows.unfiltered renestedItems filledToo same _ _ _ rfl rfl

/-- An empty array is seen, although it has no leaf. -/
example : (Json.array [.array [], .bool true]).cellText = ",true".toList := rfl

end Json

end RowQuery
