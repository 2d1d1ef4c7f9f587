/-!
# Ordered maps with text keys

Pairs of a key and a value in the order in which the keys were first put in. Rows of a table,
members of a JSON object, the saved queries of a session and the sessions themselves are all kept
this way.
-/

namespace RowQuery

/-- Values under text keys, in a definite order. -/
abbrev Keyed (α : Type) := List (String × α)

namespace Keyed

variable {α : Type}

/-- The keys, in order. -/
def keys (m : Keyed α) : List String := m.map Prod.fst

/-- The value under a key. -/
def get? (m : Keyed α) (key : String) : Option α :=
  match m with
  | [] => none
  | (k, v) :: rest => if k = key then some v else get? rest key

/-- The map with a value put under a key: in place of the value that was there, or at the end. -/
def put (m : Keyed α) (key : String) (value : α) : Keyed α :=
  match m with
  | [] => [(key, value)]
  | (k, v) :: rest => if k = key then (key, value) :: rest else (k, v) :: put rest key value

/-- The map without a key. -/
def erase (m : Keyed α) (key : String) : Keyed α := m.filter fun entry => entry.1 != key

/-- A key that occurs. -/
def has (m : Keyed α) (key : String) : Bool := (m.get? key).isSome

/-- The map that arises by putting in each pair in turn: a repeated key keeps its first place and
takes its last value. -/
def ofPairs (pairs : List (String × α)) : Keyed α :=
  pairs.foldl (fun m entry => m.put entry.1 entry.2) []

/-! ## What is found -/

theorem get?_put (m : Keyed α) (key other : String) (value : α) :
    (m.put key value).get? other = if key = other then some value else m.get? other := by
  induction m with
  | nil => simp [put, get?]
  | cons entry rest ih =>
    obtain ⟨k, v⟩ := entry
    by_cases here : k = key
    · subst here
      by_cases same : k = other <;> simp [put, get?, same]
    · by_cases same : k = other
      · subst same
        simp [put, get?, here, Ne.symm here]
      · simp [put, get?, here, same, ih]

@[simp]
theorem get?_put_self (m : Keyed α) (key : String) (value : α) :
    (m.put key value).get? key = some value := by
  simp [get?_put]

theorem get?_put_of_ne (m : Keyed α) {key other : String} (value : α) (different : key ≠ other) :
    (m.put key value).get? other = m.get? other := by
  simp [get?_put, different]

theorem get?_erase (m : Keyed α) (key other : String) :
    (m.erase key).get? other = if key = other then none else m.get? other := by
  induction m with
  | nil => simp [erase, get?]
  | cons entry rest ih =>
    obtain ⟨k, v⟩ := entry
    simp only [erase] at ih ⊢
    by_cases here : k = key
    · subst here
      by_cases same : k = other <;> simp_all [get?]
    · by_cases same : k = other
      · subst same
        simp [get?, here, Ne.symm here]
      · simp [get?, here, same, ih]

theorem has_iff_mem_keys (m : Keyed α) (key : String) : m.has key = true ↔ key ∈ m.keys := by
  induction m with
  | nil => simp [has, get?, keys]
  | cons entry rest ih =>
    obtain ⟨k, v⟩ := entry
    simp only [has, keys] at ih
    by_cases here : k = key
    · simp [has, get?, keys, here]
    · simp [has, get?, keys, here, ih, Ne.symm here]

/-! ## In which order -/

/-- A key that is there keeps its place, and a new one comes last. -/
theorem keys_put (m : Keyed α) (key : String) (value : α) :
    (m.put key value).keys = if key ∈ m.keys then m.keys else m.keys ++ [key] := by
  induction m with
  | nil => simp [put, keys]
  | cons entry rest ih =>
    obtain ⟨k, v⟩ := entry
    simp only [keys] at ih ⊢
    by_cases here : k = key
    · simp [put, here]
    · by_cases later : key ∈ rest.map Prod.fst
      · simp [put, here, ih, later]
      · simp [put, here, ih, later, Ne.symm here]

end Keyed

end RowQuery
