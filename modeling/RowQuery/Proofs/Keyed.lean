import Mathlib.Data.List.Induction
import Mathlib.Data.List.Nodup
import RowQuery.Keyed

/-!
# Ordered maps: what putting in leaves

How a map looks after a value has been put in, and after many pairs have been put in turn. Pairs
whose keys differ arise unchanged (`ofPairs_of_nodup`), and no other pairs come out in the same
number (`ofPairs_eq_self`); of pairs with repeated keys each key is left where it comes up first, with
its last value (`ofPairs_eq_standing`). A change of one value, or of all, is found again under the same keys.
-/

namespace RowQuery.Keyed

variable {α β : Type}

/-- Putting back what is there changes nothing. -/
theorem put_of_get? {m : Keyed α} {key : String} {value : α} (found : m.get? key = some value) :
    m.put key value = m := by
  induction m with
  | nil => simp [get?] at found
  | cons entry rest ih =>
    obtain ⟨k, v⟩ := entry
    by_cases here : k = key
    · have same : v = value := by simpa [get?, here] using found
      simp [put, here, same]
    · have later : get? rest key = some value := by simpa [get?, here] using found
      simp [put, here, ih later]

theorem put_of_not_mem {m : Keyed α} {key : String} (value : α) (fresh : key ∉ m.keys) :
    m.put key value = m ++ [(key, value)] := by
  induction m with
  | nil => rfl
  | cons entry rest ih =>
    obtain ⟨k, v⟩ := entry
    have other : k ≠ key := by
      rintro rfl
      exact fresh (by simp [keys])
    have absent : key ∉ keys rest := fun later => fresh (List.mem_cons_of_mem _ later)
    simp [put, other, ih absent]

theorem put_put (m : Keyed α) (key : String) (first second : α) :
    (m.put key first).put key second = m.put key second := by
  induction m with
  | nil => simp [put]
  | cons entry rest ih =>
    obtain ⟨k, v⟩ := entry
    by_cases here : k = key
    · simp [put, here]
    · simp [put, here, ih]

theorem mem_of_mem_put {m : Keyed α} {key : String} {value : α} {entry : String × α}
    (member : entry ∈ m.put key value) : entry = (key, value) ∨ entry ∈ m := by
  induction m with
  | nil => simpa [put] using member
  | cons first rest ih =>
    obtain ⟨k, v⟩ := first
    by_cases here : k = key
    · rcases List.mem_cons.mp (by simpa [put, here] using member) with same | later
      · exact .inl same
      · exact .inr (List.mem_cons_of_mem _ later)
    · rcases List.mem_cons.mp (by simpa [put, here] using member) with same | later
      · exact .inr (same ▸ List.mem_cons_self)
      · exact (ih later).imp_right (List.mem_cons_of_mem _)

theorem nodup_concat {keys : List String} (distinct : keys.Nodup) {key : String} (fresh : key ∉ keys) :
    (keys ++ [key]).Nodup := by
  refine List.nodup_append.mpr ⟨distinct, List.nodup_singleton key, ?_⟩
  intro k old other new same
  rw [List.mem_singleton] at new
  exact fresh (new ▸ same ▸ old)

theorem nodup_keys_put {m : Keyed α} (distinct : m.keys.Nodup) (key : String) (value : α) :
    (m.put key value).keys.Nodup := by
  rw [keys_put]
  split
  · exact distinct
  next fresh => exact nodup_concat distinct fresh

@[simp]
theorem length_keys (m : Keyed α) : m.keys.length = m.length := List.length_map _

theorem length_put (m : Keyed α) (key : String) (value : α) :
    (m.put key value).length = if key ∈ m.keys then m.length else m.length + 1 := by
  have counted := congrArg List.length (keys_put m key value)
  rw [length_keys] at counted
  rw [counted]
  by_cases old : key ∈ m.keys <;> simp [old]

theorem length_put_le (m : Keyed α) (key : String) (value : α) :
    (m.put key value).length ≤ m.length + 1 := by
  rw [length_put]
  by_cases old : key ∈ m.keys <;> simp [old]

theorem mem_of_get? {m : Keyed α} {key : String} {value : α} (found : m.get? key = some value) :
    (key, value) ∈ m := by
  induction m with
  | nil => simp [get?] at found
  | cons entry rest ih =>
    obtain ⟨k, v⟩ := entry
    by_cases here : k = key
    · have same : v = value := by simpa [get?, here] using found
      simp [here, same]
    · have later : get? rest key = some value := by simpa [get?, here] using found
      exact List.mem_cons_of_mem _ (ih later)

/-- Where keys differ, every entry is found. -/
theorem get?_of_mem {m : Keyed α} (distinct : m.keys.Nodup) {key : String} {value : α}
    (member : (key, value) ∈ m) : m.get? key = some value := by
  induction m with
  | nil => cases member
  | cons entry rest ih =>
    obtain ⟨k, v⟩ := entry
    obtain ⟨fresh, later⟩ := List.nodup_cons.mp distinct
    rcases List.mem_cons.mp member with same | below
    · cases same
      simp [get?]
    · have other : k ≠ key := by
        rintro rfl
        exact fresh (List.mem_map.mpr ⟨_, below, rfl⟩)
      simp [get?, other, ih later below]

/-! ## Leaving entries out -/

theorem nodup_keys_filter {m : Keyed α} (distinct : m.keys.Nodup) (kept : String × α → Bool) :
    (keys (m.filter kept)).Nodup :=
  distinct.sublist (List.filter_sublist.map Prod.fst)

theorem get?_of_not_mem {m : Keyed α} {key : String} (absent : key ∉ m.keys) : m.get? key = none := by
  have missing : m.has key = false := by
    rw [Bool.eq_false_iff]
    exact fun found => absent ((has_iff_mem_keys m key).mp found)
  simpa [has] using missing

/-- Where keys differ, leaving out values leaves out what is found of them. -/
theorem get?_filter {m : Keyed α} (distinct : m.keys.Nodup) (kept : α → Bool) (key : String) :
    get? (m.filter fun entry => kept entry.2) key = (m.get? key).filter kept := by
  induction m with
  | nil => rfl
  | cons entry rest ih =>
    obtain ⟨k, v⟩ := entry
    obtain ⟨fresh, later⟩ := List.nodup_cons.mp distinct
    rw [List.filter_cons]
    by_cases here : k = key
    · subst here
      have none : get? rest k = none := get?_of_not_mem fresh
      by_cases keep : kept v = true
      · simp [get?, Option.filter, keep]
      · simp [get?, Option.filter, keep, ih later, none]
    · by_cases keep : kept v = true
      · simp [get?, keep, here, ih later]
      · simp [get?, keep, here, ih later]

theorem erase_of_get? {m : Keyed α} {key : String} (absent : m.get? key = none) : m.erase key = m := by
  refine List.filter_eq_self.mpr ?_
  rintro ⟨k, v⟩ member
  have missing : m.has key = false := by simp [has, absent]
  have other : k ≠ key := by
    rintro rfl
    have present := (has_iff_mem_keys m k).mpr (List.mem_map_of_mem member)
    rw [missing] at present
    cases present
  simpa using other

@[simp]
theorem erase_erase (m : Keyed α) (key : String) : (m.erase key).erase key = m.erase key := by
  simp [erase]

theorem erase_filter (m : Keyed α) (kept : String × α → Bool) (key : String) :
    erase (m.filter kept) key = (m.erase key).filter kept :=
  List.filter_comm _ _ m

@[simp]
theorem erase_put_self (m : Keyed α) (key : String) (value : α) : (m.put key value).erase key = m.erase key := by
  induction m with
  | nil => simp [put, erase]
  | cons entry rest ih =>
    obtain ⟨k, v⟩ := entry
    by_cases here : k = key
    · simp [put, erase, here]
    · rw [erase, erase] at ih
      simp [put, erase, here, ih]

theorem erase_put_of_ne (m : Keyed α) {key other : String} (value : α) (different : key ≠ other) :
    (m.put key value).erase other = (m.erase other).put key value := by
  induction m with
  | nil => simp [put, erase, different]
  | cons entry rest ih =>
    obtain ⟨k, v⟩ := entry
    rw [erase, erase] at ih
    by_cases here : k = key
    · subst here
      simp [put, erase, different]
    · by_cases out : k = other
      · subst out
        simp [put, erase, here, ih]
      · simp [put, erase, here, out, ih]

/-! ## Many pairs -/

/-- Keys that are paired with values one by one, as many as there are values. -/
theorem keys_zip (names : List String) (values : List α) : keys (names.zip values) = names.take values.length := by
  induction names generalizing values with
  | nil => simp [keys]
  | cons name names ih =>
    cases values with
    | nil => simp [keys]
    | cons value values =>
      rw [List.zip_cons_cons, List.length_cons, List.take_succ_cons, ← ih]
      rfl

@[simp]
theorem ofPairs_nil : ofPairs ([] : List (String × α)) = [] := rfl

theorem ofPairs_concat (pairs : List (String × α)) (key : String) (value : α) :
    ofPairs (pairs ++ [(key, value)]) = (ofPairs pairs).put key value := by
  simp [ofPairs]

/-- Every key of the pairs comes up once, in the order in which they come up first. -/
theorem keys_ofPairs (pairs : List (String × α)) : (ofPairs pairs).keys = (keys pairs).eraseDups := by
  induction pairs using List.reverseRecOn with
  | nil => rfl
  | append_singleton pairs entry ih =>
    have last : keys (pairs ++ [entry]) = keys pairs ++ [entry.1] := List.map_append
    rw [ofPairs_concat, keys_put, ih, last, List.eraseDups_append]
    by_cases old : entry.1 ∈ keys pairs
    · simp [List.removeAll, old]
    · simp [List.removeAll, old, List.eraseDups_cons]

/-- Under a key the last value is found that was put there. -/
theorem get?_ofPairs_of_last {pairs : List (String × α)} {i : Nat} {key : String} {value : α}
    (here : pairs[i]? = some (key, value))
    (last : ∀ j entry, i < j → pairs[j]? = some entry → entry.1 ≠ key) :
    (ofPairs pairs).get? key = some value := by
  induction pairs using List.reverseRecOn with
  | nil => simp at here
  | append_singleton pairs entry ih =>
    rw [ofPairs_concat]
    by_cases within : i < pairs.length
    · have other : entry.1 ≠ key := last pairs.length entry within (by simp)
      rw [List.getElem?_append_left within] at here
      rw [get?_put_of_ne _ _ other]
      refine ih here ?_
      intro j later after found
      have inside : j < pairs.length := (List.getElem?_eq_some_iff.mp found).1
      exact last j later after (by rw [List.getElem?_append_left inside, found])
    · have final : i = pairs.length := by
        have bound := (List.getElem?_eq_some_iff.mp here).1
        simp at bound
        omega
      subst final
      obtain rfl : entry = (key, value) := by simpa using here
      exact get?_put_self _ key value

theorem nodup_keys_ofPairs (pairs : List (String × α)) : (ofPairs pairs).keys.Nodup := by
  induction pairs using List.reverseRecOn with
  | nil => simp [keys]
  | append_singleton pairs entry ih =>
    rw [ofPairs_concat]
    exact nodup_keys_put ih entry.1 entry.2

theorem mem_of_mem_ofPairs {pairs : List (String × α)} {entry : String × α}
    (member : entry ∈ ofPairs pairs) : entry ∈ pairs := by
  induction pairs using List.reverseRecOn with
  | nil => exact member
  | append_singleton pairs last ih =>
    rw [ofPairs_concat] at member
    rcases mem_of_mem_put member with same | earlier
    · simp [same]
    · exact List.mem_append_left _ (ih earlier)

theorem ofPairs_ne_nil {pairs : List (String × α)} (some : pairs ≠ []) : ofPairs pairs ≠ [] := by
  obtain ⟨pairs, entry, rfl⟩ := (List.eq_nil_or_concat' pairs).resolve_left some
  rw [ofPairs_concat]
  intro none
  have missing := get?_put_self (ofPairs pairs) entry.1 entry.2
  simp [none, get?] at missing

/-- Pairs whose keys differ are kept as they are. -/
theorem ofPairs_of_nodup {pairs : List (String × α)} (distinct : (pairs.map Prod.fst).Nodup) :
    ofPairs pairs = pairs := by
  induction pairs using List.reverseRecOn with
  | nil => rfl
  | append_singleton pairs entry ih =>
    rw [List.map_append, List.nodup_append] at distinct
    obtain ⟨before, _, apart⟩ := distinct
    have fresh : entry.1 ∉ keys pairs := fun old => apart _ old _ (by simp) rfl
    rw [ofPairs_concat, ih before, put_of_not_mem _ fresh]

/-- What is found after values have been put under the keys that have one. -/
theorem get?_ofPairs_filterMap (f : String → Option α) (names : List String) (key : String) :
    (ofPairs (names.filterMap fun name => (f name).map (name, ·))).get? key = if key ∈ names then f key else none := by
  induction names using List.reverseRecOn with
  | nil => rfl
  | append_singleton names last ih =>
    rw [List.filterMap_append, List.filterMap_cons, List.filterMap_nil]
    cases found : f last with
    | none =>
      rw [Option.map_none, List.append_nil, ih]
      by_cases same : key = last
      · subst same
        simp [found]
      · simp [same]
    | some value =>
      rw [Option.map_some, ofPairs_concat, get?_put, ih]
      by_cases same : last = key
      · subst same
        simp [found]
      · simp [same, Ne.symm same]

/-- A map with as many entries as pairs were put in consists of these pairs. -/
theorem ofPairs_eq_self {pairs : List (String × α)}
    (all : pairs.length ≤ (ofPairs pairs).length) : ofPairs pairs = pairs := by
  apply ofPairs_of_nodup
  induction pairs using List.reverseRecOn with
  | nil => simp
  | append_singleton pairs entry ih =>
    rw [ofPairs_concat, List.length_append] at all
    have few := length_put_le (ofPairs pairs) entry.1 entry.2
    have before := ih (by rw [List.length_singleton] at all; omega)
    have fresh : entry.1 ∉ keys pairs := by
      intro old
      rw [ofPairs_of_nodup before, length_put, if_pos old, List.length_singleton] at all
      omega
    rw [List.map_append]
    exact nodup_concat before fresh

/-- A map with as many keys as there are values has the first of the names as its keys. -/
theorem prefix_of_keys_ofPairs_zip {names columns : List String} {values : List α}
    (few : values.length ≤ columns.length) (found : (ofPairs (names.zip values)).keys = columns) :
    columns <+: names := by
  have all : ofPairs (names.zip values) = names.zip values := by
    apply ofPairs_eq_self
    rw [← length_keys (ofPairs _), found, List.length_zip]
    exact Nat.le_trans (Nat.min_le_right _ _) few
  rw [← found, all, keys_zip]
  exact List.take_prefix _ names

/-! ## Repeated names -/

/-- The value that comes last under a name. -/
def lastValue? (pairs : List (String × α)) (name : String) : Option α :=
  (pairs.reverse.find? fun entry => entry.1 = name).map Prod.snd

/-- Pairs without the repeated names: each name stands where it comes up first and has the value that comes
last under it. -/
def standing (pairs : List (String × α)) : List (String × α) :=
  (keys pairs).eraseDups.filterMap fun name => (lastValue? pairs name).map (name, ·)

theorem lastValue?_concat (pairs : List (String × α)) (key : String) (value : α) (name : String) :
    lastValue? (pairs ++ [(key, value)]) name = if key = name then some value else lastValue? pairs name := by
  rw [lastValue?, List.reverse_append, List.reverse_singleton, List.singleton_append, List.find?_cons]
  by_cases same : key = name
  · simp [same]
  · simp [same, lastValue?]

theorem lastValue?_append (pairs more : List (String × α)) (name : String) :
    lastValue? (pairs ++ more) name = (lastValue? more name).or (lastValue? pairs name) := by
  rw [lastValue?, List.reverse_append, List.find?_append, Option.map_or]
  rfl

theorem lastValue?_of_not_mem {pairs : List (String × α)} {name : String} (absent : name ∉ keys pairs) :
    lastValue? pairs name = none := by
  rw [lastValue?, Option.map_eq_none_iff, List.find?_eq_none]
  intro entry member
  have among : entry ∈ pairs := List.mem_reverse.mp member
  simpa using fun same : entry.1 = name => absent (same ▸ List.mem_map_of_mem among)

theorem get?_ofPairs (pairs : List (String × α)) (name : String) : (ofPairs pairs).get? name = lastValue? pairs name := by
  induction pairs using List.reverseRecOn with
  | nil => rfl
  | append_singleton pairs entry ih =>
    obtain ⟨key, value⟩ := entry
    rw [ofPairs_concat, get?_put, ih, lastValue?_concat]

/-- A map whose keys differ is told by its keys and by what is found under them. -/
theorem filterMap_keys {m : Keyed α} (distinct : m.keys.Nodup) :
    (m.keys.filterMap fun key => (m.get? key).map (key, ·)) = m := by
  induction m with
  | nil => rfl
  | cons entry rest ih =>
    obtain ⟨k, v⟩ := entry
    obtain ⟨fresh, later⟩ := List.nodup_cons.mp distinct
    have below : ∀ key ∈ keys rest, get? ((k, v) :: rest) key = get? rest key := by
      intro key member
      have other : k ≠ key := by
        rintro rfl
        exact fresh member
      simp [get?, other]
    have first : get? ((k, v) :: rest) k = some v := by simp [get?]
    change List.filterMap _ (k :: keys rest) = _
    rw [List.filterMap_cons, first]
    simp only [Option.map_some]
    rw [List.filterMap_congr (fun key member => by rw [below key member]), ih later]

/-- Putting in pairs one after the other leaves them without the repeated names. -/
theorem ofPairs_eq_standing (pairs : List (String × α)) : ofPairs pairs = standing pairs := by
  rw [← filterMap_keys (nodup_keys_ofPairs pairs), keys_ofPairs, standing]
  simp only [get?_ofPairs]

/-! ## Changing values -/

/-- The map with every value changed. -/
def mapValues (m : Keyed α) (f : α → β) : Keyed β := m.map fun entry => (entry.1, f entry.2)

/-- The map with the value under a key changed, if there is one. -/
def change (m : Keyed α) (key : String) (f : α → α) : Keyed α :=
  match m.get? key with
  | some value => m.put key (f value)
  | none => m

theorem get?_mapValues (m : Keyed α) (f : α → β) (key : String) :
    (m.mapValues f).get? key = (m.get? key).map f := by
  induction m with
  | nil => rfl
  | cons entry rest ih =>
    obtain ⟨k, v⟩ := entry
    by_cases here : k = key
    · simp [mapValues, get?, here]
    · rw [mapValues] at ih
      simp [mapValues, get?, here, ih]

theorem mapValues_put (m : Keyed α) (f : α → β) (key : String) (value : α) :
    (m.put key value).mapValues f = (m.mapValues f).put key (f value) := by
  induction m with
  | nil => rfl
  | cons entry rest ih =>
    obtain ⟨k, v⟩ := entry
    by_cases here : k = key
    · simp [mapValues, put, here]
    · rw [mapValues, mapValues] at ih
      simp [mapValues, put, here, ih]

theorem mapValues_erase (m : Keyed α) (f : α → β) (key : String) :
    (m.erase key).mapValues f = (m.mapValues f).erase key := by
  simp only [mapValues, erase, List.filter_map]
  rfl

theorem change_of_get? {m : Keyed α} {key : String} {value : α} (found : m.get? key = some value)
    (f : α → α) : m.change key f = m.put key (f value) := by
  rw [change, found]

/-- Changes of a value that differ in nothing that is looked at. -/
theorem mapValues_change_congr {f g : α → α} {look : α → β} (same : ∀ value, look (f value) = look (g value))
    (m : Keyed α) (key : String) : (m.change key f).mapValues look = (m.change key g).mapValues look := by
  rw [change, change]
  cases m.get? key with
  | none => rfl
  | some value => rw [mapValues_put, mapValues_put, same]

@[simp]
theorem erase_change_self (m : Keyed α) (key : String) (f : α → α) : (m.change key f).erase key = m.erase key := by
  rw [change]
  cases m.get? key with
  | none => rfl
  | some value => exact erase_put_self m key (f value)

theorem erase_change_of_ne (m : Keyed α) {key other : String} (f : α → α) (different : key ≠ other) :
    (m.change key f).erase other = (m.erase other).change key f := by
  rw [change, change, get?_erase, if_neg different.symm]
  cases m.get? key with
  | none => rfl
  | some value => exact erase_put_of_ne m (f value) different

theorem get?_change (m : Keyed α) (key other : String) (f : α → α) :
    (m.change key f).get? other = if key = other then (m.get? other).map f else m.get? other := by
  rw [change]
  cases found : m.get? key with
  | none =>
    by_cases same : key = other
    · subst same
      simp [found]
    · simp [same]
  | some value =>
    by_cases same : key = other
    · subst same
      simp [found]
    · simp [get?_put_of_ne, same]

end RowQuery.Keyed
