import RowQuery.Proofs.JsonRoundTrip

/-!
# Which rows a JSON document holds

A document is read with the properties of an object as they are written, repeated names included
(`read_eq`), and every document within the limits of the reader is read, however it is spelled (`read_document`).
Its rows are the items of one array: the document itself, or the first property that holds an
array once each name stands only where it comes up first, with its last value. The items are objects, all of
them, or the first that is not is reported (`loads_tableOfJson`). Nothing else in the document matters: not
what stands behind the array, and of what stands in front of it only that it is no array
(`loadsFirstArray_readJson`).
-/

namespace RowQuery.Json

/-! ## Documents -/

/-- A document as it is written. The properties of an object stand in the order of the text, and a name may
come up among them more than once. -/
inductive Document where
  | array (items : List Json)
  | object (properties : List (String × Json))
  | scalar (value : Json)

/-- The value that a document writes. -/
def Document.value : Document → Json
  | .array items => .array items
  | .object properties => .object (Keyed.ofPairs properties)
  | .scalar value => value

/-- The document at the head of a text, behind any spaces. -/
def readDocument (budget : Nat) (text : List Char) : Reading Document :=
  match skipSpaces text with
  | '[' :: rest =>
    (readEnclosed arrayEnd (readValue budget (nestingLimit - 1)) budget rest).map fun (items, rest) =>
      (.array items, rest)
  | '{' :: rest =>
    (readEnclosed objectEnd (readMember (readValue budget (nestingLimit - 1))) budget rest).map
      fun (properties, rest) => (.object properties, rest)
  | scalar => (readScalar scalar).map fun (value, rest) => (.scalar value, rest)

/-- The document that a whole text writes. -/
def Document.read (text : List Char) : Except Fault Document :=
  match readDocument text.length text with
  | .error fault => .error fault
  | .ok (document, rest) =>
    match skipSpaces rest with
    | [] => .ok document
    | other => .error (.next .trailingCharacters other)

/-- A value is read as a document is, but of repeated names only the last value is kept. -/
theorem readValue_eq (budget : Nat) (text : List Char) :
    readValue budget nestingLimit text =
      (readDocument budget text).map fun (document, rest) => (document.value, rest) := by
  have limit : nestingLimit = nestingLimit - 1 + 1 := rfl
  rw [limit, readValue, readDocument]
  generalize readValue budget (nestingLimit - 1) = readInner
  generalize skipSpaces text = seen
  by_cases array : ∃ inner, seen = '[' :: inner
  · obtain ⟨inner, rfl⟩ := array
    change Except.map _ (readEnclosed arrayEnd readInner budget inner) =
      Except.map _ (Except.map _ (readEnclosed arrayEnd readInner budget inner))
    cases readEnclosed arrayEnd readInner budget inner <;> rfl
  by_cases object : ∃ inner, seen = '{' :: inner
  · obtain ⟨inner, rfl⟩ := object
    change Except.map _ (readEnclosed objectEnd (readMember readInner) budget inner) =
      Except.map _ (Except.map _ (readEnclosed objectEnd (readMember readInner) budget inner))
    cases readEnclosed objectEnd (readMember readInner) budget inner <;> rfl
  · have notArray : ∀ inner, seen ≠ '[' :: inner := fun inner same => array ⟨inner, same⟩
    have notObject : ∀ inner, seen ≠ '{' :: inner := fun inner same => object ⟨inner, same⟩
    cases scalar : readScalar seen with
    | error fault => simp [scalar, Except.map]
    | ok found => simp [scalar, Except.map, Document.value]

/-- A text is read as the value of the document that it writes. -/
theorem read_eq (text : List Char) : Json.read text = (Document.read text).map Document.value := by
  rw [Json.read, Document.read, readValue_eq]
  cases readDocument text.length text with
  | error fault => rfl
  | ok found =>
    obtain ⟨document, rest⟩ := found
    simp only [Except.map]
    cases skipSpaces rest with
    | nil => rfl
    | cons c rest => rfl

/-! ## Documents that are read -/

/-- What a document spells out: its value with repeated names as they stand. -/
def Document.written : Document → Json
  | .array items => .array items
  | .object properties => .object properties
  | .scalar value => value

/-- A document within the limits of the reader: its numbers are integers of 64 bits, arrays and objects nest at
most 127 levels deep, and only the names of the document itself are repeated. (Lone surrogates, the limit of
strings, spell no characters.) -/
inductive Document.Plain : Document → Prop
  | array {items : List Json} (exact : ExactItems items) (shallow : itemsDepth items < 127) : Plain (.array items)
  | object {properties : List (String × Json)} (exact : ExactMembers properties)
    (shallow : membersDepth properties < 127) : Plain (.object properties)
  | scalar {value : Json} (exact : Exact value) (flat : depth value = 0) : Plain (.scalar value)

theorem readDocument_scalar (budget : Nat) {c : Char} (notSpace : isSpace c = false) (notArray : c ≠ '[')
    (notObject : c ≠ '{') (rest : List Char) :
    readDocument budget (c :: rest) = (readScalar (c :: rest)).map fun (value, rest) => (.scalar value, rest) := by
  rw [readDocument, skipSpaces_of_head notSpace]
  split
  next same => exact absurd (List.cons.inj same).1 notArray
  next same => exact absurd (List.cons.inj same).1 notObject
  next => rfl

/-- A plain document is read from each text that spells it, in front of whatever ends a number. -/
theorem readDocument_spelled {form : Form} {document : Document} {text rest : List Char} (plain : document.Plain)
    (spelled : Spells form 0 document.written text) {budget : Nat} (short : text.length ≤ budget)
    (ends : EndsNumber rest) : readDocument budget (text ++ rest) = .ok (document, rest) := by
  cases plain with
  | array exact shallow =>
    rw [Document.written, Spells] at spelled
    obtain ⟨parts, each, enclosed⟩ := spelled
    obtain ⟨inner, opened, read⟩ := exists_readEnclosed distinct_arrayEnd enclosed short
      (written_spelledItems form _ 1 (nestingLimit - 1) budget parts exact (Nat.le_of_lt_succ shallow) each) rest
    rw [opened, readDocument, skipSpaces_of_head (by decide)]
    simp only [read]
    rfl
  | object exact shallow =>
    rw [Document.written, Spells] at spelled
    obtain ⟨parts, each, enclosed⟩ := spelled
    obtain ⟨inner, opened, read⟩ := exists_readEnclosed distinct_objectEnd enclosed short
      (written_spelledMembers form _ 1 (nestingLimit - 1) budget parts exact (Nat.le_of_lt_succ shallow) each) rest
    rw [opened, readDocument, skipSpaces_of_head (by decide)]
    simp only [read]
    rfl
  | scalar exact flat =>
    have found := readsFlat_spelled exact flat spelled
    have read := found.reads rest ends
    obtain ⟨c, more, rfl, notSpace, notArray, notObject, _⟩ := found.opens
    rw [List.cons_append] at read ⊢
    rw [readDocument_scalar budget notSpace notArray notObject, read]
    rfl

/-- A plain document is read from each text that spells it between any spaces. -/
theorem read_document {document : Document} {front text behind : List Char} (plain : document.Plain)
    (spelled : Spells .free 0 document.written text) (spacesFront : Spaces front) (spacesBehind : Spaces behind) :
    Document.read (front ++ text ++ behind) = .ok document := by
  have none : skipSpaces behind = [] := by
    have skipped := skipSpaces_append spacesBehind []
    rwa [List.append_nil] at skipped
  have ends : EndsNumber behind := by
    have all := @endsNumber_append behind spacesBehind [] nofun
    rwa [List.append_nil] at all
  have short : text.length ≤ (front ++ text ++ behind).length := by
    simp only [List.length_append]
    omega
  have read := readDocument_spelled plain spelled short ends
  have skipped : readDocument (front ++ text ++ behind).length (front ++ text ++ behind) =
      readDocument (front ++ text ++ behind).length (text ++ behind) := by
    rw [readDocument, readDocument, List.append_assoc, skipSpaces_append spacesFront]
  rw [Document.read, skipped, read]
  simp only [none]

/-! ## The first array -/

/-- The items of a value that is an array. -/
def items? : Json → Option (List Json)
  | .array items => some items
  | _ => none

/-- The items of the first array in a document: the document itself, or the value of the first property that
is an array, each name standing where it comes up first and with its last value. -/
def Document.items? : Document → Option (List Json)
  | .array items => some items
  | .object properties => (Keyed.standing properties).findSome? fun property => property.2.items?
  | .scalar _ => none

theorem eq_of_readWord {value found : Json} {word text rest : List Char}
    (read : readWord value word text = .ok (found, rest)) : found = value := by
  induction word generalizing text with
  | nil =>
    cases read
    rfl
  | cons c word ih =>
    cases text with
    | nil => cases read
    | cons d text =>
      rw [readWord] at read
      split at read
      · exact ih read
      · cases read

/-- What is read as neither array nor object holds no rows. -/
theorem rowArray?_of_readScalar {text rest : List Char} {value : Json} (read : readScalar text = .ok (value, rest)) :
    File.rowArray? value = none := by
  have word {meaning : Json} {letters inner : List Char} (plain : File.rowArray? meaning = none)
      (read : readWord meaning letters inner = .ok (value, rest)) : File.rowArray? value = none := by
    rw [eq_of_readWord read]
    exact plain
  unfold readScalar at read
  split at read
  · cases read
  next inner =>
    cases string : readString inner with
    | error fault => rw [string] at read; cases read
    | ok found => rw [string] at read; cases read; rfl
  · exact word rfl read
  · exact word rfl read
  · exact word rfl read
  next c inner _ _ _ _ =>
    split at read
    · cases number : readNumber (c :: inner) with
      | error fault => rw [number] at read; cases read
      | ok found => rw [number] at read; cases read; rfl
    · cases read

theorem rowArray?_object (properties : List (String × Json)) :
    File.rowArray? (.object (Keyed.ofPairs properties)) = (Document.object properties).items? := by
  rw [File.rowArray?, Document.items?, Keyed.ofPairs_eq_standing]
  congr 1
  funext property
  obtain ⟨name, value⟩ := property
  cases value <;> rfl

theorem ok_of_map {α β : Type} {result : Except Fault α} {f : α → β} {found : β}
    (mapped : result.map f = .ok found) : ∃ value, result = .ok value ∧ f value = found := by
  cases result with
  | error fault => cases mapped
  | ok value =>
    cases mapped
    exact ⟨value, rfl, rfl⟩

theorem rowArray?_of_readDocument {budget : Nat} {text rest : List Char} {document : Document}
    (read : readDocument budget text = .ok (document, rest)) : File.rowArray? document.value = document.items? := by
  rw [readDocument] at read
  split at read
  next inner =>
    obtain ⟨found, _, same⟩ := ok_of_map read
    cases same
    rfl
  next inner =>
    obtain ⟨found, _, same⟩ := ok_of_map read
    cases same
    exact rowArray?_object found.1
  next =>
    obtain ⟨found, scalar, same⟩ := ok_of_map read
    cases same
    exact rowArray?_of_readScalar scalar

/-- A document that is read holds its rows where its value does. -/
theorem rowArray?_of_read {text : List Char} {document : Document} (read : Document.read text = .ok document) :
    File.rowArray? document.value = document.items? := by
  rw [Document.read] at read
  cases found : readDocument text.length text with
  | error fault =>
    rw [found] at read
    cases read
  | ok whole =>
    rw [found] at read
    dsimp only at read
    split at read
    · cases read
      exact rowArray?_of_readDocument found
    · cases read

end RowQuery.Json

namespace RowQuery.File

open Json (Document)

/-! ## What is loaded -/

/-- What is loaded from the items of an array, if there is one: rows, if all of them are objects, under the
names of the first. Otherwise the first item that is none is reported by its place. -/
inductive Loads : Option (List Json) → Except Failure Table → Prop
  | missing : Loads none (.error .noArrayFound)
  | empty : Loads (some []) (.error (.emptyFile "File contains no data"))
  | malformed (front : List Row) (item : Json) (rest : List Json) (noObject : ∀ members, item ≠ .object members) :
    Loads (some (front.map .object ++ item :: rest))
      (.error (.malformedInput ("Element " ++ toString front.length ++ " of the row array is not an object: " ++
        item.compact)))
  | table (first : Row) (rest : List Row) :
    Loads (some ((first :: rest).map .object)) (.ok ⟨first.keys, first :: rest⟩)

theorem rows_or_noObject (items : List Json) :
    (∃ rows : List Row, items = rows.map .object) ∨
      ∃ (front : List Row) (item : Json) (rest : List Json),
        (∀ members, item ≠ .object members) ∧ items = front.map .object ++ item :: rest := by
  induction items with
  | nil => exact .inl ⟨[], rfl⟩
  | cons item items ih =>
    by_cases object : ∃ members, item = .object members
    · obtain ⟨members, rfl⟩ := object
      rcases ih with ⟨rows, rfl⟩ | ⟨front, other, rest, noObject, rfl⟩
      · exact .inl ⟨members :: rows, rfl⟩
      · exact .inr ⟨members :: front, other, rest, noObject, rfl⟩
    · refine .inr ⟨[], item, items, ?_, rfl⟩
      intro members same
      exact object ⟨members, same⟩

theorem rowsFrom_noObject {item : Json} (noObject : ∀ members, item ≠ .object members) (rest : List Json)
    (front : List Row) (index : Nat) :
    rowsFrom index (front.map .object ++ item :: rest) =
      .error (.malformedInput ("Element " ++ toString (index + front.length) ++
        " of the row array is not an object: " ++ item.compact)) := by
  induction front generalizing index with
  | nil =>
    cases item with
    | object members => exact absurd rfl (noObject members)
    | _ => rfl
  | cons row front ih =>
    rw [List.map_cons, List.cons_append, rowsFrom, ih, List.length_cons, Nat.add_right_comm, Nat.add_assoc]
    rfl

theorem loads_tableOfJson (document : Json) : Loads (rowArray? document) (tableOfJson document) := by
  rw [tableOfJson]
  cases rowArray? document with
  | none => exact .missing
  | some items =>
    rcases rows_or_noObject items with ⟨rows, rfl⟩ | ⟨front, item, rest, noObject, rfl⟩
    · cases rows with
      | nil => exact .empty
      | cons row rows =>
        have loaded := rowsFrom_object 0 (row :: rows)
        rw [List.map_cons] at loaded
        simp only [List.map_cons, loaded]
        exact .table row rows
    · have reported := rowsFrom_noObject noObject rest front 0
      rw [Nat.zero_add] at reported
      have some : front.map .object ++ item :: rest ≠ [] := by simp
      split
      next found => cases found
      next found => exact absurd (Option.some.inj found) some
      next found =>
        cases found
        rw [reported]
        exact .malformed front item rest noObject

/-! ## What does not matter -/

/-- Changes of an object that do not matter. Behind the first array anything may stand, under names that have
not come up until then; of a value that is no array it does not matter which it is; and all that counts is how
the properties stand when each name stands once. -/
inductive SameStart : List (String × Json) → List (String × Json) → Prop
  | behind {front : List (String × Json)} (more less : List (String × Json))
    (array : (Document.object front).items? ≠ none) (newMore : ∀ name ∈ Keyed.keys more, name ∉ Keyed.keys front)
    (newLess : ∀ name ∈ Keyed.keys less, name ∉ Keyed.keys front) : SameStart (front ++ more) (front ++ less)
  | replaced (front : List (String × Json)) (name : String) {value other : Json} (rest : List (String × Json))
    (noArray : value.items? = none) (noArrayOther : other.items? = none) :
    SameStart (front ++ (name, value) :: rest) (front ++ (name, other) :: rest)
  | standing {properties others front changed : List (String × Json)} {name : String} {items : List Json}
    {behind other : List (String × Json)} (stand : Keyed.standing properties = front ++ (name, .array items) :: behind)
    (standOther : Keyed.standing others = changed ++ (name, .array items) :: other)
    (noArray : ∀ property ∈ front, property.2.items? = none)
    (noArrayOther : ∀ property ∈ changed, property.2.items? = none) : SameStart properties others

/-- The first array is found by going through the names. -/
theorem items?_object (properties : List (String × Json)) :
    (Document.object properties).items? =
      (Keyed.keys properties).eraseDups.findSome? fun name => (Keyed.lastValue? properties name).bind Json.items? := by
  rw [Document.items?, Keyed.standing, ← List.head?_filterMap, List.filterMap_filterMap, List.head?_filterMap]
  congr 1
  funext name
  cases Keyed.lastValue? properties name <;> rfl

theorem items?_append {front more : List (String × Json)} (array : (Document.object front).items? ≠ none)
    (new : ∀ name ∈ Keyed.keys more, name ∉ Keyed.keys front) :
    (Document.object (front ++ more)).items? = (Document.object front).items? := by
  obtain ⟨items, held⟩ := Option.ne_none_iff_exists'.mp array
  have kept : ∀ name ∈ (Keyed.keys front).eraseDups,
      (Keyed.lastValue? (front ++ more) name).bind Json.items? =
        (Keyed.lastValue? front name).bind Json.items? := by
    intro name member
    have absent : name ∉ Keyed.keys more := fun among => new name among (List.mem_eraseDups.mp member)
    rw [Keyed.lastValue?_append, Keyed.lastValue?_of_not_mem absent, Option.none_or]
  have first : ((Keyed.keys front).eraseDups.findSome? fun name =>
      (Keyed.lastValue? (front ++ more) name).bind Json.items?) = some items := by
    rw [← List.head?_filterMap, List.filterMap_congr kept, List.head?_filterMap, ← items?_object, held]
  have names : Keyed.keys (front ++ more) = Keyed.keys front ++ Keyed.keys more := List.map_append
  rw [held, items?_object, names, List.eraseDups_append, List.findSome?_append, first, Option.some_or]

theorem items?_replaced (front : List (String × Json)) (name : String) {value other : Json}
    (rest : List (String × Json)) (noArray : value.items? = none) (noArrayOther : other.items? = none) :
    (Document.object (front ++ (name, value) :: rest)).items? =
      (Document.object (front ++ (name, other) :: rest)).items? := by
  have names : Keyed.keys (front ++ (name, value) :: rest) = Keyed.keys (front ++ (name, other) :: rest) := by
    simp [Keyed.keys]
  rw [items?_object, items?_object, names]
  congr 1
  funext title
  rw [List.append_cons, Keyed.lastValue?_append, Keyed.lastValue?_concat, List.append_cons,
    Keyed.lastValue?_append, Keyed.lastValue?_concat]
  cases Keyed.lastValue? rest title with
  | some last => rfl
  | none =>
    by_cases here : name = title
    · simp [here, noArray, noArrayOther]
    · simp [here]

theorem items?_of_front {properties front behind : List (String × Json)} {name : String} {items : List Json}
    (stand : Keyed.standing properties = front ++ (name, .array items) :: behind)
    (noArray : ∀ property ∈ front, property.2.items? = none) :
    (Document.object properties).items? = some items := by
  rw [Document.items?, stand, List.findSome?_append, List.findSome?_eq_none_iff.mpr noArray]
  rfl

theorem items?_of_sameStart {properties others : List (String × Json)} (same : SameStart properties others) :
    (Document.object others).items? = (Document.object properties).items? := by
  cases same with
  | behind more less array newMore newLess => rw [items?_append array newMore, items?_append array newLess]
  | replaced front name rest noArray noArrayOther => exact items?_replaced front name rest noArrayOther noArray
  | standing stand standOther noArray noArrayOther =>
    rw [items?_of_front stand noArray, items?_of_front standOther noArrayOther]

theorem tableOfJson_congr {document other : Json} (same : rowArray? other = rowArray? document) :
    tableOfJson other = tableOfJson document := by
  rw [tableOfJson, tableOfJson, same]

theorem readJson_of_read {text : List Char} {document : Document} (read : Document.read text = .ok document) :
    readJson text = tableOfJson document.value := by
  rw [readJson, Json.read_eq, read]
  rfl

/-- A text is loaded by the first array of the document that it writes, and it writes the document that it spells. -/
structure LoadsFirstArray (text : List Char) : Prop where
  whole : Json.read text = (Document.read text).map Document.value
  read : ∀ document front spelled behind, document.Plain → Json.Spells .free 0 document.written spelled →
    Json.Spaces front → Json.Spaces behind → text = front ++ spelled ++ behind → Document.read text = .ok document
  outcome : ∀ document, Document.read text = .ok document → Loads document.items? (readJson text)
  blind : ∀ properties other others, Document.read text = .ok (.object properties) →
    Document.read other = .ok (.object others) → SameStart properties others → readJson other = readJson text

/-- Every text is loaded by its first array, and by nothing else that it holds. -/
theorem loadsFirstArray_readJson (text : List Char) : LoadsFirstArray text where
  whole := Json.read_eq text
  read := by
    rintro document front spelled behind plain spells spacesFront spacesBehind rfl
    exact Json.read_document plain spells spacesFront spacesBehind
  outcome := by
    intro document read
    rw [readJson_of_read read, ← Json.rowArray?_of_read read]
    exact loads_tableOfJson document.value
  blind := by
    intro properties other others read readOther same
    rw [readJson_of_read read, readJson_of_read readOther]
    apply tableOfJson_congr
    rw [Json.rowArray?_of_read read, Json.rowArray?_of_read readOther]
    exact items?_of_sameStart same

/-- The last value of a repeated name counts, so that the first array here is the second one written. -/
theorem loadsFirstArray_readJson_repeatedName :
    let text := "\x7b\"a\": [null], \"b\": [\x7b\"x\": \"y\"\x7d], \"a\": null, \"c\": []\x7d".toList
    Document.read text = .ok (.object
        [("a", .array [.null]), ("b", .array [.object [("x", .string "y")]]), ("a", .null), ("c", .array [])]) ∧
      Loads (some [.object [("x", .string "y")]]) (readJson text) ∧
      readJson text = .ok ⟨["x"], [[("x", .string "y")]]⟩ := by
  intro text
  have read : Document.read text = .ok (.object
      [("a", .array [.null]), ("b", .array [.object [("x", .string "y")]]), ("a", .null), ("c", .array [])]) := by rfl
  exact ⟨read, (loadsFirstArray_readJson text).outcome _ read, by rfl⟩

end RowQuery.File
