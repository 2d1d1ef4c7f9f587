import RowQuery.Json.Record
import RowQuery.Proofs.JsonRoundTrip
import RowQuery.Proofs.Keyed
import RowQuery.Proofs.Utf8

/-!
# Records, written and read

A record of texts is an object with one member for each of them. It is read back member by member: each
is read by the field of its name, in front of the comma or the bracket behind it (`readContent_kept`),
and what has been read so far is the record of the members in front (`readNamed_written`). So any texts
that the fields take are read back (`readRecord_compact`).
-/

namespace RowQuery.Json

/-- A text that a field of a shape can hold. -/
def Shape.Takes (text : String) : Shape → Prop
  | .text | .optionalText => True
  | .choice names => text ∈ names

/-- A text under the name of a field that can hold it. -/
def Taken (fields : List Field) (entry : String × String) : Prop :=
  ∃ field, fields.find? (fun field => field.name == entry.1) = some field ∧ field.shape.Takes entry.2

/-- Texts for some of the fields of a record, each once, and for all that must not be missing. -/
structure Fills (fields : List Field) (texts : Keyed String) : Prop where
  distinct : texts.keys.Nodup
  taken : ∀ entry ∈ texts, Taken fields entry
  required : ∀ field ∈ fields, field.required = true → field.name ∈ texts.keys

/-! ## Strings that are kept -/

theorem skipStringFrom_plain {part : List Char} (plain : ∀ c ∈ part, c ≠ '"' ∧ c ≠ '\\' ∧ 0x20 ≤ c.toNat)
    (rest : List Char) : skipStringFrom 0 (part ++ rest) = skipStringFrom 0 rest := by
  induction part with
  | nil => rfl
  | cons c part ih =>
    obtain ⟨⟨notQuote, notBackslash, visible⟩, later⟩ := List.forall_mem_cons.mp plain
    rw [List.cons_append, skipStringFrom, if_neg notQuote, if_neg notBackslash, if_neg (Nat.not_lt.mpr visible)]
    exact ih later

theorem toNat_lt_of_hexValue? {c : Char} {d : Nat} (value : Text.hexValue? c = some d) : c.toNat < 0x80 := by
  have decimal : c.isDigit = true → c.toNat < 0x80 := fun digit => by
    have bounds : 48 ≤ c.toNat ∧ c.toNat ≤ 57 := Char.isDigit_iff_toNat.mp digit
    omega
  have below (limit : Char) (within : c ≤ limit) (small : limit.toNat < 0x80) : c.toNat < 0x80 :=
    Nat.lt_of_le_of_lt (UInt32.le_iff_toNat_le.mp within) small
  rw [Text.hexValue?] at value
  split at value
  next digit => exact decimal digit
  split at value
  next lower => exact below 'f' lower.2 (by decide)
  split at value
  next upper => exact below 'F' upper.2 (by decide)
  next => cases value

theorem ascii_of_hexQuad {n : Nat} {quad : List Char} (written : HexQuad n quad) : ∀ c ∈ quad, c.toNat < 0x80 := by
  cases written with
  | digits first second third fourth =>
    simp only [List.forall_mem_cons, List.not_mem_nil, false_imp_iff, implies_true, and_true]
    exact ⟨toNat_lt_of_hexValue? first, toNat_lt_of_hexValue? second, toNat_lt_of_hexValue? third,
      toNat_lt_of_hexValue? fourth⟩

theorem skipStringFrom_hexQuad {n : Nat} {quad : List Char} (written : HexQuad n quad) (rest : List Char) :
    skipStringFrom 0 ('\\' :: 'u' :: (quad ++ rest)) = skipStringFrom 0 rest := by
  cases written with
  | digits first second third fourth =>
    rw [skipStringFrom, if_neg (by decide), if_pos rfl]
    simp [escapeWidth?, first, second, third, fourth, skipStringFrom]

/-- The octets of a text that spells a character are passed over. -/
theorem skipStringFrom_octetChars {c : Char} {text : List Char} (spelled : SpellsChar c text) (rest : List Char) :
    skipStringFrom 0 (Text.Utf8.octetChars text ++ rest) = skipStringFrom 0 rest := by
  cases spelled with
  | itself notQuote notBackslash visible =>
    apply skipStringFrom_plain
    by_cases narrow : c.toNat < 0x80
    · rw [Text.Utf8.octetChars_ascii (List.forall_mem_singleton.mpr narrow), List.forall_mem_singleton]
      exact ⟨notQuote, notBackslash, visible⟩
    · intro d among
      have wide := Text.Utf8.le_of_mem_octetChars (Nat.le_of_not_lt narrow) d among
      refine ⟨?_, ?_, by omega⟩ <;>
      · rintro rfl
        exact absurd wide (by decide)
  | letter short =>
    simp only [shortEscapes, List.mem_cons, Prod.mk.injEq, List.not_mem_nil, or_false] at short
    rcases short with ⟨rfl, rfl⟩ | ⟨rfl, rfl⟩ | ⟨rfl, rfl⟩ | ⟨rfl, rfl⟩ | ⟨rfl, rfl⟩ | ⟨rfl, rfl⟩ | ⟨rfl, rfl⟩ |
      ⟨rfl, rfl⟩ <;> rfl
  | @number quad written =>
    have ascii : ∀ c ∈ '\\' :: 'u' :: quad, c.toNat < 0x80 :=
      List.forall_mem_cons.mpr ⟨by decide, List.forall_mem_cons.mpr ⟨by decide, ascii_of_hexQuad written⟩⟩
    rw [Text.Utf8.octetChars_ascii ascii]
    exact skipStringFrom_hexQuad written rest
  | @surrogates high low first second _ _ _ leading trailing =>
    have ascii : ∀ c ∈ '\\' :: 'u' :: (first ++ '\\' :: 'u' :: second), c.toNat < 0x80 := by
      simp only [List.forall_mem_cons, List.forall_mem_append]
      exact ⟨by decide, by decide, ascii_of_hexQuad leading, by decide, by decide, ascii_of_hexQuad trailing⟩
    rw [Text.Utf8.octetChars_ascii ascii, List.cons_append, List.cons_append, List.append_assoc,
      skipStringFrom_hexQuad leading]
    exact skipStringFrom_hexQuad trailing rest

theorem skipStringFrom_pieces {chars : List Char} {pieces : List (List Char)}
    (spelled : List.Forall₂ SpellsChar chars pieces) (rest : List Char) :
    skipStringFrom 0 (Text.Utf8.octetChars pieces.flatten ++ '"' :: rest) = some rest := by
  induction spelled with
  | nil => rfl
  | cons first _ ih =>
    rw [List.flatten_cons, Text.Utf8.octetChars_append, List.append_assoc, skipStringFrom_octetChars first, ih]

/-- A string is kept as it is read from a text that spells it, of which only the octets are seen. -/
theorem exists_readKept {s : String} {text : List Char} (spelled : SpellsString s text) :
    ∃ inner, Text.Utf8.octetChars text = '"' :: inner ∧ ∀ rest, readKept (inner ++ rest) = .ok (s, rest) := by
  obtain ⟨inner, rfl, read⟩ := exists_readString spelled
  obtain ⟨pieces, each, same⟩ := spelled
  obtain rfl : inner = pieces.flatten ++ ['"'] := (List.cons.inj same).2
  have quote : Text.Utf8.octetChars ['"'] = ['"'] := rfl
  refine ⟨Text.Utf8.octetChars (pieces.flatten ++ ['"']), rfl, ?_⟩
  intro rest
  have skipped : skipStringFrom 0 (Text.Utf8.octetChars (pieces.flatten ++ ['"']) ++ rest) = some rest := by
    rw [Text.Utf8.octetChars_append, quote, List.append_assoc, List.singleton_append, skipStringFrom_pieces each]
  have whole := read []
  rw [List.append_nil] at whole
  rw [readKept, skipped]
  simp only [List.length_append, Nat.add_sub_cancel, List.take_left', Text.Utf8.decode_ofChars, String.toList_ofList,
    whole]

/-! ## One member -/

/-- A string between quotes, of which the octets are seen. -/
def keptText (s : String) : List Char := Text.Utf8.octetChars (quoted s)

theorem exists_keptText (s : String) :
    ∃ inner, keptText s = '"' :: inner ∧ ∀ rest, readKept (inner ++ rest) = .ok (s, rest) :=
  exists_readKept (spellsString_quoted s)

theorem readText_kept (s : String) (rest : List Char) : readText (keptText s ++ rest) = .ok (s, rest) := by
  obtain ⟨inner, opened, read⟩ := exists_keptText s
  rw [opened, List.cons_append, readText, skipSpaces_of_head (by decide)]
  exact read rest

theorem readName_kept {names : List String} {s : String} (listed : s ∈ names) (rest : List Char) :
    readName names (keptText s ++ rest) = .ok (s, rest) := by
  have found : names.contains s = true := List.contains_iff_mem.mpr listed
  obtain ⟨inner, opened, read⟩ := exists_keptText s
  rw [opened, List.cons_append, readName, skipSpaces_of_head (by decide)]
  simp only [read, found, if_true]

theorem readShape_kept {shape : Shape} {s : String} (takes : shape.Takes s) (rest : List Char) :
    readShape shape (keptText s ++ rest) = .ok (some s, rest) := by
  obtain ⟨inner, opened, -⟩ := exists_keptText s
  cases shape with
  | text =>
    rw [readShape, readText_kept]
    rfl
  | optionalText =>
    -- What does not begin with the letter of null is read as a text.
    have other : readOptionalText (keptText s ++ rest) =
        (readText (keptText s ++ rest)).map fun read => (some read.1, read.2) := by
      rw [opened, List.cons_append, readOptionalText, skipSpaces_of_head (by decide)]
      rfl
    rw [readShape, other, readText_kept]
    rfl
  | choice names =>
    have alone : readChoice names (keptText s ++ rest) =
        (readName names (keptText s ++ rest)).map fun read => (some read.1, read.2) := by
      rw [opened, List.cons_append, readChoice, skipSpaces_of_head (by decide)]
      rfl
    rw [readShape, alone, readName_kept takes]
    rfl

/-- What stands behind the key of a member is read as the content of the field of that name. -/
theorem readContent_kept {fields : List Field} {record : Record} {key s : String} {field : Field}
    (known : fields.find? (fun field => field.name == key) = some field) (takes : field.shape.Takes s)
    (fresh : key ∉ record.keys) (rest : List Char) :
    readContent fields record key (':' :: (keptText s ++ rest)) = .ok (record ++ [(key, some s)], rest) := by
  have missing : record.has key = false := by
    rw [Bool.eq_false_iff]
    exact fun found => fresh ((Keyed.has_iff_mem_keys record key).mp found)
  have colon : readColon (':' :: (keptText s ++ rest)) = .ok (keptText s ++ rest) := by
    rw [readColon, skipSpaces_of_head (by decide)]
    rfl
  rw [readContent, known]
  simp only [missing, Bool.false_eq_true, if_false, colon, readShape_kept takes]
  rw [← Keyed.put_of_not_mem (some s) fresh]
  rfl

/-! ## All members -/

/-- A member that holds a text, of which the octets are seen. -/
def memberText (entry : String × String) : List Char := keptText entry.1 ++ ':' :: keptText entry.2

section
variable {fields : List Field} {record : Record} {key s : String} {field : Field}
  (known : fields.find? (fun field => field.name == key) = some field) (takes : field.shape.Takes s)
  (fresh : key ∉ record.keys) (budget : Nat) (rest : List Char)

include known takes fresh

/-- A member with the bracket behind it is the last one. -/
theorem readNamed_last : readNamed fields (budget + 1) record (memberText (key, s) ++ '}' :: rest) =
    complete fields (record ++ [(key, some s)]) := by
  have bracket : skipSpaces ('}' :: rest) = '}' :: rest := skipSpaces_of_head (by decide) rest
  obtain ⟨inner, opened, read⟩ := exists_keptText key
  rw [memberText, List.append_assoc, opened, List.cons_append, readNamed, skipSpaces_of_head (by decide)]
  simp only [read, List.cons_append, readContent_kept known takes fresh, bracket]

/-- Behind a member with a comma the next ones are read. -/
theorem readNamed_next : readNamed fields (budget + 1) record (memberText (key, s) ++ ',' :: rest) =
    readNamed fields budget (record ++ [(key, some s)]) rest := by
  have comma : skipSpaces (',' :: rest) = ',' :: rest := skipSpaces_of_head (by decide) rest
  obtain ⟨inner, opened, read⟩ := exists_keptText key
  rw [memberText, List.append_assoc, opened, List.cons_append, readNamed, skipSpaces_of_head (by decide)]
  simp only [read, List.cons_append, readContent_kept known takes fresh, comma]

end

/-- What is read of all members, after those in front of them, is the record of them all. -/
theorem readNamed_written {fields : List Field} {texts : Keyed String} (nonempty : texts ≠ [])
    (taken : ∀ entry ∈ texts, Taken fields entry) {budget : Nat} (few : texts.length ≤ budget) (record : Record)
    (distinct : (record.keys ++ texts.keys).Nodup) (rest : List Char) :
    readNamed fields budget record ([','].intercalate (texts.map memberText) ++ '}' :: rest) =
      complete fields (record ++ texts.mapValues some) := by
  induction texts generalizing budget record with
  | nil => exact absurd rfl nonempty
  | cons entry texts ih =>
    obtain ⟨key, s⟩ := entry
    obtain ⟨field, known, takes⟩ := taken (key, s) List.mem_cons_self
    obtain ⟨budget, rfl⟩ := Nat.exists_eq_add_one_of_ne_zero (n := budget) (by simp at few; omega)
    have fresh : key ∉ record.keys := by
      intro old
      exact (List.nodup_append.mp distinct).2.2 key old key List.mem_cons_self rfl
    cases texts with
    | nil =>
      rw [List.map_singleton, List.intercalate_singleton, readNamed_last known takes fresh]
      rfl
    | cons next texts =>
      have apart : (Keyed.keys (record ++ [(key, some s)]) ++ Keyed.keys (next :: texts)).Nodup := by
        simpa [Keyed.keys] using distinct
      have later := ih (List.cons_ne_nil next texts) (fun entry member => taken entry (List.mem_cons_of_mem _ member))
        (Nat.le_of_succ_le_succ few) _ apart
      rw [List.map_cons, List.map_cons, List.intercalate_cons_cons, List.append_assoc, List.append_assoc,
        List.singleton_append, readNamed_next known takes fresh, ← List.map_cons, later, List.append_assoc]
      rfl

theorem complete_filled {fields : List Field} {texts : Keyed String} (fills : Fills fields texts) :
    complete fields (texts.mapValues some) = .ok (texts.mapValues some) := by
  have keys : Keyed.keys (texts.mapValues some) = texts.keys := by
    simp [Keyed.keys, Keyed.mapValues]
  have whole : (fields.all fun field => !field.required || (texts.mapValues some).has field.name) = true := by
    refine List.all_eq_true.mpr ?_
    intro field member
    cases required : field.required with
    | false => rfl
    | true =>
      rw [Bool.not_true, Bool.false_or, Keyed.has_iff_mem_keys, keys]
      exact fills.required field member required
  rw [complete, if_pos whole]

/-- The octets of an object that holds texts are those of its members. -/
theorem octetChars_members (texts : Keyed String) :
    Text.Utf8.octetChars ([','].intercalate (compactMembers (texts.mapValues .string))) =
      [','].intercalate (texts.map memberText) := by
  have colon : Text.Utf8.octetChars [':'] = [':'] := rfl
  have comma : Text.Utf8.octetChars [','] = [','] := rfl
  have member (entry : String × String) :
      Text.Utf8.octetChars (quoted entry.1 ++ ':' :: compactText (.string entry.2)) = memberText entry := by
    rw [compactText, ← List.singleton_append, Text.Utf8.octetChars_append, Text.Utf8.octetChars_append, colon]
    rfl
  induction texts with
  | nil => rfl
  | cons entry texts ih =>
    have first := member entry
    cases texts with
    | nil =>
      simp only [Keyed.mapValues, List.map_cons, List.map_nil, compactMembers, List.intercalate_singleton, first]
    | cons next texts =>
      simp only [Keyed.mapValues, List.map_cons, compactMembers, List.intercalate_cons_cons] at ih ⊢
      rw [Text.Utf8.octetChars_append, Text.Utf8.octetChars_append, first, comma, ih]

/-- Texts that fill the fields are read back from the octets of the record that is written of them. -/
theorem readRecord_compact {fields : List Field} {texts : Keyed String} (fills : Fills fields texts) :
    readRecord fields (Text.Utf8.octetChars (Json.object (texts.mapValues .string)).compact.toList) =
      .ok (texts.mapValues some) := by
  have opening : Text.Utf8.octetChars ['{'] = ['{'] := rfl
  have closing : Text.Utf8.octetChars ['}'] = ['}'] := rfl
  rw [compact, String.toList_ofList, compactText, ← complete_filled fills, List.cons_append, ← List.singleton_append,
    Text.Utf8.octetChars_append, Text.Utf8.octetChars_append, opening, closing, octetChars_members]
  cases texts with
  | nil => rfl
  | cons entry texts =>
    have listed : Listed .compact 0 '}' (memberText entry :: texts.map memberText)
        ([','].intercalate (memberText entry :: texts.map memberText) ++ ['}']) := listed_compact 0 '}' _ _
    obtain ⟨later, begun⟩ := exists_append_of_listed listed
    obtain ⟨inner, opened, -⟩ := exists_keptText entry.1
    have few : (entry :: texts).length ≤ ('{' :: (memberText entry ++ later)).length := by
      have count := (length_listed listed).2
      rw [begun] at count
      simp only [List.length_cons, List.length_map] at count ⊢
      omega
    have read := readNamed_written (List.cons_ne_nil entry texts) fills.taken few [] fills.distinct []
    rw [List.map_cons, begun, memberText, opened] at read
    rw [List.map_cons, begun, memberText, opened, List.singleton_append, readRecord, skipSpaces_of_head (by decide)]
    simp only [List.cons_append, skipSpaces_of_head (show isSpace '"' = false by decide)]
    exact read

end RowQuery.Json
