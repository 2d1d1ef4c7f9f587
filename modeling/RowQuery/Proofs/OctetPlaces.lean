import Mathlib.Data.List.Infix
import Mathlib.Data.String.Basic
import RowQuery.Proofs.Searching
import RowQuery.Proofs.Utf8
import RowQuery.Query.Parser

/-!
# Searching and cutting by octets

A keyword is a word of ASCII letters, and no octet of a longer character is one of ASCII
(`Utf8.le_of_mem_utf8EncodeChar`). So among the octets of a text in lower case a keyword stands where it stands
among the characters, behind the octets of those in front of it (`findOctets?_octets`), and these are as many
octets as in the text itself. A text that is cut there is cut between its characters: no cut fails, and the
query is the one that is read by characters (`parseOctets?_eq`).
-/

namespace RowQuery

namespace Text

/-- The octets of characters. -/
def octets (text : List Char) : List UInt8 := text.flatMap String.utf8EncodeChar

/-- An octet that is a letter A to Z, as the same letter of a to z. -/
def foldOctet (b : UInt8) : UInt8 := if 65 ≤ b.toNat ∧ b.toNat ≤ 90 then b + 32 else b

/-- Where some octets first stand among others: the number of octets in front of them. -/
def findOctets? (word among : List UInt8) : Option Nat := among.tails.findIdx? word.isPrefixOf

/-! ## The octets of a character -/

theorem not_mem_utf8EncodeChar {c d : Char} (ascii : d.toNat < 0x80) (wide : ¬c.toNat < 0x80) :
    UInt8.ofNat d.toNat ∉ String.utf8EncodeChar c := by
  intro member
  have least := Utf8.le_of_mem_utf8EncodeChar (Nat.le_of_not_lt wide) _ member
  rw [Utf8.toNat_octet (by omega)] at least
  omega

/-- Letters come to lower case octet by octet as they do character by character. -/
theorem map_foldOctet_utf8EncodeChar (c : Char) :
    (String.utf8EncodeChar c).map foldOctet = String.utf8EncodeChar c.toLower := by
  by_cases ascii : c.toNat < 0x80
  · have lowered : c.toLower.toNat < 0x80 := by
      rw [toNat_toLower]
      split <;> omega
    rw [Utf8.utf8EncodeChar_ascii ascii, Utf8.utf8EncodeChar_ascii lowered, List.map_singleton, foldOctet,
      Utf8.toNat_octet (by omega), toNat_toLower]
    split
    next => rw [UInt8.ofNat_add]; rfl
    next => rfl
  · have same : c.toLower = c := by rw [← Char.toNat_inj, toNat_toLower, if_neg (by omega)]
    rw [same]
    conv_rhs => rw [← List.map_id (String.utf8EncodeChar c)]
    refine List.map_congr_left fun b member => ?_
    have least := Utf8.le_of_mem_utf8EncodeChar (by omega) b member
    rw [foldOctet, if_neg (by omega), id]

/-! ## The octets of a text -/

theorem octets_cons (c : Char) (text : List Char) : octets (c :: text) = String.utf8EncodeChar c ++ octets text :=
  List.flatMap_cons

theorem map_foldOctet_octets (text : List Char) : (octets text).map foldOctet = octets (foldCase text) := by
  rw [octets, List.map_flatMap, octets, foldCase, List.flatMap_map]
  simp only [map_foldOctet_utf8EncodeChar]

theorem length_octets (text : List Char) : (octets text).length = String.utf8Len text := by
  induction text with
  | nil => rfl
  | cons c text ih => rw [octets_cons, List.length_append, String.length_utf8EncodeChar, ih, String.utf8Len_cons, Nat.add_comm]

theorem utf8Len_foldCase (text : List Char) : String.utf8Len (foldCase text) = String.utf8Len text := by
  rw [← length_octets, ← map_foldOctet_octets, List.length_map, length_octets]

/-- A word of ASCII characters. -/
def Ascii (word : List Char) : Prop := ∀ c ∈ word, c.toNat < 0x80

instance (word : List Char) : Decidable (Ascii word) := List.decidableBAll (fun c : Char => c.toNat < 0x80) word

theorem utf8Len_ascii {word : List Char} (ascii : Ascii word) : String.utf8Len word = word.length := by
  induction word with
  | nil => rfl
  | cons c word ih =>
    obtain ⟨first, rest⟩ := List.forall_mem_cons.mp ascii
    rw [String.utf8Len_cons, ih rest, ← String.length_utf8EncodeChar, Utf8.utf8EncodeChar_ascii first]
    rfl

/-- The octets of a word of ASCII characters stand at the head of those of a text only if the word does. -/
theorem octets_prefix_iff {word : List Char} (ascii : Ascii word) (text : List Char) :
    octets word <+: octets text ↔ word <+: text := by
  induction word generalizing text with
  | nil => simp [octets]
  | cons d word ih =>
    obtain ⟨first, rest⟩ := List.forall_mem_cons.mp ascii
    rw [octets_cons, Utf8.utf8EncodeChar_ascii first, List.singleton_append]
    cases text with
    | nil => simp [octets]
    | cons c text =>
      rw [octets_cons, List.cons_prefix_cons]
      by_cases narrow : c.toNat < 0x80
      · rw [Utf8.utf8EncodeChar_ascii narrow, List.singleton_append, List.cons_prefix_cons, ih rest, ← Char.toNat_inj,
          ← UInt8.toNat_inj, Utf8.toNat_octet (by omega), Utf8.toNat_octet (by omega)]
      · -- neither the characters nor their first octets are the same
        have some : String.utf8EncodeChar c ≠ [] := String.utf8EncodeChar_ne_nil
        obtain ⟨b, more, encoded⟩ := List.exists_cons_of_ne_nil some
        have otherChar : d ≠ c := by
          rintro rfl
          exact narrow first
        have otherOctet : UInt8.ofNat d.toNat ≠ b := by
          rintro rfl
          exact not_mem_utf8EncodeChar first narrow (encoded ▸ List.mem_cons_self)
        rw [encoded, List.cons_append, List.cons_prefix_cons]
        simp [otherChar, otherOctet]

/-! ## Searching -/

theorem findOctets?_eq_some_zero {word among : List UInt8} (opens : word <+: among) :
    findOctets? word among = some 0 := by
  cases among with
  | nil => simp [findOctets?, List.prefix_nil.mp opens]
  | cons b rest => rw [findOctets?, List.tails_cons, List.findIdx?_cons, if_pos (List.isPrefixOf_iff_prefix.mpr opens)]

theorem findOctets?_cons {word rest : List UInt8} {b : UInt8} (later : ¬word <+: b :: rest) :
    findOctets? word (b :: rest) = (findOctets? word rest).map (· + 1) := by
  rw [findOctets?, List.tails_cons, List.findIdx?_cons, if_neg (by rwa [List.isPrefixOf_iff_prefix]), findOctets?]

/-- Octets among which the first of a word is not are passed over. -/
theorem findOctets?_append {first : UInt8} {word front : List UInt8} (apart : first ∉ front) (rest : List UInt8) :
    findOctets? (first :: word) (front ++ rest) = (findOctets? (first :: word) rest).map (· + front.length) := by
  induction front with
  | nil => simp
  | cons b front ih =>
    obtain ⟨other, later⟩ := List.ne_and_not_mem_of_not_mem_cons apart
    have notHere : ¬first :: word <+: b :: (front ++ rest) := by
      rw [List.cons_prefix_cons]
      exact fun opens => other opens.1
    rw [List.cons_append, findOctets?_cons notHere, ih later, Option.map_map]
    rfl

theorem findOctets?_octets_cons {d : Char} {word : List Char} (ascii : Ascii (d :: word)) {c : Char} {text : List Char}
    (later : ¬d :: word <+: c :: text) :
    findOctets? (octets (d :: word)) (octets (c :: text)) =
      (findOctets? (octets (d :: word)) (octets text)).map (· + c.utf8Size) := by
  obtain ⟨first, rest⟩ := List.forall_mem_cons.mp ascii
  rw [← octets_prefix_iff ascii] at later
  rw [octets_cons c] at later
  rw [octets_cons c, ← String.length_utf8EncodeChar]
  by_cases narrow : c.toNat < 0x80
  · rw [Utf8.utf8EncodeChar_ascii narrow] at later ⊢
    exact findOctets?_cons later
  · -- no place within the octets of a longer character comes into question
    rw [octets_cons d, Utf8.utf8EncodeChar_ascii first, List.singleton_append]
    exact findOctets?_append (not_mem_utf8EncodeChar first narrow) _

/-- A word of ASCII characters is found among the octets of a text behind those of the characters that stand in
front of it in the text. -/
theorem findOctets?_octets {word : List Char} (written : word ≠ []) (ascii : Ascii word) (text : List Char) :
    findOctets? (octets word) (octets text) = (find? word text).map fun place => String.utf8Len (text.take place) := by
  obtain ⟨d, word, rfl⟩ := List.exists_cons_of_ne_nil written
  induction text with
  | nil =>
    rw [octets_cons, Utf8.utf8EncodeChar_ascii (ascii d List.mem_cons_self)]
    rfl
  | cons c text ih =>
    by_cases opens : d :: word <+: c :: text
    · rw [find?_eq_some_zero opens, findOctets?_eq_some_zero ((octets_prefix_iff ascii _).mpr opens)]
      rfl
    · rw [findOctets?_octets_cons ascii opens, ih, find?, if_neg (by rwa [List.isPrefixOf_iff_prefix]), Option.map_map,
        Option.map_map]
      rfl

/-- How many octets the first characters of a text take. -/
def octetsBefore (text : List Char) (place : Nat) : Nat := String.utf8Len (text.take place)

theorem octetsBefore_le_iff {text : List Char} {place : Nat} (within : place ≤ text.length) (other : Nat) :
    octetsBefore text place ≤ octetsBefore text other ↔ place ≤ other := by
  constructor
  · intro less
    by_contra behind
    have split : text.take place = text.take other ++ (text.drop other).take (place - other) := by
      rw [← List.take_add, Nat.add_sub_cancel' (by omega)]
    rw [octetsBefore, octetsBefore, split, String.utf8Len_append] at less
    have nothing : (text.drop other).take (place - other) = [] := String.utf8Len_eq_zero.mp (by omega)
    have counted := congrArg List.length nothing
    rw [List.length_take, List.length_drop, List.length_nil] at counted
    omega
  · intro less
    exact String.utf8Len_le_of_prefix (List.take_prefix_take_left less)

theorem isValid_octetsBefore (text : String) (place : Nat) :
    String.Pos.Raw.IsValid text ⟨octetsBefore text.toList place⟩ := by
  have valid : String.Pos.Raw.IsValid (String.ofList text.toList) ⟨octetsBefore text.toList place⟩ :=
    String.Pos.Raw.isValid_ofList.mpr ⟨place, (String.utf8ByteSize_ofList _).symm⟩
  rwa [String.ofList_toList] at valid

/-- A word that can be looked for in a text in lower case, octet by octet. -/
structure Keyword (word : List Char) : Prop where
  written : word ≠ []
  lower : foldCase word = word
  ascii : Ascii word

section
variable {word : List Char} (keyword : Keyword word)
include keyword

/-- A keyword is found at the same place octet by octet and character by character. -/
theorem findOctets?_folded (text : List Char) :
    findOctets? (octets word) ((octets text).map foldOctet) = (findFolded? word text).map (octetsBefore text) := by
  rw [map_foldOctet_octets, findOctets?_octets keyword.written keyword.ascii, findFolded?, keyword.lower]
  congr 1
  funext place
  rw [octetsBefore, ← utf8Len_foldCase (text.take place), foldCase, foldCase, List.map_take]

/-- However it is spelled, a keyword takes as many octets as it has characters. -/
theorem octetsBefore_add_length {text : List Char} {place : Nat} (found : findFolded? word text = some place) :
    octetsBefore text (place + word.length) = octetsBefore text place + word.length := by
  have here := ((find?_eq_some_iff _ _ _).mp found).here
  rw [keyword.lower, foldCase, ← List.map_drop] at here
  have spelled : foldCase ((text.drop place).take word.length) = word := by
    rw [foldCase, List.map_take]
    exact (List.prefix_iff_eq_take.mp here).symm
  rw [octetsBefore, List.take_add, String.utf8Len_append, ← utf8Len_foldCase ((text.drop place).take word.length), spelled,
    utf8Len_ascii keyword.ascii, octetsBefore]

end

end Text

namespace Query

/-! ## Cutting -/

/-- Where a word first stands in a text, in any letter case: the number of octets in front of it. -/
def octetStart? (word text : String) : Option Nat :=
  Text.findOctets? (Text.Utf8.encode word) ((Text.Utf8.encode text).map Text.foldOctet)

/-- Where the keywords of a text stand, in octets. -/
def octetKeywords (text : String) : Keywords :=
  { selectEnd := (octetStart? "select" text).map (· + "select".utf8ByteSize)
    fromStart := octetStart? "from" text
    whereEnd := (octetStart? "where" text).map (· + "where".utf8ByteSize) }

/-- The characters from one octet up to another. There are none unless each of the two stands at an end of the
text or between two characters, and they are in this order. -/
def cut? (text : String) (start stop : Nat) : Option (List Char) :=
  if start ≤ stop ∧ String.Pos.Raw.IsValid text ⟨start⟩ ∧ String.Pos.Raw.IsValid text ⟨stop⟩ then
    some (String.Pos.Raw.extract text ⟨start⟩ ⟨stop⟩).toList
  else none

/-- The clause between two keywords; it is empty if they are in the wrong order. -/
def clauseAt? (text : String) (start stop : Nat) : Option (List Char) :=
  if start ≤ stop then cut? text start stop else some []

/-- The filter that is written behind a keyword, if there is one. -/
def testAt? (text : String) : Option Nat → Option (Option Filter)
  | none => some none
  | some place => (cut? text place text.utf8ByteSize).map filter?

/-- The query that a text writes if it is searched and cut by octets; none if a cut fails. -/
def parseOctets? (text : String) : Option Query :=
  let words := octetKeywords text
  match words.selectEnd, words.fromStart with
  | some start, some stop => do
    let clause ← clauseAt? text start stop
    let test ← testAt? text words.whereEnd
    some (.select (projection clause) test)
  | _, _ => some .passthrough

theorem keyword_select : Text.Keyword "select".toList := ⟨by decide, by decide, by decide⟩

theorem keyword_from : Text.Keyword "from".toList := ⟨by decide, by decide, by decide⟩

theorem keyword_where : Text.Keyword "where".toList := ⟨by decide, by decide, by decide⟩

section
variable {word : String} (keyword : Text.Keyword word.toList) (text : String)
include keyword

theorem octetStart?_eq :
    octetStart? word text = (Text.findFolded? word.toList text.toList).map (Text.octetsBefore text.toList) := by
  rw [octetStart?, Text.Utf8.encode_eq, Text.Utf8.encode_eq]
  exact Text.findOctets?_folded keyword text.toList

theorem octetEnd?_eq :
    (octetStart? word text).map (· + word.utf8ByteSize) =
      (endOf? word.toList text.toList).map (Text.octetsBefore text.toList) := by
  rw [octetStart?_eq keyword, endOf?, ← String.utf8Len_toList, Text.utf8Len_ascii keyword.ascii]
  cases place : Text.findFolded? word.toList text.toList with
  | none => rfl
  | some place => exact congrArg some (Text.octetsBefore_add_length keyword place).symm

end

theorem octetKeywords_eq (text : String) :
    octetKeywords text =
      { selectEnd := (keywords text.toList).selectEnd.map (Text.octetsBefore text.toList)
        fromStart := (keywords text.toList).fromStart.map (Text.octetsBefore text.toList)
        whereEnd := (keywords text.toList).whereEnd.map (Text.octetsBefore text.toList) } := by
  rw [octetKeywords, octetEnd?_eq keyword_select, octetStart?_eq keyword_from, octetEnd?_eq keyword_where, keywords]

theorem cut?_eq (text : String) {start stop : Nat} (ordered : start ≤ stop) :
    cut? text (Text.octetsBefore text.toList start) (Text.octetsBefore text.toList stop) =
      some (slice text.toList start stop) := by
  have valid : Text.octetsBefore text.toList start ≤ Text.octetsBefore text.toList stop ∧
      String.Pos.Raw.IsValid text ⟨Text.octetsBefore text.toList start⟩ ∧
      String.Pos.Raw.IsValid text ⟨Text.octetsBefore text.toList stop⟩ :=
    ⟨String.utf8Len_le_of_prefix (List.take_prefix_take_left ordered), Text.isValid_octetsBefore text start,
      Text.isValid_octetsBefore text stop⟩
  have front : text.toList.take start ++ slice text.toList start stop = text.toList.take stop := by
    have shorter : text.toList.take start = (text.toList.take stop).take start := by
      rw [List.take_take, Nat.min_eq_left ordered]
    rw [slice, shorter, List.take_append_drop]
  have place : Text.octetsBefore text.toList stop =
      String.utf8Len (text.toList.take start) + String.utf8Len (slice text.toList start stop) := by
    rw [Text.octetsBefore, ← front, String.utf8Len_append]
  have whole : text = String.ofList (text.toList.take start ++ slice text.toList start stop ++ text.toList.drop stop) := by
    rw [front, List.take_append_drop, String.ofList_toList]
  have extracted := String.extract_of_valid (text.toList.take start) (slice text.toList start stop) (text.toList.drop stop)
  rw [← whole, ← place] at extracted
  rw [cut?, if_pos valid, Text.octetsBefore, extracted, String.toList_ofList]

theorem endOf?_le {word text : List Char} (written : word ≠ []) {place : Nat} (found : endOf? word text = some place) :
    place ≤ text.length := by
  obtain ⟨start, stands, rfl⟩ := Option.map_eq_some_iff.mp found
  exact Text.findFolded?_end_le written stands

theorem clauseAt?_eq (text : String) {start : Nat} (within : start ≤ text.toList.length) (stop : Nat) :
    clauseAt? text (Text.octetsBefore text.toList start) (Text.octetsBefore text.toList stop) =
      some (slice text.toList start stop) := by
  by_cases ordered : start ≤ stop
  · rw [clauseAt?, if_pos ((Text.octetsBefore_le_iff within stop).mpr ordered), cut?_eq text ordered]
  · rw [clauseAt?, if_neg (mt (Text.octetsBefore_le_iff within stop).mp ordered), slice,
      List.drop_of_length_le (by rw [List.length_take]; omega)]

theorem testAt?_eq (text : String) {place : Option Nat} (within : ∀ start ∈ place, start ≤ text.toList.length) :
    testAt? text (place.map (Text.octetsBefore text.toList)) =
      some (place.bind fun start => filter? (text.toList.drop start)) := by
  cases place with
  | none => rfl
  | some start =>
    have size : text.utf8ByteSize = Text.octetsBefore text.toList text.toList.length := by
      rw [Text.octetsBefore, List.take_length, String.utf8Len_toList]
    rw [Option.map_some, testAt?, size, cut?_eq text (within start rfl), slice, List.take_length]
    rfl

/-- Whatever the text is, no cut fails, and it is read as it is when it is cut by characters. -/
theorem parseOctets?_eq (text : String) : parseOctets? text = some (parse text) := by
  have conditioned : ∀ place ∈ (keywords text.toList).whereEnd, place ≤ text.toList.length := fun place found =>
    endOf?_le keyword_where.written found
  rw [parseOctets?, octetKeywords_eq, parse, ofChars]
  cases selected : (keywords text.toList).selectEnd with
  | none => rfl
  | some start =>
    cases (keywords text.toList).fromStart with
    | none => rfl
    | some stop =>
      dsimp only [Option.map_some]
      rw [clauseAt?_eq text (endOf?_le keyword_select.written selected), testAt?_eq text conditioned]
      rfl

end Query

end RowQuery
