import RowQuery.File.Load
import RowQuery.Proofs.Cutting
import RowQuery.Proofs.Searching

/-!
# Formats and file names

A format is told by what stands behind the last dot of the last part of a path, unless nothing stands in
front of the dot (`ofName_eq_ok_iff`). Letters outside of ASCII do not become letters of a format's name in
lower case (`lowerFrom_eq_iff`), so only the names themselves are accepted, in any case of their ASCII
letters. The folders in front make no difference, and what a file holds is never a reason to call its format
unsupported (`tellsFormat_of_part`).
-/

namespace RowQuery

namespace Text

/-! ## Lower case -/

/-- A small letter that no letter outside of ASCII has for its lower case form, or for the beginning of it. -/
def Settled (c : Char) : Prop := 97 ≤ c.toNat ∧ c.toNat ≤ 122 ∧ c ≠ 'i' ∧ c ≠ 'k'

/-- One run holds the letters of ASCII. All others start outside of it, and of these only that of the Kelvin
sign leads into it. -/
theorem caseRuns_cases : ∀ run ∈ caseRuns, (run.first = 65 ∧ run.last = 90 ∧ run.lower = 97) ∨
    (128 ≤ run.first ∧ (128 ≤ run.lower ∨ run.first = 0x212A ∧ run.last = 0x212A)) := by
  decide +kernel

theorem lowerCode_small {n : Nat} (small : n < 128) :
    lowerCode caseRuns n = if 65 ≤ n ∧ n ≤ 90 then n + 32 else n := by
  rw [lowerCode]
  split
  next run found =>
    have member := List.mem_of_find?_eq_some found
    have within := List.find?_some found
    simp only [Bool.and_eq_true, decide_eq_true_eq] at within
    rcases caseRuns_cases run member with ascii | ⟨beyond, -⟩
    · rw [if_pos (by omega)]
      omega
    · omega
  next none =>
    have outside := List.find?_eq_none.mp none ⟨0x41, 0x5A, 1, 0x61⟩ List.mem_cons_self
    simp only [Bool.and_eq_true, decide_eq_true_eq, beq_iff_eq, Nat.mod_one, and_true] at outside
    rw [if_neg outside]

theorem lowerCode_large {n : Nat} (large : 128 ≤ n) (notKelvin : n ≠ 0x212A) : 128 ≤ lowerCode caseRuns n := by
  rw [lowerCode]
  split
  next run found =>
    have member := List.mem_of_find?_eq_some found
    have within := List.find?_some found
    simp only [Bool.and_eq_true, decide_eq_true_eq] at within
    rcases caseRuns_cases run member with ascii | ⟨-, above | kelvin⟩ <;> omega
  next => exact large

theorem lowerChar_ascii {c : Char} (small : c.toNat < 128) : lowerChar c = [c.toLower] := by
  have notDotted : c ≠ 'İ' := by
    rintro rfl
    exact absurd small (by decide)
  rw [lowerChar, if_neg notDotted, lowerCode_small small, ← toNat_toLower, Char.ofNat_toNat]

/-- A code point is that of its character, unless it has none. -/
theorem toNat_ofNat_cases (n : Nat) : (Char.ofNat n).toNat = n ∨ (Char.ofNat n).toNat = 0 := by
  by_cases valid : n.isValidChar
  · left
    rw [Char.ofNat, dif_pos valid]
    rfl
  · right
    rw [Char.ofNat, dif_neg valid]
    rfl

/-- A letter from outside of ASCII never begins with a settled letter in lower case. -/
theorem lowered_large {c : Char} (large : 128 ≤ c.toNat) (before rest : List Char) :
    ∃ first later, lowerFrom before (c :: rest) = first :: later ∧ ¬Settled first := by
  rw [lowerFrom]
  by_cases sigma : c = 'Σ'
  · refine ⟨_, _, by rw [if_pos sigma, List.singleton_append], ?_⟩
    split <;> simp [Settled]
  by_cases dotted : c = 'İ'
  · refine ⟨'i', '\u0307' :: lowerFrom (c :: before) rest, ?_, ?_⟩
    · rw [if_neg sigma, lowerChar, if_pos dotted]
      rfl
    · simp [Settled]
  refine ⟨_, _, by rw [if_neg sigma, lowerChar, if_neg dotted, List.singleton_append], ?_⟩
  by_cases kelvin : c.toNat = 0x212A
  · rw [kelvin]
    exact fun settled => settled.2.2.2 (by decide +kernel)
  · have beyond := lowerCode_large large kelvin
    rintro ⟨least, most, -⟩
    rcases toNat_ofNat_cases (lowerCode caseRuns c.toNat) with same | none <;> omega

/-- A word of settled letters is the lower case form of what differs from it in ASCII case only. -/
theorem lowerFrom_eq_iff {word : List Char} (settled : ∀ c ∈ word, Settled c) (before text : List Char) :
    lowerFrom before text = word ↔ foldCase text = word := by
  induction text generalizing before word with
  | nil => rfl
  | cons c rest ih =>
    by_cases small : c.toNat < 128
    · have notSigma : c ≠ 'Σ' := by
        rintro rfl
        exact absurd small (by decide)
      rw [lowerFrom, if_neg notSigma, lowerChar_ascii small, List.singleton_append, foldCase, List.map_cons]
      cases word with
      | nil => simp
      | cons w word =>
        rw [List.cons.injEq, List.cons.injEq, ih fun d member => settled d (List.mem_cons_of_mem _ member), foldCase]
    · have large : 128 ≤ c.toNat := by omega
      obtain ⟨first, later, lowered, unsettled⟩ := lowered_large large before rest
      have kept : c.toLower.toNat = c.toNat := by
        rw [toNat_toLower, if_neg (by omega)]
      refine iff_of_false ?_ ?_
      · rintro rfl
        exact unsettled (settled first (by simp [lowered]))
      · rintro rfl
        have most := (settled c.toLower List.mem_cons_self).2.1
        omega

end Text

namespace File

/-! ## The last part of a path -/

theorem lastPart?_of_splitOn {path part : List Char} {folders : List (List Char)}
    (parts : path.splitOn '/' = folders ++ [part]) (some : part ≠ []) (notDot : part ≠ ['.']) :
    lastPart? path = if part = ['.', '.'] then none else .some part := by
  rw [lastPart?, parts, List.reverse_append, List.reverse_singleton, List.singleton_append,
    List.dropWhile_cons_of_neg (by simp [some, notDot])]

/-- A part of a path by itself. -/
theorem splitOn_part {part : List Char} (noSlash : '/' ∉ part) : part.splitOn '/' = [part] :=
  List.splitOnP_eq_singleton fun c member => by
    rw [beq_eq_false_iff_ne]
    rintro rfl
    exact noSlash member

theorem splitOn_folder {part : List Char} (noSlash : '/' ∉ part) (folder : List Char) :
    (folder ++ '/' :: part).splitOn '/' = folder.splitOn '/' ++ [part] := by
  rw [List.splitOn, List.splitOnP_append_cons _ _ (by simp)]
  exact congrArg _ (splitOn_part noSlash)

/-! ## Extensions -/

/-- What follows the last dot of a name, if there is anything in front of the dot. -/
theorem extensionOf_eq_iff {ending : List Char} (some : ending ≠ []) (name : List Char) :
    extensionOf name = ending ↔ ∃ stem ≠ [], name = stem ++ '.' :: ending ∧ '.' ∉ ending := by
  rw [extensionOf]
  constructor
  · intro extended
    have cut := List.takeWhile_append_dropWhile (p := (· != '.')) (l := name.reverse)
    split at extended
    · exact absurd extended.symm some
    next long =>
      have noDot : '.' ∉ ending := by
        intro dot
        rw [← extended, List.mem_reverse] at dot
        simpa using List.mem_takeWhile_imp dot
      cases front : name.reverse.dropWhile (· != '.') with
      | nil =>
        rw [front, List.append_nil] at cut
        rw [cut, List.length_reverse, List.length_reverse] at long
        omega
      | cons dot stem =>
        have isDot : dot = '.' := by
          have head := List.head?_dropWhile_not (· != '.') name.reverse
          rw [front] at head
          simpa using head
        have whole : name = stem.reverse ++ '.' :: ending := by
          rw [← List.reverse_reverse name, ← cut, front, isDot, ← extended]
          simp
        refine ⟨stem.reverse, ?_, whole, noDot⟩
        intro nothing
        rw [extended, whole, nothing] at long
        simp at long
  · rintro ⟨stem, front, rfl, noDot⟩
    have all (c : Char) (member : c ∈ ending.reverse) : (c != '.') = true := by
      rw [bne_iff_ne]
      rintro rfl
      exact noDot (List.mem_reverse.mp member)
    have taken : (stem ++ '.' :: ending).reverse.takeWhile (· != '.') = ending.reverse := by
      rw [List.reverse_append, List.reverse_cons, List.append_assoc, List.singleton_append,
        List.takeWhile_append_of_pos all, List.takeWhile_cons_of_neg (by simp), List.append_nil]
    have long := List.length_pos_of_ne_nil front
    rw [taken, List.reverse_reverse, if_neg (by simp; omega)]

/-- The extension of a path is that of its last part. -/
theorem extension_of_splitOn {path : String} {part : List Char} {folders : List (List Char)}
    (parts : path.toList.splitOn '/' = folders ++ [part]) (some : part ≠ []) (notDot : part ≠ ['.']) :
    extension path = Text.lowercase (String.ofList (extensionOf part)) := by
  rw [extension, lastPart?_of_splitOn parts some notDot]
  by_cases dots : part = ['.', '.']
  · rw [if_pos dots, dots]
    rfl
  · rw [if_neg dots]

theorem extension_of_part {name : String} (noSlash : '/' ∉ name.toList) :
    extension name = Text.lowercase (String.ofList (extensionOf name.toList)) := by
  by_cases nothing : name.toList = []
  · rw [extension, nothing]
    rfl
  by_cases dot : name.toList = ['.']
  · rw [extension, dot]
    rfl
  have parts : name.toList.splitOn '/' = [] ++ [name.toList] := splitOn_part noSlash
  exact extension_of_splitOn parts nothing dot

/-! ## Formats -/

/-- A name with a stem and behind its last dot the name of a format, in any case of ASCII letters. -/
def Named (format : Format) (name : String) : Prop :=
  ∃ stem ending : String, name = stem ++ "." ++ ending ∧ stem ≠ "" ∧ '.' ∉ ending.toList ∧
    Text.sameButCase ending format.label = true

theorem lowercase_eq_label_iff (format : Format) (s : String) :
    Text.lowercase s = format.label ↔ Text.sameButCase s format.label = true := by
  have settled : ∀ c ∈ format.label.toList, Text.Settled c := by
    cases format <;> simp [Format.label, Text.Settled]
  have folded : Text.foldCase format.label.toList = format.label.toList := by
    cases format <;> rfl
  rw [Text.sameButCase, folded, beq_iff_eq, ← Text.lowerFrom_eq_iff settled [], ← String.toList_inj, Text.lowercase,
    String.toList_ofList]

theorem named_iff (format : Format) (name : String) :
    Named format name ↔ Text.lowercase (String.ofList (extensionOf name.toList)) = format.label := by
  have written : format.label ≠ "" := by cases format <;> decide
  have some {ending : List Char} (same : Text.lowercase (String.ofList ending) = format.label) : ending ≠ [] := by
    rintro rfl
    exact written same.symm
  constructor
  · rintro ⟨stem, ending, rfl, front, noDot, same⟩
    have lowered := (lowercase_eq_label_iff format ending).mpr same
    rw [← String.ofList_toList (s := ending)] at lowered
    have extended : extensionOf (stem ++ "." ++ ending).toList = ending.toList := by
      refine (extensionOf_eq_iff (some lowered) _).mpr ⟨stem.toList, by simpa using front, by simp, noDot⟩
    rw [extended, lowered]
  · intro lowered
    obtain ⟨stem, front, whole, noDot⟩ := (extensionOf_eq_iff (some lowered) name.toList).mp rfl
    refine ⟨String.ofList stem, String.ofList (extensionOf name.toList), ?_, by simpa using front, by simpa using noDot,
      (lowercase_eq_label_iff format _).mp lowered⟩
    exact String.toList_inj.mp (by simpa using whole)

theorem ofName_eq_ok_iff (path : String) (format : Format) :
    Format.ofName path = .ok format ↔ extension path = format.label := by
  rw [Format.ofName]
  split
  next csv => rw [csv]; cases format <;> decide
  next notCsv =>
    split
    next json => rw [json]; cases format <;> decide
    next notJson => cases format <;> split <;> simp_all [Format.label]

/-- A name is of a format, or its format is not supported. -/
theorem ofName_cases (path : String) :
    (∃ format, Format.ofName path = .ok format) ∨ ∃ what, Format.ofName path = .error (.unsupportedFormat what) := by
  rw [Format.ofName]
  split
  · exact .inl ⟨_, rfl⟩
  split
  · exact .inl ⟨_, rfl⟩
  split
  · exact .inr ⟨_, rfl⟩
  · exact .inr ⟨_, rfl⟩

/-! ## Files -/

theorem map_ne_error {α β : Type} {result : Except Failure α} {failure : Failure} (other : result ≠ .error failure)
    (f : α → β) : result.map f ≠ .error failure := by
  cases result with
  | ok value => exact fun same => nomatch same
  | error cause => exact fun same => other (congrArg Except.error (Except.error.inj same))

theorem rowsFrom_supported (index : Nat) (items : List Json) (what : String) :
    rowsFrom index items ≠ .error (.unsupportedFormat what) := by
  fun_induction rowsFrom index items with
  | case1 => simp
  | case2 index members rest ih => exact map_ne_error ih _
  | case3 => simp

theorem tableOfJson_supported (document : Json) (what : String) :
    tableOfJson document ≠ .error (.unsupportedFormat what) := by
  rw [tableOfJson]
  split
  · simp
  · simp
  · exact map_ne_error (rowsFrom_supported 0 _ what) _

theorem readText_supported (format : Format) (text : List Char) (what : String) :
    readText format text ≠ .error (.unsupportedFormat what) := by
  cases format with
  | csv =>
    rw [readText, Csv.read]
    split <;> simp
  | json =>
    rw [readText, readJson]
    split
    · exact tableOfJson_supported _ what
    · simp

/-- What is in a file of a known format is never of another. -/
theorem ofOctets_supported (format : Format) (name : String) (octets : List UInt8) (what : String) :
    ofOctets format name octets ≠ .error (.unsupportedFormat what) := by
  rw [ofOctets]
  split
  next failure undecoded =>
    rw [decode] at undecoded
    split at undecoded
    · cases undecoded
    · rw [← Except.error.inj undecoded]
      simp
  next text _ => exact map_ne_error (readText_supported format text.toList what) _

/-- Two names that tell the same format, or both none that is supported. -/
def SameFormat (first second : Except Failure Format) : Prop :=
  (∃ format, first = .ok format ∧ second = .ok format) ∨
    ∃ what other, first = .error (.unsupportedFormat what) ∧ second = .error (.unsupportedFormat other)

/-- What a name tells that is one part of a path: the format that it is named for, and for no other name a
format that is supported. The folders in front do not count, and it is the name alone that a file is refused
for because of its format. -/
structure TellsFormat (name : String) : Prop where
  told : ∀ format, Format.ofName name = .ok format ↔ Named format name
  refused : (¬∃ format, Named format name) ↔ ∃ what, Format.ofName name = .error (.unsupportedFormat what)
  folders : name ≠ "" → name ≠ "." → ∀ folder,
    SameFormat (Format.ofName (folder ++ "/" ++ name)) (Format.ofName name)
  loads : ∀ octets, (∃ what, load name octets = .error (.unsupportedFormat what)) ↔ ¬∃ format, Named format name

theorem tellsFormat_of_part {name : String} (noSlash : '/' ∉ name.toList) : TellsFormat name := by
  have told (format : Format) : Format.ofName name = .ok format ↔ Named format name := by
    rw [ofName_eq_ok_iff, extension_of_part noSlash, named_iff]
  have refused : (¬∃ format, Named format name) ↔ ∃ what, Format.ofName name = .error (.unsupportedFormat what) := by
    simp only [← told]
    rcases ofName_cases name with ⟨format, ok⟩ | ⟨what, unsupported⟩
    · simp [ok]
    · simp [unsupported]
  refine ⟨told, refused, ?_, ?_⟩
  · intro some notDot folder
    have parts : (folder ++ "/" ++ name).toList.splitOn '/' = folder.toList.splitOn '/' ++ [name.toList] := by
      simpa using splitOn_folder noSlash folder.toList
    have same : extension (folder ++ "/" ++ name) = extension name := by
      rw [extension_of_splitOn parts (by simpa using some) (by simpa [← String.toList_inj] using notDot),
        extension_of_part noSlash]
    rcases ofName_cases name with ⟨format, ok⟩ | ⟨what, unsupported⟩
    · refine .inl ⟨format, ?_, ok⟩
      rw [ofName_eq_ok_iff, same, ← ofName_eq_ok_iff, ok]
    · rcases ofName_cases (folder ++ "/" ++ name) with ⟨format, ok⟩ | ⟨other, alike⟩
      · rw [ofName_eq_ok_iff, same, ← ofName_eq_ok_iff, unsupported] at ok
        cases ok
      · exact .inr ⟨other, what, alike, unsupported⟩
  · intro octets
    rw [refused, load]
    rcases ofName_cases name with ⟨format, ok⟩ | ⟨what, unsupported⟩
    · simp [ok, ofOctets_supported]
    · simp [unsupported]

/-- A name with several dots, one of them in front. -/
theorem tellsFormat_hidden : '/' ∉ ".tar.CsV".toList ∧ TellsFormat ".tar.CsV" ∧ Format.ofName ".tar.CsV" = .ok .csv := by
  have noSlash : '/' ∉ ".tar.CsV".toList := by decide
  have tells := tellsFormat_of_part noSlash
  exact ⟨noSlash, tells, (tells.told .csv).mpr ⟨".tar", "CsV", by decide, by decide, by decide, by decide⟩⟩

end File

end RowQuery
