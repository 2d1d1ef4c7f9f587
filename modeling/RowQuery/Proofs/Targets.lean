import RowQuery.Proofs.Cutting
import RowQuery.Proofs.JsonScalars
import RowQuery.Proofs.QueryEndpoints
import RowQuery.Proofs.Utf8

/-!
# Targets of requests

Any text can stand in a target if its octets are written out: nothing in it then means anything else
(`isUnmarked_writeOut`), and both a part of a path and a field of a query string are read as that text
(`decodePart_writeOut`, `decodeField_writeOut`). So a file can be uploaded under any name to a
session of any id (`route_uploadTarget`).
-/

namespace RowQuery.Http

/-! ## Octets written out -/

/-- An octet in two hexadecimal digits. -/
def writeOctet (octet : UInt8) : List Char :=
  ['%', Nat.digitChar (octet.toNat / 16), Nat.digitChar (octet.toNat % 16)]

/-- A text with all its octets written out. -/
def writeOut (s : String) : List Char := (Text.Utf8.encode s).flatMap writeOctet

/-- A character that means something else in a target than itself. -/
def isMark (c : Char) : Bool := "/?#&=+".toList.contains c

/-- A text in which no character means anything but itself. -/
def isUnmarked (text : List Char) : Bool := text.all fun c => !isMark c

theorem not_mem_of_isUnmarked {text : List Char} (unmarked : isUnmarked text = true) {mark : Char}
    (means : isMark mark = true) : mark ∉ text := by
  intro inside
  have itself := List.all_eq_true.mp unmarked mark inside
  rw [means] at itself
  cases itself

theorem isMark_digitChar : ∀ d < 16, isMark (Nat.digitChar d) = false := by decide

theorem isUnmarked_writeOctet (octet : UInt8) : isUnmarked (writeOctet octet) = true := by
  have small : octet.toNat < 256 := octet.toNat_lt
  have sign : isMark '%' = false := by decide
  simp only [isUnmarked, writeOctet, List.all_cons, List.all_nil, sign, Bool.not_false, Bool.and_true,
    isMark_digitChar (octet.toNat / 16) (by omega), isMark_digitChar (octet.toNat % 16) (by omega)]

theorem isUnmarked_writeOut (s : String) : isUnmarked (writeOut s) = true := by
  refine List.all_eq_true.mpr ?_
  intro c written
  obtain ⟨octet, _, inside⟩ := List.mem_flatMap.mp written
  exact List.all_eq_true.mp (isUnmarked_writeOctet octet) c inside

theorem utf8EncodeChar_digitChar : ∀ d < 16,
    String.utf8EncodeChar (Nat.digitChar d) = [UInt8.ofNat (Nat.digitChar d).toNat] := by decide

theorem ofNat_octet_digitChar : ∀ d < 16,
    Char.ofNat (UInt8.ofNat (Nat.digitChar d).toNat).toNat = Nat.digitChar d := by decide

theorem hexOctet?_digits (octet : UInt8) :
    hexOctet? (UInt8.ofNat (Nat.digitChar (octet.toNat / 16)).toNat)
      (UInt8.ofNat (Nat.digitChar (octet.toNat % 16)).toNat) = some octet := by
  have small : octet.toNat < 256 := octet.toNat_lt
  have high : octet.toNat / 16 < 16 := by omega
  have low : octet.toNat % 16 < 16 := by omega
  have bits : octet.toNat / 16 * 16 + octet.toNat % 16 = octet.toNat := by omega
  rw [hexOctet?, ofNat_octet_digitChar _ high, ofNat_octet_digitChar _ low, Json.hexValue?_digitChar _ high,
    Json.hexValue?_digitChar _ low]
  simp only [bits, UInt8.ofNat_toNat]

/-- Octets that were written out are resolved into themselves. -/
theorem percentDecode_writeOctets (octets : List UInt8) :
    percentDecode ((octets.flatMap writeOctet).flatMap String.utf8EncodeChar) = octets := by
  induction octets with
  | nil => rfl
  | cons octet octets ih =>
    have small : octet.toNat < 256 := octet.toNat_lt
    have sign : String.utf8EncodeChar '%' = [0x25] := by decide
    rw [List.flatMap_cons, writeOctet]
    simp only [List.cons_append, List.nil_append, List.flatMap_cons, sign,
      utf8EncodeChar_digitChar (octet.toNat / 16) (by omega), utf8EncodeChar_digitChar (octet.toNat % 16) (by omega)]
    rw [percentDecode, if_pos rfl, hexOctet?_digits, ih]

theorem percentDecode_writeOut (s : String) :
    percentDecode (Text.Utf8.encode (String.ofList (writeOut s))) = Text.Utf8.encode s := by
  rw [Text.Utf8.encode_eq (String.ofList _), String.toList_ofList, writeOut, percentDecode_writeOctets]

theorem decodePart_writeOut (s : String) : decodePart (writeOut s) = some s := by
  rw [decodePart, percentDecode_writeOut, Text.Utf8.decode_encode]
  rfl

theorem decodeField_writeOut (s : String) : decodeField (writeOut s) = s := by
  have blanks : (writeOut s).map (fun c => if c = '+' then ' ' else c) = writeOut s := by
    have same : ∀ c ∈ writeOut s, (if c = '+' then ' ' else c) = c := by
      intro c written
      refine if_neg ?_
      rintro rfl
      exact not_mem_of_isUnmarked (isUnmarked_writeOut s) rfl written
    rw [List.map_congr_left same, List.map_id']
  rw [decodeField, blanks, percentDecode_writeOut, Text.Utf8.decodeLenient_encode]

/-! ## Paths and query strings -/

/-- A path and a query string behind it that make up a target. -/
structure Target (path queryString : List Char) : Prop where
  rooted : path.head? = some '/'
  pathEnds : '?' ∉ path ∧ '#' ∉ path
  noFragment : '#' ∉ queryString

section
variable {path queryString : List Char}

theorem resourcePart_target (target : Target path queryString) :
    resourcePart (String.ofList (path ++ '?' :: queryString)) = path ++ '?' :: queryString := by
  obtain ⟨rest, rfl⟩ := List.head?_eq_some_iff.mp target.rooted
  have slash : isSchemeChar '/' = false := by decide
  have whole : ∀ c ∈ '/' :: rest ++ '?' :: queryString, (c != '#') = true := by
    intro c inside
    refine bne_iff_ne.mpr ?_
    rintro rfl
    rcases List.mem_append.mp inside with before | behind
    · exact target.pathEnds.2 before
    · rcases List.mem_cons.mp behind with same | within
      · cases same
      · exact target.noFragment within
  rw [resourcePart, String.toList_ofList, withoutOrigin]
  simp only [List.cons_append, List.dropWhile_cons, slash, Bool.false_eq_true, if_false]
  exact List.takeWhile_eq_self_iff.mpr whole

theorem ne_mark_of_mem (target : Target path queryString) : ∀ c ∈ path, (c != '?') = true := by
  intro c inside
  refine bne_iff_ne.mpr ?_
  rintro rfl
  exact target.pathEnds.1 inside

theorem pathOf_target (target : Target path queryString) :
    pathOf (String.ofList (path ++ '?' :: queryString)) = path := by
  have cut : (path ++ '?' :: queryString).takeWhile (· != '?') = path := by
    rw [List.takeWhile_append_of_pos (ne_mark_of_mem target)]
    simp
  obtain ⟨rest, rfl⟩ := List.head?_eq_some_iff.mp target.rooted
  rw [pathOf, resourcePart_target target, cut]

theorem queryStringOf_target (target : Target path queryString) :
    queryStringOf (String.ofList (path ++ '?' :: queryString)) = queryString := by
  rw [queryStringOf, resourcePart_target target, List.dropWhile_append_of_pos (ne_mark_of_mem target)]
  rfl

end

end RowQuery.Http

namespace RowQuery.Service

open Http

/-! ## Uploads -/

/-- Parts of a path that contain no mark. -/
def Unmarked (parts : List (List Char)) : Prop := ∀ part ∈ parts, isUnmarked part = true

/-- The path with some parts behind the common one. -/
def pathTo (parts : List (List Char)) : List Char := ['/'].intercalate (base ++ parts)

theorem unmarked_parts {parts : List (List Char)} (unmarked : Unmarked parts) : Unmarked (base ++ parts) := by
  have common : ∀ part ∈ base, isUnmarked part = true := by decide
  intro part member
  rcases List.mem_append.mp member with shared | own
  · exact common part shared
  · exact unmarked part own

/-- A path leads to what its parts lead to. -/
theorem ofPath_pathTo {parts : List (List Char)} (unmarked : Unmarked parts) :
    Resource.ofPath (pathTo parts) = Resource.ofParts parts := by
  have split : (pathTo parts).splitOn '/' = base ++ parts := by
    refine List.splitOn_intercalate '/' ?_ (by simp [base])
    intro part member
    exact not_mem_of_isUnmarked (unmarked_parts unmarked part member) rfl
  have notRoot : pathTo parts ≠ ['/'] := by
    intro root
    have two : (base ++ parts).length = 2 := by
      rw [← split, root]
      rfl
    simp [base] at two
  have common : base.isPrefixOf (base ++ parts) = true := List.isPrefixOf_iff_prefix.mpr (List.prefix_append _ _)
  rw [Resource.ofPath, if_neg notRoot, split, if_pos common, List.drop_left]

/-- The only mark in a path is the slash. -/
theorem not_mem_pathTo {parts : List (List Char)} (unmarked : Unmarked parts) {mark : Char}
    (means : isMark mark = true) (other : mark ≠ '/') : mark ∉ pathTo parts := by
  intro inside
  rcases Text.mem_of_mem_intercalate inside with separates | ⟨part, member, within⟩
  · exact other (List.mem_singleton.mp separates)
  · exact not_mem_of_isUnmarked (unmarked_parts unmarked part member) means within

/-- The parts of the path at which files are uploaded to a session. -/
def uploadParts (id : String) : List (List Char) := ["sessions".toList, writeOut id, "upload".toList]

/-- The target at which a file is uploaded to a session under a name. -/
def uploadTarget (id name : String) : String :=
  String.ofList (pathTo (uploadParts id) ++ '?' :: ("filename=".toList ++ writeOut name))

theorem unmarked_uploadParts (id : String) : Unmarked (uploadParts id) := by
  simp only [Unmarked, uploadParts, List.mem_cons, List.not_mem_nil, or_false]
  rintro part (rfl | rfl | rfl)
  · decide
  · exact isUnmarked_writeOut id
  · decide

theorem target_upload (id name : String) :
    Target (pathTo (uploadParts id)) ("filename=".toList ++ writeOut name) where
  rooted := rfl
  pathEnds := by
    have unmarked := unmarked_uploadParts id
    exact ⟨not_mem_pathTo unmarked rfl (by decide), not_mem_pathTo unmarked rfl (by decide)⟩
  noFragment := by
    rw [List.mem_append, not_or]
    exact ⟨by decide, not_mem_of_isUnmarked (isUnmarked_writeOut name) rfl⟩

theorem fileNameOf_uploadTarget (id name : String) : fileNameOf (uploadTarget id name) = .ok name := by
  have one : '&' ∉ "filename=".toList ++ writeOut name := by
    rw [List.mem_append, not_or]
    exact ⟨by decide, not_mem_of_isUnmarked (isUnmarked_writeOut name) rfl⟩
  have known : decodeField "filename".toList = "filename" := by decide +kernel
  have fields : Http.queryFields ("filename=".toList ++ writeOut name) = [("filename", name)] := by
    rw [Http.queryFields, List.splitOn_eq_singleton one]
    simpa [decodeField_writeOut] using known
  rw [fileNameOf, uploadTarget, queryStringOf_target (target_upload id name), fields]
  rfl

/-- Octets can be uploaded to any session under any name, unless they are too many. -/
theorem route_uploadTarget (id name : String) (contentType : Option String) {octets : List UInt8} {limit : Nat}
    (fits : octets.length ≤ limit) :
    route limit (posted (uploadTarget id name) contentType octets) = .ok (.upload id name octets) := by
  have found : Resource.ofPath (pathOf (uploadTarget id name)) = some (.upload (writeOut id)) := by
    rw [uploadTarget, pathOf_target (target_upload id name), ofPath_pathTo (unmarked_uploadParts id)]
    rfl
  have read : decodeId (writeOut id) = .ok id := by
    rw [decodeId, decodePart_writeOut]
  rw [route_posted limit contentType octets found rfl, callOf, posted, read, fileNameOf_uploadTarget, bodyOf,
    if_neg (Nat.not_lt.mpr fits)]
  rfl

end RowQuery.Service
