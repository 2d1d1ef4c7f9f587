import Mathlib.Data.List.Basic
import RowQuery.Text.Utf8

/-!
# UTF-8, written and read

The octets of a text are cut into the characters of the text, each of which is recognized octet by
octet: the first tells how many follow and what the second may be (`lead_three`, `lead_four`), and
each further one adds six bits. So a text is decoded from its own octets, strictly as well as leniently
(`decode_encode`, `decodeLenient_encode`), and also when the octets are seen as characters (`decode_ofChars`);
then ASCII looks as it is, and nothing else looks like ASCII (`octetChars_ascii`, `le_of_mem_octetChars`).
-/

namespace RowQuery.Text.Utf8

section
variable (done : List Piece) {b : UInt8} (rest : List UInt8) {code seen low high : Nat}

/-- An octet that is a character by itself. -/
theorem piecesFrom_single (whole : lead b.toNat = some ⟨code, seen, []⟩) :
    piecesFrom done none (b :: rest) = piecesFrom (.char (Char.ofNat code) :: done) none rest := by
  rw [piecesFrom]
  simp only [whole]

/-- An octet that a longer character begins with. -/
theorem piecesFrom_lead {bounds : Nat × Nat} {owed : List (Nat × Nat)}
    (begun : lead b.toNat = some ⟨code, seen, bounds :: owed⟩) :
    piecesFrom done none (b :: rest) = piecesFrom done (some ⟨code, seen, bounds :: owed⟩) rest := by
  rw [piecesFrom]
  simp only [begun]

/-- An octet with which a character goes on. -/
theorem piecesFrom_tail {bounds : Nat × Nat} {owed : List (Nat × Nat)}
    (within : low ≤ b.toNat ∧ b.toNat ≤ high) :
    piecesFrom done (some ⟨code, seen, (low, high) :: bounds :: owed⟩) (b :: rest) =
      piecesFrom done (some ⟨code * 64 + b.toNat % 64, seen + 1, bounds :: owed⟩) rest := by
  rw [piecesFrom]
  simp only [if_pos within, List.isEmpty_cons, Bool.false_eq_true, if_false]

/-- An octet with which a character ends. -/
theorem piecesFrom_last (within : low ≤ b.toNat ∧ b.toNat ≤ high) :
    piecesFrom done (some ⟨code, seen, [(low, high)]⟩) (b :: rest) =
      piecesFrom (.char (Char.ofNat (code * 64 + b.toNat % 64)) :: done) none rest := by
  rw [piecesFrom]
  simp only [if_pos within, List.isEmpty_nil, if_true]

end

/-! ## First octets -/

theorem lead_two {n : Nat} (least : 0x80 ≤ n) (most : n ≤ 0x7FF) :
    lead (n / 64 + 0xC0) = some ⟨n / 64, 1, [tail]⟩ := by
  rw [lead, if_neg (by omega), if_pos (by omega), Nat.add_sub_cancel]

/-- The bounds of the second octet of three keep out what takes fewer octets, and surrogates. -/
theorem lead_three {n : Nat} (least : 0x800 ≤ n) (most : n ≤ 0xFFFF) (scalar : n < 0xD800 ∨ 0xDFFF < n) :
    ∃ low high, lead (n / 4096 + 0xE0) = some ⟨n / 4096, 1, [(low, high), tail]⟩ ∧
      low ≤ n / 64 % 64 + 0x80 ∧ n / 64 % 64 + 0x80 ≤ high := by
  rw [lead, if_neg (by omega), if_neg (by omega)]
  by_cases first : n / 4096 = 0
  · rw [first]
    exact ⟨0xA0, 0xBF, rfl, by omega, by omega⟩
  · rw [if_neg (by omega)]
    by_cases surrogates : n / 4096 = 0xD
    · rw [surrogates]
      exact ⟨0x80, 0x9F, rfl, by omega, by omega⟩
    · rw [if_neg (by omega), if_pos (by omega), Nat.add_sub_cancel]
      exact ⟨0x80, 0xBF, rfl, by omega, by omega⟩

/-- The bounds of the second octet of four keep out what takes fewer octets, and what is no character. -/
theorem lead_four {n : Nat} (least : 0x10000 ≤ n) (most : n ≤ 0x10FFFF) :
    ∃ low high, lead (n / 262144 + 0xF0) = some ⟨n / 262144, 1, [(low, high), tail, tail]⟩ ∧
      low ≤ n / 4096 % 64 + 0x80 ∧ n / 4096 % 64 + 0x80 ≤ high := by
  rw [lead, if_neg (by omega), if_neg (by omega), if_neg (by omega), if_neg (by omega), if_neg (by omega)]
  by_cases first : n / 262144 = 0
  · rw [first]
    exact ⟨0x90, 0xBF, rfl, by omega, by omega⟩
  · rw [if_neg (by omega)]
    by_cases last : n / 262144 = 4
    · rw [last]
      exact ⟨0x80, 0x8F, rfl, by omega, by omega⟩
    · rw [if_pos (by omega), Nat.add_sub_cancel]
      exact ⟨0x80, 0xBF, rfl, by omega, by omega⟩

/-! ## Characters -/

section
variable (done : List Piece) {n : Nat} (rest : List UInt8)

theorem toNat_octet {n : Nat} (small : n < 256) : (UInt8.ofNat n).toNat = n := by
  rw [UInt8.toNat_ofNat', Nat.mod_eq_of_lt small]

theorem piecesFrom_one (most : n ≤ 0x7F) :
    piecesFrom done none (UInt8.ofNat n :: rest) = piecesFrom (.char (Char.ofNat n) :: done) none rest := by
  have whole : lead (UInt8.ofNat n).toNat = some ⟨n, 1, []⟩ := by
    rw [toNat_octet (by omega), lead, if_pos most]
  exact piecesFrom_single done rest whole

theorem piecesFrom_two (least : 0x80 ≤ n) (most : n ≤ 0x7FF) :
    piecesFrom done none (UInt8.ofNat (n / 64 % 32 + 0xC0) :: UInt8.ofNat (n % 64 + 0x80) :: rest) =
      piecesFrom (.char (Char.ofNat n) :: done) none rest := by
  have first : n / 64 % 32 = n / 64 := Nat.mod_eq_of_lt (by omega)
  have bits : n / 64 * 64 + (n % 64 + 0x80) % 64 = n := by omega
  rw [first, piecesFrom_lead done _ (by rw [toNat_octet (by omega)]; exact lead_two least most), tail,
    piecesFrom_last done _ (by rw [toNat_octet (by omega)]; omega), toNat_octet (by omega), bits]

theorem piecesFrom_three (least : 0x800 ≤ n) (most : n ≤ 0xFFFF) (scalar : n < 0xD800 ∨ 0xDFFF < n) :
    piecesFrom done none (UInt8.ofNat (n / 4096 % 16 + 0xE0) :: UInt8.ofNat (n / 64 % 64 + 0x80) ::
        UInt8.ofNat (n % 64 + 0x80) :: rest) =
      piecesFrom (.char (Char.ofNat n) :: done) none rest := by
  obtain ⟨low, high, begun, within⟩ := lead_three least most scalar
  have first : n / 4096 % 16 = n / 4096 := Nat.mod_eq_of_lt (by omega)
  have bits : (n / 4096 * 64 + (n / 64 % 64 + 0x80) % 64) * 64 + (n % 64 + 0x80) % 64 = n := by omega
  rw [first, piecesFrom_lead done _ (by rw [toNat_octet (by omega)]; exact begun), tail,
    piecesFrom_tail done _ (by rw [toNat_octet (by omega)]; exact within),
    piecesFrom_last done _ (by rw [toNat_octet (by omega)]; omega),
    toNat_octet (by omega), toNat_octet (by omega), bits]

theorem piecesFrom_four (least : 0x10000 ≤ n) (most : n ≤ 0x10FFFF) :
    piecesFrom done none (UInt8.ofNat (n / 262144 % 8 + 0xF0) :: UInt8.ofNat (n / 4096 % 64 + 0x80) ::
        UInt8.ofNat (n / 64 % 64 + 0x80) :: UInt8.ofNat (n % 64 + 0x80) :: rest) =
      piecesFrom (.char (Char.ofNat n) :: done) none rest := by
  obtain ⟨low, high, begun, within⟩ := lead_four least most
  have first : n / 262144 % 8 = n / 262144 := Nat.mod_eq_of_lt (by omega)
  have bits : ((n / 262144 * 64 + (n / 4096 % 64 + 0x80) % 64) * 64 + (n / 64 % 64 + 0x80) % 64) * 64 +
      (n % 64 + 0x80) % 64 = n := by omega
  rw [first, piecesFrom_lead done _ (by rw [toNat_octet (by omega)]; exact begun), tail,
    piecesFrom_tail done _ (by rw [toNat_octet (by omega)]; exact within),
    piecesFrom_tail done _ (by rw [toNat_octet (by omega)]; omega),
    piecesFrom_last done _ (by rw [toNat_octet (by omega)]; omega),
    toNat_octet (by omega), toNat_octet (by omega), toNat_octet (by omega), bits]

/-- The octets of a character are recognized as that character. -/
theorem piecesFrom_encodeChar (c : Char) :
    piecesFrom done none (String.utf8EncodeChar c ++ rest) = piecesFrom (.char c :: done) none rest := by
  have scalar : c.val.toNat < 0xD800 ∨ 0xDFFF < c.val.toNat ∧ c.val.toNat < 0x110000 := c.valid
  have same : Piece.char c = .char (Char.ofNat c.val.toNat) := congrArg Piece.char (Char.ofNat_toNat c).symm
  rw [same, String.utf8EncodeChar]
  generalize c.val.toNat = n at scalar
  by_cases one : n ≤ 0x7F
  · rw [if_pos one]
    exact piecesFrom_one done rest one
  rw [if_neg one]
  by_cases two : n ≤ 0x7FF
  · rw [if_pos two]
    exact piecesFrom_two done rest (by omega) two
  rw [if_neg two]
  by_cases three : n ≤ 0xFFFF
  · rw [if_pos three]
    exact piecesFrom_three done rest (by omega) three (by omega)
  · rw [if_neg three]
    exact piecesFrom_four done rest (by omega) (by omega)

end

/-! ## Octets of a character -/

theorem utf8EncodeChar_ascii {c : Char} (ascii : c.toNat < 0x80) : String.utf8EncodeChar c = [UInt8.ofNat c.toNat] := by
  have least : c.val.toNat ≤ 0x7F := Nat.le_of_lt_succ ascii
  rw [String.utf8EncodeChar, if_pos least]
  rfl

/-- No octet of a character beyond ASCII is a character of ASCII. -/
theorem le_of_mem_utf8EncodeChar {c : Char} (wide : 0x80 ≤ c.toNat) :
    ∀ b ∈ String.utf8EncodeChar c, 0x80 ≤ b.toNat := by
  have octet {n : Nat} (least : 0x80 ≤ n) (most : n < 256) : 0x80 ≤ (UInt8.ofNat n).toNat := by
    rwa [toNat_octet most]
  have notAscii : ¬c.val.toNat ≤ 0x7F := Nat.not_le_of_lt wide
  rw [String.utf8EncodeChar, if_neg notAscii]
  split
  next two =>
    refine List.forall_mem_cons.mpr ⟨octet (by omega) (by omega), ?_⟩
    exact List.forall_mem_singleton.mpr (octet (by omega) (by omega))
  next =>
    split
    next three =>
      refine List.forall_mem_cons.mpr ⟨octet (by omega) (by omega), ?_⟩
      refine List.forall_mem_cons.mpr ⟨octet (by omega) (by omega), ?_⟩
      exact List.forall_mem_singleton.mpr (octet (by omega) (by omega))
    next four =>
      refine List.forall_mem_cons.mpr ⟨octet (by omega) (by omega), ?_⟩
      refine List.forall_mem_cons.mpr ⟨octet (by omega) (by omega), ?_⟩
      refine List.forall_mem_cons.mpr ⟨octet (by omega) (by omega), ?_⟩
      exact List.forall_mem_singleton.mpr (octet (by omega) (by omega))

/-! ## Texts -/

theorem encode_eq (s : String) : encode s = s.toList.flatMap String.utf8EncodeChar := by
  rw [encode, String.toUTF8, ← String.utf8Encode_toList, List.utf8Encode, List.toList_data_toByteArray]

/-- The octets of a text are cut into its characters. -/
theorem pieces_encode (s : String) : pieces (encode s) = s.toList.map .char := by
  have cut (text : List Char) : ∀ done : List Piece,
      piecesFrom done none (text.flatMap String.utf8EncodeChar) = done.reverse ++ text.map .char := by
    induction text with
    | nil =>
      intro done
      simp [piecesFrom]
    | cons c text ih =>
      intro done
      rw [List.flatMap_cons, piecesFrom_encodeChar, ih]
      simp
  rw [pieces, encode_eq, cut]
  rfl

theorem strict_chars (text : List Char) :
    ∀ index done, strict index done (text.map .char) = .ok (done.reverse ++ text) := by
  induction text with
  | nil =>
    intro index done
    simp [strict]
  | cons c text ih =>
    intro index done
    rw [List.map_cons, strict, ih]
    simp

theorem decode_encode (s : String) : decode (encode s) = .ok s := by
  rw [decode, pieces_encode, strict_chars]
  exact congrArg Except.ok String.ofList_toList

theorem decodeLenient_encode (s : String) : decodeLenient (encode s) = s := by
  rw [decodeLenient, pieces_encode, List.map_map]
  simp [Function.comp_def]

/-! ## Octets seen as characters -/

/-- The octets of characters, seen as characters. -/
def octetChars (text : List Char) : List Char := asChars (text.flatMap String.utf8EncodeChar)

theorem asChars_encode (s : String) : asChars (encode s) = octetChars s.toList := by rw [encode_eq, octetChars]

theorem octetChars_append (front rest : List Char) :
    octetChars (front ++ rest) = octetChars front ++ octetChars rest := by
  rw [octetChars, List.flatMap_append, asChars, List.map_append]
  rfl

theorem toNat_asChar (b : UInt8) : (Char.ofNat b.toNat).toNat = b.toNat := by
  have valid : b.toNat.isValidChar := .inl (Nat.lt_trans b.toNat_lt (by decide))
  rw [Char.ofNat, dif_pos valid]
  rfl

theorem octetChars_ascii {text : List Char} (ascii : ∀ c ∈ text, c.toNat < 0x80) : octetChars text = text := by
  induction text with
  | nil => rfl
  | cons c text ih =>
    have first := ascii c List.mem_cons_self
    rw [List.forall_mem_cons] at ascii
    rw [octetChars, List.flatMap_cons, utf8EncodeChar_ascii first, asChars, List.map_append, List.map_singleton,
      toNat_octet (by omega), Char.ofNat_toNat]
    exact congrArg (c :: ·) (ih ascii.2)

/-- The octets of a character beyond ASCII are seen as characters beyond ASCII. -/
theorem le_of_mem_octetChars {c : Char} (wide : 0x80 ≤ c.toNat) : ∀ d ∈ octetChars [c], 0x80 ≤ d.toNat := by
  intro d among
  rw [octetChars, List.flatMap_singleton, asChars] at among
  obtain ⟨b, octet, rfl⟩ := List.mem_map.mp among
  rw [toNat_asChar]
  exact le_of_mem_utf8EncodeChar wide b octet

/-- A text is decoded from its octets, also when they are seen as characters. -/
theorem decode_ofChars (text : List Char) : decode (ofChars (octetChars text)) = .ok (String.ofList text) := by
  have same (octets : List UInt8) : ofChars (asChars octets) = octets := by
    rw [ofChars, asChars, List.map_map]
    refine List.map_id'' ?_ octets
    intro b
    rw [Function.comp_apply, toNat_asChar]
    exact UInt8.ofNat_toNat
  have written := encode_eq (String.ofList text)
  rw [String.toList_ofList] at written
  rw [octetChars, same, ← written, decode_encode]

end RowQuery.Text.Utf8
