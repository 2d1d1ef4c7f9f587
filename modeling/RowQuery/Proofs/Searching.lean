import Mathlib.Data.List.Infix
import RowQuery.Text.Ascii

/-!
# Where a word stands

A search finds a word exactly if it lies in the text (`find?_eq_none_iff`), and at the first place at which it
stands (`find?_eq_some_iff`); so what is written behind the text makes no difference to what is found
(`FirstAt.append`). A character that is not in the word cuts a search in two: what is in front of it is searched
first, then what is behind (`find?_append_mark`).
-/

namespace RowQuery.Text

theorem find?_eq_none_iff (word text : List Char) : find? word text = none ↔ ¬word <:+: text := by
  induction text with
  | nil => simp [find?, List.infix_nil]
  | cons c rest ih =>
    rw [find?, List.infix_cons_iff, not_or, ← ih]
    by_cases here : word <+: c :: rest
    · simp [List.isPrefixOf_iff_prefix, here]
    · simp [List.isPrefixOf_iff_prefix, here]

theorem find?_eq_some_zero {word text : List Char} (opens : word <+: text) : find? word text = some 0 := by
  cases text with
  | nil => simp [find?, List.prefix_nil.mp opens]
  | cons c rest => rw [find?, if_pos (List.isPrefixOf_iff_prefix.mpr opens)]

/-! ## The first place -/

/-- A word stands at a place of a text, and at none in front of it. -/
structure FirstAt {α : Type} (word text : List α) (place : Nat) : Prop where
  here : word <+: text.drop place
  before : ∀ earlier < place, ¬word <+: text.drop earlier

section
variable {α : Type} {word : List α}

theorem firstAt_iff_of_prefix {text : List α} (opens : word <+: text) (place : Nat) :
    FirstAt word text place ↔ place = 0 := by
  constructor
  · intro first
    by_contra behind
    exact first.before 0 (Nat.pos_of_ne_zero behind) opens
  · rintro rfl
    exact ⟨opens, fun earlier less => absurd less (Nat.not_lt_zero earlier)⟩

theorem firstAt_cons_succ {c : α} {rest : List α} (later : ¬word <+: c :: rest) (place : Nat) :
    FirstAt word (c :: rest) (place + 1) ↔ FirstAt word rest place := by
  constructor
  · intro first
    exact ⟨first.here, fun earlier less => first.before (earlier + 1) (Nat.succ_lt_succ less)⟩
  · intro first
    refine ⟨first.here, ?_⟩
    intro earlier less
    cases earlier with
    | zero => exact later
    | succ earlier => exact first.before earlier (Nat.lt_of_succ_lt_succ less)

end

theorem find?_eq_some_iff (word text : List Char) (place : Nat) :
    find? word text = some place ↔ FirstAt word text place := by
  induction text generalizing place with
  | nil =>
    by_cases opens : word <+: []
    · rw [find?_eq_some_zero opens, firstAt_iff_of_prefix opens, Option.some.injEq, eq_comm]
    · have nowhere : ¬FirstAt word [] place := fun first => opens (by simpa using first.here)
      simp [find?, List.isEmpty_iff, ← List.prefix_nil, opens, nowhere]
  | cons c rest ih =>
    by_cases opens : word <+: c :: rest
    · rw [find?_eq_some_zero opens, firstAt_iff_of_prefix opens, Option.some.injEq, eq_comm]
    · rw [find?, if_neg (by rwa [List.isPrefixOf_iff_prefix])]
      cases place with
      | zero =>
        have notHere : ¬FirstAt word (c :: rest) 0 := fun first => opens first.here
        simp [notHere]
      | succ place => simp [firstAt_cons_succ opens, ih]

section
variable {α : Type} {word text : List α} {place : Nat}

theorem FirstAt.end_le (written : word ≠ []) (first : FirstAt word text place) :
    place + word.length ≤ text.length := by
  have fits := first.here.length_le
  have some := List.length_pos_iff.mpr written
  rw [List.length_drop] at fits
  omega

theorem FirstAt.append (first : FirstAt word text place) (more : List α) : FirstAt word (text ++ more) place := by
  have fits := first.here.length_le
  rw [List.length_drop] at fits
  refine ⟨?_, ?_⟩
  · rw [List.drop_append]
    exact first.here.trans (List.prefix_append _ _)
  · intro earlier less opens
    rw [List.drop_append] at opens
    refine first.before earlier less (List.prefix_of_prefix_length_le opens (List.prefix_append _ _) ?_)
    rw [List.length_drop]
    omega

/-- In front of its first place a word does not stand. -/
theorem FirstAt.not_infix_take (written : word ≠ []) (first : FirstAt word text place) : ¬word <:+: text.take place := by
  rintro ⟨before, after, whole⟩
  have some := List.length_pos_iff.mpr written
  have fits := congrArg List.length whole
  rw [List.length_append, List.length_append, List.length_take] at fits
  refine first.before before.length (by omega) ?_
  have split : text = before ++ (word ++ (after ++ text.drop place)) := by
    conv_lhs => rw [← List.take_append_drop place text, ← whole]
    simp only [List.append_assoc]
  rw [split, List.drop_left]
  exact List.prefix_append _ _

end

/-! ## Marks -/

/-- A word does not reach over a character that is not in it. -/
theorem isPrefixOf_append_mark {word : List Char} {mark : Char} (apart : mark ∉ word) (before after : List Char) :
    word.isPrefixOf (before ++ mark :: after) = word.isPrefixOf before := by
  induction before generalizing word with
  | nil =>
    cases word with
    | nil => rfl
    | cons c word =>
      have other : c ≠ mark := by
        rintro rfl
        exact apart List.mem_cons_self
      simp [List.isPrefixOf, other]
  | cons d before ih =>
    cases word with
    | nil => rfl
    | cons c word =>
      rw [List.cons_append, List.isPrefixOf, List.isPrefixOf, ih fun inside => apart (List.mem_cons_of_mem _ inside)]

section
variable {word : List Char} (written : word ≠ []) {mark : Char} (apart : mark ∉ word)
include written apart

/-- Behind a text without the word, and a character that is not in the word, the search begins anew. -/
theorem find?_append_mark {before : List Char} (absent : ¬word <:+: before) (after : List Char) :
    find? word (before ++ mark :: after) = (find? word after).map (· + (before.length + 1)) := by
  induction before with
  | nil =>
    have notHere : ¬word.isPrefixOf (mark :: after) = true := by
      have cut := isPrefixOf_append_mark apart [] after
      rw [List.nil_append] at cut
      rw [cut, List.isPrefixOf_iff_prefix, List.prefix_nil]
      exact written
    rw [List.nil_append, find?, if_neg notHere]
    rfl
  | cons c before ih =>
    rw [List.infix_cons_iff, not_or] at absent
    have notHere : ¬word.isPrefixOf (c :: before ++ mark :: after) = true := by
      rw [isPrefixOf_append_mark apart, List.isPrefixOf_iff_prefix]
      exact absent.1
    rw [List.cons_append] at notHere ⊢
    rw [find?, if_neg notHere, ih absent.2, Option.map_map, List.length_cons]
    rfl

/-- A word that stands on neither side of a character does not stand in the whole. -/
theorem not_infix_append_mark {before after : List Char} (absent : ¬word <:+: before) (later : ¬word <:+: after) :
    ¬word <:+: before ++ mark :: after := by
  rw [← find?_eq_none_iff, find?_append_mark written apart absent, (find?_eq_none_iff word after).mpr later]
  rfl

/-- A word behind such a character is where the word first stands. -/
theorem find?_append_mark_word {before : List Char} (absent : ¬word <:+: before) (after : List Char) :
    find? word (before ++ mark :: (word ++ after)) = some (before.length + 1) := by
  rw [find?_append_mark written apart absent, find?_eq_some_zero (List.prefix_append word after), Option.map_some,
    Nat.zero_add]

theorem not_infix_intercalate {second : Char} (apartToo : second ∉ word) {parts : List (List Char)}
    (absent : ∀ part ∈ parts, ¬word <:+: part) : ¬word <:+: [mark, second].intercalate parts := by
  induction parts with
  | nil => simpa using written
  | cons first rest ih =>
    have here := absent first List.mem_cons_self
    have later := ih fun part among => absent part (List.mem_cons_of_mem _ among)
    cases rest with
    | nil => simpa using here
    | cons next rest =>
      have nothing : ¬word <:+: [] := by simpa using written
      rw [List.intercalate_cons_cons, List.append_assoc]
      exact not_infix_append_mark written apart here (not_infix_append_mark written apartToo nothing later)

end

/-! ## Letter case -/

theorem toNat_toLower (c : Char) :
    c.toLower.toNat = if 65 ≤ c.toNat ∧ c.toNat ≤ 90 then c.toNat + 32 else c.toNat := by
  by_cases upper : 65 ≤ c.toNat ∧ c.toNat ≤ 90
  · have within : c.val ≥ 'A'.val ∧ c.val ≤ 'Z'.val := by simpa [UInt32.le_iff_toNat_le] using upper
    have lowered : c.toLower.val = c.val + 32 := congrArg Char.val (dif_pos within)
    rw [if_pos upper, ← Char.toNat_val, lowered, UInt32.toNat_add, Char.toNat_val]
    show (c.toNat + 32) % 4294967296 = _
    omega
  · have without : ¬(c.val ≥ 'A'.val ∧ c.val ≤ 'Z'.val) := by simpa [UInt32.le_iff_toNat_le] using upper
    have same : c.toLower = c := dif_neg without
    rw [same, if_neg upper]

theorem foldCase_append (before after : List Char) : foldCase (before ++ after) = foldCase before ++ foldCase after :=
  List.map_append

theorem length_foldCase (text : List Char) : (foldCase text).length = text.length := List.length_map _

theorem findFolded?_end_le {word text : List Char} (written : word ≠ []) {place : Nat}
    (found : findFolded? word text = some place) : place + word.length ≤ text.length := by
  have folded : foldCase word ≠ [] := by simpa [foldCase] using written
  have fits := ((find?_eq_some_iff _ _ _).mp found).end_le folded
  rwa [length_foldCase, length_foldCase] at fits

/-- A word is found where it was found, whatever is written behind the text. -/
theorem findFolded?_append {word text : List Char} {place : Nat} (found : findFolded? word text = some place)
    (more : List Char) : findFolded? word (text ++ more) = some place := by
  rw [findFolded?, find?_eq_some_iff] at found ⊢
  rw [foldCase_append]
  exact found.append (foldCase more)

/-- A text in which a word does not stand, whatever the case of ASCII letters. -/
def Avoids (word text : List Char) : Prop := ¬foldCase word <:+: foldCase text

instance (word text : List Char) : Decidable (Avoids word text) := inferInstanceAs (Decidable ¬_)

theorem findFolded?_eq_none_iff (word text : List Char) : findFolded? word text = none ↔ Avoids word text :=
  find?_eq_none_iff _ _

theorem Avoids.mono {word text : List Char} (absent : Avoids word text) {part : List Char} (inside : part <:+: text) :
    Avoids word part := fun stands => absent (stands.trans (inside.map Char.toLower))

/-- In front of the place at which it is found a word does not stand. -/
theorem avoids_take {word text : List Char} (written : word ≠ []) {place : Nat}
    (found : findFolded? word text = some place) : Avoids word (text.take place) := by
  have folded : foldCase word ≠ [] := by simpa [foldCase] using written
  have absent := ((find?_eq_some_iff _ _ _).mp found).not_infix_take folded
  rwa [Avoids, foldCase, foldCase, List.map_take]

end RowQuery.Text
