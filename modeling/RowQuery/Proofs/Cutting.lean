import Mathlib.Data.List.Basic
import Mathlib.Data.List.DropRight
import Mathlib.Data.List.Induction
import Mathlib.Data.List.TakeWhile
import RowQuery.Text.Blank

/-!
# Trimming, splitting and joining

Trimming leaves out blanks at the ends and nothing else. The pieces of a split lie in the text and
hold no character at which it was split. Joining shorter parts gives a shorter text, and only the
parts themselves give the whole of it.
-/

namespace RowQuery.Text

/-! ## Trimming -/

theorem trimStart_sublist (text : List Char) : (trimStart text).Sublist text :=
  List.dropWhile_sublist isBlank

theorem trimEnd_sublist (text : List Char) : (trimEnd text).Sublist text := by
  have shorter := (List.dropWhile_sublist isBlank (l := text.reverse)).reverse
  rwa [List.reverse_reverse] at shorter

theorem trim_sublist (text : List Char) : (trim text).Sublist text :=
  (trimEnd_sublist _).trans (trimStart_sublist text)

theorem trimEnd_eq_rdropWhile (text : List Char) : trimEnd text = text.rdropWhile isBlank := rfl

theorem trimEnd_trimEnd (text : List Char) : trimEnd (trimEnd text) = trimEnd text := by
  rw [trimEnd_eq_rdropWhile, trimEnd_eq_rdropWhile, List.rdropWhile_idempotent]

theorem trim_infix (text : List Char) : trim text <:+: text :=
  (List.rdropWhile_prefix isBlank _).isInfix.trans (List.dropWhile_suffix isBlank).isInfix

/-- Trimming leaves no blank at either end. -/
theorem trim_trim (text : List Char) : trim (trim text) = trim text := by
  have start : trimStart (trim text) = trim text := by
    rw [trimStart, List.dropWhile_eq_self_iff]
    intro some
    have opens : trim text <+: trimStart text := List.rdropWhile_prefix isBlank _
    rw [opens.getElem some]
    exact List.dropWhile_get_zero_not isBlank text (some.trans_le opens.length_le)
  conv_lhs => rw [trim, start]
  rw [trim, trimEnd_trimEnd]

theorem trim_of_blank {text : List Char} (blank : ∀ c ∈ text, isBlank c = true) : trim text = [] := by
  have nothing : trimStart text = [] := List.dropWhile_eq_nil_iff.mpr blank
  rw [trim, nothing]
  rfl

theorem trimEnd_eq_nil_iff (text : List Char) : trimEnd text = [] ↔ ∀ c ∈ text, isBlank c = true := by
  simp [trimEnd]

/-- Nothing is left of a text only if it is blank. -/
theorem trim_eq_nil_iff (text : List Char) : trim text = [] ↔ ∀ c ∈ text, isBlank c = true := by
  constructor
  · intro nothing c inside
    rw [← List.takeWhile_append_dropWhile (p := isBlank) (l := text)] at inside
    rcases List.mem_append.mp inside with before | after
    · exact List.mem_takeWhile_imp before
    · exact (trimEnd_eq_nil_iff _).mp nothing c after
  · exact trim_of_blank

theorem trim_cons_blank {c : Char} (blank : isBlank c = true) (text : List Char) : trim (c :: text) = trim text := by
  rw [trim, trim, trimStart, List.dropWhile_cons_of_pos blank, trimStart]

theorem trimEnd_concat (text : List Char) (c : Char) :
    trimEnd (text ++ [c]) = if isBlank c = true then trimEnd text else text ++ [c] := by
  rw [trimEnd, List.reverse_append, List.reverse_singleton, List.singleton_append, List.dropWhile_cons]
  split
  · rfl
  · simp

theorem trim_concat_blank (text : List Char) {c : Char} (blank : isBlank c = true) :
    trim (text ++ [c]) = trim text := by
  have last : trimStart [c] = [] := List.dropWhile_cons_of_pos blank
  rw [trim, trim, trimStart, List.dropWhile_append]
  split
  next none =>
    rw [trimStart, List.isEmpty_iff.mp none]
    exact congrArg trimEnd last
  next => rw [trimEnd_concat, if_pos blank, trimStart]

/-- What a text begins with is left, if it does not end in a blank itself. -/
theorem prefix_trimEnd {front text : List Char} (opens : front <+: text) (trimmed : trimEnd front = front) :
    front <+: trimEnd text := by
  obtain ⟨rest, rfl⟩ := opens
  induction rest using List.reverseRecOn with
  | nil => simp [trimmed]
  | append_singleton rest c ih =>
    rw [← List.append_assoc, trimEnd_concat]
    split
    · exact ih
    · exact (List.prefix_append front rest).trans (List.prefix_append _ _)

theorem trimEnd_append {text : List Char} (some : text ≠ []) (trimmed : trimEnd text = text) (before : List Char) :
    trimEnd (before ++ text) = before ++ text := by
  obtain ⟨front, last, rfl⟩ := (List.eq_nil_or_concat' text).resolve_left some
  rw [trimEnd_concat] at trimmed
  split at trimmed
  next =>
    have short := (trimEnd_sublist front).length_le
    rw [trimmed, List.length_append, List.length_singleton] at short
    omega
  next seen => rw [← List.append_assoc, trimEnd_concat, if_neg seen]

/-- What stands at a place of a text stands there after trimming the end, too, but for blanks at its own end. -/
theorem trimEnd_prefix_drop {part text : List Char} {place : Nat} (stands : part <+: text.drop place) :
    trimEnd part <+: (trimEnd text).drop place := by
  by_cases blank : trimEnd part = []
  · rw [blank]
    exact List.nil_prefix
  obtain ⟨rest, split⟩ := (List.rdropWhile_prefix isBlank part).trans stands
  rw [← trimEnd_eq_rdropWhile] at split
  have long : place ≤ text.length := by
    by_contra short
    rw [List.drop_eq_nil_of_le (by omega)] at split
    exact blank (List.append_eq_nil_iff.mp split).1
  have front : text.take place ++ trimEnd part <+: trimEnd text := by
    refine prefix_trimEnd ⟨rest, ?_⟩ (trimEnd_append blank (trimEnd_trimEnd part) _)
    rw [List.append_assoc, split, List.take_append_drop]
  obtain ⟨behind, whole⟩ := front
  refine ⟨behind, ?_⟩
  rw [← whole, List.append_assoc, List.drop_left' (List.length_take_of_le long)]

theorem trimmed_eq_iff (s : String) : trimmed s = s ↔ trim s.toList = s.toList := by
  rw [trimmed, ← String.toList_inj, String.toList_ofList]

/-! ## Splitting -/

section
variable {α : Type} {cut : α → Bool} {text piece : List α}

/-- Where a piece of a split comes from: it is empty in front of a cut, it is a piece of the rest, or it
is the first piece of the rest with one more character. -/
theorem mem_splitOnP_cons {c : α} (member : piece ∈ (c :: text).splitOnP cut) :
    (cut c = true ∧ piece = []) ∨ piece ∈ text.splitOnP cut ∨
      (cut c = false ∧ ∃ first rest, text.splitOnP cut = first :: rest ∧ piece = c :: first) := by
  rw [List.splitOnP_cons_eq_if_modifyHead] at member
  by_cases here : cut c = true
  · rw [if_pos here] at member
    rcases List.mem_cons.mp member with same | later
    · exact .inl ⟨here, same⟩
    · exact .inr (.inl later)
  · obtain ⟨first, rest, more⟩ := List.exists_cons_of_ne_nil (List.splitOnP_ne_nil cut text)
    rw [if_neg here, more, List.modifyHead_cons] at member
    rcases List.mem_cons.mp member with same | later
    · exact .inr (.inr ⟨by simpa using here, first, rest, more, same⟩)
    · exact .inr (.inl (more ▸ List.mem_cons_of_mem _ later))

/-- The first piece of a split stands at the head of the text. -/
theorem prefix_of_splitOnP {rest : List (List α)} (split : text.splitOnP cut = piece :: rest) :
    piece <+: text := by
  induction text generalizing piece rest with
  | nil => simp_all [List.splitOnP_nil]
  | cons c text ih =>
    rw [List.splitOnP_cons_eq_if_modifyHead] at split
    by_cases here : cut c = true
    · rw [if_pos here, List.cons.injEq] at split
      rw [← split.1]
      exact List.nil_prefix
    · obtain ⟨first, others, more⟩ := List.exists_cons_of_ne_nil (List.splitOnP_ne_nil cut text)
      rw [if_neg here, more, List.modifyHead_cons, List.cons.injEq] at split
      rw [← split.1]
      exact (List.prefix_cons_inj c).mpr (ih more)

/-- Every piece of a split lies in the text. -/
theorem infix_of_mem_splitOnP (member : piece ∈ text.splitOnP cut) : piece <:+: text := by
  induction text with
  | nil => simp_all [List.splitOnP_nil]
  | cons c text ih =>
    rcases mem_splitOnP_cons member with ⟨_, rfl⟩ | later | ⟨_, first, rest, more, rfl⟩
    · exact List.nil_infix
    · exact (ih later).trans (List.suffix_cons c text).isInfix
    · exact ((List.prefix_cons_inj c).mpr (prefix_of_splitOnP more)).isInfix

/-- No piece of a split holds a character at which the text was split. -/
theorem not_cut_of_mem_splitOnP (member : piece ∈ text.splitOnP cut) : ∀ c ∈ piece, cut c = false := by
  induction text generalizing piece with
  | nil => simp_all [List.splitOnP_nil]
  | cons d text ih =>
    intro c inside
    rcases mem_splitOnP_cons member with ⟨_, rfl⟩ | later | ⟨kept, first, rest, more, rfl⟩
    · exact absurd inside List.not_mem_nil
    · exact ih later c inside
    · rcases List.mem_cons.mp inside with rfl | further
      · exact kept
      · exact ih (more ▸ List.mem_cons_self) c further

/-- Every character of a text is one at which it is split, or stands in a piece. -/
theorem cut_or_mem_of_mem {c : α} (inside : c ∈ text) : cut c = true ∨ ∃ piece ∈ text.splitOnP cut, c ∈ piece := by
  induction text with
  | nil => simp at inside
  | cons d text ih =>
    rw [List.splitOnP_cons_eq_if_modifyHead]
    by_cases here : cut d = true
    · rw [if_pos here]
      rcases List.mem_cons.mp inside with rfl | later
      · exact .inl here
      · refine (ih later).imp_right ?_
        rintro ⟨piece, among, within⟩
        exact ⟨piece, List.mem_cons_of_mem _ among, within⟩
    · obtain ⟨first, rest, more⟩ := List.exists_cons_of_ne_nil (List.splitOnP_ne_nil cut text)
      rw [if_neg here, more, List.modifyHead_cons]
      rw [more] at ih
      rcases List.mem_cons.mp inside with rfl | later
      · exact .inr ⟨c :: first, List.mem_cons_self, List.mem_cons_self⟩
      · refine (ih later).imp_right ?_
        rintro ⟨piece, among, within⟩
        rcases List.mem_cons.mp among with rfl | further
        · exact ⟨d :: piece, List.mem_cons_self, List.mem_cons_of_mem _ within⟩
        · exact ⟨piece, List.mem_cons_of_mem _ further, within⟩

theorem splitOnP_map {β : Type} (f : β → α) (text : List β) :
    (text.map f).splitOnP cut = (text.splitOnP (cut ∘ f)).map (List.map f) := by
  induction text with
  | nil => simp
  | cons c text ih =>
    rw [List.map_cons, List.splitOnP_cons_eq_if_modifyHead, List.splitOnP_cons_eq_if_modifyHead, ih,
      Function.comp_apply]
    obtain ⟨first, rest, more⟩ := List.exists_cons_of_ne_nil (List.splitOnP_ne_nil (cut ∘ f) text)
    by_cases here : cut (f c) = true
    · rw [if_pos here, if_pos here, List.map_cons, List.map_nil]
    · rw [if_neg here, if_neg here, more]
      rfl

theorem not_mem_of_mem_splitOn [BEq α] [LawfulBEq α] {mark : α} (member : piece ∈ text.splitOn mark) :
    mark ∉ piece := by
  intro inside
  simpa using not_cut_of_mem_splitOnP member mark inside

/-! ## Joining -/

theorem mem_intercalate {sep : List α} {parts : List (List α)} {part : List α} (member : part ∈ parts) {c : α}
    (inside : c ∈ part) : c ∈ sep.intercalate parts := by
  induction parts with
  | nil => simp at member
  | cons first rest ih =>
    rcases List.mem_cons.mp member with same | later
    · cases rest <;> simp_all
    · rw [List.intercalate_cons_of_ne_nil (List.ne_nil_of_mem later)]
      exact List.mem_append_right _ (ih later)

theorem mem_of_mem_intercalate {sep : List α} {parts : List (List α)} {c : α} (member : c ∈ sep.intercalate parts) :
    c ∈ sep ∨ ∃ part ∈ parts, c ∈ part := by
  induction parts with
  | nil => simp at member
  | cons first rest ih =>
    rcases Classical.em (rest = []) with rfl | more
    · exact .inr ⟨first, List.mem_cons_self, by simpa using member⟩
    · rw [List.intercalate_cons_of_ne_nil more, List.append_assoc] at member
      rcases List.mem_append.mp member with here | later
      · exact .inr ⟨first, List.mem_cons_self, here⟩
      · rcases List.mem_append.mp later with between | later
        · exact .inl between
        · exact (ih later).imp_right fun ⟨part, among, inside⟩ => ⟨part, List.mem_cons_of_mem _ among, inside⟩

theorem intercalate_append {sep : List α} {front back : List (List α)} (some : front ≠ []) (more : back ≠ []) :
    sep.intercalate (front ++ back) = sep.intercalate front ++ sep ++ sep.intercalate back := by
  induction front with
  | nil => exact absurd rfl some
  | cons first rest ih =>
    rw [List.cons_append, List.intercalate_cons_of_ne_nil (List.append_ne_nil_of_right_ne_nil rest more)]
    cases rest with
    | nil => simp
    | cons second rest => rw [ih (by simp), List.intercalate_cons_cons]; simp only [List.append_assoc]

/-- A part that was itself joined can just as well be joined with the others part by part. -/
theorem intercalate_cons_intercalate {sep : List α} {front back others : List (List α)} (some : front ≠ [])
    (empty : others = [] ↔ back = []) (same : sep.intercalate others = sep.intercalate back) :
    sep.intercalate (sep.intercalate front :: others) = sep.intercalate (front ++ back) := by
  by_cases none : back = []
  · rw [none, empty.mpr none, List.append_nil, List.intercalate_singleton]
  · rw [intercalate_append some none, List.intercalate_cons_of_ne_nil (mt empty.mp none), same]

theorem intercalate_sublist {sep : List α} {f : List α → List α} {parts : List (List α)}
    (shorter : ∀ part ∈ parts, (f part).Sublist part) :
    (sep.intercalate (parts.map f)).Sublist (sep.intercalate parts) := by
  induction parts with
  | nil => exact List.Sublist.refl _
  | cons first rest ih =>
    have head := shorter first List.mem_cons_self
    have tail := ih fun part later => shorter part (List.mem_cons_of_mem _ later)
    cases rest with
    | nil => simpa using head
    | cons second rest =>
      rw [List.map_cons, List.map_cons, List.intercalate_cons_cons, List.intercalate_cons_cons]
      exact (head.append (List.Sublist.refl sep)).append tail

theorem map_intercalate {β : Type} (f : α → β) (sep : List α) (parts : List (List α)) :
    (sep.intercalate parts).map f = (sep.map f).intercalate (parts.map (List.map f)) := by
  induction parts with
  | nil => rfl
  | cons first rest ih =>
    cases rest with
    | nil => simp
    | cons second rest =>
      rw [List.map_cons, List.map_cons, List.intercalate_cons_cons, List.intercalate_cons_cons, List.map_append,
        List.map_append, ih]
      rfl

/-- A joined text that goes on after its last part. -/
theorem intercalate_concat_append (sep : List α) (front : List (List α)) (last text : List α) :
    sep.intercalate (front ++ [last]) ++ text = sep.intercalate (front ++ [last ++ text]) := by
  induction front with
  | nil => simp
  | cons first rest ih =>
    rw [List.cons_append, List.cons_append, List.intercalate_cons_of_ne_nil (by simp),
      List.intercalate_cons_of_ne_nil (by simp), ← ih]
    simp only [List.append_assoc]

/-- What separates the parts behind a mark can just as well stand in front of each of them. -/
theorem append_intercalate_cons (mark : α) (sep first : List α) (rest : List (List α)) :
    sep ++ (mark :: sep).intercalate (first :: rest) = [mark].intercalate ((first :: rest).map (sep ++ ·)) := by
  induction rest generalizing first with
  | nil => simp
  | cons second rest ih =>
    rw [List.intercalate_cons_cons, List.map_cons, List.map_cons, List.intercalate_cons_cons, ← List.map_cons, ← ih]
    simp only [List.append_assoc, List.cons_append, List.nil_append]

end

/-! ## Pieces and blanks

A blank at the end of a text can only be a blank at the end of one of its pieces. -/

section
variable {mark : Char} (seen : isBlank mark = false)
include seen

theorem map_trim_splitOn_cons {c : Char} (blank : isBlank c = true) (text : List Char) :
    ((c :: text).splitOn mark).map trim = (text.splitOn mark).map trim := by
  have other : (c == mark) = false := by
    rw [beq_eq_false_iff_ne]
    rintro rfl
    rw [seen] at blank
    cases blank
  obtain ⟨first, rest, pieces⟩ := List.exists_cons_of_ne_nil (List.splitOnP_ne_nil (· == mark) text)
  rw [List.splitOn, List.splitOnP_cons_eq_if_modifyHead, if_neg (by simp [other]), List.splitOn, pieces,
    List.modifyHead_cons, List.map_cons, List.map_cons, trim_cons_blank blank]

theorem map_trim_splitOn_concat (text : List Char) {c : Char} (blank : isBlank c = true) :
    ((text ++ [c]).splitOn mark).map trim = (text.splitOn mark).map trim := by
  have other : mark ≠ c := by
    rintro rfl
    rw [seen] at blank
    cases blank
  obtain ⟨front, last, pieces⟩ :=
    (List.eq_nil_or_concat' (text.splitOn mark)).resolve_left (List.splitOnP_ne_nil _ _)
  have whole : text = [mark].intercalate (front ++ [last]) := by
    rw [← pieces, List.intercalate_splitOn]
  have free : ∀ piece ∈ front ++ [last], mark ∉ piece := fun piece among =>
    not_mem_of_mem_splitOn (pieces ▸ among)
  rw [pieces, whole, intercalate_concat_append, List.splitOn_intercalate]
  · simp [trim_concat_blank last blank]
  · intro piece among
    rcases List.mem_append.mp among with before | final
    · exact free piece (List.mem_append_left _ before)
    · rw [List.mem_singleton.mp final]
      simpa [other] using free last (by simp)
  · simp

/-- Trimming a text changes nothing in its trimmed pieces. -/
theorem map_trim_splitOn_trim (text : List Char) :
    ((trim text).splitOn mark).map trim = (text.splitOn mark).map trim := by
  have fromStart : ((trimStart text).splitOn mark).map trim = (text.splitOn mark).map trim := by
    induction text with
    | nil => rfl
    | cons c text ih =>
      by_cases blank : isBlank c = true
      · rw [map_trim_splitOn_cons seen blank, ← ih, trimStart, List.dropWhile_cons_of_pos blank, trimStart]
      · rw [trimStart, List.dropWhile_cons_of_neg blank]
  rw [← fromStart, trim]
  generalize trimStart text = started
  induction started using List.reverseRecOn with
  | nil => rfl
  | append_singleton started c ih =>
    rw [trimEnd_concat]
    split
    next blank => rw [map_trim_splitOn_concat seen started blank, ih]
    next => rfl

end

/-! ## Words -/

theorem words_append_blank {c : Char} (blank : isBlank c = true) (before after : List Char) :
    words (before ++ c :: after) = words before ++ words after := by
  rw [words, List.splitOnP_append_cons before after blank, List.filter_append]
  rfl

/-- A text that is one word. -/
structure Word (text : List Char) : Prop where
  some : text ≠ []
  seen : ∀ c ∈ text, isBlank c = false

instance (text : List Char) : Decidable (Word text) :=
  decidable_of_iff (text ≠ [] ∧ text.any isBlank = false)
    ⟨fun whole => ⟨whole.1, by simpa using whole.2⟩, fun word => ⟨word.some, by simpa using word.seen⟩⟩

theorem trim_of_word {text : List Char} (word : Word text) : trim text = text := by
  have head (pieces : List Char) (seen : ∀ c ∈ pieces, isBlank c = false) : pieces.dropWhile isBlank = pieces := by
    rw [List.dropWhile_eq_self_iff]
    intro some
    simp [seen _ (List.getElem_mem some)]
  rw [trim, trimStart, head text word.seen, trimEnd, head text.reverse (by simpa using word.seen), List.reverse_reverse]

theorem words_of_word {text : List Char} (word : Word text) : words text = [text] := by
  rw [words, List.splitOnP_eq_singleton word.seen]
  simp [word.some]

theorem words_cons_blank {c : Char} (blank : isBlank c = true) (text : List Char) : words (c :: text) = words text :=
  words_append_blank blank [] text

theorem words_word_append {text : List Char} (word : Word text) {c : Char} (blank : isBlank c = true)
    (rest : List Char) : words (text ++ c :: rest) = text :: words rest := by
  rw [words_append_blank blank, words_of_word word]
  rfl

end RowQuery.Text
