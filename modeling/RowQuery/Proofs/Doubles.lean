import Mathlib
import RowQuery.Query.Evaluate

/-!
# How doubles stand to each other

A double unpacks to an infinity, a zero, a finite number with sign, significand and exponent, or to no
number at all. Two of them are compared by what they unpack to. Less, greater and equal are three tests of
one comparison (`orderNumbers_eq`, `beq_eq`), which has an outcome unless one of the two is no number
(`orderNumbers_eq_none_iff`). The numbers of JSON and the truth values are all numbers in this sense.
-/

namespace RowQuery

open Float.Model (UnpackedFloat Format)
open Float.Model.UnpackedFloat (Sign Accuracy)

/-! ## The comparison -/

theorem swap_compare_finite (m n : Nat) (e f : Int) :
    ((compare e f).then (compare m n)).swap = (compare f e).then (compare n m) := by
  rw [Ordering.swap_then, Int.compare_swap, Nat.compare_swap]

/-- Seen from the other side, less and greater change places. -/
theorem compare_unpacked_swap (x y : UnpackedFloat) :
    UnpackedFloat.compare y x = (UnpackedFloat.compare x y).map Ordering.swap := by
  cases x with
  | notANumber => cases y <;> rfl
  | infinity s =>
    cases y with
    | notANumber => rfl
    | infinity t => cases s <;> cases t <;> rfl
    | zero t => cases s <;> rfl
    | finite t n f pos => cases s <;> cases t <;> rfl
  | zero s =>
    cases y with
    | notANumber => rfl
    | infinity t => cases t <;> rfl
    | zero t => rfl
    | finite t n f pos => cases t <;> rfl
  | finite s m e pos =>
    cases y with
    | notANumber => rfl
    | infinity t => cases s <;> cases t <;> rfl
    | zero t => cases s <;> rfl
    | finite t n f pos => cases s <;> cases t <;> simp [UnpackedFloat.compare, swap_compare_finite]

theorem compare_unpacked_eq_none_iff (x y : UnpackedFloat) :
    UnpackedFloat.compare x y = none ↔ x.isNaN = true ∨ y.isNaN = true := by
  cases x with
  | notANumber => simp [UnpackedFloat.compare, UnpackedFloat.isNaN]
  | infinity s => cases y <;> cases s <;> simp [UnpackedFloat.compare, UnpackedFloat.isNaN]
  | zero s =>
    cases y with
    | notANumber | zero => simp [UnpackedFloat.compare, UnpackedFloat.isNaN]
    | infinity t | finite t => cases t <;> simp [UnpackedFloat.compare, UnpackedFloat.isNaN]
  | finite s m e pos =>
    cases y with
    | notANumber => simp [UnpackedFloat.compare, UnpackedFloat.isNaN]
    | infinity t | finite t => cases s <;> cases t <;> simp [UnpackedFloat.compare, UnpackedFloat.isNaN]
    | zero t => cases s <;> simp [UnpackedFloat.compare, UnpackedFloat.isNaN]

/-- The order is found by testing for less on either side and then for equality; these are the outcomes of
one comparison. -/
theorem orderNumbers_eq (x y : Float) :
    orderNumbers x y = UnpackedFloat.compare x.toModel.unpack y.toModel.unpack := by
  have below : x < y ↔ UnpackedFloat.compare x.toModel.unpack y.toModel.unpack = some .lt := by
    change decide (UnpackedFloat.lt x.toModel.unpack y.toModel.unpack = true) = true ↔ _
    simp [UnpackedFloat.lt]
  have above : y < x ↔ UnpackedFloat.compare x.toModel.unpack y.toModel.unpack = some .gt := by
    change decide (UnpackedFloat.lt y.toModel.unpack x.toModel.unpack = true) = true ↔ _
    rw [decide_eq_true_iff, UnpackedFloat.lt, compare_unpacked_swap]
    cases UnpackedFloat.compare x.toModel.unpack y.toModel.unpack with
    | none => simp
    | some order => cases order <;> simp
  have level : (x == y) = true ↔ UnpackedFloat.compare x.toModel.unpack y.toModel.unpack = some .eq := by
    change UnpackedFloat.beq x.toModel.unpack y.toModel.unpack = true ↔ _
    simp [UnpackedFloat.beq]
  rw [orderNumbers]
  simp only [below, above, level]
  cases UnpackedFloat.compare x.toModel.unpack y.toModel.unpack with
  | none => simp
  | some order => cases order <;> simp

theorem beq_eq (x y : Float) : (x == y) = (orderNumbers x y == some .eq) := by
  rw [orderNumbers_eq]
  rfl

/-- Two doubles stand in an order unless one of them is no number. -/
theorem orderNumbers_eq_none_iff (x y : Float) : orderNumbers x y = none ↔ x.isNaN = true ∨ y.isNaN = true := by
  rw [orderNumbers_eq]
  exact compare_unpacked_eq_none_iff _ _

/-! ## What is a number -/

theorem isNaN_packComponents (s : Sign) {exponent : BitVec 11} (significand : BitVec 52)
    (notTop : exponent ≠ -1#11) :
    (UnpackedFloat.unpack .binary64 (UnpackedFloat.packComponents .binary64 s exponent significand)).isNaN = false := by
  rw [UnpackedFloat.unpack]
  simp only [UnpackedFloat.unpackExponent_packComponents, UnpackedFloat.unpackMantissa_packComponents]
  rw [if_neg notTop]
  split
  · split <;> rfl
  · rfl

/-- What is written to bits is no number only if it was none before. -/
theorem isNaN_pack (x : UnpackedFloat) : (Float.Model.pack x).isNaN = x.isNaN := by
  change (UnpackedFloat.unpack .binary64 (UnpackedFloat.pack .binary64 x)).isNaN = x.isNaN
  cases x with
  | notANumber => rfl
  | infinity s => cases s <;> rfl
  | zero s => cases s <;> rfl
  | finite s m e pos =>
    rw [UnpackedFloat.pack]
    dsimp only
    generalize (e + Format.binary64.exponentBias + Format.binary64.mantissaBitsWithoutImplicit).toNat = biased
    split
    · cases s <;> rfl
    next small =>
      split
      · apply isNaN_packComponents
        intro top
        have all : biased % 2048 = 2047 := congrArg BitVec.toNat top
        change ¬2048 ≤ biased + 1 at small
        omega
      · exact isNaN_packComponents _ _ (by decide)

theorem isNaN_roundWithAccuracy (format : Format) (s : Sign) (m : Nat) (e : Int) (accuracy : Accuracy) :
    (UnpackedFloat.roundWithAccuracy format s m e accuracy).isNaN = false := by
  rw [UnpackedFloat.roundWithAccuracy]
  dsimp only
  split <;> rfl

theorem isNaN_normalize (format : Format) (m e : Int) (s : Sign) :
    (UnpackedFloat.normalize format m e s).isNaN = false := by
  rw [UnpackedFloat.normalize]
  split
  · exact isNaN_roundWithAccuracy _ _ _ _ _
  · rfl
  · exact isNaN_roundWithAccuracy _ _ _ _ _

section
variable (format : Format) {x : UnpackedFloat} (number : x.isNaN = false) (s : Sign) {m : Nat} (e : Int) (pos : 0 < m)
include number

theorem isNaN_mul_finite : (UnpackedFloat.mul format x (.finite s m e pos)).isNaN = false := by
  cases x with
  | notANumber => exact number
  | infinity t => rfl
  | zero t => rfl
  | finite t n f other => exact isNaN_roundWithAccuracy _ _ _ _ _

theorem isNaN_div_finite : (UnpackedFloat.div format x (.finite s m e pos)).isNaN = false := by
  cases x with
  | notANumber => exact number
  | infinity t => rfl
  | zero t => rfl
  | finite t n f other => exact isNaN_roundWithAccuracy _ _ _ _ _

end

theorem isNaN_unpackedOfScientific (format : Format) (m : Nat) (e : Int) :
    (UnpackedFloat.ofScientific format m e).isNaN = false := by
  rw [UnpackedFloat.ofScientific]
  split
  · rfl
  split
  · rfl
  split
  · rfl
  split
  · exact isNaN_mul_finite format rfl _ _ _
  · exact isNaN_div_finite format rfl _ _ _

theorem isNaN_ofNat (n : Nat) : (Float.ofNat n).isNaN = false := by
  change (Float.ofScientific n false 0).isNaN = false
  rw [Float.ofScientific]
  split
  · -- a small number is made exactly and then multiplied by the power of ten with exponent zero
    have whole : n.toUInt64.toFloat.toModel.unpack.isNaN = false :=
      (isNaN_pack _).trans (isNaN_normalize _ _ _ _)
    have one : (Float.ofBits 0x3FF0000000000000).toModel.unpack =
        .finite .positive 0x10000000000000 (-52) (by decide) := by rfl
    change (Float.Model.pack (UnpackedFloat.mul .binary64 n.toUInt64.toFloat.toModel.unpack
      (Float.ofBits 0x3FF0000000000000).toModel.unpack)).isNaN = false
    rw [isNaN_pack, one]
    exact isNaN_mul_finite _ whole _ _ _
  · exact (isNaN_pack _).trans (isNaN_unpackedOfScientific _ _ _)

theorem isNaN_ofInt (n : Int) : (Float.ofInt n).isNaN = false := by
  cases n with
  | ofNat n => exact isNaN_ofNat n
  | negSucc n =>
    have mirrored (x : UnpackedFloat) : x.neg.isNaN = x.isNaN := by cases x <;> rfl
    exact (isNaN_pack _).trans ((mirrored _).trans (isNaN_ofNat (n + 1)))

theorem isNaN_of_isFinite {x : Float} (finite : x.isFinite = true) : x.isNaN = false := by
  change x.toModel.unpack.isFinite = true at finite
  change x.toModel.unpack.isNaN = false
  cases shape : x.toModel.unpack with
  | notANumber =>
    rw [shape] at finite
    cases finite
  | _ => rfl

/-- A JSON number is a number. -/
theorem isNaN_toFloat (n : Number) : n.toFloat.isNaN = false := by
  cases n with
  | int n fits => exact isNaN_ofInt n
  | float x finite => exact isNaN_of_isFinite finite

theorem isNaN_truthNumber (b : Bool) : (truthNumber b).isNaN = false := by
  cases b
  · exact isNaN_ofNat 0
  · exact isNaN_ofNat 1

end RowQuery
