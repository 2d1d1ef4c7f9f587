import RowQuery.Keyed

/-!
# JSON values

A number is an integer of at most 64 bits, with or without sign, or a finite double; which of the
two it is shows when it is written. Objects keep the order of their members.
-/

namespace RowQuery

/-- The integers that a JSON number holds exactly: those of 64 bits, with or without sign. -/
def FitsWord (n : Int) : Prop := -0x8000000000000000 ≤ n ∧ n < 0x10000000000000000

instance (n : Int) : Decidable (FitsWord n) := inferInstanceAs (Decidable (_ ∧ _))

/-- A JSON number. -/
inductive Number where
  | int (n : Int) (fits : FitsWord n := by decide)
  | float (x : Float) (finite : x.isFinite = true := by decide)
  deriving DecidableEq

/-- A JSON value. -/
inductive Json where
  | null
  | bool (b : Bool)
  | number (n : Number)
  | string (s : String)
  | array (items : List Json)
  | object (members : List (String × Json))

/-- The double nearest to a number. -/
def Number.toFloat : Number → Float
  | .int n _ => Float.ofInt n
  | .float x _ => x

/-- A count as a JSON number; from `2 ^ 64` on, where no count can be, the largest integer. -/
def Number.ofNat (n : Nat) : Number :=
  if h : n < 0x10000000000000000 then .int n ⟨by omega, by omega⟩ else .int 0xFFFFFFFFFFFFFFFF

namespace Json

/-- A count. -/
def ofNat (n : Nat) : Json := .number (.ofNat n)

/-- A list of texts. -/
def ofStrings (texts : List String) : Json := .array (texts.map .string)

/-- A text or nothing. -/
def ofOption (value : Option Json) : Json := value.getD .null

end Json

end RowQuery
