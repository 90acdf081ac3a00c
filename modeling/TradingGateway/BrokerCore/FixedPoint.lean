import Mathlib.Algebra.Order.Ring.Int
import Mathlib.Data.List.Basic
import Mathlib.Tactic.Ring

/-! The fixed-point decimals of prices and quantities: a sign, a 96-bit magnitude
and a scale of at most 28 fractional digits. Comparison is numeric, so `1.0` and
`1.00` are equal; addition rounds when the magnitude overflows and aborts when
rounding cannot help. -/

set_option autoImplicit false

namespace TradingGateway.BrokerCore.FixedPoint

structure Decimal where
  negative : Bool
  magnitude : Nat
  scale : Nat
  magnitudeBound : magnitude < 2 ^ 96
  scaleBound : scale ≤ 28
deriving DecidableEq

abbrev Price := Decimal
abbrev Quantity := Decimal

def Decimal.digits (value : Decimal) : Int :=
  if value.negative then -(value.magnitude : Int) else value.magnitude

def Decimal.units (value : Decimal) : Int :=
  value.digits * 10 ^ (28 - value.scale)

def Decimal.zero : Decimal :=
  { negative := false, magnitude := 0, scale := 0, magnitudeBound := by decide, scaleBound := by decide }

theorem Decimal.one_fits : 1 < 2 ^ 96 := by decide

theorem Decimal.two_fits : 2 < 2 ^ 96 := by decide

def Decimal.ofNat (value : Nat) (bound : value < 2 ^ 96) : Decimal :=
  { negative := false, magnitude := value, scale := 0, magnitudeBound := bound, scaleBound := by decide }

/-- The numeric equality that `==` decides. -/
def Decimal.Same (left right : Decimal) : Prop := left.units = right.units

instance : LT Decimal := ⟨fun left right => left.units < right.units⟩
instance : LE Decimal := ⟨fun left right => left.units ≤ right.units⟩

instance (left right : Decimal) : Decidable (left.Same right) :=
  inferInstanceAs (Decidable (left.units = right.units))
instance (left right : Decimal) : Decidable (left < right) :=
  inferInstanceAs (Decidable (left.units < right.units))
instance (left right : Decimal) : Decidable (left ≤ right) :=
  inferInstanceAs (Decidable (left.units ≤ right.units))

/-- Divide by a power of ten, halves going to the even neighbour. -/
def roundHalfEven (magnitude dropped : Nat) : Nat :=
  let quotient := magnitude / 10 ^ dropped
  let doubled := 2 * (magnitude % 10 ^ dropped)
  if doubled < 10 ^ dropped then quotient
  else if 10 ^ dropped < doubled then quotient + 1
  else if quotient % 2 = 0 then quotient else quotient + 1

/-- Drop as few fractional digits as make the magnitude fit, if any number does. -/
def fitMagnitude (negative : Bool) (magnitude scale : Nat) (scaleBound : scale ≤ 28) : Option Decimal :=
  (List.range (scale + 1)).findSome? fun dropped =>
    if fits : roundHalfEven magnitude dropped < 2 ^ 96 then
      some {
        negative := negative
        magnitude := roundHalfEven magnitude dropped
        scale := scale - dropped
        magnitudeBound := fits
        scaleBound := by omega }
    else none

/-- Addition at the larger of the two scales; `none` is the overflow abort. -/
def Decimal.checkedAdd (left right : Decimal) : Option Decimal :=
  let scale := max left.scale right.scale
  let sum := left.digits * 10 ^ (scale - left.scale) + right.digits * 10 ^ (scale - right.scale)
  fitMagnitude (sum < 0) sum.natAbs scale (by
    have := left.scaleBound
    have := right.scaleBound
    omega)

def Decimal.checkedSum (values : List Decimal) : Option Decimal :=
  values.foldlM Decimal.checkedAdd Decimal.zero

@[simp] theorem Decimal.lt_iff (left right : Decimal) : left < right ↔ left.units < right.units := Iff.rfl

@[simp] theorem Decimal.le_iff (left right : Decimal) : left ≤ right ↔ left.units ≤ right.units := Iff.rfl

@[simp] theorem Decimal.units_zero : Decimal.zero.units = 0 := by
  simp [Decimal.units, Decimal.digits, Decimal.zero]

private theorem roundHalfEven_zero (magnitude : Nat) : roundHalfEven magnitude 0 = magnitude := by
  simp [roundHalfEven, Nat.mod_one]

theorem fitMagnitude_of_fits (negative : Bool) {magnitude scale : Nat} (scaleBound : scale ≤ 28)
    (fits : magnitude < 2 ^ 96) :
    fitMagnitude negative magnitude scale scaleBound =
      some { negative := negative, magnitude := magnitude, scale := scale,
             magnitudeBound := fits, scaleBound := scaleBound } := by
  unfold fitMagnitude
  rw [List.range_succ_eq_map, List.findSome?_cons]
  simp only [roundHalfEven_zero, fits, ↓reduceDIte, Nat.sub_zero]

private theorem digits_of_total (total : Int) (scale : Nat) (fits : total.natAbs < 2 ^ 96)
    (scaleBound : scale ≤ 28) :
    (Decimal.mk (total < 0) total.natAbs scale fits scaleBound).digits = total := by
  simp only [Decimal.digits, decide_eq_true_eq]
  split <;> omega

/-- Where the aligned sum fits in the magnitude, addition is exact. -/
theorem Decimal.units_checkedAdd {left right : Decimal}
    (fits : (left.digits * 10 ^ (max left.scale right.scale - left.scale) +
      right.digits * 10 ^ (max left.scale right.scale - right.scale)).natAbs < 2 ^ 96) :
    ∃ sum, left.checkedAdd right = some sum ∧ sum.units = left.units + right.units := by
  have leftBound := left.scaleBound
  have rightBound := right.scaleBound
  have scaleBound : max left.scale right.scale ≤ 28 := by omega
  refine ⟨_, fitMagnitude_of_fits _ scaleBound fits, ?_⟩
  have aligned : ∀ scale, scale ≤ max left.scale right.scale →
      (10 : Int) ^ (28 - scale) =
        10 ^ (max left.scale right.scale - scale) * 10 ^ (28 - max left.scale right.scale) := by
    intro scale below
    rw [← pow_add]
    congr 1
    omega
  rw [Decimal.units, digits_of_total, Decimal.units, Decimal.units, aligned left.scale (Nat.le_max_left ..), aligned right.scale (Nat.le_max_right ..)]
  ring

end TradingGateway.BrokerCore.FixedPoint
