import Mathlib.Algebra.Ring.Int.Defs
import Mathlib.Order.Basic

/-! The numbers of a machine: floating-point operations as a parameter, and 64-bit integers that saturate. -/

set_option autoImplicit false

namespace TradingGateway.Foundation.MachineNumbers

/-- The operations on floating-point numbers that a program uses. No law is assumed of them, so what
holds for all of them holds for rounded arithmetic, and for exact arithmetic as well. -/
class F64 (Value : Type) extends Add Value, Sub Value, Mul Value, Div Value, Neg Value, LT Value, LE Value where
  /-- The literal of a mantissa and its number of decimal places. -/
  decimal : Nat → Nat → Value
  ofInt : Int → Value
  abs : Value → Value
  signum : Value → Value
  floor : Value → Value
  round : Value → Value
  isNan : Value → Bool
  isFinite : Value → Bool
  equal : Value → Value → Bool
  epsilon : Value
  decidableLt : (left right : Value) → Decidable (left < right)
  decidableLe : (left right : Value) → Decidable (left ≤ right)

namespace F64

variable {Value : Type} [F64 Value]

instance (left right : Value) : Decidable (left < right) := decidableLt left right
instance (left right : Value) : Decidable (left ≤ right) := decidableLe left right

def zero : Value := decimal 0 0

def one : Value := decimal 1 0

def maxOf (left right : Value) : Value :=
  if isNan left then right else if isNan right then left else if left < right then right else left

def minOf (left right : Value) : Value :=
  if isNan left then right else if isNan right then left else if right < left then right else left

end F64

/-- The sign of a number as one or minus one; zeros have signs, and what is no number has none. -/
def floatSignum (value : Float) : Float :=
  if value.isNaN then value else if value.toBits >>> 63 = 0 then 1.0 else -1.0

instance : F64 Float where
  decimal := fun mantissa places => OfScientific.ofScientific mantissa true places
  ofInt := Float.ofInt
  abs := Float.abs
  signum := floatSignum
  floor := Float.floor
  round := Float.round
  isNan := Float.isNaN
  isFinite := Float.isFinite
  equal := Float.beq
  epsilon := 2.2204460492503131e-16
  decidableLt := Float.decLt
  decidableLe := Float.decLe

/-- The 64-bit integer nearest to a whole number. -/
def saturate (value : Int) : Int :=
  max (-2 ^ 63) (min value (2 ^ 63 - 1))

def saturatingAdd (left right : Int) : Int :=
  saturate (left + right)

def saturatingSub (left right : Int) : Int :=
  saturate (left - right)

/-- `as i64` of an unsigned number. -/
def asI64 (value : UInt64) : Int :=
  value.toInt64.toInt

example : F64.abs (-1.5 : Float) ≤ F64.maxOf (1.5 : Float) 0.5 := by decide

end TradingGateway.Foundation.MachineNumbers
