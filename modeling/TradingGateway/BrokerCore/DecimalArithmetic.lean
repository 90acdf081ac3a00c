import TradingGateway.BrokerCore.FixedPoint
import TradingGateway.Foundation.Avoids
import Mathlib.Tactic.Linarith
import Mathlib.Tactic.Positivity
import Mathlib.Algebra.Order.BigOperators.Group.List

/-! Which sums, differences, products and remainders of fixed-point decimals
exist. A result is rounded to the digits that fit, so an operation aborts exactly
where its exact result is at least half a unit beyond the largest magnitude. -/

set_option autoImplicit false

namespace TradingGateway.BrokerCore.FixedPoint

/-- A whole number of units of the given scale that rounds to a magnitude of 96 bits. -/
def WithinRange (value : Int) (scale : Nat) : Prop :=
  2 * value.natAbs < (2 ^ 97 - 1) * 10 ^ scale

instance (value : Int) (scale : Nat) : Decidable (WithinRange value scale) :=
  inferInstanceAs (Decidable (_ < _))

theorem withinRange_mul_pow {value : Int} {scale : Nat} (more : Nat) :
    WithinRange (value * 10 ^ more) (scale + more) ↔ WithinRange value scale := by
  unfold WithinRange
  have positive : 0 < 10 ^ more := by positivity
  rw [Int.natAbs_mul, Int.natAbs_pow, ← Nat.mul_assoc, Nat.pow_add, ← Nat.mul_assoc]
  exact Nat.mul_lt_mul_right positive

/-- The largest magnitude is odd, so a half above it is rounded out of range. -/
theorem roundHalfEven_lt_iff (magnitude dropped : Nat) :
    roundHalfEven magnitude dropped < 2 ^ 96 ↔ 2 * magnitude < (2 ^ 97 - 1) * 10 ^ dropped := by
  have positive : 0 < 10 ^ dropped := by positivity
  have split := Nat.div_add_mod magnitude (10 ^ dropped)
  have below := Nat.mod_lt magnitude positive
  unfold roundHalfEven
  dsimp only
  generalize magnitude / 10 ^ dropped = quotient at split ⊢
  generalize magnitude % 10 ^ dropped = remainder at split below ⊢
  generalize 10 ^ dropped = unit at positive split below ⊢
  subst split
  rcases Nat.lt_trichotomy quotient (2 ^ 96 - 1) with small | last | large
  · have room : unit * quotient ≤ unit * (2 ^ 96 - 2) := Nat.mul_le_mul_left unit (by omega)
    refine iff_of_true ?_ (by omega)
    split_ifs <;> omega
  · subst last
    split_ifs
    · omega
    · omega
    · contradiction
    · omega
  · have beyond : unit * 2 ^ 96 ≤ unit * quotient := Nat.mul_le_mul_left unit (by omega)
    refine iff_of_false ?_ (by omega)
    split_ifs <;> omega

theorem fitMagnitude_isSome_iff (negative : Bool) (magnitude : Nat) {scale : Nat} (scaleBound : scale ≤ 28) :
    (fitMagnitude negative magnitude scale scaleBound).isSome = true ↔ 2 * magnitude < (2 ^ 97 - 1) * 10 ^ scale := by
  unfold fitMagnitude
  rw [List.findSome?_isSome_iff]
  constructor
  · rintro ⟨dropped, within, found⟩
    have digits : dropped ≤ scale := Nat.lt_succ_iff.1 (List.mem_range.1 within)
    split at found
    next fits =>
      have bounded := (roundHalfEven_lt_iff magnitude dropped).1 fits
      have grows : (10 : Nat) ^ dropped ≤ 10 ^ scale := Nat.pow_le_pow_right (by decide) digits
      exact bounded.trans_le (Nat.mul_le_mul_left _ grows)
    next => cases found
  · intro bounded
    have fits := (roundHalfEven_lt_iff magnitude scale).2 bounded
    exact ⟨scale, List.mem_range.2 (Nat.lt_succ_self scale), by rw [dif_pos fits]; rfl⟩

/-- Digits at a larger scale. -/
theorem Decimal.units_eq_aligned (value : Decimal) {scale : Nat} (above : value.scale ≤ scale) (bound : scale ≤ 28) :
    value.units = value.digits * 10 ^ (scale - value.scale) * 10 ^ (28 - scale) := by
  have split : 28 - value.scale = (scale - value.scale) + (28 - scale) := by omega
  rw [Decimal.units, split, pow_add, mul_assoc]

/-- Addition aborts exactly where the exact sum rounds out of range. -/
theorem Decimal.checkedAdd_isSome_iff (left right : Decimal) :
    (left.checkedAdd right).isSome = true ↔ WithinRange (left.units + right.units) 28 := by
  have leftBound := left.scaleBound
  have rightBound := right.scaleBound
  have bound : max left.scale right.scale ≤ 28 := by omega
  unfold Decimal.checkedAdd
  rw [fitMagnitude_isSome_iff, left.units_eq_aligned (Nat.le_max_left _ _) bound,
    right.units_eq_aligned (Nat.le_max_right _ _) bound, ← add_mul]
  have whole : 28 = max left.scale right.scale + (28 - max left.scale right.scale) := by omega
  conv_rhs => rw [whole]
  rw [Nat.add_sub_cancel_left, withinRange_mul_pow]
  rfl

theorem Decimal.natAbs_units_le (value : Decimal) : value.units.natAbs ≤ (2 ^ 96 - 1) * 10 ^ 28 := by
  have digits : value.digits.natAbs = value.magnitude := by
    unfold Decimal.digits
    split <;> omega
  have bound := value.magnitudeBound
  have scaleBound := value.scaleBound
  have grows : (10 : Nat) ^ (28 - value.scale) ≤ 10 ^ 28 := Nat.pow_le_pow_right (by decide) (by omega)
  rw [Decimal.units, Int.natAbs_mul, Int.natAbs_pow, digits]
  exact Nat.mul_le_mul (by omega) grows

/-- Where the aligned sum fits, addition is exact and at the larger of the two scales. -/
theorem Decimal.checkedAdd_of_fits {left right : Decimal}
    (fits : (left.digits * 10 ^ (max left.scale right.scale - left.scale) +
      right.digits * 10 ^ (max left.scale right.scale - right.scale)).natAbs < 2 ^ 96) :
    ∃ sum, left.checkedAdd right = some sum ∧ sum.units = left.units + right.units ∧
      sum.scale = max left.scale right.scale := by
  obtain ⟨sum, added, exact⟩ := Decimal.units_checkedAdd fits
  have shape := added
  unfold Decimal.checkedAdd at shape
  dsimp only at shape
  rw [fitMagnitude_of_fits _ _ fits] at shape
  exact ⟨sum, added, exact, by rw [← Option.some.inj shape]⟩

theorem roundHalfEven_mul_ten (magnitude dropped : Nat) :
    roundHalfEven (magnitude * 10) (dropped + 1) = roundHalfEven magnitude dropped := by
  unfold roundHalfEven
  dsimp only
  rw [pow_succ, Nat.mul_div_mul_right _ _ (by decide : 0 < 10), Nat.mul_mod_mul_right]
  generalize magnitude / 10 ^ dropped = quotient
  generalize magnitude % 10 ^ dropped = remainder
  generalize 10 ^ dropped = unit
  have below : 2 * (remainder * 10) < unit * 10 ↔ 2 * remainder < unit := by omega
  have above : unit * 10 < 2 * (remainder * 10) ↔ unit < 2 * remainder := by omega
  simp only [below, above]

/-- Another digit behind the magnitude leaves the value that is fitted. -/
theorem fitMagnitude_mul_ten (negative : Bool) (magnitude : Nat) {scale : Nat} (bound : scale + 1 ≤ 28) :
    (fitMagnitude negative (magnitude * 10) (scale + 1) bound).map Decimal.units =
      (fitMagnitude negative magnitude scale (by omega)).map Decimal.units := by
  by_cases fits : magnitude * 10 < 2 ^ 96
  · rw [fitMagnitude_of_fits _ _ fits, fitMagnitude_of_fits _ _ (by omega : magnitude < 2 ^ 96)]
    have digit : 28 - scale = 28 - (scale + 1) + 1 := by omega
    simp only [Option.map_some, Decimal.units, Decimal.digits, digit, pow_succ]
    congr 1
    split <;> push_cast <;> ring
  · unfold fitMagnitude
    rw [List.range_succ_eq_map, List.findSome?_cons]
    have whole : roundHalfEven (magnitude * 10) 0 = magnitude * 10 := by
      simp [roundHalfEven, Nat.mod_one]
    simp only [whole, fits, ↓reduceDIte, List.findSome?_map, Function.comp_def, Nat.succ_eq_add_one,
      roundHalfEven_mul_ten, Nat.add_sub_add_right]

theorem fitMagnitude_mul_pow (negative : Bool) (magnitude : Nat) {scale more : Nat} (bound : scale + more ≤ 28) :
    (fitMagnitude negative (magnitude * 10 ^ more) (scale + more) bound).map Decimal.units =
      (fitMagnitude negative magnitude scale (by omega)).map Decimal.units := by
  induction more with
  | zero => simp
  | succ more ih =>
      have step := @fitMagnitude_mul_ten negative (magnitude * 10 ^ more) (scale + more) bound
      rw [Nat.mul_assoc, ← pow_succ] at step
      exact step.trans (ih (by omega))

theorem fitMagnitude_total (sum : Int) {scale : Nat} (bound : scale ≤ 28) :
    (fitMagnitude (sum < 0) sum.natAbs scale bound).map Decimal.units =
      (fitMagnitude (sum * 10 ^ (28 - scale) < 0) (sum * 10 ^ (28 - scale)).natAbs 28 le_rfl).map Decimal.units := by
  have positive : (0 : Int) < 10 ^ (28 - scale) := by positivity
  have sign : sum * 10 ^ (28 - scale) < 0 ↔ sum < 0 := by
    rw [mul_neg_iff]
    constructor
    · rintro (⟨_, absurdly⟩ | ⟨negative, _⟩)
      · exact absurd absurdly (by omega)
      · exact negative
    · exact fun negative => .inr ⟨negative, positive⟩
  have whole : scale + (28 - scale) = 28 := by omega
  have fitted := @fitMagnitude_mul_pow (sum < 0) sum.natAbs scale (28 - scale) whole.le
  simp only [whole] at fitted
  simp only [sign, Int.natAbs_mul, Int.natAbs_pow]
  exact fitted.symm

/-- A sum is the exact one, fitted: how its terms are scaled does not matter. -/
theorem Decimal.checkedAdd_units (left right : Decimal) :
    (left.checkedAdd right).map units =
      (fitMagnitude (left.units + right.units < 0) (left.units + right.units).natAbs 28 le_rfl).map units := by
  have leftBound := left.scaleBound
  have rightBound := right.scaleBound
  have bound : max left.scale right.scale ≤ 28 := by omega
  unfold Decimal.checkedAdd
  dsimp only
  rw [left.units_eq_aligned (Nat.le_max_left left.scale right.scale) bound,
    right.units_eq_aligned (Nat.le_max_right left.scale right.scale) bound, ← add_mul]
  exact fitMagnitude_total _ bound

theorem Decimal.checkedAdd_same {left right other third : Decimal} (first : left.Same other) (second : right.Same third) :
    (left.checkedAdd right).map units = (other.checkedAdd third).map units := by
  unfold Decimal.Same at first second
  rw [checkedAdd_units, checkedAdd_units, first, second]

/-- Decimals that are numerically the same add up to the same, or overflow alike. -/
theorem Decimal.checkedSum_same {values others : List Decimal} (same : List.Forall₂ Decimal.Same values others) :
    (Decimal.checkedSum values).map units = (Decimal.checkedSum others).map units := by
  have run {total reached : Decimal} (start : total.Same reached) :
      (values.foldlM Decimal.checkedAdd total).map units = (others.foldlM Decimal.checkedAdd reached).map units := by
    induction same generalizing total reached with
    | nil => exact congrArg some start
    | @cons value other values others first _ ih =>
        have added := Decimal.checkedAdd_same start first
        simp only [List.foldlM_cons]
        cases left : total.checkedAdd value with
        | none =>
            rw [left, Option.map_none, eq_comm, Option.map_eq_none_iff] at added
            rw [added]
            rfl
        | some next =>
            rw [left, Option.map_some, eq_comm, Option.map_eq_some_iff] at added
            obtain ⟨reachedNext, right, nextSame⟩ := added
            rw [right]
            exact ih nextSame.symm
  exact run rfl

/-- Decimals whose exact sum, written with enough fractional digits for each of them, is a magnitude of 96 bits. -/
def ExactlySummable (values : List Decimal) : Prop :=
  ∃ scale ≤ 28, (∀ value ∈ values, value.scale ≤ scale) ∧
    (values.map Decimal.units).sum.natAbs < 2 ^ 96 * 10 ^ (28 - scale)

theorem foldlM_checkedAdd_exact {values : List Decimal} {scale : Nat} (bound : scale ≤ 28) {total : Decimal}
    (totalScale : total.scale ≤ scale) (totalSign : 0 ≤ total.units) (scales : ∀ value ∈ values, value.scale ≤ scale)
    (signs : ∀ value ∈ values, 0 ≤ value.units)
    (fits : (total.units + (values.map Decimal.units).sum).natAbs < 2 ^ 96 * 10 ^ (28 - scale)) :
    ∃ sum, values.foldlM Decimal.checkedAdd total = some sum ∧
      sum.units = total.units + (values.map Decimal.units).sum := by
  induction values generalizing total with
  | nil => exact ⟨total, rfl, by simp⟩
  | cons value rest ih =>
      have valueScale := scales value List.mem_cons_self
      have valueSign := signs value List.mem_cons_self
      have restSign : 0 ≤ (rest.map Decimal.units).sum := by
        refine List.sum_nonneg fun units member => ?_
        obtain ⟨other, among, rfl⟩ := List.mem_map.1 member
        exact signs other (List.mem_cons_of_mem _ among)
      have within : max total.scale value.scale ≤ scale := max_le totalScale valueScale
      rw [List.map_cons, List.sum_cons] at fits
      have aligned : total.units + value.units =
          (total.digits * 10 ^ (max total.scale value.scale - total.scale) +
            value.digits * 10 ^ (max total.scale value.scale - value.scale)) *
              10 ^ (28 - max total.scale value.scale) := by
        rw [add_mul, ← total.units_eq_aligned (le_max_left _ _) (within.trans bound),
          ← value.units_eq_aligned (le_max_right _ _) (within.trans bound)]
      have small : (total.units + value.units).natAbs < 2 ^ 96 * 10 ^ (28 - max total.scale value.scale) := by
        have grows : (10 : Nat) ^ (28 - scale) ≤ 10 ^ (28 - max total.scale value.scale) :=
          Nat.pow_le_pow_right (by decide) (by omega)
        have most := Nat.mul_le_mul_left (2 ^ 96) grows
        omega
      rw [aligned, Int.natAbs_mul, Int.natAbs_pow] at small
      obtain ⟨next, added, exact, nextScale⟩ := Decimal.checkedAdd_of_fits (Nat.lt_of_mul_lt_mul_right small)
      obtain ⟨sum, summed, total⟩ := ih (nextScale.trans_le within) (by omega)
        (fun other member => scales other (List.mem_cons_of_mem _ member))
        (fun other member => signs other (List.mem_cons_of_mem _ member)) (by rw [exact, add_assoc]; exact fits)
      refine ⟨sum, ?_, ?_⟩
      · rw [List.foldlM_cons, added]
        exact summed
      · rw [total, exact, List.map_cons, List.sum_cons, add_assoc]

/-- A sum of decimals that are not negative is exact where their exact sum fits. -/
theorem Decimal.checkedSum_exact {values : List Decimal} (signs : ∀ value ∈ values, Decimal.zero ≤ value)
    (summable : ExactlySummable values) :
    ∃ sum, Decimal.checkedSum values = some sum ∧ sum.units = (values.map Decimal.units).sum := by
  obtain ⟨scale, bound, scales, fits⟩ := summable
  have signs : ∀ value ∈ values, 0 ≤ value.units := by simpa using signs
  obtain ⟨sum, summed, exact⟩ := foldlM_checkedAdd_exact bound (Nat.zero_le scale) (le_of_eq Decimal.units_zero.symm)
    scales signs (by rwa [Decimal.units_zero, zero_add])
  exact ⟨sum, summed, by rw [exact, Decimal.units_zero, zero_add]⟩

/-- Added up in their order, no decimal takes the total of those before it out of range. -/
def RunsWithin (values : List Decimal) : Prop :=
  ∀ before next total, before ++ [next] <+: values → Decimal.checkedSum before = some total →
    WithinRange (total.units + next.units) 28

theorem Decimal.checkedSum_isSome_iff {values : List Decimal} :
    (Decimal.checkedSum values).isSome = true ↔ RunsWithin values := by
  unfold Decimal.checkedSum
  rw [Foundation.ExceptRun.foldlM_isSome_iff]
  simp only [Decimal.checkedAdd_isSome_iff]
  rfl

def Decimal.negated (value : Decimal) : Decimal :=
  { value with negative := !value.negative }

@[simp] theorem Decimal.units_negated (value : Decimal) : value.negated.units = -value.units := by
  unfold Decimal.negated Decimal.units Decimal.digits
  cases value.negative <;> simp

/-- Subtraction; `none` is the overflow abort. -/
def Decimal.checkedSub (left right : Decimal) : Option Decimal :=
  left.checkedAdd right.negated

/-- The difference of two decimals that are not negative is between them and zero. -/
theorem Decimal.checkedSub_isSome {left right : Decimal} (leftSign : Decimal.zero ≤ left)
    (rightSign : Decimal.zero ≤ right) : (left.checkedSub right).isSome = true := by
  have leftBound := left.natAbs_units_le
  have rightBound := right.natAbs_units_le
  rw [Decimal.le_iff, Decimal.units_zero] at leftSign rightSign
  unfold Decimal.checkedSub
  rw [Decimal.checkedAdd_isSome_iff, Decimal.units_negated]
  unfold WithinRange
  omega

def fitProduct (negative : Bool) (magnitude scale : Nat) : Option Decimal :=
  (List.range (scale + 1)).findSome? fun dropped =>
    if fits : roundHalfEven magnitude dropped < 2 ^ 96 ∧ scale - dropped ≤ 28 then
      some {
        negative := negative
        magnitude := roundHalfEven magnitude dropped
        scale := scale - dropped
        magnitudeBound := fits.1
        scaleBound := fits.2 }
    else none

/-- Multiplication; `none` is the overflow abort. -/
def Decimal.checkedMul (left right : Decimal) : Option Decimal :=
  fitProduct (left.negative != right.negative) (left.magnitude * right.magnitude) (left.scale + right.scale)

theorem fitProduct_isSome_iff (negative : Bool) (magnitude scale : Nat) :
    (fitProduct negative magnitude scale).isSome = true ↔ 2 * magnitude < (2 ^ 97 - 1) * 10 ^ scale := by
  unfold fitProduct
  rw [List.findSome?_isSome_iff]
  constructor
  · rintro ⟨dropped, within, found⟩
    have digits : dropped ≤ scale := Nat.lt_succ_iff.1 (List.mem_range.1 within)
    split at found
    next fits =>
      have bounded := (roundHalfEven_lt_iff magnitude dropped).1 fits.1
      have grows : (10 : Nat) ^ dropped ≤ 10 ^ scale := Nat.pow_le_pow_right (by decide) digits
      exact bounded.trans_le (Nat.mul_le_mul_left _ grows)
    next => cases found
  · intro bounded
    have fits := (roundHalfEven_lt_iff magnitude scale).2 bounded
    exact ⟨scale, List.mem_range.2 (Nat.lt_succ_self scale), by rw [dif_pos ⟨fits, by omega⟩]; rfl⟩

/-- Multiplication aborts exactly where the exact product rounds out of range. -/
theorem Decimal.checkedMul_isSome_iff (left right : Decimal) :
    (left.checkedMul right).isSome = true ↔ WithinRange (left.units * right.units) 56 := by
  have leftBound := left.scaleBound
  have rightBound := right.scaleBound
  have product : left.units * right.units =
      left.digits * right.digits * 10 ^ (28 - left.scale + (28 - right.scale)) := by
    rw [Decimal.units, Decimal.units, pow_add]
    ring
  have whole : 56 = left.scale + right.scale + (28 - left.scale + (28 - right.scale)) := by omega
  have magnitudes : (left.digits * right.digits).natAbs = left.magnitude * right.magnitude := by
    have digits (value : Decimal) : value.digits.natAbs = value.magnitude := by
      unfold Decimal.digits
      split <;> omega
    rw [Int.natAbs_mul, digits, digits]
  unfold Decimal.checkedMul
  rw [fitProduct_isSome_iff, product]
  conv_rhs => rw [whole]
  rw [withinRange_mul_pow]
  unfold WithinRange
  rw [magnitudes]

/-- A remainder at the larger scale is no longer than the operand that has this scale. -/
theorem Decimal.remainder_lt {dividend divisor : Decimal} (nonzero : divisor.magnitude ≠ 0) {scale : Nat}
    (common : scale = max dividend.scale divisor.scale) :
    dividend.magnitude * 10 ^ (scale - dividend.scale) % (divisor.magnitude * 10 ^ (scale - divisor.scale)) <
      2 ^ 96 := by
  have positive : 0 < divisor.magnitude * 10 ^ (scale - divisor.scale) := by positivity
  rcases Nat.le_total dividend.scale divisor.scale with coarse | fine
  · have same : scale - divisor.scale = 0 := by omega
    rw [same, pow_zero, mul_one] at positive ⊢
    exact (Nat.mod_lt _ positive).trans divisor.magnitudeBound
  · have same : scale - dividend.scale = 0 := by omega
    rw [same, pow_zero, mul_one]
    exact (Nat.mod_le _ _).trans_lt dividend.magnitudeBound

/-- What a division that rounds towards zero leaves, with the sign of the dividend;
`none` is the abort on a zero divisor. -/
def Decimal.checkedRem (dividend divisor : Decimal) : Option Decimal :=
  if nonzero : divisor.magnitude ≠ 0 then
    some {
      negative := dividend.negative
      magnitude := dividend.magnitude * 10 ^ (max dividend.scale divisor.scale - dividend.scale) %
        (divisor.magnitude * 10 ^ (max dividend.scale divisor.scale - divisor.scale))
      scale := max dividend.scale divisor.scale
      magnitudeBound := Decimal.remainder_lt nonzero rfl
      scaleBound := max_le dividend.scaleBound divisor.scaleBound }
  else none

/-- A remainder by a positive divisor exists. -/
theorem Decimal.checkedRem_isSome {dividend divisor : Decimal} (positive : Decimal.zero < divisor) :
    (dividend.checkedRem divisor).isSome = true := by
  have nonzero : divisor.magnitude ≠ 0 := by
    intro empty
    rw [Decimal.lt_iff, Decimal.units_zero, Decimal.units, Decimal.digits, empty] at positive
    simp at positive
  unfold Decimal.checkedRem
  rw [dif_pos nonzero]
  rfl

end TradingGateway.BrokerCore.FixedPoint
