import Mathlib.Algebra.Order.Floor.Ring
import Mathlib.Algebra.Order.Field.Basic
import Mathlib.Tactic.Linarith

/-! Rounding a number to a fixed count of decimal places, halves going to the even neighbour. -/

set_option autoImplicit false

namespace TradingGateway.Foundation.HalfEven

variable {K : Type} [Field K] [LinearOrder K] [FloorRing K]

/-- The nearest integer, and the even one of two equally near. -/
def halfEven (value : K) : Int :=
  let below := ⌊value⌋
  let doubled := 2 * (value - below)
  if doubled < 1 then below
  else if 1 < doubled then below + 1
  else if below % 2 = 0 then below else below + 1

def roundDp (places : Nat) (value : K) : K :=
  halfEven (value * 10 ^ places) / 10 ^ places

/-- A number that `places` decimals write exactly. -/
def OnGrid (places : Nat) (value : K) : Prop :=
  ∃ units : Int, value = units / 10 ^ places

theorem onGrid_roundDp (places : Nat) (value : K) : OnGrid places (roundDp places value) :=
  ⟨_, rfl⟩

theorem le_halfEven {units : Int} {value : K} (below : (units : K) ≤ value) : units ≤ halfEven value := by
  have floorAbove : units ≤ ⌊value⌋ := Int.le_floor.2 below
  unfold halfEven
  dsimp only
  split_ifs <;> omega

variable [IsStrictOrderedRing K]

theorem halfEven_le {units : Int} {value : K} (above : value ≤ units) : halfEven value ≤ units := by
  have floorBelow : (⌊value⌋ : K) ≤ value := Int.floor_le value
  by_cases whole : (⌊value⌋ : K) = value
  · have kept : halfEven value = ⌊value⌋ := by
      unfold halfEven
      dsimp only
      rw [if_pos]
      rw [whole, sub_self, mul_zero]
      exact zero_lt_one
    rw [kept]
    exact Int.floor_le_iff.2 (lt_of_le_of_lt above (lt_add_one _))
  · have floorUnder : (⌊value⌋ : K) < units := lt_of_lt_of_le (lt_of_le_of_ne floorBelow whole) above
    have next : ⌊value⌋ < units := Int.cast_lt.1 floorUnder
    unfold halfEven
    dsimp only
    split_ifs <;> omega

private theorem shift_pos (places : Nat) : (0 : K) < 10 ^ places :=
  pow_pos (by norm_num) places

/-- Rounding never passes a number that needs no rounding. -/
theorem le_roundDp {places : Nat} {bound value : K} (exact : OnGrid places bound) (below : bound ≤ value) :
    bound ≤ roundDp places value := by
  obtain ⟨units, rfl⟩ := exact
  unfold roundDp
  rw [div_le_iff₀ (shift_pos places)] at below
  rw [div_le_div_iff_of_pos_right (shift_pos places), Int.cast_le]
  exact le_halfEven below

theorem roundDp_le {places : Nat} {bound value : K} (exact : OnGrid places bound) (above : value ≤ bound) :
    roundDp places value ≤ bound := by
  obtain ⟨units, rfl⟩ := exact
  unfold roundDp
  rw [le_div_iff₀ (shift_pos places)] at above
  rw [div_le_div_iff_of_pos_right (shift_pos places), Int.cast_le]
  exact halfEven_le above

theorem roundDp_of_onGrid {places : Nat} {value : K} (exact : OnGrid places value) :
    roundDp places value = value :=
  le_antisymm (roundDp_le exact (le_refl value)) (le_roundDp exact (le_refl value))

end TradingGateway.Foundation.HalfEven
