import Mathlib.Algebra.Order.Field.Basic
import Mathlib.Tactic.FieldSimp
import Mathlib.Tactic.Linarith
import Mathlib.Tactic.Ring

/-! A holding valued at average cost: what trades make of it and the profit they realize. -/

set_option autoImplicit false

namespace TradingGateway.Foundation.AverageCost

variable {K : Type} [Field K]

structure Holding (K : Type) where
  quantity : K
  cost : K

namespace Holding

def average (holding : Holding K) : K :=
  holding.cost / holding.quantity

theorem average_mul {holding : Holding K} (held : holding.quantity ≠ 0) :
    holding.average * holding.quantity = holding.cost :=
  div_mul_cancel₀ _ held

variable [LinearOrder K] (holding : Holding K) (amount price : K)

def Opposes : Prop :=
  holding.quantity * amount < 0

/-- A trade against the holding that leaves some of it. -/
def Reduces : Prop :=
  holding.Opposes amount ∧ |amount| < |holding.quantity|

instance : Decidable (holding.Opposes amount) :=
  inferInstanceAs (Decidable (_ < _))

instance : Decidable (holding.Reduces amount) :=
  inferInstanceAs (Decidable (_ ∧ _))

/-- Buy a positive amount or sell a negative one. -/
def trade : Holding K where
  quantity := holding.quantity + amount
  cost :=
    if holding.Reduces amount then holding.cost + amount * holding.average
    else if holding.Opposes amount then (holding.quantity + amount) * price
    else holding.cost + amount * price

/-- What the part of the holding that is given up earns over its average cost. -/
def profit : K :=
  if holding.Reduces amount then (holding.average - price) * amount
  else if holding.Opposes amount then (price - holding.average) * holding.quantity
  else 0

def partialProfit : K :=
  if holding.Reduces amount then holding.profit amount price else 0

@[simp] theorem trade_quantity : (holding.trade amount price).quantity = holding.quantity + amount := rfl

structure Sound : Prop where
  empty : holding.quantity = 0 → holding.cost = 0
  worth : holding.quantity ≠ 0 → 0 < holding.average

variable {holding amount price}

theorem Opposes.held (opposes : holding.Opposes amount) : holding.quantity ≠ 0 := by
  intro none
  rw [Opposes, none, zero_mul] at opposes
  exact lt_irrefl 0 opposes

theorem not_reduces (agrees : ¬ holding.Opposes amount) : ¬ holding.Reduces amount :=
  fun reduces => agrees reduces.1

/-- A trade through zero leaves what is held at the price of the trade. -/
theorem average_trade_of_closes (opposes : holding.Opposes amount) (whole : ¬ holding.Reduces amount)
    (left : holding.quantity + amount ≠ 0) : (holding.trade amount price).average = price := by
  unfold average
  rw [trade_quantity, trade, if_neg whole, if_pos opposes]
  exact mul_div_cancel_left₀ _ left

variable [IsStrictOrderedRing K]

theorem Reduces.left (reduces : holding.Reduces amount) : holding.quantity + amount ≠ 0 := by
  intro gone
  have amountIs : amount = -holding.quantity := by linarith
  have smaller := reduces.2
  rw [amountIs, abs_neg] at smaller
  exact lt_irrefl _ smaller

theorem long_iff_of_reduces (reduces : holding.Reduces amount) :
    0 < holding.quantity ↔ 0 < holding.quantity + amount := by
  obtain ⟨opposes, smaller⟩ := reduces
  rcases lt_or_gt_of_ne opposes.held with short | long
  · rw [abs_of_neg short, abs_lt] at smaller
    exact iff_of_false (not_lt.2 short.le) (not_lt.2 (by linarith))
  · rw [abs_of_pos long, abs_lt] at smaller
    exact iff_of_true long (by linarith)

theorem long_iff_of_agrees (agrees : ¬ holding.Opposes amount) (held : holding.quantity ≠ 0) :
    0 < holding.quantity ↔ 0 < holding.quantity + amount := by
  rw [Opposes, not_lt] at agrees
  rcases lt_or_gt_of_ne held with short | long
  · have more : amount ≤ 0 := nonpos_of_mul_nonneg_right agrees short
    exact iff_of_false (not_lt.2 short.le) (not_lt.2 (by linarith))
  · have more : 0 ≤ amount := nonneg_of_mul_nonneg_right agrees long
    exact iff_of_true long (by linarith)

theorem left_of_agrees (agrees : ¬ holding.Opposes amount) (held : holding.quantity ≠ 0) :
    holding.quantity + amount ≠ 0 := by
  intro gone
  have amountIs : amount = -holding.quantity := by linarith
  rw [Opposes, not_lt, amountIs, mul_neg] at agrees
  have square := mul_self_pos.2 held
  linarith

/-- A trade through zero changes the side. -/
theorem long_iff_of_closes (opposes : holding.Opposes amount) (whole : ¬ holding.Reduces amount)
    (left : holding.quantity + amount ≠ 0) : 0 < holding.quantity ↔ ¬ 0 < holding.quantity + amount := by
  have larger : |holding.quantity| ≤ |amount| := by
    by_contra smaller
    exact whole ⟨opposes, not_le.1 smaller⟩
  rcases lt_or_gt_of_ne opposes.held with short | long
  · have more : 0 < amount := pos_of_mul_neg_right opposes short.le
    rw [abs_of_neg short, abs_of_pos more] at larger
    have beyond : 0 < holding.quantity + amount := lt_of_le_of_ne (by linarith) (Ne.symm left)
    exact iff_of_false (not_lt.2 short.le) (not_not.2 beyond)
  · have more : amount < 0 := neg_of_mul_neg_right opposes long.le
    rw [abs_of_pos long, abs_of_neg more] at larger
    exact iff_of_true long (not_lt.2 (by linarith))

/-- A reduction leaves the average where it was. -/
theorem average_trade_of_reduces (reduces : holding.Reduces amount) :
    (holding.trade amount price).average = holding.average := by
  have held := reduces.1.held
  have left := reduces.left
  unfold average
  rw [trade_quantity, div_eq_div_iff left held, trade, if_pos reduces, average]
  field_simp

theorem Sound.trade (sound : holding.Sound) (some : amount ≠ 0) (positive : 0 < price) :
    (holding.trade amount price).Sound := by
  by_cases reduces : holding.Reduces amount
  · constructor
    · intro gone
      exact absurd gone reduces.left
    · intro _
      rw [average_trade_of_reduces reduces]
      exact sound.worth reduces.1.held
  · by_cases opposes : holding.Opposes amount
    · constructor
      · intro gone
        rw [trade_quantity] at gone
        rw [Holding.trade, if_neg reduces, if_pos opposes, gone, zero_mul]
      · intro left
        rw [average_trade_of_closes opposes reduces left]
        exact positive
    · have cost : (holding.trade amount price).cost = holding.cost + amount * price := by
        rw [Holding.trade, if_neg reduces, if_neg opposes]
      have agrees : 0 ≤ holding.quantity * amount := not_lt.1 opposes
      by_cases held : holding.quantity = 0
      · constructor
        · intro gone
          rw [trade_quantity, held, zero_add] at gone
          exact absurd gone some
        · intro _
          rw [average, cost, trade_quantity, held, sound.empty held, zero_add, zero_add,
            mul_div_cancel_left₀ _ some]
          exact positive
      · have worth := sound.worth held
        have together : 0 < holding.quantity * amount :=
          lt_of_le_of_ne agrees (Ne.symm (mul_ne_zero held some))
        have left : holding.quantity + amount ≠ 0 := left_of_agrees opposes held
        constructor
        · intro gone
          exact absurd gone left
        · intro _
          -- the mean of two positive prices with weights of one sign
          rw [average, cost, trade_quantity, ← average_mul held]
          rcases lt_or_gt_of_ne held with short | long
          · have more : amount < 0 := by
              by_contra notLess
              have := mul_nonpos_of_nonpos_of_nonneg short.le (not_lt.1 notLess)
              linarith
            refine div_pos_of_neg_of_neg ?_ (add_neg short more)
            exact add_neg (mul_neg_of_pos_of_neg worth short) (mul_neg_of_neg_of_pos more positive)
          · have more : 0 < amount := (mul_pos_iff_of_pos_left long).1 together
            exact div_pos (add_pos (mul_pos worth long) (mul_pos more positive)) (add_pos long more)

end Holding

end TradingGateway.Foundation.AverageCost
