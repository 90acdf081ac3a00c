import Mathlib.Algebra.Order.Ring.Abs
import Mathlib.Data.Rat.Floor
import TradingGateway.BrokerCore.Orders
import TradingGateway.Foundation.ExceptRun
import TradingGateway.Foundation.HalfEven

/-! The average price that a market fill leaves on a position, over exact numbers. -/

set_option autoImplicit false

namespace TradingGateway.Stage8b.MarketAverages

open BrokerCore.Orders Foundation.ExceptRun Foundation.HalfEven

def stage8bP1d2AvgPriceScale : Nat := 8

inductive Stage8bP1d2MarketFeedbackError where
  | invalidDecimalAuthority
  | averagePriceArithmetic
deriving DecidableEq

/-- The sign bit; the code never asks for that of a zero. -/
def isSignPositive (value : ℚ) : Bool :=
  decide (0 ≤ value)

def candidateAverage (q0 : ℚ) (a0 : Option ℚ) (q1 delta price : ℚ) :
    Except Stage8bP1d2MarketFeedbackError ℚ :=
  if q0 = 0 then .ok price
  else if isSignPositive q0 = isSignPositive delta then do
    let prior ← orReject a0 .invalidDecimalAuthority
    .ok ((|q0| * prior + |delta| * price) / |q1|)
  else if isSignPositive q1 = isSignPositive q0 then orReject a0 .invalidDecimalAuthority
  else .ok price

def resultingPosition (q0 : ℚ) (a0 : Option ℚ) (delta price : ℚ) :
    Except Stage8bP1d2MarketFeedbackError (ℚ × Option ℚ) := do
  rejectIf (delta = 0 ∨ price ≤ 0) .invalidDecimalAuthority
  rejectIf ((q0 = 0 ∧ a0.isSome = true) ∨ (q0 ≠ 0 ∧ a0.isNone = true)) .invalidDecimalAuthority
  let q1 := q0 + delta
  if q1 = 0 then .ok (q1, none)
  else do
    let candidate ← candidateAverage q0 a0 q1 delta price
    let canonical := roundDp stage8bP1d2AvgPriceScale candidate
    rejectIf (canonical ≤ 0) .averagePriceArithmetic
    .ok (q1, some canonical)

example : resultingPosition 1 (some 100) 2 (201 / 2) = .ok (3, some (10033333333 / 10 ^ 8)) := by
  with_unfolding_all decide

example : resultingPosition 1 (some 100) (-2) (199 / 2) = .ok (-1, some (199 / 2)) := by
  with_unfolding_all decide

structure Fill where
  side : OrderSide
  qty : ℚ
  price : ℚ
  qtyPositive : 0 < qty
  pricePositive : 0 < price
  priceOnGrid : OnGrid stage8bP1d2AvgPriceScale price

namespace Fill

def delta (fill : Fill) : ℚ :=
  match fill.side with
  | .buy => fill.qty
  | .sell => -fill.qty

def mirror (fill : Fill) : Fill :=
  { fill with
    side := match fill.side with
      | .buy => .sell
      | .sell => .buy }

@[simp] theorem mirror_price (fill : Fill) : fill.mirror.price = fill.price := rfl

@[simp] theorem mirror_delta (fill : Fill) : fill.mirror.delta = -fill.delta := by
  unfold delta mirror
  cases fill.side with
  | buy => rfl
  | sell => exact (neg_neg fill.qty).symm

theorem delta_ne_zero (fill : Fill) : fill.delta ≠ 0 := by
  have traded : fill.qty ≠ 0 := ne_of_gt fill.qtyPositive
  unfold delta
  cases fill.side with
  | buy => exact traded
  | sell => exact neg_ne_zero.2 traded

end Fill

def applyFill (position : ℚ × Option ℚ) (fill : Fill) :
    Except Stage8bP1d2MarketFeedbackError (ℚ × Option ℚ) :=
  resultingPosition position.1 position.2 fill.delta fill.price

def positionAfter (fills : List Fill) : Except Stage8bP1d2MarketFeedbackError (ℚ × Option ℚ) :=
  fills.foldlM applyFill (0, none)

/-- The signed quantity so far, and the fills since it was last zero or changed its sign. -/
structure Stretch where
  quantity : ℚ
  fills : List Fill

def Stretch.after (stretch : Stretch) (fill : Fill) : Stretch :=
  let left := stretch.quantity + fill.delta
  { quantity := left
    fills :=
      if left = 0 then []
      else if 0 < stretch.quantity * left then stretch.fills ++ [fill]
      else [fill] }

def stretchOf (fills : List Fill) : Stretch :=
  fills.foldl Stretch.after ⟨0, []⟩

theorem isSignPositive_eq_iff {left right : ℚ} (leftTraded : left ≠ 0) (rightTraded : right ≠ 0) :
    isSignPositive left = isSignPositive right ↔ 0 < left * right := by
  unfold isSignPositive
  rw [decide_eq_decide, mul_pos_iff]
  rcases lt_or_gt_of_ne leftTraded with leftNegative | leftPositive <;>
    rcases lt_or_gt_of_ne rightTraded with rightNegative | rightPositive
  · simp [leftNegative, rightNegative, leftNegative.not_ge, rightNegative.not_ge]
  · simp [leftNegative.not_ge, rightPositive.le, leftNegative.not_gt, rightPositive.not_gt]
  · simp [leftPositive.le, rightNegative.not_ge, leftPositive.not_gt, rightNegative.not_gt]
  · simp [leftPositive.le, rightPositive.le, leftPositive, rightPositive]

theorem isSignPositive_neg {value : ℚ} (traded : value ≠ 0) : isSignPositive (-value) = !isSignPositive value := by
  unfold isSignPositive
  rcases lt_or_gt_of_ne traded with negative | positive
  · simp [negative.le, negative.not_ge]
  · simp [positive.le, positive.not_ge]

section Candidates

variable {q0 q1 delta price average : ℚ}

theorem candidateAverage_open (a0 : Option ℚ) : candidateAverage 0 a0 q1 delta price = .ok price := rfl

theorem candidateAverage_add (held : q0 ≠ 0) (traded : delta ≠ 0) (agrees : 0 < q0 * delta) :
    candidateAverage q0 (some average) q1 delta price = .ok ((|q0| * average + |delta| * price) / |q1|) := by
  unfold candidateAverage
  rw [if_neg held, if_pos ((isSignPositive_eq_iff held traded).2 agrees)]
  rfl

theorem candidateAverage_reduce (held : q0 ≠ 0) (traded : delta ≠ 0) (left : q1 ≠ 0) (opposes : q0 * delta < 0)
    (kept : 0 < q1 * q0) : candidateAverage q0 (some average) q1 delta price = .ok average := by
  unfold candidateAverage
  rw [if_neg held, if_neg, if_pos ((isSignPositive_eq_iff left held).2 kept)]
  · rfl
  · intro same
    exact absurd ((isSignPositive_eq_iff held traded).1 same) opposes.not_gt

theorem candidateAverage_flip (held : q0 ≠ 0) (traded : delta ≠ 0) (left : q1 ≠ 0) (opposes : q0 * delta < 0)
    (flipped : q1 * q0 < 0) : candidateAverage q0 (some average) q1 delta price = .ok price := by
  unfold candidateAverage
  rw [if_neg held, if_neg, if_neg]
  · intro same
    exact absurd ((isSignPositive_eq_iff left held).1 same) flipped.not_gt
  · intro same
    exact absurd ((isSignPositive_eq_iff held traded).1 same) opposes.not_gt

end Candidates

/-- The average weighs what was held and what is added, and lies between their prices. -/
theorem le_weighted {q0 delta average price bound : ℚ} (agrees : 0 < q0 * delta) (held : bound ≤ average)
    (added : bound ≤ price) : bound ≤ (|q0| * average + |delta| * price) / |q0 + delta| := by
  have whole : |q0 + delta| = |q0| + |delta| := (abs_add_eq_add_abs_iff q0 delta).2 (mul_nonneg_iff.1 agrees.le)
  have positive : 0 < |q0| + |delta| := by
    have heldPart : 0 < |q0| := abs_pos.2 (left_ne_zero_of_mul agrees.ne')
    have addedPart : 0 ≤ |delta| := abs_nonneg delta
    linarith
  rw [whole, le_div_iff₀ positive]
  calc bound * (|q0| + |delta|) = |q0| * bound + |delta| * bound := by ring
    _ ≤ |q0| * average + |delta| * price :=
        add_le_add (mul_le_mul_of_nonneg_left held (abs_nonneg q0))
          (mul_le_mul_of_nonneg_left added (abs_nonneg delta))

theorem weighted_le {q0 delta average price bound : ℚ} (agrees : 0 < q0 * delta) (held : average ≤ bound)
    (added : price ≤ bound) : (|q0| * average + |delta| * price) / |q0 + delta| ≤ bound := by
  have mirrored := le_weighted agrees (neg_le_neg held) (neg_le_neg added)
  have negated : (|q0| * -average + |delta| * -price) / |q0 + delta| =
      -((|q0| * average + |delta| * price) / |q0 + delta|) := by
    ring
  rw [negated] at mirrored
  exact neg_le_neg_iff.1 mirrored

/-- An average between two prices of a stretch, itself of at most eight decimals. -/
structure Within (fills : List Fill) (average : ℚ) : Prop where
  onGrid : OnGrid stage8bP1d2AvgPriceScale average
  above : ∃ lowest ∈ fills, lowest.price ≤ average
  below : ∃ highest ∈ fills, average ≤ highest.price

namespace Within

theorem positive {fills : List Fill} {average : ℚ} (within : Within fills average) : 0 < average := by
  obtain ⟨lowest, _, above⟩ := within.above
  exact lt_of_lt_of_le lowest.pricePositive above

theorem fill {fills : List Fill} {fill : Fill} (member : fill ∈ fills) : Within fills fill.price where
  onGrid := fill.priceOnGrid
  above := ⟨fill, member, le_refl _⟩
  below := ⟨fill, member, le_refl _⟩

theorem append {fills : List Fill} {average : ℚ} (within : Within fills average) (fill : Fill) :
    Within (fills ++ [fill]) average := by
  obtain ⟨lowest, lowestMember, above⟩ := within.above
  obtain ⟨highest, highestMember, below⟩ := within.below
  exact ⟨within.onGrid, ⟨lowest, List.mem_append_left _ lowestMember, above⟩,
    ⟨highest, List.mem_append_left _ highestMember, below⟩⟩

/-- Rounding the weighted average keeps it between the prices, since these need no rounding. -/
theorem weighted {fills : List Fill} {q0 average : ℚ} {fill : Fill} (within : Within fills average)
    (agrees : 0 < q0 * fill.delta) :
    Within (fills ++ [fill])
      (roundDp stage8bP1d2AvgPriceScale ((|q0| * average + |fill.delta| * fill.price) / |q0 + fill.delta|)) := by
  obtain ⟨lowest, lowestMember, above⟩ := within.above
  obtain ⟨highest, highestMember, below⟩ := within.below
  have newMember : fill ∈ fills ++ [fill] := List.mem_append_right _ (List.mem_singleton.2 rfl)
  refine ⟨onGrid_roundDp _ _, ?_, ?_⟩
  · rcases le_total lowest.price fill.price with lower | higher
    · exact ⟨lowest, List.mem_append_left _ lowestMember,
        le_roundDp lowest.priceOnGrid (le_weighted agrees above lower)⟩
    · exact ⟨fill, newMember, le_roundDp fill.priceOnGrid (le_weighted agrees (higher.trans above) (le_refl _))⟩
  · rcases le_total highest.price fill.price with lower | higher
    · exact ⟨fill, newMember, roundDp_le fill.priceOnGrid (weighted_le agrees (below.trans lower) (le_refl _))⟩
    · exact ⟨highest, List.mem_append_left _ highestMember,
        roundDp_le highest.priceOnGrid (weighted_le agrees below higher)⟩

end Within

/-- What a run keeps: the quantity of the stretch, and an average inside it unless flat. -/
structure Averaged (stretch : Stretch) (position : ℚ × Option ℚ) : Prop where
  quantity : position.1 = stretch.quantity
  flat : position.2 = none ↔ position.1 = 0
  within : ∀ average, position.2 = some average → Within stretch.fills average

theorem resultingPosition_of_candidate {q0 delta price candidate : ℚ} {a0 : Option ℚ} {fills : List Fill}
    (flat : a0 = none ↔ q0 = 0) (traded : delta ≠ 0) (priced : 0 < price) (left : q0 + delta ≠ 0)
    (found : candidateAverage q0 a0 (q0 + delta) delta price = .ok candidate)
    (within : Within fills (roundDp stage8bP1d2AvgPriceScale candidate)) :
    resultingPosition q0 a0 delta price = .ok (q0 + delta, some (roundDp stage8bP1d2AvgPriceScale candidate)) := by
  unfold resultingPosition
  rw [rejectIf_of_not, ok_bind, rejectIf_of_not, ok_bind, if_neg left, found, ok_bind]
  dsimp only
  rw [rejectIf_of_not, ok_bind]
  · exact not_le.2 within.positive
  · cases a0 with
    | none => simp [flat.1 rfl]
    | some average =>
        have held : q0 ≠ 0 := fun none => nomatch flat.2 none
        simp [held]
  · exact not_or.2 ⟨traded, not_le.2 priced⟩

/-- How much of a position a fill against it leaves. -/
theorem left_mul {quantity delta : ℚ} (opposes : quantity * delta < 0) :
    (quantity + delta) * quantity = |quantity| * (|quantity| - |delta|) := by
  have product : |quantity| * |delta| = -(quantity * delta) := by
    rw [← abs_mul, abs_of_neg opposes]
  calc (quantity + delta) * quantity = quantity * quantity + quantity * delta := by ring
    _ = |quantity| * |quantity| - |quantity| * |delta| := by rw [abs_mul_abs_self, product, sub_neg_eq_add]
    _ = |quantity| * (|quantity| - |delta|) := by ring

theorem left_mul_pos {quantity delta : ℚ} (opposes : quantity * delta < 0) (less : |delta| < |quantity|) :
    0 < (quantity + delta) * quantity := by
  rw [left_mul opposes]
  exact mul_pos (abs_pos.2 (left_ne_zero_of_mul opposes.ne)) (sub_pos.2 less)

theorem left_mul_neg {quantity delta : ℚ} (opposes : quantity * delta < 0) (more : |quantity| < |delta|) :
    (quantity + delta) * quantity < 0 := by
  rw [left_mul opposes]
  exact mul_neg_of_pos_of_neg (abs_pos.2 (left_ne_zero_of_mul opposes.ne)) (sub_neg.2 more)

section Steps

variable {stretch : Stretch} {quantity : ℚ} {average : Option ℚ}

theorem applyFill_close (averaged : Averaged stretch (quantity, average)) {fill : Fill}
    (closes : quantity + fill.delta = 0) : applyFill (quantity, average) fill = .ok (0, none) := by
  unfold applyFill resultingPosition
  rw [rejectIf_of_not, ok_bind, rejectIf_of_not, ok_bind]
  · dsimp only
    rw [if_pos closes, closes]
  · have flat : average = none ↔ quantity = 0 := averaged.flat
    cases average with
    | none => simp [flat.1 rfl]
    | some price =>
        have held : quantity ≠ 0 := fun none => nomatch flat.2 none
        simp [held]
  · exact not_or.2 ⟨fill.delta_ne_zero, not_le.2 fill.pricePositive⟩

theorem applyFill_open (averaged : Averaged stretch (quantity, average)) (fill : Fill) (flat : quantity = 0) :
    applyFill (quantity, average) fill = .ok (quantity + fill.delta, some fill.price) := by
  have rounded : roundDp stage8bP1d2AvgPriceScale fill.price = fill.price := roundDp_of_onGrid fill.priceOnGrid
  have traded : quantity + fill.delta ≠ 0 := by
    rw [flat, zero_add]
    exact fill.delta_ne_zero
  have within : Within [fill] (roundDp stage8bP1d2AvgPriceScale fill.price) :=
    rounded.symm ▸ Within.fill (List.mem_singleton.2 rfl)
  have applied := resultingPosition_of_candidate averaged.flat fill.delta_ne_zero fill.pricePositive traded
    (flat ▸ candidateAverage_open average) within
  rw [rounded] at applied
  exact applied

variable {held : ℚ} {fill : Fill}

theorem applyFill_add (averaged : Averaged stretch (quantity, some held)) (agrees : 0 < quantity * fill.delta) :
    applyFill (quantity, some held) fill = .ok (quantity + fill.delta,
      some (roundDp stage8bP1d2AvgPriceScale
        ((|quantity| * held + |fill.delta| * fill.price) / |quantity + fill.delta|))) := by
  have more : quantity + fill.delta ≠ 0 := by
    intro gone
    have amount : fill.delta = -quantity := eq_neg_of_add_eq_zero_right gone
    rw [amount, mul_neg] at agrees
    exact absurd (mul_self_nonneg quantity) (not_le.2 (neg_pos.1 agrees))
  exact resultingPosition_of_candidate averaged.flat fill.delta_ne_zero fill.pricePositive more
    (candidateAverage_add (left_ne_zero_of_mul agrees.ne') fill.delta_ne_zero agrees)
    ((averaged.within held rfl).weighted agrees)

/-- A reduction keeps the average. -/
theorem applyFill_reduce (averaged : Averaged stretch (quantity, some held)) (opposes : quantity * fill.delta < 0)
    (less : |fill.delta| < |quantity|) :
    applyFill (quantity, some held) fill = .ok (quantity + fill.delta, some held) := by
  have kept := left_mul_pos opposes less
  have within := averaged.within held rfl
  have rounded : roundDp stage8bP1d2AvgPriceScale held = held := roundDp_of_onGrid within.onGrid
  have applied := resultingPosition_of_candidate averaged.flat fill.delta_ne_zero fill.pricePositive
    (left_ne_zero_of_mul kept.ne') (candidateAverage_reduce (left_ne_zero_of_mul opposes.ne) fill.delta_ne_zero
      (left_ne_zero_of_mul kept.ne') opposes kept) (rounded.symm ▸ within)
  rw [rounded] at applied
  exact applied

/-- A flip takes over the price of the fill. -/
theorem applyFill_flip (averaged : Averaged stretch (quantity, some held)) (opposes : quantity * fill.delta < 0)
    (more : |quantity| < |fill.delta|) :
    applyFill (quantity, some held) fill = .ok (quantity + fill.delta, some fill.price) := by
  have flipped := left_mul_neg opposes more
  have rounded : roundDp stage8bP1d2AvgPriceScale fill.price = fill.price := roundDp_of_onGrid fill.priceOnGrid
  have within : Within [fill] (roundDp stage8bP1d2AvgPriceScale fill.price) :=
    rounded.symm ▸ Within.fill (List.mem_singleton.2 rfl)
  have applied := resultingPosition_of_candidate averaged.flat fill.delta_ne_zero fill.pricePositive
    (left_ne_zero_of_mul flipped.ne) (candidateAverage_flip (left_ne_zero_of_mul opposes.ne) fill.delta_ne_zero
      (left_ne_zero_of_mul flipped.ne) opposes flipped) within
  rw [rounded] at applied
  exact applied

end Steps

theorem Stretch.after_close {stretch : Stretch} {fill : Fill} (closes : stretch.quantity + fill.delta = 0) :
    stretch.after fill = ⟨0, []⟩ := by
  unfold after
  simp [closes]

theorem Stretch.after_same {stretch : Stretch} {fill : Fill}
    (same : 0 < (stretch.quantity + fill.delta) * stretch.quantity) :
    stretch.after fill = ⟨stretch.quantity + fill.delta, stretch.fills ++ [fill]⟩ := by
  unfold after
  simp only
  rw [if_neg (left_ne_zero_of_mul same.ne'), if_pos (mul_comm (stretch.quantity + fill.delta) _ ▸ same)]

theorem Stretch.after_other {stretch : Stretch} {fill : Fill} (left : stretch.quantity + fill.delta ≠ 0)
    (other : (stretch.quantity + fill.delta) * stretch.quantity ≤ 0) :
    stretch.after fill = ⟨stretch.quantity + fill.delta, [fill]⟩ := by
  unfold after
  simp only
  rw [if_neg left, if_neg (not_lt.2 (mul_comm (stretch.quantity + fill.delta) _ ▸ other))]

/-- One fill, by what it does to the position: open, close, add, reduce or flip. -/
theorem applyFill_averaged {stretch : Stretch} {position : ℚ × Option ℚ} (averaged : Averaged stretch position)
    (fill : Fill) :
    ∃ next, applyFill position fill = .ok next ∧ Averaged (stretch.after fill) next := by
  obtain ⟨quantity, average⟩ := position
  have known : quantity = stretch.quantity := averaged.quantity
  by_cases closes : quantity + fill.delta = 0
  · refine ⟨_, applyFill_close averaged closes, ?_⟩
    rw [Stretch.after_close (known ▸ closes)]
    exact ⟨rfl, iff_of_true rfl rfl, fun _ none => nomatch none⟩
  have present : ∀ price : ℚ, (some price = none ↔ quantity + fill.delta = 0) :=
    fun _ => iff_of_false (fun none => nomatch none) closes
  cases average with
  | none =>
      have flat : quantity = 0 := averaged.flat.1 rfl
      refine ⟨_, applyFill_open averaged fill flat, ?_⟩
      rw [Stretch.after_other (known ▸ closes) (by rw [← known, flat, mul_zero]), ← known]
      refine ⟨rfl, present _, ?_⟩
      rintro _ ⟨⟩
      exact Within.fill (List.mem_singleton.2 rfl)
  | some held =>
      have traded : quantity ≠ 0 := fun flat => nomatch averaged.flat.2 flat
      rcases lt_or_gt_of_ne (mul_ne_zero traded fill.delta_ne_zero) with opposes | agrees
      · rcases lt_trichotomy |fill.delta| |quantity| with less | equal | more
        · refine ⟨_, applyFill_reduce averaged opposes less, ?_⟩
          rw [Stretch.after_same (known ▸ left_mul_pos opposes less), ← known]
          refine ⟨rfl, present _, ?_⟩
          rintro _ ⟨⟩
          exact (averaged.within held rfl).append fill
        · have none : (quantity + fill.delta) * quantity = 0 := by
            rw [left_mul opposes, equal, sub_self, mul_zero]
          exact absurd none (mul_ne_zero closes traded)
        · refine ⟨_, applyFill_flip averaged opposes more, ?_⟩
          rw [Stretch.after_other (known ▸ closes) (known ▸ (left_mul_neg opposes more).le), ← known]
          refine ⟨rfl, present _, ?_⟩
          rintro _ ⟨⟩
          exact Within.fill (List.mem_singleton.2 rfl)
      · have same : 0 < (quantity + fill.delta) * quantity := by
          rw [add_mul, mul_comm fill.delta]
          exact add_pos_of_nonneg_of_pos (mul_self_nonneg quantity) agrees
        refine ⟨_, applyFill_add averaged agrees, ?_⟩
        rw [Stretch.after_same (known ▸ same), ← known]
        refine ⟨rfl, present _, ?_⟩
        rintro _ ⟨⟩
        exact (averaged.within held rfl).weighted agrees

theorem positionAfter_snoc {fills : List Fill} {position : ℚ × Option ℚ} (reached : positionAfter fills = .ok position)
    (fill : Fill) : positionAfter (fills ++ [fill]) = applyFill position fill := by
  unfold positionAfter at reached ⊢
  rw [List.foldlM_append, reached, ok_bind, foldlM_singleton]

theorem stretchOf_snoc (fills : List Fill) (fill : Fill) :
    stretchOf (fills ++ [fill]) = (stretchOf fills).after fill := by
  unfold stretchOf
  rw [List.foldl_append]
  rfl

theorem stretchOf_quantity (fills : List Fill) : (stretchOf fills).quantity = (fills.map Fill.delta).sum := by
  induction fills using List.reverseRecOn with
  | nil => rfl
  | append_singleton fills fill ih =>
      rw [stretchOf_snoc, List.map_append, List.sum_append, List.map_singleton, List.sum_singleton, ← ih]
      rfl

theorem positionAfter_averaged (fills : List Fill) :
    ∃ position, positionAfter fills = .ok position ∧ Averaged (stretchOf fills) position := by
  induction fills using List.reverseRecOn with
  | nil => exact ⟨(0, none), rfl, rfl, iff_of_true rfl rfl, fun _ none => nomatch none⟩
  | append_singleton fills fill ih =>
      obtain ⟨position, reached, averaged⟩ := ih
      rw [positionAfter_snoc reached, stretchOf_snoc]
      exact applyFill_averaged averaged fill

section Mirror

def mirrored (position : ℚ × Option ℚ) : ℚ × Option ℚ :=
  (-position.1, position.2)

theorem candidateAverage_mirror {q0 q1 delta : ℚ} (traded : delta ≠ 0) (left : q1 ≠ 0) (a0 : Option ℚ) (price : ℚ) :
    candidateAverage (-q0) a0 (-q1) (-delta) price = candidateAverage q0 a0 q1 delta price := by
  unfold candidateAverage
  by_cases flat : q0 = 0
  · rw [if_pos flat, if_pos (neg_eq_zero.2 flat)]
  · rw [if_neg flat, if_neg (neg_ne_zero.2 flat), isSignPositive_neg flat, isSignPositive_neg traded,
      isSignPositive_neg left, abs_neg, abs_neg, abs_neg]
    simp only [Bool.not_inj_iff]

theorem resultingPosition_mirror (q0 : ℚ) (a0 : Option ℚ) (delta price : ℚ) :
    resultingPosition (-q0) a0 (-delta) price = mirrored <$> resultingPosition q0 a0 delta price := by
  unfold resultingPosition
  have sum : -q0 + -delta = -(q0 + delta) := (neg_add q0 delta).symm
  simp only [neg_eq_zero, ne_eq, sum]
  by_cases refused : delta = 0 ∨ price ≤ 0
  · simp only [rejectIf, if_pos refused]
    rfl
  rw [rejectIf_of_not _ refused, ok_bind]
  by_cases mismatched : (q0 = 0 ∧ a0.isSome = true) ∨ (¬ q0 = 0 ∧ a0.isNone = true)
  · simp only [rejectIf, if_pos mismatched]
    rfl
  rw [rejectIf_of_not _ mismatched, ok_bind]
  obtain ⟨traded, -⟩ := not_or.1 refused
  by_cases left : q0 + delta = 0
  · rw [if_pos left, if_pos left]
    rfl
  · rw [if_neg left, if_neg left, candidateAverage_mirror traded left]
    cases candidateAverage q0 a0 (q0 + delta) delta price with
    | error error => rfl
    | ok candidate =>
        simp only [ok_bind, rejectIf]
        split <;> rfl

theorem applyFill_mirror (position : ℚ × Option ℚ) (fill : Fill) :
    applyFill (mirrored position) fill.mirror = mirrored <$> applyFill position fill := by
  unfold applyFill
  rw [fill.mirror_delta, fill.mirror_price]
  exact resultingPosition_mirror position.1 position.2 fill.delta fill.price

theorem foldlM_mirror (fills : List Fill) (position : ℚ × Option ℚ) :
    (fills.map Fill.mirror).foldlM applyFill (mirrored position) = mirrored <$> fills.foldlM applyFill position := by
  induction fills generalizing position with
  | nil => rfl
  | cons fill rest ih =>
      rw [List.map_cons, List.foldlM_cons, List.foldlM_cons, applyFill_mirror]
      cases applyFill position fill with
      | error error => rfl
      | ok next => exact ih next

theorem positionAfter_mirror {fills : List Fill} {position : ℚ × Option ℚ} (reached : positionAfter fills = .ok position) :
    positionAfter (fills.map Fill.mirror) = .ok (mirrored position) := by
  have start : mirrored (0, none) = (0, none) := by
    unfold mirrored
    rw [neg_zero]
  unfold positionAfter at reached ⊢
  rw [← start, foldlM_mirror, reached]
  rfl

end Mirror

/-- Fills from a flat position always average: the quantity is their signed sum, the average lies
between prices of the stretch it was built over, and the two sides are treated alike. -/
theorem positionAfter_sound (fills : List Fill) :
    ∃ quantity average, positionAfter fills = .ok (quantity, average) ∧
      quantity = (fills.map Fill.delta).sum ∧ (average = none ↔ quantity = 0) ∧
      (∀ price, average = some price →
        (∃ lowest ∈ (stretchOf fills).fills, lowest.price ≤ price) ∧
        ∃ highest ∈ (stretchOf fills).fills, price ≤ highest.price) ∧
      (∀ fill : Fill, quantity * fill.delta < 0 → |fill.delta| < |quantity| →
        positionAfter (fills ++ [fill]) = .ok (quantity + fill.delta, average)) ∧
      (∀ fill : Fill, quantity * fill.delta < 0 → |quantity| < |fill.delta| →
        positionAfter (fills ++ [fill]) = .ok (quantity + fill.delta, some fill.price)) ∧
      positionAfter (fills.map Fill.mirror) = .ok (-quantity, average) := by
  obtain ⟨⟨quantity, average⟩, reached, averaged⟩ := positionAfter_averaged fills
  have held : ∀ fill : Fill, quantity * fill.delta < 0 → ∃ price, average = some price := by
    intro fill opposes
    cases average with
    | none => exact absurd (averaged.flat.1 rfl) (left_ne_zero_of_mul opposes.ne)
    | some price => exact ⟨price, rfl⟩
  refine ⟨quantity, average, reached, averaged.quantity.trans (stretchOf_quantity fills), averaged.flat, ?_, ?_, ?_,
    positionAfter_mirror reached⟩
  · intro price present
    have within := averaged.within price present
    exact ⟨within.above, within.below⟩
  · intro fill opposes less
    obtain ⟨price, rfl⟩ := held fill opposes
    rw [positionAfter_snoc reached, applyFill_reduce averaged opposes less]
  · intro fill opposes more
    obtain ⟨price, rfl⟩ := held fill opposes
    rw [positionAfter_snoc reached, applyFill_flip averaged opposes more]

end TradingGateway.Stage8b.MarketAverages
