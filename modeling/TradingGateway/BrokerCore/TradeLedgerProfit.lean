import Mathlib.Algebra.BigOperators.Group.List.Basic
import Mathlib.Tactic.LinearCombination
import Mathlib.Tactic.NormNum
import TradingGateway.Foundation.AverageCost
import TradingGateway.BrokerCore.TradeLedger

/-! The profit of the closed trades against the profit accumulated fill by fill. -/

set_option autoImplicit false

namespace TradingGateway.BrokerCore

open Foundation.AverageCost PositionAccount

/-- What a fill adds to the position: a sale takes away. -/
def TradeRecord.amount (trade : TradeRecord) : ℚ :=
  if trade.side = "buy" then trade.qty else -trade.qty

structure TradeRecord.Regular (trade : TradeRecord) : Prop where
  qty : 0 < trade.qty
  price : 0 < trade.price
  side : trade.side = "buy" ∨ trade.side = "sell"

/-- A position that is nothing or too large for the ledger to take for nothing. -/
def Clean (quantity : ℚ) : Prop :=
  quantity = 0 ∨ epsilon < |quantity|

def holdingOf (fills : List TradeRecord) : Holding ℚ :=
  fills.foldl (fun holding trade => holding.trade trade.amount trade.price) { quantity := 0, cost := 0 }

def partialProfits (holding : Holding ℚ) : List TradeRecord → ℚ
  | [] => 0
  | trade :: fills =>
      holding.partialProfit trade.amount trade.price + partialProfits (holding.trade trade.amount trade.price) fills

def TradeLedger.closedProfit (ledger : TradeLedger) : ℚ :=
  (ledger.closedTrades.map (·.pnlGross)).sum

def ownedFills (fills : List TradeRecord) : TradeLedger :=
  fills.foldl TradeLedger.applyOwnedFill {}

/-! ### The arms of `apply_fill` -/

namespace PositionAccount

variable {account : PositionAccount} {trade : TradeRecord}

theorem epsilon_pos : 0 < epsilon := by
  unfold epsilon
  positivity

theorem isFlat_iff {quantity : ℚ} (clean : Clean quantity) : IsFlat quantity ↔ quantity = 0 := by
  unfold IsFlat
  constructor
  · intro small
    rcases clean with none | large
    · exact none
    · exact absurd small (not_le.2 large)
  · rintro rfl
    rw [abs_zero]
    exact epsilon_pos.le

theorem averagePrice_eq (clean : Clean account.positionQty) (held : account.positionQty ≠ 0) :
    account.averagePrice = account.positionCost / account.positionQty := by
  rw [averagePrice, if_neg fun flat => held ((isFlat_iff clean).1 flat)]

/-- The fields that `apply_fill` leaves to its second half. -/
structure EntryKept (before after : PositionAccount) : Prop where
  closedTrades : after.closedTrades = before.closedTrades
  entryPrice : after.entryPrice = before.entryPrice
  entrySide : after.entrySide = before.entrySide

theorem move_entry (account : PositionAccount) (side : String) (qty price : ℚ) :
    EntryKept account (account.move side qty price) := by
  unfold move buy sell
  dsimp only
  split_ifs <;> exact ⟨rfl, rfl, rfl⟩

section Move

variable {holding : Holding ℚ} (quantity : account.positionQty = holding.quantity)
  (cost : account.positionCost = holding.cost)
include quantity cost

/-- A buy moves the position the way a positive amount moves the holding. -/
theorem buy_spec {qty price : ℚ} (clean : Clean holding.quantity) (positive : 0 < qty) :
    (account.buy qty price).positionQty = holding.quantity + qty ∧
      (account.buy qty price).positionCost = (holding.trade qty price).cost ∧
      (account.buy qty price).realizedPnl = account.realizedPnl + holding.profit qty price := by
  unfold buy
  by_cases short : account.positionQty < 0
  · rw [if_pos short]
    have held : account.positionQty ≠ 0 := short.ne
    have average : account.averagePrice = holding.average := by
      rw [averagePrice_eq (quantity ▸ clean) held, quantity, cost, Holding.average]
    rw [quantity] at short held
    have opposes : holding.Opposes qty := mul_neg_of_neg_of_pos short positive
    dsimp only
    rw [average, quantity, cost, abs_of_neg short]
    by_cases reduces : holding.Reduces qty
    · have smaller : qty < -holding.quantity := by
        have := reduces.2
        rwa [abs_of_pos positive, abs_of_neg short] at this
      rw [min_eq_left smaller.le, sub_self, if_neg (lt_irrefl _), Holding.trade, Holding.profit, if_pos reduces,
        if_pos reduces, mul_comm qty]
      exact ⟨rfl, rfl, rfl⟩
    · have larger : -holding.quantity ≤ qty := by
        by_contra smaller
        refine reduces ⟨opposes, ?_⟩
        rw [abs_of_pos positive, abs_of_neg short]
        exact not_le.1 smaller
      rw [min_eq_right larger, Holding.trade, Holding.profit, if_neg reduces, if_neg reduces, if_pos opposes,
        if_pos opposes]
      have value := Holding.average_mul held
      split
      case isTrue =>
        refine ⟨by ring, ?_, by ring⟩
        linear_combination -value
      case isFalse overfilled =>
        have gone : qty = -holding.quantity := by linarith
        subst gone
        refine ⟨by ring, ?_, by ring⟩
        linear_combination -value
  · rw [if_neg short]
    have agrees : ¬ holding.Opposes qty := by
      rw [Holding.Opposes, not_lt, ← quantity]
      exact mul_nonneg (not_lt.1 short) positive.le
    rw [Holding.trade, Holding.profit, if_neg (Holding.not_reduces agrees), if_neg (Holding.not_reduces agrees),
      if_neg agrees, if_neg agrees, add_zero, quantity, cost]
    exact ⟨rfl, rfl, rfl⟩

/-- A sale moves the position the way a negative amount moves the holding. -/
theorem sell_spec {qty price : ℚ} (clean : Clean holding.quantity) (positive : 0 < qty) :
    (account.sell qty price).positionQty = holding.quantity + -qty ∧
      (account.sell qty price).positionCost = (holding.trade (-qty) price).cost ∧
      (account.sell qty price).realizedPnl = account.realizedPnl + holding.profit (-qty) price := by
  have sold : -qty < 0 := neg_neg_of_pos positive
  unfold sell
  by_cases long : 0 < account.positionQty
  · rw [if_pos long]
    have held : account.positionQty ≠ 0 := long.ne'
    have average : account.averagePrice = holding.average := by
      rw [averagePrice_eq (quantity ▸ clean) held, quantity, cost, Holding.average]
    rw [quantity] at long held
    have opposes : holding.Opposes (-qty) := mul_neg_of_pos_of_neg long sold
    dsimp only
    rw [average, quantity, cost]
    by_cases reduces : holding.Reduces (-qty)
    · have smaller : qty < holding.quantity := by
        have := reduces.2
        rwa [abs_of_neg sold, neg_neg, abs_of_pos long] at this
      rw [min_eq_left smaller.le, sub_self, if_neg (lt_irrefl _), Holding.trade, Holding.profit, if_pos reduces,
        if_pos reduces]
      exact ⟨by ring, by ring, by ring⟩
    · have larger : holding.quantity ≤ qty := by
        by_contra smaller
        refine reduces ⟨opposes, ?_⟩
        rw [abs_of_neg sold, neg_neg, abs_of_pos long]
        exact not_le.1 smaller
      rw [min_eq_right larger, Holding.trade, Holding.profit, if_neg reduces, if_neg reduces, if_pos opposes,
        if_pos opposes]
      have value := Holding.average_mul held
      split
      case isTrue =>
        refine ⟨by ring, ?_, by ring⟩
        linear_combination -value
      case isFalse overfilled =>
        have gone : qty = holding.quantity := by linarith
        subst gone
        refine ⟨by ring, ?_, by ring⟩
        linear_combination -value
  · rw [if_neg long]
    have agrees : ¬ holding.Opposes (-qty) := by
      rw [Holding.Opposes, not_lt, ← quantity]
      exact mul_nonneg_of_nonpos_of_nonpos (not_lt.1 long) sold.le
    rw [Holding.trade, Holding.profit, if_neg (Holding.not_reduces agrees), if_neg (Holding.not_reduces agrees),
      if_neg agrees, if_neg agrees, add_zero, quantity, cost]
    exact ⟨by ring, by ring, rfl⟩

theorem move_spec (regular : trade.Regular) (clean : Clean holding.quantity) :
    (account.move trade.side trade.qty trade.price).positionQty = holding.quantity + trade.amount ∧
      (account.move trade.side trade.qty trade.price).positionCost = (holding.trade trade.amount trade.price).cost ∧
      (account.move trade.side trade.qty trade.price).realizedPnl =
        account.realizedPnl + holding.profit trade.amount trade.price := by
  unfold move TradeRecord.amount
  rcases regular.side with buys | sells
  · rw [if_pos buys, if_pos buys]
    exact buy_spec quantity cost clean regular.qty
  · have other : trade.side ≠ "buy" := by
      rw [sells]
      decide
    rw [if_neg other, if_neg other, if_pos sells]
    exact sell_spec quantity cost clean regular.qty

end Move

/-! ### The four endings of `apply_fill` -/

section Endings

variable {before after : PositionAccount} (moved : before.move trade.side trade.qty trade.price = after)
  (cleanBefore : Clean before.positionQty) (cleanAfter : Clean after.positionQty)
include moved cleanBefore cleanAfter

/-- A position that opens remembers its side and its price. -/
theorem applyFill_opens (empty : before.positionQty = 0) (held : after.positionQty ≠ 0) :
    (before.applyFill trade).closedTrades = after.closedTrades ∧
      (before.applyFill trade).entryPrice = |after.averagePrice| ∧
      (before.applyFill trade).entrySide = some trade.side := by
  have wasFlat : IsFlat before.positionQty := (isFlat_iff cleanBefore).2 empty
  have isHeld : ¬ IsFlat after.positionQty := fun flat => held ((isFlat_iff cleanAfter).1 flat)
  simp [applyFill, openAt, moved, wasFlat, isHeld]

/-- A position that keeps its side keeps what it remembers, the price made new. -/
theorem applyFill_keeps (was : before.positionQty ≠ 0) (held : after.positionQty ≠ 0)
    (same : signum before.positionQty = signum after.positionQty) :
    (before.applyFill trade).closedTrades = after.closedTrades ∧
      (before.applyFill trade).entryPrice = |after.averagePrice| ∧
      (before.applyFill trade).entrySide = after.entrySide := by
  have wasHeld : ¬ IsFlat before.positionQty := fun flat => was ((isFlat_iff cleanBefore).1 flat)
  have isHeld : ¬ IsFlat after.positionQty := fun flat => held ((isFlat_iff cleanAfter).1 flat)
  simp [applyFill, moved, wasHeld, isHeld, same]

/-- A position that is gone leaves its closed trade. -/
theorem applyFill_closes (was : before.positionQty ≠ 0) (gone : after.positionQty = 0)
    (price : 0 < before.entryPrice) :
    (before.applyFill trade).closedTrades =
      after.closedTrades ++ [before.closedTrade trade false 1] := by
  have wasHeld : ¬ IsFlat before.positionQty := fun flat => was ((isFlat_iff cleanBefore).1 flat)
  have isGone : IsFlat after.positionQty := (isFlat_iff cleanAfter).2 gone
  simp [applyFill, moved, wasHeld, isGone, closedTrade, price]

/-- A position that changes its side leaves its closed trade and opens anew. -/
theorem applyFill_flips (was : before.positionQty ≠ 0) (held : after.positionQty ≠ 0)
    (other : signum before.positionQty ≠ signum after.positionQty) (price : 0 < before.entryPrice) :
    ∃ closeRatio, (before.applyFill trade).closedTrades =
        after.closedTrades ++ [before.closedTrade trade true closeRatio] ∧
      (before.applyFill trade).entryPrice = |after.averagePrice| ∧
      (before.applyFill trade).entrySide = some (sideOf after.positionQty) := by
  have wasHeld : ¬ IsFlat before.positionQty := fun flat => was ((isFlat_iff cleanBefore).1 flat)
  have isHeld : ¬ IsFlat after.positionQty := fun flat => held ((isFlat_iff cleanAfter).1 flat)
  refine ⟨if 0 < trade.qty then min (|before.positionQty| / trade.qty) 1 else 1, ?_⟩
  simp [applyFill, openAt, averagePrice, moved, wasHeld, isHeld, other, closedTrade, price]

end Endings

/-- The second half of `apply_fill` leaves what the first half made of the position. -/
theorem applyFill_moves (before : PositionAccount) (trade : TradeRecord) :
    (before.applyFill trade).positionQty = (before.move trade.side trade.qty trade.price).positionQty ∧
      (before.applyFill trade).positionCost = (before.move trade.side trade.qty trade.price).positionCost ∧
      (before.applyFill trade).realizedPnl = (before.move trade.side trade.qty trade.price).realizedPnl := by
  unfold applyFill openAt
  dsimp only
  split_ifs <;> exact ⟨rfl, rfl, rfl⟩

end PositionAccount

/-! ### A fill keeps the two accounts together -/

theorem signum_eq_iff {left right : ℚ} (leftHeld : left ≠ 0) (rightHeld : right ≠ 0) :
    signum left = signum right ↔ (0 < left ↔ 0 < right) := by
  have onlyLeft : 0 ≤ left ↔ 0 < left := ⟨fun most => lt_of_le_of_ne most (Ne.symm leftHeld), le_of_lt⟩
  have onlyRight : 0 ≤ right ↔ 0 < right := ⟨fun most => lt_of_le_of_ne most (Ne.symm rightHeld), le_of_lt⟩
  simp only [signum, onlyLeft, onlyRight]
  by_cases long : 0 < left <;> by_cases alsoLong : 0 < right <;> simp [long, alsoLong] <;> norm_num

theorem sideOf_congr {left right : ℚ} (same : 0 < left ↔ 0 < right) : sideOf left = sideOf right := by
  simp only [sideOf, same]

theorem TradeRecord.Regular.amount_ne {trade : TradeRecord} (regular : trade.Regular) : trade.amount ≠ 0 := by
  unfold TradeRecord.amount
  split
  · exact regular.qty.ne'
  · exact neg_ne_zero.2 regular.qty.ne'

theorem TradeRecord.Regular.sideOf_amount {trade : TradeRecord} (regular : trade.Regular) :
    sideOf trade.amount = trade.side := by
  unfold sideOf TradeRecord.amount
  rcases regular.side with buys | sells
  · rw [if_pos buys, if_pos regular.qty, buys]
  · have other : trade.side ≠ "buy" := by
      rw [sells]
      decide
    rw [if_neg other, if_neg (not_lt.2 (neg_nonpos.2 regular.qty.le)), sells]

structure Mirrors (account : PositionAccount) (holding : Holding ℚ) (partials : ℚ) : Prop where
  sound : holding.Sound
  quantity : account.positionQty = holding.quantity
  cost : account.positionCost = holding.cost
  profit : account.realizedPnl = (account.closedTrades.map (·.pnlGross)).sum + partials
  entryPrice : holding.quantity ≠ 0 → account.entryPrice = holding.average
  entrySide : holding.quantity ≠ 0 → account.entrySide = some (sideOf holding.quantity)

section Step

variable {account : PositionAccount} {holding : Holding ℚ} {partials : ℚ} {trade : TradeRecord}

/-- The profit of a closed trade is that of the whole holding. -/
theorem Mirrors.closedTrade_pnlGross (mirrors : Mirrors account holding partials) (held : holding.quantity ≠ 0)
    (flipped : Bool) (closeRatio : ℚ) :
    (account.closedTrade trade flipped closeRatio).pnlGross =
      (trade.price - holding.average) * holding.quantity := by
  have worth : 0 < holding.average := mirrors.sound.worth held
  simp only [closedTrade, mirrors.entryPrice held, mirrors.entrySide held, mirrors.quantity, if_pos worth,
    Option.getD_some]
  rcases lt_or_gt_of_ne held with short | long
  · rw [sideOf, if_neg (not_lt.2 short.le), if_neg (by decide), abs_of_neg short]
    ring
  · rw [sideOf, if_pos long, if_pos rfl, abs_of_pos long]

structure Moved (account : PositionAccount) (holding : Holding ℚ) (trade : TradeRecord) (after : PositionAccount) :
    Prop where
  moved : account.move trade.side trade.qty trade.price = after
  cleanBefore : Clean account.positionQty
  cleanAfter : Clean after.positionQty
  quantity : after.positionQty = holding.quantity + trade.amount
  average : holding.quantity + trade.amount ≠ 0 →
    |after.averagePrice| = (holding.trade trade.amount trade.price).average
  kept : EntryKept account after

structure Settles (account : PositionAccount) (holding : Holding ℚ) (trade : TradeRecord) (closed : ℚ) : Prop where
  closedTrades : ((account.applyFill trade).closedTrades.map (·.pnlGross)).sum =
    (account.closedTrades.map (·.pnlGross)).sum + closed
  profit : holding.profit trade.amount trade.price = closed + holding.partialProfit trade.amount trade.price
  entryPrice : holding.quantity + trade.amount ≠ 0 →
    (account.applyFill trade).entryPrice = (holding.trade trade.amount trade.price).average
  entrySide : holding.quantity + trade.amount ≠ 0 →
    (account.applyFill trade).entrySide = some (sideOf (holding.quantity + trade.amount))

variable {after : PositionAccount}

theorem Mirrors.opens (mirrors : Mirrors account holding partials) (regular : trade.Regular)
    (moved : Moved account holding trade after) (empty : holding.quantity = 0) :
    Settles account holding trade 0 := by
  have agrees : ¬ holding.Opposes trade.amount := fun opposes => opposes.held empty
  have held : holding.quantity + trade.amount ≠ 0 := by
    rw [empty, zero_add]
    exact regular.amount_ne
  obtain ⟨closedTrades, entryPrice, entrySide⟩ := applyFill_opens moved.moved moved.cleanBefore moved.cleanAfter
    (mirrors.quantity.trans empty) (moved.quantity ▸ held)
  constructor
  · rw [closedTrades, moved.kept.closedTrades, add_zero]
  · rw [Holding.partialProfit, Holding.profit, if_neg (Holding.not_reduces agrees),
      if_neg (Holding.not_reduces agrees), if_neg agrees, add_zero]
  · rw [entryPrice]
    exact moved.average
  · intro _
    rw [entrySide, empty, zero_add, regular.sideOf_amount]

theorem Mirrors.keeps (mirrors : Mirrors account holding partials) (moved : Moved account holding trade after)
    (held : holding.quantity ≠ 0) (left : holding.quantity + trade.amount ≠ 0)
    (same : 0 < holding.quantity ↔ 0 < holding.quantity + trade.amount)
    (profit : holding.profit trade.amount trade.price = holding.partialProfit trade.amount trade.price) :
    Settles account holding trade 0 := by
  have signs : signum account.positionQty = signum after.positionQty := by
    rw [mirrors.quantity, moved.quantity]
    exact (signum_eq_iff held left).2 same
  obtain ⟨closedTrades, entryPrice, entrySide⟩ := applyFill_keeps moved.moved moved.cleanBefore moved.cleanAfter
    (mirrors.quantity ▸ held) (moved.quantity ▸ left) signs
  constructor
  · rw [closedTrades, moved.kept.closedTrades, add_zero]
  · rw [profit, zero_add]
  · rw [entryPrice]
    exact moved.average
  · intro _
    rw [entrySide, moved.kept.entrySide, mirrors.entrySide held, sideOf_congr same]

theorem Mirrors.closes (mirrors : Mirrors account holding partials) (moved : Moved account holding trade after)
    (opposes : holding.Opposes trade.amount) (whole : ¬ holding.Reduces trade.amount) :
    Settles account holding trade ((trade.price - holding.average) * holding.quantity) := by
  have held := opposes.held
  have price : 0 < account.entryPrice := by
    rw [mirrors.entryPrice held]
    exact mirrors.sound.worth held
  have profit : holding.profit trade.amount trade.price =
      (trade.price - holding.average) * holding.quantity + holding.partialProfit trade.amount trade.price := by
    rw [Holding.partialProfit, Holding.profit, if_neg whole, if_neg whole, if_pos opposes, add_zero]
  by_cases left : holding.quantity + trade.amount = 0
  · have closedTrades := applyFill_closes moved.moved moved.cleanBefore moved.cleanAfter
      (mirrors.quantity ▸ held) (moved.quantity.trans left) price
    refine ⟨?_, profit, fun other => absurd left other, fun other => absurd left other⟩
    rw [closedTrades, moved.kept.closedTrades, List.map_append, List.sum_append, List.map_singleton,
      List.sum_singleton, mirrors.closedTrade_pnlGross held]
  · have signs : signum account.positionQty ≠ signum after.positionQty := by
      rw [mirrors.quantity, moved.quantity]
      intro same
      have sides := (signum_eq_iff held left).1 same
      rw [Holding.long_iff_of_closes opposes whole left] at sides
      exact iff_not_self sides.symm
    obtain ⟨closeRatio, closedTrades, entryPrice, entrySide⟩ := applyFill_flips moved.moved moved.cleanBefore
      moved.cleanAfter (mirrors.quantity ▸ held) (moved.quantity ▸ left) signs price
    refine ⟨?_, profit, ?_, ?_⟩
    · rw [closedTrades, moved.kept.closedTrades, List.map_append, List.sum_append, List.map_singleton,
        List.sum_singleton, mirrors.closedTrade_pnlGross held]
    · rw [entryPrice]
      exact moved.average
    · intro _
      rw [entrySide, moved.quantity]

/-- A regular fill between clean positions opens, adds, reduces, closes or turns the position, and
each keeps the account and the holding together. -/
theorem Mirrors.settles (mirrors : Mirrors account holding partials) (regular : trade.Regular)
    (moved : Moved account holding trade after) : ∃ closed, Settles account holding trade closed := by
  by_cases held : holding.quantity = 0
  · exact ⟨0, mirrors.opens regular moved held⟩
  · by_cases opposes : holding.Opposes trade.amount
    · by_cases reduces : holding.Reduces trade.amount
      · refine ⟨0, mirrors.keeps moved held reduces.left (Holding.long_iff_of_reduces reduces) ?_⟩
        rw [Holding.partialProfit, if_pos reduces]
      · exact ⟨_, mirrors.closes moved opposes reduces⟩
    · refine ⟨0, mirrors.keeps moved held (Holding.left_of_agrees opposes held)
        (Holding.long_iff_of_agrees opposes held) ?_⟩
      rw [Holding.partialProfit, Holding.profit, if_neg (Holding.not_reduces opposes),
        if_neg (Holding.not_reduces opposes), if_neg opposes]

theorem Mirrors.applyFill (mirrors : Mirrors account holding partials) (regular : trade.Regular)
    (clean : Clean holding.quantity) (cleanNext : Clean (holding.quantity + trade.amount)) :
    Mirrors (account.applyFill trade) (holding.trade trade.amount trade.price)
      (partials + holding.partialProfit trade.amount trade.price) := by
  obtain ⟨quantity, cost, profit⟩ := move_spec mirrors.quantity mirrors.cost regular clean
  obtain ⟨sameQuantity, sameCost, sameProfit⟩ := applyFill_moves account trade
  have sound := mirrors.sound.trade regular.amount_ne regular.price
  have cleanAfter := quantity.symm ▸ cleanNext
  have moved : Moved account holding trade (account.move trade.side trade.qty trade.price) := by
    refine ⟨rfl, mirrors.quantity ▸ clean, cleanAfter, quantity, fun left => ?_, move_entry account _ _ _⟩
    rw [averagePrice_eq cleanAfter (quantity ▸ left), quantity, cost, ← Holding.trade_quantity holding _ trade.price]
    exact abs_of_pos (sound.worth left)
  obtain ⟨closed, settles⟩ := mirrors.settles regular moved
  refine ⟨sound, sameQuantity.trans quantity, sameCost.trans cost, ?_, settles.entryPrice, settles.entrySide⟩
  rw [sameProfit, profit, mirrors.profit, settles.closedTrades, settles.profit]
  ring

end Step

/-! ### Runs of fills -/

def positionAfter (fills : List TradeRecord) : ℚ :=
  (fills.map (·.amount)).sum

/-- Regular fills that never leave a position too small for the ledger to see. -/
structure CleanRun (fills : List TradeRecord) : Prop where
  regular : ∀ trade ∈ fills, trade.Regular
  clean : ∀ front, front <+: fills → Clean (positionAfter front)

section Runs

variable {fills : List TradeRecord} {trade : TradeRecord}

theorem CleanRun.front {prior : List TradeRecord} (run : CleanRun fills) (isFront : prior <+: fills) :
    CleanRun prior where
  regular := fun trade member => run.regular trade (isFront.subset member)
  clean := fun _ isPrior => run.clean _ (isPrior.trans isFront)

theorem partialProfits_concat (holding : Holding ℚ) (fills : List TradeRecord) (trade : TradeRecord) :
    partialProfits holding (fills ++ [trade]) = partialProfits holding fills +
      (fills.foldl (fun holding trade => holding.trade trade.amount trade.price) holding).partialProfit
        trade.amount trade.price := by
  induction fills generalizing holding with
  | nil => simp [partialProfits]
  | cons first fills ih =>
      rw [List.cons_append, partialProfits, ih, partialProfits, List.foldl_cons]
      ring

theorem holdingOf_concat : holdingOf (fills ++ [trade]) =
    (holdingOf fills).trade trade.amount trade.price := by
  rw [holdingOf, List.foldl_append]
  rfl

theorem holdingOf_quantity (fills : List TradeRecord) : (holdingOf fills).quantity = positionAfter fills := by
  induction fills using List.reverseRecOn with
  | nil => rfl
  | append_singleton fills trade ih =>
      rw [holdingOf_concat, Holding.trade_quantity, ih, positionAfter, positionAfter, List.map_append,
        List.sum_append, List.map_singleton, List.sum_singleton]

theorem ownedFills_account (fills : List TradeRecord) (trade : TradeRecord) :
    (ownedFills (fills ++ [trade])).toPositionAccount =
      (ownedFills fills).toPositionAccount.applyFill trade := by
  rw [ownedFills, List.foldl_append]
  rfl

theorem ownedFills_eq_foldl (fills : List TradeRecord) :
    (ownedFills fills).toPositionAccount = fills.foldl PositionAccount.applyFill {} := by
  induction fills using List.reverseRecOn with
  | nil => rfl
  | append_singleton fills trade ih =>
      rw [ownedFills_account, ih, List.foldl_append]
      rfl

/-- Over a clean run the ledger mirrors the holding of its fills. -/
theorem CleanRun.mirrors (run : CleanRun fills) :
    Mirrors (ownedFills fills).toPositionAccount (holdingOf fills)
      (partialProfits { quantity := 0, cost := 0 } fills) := by
  induction fills using List.reverseRecOn with
  | nil =>
      refine ⟨⟨fun _ => rfl, fun held => absurd rfl held⟩, rfl, rfl, ?_, fun held => absurd rfl held,
        fun held => absurd rfl held⟩
      simp [ownedFills, partialProfits]
  | append_singleton fills trade ih =>
      have isFront : fills <+: fills ++ [trade] := List.prefix_append _ _
      have mirrors := ih (run.front isFront)
      have regular := run.regular trade (List.mem_append_right _ (List.mem_singleton_self _))
      rw [ownedFills_account, holdingOf_concat, partialProfits_concat]
      refine mirrors.applyFill regular ?_ ?_
      · rw [holdingOf_quantity]
        exact run.clean fills isFront
      · rw [← Holding.trade_quantity _ _ trade.price, ← holdingOf_concat, holdingOf_quantity]
        exact run.clean _ (List.prefix_refl _)

/-- What the ledger realized and did not close is the profit of its partial closes. -/
theorem CleanRun.realizedPnl_eq (run : CleanRun fills) : (ownedFills fills).realizedPnl =
    (ownedFills fills).closedProfit + partialProfits { quantity := 0, cost := 0 } fills :=
  run.mirrors.profit

/-- Wherever the position is flat the closed trades account for the realized profit, exactly when
wherever it is zero the partial closes so far have earned and lost the same. -/
theorem closed_profit_complete_iff (run : CleanRun fills) :
    (∀ front, front <+: fills → IsFlat (ownedFills front).positionQty →
        (ownedFills front).closedProfit = (ownedFills front).realizedPnl) ↔
      ∀ front, front <+: fills → positionAfter front = 0 →
        partialProfits { quantity := 0, cost := 0 } front = 0 := by
  have position {front : List TradeRecord} (isFront : front <+: fills) :
      IsFlat (ownedFills front).positionQty ↔ positionAfter front = 0 := by
    rw [(run.front isFront).mirrors.quantity, holdingOf_quantity]
    exact isFlat_iff (run.clean front isFront)
  constructor
  · intro complete front isFront zero
    have closed := complete front isFront ((position isFront).2 zero)
    rw [(run.front isFront).realizedPnl_eq] at closed
    linarith
  · intro none front isFront flat
    rw [(run.front isFront).realizedPnl_eq, none front isFront ((position isFront).1 flat), add_zero]

end Runs

/-! ### The fills that reach the account -/

namespace TradeLedger

variable {ledger : TradeLedger}

def Accounted (ledger : TradeLedger) : Prop :=
  ledger.toPositionAccount = ledger.trades.foldl PositionAccount.applyFill {}

theorem Accounted.applyOwnedFill (accounted : Accounted ledger) (trade : TradeRecord) :
    Accounted (ledger.applyOwnedFill trade) := by
  have before : ledger.toPositionAccount = ledger.trades.foldl PositionAccount.applyFill {} := accounted
  rw [Accounted, TradeLedger.applyOwnedFill, List.foldl_append, ← before]
  rfl

theorem Accounted.activateBlocker (accounted : Accounted ledger) (kind : TradeLedgerBlockerKind)
    (orderId : Identifiers.BrokerOrderId) : Accounted (ledger.activateBlocker kind orderId) := by
  unfold TradeLedger.activateBlocker
  split <;> exact accounted

theorem Accounted.settlePending (accounted : Accounted ledger) (orderId : Identifiers.BrokerOrderId) (owned : Bool)
    (pending : List TradeRecord) : Accounted (pending.foldl (TradeLedger.settlePending orderId owned) ledger) := by
  induction pending generalizing ledger with
  | nil => exact accounted
  | cons trade pending ih =>
      refine ih ?_
      unfold TradeLedger.settlePending
      cases owned with
      | true => exact accounted.applyOwnedFill _
      | false =>
          refine Accounted.activateBlocker ?_ _ _
          exact accounted

theorem Accounted.apply (accounted : Accounted ledger) (call : LedgerCall) : Accounted (ledger.apply call) := by
  cases call with
  | recordOrder record =>
      refine Accounted.settlePending ?_ _ _ _
      split <;> exact accounted
  | recordFill trade =>
      have marked : Accounted (ledger.markDuplicateIfSeen trade).2 := by
        unfold markDuplicateIfSeen
        dsimp only
        split
        · exact accounted
        · split <;> exact accounted
      unfold TradeLedger.apply recordFill
      dsimp only
      split
      · exact marked
      · split
        · split
          · exact marked.applyOwnedFill _
          · refine Accounted.activateBlocker ?_ _ _
            exact marked
        · refine Accounted.activateBlocker ?_ _ _
          exact marked

end TradeLedger

/-- Whatever calls a ledger took, its account is that of its trades. -/
theorem account_of_trades (calls : List LedgerCall) :
    (ledgerOf calls).toPositionAccount = (ownedFills (ledgerOf calls).trades).toPositionAccount := by
  have accounted : (ledgerOf calls).Accounted := by
    induction calls using List.reverseRecOn with
    | nil => rfl
    | append_singleton calls call ih =>
        rw [ledgerOf, List.foldl_append]
        exact ih.apply call
  rw [ownedFills_eq_foldl]
  exact accounted

def sampleTrade (side : String) (qty price : ℚ) : TradeRecord :=
  { tsUtc := 0, tradeId := none, orderId := ⟨"entry", by decide⟩, symbol := "SBER", side := side, qty := qty
    price := price, commission := 0, owned := true }

def soldInParts : List TradeRecord :=
  [sampleTrade "buy" 2 100, sampleTrade "sell" 1 110, sampleTrade "sell" 1 120]

theorem soldInParts_cleanRun : CleanRun soldInParts := by
  constructor
  · intro trade member
    simp only [soldInParts, List.mem_cons, List.not_mem_nil, or_false] at member
    rcases member with rfl | rfl | rfl
    · exact ⟨by norm_num [sampleTrade], by norm_num [sampleTrade], .inl rfl⟩
    · exact ⟨by norm_num [sampleTrade], by norm_num [sampleTrade], .inr rfl⟩
    · exact ⟨by norm_num [sampleTrade], by norm_num [sampleTrade], .inr rfl⟩
  · intro front isFront
    have all : ∀ front ∈ soldInParts.inits, positionAfter front = 0 ∨ epsilon < |positionAfter front| := by
      with_unfolding_all decide
    exact all front ((List.mem_inits _ _).2 isFront)

theorem closed_profit_of_soldInParts : CleanRun soldInParts ∧
    ((∀ front, front <+: soldInParts → IsFlat (ownedFills front).positionQty →
        (ownedFills front).closedProfit = (ownedFills front).realizedPnl) ↔
      ∀ front, front <+: soldInParts → positionAfter front = 0 →
        partialProfits { quantity := 0, cost := 0 } front = 0) :=
  ⟨soldInParts_cleanRun, closed_profit_complete_iff soldInParts_cleanRun⟩

-- a position of half an epsilon is flat to the ledger, so that its sale is realized and not closed
example : let fills := [sampleTrade "buy" (epsilon / 2) 1, sampleTrade "sell" (epsilon / 2) 2]
    IsFlat (ownedFills fills).positionQty ∧ (ownedFills fills).closedProfit ≠ (ownedFills fills).realizedPnl := by
  with_unfolding_all decide

/-- The profit of the first share sold is in no closed trade. -/
theorem partial_close_profit_is_lost : ¬ ∀ fills : List TradeRecord, (∀ trade ∈ fills, trade.Regular) →
    ∀ front, front <+: fills → IsFlat (ownedFills front).positionQty →
      (ownedFills front).closedProfit = (ownedFills front).realizedPnl := by
  intro complete
  have flat : IsFlat (ownedFills soldInParts).positionQty := by with_unfolding_all decide
  have closed := complete soldInParts soldInParts_cleanRun.regular soldInParts (List.prefix_refl _) flat
  have lost : partialProfits { quantity := 0, cost := 0 } soldInParts = 10 := by with_unfolding_all decide
  rw [soldInParts_cleanRun.realizedPnl_eq, lost] at closed
  linarith

end TradingGateway.BrokerCore
