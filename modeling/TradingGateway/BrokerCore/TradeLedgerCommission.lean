import TradingGateway.BrokerCore.TradeLedgerProfit

/-! The commissions of the fills, in the closed trades and in the open position. A
fill that the ledger sees neither open nor close a position leaves its commission
nowhere, and so does a round trip without an entry price. -/

set_option autoImplicit false

namespace TradingGateway.BrokerCore

open Foundation.AverageCost PositionAccount

namespace PositionAccount

variable {account before : PositionAccount} {trade : TradeRecord}

def closedCommission (account : PositionAccount) : ℚ :=
  (account.closedTrades.map (·.commissionTotal)).sum

/-- Whether a round trip that ended now would have an entry price, and so be recorded. -/
def HasEntryPrice (account : PositionAccount) : Prop :=
  0 < account.entryPrice ∨ account.averagePrice ≠ 0

instance (account : PositionAccount) : Decidable account.HasEntryPrice :=
  inferInstanceAs (Decidable (_ ∨ _))

theorem closedTrade_entryPrice_pos_iff (flipped : Bool) (closeRatio : ℚ) :
    0 < (before.closedTrade trade flipped closeRatio).entryPrice ↔ before.HasEntryPrice := by
  unfold closedTrade HasEntryPrice
  dsimp only
  split
  next priced => exact iff_of_true priced (.inl priced)
  next unpriced => rw [abs_pos, or_iff_right unpriced]

/-- The commission that a fill leaves neither in the closed trades nor in the open position: its own
where it finds the position flat and leaves it so, and that of a round trip that is not recorded. -/
def unrecorded (before : PositionAccount) (trade : TradeRecord) : ℚ :=
  let after := before.applyFill trade
  if IsFlat before.positionQty then
    if IsFlat after.positionQty then trade.commission else 0
  else if before.HasEntryPrice then 0
  else before.openCommissionTotal + trade.commission - after.openCommissionTotal

theorem move_openCommissionTotal (account : PositionAccount) (side : String) (qty price : ℚ) :
    (account.move side qty price).openCommissionTotal = account.openCommissionTotal := by
  unfold move buy sell
  dsimp only
  split_ifs <;> rfl

def FlatUnpaid (account : PositionAccount) : Prop :=
  IsFlat account.positionQty → account.openCommissionTotal = 0

structure CommissionSplit (before : PositionAccount) (trade : TradeRecord) : Prop where
  total : (before.applyFill trade).closedCommission + (before.applyFill trade).openCommissionTotal +
    before.unrecorded trade = before.closedCommission + before.openCommissionTotal + trade.commission
  flatUnpaid : (before.applyFill trade).FlatUnpaid

theorem applyFill_flat_iff (before : PositionAccount) (trade : TradeRecord) :
    IsFlat (before.applyFill trade).positionQty ↔
      IsFlat (before.move trade.side trade.qty trade.price).positionQty := by
  rw [(applyFill_moves before trade).1]

section Endings

variable {after : PositionAccount} (moved : before.move trade.side trade.qty trade.price = after)
include moved

theorem commissionSplit_of_flat (wasFlat : IsFlat before.positionQty) (unpaid : before.FlatUnpaid) :
    CommissionSplit before trade := by
  have kept := move_entry before trade.side trade.qty trade.price
  have paid := move_openCommissionTotal before trade.side trade.qty trade.price
  rw [moved] at kept paid
  have nothing := unpaid wasFlat
  have flat := applyFill_flat_iff before trade
  rw [moved] at flat
  by_cases isFlat : IsFlat after.positionQty
  · have stays : before.applyFill trade = after := by
      simp [applyFill, moved, wasFlat, isFlat]
    constructor
    · rw [unrecorded, if_pos wasFlat, if_pos (flat.2 isFlat), stays, closedCommission, kept.closedTrades, paid]
      rfl
    · intro _
      rw [stays, paid, nothing]
  · have opened : before.applyFill trade = after.openAt trade trade.side trade.commission := by
      simp [applyFill, moved, wasFlat, isFlat]
    constructor
    · rw [unrecorded, if_pos wasFlat, if_neg (fun still => isFlat (flat.1 still)), opened, nothing, closedCommission,
        openAt, kept.closedTrades, closedCommission]
      ring
    · intro still
      exact absurd (flat.1 still) isFlat

/-- The closed trades after a round trip has ended. -/
theorem closedCommission_recorded (closed : ClosedTradeRecord) (recorded : 0 < closed.entryPrice ↔ before.HasEntryPrice)
    {final : PositionAccount} (trades : final.closedTrades =
      if 0 < closed.entryPrice then after.closedTrades ++ [closed] else after.closedTrades) :
    final.closedCommission = before.closedCommission + if before.HasEntryPrice then closed.commissionTotal else 0 := by
  have kept := (move_entry before trade.side trade.qty trade.price).closedTrades
  rw [moved] at kept
  unfold closedCommission
  rw [trades, kept]
  by_cases priced : before.HasEntryPrice
  · rw [if_pos (recorded.2 priced), if_pos priced, List.map_append, List.sum_append, List.map_singleton,
      List.sum_singleton]
  · rw [if_neg (fun positive => priced (recorded.1 positive)), if_neg priced, add_zero]

theorem commissionSplit_of_closed (wasHeld : ¬ IsFlat before.positionQty) (isFlat : IsFlat after.positionQty) :
    CommissionSplit before trade := by
  have trades : (before.applyFill trade).closedTrades =
      if 0 < (before.closedTrade trade false 1).entryPrice then after.closedTrades ++ [before.closedTrade trade false 1]
      else after.closedTrades := by
    simp [applyFill, moved, wasHeld, isFlat]
  have left : (before.applyFill trade).openCommissionTotal = 0 := by
    simp [applyFill, moved, wasHeld, isFlat]
  constructor
  · rw [closedCommission_recorded moved _ (closedTrade_entryPrice_pos_iff false 1) trades, unrecorded, if_neg wasHeld,
      left]
    split
    · simp only [closedTrade, Bool.false_eq_true, if_false]
      ring
    · ring
  · intro _
    exact left

theorem commissionSplit_of_flipped (wasHeld : ¬ IsFlat before.positionQty) (isHeld : ¬ IsFlat after.positionQty)
    (other : signum before.positionQty ≠ signum after.positionQty) : CommissionSplit before trade := by
  have flat := applyFill_flat_iff before trade
  rw [moved] at flat
  obtain ⟨closeRatio, trades, left⟩ : ∃ closeRatio, (before.applyFill trade).closedTrades =
      (if 0 < (before.closedTrade trade true closeRatio).entryPrice then
        after.closedTrades ++ [before.closedTrade trade true closeRatio] else after.closedTrades) ∧
      (before.applyFill trade).openCommissionTotal = trade.commission * (1 - closeRatio) := by
    refine ⟨if 0 < trade.qty then min (|before.positionQty| / trade.qty) 1 else 1, ?_⟩
    simp [applyFill, openAt, moved, wasHeld, isHeld, other]
  constructor
  · rw [closedCommission_recorded moved _ (closedTrade_entryPrice_pos_iff true closeRatio) trades, unrecorded,
      if_neg wasHeld, left]
    split
    · simp only [closedTrade, if_true]
      ring
    · ring
  · intro still
    exact absurd (flat.1 still) isHeld

theorem commissionSplit_of_kept (wasHeld : ¬ IsFlat before.positionQty) (isHeld : ¬ IsFlat after.positionQty)
    (same : signum before.positionQty = signum after.positionQty) : CommissionSplit before trade := by
  have kept := move_entry before trade.side trade.qty trade.price
  have paid := move_openCommissionTotal before trade.side trade.qty trade.price
  rw [moved] at kept paid
  have flat := applyFill_flat_iff before trade
  rw [moved] at flat
  have trades : (before.applyFill trade).closedTrades = before.closedTrades := by
    rw [← kept.closedTrades]
    simp [applyFill, moved, wasHeld, isHeld, same]
  have grown : (before.applyFill trade).openCommissionTotal = before.openCommissionTotal + trade.commission := by
    rw [← paid]
    simp [applyFill, moved, wasHeld, isHeld, same]
  constructor
  · rw [closedCommission, trades, grown, unrecorded, if_neg wasHeld, grown, closedCommission]
    split <;> ring
  · intro still
    exact absurd (flat.1 still) isHeld

end Endings

/-- Whatever a fill does to the position, its commission is split. -/
theorem commissionSplit (unpaid : before.FlatUnpaid) (trade : TradeRecord) : CommissionSplit before trade := by
  by_cases wasFlat : IsFlat before.positionQty
  · exact commissionSplit_of_flat rfl wasFlat unpaid
  by_cases isFlat : IsFlat (before.move trade.side trade.qty trade.price).positionQty
  · exact commissionSplit_of_closed rfl wasFlat isFlat
  by_cases same : signum before.positionQty = signum (before.move trade.side trade.qty trade.price).positionQty
  · exact commissionSplit_of_kept rfl wasFlat isFlat same
  · exact commissionSplit_of_flipped rfl wasFlat isFlat same

end PositionAccount

def unrecordedCommission (account : PositionAccount) : List TradeRecord → ℚ
  | [] => 0
  | trade :: fills => account.unrecorded trade + unrecordedCommission (account.applyFill trade) fills

section Runs

variable {fills : List TradeRecord} {trade : TradeRecord}

theorem unrecordedCommission_concat (account : PositionAccount) (fills : List TradeRecord) (trade : TradeRecord) :
    unrecordedCommission account (fills ++ [trade]) =
      unrecordedCommission account fills + (fills.foldl PositionAccount.applyFill account).unrecorded trade := by
  induction fills generalizing account with
  | nil => simp [unrecordedCommission]
  | cons first fills ih =>
      rw [List.cons_append, unrecordedCommission, ih, unrecordedCommission, List.foldl_cons]
      ring

/-- Over any sequence of fills the commissions are in the closed trades, in the open position or
unrecorded, and a flat position has none. -/
theorem ownedFills_commission (fills : List TradeRecord) :
    (ownedFills fills).closedCommission + (ownedFills fills).openCommissionTotal +
        unrecordedCommission {} fills = (fills.map (·.commission)).sum ∧
      (ownedFills fills).FlatUnpaid := by
  induction fills using List.reverseRecOn with
  | nil => exact ⟨by simp [ownedFills, closedCommission, unrecordedCommission], fun _ => rfl⟩
  | append_singleton fills trade ih =>
      obtain ⟨total, unpaid⟩ := ih
      obtain ⟨split, stillUnpaid⟩ := commissionSplit unpaid trade
      rw [ownedFills_account]
      refine ⟨?_, stillUnpaid⟩
      rw [unrecordedCommission_concat, ← ownedFills_eq_foldl, List.map_append, List.sum_append, List.map_singleton,
        List.sum_singleton, ← total]
      linear_combination split

/-- Where no position is too small for the ledger to see, every commission is recorded. -/
theorem CleanRun.unrecordedCommission (run : CleanRun fills) : unrecordedCommission {} fills = 0 := by
  induction fills using List.reverseRecOn with
  | nil => rfl
  | append_singleton fills trade ih =>
      have isFront : fills <+: fills ++ [trade] := List.prefix_append _ _
      have mirrors := (run.front isFront).mirrors
      have next := run.mirrors
      have regular := run.regular trade (List.mem_append_right _ (List.mem_singleton_self _))
      rw [unrecordedCommission_concat, ih (run.front isFront), ← ownedFills_eq_foldl, zero_add]
      have clean : Clean (ownedFills fills).positionQty := by
        rw [mirrors.quantity, holdingOf_quantity]
        exact run.clean fills isFront
      have cleanNext : Clean ((ownedFills fills).applyFill trade).positionQty := by
        rw [← ownedFills_account, next.quantity, holdingOf_quantity]
        exact run.clean _ (List.prefix_refl _)
      have moves : ((ownedFills fills).applyFill trade).positionQty =
          (ownedFills fills).positionQty + trade.amount := by
        rw [← ownedFills_account, next.quantity, holdingOf_concat, Holding.trade_quantity, mirrors.quantity]
      unfold unrecorded
      dsimp only
      by_cases held : (ownedFills fills).positionQty = 0
      · have nextHeld : ¬ IsFlat ((ownedFills fills).applyFill trade).positionQty := by
          rw [isFlat_iff cleanNext, moves, held, zero_add]
          exact regular.amount_ne
        rw [if_pos ((isFlat_iff clean).2 held), if_neg nextHeld]
      · have quantity : (holdingOf fills).quantity ≠ 0 := mirrors.quantity ▸ held
        have priced : (ownedFills fills).HasEntryPrice := by
          refine .inl ?_
          rw [mirrors.entryPrice quantity]
          exact mirrors.sound.worth quantity
        rw [if_neg (fun flat => held ((isFlat_iff clean).1 flat)), if_pos priced]

/-- The commissions of regular fills are those of the closed trades, of the open position and of what
the ledger leaves unrecorded, which is nothing where no position is too small for it to see; and a
flat position has none. -/
theorem commission_accounted (regular : ∀ trade ∈ fills, trade.Regular) :
    (ownedFills fills).closedCommission + (ownedFills fills).openCommissionTotal +
        unrecordedCommission {} fills = (fills.map (·.commission)).sum ∧
      (IsFlat (ownedFills fills).positionQty → (ownedFills fills).openCommissionTotal = 0) ∧
      ((∀ front, front <+: fills → Clean (positionAfter front)) → unrecordedCommission {} fills = 0) := by
  obtain ⟨total, unpaid⟩ := ownedFills_commission fills
  exact ⟨total, unpaid, fun clean => CleanRun.unrecordedCommission { regular := regular, clean := clean }⟩

theorem commission_accounted_soldInParts :
    (ownedFills soldInParts).closedCommission + (ownedFills soldInParts).openCommissionTotal +
        unrecordedCommission {} soldInParts = (soldInParts.map (·.commission)).sum ∧
      (IsFlat (ownedFills soldInParts).positionQty → (ownedFills soldInParts).openCommissionTotal = 0) ∧
      ((∀ front, front <+: soldInParts → Clean (positionAfter front)) → unrecordedCommission {} soldInParts = 0) :=
  commission_accounted soldInParts_cleanRun.regular

end Runs

def dustBought : TradeRecord :=
  { sampleTrade "buy" (epsilon / 2) 1 with commission := 1 }

/-- The position is flat before and after it, and its commission is nowhere. -/
theorem dust_commission_is_unrecorded :
    ¬ ∀ fills : List TradeRecord, (∀ trade ∈ fills, trade.Regular) →
      (ownedFills fills).closedCommission + (ownedFills fills).openCommissionTotal =
        (fills.map (·.commission)).sum := by
  intro conserved
  have regular : ∀ trade ∈ [dustBought], trade.Regular := by
    intro trade member
    rw [List.mem_singleton.1 member]
    exact ⟨by norm_num [dustBought, sampleTrade, epsilon], by norm_num [dustBought, sampleTrade], .inl rfl⟩
  have lost : (ownedFills [dustBought]).closedCommission + (ownedFills [dustBought]).openCommissionTotal ≠
      ([dustBought].map (·.commission)).sum := by
    with_unfolding_all decide
  exact lost (conserved _ regular)

end TradingGateway.BrokerCore
