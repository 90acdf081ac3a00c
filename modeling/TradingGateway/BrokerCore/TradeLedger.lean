import Mathlib.Algebra.Order.Ring.Rat
import TradingGateway.BrokerCore.Identifiers

/-! The trade ledger: fills attributed to orders, and the position and profit they make. -/

set_option autoImplicit false

namespace TradingGateway.BrokerCore

open Identifiers

structure TradeRecord where
  tsUtc : Int
  tradeId : Option BrokerTradeId
  orderId : BrokerOrderId
  symbol : String
  side : String
  qty : ℚ
  price : ℚ
  commission : ℚ
  owned : Bool
deriving DecidableEq

structure OrderRecord where
  orderId : BrokerOrderId
  symbol : String
  side : String
  qty : ℚ
  filled : ℚ
  price : ℚ
  status : String
  tsUtc : Int
  owned : Bool
deriving DecidableEq

structure ClosedTradeRecord where
  entryTsUtc : Int
  exitTsUtc : Int
  symbol : String
  side : String
  qty : ℚ
  entryPrice : ℚ
  exitPrice : ℚ
  commissionTotal : ℚ
  pnlGross : ℚ
  pnlNet : ℚ
deriving DecidableEq

inductive TradeLedgerBlockerKind where
  | pendingExactBrokerOrderMatch
  | observedOrderNotStrategyOwned
deriving DecidableEq

structure TradeLedgerBlocker where
  kind : TradeLedgerBlockerKind
  orderId : BrokerOrderId
deriving DecidableEq

inductive TradeLedgerFillDisposition where
  | strategyAttributed
  | observedOnly
  | pendingExactBrokerOrderMatch
  | duplicateIdempotent
deriving DecidableEq

structure TradeLedgerFillApplyOutcome where
  orderId : BrokerOrderId
  disposition : TradeLedgerFillDisposition

structure TradeLedgerOrderApplyOutcome where
  orderId : BrokerOrderId
  adoptedPendingStrategyTrades : Nat
  observedPendingTrades : Nat

structure TradeLedgerTradeKey where
  tradeId : BrokerTradeId
  orderId : BrokerOrderId
deriving DecidableEq

/-- The fields of the ledger that `apply_fill` reads and writes; amounts are exact rationals. -/
structure PositionAccount where
  closedTrades : List ClosedTradeRecord := []
  realizedPnl : ℚ := 0
  positionQty : ℚ := 0
  positionCost : ℚ := 0
  entryTsUtc : Option Int := none
  entryPrice : ℚ := 0
  entrySide : Option String := none
  entrySymbol : Option String := none
  openCommissionTotal : ℚ := 0

structure TradeLedger extends PositionAccount where
  orders : BrokerOrderId → Option OrderRecord := fun _ => none
  trades : List TradeRecord := []
  observedTrades : List TradeRecord := []
  pendingTradesByOrderId : BrokerOrderId → Option (List TradeRecord) := fun _ => none
  activeBlockers : List TradeLedgerBlocker := []
  blockerHistory : List TradeLedgerBlocker := []
  seenTradeKeys : List TradeLedgerTradeKey := []

namespace PositionAccount

/-- `f64::EPSILON`. -/
def epsilon : ℚ := 1 / 2 ^ 52

def signum (value : ℚ) : ℚ :=
  if 0 ≤ value then 1 else -1

def IsFlat (qty : ℚ) : Prop :=
  |qty| ≤ epsilon

instance (qty : ℚ) : Decidable (IsFlat qty) :=
  inferInstanceAs (Decidable (_ ≤ _))

def averagePrice (account : PositionAccount) : ℚ :=
  if IsFlat account.positionQty then 0 else account.positionCost / account.positionQty

/-- The `"buy"` arm of `apply_fill`. -/
def buy (account : PositionAccount) (qty price : ℚ) : PositionAccount :=
  if account.positionQty < 0 then
    let avgPrice := account.averagePrice
    let coverQty := min qty |account.positionQty|
    let remaining := qty - coverQty
    let covered := { account with
      realizedPnl := account.realizedPnl + (avgPrice - price) * coverQty
      positionQty := account.positionQty + coverQty
      positionCost := account.positionCost + avgPrice * coverQty }
    if 0 < remaining then
      { covered with
        positionQty := covered.positionQty + remaining
        positionCost := covered.positionCost + remaining * price }
    else covered
  else
    { account with
      positionQty := account.positionQty + qty
      positionCost := account.positionCost + qty * price }

/-- The `"sell"` arm of `apply_fill`. -/
def sell (account : PositionAccount) (qty price : ℚ) : PositionAccount :=
  if 0 < account.positionQty then
    let avgPrice := account.averagePrice
    let closeQty := min qty account.positionQty
    let remaining := qty - closeQty
    let closed := { account with
      realizedPnl := account.realizedPnl + (price - avgPrice) * closeQty
      positionQty := account.positionQty - closeQty
      positionCost := account.positionCost - avgPrice * closeQty }
    if 0 < remaining then
      { closed with
        positionQty := closed.positionQty - remaining
        positionCost := closed.positionCost - remaining * price }
    else closed
  else
    { account with
      positionQty := account.positionQty - qty
      positionCost := account.positionCost - qty * price }

/-- The side match at the head of `apply_fill`; a fill of any other side moves nothing. -/
def move (account : PositionAccount) (side : String) (qty price : ℚ) : PositionAccount :=
  if side = "buy" then account.buy qty price
  else if side = "sell" then account.sell qty price
  else account

def sideOf (qty : ℚ) : String :=
  if 0 < qty then "buy" else "sell"

/-- The round trip that ends where the position is gone or has changed its side. -/
def closedTrade (before : PositionAccount) (trade : TradeRecord) (flipped : Bool) (closeRatio : ℚ) :
    ClosedTradeRecord :=
  let entryPrice := if 0 < before.entryPrice then before.entryPrice else |before.averagePrice|
  let entrySide := before.entrySide.getD (sideOf before.positionQty)
  let closeQty := |before.positionQty|
  let pnlGross :=
    if entrySide = "buy" then (trade.price - entryPrice) * closeQty
    else (entryPrice - trade.price) * closeQty
  let commissionTotal :=
    if flipped then before.openCommissionTotal + trade.commission * closeRatio
    else before.openCommissionTotal + trade.commission
  { entryTsUtc := before.entryTsUtc.getD trade.tsUtc
    exitTsUtc := trade.tsUtc
    symbol := before.entrySymbol.getD trade.symbol
    side := entrySide
    qty := closeQty
    entryPrice := entryPrice
    exitPrice := trade.price
    commissionTotal := commissionTotal
    pnlGross := pnlGross
    pnlNet := pnlGross - commissionTotal }

def openAt (account : PositionAccount) (trade : TradeRecord) (side : String) (commission : ℚ) : PositionAccount :=
  { account with
    entryTsUtc := some trade.tsUtc
    entrySide := some side
    entrySymbol := some trade.symbol
    entryPrice := |account.averagePrice|
    openCommissionTotal := commission }

def applyFill (before : PositionAccount) (trade : TradeRecord) : PositionAccount :=
  let after := before.move trade.side trade.qty trade.price
  let isFlat := decide (IsFlat after.positionQty)
  let wasFlat := decide (IsFlat before.positionQty)
  let flipped := !wasFlat && !isFlat && decide (signum before.positionQty ≠ signum after.positionQty)
  let closeRatio :=
    if flipped = true ∧ 0 < trade.qty then min (|before.positionQty| / trade.qty) 1 else 1
  if !wasFlat && (isFlat || flipped) then
    let closed := before.closedTrade trade flipped closeRatio
    let reset := { after with
      closedTrades :=
        if 0 < closed.entryPrice then after.closedTrades ++ [closed] else after.closedTrades
      entryTsUtc := none
      entrySide := none
      entrySymbol := none
      entryPrice := 0
      openCommissionTotal := 0 }
    if flipped then
      reset.openAt trade (sideOf after.positionQty) (trade.commission * (1 - closeRatio))
    else reset
  else if wasFlat && !isFlat then
    after.openAt trade trade.side trade.commission
  else if !isFlat then
    { after with
      entryPrice := |after.averagePrice|
      openCommissionTotal := after.openCommissionTotal + trade.commission }
  else after

end PositionAccount

namespace TradeLedger

def applyOwnedFill (ledger : TradeLedger) (trade : TradeRecord) : TradeLedger :=
  { ledger with
    toPositionAccount := ledger.toPositionAccount.applyFill trade
    trades := ledger.trades ++ [trade] }

def markDuplicateIfSeen (ledger : TradeLedger) (trade : TradeRecord) : Bool × TradeLedger :=
  match trade.tradeId with
  | none => (false, ledger)
  | some tradeId =>
      let key : TradeLedgerTradeKey := { tradeId := tradeId, orderId := trade.orderId }
      if key ∈ ledger.seenTradeKeys then (true, ledger)
      else (false, { ledger with seenTradeKeys := key :: ledger.seenTradeKeys })

def activateBlocker (ledger : TradeLedger) (kind : TradeLedgerBlockerKind) (orderId : BrokerOrderId) : TradeLedger :=
  if ledger.activeBlockers.any fun blocker => decide (blocker.kind = kind ∧ blocker.orderId = orderId) then
    ledger
  else
    let blocker : TradeLedgerBlocker := { kind := kind, orderId := orderId }
    { ledger with
      activeBlockers := ledger.activeBlockers ++ [blocker]
      blockerHistory := ledger.blockerHistory ++ [blocker] }

def resolveActiveBlocker (ledger : TradeLedger) (kind : TradeLedgerBlockerKind) (orderId : BrokerOrderId) :
    TradeLedger :=
  { ledger with
    activeBlockers := ledger.activeBlockers.filter fun blocker =>
      !decide (blocker.kind = kind ∧ blocker.orderId = orderId) }

def observe (ledger : TradeLedger) (orderId : BrokerOrderId) (trade : TradeRecord) : TradeLedger :=
  { ledger with observedTrades := ledger.observedTrades ++ [trade] }.activateBlocker
    .observedOrderNotStrategyOwned orderId

/-- One turn of the loop over the trades that waited for their order. -/
def settlePending (orderId : BrokerOrderId) (owned : Bool) (ledger : TradeLedger) (trade : TradeRecord) :
    TradeLedger :=
  let trade := { trade with owned := owned }
  if owned then ledger.applyOwnedFill trade else ledger.observe orderId trade

def recordOrder (ledger : TradeLedger) (record : OrderRecord) : TradeLedger × TradeLedgerOrderApplyOutcome :=
  let orderId := record.orderId
  let pending := (ledger.pendingTradesByOrderId orderId).getD []
  let taken := { ledger with
    orders := Function.update ledger.orders orderId (some record)
    pendingTradesByOrderId := Function.update ledger.pendingTradesByOrderId orderId none }
  let resolved :=
    if pending = [] then taken
    else taken.resolveActiveBlocker .pendingExactBrokerOrderMatch orderId
  (pending.foldl (settlePending orderId record.owned) resolved,
    { orderId := orderId
      adoptedPendingStrategyTrades := if record.owned then pending.length else 0
      observedPendingTrades := if record.owned then 0 else pending.length })

def recordFill (ledger : TradeLedger) (trade : TradeRecord) : TradeLedger × TradeLedgerFillApplyOutcome :=
  let orderId := trade.orderId
  let (duplicate, ledger) := ledger.markDuplicateIfSeen trade
  if duplicate then
    (ledger, { orderId := orderId, disposition := .duplicateIdempotent })
  else
    match ledger.orders orderId with
    | some order =>
        if order.owned then
          (ledger.applyOwnedFill { trade with owned := true },
            { orderId := orderId, disposition := .strategyAttributed })
        else
          (ledger.observe orderId { trade with owned := false },
            { orderId := orderId, disposition := .observedOnly })
    | none =>
        let pending := (ledger.pendingTradesByOrderId orderId).getD []
        ({ ledger with
            pendingTradesByOrderId :=
              Function.update ledger.pendingTradesByOrderId orderId (some (pending ++ [trade])) }.activateBlocker
              .pendingExactBrokerOrderMatch orderId,
          { orderId := orderId, disposition := .pendingExactBrokerOrderMatch })

def pendingTrades (ledger : TradeLedger) (orderId : BrokerOrderId) : Option (List TradeRecord) :=
  ledger.pendingTradesByOrderId orderId

end TradeLedger

inductive LedgerCall where
  | recordOrder (record : OrderRecord)
  | recordFill (trade : TradeRecord)
deriving DecidableEq

def TradeLedger.apply (ledger : TradeLedger) : LedgerCall → TradeLedger
  | .recordOrder record => (ledger.recordOrder record).1
  | .recordFill trade => (ledger.recordFill trade).1

def ledgerOf (calls : List LedgerCall) : TradeLedger :=
  calls.foldl TradeLedger.apply {}

end TradingGateway.BrokerCore
